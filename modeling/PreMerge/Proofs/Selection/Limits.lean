import Mathlib.Algebra.GroupWithZero.Nat
import PreMerge.Proofs.Selection.Collected
import PreMerge.Proofs.Selection.Descent
import PreMerge.Proofs.Selection.Extent

/-! Where a selection stops: at its limit, at the end of the walk, or at the first directory that cannot be listed. Of a
tree that stays as it is a selection gives the same files whatever the sizes of the batches (`pulls_unchanged`), and
it asks for nothing beyond its limit. To collect the candidates is to pull as many and to look for one more
(`collect_eq_look_ahead`), so a fault right behind the last of them is met there, and not by the selection. -/

namespace PreMerge

/-- How a batch shows that there are no more files, where `fault` is why the walk ended early. -/
def Stop.ofFault? : Option Fault → Stop
  | none => .ended
  | some fault => .failed fault

/-- The fault that a batch was stopped by. -/
def Batch.fault? (batch : Batch) : Option Fault :=
  match batch.stop with
  | some (.failed fault) => some fault
  | _ => none

namespace Selector

variable {selector : Selector} {tree : FileTree}

/-- What a selection still gives of a tree that stays as it is, and the fault that ends it early. -/
def rest (selector : Selector) (tree : FileTree) : Selection → List String × Option Fault
  | ⟨_, none⟩ => ([], none)
  | ⟨left, some walk⟩ =>
    if (selector.trace tree walk).1.length < left then selector.trace tree walk
    else ((selector.trace tree walk).1.take left, none)

theorem rest_of_none (left : Nat) : selector.rest tree ⟨left, none⟩ = ([], none) :=
  rfl

theorem rest_of_zero (walk : Option Walk) : selector.rest tree ⟨0, walk⟩ = ([], none) := by
  cases walk with
  | none => rfl
  | some walk => simp [rest]

theorem rest_of_found {walk later : Walk} {file : String} (hpull : selector.pull tree walk = .found file later)
    (left : Nat) : selector.rest tree ⟨left + 1, some walk⟩ =
      (file :: (selector.rest tree ⟨left, some later⟩).1, (selector.rest tree ⟨left, some later⟩).2) := by
  have htrace := selector.trace_eq_pull tree walk
  rw [hpull] at htrace
  rw [rest, rest, htrace]
  simp only [List.length_cons, Nat.add_lt_add_iff_right, List.take_succ_cons]
  split <;> rfl

theorem rest_of_failed {walk : Walk} {fault : Fault} (hpull : selector.pull tree walk = .failed fault) (left : Nat) :
    selector.rest tree ⟨left + 1, some walk⟩ = ([], some fault) := by
  have htrace := selector.trace_eq_pull tree walk
  rw [hpull] at htrace
  simp [rest, htrace]

theorem rest_of_ended {walk : Walk} (hpull : selector.pull tree walk = .ended) (left : Nat) :
    selector.rest tree ⟨left + 1, some walk⟩ = ([], none) := by
  have htrace := selector.trace_eq_pull tree walk
  rw [hpull] at htrace
  simp [rest, htrace]

/-- A batch holds the next files. If they are fewer than asked for, it says why, and nothing is left. -/
theorem take_unchanged (selector : Selector) (tree : FileTree) (count : Nat) (selection : Selection) :
    (selector.take tree count selection).files = (selector.rest tree selection).1.take count ∧
    (selector.take tree count selection).stop = (if count ≤ (selector.rest tree selection).1.length then none
      else some (.ofFault? (selector.rest tree selection).2)) ∧
    selector.rest tree (selector.take tree count selection).selection =
      if count ≤ (selector.rest tree selection).1.length then
        ((selector.rest tree selection).1.drop count, (selector.rest tree selection).2)
      else ([], none) := by
  fun_induction take selector tree count selection with
  | case1 selection => simp
  | case2 count walk => simp [rest_of_zero, Stop.ofFault?]
  | case3 count left => simp [rest_of_none, Stop.ofFault?]
  | case4 count left walk file later hpull batch ih =>
      obtain ⟨hfiles, hstop, hrest⟩ := ih
      rw [rest_of_found hpull]
      simp only [Nat.succ_eq_add_one, List.length_cons, Nat.add_le_add_iff_right, List.take_succ_cons,
        List.drop_succ_cons]
      exact ⟨by rw [hfiles], hstop, hrest⟩
  | case5 count left walk fault hpull => simp [rest_of_failed hpull, rest_of_none, Stop.ofFault?]
  | case6 count left walk hpull => simp [rest_of_ended hpull, rest_of_none, Stop.ofFault?]

theorem fault?_take (selector : Selector) (tree : FileTree) (count : Nat) (selection : Selection) :
    (selector.take tree count selection).fault? =
      if count ≤ (selector.rest tree selection).1.length then none else (selector.rest tree selection).2 := by
  rw [Batch.fault?, (take_unchanged selector tree count selection).2.1]
  by_cases hcount : count ≤ (selector.rest tree selection).1.length
  · rw [if_pos hcount, if_pos hcount]
  · rw [if_neg hcount, if_neg hcount]
    cases (selector.rest tree selection).2 <;> rfl

/-- However the pulls are cut into batches, they give the same files, and one batch is stopped by the fault if more is
asked for than there is before it. -/
theorem pulls_unchanged (selector : Selector) (tree : FileTree) (chunks : List Nat) (selection : Selection) :
    selector.pulled (chunks.map (tree, ·)) selection = (selector.rest tree selection).1.take chunks.sum ∧
    (selector.pulls (chunks.map (tree, ·)) selection).filterMap Batch.fault? =
      if (selector.rest tree selection).1.length < chunks.sum then (selector.rest tree selection).2.toList
      else [] := by
  induction chunks generalizing selection with
  | nil => simp [pulled, pulls]
  | cons count chunks ih =>
      obtain ⟨hfiles, -, hrest⟩ := take_unchanged selector tree count selection
      have hfault := fault?_take selector tree count selection
      obtain ⟨hpulled, hfaults⟩ := ih (selector.take tree count selection).selection
      rw [hrest] at hpulled hfaults
      rw [List.map_cons, List.sum_cons, pulled, pulls, List.flatMap_cons, ← pulled, hpulled, hfiles]
      by_cases hcount : count ≤ (selector.rest tree selection).1.length
      · rw [if_pos hcount] at hfault hpulled hfaults
        rw [List.filterMap_cons_none hfault, hfaults, if_pos hcount, List.length_drop, ← List.take_add]
        have hmore : (selector.rest tree selection).1.length - count < chunks.sum ↔
            (selector.rest tree selection).1.length < count + chunks.sum := by
          omega
        exact ⟨rfl, if_congr hmore rfl rfl⟩
      · rw [if_neg hcount] at hfault hpulled hfaults
        rw [if_neg hcount, List.take_nil, List.append_nil, List.take_of_length_le (by omega),
          List.take_of_length_le (by omega), if_pos (by omega)]
        refine ⟨rfl, ?_⟩
        cases hstop : (selector.rest tree selection).2 with
        | none =>
            rw [hstop] at hfault
            rw [List.filterMap_cons_none hfault, hfaults]
            simp
        | some fault =>
            rw [hstop] at hfault
            rw [List.filterMap_cons_some hfault, hfaults]
            simp

/-- Files pulled one after the other from a walk, at most so many, and what the pull behind them gives. -/
def lookAhead (selector : Selector) (tree : FileTree) : Nat → Walk → List String × Pulled
  | 0, walk => ([], selector.pull tree walk)
  | count + 1, walk =>
    match selector.pull tree walk with
    | .found file later =>
      (file :: (selector.lookAhead tree count later).1, (selector.lookAhead tree count later).2)
    | stop => ([], stop)

/-- What is behind the files shows how the walk goes on. -/
theorem lookAhead_cases (selector : Selector) (tree : FileTree) (count : Nat) (walk : Walk) :
    (selector.lookAhead tree count walk).1 = (selector.trace tree walk).1.take count ∧
    ((∃ file later, (selector.lookAhead tree count walk).2 = .found file later ∧
        count < (selector.trace tree walk).1.length) ∨
      (∃ fault, (selector.lookAhead tree count walk).2 = .failed fault ∧
        (selector.trace tree walk).2 = some fault ∧ (selector.trace tree walk).1.length ≤ count) ∨
      ((selector.lookAhead tree count walk).2 = .ended ∧ (selector.trace tree walk).2 = none ∧
        (selector.trace tree walk).1.length ≤ count)) := by
  fun_induction lookAhead selector tree count walk with
  | case1 walk =>
      rw [trace_eq_pull]
      cases selector.pull tree walk with
      | found file later => exact ⟨rfl, .inl ⟨file, later, rfl, Nat.succ_pos _⟩⟩
      | failed fault => exact ⟨rfl, .inr (.inl ⟨fault, rfl, rfl, Nat.le_refl 0⟩)⟩
      | ended => exact ⟨rfl, .inr (.inr ⟨rfl, rfl, Nat.le_refl 0⟩)⟩
  | case2 count walk file later hpull ih =>
      rw [trace_eq_pull, hpull]
      obtain ⟨hfiles, hbehind⟩ := ih
      refine ⟨congrArg (file :: ·) hfiles, ?_⟩
      simpa only [Nat.succ_eq_add_one, List.length_cons, Nat.add_lt_add_iff_right,
        Nat.add_le_add_iff_right] using hbehind
  | case3 count walk hnot =>
      rw [trace_eq_pull]
      cases hpull : selector.pull tree walk with
      | found file later => exact absurd hpull (hnot file later)
      | failed fault => exact ⟨rfl, .inr (.inl ⟨fault, rfl, rfl, Nat.zero_le _⟩)⟩
      | ended => exact ⟨rfl, .inr (.inr ⟨rfl, rfl, Nat.zero_le _⟩)⟩

/-- The candidates are collected by pulling as many as the limit and looking for one more. -/
theorem collect_eq_look_ahead {limit : Nat} (hlimit : selector.countable = .ok limit) (tree : FileTree) :
    selector.collect tree = match selector.lookAhead tree limit .fresh with
      | (files, .found _ _) => .ok (files, [truncated limit])
      | (_, .failed fault) => .error fault
      | (files, .ended) => .ok (files, []) := by
  obtain ⟨hfiles, hbehind⟩ := lookAhead_cases selector tree limit .fresh
  rw [collect, hlimit]
  cases hlook : selector.lookAhead tree limit .fresh with
  | mk files behind =>
      rw [hlook] at hfiles hbehind
      dsimp only at hfiles hbehind ⊢
      rcases hbehind with ⟨file, later, rfl, hmore⟩ | ⟨fault, rfl, hstop, hfew⟩ | ⟨rfl, hend, hfew⟩
      · rw [if_pos hmore, hfiles]
      · rw [if_neg (Nat.not_lt.mpr hfew), hstop]
      · rw [if_neg (Nat.not_lt.mpr hfew), hend, hfiles, List.take_of_length_le hfew]

theorem countable_of_le {limit : Nat} (hlimit : selector.limit = limit) (hsize : (limit : Int) ≤ greatestLimit) :
    selector.countable = .ok limit := by
  rw [countable, hlimit, if_pos ⟨Int.natCast_nonneg limit, hsize⟩, Int.toNat_natCast]

theorem countable_of_gt {limit : Nat} (hlimit : selector.limit = limit) (hsize : greatestLimit < limit) :
    ∃ refusal, refusal.kind = .value ∧ selector.countable = .error refusal := by
  rw [countable, hlimit, if_neg fun h => Int.not_le.mpr hsize h.2]
  exact ⟨_, rfl, rfl⟩

section Yields

variable {files : List String} {stop : Option Fault} {limit : Nat}

theorem rest_of_yields (h : Yields selector tree [[]] files stop) (limit : Nat) :
    selector.rest tree ⟨limit, some .fresh⟩ =
      if files.length < limit then (files, stop) else (files.take limit, none) := by
  rw [rest, Walk.fresh, h.trace_eq]

theorem collect_of_yields (hlimit : selector.countable = .ok limit) (h : Yields selector tree [[]] files stop) :
    (∃ fault, stop = some fault ∧ files.length ≤ limit ∧ selector.collect tree = .error fault) ∨
    (stop = none ∨ limit < files.length) ∧ selector.collect tree =
      .ok (files.take limit, if limit < files.length then [truncated limit] else []) := by
  obtain ⟨hfiles, hbehind⟩ := lookAhead_cases selector tree limit .fresh
  rw [collect_eq_look_ahead hlimit]
  rw [Walk.fresh, h.trace_eq] at hfiles hbehind
  rw [Walk.fresh]
  cases hlook : selector.lookAhead tree limit ⟨[], [[]]⟩ with
  | mk given behind =>
      rw [hlook] at hfiles hbehind
      dsimp only at hfiles hbehind ⊢
      rcases hbehind with ⟨file, later, rfl, hmore⟩ | ⟨fault, rfl, hstop, hfew⟩ | ⟨rfl, hend, hfew⟩
      · rw [hfiles, if_pos hmore]
        exact .inr ⟨.inr hmore, rfl⟩
      · exact .inl ⟨fault, hstop, hfew, rfl⟩
      · rw [hfiles, if_neg (Nat.not_lt.mpr hfew)]
        exact .inr ⟨.inl hend, rfl⟩

/-- Collecting is refused for the fault of the walk if and only if no more files than the limit come before it. -/
theorem collect_eq_error_iff (hlimit : selector.countable = .ok limit) (h : Yields selector tree [[]] files stop)
    {fault : Fault} :
    selector.collect tree = .error fault ↔ stop = some fault ∧ files.length ≤ limit := by
  rcases collect_of_yields hlimit h with ⟨other, rfl, hfew, hcollect⟩ | ⟨hcut, hcollect⟩
  · rw [hcollect, Except.error.injEq, Option.some.injEq, and_iff_left hfew]
  · rw [hcollect]
    refine iff_of_false nofun ?_
    rintro ⟨rfl, hfew⟩
    rcases hcut with hend | hmore
    · cases hend
    · omega

end Yields

/-- The candidates of a tree up to a limit. Let a walk yield some files, and perhaps a fault behind them. Collecting
meets the fault if no more files come before it than the limit, and otherwise gives the first of the files, with a
record if there are more. A selection that is pulled in batches of any sizes gives the same files, and meets the fault
only if fewer files come before it than the limit and one more is asked for; without a limit to speak of it never
looks at a tree. A limit that cannot be counted to is refused at once. -/
theorem candidates_up_to_limit (selector : Selector) {tree : FileTree} (hnamed : tree.WellNamed)
    (hroot : selector.root.hasNull = false) {limit : Nat} (hlimit : selector.limit = limit) :
    ∃ files stop, Yields selector tree [[]] files stop ∧ files.Pairwise Earlier ∧
      (∀ fault, stop = some fault → fault.kind = .system) ∧
      ((limit : Int) ≤ greatestLimit →
        (∀ fault, selector.collect tree = .error fault ↔ stop = some fault ∧ files.length ≤ limit) ∧
        (stop = none ∨ limit < files.length → selector.collect tree =
          .ok (files.take limit, if limit < files.length then [truncated limit] else [])) ∧
        ∃ start, selector.select = .ok start ∧
          (∀ chunks : List Nat,
            selector.pulled (chunks.map (tree, ·)) start = (files.take limit).take chunks.sum ∧
            (selector.pulls (chunks.map (tree, ·)) start).filterMap Batch.fault? =
              if files.length < limit ∧ files.length < chunks.sum then stop.toList else []) ∧
          (limit = 0 → ∀ history, selector.pulls history start =
            history.map fun pull => ⟨[], if pull.2 = 0 then none else some .ended, start⟩)) ∧
      (greatestLimit < limit → ∃ refusal, refusal.kind = .value ∧ selector.select = .error refusal ∧
        selector.collect tree = .error refusal) := by
  obtain ⟨files, stop, hyields⟩ := selector.exists_yields tree .fresh
  have htrace : selector.trace tree .fresh = (files, stop) := hyields.trace_eq
  refine ⟨files, stop, hyields, ?_, ?_, fun hsize => ?_, fun hsize => ?_⟩
  · have hsorted := trace_pairwise hnamed .fresh (Walk.Sound.fresh selector)
    rwa [htrace] at hsorted
  · intro fault hstop
    apply trace_fault_of_root hnamed hroot
    rw [htrace, hstop]
  · have hcountable := countable_of_le hlimit hsize
    refine ⟨fun fault => collect_eq_error_iff hcountable hyields, fun hcut => ?_,
      ⟨limit, some .fresh⟩, select_eq_ok_iff.mpr ⟨limit, hcountable, rfl⟩, fun chunks => ?_, ?_⟩
    · rcases collect_of_yields hcountable hyields with ⟨fault, rfl, hfew, -⟩ | ⟨-, hcollect⟩
      · rcases hcut with hend | hmore
        · cases hend
        · omega
      · exact hcollect
    · obtain ⟨hpulled, hfaults⟩ :=
        pulls_unchanged selector tree chunks ⟨limit, some .fresh⟩
      rw [rest_of_yields hyields limit] at hpulled hfaults
      by_cases hfew : files.length < limit
      · rw [if_pos hfew] at hpulled hfaults
        rw [hpulled, hfaults, List.take_of_length_le (Nat.le_of_lt hfew)]
        exact ⟨rfl, if_congr (and_iff_right hfew).symm rfl rfl⟩
      · rw [if_neg hfew] at hpulled hfaults
        have hnot : ¬ (files.length < limit ∧ files.length < chunks.sum) := fun h => hfew h.1
        rw [hpulled, hfaults, if_neg hnot]
        exact ⟨rfl, ite_self _⟩
    · rintro rfl history
      induction history with
      | nil => rfl
      | cons first history ih =>
          obtain ⟨other, count⟩ := first
          cases count with
          | zero => exact congrArg (_ :: ·) ih
          | succ count => exact congrArg (_ :: ·) ih
  · obtain ⟨refusal, hkind, hrefused⟩ := countable_of_gt hlimit hsize
    refine ⟨refusal, hkind, ?_, ?_⟩
    · rw [select, hrefused]
      rfl
    · rw [collect, hrefused]

/-- A directory that cannot be listed, right behind as many files as the limit: collecting meets it, a selection does
not. -/
theorem candidates_up_to_limit_of_denied :
    let apps : Node := .directory [("a.ts", .ofBytes []), ("web", .directory [("b.ts", .ofBytes [])])]
    let tree : FileTree := ⟨.directory [("apps", apps)], [], Path.isAmong [.ofString "apps/web"]⟩
    let selector : Selector := { root := .ofString ".", limit := 1 }
    tree.WellNamed ∧ selector.root.hasNull = false ∧ selector.limit = (1 : Nat) ∧
    selector.collect tree = .error (Refusal.denied.fault "./apps/web") ∧
    ∃ start, selector.select = .ok start ∧
      selector.pulled [(tree, 1), (tree, 2)] start = ["apps/a.ts"] ∧
      (selector.pulls [(tree, 1), (tree, 2)] start).filterMap Batch.fault? = [] := by
  intro apps tree selector
  have hnamed : tree.WellNamed := by decide +kernel
  have hroot : selector.visit tree [] = .ok ⟨[], ["apps"]⟩ := by decide +kernel
  have happs : selector.visit tree ["apps"] = .ok ⟨["apps/a.ts"], ["web"]⟩ := by decide +kernel
  have hweb : selector.visit tree ["apps", "web"] = .error (Refusal.denied.fault "./apps/web") := by decide +kernel
  have hwalk : Yields selector tree [[]] ["apps/a.ts"] (some (Refusal.denied.fault "./apps/web")) :=
    .broken hroot (.broken happs (.refused hweb))
  obtain ⟨files, stop, hyields, -, -, hcountable, -⟩ :=
    candidates_up_to_limit selector hnamed (by decide +kernel) (rfl : selector.limit = (1 : Nat))
  obtain ⟨rfl, rfl⟩ := hyields.unique hwalk
  obtain ⟨hcollect, -, start, hstart, hpulls, -⟩ := hcountable (by decide)
  obtain ⟨hpulled, hfaults⟩ := hpulls [1, 2]
  exact ⟨hnamed, by decide +kernel, rfl, (hcollect _).mpr ⟨rfl, by decide⟩, start, hstart, hpulled, hfaults⟩

/-- A limit that cannot be counted to is no limit at which a selection stops: there is none. -/
theorem no_candidates_up_to_uncountable_limit :
    let apps : Node := .directory [("a.ts", .ofBytes [])]
    let tree : FileTree := ⟨.directory [("apps", apps)], [], Path.isAmong []⟩
    let selector : Selector := { root := .ofString ".", limit := 0x8000000000000000 }
    tree.WellNamed ∧ selector.root.hasNull = false ∧ 0 ≤ selector.limit ∧
    Yields selector tree [[]] ["apps/a.ts"] none ∧
    selector.collect tree ≠ .ok (["apps/a.ts"].take selector.limit.toNat, []) ∧
    ∀ start, selector.select ≠ .ok start := by
  intro apps tree selector
  have hroot : selector.visit tree [] = .ok ⟨[], ["apps"]⟩ := by decide +kernel
  have happs : selector.visit tree ["apps"] = .ok ⟨["apps/a.ts"], []⟩ := by decide +kernel
  have hlimit : selector.limit = (0x8000000000000000 : Nat) := rfl
  obtain ⟨refusal, -, hrefused⟩ := countable_of_gt hlimit (by decide)
  refine ⟨by decide +kernel, by decide +kernel, by decide, ?_, ?_, fun start => ?_⟩
  · exact .complete hroot (.complete happs .nothing .nothing) .nothing
  · rw [collect, hrefused]
    intro h
    cases h
  · rw [select, hrefused]
    intro h
    cases h

/-- A selection that is asked for more until there is no more gives what is collected, and fails as collecting does. -/
structure Materializes (selector : Selector) (tree : FileTree) (start : Selection) : Prop where
  listed : ∀ paths, (∃ log, selector.collect tree = .ok (paths, log)) ↔
    ∃ count, (selector.take tree count start).stop = some .ended ∧ (selector.take tree count start).files = paths
  failed : ∀ fault, selector.collect tree = .error fault ↔
    ∃ count, (selector.take tree count start).stop = some (.failed fault)

section Exhausted

variable {selection : Selection}

theorem stop_take_eq_some_iff {count : Nat} {why : Stop} :
    (selector.take tree count selection).stop = some why ↔
      (selector.rest tree selection).1.length < count ∧ Stop.ofFault? (selector.rest tree selection).2 = why := by
  rw [(take_unchanged selector tree count selection).2.1]
  by_cases hcount : count ≤ (selector.rest tree selection).1.length
  · rw [if_pos hcount]
    exact iff_of_false nofun fun h => absurd h.1 (Nat.not_lt.mpr hcount)
  · rw [if_neg hcount, Option.some.injEq, and_iff_right (Nat.not_le.mp hcount)]

theorem exists_take_ended_iff {paths : List String} :
    (∃ count, (selector.take tree count selection).stop = some .ended ∧
      (selector.take tree count selection).files = paths) ↔ selector.rest tree selection = (paths, none) := by
  simp only [stop_take_eq_some_iff, (take_unchanged selector tree _ selection).1]
  cases hrest : selector.rest tree selection with
  | mk files stop =>
      dsimp only
      constructor
      · rintro ⟨count, ⟨hcount, hstop⟩, rfl⟩
        rw [List.take_of_length_le (Nat.le_of_lt hcount)]
        cases stop with
        | none => rfl
        | some fault => cases hstop
      · intro h
        obtain ⟨rfl, rfl⟩ := Prod.mk.inj h
        exact ⟨files.length + 1, ⟨Nat.lt_succ_self _, rfl⟩, List.take_of_length_le (Nat.le_succ _)⟩

theorem exists_take_failed_iff {fault : Fault} :
    (∃ count, (selector.take tree count selection).stop = some (.failed fault)) ↔
      (selector.rest tree selection).2 = some fault := by
  simp only [stop_take_eq_some_iff]
  constructor
  · rintro ⟨count, -, hstop⟩
    cases hrest : (selector.rest tree selection).2 with
    | none =>
        rw [hrest] at hstop
        cases hstop
    | some other =>
        rw [hrest] at hstop
        cases hstop
        rfl
  · intro hrest
    rw [hrest]
    exact ⟨_, Nat.lt_succ_self _, rfl⟩

end Exhausted

/-- Collecting gives what the selection gives in the end, unless the walk yields just as many files as the limit and a
fault behind them: that fault is met by looking for one file more. A walk that yields more files is cut off at the limit
both ways. -/
theorem materializes_iff {start : Selection} (hstart : selector.select = .ok start) {files : List String}
    {stop : Option Fault} (h : Yields selector tree [[]] files stop) :
    (selector.Materializes tree start ↔ ¬ (files.length = start.left ∧ stop ≠ none)) ∧
    (start.left < files.length →
      (∃ log, selector.collect tree = .ok (files.take start.left, log)) ∧
      ∃ count, (selector.take tree count start).stop = some .ended ∧
        (selector.take tree count start).files = files.take start.left) := by
  obtain ⟨limit, hlimit, rfl⟩ := select_eq_ok_iff.mp hstart
  have hrest := rest_of_yields h limit
  have hlisted : ∀ log, selector.collect tree = .ok (files.take limit, log) →
      selector.rest tree ⟨limit, some .fresh⟩ = (files.take limit, none) →
      selector.Materializes tree ⟨limit, some .fresh⟩ := by
    intro log hcollect hrest
    refine ⟨fun paths => ?_, fun fault => ?_⟩
    · rw [exists_take_ended_iff, hrest, hcollect]
      simp [eq_comm]
    · rw [exists_take_failed_iff, hrest, hcollect]
      exact iff_of_false nofun nofun
  rcases collect_of_yields hlimit h with ⟨fault, rfl, hfew, hcollect⟩ | ⟨hcut, hcollect⟩
  · refine ⟨?_, fun hmore => absurd hfew (Nat.not_le.mpr hmore)⟩
    by_cases hless : files.length < limit
    · rw [if_pos hless] at hrest
      refine iff_of_true ⟨fun paths => ?_, fun other => ?_⟩ fun hsame => Nat.ne_of_lt hless hsame.1
      · rw [exists_take_ended_iff, hrest, hcollect]
        exact iff_of_false nofun nofun
      · rw [exists_take_failed_iff, hrest, hcollect]
        simp
    · rw [if_neg hless] at hrest
      refine iff_of_false (fun hmaterializes => ?_) fun hnot => hnot ⟨Nat.le_antisymm hfew (Nat.not_lt.mp hless), nofun⟩
      obtain ⟨log, hok⟩ := (hmaterializes.listed _).mpr (exists_take_ended_iff.mpr hrest)
      rw [hcollect] at hok
      cases hok
  · have hended : selector.rest tree ⟨limit, some .fresh⟩ = (files.take limit, none) := by
      rw [hrest]
      split
      · next hless =>
          rcases hcut with rfl | hmore
          · rw [List.take_of_length_le (Nat.le_of_lt hless)]
          · omega
      · rfl
    refine ⟨iff_of_true (hlisted _ hcollect hended) ?_, fun _ => ⟨⟨_, hcollect⟩, exists_take_ended_iff.mpr hended⟩⟩
    rintro ⟨hsame, hstop⟩
    dsimp only at hsame
    rcases hcut with hend | hmore
    · exact hstop hend
    · omega

/-- One file more than the limit, and none of the directories is refused. -/
theorem materializes_iff_of_cut_off :
    let apps : Node := .directory [("a.ts", .ofBytes []), ("web", .directory [("b.ts", .ofBytes [])])]
    let tree : FileTree := ⟨.directory [("apps", apps)], [], Path.isAmong []⟩
    let selector : Selector := { root := .ofString ".", limit := 1 }
    selector.select = .ok ⟨1, some .fresh⟩ ∧ Yields selector tree [[]] ["apps/a.ts", "apps/web/b.ts"] none ∧
    selector.Materializes tree ⟨1, some .fresh⟩ ∧ ∃ log, selector.collect tree = .ok (["apps/a.ts"], log) := by
  intro apps tree selector
  have hstart : selector.select = .ok ⟨1, some .fresh⟩ := by decide +kernel
  have hroot : selector.visit tree [] = .ok ⟨[], ["apps"]⟩ := by decide +kernel
  have happs : selector.visit tree ["apps"] = .ok ⟨["apps/a.ts"], ["web"]⟩ := by decide +kernel
  have hweb : selector.visit tree ["apps", "web"] = .ok ⟨["apps/web/b.ts"], []⟩ := by decide +kernel
  have hwalk : Yields selector tree [[]] ["apps/a.ts", "apps/web/b.ts"] none :=
    .complete hroot (.complete happs (.complete hweb .nothing .nothing) .nothing) .nothing
  obtain ⟨hmaterializes, hcut⟩ := materializes_iff hstart hwalk
  exact ⟨hstart, hwalk, hmaterializes.mpr fun h => h.2 rfl, (hcut (by decide)).1⟩

/-- Behind the one file that the limit admits, a directory cannot be listed. -/
theorem not_materializes_behind_last :
    let apps : Node := .directory [("a.ts", .ofBytes []), ("web", .directory [("b.ts", .ofBytes [])])]
    let tree : FileTree := ⟨.directory [("apps", apps)], [], Path.isAmong [.ofString "apps/web"]⟩
    let selector : Selector := { root := .ofString ".", limit := 1 }
    selector.select = .ok ⟨1, some .fresh⟩ ∧ ¬ selector.Materializes tree ⟨1, some .fresh⟩ := by
  intro apps tree selector
  have hlimit : selector.countable = .ok 1 := by decide +kernel
  have hroot : selector.visit tree [] = .ok ⟨[], ["apps"]⟩ := by decide +kernel
  have happs : selector.visit tree ["apps"] = .ok ⟨["apps/a.ts"], ["web"]⟩ := by decide +kernel
  have hweb : selector.visit tree ["apps", "web"] = .error (Refusal.denied.fault "./apps/web") := by decide +kernel
  have hwalk : Yields selector tree [[]] ["apps/a.ts"] (some (Refusal.denied.fault "./apps/web")) :=
    .broken hroot (.broken happs (.refused hweb))
  have hcollect := (collect_eq_error_iff hlimit hwalk).mpr ⟨rfl, Nat.le_refl 1⟩
  refine ⟨by decide +kernel, fun hmaterializes => ?_⟩
  have hrest := (exists_take_failed_iff.mp ((hmaterializes.failed _).mp hcollect))
  rw [rest_of_yields hwalk 1] at hrest
  cases hrest

end Selector

end PreMerge
