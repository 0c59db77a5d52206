import Mathlib.Data.List.TakeWhile
import PreMerge.Rule.Search

/-! What the constructs are, apart from how they are recognised. `Construct.Reads` gives the texts of each, and
an occurrence (`Construct.Occurs`) is such a text between others; no word character may touch one that is
made of words. A construct is recognised at a place if and only if one of its texts stands there
(`length?_eq_some_iff`), so no attempt that fails late hides another way to read the same place. -/

namespace PreMerge

open Text (isBlank endsWord)

namespace Construct

/-- A text of blanks only; it may be empty. -/
def Blanks (text : List Char) : Prop :=
  ∀ c ∈ text, isBlank c = true

/-- The texts of a construct. -/
def Reads : Construct → List Char → Prop
  | .castToAny, text =>
    ∃ between, between ≠ [] ∧ Blanks between ∧ text = "as".toList ++ (between ++ "any".toList)
  | .checkerDirective, text => text = "@ts-ignore".toList ∨ text = "@ts-expect-error".toList
  | .consoleMessage, text => text = "console.log".toList
  | .nativeDialog, text => text = "window.alert".toList ∨ text = "window.confirm".toList
  | .emptyHandler, text =>
    ∃ before inside behind body, Blanks before ∧ (∀ c ∈ inside, (c != ')') = true) ∧ Blanks behind ∧ Blanks body ∧
      text = "catch".toList ++ ((before ++ "(".toList) ++ ((inside ++ ")".toList) ++
        ((behind ++ "\x7b".toList) ++ (body ++ "\x7d".toList))))

/-- Whether a construct consists of whole words. -/
def isWords : Construct → Bool
  | .castToAny | .consoleMessage | .nativeDialog => true
  | .checkerDirective | .emptyHandler => false

/-- No word goes on over the ends of a construct that consists of whole words. -/
def Detached (construct : Construct) (before after : Option Char) : Prop :=
  construct.isWords = true → endsWord before = true ∧ endsWord after = true

/-- A span of a text in which a construct stands. -/
def Occurs (construct : Construct) (text : List Char) (span : Span) : Prop :=
  ∃ before after, text = before ++ (span.text ++ after) ∧ before.length = span.start ∧
    construct.Reads span.text ∧ construct.Detached before.getLast? after.head?

theorem Reads.ne_nil {construct : Construct} {word : List Char} (h : construct.Reads word) : word ≠ [] := by
  rintro rfl
  cases construct with
  | castToAny =>
      obtain ⟨between, -, -, hword⟩ := h
      simp at hword
  | checkerDirective => rcases h with hword | hword <;> simp at hword
  | consoleMessage => simp [Reads] at h
  | nativeDialog => rcases h with hword | hword <;> simp at hword
  | emptyHandler =>
      obtain ⟨before, inside, behind, body, -, -, -, -, hword⟩ := h
      simp at hword

/-- A run of characters ends at the first one of another kind. -/
theorem takeWhile_run {isPassed : Char → Bool} {stop : Char} (hstop : isPassed stop = false) {run : List Char}
    (hrun : ∀ c ∈ run, isPassed c = true) (rest : List Char) :
    (run ++ stop :: rest).takeWhile isPassed = run := by
  rw [List.takeWhile_append_of_pos hrun, List.takeWhile_cons, hstop]
  exact List.append_nil run

/-- The only way to read a run of characters up to one of another kind. -/
theorem run_unique {isPassed : Char → Bool} {stop : Char} (hstop : isPassed stop = false)
    {run other rest more : List Char} (hrun : ∀ c ∈ run, isPassed c = true)
    (hother : ∀ c ∈ other, isPassed c = true) (h : run ++ stop :: rest = other ++ stop :: more) :
    run = other ∧ rest = more := by
  obtain rfl : run = other := by rw [← takeWhile_run hstop hrun rest, h, takeWhile_run hstop hother]
  exact ⟨rfl, (List.cons.inj (List.append_cancel_left h)).2⟩

namespace Place

/-- A place lies behind another one by just a given text. -/
structure Leads (place : Place) (word : List Char) (later : Place) : Prop where
  rest : place.rest = word ++ later.rest
  passed : later.passed = place.passed + word.length

variable {place later : Place} {word more : List Char}

/-- What leads over two texts leads over one after the other. -/
theorem leads_append_iff : place.Leads (word ++ more) later ↔ ∃ mid, place.Leads word mid ∧ mid.Leads more later := by
  constructor
  · rintro ⟨hrest, hpassed⟩
    refine ⟨⟨place.passed + word.length, more ++ later.rest⟩, ⟨?_, rfl⟩, ⟨rfl, ?_⟩⟩
    · rw [hrest, List.append_assoc]
    · rw [hpassed, List.length_append, Nat.add_assoc]
  · rintro ⟨mid, ⟨hrest, hpassed⟩, ⟨hmore, hlater⟩⟩
    refine ⟨?_, ?_⟩
    · rw [hrest, hmore, List.append_assoc]
    · rw [hlater, hpassed, List.length_append, Nat.add_assoc]

theorem after_iff_leads {word : String} : place.after word = some later ↔ place.Leads word.toList later := by
  rw [after_eq_some_iff, ← String.length_toList]
  exact ⟨fun ⟨hrest, hpassed⟩ => ⟨hrest, hpassed⟩, fun ⟨hrest, hpassed⟩ => ⟨hrest, hpassed⟩⟩

/-- Where a word stands behind a run of characters that it cannot start with, the longest run is the only one. -/
theorem after_past_iff {isPassed : Char → Bool} {word : String} {first : Char}
    (hfirst : word.toList.head? = some first) (hstop : isPassed first = false) :
    (place.past isPassed).after word = some later ↔
      ∃ run, (∀ c ∈ run, isPassed c = true) ∧ place.Leads (run ++ word.toList) later := by
  obtain ⟨tail, htail⟩ : ∃ tail, word.toList = first :: tail := by
    cases hword : word.toList with
    | nil =>
        rw [hword] at hfirst
        cases hfirst
    | cons c tail =>
        rw [hword] at hfirst
        cases hfirst
        exact ⟨tail, rfl⟩
  rw [after_iff_leads, past_eq]
  constructor
  · intro h
    refine ⟨place.rest.takeWhile isPassed, fun c => List.mem_takeWhile_imp, leads_append_iff.mpr ⟨_, ⟨?_, rfl⟩, h⟩⟩
    exact List.takeWhile_append_dropWhile.symm
  · rintro ⟨run, hrun, h⟩
    obtain ⟨mid, ⟨hrest, hpassed⟩, hmore⟩ := leads_append_iff.mp h
    have hmid : mid.rest = first :: (tail ++ later.rest) := by rw [hmore.rest, htail, List.cons_append]
    have htake : place.rest.takeWhile isPassed = run := by rw [hrest, hmid, takeWhile_run hstop hrun]
    have hdrop : place.rest.dropWhile isPassed = mid.rest := by
      have hsplit : place.rest.takeWhile isPassed ++ place.rest.dropWhile isPassed = run ++ mid.rest := by
        rw [List.takeWhile_append_dropWhile, hrest]
      rw [htake] at hsplit
      exact List.append_cancel_left hsplit
    rw [htake, hdrop, ← hpassed]
    exact hmore

/-- The same with at least one blank in front. -/
theorem after_blanks_iff {word : String} {first : Char} (hfirst : word.toList.head? = some first)
    (hstop : isBlank first = false) : (∃ mid, place.afterBlanks = some mid ∧ mid.after word = some later) ↔
      ∃ run, run ≠ [] ∧ Blanks run ∧ place.Leads (run ++ word.toList) later := by
  have hhead : ∀ run, Blanks run → place.Leads (run ++ word.toList) later →
      (place.rest.head?.any isBlank = true ↔ run ≠ []) := by
    intro run hrun h
    rw [h.rest]
    cases run with
    | nil =>
        rw [List.nil_append, List.head?_append, hfirst]
        simp [hstop]
    | cons c run => simp [hrun c List.mem_cons_self]
  unfold afterBlanks
  constructor
  · rintro ⟨mid, hmid, hafter⟩
    split at hmid
    · next hany =>
        cases hmid
        obtain ⟨run, hrun, hleads⟩ := (after_past_iff hfirst hstop).mp hafter
        exact ⟨run, (hhead run hrun hleads).mp hany, hrun, hleads⟩
    · cases hmid
  · rintro ⟨run, hne, hrun, hleads⟩
    refine ⟨place.past isBlank, if_pos ((hhead run hrun hleads).mpr hne), ?_⟩
    exact (after_past_iff hfirst hstop).mpr ⟨run, hrun, hleads⟩

/-- One of two words that differ. -/
theorem after_orElse_iff {word other : String} (hdiffer : ∀ more rest, word.toList ++ more ≠ other.toList ++ rest) :
    (place.after word <|> place.after other) = some later ↔
      place.Leads word.toList later ∨ place.Leads other.toList later := by
  rw [← after_iff_leads, ← after_iff_leads]
  cases hword : place.after word with
  | none => simp
  | some mid =>
      have hother : place.after other ≠ some later := by
        rw [Ne, after_iff_leads]
        intro h
        exact hdiffer mid.rest later.rest ((after_iff_leads.mp hword).rest.symm.trans h.rest)
      simp [hother]

theorem atWordEnd_iff : place.atWordEnd = some later ↔ endsWord place.rest.head? = true ∧ later = place := by
  unfold atWordEnd
  split
  · next h => simp [h, eq_comm]
  · next h => simp [h]

end Place

section Recognition

variable {before : Option Char} {place later : Place}

theorem exists_guard_iff {p : Bool} {q : Prop} :
    (∃ u : Unit, (guard (p = true) : Option Unit) = some u ∧ q) ↔ p = true ∧ q := by
  cases p with
  | true => exact ⟨fun ⟨_, _, hq⟩ => ⟨rfl, hq⟩, fun ⟨_, hq⟩ => ⟨(), rfl, hq⟩⟩
  | false => exact ⟨nofun, nofun⟩

theorem behind?_castToAny : castToAny.behind? before place = some later ↔
    ∃ word, castToAny.Reads word ∧ place.Leads word later ∧ castToAny.Detached before later.rest.head? := by
  have hfirst : "any".toList.head? = some 'a' := by simp
  have hstop : isBlank 'a' = false := by decide
  unfold behind?
  dsimp only [Option.bind_eq_bind]
  simp only [↓Option.bind_eq_some_iff, ↓exists_guard_iff]
  constructor
  · rintro ⟨mid, has, hbefore, next, hnext, last, hany, hend⟩
    obtain ⟨hafter, rfl⟩ := Place.atWordEnd_iff.mp hend
    obtain ⟨between, hne, hbetween, hleads⟩ := (Place.after_blanks_iff hfirst hstop).mp ⟨next, hnext, hany⟩
    exact ⟨_, ⟨between, hne, hbetween, rfl⟩,
      Place.leads_append_iff.mpr ⟨mid, Place.after_iff_leads.mp has, hleads⟩, fun _ => ⟨hbefore, hafter⟩⟩
  · rintro ⟨_, ⟨between, hne, hbetween, rfl⟩, hleads, hdetached⟩
    obtain ⟨mid, has, hmore⟩ := Place.leads_append_iff.mp hleads
    obtain ⟨next, hnext, hany⟩ := (Place.after_blanks_iff hfirst hstop).mpr ⟨between, hne, hbetween, hmore⟩
    obtain ⟨hbefore, hafter⟩ := hdetached rfl
    exact ⟨mid, Place.after_iff_leads.mpr has, hbefore, next, hnext, later, hany,
      Place.atWordEnd_iff.mpr ⟨hafter, rfl⟩⟩

theorem behind?_checkerDirective : checkerDirective.behind? before place = some later ↔
    ∃ word, checkerDirective.Reads word ∧ place.Leads word later ∧
      checkerDirective.Detached before later.rest.head? := by
  rw [behind?, Place.after_orElse_iff (by simp)]
  constructor
  · rintro (hleads | hleads)
    · exact ⟨_, .inl rfl, hleads, nofun⟩
    · exact ⟨_, .inr rfl, hleads, nofun⟩
  · rintro ⟨_, rfl | rfl, hleads, -⟩
    · exact .inl hleads
    · exact .inr hleads

theorem behind?_consoleMessage : consoleMessage.behind? before place = some later ↔
    ∃ word, consoleMessage.Reads word ∧ place.Leads word later ∧
      consoleMessage.Detached before later.rest.head? := by
  unfold behind?
  dsimp only [Option.bind_eq_bind]
  simp only [↓Option.bind_eq_some_iff, ↓exists_guard_iff, Place.atWordEnd_iff, Place.after_iff_leads]
  constructor
  · rintro ⟨last, hleads, hbefore, hafter, rfl⟩
    exact ⟨_, rfl, hleads, fun _ => ⟨hbefore, hafter⟩⟩
  · rintro ⟨_, rfl, hleads, hdetached⟩
    obtain ⟨hbefore, hafter⟩ := hdetached rfl
    exact ⟨later, hleads, hbefore, hafter, rfl⟩

theorem behind?_nativeDialog : nativeDialog.behind? before place = some later ↔
    ∃ word, nativeDialog.Reads word ∧ place.Leads word later ∧ nativeDialog.Detached before later.rest.head? := by
  have hwords : ∀ last, (place.after "window.alert" <|> place.after "window.confirm") = some last ↔
      place.Leads "window.alert".toList last ∨ place.Leads "window.confirm".toList last :=
    fun last => Place.after_orElse_iff (by simp)
  unfold behind?
  dsimp only [Option.bind_eq_bind]
  simp only [↓Option.bind_eq_some_iff, ↓exists_guard_iff, Place.atWordEnd_iff, hwords]
  constructor
  · rintro ⟨last, hleads | hleads, hbefore, hafter, rfl⟩
    · exact ⟨_, .inl rfl, hleads, fun _ => ⟨hbefore, hafter⟩⟩
    · exact ⟨_, .inr rfl, hleads, fun _ => ⟨hbefore, hafter⟩⟩
  · rintro ⟨_, hword, hleads, hdetached⟩
    obtain ⟨hbefore, hafter⟩ := hdetached rfl
    refine ⟨later, ?_, hbefore, hafter, rfl⟩
    rcases hword with rfl | rfl
    · exact .inl hleads
    · exact .inr hleads

theorem behind?_emptyHandler : emptyHandler.behind? before place = some later ↔
    ∃ word, emptyHandler.Reads word ∧ place.Leads word later ∧ emptyHandler.Detached before later.rest.head? := by
  have hpast : ∀ (isPassed : Char → Bool) (word : String) (first : Char), word.toList.head? = some first →
      isPassed first = false → ∀ place later : Place, (place.past isPassed).after word = some later ↔
        ∃ run, (∀ c ∈ run, isPassed c = true) ∧ place.Leads (run ++ word.toList) later :=
    fun _ _ _ hfirst hstop _ _ => Place.after_past_iff hfirst hstop
  have hword : ∀ later, place.after "catch" = some later ↔ place.Leads "catch".toList later :=
    fun _ => Place.after_iff_leads
  simp only [behind?, Option.bind_eq_bind, Option.bind_eq_some_iff, hword,
    hpast isBlank "(" '(' (by simp) (by decide), hpast (· != ')') ")" ')' (by simp) (by decide),
    hpast isBlank "\x7b" '\x7b' (by simp) (by decide), hpast isBlank "\x7d" '\x7d' (by simp) (by decide)]
  constructor
  · rintro ⟨_, hcatch, _, ⟨outer, houter, hopen⟩, _, ⟨inside, hinside, hclose⟩, _, ⟨behind, hbehind, hstart⟩,
      body, hbody, hend⟩
    refine ⟨_, ⟨outer, inside, behind, body, houter, hinside, hbehind, hbody, rfl⟩, ?_, nofun⟩
    exact Place.leads_append_iff.mpr ⟨_, hcatch, Place.leads_append_iff.mpr ⟨_, hopen,
      Place.leads_append_iff.mpr ⟨_, hclose, Place.leads_append_iff.mpr ⟨_, hstart, hend⟩⟩⟩⟩
  · rintro ⟨_, ⟨outer, inside, behind, body, houter, hinside, hbehind, hbody, rfl⟩, hleads, -⟩
    obtain ⟨_, hcatch, hleads⟩ := Place.leads_append_iff.mp hleads
    obtain ⟨_, hopen, hleads⟩ := Place.leads_append_iff.mp hleads
    obtain ⟨_, hclose, hleads⟩ := Place.leads_append_iff.mp hleads
    obtain ⟨_, hstart, hend⟩ := Place.leads_append_iff.mp hleads
    exact ⟨_, hcatch, _, ⟨outer, houter, hopen⟩, _, ⟨inside, hinside, hclose⟩, _, ⟨behind, hbehind, hstart⟩,
      body, hbody, hend⟩

/-- A construct is recognised at a place if and only if one of its texts stands there, detached from what is
around it. -/
theorem behind?_eq_some_iff {construct : Construct} : construct.behind? before place = some later ↔
    ∃ word, construct.Reads word ∧ place.Leads word later ∧ construct.Detached before later.rest.head? := by
  cases construct with
  | castToAny => exact behind?_castToAny
  | checkerDirective => exact behind?_checkerDirective
  | consoleMessage => exact behind?_consoleMessage
  | nativeDialog => exact behind?_nativeDialog
  | emptyHandler => exact behind?_emptyHandler

theorem length?_eq_some_iff {construct : Construct} {text : List Char} {length : Nat} :
    construct.length? before text = some length ↔ ∃ word after, text = word ++ after ∧ word.length = length ∧
      construct.Reads word ∧ construct.Detached before after.head? := by
  simp only [length?, Option.map_eq_some_iff, behind?_eq_some_iff]
  constructor
  · rintro ⟨later, ⟨word, hreads, ⟨hrest, hpassed⟩, hdetached⟩, rfl⟩
    exact ⟨word, later.rest, hrest, by rw [hpassed, Nat.zero_add], hreads, hdetached⟩
  · rintro ⟨word, after, rfl, rfl, hreads, hdetached⟩
    exact ⟨⟨word.length, after⟩, ⟨word, hreads, ⟨rfl, (Nat.zero_add _).symm⟩, hdetached⟩, rfl⟩

end Recognition

end Construct

end PreMerge
