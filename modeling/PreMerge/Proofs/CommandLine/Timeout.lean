import Mathlib.Data.List.TakeWhile
import PreMerge.Settings

/-! The timeout in the settings. What a text denotes is taken only if it is not zero or less (`timeoutOf_eq_ok_iff`). Of
the numbers that is right, but a text can also name what is no number, and that is neither zero or less nor greater
than zero (`positive_or_nan_iff`). A text names it in one way only, with the three letters, in any case, behind a sign
or none (`read?_eq_nan_iff`), and no digits ever come to it (`nearest_ne_nan`). With that one exception every timeout
that is taken is greater than zero (`load_timeout_positive_unless_nan`). -/

namespace PreMerge

namespace Text

variable {blank : Char → Bool}

/-- Around what is left of a text are the blanks at its ends. -/
theorem exists_around_trim (blank : Char → Bool) (text : List Char) :
    ∃ front back, text = front ++ (trim blank text ++ back) ∧
      (∀ c ∈ front, blank c = true) ∧ ∀ c ∈ back, blank c = true := by
  have hrest : trim blank text ++ ((text.dropWhile blank).reverse.takeWhile blank).reverse = text.dropWhile blank := by
    rw [trim, ← List.reverse_append, List.takeWhile_append_dropWhile, List.reverse_reverse]
  refine ⟨text.takeWhile blank, ((text.dropWhile blank).reverse.takeWhile blank).reverse, ?_, ?_, ?_⟩
  · rw [hrest, List.takeWhile_append_dropWhile]
  · exact fun c => List.mem_takeWhile_imp
  · exact fun c hc => List.mem_takeWhile_imp (List.mem_reverse.mp hc)

theorem dropWhile_of_head? {cs : List Char} (h : ∀ c, cs.head? = some c → blank c = false) :
    cs.dropWhile blank = cs := by
  cases cs with
  | nil => rfl
  | cons c rest => exact List.dropWhile_cons_of_neg (by simp [h c rfl])

/-- What neither starts nor ends with a blank is left of a text with blanks around it. -/
theorem trim_of_around {front core back : List Char} (hfront : ∀ c ∈ front, blank c = true)
    (hback : ∀ c ∈ back, blank c = true) (hne : core ≠ []) (hstart : ∀ c, core.head? = some c → blank c = false)
    (hend : ∀ c, core.getLast? = some c → blank c = false) : trim blank (front ++ (core ++ back)) = core := by
  have hahead : (core ++ back).dropWhile blank = core ++ back := by
    obtain ⟨c, rest, rfl⟩ := List.exists_cons_of_ne_nil hne
    exact dropWhile_of_head? hstart
  have hbehind : core.reverse.dropWhile blank = core.reverse :=
    dropWhile_of_head? (by rwa [List.head?_reverse])
  rw [trim, List.dropWhile_append_of_pos hfront, hahead, List.reverse_append,
    List.dropWhile_append_of_pos (by simpa using hback), hbehind, List.reverse_reverse]

end Text

namespace Binary64

/-- Whether a number is greater than zero. What is no number is not, and no more than zero or less. -/
def Positive : Binary64 → Prop
  | .nan => False
  | .infinity negative => negative = false
  | .finite negative mantissa scale => 0 < signed negative (magnitude mantissa scale)

/-- A number that passes for one that is not zero or less is greater than zero or no number. -/
theorem positive_or_nan_iff {x : Binary64} : x.Positive ∨ x = .nan ↔ x.notPositive = false := by
  cases x with
  | nan => simp [notPositive]
  | infinity negative => simp [Positive, notPositive]
  | finite negative mantissa scale =>
      have hpower : 0 < Nat.pow 2 scale := Nat.pow_pos (by decide)
      cases negative with
      | true => simp [Positive, notPositive, signed]
      | false =>
          have hmagnitude : 0 < magnitude mantissa scale ↔ mantissa ≠ 0 := by
            rw [magnitude, Nat.mul_pos_iff_of_pos_right hpower, Nat.pos_iff_ne_zero]
          simp [Positive, notPositive, signed, hmagnitude]

theorem ofRatio_ne_nan (negative : Bool) (n d : Nat) : ofRatio negative n d ≠ .nan := by
  intro h
  unfold ofRatio ofUnits at h
  dsimp only at h
  split at h
  · split at h <;> cases h
  · split at h <;> cases h

end Binary64

namespace Decimal

theorem nearest_ne_nan (decimal : Decimal) : decimal.nearest ≠ .nan := by
  intro h
  unfold nearest at h
  dsimp only at h
  split at h
  · cases h
  · split at h
    · cases h
    · split at h
      · exact Binary64.ofRatio_ne_nan _ _ _ h
      · exact Binary64.ofRatio_ne_nan _ _ _ h

/-- The signs that can stand before a number, and none. -/
def signs : List (List Char) :=
  [[], ['+'], ['-']]

theorem mem_signs_iff {mark : List Char} : mark ∈ signs ↔ mark = [] ∨ mark = ['+'] ∨ mark = ['-'] := by
  simp [signs]

theorem exists_sign (cs : List Char) : ∃ mark ∈ signs, cs = mark ++ (sign cs).2 := by
  unfold sign
  split
  · exact ⟨['-'], by decide, rfl⟩
  · exact ⟨['+'], by decide, rfl⟩
  · exact ⟨[], by decide, rfl⟩

theorem sign_append {mark : List Char} {c : Char} (rest : List Char) (hmark : mark ∈ signs) (hplus : c ≠ '+')
    (hminus : c ≠ '-') : (sign (mark ++ c :: rest)).2 = c :: rest := by
  rcases mem_signs_iff.mp hmark with rfl | rfl | rfl
  · simp [sign, hplus, hminus]
  · rfl
  · rfl

/-- A text that says that it is no number: the three letters in any case, with a sign or without one, between blanks. -/
def NamesNan (text : String) : Prop :=
  ∃ front mark word back, text.toList = front ++ (mark ++ word ++ back) ∧
    (∀ c ∈ front, Text.isWhiteSpace c = true) ∧ (∀ c ∈ back, Text.isWhiteSpace c = true) ∧
    mark ∈ signs ∧ word.map Char.toLower = "nan".toList

theorem eq_of_toLower_eq_n {c : Char} (h : c.toLower = 'n') : c = 'n' ∨ c = 'N' := by
  unfold Char.toLower at h
  split at h
  · next hupper =>
      have hcode := congrArg (fun c => c.val.toNat) h
      refine .inr (Char.ext (UInt32.toNat.inj ?_))
      simp [UInt32.le_iff_toNat_le] at hcode hupper ⊢
      omega
  · exact .inl h

theorem marks_of_toLower_eq_n {c : Char} (h : c.toLower = 'n') : Text.isWhiteSpace c = false ∧ c ≠ '+' ∧ c ≠ '-' := by
  rcases eq_of_toLower_eq_n h with rfl | rfl
  · decide
  · decide

/-- Blanks around the name do not count. -/
theorem trim_of_namesNan {front mark back : List Char} {first last : Char} (middle : Char)
    (hfront : ∀ c ∈ front, Text.isWhiteSpace c = true) (hback : ∀ c ∈ back, Text.isWhiteSpace c = true)
    (hmark : mark ∈ signs) (hfirst : first.toLower = 'n') (hlast : last.toLower = 'n') :
    Text.trim Text.isWhiteSpace (front ++ (mark ++ [first, middle, last] ++ back)) =
      mark ++ [first, middle, last] := by
  refine Text.trim_of_around hfront hback (by simp) (fun c hc => ?_) (fun c hc => ?_)
  · rcases mem_signs_iff.mp hmark with rfl | rfl | rfl
    · cases hc
      exact (marks_of_toLower_eq_n hfirst).1
    · cases hc
      decide
    · cases hc
      decide
  · obtain rfl : last = c := by simpa using hc
    exact (marks_of_toLower_eq_n hlast).1

/-- Only the name of what is no number denotes it. -/
theorem read?_eq_nan_iff {text : String} : read? text = some .nan ↔ NamesNan text := by
  constructor
  · intro h
    obtain ⟨front, back, htext, hfront, hback⟩ := Text.exists_around_trim Text.isWhiteSpace text.toList
    obtain ⟨mark, hmark, hbody⟩ := exists_sign (Text.trim Text.isWhiteSpace text.toList)
    rw [hbody] at htext
    refine ⟨front, mark, _, back, htext, hfront, hback, hmark, ?_⟩
    unfold read? at h
    dsimp only at h
    split at h
    · cases h
    · split at h
      · next hname => exact hname
      · obtain ⟨decimal, -, hnearest⟩ := Option.map_eq_some_iff.mp h
        exact absurd hnearest (nearest_ne_nan decimal)
  · rintro ⟨front, mark, word, back, htext, hfront, hback, hmark, hword⟩
    obtain ⟨first, _, rfl, hfirst, hrest⟩ := List.map_eq_cons_iff.mp hword
    obtain ⟨middle, _, rfl, -, hrest⟩ := List.map_eq_cons_iff.mp hrest
    obtain ⟨last, _, rfl, hlast, hrest⟩ := List.map_eq_cons_iff.mp hrest
    obtain rfl := List.map_eq_nil_iff.mp hrest
    have htrim := trim_of_namesNan middle hfront hback hmark hfirst hlast
    obtain ⟨-, hplus, hminus⟩ := marks_of_toLower_eq_n hfirst
    have hbody := sign_append [middle, last] hmark hplus hminus
    unfold read?
    dsimp only
    rw [htext, htrim, hbody, hword, if_neg (by decide), if_pos rfl]

end Decimal

namespace Settings

/-- Taken is what a text denotes, unless that is zero or less. -/
theorem timeoutOf_eq_ok_iff {text : String} {seconds : Binary64} :
    timeoutOf text = .ok seconds ↔ Decimal.read? text = some seconds ∧ seconds.notPositive = false := by
  unfold timeoutOf
  split
  · next hread => simp [hread]
  · next denoted hread =>
      cases hsign : denoted.notPositive with
      | true =>
          simp only [if_pos, reduceCtorEq, hread, Option.some.injEq, false_iff, not_and]
          rintro rfl
          simp [hsign]
      | false =>
          simp only [Bool.false_eq_true, if_false, hread, Except.ok.injEq, Option.some.injEq]
          exact ⟨fun h => ⟨h, h ▸ hsign⟩, fun h => h.1⟩

theorem timeoutOf_of_notPositive {text : String} {seconds : Binary64} (hread : Decimal.read? text = some seconds)
    (h : seconds.notPositive = true) : timeoutOf text =
      .error (.ofText .value ("MERGEGATE_COMMAND_TIMEOUT must be positive, got " ++ text)) := by
  simp only [timeoutOf, hread, h, if_true]

theorem kind_of_timeoutOf_eq_error {text : String} {fault : Fault} (h : timeoutOf text = .error fault) :
    fault.kind = .value := by
  unfold timeoutOf at h
  split at h
  · cases h
    rfl
  · split at h
    · cases h
      rfl
    · cases h

theorem value?_eq_none_iff {setting : Option String} : value? setting = none ↔ setting = none ∨ setting = some "" := by
  cases setting <;> simp [value?]

theorem value?_eq_some_iff {setting : Option String} {text : String} :
    value? setting = some text ↔ setting = some text ∧ text ≠ "" := by
  simp [value?, Option.filter_eq_some_iff]

variable {environment : Environment} {text : String} {seconds : Binary64}

/-- A text that denotes something is not empty, so the variable counts as set. -/
theorem value?_of_read? (hset : environment.timeout = some text) (hread : Decimal.read? text = some seconds) :
    value? environment.timeout = some text := by
  refine value?_eq_some_iff.mpr ⟨hset, ?_⟩
  rintro rfl
  have hempty : Decimal.read? "" = none := by decide
  rw [hempty] at hread
  cases hread

theorem load_of_unset (here : Path) (h : value? environment.timeout = none) :
    ∃ settings, load here environment = .ok settings ∧ settings.timeout = none := by
  simp [load, h]

theorem load_of_taken (here : Path) (hvalue : value? environment.timeout = some text)
    (htaken : timeoutOf text = .ok seconds) :
    ∃ settings, load here environment = .ok settings ∧ settings.timeout = some seconds := by
  simp [load, hvalue, htaken, Except.map]

theorem load_of_refused (here : Path) {fault : Fault} (hvalue : value? environment.timeout = some text)
    (hrefused : timeoutOf text = .error fault) : load here environment = .error fault := by
  simp [load, hvalue, hrefused, Except.map]

/-- A timeout among the settings was denoted by the variable. -/
theorem exists_text_of_load {here : Path} {settings : Settings} (h : load here environment = .ok settings)
    (htimeout : settings.timeout = some seconds) :
    ∃ text, environment.timeout = some text ∧ timeoutOf text = .ok seconds := by
  cases hvalue : value? environment.timeout with
  | none =>
      simp only [load, hvalue, Except.ok.injEq] at h
      subst h
      cases htimeout
  | some text =>
      refine ⟨text, (value?_eq_some_iff.mp hvalue).1, ?_⟩
      cases htaken : timeoutOf text with
      | error fault =>
          rw [load_of_refused here hvalue htaken] at h
          cases h
      | ok other =>
          simp only [load, hvalue, htaken, Except.map, Except.ok.injEq] at h
          subst h
          cases htimeout
          rfl

/-- Settings without a timeout come of a variable that is not set, or set to nothing. Of one that is set to something
comes a timeout greater than zero, or no number, or a refusal. No number comes only of a text that names it; every other
number is taken if it is greater than zero, and refused with its text if it is not. -/
theorem load_timeout_positive_unless_nan (here : Path) (environment : Environment) :
    ((environment.timeout = none ∨ environment.timeout = some "") ∧
        (∃ settings, load here environment = .ok settings ∧ settings.timeout = none) ∨
      (∃ text, environment.timeout = some text ∧ text ≠ "") ∧
        ((∃ fault, load here environment = .error fault ∧ fault.kind = .value) ∨
          ∃ settings seconds, load here environment = .ok settings ∧ settings.timeout = some seconds ∧
            (seconds.Positive ∨ seconds = .nan))) ∧
    ((∃ settings, load here environment = .ok settings ∧ settings.timeout = some .nan) ↔
      ∃ text, environment.timeout = some text ∧ Decimal.NamesNan text) ∧
    ∀ text seconds, environment.timeout = some text → Decimal.read? text = some seconds → ¬ Decimal.NamesNan text →
      (seconds.Positive → ∃ settings, load here environment = .ok settings ∧ settings.timeout = some seconds) ∧
      (¬ seconds.Positive → load here environment =
        .error (.ofText .value ("MERGEGATE_COMMAND_TIMEOUT must be positive, got " ++ text))) := by
  refine ⟨?_, ⟨?_, ?_⟩, ?_⟩
  · cases hvalue : value? environment.timeout with
    | none => exact .inl ⟨value?_eq_none_iff.mp hvalue, load_of_unset here hvalue⟩
    | some text =>
        refine .inr ⟨⟨text, value?_eq_some_iff.mp hvalue⟩, ?_⟩
        cases htaken : timeoutOf text with
        | error fault => exact .inl ⟨fault, load_of_refused here hvalue htaken, kind_of_timeoutOf_eq_error htaken⟩
        | ok seconds =>
            obtain ⟨settings, hload, htimeout⟩ := load_of_taken here hvalue htaken
            have hsign := (timeoutOf_eq_ok_iff.mp htaken).2
            exact .inr ⟨settings, seconds, hload, htimeout, Binary64.positive_or_nan_iff.mpr hsign⟩
  · rintro ⟨settings, hload, htimeout⟩
    obtain ⟨text, hset, htaken⟩ := exists_text_of_load hload htimeout
    exact ⟨text, hset, Decimal.read?_eq_nan_iff.mp (timeoutOf_eq_ok_iff.mp htaken).1⟩
  · rintro ⟨text, hset, hnames⟩
    have hread := Decimal.read?_eq_nan_iff.mpr hnames
    exact load_of_taken here (value?_of_read? hset hread) (timeoutOf_eq_ok_iff.mpr ⟨hread, rfl⟩)
  · intro text seconds hset hread hnames
    have hvalue := value?_of_read? hset hread
    refine ⟨fun hpositive => ?_, fun hpositive => ?_⟩
    · have hsign := Binary64.positive_or_nan_iff.mp (.inl hpositive)
      exact load_of_taken here hvalue (timeoutOf_eq_ok_iff.mpr ⟨hread, hsign⟩)
    · have hnan : seconds ≠ .nan := fun h => hnames (Decimal.read?_eq_nan_iff.mp (h ▸ hread))
      have hsign : seconds.notPositive = true := by
        rw [← Bool.not_eq_false]
        exact fun h => (Binary64.positive_or_nan_iff.mpr h).elim hpositive hnan
      exact load_of_refused here hvalue (timeoutOf_of_notPositive hread hsign)

/-- Digits whose number is too small for double precision denote zero, and zero is refused. -/
theorem load_timeout_refused_of_underflow :
    Decimal.read? "1e-400" = some .zero ∧ ¬ Decimal.NamesNan "1e-400" ∧ ¬ Binary64.zero.Positive ∧
    load (Path.ofString "/work") { timeout := some "1e-400" } =
      .error (.ofText .value "MERGEGATE_COMMAND_TIMEOUT must be positive, got 1e-400") := by
  have hread : Decimal.read? "1e-400" = some .zero := by decide +kernel
  have hnames : ¬ Decimal.NamesNan "1e-400" := by
    rw [← Decimal.read?_eq_nan_iff, hread]
    nofun
  have hzero : ¬ Binary64.zero.Positive := by
    simp [Binary64.zero, Binary64.Positive, Binary64.magnitude, Binary64.signed]
  exact ⟨hread, hnames, hzero,
    ((load_timeout_positive_unless_nan (Path.ofString "/work") { timeout := some "1e-400" }).2.2 _ _ rfl hread
      hnames).2 hzero⟩

/-- What is no number is taken for a timeout, although it is not greater than zero. -/
theorem load_timeout_not_positive_of_nan :
    ∃ settings, load (Path.ofString "/work") { timeout := some "nan" } = .ok settings ∧
      ∃ seconds, settings.timeout = some seconds ∧ ¬ seconds.Positive :=
  ⟨⟨Path.ofString "/work", false, some .nan⟩, by decide +kernel, .nan, rfl, not_false⟩

end Settings

end PreMerge
