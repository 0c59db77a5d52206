import PreMerge.Proofs.Run.Course
import PreMerge.Proofs.Text.Lines

/-! What of an announcement depends on the console. What is taken for granted of the library that draws lines is in
`Console.Renders`, and it holds of the renderer here (`renders_render`). The codes of styles are put around parts of
lines, so taking them out of a coloured text leaves the text without colours (`Renders.uncodes`), as long as no code is
in the lines themselves. Without colours all renderers draw the same (`Renders.uncolored_eq`), and of that the columns
decide about the length of the rules and about nothing else: there are rows, the same for every console with columns, of
which the rules are drawn as long as the console is wide (`printed_rowsOf`). Where there are no columns there is no text
(`Renders.drawn_width_zero`). -/

namespace PreMerge

namespace Text

/-- Whether a character may stand among the codes of a style. -/
def isCode (c : Char) : Bool :=
  c.isDigit || c == ';'

/-- What follows the codes of a style, if a text starts with some. The escape character is before the text. -/
def behindCodes? : List Char → Option (List Char)
  | '[' :: rest =>
    match rest.dropWhile isCode with
    | 'm' :: later => some later
    | _ => none
  | _ => none

theorem length_lt_of_behindCodes? {cs later : List Char} (h : behindCodes? cs = some later) :
    later.length < cs.length := by
  unfold behindCodes? at h
  split at h
  · next rest =>
      have hsuffix := (List.dropWhile_suffix isCode (l := rest)).length_le
      split at h
      · next hbehind =>
          cases h
          rw [hbehind, List.length_cons] at hsuffix
          rw [List.length_cons]
          omega
      · cases h
  · cases h

/-- A text without the codes of its styles. -/
def withoutCodes : List Char → List Char
  | [] => []
  | c :: rest =>
    if c = '\u001B' then
      match _hbehind : behindCodes? rest with
      | some later => withoutCodes later
      | none => c :: withoutCodes rest
    else c :: withoutCodes rest
termination_by cs => cs.length
decreasing_by
  · have hlt := length_lt_of_behindCodes? _hbehind
    simp only [List.length_cons]
    omega
  · simp
  · simp

/-- Taking out the codes leaves the second text of the first one, whatever is behind it. -/
def Uncodes (coded plain : List Char) : Prop :=
  ∀ rest, withoutCodes (coded ++ rest) = plain ++ withoutCodes rest

theorem uncodes_of_not_mem {cs : List Char} (h : '\u001B' ∉ cs) : Uncodes cs cs := by
  intro rest
  induction cs with
  | nil => rfl
  | cons c cs ih =>
      rw [List.mem_cons, not_or] at h
      rw [List.cons_append, withoutCodes, if_neg (Ne.symm h.1), ih h.2, List.cons_append]

theorem uncodes_codes {codes : List Char} (h : ∀ c ∈ codes, isCode c = true) :
    Uncodes ('\u001B' :: '[' :: (codes ++ ['m'])) [] := by
  intro rest
  have hend : behindCodes? ('[' :: (codes ++ 'm' :: rest)) = some rest := by
    have hdrop : (codes ++ 'm' :: rest).dropWhile isCode = 'm' :: rest := by
      rw [List.dropWhile_append_of_pos h, List.dropWhile_cons_of_neg (by decide)]
    simp only [behindCodes?, hdrop]
  rw [List.cons_append, List.cons_append, List.append_assoc, List.singleton_append, withoutCodes, if_pos rfl]
  split
  · next later hlater =>
      obtain rfl := Option.some_inj.mp (hend.symm.trans hlater)
      rfl
  · next hnone =>
      rw [hend] at hnone
      cases hnone

theorem Uncodes.append {coded plain more others : List Char} (h : Uncodes coded plain) (k : Uncodes more others) :
    Uncodes (coded ++ more) (plain ++ others) := by
  intro rest
  rw [List.append_assoc, h, k, List.append_assoc]

theorem Uncodes.flatten {coded plain : List (List Char)} (h : List.Forall₂ Uncodes coded plain) :
    Uncodes coded.flatten plain.flatten := by
  induction h with
  | nil => exact fun rest => rfl
  | cons hpart _ ih =>
      rw [List.flatten_cons, List.flatten_cons]
      exact hpart.append ih

theorem Uncodes.flatMap {α : Type} {xs : List α} {coded plain : α → List Char}
    (h : ∀ x ∈ xs, Uncodes (coded x) (plain x)) : Uncodes (xs.flatMap coded) (xs.flatMap plain) := by
  rw [List.flatMap_def, List.flatMap_def]
  apply Uncodes.flatten
  rwa [List.forall₂_map_left_iff, List.forall₂_map_right_iff, List.forall₂_same]

theorem Uncodes.withoutCodes_eq {coded plain : List Char} (h : Uncodes coded plain) : withoutCodes coded = plain := by
  have hall := h []
  rwa [List.append_nil, withoutCodes, List.append_nil] at hall

end Text

namespace Console

open Text

/-- A part of a line as a renderer dresses it: as it is, or in colours between two sequences of codes. Which codes these
are is left to the system of colours. -/
inductive Dressed : Bool → List Char → List Char → Prop
  | bare {colored : Bool} {part : List Char} : Dressed colored part part
  | coded (part : List Char) {codes reset : List Char} (hcodes : ∀ c ∈ codes, isCode c = true)
      (hreset : ∀ c ∈ reset, isCode c = true) :
      Dressed true part ('\u001B' :: '[' :: (codes ++ ['m']) ++ part ++ '\u001B' :: '[' :: (reset ++ ['m']))

/-- The parts of a line, each of them dressed, and a line feed. -/
def DressedLine (colored : Bool) (parts : List (List Char)) (drawn : List Char) : Prop :=
  ∃ dressed, List.Forall₂ (Dressed colored) parts dressed ∧ drawn = dressed.flatten ++ ['\n']

/-- The lines of words. Some control characters are left out. -/
def linesOf (words : String) : List (List Char) :=
  pieces '\n' (words.toList.filter (!isDropped ·))

/-- The parts of a line: its tabs are filled up. -/
def partsOf (line : List Char) : List (List Char) :=
  fillTabs (pieces '\t' line)

/-- What a renderer is taken to do, if nothing is to be wrapped. It draws a rule over the whole width. From words it
drops some control characters and splits them at line feeds, it expands the tabs of each line to stops that are eight
columns apart, and it dresses the parts of a line. Without columns it draws nothing. -/
structure Renders (draw : Console → Print → List Char) : Prop where
  nothing : ∀ colored print, (∀ words, print ≠ .raw words) → draw ⟨0, colored⟩ print = []
  blank : ∀ console : Console, console.width ≠ 0 → draw console .blank = ['\n']
  rule : ∀ console : Console, console.width ≠ 0 →
    DressedLine console.colored [List.replicate console.width '─'] (draw console .rule)
  line : ∀ (console : Console) words style, console.width ≠ 0 →
    ∃ drawn, draw console (.line words style) = drawn.flatten ∧
      List.Forall₂ (fun line => DressedLine console.colored (partsOf line)) (linesOf words) drawn

/-- What a renderer draws of prints one after the other. -/
def drawn (draw : Console → Print → List Char) (console : Console) (prints : List Print) : String :=
  String.ofList (prints.flatMap (draw console))

theorem isCode_of_mem_codes (style : Style) : ∀ c ∈ style.codes.toList, isCode c = true := by
  rw [← List.all_eq_true]
  cases style <;> decide

theorem dressed_styled (console : Console) (style : Style) (cs : List Char) :
    Dressed console.colored cs (console.styled style cs) := by
  obtain ⟨width, colored⟩ := console
  by_cases hbare : colored = false ∨ style = .plain ∨ cs = []
  · rw [styled, if_pos hbare]
    exact .bare
  · have hcolored : colored = true := by
      rw [not_or, Bool.not_eq_false] at hbare
      exact hbare.1
    have hreset : "\u001B[0m".toList = '\u001B' :: '[' :: (['0'] ++ ['m']) := by decide
    have hzero : ∀ c ∈ ['0'], isCode c = true := List.forall_mem_singleton.mpr (by decide)
    have hcoded := Dressed.coded cs (isCode_of_mem_codes style) hzero
    rw [styled, if_neg hbare, hreset, hcolored]
    simpa using hcoded

theorem dressedLine_styled (console : Console) (style : Style) (parts : List (List Char)) :
    DressedLine console.colored parts (parts.flatMap (console.styled style) ++ ['\n']) := by
  refine ⟨parts.map (console.styled style), ?_, by rw [List.flatMap_def]⟩
  rw [List.forall₂_map_right_iff, List.forall₂_same]
  exact fun part _ => dressed_styled console style part

theorem renders_render : Renders render where
  nothing colored print hraw := by
    cases print with
    | raw words => exact absurd rfl (hraw words)
    | _ => rfl
  blank console hwidth := if_neg hwidth
  rule console hwidth := by
    have hline := dressedLine_styled console .cyan [List.replicate console.width '─']
    rw [List.flatMap_singleton] at hline
    rwa [render, if_neg hwidth]
  line console words style hwidth := by
    refine ⟨(linesOf words).map (console.lineText style), ?_, ?_⟩
    · rw [render, if_neg hwidth, linesOf, List.flatMap_def]
    · rw [List.forall₂_map_right_iff, List.forall₂_same]
      exact fun line _ => dressedLine_styled console style _

/-- Whether a print is made of whole lines without the escape character. -/
def Unescaped : Print → Prop
  | .blank => True
  | .rule => True
  | .line words _ => '\u001B' ∉ words.toList
  | .wrapped _ => False
  | .raw _ => False

@[simp]
theorem unescaped_blank : Unescaped .blank :=
  trivial

@[simp]
theorem unescaped_rule : Unescaped .rule :=
  trivial

@[simp]
theorem unescaped_line {words : String} {style : Style} : Unescaped (.line words style) ↔ '\u001B' ∉ words.toList :=
  Iff.rfl

theorem Dressed.uncodes {colored : Bool} {part dressed : List Char} (h : Dressed colored part dressed)
    (hpart : '\u001B' ∉ part) : Uncodes dressed part := by
  cases h with
  | bare => exact uncodes_of_not_mem hpart
  | coded _ hcodes hreset =>
      have hcoded := ((uncodes_codes hcodes).append (uncodes_of_not_mem hpart)).append (uncodes_codes hreset)
      rwa [List.nil_append, List.append_nil] at hcoded

theorem Dressed.eq {part dressed : List Char} (h : Dressed false part dressed) : dressed = part := by
  cases h
  rfl

theorem DressedLine.uncodes {colored : Bool} {parts : List (List Char)} {drawn : List Char}
    (h : DressedLine colored parts drawn) (hparts : ∀ part ∈ parts, '\u001B' ∉ part) :
    Uncodes drawn (parts.flatten ++ ['\n']) := by
  obtain ⟨dressed, hdressed, rfl⟩ := h
  have hall : List.Forall₂ Uncodes dressed parts := by
    refine List.Forall₂.flip (List.forall₂_iff_zip.mpr ⟨hdressed.length_eq, fun {part coded} hmem => ?_⟩)
    exact (List.forall₂_zip hdressed hmem).uncodes (hparts part (List.of_mem_zip hmem).1)
  exact (Uncodes.flatten hall).append (uncodes_of_not_mem (by decide))

theorem DressedLine.eq {parts : List (List Char)} {drawn : List Char} (h : DressedLine false parts drawn) :
    drawn = parts.flatten ++ ['\n'] := by
  obtain ⟨dressed, hdressed, rfl⟩ := h
  have hsame : dressed = parts := by
    have hall := hdressed.imp fun _ _ hpart => hpart.eq.symm
    exact (List.forall₂_eq_eq_eq ▸ hall : parts = dressed).symm
  rw [hsame]

theorem not_mem_fillTabs {c : Char} (hspace : c ≠ ' ') {parts : List (List Char)} (h : ∀ part ∈ parts, c ∉ part) :
    ∀ part ∈ fillTabs parts, c ∉ part := by
  fun_induction fillTabs parts with
  | case1 => exact h
  | case2 last => exact h
  | case3 part next rest ih =>
      obtain ⟨hpart, hrest⟩ := List.forall_mem_cons.mp h
      refine List.forall_mem_cons.mpr ⟨?_, ih hrest⟩
      simp [fill, hpart, hspace]

/-- The parts of a line hold its characters, and spaces. -/
theorem not_mem_parts {c : Char} (hspace : c ≠ ' ') {line : List Char} (h : c ∉ line) :
    ∀ part ∈ partsOf line, c ∉ part :=
  not_mem_fillTabs hspace fun _ hpiece hmem => h (mem_of_mem_pieces hpiece hmem)

/-- A line without colours, its tabs filled up. -/
def filled (line : List Char) : List Char :=
  (partsOf line).flatten

theorem not_mem_filled {c : Char} (hspace : c ≠ ' ') {line : List Char} (h : c ∉ line) : c ∉ filled line := by
  intro hmem
  obtain ⟨part, hpart, hc⟩ := List.mem_flatten.mp hmem
  exact not_mem_parts hspace h part hpart hc

/-- A print without colours. -/
def plain (width : Nat) : Print → List Char
  | .rule => List.replicate width '─' ++ ['\n']
  | .line words _ => (linesOf words).flatMap (filled · ++ ['\n'])
  | _ => ['\n']

namespace Renders

variable {draw : Console → Print → List Char} {print : Print} {width : Nat}

/-- The colours of a print are taken out with their codes. -/
theorem uncodes (hdraw : Renders draw) (h : Unescaped print) (hwidth : width ≠ 0) (colored : Bool) :
    Uncodes (draw ⟨width, colored⟩ print) (plain width print) := by
  cases print with
  | raw words => cases h
  | wrapped words => cases h
  | blank =>
      rw [hdraw.blank _ hwidth]
      exact uncodes_of_not_mem (by decide)
  | rule =>
      have hrule := (hdraw.rule ⟨width, colored⟩ hwidth).uncodes (by simp)
      rwa [List.flatten_singleton] at hrule
  | line words style =>
      obtain ⟨drawn, hdrawn, hlines⟩ := hdraw.line ⟨width, colored⟩ words style hwidth
      have hall : List.Forall₂ Uncodes drawn ((linesOf words).map (filled · ++ ['\n'])) := by
        rw [List.forall₂_map_right_iff]
        refine List.Forall₂.flip (List.forall₂_iff_zip.mpr ⟨hlines.length_eq, fun {line shown} hmem => ?_⟩)
        refine (List.forall₂_zip hlines hmem).uncodes (not_mem_parts (by decide) fun hescape => h ?_)
        exact (List.mem_filter.mp (mem_of_mem_pieces (List.of_mem_zip hmem).1 hescape)).1
      rw [hdrawn, plain, List.flatMap_def]
      exact Uncodes.flatten hall

/-- Without colours there are no codes to take out. -/
theorem uncolored_eq (hdraw : Renders draw) (h : Unescaped print) (hwidth : width ≠ 0) :
    draw ⟨width, false⟩ print = plain width print := by
  cases print with
  | raw words => cases h
  | wrapped words => cases h
  | blank => exact hdraw.blank _ hwidth
  | rule =>
      have hrule := (hdraw.rule ⟨width, false⟩ hwidth).eq
      rwa [List.flatten_singleton] at hrule
  | line words style =>
      obtain ⟨drawn, hdrawn, hlines⟩ := hdraw.line ⟨width, false⟩ words style hwidth
      have hall : (linesOf words).map (filled · ++ ['\n']) = drawn := by
        rw [← List.forall₂_eq_eq_eq, List.forall₂_map_left_iff]
        exact hlines.imp fun _ _ hline => hline.eq.symm
      rw [hdrawn, plain, List.flatMap_def, hall]

theorem drawn_width_zero (hdraw : Renders draw) {prints : List Print} (h : ∀ print ∈ prints, Unescaped print)
    (colored : Bool) : drawn draw ⟨0, colored⟩ prints = "" := by
  have hnothing : ∀ print ∈ prints, draw ⟨0, colored⟩ print = [] := by
    intro print hprint
    refine hdraw.nothing colored print ?_
    rintro words rfl
    exact h _ hprint
  rw [drawn, List.flatMap_eq_nil_iff.mpr hnothing, String.ofList_nil]

theorem drawn_uncolored (hdraw : Renders draw) {prints : List Print} (h : ∀ print ∈ prints, Unescaped print)
    (hwidth : width ≠ 0) : (drawn draw ⟨width, false⟩ prints).toList = prints.flatMap (plain width) := by
  rw [drawn, String.toList_ofList]
  exact List.flatMap_congr fun print hprint => hdraw.uncolored_eq (h print hprint) hwidth

theorem withoutCodes_drawn (hdraw : Renders draw) {prints : List Print} (h : ∀ print ∈ prints, Unescaped print)
    (width : Nat) :
    withoutCodes (drawn draw ⟨width, true⟩ prints).toList = (drawn draw ⟨width, false⟩ prints).toList := by
  by_cases hwidth : width = 0
  · subst hwidth
    rw [hdraw.drawn_width_zero h, hdraw.drawn_width_zero h, String.toList_empty, withoutCodes]
  · rw [hdraw.drawn_uncolored h hwidth, drawn, String.toList_ofList]
    exact (Uncodes.flatMap fun print hprint => hdraw.uncodes (h print hprint) hwidth true).withoutCodes_eq

end Renders

/-- A row of what is printed: a rule, or a line. -/
inductive Row
  | rule
  | line (cs : List Char)
  deriving DecidableEq

/-- A row without colours, on a console of some width. -/
def Row.shown (width : Nat) : Row → List Char
  | .rule => List.replicate width '─' ++ ['\n']
  | .line cs => cs ++ ['\n']

/-- Rows without a line feed inside, among them the rules of what is printed. On every console with columns they are what
is printed. -/
structure Printed (draw : Console → Print → List Char) (prints : List Print) (rows : List Row) : Prop where
  unbroken : ∀ cs, .line cs ∈ rows → '\n' ∉ cs
  rules : rows.count .rule = prints.count .rule
  shown : ∀ width, width ≠ 0 → (drawn draw ⟨width, false⟩ prints).toList = rows.flatMap (·.shown width)

/-- The rows of a print. -/
def rowsOf : Print → List Row
  | .rule => [.rule]
  | .line words _ => (linesOf words).map (.line <| filled ·)
  | _ => [.line []]

theorem flatMap_shown_rowsOf (width : Nat) (print : Print) :
    (rowsOf print).flatMap (·.shown width) = plain width print := by
  cases print with
  | line words style =>
      rw [rowsOf, plain, List.flatMap_map]
      rfl
  | _ => exact List.flatMap_singleton ..

theorem count_rule_rowsOf (print : Print) : (rowsOf print).count .rule = [print].count .rule := by
  cases print with
  | line words style => rw [List.count_eq_zero.mpr (by simp [rowsOf]), List.count_eq_zero.mpr (by simp)]
  | _ => rfl

theorem unbroken_rowsOf {print : Print} {cs : List Char} (h : .line cs ∈ rowsOf print) : '\n' ∉ cs := by
  cases print with
  | line words style =>
      obtain ⟨line, hline, hcs⟩ := List.mem_map.mp h
      cases hcs
      exact not_mem_filled (by decide) (not_mem_of_mem_pieces hline)
  | rule => simp [rowsOf] at h
  | _ => simp_all [rowsOf]

/-- All renderers print the same rows, whose rules alone depend on the width. -/
theorem printed_rowsOf {draw : Console → Print → List Char} (hdraw : Renders draw) {prints : List Print}
    (h : ∀ print ∈ prints, Unescaped print) : Printed draw prints (prints.flatMap rowsOf) where
  unbroken cs hmem := by
    obtain ⟨print, -, hrow⟩ := List.mem_flatMap.mp hmem
    exact unbroken_rowsOf hrow
  rules := by
    clear h
    induction prints with
    | nil => rfl
    | cons print prints ih =>
        rw [List.flatMap_cons, List.count_append, count_rule_rowsOf, ih, ← List.count_append, List.singleton_append]
  shown width hwidth := by
    rw [hdraw.drawn_uncolored h hwidth, List.flatMap_assoc]
    exact List.flatMap_congr fun print _ => (flatMap_shown_rowsOf width print).symm

end Console

namespace Announcement

open Console

/-- A call for an announcement. -/
inductive Call
  | header (spec : Spec)
  | outcome (step : Step)
  | summary (report : Report)

namespace Call

/-- What a call announces in a run of so many steps. -/
def announcement (total : Int) : Call → Announcement
  | .header spec => ⟨Announcement.header total spec, none⟩
  | .outcome step => ofStep step
  | .summary report => Announcement.summary report

/-- Whether no words of a call hold the escape character. -/
def Unescaped : Call → Prop
  | .header spec => '\u001B' ∉ spec.label.toList
  | .outcome step => '\u001B' ∉ step.spec.label.toList ∧ '\u001B' ∉ step.reason.toList
  | .summary _ => True

/-- Whether the time that a call tells is finite. -/
def Finite : Call → Prop
  | .header _ => True
  | .outcome step => step.elapsed.isFinite = true
  | .summary report => report.elapsed.isFinite = true

end Call

/-- What calls print one after the other. -/
def printed (total : Int) (calls : List Call) : List Print :=
  calls.flatMap fun call => (call.announcement total).prints

/-- A time that is finite can be told. -/
theorem fault_of_finite {call : Call} (h : call.Finite) (total : Int) : (call.announcement total).fault = none := by
  cases call with
  | header spec => rfl
  | outcome step => exact ofStep_fault h
  | summary report => exact summary_fault h

theorem escape_not_mem_toDigits (n : Nat) : '\u001B' ∉ Nat.toDigits 10 n := by
  intro hmem
  exact absurd (Nat.isDigit_of_mem_toDigits (by decide) (by decide) hmem) (by decide)

theorem escape_not_mem_int (n : Int) : '\u001B' ∉ n.repr.toList := by
  have hnat : ∀ n : Nat, '\u001B' ∉ n.repr.toList := by
    intro n
    rw [Nat.toList_repr]
    exact escape_not_mem_toDigits n
  cases n with
  | ofNat n => exact hnat n
  | negSucc n =>
      have hsign : (Int.negSucc n).repr = "-" ++ (n + 1).repr := rfl
      rw [hsign, String.toList_append, List.mem_append, not_or]
      exact ⟨by decide, hnat (n + 1)⟩

theorem unescaped_titled {title : String} (h : '\u001B' ∉ title.toList) :
    ∀ print ∈ titled title, Unescaped print := by
  simp [titled, h]

theorem unescaped_header (total : Int) {spec : Spec} (h : '\u001B' ∉ spec.label.toList) :
    ∀ print ∈ Announcement.header total spec, Unescaped print := by
  refine unescaped_titled ?_
  simp [h, escape_not_mem_int]

theorem unescaped_outcomeLines {label : String} {outcome : Outcome} (hlabel : '\u001B' ∉ label.toList)
    (hreason : '\u001B' ∉ outcome.reason.toList) (seconds : Int) :
    ∀ print ∈ outcomeLines label outcome seconds, Unescaped print := by
  unfold outcomeLines
  cases outcome.result with
  | passed => simp [hlabel, escape_not_mem_int]
  | failed =>
      by_cases hbare : outcome.reason = ""
      · simp [hlabel, hbare, escape_not_mem_int]
      · simp [hlabel, hreason, hbare, escape_not_mem_int]
  | skipped => simp [hlabel, hreason]

theorem unescaped_ofStep {step : Step} (hlabel : '\u001B' ∉ step.spec.label.toList)
    (hreason : '\u001B' ∉ step.reason.toList) : ∀ print ∈ (ofStep step).prints, Unescaped print := by
  obtain ⟨spec, outcome⟩ := step
  cases outcome with
  | none => nofun
  | some outcome =>
      cases helapsed : outcome.elapsed.truncate with
      | error fault => simp [ofStep, helapsed]
      | ok seconds =>
          simp only [ofStep, helapsed]
          exact unescaped_outcomeLines hlabel hreason seconds

theorem unescaped_summary (report : Report) : ∀ print ∈ (Announcement.summary report).prints, Unescaped print := by
  have hstart : ∀ print ∈ titled "VERIFICATION SUMMARY" ++ counts report, Unescaped print := by
    refine List.forall_mem_append.mpr ⟨unescaped_titled (by decide), ?_⟩
    simp [counts, escape_not_mem_toDigits]
  have hverdict : Unescaped (verdict report) := by
    unfold verdict
    split
    · simp
    · simp [escape_not_mem_toDigits]
  cases helapsed : report.elapsed.truncate with
  | error fault =>
      simp only [Announcement.summary, helapsed]
      exact hstart
  | ok seconds =>
      simp only [Announcement.summary, helapsed]
      refine List.forall_mem_append.mpr ⟨hstart, ?_⟩
      simp [escape_not_mem_toDigits, escape_not_mem_int, hverdict]

/-- The words of a call are all that could bring the escape character into what it prints. -/
theorem unescaped_printed {calls : List Call} (h : ∀ call ∈ calls, call.Unescaped) (total : Int) :
    ∀ print ∈ printed total calls, Unescaped print := by
  intro print hmem
  obtain ⟨call, hcall, hprint⟩ := List.mem_flatMap.mp hmem
  have hwords := h call hcall
  cases call with
  | header spec => exact unescaped_header total hwords print hprint
  | outcome step => exact unescaped_ofStep hwords.1 hwords.2 print hprint
  | summary report => exact unescaped_summary report print hprint

/-- Calls whose times are finite are told to their end. Whatever draws them in the way that is taken for granted: with the
codes taken out, what is printed in colours is what is printed without them at the same width. Without colours it is the
same rows for all consoles with columns, of which only the rules are drawn to the width, and for one without columns it
is nothing. -/
theorem text_up_to_codes_and_rules (total : Int) {calls : List Call} (h : ∀ call ∈ calls, call.Unescaped) :
    ((∀ call ∈ calls, call.Finite) → ∀ call ∈ calls, (call.announcement total).fault = none) ∧
    Renders render ∧
    ∃ rows, ∀ draw, Renders draw →
      (∀ width, Text.withoutCodes (drawn draw ⟨width, true⟩ (printed total calls)).toList =
        (drawn draw ⟨width, false⟩ (printed total calls)).toList) ∧
      Printed draw (printed total calls) rows ∧
      ∀ colored, drawn draw ⟨0, colored⟩ (printed total calls) = "" := by
  have hprinted := unescaped_printed h total
  refine ⟨fun hfinite call hcall => fault_of_finite (hfinite call hcall) total, renders_render,
    (printed total calls).flatMap rowsOf, fun draw hdraw => ?_⟩
  exact ⟨hdraw.withoutCodes_drawn hprinted, printed_rowsOf hdraw hprinted, hdraw.drawn_width_zero hprinted⟩

/-- A step that failed, with a tab and a second line in its reason. -/
def failedLint : Step :=
  ⟨⟨1, "lint", "Lint", .scan, false⟩, some ⟨.failed, .zero, "a\tb\nc"⟩⟩

theorem text_up_to_codes_and_rules_of_failed :
    (∀ call ∈ [Call.header failedLint.spec, .outcome failedLint], call.Unescaped) ∧
      Text.withoutCodes (text ⟨3, true⟩ (printed 7 [.header failedLint.spec, .outcome failedLint])).toList =
        "\n───\n[1/7] Lint\n───\n✗ Lint FAILED (0s)\n  a     b\nc\n".toList := by
  have hwords : ∀ call ∈ [Call.header failedLint.spec, .outcome failedLint], call.Unescaped := by
    simp [Call.Unescaped, Step.reason, failedLint]
  obtain ⟨-, hrender, rows, hall⟩ := text_up_to_codes_and_rules 7 hwords
  refine ⟨hwords, ((hall render hrender).1 3).trans ?_⟩
  decide +kernel

/-- A console without columns shows nothing of an outcome, which has no rules. So no rows are the same at every width. -/
theorem no_rows_at_every_width :
    ¬ ∃ rows : List Row, ∀ width, (text ⟨width, false⟩ (printed 7 [.outcome failedLint])).toList =
      rows.flatMap (·.shown width) := by
  rintro ⟨rows, hshown⟩
  -- At width zero the rows show nothing, though each would end in a line feed.
  have hzero : rows.flatMap (·.shown 0) = [] := (hshown 0).symm
  have hempty : rows = [] := by
    cases rows with
    | nil => rfl
    | cons row rows => cases row <;> simp [Row.shown] at hzero
  have hone := hshown 1
  rw [hempty] at hone
  revert hone
  decide +kernel

end Announcement

end PreMerge
