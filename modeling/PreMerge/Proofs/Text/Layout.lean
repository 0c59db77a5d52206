import Mathlib.Logic.ExistsUnique
import PreMerge.Proofs.Text.Lines

/-! The one layout of a text in lines and line ends. Every line ends in a line feed, except perhaps the last, and a
carriage return before the feed or at the very end of the text belongs to the line end. Each text has such a layout
(`Layout.exists_written`) and no second one (`Layout.written_injective`), and the lines in it are the physical lines
(`Layout.physicalLines_written`). So a text is its lines with the line ends put back, and the number of lines is read
off the line feeds (`laid_out_once`). -/

namespace PreMerge.Text

/-- A line, and whether a carriage return belongs to its end. Its text ends in one itself only where another one
follows. -/
@[ext]
structure Line where
  text : List Char
  returned : Bool
  unbroken : '\n' ∉ text
  trimmed : returned = false → text.getLast? ≠ some '\r'

namespace Line

/-- What belongs to the line end besides a line feed. -/
def ending (line : Line) : List Char :=
  if line.returned then ['\r'] else []

/-- The line as it stands between line feeds. -/
def written (line : Line) : List Char :=
  line.text ++ line.ending

theorem feed_not_mem_written (line : Line) : '\n' ∉ line.written := by
  have hending : '\n' ∉ line.ending := by
    rw [ending]
    split <;> decide
  rw [written, List.mem_append, not_or]
  exact ⟨line.unbroken, hending⟩

theorem dropReturn_written (line : Line) : dropReturn line.written = line.text := by
  rw [written, ending]
  split
  · exact dropReturn_concat line.text
  · next hreturned =>
    rw [List.append_nil]
    exact dropReturn_of_ne (line.trimmed (Bool.eq_false_iff.mpr hreturned))

theorem written_injective : Function.Injective written := by
  intro line other h
  have htext : line.text = other.text := by rw [← dropReturn_written, h, dropReturn_written]
  have hending : line.ending = other.ending := by
    rw [written, written, htext] at h
    exact List.append_cancel_left h
  refine Line.ext htext ?_
  rw [ending, ending] at hending
  cases hline : line.returned <;> cases hother : other.returned <;> simp [hline, hother] at hending ⊢

theorem exists_written {piece : List Char} (h : '\n' ∉ piece) : ∃ line : Line, line.written = piece := by
  by_cases hlast : piece.getLast? = some '\r'
  · obtain ⟨text, rfl⟩ := List.getLast?_eq_some_iff.mp hlast
    exact ⟨⟨text, true, fun hmem => h (List.mem_append_left _ hmem), nofun⟩, rfl⟩
  · exact ⟨⟨piece, false, h, fun _ => hlast⟩, List.append_nil piece⟩

end Line

/-- Lines with a line feed behind each of them, and perhaps one more that the text ends in. That one has no line feed,
so it is only there if it is not empty. -/
@[ext]
structure Layout where
  ended : List Line
  last : Option Line
  last_written : ∀ line ∈ last, line.written ≠ []

namespace Layout

variable (layout : Layout)

def lines : List Line :=
  layout.ended ++ layout.last.toList

def texts : List (List Char) :=
  layout.lines.map Line.text

def ends : List (List Char) :=
  layout.ended.map (fun line => line.ending ++ ['\n']) ++ layout.last.toList.map Line.ending

/-- What is behind the last line feed. -/
def rest : List Char :=
  layout.last.elim [] Line.written

/-- The text that is laid out so. -/
def written : List Char :=
  (layout.ended.map Line.written).flatMap (· ++ ['\n']) ++ layout.rest

theorem feed_not_mem_rest : '\n' ∉ layout.rest := by
  rw [rest]
  cases layout.last with
  | none => exact List.not_mem_nil
  | some line => exact line.feed_not_mem_written

theorem pieces_written : pieces '\n' layout.written = layout.ended.map Line.written ++ [layout.rest] := by
  rw [written, pieces_flatMap_concat (List.forall_mem_map.mpr fun line _ => line.feed_not_mem_written),
    pieces_of_not_mem layout.feed_not_mem_rest]

/-- There is a line behind the last line feed just if there is anything. -/
theorem dropEmptyLast_pieces_written :
    dropEmptyLast (pieces '\n' layout.written) = layout.lines.map Line.written := by
  rw [pieces_written, dropEmptyLast_append _ (List.cons_ne_nil _ []), lines, List.map_append, rest]
  congr 1
  cases hlast : layout.last with
  | none => rfl
  | some line =>
      have hne : [line.written].getLast? ≠ some [] := by simpa using layout.last_written line hlast
      exact if_neg hne

theorem physicalLines_written : physicalLines layout.written = layout.texts := by
  rw [physicalLines, dropEmptyLast_pieces_written, List.map_map, texts]
  exact List.map_congr_left fun line _ => line.dropReturn_written

theorem count_written : layout.written.count '\n' = layout.ended.length := by
  have hlength := length_pieces '\n' layout.written
  rw [pieces_written, List.length_append, List.length_map, List.length_singleton] at hlength
  omega

theorem written_injective : Function.Injective written := by
  intro layout other h
  -- the lines of both are the same, and as many of them are ended as there are line feeds
  have hlines : layout.lines = other.lines := by
    apply List.map_injective_iff.mpr Line.written_injective
    rw [← dropEmptyLast_pieces_written, h, dropEmptyLast_pieces_written]
  have hlength : layout.ended.length = other.ended.length := by rw [← count_written, h, count_written]
  obtain ⟨hended, hlast⟩ := List.append_inj hlines hlength
  refine Layout.ext hended (Option.ext fun line => ?_)
  rw [← Option.mem_toList, hlast, Option.mem_toList]

theorem exists_written (content : List Char) : ∃ layout : Layout, layout.written = content := by
  induction content using pieces_induction '\n' with
  | whole content hfeed =>
      by_cases hempty : content = []
      · exact ⟨⟨[], none, nofun⟩, hempty.symm⟩
      · obtain ⟨line, rfl⟩ := Line.exists_written hfeed
        exact ⟨⟨[], some line, by simpa using hempty⟩, rfl⟩
  | cut first content hfirst ih =>
      obtain ⟨line, rfl⟩ := Line.exists_written hfirst
      obtain ⟨layout, rfl⟩ := ih
      refine ⟨⟨line :: layout.ended, layout.last, layout.last_written⟩, ?_⟩
      simp [written, rest]

/-- The lines and their ends, put together in turn, are the text. -/
theorem flatten_texts_ends : (List.zipWith (· ++ ·) layout.texts layout.ends).flatten = layout.written := by
  have hended : List.zipWith (· ++ ·) (layout.ended.map Line.text)
      (layout.ended.map fun line => line.ending ++ ['\n']) = layout.ended.map fun line => line.written ++ ['\n'] := by
    rw [List.zipWith_map, List.zipWith_self]
    exact List.map_congr_left fun line _ => (List.append_assoc ..).symm
  have hlast : (List.zipWith (· ++ ·) (layout.last.toList.map Line.text)
      (layout.last.toList.map Line.ending)).flatten = layout.rest := by
    rw [rest]
    cases layout.last with
    | none => rfl
    | some line => exact List.append_nil line.written
  rw [texts, lines, ends, List.map_append, List.zipWith_append (by simp), List.flatten_append, hended, hlast, written,
    List.flatMap_map, List.flatMap_def]

theorem isSome_last_iff : layout.last.isSome ↔ layout.written ≠ [] ∧ layout.written.getLast? ≠ some '\n' := by
  rw [written, rest]
  cases hlast : layout.last with
  | none => rcases List.eq_nil_or_concat' layout.ended with hended | ⟨front, line, hended⟩ <;> simp [hended]
  | some line =>
      have hne := layout.last_written line hlast
      have hend : line.written.getLast? ≠ some '\n' := fun hfeed =>
        line.feed_not_mem_written (List.mem_of_getLast? hfeed)
      rw [Option.elim_some, List.getLast?_append_of_ne_nil _ hne]
      simp [hne, hend]

theorem length_lines : layout.lines.length = layout.written.count '\n' +
    if layout.written ≠ [] ∧ layout.written.getLast? ≠ some '\n' then 1 else 0 := by
  rw [lines, List.length_append, count_written]
  simp only [← isSome_last_iff]
  cases layout.last <;> rfl

end Layout

/-- Every text has one layout. Its physical lines are the lines of that, and with their ends they make up the text. So
there are as many lines as line feeds, and one more if something is behind the last of them. No line holds a line
feed, and of what stands between line feeds, a line lacks one carriage return at most. -/
theorem laid_out_once (content : List Char) :
    (∃! layout : Layout, layout.written = content) ∧
    (∀ layout : Layout, layout.written = content → physicalLines content = layout.texts ∧
      (List.zipWith (· ++ ·) (physicalLines content) layout.ends).flatten = content) ∧
    (physicalLines content).length = content.count '\n' +
      (if content ≠ [] ∧ content.getLast? ≠ some '\n' then 1 else 0) ∧
    (∀ line ∈ physicalLines content, '\n' ∉ line) ∧
    ∀ (index : Nat) (line : List Char), (physicalLines content)[index]? = some line →
      ∃ piece, (pieces '\n' content)[index]? = some piece ∧ (piece = line ∨ piece = line ++ ['\r']) := by
  obtain ⟨layout, rfl⟩ := Layout.exists_written content
  refine ⟨⟨layout, rfl, fun other hother => Layout.written_injective hother⟩, ?_, ?_, ?_, ?_⟩
  · intro other hother
    rw [← hother, other.physicalLines_written]
    exact ⟨rfl, other.flatten_texts_ends⟩
  · rw [layout.physicalLines_written, Layout.texts, List.length_map, layout.length_lines]
  · rw [layout.physicalLines_written, Layout.texts]
    exact List.forall_mem_map.mpr fun line _ => line.unbroken
  · intro index line hline
    obtain ⟨piece, hpiece, rfl⟩ := exists_piece_of_line hline
    exact ⟨piece, hpiece, dropReturn_cases piece⟩

/-- Two carriage returns before a line feed, of which one is the line's, an empty line, and a lone carriage return at
the end of the text. -/
theorem laid_out_once_of_doubled_returns :
    let content := "a\r\r\nb\n\n\r".toList
    let layout : Layout := ⟨[⟨['a', '\r'], true, by decide, by decide⟩, ⟨['b'], false, by decide, by decide⟩,
      ⟨[], false, by decide, by decide⟩], some ⟨[], true, by decide, by decide⟩, by decide⟩
    layout.written = content ∧
    physicalLines content = [['a', '\r'], ['b'], [], []] ∧
    layout.ends = [['\r', '\n'], ['\n'], ['\n'], ['\r']] ∧
    (List.zipWith (· ++ ·) (physicalLines content) layout.ends).flatten = content ∧
    ∃ piece, (pieces '\n' content)[0]? = some piece ∧ (piece = ['a', '\r'] ∨ piece = ['a', '\r'] ++ ['\r']) := by
  intro content layout
  obtain ⟨-, hlayout, -, -, hpieces⟩ := laid_out_once content
  have hwritten : layout.written = content := by decide
  obtain ⟨hlines, hflatten⟩ := hlayout layout hwritten
  exact ⟨hwritten, hlines, rfl, hflatten, hpieces 0 ['a', '\r'] (by decide)⟩

end PreMerge.Text
