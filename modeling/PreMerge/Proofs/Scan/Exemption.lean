import PreMerge.Proofs.Text.Lines
import PreMerge.Scan.Exempt

/-! Exempt files, told by the components of their paths. A component is what stands between slashes and says
something. Tooling is known by a whole component before the last one (`inTooling_iff`), although the text of the
path is searched for it: what stands between two slashes is one of the pieces (`mem_dropLast_pieces_iff`). So all
spellings of a path with the same components are exempt alike (`exempt_by_components`). -/

namespace PreMerge

namespace Text

variable {α : Type} [DecidableEq α] {sep : α} {word first : List α}

theorem delimited_prefix_iff (hword : sep ∉ word) (hfirst : sep ∉ first) (rest : List α) :
    word ++ [sep] <+: first ++ sep :: rest ↔ word = first := by
  constructor
  · rintro ⟨more, hmore⟩
    rw [← List.append_cons] at hmore
    have hpieces := congrArg (pieces sep) hmore
    rw [pieces_cons_of_not_mem hword, pieces_cons_of_not_mem hfirst] at hpieces
    exact (List.cons.inj hpieces).1
  · rintro rfl
    exact ⟨rest, (List.append_cons word sep rest).symm⟩

/-- A piece with another one behind it is what stands before a separator, at the start or behind a separator. -/
theorem mem_dropLast_pieces_iff (hword : sep ∉ word) (xs : List α) :
    word ∈ (pieces sep xs).dropLast ↔ word ++ [sep] <+: xs ∨ sep :: (word ++ [sep]) <:+: xs := by
  induction xs using pieces_induction sep with
  | whole xs hxs =>
      rw [pieces_of_not_mem hxs, List.dropLast_singleton]
      constructor
      · nofun
      · rintro (hstart | hwithin)
        · exact absurd (hstart.subset (by simp)) hxs
        · exact absurd (hwithin.subset List.mem_cons_self) hxs
  | cut first rest hfirst ih =>
      rw [pieces_cons_of_not_mem hfirst, List.dropLast_cons_of_ne_nil (pieces_ne_nil sep rest), List.mem_cons, ih,
        delimited_prefix_iff hword hfirst, infix_append_iff hfirst, List.infix_cons_iff, List.cons_prefix_cons]
      simp

end Text

namespace Path

/-- The pieces of the text of a path are its parts, behind an empty one for each slash that it starts with. -/
theorem pieces_text {path : Path} (hne : path.parts ≠ []) (hslash : ∀ part ∈ path.parts, '/' ∉ part.toList) :
    Text.pieces '/' path.text.toList =
      (slashes path.anchor).toList.map (fun _ => []) ++ path.parts.map String.toList := by
  have hnames := Text.pieces_intercalate hne hslash
  obtain ⟨anchor, parts⟩ := path
  have htext : (Path.mk anchor parts).text = slashes anchor ++ "/".intercalate parts := if_neg fun h => hne h.2
  rw [htext, String.toList_append]
  cases anchor with
  | here => simpa [slashes] using hnames
  | root => simpa [slashes, Text.pieces] using hnames
  | doubleRoot => simpa [slashes, Text.pieces] using hnames

theorem mem_dropLast_parts_iff {path : Path} (hslash : ∀ part ∈ path.parts, '/' ∉ part.toList) {name : String}
    (hname : name ≠ "") :
    name ∈ path.parts.dropLast ↔ name.toList ∈ (Text.pieces '/' path.text.toList).dropLast := by
  have hempty : name.toList ≠ [] := by simpa using hname
  by_cases hne : path.parts = []
  · obtain ⟨anchor, parts⟩ := path
    obtain rfl : parts = [] := hne
    cases anchor <;> simp [text, slashes, Text.pieces, Text.consFirst, hempty]
  · rw [pieces_text hne hslash, List.dropLast_append_of_ne_nil (by simpa using hne), List.mem_append,
      ← List.map_dropLast, List.mem_map_of_injective fun _ _ => String.toList_inj.mp]
    simp [hname]

end Path

namespace Scan

theorem holds_iff {part text : List Char} : holds part text = true ↔ part <:+: text := by
  induction text with
  | nil => simp [holds]
  | cons c rest ih => rw [holds, Bool.or_eq_true, ih, List.isPrefixOf_iff_prefix, List.infix_cons_iff]

/-- Whether a name has a mark of tests. -/
def Marked (name : String) : Prop :=
  ∃ mark ∈ [".test.", ".spec.", "__tests__"], mark.toList <:+: name.toList

theorem namesTest_iff {name : String} : namesTest name = true ↔ Marked name := by
  simp only [namesTest, testMarks, Marked, List.any_eq_true, holds_iff]

/-- A path goes through tooling if and only if a part before its last one has just that name. -/
theorem inTooling_iff {path : Path} (hslash : ∀ part ∈ path.parts, '/' ∉ part.toList) :
    inTooling path.text.toList = true ↔ "scripts" ∈ path.parts.dropLast := by
  have hword : '/' ∉ "scripts".toList := by decide
  rw [inTooling, Bool.or_eq_true, List.isPrefixOf_iff_prefix, holds_iff,
    Path.mem_dropLast_parts_iff hslash (by decide), Text.mem_dropLast_pieces_iff hword]
  simp

theorem namesTest_name_iff {path : Path} :
    namesTest path.name = true ↔ ∃ last, path.parts.getLast? = some last ∧ Marked last := by
  rw [Path.name, namesTest_iff]
  cases path.parts.getLast? with
  | none => simp [Marked]
  | some last => simp

/-- What stands between the slashes of a path and says something. -/
def components (text : String) : List String :=
  ((text.toList.splitOn '/').filter fun piece => piece ≠ [] ∧ piece ≠ ['.']).map String.ofList

theorem parts_ofString (text : String) : (Path.ofString text).parts = components text := by
  have hpart : Path.isPart = fun piece => decide (piece ≠ [] ∧ piece ≠ ['.']) := by
    funext piece
    rw [Bool.eq_iff_iff]
    simp [Path.isPart]
  rw [Path.ofString, components, Text.pieces_eq_splitOn, hpart]

theorem slash_not_mem_components (text : String) : ∀ part ∈ components text, '/' ∉ part.toList := by
  intro part hpart
  obtain ⟨piece, hpiece, rfl⟩ := List.mem_map.mp hpart
  rw [← Text.pieces_eq_splitOn] at hpiece
  rw [String.toList_ofList]
  exact Text.not_mem_of_mem_pieces (List.mem_filter.mp hpiece).1

theorem isExempt_iff (text : String) : isExempt (.ofString text) = true ↔
    (∃ last, (components text).getLast? = some last ∧ Marked last) ∨ "scripts" ∈ (components text).dropLast := by
  have hslash : ∀ part ∈ (Path.ofString text).parts, '/' ∉ part.toList := by
    rw [parts_ofString]
    exact slash_not_mem_components text
  rw [isExempt, Bool.or_eq_true, namesTest_name_iff, inTooling_iff hslash, parts_ofString]

theorem isExempt_congr {text other : String} (h : components other = components text) :
    isExempt (.ofString other) = isExempt (.ofString text) := by
  rw [Bool.eq_iff_iff, isExempt_iff, isExempt_iff, h]

theorem isExempt_of_components {text last : String} {front : List String} (h : components text = front ++ [last]) :
    isExempt (.ofString text) = true ↔ Marked last ∨ "scripts" ∈ front := by
  rw [isExempt_iff, h, List.dropLast_concat, List.getLast?_concat]
  simp

/-- What is before a slash and what is behind it fall into components by themselves. -/
theorem components_slash (front back : String) :
    components (front ++ "/" ++ back) = components front ++ components back := by
  have hslash : (front ++ "/" ++ back).toList = front.toList ++ '/' :: back.toList := by simp
  rw [components, hslash, ← Text.pieces_eq_splitOn, Text.pieces_append_sep, List.filter_append, List.map_append,
    Text.pieces_eq_splitOn, Text.pieces_eq_splitOn, ← components, ← components]

/-- A piece that says nothing adds no component, wherever it is written. -/
theorem components_idle {idle : String} (h : components idle = []) (front back : String) :
    components (front ++ "/" ++ (idle ++ "/" ++ back)) = components (front ++ "/" ++ back) := by
  rw [components_slash, components_slash, components_slash, h, List.nil_append]

/-- A path is exempt if its last component has a mark of tests, or if one before the last is that of tooling. So no
component that says nothing and no slash more makes a difference, nor where the path starts; and neither does the
name of tooling in a longer one or at the end, nor a mark in the name of a directory. -/
theorem exempt_by_components (text : String) :
    (isExempt (.ofString text) = true ↔
      (∃ last, (components text).getLast? = some last ∧ Marked last) ∨ "scripts" ∈ (components text).dropLast) ∧
    (∀ front back, text = front ++ "/" ++ back →
      isExempt (.ofString (front ++ "/./" ++ back)) = isExempt (.ofString text) ∧
      isExempt (.ofString (front ++ "//" ++ back)) = isExempt (.ofString text)) ∧
    isExempt (.ofString ("./" ++ text)) = isExempt (.ofString text) ∧
    isExempt (.ofString (text ++ "/")) = isExempt (.ofString text) ∧
    isExempt (.ofString ("/" ++ text)) = isExempt (.ofString text) ∧
    isExempt (.ofString ("//" ++ text)) = isExempt (.ofString text) ∧
    (∀ front last, components text = front ++ [last] → (∀ directory ∈ front, directory ≠ "scripts") →
      (isExempt (.ofString text) = true ↔ Marked last)) ∧
    (∀ front, components text = front ++ ["scripts"] →
      (isExempt (.ofString text) = true ↔ "scripts" ∈ front)) := by
  have hnone : components "" = [] := by decide
  have hdot : components "." = [] := by decide
  have hstart : components ("/" ++ text) = components text := by
    have h := components_slash "" text
    rwa [String.empty_append, hnone, List.nil_append] at h
  refine ⟨isExempt_iff text, ?_, isExempt_congr ?_, isExempt_congr ?_, isExempt_congr hstart, isExempt_congr ?_, ?_, ?_⟩
  · rintro front back rfl
    constructor
    · apply isExempt_congr
      rw [← components_idle hdot front back]
      exact congrArg components (String.toList_injective (by simp))
    · apply isExempt_congr
      rw [← components_idle hnone front back]
      exact congrArg components (String.toList_injective (by simp))
  · show components (("." ++ "/") ++ text) = components text
    rw [components_slash, hdot, List.nil_append]
  · have h := components_slash text ""
    rwa [String.append_empty, hnone, List.append_nil] at h
  · have h := components_slash "" ("/" ++ text)
    rw [hnone, List.nil_append, hstart] at h
    rw [← h]
    exact congrArg components (String.toList_injective (by simp))
  · intro front last hlast hfront
    rw [isExempt_of_components hlast]
    exact or_iff_left fun hmem => hfront _ hmem rfl
  · intro front hlast
    have hplain : ¬ Marked "scripts" := by
      unfold Marked
      decide
    rw [isExempt_of_components hlast]
    exact or_iff_right hplain

/-- A mark in the name of a directory, the name of tooling in a longer one and at the end; and the same path with
that of tooling in the middle, written with two slashes in front. -/
theorem exempt_by_components_of_directories :
    isExempt (.ofString "a.test.d/manuscripts/scripts") = false ∧
    isExempt (.ofString "//a.test.d/scripts/manuscripts/scripts") = true := by
  obtain ⟨-, -, -, -, -, -, -, hlast⟩ := exempt_by_components "a.test.d/manuscripts/scripts"
  obtain ⟨hexempt, -⟩ := exempt_by_components "//a.test.d/scripts/manuscripts/scripts"
  constructor
  · rw [← Bool.not_eq_true, hlast ["a.test.d", "manuscripts"] (by decide +kernel)]
    decide
  · rw [hexempt]
    exact .inr (by decide +kernel)

end Scan

end PreMerge
