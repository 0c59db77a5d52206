import Mathlib.Data.List.Infix
import PreMerge.Text.Lines

/-! How a text falls into lines. A piece without the separator is one piece, and whatever is behind a line feed is
cut as if it stood alone (`physicalLines_append`), so facts about lines are proved line by line (`pieces_induction`).
The place of a piece among all is the number of separators before it (`exists_around_piece`), and so is that of a
line (`exists_around_line`). What is put together around separators, or in front of them, is cut there again
(`pieces_intercalate`, `pieces_flatMap_concat`). -/

namespace PreMerge.Text

section Pieces

variable {α : Type} [DecidableEq α] {sep : α}

theorem pieces_of_not_mem {xs : List α} (h : sep ∉ xs) : pieces sep xs = [xs] := by
  induction xs with
  | nil => rfl
  | cons x xs ih =>
      rw [List.mem_cons, not_or] at h
      rw [pieces, if_neg (Ne.symm h.1), ih h.2, consFirst]

theorem pieces_cons_of_not_mem {xs : List α} (h : sep ∉ xs) (ys : List α) :
    pieces sep (xs ++ sep :: ys) = xs :: pieces sep ys := by
  rw [pieces_append_sep, pieces_of_not_mem h, List.singleton_append]

/-- What holds of a list without the separator, and of one more such list in front of a separator, holds of every
list. -/
theorem pieces_induction (sep : α) {motive : List α → Prop} (whole : ∀ xs, sep ∉ xs → motive xs)
    (cut : ∀ xs ys, sep ∉ xs → motive ys → motive (xs ++ sep :: ys)) (xs : List α) : motive xs := by
  induction hlength : xs.length using Nat.strongRecOn generalizing xs with
  | ind length ih =>
      by_cases hsep : sep ∈ xs
      · obtain ⟨first, rest, rfl, hfirst⟩ := List.eq_append_cons_of_mem hsep
        apply cut first rest hfirst
        apply ih rest.length _ rest rfl
        rw [← hlength, List.length_append, List.length_cons]
        omega
      · exact whole xs hsep

theorem length_pieces (sep : α) (xs : List α) : (pieces sep xs).length = xs.count sep + 1 := by
  induction xs using pieces_induction sep with
  | whole xs hxs => rw [pieces_of_not_mem hxs, List.length_singleton, List.count_eq_zero.mpr hxs]
  | cut first rest hfirst ih =>
      rw [pieces_cons_of_not_mem hfirst, List.length_cons, ih, List.count_append, List.count_cons_self,
        List.count_eq_zero.mpr hfirst]
      omega

/-- Lines that end in a separator are the first pieces. -/
theorem pieces_flatMap_concat {lines : List (List α)} (h : ∀ line ∈ lines, sep ∉ line) (rest : List α) :
    pieces sep (lines.flatMap (· ++ [sep]) ++ rest) = lines ++ pieces sep rest := by
  induction lines with
  | nil => rfl
  | cons line lines ih =>
      obtain ⟨hline, hlines⟩ := List.forall_mem_cons.mp h
      rw [List.flatMap_cons, List.append_assoc, ← List.append_cons, pieces_cons_of_not_mem hline, ih hlines,
        List.cons_append]

theorem mem_of_mem_pieces {x : α} {xs piece : List α} (hpiece : piece ∈ pieces sep xs) (hx : x ∈ piece) :
    x ∈ xs := by
  induction xs generalizing piece with
  | nil =>
      rw [pieces, List.mem_singleton] at hpiece
      rw [hpiece] at hx
      cases hx
  | cons y ys ih =>
      rw [pieces] at hpiece
      split at hpiece
      · rcases List.mem_cons.mp hpiece with rfl | hmore
        · cases hx
        · exact List.mem_cons_of_mem y (ih hmore hx)
      · obtain ⟨first, more, hpieces⟩ := List.exists_cons_of_ne_nil (pieces_ne_nil sep ys)
        rw [hpieces, consFirst] at hpiece
        rw [hpieces] at ih
        rcases List.mem_cons.mp hpiece with rfl | hmore
        · rcases List.mem_cons.mp hx with rfl | hfirst
          · exact List.mem_cons_self
          · exact List.mem_cons_of_mem y (ih List.mem_cons_self hfirst)
        · exact List.mem_cons_of_mem y (ih (List.mem_cons_of_mem first hmore) hx)

theorem pieces_eq_splitOn (sep : α) (xs : List α) : pieces sep xs = xs.splitOn sep := by
  induction xs with
  | nil => rw [pieces, List.splitOn_nil]
  | cons x xs ih =>
      rw [pieces, ih, List.splitOn_cons_eq_if_modifyHead]
      by_cases hx : x = sep
      · rw [if_pos hx, if_pos (beq_iff_eq.mpr hx)]
      · rw [if_neg hx, if_neg (by simpa using hx)]
        cases hpieces : xs.splitOn sep with
        | nil => exact absurd hpieces (List.splitOn_ne_nil sep xs)
        | cons piece more => rfl

/-- Names put together around slashes are the pieces of what they make. -/
theorem pieces_intercalate {names : List String} (hne : names ≠ []) (hslash : ∀ name ∈ names, '/' ∉ name.toList) :
    pieces '/' ("/".intercalate names).toList = names.map String.toList := by
  have hsep : "/".toList = ['/'] := by decide
  have hparts : (['/'].intercalate (names.map String.toList)).splitOn '/' = names.map String.toList := by
    refine List.splitOn_intercalate '/' ?_ (by simpa using hne)
    intro part hpart
    obtain ⟨name, hname, rfl⟩ := List.mem_map.mp hpart
    exact hslash name hname
  rw [pieces_eq_splitOn, String.toList_intercalate, hsep, hparts]

/-- A piece reaches from one separator to the next, and as many separators are before it as pieces. -/
theorem exists_around_piece {xs piece : List α} {index : Nat} (h : (pieces sep xs)[index]? = some piece) :
    ∃ before after, xs = before ++ piece ++ after ∧ sep ∉ piece ∧ before.count sep = index ∧
      (before = [] ∨ before.getLast? = some sep) ∧ (after = [] ∨ after.head? = some sep) := by
  induction xs using pieces_induction sep generalizing index with
  | whole xs hxs =>
      rw [pieces_of_not_mem hxs] at h
      cases index with
      | zero =>
          obtain rfl := Option.some_inj.mp h
          exact ⟨[], [], by simp, hxs, rfl, .inl rfl, .inl rfl⟩
      | succ index => cases h
  | cut first rest hfirst ih =>
      rw [pieces_cons_of_not_mem hfirst] at h
      cases index with
      | zero =>
          obtain rfl := Option.some_inj.mp h
          exact ⟨[], sep :: rest, rfl, hfirst, rfl, .inl rfl, .inr rfl⟩
      | succ index =>
          obtain ⟨before, after, rfl, hpiece, hcount, hbefore, hafter⟩ := ih h
          refine ⟨first ++ sep :: before, after, by simp, hpiece, ?_, .inr ?_, hafter⟩
          · rw [List.count_append, List.count_cons_self, List.count_eq_zero.mpr hfirst, hcount, Nat.zero_add]
          · rcases hbefore with rfl | hlast
            · exact List.getLast?_concat
            · rw [List.getLast?_append, List.getLast?_cons, hlast]
              rfl

/-- What reaches from one separator to the next is the piece behind as many others as separators are before it. -/
theorem getElem?_pieces {before piece after : List α} (hpiece : sep ∉ piece)
    (hbefore : before = [] ∨ before.getLast? = some sep) (hafter : after = [] ∨ after.head? = some sep) :
    (pieces sep (before ++ (piece ++ after)))[before.count sep]? = some piece := by
  have hfirst : (pieces sep (piece ++ after))[0]? = some piece := by
    cases after with
    | nil => rw [List.append_nil, pieces_of_not_mem hpiece, List.getElem?_cons_zero]
    | cons c after =>
        obtain rfl : c = sep := by simpa using hafter
        rw [pieces_cons_of_not_mem hpiece, List.getElem?_cons_zero]
  rcases hbefore with rfl | hlast
  · exact hfirst
  · obtain ⟨start, rfl⟩ := List.getLast?_eq_some_iff.mp hlast
    have hcount : (start ++ [sep]).count sep = (pieces sep start).length := by simp [length_pieces]
    rw [← List.append_cons, pieces_append_sep, hcount, List.getElem?_append_right (Nat.le_refl _), Nat.sub_self, hfirst]

omit [DecidableEq α] in
theorem infix_append_iff {first : List α} (hfirst : sep ∉ first) (word text : List α) :
    sep :: word <:+: first ++ text ↔ sep :: word <:+: text := by
  induction first with
  | nil => rfl
  | cons c first ih =>
      rw [List.mem_cons, not_or] at hfirst
      rw [List.cons_append, List.infix_cons_iff, List.cons_prefix_cons, ih hfirst.2]
      simp [hfirst.1]

end Pieces

/-- Dropping the empty last piece renumbers no other. -/
theorem getElem?_of_dropEmptyLast {ps : List (List Char)} {index : Nat} {piece : List Char}
    (h : (dropEmptyLast ps)[index]? = some piece) : ps[index]? = some piece := by
  have hstart : dropEmptyLast ps <+: ps := by
    unfold dropEmptyLast
    split
    · exact List.dropLast_prefix ps
    · exact List.prefix_refl ps
  obtain ⟨last, hlast⟩ := hstart
  rw [← hlast, List.getElem?_append_left (List.getElem?_eq_some_iff.mp h).1, h]

theorem getElem?_dropEmptyLast {ps : List (List Char)} {index : Nat} {piece : List Char}
    (h : ps[index]? = some piece) (hne : piece ≠ []) : (dropEmptyLast ps)[index]? = some piece := by
  unfold dropEmptyLast
  split
  · next hlast =>
    obtain ⟨front, rfl⟩ := List.getLast?_eq_some_iff.mp hlast
    have hlt : index < front.length := by
      by_contra hge
      have hmem := List.mem_of_getElem? ((List.getElem?_append_right (by omega)).symm.trans h)
      exact hne (List.mem_singleton.mp hmem)
    rw [List.dropLast_concat, ← List.getElem?_append_left hlt, h]
  · exact h

theorem dropEmptyLast_append (ps : List (List Char)) {qs : List (List Char)} (h : qs ≠ []) :
    dropEmptyLast (ps ++ qs) = ps ++ dropEmptyLast qs := by
  have hlast : (ps ++ qs).getLast? = qs.getLast? := by
    rw [List.getLast?_append, List.getLast?_eq_some_getLast h, Option.some_or]
  unfold dropEmptyLast
  rw [hlast]
  split
  · exact List.dropLast_append_of_ne_nil h
  · rfl

/-- What is behind a line feed is cut into lines by itself. -/
theorem physicalLines_append (text more : List Char) :
    physicalLines (text ++ '\n' :: more) = (pieces '\n' text).map dropReturn ++ physicalLines more := by
  rw [physicalLines, pieces_append_sep, dropEmptyLast_append _ (pieces_ne_nil '\n' more), List.map_append,
    physicalLines]

theorem physicalLines_cons {line : List Char} (h : '\n' ∉ line) (more : List Char) :
    physicalLines (line ++ '\n' :: more) = dropReturn line :: physicalLines more := by
  rw [physicalLines_append, pieces_of_not_mem h, List.map_singleton, List.singleton_append]

theorem dropReturn_concat (line : List Char) : dropReturn (line ++ ['\r']) = line := by
  rw [dropReturn, if_pos List.getLast?_concat, List.dropLast_concat]

theorem dropReturn_of_ne {line : List Char} (h : line.getLast? ≠ some '\r') : dropReturn line = line :=
  if_neg h

theorem dropReturn_cases (piece : List Char) : piece = dropReturn piece ∨ piece = dropReturn piece ++ ['\r'] := by
  by_cases hlast : piece.getLast? = some '\r'
  · obtain ⟨line, rfl⟩ := List.getLast?_eq_some_iff.mp hlast
    exact .inr (by rw [dropReturn_concat])
  · exact .inl (dropReturn_of_ne hlast).symm

theorem exists_piece_of_line {content line : List Char} {index : Nat}
    (h : (physicalLines content)[index]? = some line) :
    ∃ piece, (pieces '\n' content)[index]? = some piece ∧ line = dropReturn piece := by
  rw [physicalLines, List.getElem?_map, Option.map_eq_some_iff] at h
  obtain ⟨piece, hpiece, rfl⟩ := h
  exact ⟨piece, getElem?_of_dropEmptyLast hpiece, rfl⟩

/-- Around a physical line are line feeds, one of them perhaps with a carriage return, or the ends of the text. -/
theorem exists_around_line {content line : List Char} {index : Nat}
    (h : (physicalLines content)[index]? = some line) :
    ∃ before after, content = before ++ (line ++ after) ∧ '\n' ∉ line ∧ before.count '\n' = index ∧
      (before = [] ∨ before.getLast? = some '\n') ∧
      (after = [] ∨ after.head? = some '\n' ∨ after.head? = some '\r') := by
  obtain ⟨piece, hpiece, rfl⟩ := exists_piece_of_line h
  obtain ⟨before, after, rfl, hwhole, hcount, hbefore, hafter⟩ := exists_around_piece hpiece
  rcases dropReturn_cases piece with hkept | hdropped
  · rw [← hkept]
    exact ⟨before, after, List.append_assoc .., hwhole, hcount, hbefore, hafter.imp_right .inl⟩
  · rw [hdropped, List.mem_append, not_or] at hwhole
    refine ⟨before, '\r' :: after, ?_, hwhole.1, hcount, hbefore, .inr (.inr rfl)⟩
    rw [List.append_assoc]
    nth_rewrite 1 [hdropped]
    simp

end PreMerge.Text
