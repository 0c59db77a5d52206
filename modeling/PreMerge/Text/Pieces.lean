/-! Cutting a list at every occurrence of a separator: lines at line feeds, paths at slashes. There is
always at least one piece, and a separator at the end leaves an empty one behind it. Pieces put
together again around the separator give back the list (`joinPieces_pieces`). -/

namespace PreMerge.Text

variable {α : Type} [DecidableEq α]

/-- Puts one more element in front of the first piece. -/
def consFirst (x : α) : List (List α) → List (List α)
  | [] => [[x]]
  | piece :: more => (x :: piece) :: more

/-- The pieces between separators. -/
def pieces (sep : α) : List α → List (List α)
  | [] => [[]]
  | x :: xs => if x = sep then [] :: pieces sep xs else consFirst x (pieces sep xs)

/-- The list whose pieces these are. -/
def joinPieces (sep : α) : List (List α) → List α
  | [] => []
  | [piece] => piece
  | piece :: next :: more => piece ++ sep :: joinPieces sep (next :: more)

theorem pieces_ne_nil (sep : α) (xs : List α) : pieces sep xs ≠ [] := by
  cases xs with
  | nil => simp [pieces]
  | cons x xs =>
    simp only [pieces]
    split
    · simp
    · cases pieces sep xs <;> simp [consFirst]

omit [DecidableEq α] in
theorem joinPieces_consFirst (sep x : α) {ps : List (List α)} (h : ps ≠ []) :
    joinPieces sep (consFirst x ps) = x :: joinPieces sep ps := by
  match ps, h with
  | [_], _ => simp [consFirst, joinPieces]
  | _ :: _ :: _, _ => simp [consFirst, joinPieces]

theorem joinPieces_pieces (sep : α) (xs : List α) : joinPieces sep (pieces sep xs) = xs := by
  induction xs with
  | nil => rfl
  | cons x xs ih =>
    have hne := pieces_ne_nil sep xs
    simp only [pieces]
    split
    · next h =>
      cases hp : pieces sep xs with
      | nil => exact absurd hp hne
      | cons p ps => rw [hp] at ih; simp [joinPieces, ih, h]
    · rw [joinPieces_consFirst sep x hne, ih]

theorem pieces_append_sep (sep : α) (xs ys : List α) :
    pieces sep (xs ++ sep :: ys) = pieces sep xs ++ pieces sep ys := by
  induction xs with
  | nil => simp [pieces]
  | cons x xs ih =>
    simp only [List.cons_append, pieces, ih]
    split
    · rfl
    · cases hp : pieces sep xs with
      | nil => exact absurd hp (pieces_ne_nil sep xs)
      | cons p ps => rfl

theorem not_mem_of_mem_pieces {sep : α} {xs piece : List α} (h : piece ∈ pieces sep xs) :
    sep ∉ piece := by
  induction xs generalizing piece with
  | nil => simp [pieces] at h; simp [h]
  | cons x xs ih =>
    simp only [pieces] at h
    split at h
    · rcases List.mem_cons.1 h with rfl | h
      · simp
      · exact ih h
    · next hx =>
      cases hp : pieces sep xs with
      | nil => exact absurd hp (pieces_ne_nil sep xs)
      | cons p ps =>
        rw [hp] at h ih
        rcases List.mem_cons.1 h with rfl | h
        · simp [Ne.symm hx, ih (List.mem_cons_self ..)]
        · exact ih (List.mem_cons_of_mem _ h)

end PreMerge.Text
