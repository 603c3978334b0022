import Mathlib
import NamedQuery.Proofs.Decimal.Value
import NamedQuery.Store.Chunk

/-!
# Pieces of a list

A list is cut from its front, piece by piece, so every piece but the last one has the full size.
That says how many there are:

* `CutsInto` — consecutive pieces, all of one size but the last, which may be shorter;
* `CutsInto.length_eq` — their number;
* `chunksOf_cutsInto` — the pieces that are cut;
* `chunk_eq_ok`, `chunk_eq_error` — the sizes that are accepted are the positive integers.
-/

namespace NamedQuery

variable {α : Type} {size fuel : Nat} {xs piece : List α} {pieces : List (List α)}

/-- Consecutive pieces of a list, all of one size but the last, which may be shorter. -/
structure CutsInto (size : Nat) (xs : List α) (pieces : List (List α)) : Prop where
  flatten : pieces.flatten = xs
  nonempty : ∀ piece ∈ pieces, piece ≠ []
  bounded : ∀ piece ∈ pieces, piece.length ≤ size
  full : ∀ piece ∈ pieces.dropLast, piece.length = size

namespace CutsInto

theorem nil : CutsInto size ([] : List α) [] :=
  ⟨rfl, by simp, by simp, by simp⟩

/-- What is no longer than a piece is one. -/
theorem single (hne : xs ≠ []) (hlength : xs.length ≤ size) : CutsInto size xs [xs] :=
  ⟨List.flatten_singleton, by simpa using hne, by simpa using hlength, by simp⟩

/-- A full piece in front of others. -/
theorem cons (h : CutsInto size xs pieces) (hlength : piece.length = size) (hpos : 0 < size) :
    CutsInto size (piece ++ xs) (piece :: pieces) where
  flatten := by rw [List.flatten_cons, h.flatten]
  nonempty := List.forall_mem_cons.mpr
    ⟨List.ne_nil_of_length_pos (hlength ▸ hpos), h.nonempty⟩
  bounded := List.forall_mem_cons.mpr ⟨Nat.le_of_eq hlength, h.bounded⟩
  full := by
    -- the new piece is full, so it may stand in front of others
    cases pieces with
    | nil => simp
    | cons next pieces => exact List.forall_mem_cons.mpr ⟨hlength, h.full⟩

/-- **The number of pieces** is the length of the list by their size, rounded up. -/
theorem length_eq (h : CutsInto size xs pieces) : pieces.length = xs.length ⌈/⌉ size := by
  -- all pieces but the last are full
  rcases List.eq_nil_or_concat pieces with rfl | ⟨others, last, rfl⟩
  · rw [← h.flatten]
    simp
  · have hpos : 0 < last.length := List.length_pos_iff.mpr (h.nonempty last (by simp))
    have hle : last.length ≤ size := h.bounded last (by simp)
    have hfull : ∀ piece ∈ others, piece.length = size := by simpa using h.full
    have hothers : (others.map List.length).sum = others.length * size := by
      rw [List.sum_eq_card_nsmul _ size (by simpa using hfull), List.length_map, smul_eq_mul]
    have hlength : xs.length = others.length * size + last.length := calc
      xs.length = ((others.concat last).map List.length).sum := by
        rw [← h.flatten, List.length_flatten]
      _ = (others.map List.length).sum + last.length := by simp
      _ = others.length * size + last.length := by rw [hothers]
    -- what the last piece adds is more than nothing and no more than a full piece
    rw [hlength, Nat.ceilDiv_eq_add_pred_div, List.length_concat]
    refine (Nat.div_eq_of_lt_le ?_ ?_).symm <;> simp only [Nat.add_mul, Nat.one_mul] <;> omega

end CutsInto

/-! ### The pieces that are cut -/

theorem piecesOf_cutsInto (hpos : 0 < size) (h : xs.length ≤ fuel) :
    CutsInto size xs (piecesOf size fuel xs) := by
  -- the induction is on the fuel, and the list is never longer
  induction fuel generalizing xs with
  | zero =>
    obtain rfl : xs = [] := List.length_eq_zero_iff.mp (Nat.le_zero.mp h)
    exact .nil
  | succ fuel ih =>
    cases xs with
    | nil => exact .nil
    | cons x xs =>
      rw [piecesOf]
      by_cases hle : size ≤ (x :: xs).length
      · -- a piece takes one element at least, so the fuel lasts
        have hrest : CutsInto size ((x :: xs).drop size) (piecesOf size fuel _) :=
          ih (by rw [List.length_drop]; omega)
        have hcut := hrest.cons (List.length_take_of_le hle) hpos
        rwa [List.take_append_drop] at hcut
      · -- what is left is one piece, and nothing stands behind it
        have hshort : (x :: xs).length ≤ size := Nat.le_of_not_le hle
        have hnone : piecesOf size fuel ([] : List α) = [] := by cases fuel <;> rfl
        rw [List.take_of_length_le hshort, List.drop_of_length_le hshort, hnone]
        exact .single (List.cons_ne_nil x xs) hshort

/-- **A list is cut** into pieces. -/
theorem chunksOf_cutsInto (hpos : 0 < size) (xs : List α) :
    CutsInto size xs (chunksOf size xs) :=
  piecesOf_cutsInto hpos (Nat.le_refl _)

/-! ### Sizes -/

/-- A positive integer is a size. -/
theorem chunk_eq_ok {number : Float} (hpos : 0 < size)
    (h : Decimal.value? number = some (size : ℚ)) :
    chunk xs number = .ok (chunksOf size xs) := by
  have hwhole : Decimal.whole? number = some (size : Int) := by
    rw [Decimal.whole?_eq_some_iff, h, Int.cast_natCast]
  obtain ⟨n, rfl⟩ := Nat.exists_eq_succ_of_ne_zero (Nat.ne_of_gt hpos)
  rw [chunk, hwhole]

/-- No other number is one. -/
theorem chunk_eq_error {number : Float}
    (h : ∀ n : Nat, 0 < n → Decimal.value? number ≠ some (n : ℚ)) :
    chunk xs number = .error ⟨number⟩ := by
  unfold chunk
  split
  · next n hwhole =>
    have hvalue := Decimal.whole?_eq_some_iff.mp hwhole
    exact absurd (by exact_mod_cast hvalue) (h (n + 1) (Nat.succ_pos n))
  · rfl

end NamedQuery
