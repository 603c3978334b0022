import NamedQuery.Decimal.Notation
import NamedQuery.Decimal.Whole

/-!
# Chunks

A list in consecutive pieces of a given size, the last one possibly shorter.
-/

namespace NamedQuery

/-- Pieces of `size` elements each; at most `fuel` of them. -/
def piecesOf {α : Type} (size : Nat) : (fuel : Nat) → List α → List (List α)
  | 0, _ => []
  | _, [] => []
  | fuel + 1, x :: xs => (x :: xs).take size :: piecesOf size fuel ((x :: xs).drop size)

/-- Consecutive pieces of `size` elements each, the last one possibly shorter. -/
def chunksOf {α : Type} (size : Nat) (xs : List α) : List (List α) :=
  piecesOf size xs.length xs

/-- A size that no chunk can have. -/
structure BadChunkSize where
  size : Float

def BadChunkSize.message (e : BadChunkSize) : String :=
  "Chunk size must be a positive integer, got " ++ Decimal.write e.size

/-- Consecutive pieces of a size that has to be a positive integer. -/
def chunk {α : Type} (xs : List α) (size : Float) : Except BadChunkSize (List (List α)) :=
  match Decimal.whole? size with
  | some (.ofNat (n + 1)) => .ok (chunksOf (n + 1) xs)
  | _ => .error ⟨size⟩

end NamedQuery
