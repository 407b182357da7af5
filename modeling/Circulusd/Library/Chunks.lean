import Mathlib.Tactic

/-
Lists cut into chunks of one size.
-/

namespace Circulusd.Chunks

open List

variable {α : Type}

def chunk (size index : Nat) (values : List α) : List α :=
  (values.drop (index * size)).take size

/-- The number of chunks is the quotient, rounded up. -/
def count (size length : Nat) : Nat :=
  (length + size - 1) / size

theorem length_le {size length : Nat} (positive : 0 < size) : length ≤ count size length * size := by
  unfold count
  have exact := Nat.div_add_mod (length + size - 1) size
  have bound := Nat.mod_lt (length + size - 1) positive
  rw [Nat.mul_comm] at exact
  omega

theorem chunk_length (size index : Nat) (values : List α) :
    (chunk size index values).length = min size (values.length - index * size) := by
  simp [chunk]

/-- The first chunks together are a beginning of the list. -/
theorem flatMap_chunk (size number : Nat) (values : List α) :
    (List.range number).flatMap (chunk size · values) = values.take (number * size) := by
  induction number with
  | zero => simp
  | succ number ih =>
    rw [range_succ, flatMap_append, ih, flatMap_singleton, chunk, Nat.add_mul, Nat.one_mul,
      take_add]

/-- All chunks together are the list. -/
theorem flatMap_chunk_all {size : Nat} (positive : 0 < size) (values : List α) :
    (List.range (count size values.length)).flatMap (chunk size · values) = values := by
  rw [flatMap_chunk, take_of_length_le (length_le positive)]

end Circulusd.Chunks
