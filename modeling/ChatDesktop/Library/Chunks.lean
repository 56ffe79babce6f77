import Mathlib.Tactic.Common

namespace ChatDesktop.Library.Chunks

variable {α : Type} {size : ℕ} {l : List α} {i k : ℕ}

def chunk (size : ℕ) (l : List α) (i : ℕ) : List α := (l.drop (i * size)).take size

def count (size : ℕ) (l : List α) : ℕ := (l.length + size - 1) / size

lemma take_append_chunk : l.take (i * size) ++ chunk size l i = l.take ((i + 1) * size) := by
  rw [Nat.succ_mul, List.take_add, chunk]

lemma flatten_chunks (k : ℕ) : ((List.range k).map (chunk size l)).flatten = l.take (k * size) := by
  induction k with
  | zero => simp
  | succ k ih => rw [List.range_succ, List.map_append, List.flatten_append, ih, List.map_singleton,
      List.flatten_singleton, take_append_chunk]

lemma count_le_iff (hsize : 0 < size) : count size l ≤ k ↔ l.length ≤ k * size := by
  rw [count, Nat.div_le_iff_le_mul hsize]
  omega

lemma lt_count_iff (hsize : 0 < size) : k < count size l ↔ k * size < l.length := by
  rw [← Nat.not_le, count_le_iff hsize, Nat.not_le]

lemma flatten_all (hsize : 0 < size) : ((List.range (count size l)).map (chunk size l)).flatten = l := by
  rw [flatten_chunks]
  exact List.take_of_length_le ((count_le_iff hsize).mp (Nat.le_refl _))

end ChatDesktop.Library.Chunks
