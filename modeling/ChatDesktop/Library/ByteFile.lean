import Mathlib.Tactic.Common

namespace ChatDesktop.Library.ByteFile

variable {α : Type} (z : α)

def readAt (f : List α) (off n : ℕ) : Option (List α) :=
  if off + n ≤ f.length then some ((f.drop off).take n) else none

def writeAt (f : List α) (off : ℕ) (xs : List α) : List α :=
  f.take off ++ (List.replicate (off - f.length) z ++ (xs ++ f.drop (off + xs.length)))

def resize (f : List α) (n : ℕ) : List α :=
  f.take n ++ List.replicate (n - f.length) z

@[simp] lemma length_writeAt (f : List α) (off : ℕ) (xs : List α) :
    (writeAt z f off xs).length = max f.length (off + xs.length) := by
  simp only [writeAt, List.length_append, List.length_take, List.length_replicate, List.length_drop]
  omega

@[simp] lemma length_resize (f : List α) (n : ℕ) : (resize z f n).length = n := by
  simp only [resize, List.length_append, List.length_take, List.length_replicate]
  omega

lemma getElem?_writeAt (f : List α) (off : ℕ) (xs : List α) (i : ℕ) :
    (writeAt z f off xs)[i]? =
      if i < off then (if i < f.length then f[i]? else some z)
      else if i < off + xs.length then xs[i - off]? else f[i]? := by
  by_cases h : i < off
  · rw [if_pos h]
    by_cases hf : i < f.length
    · rw [if_pos hf, writeAt, List.getElem?_append_left (by simp; omega), List.getElem?_take_of_lt h]
    · rw [if_neg hf, writeAt, List.getElem?_append_right (by simp; omega), List.length_take,
        List.getElem?_append_left (by simp; omega), List.getElem?_replicate, if_pos (by omega)]
  · rw [if_neg h, writeAt, List.getElem?_append_right (by simp; omega), List.length_take,
      List.getElem?_append_right (by simp; omega), List.length_replicate,
      show i - min off f.length - (off - f.length) = i - off by omega]
    by_cases hx : i < off + xs.length
    · rw [if_pos hx, List.getElem?_append_left (by omega)]
    · rw [if_neg hx, List.getElem?_append_right (by omega), List.getElem?_drop,
        show off + xs.length + (i - off - xs.length) = i by omega]

lemma readAt_eq_some {f : List α} {off n : ℕ} {xs : List α} :
    readAt f off n = some xs ↔
      off + n ≤ f.length ∧ xs.length = n ∧ ∀ i < n, f[off + i]? = xs[i]? := by
  unfold readAt
  split_ifs with h
  · rw [Option.some_inj]
    constructor
    · rintro rfl
      refine ⟨h, by simp; omega, fun i hi => ?_⟩
      rw [List.getElem?_take_of_lt hi, List.getElem?_drop]
    · rintro ⟨-, hx, hi⟩
      apply List.ext_getElem?
      intro i
      by_cases hin : i < n
      · rw [List.getElem?_take_of_lt hin, List.getElem?_drop, hi i hin]
      · rw [List.getElem?_eq_none (by simp; omega), List.getElem?_eq_none (by omega)]
  · simp [h]

lemma readAt_isNone {f : List α} {off n : ℕ} (h : f.length < off + n) : readAt f off n = none :=
  if_neg (by omega)

lemma readAt_isSome {f : List α} {off n : ℕ} (h : off + n ≤ f.length) :
    ∃ xs, readAt f off n = some xs := ⟨_, if_pos h⟩

lemma readAt_congr {f g : List α} {off n : ℕ} (hf : off + n ≤ f.length) (hg : off + n ≤ g.length)
    (h : ∀ i < n, f[off + i]? = g[off + i]?) : readAt f off n = readAt g off n := by
  obtain ⟨xs, hx⟩ := readAt_isSome hg
  obtain ⟨-, hl, he⟩ := readAt_eq_some.mp hx
  rw [hx, readAt_eq_some]
  exact ⟨hf, hl, fun i hi => (h i hi).trans (he i hi)⟩

@[simp] lemma readAt_writeAt_self (f : List α) (off : ℕ) (xs : List α) :
    readAt (writeAt z f off xs) off xs.length = some xs := by
  rw [readAt_eq_some]
  refine ⟨by simp only [length_writeAt]; omega, rfl, fun i hi => ?_⟩
  rw [getElem?_writeAt, if_neg (by omega), if_pos (by omega), Nat.add_sub_cancel_left]

lemma readAt_writeAt_of_disjoint {f : List α} {off o n : ℕ} {xs : List α} (hf : o + n ≤ f.length)
    (h : o + n ≤ off ∨ off + xs.length ≤ o) : readAt (writeAt z f off xs) o n = readAt f o n := by
  refine readAt_congr (by simp; omega) hf (fun i hi => ?_)
  rw [getElem?_writeAt]
  split_ifs <;> first | rfl | omega

lemma readAt_writeAt_gap {f : List α} {off o n : ℕ} {xs : List α} (hf : f.length ≤ o)
    (h : o + n ≤ off) : readAt (writeAt z f off xs) o n = some (List.replicate n z) := by
  rw [readAt_eq_some]
  refine ⟨by simp; omega, by simp, fun i hi => ?_⟩
  rw [getElem?_writeAt, if_pos (by omega), if_neg (by omega), List.getElem?_replicate, if_pos hi]

lemma readAt_resize {f : List α} {o n m : ℕ} (hf : o + n ≤ f.length) (hm : o + n ≤ m) :
    readAt (resize z f m) o n = readAt f o n := by
  refine readAt_congr (by simpa using hm) hf (fun i hi => ?_)
  rw [resize, List.getElem?_append_left (by simp; omega), List.getElem?_take_of_lt (by omega)]

lemma resize_self (f : List α) : resize z f f.length = f := by simp [resize]

end ChatDesktop.Library.ByteFile
