import Mathlib.Data.List.Nodup
import Mathlib.Order.Basic
import Mathlib.Tactic.Common

namespace ChatDesktop.Library.Matching

variable {α κ : Type} (fits : α → κ → Bool)

def rest : List α → List κ → List α
  | left, [] => left
  | left, k :: ks => rest (left.eraseP (fits · k)) ks

def served (left : List α) (ks : List κ) (i : ℕ) : Option α := do
  let k ← ks[i]?
  (rest fits left (ks.take i)).find? (fits · k)

variable {fits} {left : List α} {ks : List κ} {k : κ} {a : α} {i j : ℕ}

lemma mem_eraseP_iff {p : α → Bool} {l : List α} (h : l.Nodup) : a ∈ l.eraseP p ↔ a ∈ l ∧ l.find? p ≠ some a := by
  induction l with
  | nil => simp
  | cons b l ih =>
    obtain ⟨hb, hl⟩ := List.nodup_cons.mp h
    by_cases hp : p b = true
    · rw [List.eraseP_cons_of_pos hp, List.find?_cons_of_pos hp, List.mem_cons, Ne, Option.some_inj]
      constructor
      · intro ha
        refine ⟨.inr ha, ?_⟩
        rintro rfl
        exact hb ha
      · rintro ⟨rfl | ha, hne⟩
        · exact absurd rfl hne
        · exact ha
    · rw [List.eraseP_cons_of_neg hp, List.find?_cons_of_neg hp, List.mem_cons, List.mem_cons, ih hl]
      constructor
      · rintro (rfl | ⟨ha, hne⟩)
        · exact ⟨.inl rfl, fun hf => hp (List.find?_some hf)⟩
        · exact ⟨.inr ha, hne⟩
      · rintro ⟨rfl | ha, hne⟩
        · exact .inl rfl
        · exact .inr ⟨ha, hne⟩

lemma rest_sublist (left : List α) (ks : List κ) : (rest fits left ks).Sublist left := by
  induction ks generalizing left with
  | nil => exact .refl _
  | cons k ks ih => exact (ih _).trans List.eraseP_sublist

lemma rest_append (left : List α) (ks ks' : List κ) :
    rest fits left (ks ++ ks') = rest fits (rest fits left ks) ks' := by
  induction ks generalizing left with
  | nil => rfl
  | cons k ks ih => exact ih _

lemma rest_succ (h : ks[i]? = some k) :
    rest fits left (ks.take (i + 1)) = (rest fits left (ks.take i)).eraseP (fits · k) := by
  rw [List.take_add_one, h, Option.toList_some, rest_append]
  rfl

lemma served_eq (h : ks[i]? = some k) : served fits left ks i = (rest fits left (ks.take i)).find? (fits · k) := by
  rw [served, h]
  rfl

lemma served_none (h : ks[i]? = none) : served fits left ks i = none := by
  rw [served, h]
  rfl

lemma mem_rest_iff (hd : left.Nodup) :
    a ∈ rest fits left (ks.take i) ↔ a ∈ left ∧ ∀ j < i, served fits left ks j ≠ some a := by
  induction i with
  | zero => simp [rest]
  | succ i ih =>
    rw [Nat.forall_lt_succ_right, ← and_assoc, ← ih]
    cases hk : ks[i]? with
    | none =>
      have htake : ks.take (i + 1) = ks.take i := by rw [List.take_add_one, hk, Option.toList_none, List.append_nil]
      rw [htake, served_none hk]
      exact (and_iff_left nofun).symm
    | some k =>
      rw [rest_succ hk, mem_eraseP_iff (hd.sublist (rest_sublist ..)), served_eq hk]

lemma served_mem (h : served fits left ks i = some a) : a ∈ rest fits left (ks.take i) := by
  cases hk : ks[i]? with
  | none =>
    rw [served_none hk] at h
    cases h
  | some k =>
    rw [served_eq hk] at h
    exact List.mem_of_find?_eq_some h

lemma served_fits (hk : ks[i]? = some k) (h : served fits left ks i = some a) : fits a k = true := by
  rw [served_eq hk] at h
  have hfits := List.find?_some h
  exact hfits

lemma served_once (hd : left.Nodup) (hi : served fits left ks i = some a) (hj : served fits left ks j = some a) :
    i = j := by
  have hle : ∀ {i j}, served fits left ks i = some a → served fits left ks j = some a → i ≤ j := by
    intro i j hi hj
    by_contra hlt
    exact ((mem_rest_iff hd).mp (served_mem hi)).2 j (Nat.lt_of_not_le hlt) hj
  exact Nat.le_antisymm (hle hi hj) (hle hj hi)

lemma find?_le [Preorder α] {p : α → Bool} {l : List α} {b : α} (h : l.Pairwise (· < ·)) (hb : l.find? p = some b)
    (ha : a ∈ l) (hp : p a = true) : b ≤ a := by
  induction l with
  | nil => cases ha
  | cons c l ih =>
    obtain ⟨hc, hl⟩ := List.pairwise_cons.mp h
    by_cases hpc : p c = true
    · rw [List.find?_cons_of_pos hpc] at hb
      obtain rfl := Option.some.inj hb
      rcases List.mem_cons.mp ha with rfl | ha
      · exact le_rfl
      · exact (hc a ha).le
    · rw [List.find?_cons_of_neg hpc] at hb
      rcases List.mem_cons.mp ha with rfl | ha
      · exact absurd hp hpc
      · exact ih hl hb ha

lemma served_first [Preorder α] (hs : left.Pairwise (· < ·)) (hk : ks[i]? = some k) (ha : a ∈ left)
    (hfits : fits a k = true) (hfree : ∀ j < i, served fits left ks j ≠ some a) :
    ∃ b ≤ a, served fits left ks i = some b := by
  have hmem : a ∈ rest fits left (ks.take i) := (mem_rest_iff (hs.imp ne_of_lt)).mpr ⟨ha, hfree⟩
  rw [served_eq hk]
  cases hf : (rest fits left (ks.take i)).find? (fits · k) with
  | none => exact absurd hfits (List.find?_eq_none.mp hf a hmem)
  | some b => exact ⟨b, find?_le (hs.sublist (rest_sublist ..)) hf hmem hfits, rfl⟩

end ChatDesktop.Library.Matching
