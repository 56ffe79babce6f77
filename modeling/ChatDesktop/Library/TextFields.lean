import ChatDesktop.Library.JsonText
import Mathlib.Data.List.TakeWhile
import Mathlib.Data.Int.Cast.Lemmas

namespace ChatDesktop.Library.Text

def number (n : ℤ) : Text := Json.writeInt n

def words (t : Text) : List Text := (t.splitOnP isSpace).filter (fun w => w ≠ [])

def simplified (t : Text) : Text := [0x20].intercalate (words t)

def splitSkipEmpty (t : Text) : List Text := (t.splitOnP (fun u => decide (u = 0x20))).filter (fun w => w ≠ [])

variable {t : Text}

lemma trimmed_eq_nil_iff : trimmed t = [] ↔ ∀ u ∈ t, isSpace u = true := by
  rw [trimmed, List.reverse_eq_nil_iff, List.dropWhile_eq_nil_iff]
  constructor
  · intro h
    by_contra hne
    push Not at hne
    have hd : t.dropWhile isSpace ≠ [] := fun hnil => by
      obtain ⟨u, hu, hs⟩ := hne
      exact hs (List.dropWhile_eq_nil_iff.mp hnil u hu)
    have hhead := List.head_dropWhile_not (p := isSpace) hd
    exact absurd (h _ (List.mem_reverse.mpr (List.head_mem hd))) (by rw [hhead]; decide)
  · intro h u hu
    exact h u ((List.dropWhile_sublist _).subset (List.mem_reverse.mp hu))

lemma words_of_spaces (h : ∀ u ∈ t, isSpace u = true) : words t = [] := by
  rw [words, List.filter_eq_nil_iff]
  suffices hall : ∀ w ∈ t.splitOnP isSpace, w = [] by
    intro w hw
    simp [hall w hw]
  induction t with
  | nil => simp
  | cons u t ih =>
    intro w hw
    rw [List.splitOnP_cons_eq_if_modifyHead, if_pos (h u List.mem_cons_self)] at hw
    rcases List.mem_cons.mp hw with rfl | hw
    · rfl
    · exact ih (fun u hu => h u (List.mem_cons_of_mem _ hu)) w hw

lemma trimmed_ne_nil_of_fields (h : splitSkipEmpty (simplified t) ≠ []) : trimmed t ≠ [] := by
  intro ht
  apply h
  rw [simplified, words_of_spaces (trimmed_eq_nil_iff.mp ht)]
  rfl

/-! ### Numbers -/

lemma isDigit_iff {u : UInt16} : Json.isDigit u = true ↔ ¬(u < 0x30 ∨ 0x39 < u) := by
  simp only [Json.isDigit, Bool.and_eq_true, decide_eq_true_eq, not_or, UInt16.not_lt]

lemma isSpace_digit {u : UInt16} (h : Json.isDigit u = true) : isSpace u = false := by
  have key : ∀ k : Fin 10, isSpace (UInt16.ofNat (0x30 + k)) = false := by decide
  simp only [Json.isDigit, Bool.and_eq_true, decide_eq_true_eq, UInt16.le_iff_toNat_le] at h
  have hlo : 48 ≤ u.toNat := h.1
  have hhi : u.toNat ≤ 57 := h.2
  have hk := key ⟨u.toNat - 48, by omega⟩
  rwa [show 0x30 + (u.toNat - 48) = u.toNat by omega, UInt16.ofNat_toNat] at hk

lemma trimmed_of_ends (h : ∀ u ∈ t.head?, isSpace u = false) (h' : ∀ u ∈ t.getLast?, isSpace u = false) :
    trimmed t = t := by
  have hfront : t.dropWhile isSpace = t := by
    cases t with
    | nil => rfl
    | cons u t => rw [List.dropWhile_cons_of_neg (by rw [h u rfl]; decide)]
  have hback : t.reverse.dropWhile isSpace = t.reverse := by
    cases hr : t.reverse with
    | nil => rfl
    | cons u s =>
      have hlast : t.getLast? = some u := by rw [← List.head?_reverse, hr, List.head?_cons]
      rw [List.dropWhile_cons_of_neg (by rw [h' u hlast]; decide)]
  rw [trimmed, hfront, hback, List.reverse_reverse]

lemma digits_value (n : ℕ) :
    (Json.writeDigits n).foldl (fun (m : ℤ) u => 10 * m + (u.toNat - 0x30)) 0 = n := by
  have hcast : ∀ (ds : Text) (m : ℕ), (∀ u ∈ ds, Json.isDigit u = true) →
      ds.foldl (fun (m : ℤ) u => 10 * m + (u.toNat - 0x30)) m =
        (ds.foldl (fun n u => 10 * n + (u.toNat - 0x30)) m : ℕ) := by
    intro ds
    induction ds with
    | nil => intro m _; rfl
    | cons u ds ih =>
      intro m hd
      have hu := hd u List.mem_cons_self
      simp only [Json.isDigit, Bool.and_eq_true, decide_eq_true_eq, UInt16.le_iff_toNat_le] at hu
      have hlo : 48 ≤ u.toNat := hu.1
      rw [List.foldl_cons, List.foldl_cons, ← ih _ (fun u hu => hd u (List.mem_cons_of_mem _ hu))]
      congr 1
      omega
  have h := hcast (Json.writeDigits n) 0 (Json.isDigit_writeDigits n)
  rw [Json.value_writeDigits] at h
  exact h

lemma number_ne_nil (n : ℤ) : number n ≠ [] := by
  cases n with
  | ofNat n => exact Json.writeDigits_ne_nil n
  | negSucc n => exact List.cons_ne_nil _ _

lemma trimmed_number (n : ℤ) : trimmed (number n) = number n := by
  have hdigit : ∀ m, ∀ u ∈ Json.writeDigits m, isSpace u = false :=
    fun m u hu => isSpace_digit (Json.isDigit_writeDigits m u hu)
  have hmem : ∀ u ∈ number n, isSpace u = false := by
    intro u hu
    cases n with
    | ofNat n => exact hdigit n u hu
    | negSucc n =>
      rcases List.mem_cons.mp hu with rfl | hu
      · rfl
      · exact hdigit _ u hu
  refine trimmed_of_ends (fun u hu => hmem u (List.mem_of_mem_head? hu)) (fun u hu => hmem u ?_)
  exact List.mem_of_getLast? hu

lemma any_digits (n : ℕ) : (Json.writeDigits n).any (fun u => u < 0x30 || 0x39 < u) = false := by
  rw [List.any_eq_false]
  intro u hu
  have := isDigit_iff.mp (Json.isDigit_writeDigits n u hu)
  simpa using this

lemma decimal_number {bits : ℕ} {n : ℤ} (hlo : -2 ^ (bits - 1) ≤ n) (hhi : n < 2 ^ (bits - 1)) :
    decimal bits (number n) = some n := by
  rw [decimal, trimmed_number]
  split
  rename_i sign digits hsplit
  suffices h : ∃ m : ℕ, digits = Json.writeDigits m ∧ sign * m = n by
    obtain ⟨m, rfl, hm⟩ := h
    rw [if_neg (by simp [any_digits m, Json.writeDigits_ne_nil m]), digits_value, hm, if_pos ⟨hlo, hhi⟩]
  cases n with
  | ofNat n =>
    obtain ⟨u, us, h, hu⟩ := Json.writeDigits_cons n
    have hfields : number (Int.ofNat n) = u :: us := h
    rw [hfields] at hsplit
    split at hsplit
    · next heq => exact absurd ((List.cons.inj heq).1 ▸ hu) (by decide)
    · next heq => exact absurd ((List.cons.inj heq).1 ▸ hu) (by decide)
    · obtain ⟨rfl, rfl⟩ := Prod.mk.inj hsplit
      exact ⟨n, h.symm, Int.one_mul n⟩
  | negSucc n =>
    have hfields : number (Int.negSucc n) = 0x2D :: Json.writeDigits (n + 1) := rfl
    rw [hfields] at hsplit
    split at hsplit
    · next heq =>
      obtain ⟨rfl, rfl⟩ := Prod.mk.inj hsplit
      refine ⟨n + 1, (List.cons.inj heq).2.symm, ?_⟩
      rw [Int.negSucc_eq]
      omega
    · next heq => exact absurd (List.cons.inj heq).1 (by decide)
    · next hne _ => exact absurd rfl (hne _)

lemma toInt_number (n : Int32) : toInt (number n.toInt) = some n.toInt :=
  decimal_number n.le_toInt n.toInt_lt

end ChatDesktop.Library.Text
