import Mathlib.Data.List.Basic
import Mathlib.Data.List.Pairwise
import Mathlib.Order.WithBot

namespace ChatDesktop.Library

variable {α κ : Type*}

/-! ### Lists by classes -/

section

variable {γ : Type*} [DecidableEq γ] {f : α → γ} {l l' : List α}

def classOf (f : α → γ) (c : γ) (l : List α) : List α := l.filter (fun a => decide (f a = c))

lemma classOf_cons_of_eq {a : α} {c : γ} (l : List α) (h : f a = c) : classOf f c (a :: l) = a :: classOf f c l :=
  List.filter_cons_of_pos (by simpa using h)

lemma classOf_cons {a : α} {c : γ} (l : List α) (h : f a ≠ c) : classOf f c (a :: l) = classOf f c l :=
  List.filter_cons_of_neg (by simpa using h)

lemma mem_classOf {a : α} {c : γ} : a ∈ classOf f c l ↔ a ∈ l ∧ f a = c := by
  rw [classOf, List.mem_filter, decide_eq_true_iff]

lemma perm_of_classes (h : ∀ c, (classOf f c l).Perm (classOf f c l')) : l.Perm l' := by
  classical
  apply List.perm_iff_count.mpr
  intro a
  have hcount : ∀ l' : List α, l'.count a = (classOf f (f a) l').count a :=
    fun l' => (List.count_filter (by simp)).symm
  rw [hcount l, hcount l', (h (f a)).count_eq]

/-- A list is known by the classes of its elements in order and by the elements of each class in order. -/
lemma eq_of_classes (hmap : l.map f = l'.map f) (hclass : ∀ c, classOf f c l = classOf f c l') : l = l' := by
  induction l generalizing l' with
  | nil => exact (List.map_eq_nil_iff.mp hmap.symm).symm
  | cons a l ih =>
    cases l' with
    | nil => exact absurd hmap (List.cons_ne_nil _ _)
    | cons b l' =>
      obtain ⟨hab, htail⟩ := List.cons.inj hmap
      have hhead := hclass (f a)
      rw [classOf_cons_of_eq l rfl, classOf_cons_of_eq l' hab.symm] at hhead
      obtain ⟨rfl, -⟩ := List.cons.inj hhead
      congr 1
      apply ih htail
      intro c
      have hc := hclass c
      by_cases hac : f a = c
      · rw [classOf_cons_of_eq l hac, classOf_cons_of_eq l' hac] at hc
        exact (List.cons.inj hc).2
      · rw [classOf_cons l hac, classOf_cons l' hac] at hc
        exact hc

lemma getElem?_of_class {c : γ} (hmap : l.map f = l'.map f) (hclass : classOf f c l = classOf f c l') {i : ℕ} {a : α}
    (hi : l[i]? = some a) (ha : f a = c) : l'[i]? = some a := by
  induction l generalizing l' i with
  | nil => exact absurd hi (by simp)
  | cons b l ih =>
    cases l' with
    | nil => exact absurd hmap (List.cons_ne_nil _ _)
    | cons b' l' =>
      obtain ⟨hb, htail⟩ := List.cons.inj hmap
      by_cases hbc : f b = c
      · rw [classOf_cons_of_eq l hbc, classOf_cons_of_eq l' (hb ▸ hbc)] at hclass
        obtain ⟨rfl, hrest⟩ := List.cons.inj hclass
        cases i with
        | zero => exact hi
        | succ i => exact ih htail hrest hi
      · rw [classOf_cons l hbc, classOf_cons l' (hb ▸ hbc)] at hclass
        cases i with
        | zero => exact absurd ((Option.some.inj hi) ▸ ha) hbc
        | succ i => exact ih htail hclass hi

lemma classOf_of_dealt {c : γ} {values : List α} (hmap : l'.map f = l.map f)
    (hlength : values.length = (classOf f c l).length)
    (hdealt : ∀ i a, l[i]? = some a → f a = c → l'[i]? = values[(classOf f c (l.take i)).length]?) :
    classOf f c l' = values := by
  induction l generalizing l' values with
  | nil =>
    obtain rfl := List.map_eq_nil_iff.mp hmap
    exact (List.length_eq_zero_iff.mp hlength).symm
  | cons a l ih =>
    cases l' with
    | nil => exact absurd hmap.symm (List.cons_ne_nil _ _)
    | cons b l' =>
      obtain ⟨hb, htail⟩ := List.cons.inj hmap
      by_cases ha : f a = c
      · rw [classOf_cons_of_eq l ha, List.length_cons] at hlength
        cases values with
        | nil => exact absurd hlength (by simp)
        | cons v values =>
          obtain rfl : b = v := by simpa [classOf] using hdealt 0 a rfl ha
          rw [classOf_cons_of_eq l' (hb.trans ha)]
          congr 1
          apply ih htail (Nat.succ.inj hlength)
          intro i a' hi ha'
          have hd := hdealt (i + 1) a' hi ha'
          rwa [List.take_succ_cons, classOf_cons_of_eq _ ha, List.length_cons, List.getElem?_cons_succ,
            List.getElem?_cons_succ] at hd
      · rw [classOf_cons l' (hb ▸ ha)]
        rw [classOf_cons l ha] at hlength
        apply ih htail hlength
        intro i a' hi ha'
        have hd := hdealt (i + 1) a' hi ha'
        rwa [List.take_succ_cons, classOf_cons _ ha, List.getElem?_cons_succ] at hd

lemma getElem?_classOf {c : γ} {i : ℕ} {a : α} (hi : l[i]? = some a) (ha : f a = c) :
    (classOf f c l)[(classOf f c (l.take i)).length]? = some a := by
  induction l generalizing i with
  | nil => exact absurd hi (by simp)
  | cons b l ih =>
    cases i with
    | zero =>
      obtain rfl := Option.some.inj hi
      rw [classOf_cons_of_eq l ha]
      rfl
    | succ i =>
      rw [List.take_succ_cons]
      by_cases hb : f b = c
      · rw [classOf_cons_of_eq _ hb, classOf_cons_of_eq _ hb]
        exact ih hi
      · rw [classOf_cons _ hb, classOf_cons _ hb]
        exact ih hi

lemma length_classOf_take {c : γ} {i : ℕ} {a : α} (hi : l[i]? = some a) (ha : f a = c) :
    (classOf f c (l.take i)).length < (classOf f c l).length :=
  (List.getElem?_eq_some_iff.mp (getElem?_classOf hi ha)).1

/-! ### Replacing the elements at some positions -/

def positionsOf (f : α → γ) (c : γ) (l : List α) : List ℕ :=
  (List.range l.length).filter (fun i => decide (l[i]?.map f = some c))

def putBack (l : List α) (positions : List ℕ) (values : List α) : List α :=
  (positions.zip values).foldl (fun l place => l.set place.1 place.2) l

lemma positionsOf_congr (hmap : l.map f = l'.map f) (c : γ) : positionsOf f c l = positionsOf f c l' := by
  have hlength : l.length = l'.length := by simpa using congrArg List.length hmap
  have hget : ∀ i : ℕ, l[i]?.map f = l'[i]?.map f := by
    intro i
    rw [← List.getElem?_map, ← List.getElem?_map, hmap]
  rw [positionsOf, positionsOf, hlength]
  exact List.filter_congr (fun i _ => congrArg (fun c' => decide (c' = some c)) (hget i))

lemma positionsOf_cons (a : α) (l : List α) (c : γ) :
    positionsOf f c (a :: l) = (if f a = c then [0] else []) ++ (positionsOf f c l).map Nat.succ := by
  rw [positionsOf, List.length_cons, List.range_succ_eq_map, List.filter_cons, List.filter_map]
  by_cases ha : f a = c
  · rw [if_pos (by simpa using ha), if_pos ha]
    rfl
  · rw [if_neg (by simpa using ha), if_neg ha]
    rfl

lemma filterMap_positionsOf (c : γ) (l : List α) :
    (positionsOf f c l).filterMap (fun i => l[i]?) = classOf f c l := by
  induction l with
  | nil => rfl
  | cons a l ih =>
    have htail : ((positionsOf f c l).map Nat.succ).filterMap (fun i => (a :: l)[i]?) = classOf f c l := by
      rw [List.filterMap_map, ← ih]
      rfl
    rw [positionsOf_cons, List.filterMap_append, htail]
    by_cases ha : f a = c
    · rw [if_pos ha, classOf_cons_of_eq l ha]
      rfl
    · rw [if_neg ha, classOf_cons l ha]
      rfl

lemma putBack_succ (a : α) (l : List α) (positions : List ℕ) (values : List α) :
    putBack (a :: l) (positions.map Nat.succ) values = a :: putBack l positions values := by
  induction positions generalizing l values with
  | nil => rfl
  | cons i positions ih =>
    cases values with
    | nil => rfl
    | cons v values => exact ih (l.set i v) values

lemma putBack_positionsOf {c : γ} {l values : List α} (hlength : values.length = (classOf f c l).length)
    (hvalues : ∀ v ∈ values, f v = c) :
    (putBack l (positionsOf f c l) values).map f = l.map f ∧
      ∀ d, classOf f d (putBack l (positionsOf f c l) values) = if d = c then values else classOf f d l := by
  induction l generalizing values with
  | nil =>
    obtain rfl := List.length_eq_zero_iff.mp hlength
    exact ⟨rfl, fun d => (ite_self _).symm⟩
  | cons a l ih =>
    rw [positionsOf_cons]
    by_cases ha : f a = c
    · rw [classOf_cons_of_eq l ha, List.length_cons] at hlength
      cases values with
      | nil => exact absurd hlength (by simp)
      | cons v values =>
        obtain ⟨hv, hvalues⟩ := List.forall_mem_cons.mp hvalues
        obtain ⟨hmap, hclass⟩ := ih (Nat.succ.inj hlength) hvalues
        have hput : putBack (a :: l) ([0] ++ (positionsOf f c l).map Nat.succ) (v :: values) =
            v :: putBack l (positionsOf f c l) values := putBack_succ v l _ values
        rw [if_pos ha, hput, List.map_cons, List.map_cons, hmap, hv, ha]
        refine ⟨rfl, fun d => ?_⟩
        by_cases hd : d = c
        · rw [if_pos hd, classOf_cons_of_eq _ (hv.trans hd.symm), hclass, if_pos hd]
        · rw [if_neg hd, classOf_cons _ (hv ▸ Ne.symm hd), classOf_cons _ (ha ▸ Ne.symm hd), hclass, if_neg hd]
    · rw [classOf_cons l ha] at hlength
      obtain ⟨hmap, hclass⟩ := ih hlength hvalues
      rw [if_neg ha, List.nil_append, putBack_succ, List.map_cons, List.map_cons, hmap]
      refine ⟨rfl, fun d => ?_⟩
      by_cases hd : f a = d
      · rw [if_neg (hd ▸ ha), classOf_cons_of_eq _ hd, classOf_cons_of_eq _ hd, hclass, if_neg (hd ▸ ha)]
      · rw [classOf_cons _ hd, hclass, classOf_cons _ hd]

end

/-! ### Sorting -/

variable [LinearOrder κ] {l sorted : List α}

/-- `sorted` is `l` in ascending order of the key, elements of one key in the order of `l`. -/
structure StablySorted (key : α → κ) (l sorted : List α) : Prop where
  ascending : sorted.Pairwise (fun a b => key a ≤ key b)
  stable : ∀ k, classOf key k sorted = classOf key k l

namespace StablySorted

variable {key : α → κ}

lemma mergeSort {le : α → α → Bool} (hle : ∀ a b, le a b = true ↔ key a ≤ key b) (l : List α) :
    StablySorted key l (l.mergeSort le) := by
  have htrans : ∀ a b c, le a b = true → le b c = true → le a c = true := by
    intro a b c hab hbc
    exact (hle a c).mpr (((hle a b).mp hab).trans ((hle b c).mp hbc))
  have htotal : ∀ a b, (le a b || le b a) = true := by
    intro a b
    rw [Bool.or_eq_true, hle, hle]
    exact le_total (key a) (key b)
  refine ⟨(List.pairwise_mergeSort htrans htotal l).imp (fun hab => (hle _ _).mp hab), fun k => ?_⟩
  let p : α → Bool := fun a => decide (key a = k)
  -- elements of one key are sorted, so they are a sublist of the sorted list
  have hsame : (l.filter p).Pairwise (fun a b => le a b = true) := by
    apply List.pairwise_of_forall_mem_list
    intro a ha b hb
    have hka : key a = k := of_decide_eq_true (List.mem_filter.mp ha).2
    have hkb : key b = k := of_decide_eq_true (List.mem_filter.mp hb).2
    exact (hle a b).mpr (hka.trans hkb.symm).le
  have hsub := (List.sublist_mergeSort htrans htotal hsame List.filter_sublist).filter p
  rw [List.filter_filter, List.filter_congr (fun a _ => Bool.and_self (p a))] at hsub
  exact (hsub.eq_of_length ((List.mergeSort_perm l le).filter p).length_eq.symm).symm

section

variable (h : StablySorted key l sorted)

include h

lemma perm : sorted.Perm l := perm_of_classes (fun k => .of_eq (h.stable k))

lemma filter (p : α → Bool) : StablySorted key (l.filter p) (sorted.filter p) := by
  refine ⟨h.ascending.filter p, fun k => ?_⟩
  have hcomm : ∀ l' : List α, classOf key k (l'.filter p) = (classOf key k l').filter p := by
    intro l'
    rw [classOf, classOf, List.filter_filter, List.filter_filter]
    exact List.filter_congr (fun a _ => Bool.and_comm _ _)
  rw [hcomm, hcomm, h.stable]

lemma keeps {ι : Type*} [LinearOrder ι] {index : α → ι} (hl : l.Pairwise (fun a b => index a ≤ index b))
    (hkey : ∀ a ∈ l, ∀ b ∈ l, index a < index b → key a ≤ key b) :
    sorted.Pairwise (fun a b => index a ≤ index b) := by
  apply List.pairwise_iff_forall_sublist.mpr
  intro a b hab
  by_contra hlt
  have hmem : ∀ c ∈ [a, b], c ∈ l := fun c hc => h.perm.subset (hab.subset hc)
  have hba : key b ≤ key a := hkey b (hmem b (by simp)) a (hmem a (by simp)) (not_le.mp hlt)
  have hle : key a ≤ key b := List.pairwise_iff_forall_sublist.mp h.ascending hab
  -- of one key, they stand in `l` as they do here
  have hsub : [a, b].Sublist (classOf key (key b) l) := by
    rw [← h.stable]
    have hkeep := hab.filter (fun c => decide (key c = key b))
    rwa [List.filter_cons_of_pos (by simpa using le_antisymm hle hba), List.filter_cons_of_pos (by simp),
      List.filter_nil] at hkeep
  exact hlt (List.pairwise_iff_forall_sublist.mp hl (hsub.trans List.filter_sublist))

end

end StablySorted

lemma ascending_eq_append {key : α → WithTop κ} (h : l.Pairwise (fun a b => key a ≤ key b)) :
    l = l.filter (fun a => decide (key a ≠ ⊤)) ++ classOf key ⊤ l := by
  induction h with
  | nil => rfl
  | @cons a l ha h ih =>
    by_cases htop : key a = ⊤
    · have hall : ∀ b ∈ l, key b = ⊤ := fun b hb => top_le_iff.mp (htop ▸ ha b hb)
      have hnone : l.filter (fun a => decide (key a ≠ ⊤)) = [] :=
        List.filter_eq_nil_iff.mpr (fun b hb => by simpa using hall b hb)
      rw [List.filter_cons_of_neg (by simpa using htop), hnone, List.nil_append, classOf,
        List.filter_eq_self.mpr (by simpa using ⟨htop, hall⟩)]
    · rw [List.filter_cons_of_pos (by simpa using htop), classOf_cons l htop, List.cons_append, ← ih]

lemma StablySorted.top_last {key : α → WithTop κ} (h : StablySorted key l sorted) :
    sorted = sorted.filter (fun a => decide (key a ≠ ⊤)) ++ classOf key ⊤ l := by
  rw [← h.stable]
  exact ascending_eq_append h.ascending

end ChatDesktop.Library
