import Mathlib.Order.Defs.LinearOrder
import Mathlib.Data.List.Nodup
import Mathlib.Data.List.Perm.Basic
import Mathlib.Data.List.Sort
import Mathlib.Tactic.Common

namespace ChatDesktop.Library

variable {κ ν : Type} [LinearOrder κ]

structure SortedMap (κ ν : Type) [LinearOrder κ] where
  entries : List (κ × ν)
  sorted : entries.Pairwise (fun a b => a.1 < b.1)

namespace SortedMap

def lookup (k : κ) : List (κ × ν) → Option ν
  | [] => none
  | (j, v) :: es => if j = k then some v else lookup k es

def insertEntry (k : κ) (v : ν) : List (κ × ν) → List (κ × ν)
  | [] => [(k, v)]
  | (j, w) :: es =>
    if k < j then (k, v) :: (j, w) :: es
    else if j = k then (k, v) :: es
    else (j, w) :: insertEntry k v es

lemma mem_insertEntry {k : κ} {v : ν} {es : List (κ × ν)} {e : κ × ν}
    (h : e ∈ insertEntry k v es) : e = (k, v) ∨ e ∈ es := by
  induction es with
  | nil => simpa [insertEntry] using h
  | cons a es ih =>
    obtain ⟨j, w⟩ := a
    rw [insertEntry] at h
    split_ifs at h <;> simp only [List.mem_cons] at h ⊢ <;> grind

lemma sorted_insertEntry (k : κ) (v : ν) {es : List (κ × ν)}
    (h : es.Pairwise (fun a b => a.1 < b.1)) :
    (insertEntry k v es).Pairwise (fun a b => a.1 < b.1) := by
  induction es with
  | nil => simp [insertEntry]
  | cons a es ih =>
    obtain ⟨j, w⟩ := a
    rw [List.pairwise_cons] at h
    rw [insertEntry]
    split_ifs with hlt heq
    · refine List.pairwise_cons.mpr ⟨fun b hb => ?_, List.pairwise_cons.mpr h⟩
      rcases List.mem_cons.mp hb with rfl | hb
      · exact hlt
      · exact hlt.trans (h.1 b hb)
    · subst heq
      exact List.pairwise_cons.mpr h
    · refine List.pairwise_cons.mpr ⟨fun b hb => ?_, ih h.2⟩
      rcases mem_insertEntry hb with rfl | hb
      · exact lt_of_le_of_ne (not_lt.mp hlt) heq
      · exact h.1 b hb

def empty : SortedMap κ ν := ⟨[], .nil⟩

instance : Inhabited (SortedMap κ ν) := ⟨empty⟩

def find? (m : SortedMap κ ν) (k : κ) : Option ν := lookup k m.entries

def contains (m : SortedMap κ ν) (k : κ) : Bool := (m.find? k).isSome

def insert (m : SortedMap κ ν) (k : κ) (v : ν) : SortedMap κ ν :=
  ⟨insertEntry k v m.entries, sorted_insertEntry k v m.sorted⟩

def filter (m : SortedMap κ ν) (p : κ → ν → Bool) : SortedMap κ ν :=
  ⟨m.entries.filter (fun e => p e.1 e.2), m.sorted.filter _⟩

def erase (m : SortedMap κ ν) (k : κ) : SortedMap κ ν := m.filter (fun j _ => !decide (j = k))

def keys (m : SortedMap κ ν) : List κ := m.entries.map Prod.fst

def size (m : SortedMap κ ν) : ℕ := m.entries.length

def isEmpty (m : SortedMap κ ν) : Bool := m.entries.isEmpty

@[simp] lemma find?_empty (k : κ) : (empty : SortedMap κ ν).find? k = none := rfl

@[simp] lemma keys_empty : (empty : SortedMap κ ν).keys = [] := rfl

@[simp] lemma length_keys (m : SortedMap κ ν) : m.keys.length = m.size := by simp [keys, size]

lemma keys_sorted (m : SortedMap κ ν) : m.keys.Pairwise (· < ·) :=
  List.pairwise_map.mpr m.sorted

lemma keys_nodup (m : SortedMap κ ν) : m.keys.Nodup :=
  m.keys_sorted.imp (fun h => ne_of_lt h)

lemma lookup_eq_some {k : κ} {v : ν} {es : List (κ × ν)}
    (h : es.Pairwise (fun a b => a.1 < b.1)) : lookup k es = some v ↔ (k, v) ∈ es := by
  induction es with
  | nil => simp [lookup]
  | cons a es ih =>
    obtain ⟨j, w⟩ := a
    rw [List.pairwise_cons] at h
    rw [lookup]
    split_ifs with hj
    · subst hj
      constructor
      · rintro ⟨⟩
        exact List.mem_cons_self
      · intro hm
        rcases List.mem_cons.mp hm with he | hm
        · simp [(Prod.mk.injEq _ _ _ _ ▸ he).2]
        · exact absurd (h.1 _ hm) (lt_irrefl _)
    · rw [ih h.2, List.mem_cons]
      constructor
      · exact Or.inr
      · rintro (he | hm)
        · exact absurd (congrArg Prod.fst he).symm hj
        · exact hm

lemma find?_eq_some {m : SortedMap κ ν} {k : κ} {v : ν} :
    m.find? k = some v ↔ (k, v) ∈ m.entries := lookup_eq_some m.sorted

lemma mem_keys {m : SortedMap κ ν} {k : κ} : k ∈ m.keys ↔ ∃ v, m.find? k = some v := by
  simp only [keys, List.mem_map, find?_eq_some, Prod.exists, exists_and_right, exists_eq_right]

lemma mem_keys_of_find? {m : SortedMap κ ν} {k : κ} {v : ν} (h : m.find? k = some v) :
    k ∈ m.keys := mem_keys.mpr ⟨v, h⟩

lemma not_mem_keys {m : SortedMap κ ν} {k : κ} : k ∉ m.keys ↔ m.find? k = none := by
  rw [mem_keys]
  cases m.find? k <;> simp

lemma contains_iff {m : SortedMap κ ν} {k : κ} : m.contains k = true ↔ k ∈ m.keys := by
  rw [contains, Option.isSome_iff_exists, mem_keys]

lemma lookup_insertEntry (k j : κ) (v : ν) (es : List (κ × ν)) :
    lookup j (insertEntry k v es) = if k = j then some v else lookup j es := by
  induction es with
  | nil => rfl
  | cons a es ih =>
    obtain ⟨i, w⟩ := a
    rw [insertEntry]
    split_ifs with hlt heq hkj hkj <;> simp only [lookup] <;> grind

@[simp] lemma find?_insert (m : SortedMap κ ν) (k j : κ) (v : ν) :
    (m.insert k v).find? j = if k = j then some v else m.find? j := lookup_insertEntry k j v _

lemma find?_filter (m : SortedMap κ ν) (p : κ → ν → Bool) (k : κ) :
    (m.filter p).find? k = (m.find? k).filter (p k) := by
  ext v
  rw [find?_eq_some, filter, List.mem_filter, Option.filter_eq_some_iff, find?_eq_some]

@[simp] lemma find?_erase (m : SortedMap κ ν) (k j : κ) :
    (m.erase k).find? j = if j = k then none else m.find? j := by
  rw [erase, find?_filter]
  split_ifs with h <;> cases m.find? j <;> simp [Option.filter, h]

lemma mem_keys_insert {m : SortedMap κ ν} {k j : κ} {v : ν} :
    j ∈ (m.insert k v).keys ↔ j = k ∨ j ∈ m.keys := by
  simp only [mem_keys, find?_insert]
  by_cases h : k = j
  · subst h
    simp
  · rw [if_neg h]
    exact ⟨Or.inr, fun hh => hh.resolve_left (Ne.symm h)⟩

lemma mem_keys_erase {m : SortedMap κ ν} {k j : κ} :
    j ∈ (m.erase k).keys ↔ j ≠ k ∧ j ∈ m.keys := by
  simp only [mem_keys, find?_erase]
  by_cases h : j = k <;> simp [h]

@[ext] lemma ext {a b : SortedMap κ ν} (h : ∀ k, a.find? k = b.find? k) : a = b := by
  have hp : a.entries = b.entries := by
    refine List.Perm.eq_of_pairwise
      (fun x y _ _ hxy hyx => absurd hyx (lt_asymm hxy)) a.sorted b.sorted ?_
    have hn : ∀ m : SortedMap κ ν, m.entries.Nodup := fun m =>
      List.Pairwise.imp (fun {x y} (hlt : x.1 < y.1) => fun he => (ne_of_lt hlt) (congrArg Prod.fst he))
        m.sorted
    refine (List.perm_ext_iff_of_nodup (hn a) (hn b)).mpr (fun ⟨k, v⟩ => ?_)
    rw [← find?_eq_some, ← find?_eq_some, h k]
  cases a
  cases b
  congr

lemma insert_of_find? {m : SortedMap κ ν} {k : κ} {v : ν} (h : m.find? k = some v) :
    m.insert k v = m := by
  ext1 j
  rw [find?_insert]
  split_ifs with hj
  · rw [← hj, h]
  · rfl

lemma keys_insert_of_mem {m : SortedMap κ ν} {k : κ} {v : ν} (h : k ∈ m.keys) :
    (m.insert k v).keys = m.keys := by
  refine List.Perm.eq_of_pairwise (fun x y _ _ hxy hyx => absurd hyx (lt_asymm hxy))
    (keys_sorted _) (keys_sorted _) ?_
  refine (List.perm_ext_iff_of_nodup (keys_nodup _) (keys_nodup _)).mpr (fun j => ?_)
  rw [mem_keys_insert]
  exact ⟨fun hh => hh.elim (fun he => he ▸ h) id, Or.inr⟩

lemma keys_insert_perm {m : SortedMap κ ν} {k : κ} {v : ν} (h : k ∉ m.keys) :
    (m.insert k v).keys.Perm (k :: m.keys) := by
  refine (List.perm_ext_iff_of_nodup (keys_nodup _)
    (List.nodup_cons.mpr ⟨h, keys_nodup _⟩)).mpr (fun j => ?_)
  rw [mem_keys_insert, List.mem_cons]

lemma size_insert_le (m : SortedMap κ ν) (k : κ) (v : ν) : (m.insert k v).size ≤ m.size + 1 := by
  rw [← length_keys, ← length_keys]
  by_cases h : k ∈ m.keys
  · rw [keys_insert_of_mem h]
    exact Nat.le_succ _
  · rw [(keys_insert_perm h).length_eq, List.length_cons]

lemma keys_erase_perm {m : SortedMap κ ν} {k : κ} (h : k ∈ m.keys) :
    m.keys.Perm (k :: (m.erase k).keys) := by
  refine (List.perm_ext_iff_of_nodup (keys_nodup _)
    (List.nodup_cons.mpr ⟨fun hh => (mem_keys_erase.mp hh).1 rfl, keys_nodup _⟩)).mpr (fun j => ?_)
  rw [List.mem_cons, mem_keys_erase]
  by_cases hj : j = k
  · simp [hj, h]
  · simp [hj]

lemma isEmpty_iff {m : SortedMap κ ν} : m.isEmpty = true ↔ m = empty := by
  constructor
  · intro h
    ext1 k
    rw [isEmpty, List.isEmpty_iff] at h
    rw [find?, h]
    rfl
  · rintro rfl
    rfl

lemma eq_empty_iff {m : SortedMap κ ν} : m = empty ↔ ∀ k, m.find? k = none :=
  ⟨fun h => h ▸ find?_empty, fun h => ext h⟩

end SortedMap

end ChatDesktop.Library
