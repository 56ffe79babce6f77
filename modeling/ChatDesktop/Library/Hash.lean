import Mathlib.Data.List.Basic
import Mathlib.Data.List.Nodup
import Mathlib.Tactic.Common

namespace ChatDesktop.Library

variable {κ ν : Type}

structure Hash (κ ν : Type) where
  entries : List (κ × ν)
  nodup : (entries.map Prod.fst).Nodup

namespace Hash

def empty : Hash κ ν := ⟨[], List.nodup_nil⟩

instance : Inhabited (Hash κ ν) := ⟨empty⟩

lemma nodup_filter (m : Hash κ ν) (p : κ × ν → Bool) : ((m.entries.filter p).map Prod.fst).Nodup :=
  m.nodup.sublist (List.filter_sublist.map Prod.fst)

variable [DecidableEq κ]

def find? (m : Hash κ ν) (k : κ) : Option ν := m.entries.lookup k

def erase (m : Hash κ ν) (k : κ) : Hash κ ν :=
  ⟨m.entries.filter (fun e => !decide (e.1 = k)), m.nodup_filter _⟩

lemma nodup_insert (m : Hash κ ν) (k : κ) (v : ν) : (((k, v) :: (m.erase k).entries).map Prod.fst).Nodup := by
  rw [List.map_cons, List.nodup_cons]
  refine ⟨fun hmem => ?_, (m.erase k).nodup⟩
  obtain ⟨e, he, hk⟩ := List.mem_map.mp hmem
  have hne := (List.mem_filter.mp he).2
  exact absurd hk (by simpa using hne)

def insert (m : Hash κ ν) (k : κ) (v : ν) : Hash κ ν := ⟨(k, v) :: (m.erase k).entries, m.nodup_insert k v⟩

variable {m : Hash κ ν} {k j : κ} {v : ν}

@[simp] lemma find?_empty (k : κ) : (empty : Hash κ ν).find? k = none := rfl

lemma lookup_eq_some {es : List (κ × ν)} (h : (es.map Prod.fst).Nodup) : es.lookup k = some v ↔ (k, v) ∈ es := by
  induction es with
  | nil => simp
  | cons e es ih =>
    obtain ⟨j, w⟩ := e
    rw [List.map_cons, List.nodup_cons] at h
    rw [List.lookup_cons, List.mem_cons, Prod.mk.injEq]
    by_cases hkj : k = j
    · subst hkj
      simp only [beq_self_eq_true, Option.some.injEq, true_and]
      constructor
      · exact fun hw => .inl hw.symm
      · rintro (hw | hmem)
        · exact hw.symm
        · exact absurd (List.mem_map_of_mem hmem) h.1
    · rw [beq_false_of_ne hkj]
      simp only [hkj, false_and, false_or]
      exact ih h.2

lemma find?_eq_some : m.find? k = some v ↔ (k, v) ∈ m.entries := lookup_eq_some m.nodup

@[simp] lemma find?_erase : (m.erase k).find? j = if j = k then none else m.find? j := by
  ext v
  rw [find?_eq_some, erase, List.mem_filter]
  by_cases hjk : j = k
  · simp [hjk]
  · rw [if_neg hjk, find?_eq_some]
    simp [hjk]

@[simp] lemma find?_insert : (m.insert k v).find? j = if j = k then some v else m.find? j := by
  rw [find?, insert, List.lookup_cons]
  by_cases hjk : j = k
  · rw [if_pos hjk, hjk, beq_self_eq_true]
  · have hrest : (m.erase k).find? j = m.find? j := by rw [find?_erase, if_neg hjk]
    rw [if_neg hjk, beq_false_of_ne hjk]
    exact hrest

end Hash

end ChatDesktop.Library
