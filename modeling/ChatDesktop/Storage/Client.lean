import ChatDesktop.Storage.MapContract

namespace ChatDesktop.Storage

open Library Library.Program Library.Transition LocalStorage

inductive Request
  | insert (data : Bytes) (tag : UInt32)
  | update (h : ℕ) (data : Bytes)
  | remove (h : ℕ)
  | setRoot (name : Bytes) (h : ℕ)
  | removeRoot (name : Bytes)

def resolve (table : List ℕ) (h : ℕ) : ℕ := table.getD h 0

def Request.op (table : List ℕ) : Request → Op
  | .insert data tag => .insert data tag
  | .update h data => .update (resolve table h) data
  | .remove h => .remove (resolve table h)
  | .setRoot name h => .setRoot name (resolve table h)
  | .removeRoot name => .removeRoot name

def forget (id : ℕ) (table : List ℕ) : List ℕ := table.map (fun i => if i = id then 0 else i)

def remember (table : List ℕ) : Request → Outcome → List ℕ
  | .insert _ _, .inserted id => table ++ [id]
  | .remove h, .answered true => forget (resolve table h) table
  | _, _ => table

def Outcome.anonymous : Outcome → Outcome
  | .inserted _ => .inserted 0
  | out => out

structure View where
  record : ℕ → Except Error (Option Bytes)
  tagged : UInt32 → List ℕ
  root : Bytes → Option ℕ
  count : ℕ

def look (C : Crypto) (table : List ℕ) (w : World) : View where
  record h := LocalStorage.get C w (resolve table h)
  tagged tag := (List.range table.length).filter (fun h => decide (resolve table h ∈ ids w.storage tag))
  root name := (root w.storage name).map (fun id => table.idxOf id)
  count := recordCount w.storage

def session (C : Crypto) : List Request → List ℕ → World → List (Outcome × View)
  | [], _, _ => []
  | r :: rs, table, w =>
    let out := (step C (r.op table) w).1
    let w' := (step C (r.op table) w).2
    (out.anonymous, look C (remember table r out) w') :: session C rs (remember table r out) w'

structure Handles (a : Store) (table : List ℕ) : Prop where
  zero : a.record 0 = none
  live : ∀ id ∈ table, id ≠ 0 → (a.record id).isSome = true
  once : table.Pairwise (fun i j => i ≠ 0 → i ≠ j)
  all : ∀ id, (a.record id).isSome = true → id ∈ table

structure Twins (a b : Store) (table table' : List ℕ) : Prop where
  left : Handles a table
  right : Handles b table'
  length : table.length = table'.length
  record : ∀ h, a.record (resolve table h) = b.record (resolve table' h)
  root : ∀ n h, resolve table h ≠ 0 →
    (a.root n = some (resolve table h) ↔ b.root n = some (resolve table' h))
  leftRoots : a.RootsLive
  rightRoots : b.RootsLive

section

variable {a b a' b' : Store} {table table' : List ℕ} {id h : ℕ}

lemma resolve_mem (hh : h < table.length) : resolve table h ∈ table := getD_mem hh

lemma resolve_of_le (hh : table.length ≤ h) : resolve table h = 0 := List.getD_eq_default _ _ hh

lemma resolve_append_lt (hh : h < table.length) : resolve (table ++ [id]) h = resolve table h := by
  rw [resolve, resolve, List.getD_eq_getElem _ _ (by simp; omega), List.getD_eq_getElem _ _ hh,
    List.getElem_append_left hh]

lemma resolve_append_length : resolve (table ++ [id]) table.length = id := by
  rw [resolve, List.getD_eq_getElem _ _ (by simp)]
  simp

lemma resolve_forget (i : ℕ) : resolve (forget i table) h = if resolve table h = i then 0 else resolve table h := by
  by_cases hh : h < table.length
  · rw [resolve, resolve, forget, List.getD_eq_getElem _ _ (by simpa using hh), List.getElem_map,
      List.getD_eq_getElem _ _ hh]
  · have hf : (forget i table).length = table.length := List.length_map _
    rw [resolve_of_le (by omega), resolve_of_le (by omega), ite_self]

namespace Handles

lemma resolve_isSome (ht : Handles a table) (h0 : resolve table h ≠ 0) :
    (a.record (resolve table h)).isSome = true := by
  refine ht.live _ (resolve_mem ?_) h0
  by_contra hlt
  exact h0 (resolve_of_le (by omega))

lemma resolve_eq_zero (ht : Handles a table) : resolve table h = 0 ↔ a.record (resolve table h) = none := by
  constructor
  · intro h0
    rw [h0, ht.zero]
  · intro hn
    by_contra h0
    have := ht.resolve_isSome h0
    simp [hn] at this

lemma resolve_inj (ht : Handles a table) {i j : ℕ} (h0 : resolve table i ≠ 0)
    (he : resolve table i = resolve table j) : i = j := by
  have hi : i < table.length := by
    by_contra hlt
    exact h0 (resolve_of_le (by omega))
  have hj : j < table.length := by
    by_contra hlt
    exact h0 (he.trans (resolve_of_le (by omega)))
  rw [resolve, List.getD_eq_getElem _ _ hi] at h0 he
  rw [resolve, List.getD_eq_getElem _ _ hj] at he
  have hp := List.pairwise_iff_getElem.mp ht.once
  rcases Nat.lt_trichotomy i j with hlt | heq | hgt
  · exact absurd he (hp i j hi hj hlt h0)
  · exact heq
  · exact absurd he.symm (hp j i hj hi hgt (he ▸ h0))

lemma idxOf_resolve (ht : Handles a table) (h0 : resolve table h ≠ 0) :
    table.idxOf (resolve table h) = h := by
  have hh : h < table.length := by
    by_contra hlt
    exact h0 (resolve_of_le (by omega))
  have hm := resolve_mem hh
  refine (ht.resolve_inj h0 ?_).symm
  have hlt := List.idxOf_lt_length_of_mem hm
  conv_rhs => rw [resolve, List.getD_eq_getElem _ _ hlt, List.getElem_idxOf hlt]

lemma exists_resolve (ht : Handles a table) (hl : (a.record id).isSome = true) :
    ∃ h, resolve table h = id ∧ id ≠ 0 ∧ table.idxOf id = h := by
  have hm := ht.all id hl
  have hlt := List.idxOf_lt_length_of_mem hm
  refine ⟨table.idxOf id, ?_, ?_, rfl⟩
  · rw [resolve, List.getD_eq_getElem _ _ hlt, List.getElem_idxOf hlt]
  · rintro rfl
    rw [ht.zero] at hl
    cases hl

lemma append (ht : Handles a table) {r : UInt32 × Bytes} (hpos : 0 < id) (hnew : a.record id = none) :
    Handles (a.put id r) (table ++ [id]) := by
  refine ⟨?_, fun i hi h0 => ?_, ?_, fun i hi => ?_⟩
  · simp only [Store.put, Function.update_of_ne (Nat.ne_of_lt hpos), ht.zero]
  · by_cases he : i = id
    · simp [Store.put, he]
    · simp only [Store.put, Function.update_of_ne he]
      refine ht.live i ?_ h0
      simpa [he] using hi
  · refine List.pairwise_append.mpr ⟨ht.once, List.pairwise_singleton _ _, fun i hi j hj h0 he => ?_⟩
    rw [List.mem_singleton] at hj
    have := ht.live i hi h0
    rw [he, hj, hnew] at this
    cases this
  · by_cases he : i = id
    · exact List.mem_append_right _ (List.mem_singleton.mpr he)
    · simp only [Store.put, Function.update_of_ne he] at hi
      exact List.mem_append_left _ (ht.all i hi)

lemma put (ht : Handles a table) {r : UInt32 × Bytes} (hl : (a.record id).isSome = true) :
    Handles (a.put id r) table := by
  have h0 : (0 : ℕ) ≠ id := by
    rintro rfl
    rw [ht.zero] at hl
    cases hl
  refine ⟨?_, fun i hi hne => ?_, ht.once, fun i hi => ?_⟩
  · simp only [Store.put, Function.update_of_ne h0, ht.zero]
  · by_cases he : i = id
    · simp [Store.put, he]
    · simp only [Store.put, Function.update_of_ne he]
      exact ht.live i hi hne
  · by_cases he : i = id
    · exact he ▸ ht.all id hl
    · simp only [Store.put, Function.update_of_ne he] at hi
      exact ht.all i hi

lemma forget (id : ℕ) (ht : Handles a table) : Handles (a.delete id) (forget id table) := by
  refine ⟨?_, fun i hi h0 => ?_, ?_, fun i hi => ?_⟩
  · simp only [Store.delete]
    by_cases h0 : 0 = id
    · rw [h0, Function.update_self]
    · rw [Function.update_of_ne h0, ht.zero]
  · obtain ⟨j, hj, he⟩ := List.mem_map.mp hi
    split_ifs at he with hji
    · exact absurd he.symm h0
    · subst he
      simp only [Store.delete, Function.update_of_ne hji]
      exact ht.live j hj h0
  · refine List.pairwise_map.mpr (ht.once.imp ?_)
    intro i j hij
    split_ifs with h1 h2 h2 <;> simp_all
  · by_cases he : i = id
    · simp [Store.delete, he] at hi
    · simp only [Store.delete, Function.update_of_ne he] at hi
      exact List.mem_map.mpr ⟨i, ht.all i hi, if_neg he⟩

lemma name (ht : Handles a table) (n : Bytes) (r : Option ℕ) : Handles (a.name n r) table :=
  ⟨ht.zero, ht.live, ht.once, ht.all⟩

end Handles

namespace Twins

lemma resolve_zero (ht : Twins a b table table') : resolve table h = 0 ↔ resolve table' h = 0 := by
  rw [ht.left.resolve_eq_zero, ht.right.resolve_eq_zero, ht.record]

lemma symm (ht : Twins a b table table') : Twins b a table' table :=
  ⟨ht.right, ht.left, ht.length.symm, fun h => (ht.record h).symm,
    fun n _ h0 => (ht.root n _ (fun hz => h0 (ht.resolve_zero.mp hz))).symm, ht.rightRoots, ht.leftRoots⟩

lemma root_isSome (ht : Twins a b table table') {n : Bytes} (hs : (a.root n).isSome = true) :
    (b.root n).isSome = true := by
  obtain ⟨id, hid⟩ := Option.isSome_iff_exists.mp hs
  obtain ⟨h, rfl, h0, -⟩ := ht.left.exists_resolve (ht.leftRoots n id hid)
  rw [(ht.root n h h0).mp hid]
  rfl

lemma root_eq_none (ht : Twins a b table table') {n : Bytes} : a.root n = none ↔ b.root n = none := by
  rw [← Option.not_isSome_iff_eq_none, ← Option.not_isSome_iff_eq_none]
  exact not_congr ⟨ht.root_isSome, ht.symm.root_isSome⟩

lemma root_idxOf (ht : Twins a b table table') (n : Bytes) :
    (a.root n).map (fun id => table.idxOf id) = (b.root n).map (fun id => table'.idxOf id) := by
  cases ha : a.root n with
  | none => rw [ht.root_eq_none.mp ha, Option.map_none, Option.map_none]
  | some id =>
    obtain ⟨h, rfl, h0, hidx⟩ := ht.left.exists_resolve (ht.leftRoots n id ha)
    rw [(ht.root n h h0).mp ha, Option.map_some, Option.map_some, hidx,
      ht.right.idxOf_resolve (fun hz => h0 (ht.resolve_zero.mpr hz))]

lemma insert (ht : Twins a b table table') {r : UInt32 × Bytes} {id id' : ℕ} (hpos : 0 < id)
    (hnew : a.record id = none) (hpos' : 0 < id') (hnew' : b.record id' = none) :
    Twins (a.put id r) (b.put id' r) (table ++ [id]) (table' ++ [id']) := by
  have hla := ht.left.append (r := r) hpos hnew
  have hlb := ht.right.append (r := r) hpos' hnew'
  have hlen := ht.length
  refine ⟨hla, hlb, by simp [hlen], fun h => ?_, fun n h h0 => ?_, ht.leftRoots.put r, ht.rightRoots.put r⟩
  · rcases Nat.lt_trichotomy h table.length with hlt | rfl | hgt
    · rw [resolve_append_lt hlt, resolve_append_lt (by omega)]
      have hne : resolve table h ≠ id := by
        intro he
        have := ht.left.live _ (resolve_mem hlt) (by omega)
        rw [he, hnew] at this
        cases this
      have hne' : resolve table' h ≠ id' := by
        intro he
        have := ht.right.live _ (resolve_mem (h := h) (by omega)) (by omega)
        rw [he, hnew'] at this
        cases this
      simp only [Store.put, Function.update_of_ne hne, Function.update_of_ne hne', ht.record]
    · rw [resolve_append_length, hlen, resolve_append_length]
      simp [Store.put]
    · rw [resolve_of_le (by simp; omega),
        resolve_of_le (by simp; omega), hla.zero, hlb.zero]
  · rcases Nat.lt_trichotomy h table.length with hlt | rfl | hgt
    · rw [resolve_append_lt hlt] at h0 ⊢
      rw [resolve_append_lt (by omega)]
      exact ht.root n h h0
    · rw [resolve_append_length, hlen, resolve_append_length]
      refine iff_of_false (fun hn => ?_) (fun hn => ?_)
      · have := ht.leftRoots n id hn
        rw [hnew] at this
        cases this
      · have := ht.rightRoots n id' hn
        rw [hnew'] at this
        cases this
    · exact absurd (resolve_of_le (by simp; omega)) h0

lemma update (ht : Twins a b table table') {r : UInt32 × Bytes} (h0 : resolve table h ≠ 0) :
    Twins (a.put (resolve table h) r) (b.put (resolve table' h) r) table table' := by
  have h0' : resolve table' h ≠ 0 := fun hz => h0 (ht.resolve_zero.mpr hz)
  refine ⟨ht.left.put (ht.left.resolve_isSome h0), ht.right.put (ht.right.resolve_isSome h0'), ht.length,
    fun k => ?_, ht.root, ht.leftRoots.put r, ht.rightRoots.put r⟩
  by_cases hk : k = h
  · subst hk
    simp [Store.put]
  · have hne : resolve table k ≠ resolve table h := fun he => hk (ht.left.resolve_inj h0 he.symm).symm
    have hne' : resolve table' k ≠ resolve table' h := fun he =>
      hk (ht.right.resolve_inj h0' he.symm).symm
    simp only [Store.put, Function.update_of_ne hne, Function.update_of_ne hne', ht.record]

lemma remove (ht : Twins a b table table') (h0 : resolve table h ≠ 0) :
    Twins (a.delete (resolve table h)) (b.delete (resolve table' h)) (forget (resolve table h) table)
      (forget (resolve table' h) table') := by
  have h0' : resolve table' h ≠ 0 := fun hz => h0 (ht.resolve_zero.mpr hz)
  have hiff : ∀ k, resolve table k = resolve table h ↔ resolve table' k = resolve table' h := fun k =>
    ⟨fun he => by rw [ht.left.resolve_inj h0 he.symm], fun he => by rw [ht.right.resolve_inj h0' he.symm]⟩
  have hla := ht.left.forget (resolve table h)
  have hlb := ht.right.forget (resolve table' h)
  refine ⟨hla, hlb, by simp [forget, ht.length], fun k => ?_, fun n k hk => ?_, ht.leftRoots.delete,
    ht.rightRoots.delete⟩
  · rw [resolve_forget, resolve_forget]
    by_cases he : resolve table k = resolve table h
    · rw [if_pos he, if_pos ((hiff k).mp he), hla.zero, hlb.zero]
    · have he' : ¬resolve table' k = resolve table' h := fun hh => he ((hiff k).mpr hh)
      rw [if_neg he, if_neg he']
      simp only [Store.delete, Function.update_of_ne he, Function.update_of_ne he', ht.record]
  · rw [resolve_forget] at hk ⊢
    rw [resolve_forget]
    by_cases he : resolve table k = resolve table h
    · exact absurd (if_pos he) hk
    · have he' : ¬resolve table' k = resolve table' h := fun hh => he ((hiff k).mpr hh)
      rw [if_neg he] at hk ⊢
      rw [if_neg he']
      have hroot := ht.root n k hk
      simp only [Store.delete]
      constructor
      · intro hn
        split_ifs at hn with hd
        rw [if_neg (fun hb => ?_), hroot.mp hn]
        rw [hroot.mp hn] at hb
        exact he' (Option.some.inj hb)
      · intro hn
        split_ifs at hn with hd
        rw [if_neg (fun hb => ?_), hroot.mpr hn]
        rw [hroot.mpr hn] at hb
        exact he (Option.some.inj hb)

lemma setRoot (ht : Twins a b table table') (n : Bytes) (h0 : resolve table h ≠ 0) :
    Twins (a.name n (some (resolve table h))) (b.name n (some (resolve table' h))) table table' := by
  have h0' : resolve table' h ≠ 0 := fun hz => h0 (ht.resolve_zero.mpr hz)
  have hs := ht.left.resolve_isSome h0
  have hs' := ht.right.resolve_isSome h0'
  refine ⟨ht.left.name n _, ht.right.name n _, ht.length, ht.record, fun m k hk => ?_,
    ht.leftRoots.step (.setRoot a n _ hs), ht.rightRoots.step (.setRoot b n _ hs')⟩
  simp only [Store.name]
  by_cases hm : m = n
  · rw [hm, Function.update_self, Function.update_self, Option.some_inj, Option.some_inj]
    exact ⟨fun he => by rw [ht.left.resolve_inj h0 he], fun he => by rw [ht.right.resolve_inj h0' he]⟩
  · rw [Function.update_of_ne hm, Function.update_of_ne hm]
    exact ht.root m k hk

lemma removeRoot (ht : Twins a b table table') {n : Bytes} (hs : (a.root n).isSome = true) :
    Twins (a.name n none) (b.name n none) table table' := by
  refine ⟨ht.left.name n _, ht.right.name n _, ht.length, ht.record, fun m k hk => ?_,
    ht.leftRoots.step (.removeRoot a n hs), ht.rightRoots.step (.removeRoot b n (ht.root_isSome hs))⟩
  simp only [Store.name]
  by_cases hm : m = n
  · rw [hm, Function.update_self, Function.update_self]
    exact iff_of_false (by simp) (by simp)
  · rw [Function.update_of_ne hm, Function.update_of_ne hm]
    exact ht.root m k hk

lemma step (ht : Twins a b table table') {r : Request} {out out' : Outcome}
    (ha : Store.Step a (r.op table, out) a') (hb : Store.Step b (r.op table', out') b') :
    out.anonymous = out'.anonymous ∧ Twins a' b' (remember table r out) (remember table' r out') := by
  have hlive : ∀ h, (a.record (resolve table h)).isSome = true → resolve table h ≠ 0 := by
    intro h hs h0
    rw [h0, ht.left.zero] at hs
    cases hs
  cases r with
  | insert data tag =>
    cases ha with
    | insert _ _ id htag hpos hnew =>
      cases hb with
      | insert _ _ id' _ hpos' hnew' => exact ⟨rfl, ht.insert hpos hnew hpos' hnew'⟩
      | insertReserved => exact absurd rfl htag
    | insertReserved =>
      cases hb with
      | insert _ _ _ htag _ _ => exact absurd rfl htag
      | insertReserved => exact ⟨rfl, ht⟩
  | update h data =>
    have hrec := ht.record h
    cases ha with
    | update _ tag old _ hold =>
      cases hb with
      | update _ tag' old' _ hold' =>
        rw [hold, hold'] at hrec
        obtain ⟨rfl, -⟩ := Prod.mk.inj (Option.some.inj hrec)
        exact ⟨rfl, ht.update (hlive h (by rw [hold]; rfl))⟩
      | updateMissing _ _ hnone => simp [hold, hnone] at hrec
    | updateMissing _ _ hnone =>
      cases hb with
      | update _ tag' old' _ hold' => simp [hold', hnone] at hrec
      | updateMissing => exact ⟨rfl, ht⟩
  | remove h =>
    have hrec := ht.record h
    cases ha with
    | remove _ hs =>
      cases hb with
      | remove => exact ⟨rfl, ht.remove (hlive h hs)⟩
      | removeMissing _ hnone => simp [hrec, hnone] at hs
    | removeMissing _ hnone =>
      cases hb with
      | remove _ hs => simp [← hrec, hnone] at hs
      | removeMissing => exact ⟨rfl, ht⟩
  | setRoot n h =>
    have hrec := ht.record h
    cases ha with
    | setRoot _ _ hs =>
      cases hb with
      | setRoot => exact ⟨rfl, ht.setRoot n (hlive h hs)⟩
      | setRootMissing _ _ hnone => simp [hrec, hnone] at hs
    | setRootMissing _ _ hnone =>
      cases hb with
      | setRoot _ _ hs => simp [← hrec, hnone] at hs
      | setRootMissing => exact ⟨rfl, ht⟩
  | removeRoot n =>
    cases ha with
    | removeRoot _ hs =>
      cases hb with
      | removeRoot => exact ⟨rfl, ht.removeRoot hs⟩
      | removeRootMissing _ hnone => simp [ht.root_eq_none.mpr hnone] at hs
    | removeRootMissing _ hnone =>
      cases hb with
      | removeRoot _ hs => simp [ht.root_eq_none.mp hnone] at hs
      | removeRootMissing => exact ⟨rfl, ht⟩

end Twins

end

/-! ### Sessions -/

section

variable {C : Crypto} {pw : Bytes} {w w' : World} {a b : Store} {cont cont' : ℕ → List ℕ}
  {table table' : List ℕ}

def userIds (s : LocalStorage) : List ℕ := s.head.keys.filter (fun id => !decide (id = s.dirId))

lemma mem_userIds {s : LocalStorage} {id : ℕ} : id ∈ userIds s ↔ hasRecord s id = true := by
  rw [userIds, List.mem_filter, hasRecord_iff, and_comm]
  simp

lemma Wf.recordCount_eq (h : Wf C pw w cont) : recordCount w.storage = (userIds w.storage).length := by
  have hlen : w.storage.head.keys.length = w.storage.head.size := SortedMap.length_keys _
  by_cases h0 : w.storage.dirId = 0
  · have hall : userIds w.storage = w.storage.head.keys := by
      refine List.filter_eq_self.mpr (fun id hid => ?_)
      have hne : id ≠ 0 := fun he => h.layout.zero_not_mem (he ▸ hid)
      simp [h0, hne]
    rw [recordCount, if_pos h0, hall, hlen, Nat.sub_zero]
  · have hp : w.storage.head.keys.Perm (w.storage.dirId :: userIds w.storage) := by
      refine (List.perm_ext_iff_of_nodup (SortedMap.keys_nodup _) (List.nodup_cons.mpr
        ⟨by simp, List.Nodup.filter _ (SortedMap.keys_nodup _)⟩)).mpr (fun id => ?_)
      change _ ↔ id ∈ w.storage.dirId :: userIds w.storage
      rw [List.mem_cons, mem_userIds, hasRecord_iff]
      have hd := h.directory.mem h0
      by_cases hid : id = w.storage.dirId
      · simp [hid, hd]
      · simp [hid]
    have := hp.length_eq
    rw [List.length_cons] at this
    rw [recordCount, if_neg h0]
    omega

lemma count_handles (ht : Handles a table) (hl : ∀ id, hasRecord w.storage id = (a.record id).isSome) :
    (userIds w.storage).length = ((List.range table.length).filter
      (fun h => !decide (resolve table h = 0))).length := by
  have hmap : (List.range table.length).map (resolve table) = table := by
    refine List.ext_getElem (by simp) (fun i h1 h2 => ?_)
    rw [List.getElem_map, List.getElem_range, resolve, List.getD_eq_getElem _ _ h2]
  have hf : ((List.range table.length).filter (fun h => !decide (resolve table h = 0))).length =
      (table.filter (fun i => !decide (i = 0))).length := by
    conv_rhs => rw [← hmap, List.filter_map, List.length_map]
    rfl
  have hnd : (table.filter (fun i => !decide (i = 0))).Nodup := by
    refine List.Pairwise.imp_of_mem ?_ (List.Pairwise.filter _ ht.once)
    intro i j hi hj hij
    exact hij (by simpa using (List.mem_filter.mp hi).2)
  rw [hf]
  refine List.Perm.length_eq ((List.perm_ext_iff_of_nodup
    (List.Nodup.filter _ (SortedMap.keys_nodup _)) hnd).mpr (fun id => ?_))
  change id ∈ userIds w.storage ↔ _
  rw [mem_userIds, hl, List.mem_filter]
  constructor
  · intro hs
    refine ⟨ht.all id hs, ?_⟩
    have hne : id ≠ 0 := by
      rintro rfl
      rw [ht.zero] at hs
      cases hs
    simpa using hne
  · rintro ⟨hm, h0⟩
    exact ht.live id hm (by simpa using h0)

lemma Related.get_zero (h : Related C pw w a cont) : LocalStorage.get C w 0 = .ok none :=
  getLocked_none h.wf.layout.zero_not_mem

lemma Twins.look_eq (ht : Twins a b table table') (h : Related C pw w a cont)
    (h' : Related C pw w' b cont') : look C table w = look C table' w' := by
  have hag := h.agrees
  have hag' := h'.agrees
  have hrecord : ∀ i, LocalStorage.get C w (resolve table i) = LocalStorage.get C w' (resolve table' i) := by
    intro i
    by_cases h0 : resolve table i = 0
    · rw [h0, ht.resolve_zero.mp h0, h.get_zero, h'.get_zero]
    · obtain ⟨⟨tag, data⟩, hr⟩ := Option.isSome_iff_exists.mp (ht.left.resolve_isSome h0)
      rw [hag.get _ tag data hr, hag'.get _ tag data ((ht.record i).symm.trans hr)]
  have htag : ∀ tag i, resolve table i ∈ ids w.storage tag ↔ resolve table' i ∈ ids w'.storage tag := by
    intro tag i
    rw [(hag.ids tag).2, (hag'.ids tag).2, ht.record]
  have hcount : recordCount w.storage = recordCount w'.storage := by
    rw [h.wf.recordCount_eq, h'.wf.recordCount_eq, count_handles ht.left hag.live,
      count_handles ht.right hag'.live, ht.length]
    congr 1
    refine List.filter_congr (fun i _ => ?_)
    rw [decide_eq_decide.mpr ht.resolve_zero]
  have hroot : ∀ n, (LocalStorage.root w.storage n).map (fun id => table.idxOf id) =
      (LocalStorage.root w'.storage n).map (fun id => table'.idxOf id) := by
    intro n
    rw [hag.root, hag'.root]
    exact ht.root_idxOf n
  simp only [look, hrecord, hcount, hroot, View.mk.injEq, true_and, and_true, ht.length]
  funext tag
  exact List.filter_congr (fun i _ => decide_eq_decide.mpr (htag tag i))

lemma Twins.session_eq (ht : Twins a b table table') (h : Related C pw w a cont)
    (h' : Related C pw w' b cont') (rs : List Request)
    (hok : ∀ v ∈ session C rs table w, ¬IoFailed v.1)
    (hok' : ∀ v ∈ session C rs table' w', ¬IoFailed v.1) :
    session C rs table w = session C rs table' w' := by
  induction rs generalizing w w' a b cont cont' table table' with
  | nil => rfl
  | cons r rs ih =>
    have hanon : ∀ out : Outcome, ¬IoFailed out.anonymous → ¬IoFailed out := by
      rintro out hn ⟨e, rfl, he⟩
      exact hn ⟨e, rfl, he⟩
    simp only [session, List.mem_cons, forall_eq_or_imp] at hok hok' ⊢
    have hrun : Steps C w (r.op table, (Storage.step C (r.op table) w).1)
        (Storage.step C (r.op table) w).2 := rfl
    have hrun' : Steps C w' (r.op table', (Storage.step C (r.op table') w').1)
        (Storage.step C (r.op table') w').2 := rfl
    obtain ⟨a', hs, cont₁, h₁⟩ := h.step hrun (hanon _ hok.1)
    obtain ⟨b', hs', cont₂, h₂⟩ := h'.step hrun' (hanon _ hok'.1)
    obtain ⟨hout, ht'⟩ := ht.step hs hs'
    rw [hout, ht'.look_eq h₁ h₂, ih ht' h₁ h₂ hok.2 hok'.2]

lemma Related.twins_self (h : Related C pw w a cont) : Twins a a (userIds w.storage) (userIds w.storage) := by
  have hlive := h.agrees.live
  have hh : Handles a (userIds w.storage) := by
    refine ⟨?_, fun id hid _ => ?_, ?_, fun id hid => ?_⟩
    · have hz : hasRecord w.storage 0 = false := by
        by_contra hc
        exact h.wf.layout.zero_not_mem (hasRecord_iff.mp (by simpa using hc)).2
      rw [hlive] at hz
      exact Option.not_isSome_iff_eq_none.mp (by simp [hz])
    · rw [← hlive]
      exact mem_userIds.mp hid
    · refine List.Pairwise.imp ?_ (List.Pairwise.filter _ w.storage.head.keys_sorted)
      intro i j hlt _
      exact Nat.ne_of_lt hlt
    · rw [← hlive] at hid
      exact mem_userIds.mpr hid
  exact ⟨hh, hh, rfl, fun _ => rfl, fun _ _ _ => Iff.rfl, h.live, h.live⟩

end

end ChatDesktop.Storage
