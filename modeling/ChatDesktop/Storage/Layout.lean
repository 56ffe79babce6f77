import ChatDesktop.Storage.Chains
import Mathlib.Data.List.Range

namespace ChatDesktop.Storage

open Library Library.LinkedChain LocalStorage

abbrev Heads := SortedMap ℕ HeadInfo

def chainBlocks (heads : Heads) (cont : ℕ → List ℕ) : List ℕ :=
  heads.keys.flatMap (fun h => h :: cont h)

structure Layout (d : Disk) (heads : Heads) (free : List ℕ) (n : ℕ) (cont : ℕ → List ℕ) : Prop where
  head : ∀ h hi, heads.find? h = some hi →
    ∃ b, d h = some b ∧ b.type = 1 ∧ b.tag = hi.tag ∧ b.next = hi.next
  linked : ∀ h hi, heads.find? h = some hi → Linked (contNext d) 0 hi.next (cont h)
  partition : (chainBlocks heads cont ++ free).Perm (List.range' 1 n)
  free_type : ∀ i ∈ free, ∀ b, d i = some b → b.type ≠ 1
  outside : ∀ i, i = 0 ∨ n < i → d i = none

section

variable {d d' : Disk} {heads : Heads} {free free' ids : List ℕ} {n h h' i : ℕ} {cont : ℕ → List ℕ}

lemma mem_chainBlocks : i ∈ chainBlocks heads cont ↔ ∃ h ∈ heads.keys, i = h ∨ i ∈ cont h := by
  simp [chainBlocks, List.mem_flatMap]

lemma head_mem_chainBlocks (hh : h ∈ heads.keys) : h ∈ chainBlocks heads cont :=
  mem_chainBlocks.mpr ⟨h, hh, Or.inl rfl⟩

lemma cont_mem_chainBlocks (hh : h ∈ heads.keys) (hi : i ∈ cont h) : i ∈ chainBlocks heads cont :=
  mem_chainBlocks.mpr ⟨h, hh, Or.inr hi⟩

variable (cont) in
lemma chainBlocks_perm (hh : h ∈ heads.keys) :
    (chainBlocks heads cont).Perm ((h :: cont h) ++ chainBlocks (heads.erase h) cont) :=
  (SortedMap.keys_erase_perm hh).flatMap_right _

lemma chainBlocks_insert (hh : h ∉ heads.keys) (hi : HeadInfo) (is : List ℕ) :
    (chainBlocks (heads.insert h hi) (Function.update cont h is)).Perm
      ((h :: is) ++ chainBlocks heads cont) := by
  refine ((SortedMap.keys_insert_perm hh).flatMap_right _).trans (List.Perm.of_eq ?_)
  rw [List.flatMap_cons, Function.update_self]
  refine congrArg _ (List.flatMap_congr (fun j hj => ?_))
  rw [Function.update_of_ne (fun he : j = h => hh (he ▸ hj))]

namespace Layout

lemma nodup (hl : Layout d heads free n cont) : (chainBlocks heads cont ++ free).Nodup :=
  hl.partition.nodup_iff.mpr List.nodup_range'

lemma mem_iff (hl : Layout d heads free n cont) :
    i ∈ chainBlocks heads cont ∨ i ∈ free ↔ 0 < i ∧ i ≤ n := by
  rw [← List.mem_append, hl.partition.mem_iff, List.mem_range'_1]
  omega

lemma chain_not_free (hl : Layout d heads free n cont) (hi : i ∈ chainBlocks heads cont) :
    i ∉ free := fun hf => List.disjoint_of_nodup_append hl.nodup hi hf

lemma chain_range (hl : Layout d heads free n cont) (hi : i ∈ chainBlocks heads cont) :
    0 < i ∧ i ≤ n := hl.mem_iff.mp (Or.inl hi)

lemma free_range (hl : Layout d heads free n cont) (hi : i ∈ free) : 0 < i ∧ i ≤ n :=
  hl.mem_iff.mp (Or.inr hi)

lemma free_nodup (hl : Layout d heads free n cont) : free.Nodup := hl.nodup.of_append_right

lemma chain_nodup (hl : Layout d heads free n cont) (hh : h ∈ heads.keys) : (h :: cont h).Nodup := by
  have hn := ((chainBlocks_perm cont hh).nodup_iff.mp hl.nodup.of_append_left).of_append_left
  exact hn

lemma head_not_mem_cont (hl : Layout d heads free n cont) (hh : h ∈ heads.keys) : h ∉ cont h :=
  (List.nodup_cons.mp (hl.chain_nodup hh)).1

lemma chain_disjoint (hl : Layout d heads free n cont) (hh : h ∈ heads.keys) (hh' : h' ∈ heads.keys)
    (hne : h' ≠ h) : (h :: cont h).Disjoint (h' :: cont h') := by
  have hn := (chainBlocks_perm cont hh).nodup_iff.mp hl.nodup.of_append_left
  intro i hi hi'
  refine List.disjoint_of_nodup_append hn hi ?_
  refine mem_chainBlocks.mpr ⟨h', SortedMap.mem_keys_erase.mpr ⟨hne, hh'⟩, ?_⟩
  simpa using hi'

lemma length_cont (hl : Layout d heads free n cont) (hh : h ∈ heads.keys) : (cont h).length ≤ n := by
  have hp := ((chainBlocks_perm cont hh).append_right free).symm.trans hl.partition
  have hlen := hp.length_eq
  simp only [List.length_append, List.length_cons, List.length_range'] at hlen
  omega

lemma cont_type (hl : Layout d heads free n cont) {hi : HeadInfo} (hh : heads.find? h = some hi)
    (hm : i ∈ cont h) : ∃ b, d i = some b ∧ b.type = 2 := by
  obtain ⟨c, hc⟩ := (hl.linked h hi hh).next_isSome hm
  obtain ⟨b, hb, ht, -⟩ := contNext_eq_some.mp hc
  exact ⟨b, hb, ht⟩

lemma type_one_iff (hl : Layout d heads free n cont) {b : Blk} (hb : d i = some b) :
    b.type = 1 ↔ i ∈ heads.keys := by
  constructor
  · intro ht
    have hr : 0 < i ∧ i ≤ n := by
      by_contra hc
      rw [hl.outside i (by omega)] at hb
      cases hb
    rcases hl.mem_iff.mpr hr with hc | hf
    · obtain ⟨k, hk, rfl | hm⟩ := mem_chainBlocks.mp hc
      · exact hk
      · obtain ⟨hi, hki⟩ := SortedMap.mem_keys.mp hk
        obtain ⟨b', hb', ht'⟩ := hl.cont_type hki hm
        rw [hb] at hb'
        obtain rfl := Option.some.inj hb'
        simp [ht] at ht'
    · exact absurd ht (hl.free_type i hf b hb)
  · intro hk
    obtain ⟨hi, hki⟩ := SortedMap.mem_keys.mp hk
    obtain ⟨b', hb', ht', -⟩ := hl.head i hi hki
    rw [hb] at hb'
    exact (Option.some.inj hb') ▸ ht'

lemma free_perm (hl : Layout d heads free n cont) (hp : free.Perm free') :
    Layout d heads free' n cont :=
  { hl with
    partition := (hp.append_left _).symm.trans hl.partition
    free_type := fun i hi => hl.free_type i (hp.mem_iff.mpr hi) }

lemma frame (hl : Layout d heads free n cont) (hc : ∀ i ∈ chainBlocks heads cont, d' i = d i)
    (hf : ∀ i ∈ free, ∀ b, d' i = some b → b.type ≠ 1) (ho : ∀ i, i = 0 ∨ n < i → d' i = none) :
    Layout d' heads free n cont where
  head h hi hh := by
    rw [hc h (head_mem_chainBlocks (SortedMap.mem_keys_of_find? hh))]
    exact hl.head h hi hh
  linked h hi hh := (hl.linked h hi hh).congr (fun i hi' => by
    rw [contNext, contNext, hc i (cont_mem_chainBlocks (SortedMap.mem_keys_of_find? hh) hi')])
  partition := hl.partition
  free_type := hf
  outside := ho

lemma remove (hl : Layout d heads free n cont) (hh : h ∈ heads.keys)
    (hd : ∀ i, i ≠ h → d' i = d i) (hh' : ∀ b, d' h = some b → b.type ≠ 1) :
    Layout d' (heads.erase h) ((cont h).reverse ++ h :: free) n cont := by
  have hp := chainBlocks_perm cont hh
  obtain ⟨hi₀, hh₀⟩ := SortedMap.mem_keys.mp hh
  refine ⟨fun k hi hk => ?_, fun k hi hk => ?_, ?_, fun i hi b hb => ?_, fun i hi => ?_⟩
  · have hne : k ≠ h := (SortedMap.mem_keys_erase.mp (SortedMap.mem_keys_of_find? hk)).1
    rw [hd k hne]
    rw [SortedMap.find?_erase, if_neg hne] at hk
    exact hl.head k hi hk
  · have hne : k ≠ h := (SortedMap.mem_keys_erase.mp (SortedMap.mem_keys_of_find? hk)).1
    rw [SortedMap.find?_erase, if_neg hne] at hk
    refine (hl.linked k hi hk).congr (fun i hm => ?_)
    have hnei : i ≠ h := by
      rintro rfl
      exact hl.chain_disjoint hh (SortedMap.mem_keys_of_find? hk) hne (List.mem_cons_self)
        (List.mem_cons_of_mem _ hm)
    rw [contNext, contNext, hd i hnei]
  · refine List.Perm.trans ?_ hl.partition
    refine List.Perm.trans ?_ (hp.symm.append_right free)
    rw [List.append_assoc]
    refine (List.perm_append_comm_assoc _ _ _).trans ?_
    calc (cont h).reverse ++ (chainBlocks (heads.erase h) cont ++ h :: free)
        |>.Perm (cont h ++ (chainBlocks (heads.erase h) cont ++ h :: free)) :=
          (List.reverse_perm _).append_right _
      _ |>.Perm (cont h ++ h :: (chainBlocks (heads.erase h) cont ++ free)) :=
          List.perm_middle.append_left _
      _ |>.Perm (h :: (cont h ++ (chainBlocks (heads.erase h) cont ++ free))) := List.perm_middle
  · by_cases hne : i = h
    · exact hh' b (hne ▸ hb)
    · rw [hd i hne] at hb
      simp only [List.mem_append, List.mem_reverse, List.mem_cons, hne, false_or] at hi
      rcases hi with hm | hf
      · obtain ⟨b', hb', ht⟩ := hl.cont_type hh₀ hm
        rw [hb] at hb'
        simp [Option.some.inj hb', ht]
      · exact hl.free_type i hf b hb
  · have hr := hl.chain_range (head_mem_chainBlocks hh)
    rw [hd i (by rintro rfl; omega), hl.outside i hi]

lemma insert {s : LocalStorage} {data : Bytes} {tag : UInt32} (hn : 0 < ids.length)
    (hl : Layout d heads (ids ++ free) n cont)
    (hd : ∀ j, j < ids.length → d' (ids.getD j 0) = some (chainBlk s ids data tag j))
    (hf : ∀ i, i ∉ ids → d' i = d i) :
    Layout d' (heads.insert (ids.getD 0 0) ⟨tag, ids.getD 1 0⟩) free n
      (Function.update cont (ids.getD 0 0) (ids.drop 1)) := by
  have hidsnd : ids.Nodup := hl.free_nodup.of_append_left
  have hsep : ∀ i ∈ chainBlocks heads cont, i ∉ ids := fun i hi hm =>
    hl.chain_not_free hi (List.mem_append_left _ hm)
  have h0 : ids.getD 0 0 ∉ heads.keys := fun hk => hsep _ (head_mem_chainBlocks hk) (getD_mem hn)
  have hpos : ∀ i ∈ ids, 0 < i := fun i hi => (hl.free_range (List.mem_append_left _ hi)).1
  have hcons : ids = ids.getD 0 0 :: ids.drop 1 := by
    cases ids with
    | nil => simp at hn
    | cons i is => rfl
  refine ⟨fun k hi hk => ?_, fun k hi hk => ?_, ?_, fun i hi b hb => ?_, fun i hi => ?_⟩
  · rw [SortedMap.find?_insert] at hk
    split_ifs at hk with he
    · obtain rfl := Option.some.inj hk
      exact ⟨_, he ▸ hd 0 hn, rfl, rfl, rfl⟩
    · rw [hf k (hsep k (head_mem_chainBlocks (SortedMap.mem_keys_of_find? hk)))]
      exact hl.head k hi hk
  · rw [SortedMap.find?_insert] at hk
    split_ifs at hk with he
    · obtain rfl := Option.some.inj hk
      rw [← he, Function.update_self]
      exact linked_drop hpos hd 1 le_rfl
    · have hkm := SortedMap.mem_keys_of_find? hk
      rw [Function.update_of_ne (Ne.symm he)]
      refine (hl.linked k hi hk).congr (fun i hm => ?_)
      rw [contNext, contNext, hf i (hsep i (cont_mem_chainBlocks hkm hm))]
  · refine List.Perm.trans ((chainBlocks_insert h0 _ _).append_right free) ?_
    rw [← hcons, List.append_assoc]
    exact (List.perm_append_comm_assoc _ _ _).trans hl.partition
  · have hni : i ∉ ids := fun hm => List.disjoint_of_nodup_append hl.free_nodup hm hi
    rw [hf i hni] at hb
    exact hl.free_type i (List.mem_append_right _ hi) b hb
  · have hni : i ∉ ids := fun hm => by
      have := hl.free_range (List.mem_append_left _ hm)
      omega
    rw [hf i hni, hl.outside i hi]

lemma update {s : LocalStorage} {data : Bytes} {tag : UInt32} (hh : h ∈ heads.keys)
    (hl : Layout d heads (ids ++ free) n cont)
    (hd : ∀ j, j < (h :: ids).length →
      d' ((h :: ids).getD j 0) = some (chainBlk s (h :: ids) data tag j))
    (hf : ∀ i, i ∉ h :: ids → d' i = d i) :
    Layout d' (heads.insert h ⟨tag, ids.headD 0⟩) ((cont h).reverse ++ free) n
      (Function.update cont h ids) := by
  -- as if the head were removed first and a new record inserted over it
  have hrem : Layout (Function.update d h (some {})) (heads.erase h)
      ((cont h).reverse ++ h :: (ids ++ free)) n cont :=
    hl.remove hh (fun i hi => Function.update_of_ne hi _ _)
      (fun b hb => by rw [Function.update_self] at hb; simp [← Option.some.inj hb])
  have hperm : ((cont h).reverse ++ h :: (ids ++ free)).Perm
      ((h :: ids) ++ ((cont h).reverse ++ free)) :=
    (List.perm_append_comm_assoc (cont h).reverse (h :: ids) free)
  have hins := (hrem.free_perm hperm).insert (s := s) (by simp) hd
    (fun i hi => by
      have hne : i ≠ h := by
        rintro rfl
        exact hi List.mem_cons_self
      rw [hf i hi, Function.update_of_ne hne])
  have hmap : (heads.erase h).insert h ⟨tag, ids.headD 0⟩ = heads.insert h ⟨tag, ids.headD 0⟩ := by
    ext1 k
    simp only [SortedMap.find?_insert, SortedMap.find?_erase]
    split_ifs with h1 h2
    · rfl
    · exact absurd h2.symm h1
    · rfl
  have hnext : (h :: ids).getD 1 0 = ids.headD 0 := by cases ids <;> rfl
  have hins' : Layout d' ((heads.erase h).insert h ⟨tag, ids.headD 0⟩) ((cont h).reverse ++ free) n
      (Function.update cont h ids) := hnext ▸ hins
  exact hmap ▸ hins'

lemma restrict {m : ℕ} (hl : Layout d heads free n cont) (hm : m ≤ n)
    (hd : ∀ i, m < i → d i = none) : Layout d heads (free.filter (fun i => i ≤ m)) m cont where
  head := hl.head
  linked := hl.linked
  partition := by
    have hc : ∀ i ∈ chainBlocks heads cont, i ≤ m := by
      intro i hi
      by_contra hlt
      obtain ⟨k, hk, rfl | hm'⟩ := mem_chainBlocks.mp hi
      · obtain ⟨hinfo, hki⟩ := SortedMap.mem_keys.mp hk
        obtain ⟨b, hb, -⟩ := hl.head _ _ hki
        rw [hd _ (by omega)] at hb
        cases hb
      · obtain ⟨hinfo, hki⟩ := SortedMap.mem_keys.mp hk
        obtain ⟨b, hb, -⟩ := hl.cont_type hki hm'
        rw [hd _ (by omega)] at hb
        cases hb
    have hp := hl.partition.filter (fun i => decide (i ≤ m))
    have hr : (List.range' 1 n).filter (fun i => decide (i ≤ m)) = List.range' 1 m := by
      refine List.Perm.eq_of_pairwise (fun a b _ _ hab hba => absurd hba (lt_asymm hab))
        (List.Pairwise.filter _ List.pairwise_lt_range') List.pairwise_lt_range' ?_
      refine (List.perm_ext_iff_of_nodup (List.Nodup.filter _ List.nodup_range') List.nodup_range').mpr
        (fun i => ?_)
      simp only [List.mem_filter, List.mem_range'_1, decide_eq_true_eq]
      omega
    rw [hr, List.filter_append, List.filter_eq_self.mpr (fun i hi => by simpa using hc i hi)] at hp
    exact hp
  free_type i hi := hl.free_type i (List.mem_of_mem_filter hi)
  outside i hi := hi.elim (fun h0 => hl.outside i (Or.inl h0)) (hd i)

lemma truncate {m : ℕ} (hl : Layout d heads free n cont) (hm : m ≤ n)
    (hfree : ∀ i, m < i → i ≤ n → i ∈ free) :
    Layout (fun i => if i ≤ m then d i else none) heads
      ((List.range' 1 m).filter (fun i => decide (i ∈ free))) m cont := by
  have hframe : Layout (fun i => if i ≤ m then d i else none) heads free n cont := by
    refine hl.frame (fun i hi => ?_) (fun i hi b hb => ?_) (fun i hi => ?_)
    · have hr := hl.chain_range hi
      refine if_pos (Nat.le_of_not_lt (fun hlt => hl.chain_not_free hi (hfree i hlt hr.2)))
    · split_ifs at hb
      exact hl.free_type i hi b hb
    · simp only [hl.outside i hi, ite_self]
  refine (hframe.restrict hm (fun i hi => if_neg (by omega))).free_perm ?_
  refine (List.perm_ext_iff_of_nodup (List.Nodup.filter _ hl.free_nodup)
    (List.Nodup.filter _ List.nodup_range')).mpr (fun i => ?_)
  simp only [List.mem_filter, List.mem_range'_1, decide_eq_true_eq]
  constructor
  · rintro ⟨hi, hle⟩
    have := hl.free_range hi
    exact ⟨by omega, hi⟩
  · rintro ⟨hr, hi⟩
    exact ⟨hi, by omega⟩

end Layout

/-! ### Allocation -/

lemma allocMany_eq (k : ℕ) (s : LocalStorage) :
    allocMany k s = (s.free.take k ++ List.range' (s.nblocks + 1) (k - s.free.length),
      { s with free := s.free.drop k, nblocks := s.nblocks + (k - s.free.length) }) := by
  induction k generalizing s with
  | zero => simp [allocMany]
  | succ k ih =>
    rw [allocMany]
    cases hf : s.free with
    | nil =>
      simp only [alloc, hf, ih, List.take_nil, List.drop_nil, List.length_nil, Nat.sub_zero,
        List.nil_append, List.range'_succ]
      congr 2
      omega
    | cons i is =>
      simp only [alloc, hf, ih, List.take_succ_cons, List.drop_succ_cons, List.length_cons,
        List.cons_append, Nat.add_sub_add_right]

lemma Layout.alloc {s : LocalStorage} (hl : Layout d heads s.free s.nblocks cont) (k : ℕ) :
    Layout d heads ((allocMany k s).1 ++ (allocMany k s).2.free) (allocMany k s).2.nblocks cont := by
  rw [allocMany_eq]
  simp only
  have hp : (s.free ++ List.range' (s.nblocks + 1) (k - s.free.length)).Perm
      (s.free.take k ++ List.range' (s.nblocks + 1) (k - s.free.length) ++ s.free.drop k) := by
    rw [List.append_assoc]
    calc s.free ++ List.range' (s.nblocks + 1) (k - s.free.length)
      _ = s.free.take k ++ (s.free.drop k ++ List.range' (s.nblocks + 1) (k - s.free.length)) := by
          rw [← List.append_assoc, List.take_append_drop]
      _ |>.Perm (s.free.take k ++ (List.range' (s.nblocks + 1) (k - s.free.length) ++ s.free.drop k)) :=
          List.perm_append_comm.append_left _
  refine Layout.free_perm ?_ hp
  refine ⟨hl.head, hl.linked, ?_, fun i hi b hb => ?_, fun i hi => hl.outside i (by omega)⟩
  · rw [← List.append_assoc]
    refine (hl.partition.append_right _).trans (List.Perm.of_eq ?_)
    rw [show s.nblocks + 1 = 1 + s.nblocks by omega, List.range'_append_1]
  · rcases List.mem_append.mp hi with hm | hm
    · exact hl.free_type i hm b hb
    · rw [List.mem_range'_1] at hm
      rw [hl.outside i (by omega)] at hb
      cases hb

lemma length_allocMany (k : ℕ) (s : LocalStorage) : (allocMany k s).1.length = k := by
  rw [allocMany_eq]
  simp only [List.length_append, List.length_take, List.length_range']
  omega

end

end ChatDesktop.Storage
