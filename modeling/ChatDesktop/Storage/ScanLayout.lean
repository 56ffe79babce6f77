import ChatDesktop.Storage.Trimming

namespace ChatDesktop.Storage

open Library Library.Program Library.LinkedChain LocalStorage

structure Traced (d : Disk) (a : Scan) (cont : ℕ → List ℕ) : Prop where
  head : ∀ h hi, a.head.find? h = some hi →
    ∃ b, d h = some b ∧ b.type = 1 ∧ b.tag = hi.tag ∧ b.next = hi.next
  linked : ∀ h hi, a.head.find? h = some hi → Linked (contNext d) 0 hi.next (cont h)
  seen : a.seen.Perm (a.head.keys.flatMap cont)
  nodup : a.seen.Nodup
  tags : TagIndexed a.byTag a.head

section

variable {d : Disk} {info : ℕ → Blk} {n m : ℕ} {a b : Scan} {cont : ℕ → List ℕ}

lemma walkChain_linked (hinfo : ∀ i, 0 < i → i ≤ n → d i = some (info i)) {fuel c : ℕ} {seen s : List ℕ}
    (h : walkChain info n fuel c seen = some s) (hd : seen.Nodup) :
    ∃ is, Linked (contNext d) 0 c is ∧ s = is.reverse ++ seen ∧ s.Nodup := by
  induction fuel generalizing c seen with
  | zero =>
    rw [walkChain] at h
    split_ifs at h with h0
    obtain rfl := Option.some.inj h
    exact ⟨[], h0, rfl, hd⟩
  | succ fuel ih =>
    rw [walkChain] at h
    split_ifs at h with h0 hbad
    · obtain rfl := Option.some.inj h
      exact ⟨[], h0, rfl, hd⟩
    · push Not at hbad
      obtain ⟨hle, htype, hnew⟩ := hbad
      obtain ⟨is, hl, rfl, hs⟩ := ih h (List.nodup_cons.mpr ⟨hnew, hd⟩)
      have hnext : contNext d c = some (info c).next :=
        contNext_eq_some.mpr ⟨_, hinfo c (Nat.pos_of_ne_zero h0) hle, htype, rfl⟩
      refine ⟨c :: is, ⟨rfl, h0, _, hnext, hl⟩, ?_, hs⟩
      rw [List.reverse_cons, List.append_assoc]
      rfl

lemma Traced.start (d : Disk) : Traced d {} (fun _ => []) :=
  ⟨fun _ _ h => by simp at h, fun _ _ h => by simp at h, .refl _, .nil, .empty⟩

lemma Traced.take (h : Traced d a cont) {id : ℕ} {blk : Blk} {is : List ℕ} (hid : id ∉ a.head.keys)
    (hb : d id = some blk) (ht : blk.type = 1) (hl : Linked (contNext d) 0 blk.next is)
    (hn : (is.reverse ++ a.seen).Nodup) :
    Traced d ⟨a.head.insert id ⟨blk.tag, blk.next⟩, addTag a.byTag blk.tag id, is.reverse ++ a.seen⟩
      (Function.update cont id is) := by
  have hold : ∀ h hi, a.head.find? h = some hi → h ≠ id := fun h hi hf he =>
    hid (he ▸ SortedMap.mem_keys_of_find? hf)
  refine ⟨fun k hi hk => ?_, fun k hi hk => ?_, ?_, hn, h.tags.add hid rfl⟩
  · rw [SortedMap.find?_insert] at hk
    split_ifs at hk with he
    · obtain rfl := Option.some.inj hk
      exact ⟨blk, he ▸ hb, ht, rfl, rfl⟩
    · exact h.head k hi hk
  · rw [SortedMap.find?_insert] at hk
    split_ifs at hk with he
    · obtain rfl := Option.some.inj hk
      rw [← he, Function.update_self]
      exact hl
    · rw [Function.update_of_ne (hold k hi hk)]
      exact h.linked k hi hk
  · have hkeys := (SortedMap.keys_insert_perm (v := (⟨blk.tag, blk.next⟩ : HeadInfo)) hid).flatMap_right
      (Function.update cont id is)
    refine List.Perm.trans ?_ hkeys.symm
    rw [List.flatMap_cons, Function.update_self]
    have hsame : a.head.keys.flatMap (Function.update cont id is) = a.head.keys.flatMap cont :=
      List.flatMap_congr (fun k hk => Function.update_of_ne (fun he : k = id => hid (he ▸ hk)) _ _)
    rw [hsame]
    exact (List.reverse_perm is).append h.seen

lemma Traced.scanHeads (hinfo : ∀ i, 0 < i → i ≤ n → d i = some (info i)) {ids : List ℕ} (h : Traced d a cont)
    (hs : scanHeads info n ids a = .ok b) (hids : ids.Nodup) (hnew : ∀ i ∈ ids, i ∉ a.head.keys)
    (hr : ∀ i ∈ ids, 0 < i ∧ i ≤ n) :
    ∃ cont', Traced d b cont' ∧
      ∀ i, i ∈ b.head.keys ↔ i ∈ a.head.keys ∨ i ∈ ids ∧ (info i).type = 1 := by
  induction ids generalizing a cont with
  | nil =>
    obtain rfl := Except.ok.inj hs
    exact ⟨cont, h, fun i => by simp⟩
  | cons id ids ih =>
    obtain ⟨hid, hids⟩ := List.nodup_cons.mp hids
    obtain ⟨hpos, hle⟩ := hr id List.mem_cons_self
    have hnew' := fun i hi => hnew i (List.mem_cons_of_mem id hi)
    have hr' := fun i hi => hr i (List.mem_cons_of_mem id hi)
    rw [LocalStorage.scanHeads] at hs
    split_ifs at hs with ht
    · obtain ⟨cont', hb, hk⟩ := ih h hs hids hnew' hr'
      refine ⟨cont', hb, fun i => (hk i).trans ?_⟩
      rw [List.mem_cons]
      constructor
      · exact fun hi => hi.imp_right (fun hi => ⟨.inr hi.1, hi.2⟩)
      · rintro (hi | ⟨rfl | hi, h1⟩)
        · exact .inl hi
        · exact absurd h1 ht
        · exact .inr ⟨hi, h1⟩
    · rw [not_not] at ht
      cases hw : walkChain info n n (info id).next a.seen with
      | none => simp [hw] at hs
      | some s =>
        rw [hw] at hs
        obtain ⟨is, hl, rfl, hn⟩ := walkChain_linked hinfo hw h.nodup
        have htake := h.take (hnew id List.mem_cons_self) (hinfo id hpos hle) ht hl hn
        have hfresh : ∀ i ∈ ids, i ∉ (a.head.insert id ⟨(info id).tag, (info id).next⟩).keys := by
          intro i hi hm
          rcases SortedMap.mem_keys_insert.mp hm with rfl | hm
          · exact hid hi
          · exact hnew' i hi hm
        obtain ⟨cont', hb, hk⟩ := ih htake hs hids hfresh hr'
        refine ⟨cont', hb, fun i => (hk i).trans ?_⟩
        rw [SortedMap.mem_keys_insert, List.mem_cons]
        constructor
        · rintro ((rfl | hi) | ⟨hi, h1⟩)
          · exact .inr ⟨.inl rfl, ht⟩
          · exact .inl hi
          · exact .inr ⟨.inr hi, h1⟩
        · rintro (hi | ⟨rfl | hi, h1⟩)
          · exact .inl (.inr hi)
          · exact .inl (.inl rfl)
          · exact .inr ⟨hi, h1⟩

lemma Traced.chainBlocks_perm (h : Traced d a cont) :
    (chainBlocks a.head cont).Perm (a.head.keys ++ a.seen) := by
  have hall : ∀ ks : List ℕ, (ks.flatMap (fun k => k :: cont k)).Perm (ks ++ ks.flatMap cont) := by
    intro ks
    induction ks with
    | nil => exact .refl _
    | cons k ks ih =>
      rw [List.flatMap_cons, List.flatMap_cons, List.cons_append, List.cons_append]
      refine List.Perm.cons k ?_
      rw [← List.append_assoc]
      refine (ih.append_left (cont k)).trans ?_
      rw [← List.append_assoc]
      exact List.perm_append_comm.append_right _
  exact (hall _).trans (h.seen.symm.append_left _)

lemma isFree_eq_false {seen : List ℕ} {i : ℕ} (h : (info i).type = 1 ∨ (info i).type = 2 ∧ i ∈ seen) :
    isFree info seen i = false := by
  obtain h | ⟨h, hs⟩ := h
  · simp [isFree, h]
  · simp [isFree, h, hs]

lemma type_cases {i : ℕ} (h : (info i).type ≤ 2) : (info i).type = 0 ∨ (info i).type = 1 ∨ (info i).type = 2 := by
  rw [UInt8.le_iff_toNat_le] at h
  rw [← UInt8.toNat_inj, ← UInt8.toNat_inj, ← UInt8.toNat_inj]
  simp only [UInt8.reduceToNat] at *
  omega

lemma Traced.layout (h : Traced d a cont) (hinfo : ∀ i, 0 < i → i ≤ n → d i = some (info i)) (h0 : d 0 = none)
    (htype : ∀ i, 0 < i → i ≤ n → (info i).type ≤ 2)
    (hkeys : ∀ i, i ∈ a.head.keys ↔ 0 < i ∧ i ≤ n ∧ (info i).type = 1)
    (hseen : ∀ i ∈ a.seen, 0 < i ∧ i ≤ n ∧ (info i).type = 2) (hm : m = trim (isFree info a.seen) n) :
    Layout (fun i => if i ≤ m then d i else none) a.head ((List.range' 1 m).filter (isFree info a.seen)) m cont := by
  have hmn : m ≤ n := hm ▸ trim_le _ n
  have hkept : ∀ i, i ≤ n → isFree info a.seen i = false → i ≤ m := by
    intro i hi hf
    by_contra hlt
    have hfree : isFree info a.seen i = true := trim_free _ (hm ▸ Nat.lt_of_not_le hlt) hi
    rw [hfree] at hf
    cases hf
  have hhead : ∀ i ∈ a.head.keys, 0 < i ∧ i ≤ m := by
    intro i hi
    obtain ⟨hpos, hin, h1⟩ := (hkeys i).mp hi
    exact ⟨hpos, hkept i hin (isFree_eq_false (.inl h1))⟩
  have hmark : ∀ i ∈ a.seen, 0 < i ∧ i ≤ m := by
    intro i hi
    obtain ⟨hpos, hin, h2⟩ := hseen i hi
    exact ⟨hpos, hkept i hin (isFree_eq_false (.inr ⟨h2, hi⟩))⟩
  have hcont : ∀ k hi, a.head.find? k = some hi → ∀ i ∈ cont k, i ∈ a.seen := fun k hi hk i hic =>
    h.seen.mem_iff.mpr (List.mem_flatMap.mpr ⟨k, SortedMap.mem_keys_of_find? hk, hic⟩)
  have hchain := h.chainBlocks_perm
  refine ⟨fun k hi hk => ?_, fun k hi hk => ?_, ?_, fun i hi b hb => ?_, fun i hi => ?_⟩
  · rw [if_pos (hhead k (SortedMap.mem_keys_of_find? hk)).2]
    exact h.head k hi hk
  · refine (h.linked k hi hk).congr (fun i hic => ?_)
    rw [contNext, contNext, if_pos (hmark i (hcont k hi hk i hic)).2]
  · have hdisj : ∀ i, isFree info a.seen i = true → i ∉ a.head.keys ++ a.seen := by
      intro i hf hmem
      rcases List.mem_append.mp hmem with hk | hs
      · rw [isFree_eq_false (.inl ((hkeys i).mp hk).2.2)] at hf
        cases hf
      · rw [isFree_eq_false (.inr ⟨(hseen i hs).2.2, hs⟩)] at hf
        cases hf
    have hnodup : (a.head.keys ++ a.seen).Nodup := by
      refine List.nodup_append'.mpr ⟨SortedMap.keys_nodup _, h.nodup, fun i hk hs => ?_⟩
      have h1 := ((hkeys i).mp hk).2.2
      rw [(hseen i hs).2.2] at h1
      exact absurd h1 (by decide)
    refine (hchain.append_right _).trans ?_
    refine (List.perm_ext_iff_of_nodup ?_ List.nodup_range').mpr (fun i => ?_)
    · refine List.nodup_append'.mpr ⟨hnodup, List.Nodup.filter _ List.nodup_range', fun i hmem hf => ?_⟩
      exact hdisj i (List.mem_filter.mp hf).2 hmem
    · rw [List.mem_append, List.mem_append, List.mem_filter, List.mem_range'_1]
      constructor
      · rintro ((hk | hs) | ⟨hr, -⟩)
        · have := hhead i hk
          omega
        · have := hmark i hs
          omega
        · exact hr
      · intro hr
        by_cases hf : isFree info a.seen i = true
        · exact .inr ⟨hr, hf⟩
        · left
          rcases type_cases (htype i (by omega) (by omega)) with ht | ht | ht
          · exact absurd (by simp [isFree, ht]) hf
          · exact .inl ((hkeys i).mpr ⟨by omega, by omega, ht⟩)
          · right
            by_contra hs
            exact hf (by simp [isFree, ht, hs])
  · obtain ⟨hr, hf⟩ := List.mem_filter.mp hi
    rw [List.mem_range'_1] at hr
    rw [if_pos (by omega), hinfo i (by omega) (by omega)] at hb
    obtain rfl := Option.some.inj hb
    intro h1
    rw [isFree_eq_false (.inl h1)] at hf
    cases hf
  · obtain rfl | hlt := hi
    · rw [if_pos (Nat.zero_le _), h0]
    · rw [if_neg (by omega)]

end

/-! ### Files -/

section

variable {C : Crypto} {w w' : World} {s t : LocalStorage} {file : Bytes} {n m : ℕ}

lemma readInfo_blocks {info : List Blk} (h : readInfo C w n = .ok info) :
    ∀ i, 0 < i → i ≤ n → blocks C w i = some (infoAt info i) := by
  have hd : Dense (blocks C w) n := by
    intro i h0 hn
    cases hb : blocks C w i with
    | some b => exact ⟨b, rfl⟩
    | none =>
      obtain ⟨e, he⟩ := readInfo_error h0 hn hb
      cases h.symm.trans he
  obtain ⟨info', hinfo, hget⟩ := readInfo_ok hd
  obtain rfl := Except.ok.inj (h.symm.trans hinfo)
  exact hget

lemma blocks_trimmed (hbs : 0 < s.bs) (hlen : s.bs + m * s.bs ≤ file.length) :
    blocks C { storage := s, file := trimmed s m file } =
      fun i => if i ≤ m then blocks C { storage := s, file := file } i else none := by
  funext i
  by_cases hi : i ≤ m
  · rw [if_pos hi]
    by_cases h0 : i = 0
    · rw [h0, blocks_zero, blocks_zero]
    · rw [blocks, blocks, if_neg h0, if_neg h0, readBlock_trimmed hlen (Nat.pos_of_ne_zero h0) hi]
  · rw [if_neg hi, blocks, if_neg (by omega)]
    have hoff : (trimmed s m file).length < blockOffset s i + s.bs := by
      obtain ⟨k, rfl⟩ := Nat.exists_eq_add_of_lt (Nat.lt_of_not_le hi)
      have hmul : (m + k) * s.bs = m * s.bs + k * s.bs := Nat.add_mul _ _ _
      rw [trimmed, ByteFile.length_resize, blockOffset, Nat.add_sub_cancel, hmul]
      omega
    have hread : readBlock C { storage := s, file := trimmed s m file } i =
        .error (.runtimeError "read failed / unexspected EOF") := by
      rw [readBlock, preadFull, ByteFile.readAt_isNone hoff]
      rfl
    rw [hread]
    rfl

lemma scanPlan_layout (hbs : 0 < s.bs) (h : scanPlan C s file = .ok t) :
    ∃ cont, Layout (blocks C { storage := t, file := trimmed s t.nblocks file }) t.head t.free t.nblocks cont ∧
      TagIndexed t.byTag t.head := by
  have hlen := (scanPlan_trimmed hbs h).1
  obtain ⟨-, n, info, a, -, hinfo, ha, h⟩ := scanPlan_eq_ok h
  have hget := readInfo_blocks hinfo
  have htype : ∀ i, 0 < i → i ≤ n → (infoAt info i).type ≤ 2 := fun i h0 hn =>
    blocks_type_le (hget i h0 hn)
  have hr : ∀ i ∈ List.range' 1 n, 0 < i ∧ i ≤ n := by
    intro i hi
    rw [List.mem_range'_1] at hi
    omega
  obtain ⟨cont, htr, hkeys⟩ := (Traced.start (blocks C { storage := s, file := file })).scanHeads hget ha
    List.nodup_range' (fun _ _ => List.not_mem_nil) hr
  have hheads : ∀ i, i ∈ a.head.keys ↔ 0 < i ∧ i ≤ n ∧ (infoAt info i).type = 1 := by
    intro i
    rw [hkeys, List.mem_range'_1]
    constructor
    · rintro (hi | ⟨hi, h1⟩)
      · cases hi
      · exact ⟨by omega, by omega, h1⟩
    · rintro ⟨h0, hn, h1⟩
      exact .inr ⟨by omega, h1⟩
  have hseen : ∀ i ∈ a.seen, 0 < i ∧ i ≤ n ∧ (infoAt info i).type = 2 := fun i hi =>
    ((scanHeads_seen ha).2 i hi).resolve_left List.not_mem_nil
  subst h
  refine ⟨cont, ?_, htr.tags⟩
  have hdisk := blocks_trimmed (C := C) hbs hlen
  rw [← blocks_congr (w := { storage := s, file := trimmed s _ file }) rfl rfl rfl rfl rfl] at hdisk
  exact hdisk ▸ htr.layout hget (blocks_zero _ _) htype hheads hseen rfl

end

end ChatDesktop.Storage
