import ChatDesktop.Storage.Invariant

namespace ChatDesktop.Storage

open Library Library.Program Library.LinkedChain LocalStorage

def records (d : Disk) (heads : Heads) (cont : ℕ → List ℕ) : ℕ → Option (UInt32 × Bytes) :=
  fun id => (heads.find? id).map (fun hi => (hi.tag, content d (id :: cont id)))

section

variable {d d' : Disk} {heads : Heads} {free ids : List ℕ} {n h : ℕ} {cont : ℕ → List ℕ}
  {s : LocalStorage} {data : Bytes} {tag : UInt32}

lemma records_isSome {id : ℕ} : (records d heads cont id).isSome = true ↔ id ∈ heads.keys := by
  rw [SortedMap.mem_keys, records, Option.isSome_map, Option.isSome_iff_exists]

lemma content_of_chain (hh : h ∈ heads.keys) (hd : ∀ i ∈ chainBlocks heads cont, d' i = d i) :
    content d' (h :: cont h) = content d (h :: cont h) := by
  refine content_congr (fun i hi => hd i ?_)
  rcases List.mem_cons.mp hi with rfl | hi
  · exact head_mem_chainBlocks hh
  · exact cont_mem_chainBlocks hh hi

lemma records_frame (hd : ∀ i ∈ chainBlocks heads cont, d' i = d i) :
    records d' heads cont = records d heads cont := by
  funext id
  unfold records
  cases hid : heads.find? id with
  | none => rfl
  | some hi => rw [Option.map_some, Option.map_some, content_of_chain (SortedMap.mem_keys_of_find? hid) hd]

lemma records_insert (hn : 0 < ids.length) (hcap : 0 < s.cap)
    (hlen : ids.length = chunks s data.length) (hl : Layout d heads (ids ++ free) n cont)
    (hd : ∀ j, j < ids.length → d' (ids.getD j 0) = some (chainBlk s ids data tag j))
    (hf : ∀ i, i ∉ ids → d' i = d i) :
    records d' (heads.insert (ids.getD 0 0) ⟨tag, ids.getD 1 0⟩)
      (Function.update cont (ids.getD 0 0) (ids.drop 1)) =
      Function.update (records d heads cont) (ids.getD 0 0) (some (tag, data)) := by
  have hcons : ids.getD 0 0 :: ids.drop 1 = ids := by
    cases ids with
    | nil => simp at hn
    | cons i is => rfl
  have hsep : ∀ i ∈ chainBlocks heads cont, d' i = d i := fun i hi =>
    hf i (fun hm => hl.chain_not_free hi (List.mem_append_left _ hm))
  funext id
  by_cases hid : id = ids.getD 0 0
  · rw [hid, Function.update_self, records, SortedMap.find?_insert, if_pos rfl, Option.map_some,
      Function.update_self, hcons, content_chain hcap hlen hd]
  · rw [Function.update_of_ne hid, ← records_frame hsep, records, records,
      SortedMap.find?_insert, if_neg (Ne.symm hid), Function.update_of_ne hid]

lemma records_update (hh : h ∈ heads.keys) (hcap : 0 < s.cap)
    (hlen : (h :: ids).length = chunks s data.length) (hl : Layout d heads (ids ++ free) n cont)
    (hd : ∀ j, j < (h :: ids).length →
      d' ((h :: ids).getD j 0) = some (chainBlk s (h :: ids) data tag j))
    (hf : ∀ i, i ∉ h :: ids → d' i = d i) :
    records d' (heads.insert h ⟨tag, ids.headD 0⟩) (Function.update cont h ids) =
      Function.update (records d heads cont) h (some (tag, data)) := by
  funext id
  by_cases hid : id = h
  · rw [hid, Function.update_self, records, SortedMap.find?_insert, if_pos rfl, Option.map_some,
      Function.update_self, content_chain hcap hlen hd]
  · rw [Function.update_of_ne hid, records, records, SortedMap.find?_insert, if_neg (Ne.symm hid),
      Function.update_of_ne hid]
    cases hfind : heads.find? id with
    | none => rfl
    | some hi =>
      have hk := SortedMap.mem_keys_of_find? hfind
      rw [Option.map_some, Option.map_some]
      refine congrArg (fun c => some (hi.tag, c)) (content_congr (fun i hi => hf i (fun hm => ?_)))
      rcases List.mem_cons.mp hm with rfl | hm
      · exact hl.chain_disjoint hh hk hid List.mem_cons_self hi
      · refine hl.chain_not_free (mem_chainBlocks.mpr ⟨id, hk, ?_⟩) (List.mem_append_left _ hm)
        simpa using hi

lemma records_remove (hl : Layout d heads free n cont) (hh : h ∈ heads.keys)
    (hd : ∀ i, i ≠ h → d' i = d i) :
    records d' (heads.erase h) cont = Function.update (records d heads cont) h none := by
  funext id
  by_cases hid : id = h
  · rw [hid, Function.update_self, records, SortedMap.find?_erase, if_pos rfl, Option.map_none]
  · rw [Function.update_of_ne hid, records, records, SortedMap.find?_erase, if_neg hid]
    cases hfind : heads.find? id with
    | none => rfl
    | some hi =>
      have hk := SortedMap.mem_keys_of_find? hfind
      rw [Option.map_some, Option.map_some]
      refine congrArg (fun c => some (hi.tag, c)) (content_congr (fun i hi => hd i ?_))
      rintro rfl
      exact hl.chain_disjoint hh hk hid List.mem_cons_self hi

/-! ### The first events of a chain -/

def headIndex (s : LocalStorage) (ids : List ℕ) (data : Bytes) (tag : UInt32) : ℕ :=
  (contEvents s ids data tag ids.length).length +
    (if s.opt.durable ∧ 1 < ids.length then [FileEvent.sync] else []).length

lemma chainEvents_split (s : LocalStorage) (ids : List ℕ) (data : Bytes) (tag : UInt32) :
    ∃ es, es.length = headIndex s ids data tag ∧
      chainEvents s ids data tag = es ++ headEvents s ids data tag ∧
      ∀ id b, .write id b ∈ es → id ∈ ids.drop 1 ∧ b.type = 2 := by
  refine ⟨contEvents s ids data tag ids.length ++
    (if s.opt.durable ∧ 1 < ids.length then [.sync] else []), by rw [List.length_append, headIndex],
    by rw [chainEvents, List.append_assoc], fun id b hm => ?_⟩
  rcases List.mem_append.mp hm with hm | hm
  · obtain ⟨j, h1, hj, rfl, rfl⟩ := mem_contEvents hm
    refine ⟨?_, by simp [chainBlk, show j ≠ 0 by omega]⟩
    rw [List.getD_eq_getElem _ _ hj, List.mem_drop_iff_getElem]
    exact ⟨j - 1, by omega, by congr 1; omega⟩
  · split_ifs at hm <;> simp at hm

lemma chainEvents_before {k : ℕ} (hk : k ≤ headIndex s ids data tag) (i : ℕ) :
    applyEvents ((chainEvents s ids data tag).take k) d i = d i ∨
      i ∈ ids.drop 1 ∧ ∃ b, applyEvents ((chainEvents s ids data tag).take k) d i = some b ∧ b.type = 2 := by
  obtain ⟨es, hlen, he, hes⟩ := chainEvents_split s ids data tag
  rw [he, List.take_append_of_le_length (by omega)]
  rcases applyEvents_cases (es.take k) d i with hh | ⟨b, hm, hh⟩
  · exact Or.inl hh
  · obtain ⟨hi, ht⟩ := hes i b (List.mem_of_mem_take hm)
    exact Or.inr ⟨hi, b, hh, ht⟩

lemma chainEvents_after {k : ℕ} (hk : headIndex s ids data tag < k) (m : ℕ) :
    applyEvents ((chainEvents s ids data tag).take k) d = applyEvents (chainEvents s ids data tag) d ∧
      extentAfter ((chainEvents s ids data tag).take k) m = extentAfter (chainEvents s ids data tag) m := by
  obtain ⟨es, hlen, he, -⟩ := chainEvents_split s ids data tag
  obtain ⟨j, rfl⟩ : ∃ j, k = es.length + (j + 1) := ⟨k - es.length - 1, by omega⟩
  rw [he, List.take_length_add_append, headEvents, List.take_succ_cons]
  simp only [applyEvents_append, extentAfter_append, applyEvents, extentAfter]
  split_ifs
  · rcases j with _ | j <;> simp [applyEvents, extentAfter]
  · rw [List.take_nil]
    exact ⟨rfl, rfl⟩

lemma Layout.chain_before {k : ℕ} {known : List ℕ} (hl : Layout d heads (ids ++ free) n cont)
    (hsub : ∀ i ∈ known.drop 1, i ∈ ids) (hk : k ≤ headIndex s known data tag) :
    Layout (applyEvents ((chainEvents s known data tag).take k) d) heads (ids ++ free) n cont ∧
      records (applyEvents ((chainEvents s known data tag).take k) d) heads cont = records d heads cont := by
  have hb := chainEvents_before (d := d) hk
  have hframe : ∀ i, i ∉ ids → applyEvents ((chainEvents s known data tag).take k) d i = d i := fun i hi =>
    (hb i).resolve_right (fun hh => hi (hsub i hh.1))
  have hchain : ∀ i ∈ chainBlocks heads cont,
      applyEvents ((chainEvents s known data tag).take k) d i = d i := fun i hi =>
    hframe i (fun hm => hl.chain_not_free hi (List.mem_append_left _ hm))
  refine ⟨hl.frame hchain (fun i hi b hbi => ?_) (fun i hi => ?_), records_frame hchain⟩
  · rcases hb i with hh | ⟨-, b', hh, ht⟩
    · rw [hh] at hbi
      exact hl.free_type i hi b hbi
    · rw [hbi] at hh
      simp [Option.some.inj hh, ht]
  · rw [hframe i (fun hm => ?_), hl.outside i hi]
    have := hl.free_range (List.mem_append_left free hm)
    omega

end

end ChatDesktop.Storage
