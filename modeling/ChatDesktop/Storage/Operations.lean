import ChatDesktop.Storage.Directory
import ChatDesktop.Storage.Records

namespace ChatDesktop.Storage

open Library Library.Program Library.LinkedChain LocalStorage

def insertIds (s : LocalStorage) (data : Bytes) : List ℕ := (allocMany (chunks s data.length) s).1

def insertStart (s : LocalStorage) (data : Bytes) : LocalStorage :=
  (allocMany (chunks s data.length) s).2

def insertEvents (s : LocalStorage) (data : Bytes) (tag : UInt32) : List FileEvent :=
  chainEvents (insertStart s data) (insertIds s data) data tag

def inserted (s : LocalStorage) (data : Bytes) (tag : UInt32) : LocalStorage :=
  { insertStart s data with
    head := s.head.insert ((insertIds s data).getD 0 0) ⟨tag, (insertIds s data).getD 1 0⟩
    byTag := addTag s.byTag tag ((insertIds s data).getD 0 0) }

def updateFresh (s : LocalStorage) (data : Bytes) : List ℕ :=
  (allocMany (chunks s data.length - 1) s).1

def updateStart (s : LocalStorage) (data : Bytes) : LocalStorage :=
  (allocMany (chunks s data.length - 1) s).2

def updateEvents (s : LocalStorage) (id : ℕ) (data : Bytes) (tag : UInt32) : List FileEvent :=
  chainEvents (updateStart s data) (id :: updateFresh s data) data tag

def updated (s : LocalStorage) (id : ℕ) (data : Bytes) (tag : UInt32) (old : List ℕ) : LocalStorage :=
  { updateStart s data with
    head := s.head.insert id ⟨tag, (updateFresh s data).headD 0⟩
    free := old.reverse ++ (updateStart s data).free }

section Alloc

variable {C : Crypto} {pw : Bytes} {w w' : World} {cont : ℕ → List ℕ}

lemma blocks_alloc (w : World) (k : ℕ) : blocks C (w.put (allocMany k w.storage).2) = blocks C w := by
  rw [allocMany_eq]
  exact blocks_congr rfl rfl rfl rfl rfl

lemma Sound.alloc_formatted (h : Sound C pw w cont) (k : ℕ) :
    Formatted C pw (w.put (allocMany k w.storage).2) w.storage.nblocks := by
  rw [allocMany_eq]
  exact h.formatted.congr rfl rfl rfl rfl rfl

lemma nblocks_le_alloc (k : ℕ) (s : LocalStorage) : s.nblocks ≤ (allocMany k s).2.nblocks := by
  rw [allocMany_eq]
  exact Nat.le_add_right _ _

lemma mem_alloc_of_fresh {k i : ℕ} {s : LocalStorage} (h1 : s.nblocks < i)
    (h2 : i ≤ (allocMany k s).2.nblocks) : i ∈ (allocMany k s).1 := by
  rw [allocMany_eq] at h2 ⊢
  simp only at h2
  refine List.mem_append_right _ ?_
  rw [List.mem_range'_1]
  omega

lemma chain_complete {s : LocalStorage} {known : List ℕ} {data : Bytes} {tag : UInt32} {n n' : ℕ}
    (hnd : known.Nodup) (hle : ∀ i ∈ known, 0 < i ∧ i ≤ n') (hne : 0 < known.length)
    (hfresh : ∀ i, n < i → i ≤ n' → i ∈ known) (hn : n ≤ n') (hd : Dense (blocks C w) n)
    (hin : n * w.storage.bs + w.storage.bs ≤ maxOffset)
    (hp : Performed C pw w n (chainEvents s known data tag) w')
    (hr : InRange w.storage.bs (chainEvents s known data tag)) :
    Formatted C pw w' n' ∧ Dense (blocks C w') n' ∧ n' * w.storage.bs + w.storage.bs ≤ maxOffset := by
  have hwritten : ∀ i ∈ known, ∃ b, blocks C w' i = some b := by
    intro i hi
    obtain ⟨j, hj, rfl⟩ := List.getElem_of_mem hi
    rw [hp.blocks, ← List.getD_eq_getElem _ 0 hj]
    exact ⟨_, chainEvents_apply hnd hj⟩
  have hext : extentAfter (chainEvents s known data tag) n = n' := by
    apply le_antisymm
    · refine extentAfter_le (fun id b hm => ?_) hn
      obtain ⟨j, hj, rfl, -⟩ := mem_chainEvents hne hm
      exact (hle _ (getD_mem hj)).2
    · rcases Nat.eq_or_lt_of_le hn with rfl | hlt
      · exact le_extentAfter _ _
      · by_contra hc
        obtain ⟨b, hb⟩ := hwritten n' (hfresh n' hlt le_rfl)
        rw [hp.formatted.blocks_end (by omega)] at hb
        cases hb
  refine ⟨hext ▸ hp.formatted, fun i h0 hi => ?_, ?_⟩
  · by_cases hm : i ∈ known
    · exact hwritten i hm
    · have hin' : i ≤ n := by
        by_contra hlt
        exact hm (hfresh i (by omega) hi)
      obtain ⟨b, hb⟩ := hd i h0 hin'
      exact ⟨b, by rw [hp.blocks, chainEvents_frame hne hm (fun e he => he), hb]⟩
  · rcases Nat.eq_or_lt_of_le hn with rfl | hlt
    · exact hin
    · obtain ⟨j, hj, he⟩ := List.getElem_of_mem (hfresh n' hlt le_rfl)
      rw [← he, ← List.getD_eq_getElem _ 0 hj]
      exact hr _ (chainBlk s known data tag j) (mem_chainEvents_of_lt hj)

end Alloc

/-! ### Inserting -/

section Insert

variable {C : Crypto} {pw : Bytes} {w w' : World} {cont : ℕ → List ℕ} {data : Bytes} {tag : UInt32}
  {k : ℕ}

lemma insertLocked_apply (w : World) (data : Bytes) (tag : UInt32) :
    insertLocked C data tag w =
      match perform C (insertEvents w.storage data tag) (w.put (insertStart w.storage data)) with
      | (.ok _, w') => (.ok ((insertIds w.storage data).getD 0 0), w'.put (inserted w.storage data tag))
      | (.error e, w') => (.error e, w') := by
  have hw := writeChain_eq (C := C) (w.put (insertStart w.storage data)) (insertIds w.storage data) data tag
  have hs : insertEvents w.storage data tag = chainEvents (w.put (insertStart w.storage data)).storage
      (insertIds w.storage data) data tag := rfl
  have hhead : (insertStart w.storage data).head = w.storage.head := by
    rw [insertStart, allocMany_eq]
  have htag : (insertStart w.storage data).byTag = w.storage.byTag := by
    rw [insertStart, allocMany_eq]
  rw [hs, ← hw]
  simp only [insertLocked, LocalStorage.set, bind_apply, get_apply, modify_apply, ite_getD, pure_apply,
    inserted, ← hhead, ← htag]
  simp only [insertStart, insertIds]
  rcases writeChain C _ data tag _ with ⟨_ | _, w'⟩ <;> rfl

lemma length_insertIds (s : LocalStorage) (data : Bytes) :
    (insertIds s data).length = chunks s data.length := length_allocMany _ _

lemma insertIds_pos (s : LocalStorage) (data : Bytes) : 0 < (insertIds s data).length := by
  rw [length_insertIds]
  exact chunks_pos _ _

lemma insertStart_eq (s : LocalStorage) (data : Bytes) :
    insertStart s data = { s with
      free := s.free.drop (chunks s data.length)
      nblocks := s.nblocks + (chunks s data.length - s.free.length) } := by
  rw [insertStart, allocMany_eq]

lemma insertStart_bs (s : LocalStorage) (data : Bytes) : (insertStart s data).bs = s.bs := by
  rw [insertStart_eq]

lemma Sound.insert_layout (h : Sound C pw w cont) (data : Bytes) :
    Layout (blocks C w) w.storage.head
      (insertIds w.storage data ++ (insertStart w.storage data).free)
      (insertStart w.storage data).nblocks cont :=
  h.layout.alloc _

lemma Sound.insert_valid (h : Sound C pw w cont) (data : Bytes) (tag : UInt32) :
    Valid (insertStart w.storage data).cap (· = 0) (insertEvents w.storage data tag) :=
  chainEvents_valid (insertIds_pos _ _)
    (fun _ hi => ((h.insert_layout data).free_range (List.mem_append_left _ hi)).1)

lemma Sound.insert_inRange (h : Sound C pw w cont) (data : Bytes) (tag : UInt32)
    (hr : (insertStart w.storage data).nblocks * w.storage.bs + w.storage.bs ≤ maxOffset) :
    InRange w.storage.bs (insertEvents w.storage data tag) := by
  intro id b hm
  obtain ⟨j, hj, rfl, -⟩ := mem_chainEvents (insertIds_pos _ _) hm
  have hle := ((h.insert_layout data).free_range (List.mem_append_left _ (getD_mem hj))).2
  have := Nat.mul_le_mul_right w.storage.bs hle
  omega

lemma Sound.cap_pos (h : Sound C pw w cont) : 0 < w.storage.cap := h.formatted.geometry.cap_pos

lemma Sound.insert_done (h : Sound C pw w cont)
    (hp : Performed C pw (w.put (insertStart w.storage data)) w.storage.nblocks
      (insertEvents w.storage data tag) w')
    (hr : InRange w.storage.bs (insertEvents w.storage data tag)) :
    Sound C pw (w'.put (inserted w.storage data tag))
      (Function.update cont ((insertIds w.storage data).getD 0 0) ((insertIds w.storage data).drop 1)) ∧
    records (blocks C (w'.put (inserted w.storage data tag))) (inserted w.storage data tag).head
      (Function.update cont ((insertIds w.storage data).getD 0 0) ((insertIds w.storage data).drop 1)) =
      Function.update (records (blocks C w) w.storage.head cont) ((insertIds w.storage data).getD 0 0)
        (some (tag, data)) := by
  have hlay := h.insert_layout data
  have hnd : (insertIds w.storage data).Nodup := hlay.free_nodup.of_append_left
  have hb : blocks C (w'.put (inserted w.storage data tag)) = blocks C w' := by
    refine blocks_congr ?_ ?_ ?_ ?_ rfl <;> rw [hp.storage] <;> rfl
  have hbw : blocks C (w.put (insertStart w.storage data)) = blocks C w := blocks_alloc w _
  have hbs : (insertStart w.storage data).bs = w.storage.bs := by rw [insertStart_eq]
  have hcap : (insertStart w.storage data).cap = w.storage.cap := by rw [insertStart_eq]
  have hd : ∀ j, j < (insertIds w.storage data).length →
      blocks C w' ((insertIds w.storage data).getD j 0) =
        some (chainBlk (insertStart w.storage data) (insertIds w.storage data) data tag j) := by
    intro j hj
    rw [hp.blocks]
    exact chainEvents_apply hnd hj
  have hf : ∀ i, i ∉ insertIds w.storage data → blocks C w' i = blocks C w i := by
    intro i hi
    rw [hp.blocks, hbw]
    exact chainEvents_frame (insertIds_pos _ _) hi (fun e he => he)
  obtain ⟨hfmt, hdense, hrange⟩ := chain_complete (w := w.put (insertStart w.storage data)) hnd
    (fun i hi => hlay.free_range (List.mem_append_left _ hi)) (insertIds_pos _ _)
    (fun i h1 h2 => mem_alloc_of_fresh h1 h2) (nblocks_le_alloc _ _) (by rw [hbw]; exact h.dense)
    (by rw [World.put_storage, hbs]; exact h.inRange) hp (by rw [World.put_storage, hbs]; exact hr)
  have h0 : (insertIds w.storage data).getD 0 0 ∉ w.storage.head.keys := fun hk =>
    hlay.chain_not_free (head_mem_chainBlocks hk) (List.mem_append_left _ (getD_mem (insertIds_pos _ _)))
  have hopen : (insertStart w.storage data).opened = w.storage.opened := by rw [insertStart_eq]
  refine ⟨⟨hopen.trans h.opened, ?_, hrange, ?_, ?_, h.tags.add h0 rfl⟩, ?_⟩
  · refine hfmt.congr ?_ ?_ ?_ ?_ rfl <;> rw [hp.storage] <;> rfl
  · rw [hb]
    exact hdense
  · rw [hb]
    exact hlay.insert (insertIds_pos _ _) hd hf
  · rw [hb]
    refine records_insert (insertIds_pos _ _) ?_ ?_ hlay hd hf
    · rw [hcap]
      exact h.cap_pos
    · rw [length_insertIds, chunks, chunks, hcap]

lemma Sound.insertLocked_spec (h : Sound C pw w cont) (data : Bytes) (tag : UInt32) :
    (∃ w', insertLocked C data tag w =
        (.ok ((insertIds w.storage data).getD 0 0), w'.put (inserted w.storage data tag)) ∧
      Finished C pw (w.put (insertStart w.storage data)) w.storage.nblocks
        (insertEvents w.storage data tag) w') ∨
    ∃ e k w', insertLocked C data tag w = (.error e, w') ∧
      Halted C pw (w.put (insertStart w.storage data)) w.storage.nblocks
        (insertEvents w.storage data tag) e k w' := by
  have hs := insertLocked_apply (C := C) w data tag
  rcases perform_spec (h.alloc_formatted _) (fun i hi => by omega)
    (h.insert_valid data tag) with ⟨w', hp, hd⟩ | ⟨e, k, w', hp, hd⟩
  · exact Or.inl ⟨w', by rw [hs, insertStart, hp], hd⟩
  · exact Or.inr ⟨e, k, w', by rw [hs, insertStart, hp], hd⟩

end Insert

/-! ### Updating -/

section Update

variable {C : Crypto} {pw : Bytes} {w w' : World} {cont : ℕ → List ℕ} {data : Bytes} {id k : ℕ}
  {hi : HeadInfo}

lemma Sound.updateLocked_apply (h : Sound C pw w cont) (hh : w.storage.head.find? id = some hi)
    (data : Bytes) :
    updateLocked C id data w =
      match perform C (updateEvents w.storage id data hi.tag) (w.put (updateStart w.storage data)) with
      | (.ok _, w') => (.ok (), w'.put (updated w.storage id data hi.tag (cont id)))
      | (.error e, w') => (.error e, w') := by
  have hw := writeChain_eq (C := C) (w.put (updateStart w.storage data)) (id :: updateFresh w.storage data)
    data hi.tag
  have hs : updateEvents w.storage id data hi.tag = chainEvents (w.put (updateStart w.storage data)).storage
      (id :: updateFresh w.storage data) data hi.tag := rfl
  have hhead : (updateStart w.storage data).head = w.storage.head := by rw [updateStart, allocMany_eq]
  have hsame : w.put { w.storage with head := w.storage.head.insert id hi } = w := by
    rw [SortedMap.insert_of_find? hh]
    rfl
  have hold : oldContinuations C w hi = .ok (cont id) := oldContinuations_ok h.layout hh
  rw [hs, ← hw]
  simp only [updateLocked, LocalStorage.set, bind_apply, get_apply, modify_apply, read_apply, hh,
    Option.getD_some, hsame, hold, updated]
  simp only [← hhead, updateStart, updateFresh]
  rcases writeChain C _ data hi.tag _ with ⟨_ | _, w'⟩ <;> rfl

lemma length_updateChain (s : LocalStorage) (id : ℕ) (data : Bytes) :
    (id :: updateFresh s data).length = chunks s data.length := by
  have := chunks_pos s data.length
  rw [List.length_cons, updateFresh, length_allocMany]
  omega

lemma updateStart_eq (s : LocalStorage) (data : Bytes) :
    updateStart s data = { s with
      free := s.free.drop (chunks s data.length - 1)
      nblocks := s.nblocks + (chunks s data.length - 1 - s.free.length) } := by
  rw [updateStart, allocMany_eq]

lemma updateStart_bs (s : LocalStorage) (data : Bytes) : (updateStart s data).bs = s.bs := by
  rw [updateStart_eq]

lemma Sound.update_layout (h : Sound C pw w cont) (data : Bytes) :
    Layout (blocks C w) w.storage.head
      (updateFresh w.storage data ++ (updateStart w.storage data).free)
      (updateStart w.storage data).nblocks cont :=
  h.layout.alloc _

lemma Sound.update_chain (h : Sound C pw w cont) (hh : id ∈ w.storage.head.keys) (data : Bytes) :
    (id :: updateFresh w.storage data).Nodup ∧
      ∀ i ∈ id :: updateFresh w.storage data, 0 < i ∧ i ≤ (updateStart w.storage data).nblocks := by
  have hlay := h.update_layout data
  have hm : id ∈ chainBlocks w.storage.head cont := head_mem_chainBlocks hh
  refine ⟨List.nodup_cons.mpr ⟨fun hf => ?_, hlay.free_nodup.of_append_left⟩, fun i hi => ?_⟩
  · exact hlay.chain_not_free hm (List.mem_append_left _ hf)
  · rcases List.mem_cons.mp hi with rfl | hi
    · exact hlay.chain_range hm
    · exact hlay.free_range (List.mem_append_left _ hi)

lemma Sound.update_valid (h : Sound C pw w cont) (hh : id ∈ w.storage.head.keys) (data : Bytes)
    (tag : UInt32) :
    Valid (updateStart w.storage data).cap (· = 0) (updateEvents w.storage id data tag) :=
  chainEvents_valid (Nat.succ_pos _) (fun i hi => ((h.update_chain hh data).2 i hi).1)

lemma Sound.update_inRange (h : Sound C pw w cont) (hh : id ∈ w.storage.head.keys) (data : Bytes)
    (tag : UInt32)
    (hr : (updateStart w.storage data).nblocks * w.storage.bs + w.storage.bs ≤ maxOffset) :
    InRange w.storage.bs (updateEvents w.storage id data tag) := by
  intro i b hm
  have hpos : 0 < (id :: updateFresh w.storage data).length := Nat.succ_pos _
  obtain ⟨j, hj, rfl, -⟩ := mem_chainEvents hpos hm
  have hle := ((h.update_chain hh data).2 _ (getD_mem hj)).2
  have := Nat.mul_le_mul_right w.storage.bs hle
  omega

lemma Sound.update_done (h : Sound C pw w cont) (hh : w.storage.head.find? id = some hi)
    (hp : Performed C pw (w.put (updateStart w.storage data)) w.storage.nblocks
      (updateEvents w.storage id data hi.tag) w')
    (hr : InRange w.storage.bs (updateEvents w.storage id data hi.tag)) :
    Sound C pw (w'.put (updated w.storage id data hi.tag (cont id)))
      (Function.update cont id (updateFresh w.storage data)) ∧
    records (blocks C (w'.put (updated w.storage id data hi.tag (cont id))))
      (updated w.storage id data hi.tag (cont id)).head
      (Function.update cont id (updateFresh w.storage data)) =
      Function.update (records (blocks C w) w.storage.head cont) id (some (hi.tag, data)) := by
  have hk := SortedMap.mem_keys_of_find? hh
  have hlay := h.update_layout data
  obtain ⟨hnd, hpos⟩ := h.update_chain hk data
  have hb : blocks C (w'.put (updated w.storage id data hi.tag (cont id))) = blocks C w' := by
    refine blocks_congr ?_ ?_ ?_ ?_ rfl <;> rw [hp.storage] <;> rfl
  have hbw : blocks C (w.put (updateStart w.storage data)) = blocks C w := blocks_alloc w _
  have hbs : (updateStart w.storage data).bs = w.storage.bs := by rw [updateStart_eq]
  have hcap : (updateStart w.storage data).cap = w.storage.cap := by rw [updateStart_eq]
  have hopen : (updateStart w.storage data).opened = w.storage.opened := by rw [updateStart_eq]
  have htags : (updateStart w.storage data).byTag = w.storage.byTag := by rw [updateStart_eq]
  have hd : ∀ j, j < (id :: updateFresh w.storage data).length →
      blocks C w' ((id :: updateFresh w.storage data).getD j 0) =
        some (chainBlk (updateStart w.storage data) (id :: updateFresh w.storage data) data hi.tag j) := by
    intro j hj
    rw [hp.blocks]
    exact chainEvents_apply hnd hj
  have hf : ∀ i, i ∉ id :: updateFresh w.storage data → blocks C w' i = blocks C w i := by
    intro i hi
    rw [hp.blocks, hbw]
    exact chainEvents_frame (by simp) hi (fun e he => he)
  obtain ⟨hfmt, hdense, hrange⟩ := chain_complete (w := w.put (updateStart w.storage data)) hnd hpos
    (Nat.succ_pos _) (fun i h1 h2 => List.mem_cons_of_mem _ (mem_alloc_of_fresh h1 h2))
    (nblocks_le_alloc _ _) (by rw [hbw]; exact h.dense)
    (by rw [World.put_storage, hbs]; exact h.inRange) hp (by rw [World.put_storage, hbs]; exact hr)
  refine ⟨⟨hopen.trans h.opened, ?_, hrange, ?_, ?_, ?_⟩, ?_⟩
  · refine hfmt.congr ?_ ?_ ?_ ?_ rfl <;> rw [hp.storage] <;> rfl
  · rw [hb]
    exact hdense
  · rw [hb]
    exact hlay.update hk hd hf
  · rw [World.put_storage]
    have ht : TagIndexed w.storage.byTag (updated w.storage id data hi.tag (cont id)).head :=
      h.tags.relink hh rfl
    rw [← htags] at ht
    exact ht
  · rw [hb]
    refine records_update hk ?_ ?_ hlay hd hf
    · rw [hcap]
      exact h.cap_pos
    · rw [length_updateChain, chunks, chunks, hcap]

lemma Sound.updateLocked_spec (h : Sound C pw w cont) (hh : w.storage.head.find? id = some hi)
    (data : Bytes) :
    (∃ w', updateLocked C id data w =
        (.ok (), w'.put (updated w.storage id data hi.tag (cont id))) ∧
      Finished C pw (w.put (updateStart w.storage data)) w.storage.nblocks
        (updateEvents w.storage id data hi.tag) w') ∨
    ∃ e k w', updateLocked C id data w = (.error e, w') ∧
      Halted C pw (w.put (updateStart w.storage data)) w.storage.nblocks
        (updateEvents w.storage id data hi.tag) e k w' := by
  have hs := h.updateLocked_apply hh data
  rcases perform_spec (h.alloc_formatted _) (fun i hi => by omega)
    (h.update_valid (SortedMap.mem_keys_of_find? hh) data hi.tag) with ⟨w', hp, hd⟩ | ⟨e, k, w', hp, hd⟩
  · exact Or.inl ⟨w', by rw [hs, updateStart, hp], hd⟩
  · exact Or.inr ⟨e, k, w', by rw [hs, updateStart, hp], hd⟩

end Update

/-! ### The directory -/

def users (d : Disk) (heads : Heads) (cont : ℕ → List ℕ) (dirId : ℕ) : ℕ → Option (UInt32 × Bytes) :=
  fun id => if id = dirId then none else records d heads cont id

def directoryStart (s : LocalStorage) : LocalStorage :=
  if s.dirId = 0 then insertStart s (directoryBytes s.roots) else updateStart s (directoryBytes s.roots)

def directoryEvents (s : LocalStorage) : List FileEvent :=
  if s.dirId = 0 then insertEvents s (directoryBytes s.roots) kDirTag
  else updateEvents s s.dirId (directoryBytes s.roots) kDirTag

section Directory

variable {C : Crypto} {pw : Bytes} {w : World} {cont : ℕ → List ℕ} {heads : Heads}

lemma users_self {d : Disk} {dirId : ℕ} : users d heads cont dirId dirId = none := if_pos rfl

lemma users_of_ne {d : Disk} {dirId id : ℕ} (h : id ≠ dirId) :
    users d heads cont dirId id = records d heads cont id := if_neg h

lemma content_of_records {d : Disk} {id : ℕ} {tag : UInt32} {data : Bytes}
    (h : records d heads cont id = some (tag, data)) : content d (id :: cont id) = data := by
  rw [records, Option.map_eq_some_iff] at h
  obtain ⟨hi, -, he⟩ := h
  exact congrArg Prod.snd he

lemma directoryOf_of_records {d : Disk} {dirId : ℕ} {tag : UInt32} {data : Bytes} (h0 : dirId ≠ 0)
    (h : records d heads cont dirId = some (tag, data)) :
    directoryOf d cont dirId = parseDirectory data := by
  rw [directoryOf, if_neg h0, content_of_records h]

/-- A saved directory: the user's records and the roots are as before, and the directory on disk
is what the roots are written as. -/
structure DirectorySaved (C : Crypto) (pw : Bytes) (w w' : World) (cont cont' : ℕ → List ℕ) : Prop where
  wf : Wf C pw w' cont'
  users : users (blocks C w') w'.storage.head cont' w'.storage.dirId =
    users (blocks C w) w.storage.head cont w.storage.dirId
  roots : w'.storage.roots = w.storage.roots
  directory : directoryOf (blocks C w') cont' w'.storage.dirId =
    parseDirectory (directoryBytes w.storage.roots)
  named : w'.storage.dirId ≠ 0

lemma IsDirectory.insert {id : ℕ} {hi : HeadInfo} (h : IsDirectory heads 0) (h0 : 0 ∉ heads.keys)
    (htag : hi.tag = kDirTag) : IsDirectory (heads.insert id hi) id := by
  refine ⟨fun k hk hfind => ?_, fun _ => SortedMap.mem_keys_insert.mpr (Or.inl rfl)⟩
  rw [SortedMap.find?_insert] at hfind
  split_ifs at hfind with he
  · simp [← Option.some.inj hfind, htag, he]
  · have hne : k ≠ 0 := fun hk0 => h0 (hk0 ▸ SortedMap.mem_keys_of_find? hfind)
    rw [h.tag_iff k hk hfind]
    exact iff_of_false hne (Ne.symm he)

lemma IsDirectory.relink {id dirId : ℕ} {hi hi' : HeadInfo} (h : IsDirectory heads dirId)
    (hid : heads.find? id = some hi) (htag : hi'.tag = hi.tag) :
    IsDirectory (heads.insert id hi') dirId := by
  refine ⟨fun k hk hfind => ?_, fun hne => SortedMap.mem_keys_insert.mpr (Or.inr (h.mem hne))⟩
  rw [SortedMap.find?_insert] at hfind
  split_ifs at hfind with he
  · rw [← Option.some.inj hfind, htag, ← he]
    exact h.tag_iff id hi hid
  · exact h.tag_iff k hk hfind

def withDirectory (s : LocalStorage) (id : ℕ) : LocalStorage := { s with dirId := id }

lemma Wf.directory_inserted (h : Wf C pw w cont) {w' : World} {data : Bytes} {id : ℕ}
    (h0 : w.storage.dirId = 0) (hdata : data = directoryBytes w.storage.roots)
    (hid : id = (insertIds w.storage data).getD 0 0)
    (hp : Performed C pw (w.put (insertStart w.storage data)) w.storage.nblocks
      (insertEvents w.storage data kDirTag) w')
    (hr : InRange w.storage.bs (insertEvents w.storage data kDirTag)) :
    DirectorySaved C pw w (w'.put (withDirectory (inserted w.storage data kDirTag) id)) cont
      (Function.update cont id ((insertIds w.storage data).drop 1)) := by
  obtain ⟨hsound, hrec⟩ := h.insert_done hp hr
  have hlay := h.insert_layout data
  have hmem := getD_mem (insertIds_pos w.storage data)
  rw [← hid] at hsound hrec hmem
  have hrange := hlay.free_range (List.mem_append_left _ hmem)
  have hnew : records (blocks C w) w.storage.head cont id = none := by
    rw [← Option.not_isSome_iff_eq_none, records_isSome]
    exact fun hk => hlay.chain_not_free (head_mem_chainBlocks hk) (List.mem_append_left _ hmem)
  have hzero : records (blocks C w) w.storage.head cont 0 = none := by
    rw [← Option.not_isSome_iff_eq_none, records_isSome]
    exact h.layout.zero_not_mem
  have hb : blocks C (w'.put (withDirectory (inserted w.storage data kDirTag) id)) =
      blocks C (w'.put (inserted w.storage data kDirTag)) := blocks_congr rfl rfl rfl rfl rfl
  have hstart := insertStart_eq w.storage data
  refine ⟨⟨⟨hsound.opened, hsound.formatted.congr rfl rfl rfl rfl rfl, hsound.inRange, ?_, ?_,
    hsound.tags⟩, ?_, ?_⟩, ?_, ?_, ?_, Nat.ne_of_gt hrange.1⟩
  · rw [hb]
    exact hsound.dense
  · rw [hb]
    exact hsound.layout
  · have hh : IsDirectory (w.storage.head.insert id
        ⟨kDirTag, (insertIds w.storage data).getD 1 0⟩) id :=
      (h0 ▸ h.directory).insert h.layout.zero_not_mem rfl
    rw [hid] at hh ⊢
    exact hh
  · simp only [World.put, withDirectory, inserted, hstart]
    exact h.clean
  · rw [hb]
    funext i
    change users _ _ _ id i = users _ _ _ _ i
    rw [h0]
    by_cases hi : i = id
    · rw [hi, users_self, users_of_ne (by omega), hnew]
    · rw [users_of_ne hi]
      refine (congrFun hrec i).trans ?_
      rw [Function.update_of_ne hi]
      by_cases hz : i = 0
      · rw [hz, users_self, hzero]
      · rw [users_of_ne hz]
  · simp only [World.put, withDirectory, inserted, hstart]
  · rw [hb, ← hdata]
    have hsaved : records (blocks C (w'.put (inserted w.storage data kDirTag)))
        (inserted w.storage data kDirTag).head
        (Function.update cont id (List.drop 1 (insertIds w.storage data))) id = some (kDirTag, data) := by
      rw [hrec]
      exact Function.update_self _ _ _
    exact directoryOf_of_records (Nat.ne_of_gt hrange.1) hsaved

lemma Wf.directory_updated (h : Wf C pw w cont) {w' : World} {data : Bytes} (h0 : w.storage.dirId ≠ 0)
    (hdata : data = directoryBytes w.storage.roots)
    (hp : Performed C pw (w.put (updateStart w.storage data)) w.storage.nblocks
      (updateEvents w.storage w.storage.dirId data kDirTag) w')
    (hr : InRange w.storage.bs (updateEvents w.storage w.storage.dirId data kDirTag)) :
    DirectorySaved C pw w
      (w'.put (updated w.storage w.storage.dirId data kDirTag (cont w.storage.dirId))) cont
      (Function.update cont w.storage.dirId (updateFresh w.storage data)) := by
  obtain ⟨hi, hh⟩ := SortedMap.mem_keys.mp (h.directory.mem h0)
  have htag : hi.tag = kDirTag := (h.directory.tag_iff _ hi hh).mpr rfl
  obtain ⟨hsound, hrec⟩ := h.update_done hh (htag.symm ▸ hp) (htag.symm ▸ hr)
  rw [htag] at hsound hrec
  have hstart := updateStart_eq w.storage data
  have hid : (updated w.storage w.storage.dirId data kDirTag (cont w.storage.dirId)).dirId =
      w.storage.dirId := by simp only [updated, hstart]
  refine ⟨⟨hsound, ?_, ?_⟩, ?_, ?_, ?_, by rw [World.put_storage, hid]; exact h0⟩
  · rw [World.put_storage, hid]
    exact h.directory.relink hh htag.symm
  · simp only [World.put, updated, hstart]
    exact h.clean
  · funext i
    rw [World.put_storage, hid]
    by_cases hi : i = w.storage.dirId
    · rw [hi, users_self, users_self]
    · rw [users_of_ne hi, users_of_ne hi, hrec, Function.update_of_ne hi]
  · simp only [World.put, updated, hstart]
  · rw [World.put_storage, hid, ← hdata]
    have hsaved := congrFun hrec w.storage.dirId
    rw [Function.update_self] at hsaved
    exact directoryOf_of_records h0 hsaved

lemma Wf.directory_done (h : Wf C pw w cont) {w' : World}
    (hp : Performed C pw (w.put (directoryStart w.storage)) w.storage.nblocks
      (directoryEvents w.storage) w')
    (hr : InRange w.storage.bs (directoryEvents w.storage)) :
    ∃ s cont', DirectorySaved C pw w (w'.put s) cont cont' := by
  by_cases h0 : w.storage.dirId = 0
  · rw [directoryStart, directoryEvents, if_pos h0, if_pos h0] at hp
    rw [directoryEvents, if_pos h0] at hr
    exact ⟨_, _, h.directory_inserted h0 rfl rfl hp hr⟩
  · rw [directoryStart, directoryEvents, if_neg h0, if_neg h0] at hp
    rw [directoryEvents, if_neg h0] at hr
    exact ⟨_, _, h.directory_updated h0 rfl hp hr⟩

lemma directoryStart_bs (s : LocalStorage) : (directoryStart s).bs = s.bs := by
  rw [directoryStart]
  split_ifs
  · exact insertStart_bs _ _
  · exact updateStart_bs _ _

lemma Wf.directory_inRange (h : Wf C pw w cont)
    (hr : (directoryStart w.storage).nblocks * w.storage.bs + w.storage.bs ≤ maxOffset) :
    InRange w.storage.bs (directoryEvents w.storage) := by
  rw [directoryStart] at hr
  rw [directoryEvents]
  split_ifs at hr ⊢ with h0
  · exact h.insert_inRange _ _ hr
  · exact h.update_inRange (h.directory.mem h0) _ _ hr

lemma Wf.saveDirectoryLocked_spec (h : Wf C pw w cont) :
    (∃ w' s cont', saveDirectoryLocked C w = (.ok (), w'.put s) ∧
      Finished C pw (w.put (directoryStart w.storage)) w.storage.nblocks (directoryEvents w.storage) w' ∧
      DirectorySaved C pw w (w'.put s) cont cont') ∨
    ∃ e k w', saveDirectoryLocked C w = (.error e, w') ∧
      Halted C pw (w.put (directoryStart w.storage)) w.storage.nblocks (directoryEvents w.storage) e k w' := by
  by_cases h0 : w.storage.dirId = 0
  · have hstart : directoryStart w.storage = insertStart w.storage (directoryBytes w.storage.roots) := if_pos h0
    have hev : directoryEvents w.storage = insertEvents w.storage (directoryBytes w.storage.roots) kDirTag :=
      if_pos h0
    rw [hstart, hev]
    rcases h.insertLocked_spec (directoryBytes w.storage.roots) kDirTag with ⟨w', hs, hd⟩ | ⟨e, k, w', hs, hd⟩
    · refine Or.inl ⟨w', _, _, ?_, hd, h.directory_inserted h0 rfl rfl hd.toPerformed ?_⟩
      · simp only [saveDirectoryLocked, get_bind_apply, if_pos h0]
        rw [bind_ok hs]
        rfl
      · have := hd.inRange
        rwa [World.put_storage, insertStart_eq] at this
    · refine Or.inr ⟨e, k, w', ?_, hd⟩
      simp only [saveDirectoryLocked, get_bind_apply, if_pos h0]
      exact bind_error hs
  · have hstart : directoryStart w.storage = updateStart w.storage (directoryBytes w.storage.roots) := if_neg h0
    obtain ⟨hi, hh⟩ := SortedMap.mem_keys.mp (h.directory.mem h0)
    have htag : hi.tag = kDirTag := (h.directory.tag_iff _ hi hh).mpr rfl
    have hev : directoryEvents w.storage =
        updateEvents w.storage w.storage.dirId (directoryBytes w.storage.roots) hi.tag := by
      rw [htag]
      exact if_neg h0
    rw [hstart, hev]
    rcases h.updateLocked_spec hh (directoryBytes w.storage.roots) with ⟨w', hs, hd⟩ | ⟨e, k, w', hs, hd⟩
    · refine Or.inl ⟨w', _, _, ?_, hd, h.directory_updated h0 rfl (htag ▸ hd.toPerformed) ?_⟩
      · simp only [saveDirectoryLocked, get_bind_apply, if_neg h0]
        rw [hs, htag]
      · have := hd.inRange
        rwa [World.put_storage, updateStart_eq, htag] at this
    · refine Or.inr ⟨e, k, w', ?_, hd⟩
      simp only [saveDirectoryLocked, get_bind_apply, if_neg h0]
      exact hs

end Directory

/-! ### Removing -/

def freeEvents (s : LocalStorage) (id : ℕ) : List FileEvent :=
  .write id {} :: if s.opt.durable then [.sync] else []

def removed (s : LocalStorage) (id : ℕ) (tag : UInt32) (old : List ℕ) : LocalStorage :=
  { s with
    byTag := removeTag s.byTag tag id
    head := s.head.erase id
    free := old.reverse ++ id :: s.free
    roots := s.roots.filter (fun _ r => !decide (r = id))
    dirDirty := false }

def rooted (s : LocalStorage) (id : ℕ) : Bool := s.roots.entries.any (fun e => e.2 = id)

section Remove

variable {C : Crypto} {pw : Bytes} {w w' : World} {cont : ℕ → List ℕ} {id : ℕ} {hi : HeadInfo}

lemma rooted_iff {s : LocalStorage} : rooted s id = true ↔ ∃ name, s.roots.find? name = some id := by
  simp only [rooted, List.any_eq_true, decide_eq_true_eq, SortedMap.find?_eq_some]
  constructor
  · rintro ⟨⟨name, r⟩, hm, rfl⟩
    exact ⟨name, hm⟩
  · rintro ⟨name, hm⟩
    exact ⟨_, hm, rfl⟩

lemma Wf.removeLocked_apply (h : Wf C pw w cont) (hh : w.storage.head.find? id = some hi) :
    removeLocked C id w = match perform C (freeEvents w.storage id) w with
      | (.ok _, w') => Prog.when (rooted w.storage id) (saveDirectoryLocked C)
          (w'.put (removed w.storage id hi.tag (cont id)))
      | (.error e, w') => (.error e, w') := by
  have hold : oldContinuations C w hi = .ok (cont id) := oldContinuations_ok h.layout hh
  have hp : perform C (freeEvents w.storage id) =
      (writeBlock C id {} >>= fun _ => Prog.when w.storage.opt.durable synceFd) := by
    rw [freeEvents, perform]
    by_cases hd : w.storage.opt.durable = true
    · rw [if_pos hd, when_pos hd, perform_singleton_sync]
    · rw [if_neg hd, when_neg hd]
      rfl
  rw [hp, removeLocked, get_bind_apply]
  simp only [hh, bind_apply, read_apply, hold, h.clean, Bool.false_or]
  rcases writeBlock C id {} w with ⟨_ | _, w₁⟩
  · rfl
  · simp only
    rcases Prog.when w.storage.opt.durable synceFd w₁ with ⟨_ | _, w₂⟩ <;> rfl

lemma Sound.free_valid (h : Sound C pw w cont) (hh : id ∈ w.storage.head.keys) :
    Valid w.storage.cap (· = 0) (freeEvents w.storage id) := by
  refine ⟨(h.layout.chain_range (head_mem_chainBlocks hh)).1, by decide, Nat.zero_le _, rfl, ?_⟩
  split_ifs <;> trivial

lemma applyEvents_free {s : LocalStorage} (d : Disk) :
    applyEvents (freeEvents s id) d = Function.update d id (some {}) := by
  rw [freeEvents, applyEvents]
  split_ifs <;> rfl

lemma extentAfter_free {s : LocalStorage} (m : ℕ) : extentAfter (freeEvents s id) m = max m id := by
  rw [freeEvents, extentAfter]
  split_ifs <;> rfl

lemma Wf.free_inRange (h : Wf C pw w cont) (hh : w.storage.head.find? id = some hi) :
    InRange w.storage.bs (freeEvents w.storage id) := by
  intro i b hm
  have hle := (h.layout.chain_range (head_mem_chainBlocks (SortedMap.mem_keys_of_find? hh))).2
  have hmul := Nat.mul_le_mul_right w.storage.bs hle
  have hr := h.inRange
  rw [freeEvents] at hm
  rcases List.mem_cons.mp hm with he | hm
  · obtain ⟨rfl, -⟩ := FileEvent.write.inj he
    omega
  · split_ifs at hm <;> simp at hm

lemma Wf.free_done (h : Wf C pw w cont) (hh : w.storage.head.find? id = some hi)
    (hid : id ≠ w.storage.dirId) (hp : Performed C pw w w.storage.nblocks (freeEvents w.storage id) w') :
    Wf C pw (w'.put (removed w.storage id hi.tag (cont id))) cont ∧
    records (blocks C (w'.put (removed w.storage id hi.tag (cont id))))
      (removed w.storage id hi.tag (cont id)).head cont =
      Function.update (records (blocks C w) w.storage.head cont) id none := by
  have hk := SortedMap.mem_keys_of_find? hh
  have hrange := h.layout.chain_range (head_mem_chainBlocks hk)
  have hb : blocks C (w'.put (removed w.storage id hi.tag (cont id))) =
      Function.update (blocks C w) id (some {}) := by
    rw [← applyEvents_free (s := w.storage), ← hp.blocks]
    refine blocks_congr ?_ ?_ ?_ ?_ rfl <;> rw [hp.storage] <;> rfl
  have hne : ∀ i, i ≠ id → Function.update (blocks C w) id (some {}) i = blocks C w i := fun i hi =>
    Function.update_of_ne hi _ _
  have hfmt := hp.formatted
  rw [extentAfter_free, max_eq_left hrange.2] at hfmt
  refine ⟨⟨⟨h.opened, ?_, h.inRange, fun i h0 hin => ?_, ?_, h.tags.remove hh⟩, ?_, rfl⟩, ?_⟩
  · refine hfmt.congr ?_ ?_ ?_ ?_ rfl <;> rw [hp.storage] <;> rfl
  · rw [hb]
    by_cases hi : i = id
    · exact ⟨{}, by rw [hi, Function.update_self]⟩
    · rw [hne i hi]
      exact h.dense i h0 hin
  · rw [hb]
    refine h.layout.remove hk hne (fun b hbi => ?_)
    rw [Function.update_self] at hbi
    simp [← Option.some.inj hbi]
  · refine ⟨fun k hk' hfind => ?_, fun h0 => SortedMap.mem_keys_erase.mpr ⟨hid.symm, h.directory.mem h0⟩⟩
    have hne' := (SortedMap.mem_keys_erase.mp (SortedMap.mem_keys_of_find? hfind)).1
    simp only [World.put_storage, removed, SortedMap.find?_erase, if_neg hne'] at hfind
    exact h.directory.tag_iff k hk' hfind
  · rw [hb]
    exact records_remove h.layout hk hne

lemma Wf.removeLocked_spec (h : Wf C pw w cont) (hh : w.storage.head.find? id = some hi) :
    (∃ w', Finished C pw w w.storage.nblocks (freeEvents w.storage id) w' ∧
      removeLocked C id w = Prog.when (rooted w.storage id) (saveDirectoryLocked C)
        (w'.put (removed w.storage id hi.tag (cont id)))) ∨
    ∃ e k w', removeLocked C id w = (.error e, w') ∧
      Halted C pw w w.storage.nblocks (freeEvents w.storage id) e k w' := by
  have hs := h.removeLocked_apply hh
  rcases perform_spec h.formatted (fun i hi => by omega)
    (h.free_valid (SortedMap.mem_keys_of_find? hh)) with ⟨w', hp, hd⟩ | ⟨e, k, w', hp, hd⟩
  · exact Or.inl ⟨w', hd, by rw [hs, hp]⟩
  · exact Or.inr ⟨e, k, w', by rw [hs, hp], hd⟩

end Remove

end ChatDesktop.Storage
