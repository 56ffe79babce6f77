import ChatDesktop.Storage.Reopening
import ChatDesktop.Storage.Snapshot
import Mathlib.Algebra.Order.BigOperators.Group.List

namespace ChatDesktop.Storage

open Library Library.Program LocalStorage

def maxBlocks : ℕ := 2 ^ 42

/-- No file operation is going to fail, and the file has at most `m` blocks. -/
structure Roomy (m : ℕ) (w : World) : Prop where
  faults : w.faults = none
  nblocks : w.storage.nblocks ≤ m

/-- The most bytes that a directory of `n` names takes, each of at most `l` bytes. -/
def directorySize (l n : ℕ) : ℕ := 4 + n * (l + 12)

/-- At most `n` records and `n` names, each name of at most `l` bytes. -/
structure Store.Small (l n : ℕ) (a : Store) : Prop where
  records : ∃ is : List ℕ, is.length ≤ n ∧ ∀ id, (a.record id).isSome = true → id ∈ is
  names : ∃ ns : List Bytes, ns.length ≤ n ∧ ∀ r, (a.root r).isSome = true → r ∈ ns
  short : ∀ r, (a.root r).isSome = true → r.length ≤ l

/-! ### Blocks -/

section

variable {C : Crypto} {pw : Bytes} {w w' : World} {s : LocalStorage} {cont : ℕ → List ℕ} {k m n id : ℕ}
  {data : Bytes} {tag : UInt32} {hi : HeadInfo}

lemma Geometry.inRange (h : Geometry s) (hn : n ≤ maxBlocks) : n * s.bs + s.bs ≤ maxOffset := by
  have hmul := Nat.mul_le_mul hn h.bs_le
  have hle := h.bs_le
  simp only [maxBlocks, maxOffset] at hmul ⊢
  omega

lemma Geometry.chunks_le (h : Geometry s) (n : ℕ) : chunks s n ≤ n + 1 := by
  have hpos := h.cap_pos
  rw [chunks, max_le_iff]
  refine ⟨by omega, Nat.div_le_of_le_mul ?_⟩
  rw [Nat.mul_add]
  have hmul : 1 * n ≤ s.cap * n := Nat.mul_le_mul_right n hpos
  omega

lemma Roomy.mono (h : Roomy m w) (hmn : m ≤ n) : Roomy n w := ⟨h.faults, h.nblocks.trans hmn⟩

lemma Wf.insert_roomy (h : Wf C pw w cont) (hw : Roomy m w) (tag : UInt32)
    (hm : m + data.length + 1 ≤ maxBlocks) :
    ∃ id w', insertLocked C data tag w = (.ok id, w') ∧ Roomy (m + data.length + 1) w' := by
  have hchunks := h.formatted.geometry.chunks_le data.length
  have hle : (insertStart w.storage data).nblocks ≤ m + data.length + 1 := by
    have hnblocks := hw.nblocks
    rw [insertStart_eq]
    dsimp only
    omega
  obtain ⟨w', hw', hd⟩ | ⟨e, k, w', -, hd⟩ := h.insertLocked_spec data tag
  · exact ⟨_, _, hw', hd.faults hw.faults, hle⟩
  · refine absurd (h.insert_inRange data tag (h.formatted.geometry.inRange (hle.trans hm))) ?_
    have hout := hd.not_inRange hw.faults
    rwa [World.put_storage, insertStart_bs] at hout

lemma Wf.update_roomy (h : Wf C pw w cont) (hw : Roomy m w) (hh : w.storage.head.find? id = some hi)
    (hm : m + data.length + 1 ≤ maxBlocks) :
    ∃ w', updateLocked C id data w = (.ok (), w') ∧ Roomy (m + data.length + 1) w' := by
  have hchunks := h.formatted.geometry.chunks_le data.length
  have hle : (updateStart w.storage data).nblocks ≤ m + data.length + 1 := by
    have hnblocks := hw.nblocks
    rw [updateStart_eq]
    dsimp only
    omega
  obtain ⟨w', hw', hd⟩ | ⟨e, k, w', -, hd⟩ := h.updateLocked_spec hh data
  · exact ⟨_, hw', hd.faults hw.faults, hle⟩
  · refine absurd (h.update_inRange (SortedMap.mem_keys_of_find? hh) data hi.tag
      (h.formatted.geometry.inRange (hle.trans hm))) ?_
    have hout := hd.not_inRange hw.faults
    rwa [World.put_storage, updateStart_bs] at hout

lemma Wf.saveDirectory_roomy (h : Wf C pw w cont) (hw : Roomy m w)
    (hn : (directoryBytes w.storage.roots).length ≤ n) (hm : m + n + 1 ≤ maxBlocks) :
    ∃ w', saveDirectoryLocked C w = (.ok (), w') ∧ Roomy (m + n + 1) w' := by
  have hle : m + (directoryBytes w.storage.roots).length + 1 ≤ m + n + 1 := by omega
  by_cases h0 : w.storage.dirId = 0
  · obtain ⟨id, w', hw', hroom⟩ := h.insert_roomy hw kDirTag (hle.trans hm)
    refine ⟨w'.put { w'.storage with dirId := id }, ?_, (hroom.mono hle).faults, (hroom.mono hle).nblocks⟩
    simp only [saveDirectoryLocked, get_bind_apply, if_pos h0]
    rw [bind_ok hw']
    rfl
  · obtain ⟨hi, hh⟩ := SortedMap.mem_keys.mp (h.directory.mem h0)
    obtain ⟨w', hw', hroom⟩ := h.update_roomy hw hh (hle.trans hm)
    refine ⟨w', ?_, hroom.mono hle⟩
    simp only [saveDirectoryLocked, get_bind_apply, if_neg h0]
    exact hw'

lemma Wf.remove_roomy (h : Wf C pw w cont) (hw : Roomy m w) (hb : hasRecord w.storage id = true)
    (hn : (directoryBytes (w.storage.roots.filter (fun _ r => !decide (r = id)))).length ≤ n)
    (hm : m + n + 1 ≤ maxBlocks) :
    ∃ w', LocalStorage.remove C id w = (.ok true, w') ∧ Roomy (m + n + 1) w' := by
  obtain ⟨hid, hi, hh⟩ := hasRecord_find? hb
  rw [LocalStorage.remove, get_bind_apply, hb, if_pos rfl]
  obtain ⟨w₁, hd, hw₁⟩ | ⟨e, k, w', -, hd⟩ := h.removeLocked_spec hh
  · have hroom : Roomy m (w₁.put (removed w.storage id hi.tag (cont id))) := ⟨hd.faults hw.faults, hw.nblocks⟩
    cases hroot : rooted w.storage id with
    | false =>
      rw [hroot, when_neg Bool.false_ne_true] at hw₁
      exact ⟨_, bind_ok hw₁, hroom.mono (by omega)⟩
    | true =>
      rw [hroot, when_pos rfl] at hw₁
      obtain ⟨w₂, hw₂, hroom₂⟩ := (h.free_done hh hid hd.toPerformed).1.saveDirectory_roomy hroom hn hm
      exact ⟨w₂, bind_ok (hw₁.trans hw₂), hroom₂⟩
  · exact absurd (h.free_inRange hh) (hd.not_inRange hw.faults)

end

/-! ### Records and names -/

section

variable {C : Crypto} {pw : Bytes} {w : World} {cont : ℕ → List ℕ} {a b : Store} {l m n id : ℕ} {root data : Bytes}

namespace Store

lemma Small.empty : Small l 0 empty :=
  ⟨⟨[], le_rfl, fun _ h => by cases h⟩, ⟨[], le_rfl, fun _ h => by cases h⟩, fun _ h => by cases h⟩

lemma Small.mono (h : a.Small l n) (hn : n ≤ m) : a.Small l m := by
  obtain ⟨⟨is, his, hid⟩, ⟨ns, hns, hname⟩, hshort⟩ := h
  exact ⟨⟨is, his.trans hn, hid⟩, ⟨ns, hns.trans hn, hname⟩, hshort⟩

lemma Small.delete (h : a.Small l n) (id : ℕ) : (a.delete id).Small l n := by
  have hsub : ∀ r, ((a.delete id).root r).isSome = true → (a.root r).isSome = true := by
    intro r hr
    simp only [Store.delete] at hr
    split_ifs at hr
    · cases hr
    · exact hr
  obtain ⟨⟨is, his, hid⟩, ⟨ns, hns, hname⟩, hshort⟩ := h
  refine ⟨⟨is, his, fun i hi => hid i ?_⟩, ⟨ns, hns, fun r hr => hname r (hsub r hr)⟩, fun r hr => hshort r (hsub r hr)⟩
  by_cases he : i = id
  · simp only [Store.delete, he, Function.update_self] at hi
    cases hi
  · simpa only [Store.delete, Function.update_of_ne he] using hi

lemma Saved.small (h : Saved root data a b) (ha : a.Small l n) (hroot : root.length ≤ l) : b.Small l (n + 1) := by
  obtain ⟨⟨is, his, hid⟩, ⟨ns, hns, hname⟩, hshort⟩ := ha
  cases h with
  | @new id _ _ =>
    refine ⟨⟨id :: is, Nat.succ_le_succ his, fun i hi => ?_⟩, ⟨root :: ns, Nat.succ_le_succ hns, fun r hr => ?_⟩,
      fun r hr => ?_⟩
    · by_cases he : i = id
      · exact List.mem_cons.mpr (Or.inl he)
      · simp only [name, put, Function.update_of_ne he] at hi
        exact List.mem_cons_of_mem _ (hid i hi)
    · by_cases he : r = root
      · exact List.mem_cons.mpr (Or.inl he)
      · simp only [name, put, Function.update_of_ne he] at hr
        exact List.mem_cons_of_mem _ (hname r hr)
    · by_cases he : r = root
      · exact he ▸ hroot
      · simp only [name, put, Function.update_of_ne he] at hr
        exact hshort r hr
  | @old id _ _ _ hold =>
    refine ⟨⟨is, his.trans n.le_succ, fun i hi => hid i ?_⟩, ⟨ns, hns.trans n.le_succ, hname⟩, hshort⟩
    by_cases he : i = id
    · rw [he, hold]
      rfl
    · simpa only [put, Function.update_of_ne he] using hi

lemma Small.directory_le {roots : Roots} (ha : a.Small l n)
    (hroots : ∀ r id, roots.find? r = some id → (a.root r).isSome = true) :
    (directoryBytes roots).length ≤ directorySize l n := by
  obtain ⟨-, ⟨ns, hns, hname⟩, hshort⟩ := ha
  have hsize : roots.size ≤ n := by
    rw [← SortedMap.length_keys]
    refine ((SortedMap.keys_nodup roots).length_le_of_subset (fun r hr => ?_)).trans hns
    obtain ⟨id, hid⟩ := SortedMap.mem_keys.mp hr
    exact hname r (hroots r id hid)
  have hentry : ∀ b ∈ roots.entries.map (fun e => e.1.length + 12), b ≤ l + 12 := by
    intro b hb
    obtain ⟨e, he, rfl⟩ := List.mem_map.mp hb
    exact Nat.add_le_add_right (hshort e.1 (hroots e.1 e.2 (SortedMap.find?_eq_some.mpr he))) 12
  have hsum := List.sum_le_card_nsmul _ _ hentry
  rw [List.length_map] at hsum
  rw [length_directoryBytes, directorySize]
  exact Nat.add_le_add_left (hsum.trans (Nat.mul_le_mul_right _ hsize)) 4

end Store

lemma Related.length_ids_le (h : Related C pw w a cont) (ha : a.Small l n) (tag : UInt32) :
    (ids w.storage tag).length ≤ n := by
  obtain ⟨⟨is, his, hid⟩, -, -⟩ := ha
  obtain ⟨hsorted, hmem⟩ := h.agrees.ids tag
  have hnodup : (ids w.storage tag).Nodup := hsorted.imp ne_of_lt
  refine (hnodup.length_le_of_subset (fun id hi => ?_)).trans his
  obtain ⟨data, hdata⟩ := (hmem id).mp hi
  exact hid id (by rw [hdata]; rfl)

end

/-! ### Calls that find room -/

section

variable {C : Crypto} {pw : Bytes} {w w' : World} {cont : ℕ → List ℕ} {a b : Store} {l m n id : ℕ}
  {root data : Bytes} {tag : UInt32}

lemma Related.insert_fits (h : Related C pw w a cont) (hw : Roomy m w) (data : Bytes) (htag : tag ≠ kDirTag)
    (hm : m + data.length + 1 ≤ maxBlocks) :
    ∃ id w' cont', LocalStorage.insert C data tag w = (.ok id, w') ∧ a.record id = none ∧
      Related C pw w' (a.put id (tag, data)) cont' ∧ Roomy (m + data.length + 1) w' := by
  obtain ⟨id, w', hw', hroom⟩ := h.wf.insert_roomy hw tag hm
  have hrun : LocalStorage.insert C data tag w = (.ok id, w') := by
    rw [LocalStorage.insert, get_bind_apply, if_neg htag, h.wf.opened]
    exact hw'
  obtain ⟨id', w'', cont', hw'', hnew, hr⟩ | ⟨e, w'', hw'', -⟩ := h.insert_spec data htag
  · obtain ⟨hid, rfl⟩ := Prod.mk.inj (hrun.symm.trans hw'')
    obtain rfl := Except.ok.inj hid
    exact ⟨id, w', cont', hrun, hnew, hr, hroom⟩
  · cases (Prod.mk.inj (hrun.symm.trans hw'')).1

lemma Related.update_fits {old : Bytes} (h : Related C pw w a cont) (hw : Roomy m w) (data : Bytes)
    (hrec : a.record id = some (tag, old)) (hm : m + data.length + 1 ≤ maxBlocks) :
    ∃ w' cont', LocalStorage.update C id data w = (.ok true, w') ∧ Related C pw w' (a.put id (tag, data)) cont' ∧
      Roomy (m + data.length + 1) w' := by
  have hb : hasRecord w.storage id = true := by
    rw [h.agrees.live, hrec]
    rfl
  obtain ⟨-, hi, hh⟩ := hasRecord_find? hb
  obtain ⟨w', hw', hroom⟩ := h.wf.update_roomy hw hh hm
  have hrun : LocalStorage.update C id data w = (.ok true, w') := by
    rw [LocalStorage.update, get_bind_apply, hb, if_pos rfl]
    exact bind_ok hw'
  obtain ⟨w'', cont', hw'', hr⟩ | ⟨e, w'', hw'', -⟩ := h.update_spec data hrec
  · obtain rfl := (Prod.mk.inj (hrun.symm.trans hw'')).2
    exact ⟨w', cont', hrun, hr, hroom⟩
  · cases (Prod.mk.inj (hrun.symm.trans hw'')).1

lemma Related.setRoot_fits (h : Related C pw w a cont) (hw : Roomy m w) (hlive : (a.record id).isSome = true)
    (ha : (a.name root (some id)).Small l n) (hm : m + directorySize l n + 1 ≤ maxBlocks) :
    ∃ w' cont', LocalStorage.setRoot C root id w = (.ok (), w') ∧ Related C pw w' (a.name root (some id)) cont' ∧
      Roomy (m + directorySize l n + 1) w' := by
  have hb : hasRecord w.storage id = true := (h.agrees.live id).trans hlive
  have hdir : (directoryBytes (w.storage.roots.insert root id)).length ≤ directorySize l n := by
    refine ha.directory_le (fun r i hr => ?_)
    by_cases he : r = root
    · simp only [he, Store.name, Function.update_self, Option.isSome_some]
    · rw [SortedMap.find?_insert, if_neg (Ne.symm he)] at hr
      simp only [Store.name, Function.update_of_ne he, ← h.agrees.root r, LocalStorage.root, hr, Option.isSome_some]
  obtain ⟨w', hw', hroom⟩ := (h.wf.with_roots (w.storage.roots.insert root id)).saveDirectory_roomy
    ⟨hw.faults, hw.nblocks⟩ hdir hm
  have hrun : LocalStorage.setRoot C root id w = (.ok (), w') := by
    rw [LocalStorage.setRoot, get_bind_apply, hb, if_pos rfl, LocalStorage.set, modify_bind_apply]
    exact hw'
  obtain ⟨w'', cont', hw'', hr⟩ | ⟨e, w'', hw'', -⟩ := h.setRoot_spec root hlive
  · obtain rfl := (Prod.mk.inj (hrun.symm.trans hw'')).2
    exact ⟨w', cont', hrun, hr, hroom⟩
  · cases (Prod.mk.inj (hrun.symm.trans hw'')).1

lemma Related.remove_fits (h : Related C pw w a cont) (hw : Roomy m w) (hlive : (a.record id).isSome = true)
    (ha : a.Small l n) (hm : m + directorySize l n + 1 ≤ maxBlocks) :
    ∃ w' cont', LocalStorage.remove C id w = (.ok true, w') ∧ Related C pw w' (a.delete id) cont' ∧
      Roomy (m + directorySize l n + 1) w' := by
  have hb : hasRecord w.storage id = true := (h.agrees.live id).trans hlive
  have hdir : (directoryBytes (w.storage.roots.filter (fun _ r => !decide (r = id)))).length ≤ directorySize l n := by
    refine ha.directory_le (fun r i hr => ?_)
    rw [find?_filter_ne] at hr
    split_ifs at hr
    rw [← h.agrees.root r, LocalStorage.root, hr]
    rfl
  obtain ⟨w', hrun, hroom⟩ := h.wf.remove_roomy hw hb hdir hm
  obtain ⟨w'', cont', hw'', hr⟩ | ⟨e, w'', hw'', -⟩ := h.remove_spec hlive
  · obtain rfl := (Prod.mk.inj (hrun.symm.trans hw'')).2
    exact ⟨w', cont', hrun, hr, hroom⟩
  · cases (Prod.mk.inj (hrun.symm.trans hw'')).1

lemma Related.sync_fits (h : Related C pw w a cont) (hw : Roomy m w) :
    ∃ w', LocalStorage.sync w = (.ok (), w') ∧ Related C pw w' a cont ∧ Roomy m w' := by
  have hrun : LocalStorage.sync w = (.ok (), w) := by
    rw [LocalStorage.sync, get_bind_apply, h.wf.opened, Bool.not_true, if_neg Bool.false_ne_true, synceFd, fileOp,
      hw.faults]
    exact congrArg (Prod.mk _) (by rw [← hw.faults]; rfl)
  exact ⟨w, hrun, h, hw⟩

lemma Related.saveSnapshot_fits (h : Related C pw w a cont) (hw : Roomy m w) (ha : a.Small l n) (data : Bytes)
    (hroot : root.length ≤ l) (hm : m + data.length + directorySize l (n + 1) + 2 ≤ maxBlocks) :
    ∃ w' b cont', MessageCache.saveSnapshot C data root w = (.ok true, w') ∧ Store.Saved root data a b ∧
      Related C pw w' b cont' ∧ Roomy (m + data.length + directorySize l (n + 1) + 2) w' := by
  rw [MessageCache.saveSnapshot, get_bind_apply, h.agrees.root]
  cases hr : a.root root with
  | none =>
    have htag : MessageCache.kMessageTag ≠ kDirTag := by decide
    obtain ⟨id, w₁, cont₁, hw₁, hnew, h₁, hroom₁⟩ := h.insert_fits hw data htag (by omega)
    have hsaved : Store.Saved root data a _ := .new hr hnew
    have hput : ((a.put id (MessageCache.kMessageTag, data)).record id).isSome = true := by simp [Store.put]
    obtain ⟨w₂, cont₂, hw₂, h₂, hroom₂⟩ := h₁.setRoot_fits hroom₁ hput (hsaved.small ha hroot) (by omega)
    obtain ⟨w₃, hw₃, h₃, hroom₃⟩ := h₂.sync_fits hroom₂
    refine ⟨w₃, _, cont₂, ?_, hsaved, h₃, hroom₃.mono (by omega)⟩
    simp only [bind_ok hw₁, bind_ok hw₂, bind_ok hw₃, pure_apply]
  | some id =>
    obtain ⟨⟨tag, old⟩, hrec⟩ := Option.isSome_iff_exists.mp (h.live root id hr)
    obtain ⟨w₁, cont₁, hw₁, h₁, hroom₁⟩ := h.update_fits hw data hrec (by omega)
    obtain ⟨w₂, hw₂, h₂, hroom₂⟩ := h₁.sync_fits hroom₁
    refine ⟨w₂, _, cont₁, ?_, .old hr hrec, h₂, hroom₂.mono (by omega)⟩
    simp only [bind_ok hw₁, if_true, bind_ok hw₂, pure_apply]

lemma Related.removeAll_fits {is : List ℕ} (h : Related C pw w a cont) (hw : Roomy m w) (ha : a.Small l n)
    (hlive : ∀ id ∈ is, (a.record id).isSome = true) (hnodup : is.Nodup)
    (hm : m + is.length * (directorySize l n + 1) ≤ maxBlocks) :
    ∃ w' cont', MessageCache.removeAll C is w = (.ok true, w') ∧ Related C pw w' (is.foldl Store.delete a) cont' ∧
      Roomy (m + is.length * (directorySize l n + 1)) w' := by
  induction is generalizing w a cont m with
  | nil => exact ⟨w, cont, rfl, h, hw.mono (Nat.le_add_right _ _)⟩
  | cons id is ih =>
    rw [List.length_cons, Nat.succ_mul] at hm ⊢
    obtain ⟨w₁, cont₁, hw₁, h₁, hroom₁⟩ := h.remove_fits hw (hlive id List.mem_cons_self) ha (by omega)
    have hrest : ∀ i ∈ is, ((a.delete id).record i).isSome = true := by
      intro i hi
      have hne : i ≠ id := fun he => (List.nodup_cons.mp hnodup).1 (he ▸ hi)
      simp only [Store.delete, Function.update_of_ne hne]
      exact hlive i (List.mem_cons_of_mem _ hi)
    obtain ⟨w₂, cont₂, hw₂, h₂, hroom₂⟩ := ih h₁ hroom₁ (ha.delete id) hrest (List.nodup_cons.mp hnodup).2 (by omega)
    rw [MessageCache.removeAll, bind_ok hw₁, if_pos rfl]
    exact ⟨w₂, cont₂, hw₂, h₂, hroom₂.mono (by omega)⟩

lemma Related.clear_fits (h : Related C pw w a cont) (hw : Roomy m w) (ha : a.Small l n)
    (hmsg : a.OnlyMessages) (hm : m + n * (directorySize l n + 1) ≤ maxBlocks) :
    ∃ w' cont', MessageCache.clear C w = (.ok true, w') ∧ Related C pw w' .empty cont' ∧
      Roomy (m + n * (directorySize l n + 1)) w' := by
  have hlen := h.length_ids_le ha MessageCache.kMessageTag
  obtain ⟨hsorted, hmem⟩ := h.agrees.ids MessageCache.kMessageTag
  have hgrow := Nat.mul_le_mul_right (directorySize l n + 1) hlen
  have hlive : ∀ id ∈ ids w.storage MessageCache.kMessageTag, (a.record id).isSome = true := fun id hi => by
    obtain ⟨data, hd⟩ := (hmem id).mp hi
    rw [hd]
    rfl
  obtain ⟨w₁, cont₁, hw₁, h₁, hroom₁⟩ := h.removeAll_fits hw ha hlive (hsorted.imp ne_of_lt) (by omega)
  obtain ⟨w₂, hw₂, h₂, hroom₂⟩ := h₁.sync_fits hroom₁
  have hrun : MessageCache.clear C w = (.ok true, w₂) := by
    rw [MessageCache.clear, get_bind_apply, bind_ok hw₁, if_pos rfl, bind_ok hw₂, pure_apply]
  obtain ⟨w₃, cont₃, hw₃, h₃⟩ | ⟨e, w₃, hw₃, -⟩ := h.clear hmsg
  · obtain rfl := (Prod.mk.inj (hrun.symm.trans hw₃)).2
    exact ⟨w₂, cont₃, hrun, h₃, hroom₂.mono (by omega)⟩
  · cases (Prod.mk.inj (hrun.symm.trans hw₃)).1

end

end ChatDesktop.Storage
