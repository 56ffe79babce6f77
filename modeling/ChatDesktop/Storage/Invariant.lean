import ChatDesktop.Storage.TagIndex

namespace ChatDesktop.Storage

open Library Library.Program Library.LinkedChain LocalStorage

def Dense (d : Disk) (m : ℕ) : Prop := ∀ i, 0 < i → i ≤ m → ∃ b, d i = some b

structure IsDirectory (heads : Heads) (dirId : ℕ) : Prop where
  tag_iff : ∀ h hi, heads.find? h = some hi → (hi.tag = kDirTag ↔ h = dirId)
  mem : dirId ≠ 0 → dirId ∈ heads.keys

def directoryOf (d : Disk) (cont : ℕ → List ℕ) (dirId : ℕ) : Except Error Roots :=
  if dirId = 0 then .ok .empty else parseDirectory (content d (dirId :: cont dirId))

/-- The disk holds the records the object knows, and nothing else but free blocks. -/
structure Sound (C : Crypto) (pw : Bytes) (w : World) (cont : ℕ → List ℕ) : Prop where
  opened : w.storage.opened = true
  formatted : Formatted C pw w w.storage.nblocks
  inRange : w.storage.nblocks * w.storage.bs + w.storage.bs ≤ maxOffset
  dense : Dense (blocks C w) w.storage.nblocks
  layout : Layout (blocks C w) w.storage.head w.storage.free w.storage.nblocks cont
  tags : TagIndexed w.storage.byTag w.storage.head

structure Wf (C : Crypto) (pw : Bytes) (w : World) (cont : ℕ → List ℕ) : Prop
    extends Sound C pw w cont where
  directory : IsDirectory w.storage.head w.storage.dirId
  clean : w.storage.dirDirty = false

def Saved (C : Crypto) (w : World) (cont : ℕ → List ℕ) : Prop :=
  directoryOf (blocks C w) cont w.storage.dirId = .ok w.storage.roots

lemma hasRecord_iff {s : LocalStorage} {id : ℕ} :
    hasRecord s id = true ↔ id ≠ s.dirId ∧ id ∈ s.head.keys := by
  simp only [hasRecord, Bool.and_eq_true, Bool.not_eq_true', decide_eq_false_iff_not,
    SortedMap.contains_iff]

lemma IsDirectory.empty : IsDirectory .empty 0 := ⟨fun _ _ h => by simp at h, fun h => absurd rfl h⟩

section

variable {C : Crypto} {pw : Bytes} {w : World} {heads : Heads} {free : List ℕ} {cont : ℕ → List ℕ}
  {n h : ℕ}

lemma getLocked_ok (hl : Layout (blocks C w) w.storage.head free w.storage.nblocks cont)
    (hh : h ∈ w.storage.head.keys) :
    getLocked C w h = .ok (some (content (blocks C w) (h :: cont h))) := by
  obtain ⟨hi, hfind⟩ := SortedMap.mem_keys.mp hh
  obtain ⟨b, hb, ht, -, hnext⟩ := hl.head h hi hfind
  have hr := readChain_head (w := w) hb ht (hnext ▸ hl.linked h hi hfind) (hl.head_not_mem_cont hh)
    (hl.length_cont hh)
  simp only [getLocked, hfind, hr, bind, Except.bind]

lemma getLocked_none (hh : h ∉ w.storage.head.keys) : getLocked C w h = .ok none := by
  rw [getLocked, SortedMap.not_mem_keys.mp hh]

lemma oldContinuations_ok {hi : HeadInfo}
    (hl : Layout (blocks C w) w.storage.head free w.storage.nblocks cont)
    (hh : w.storage.head.find? h = some hi) : oldContinuations C w hi = .ok (cont h) :=
  followChain_cont (hl.linked h hi hh)
    (Nat.le_succ_of_le (hl.length_cont (SortedMap.mem_keys_of_find? hh)))

lemma Layout.zero_not_mem {d : Disk} (hl : Layout d heads free n cont) : 0 ∉ heads.keys :=
  fun hh => absurd (hl.chain_range (head_mem_chainBlocks hh)).1 (lt_irrefl 0)

end

end ChatDesktop.Storage
