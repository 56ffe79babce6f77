import ChatDesktop.Storage.LocalStorage

namespace ChatDesktop.Storage

open Library Library.Program LocalStorage

@[simp] lemma World.put_storage (w : World) (s : LocalStorage) : (w.put s).storage = s := rfl

abbrev Disk := ℕ → Option Blk

def blocks (C : Crypto) (w : World) : Disk :=
  fun id => if id = 0 then none else (readBlock C w id).toOption

lemma blocks_zero (C : Crypto) (w : World) : blocks C w 0 = none := rfl

lemma readBlock_eq {C : Crypto} {w : World} {id : ℕ} {b : Blk} (h : blocks C w id = some b) :
    readBlock C w id = .ok b := by
  unfold blocks at h
  split_ifs at h
  cases hr : readBlock C w id with
  | error e => simp [hr, Except.toOption] at h
  | ok b' =>
    simp only [hr, Except.toOption, Option.some.injEq] at h
    rw [h]

lemma blocks_congr {C : Crypto} {w w' : World} (hbs : w'.storage.bs = w.storage.bs)
    (hplain : w'.storage.plain = w.storage.plain) (hcap : w'.storage.cap = w.storage.cap)
    (hkey : w'.storage.key = w.storage.key) (hfile : w'.file = w.file) :
    blocks C w' = blocks C w := by
  funext id
  simp only [blocks, readBlock, blockOffset, hbs, hplain, hcap, hkey, hfile]

/-- A block fit to be written into a payload of `cap` bytes. -/
structure Fits (cap : ℕ) (b : Blk) : Prop where
  type_le : b.type ≤ 2
  next_lt : b.next < 2 ^ 64
  length_le : b.data.length ≤ cap

structure Geometry (s : LocalStorage) : Prop where
  bs_ge : 128 ≤ s.bs
  bs_le : s.bs ≤ 2 ^ 20
  plain_eq : s.plain = s.bs - kNonce - kTag
  cap_eq : s.cap = s.bs - kNonce - kTag - kBlkHdr

lemma Geometry.cap_pos {s : LocalStorage} (h : Geometry s) : 0 < s.cap := by
  have hb := h.bs_ge
  rw [h.cap_eq]
  simp only [kNonce, kTag, kBlkHdr]
  omega

def Header (C : Crypto) (pw : Bytes) (s : LocalStorage) (file : Bytes) : Prop :=
  ∃ salt nonce : Bytes, salt.length = kSalt ∧ nonce.length = kNonce ∧ s.key = C.deriveKey pw salt ∧
    ByteFile.readAt file 0 kHdr = some (headerAad salt s.bs ++
      (nonce ++ C.aeadEncrypt s.key nonce (headerAad salt s.bs) kCheck))

/-- The file has a header and room for `m` blocks. -/
structure Formatted (C : Crypto) (pw : Bytes) (w : World) (m : ℕ) : Prop where
  geometry : Geometry w.storage
  header : Header C pw w.storage w.file
  size : w.file.length = w.storage.bs + m * w.storage.bs

lemma Formatted.congr {C : Crypto} {pw : Bytes} {w w' : World} {m : ℕ} (h : Formatted C pw w m)
    (hbs : w'.storage.bs = w.storage.bs) (hplain : w'.storage.plain = w.storage.plain)
    (hcap : w'.storage.cap = w.storage.cap) (hkey : w'.storage.key = w.storage.key)
    (hfile : w'.file = w.file) : Formatted C pw w' m := by
  obtain ⟨⟨h1, h2, h3, h4⟩, h5, h6⟩ := h
  refine ⟨⟨?_, ?_, ?_, ?_⟩, ?_, ?_⟩ <;> simp only [Header, hbs, hplain, hcap, hkey, hfile] <;> assumption

/-! ### The byte layout of a block -/

@[simp] lemma length_w32 (v : ℕ) : (w32 v).length = 4 := LittleEndian.length_bytes 4 v

@[simp] lemma length_w64 (v : ℕ) : (w64 v).length = 8 := LittleEndian.length_bytes 8 v

lemma r32_w32_append (v : ℕ) (p : Bytes) : r32 (w32 v ++ p) = v % 2 ^ 32 := by
  rw [r32, List.take_left' (length_w32 v), w32, LittleEndian.value_bytes]
  norm_num

lemma r64_w64_append (v : ℕ) (p : Bytes) : r64 (w64 v ++ p) = v % 2 ^ 64 := by
  rw [r64, List.take_left' (length_w64 v), w64, LittleEndian.value_bytes]
  norm_num

lemma length_plainBlock {size : ℕ} {b : Blk} (h : kBlkHdr + b.data.length ≤ size) :
    (plainBlock size b).length = size := by
  simp only [plainBlock, List.length_append, List.length_cons, List.length_nil, length_w32,
    length_w64, List.length_replicate, kBlkHdr] at *
  omega

lemma drop_append_of_length {α : Type} {xs ys : List α} {n k : ℕ} (h : xs.length = n) :
    (xs ++ ys).drop (n + k) = ys.drop k := by
  rw [← h, List.drop_append]
  simp

lemma plainBlock_used (size : ℕ) {b : Blk} (hl : b.data.length < 2 ^ 32) :
    r32 ((plainBlock size b).drop 13) = b.data.length := by
  have hd : (plainBlock size b).drop 13 = w32 b.data.length ++
      (b.data ++ List.replicate (size - kBlkHdr - b.data.length) 0) := by
    rw [plainBlock, show 13 = 1 + (4 + (8 + 0)) from rfl, drop_append_of_length (n := 1) rfl,
      drop_append_of_length (length_w32 _), drop_append_of_length (length_w64 _), List.drop_zero]
  rw [hd, r32_w32_append, Nat.mod_eq_of_lt hl]

lemma parseBlock_plainBlock (size : ℕ) {b : Blk} (hn : b.next < 2 ^ 64)
    (hl : b.data.length < 2 ^ 32) : parseBlock (plainBlock size b) = b := by
  have htag : r32 ((plainBlock size b).drop 1) = b.tag.toNat := by
    rw [plainBlock, show 1 = 1 + 0 from rfl, drop_append_of_length (n := 1) rfl, List.drop_zero,
      r32_w32_append, Nat.mod_eq_of_lt b.tag.toNat_lt]
  have hnext : r64 ((plainBlock size b).drop 5) = b.next := by
    rw [plainBlock, show 5 = 1 + (4 + 0) from rfl, drop_append_of_length (n := 1) rfl,
      drop_append_of_length (length_w32 _), List.drop_zero, r64_w64_append, Nat.mod_eq_of_lt hn]
  have hdata : (plainBlock size b).drop kBlkHdr =
      b.data ++ List.replicate (size - kBlkHdr - b.data.length) 0 := by
    rw [plainBlock, show kBlkHdr = 1 + (4 + (8 + (4 + 0))) from rfl, drop_append_of_length (n := 1) rfl,
      drop_append_of_length (length_w32 _), drop_append_of_length (length_w64 _),
      drop_append_of_length (length_w32 _), List.drop_zero]
  cases b with
  | mk type tag next data =>
    simp only [parseBlock, htag, hnext, hdata, plainBlock_used size hl, UInt32.ofNat_toNat,
      List.take_left' rfl]
    rfl

/-! ### Reading what was written -/

section Write

variable {C : Crypto} {pw : Bytes} {w : World} {s : LocalStorage} {m id : ℕ} {b : Blk}

lemma Geometry.fits_size (h : Geometry s) (hb : Fits s.cap b) : kBlkHdr + b.data.length ≤ s.plain := by
  have h1 := h.bs_ge
  have h2 := hb.length_le
  rw [h.cap_eq] at h2
  rw [h.plain_eq]
  simp only [kNonce, kTag, kBlkHdr] at *
  omega

lemma Geometry.fits_length (h : Geometry s) (hb : Fits s.cap b) : b.data.length < 2 ^ 32 := by
  have h1 := h.bs_le
  have h2 := hb.length_le
  rw [h.cap_eq] at h2
  omega

def sealBlock (C : Crypto) (s : LocalStorage) (nonce : Bytes) (id : ℕ) (b : Blk) : Bytes :=
  nonce ++ C.aeadEncrypt s.key nonce (w64 id) (plainBlock s.plain b)

lemma length_sealBlock (h : Geometry s) (hb : Fits s.cap b) {nonce : Bytes}
    (hn : nonce.length = kNonce) (id : ℕ) : (sealBlock C s nonce id b).length = s.bs := by
  have h1 := h.bs_ge
  rw [sealBlock, List.length_append, hn, C.length_encrypt, length_plainBlock (h.fits_size hb),
    h.plain_eq]
  simp only [kNonce, kTag]
  omega

lemma readBlock_of_sealBlock (h : Geometry w.storage) (hb : Fits w.storage.cap b) {nonce : Bytes}
    (hn : nonce.length = kNonce)
    (hr : ByteFile.readAt w.file (blockOffset w.storage id) w.storage.bs =
      some (sealBlock C w.storage nonce id b)) : readBlock C w id = .ok b := by
  have hp := parseBlock_plainBlock w.storage.plain hb.next_lt (h.fits_length hb)
  have hu := plainBlock_used w.storage.plain (h.fits_length hb)
  have hc : (C.aeadEncrypt w.storage.key nonce (w64 id) (plainBlock w.storage.plain b)).length =
      w.storage.plain + kTag := by rw [C.length_encrypt, length_plainBlock (h.fits_size hb)]
  have hle : ¬(2 < b.type ∨ w.storage.cap < b.data.length) :=
    not_or.mpr ⟨not_lt.mpr hb.type_le, not_lt.mpr hb.length_le⟩
  simp only [readBlock, preadFull, hr, sealBlock, bind, Except.bind, List.take_left' hn,
    List.drop_left' hn, List.take_of_length_le hc.le, C.decrypt_encrypt, hp, hu, if_neg hle]

lemma readBlock_of_zero {n : ℕ} (hr : ByteFile.readAt w.file (blockOffset w.storage id) w.storage.bs =
    some (List.replicate n 0)) : ∃ e, readBlock C w id = .error e := by
  simp only [readBlock, preadFull, hr, bind, Except.bind, List.take_replicate,
    List.drop_replicate, C.decrypt_zero]
  exact ⟨_, rfl⟩

lemma readBlock_of_end (hr : w.file.length < blockOffset w.storage id + w.storage.bs) :
    ∃ e, readBlock C w id = .error e := by
  simp only [readBlock, preadFull, ByteFile.readAt_isNone hr, bind, Except.bind]
  exact ⟨_, rfl⟩

lemma readBlock_congr {w' : World} (hs : w'.storage = w.storage)
    (hr : ByteFile.readAt w'.file (blockOffset w.storage id) w.storage.bs =
      ByteFile.readAt w.file (blockOffset w.storage id) w.storage.bs) :
    readBlock C w' id = readBlock C w id := by
  simp only [readBlock, preadFull, hs, hr]

lemma blockOffset_pos (s : LocalStorage) {id : ℕ} (h : 0 < id) : blockOffset s id = id * s.bs := by
  obtain ⟨k, rfl⟩ : ∃ k, id = k + 1 := ⟨id - 1, by omega⟩
  simp only [blockOffset, Nat.add_sub_cancel]
  ring

lemma blocks_eq_none (h : 0 < id) (he : ∃ e, readBlock C w id = .error e) : blocks C w id = none := by
  obtain ⟨e, he⟩ := he
  rw [blocks, if_neg (by omega), he]
  rfl

lemma Formatted.blocks_end (h : Formatted C pw w m) {j : ℕ} (hj : m < j) : blocks C w j = none := by
  have hpos : 0 < w.storage.bs := by have := h.geometry.bs_ge; omega
  refine blocks_eq_none (by omega) (readBlock_of_end ?_)
  rw [h.size, blockOffset_pos _ (by omega)]
  have : (m + 1) * w.storage.bs ≤ j * w.storage.bs := Nat.mul_le_mul_right _ hj
  have he : (m + 1) * w.storage.bs = w.storage.bs + m * w.storage.bs := by ring
  omega

def World.written (C : Crypto) (w : World) (id : ℕ) (b : Blk) (faults : Option ℕ) : World :=
  { w with
    file := ByteFile.writeAt 0 w.file (blockOffset w.storage id)
      (sealBlock C w.storage (C.random w.draws kNonce) id b)
    draws := w.draws + 1
    faults := faults }

@[simp] lemma World.written_storage (faults : Option ℕ) :
    (w.written C id b faults).storage = w.storage := rfl

lemma mul_separated {i j k : ℕ} (h : i ≠ j) : i * k + k ≤ j * k ∨ j * k + k ≤ i * k := by
  rcases Nat.lt_or_gt_of_ne h with hlt | hgt
  · left
    calc i * k + k = (i + 1) * k := by ring
      _ ≤ j * k := Nat.mul_le_mul_right _ hlt
  · right
    calc j * k + k = (j + 1) * k := by ring
      _ ≤ i * k := Nat.mul_le_mul_right _ hgt

lemma blocks_written (h : Formatted C pw w m) (hid : 0 < id) (hb : Fits w.storage.cap b)
    (faults : Option ℕ) :
    blocks C (w.written C id b faults) = Function.update (blocks C w) id (some b) := by
  have hn := C.length_random w.draws kNonce
  have hlen := length_sealBlock (C := C) h.geometry hb hn id
  have hoff : blockOffset w.storage id = id * w.storage.bs := blockOffset_pos _ hid
  funext j
  by_cases hj : j = id
  · subst hj
    have hr := ByteFile.readAt_writeAt_self 0 w.file (blockOffset w.storage j)
      (sealBlock C w.storage (C.random w.draws kNonce) j b)
    rw [hlen] at hr
    rw [Function.update_self, blocks, if_neg (by omega),
      readBlock_of_sealBlock (w := w.written C j b faults) h.geometry hb hn hr]
    rfl
  rw [Function.update_of_ne hj]
  by_cases hj0 : j = 0
  · rw [hj0]
    rfl
  have hoj : blockOffset w.storage j = j * w.storage.bs := blockOffset_pos _ (by omega)
  by_cases hm : j ≤ m
  · -- a block inside the old file keeps its bytes
    have hin : j * w.storage.bs + w.storage.bs ≤ w.file.length := by
      rw [h.size]
      have : j * w.storage.bs ≤ m * w.storage.bs := Nat.mul_le_mul_right _ hm
      omega
    have hr : readBlock C (w.written C id b faults) j = readBlock C w j := by
      refine readBlock_congr rfl (ByteFile.readAt_writeAt_of_disjoint 0 (by rw [hoj]; exact hin) ?_)
      rw [hoj, hlen, hoff]
      exact mul_separated hj
    rw [blocks, blocks, if_neg hj0, if_neg hj0, hr]
  · -- past the old end there is a gap of zero bytes, or still nothing
    rw [h.blocks_end (by omega)]
    have hend : w.file.length ≤ j * w.storage.bs := by
      rw [h.size]
      have : (m + 1) * w.storage.bs ≤ j * w.storage.bs := Nat.mul_le_mul_right _ (by omega)
      have he : (m + 1) * w.storage.bs = w.storage.bs + m * w.storage.bs := by ring
      omega
    rcases mul_separated (k := w.storage.bs) hj with hlt | hgt
    · refine blocks_eq_none (by omega) (readBlock_of_zero (n := w.storage.bs) ?_)
      exact ByteFile.readAt_writeAt_gap 0 (by rw [World.written_storage, hoj]; exact hend)
        (by rw [World.written_storage, hoj, hoff]; exact hlt)
    · refine blocks_eq_none (by omega) (readBlock_of_end ?_)
      have hpos := h.geometry.bs_ge
      rw [World.written_storage, hoj, World.written, ByteFile.length_writeAt, hlen, hoff]
      omega

lemma formatted_written (h : Formatted C pw w m) (hid : 0 < id) (hb : Fits w.storage.cap b)
    (faults : Option ℕ) : Formatted C pw (w.written C id b faults) (max m id) := by
  have hn := C.length_random w.draws kNonce
  have hlen := length_sealBlock (C := C) h.geometry hb hn id
  have hoff : blockOffset w.storage id = id * w.storage.bs := blockOffset_pos _ hid
  have hge := h.geometry.bs_ge
  refine ⟨h.geometry, ?_, ?_⟩
  · obtain ⟨salt, nonce, hs, hnonce, hk, hr⟩ := h.header
    refine ⟨salt, nonce, hs, hnonce, hk, ?_⟩
    rw [World.written, ByteFile.readAt_writeAt_of_disjoint 0 (ByteFile.readAt_eq_some.mp hr).1]
    · exact hr
    · left
      have : 1 * w.storage.bs ≤ id * w.storage.bs := Nat.mul_le_mul_right _ hid
      rw [hoff]
      simp only [kHdr, kHdrAad, kSalt, kNonce, kTag]
      omega
  · rw [World.written_storage, World.written, ByteFile.length_writeAt, hlen, hoff, h.size]
    rcases le_total m id with hle | hle
    · rw [max_eq_right hle]
      have : m * w.storage.bs ≤ id * w.storage.bs := Nat.mul_le_mul_right _ hle
      omega
    · rw [max_eq_left hle]
      have : id * w.storage.bs ≤ m * w.storage.bs := Nat.mul_le_mul_right _ hle
      omega

end Write

end ChatDesktop.Storage
