import ChatDesktop.Storage.Directory

namespace ChatDesktop.Storage

open Library LocalStorage

namespace DirectoryCursor

inductive Stop
  | thrown (e : Error)
  | outside
  deriving DecidableEq

/-- The pointer `p`, as an offset into the record, and `left`. -/
structure Cursor where
  p : ℕ
  left : ℕ
  deriving DecidableEq

-- `std::size_t` has 64 bits: sums wrap above, differences below.
def sizeAdd (a b : ℕ) : ℕ := (a + b) % 2 ^ 64
def sizeSub (a b : ℕ) : ℕ := if b ≤ a then a - b else a + 2 ^ 64 - b

def Cursor.skip (c : Cursor) (k : ℕ) : Cursor := ⟨c.p + k, sizeSub c.left k⟩

def Cursor.need (c : Cursor) (k : ℕ) : Except Stop Unit :=
  if c.left < k then .error (.thrown corruptDirectory) else .ok ()

def byteAt (raw : Bytes) (i : ℕ) : Except Stop UInt8 :=
  match raw[i]? with
  | some b => .ok b
  | none => .error .outside

def bytesAt (raw : Bytes) (p n : ℕ) : Except Stop Bytes := (List.range' p n).mapM (byteAt raw)

def r32At (raw : Bytes) (p : ℕ) : Except Stop ℕ := do
  let bs ← bytesAt raw p 4
  pure (LittleEndian.value bs)

def r64At (raw : Bytes) (p : ℕ) : Except Stop ℕ := do
  let bs ← bytesAt raw p 8
  pure (LittleEndian.value bs)

def loadEntries (raw : Bytes) : ℕ → Cursor → Roots → Except Stop Roots
  | 0, _, roots => .ok roots
  | n + 1, c, roots => do
    c.need 4
    let len ← r32At raw c.p
    let c := c.skip 4
    c.need (sizeAdd len 8)
    let name ← bytesAt raw c.p len
    let c := c.skip len
    let id ← r64At raw c.p
    loadEntries raw n (c.skip 8) (roots.insert name id)

def loadRecord (raw : Bytes) : Except Stop Roots := do
  let c : Cursor := ⟨0, raw.length⟩
  c.need 4
  let count ← r32At raw c.p
  loadEntries raw count (c.skip 4) .empty

section

variable {raw : Bytes}

lemma bytesAt_of_le {p n : ℕ} (h : p + n ≤ raw.length) : bytesAt raw p n = .ok ((raw.drop p).take n) := by
  induction n generalizing p with
  | zero => rfl
  | succ n ih =>
    have hp : p < raw.length := by omega
    have hb : byteAt raw p = .ok raw[p] := by rw [byteAt, List.getElem?_eq_getElem hp]
    have hrest := ih (p := p + 1) (by omega)
    rw [bytesAt] at hrest
    rw [bytesAt, List.range'_succ, List.mapM_cons, hb, hrest, List.drop_eq_getElem_cons hp, List.take_succ_cons]
    rfl

lemma r32At_of_le {p : ℕ} (h : p + 4 ≤ raw.length) : r32At raw p = .ok (r32 (raw.drop p)) := by
  rw [r32At, bytesAt_of_le h]
  rfl

lemma r64At_of_le {p : ℕ} (h : p + 8 ≤ raw.length) : r64At raw p = .ok (r64 (raw.drop p)) := by
  rw [r64At, bytesAt_of_le h]
  rfl

def Cursor.Exact (raw : Bytes) (c : Cursor) : Prop := c.p + c.left = raw.length

variable {c : Cursor}

lemma Cursor.Exact.skip (h : c.Exact raw) {k : ℕ} (hk : k ≤ c.left) : (c.skip k).Exact raw := by
  have hs : sizeSub c.left k = c.left - k := if_pos hk
  change c.p + k + sizeSub c.left k = raw.length
  change c.p + c.left = raw.length at h
  omega

lemma Cursor.left_skip {k : ℕ} (hk : k ≤ c.left) : (c.skip k).left = c.left - k := if_pos hk

lemma Cursor.need_of_le {k : ℕ} (hk : k ≤ c.left) : c.need k = .ok () := if_neg (by omega)

lemma Cursor.need_of_lt {k : ℕ} (hk : c.left < k) : c.need k = .error (.thrown corruptDirectory) := if_pos hk

lemma sizeAdd_eight {len : ℕ} (h : len < 2 ^ 32) : sizeAdd len 8 = len + 8 := Nat.mod_eq_of_lt (by omega)

lemma loadEntries_eq (n : ℕ) (roots : Roots) (h : c.Exact raw) :
    loadEntries raw n c roots = (parseEntries n (raw.drop c.p) roots).mapError .thrown := by
  induction n generalizing c roots with
  | zero => rfl
  | succ n ih =>
    have hlen : (raw.drop c.p).length = c.left := by
      rw [List.length_drop]
      unfold Cursor.Exact at h
      omega
    rw [loadEntries, parseEntries, hlen]
    by_cases h4 : c.left < 4
    · rw [Cursor.need_of_lt h4, if_pos h4]
      rfl
    · have hr : r32At raw c.p = .ok (r32 (raw.drop c.p)) := r32At_of_le (by unfold Cursor.Exact at h; omega)
      have h1 : (c.skip 4).Exact raw := h.skip (by omega)
      have hl1 : (c.skip 4).left = c.left - 4 := Cursor.left_skip (by omega)
      have hp1 : (c.skip 4).p = c.p + 4 := rfl
      rw [Cursor.need_of_le (by omega), if_neg h4, hr]
      have hlen32 := r32_lt (raw.drop c.p)
      generalize r32 (raw.drop c.p) = len at hlen32
      change (do
        (c.skip 4).need (sizeAdd len 8)
        let name ← bytesAt raw (c.skip 4).p len
        let id ← r64At raw ((c.skip 4).skip len).p
        loadEntries raw n (((c.skip 4).skip len).skip 8) (roots.insert name id)) = _
      simp only [List.drop_drop, List.length_drop, sizeAdd_eight hlen32]
      have hrem : raw.length - (c.p + 4) = (c.skip 4).left := by
        unfold Cursor.Exact at h1
        omega
      rw [hrem]
      by_cases h8 : (c.skip 4).left < len + 8
      · rw [Cursor.need_of_lt h8, if_pos h8]
        rfl
      · have h2 : ((c.skip 4).skip len).Exact raw := h1.skip (by omega)
        have hl2 : ((c.skip 4).skip len).left = (c.skip 4).left - len := Cursor.left_skip (by omega)
        have hp2 : ((c.skip 4).skip len).p = c.p + (4 + len) := by
          change c.p + 4 + len = _
          omega
        have hb : bytesAt raw (c.skip 4).p len = .ok ((raw.drop (c.skip 4).p).take len) :=
          bytesAt_of_le (by unfold Cursor.Exact at h1; omega)
        have hid : r64At raw ((c.skip 4).skip len).p = .ok (r64 (raw.drop ((c.skip 4).skip len).p)) :=
          r64At_of_le (by unfold Cursor.Exact at h2; omega)
        have hp3 : (((c.skip 4).skip len).skip 8).p = c.p + (4 + (len + 8)) := by
          change c.p + 4 + len + 8 = _
          omega
        have hrec := ih (c := ((c.skip 4).skip len).skip 8)
          (roots.insert ((raw.drop (c.skip 4).p).take len) (r64 (raw.drop ((c.skip 4).skip len).p)))
          (h2.skip (by omega))
        rw [Cursor.need_of_le (by omega), if_neg h8, hb, hid]
        change loadEntries raw n _ _ = _
        rw [hrec, hp2, hp3, hp1]
        simp only [Nat.add_assoc]

lemma loadRecord_eq (raw : Bytes) : loadRecord raw = (parseDirectory raw).mapError .thrown := by
  rw [loadRecord, parseDirectory]
  by_cases h4 : raw.length < 4
  · rw [Cursor.need_of_lt h4, if_pos h4]
    rfl
  · have hc : (⟨0, raw.length⟩ : Cursor).Exact raw := Nat.zero_add _
    have hr : r32At raw 0 = .ok (r32 raw) := r32At_of_le (by omega)
    rw [Cursor.need_of_le (by change 4 ≤ raw.length; omega), if_neg h4]
    change (do
      let count ← r32At raw 0
      loadEntries raw count ((⟨0, raw.length⟩ : Cursor).skip 4) .empty) = _
    rw [hr]
    exact loadEntries_eq _ _ (hc.skip (k := 4) (by change 4 ≤ raw.length; omega))

lemma loadRecord_inside (raw : Bytes) : loadRecord raw ≠ .error .outside := by
  rw [loadRecord_eq]
  cases parseDirectory raw with
  | ok roots => exact nofun
  | error e => exact nofun

end

end DirectoryCursor

open DirectoryCursor

/-- What is written for a directory that fits reads back, and no record, however hostile, is read
past its end. -/
theorem directory_reads_back_inside :
    (∀ roots : Roots, Storable roots → loadRecord (directoryBytes roots) = .ok roots) ∧
      ∀ raw : Bytes, (∃ roots, loadRecord raw = .ok roots) ∨ ∃ e, loadRecord raw = .error (.thrown e) := by
  refine ⟨fun roots h => ?_, fun raw => ?_⟩
  · rw [loadRecord_eq, parseDirectory_directoryBytes h]
    rfl
  · cases h : loadRecord raw with
    | ok roots => exact .inl ⟨roots, rfl⟩
    | error e =>
      cases e with
      | thrown e => exact .inr ⟨e, rfl⟩
      | outside => exact (loadRecord_inside raw h).elim

def sampleRoots : Roots := (SortedMap.empty.insert [0x68, 0x6F, 0x6D, 0x65] 3).insert [] 1

theorem directory_reads_back_sample : loadRecord (directoryBytes sampleRoots) = .ok sampleRoots := by
  refine directory_reads_back_inside.1 sampleRoots ⟨by decide, fun name id h => ?_⟩
  have hm : (name, id) ∈ [(([] : Bytes), 1), ([0x68, 0x6F, 0x6D, 0x65], 3)] := SortedMap.find?_eq_some.mp h
  simp only [List.mem_cons, List.not_mem_nil, or_false, Prod.mk.injEq] at hm
  obtain ⟨rfl, rfl⟩ | ⟨rfl, rfl⟩ := hm <;> decide

end ChatDesktop.Storage
