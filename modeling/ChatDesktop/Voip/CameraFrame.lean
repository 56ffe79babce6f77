import Mathlib.Data.List.Basic
import Mathlib.Tactic.Common
import Mathlib.Tactic.Linarith
import Mathlib.Tactic.Ring

namespace ChatDesktop.Voip.Camera

/-- The memory around a plane of a mapped frame; `bits` counts from the start of the plane. -/
structure Plane where
  bytesPerLine : Int32
  mappedBytes : Int32
  bits : ℤ → UInt8

structure QVideoFrame where
  isValid : Bool := true
  planes : List Plane := []
  rotation : ℕ := 0
  startTime : Int64 := -1
  endTime : Int64 := -1

inductive Access
  | product (exact : ℤ)
  | read (plane : ℕ) (index : ℤ)
  | write (plane : ℕ) (index : ℤ)
  deriving DecidableEq

structure Copying where
  bits : ℤ → UInt8
  accesses : List Access := []

namespace Copying

def indices (start : ℤ) (size : ℕ) : List ℤ := (List.range size).map (fun j : ℕ => start + j)

def memset (plane : ℕ) (size : ℕ) (s : Copying) : Copying where
  bits i := if 0 ≤ i ∧ i < size then 0 else s.bits i
  accesses := s.accesses ++ (indices 0 size).map (.write plane)

def memcpy (plane : ℕ) (target start : ℤ) (source : ℤ → UInt8) (size : ℕ) (s : Copying) : Copying where
  bits i := if target ≤ i ∧ i < target + size then source (start + (i - target)) else s.bits i
  accesses := s.accesses ++ ((indices start size).map (.read plane) ++ (indices target size).map (.write plane))

/-- A product of two `int`s wraps around, though the language leaves it open. -/
def product (a b : Int32) (s : Copying) : Copying :=
  { s with accesses := s.accesses ++ [.product (a.toInt * b.toInt)] }

def copyRow (plane : ℕ) (source target : Plane) (bytes : Int32) (s : Copying) (row : ℕ) : Copying :=
  ((s.product (.ofNat row) target.bytesPerLine).product (.ofNat row) source.bytesPerLine).memcpy plane
    (.ofNat row * target.bytesPerLine : Int32).toInt (.ofNat row * source.bytesPerLine : Int32).toInt source.bits
    bytes.toNatClampNeg

end Copying

def copyPlane (plane : ℕ) (source target : Plane) : Option Plane × List Access :=
  let sourceStride := source.bytesPerLine
  let targetStride := target.bytesPerLine
  if sourceStride ≤ 0 ∨ targetStride ≤ 0 then (none, [])
  else
    let rows := target.mappedBytes / targetStride
    let bytes := min sourceStride targetStride
    let s := Copying.product (rows - 1) sourceStride ⟨target.bits, []⟩
    if source.mappedBytes < (rows - 1) * sourceStride + bytes then (none, s.accesses)
    else
      let s := (List.range rows.toNatClampNeg).foldl (Copying.copyRow plane source target bytes)
        (s.memset plane target.mappedBytes.toNatClampNeg)
      (some { target with bits := s.bits }, s.accesses)

def copyPlanes : ℕ → List Plane → List Plane → Option (List Plane) × List Access
  | plane, source :: sources, target :: targets =>
    let copy := copyPlane plane source target
    match copy.1 with
    | none => (none, copy.2)
    | some target =>
      let rest := copyPlanes (plane + 1) sources targets
      (rest.1.map (target :: ·), copy.2 ++ rest.2)
  | _, _, _ => (some [], [])

/-- `pixels` is the new frame of the same format; a flag says whether a frame can be mapped. -/
def copyCameraFrame (mapped pixelsMapped : Bool) (frame pixels : QVideoFrame) : QVideoFrame × List Access :=
  if !frame.isValid || !mapped then ({ isValid := false }, [])
  else if !pixelsMapped then ({ isValid := false }, [])
  else if pixels.planes.length ≠ frame.planes.length then ({ isValid := false }, [])
  else
    let copy := copyPlanes 0 frame.planes pixels.planes
    match copy.1 with
    | none => ({ isValid := false }, copy.2)
    | some planes =>
      ({ pixels with
        planes := planes, rotation := frame.rotation, startTime := frame.startTime, endTime := frame.endTime }, copy.2)

/-! ### What a copy may touch -/

/-- Strides are positive, and sizes are not negative. -/
structure Plane.Sized (p : Plane) : Prop where
  stride : 0 < p.bytesPerLine.toInt
  mapped : 0 ≤ p.mappedBytes.toInt

def rowsOf (target : Plane) : ℤ := target.mappedBytes.toInt / target.bytesPerLine.toInt

def bytesOf (source target : Plane) : ℤ := min source.bytesPerLine.toInt target.bytesPerLine.toInt

def neededBytes (source target : Plane) : ℤ :=
  (rowsOf target - 1) * source.bytesPerLine.toInt + bytesOf source target

/-- An access is within an `int`, or within the mapped bytes of its plane. -/
def Access.Inside (sources targets : List Plane) : Access → Prop
  | product exact => -2 ^ 31 ≤ exact ∧ exact < 2 ^ 31
  | read plane index => ∃ source, sources[plane]? = some source ∧ 0 ≤ index ∧ index < source.mappedBytes.toInt
  | write plane index => ∃ target, targets[plane]? = some target ∧ 0 ≤ index ∧ index < target.mappedBytes.toInt

structure CopyOf (source target copy : Plane) : Prop where
  bytesPerLine : copy.bytesPerLine = target.bytesPerLine
  mappedBytes : copy.mappedBytes = target.mappedBytes
  rows : ∀ row j : ℤ, 0 ≤ row → row < rowsOf target → 0 ≤ j → j < bytesOf source target →
    copy.bits (row * target.bytesPerLine.toInt + j) = source.bits (row * source.bytesPerLine.toInt + j)
  rest : ∀ i : ℤ, 0 ≤ i → i < target.mappedBytes.toInt →
    (∀ row j : ℤ, 0 ≤ row → row < rowsOf target → 0 ≤ j → j < bytesOf source target →
      i ≠ row * target.bytesPerLine.toInt + j) → copy.bits i = 0

structure CopiesInside (frame pixels : QVideoFrame) (copy : QVideoFrame × List Access) : Prop where
  inside : ∀ access ∈ copy.2, access.Inside frame.planes pixels.planes
  copied : copy.1.isValid = true → copy.1.planes.length = pixels.planes.length ∧
    ∀ (i : ℕ) source target copied, frame.planes[i]? = some source → pixels.planes[i]? = some target →
      copy.1.planes[i]? = some copied → CopyOf source target copied

/-- The bytes needed of a plane fit an `int`, as far as the planes before it have as many as are needed of them. -/
def NeedsFit : List Plane → List Plane → Prop
  | source :: sources, target :: targets => neededBytes source target < 2 ^ 31 ∧
      (neededBytes source target ≤ source.mappedBytes.toInt → NeedsFit sources targets)
  | _, _ => True

section

variable {source target : Plane} {sources targets S T : List Plane} {plane n : ℕ} {bytes : Int32} {s : Copying}
  {access : Access}

/-! ### Sizes -/

lemma Plane.Sized.rows (h : target.Sized) :
    (target.mappedBytes / target.bytesPerLine).toInt = rowsOf target ∧ 0 ≤ rowsOf target ∧
      rowsOf target * target.bytesPerLine.toInt ≤ target.mappedBytes.toInt := by
  have hne : target.bytesPerLine ≠ -1 := by
    intro hstride
    have hpos := h.stride
    rw [hstride] at hpos
    exact absurd hpos (by decide)
  refine ⟨?_, Int.ediv_nonneg h.mapped h.stride.le, Int.ediv_mul_le _ h.stride.ne'⟩
  rw [Int32.toInt_div_of_ne_right _ _ hne, rowsOf]
  exact Int.tdiv_eq_ediv_of_nonneg h.mapped

lemma toInt_min (a b : Int32) : (min a b).toInt = min a.toInt b.toInt := by
  have hmin : min a b = if a ≤ b then a else b := rfl
  rw [hmin]
  by_cases h : a ≤ b
  · rw [if_pos h, min_eq_left (Int32.le_iff_toInt_le.mp h)]
  · have hle : b.toInt ≤ a.toInt := by
      rw [Int32.le_iff_toInt_le] at h
      omega
    rw [if_neg h, min_eq_right hle]

lemma bytesOf_bounds (hs : source.Sized) (ht : target.Sized) : 0 < bytesOf source target ∧
    bytesOf source target ≤ source.bytesPerLine.toInt ∧ bytesOf source target ≤ target.bytesPerLine.toInt :=
  ⟨lt_min hs.stride ht.stride, min_le_left _ _, min_le_right _ _⟩

lemma toInt_needed (ht : target.Sized) :
    ((target.mappedBytes / target.bytesPerLine - 1) * source.bytesPerLine +
      min source.bytesPerLine target.bytesPerLine).toInt = (neededBytes source target).bmod (2 ^ 32) := by
  rw [Int32.toInt_add, Int32.toInt_mul, Int32.toInt_sub, ht.rows.1, toInt_min]
  simp only [Int32.toInt_one, Int.bmod_mul_bmod, Int.bmod_add_bmod]
  rfl

lemma toInt_pred_rows (ht : target.Sized) :
    (target.mappedBytes / target.bytesPerLine - 1).toInt = rowsOf target - 1 := by
  obtain ⟨hrows, hnonneg, hle⟩ := ht.rows
  have hlt := (target.mappedBytes / target.bytesPerLine).toInt_lt
  rw [Int32.toInt_sub, Int32.toInt_one, hrows]
  rw [hrows] at hlt
  exact Int.bmod_eq_of_le (by omega) (by omega)

def guardProduct (source target : Plane) : ℤ := (rowsOf target - 1) * source.bytesPerLine.toInt

def cleared (plane : ℕ) (source target : Plane) : Copying :=
  (⟨target.bits, [.product (guardProduct source target)]⟩ : Copying).memset plane target.mappedBytes.toNatClampNeg

def copiedRows (plane : ℕ) (source target : Plane) (n : ℕ) : Copying :=
  (List.range n).foldl (Copying.copyRow plane source target (min source.bytesPerLine target.bytesPerLine))
    (cleared plane source target)

lemma copyPlane_cases (plane : ℕ) (hs : source.Sized) (ht : target.Sized) :
    (source.mappedBytes.toInt < (neededBytes source target).bmod (2 ^ 32) ∧
      copyPlane plane source target = (none, [.product (guardProduct source target)])) ∨
    ((neededBytes source target).bmod (2 ^ 32) ≤ source.mappedBytes.toInt ∧
      copyPlane plane source target =
        (some { target with bits := (copiedRows plane source target (rowsOf target).toNat).bits },
          (copiedRows plane source target (rowsOf target).toNat).accesses)) := by
  have hstrides : ¬(source.bytesPerLine ≤ 0 ∨ target.bytesPerLine ≤ 0) := by
    rw [Int32.le_iff_toInt_le, Int32.le_iff_toInt_le, Int32.toInt_zero]
    have := hs.stride
    have := ht.stride
    omega
  have hproduct : (target.mappedBytes / target.bytesPerLine - 1).toInt * source.bytesPerLine.toInt =
      guardProduct source target := by rw [toInt_pred_rows ht, guardProduct]
  have hrows : (target.mappedBytes / target.bytesPerLine).toNatClampNeg = (rowsOf target).toNat := by
    rw [← Int32.toNat_toInt, ht.rows.1]
  have hguard : source.mappedBytes < (target.mappedBytes / target.bytesPerLine - 1) * source.bytesPerLine +
      min source.bytesPerLine target.bytesPerLine ↔
      source.mappedBytes.toInt < (neededBytes source target).bmod (2 ^ 32) := by
    rw [Int32.lt_iff_toInt_lt, toInt_needed ht]
  rw [copyPlane, if_neg hstrides]
  dsimp only
  rw [hrows, Copying.product, hproduct]
  by_cases hroom : source.mappedBytes.toInt < (neededBytes source target).bmod (2 ^ 32)
  · rw [if_pos (hguard.mpr hroom)]
    exact .inl ⟨hroom, rfl⟩
  · rw [if_neg (fun h => hroom (hguard.mp h))]
    exact .inr ⟨not_lt.mp hroom, rfl⟩

/-! ### The accesses of a plane -/

lemma mem_indices {start i : ℤ} : i ∈ Copying.indices start n ↔ start ≤ i ∧ i < start + n := by
  rw [Copying.indices, List.mem_map]
  constructor
  · rintro ⟨j, hj, rfl⟩
    have := List.mem_range.mp hj
    omega
  · rintro ⟨hlo, hhi⟩
    exact ⟨(i - start).toNat, List.mem_range.mpr (by omega), by omega⟩

inductive RowAccess (plane : ℕ) (source target : Plane) (row : ℕ) : Access → Prop
  | targetProduct : RowAccess plane source target row (.product ((Int32.ofNat row).toInt * target.bytesPerLine.toInt))
  | sourceProduct : RowAccess plane source target row (.product ((Int32.ofNat row).toInt * source.bytesPerLine.toInt))
  | read {i : ℤ} (hlo : (.ofNat row * source.bytesPerLine : Int32).toInt ≤ i)
      (hhi : i < (.ofNat row * source.bytesPerLine : Int32).toInt + bytesOf source target) :
      RowAccess plane source target row (.read plane i)
  | write {i : ℤ} (hlo : (.ofNat row * target.bytesPerLine : Int32).toInt ≤ i)
      (hhi : i < (.ofNat row * target.bytesPerLine : Int32).toInt + bytesOf source target) :
      RowAccess plane source target row (.write plane i)

lemma mem_copyRow (hs : source.Sized) (ht : target.Sized) (row : ℕ) :
    access ∈ (s.copyRow plane source target (min source.bytesPerLine target.bytesPerLine) row).accesses ↔
      access ∈ s.accesses ∨ RowAccess plane source target row access := by
  have hbytes : ((min source.bytesPerLine target.bytesPerLine).toNatClampNeg : ℤ) = bytesOf source target := by
    rw [← Int32.toNat_toInt, toInt_min, bytesOf]
    exact Int.toNat_of_nonneg (bytesOf_bounds hs ht).1.le
  rw [Copying.copyRow, Copying.memcpy, Copying.product, Copying.product]
  simp only [List.mem_append, List.mem_singleton, List.mem_map, mem_indices, hbytes]
  constructor
  · rintro (((h | rfl) | rfl) | (⟨i, hi, rfl⟩ | ⟨i, hi, rfl⟩))
    · exact .inl h
    · exact .inr .targetProduct
    · exact .inr .sourceProduct
    · exact .inr (.read hi.1 hi.2)
    · exact .inr (.write hi.1 hi.2)
  · rintro (h | h)
    · exact .inl (.inl (.inl h))
    · cases h with
      | targetProduct => exact .inl (.inl (.inr rfl))
      | sourceProduct => exact .inl (.inr rfl)
      | read hlo hhi => exact .inr (.inl ⟨_, ⟨hlo, hhi⟩, rfl⟩)
      | write hlo hhi => exact .inr (.inr ⟨_, ⟨hlo, hhi⟩, rfl⟩)

lemma mem_copiedRows (hs : source.Sized) (ht : target.Sized) :
    access ∈ (copiedRows plane source target n).accesses ↔
      access ∈ (cleared plane source target).accesses ∨ ∃ row < n, RowAccess plane source target row access := by
  induction n with
  | zero => simp [copiedRows]
  | succ n ih =>
    have hlast : copiedRows plane source target (n + 1) = (copiedRows plane source target n).copyRow plane source target
        (min source.bytesPerLine target.bytesPerLine) n := by
      rw [copiedRows, List.range_succ, List.foldl_append]
      rfl
    rw [hlast, mem_copyRow hs ht, ih, or_assoc]
    refine or_congr_right ⟨?_, ?_⟩
    · rintro (⟨row, hrow, h⟩ | h)
      · exact ⟨row, Nat.lt_succ_of_lt hrow, h⟩
      · exact ⟨n, Nat.lt_succ_self n, h⟩
    · rintro ⟨row, hrow, h⟩
      obtain hrow | rfl := Nat.lt_succ_iff_lt_or_eq.mp hrow
      · exact .inl ⟨row, hrow, h⟩
      · exact .inr h

lemma mem_cleared (ht : target.Sized) : access ∈ (cleared plane source target).accesses ↔
    access = .product (guardProduct source target) ∨
      ∃ i : ℤ, (0 ≤ i ∧ i < target.mappedBytes.toInt) ∧ access = .write plane i := by
  have hsize : (target.mappedBytes.toNatClampNeg : ℤ) = target.mappedBytes.toInt := by
    rw [← Int32.toNat_toInt]
    exact Int.toNat_of_nonneg ht.mapped
  rw [cleared, Copying.memset]
  simp only [List.mem_append, List.mem_singleton, List.mem_map, mem_indices, hsize, zero_add, eq_comm (a := access)]

/-! ### Rows within both planes -/

lemma toInt_offset {stride : Int32} (row : ℕ) (hstride : 0 < stride.toInt) (h : row * stride.toInt < 2 ^ 31) :
    (Int32.ofNat row).toInt = row ∧ (.ofNat row * stride : Int32).toInt = row * stride.toInt := by
  have hrow : (row : ℤ) ≤ row * stride.toInt := by
    have := mul_le_mul_of_nonneg_left hstride (Int.natCast_nonneg row)
    simpa using this
  have hofNat : (Int32.ofNat row).toInt = row := Int32.toInt_ofNat_of_lt (by omega)
  refine ⟨hofNat, ?_⟩
  rw [Int32.toInt_mul, hofNat]
  exact Int.bmod_eq_of_le (by omega) (by omega)

lemma row_bounds (hs : source.Sized) (ht : target.Sized) {row : ℤ} (hrow : row < rowsOf target) :
    row * target.bytesPerLine.toInt + target.bytesPerLine.toInt ≤ target.mappedBytes.toInt ∧
      row * source.bytesPerLine.toInt + bytesOf source target ≤ neededBytes source target := by
  have htarget := mul_le_mul_of_nonneg_right (Int.add_one_le_of_lt hrow) ht.stride.le
  have hsource := mul_le_mul_of_nonneg_right (Int.le_sub_one_of_lt hrow) hs.stride.le
  have hmapped := ht.rows.2.2
  refine ⟨?_, ?_⟩
  · rw [add_one_mul] at htarget
    exact htarget.trans hmapped
  · rw [neededBytes]
    exact add_le_add_left hsource _

lemma row_offsets (hs : source.Sized) (ht : target.Sized) (hfit : neededBytes source target < 2 ^ 31) (row : ℕ)
    (hrow : row < rowsOf target) : (Int32.ofNat row).toInt = row ∧
      (.ofNat row * target.bytesPerLine : Int32).toInt = row * target.bytesPerLine.toInt ∧
      (.ofNat row * source.bytesPerLine : Int32).toInt = row * source.bytesPerLine.toInt := by
  obtain ⟨htarget, hsource⟩ := row_bounds hs ht hrow
  have hbytes := (bytesOf_bounds hs ht).1
  have hmapped := target.mappedBytes.toInt_lt
  have hstride := ht.stride
  obtain ⟨hofNat, htarget⟩ := toInt_offset row ht.stride (by omega)
  exact ⟨hofNat, htarget, (toInt_offset row hs.stride (by omega)).2⟩

lemma copiedRows_bits (plane : ℕ) (hs : source.Sized) (ht : target.Sized)
    (hfit : neededBytes source target < 2 ^ 31) (hn : n ≤ rowsOf target) :
    (∀ row j : ℤ, 0 ≤ row → row < n → 0 ≤ j → j < bytesOf source target →
      (copiedRows plane source target n).bits (row * target.bytesPerLine.toInt + j) =
        source.bits (row * source.bytesPerLine.toInt + j)) ∧
    ∀ i : ℤ, 0 ≤ i → i < target.mappedBytes.toInt →
      (∀ row j : ℤ, 0 ≤ row → row < n → 0 ≤ j → j < bytesOf source target →
        i ≠ row * target.bytesPerLine.toInt + j) → (copiedRows plane source target n).bits i = 0 := by
  induction n with
  | zero =>
    refine ⟨fun row j h₀ h₁ => absurd h₁ (by simpa using h₀), fun i hlo hhi _ => ?_⟩
    have hsize : (target.mappedBytes.toNatClampNeg : ℤ) = target.mappedBytes.toInt := by
      rw [← Int32.toNat_toInt]
      exact Int.toNat_of_nonneg ht.mapped
    exact if_pos ⟨hlo, hsize.symm ▸ hhi⟩
  | succ n ih =>
    obtain ⟨ihrows, ihrest⟩ := ih (by push_cast at hn; omega)
    obtain ⟨-, htarget, hsource⟩ := row_offsets hs ht hfit n (by push_cast at hn; omega)
    have hbytes : ((min source.bytesPerLine target.bytesPerLine).toNatClampNeg : ℤ) = bytesOf source target := by
      rw [← Int32.toNat_toInt, toInt_min, bytesOf]
      exact Int.toNat_of_nonneg (bytesOf_bounds hs ht).1.le
    have hlast : ∀ i, (copiedRows plane source target (n + 1)).bits i =
        if n * target.bytesPerLine.toInt ≤ i ∧ i < n * target.bytesPerLine.toInt + bytesOf source target then
          source.bits (n * source.bytesPerLine.toInt + (i - n * target.bytesPerLine.toInt))
        else (copiedRows plane source target n).bits i := by
      intro i
      rw [copiedRows, List.range_succ, List.foldl_append, List.foldl_cons, List.foldl_nil, Copying.copyRow,
        Copying.memcpy, htarget, hsource, hbytes]
      rfl
    refine ⟨fun row j h₀ h₁ hj₀ hj => ?_, fun i hlo hhi hne => ?_⟩
    · rw [hlast]
      obtain hrow | rfl : row < n ∨ row = n := by omega
      · -- An earlier row ends where this one starts, at the latest.
        have hbefore := mul_le_mul_of_nonneg_right (Int.add_one_le_of_lt hrow) ht.stride.le
        rw [add_one_mul] at hbefore
        have hle := (bytesOf_bounds hs ht).2.2
        rw [if_neg (by omega)]
        exact ihrows row j h₀ hrow hj₀ hj
      · rw [if_pos ⟨by omega, by omega⟩, add_sub_cancel_left]
    · have hnot : ¬(n * target.bytesPerLine.toInt ≤ i ∧
          i < n * target.bytesPerLine.toInt + bytesOf source target) := by
        rintro ⟨h₀, h₁⟩
        refine hne n (i - n * target.bytesPerLine.toInt) (Int.natCast_nonneg n) (by push_cast; omega) (by omega)
          (by omega) (by ring)
      rw [hlast, if_neg hnot]
      exact ihrest i hlo hhi (fun row j h₀ h₁ => hne row j h₀ (by push_cast; omega))

/-! ### Planes -/

lemma guardProduct_bounds (hs : source.Sized) (ht : target.Sized) :
    -2 ^ 31 < guardProduct source target ∧ guardProduct source target < neededBytes source target ∧
      neededBytes source target ≤ guardProduct source target + source.bytesPerLine.toInt := by
  have hrows : -1 ≤ rowsOf target - 1 := by
    have := ht.rows.2.1
    omega
  have hproduct := mul_le_mul_of_nonneg_right hrows hs.stride.le
  have hstride := source.bytesPerLine.toInt_lt
  obtain ⟨hpos, hle, -⟩ := bytesOf_bounds hs ht
  rw [neededBytes, guardProduct]
  omega

lemma Access.Inside.of_row (hs : source.Sized) (ht : target.Sized) (hsource : S[plane]? = some source)
    (htarget : T[plane]? = some target) (hfit : neededBytes source target < 2 ^ 31)
    (hroom : neededBytes source target ≤ source.mappedBytes.toInt) {row : ℕ} (hrow : row < rowsOf target)
    (h : RowAccess plane source target row access) : access.Inside S T := by
  obtain ⟨hofNat, htoffset, hsoffset⟩ := row_offsets hs ht hfit _ hrow
  obtain ⟨htbound, hsbound⟩ := row_bounds hs ht hrow
  obtain ⟨hpos, -, hle⟩ := bytesOf_bounds hs ht
  have hmapped := target.mappedBytes.toInt_lt
  have hs₀ := mul_nonneg (Int.natCast_nonneg row) hs.stride.le
  have ht₀ := mul_nonneg (Int.natCast_nonneg row) ht.stride.le
  have hstride := ht.stride
  cases h with
  | targetProduct =>
    rw [hofNat]
    exact ⟨by omega, by omega⟩
  | sourceProduct =>
    rw [hofNat]
    exact ⟨by omega, by omega⟩
  | read hlo hhi =>
    rw [hsoffset] at hlo hhi
    exact ⟨source, hsource, by omega, by omega⟩
  | write hlo hhi =>
    rw [htoffset] at hlo hhi
    exact ⟨target, htarget, by omega, by omega⟩

lemma copyPlane_fits (hs : source.Sized) (ht : target.Sized) (hsource : S[plane]? = some source)
    (htarget : T[plane]? = some target) (hfit : neededBytes source target < 2 ^ 31) :
    (∀ access ∈ (copyPlane plane source target).2, access.Inside S T) ∧
      ((∃ copy, (copyPlane plane source target).1 = some copy ∧ CopyOf source target copy) ∧
          neededBytes source target ≤ source.mappedBytes.toInt ∨
        (copyPlane plane source target).1 = none ∧ source.mappedBytes.toInt < neededBytes source target) := by
  obtain ⟨hlo, hlt, hle⟩ := guardProduct_bounds hs ht
  have hbmod : (neededBytes source target).bmod (2 ^ 32) = neededBytes source target :=
    Int.bmod_eq_of_le (by omega) (by omega)
  have hproduct : (Access.product (guardProduct source target)).Inside S T := ⟨by omega, by omega⟩
  obtain ⟨hroom, he⟩ | ⟨hroom, he⟩ := copyPlane_cases plane hs ht
  · rw [hbmod] at hroom
    rw [he]
    refine ⟨fun access ha => ?_, .inr ⟨rfl, hroom⟩⟩
    obtain rfl := List.mem_singleton.mp ha
    exact hproduct
  · rw [hbmod] at hroom
    rw [he]
    have hcount : ((rowsOf target).toNat : ℤ) = rowsOf target := Int.toNat_of_nonneg ht.rows.2.1
    refine ⟨fun access ha => ?_, .inl ⟨⟨_, rfl, rfl, rfl, ?_, ?_⟩, hroom⟩⟩
    · rw [mem_copiedRows hs ht, mem_cleared ht] at ha
      obtain (rfl | ⟨i, hi, rfl⟩) | ⟨row, hrow, ha⟩ := ha
      · exact hproduct
      · exact ⟨target, htarget, hi⟩
      · exact .of_row hs ht hsource htarget hfit hroom (by omega) ha
    · have hrows := (copiedRows_bits plane hs ht hfit hcount.le).1
      rwa [hcount] at hrows
    · have hrest := (copiedRows_bits plane hs ht hfit hcount.le).2
      rwa [hcount] at hrest

lemma copyPlane_unfit (hs : source.Sized) (ht : target.Sized) (hsource : S[plane]? = some source)
    (hunfit : 2 ^ 31 ≤ neededBytes source target) :
    ∃ access ∈ (copyPlane plane source target).2, ¬access.Inside S T := by
  obtain ⟨hlo, hlt, hle⟩ := guardProduct_bounds hs ht
  have hstride := source.bytesPerLine.toInt_lt
  have hmapped := source.mappedBytes.toInt_lt
  by_cases hproduct : 2 ^ 31 ≤ guardProduct source target
  · refine ⟨.product (guardProduct source target), ?_, fun h => not_lt.mpr hproduct h.2⟩
    obtain ⟨-, he⟩ | ⟨-, he⟩ := copyPlane_cases plane hs ht
    · rw [he]
      exact List.mem_singleton_self _
    · rw [he]
      exact (mem_copiedRows hs ht).mpr (.inl ((mem_cleared ht).mpr (.inl rfl)))
  · have hbmod : (neededBytes source target).bmod (2 ^ 32) = neededBytes source target - 2 ^ 32 := by
      rw [← Int.sub_bmod_right]
      exact Int.bmod_eq_of_le (by omega) (by omega)
    have hpos : 0 < rowsOf target := by
      by_contra hnone
      have hzero : rowsOf target = 0 := le_antisymm (not_lt.mp hnone) ht.rows.2.1
      have hneg : guardProduct source target = -source.bytesPerLine.toInt := by
        rw [guardProduct, hzero, zero_sub, neg_one_mul]
      omega
    have hlast : ((rowsOf target - 1).toNat : ℤ) = rowsOf target - 1 := Int.toNat_of_nonneg (by omega)
    have hoffset : (.ofNat (rowsOf target - 1).toNat * source.bytesPerLine : Int32).toInt =
        guardProduct source target := by
      have hsmall : (rowsOf target - 1).toNat * source.bytesPerLine.toInt < 2 ^ 31 := by
        rw [hlast]
        exact not_le.mp hproduct
      rw [(toInt_offset _ hs.stride hsmall).2, hlast, guardProduct]
    refine ⟨.read plane (neededBytes source target - 1), ?_, ?_⟩
    · obtain ⟨hroom, -⟩ | ⟨-, he⟩ := copyPlane_cases plane hs ht
      · have := hs.mapped
        rw [hbmod] at hroom
        omega
      · rw [he]
        refine (mem_copiedRows hs ht).mpr (.inr ⟨(rowsOf target - 1).toNat, by omega, .read ?_ ?_⟩)
        · rw [hoffset]
          omega
        · rw [hoffset]
          exact Int.sub_one_lt_of_le le_rfl
    · rintro ⟨found, hfound, -, hread⟩
      obtain rfl := Option.some.inj (hsource.symm.trans hfound)
      omega

lemma copyPlanes_inside_iff (plane : ℕ) (hlength : targets.length = sources.length)
    (hs : ∀ source ∈ sources, source.Sized) (ht : ∀ target ∈ targets, target.Sized) (hS : S.drop plane = sources)
    (hT : T.drop plane = targets) :
    ((∀ access ∈ (copyPlanes plane sources targets).2, access.Inside S T) ↔ NeedsFit sources targets) ∧
      (NeedsFit sources targets → ∀ copies, (copyPlanes plane sources targets).1 = some copies →
        copies.length = targets.length ∧ ∀ (i : ℕ) source target copied, sources[i]? = some source →
          targets[i]? = some target → copies[i]? = some copied → CopyOf source target copied) := by
  induction sources generalizing plane targets with
  | nil =>
    obtain rfl := List.length_eq_zero_iff.mp hlength
    refine ⟨iff_of_true (fun access ha => absurd ha List.not_mem_nil) trivial, fun _ copies hc => ?_⟩
    obtain rfl := Option.some.inj hc
    exact ⟨rfl, fun i source target copied hi => by simp at hi⟩
  | cons source sources ih =>
    obtain ⟨target, targets, rfl⟩ := List.exists_cons_of_length_eq_add_one hlength
    have hsource : S[plane]? = some source := by
      rw [← Nat.add_zero plane, ← List.getElem?_drop, hS]
      rfl
    have htarget : T[plane]? = some target := by
      rw [← Nat.add_zero plane, ← List.getElem?_drop, hT]
      rfl
    have hS' : S.drop (plane + 1) = sources := by rw [← List.tail_drop, hS, List.tail_cons]
    have hT' : T.drop (plane + 1) = targets := by rw [← List.tail_drop, hT, List.tail_cons]
    have hsized := hs source List.mem_cons_self
    have htsized := ht target List.mem_cons_self
    obtain ⟨ihinside, ihcopies⟩ := ih (plane + 1) (Nat.succ_injective hlength)
      (fun x hx => hs x (List.mem_cons_of_mem _ hx)) (fun x hx => ht x (List.mem_cons_of_mem _ hx)) hS' hT'
    by_cases hfit : neededBytes source target < 2 ^ 31
    · obtain ⟨hinside, ⟨⟨copy, hcopy, hof⟩, hroom⟩ | ⟨hnone, hroom⟩⟩ :=
        copyPlane_fits hsized htsized hsource htarget hfit
      · have hrec : copyPlanes plane (source :: sources) (target :: targets) =
            ((copyPlanes (plane + 1) sources targets).1.map (copy :: ·),
              (copyPlane plane source target).2 ++ (copyPlanes (plane + 1) sources targets).2) := by
          rw [copyPlanes]
          dsimp only
          rw [hcopy]
        have hneeds : NeedsFit (source :: sources) (target :: targets) ↔ NeedsFit sources targets :=
          ⟨fun h => h.2 hroom, fun h => ⟨hfit, fun _ => h⟩⟩
        rw [hrec, hneeds, ← ihinside]
        refine ⟨⟨fun h access ha => h access (List.mem_append_right _ ha), fun h access ha => ?_⟩,
          fun h copies hc => ?_⟩
        · exact (List.mem_append.mp ha).elim (hinside access) (h access)
        · obtain ⟨copies, hcopies, rfl⟩ := Option.map_eq_some_iff.mp hc
          obtain ⟨hlen, hall⟩ := ihcopies (ihinside.mp h) copies hcopies
          refine ⟨congrArg Nat.succ hlen, fun i source' target' copied hi hi' hi'' => ?_⟩
          cases i with
          | zero =>
            obtain rfl := Option.some.inj hi
            obtain rfl := Option.some.inj hi'
            obtain rfl := Option.some.inj hi''
            exact hof
          | succ i => exact hall i source' target' copied hi hi' hi''
      · have hrec : copyPlanes plane (source :: sources) (target :: targets) =
            (none, (copyPlane plane source target).2) := by
          rw [copyPlanes]
          dsimp only
          rw [hnone]
        rw [hrec]
        refine ⟨iff_of_true hinside ⟨hfit, fun h => absurd h (not_le.mpr hroom)⟩, fun _ copies hc => ?_⟩
        cases hc
    · obtain ⟨access, ha, hout⟩ := copyPlane_unfit hsized htsized hsource (T := T) (not_lt.mp hfit)
      have hmem : access ∈ (copyPlanes plane (source :: sources) (target :: targets)).2 := by
        rw [copyPlanes]
        dsimp only
        cases (copyPlane plane source target).1 with
        | none => exact ha
        | some copy => exact List.mem_append_left _ ha
      exact ⟨iff_of_false (fun h => hout (h access hmem)) (fun h => hfit h.1), fun h => absurd h.1 hfit⟩

end

/-- A copy that is made stays inside both frames just when the bytes needed of each plane it comes to fit an `int`. -/
theorem copiesInside_iff {mapped pixelsMapped : Bool} {frame pixels : QVideoFrame}
    (hframe : ∀ plane ∈ frame.planes, plane.Sized) (hpixels : ∀ plane ∈ pixels.planes, plane.Sized) :
    CopiesInside frame pixels (copyCameraFrame mapped pixelsMapped frame pixels) ↔
      (frame.isValid = true ∧ mapped = true ∧ pixelsMapped = true ∧ pixels.planes.length = frame.planes.length →
        NeedsFit frame.planes pixels.planes) := by
  have hnothing : CopiesInside frame pixels ({ isValid := false }, []) :=
    ⟨fun access ha => absurd ha List.not_mem_nil, fun h => absurd h Bool.false_ne_true⟩
  rw [copyCameraFrame]
  by_cases hvalid : (!frame.isValid || !mapped) = true
  · rw [if_pos hvalid]
    refine iff_of_true hnothing (fun h => ?_)
    rw [h.1, h.2.1] at hvalid
    cases hvalid
  · rw [if_neg hvalid]
    by_cases hp : (!pixelsMapped) = true
    · rw [if_pos hp]
      refine iff_of_true hnothing (fun h => ?_)
      rw [h.2.2.1] at hp
      cases hp
    · rw [if_neg hp]
      by_cases hlength : pixels.planes.length = frame.planes.length
      · have hreached : frame.isValid = true ∧ mapped = true ∧ pixelsMapped = true ∧
            pixels.planes.length = frame.planes.length := by
          refine ⟨?_, ?_, ?_, hlength⟩ <;> revert hvalid hp <;> cases frame.isValid <;> cases mapped <;>
            cases pixelsMapped <;> simp
        obtain ⟨hinside, hcopies⟩ := copyPlanes_inside_iff 0 hlength hframe hpixels rfl rfl
        rw [if_neg (not_not_intro hlength), forall_prop_of_true hreached, ← hinside]
        dsimp only
        cases hc : (copyPlanes 0 frame.planes pixels.planes).1 with
        | none => exact ⟨fun h => h.inside, fun h => ⟨h, fun hv => absurd hv Bool.false_ne_true⟩⟩
        | some copies => exact ⟨fun h => h.inside, fun h => ⟨h, fun _ => hcopies (hinside.mp h) copies hc⟩⟩
      · rw [if_pos hlength]
        exact iff_of_true hnothing (fun h => absurd h.2.2.2 hlength)

def smallSource : Plane := ⟨3, 6, fun i => UInt8.ofNat i.toNat⟩

def smallTarget : Plane := ⟨4, 8, fun _ => 1⟩

theorem copiesInside_sample :
    CopiesInside { planes := [smallSource] } { planes := [smallTarget] }
        (copyCameraFrame true true { planes := [smallSource] } { planes := [smallTarget] }) ↔
      (true = true ∧ true = true ∧ true = true ∧ 1 = 1 → NeedsFit [smallSource] [smallTarget]) := by
  refine copiesInside_iff (fun plane hp => ?_) (fun plane hp => ?_)
  · obtain rfl := List.mem_singleton.mp hp
    exact ⟨by decide, by decide⟩
  · obtain rfl := List.mem_singleton.mp hp
    exact ⟨by decide, by decide⟩

def wideSource : Plane := ⟨1073741824, 1073741824, fun _ => 0⟩

def narrowTarget : Plane := ⟨1, 4, fun _ => 0⟩

theorem copy_not_inside : ¬∀ (mapped pixelsMapped : Bool) (frame pixels : QVideoFrame),
    (∀ plane ∈ frame.planes, plane.Sized) → (∀ plane ∈ pixels.planes, plane.Sized) →
      CopiesInside frame pixels (copyCameraFrame mapped pixelsMapped frame pixels) := by
  intro h
  have hinside := (h true true { planes := [wideSource] } { planes := [narrowTarget] }
    (fun plane hp => by obtain rfl := List.mem_singleton.mp hp; exact ⟨by decide, by decide⟩)
    (fun plane hp => by obtain rfl := List.mem_singleton.mp hp; exact ⟨by decide, by decide⟩)).inside
  have hproduct : Access.product 3221225472 ∈
      (copyCameraFrame true true { planes := [wideSource] } { planes := [narrowTarget] }).2 := by decide
  have hsmall := (hinside _ hproduct).2
  exact absurd hsmall (by norm_num)

end ChatDesktop.Voip.Camera
