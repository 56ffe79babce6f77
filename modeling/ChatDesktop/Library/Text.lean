import Mathlib.Algebra.Group.Int.Defs
import Mathlib.Tactic.Common

/-! Strings of UTF-16 code units, as they lie in memory and as they are written in hexadecimal, in base 64
and as strings of a JSON text. -/

namespace ChatDesktop.Library

abbrev Text := List UInt16

instance lawfulBEqText : LawfulBEq Text := inferInstance

namespace Text

def ofAscii (s : String) : Text := s.toList.map (fun c => UInt16.ofNat c.toNat)

def ofLatin1 (bs : List UInt8) : Text := bs.map UInt8.toUInt16

def firstSection (t : Text) (sep : UInt16) : Text := t.takeWhile (fun u => !decide (u = sep))

def memory (t : Text) : List UInt8 := t.flatMap (fun u : UInt16 => [u.toUInt8, (u >>> 8).toUInt8])

lemma length_memory (t : Text) : (memory t).length = 2 * t.length := by
  induction t with
  | nil => rfl
  | cons u t ih =>
    have h : memory (u :: t) = [u.toUInt8, (u >>> 8).toUInt8] ++ memory t := List.flatMap_cons
    rw [h, List.length_append, ih, List.length_cons, List.length_cons, List.length_cons, List.length_nil]
    omega

def isSpace (u : UInt16) : Bool :=
  (9 ≤ u && u ≤ 13) || u == 0x20 || u == 0x85 || u == 0xA0 || u == 0x1680 || (0x2000 ≤ u && u ≤ 0x200A) ||
    u == 0x2028 || u == 0x2029 || u == 0x202F || u == 0x205F || u == 0x3000

def trimmed (t : Text) : Text := ((t.dropWhile isSpace).reverse.dropWhile isSpace).reverse

/-- Lower case, for a comparison with ASCII words: the sign for degrees Kelvin is the only character beyond
ASCII that becomes one of its letters. -/
def toLower (t : Text) : Text :=
  t.map (fun u => if 0x41 ≤ u ∧ u ≤ 0x5A then u + 0x20 else if u = 0x212A then 0x6B else u)

def decimal (bits : ℕ) (t : Text) : Option Int :=
  let t := trimmed t
  let (sign, digits) : Int × Text := match t with
    | 0x2D :: ds => (-1, ds)
    | 0x2B :: ds => (1, ds)
    | ds => (1, ds)
  if digits = [] ∨ digits.any (fun u => u < 0x30 || 0x39 < u) then none
  else
    let n := sign * digits.foldl (fun (n : Int) u => 10 * n + (u.toNat - 0x30)) 0
    if -2 ^ (bits - 1) ≤ n ∧ n < 2 ^ (bits - 1) then some n else none

def toInt : Text → Option Int := decimal 32

def toLongLong : Text → Option Int := decimal 64

end Text

def hexDigit (n : UInt8) : UInt8 := if n < 10 then 0x30 + n else 0x57 + n

def hexByte (b : UInt8) : List UInt8 := [hexDigit (b >>> 4), hexDigit (b &&& 15)]

def hex (bs : List UInt8) : List UInt8 := bs.flatMap hexByte

def base64Digit (n : UInt8) : UInt8 :=
  if n < 26 then 0x41 + n else if n < 52 then 0x47 + n else if n < 62 then n - 4 else if n = 62 then 0x2B else 0x2F

def base64 : List UInt8 → List UInt8
  | [] => []
  | [a] => [base64Digit (a >>> 2), base64Digit ((a &&& 3) <<< 4), 0x3D, 0x3D]
  | [a, b] => [base64Digit (a >>> 2), base64Digit ((a &&& 3) <<< 4 ||| b >>> 4), base64Digit ((b &&& 15) <<< 2), 0x3D]
  | a :: b :: c :: rest =>
    [base64Digit (a >>> 2), base64Digit ((a &&& 3) <<< 4 ||| b >>> 4),
      base64Digit ((b &&& 15) <<< 2 ||| c >>> 6), base64Digit (c &&& 63)] ++ base64 rest

/-! ### JSON strings -/

namespace Json

def unicodeEscape (u : UInt16) : List UInt8 := 0x5C :: 0x75 :: (hexByte (u >>> 8).toUInt8 ++ hexByte u.toUInt8)

/-- A byte that continues a character in UTF-8, with the low six bits of `u`. -/
def tailByte (u : UInt16) : UInt8 := (u &&& 0x3F).toUInt8 ||| 0x80

def escapedUnit (u : UInt16) : List UInt8 :=
  if u = 0x22 ∨ u = 0x5C then [0x5C, u.toUInt8]
  else if u = 0x08 then [0x5C, 0x62]
  else if u = 0x0C then [0x5C, 0x66]
  else if u = 0x0A then [0x5C, 0x6E]
  else if u = 0x0D then [0x5C, 0x72]
  else if u = 0x09 then [0x5C, 0x74]
  else if u < 0x20 then unicodeEscape u
  else if u < 0x80 then [u.toUInt8]
  else if u < 0x800 then [(u >>> 6).toUInt8 ||| 0xC0, tailByte u]
  else if 0xD800 ≤ u ∧ u < 0xE000 then unicodeEscape u
  else [(u >>> 12).toUInt8 ||| 0xE0, tailByte (u >>> 6), tailByte u]

def escapedPair (u v : UInt16) : List UInt8 :=
  let high := u - 0xD800 + 0x40
  [(high >>> 8).toUInt8 ||| 0xF0, tailByte (high >>> 2), tailByte ((high &&& 3) <<< 4 ||| (v - 0xDC00) >>> 6), tailByte v]

def escaped : Text → List UInt8
  | [] => []
  | [u] => escapedUnit u
  | u :: v :: rest =>
    if (0xD800 ≤ u ∧ u < 0xDC00) ∧ 0xDC00 ≤ v ∧ v < 0xE000 then escapedPair u v ++ escaped rest
    else escapedUnit u ++ escaped (v :: rest)

def quoted (t : Text) : List UInt8 := 0x22 :: (escaped t ++ [0x22])

def arrayOfStrings (ts : List Text) : List UInt8 := 0x5B :: (List.intercalate [0x2C] (ts.map quoted) ++ [0x5D])

end Json

/-! ### Writing bytes in hexadecimal loses nothing -/

def hexDigitValue (d : UInt8) : UInt8 := if d < 0x40 then d - 0x30 else d - 0x57

lemma hexDigitValue_hexByte (b : UInt8) :
    (hexByte b).map hexDigitValue = [b >>> 4, b &&& 15] ∧ (b >>> 4) <<< 4 ||| (b &&& 15) = b := by
  have key : ∀ i : Fin 256, (hexByte (UInt8.ofFin i)).map hexDigitValue = [UInt8.ofFin i >>> 4, UInt8.ofFin i &&& 15] ∧
      (UInt8.ofFin i >>> 4) <<< 4 ||| (UInt8.ofFin i &&& 15) = UInt8.ofFin i := by decide +kernel
  exact key b.toFin

lemma hexByte_injective : Function.Injective hexByte := by
  intro a b h
  obtain ⟨ha, ha'⟩ := hexDigitValue_hexByte a
  obtain ⟨hb, hb'⟩ := hexDigitValue_hexByte b
  rw [h, hb] at ha
  simp only [List.cons.injEq, and_true] at ha
  rw [← ha', ← hb', ha.1, ha.2]

lemma hex_injective : Function.Injective hex := by
  intro as bs h
  induction as generalizing bs with
  | nil =>
    cases bs with
    | nil => rfl
    | cons b bs => simp [hex, hexByte] at h
  | cons a as ih =>
    cases bs with
    | nil => simp [hex, hexByte] at h
    | cons b bs =>
      obtain ⟨h1, h2⟩ := List.append_inj h rfl
      rw [hexByte_injective h1, ih h2]

/-! ### Nor in base 64 -/

def base64Value (d : UInt8) : UInt8 :=
  if d = 0x2B then 62 else if d = 0x2F then 63 else if d < 0x3A then d + 4 else if d < 0x5B then d - 0x41 else d - 0x47

def unbase64 : List UInt8 → List UInt8
  | d₁ :: d₂ :: d₃ :: d₄ :: rest =>
    let a := base64Value d₁ <<< 2 ||| base64Value d₂ >>> 4
    let b := base64Value d₂ <<< 4 ||| base64Value d₃ >>> 2
    let c := base64Value d₃ <<< 6 ||| base64Value d₄
    if d₃ = 0x3D then [a] else if d₄ = 0x3D then [a, b] else a :: b :: c :: unbase64 rest
  | _ => []

lemma base64Digit_spec {n : UInt8} (h : n < 64) : base64Value (base64Digit n) = n ∧ base64Digit n ≠ 0x3D := by
  have key : ∀ i : Fin 64, base64Value (base64Digit (UInt8.ofNat i)) = UInt8.ofNat i ∧
      base64Digit (UInt8.ofNat i) ≠ 0x3D := by decide
  have hn := key ⟨n.toNat, UInt8.lt_iff_toNat_lt.mp h⟩
  rwa [UInt8.ofNat_toNat] at hn

lemma base64_parts (b : UInt8) :
    (b >>> 2 < 64 ∧ b &&& 3 < 4 ∧ b >>> 4 < 16 ∧ b &&& 15 < 16 ∧ b >>> 6 < 4 ∧ b &&& 63 < 64) ∧
      (b >>> 2) <<< 2 ||| (b &&& 3) = b ∧ (b >>> 4) <<< 4 ||| (b &&& 15) = b ∧ (b >>> 6) <<< 6 ||| (b &&& 63) = b := by
  have key : ∀ i : Fin 256, let b := UInt8.ofFin i
      (b >>> 2 < 64 ∧ b &&& 3 < 4 ∧ b >>> 4 < 16 ∧ b &&& 15 < 16 ∧ b >>> 6 < 4 ∧ b &&& 63 < 64) ∧
        (b >>> 2) <<< 2 ||| (b &&& 3) = b ∧ (b >>> 4) <<< 4 ||| (b &&& 15) = b ∧ (b >>> 6) <<< 6 ||| (b &&& 63) = b := by
    decide +kernel
  exact key b.toFin

lemma base64_second {x y : UInt8} (hx : x < 4) (hy : y < 16) :
    x <<< 4 ||| y < 64 ∧ (x <<< 4 ||| y) >>> 4 = x ∧ (x <<< 4 ||| y) <<< 4 = y <<< 4 := by
  have key : ∀ (i : Fin 4) (j : Fin 16), let x := UInt8.ofNat i; let y := UInt8.ofNat j
      x <<< 4 ||| y < 64 ∧ (x <<< 4 ||| y) >>> 4 = x ∧ (x <<< 4 ||| y) <<< 4 = y <<< 4 := by decide
  have hxy := key ⟨x.toNat, UInt8.lt_iff_toNat_lt.mp hx⟩ ⟨y.toNat, UInt8.lt_iff_toNat_lt.mp hy⟩
  simpa only [UInt8.ofNat_toNat] using hxy

lemma base64_third {x y : UInt8} (hx : x < 16) (hy : y < 4) :
    x <<< 2 ||| y < 64 ∧ (x <<< 2 ||| y) >>> 2 = x ∧ (x <<< 2 ||| y) <<< 6 = y <<< 6 := by
  have key : ∀ (i : Fin 16) (j : Fin 4), let x := UInt8.ofNat i; let y := UInt8.ofNat j
      x <<< 2 ||| y < 64 ∧ (x <<< 2 ||| y) >>> 2 = x ∧ (x <<< 2 ||| y) <<< 6 = y <<< 6 := by decide
  have hxy := key ⟨x.toNat, UInt8.lt_iff_toNat_lt.mp hx⟩ ⟨y.toNat, UInt8.lt_iff_toNat_lt.mp hy⟩
  simpa only [UInt8.ofNat_toNat] using hxy

lemma unbase64_base64 (bs : List UInt8) : unbase64 (base64 bs) = bs := by
  fun_induction base64 bs with
  | case1 => rfl
  | case2 a =>
    obtain ⟨⟨h₁, h₂, -⟩, ha, -⟩ := base64_parts a
    have hsecond := base64_second h₂ (y := 0) (by decide)
    rw [UInt8.or_zero] at hsecond
    rw [unbase64]
    simp only [if_true, (base64Digit_spec h₁).1, (base64Digit_spec hsecond.1).1, hsecond.2.1, ha]
  | case3 a b =>
    obtain ⟨⟨h₁, h₂, -⟩, ha, -⟩ := base64_parts a
    obtain ⟨⟨-, -, h₃, h₄, -⟩, -, hb, -⟩ := base64_parts b
    have hsecond := base64_second h₂ h₃
    have hthird := base64_third h₄ (y := 0) (by decide)
    rw [UInt8.or_zero] at hthird
    rw [unbase64]
    simp only [if_true, (base64Digit_spec hthird.1).2, if_false, (base64Digit_spec h₁).1,
      (base64Digit_spec hsecond.1).1, (base64Digit_spec hthird.1).1, hsecond.2.1, hsecond.2.2, hthird.2.1, ha, hb]
  | case4 a b c rest ih =>
    obtain ⟨⟨h₁, h₂, -⟩, ha, -⟩ := base64_parts a
    obtain ⟨⟨-, -, h₃, h₄, -⟩, -, hb, -⟩ := base64_parts b
    obtain ⟨⟨-, -, -, -, h₅, h₆⟩, -, -, hc⟩ := base64_parts c
    have hsecond := base64_second h₂ h₃
    have hthird := base64_third h₄ h₅
    rw [List.cons_append, List.cons_append, List.cons_append, List.cons_append, List.nil_append, unbase64, ih]
    simp only [(base64Digit_spec hthird.1).2, (base64Digit_spec h₆).2, if_false, (base64Digit_spec h₁).1,
      (base64Digit_spec hsecond.1).1, (base64Digit_spec hthird.1).1, (base64Digit_spec h₆).1, hsecond.2.1,
      hsecond.2.2, hthird.2.1, hthird.2.2, ha, hb, hc]

lemma base64_injective : Function.Injective base64 := Function.LeftInverse.injective unbase64_base64

end ChatDesktop.Library
