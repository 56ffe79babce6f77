import ChatDesktop.Library.Json
import Mathlib.Data.List.Basic

namespace ChatDesktop.Library.Json

/-! ### Writing -/

def hexUnit (n : ℕ) : UInt16 := UInt16.ofNat (if n < 10 then 0x30 + n else 0x57 + n)

def writeUnit (u : UInt16) : Text :=
  if 0x20 ≤ u ∧ u < 0x7F ∧ u ≠ 0x22 ∧ u ≠ 0x5C then [u]
  else [0x5C, 0x75, hexUnit (u.toNat / 4096), hexUnit (u.toNat / 256 % 16), hexUnit (u.toNat / 16 % 16),
    hexUnit (u.toNat % 16)]

def writeChars (t : Text) : Text := t.flatMap writeUnit ++ [0x22]

def writeDigits (n : ℕ) : Text := (Nat.toDigits 10 n).map (fun c => UInt16.ofNat c.toNat)

def writeInt : Int → Text
  | .ofNat n => writeDigits n
  | .negSucc n => 0x2D :: writeDigits (n + 1)

def separator (first : Bool) : Text := if first then [] else [0x2C]

mutual

def write : Json → Text
  | null => [0x6E, 0x75, 0x6C, 0x6C]
  | bool true => [0x74, 0x72, 0x75, 0x65]
  | bool false => [0x66, 0x61, 0x6C, 0x73, 0x65]
  | number n => writeInt n.num
  | string t => 0x22 :: writeChars t
  | array items => 0x5B :: writeItems true items
  | object fields => 0x7B :: writeFields true fields

def writeItems (first : Bool) : List Json → Text
  | [] => [0x5D]
  | item :: items => separator first ++ (write item ++ writeItems false items)

def writeFields (first : Bool) : List (Text × Json) → Text
  | [] => [0x7D]
  | (key, value) :: fields =>
    separator first ++ (0x22 :: writeChars key ++ (0x3A :: write value ++ writeFields false fields))

end

/-! ### Reading -/

def isDigit (u : UInt16) : Bool := 0x30 ≤ u && u ≤ 0x39

def hexValue (u : UInt16) : ℕ := if u ≤ 0x39 then u.toNat - 0x30 else u.toNat - 0x57

def readChars : Text → Option (Text × Text)
  | [] => none
  | 0x5C :: 0x75 :: a :: b :: c :: d :: rest =>
    (readChars rest).map (fun r =>
      (UInt16.ofNat (4096 * hexValue a + 256 * hexValue b + 16 * hexValue c + hexValue d) :: r.1, r.2))
  | u :: rest =>
    if u = 0x22 then some ([], rest)
    else if u = 0x5C then none
    else (readChars rest).map (fun r => (u :: r.1, r.2))

def readDigits (t : Text) : Option (ℕ × Text) :=
  if t.takeWhile isDigit = [] then none
  else some ((t.takeWhile isDigit).foldl (fun n u => 10 * n + (u.toNat - 0x30)) 0, t.dropWhile isDigit)

def readInt : Text → Option (Int × Text)
  | [] => none
  | u :: rest =>
    if u = 0x2D then (readDigits rest).map (fun r => (-r.1, r.2)) else (readDigits (u :: rest)).map (fun r => (r.1, r.2))

def expect : Text → Text → Option Text
  | [], t => some t
  | _ :: _, [] => none
  | u :: us, v :: t => if u = v then expect us t else none

mutual

def read : ℕ → Text → Option (Json × Text)
  | 0, _ => none
  | _ + 1, [] => none
  | n + 1, u :: rest =>
    if u = 0x22 then (readChars rest).map (fun r => (string r.1, r.2))
    else if u = 0x5B then (readItems n true rest).map (fun r => (array r.1, r.2))
    else if u = 0x7B then (readFields n true rest).map (fun r => (object r.1, r.2))
    else if u = 0x6E then (expect [0x75, 0x6C, 0x6C] rest).map (fun r => (null, r))
    else if u = 0x74 then (expect [0x72, 0x75, 0x65] rest).map (fun r => (bool true, r))
    else if u = 0x66 then (expect [0x61, 0x6C, 0x73, 0x65] rest).map (fun r => (bool false, r))
    else (readInt (u :: rest)).map (fun r => (number r.1, r.2))

def readItems : ℕ → Bool → Text → Option (List Json × Text)
  | 0, _, _ => none
  | n + 1, first, t =>
    match expect [0x5D] t with
    | some rest => some ([], rest)
    | none => do
      let t ← expect (separator first) t
      let (item, t) ← read n t
      let (items, t) ← readItems n false t
      pure (item :: items, t)

def readFields : ℕ → Bool → Text → Option (List (Text × Json) × Text)
  | 0, _, _ => none
  | n + 1, first, t =>
    match expect [0x7D] t with
    | some rest => some ([], rest)
    | none => do
      let t ← expect (separator first ++ [0x22]) t
      let (key, t) ← readChars t
      let t ← expect [0x3A] t
      let (value, t) ← read n t
      let (fields, t) ← readFields n false t
      pure ((key, value) :: fields, t)

end

def parse (t : Text) : Option Json :=
  match read t.length t with
  | some (j, []) => some j
  | _ => none

/-! ### Strings -/

lemma hexValue_hexUnit {n : ℕ} (h : n < 16) : hexValue (hexUnit n) = n := by
  have key : ∀ i : Fin 16, hexValue (hexUnit i) = i := by decide
  exact key ⟨n, h⟩

lemma readChars_unit {u : UInt16} (hq : u ≠ 0x22) (hb : u ≠ 0x5C) (t : Text) :
    readChars (u :: t) = (readChars t).map (fun r => (u :: r.1, r.2)) := by
  rw [readChars, if_neg hq, if_neg hb]
  exact fun a b c d rest he => absurd he hb

lemma readChars_writeUnit (u : UInt16) (t : Text) :
    readChars (writeUnit u ++ t) = (readChars t).map (fun r => (u :: r.1, r.2)) := by
  rw [writeUnit]
  split_ifs with h
  · exact readChars_unit h.2.2.1 h.2.2.2 t
  · have hlt : u.toNat < 65536 := u.toNat_lt
    have hsum : 4096 * (u.toNat / 4096) + 256 * (u.toNat / 256 % 16) + 16 * (u.toNat / 16 % 16) + u.toNat % 16 =
        u.toNat := by omega
    simp only [List.cons_append, List.nil_append, readChars, hexValue_hexUnit (show u.toNat / 4096 < 16 by omega),
      hexValue_hexUnit (Nat.mod_lt _ (show 0 < 16 by decide)), hsum, UInt16.ofNat_toNat]

lemma readChars_writeChars (t rest : Text) : readChars (writeChars t ++ rest) = some (t, rest) := by
  rw [writeChars, List.append_assoc]
  induction t with
  | nil => rfl
  | cons u t ih => rw [List.flatMap_cons, List.append_assoc, readChars_writeUnit, ih, Option.map_some]

/-! ### Numbers -/

def NoDigit (t : Text) : Prop := ∀ u ∈ t.head?, isDigit u = false

lemma takeWhile_append {ds t : Text} (hd : ∀ u ∈ ds, isDigit u = true) (ht : NoDigit t) :
    (ds ++ t).takeWhile isDigit = ds ∧ (ds ++ t).dropWhile isDigit = t := by
  rw [List.takeWhile_append_of_pos hd, List.dropWhile_append_of_pos hd]
  cases t with
  | nil => exact ⟨List.append_nil ds, rfl⟩
  | cons u t =>
    have hu : ¬isDigit u = true := by rw [ht u rfl]; decide
    rw [List.takeWhile_cons_of_neg hu, List.dropWhile_cons_of_neg hu]
    exact ⟨List.append_nil ds, rfl⟩

lemma isDigit_writeDigits (n : ℕ) : ∀ u ∈ writeDigits n, isDigit u = true := by
  intro u hu
  obtain ⟨c, hc, rfl⟩ := List.mem_map.mp hu
  have hdigit := Nat.isDigit_of_mem_toDigits (by decide) (by decide) hc
  have key : ∀ k : Fin 10, isDigit (UInt16.ofNat (0x30 + k)) = true := by decide
  rw [Char.isDigit, Bool.and_eq_true, decide_eq_true_eq, decide_eq_true_eq] at hdigit
  obtain ⟨hlo, hhi⟩ := hdigit
  have hlo' : 48 ≤ c.toNat := hlo
  have hhi' : c.toNat ≤ 57 := hhi
  have hk := key ⟨c.toNat - 0x30, by omega⟩
  rwa [show 0x30 + (c.toNat - 0x30) = c.toNat by omega] at hk

lemma value_writeDigits (n : ℕ) : (writeDigits n).foldl (fun n u => 10 * n + (u.toNat - 0x30)) 0 = n := by
  have hvalue := Nat.ofDigitChars_ten_toDigits (n := n)
  rw [Nat.ofDigitChars_eq_foldl] at hvalue
  rw [writeDigits, List.foldl_map]
  refine Eq.trans (List.foldl_ext _ _ _ (fun m c hc => ?_)) hvalue
  have hlt : c.toNat < 2 ^ 16 := by
    have hdigit := Nat.isDigit_of_mem_toDigits (by decide) (by decide) hc
    rw [Char.isDigit, Bool.and_eq_true, decide_eq_true_eq, decide_eq_true_eq] at hdigit
    have hhi : c.toNat ≤ 57 := hdigit.2
    omega
  rw [UInt16.toNat_ofNat', Nat.mod_eq_of_lt hlt]
  rfl

lemma writeDigits_ne_nil (n : ℕ) : writeDigits n ≠ [] := by
  rw [writeDigits, Ne, List.map_eq_nil_iff]
  exact Nat.toDigits_ne_nil

lemma readDigits_writeDigits (n : ℕ) {t : Text} (ht : NoDigit t) : readDigits (writeDigits n ++ t) = some (n, t) := by
  obtain ⟨htake, hdrop⟩ := takeWhile_append (isDigit_writeDigits n) ht
  rw [readDigits, htake, hdrop, if_neg (writeDigits_ne_nil n), value_writeDigits]

lemma writeDigits_cons (n : ℕ) : ∃ u us, writeDigits n = u :: us ∧ isDigit u = true := by
  obtain ⟨u, us, h⟩ := List.exists_cons_of_ne_nil (writeDigits_ne_nil n)
  exact ⟨u, us, h, isDigit_writeDigits n u (by rw [h]; exact List.mem_cons_self)⟩

lemma readInt_writeInt (n : Int) {t : Text} (ht : NoDigit t) : readInt (writeInt n ++ t) = some (n, t) := by
  cases n with
  | ofNat n =>
    obtain ⟨u, us, h, hu⟩ := writeDigits_cons n
    have hminus : u ≠ 0x2D := by rintro rfl; exact absurd hu (by decide)
    have hread := readDigits_writeDigits n ht
    rw [h, List.cons_append] at hread
    rw [writeInt, h, List.cons_append, readInt, if_neg hminus, hread]
    rfl
  | negSucc n =>
    rw [writeInt, List.cons_append, readInt, if_pos rfl, readDigits_writeDigits (n + 1) ht]
    rfl

/-! ### Values -/

inductive Whole : Json → Prop
  | null : Whole null
  | bool (b : Bool) : Whole (bool b)
  | number (n : Int) : Whole (number n)
  | string (t : Text) : Whole (string t)
  | array {items : List Json} (h : ∀ item ∈ items, Whole item) : Whole (array items)
  | object {fields : List (Text × Json)} (h : ∀ field ∈ fields, Whole field.2) : Whole (object fields)

/-- As an object of the program holds it: the numbers whole, the keys in order. -/
inductive Held : Json → Prop
  | null : Held null
  | bool (b : Bool) : Held (bool b)
  | number (n : Int) : Held (number n)
  | string (t : Text) : Held (string t)
  | array {items : List Json} (h : ∀ item ∈ items, Held item) : Held (array items)
  | object {fields : List (Text × Json)} (hkeys : (fields.map Prod.fst).Pairwise (· < ·))
      (h : ∀ field ∈ fields, Held field.2) : Held (object fields)

lemma Held.whole {j : Json} (h : Held j) : Whole j := by
  induction h with
  | null => exact .null
  | bool b => exact .bool b
  | number n => exact .number n
  | string t => exact .string t
  | array h ih => exact .array ih
  | object hkeys h ih => exact .object ih

/-- The text of `j` is read as `j`, whatever follows it. -/
def ReadsBack (j : Json) : Prop :=
  ∀ n rest, (write j).length ≤ n → NoDigit rest → read n (write j ++ rest) = some (j, rest)

lemma writeInt_cons (n : Int) : ∃ u us, writeInt n = u :: us ∧ (isDigit u = true ∨ u = 0x2D) := by
  cases n with
  | ofNat n =>
    obtain ⟨u, us, h, hu⟩ := writeDigits_cons n
    exact ⟨u, us, h, Or.inl hu⟩
  | negSucc n => exact ⟨_, _, rfl, Or.inr rfl⟩

lemma write_cons (j : Json) : ∃ u us, write j = u :: us ∧ u ≠ 0x5D := by
  cases j with
  | null => exact ⟨_, _, rfl, by decide⟩
  | bool b => cases b <;> exact ⟨_, _, rfl, by decide⟩
  | number q =>
    obtain ⟨u, us, h, hu⟩ := writeInt_cons q.num
    refine ⟨u, us, h, ?_⟩
    rintro rfl
    exact absurd hu (by decide)
  | string t => exact ⟨_, _, rfl, by decide⟩
  | array items => exact ⟨_, _, rfl, by decide⟩
  | object fields => exact ⟨_, _, rfl, by decide⟩

lemma length_write_pos (j : Json) : 0 < (write j).length := by
  obtain ⟨u, us, h, -⟩ := write_cons j
  rw [h]
  exact Nat.succ_pos _

lemma expect_cons_ne {u v : UInt16} (h : u ≠ v) (us t : Text) : expect (u :: us) (v :: t) = none := by
  rw [expect, if_neg h]

lemma expect_append (us t : Text) : expect us (us ++ t) = some t := by
  induction us with
  | nil => rfl
  | cons u us ih => rw [List.cons_append, expect, if_pos rfl, ih]

lemma noDigit_cons {u : UInt16} (h : isDigit u = false) (t : Text) : NoDigit (u :: t) := by
  intro v hv
  obtain rfl := Option.some.inj hv
  exact h

lemma noDigit_writeItems (items : List Json) (rest : Text) : NoDigit (writeItems false items ++ rest) := by
  cases items with
  | nil => exact noDigit_cons (by decide) rest
  | cons item items => exact noDigit_cons (by decide) _

lemma noDigit_writeFields (fields : List (Text × Json)) (rest : Text) :
    NoDigit (writeFields false fields ++ rest) := by
  cases fields with
  | nil => exact noDigit_cons (by decide) rest
  | cons field fields => exact noDigit_cons (by decide) _

lemma readItems_writeItems {items : List Json} (h : ∀ item ∈ items, ReadsBack item) (first : Bool) {n : ℕ}
    (rest : Text) (hn : (writeItems first items).length ≤ n) :
    readItems n first (writeItems first items ++ rest) = some (items, rest) := by
  induction items generalizing first n with
  | nil =>
    cases n with
    | zero => exact absurd hn (Nat.not_succ_le_zero _)
    | succ n => rfl
  | cons item items ih =>
    have hitem := length_write_pos item
    have hitems : 0 < (writeItems false items).length := by
      cases items with
      | nil => exact Nat.succ_pos _
      | cons => exact Nat.succ_pos _
    rw [writeItems, List.length_append, List.length_append] at hn
    obtain ⟨n, rfl⟩ : ∃ m, n = m + 1 := ⟨n - 1, by omega⟩
    have hopen : expect [0x5D] (separator first ++ (write item ++ writeItems false items) ++ rest) = none := by
      cases first with
      | true =>
        obtain ⟨u, us, hw, hu⟩ := write_cons item
        rw [hw]
        exact expect_cons_ne hu.symm _ _
      | false => exact expect_cons_ne (by decide) _ _
    have hread := h item List.mem_cons_self n (writeItems false items ++ rest) (by omega)
      (noDigit_writeItems items rest)
    rw [readItems, writeItems, hopen]
    simp only [List.append_assoc, expect_append, Option.bind_eq_bind, Option.bind_some, hread,
      ih (fun item hi => h item (List.mem_cons_of_mem _ hi)) false (show (writeItems false items).length ≤ n by omega)]
    rfl

lemma readFields_writeFields {fields : List (Text × Json)} (h : ∀ field ∈ fields, ReadsBack field.2) (first : Bool)
    {n : ℕ} (rest : Text) (hn : (writeFields first fields).length ≤ n) :
    readFields n first (writeFields first fields ++ rest) = some (fields, rest) := by
  induction fields generalizing first n with
  | nil =>
    cases n with
    | zero => exact absurd hn (Nat.not_succ_le_zero _)
    | succ n => rfl
  | cons field fields ih =>
    obtain ⟨key, value⟩ := field
    rw [writeFields] at hn
    simp only [List.length_append, List.length_cons] at hn
    obtain ⟨n, rfl⟩ : ∃ m, n = m + 1 := ⟨n - 1, by omega⟩
    have hopen : expect [0x7D] (writeFields first ((key, value) :: fields) ++ rest) = none := by
      cases first with
      | true => exact expect_cons_ne (by decide) _ _
      | false => exact expect_cons_ne (by decide) _ _
    have hread := h (key, value) List.mem_cons_self n (writeFields false fields ++ rest) (by dsimp only; omega)
      (noDigit_writeFields fields rest)
    have hquote : expect (separator first ++ [0x22]) (writeFields first ((key, value) :: fields) ++ rest) =
        some (writeChars key ++ (0x3A :: (write value ++ (writeFields false fields ++ rest)))) := by
      have he := expect_append (separator first ++ [0x22])
        (writeChars key ++ (0x3A :: (write value ++ (writeFields false fields ++ rest))))
      rw [← he, writeFields]
      simp only [List.append_assoc, List.cons_append, List.nil_append]
    have hcolon : ∀ t, expect [0x3A] (0x3A :: t) = some t := expect_append [0x3A]
    rw [readFields, hopen]
    simp only [hquote, Option.bind_eq_bind, Option.bind_some, readChars_writeChars, hcolon, hread,
      ih (fun field hf => h field (List.mem_cons_of_mem _ hf)) false
        (show (writeFields false fields).length ≤ n by omega)]
    rfl

lemma Whole.readsBack {j : Json} (h : Whole j) : ReadsBack j := by
  induction h with
  | null =>
    intro n rest hn _
    obtain ⟨n, rfl⟩ : ∃ m, n = m + 1 := ⟨n - 1, by have := length_write_pos Json.null; omega⟩
    rfl
  | bool b =>
    intro n rest hn _
    obtain ⟨n, rfl⟩ : ∃ m, n = m + 1 := ⟨n - 1, by have := length_write_pos (Json.bool b); omega⟩
    cases b <;> rfl
  | number z =>
    intro n rest hn hrest
    obtain ⟨n, rfl⟩ : ∃ m, n = m + 1 := ⟨n - 1, by have := length_write_pos (Json.number z); omega⟩
    obtain ⟨u, us, hw, hu⟩ := writeInt_cons z
    have hread := readInt_writeInt z hrest
    have hne : ∀ v, (isDigit v = false ∧ v ≠ 0x2D) → u ≠ v := by
      rintro v ⟨hv, hv'⟩ rfl
      rcases hu with hu | hu
      · rw [hv] at hu
        cases hu
      · exact hv' hu
    rw [hw, List.cons_append] at hread
    rw [write, show (z : ℚ).num = z from rfl, hw, List.cons_append, read, if_neg (hne _ (by decide)),
      if_neg (hne _ (by decide)), if_neg (hne _ (by decide)), if_neg (hne _ (by decide)),
      if_neg (hne _ (by decide)), if_neg (hne _ (by decide)), hread]
    rfl
  | string t =>
    intro n rest hn _
    obtain ⟨n, rfl⟩ : ∃ m, n = m + 1 := ⟨n - 1, by have := length_write_pos (Json.string t); omega⟩
    rw [write, List.cons_append, read, if_pos rfl, readChars_writeChars]
    rfl
  | @array items h ih =>
    intro n rest hn _
    rw [write, List.length_cons] at hn
    obtain ⟨n, rfl⟩ : ∃ m, n = m + 1 := ⟨n - 1, by omega⟩
    rw [write, List.cons_append, read, if_neg (by decide), if_pos rfl,
      readItems_writeItems ih true rest (by omega)]
    rfl
  | @object fields h ih =>
    intro n rest hn _
    rw [write, List.length_cons] at hn
    obtain ⟨n, rfl⟩ : ∃ m, n = m + 1 := ⟨n - 1, by omega⟩
    rw [write, List.cons_append, read, if_neg (by decide), if_neg (by decide), if_pos rfl,
      readFields_writeFields ih true rest (by omega)]
    rfl

theorem parse_write {j : Json} (h : Whole j) : parse (write j) = some j := by
  have hread := h.readsBack (write j).length [] le_rfl (fun u hu => by cases hu)
  rw [List.append_nil] at hread
  rw [parse, hread]

/-! ### The text is ASCII -/

def Ascii (t : Text) : Prop := ∀ u ∈ t, u < 0x80

lemma Ascii.nil : Ascii [] := fun _ h => absurd h List.not_mem_nil

lemma Ascii.narrow {t : Text} (h : Ascii t) : (t.map UInt16.toUInt8).map UInt8.toUInt16 = t := by
  rw [List.map_map]
  refine (List.map_congr_left (fun u hu => ?_)).trans (List.map_id _)
  have hlt : u.toNat < 128 := h u hu
  rw [Function.comp_apply, id_eq, ← UInt16.toNat_inj, UInt8.toNat_toUInt16, UInt16.toNat_toUInt8]
  exact Nat.mod_eq_of_lt (by omega)

lemma Ascii.append {s t : Text} (hs : Ascii s) (ht : Ascii t) : Ascii (s ++ t) := by
  intro u hu
  exact (List.mem_append.mp hu).elim (hs u) (ht u)

lemma Ascii.cons {u : UInt16} {t : Text} (hu : u < 0x80) (ht : Ascii t) : Ascii (u :: t) := by
  intro v hv
  obtain rfl | hm := List.mem_cons.mp hv
  · exact hu
  · exact ht v hm

lemma ascii_hexUnit {n : ℕ} (h : n < 16) : hexUnit n < 0x80 := by
  have key : ∀ i : Fin 16, hexUnit i < 0x80 := by decide
  exact key ⟨n, h⟩

lemma ascii_writeChars (t : Text) : Ascii (writeChars t) := by
  refine Ascii.append (fun v hv => ?_) (.cons (by decide) .nil)
  obtain ⟨u, -, hu⟩ := List.mem_flatMap.mp hv
  rw [writeUnit] at hu
  have hlt : u.toNat < 65536 := u.toNat_lt
  split_ifs at hu with h
  · obtain rfl := List.mem_singleton.mp hu
    exact UInt16.lt_trans h.2.1 (by decide)
  · simp only [List.mem_cons, List.not_mem_nil, or_false] at hu
    obtain rfl | rfl | rfl | rfl | rfl | rfl := hu
    · decide
    · decide
    · exact ascii_hexUnit (by omega)
    · exact ascii_hexUnit (Nat.mod_lt _ (by decide))
    · exact ascii_hexUnit (Nat.mod_lt _ (by decide))
    · exact ascii_hexUnit (Nat.mod_lt _ (by decide))

lemma ascii_writeDigits (n : ℕ) : Ascii (writeDigits n) := by
  intro u hu
  have hd := isDigit_writeDigits n u hu
  rw [isDigit, Bool.and_eq_true, decide_eq_true_eq, decide_eq_true_eq] at hd
  exact UInt16.lt_of_le_of_lt hd.2 (by decide)

lemma ascii_separator (first : Bool) : Ascii (separator first) := by
  cases first
  · exact .cons (by decide) .nil
  · exact .nil

lemma ascii_writeItems {items : List Json} (h : ∀ item ∈ items, Ascii (write item)) (first : Bool) :
    Ascii (writeItems first items) := by
  induction items generalizing first with
  | nil => exact .cons (by decide) .nil
  | cons item items ih =>
    rw [writeItems]
    exact (ascii_separator first).append ((h item List.mem_cons_self).append
      (ih (fun item hi => h item (List.mem_cons_of_mem _ hi)) false))

lemma ascii_writeFields {fields : List (Text × Json)} (h : ∀ field ∈ fields, Ascii (write field.2)) (first : Bool) :
    Ascii (writeFields first fields) := by
  induction fields generalizing first with
  | nil => exact .cons (by decide) .nil
  | cons field fields ih =>
    obtain ⟨key, value⟩ := field
    rw [writeFields]
    exact (ascii_separator first).append (.append (.cons (by decide) (ascii_writeChars key))
      (.cons (by decide) ((h (key, value) List.mem_cons_self).append
        (ih (fun field hf => h field (List.mem_cons_of_mem _ hf)) false))))

lemma Whole.ascii {j : Json} (h : Whole j) : Ascii (write j) := by
  induction h with
  | null => exact .cons (by decide) (.cons (by decide) (.cons (by decide) (.cons (by decide) .nil)))
  | bool b =>
    cases b
    · exact .cons (by decide) (.cons (by decide) (.cons (by decide) (.cons (by decide) (.cons (by decide) .nil))))
    · exact .cons (by decide) (.cons (by decide) (.cons (by decide) (.cons (by decide) .nil)))
  | number z =>
    rw [write, show (z : ℚ).num = z from rfl]
    cases z with
    | ofNat n => exact ascii_writeDigits n
    | negSucc n => exact .cons (by decide) (ascii_writeDigits (n + 1))
  | string t => exact .cons (by decide) (ascii_writeChars t)
  | array h ih => exact .cons (by decide) (ascii_writeItems ih true)
  | object h ih => exact .cons (by decide) (ascii_writeFields ih true)

end ChatDesktop.Library.Json
