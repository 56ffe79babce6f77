import ChatDesktop.Library.Text
import Mathlib.Data.Rat.Defs

namespace ChatDesktop.Library

inductive Json
  | null
  | bool (b : Bool)
  | number (n : ℚ)
  | string (t : Text)
  | array (items : List Json)
  | object (fields : List (Text × Json))

namespace Json

abbrev Object := List (Text × Json)

def isString : Json → Bool
  | string _ => true
  | _ => false

def isDouble : Json → Bool
  | number _ => true
  | _ => false

def isObject : Json → Bool
  | object _ => true
  | _ => false

def toText : Json → Text
  | string t => t
  | _ => []

def toObject : Json → Object
  | object fields => fields
  | _ => []

def toDouble : Json → ℚ
  | number n => n
  | _ => 0

def toInt (default : ℤ) : Json → ℤ
  | number n => if n.den = 1 ∧ -2 ^ 31 ≤ n.num ∧ n.num < 2 ^ 31 then n.num else default
  | _ => default

/-- `toVariant().toLongLong()`; a fraction is rounded, halves away from zero. -/
def toLongLong : Json → Int64
  | number n =>
    Int64.ofInt (if n.den = 1 then n.num else if 0 ≤ n.num then (n + 1 / 2).floor else -(1 / 2 - n).floor)
  | string t => Int64.ofInt (t.toLongLong.getD 0)
  | bool true => 1
  | _ => 0

@[simp] lemma toLongLong_number (n : Int64) : (number (n.toInt : ℚ)).toLongLong = n := by
  simp [toLongLong]

lemma toInt_number (default : ℤ) (n : Int32) : (number (n.toInt : ℚ)).toInt default = n.toInt := by
  have hlo := n.le_toInt
  have hhi := n.toInt_lt
  rw [toInt, if_pos ⟨Rat.den_intCast _, by simpa using hlo, by simpa using hhi⟩]
  exact Rat.num_intCast _

@[simp] lemma isString_string (t : Text) : (string t).isString = true := rfl

@[simp] lemma toText_string (t : Text) : (string t).toText = t := rfl

def Object.value (o : Object) (key : Text) : Json := (List.lookup key o).getD null

def Object.contains (o : Object) (key : Text) : Bool := (List.lookup key o).isSome

def Object.insert (o : Object) (key : Text) (value : Json) : Object :=
  (key, value) :: o.filter (fun field => field.1 ≠ key)

@[simp] lemma Object.value_insert_self (o : Object) (key : Text) (value : Json) :
    (o.insert key value).value key = value := by
  simp [Object.value, Object.insert]

lemma Object.lookup_filter (o : Object) {key key' : Text} (h : key' ≠ key) :
    List.lookup key' (o.filter (fun field => field.1 ≠ key)) = List.lookup key' o := by
  induction o with
  | nil => rfl
  | cons field o ih =>
    by_cases hf : field.1 = key
    · rw [List.filter_cons_of_neg (by simpa using hf), ih, List.lookup_cons, hf, beq_false_of_ne h]
    · rw [List.filter_cons_of_pos (by simpa using hf), List.lookup_cons, List.lookup_cons, ih]

@[simp] lemma Object.lookup_insert (o : Object) {key key' : Text} (value : Json) (h : key' ≠ key) :
    List.lookup key' (o.insert key value) = List.lookup key' o := by
  rw [Object.insert, List.lookup_cons, beq_false_of_ne h]
  exact Object.lookup_filter o h

lemma Object.value_insert (o : Object) {key key' : Text} (value : Json) (h : key' ≠ key) :
    (o.insert key value).value key' = o.value key' := by
  rw [Object.value, Object.lookup_insert o value h, Object.value]

lemma Object.contains_insert (o : Object) {key key' : Text} (value : Json) (h : key' ≠ key) :
    (o.insert key value).contains key' = o.contains key' := by
  rw [Object.contains, Object.lookup_insert o value h, Object.contains]

def Object.assign (o : Object) (key : Text) (value : Json) : Object :=
  o.map (fun field => if field.1 = key then (key, value) else field)

@[simp] lemma Object.keys_assign (o : Object) (key : Text) (value : Json) :
    (o.assign key value).map Prod.fst = o.map Prod.fst := by
  rw [Object.assign, List.map_map]
  apply List.map_congr_left
  intro field _
  by_cases hf : field.1 = key
  · rw [Function.comp_apply, if_pos hf, hf]
  · rw [Function.comp_apply, if_neg hf]

lemma Object.value_assign_self {o : Object} {key : Text} (value : Json) (h : key ∈ o.map Prod.fst) :
    (o.assign key value).value key = value := by
  rw [Object.assign]
  induction o with
  | nil => exact absurd h List.not_mem_nil
  | cons field o ih =>
    rw [Object.value, List.map_cons]
    by_cases hf : field.1 = key
    · rw [if_pos hf, List.lookup_cons_self, Option.getD_some]
    · have htail := (List.mem_cons.mp h).resolve_left (Ne.symm hf)
      rw [if_neg hf, List.lookup_cons, beq_false_of_ne (Ne.symm hf)]
      exact ih htail

lemma Object.value_assign (o : Object) {key key' : Text} (value : Json) (h : key' ≠ key) :
    (o.assign key value).value key' = o.value key' := by
  have hlookup : List.lookup key' (o.assign key value) = List.lookup key' o := by
    rw [Object.assign]
    induction o with
    | nil => rfl
    | cons field o ih =>
      rw [List.map_cons, List.lookup_cons]
      by_cases hf : field.1 = key
      · rw [if_pos hf, List.lookup_cons, hf, beq_false_of_ne h]
        exact ih
      · rw [if_neg hf, List.lookup_cons, ih]
  rw [Object.value, hlookup, Object.value]

lemma Object.mem_assign {o : Object} {key : Text} {value : Json} {field : Text × Json}
    (h : field ∈ o.assign key value) : field ∈ o ∨ field = (key, value) := by
  obtain ⟨field', hfield', rfl⟩ := List.mem_map.mp h
  split_ifs
  · exact .inr rfl
  · exact .inl hfield'

end Json

end ChatDesktop.Library
