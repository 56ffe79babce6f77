import ChatDesktop.Library.Transition
import ChatDesktop.Storage.LocalStorage
import Mathlib.Logic.Function.Basic

/-! What a store is for: tagged byte strings under numbers the store chooses, and names for some
of them. -/

namespace ChatDesktop.Storage

open Library

inductive Op
  | insert (data : Bytes) (tag : UInt32)
  | update (id : ℕ) (data : Bytes)
  | remove (id : ℕ)
  | setRoot (name : Bytes) (id : ℕ)
  | removeRoot (name : Bytes)
  deriving DecidableEq

inductive Outcome
  | inserted (id : ℕ)
  | answered (b : Bool)
  | named
  | failed (e : Error)
  deriving DecidableEq

structure Store where
  record : ℕ → Option (UInt32 × Bytes)
  root : Bytes → Option ℕ

namespace Store

def empty : Store := ⟨fun _ => none, fun _ => none⟩

def reservedTag : Error := .invalidArgument "tag tag 0xFFFFFFFF is reserved "
def noSuchRecord : Error := .invalidArgument "no such record"

def put (a : Store) (id : ℕ) (r : UInt32 × Bytes) : Store :=
  { a with record := Function.update a.record id (some r) }

def delete (a : Store) (id : ℕ) : Store where
  record := Function.update a.record id none
  root name := if a.root name = some id then none else a.root name

def name (a : Store) (n : Bytes) (id : Option ℕ) : Store :=
  { a with root := Function.update a.root n id }

/-- The number of a new record is the store's choice among those not in use. -/
inductive Step : Store → Op × Outcome → Store → Prop
  | insert (a : Store) (data : Bytes) (tag : UInt32) (id : ℕ) (htag : tag ≠ kDirTag)
      (hpos : 0 < id) (hnew : a.record id = none) : Step a (.insert data tag, .inserted id) (a.put id (tag, data))
  | insertReserved (a : Store) (data : Bytes) :
      Step a (.insert data kDirTag, .failed reservedTag) a
  | update (a : Store) (id : ℕ) (tag : UInt32) (old data : Bytes) (h : a.record id = some (tag, old)) :
      Step a (.update id data, .answered true) (a.put id (tag, data))
  | updateMissing (a : Store) (id : ℕ) (data : Bytes) (h : a.record id = none) :
      Step a (.update id data, .answered false) a
  | remove (a : Store) (id : ℕ) (h : (a.record id).isSome = true) :
      Step a (.remove id, .answered true) (a.delete id)
  | removeMissing (a : Store) (id : ℕ) (h : a.record id = none) : Step a (.remove id, .answered false) a
  | setRoot (a : Store) (n : Bytes) (id : ℕ) (h : (a.record id).isSome = true) :
      Step a (.setRoot n id, .named) (a.name n (some id))
  | setRootMissing (a : Store) (n : Bytes) (id : ℕ) (h : a.record id = none) :
      Step a (.setRoot n id, .failed noSuchRecord) a
  | removeRoot (a : Store) (n : Bytes) (h : (a.root n).isSome = true) :
      Step a (.removeRoot n, .answered true) (a.name n none)
  | removeRootMissing (a : Store) (n : Bytes) (h : a.root n = none) :
      Step a (.removeRoot n, .answered false) a

def RootsLive (a : Store) : Prop := ∀ n id, a.root n = some id → (a.record id).isSome = true

variable {a b : Store} {l : Op × Outcome} {id : ℕ}

lemma RootsLive.empty : RootsLive empty := fun _ _ h => by cases h

lemma RootsLive.put (h : RootsLive a) (r : UInt32 × Bytes) : RootsLive (a.put id r) := by
  intro n i hn
  by_cases hi : i = id
  · simp [Store.put, hi]
  · simp only [Store.put, Function.update_of_ne hi]
    exact h n i hn

lemma RootsLive.delete (h : RootsLive a) : RootsLive (a.delete id) := by
  intro n i hn
  simp only [Store.delete] at hn ⊢
  split_ifs at hn with hd
  have hne : i ≠ id := by
    rintro rfl
    exact hd hn
  rw [Function.update_of_ne hne]
  exact h n i hn

lemma RootsLive.step (h : RootsLive a) (hs : Step a l b) : RootsLive b := by
  cases hs with
  | insert _ _ _ _ _ => exact h.put _
  | update => exact h.put _
  | remove => exact h.delete
  | setRoot n id hid =>
    intro m i hm
    simp only [Store.name] at hm ⊢
    by_cases hn : m = n
    · rw [hn, Function.update_self] at hm
      rwa [← Option.some.inj hm]
    · rw [Function.update_of_ne hn] at hm
      exact h m i hm
  | removeRoot n _ =>
    intro m i hm
    simp only [Store.name] at hm ⊢
    by_cases hn : m = n
    · simp [hn] at hm
    · rw [Function.update_of_ne hn] at hm
      exact h m i hm
  | _ => exact h

end Store

end ChatDesktop.Storage
