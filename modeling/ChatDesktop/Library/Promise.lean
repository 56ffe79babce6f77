import Mathlib.Tactic.Common

namespace ChatDesktop.Library

/-- `finishes` has an entry for each time the promise was finished: whether it was canceled by then. -/
structure Promise (α : Type) where
  canceled : Bool := false
  results : List α := []
  finishes : List Bool := []
  deriving DecidableEq

namespace Promise

variable {α : Type}

def isFinished (p : Promise α) : Bool := !p.finishes.isEmpty

def cancel (p : Promise α) : Promise α := { p with canceled := true }

def addResult (result : α) (p : Promise α) : Promise α :=
  if p.canceled || p.isFinished then p else { p with results := p.results ++ [result] }

def finish (p : Promise α) : Promise α := { p with finishes := p.finishes ++ [p.canceled] }

/-- What happens to a promise that is completed by its owner and canceled by anyone. -/
inductive Move (α : Type)
  | cancel
  | complete (result : α)

def move (p : Promise α) : Move α → Promise α
  | .cancel => p.cancel
  | .complete result => if p.isFinished then p else (p.addResult result).finish

def moves (p : Promise α) (ms : List (Move α)) : Promise α := ms.foldl move p

structure Settled (p : Promise α) : Prop where
  once : p.finishes.length ≤ 1
  result : ∀ canceled ∈ p.finishes, p.results.length = if canceled then 0 else 1
  pending : p.finishes = [] → p.results = []
  canceled : true ∈ p.finishes → p.canceled = true

variable {p q : Promise α} {result : α} {m : Move α} {ms : List (Move α)}

lemma isFinished_iff : p.isFinished = true ↔ p.finishes ≠ [] := by
  rw [isFinished, Bool.not_eq_true', List.isEmpty_eq_false_iff]

lemma settled_new (canceled : Bool) : Settled ({ canceled := canceled } : Promise α) :=
  ⟨Nat.zero_le _, nofun, fun _ => rfl, nofun⟩

lemma addResult_of_canceled (hc : p.canceled = true) (result : α) : p.addResult result = p := by
  rw [addResult, hc]
  rfl

lemma move_complete (hf : p.isFinished = false) (result : α) :
    p.move (.complete result) = (p.addResult result).finish := by
  rw [move, hf, if_neg Bool.false_ne_true]

lemma finishes_of_not_finished (hf : p.isFinished = false) : p.finishes = [] := by
  by_contra hne
  exact Bool.false_ne_true (hf.symm.trans (isFinished_iff.mpr hne))

lemma move_complete_of_canceled (hf : p.isFinished = false) (hc : p.canceled = true) (result : α) :
    p.move (.complete result) = p.finish := by
  rw [move_complete hf, addResult_of_canceled hc]

lemma move_complete_of_not_canceled (hf : p.isFinished = false) (hc : p.canceled = false) (result : α) :
    p.move (.complete result) = { p with results := p.results ++ [result], finishes := p.finishes ++ [false] } := by
  have hadd : p.addResult result = { p with results := p.results ++ [result] } := by
    rw [addResult, hc, hf]
    rfl
  rw [move_complete hf, hadd, finish, hc]

lemma isFinished_move_complete (p : Promise α) (result : α) : (p.move (.complete result)).isFinished = true := by
  rw [move]
  split_ifs with hf
  · exact hf
  · exact isFinished_iff.mpr (List.append_ne_nil_of_right_ne_nil _ (List.cons_ne_nil _ _))

lemma Settled.move (h : p.Settled) (m : Move α) : (p.move m).Settled := by
  cases m with
  | cancel => exact ⟨h.once, h.result, h.pending, fun _ => rfl⟩
  | complete result =>
    cases hf : p.isFinished with
    | true =>
      rw [Promise.move, hf]
      exact h
    | false =>
      have hnone := finishes_of_not_finished hf
      cases hc : p.canceled with
      | true =>
        rw [move_complete_of_canceled hf hc, finish, hnone, hc]
        refine ⟨Nat.le_refl 1, fun canceled hmem => ?_, nofun, fun _ => rfl⟩
        obtain rfl := List.mem_singleton.mp hmem
        rw [if_pos rfl, h.pending hnone]
        rfl
      | false =>
        rw [move_complete_of_not_canceled hf hc, hnone, h.pending hnone]
        refine ⟨Nat.le_refl 1, fun canceled hmem => ?_, nofun, nofun⟩
        obtain rfl := List.mem_singleton.mp hmem
        rfl

lemma Settled.exists_result (h : p.Settled) (hf : p.isFinished = true) (hc : p.canceled = false) :
    ∃ result, p.results = [result] := by
  obtain ⟨canceled, rest, hfinishes⟩ := List.exists_cons_of_ne_nil (isFinished_iff.mp hf)
  have hmem : canceled ∈ p.finishes := hfinishes ▸ List.mem_cons_self
  have hfalse : canceled = false := by
    cases canceled with
    | false => rfl
    | true => exact absurd (hc.symm.trans (h.canceled hmem)) Bool.false_ne_true
  have hlength := h.result canceled hmem
  rw [hfalse, if_neg Bool.false_ne_true] at hlength
  exact List.length_eq_one_iff.mp hlength

lemma canceled_move (h : p.canceled = true) (m : Move α) : (p.move m).canceled = true := by
  cases m with
  | cancel => rfl
  | complete result =>
    cases hf : p.isFinished with
    | true => rwa [move, hf]
    | false => rwa [move_complete_of_canceled hf h]

lemma isFinished_move (h : p.isFinished = true) (m : Move α) : (p.move m).isFinished = true := by
  cases m with
  | cancel => exact h
  | complete result => exact isFinished_move_complete p result

lemma results_move (h : p.isFinished = true) (m : Move α) : (p.move m).results = p.results := by
  cases m with
  | cancel => rfl
  | complete result =>
    rw [move, h]
    rfl

/-! ### Promises that have moved on -/

def Moved (p q : Promise α) : Prop := ∃ ms, q = p.moves ms

lemma Moved.refl (p : Promise α) : Moved p p := ⟨[], rfl⟩

lemma Moved.move (h : Moved p q) (m : Move α) : Moved p (q.move m) := by
  obtain ⟨ms, rfl⟩ := h
  refine ⟨ms ++ [m], ?_⟩
  rw [moves, moves, List.foldl_append]
  rfl

lemma Moved.trans {r : Promise α} (h : Moved p q) (h' : Moved q r) : Moved p r := by
  obtain ⟨ms, rfl⟩ := h
  obtain ⟨ms', rfl⟩ := h'
  refine ⟨ms ++ ms', ?_⟩
  rw [moves, moves, moves, List.foldl_append]

lemma Moved.keeps {P : Promise α → Prop} (h : Moved p q) (hp : P p) (hmove : ∀ p m, P p → P (p.move m)) : P q := by
  obtain ⟨ms, rfl⟩ := h
  induction ms generalizing p with
  | nil => exact hp
  | cons m ms ih => exact ih (hmove p m hp)

lemma Moved.settled (h : Moved p q) (hs : p.Settled) : q.Settled := by
  exact h.keeps hs fun _ m hs => hs.move m

end Promise

end ChatDesktop.Library
