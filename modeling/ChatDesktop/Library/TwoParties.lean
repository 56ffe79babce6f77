import ChatDesktop.Library.Reactive
import Mathlib.Logic.Function.Basic

namespace ChatDesktop.Library.TwoParties

open Reactive

variable {σ α β μ : Type}

structure Protocol (σ α β μ : Type) where
  act : Bool → σ → α → σ × List μ
  receive : Bool → σ → μ → β → σ × List μ

/-- `wire` is on its way to a party; `sent` and `acts` are what a party has sent and done by itself. -/
structure Network (σ α μ : Type) where
  party : Bool → σ
  wire : Bool → List μ := fun _ => []
  sent : Bool → List μ := fun _ => []
  acts : Bool → List α := fun _ => []

inductive Action (α β : Type)
  | act (side : Bool) (a : α)
  | deliver (side : Bool) (i : ℕ) (b : β)
  | lose (side : Bool) (i : ℕ)

namespace Network

def move (side : Bool) (out : σ × List μ) (n : Network σ α μ) : Network σ α μ :=
  { n with
    party := Function.update n.party side out.1
    wire := Function.update n.wire (!side) (n.wire (!side) ++ out.2)
    sent := Function.update n.sent side (n.sent side ++ out.2) }

def drop (side : Bool) (i : ℕ) (n : Network σ α μ) : Network σ α μ :=
  { n with wire := Function.update n.wire side ((n.wire side).eraseIdx i) }

end Network

def Protocol.step (p : Protocol σ α β μ) (n : Network σ α μ) : Action α β → Network σ α μ
  | .act side a => { n with acts := Function.update n.acts side (n.acts side ++ [a]) }.move side
      (p.act side (n.party side) a)
  | .deliver side i b =>
    match (n.wire side)[i]? with
    | none => n
    | some m => (n.drop side i).move side (p.receive side (n.party side) m b)
  | .lose side i => n.drop side i

def Protocol.run (p : Protocol σ α β μ) (s : Bool → σ) (as : List (Action α β)) : Network σ α μ :=
  after p.step { party := s } as

/-! ### Flows -/

/-- A party sends no more of one kind than it received of another, beside what it has in store and gains. -/
structure Flow (p : Protocol σ α β μ) (side : Bool) (stored : σ → ℕ) (gains : α → Bool) (enters leaves : μ → Bool) :
    Prop where
  act : ∀ s a, stored (p.act side s a).1 + (p.act side s a).2.countP leaves ≤ stored s + if gains a then 1 else 0
  receive : ∀ s m b, stored (p.receive side s m b).1 + (p.receive side s m b).2.countP leaves ≤
    stored s + if enters m then 1 else 0

section

variable {p : Protocol σ α β μ} {side : Bool} {stored : σ → ℕ} {gains : α → Bool} {enters leaves : μ → Bool}
  {n : Network σ α μ} {i : ℕ} {m : μ}

lemma ne_not (side : Bool) : side ≠ !side := by cases side <;> decide

lemma eq_not {side at_ : Bool} (h : ¬side = at_) : at_ = !side := (Bool.eq_not_of_ne (Ne.symm h))

def Balanced (side : Bool) (stored : σ → ℕ) (gains : α → Bool) (enters leaves : μ → Bool) (start : ℕ)
    (n : Network σ α μ) : Prop :=
  stored (n.party side) + (n.sent side).countP leaves + (n.wire side).countP enters ≤
    start + (n.sent (!side)).countP enters + (n.acts side).countP gains

lemma countP_eraseIdx (h : (n.wire side)[i]? = some m) (q : μ → Bool) :
    ((n.wire side).eraseIdx i).countP q + (if q m then 1 else 0) = (n.wire side).countP q := by
  obtain ⟨hi, rfl⟩ := List.getElem?_eq_some_iff.mp h
  conv_rhs => rw [← List.take_append_drop i (n.wire side), List.drop_eq_getElem_cons hi]
  rw [List.eraseIdx_eq_take_drop_succ, List.countP_append, List.countP_append, List.countP_cons]
  omega

lemma countP_eraseIdx_le (l : List μ) (i : ℕ) (q : μ → Bool) : (l.eraseIdx i).countP q ≤ l.countP q :=
  (List.eraseIdx_sublist l i).countP_le

variable {start : ℕ}

lemma Balanced.move_self (h : Balanced side stored gains enters leaves start n) {out : σ × List μ} {c : ℕ}
    (hout : stored out.1 + out.2.countP leaves ≤ stored (n.party side) + c) :
    stored ((n.move side out).party side) + ((n.move side out).sent side).countP leaves +
      ((n.move side out).wire side).countP enters ≤
    start + ((n.move side out).sent (!side)).countP enters + (n.acts side).countP gains + c := by
  have hne := ne_not side
  simp only [Network.move, Function.update_self, Function.update_of_ne hne, Function.update_of_ne hne.symm,
    List.countP_append]
  unfold Balanced at h
  omega

lemma Balanced.move_other (h : Balanced side stored gains enters leaves start n) (out : σ × List μ) :
    Balanced side stored gains enters leaves start (n.move (!side) out) := by
  have hne := ne_not side
  unfold Balanced at h ⊢
  simp only [Network.move, Function.update_self, Function.update_of_ne hne, Bool.not_not, List.countP_append]
  omega

lemma Balanced.drop (h : Balanced side stored gains enters leaves start n) (at_ : Bool) (i : ℕ) :
    Balanced side stored gains enters leaves start (n.drop at_ i) := by
  unfold Balanced at h ⊢
  by_cases hs : side = at_
  · subst hs
    have hle := countP_eraseIdx_le (n.wire side) i enters
    simp only [Network.drop, Function.update_self]
    omega
  · simp only [Network.drop, Function.update_of_ne hs]
    exact h

lemma Balanced.deliver (h : Balanced side stored gains enters leaves start n) (hm : (n.wire side)[i]? = some m)
    {out : σ × List μ}
    (hout : stored out.1 + out.2.countP leaves ≤ stored (n.party side) + if enters m then 1 else 0) :
    Balanced side stored gains enters leaves start ((n.drop side i).move side out) := by
  have hne := ne_not side
  have hwire := countP_eraseIdx hm enters
  unfold Balanced at h ⊢
  simp only [Network.drop, Network.move, Function.update_self, Function.update_of_ne hne,
    Function.update_of_ne hne.symm, List.countP_append]
  omega

lemma Balanced.act (h : Balanced side stored gains enters leaves start n) (at_ : Bool) (a : α) {out : σ × List μ}
    (hout : side = at_ → stored out.1 + out.2.countP leaves ≤ stored (n.party side) + if gains a then 1 else 0) :
    Balanced side stored gains enters leaves start
      ({ n with acts := Function.update n.acts at_ (n.acts at_ ++ [a]) }.move at_ out) := by
  by_cases hs : side = at_
  · subst hs
    have hmoved := h.move_self (hout rfl)
    unfold Balanced
    simp only [Network.move, Function.update_self, List.countP_append, List.countP_singleton] at hmoved ⊢
    omega
  · obtain rfl := eq_not hs
    have hgains : Balanced side stored gains enters leaves start
        { n with acts := Function.update n.acts (!side) (n.acts (!side) ++ [a]) } := by
      unfold Balanced at h ⊢
      simp only [Function.update_of_ne hs]
      exact h
    exact hgains.move_other out

lemma Flow.step (f : Flow p side stored gains enters leaves)
    (h : Balanced side stored gains enters leaves start n) (a : Action α β) :
    Balanced side stored gains enters leaves start (p.step n a) := by
  cases a with
  | act at_ a =>
    apply h.act
    rintro rfl
    exact f.act _ a
  | deliver at_ i b =>
    unfold Protocol.step
    dsimp only
    cases hm : (n.wire at_)[i]? with
    | none => exact h
    | some m =>
      by_cases hs : side = at_
      · subst hs
        exact h.deliver hm (f.receive _ m b)
      · obtain rfl := eq_not hs
        exact (h.drop _ i).move_other _
  | lose at_ i => exact h.drop at_ i

theorem Flow.bound (f : Flow p side stored gains enters leaves) (s : Bool → σ) (as : List (Action α β)) :
    ((p.run s as).sent side).countP leaves ≤
      stored (s side) + ((p.run s as).sent (!side)).countP enters + ((p.run s as).acts side).countP gains := by
  have hbalanced : ∀ (as : List (Action α β)) (n : Network σ α μ),
      Balanced side stored gains enters leaves (stored (s side)) n →
      Balanced side stored gains enters leaves (stored (s side)) (after p.step n as) := by
    intro as
    induction as with
    | nil => exact fun n h => h
    | cons a as ih => exact fun n h => ih _ (f.step h a)
  have h := hbalanced as { party := s } (by simp [Balanced])
  unfold Balanced at h
  unfold Protocol.run
  omega

end

/-! ### What a party has from the other -/

/-- `K` of a party and the messages of the other stays true as it acts and as it receives one of them. -/
structure Knows (p : Protocol σ α β μ) (side : Bool) (K : List μ → σ → Prop) : Prop where
  mono : ∀ ms ms' s, K ms s → K (ms ++ ms') s
  act : ∀ ms s a, K ms s → K ms (p.act side s a).1
  receive : ∀ ms s m b, m ∈ ms → K ms s → K ms (p.receive side s m b).1

section

variable {p : Protocol σ α β μ} {side : Bool} {K : List μ → σ → Prop} {n : Network σ α μ} {i : ℕ}

/-- Messages on the wire were sent, and `K` holds of what was sent. -/
structure Informed (side : Bool) (K : List μ → σ → Prop) (n : Network σ α μ) : Prop where
  wire : ∀ m ∈ n.wire side, m ∈ n.sent (!side)
  knows : K (n.sent (!side)) (n.party side)

lemma Informed.drop (h : Informed side K n) (at_ : Bool) (i : ℕ) : Informed side K (n.drop at_ i) := by
  refine ⟨fun m hm => h.wire m ?_, h.knows⟩
  by_cases hs : side = at_
  · subst hs
    simp only [Network.drop, Function.update_self] at hm
    exact List.mem_of_mem_eraseIdx hm
  · simp only [Network.drop, Function.update_of_ne hs] at hm
    exact hm

lemma Informed.move_self (h : Informed side K n) {out : σ × List μ} (hout : K (n.sent (!side)) out.1) :
    Informed side K (n.move side out) := by
  have hne := ne_not side
  constructor
  · simp only [Network.move, Function.update_of_ne hne, Function.update_of_ne hne.symm]
    exact h.wire
  · simp only [Network.move, Function.update_self, Function.update_of_ne hne.symm]
    exact hout

lemma Informed.move_other (hk : Knows p side K) (h : Informed side K n) (out : σ × List μ) :
    Informed side K (n.move (!side) out) := by
  have hne := ne_not side
  constructor
  · simp only [Network.move, Function.update_self, Bool.not_not]
    intro m hm
    rcases List.mem_append.mp hm with hm | hm
    · exact List.mem_append_left _ (h.wire m hm)
    · exact List.mem_append_right _ hm
  · simp only [Network.move, Function.update_self, Function.update_of_ne hne]
    exact hk.mono _ _ _ h.knows

lemma Knows.step (hk : Knows p side K) (h : Informed side K n) (a : Action α β) : Informed side K (p.step n a) := by
  cases a with
  | act at_ a =>
    have hacts : Informed side K { n with acts := Function.update n.acts at_ (n.acts at_ ++ [a]) } := ⟨h.wire, h.knows⟩
    by_cases hs : side = at_
    · subst hs
      exact hacts.move_self (hk.act _ _ a h.knows)
    · obtain rfl := eq_not hs
      exact hacts.move_other hk _
  | deliver at_ i b =>
    unfold Protocol.step
    dsimp only
    cases hm : (n.wire at_)[i]? with
    | none => exact h
    | some m =>
      by_cases hs : side = at_
      · subst hs
        have hsent := h.wire m (List.mem_of_getElem? hm)
        exact (h.drop side i).move_self (hk.receive _ _ m b hsent h.knows)
      · obtain rfl := eq_not hs
        exact (h.drop _ i).move_other hk _
  | lose at_ i => exact h.drop at_ i

theorem Knows.run (hk : Knows p side K) {s : Bool → σ} (hs : K [] (s side)) (as : List (Action α β)) :
    K ((p.run s as).sent (!side)) ((p.run s as).party side) := by
  have hinformed : ∀ (as : List (Action α β)) (n : Network σ α μ),
      Informed side K n → Informed side K (after p.step n as) := by
    intro as
    induction as with
    | nil => exact fun n h => h
    | cons a as ih => exact fun n h => ih _ (hk.step h a)
  exact (hinformed as { party := s } ⟨nofun, hs⟩).knows

end

/-! ### What a party sends -/

structure Makes (p : Protocol σ α β μ) (side : Bool) (Q : List α → μ → Prop) : Prop where
  mono : ∀ as as' m, as ⊆ as' → Q as m → Q as' m
  act : ∀ s a, ∀ m ∈ (p.act side s a).2, Q [a] m
  receive : ∀ s m b, ∀ m' ∈ (p.receive side s m b).2, Q [] m'

section

variable {p : Protocol σ α β μ} {side : Bool} {Q : List α → μ → Prop} {n : Network σ α μ}

lemma sent_move (out : σ × List μ) : (n.move side out).sent side = n.sent side ++ out.2 := by
  simp only [Network.move, Function.update_self]

lemma sent_move_other (out : σ × List μ) : (n.move (!side) out).sent side = n.sent side := by
  simp only [Network.move, Function.update_of_ne (ne_not side)]

lemma Makes.step (hq : Makes p side Q) (h : ∀ m ∈ n.sent side, Q (n.acts side) m) (a : Action α β) :
    ∀ m ∈ (p.step n a).sent side, Q ((p.step n a).acts side) m := by
  cases a with
  | act at_ a =>
    unfold Protocol.step
    by_cases hs : side = at_
    · subst hs
      intro m hm
      have hacts : n.acts side ⊆ n.acts side ++ [a] := List.subset_append_left _ _
      have hlast : [a] ⊆ n.acts side ++ [a] := List.subset_append_right _ _
      rw [sent_move] at hm
      simp only [Network.move, Function.update_self]
      rcases List.mem_append.mp hm with hm | hm
      · exact hq.mono _ _ m hacts (h m hm)
      · exact hq.mono _ _ m hlast (hq.act _ a m hm)
    · obtain rfl := eq_not hs
      rw [sent_move_other]
      simp only [Network.move, Function.update_of_ne hs]
      exact h
  | deliver at_ i b =>
    unfold Protocol.step
    dsimp only
    cases hm : (n.wire at_)[i]? with
    | none => exact h
    | some m =>
      by_cases hs : side = at_
      · subst hs
        intro m' hm'
        rw [sent_move] at hm'
        rcases List.mem_append.mp hm' with hm' | hm'
        · exact h m' hm'
        · exact hq.mono _ _ m' (List.nil_subset _) (hq.receive _ m b m' hm')
      · obtain rfl := eq_not hs
        rw [sent_move_other]
        exact h
  | lose at_ i => exact h

theorem Makes.run (hq : Makes p side Q) (s : Bool → σ) (as : List (Action α β)) :
    ∀ m ∈ (p.run s as).sent side, Q ((p.run s as).acts side) m := by
  have hmade : ∀ (as : List (Action α β)) (n : Network σ α μ), (∀ m ∈ n.sent side, Q (n.acts side) m) →
      ∀ m ∈ (after p.step n as).sent side, Q ((after p.step n as).acts side) m := by
    intro as
    induction as with
    | nil => exact fun n h => h
    | cons a as ih => exact fun n h => ih _ (hq.step h a)
  exact hmade as { party := s } nofun

end

end ChatDesktop.Library.TwoParties
