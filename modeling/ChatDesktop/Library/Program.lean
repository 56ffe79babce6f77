import Mathlib.Tactic.Common

namespace ChatDesktop.Library.Program

def Prog (σ ε α : Type) : Type := σ → Except ε α × σ

variable {σ ε α β : Type}

instance : Monad (Prog σ ε) where
  pure a := fun s => (.ok a, s)
  bind p f := fun s =>
    match p s with
    | (.ok a, t) => f a t
    | (.error e, t) => (.error e, t)

namespace Prog

def throw (e : ε) : Prog σ ε α := fun s => (.error e, s)

def get : Prog σ ε σ := fun s => (.ok s, s)

def modify (f : σ → σ) : Prog σ ε Unit := fun s => (.ok (), f s)

def read (f : σ → Except ε α) : Prog σ ε α := fun s => (f s, s)

def when (c : Prop) [Decidable c] (p : Prog σ ε Unit) : Prog σ ε Unit :=
  if c then p else (pure () : Prog σ ε Unit)

end Prog

@[simp] lemma pure_apply (a : α) (s : σ) : (pure a : Prog σ ε α) s = (.ok a, s) := rfl

lemma bind_apply (p : Prog σ ε α) (f : α → Prog σ ε β) (s : σ) :
    (p >>= f) s = match p s with
      | (.ok a, t) => f a t
      | (.error e, t) => (.error e, t) := rfl

@[simp] lemma throw_apply (e : ε) (s : σ) : (Prog.throw e : Prog σ ε α) s = (.error e, s) := rfl

@[simp] lemma get_apply (s : σ) : (Prog.get : Prog σ ε σ) s = (.ok s, s) := rfl

@[simp] lemma modify_apply (f : σ → σ) (s : σ) :
    (Prog.modify f : Prog σ ε Unit) s = (.ok (), f s) := rfl

@[simp] lemma read_apply (f : σ → Except ε α) (s : σ) :
    (Prog.read f : Prog σ ε α) s = (f s, s) := rfl

lemma when_pos {c : Prop} [Decidable c] (h : c) (p : Prog σ ε Unit) : Prog.when c p = p := if_pos h

lemma when_neg {c : Prop} [Decidable c] (h : ¬c) (p : Prog σ ε Unit) :
    Prog.when c p = pure () := if_neg h

@[simp] lemma pure_bind (a : α) (f : α → Prog σ ε β) : ((pure a : Prog σ ε α) >>= f) = f a := rfl

@[simp] lemma throw_bind (e : ε) (f : α → Prog σ ε β) :
    ((Prog.throw e : Prog σ ε α) >>= f) = Prog.throw e := rfl

lemma bind_assoc {γ : Type} (p : Prog σ ε α) (f : α → Prog σ ε β) (g : β → Prog σ ε γ) :
    ((p >>= f) >>= g) = (p >>= fun a => f a >>= g) := by
  funext s
  simp only [bind_apply]
  rcases p s with ⟨_ | _, _⟩ <;> rfl

@[simp] lemma get_bind_apply (f : σ → Prog σ ε β) (s : σ) :
    ((Prog.get : Prog σ ε σ) >>= f) s = f s s := rfl

@[simp] lemma modify_bind_apply (g : σ → σ) (f : Unit → Prog σ ε β) (s : σ) :
    ((Prog.modify g : Prog σ ε Unit) >>= f) s = f () (g s) := rfl

lemma bind_ok {p : Prog σ ε α} {f : α → Prog σ ε β} {s t : σ} {a : α} (h : p s = (.ok a, t)) :
    (p >>= f) s = f a t := by simp only [bind_apply, h]

lemma bind_error {p : Prog σ ε α} {f : α → Prog σ ε β} {s t : σ} {e : ε}
    (h : p s = (.error e, t)) : (p >>= f) s = (.error e, t) := by simp only [bind_apply, h]

lemma bind_ok_iff {p : Prog σ ε α} {f : α → Prog σ ε β} {s t : σ} {b : β} :
    (p >>= f) s = (.ok b, t) ↔ ∃ a u, p s = (.ok a, u) ∧ f a u = (.ok b, t) := by
  rw [bind_apply]
  rcases p s with ⟨_ | a, u⟩ <;> simp

/-- From `P`, a run that returns `a` ends in `Q a`, one that throws `e` ends in `E e`. -/
def Triple (P : σ → Prop) (p : Prog σ ε α) (Q : α → σ → Prop) (E : ε → σ → Prop) : Prop :=
  ∀ s, P s → match p s with
    | (.ok a, t) => Q a t
    | (.error e, t) => E e t

section Rules

variable {P P' : σ → Prop} {Q Q' : α → σ → Prop} {E E' : ε → σ → Prop}

lemma Triple.pure (a : α) (h : ∀ s, P s → Q a s) : Triple P (pure a : Prog σ ε α) Q E :=
  fun s hs => h s hs

lemma Triple.throw (e : ε) (h : ∀ s, P s → E e s) : Triple P (Prog.throw e : Prog σ ε α) Q E :=
  fun s hs => h s hs

lemma Triple.conseq {p : Prog σ ε α} (h : Triple P p Q E) (hP : ∀ s, P' s → P s)
    (hQ : ∀ a s, Q a s → Q' a s) (hE : ∀ e s, E e s → E' e s) : Triple P' p Q' E' := by
  intro s hs
  have hh := h s (hP s hs)
  rcases hp : p s with ⟨_ | _, _⟩ <;> rw [hp] at hh
  · exact hE _ _ hh
  · exact hQ _ _ hh

lemma Triple.bind {p : Prog σ ε α} {f : α → Prog σ ε β} {R : β → σ → Prop}
    (hp : Triple P p Q E) (hf : ∀ a, Triple (Q a) (f a) R E) : Triple P (p >>= f) R E := by
  intro s hs
  rw [bind_apply]
  have hh := hp s hs
  rcases h : p s with ⟨_ | a, t⟩ <;> rw [h] at hh
  · exact hh
  · exact hf a t hh

lemma Triple.ite {c : Prop} [Decidable c] {p p' : Prog σ ε α} (h : c → Triple P p Q E) (h' : ¬c → Triple P p' Q E) :
    Triple P (if c then p else p') Q E := by
  split_ifs with hc
  · exact h hc
  · exact h' hc

end Rules

/-! ### Programs seen through a view of the state -/

/-- From states that look like `v`, the program ends with a result and a look that `Q` allows. -/
def Observed {V : Type} (view : σ → V) (v : V) (p : Prog σ ε α) (Q : Except ε α → V → Prop) : Prop :=
  ∀ s, view s = v → Q (p s).1 (view (p s).2)

section Observed

variable {V : Type} {view : σ → V} {v : V} {p : Prog σ ε α} {Q Q' : Except ε α → V → Prop} {R : Except ε β → V → Prop}

lemma Observed.pure {a : α} (h : Q (.ok a) v) : Observed view v (pure a : Prog σ ε α) Q := by
  rintro s rfl
  exact h

lemma Observed.throw {e : ε} (h : Q (.error e) v) : Observed view v (Prog.throw e : Prog σ ε α) Q := by
  rintro s rfl
  exact h

lemma Observed.imp (h : Observed view v p Q) (hQ : ∀ r u, Q r u → Q' r u) : Observed view v p Q' :=
  fun s hs => hQ _ _ (h s hs)

lemma Observed.bind {f : α → Prog σ ε β} (h : Observed view v p Q)
    (hok : ∀ a u, Q (.ok a) u → Observed view u (f a) R) (herr : ∀ e u, Q (.error e) u → R (.error e) u) :
    Observed view v (p >>= f) R := by
  intro s hs
  have hh := h s hs
  rw [bind_apply]
  rcases hp : p s with ⟨e | a, t⟩
  · rw [hp] at hh
    exact herr e _ hh
  · rw [hp] at hh
    exact hok a _ hh t rfl

lemma Observed.ite {c : Prop} [Decidable c] {p' : Prog σ ε α} (h : c → Observed view v p Q)
    (h' : ¬c → Observed view v p' Q) : Observed view v (if c then p else p') Q := by
  split_ifs with hc
  · exact h hc
  · exact h' hc

end Observed

end ChatDesktop.Library.Program
