import Mathlib.Tactic.Common

namespace ChatDesktop.Library.Reactive

variable {σ ε : Type}

def after (step : σ → ε → σ) (s : σ) (es : List ε) : σ := es.foldl step s

/-- `P` holds at each step, of the state before the event and the event. -/
def Each (step : σ → ε → σ) (P : σ → ε → Prop) : σ → List ε → Prop
  | _, [] => True
  | s, e :: es => P s e ∧ Each step P (step s e) es

variable {step : σ → ε → σ} {s : σ} {e : ε} {es es' : List ε} {I : σ → Prop} {P Q : σ → ε → Prop}

@[simp] lemma after_nil : after step s [] = s := rfl

@[simp] lemma after_cons : after step s (e :: es) = after step (step s e) es := rfl

lemma after_append : after step s (es ++ es') = after step (after step s es) es' := List.foldl_append

@[simp] lemma each_nil : Each step P s [] ↔ True := Iff.rfl

@[simp] lemma each_cons : Each step P s (e :: es) ↔ P s e ∧ Each step P (step s e) es := Iff.rfl

instance decidableEach [∀ s e, Decidable (P s e)] : ∀ (s : σ) (es : List ε), Decidable (Each step P s es)
  | _, [] => isTrue trivial
  | s, e :: es =>
    have := decidableEach (step s e) es
    inferInstanceAs (Decidable (P s e ∧ Each step P (step s e) es))

lemma each_append : Each step P s (es ++ es') ↔ Each step P s es ∧ Each step P (after step s es) es' := by
  induction es generalizing s with
  | nil => simp only [List.nil_append, each_nil, after_nil, true_and]
  | cons e es ih => simp only [List.cons_append, each_cons, after_cons, ih, and_assoc]

lemma Each.invariant (h : Each step P s es) (hs : I s) (hkeep : ∀ s e, I s → P s e → I (step s e)) :
    I (after step s es) := by
  induction es generalizing s with
  | nil => exact hs
  | cons e es ih =>
    apply ih h.2
    exact hkeep s e hs h.1

lemma Each.and_mem {C : ε → Prop} (h : Each step P s es) (hC : ∀ e ∈ es, C e) :
    Each step (fun s e => P s e ∧ C e) s es := by
  induction es generalizing s with
  | nil => trivial
  | cons e es ih =>
    constructor
    · exact ⟨h.1, hC e List.mem_cons_self⟩
    · exact ih h.2 fun e he => hC e (List.mem_cons_of_mem _ he)

lemma Each.imp (h : Each step P s es) (hs : I s) (hkeep : ∀ s e, I s → P s e → I (step s e))
    (hQ : ∀ s e, I s → P s e → Q s e) : Each step Q s es := by
  induction es generalizing s with
  | nil => trivial
  | cons e es ih =>
    constructor
    · exact hQ s e hs h.1
    · apply ih h.2
      exact hkeep s e hs h.1

/-- What is exactly needed for a step to keep `K`, under an invariant `G` that every step keeps, is exactly
needed for a run. -/
lemma Each.iff_kept {G K : σ → Prop} {H : σ → ε → Prop} (h : Each step H s es) (hg : G s) (hk : K s)
    (hstep : ∀ s e, G s → H s e → G (step s e) ∧ (K s → (P s e ↔ K (step s e)))) :
    Each step P s es ↔ Each step (fun s e => K (step s e)) s es := by
  induction es generalizing s with
  | nil => exact Iff.rfl
  | cons e es ih =>
    obtain ⟨hg', hiff⟩ := hstep s e hg h.1
    rw [each_cons, each_cons, hiff hk]
    exact and_congr_right fun hk' => ih h.2 hg' hk'

lemma Each.iff_invariant {H : σ → ε → Prop} (h : Each step H s es) (hs : I s)
    (hiff : ∀ s e, I s → H s e → (P s e ↔ I (step s e))) :
    Each step P s es ↔ Each step (fun s e => I (step s e)) s es :=
  h.iff_kept (G := fun _ => True) trivial hs fun s e _ hH => ⟨trivial, fun hI => hiff s e hI hH⟩

lemma each_true : Each step (fun _ _ => True) s es := by
  induction es generalizing s with
  | nil => trivial
  | cons e es ih => exact ⟨trivial, ih⟩

end ChatDesktop.Library.Reactive
