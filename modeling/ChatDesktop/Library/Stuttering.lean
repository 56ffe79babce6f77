import ChatDesktop.Library.Reactive

namespace ChatDesktop.Library.Reactive

variable {σ τ ε δ ω : Type}

/-- What a run shows, `out` being what a step from a state shows. -/
def shown (step : σ → ε → σ) (out : σ → ε → List ω) : σ → List ε → List ω
  | _, [] => []
  | s, e :: es => out s e ++ shown step out (step s e) es

variable {step : σ → ε → σ} {out : σ → ε → List ω} {step' : τ → δ → τ} {out' : τ → δ → List ω} {s : σ} {t : τ}

/-- From the state `t` a run of the lower system goes to a state that `R` allows and shows `seen`. -/
def Answers (step' : τ → δ → τ) (out' : τ → δ → List ω) (t : τ) (seen : List ω) (R : τ → Prop) : Prop :=
  ∃ ds, R (after step' t ds) ∧ shown step' out' t ds = seen

lemma Answers.none {R : τ → Prop} (h : R t) : Answers step' out' t [] R := ⟨[], h, rfl⟩

lemma Answers.one {R : τ → Prop} (d : δ) (h : R (step' t d)) : Answers step' out' t (out' t d) R :=
  ⟨[d], h, List.append_nil _⟩

end ChatDesktop.Library.Reactive
