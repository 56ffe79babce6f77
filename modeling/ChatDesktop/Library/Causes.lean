import ChatDesktop.Library.Reactive
import Mathlib.Data.List.Induction

namespace ChatDesktop.Library.Reactive

variable {σ ε : Type}

/-- An event of the run brings it about, and no later one ends it. -/
def Since (step : σ → ε → σ) (s : σ) (brings : σ → ε → Prop) (ends : ε → Prop) (es : List ε) : Prop :=
  ∃ before e later, es = before ++ e :: later ∧ brings (after step s before) e ∧ ∀ x ∈ later, ¬ends x

variable {step : σ → ε → σ} {s : σ} {brings : σ → ε → Prop} {ends : ε → Prop} {es : List ε} {e : ε}

lemma since_concat (h : brings (after step s es) e ∨ Since step s brings ends es ∧ ¬ends e) :
    Since step s brings ends (es ++ [e]) := by
  obtain h | ⟨⟨before, x, later, rfl, hx, hlater⟩, he⟩ := h
  · exact ⟨es, e, [], rfl, h, nofun⟩
  · refine ⟨before, x, later ++ [e], by rw [List.append_assoc, List.cons_append], hx, fun y hy => ?_⟩
    obtain hy | hy := List.mem_append.mp hy
    · exact hlater y hy
    · rwa [List.mem_singleton.mp hy]

/-- `W p` bounds what holds by `p`. If a step brings it about or keeps it, it has a cause in each run. -/
lemma since_run {W : Prop → σ → Prop} (hmono : ∀ {p q : Prop} {s}, (p → q) → W p s → W q s) (h : W False s)
    (hstep : ∀ {p : Prop} {s} e, W p s → W (brings s e ∨ p ∧ ¬ends e) (step s e)) (es : List ε) :
    W (Since step s brings ends es) (after step s es) := by
  induction es using List.reverseRecOn with
  | nil => exact hmono False.elim h
  | append_singleton es e ih =>
    rw [after_append]
    exact hmono since_concat (hstep e ih)

end ChatDesktop.Library.Reactive
