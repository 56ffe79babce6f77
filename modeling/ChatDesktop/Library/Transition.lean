import Mathlib.Tactic.Common

namespace ChatDesktop.Library.Transition

variable {σ τ ℓ : Type}

inductive Run (step : σ → ℓ → σ → Prop) : σ → List ℓ → σ → Prop
  | nil (s : σ) : Run step s [] s
  | cons {s t u : σ} {l : ℓ} {ls : List ℓ} : step s l t → Run step t ls u → Run step s (l :: ls) u

variable {step : σ → ℓ → σ → Prop} {step' : τ → ℓ → τ → Prop} {s t u : σ} {l : ℓ} {ls ls' : List ℓ}

lemma Run.single (h : step s l t) : Run step s [l] t := .cons h (.nil t)

lemma Run.mono {step' : σ → ℓ → σ → Prop} (h : Run step s ls t) (hm : ∀ s l t, step s l t → step' s l t) :
    Run step' s ls t := by
  induction h with
  | nil s => exact .nil s
  | cons hs _ ih => exact .cons (hm _ _ _ hs) ih

lemma Run.invariant {P : σ → Prop} (h : Run step s ls t) (hs : P s)
    (hstep : ∀ s l t, l ∈ ls → P s → step s l t → P t) : P t := by
  induction h with
  | nil => exact hs
  | cons hst _ ih =>
    exact ih (hstep _ _ _ List.mem_cons_self hs hst)
      (fun s l t hl => hstep s l t (List.mem_cons_of_mem _ hl))

lemma Run.simulation {R : σ → τ → Prop} {a : τ} (h : Run step s ls t) (hs : R s a)
    (hstep : ∀ s l t a, l ∈ ls → R s a → step s l t → ∃ b, step' a l b ∧ R t b) :
    ∃ b, Run step' a ls b ∧ R t b := by
  induction h generalizing a with
  | nil => exact ⟨a, .nil a, hs⟩
  | cons hst _ ih =>
    obtain ⟨b, hb, hr⟩ := hstep _ _ _ _ List.mem_cons_self hs hst
    obtain ⟨c, hc, hr'⟩ := ih hr (fun s l t a hl => hstep s l t a (List.mem_cons_of_mem _ hl))
    exact ⟨c, .cons hb hc, hr'⟩

end ChatDesktop.Library.Transition
