import Mathlib.Tactic.Common

namespace ChatDesktop.Library.Simulation

variable {σ τ α β ι ρ : Type}

lemma bind_eq {f : StateM σ α} {g : α → StateM σ β} {s t : σ} {a : α} (h : f s = (a, t)) : (f >>= g) s = g a t := by
  change g (f s).1 (f s).2 = g a t
  rw [h]

/-- From related states `f` and `g` return the same and end in related states, unless `f` ends badly. -/
structure Follows (R : σ → τ → Prop) (Bad : σ → Prop) (f : StateM σ α) (g : StateM τ α) : Prop where
  bad : ∀ s, Bad s → Bad (f s).2
  good : ∀ s t, R s t → Bad (f s).2 ∨ ((f s).1 = (g t).1 ∧ R (f s).2 (g t).2)

/-- `f` leaves the states related as they are. -/
structure Keeps (R : σ → τ → Prop) (Bad : σ → Prop) (f : StateM σ α) : Prop where
  bad : ∀ s, Bad s → Bad (f s).2
  good : ∀ s t, R s t → Bad (f s).2 ∨ R (f s).2 t

variable {R : σ → τ → Prop} {Bad : σ → Prop}

lemma Follows.pure (a : α) : Follows R Bad (Pure.pure a : StateM σ α) (Pure.pure a : StateM τ α) :=
  ⟨fun _ h => h, fun _ _ h => Or.inr ⟨rfl, h⟩⟩

lemma Follows.bind {f : StateM σ α} {g : StateM τ α} {f' : α → StateM σ β} {g' : α → StateM τ β}
    (h : Follows R Bad f g) (h' : ∀ a, Follows R Bad (f' a) (g' a)) : Follows R Bad (f >>= f') (g >>= g') := by
  refine ⟨fun s hs => (h' (f s).1).bad _ (h.bad s hs), fun s t hr => ?_⟩
  rcases h.good s t hr with hb | ⟨he, hr'⟩
  · exact Or.inl ((h' (f s).1).bad _ hb)
  · have hh := (h' (f s).1).good _ _ hr'
    rw [he] at hh
    change Bad (f' (f s).1 (f s).2).2 ∨ (f' (f s).1 (f s).2).1 = (g' (g t).1 (g t).2).1 ∧ R (f' (f s).1 (f s).2).2 _
    rw [he]
    exact hh

lemma Follows.map {f : StateM σ α} {g : StateM τ α} (h : Follows R Bad f g) (e : α → β) :
    Follows R Bad (e <$> f) (e <$> g) := h.bind (fun a => .pure (e a))

lemma Follows.ite {c : Prop} [Decidable c] {f f' : StateM σ α} {g g' : StateM τ α} (h : c → Follows R Bad f g)
    (h' : ¬c → Follows R Bad f' g') : Follows R Bad (if c then f else f') (if c then g else g') := by
  split_ifs with hc
  · exact h hc
  · exact h' hc

lemma Keeps.pure (a : α) : Keeps R Bad (Pure.pure a : StateM σ α) := ⟨fun _ h => h, fun _ _ h => Or.inr h⟩

lemma Keeps.bind {f : StateM σ α} {f' : α → StateM σ β} (h : Keeps R Bad f) (h' : ∀ a, Keeps R Bad (f' a)) :
    Keeps R Bad (f >>= f') := by
  refine ⟨fun s hs => (h' (f s).1).bad _ (h.bad s hs), fun s t hr => ?_⟩
  rcases h.good s t hr with hb | hr'
  · exact Or.inl ((h' (f s).1).bad _ hb)
  · exact (h' (f s).1).good _ _ hr'

lemma Keeps.ite {c : Prop} [Decidable c] {f f' : StateM σ α} (h : c → Keeps R Bad f) (h' : ¬c → Keeps R Bad f') :
    Keeps R Bad (if c then f else f') := by
  split_ifs with hc
  · exact h hc
  · exact h' hc

/-! ### Sequences of calls -/

def trace (step : ι → StateM σ ρ) : List ι → σ → List (ι × ρ)
  | [], _ => []
  | i :: is, s => (i, (step i s).1) :: trace step is (step i s).2

def final (step : ι → StateM σ ρ) : List ι → σ → σ
  | [], s => s
  | i :: is, s => final step is (step i s).2

lemma final_concat (step : ι → StateM σ ρ) (is : List ι) (i : ι) (s : σ) :
    final step (is ++ [i]) s = (step i (final step is s)).2 := by
  induction is generalizing s with
  | nil => rfl
  | cons j is ih => exact ih _

lemma map_fst_trace (step : ι → StateM σ ρ) (is : List ι) (s : σ) : (trace step is s).map Prod.fst = is := by
  induction is generalizing s with
  | nil => rfl
  | cons i is ih => rw [trace, List.map_cons, ih]

lemma filter_trace (step : ι → StateM σ ρ) (mine : ι → Bool) (is : List ι) (s : σ) :
    (trace step (is.filter mine) s).filter (fun x => mine x.1) = trace step (is.filter mine) s := by
  refine List.filter_eq_self.mpr (fun x hx => ?_)
  have hmem := List.mem_map_of_mem (f := Prod.fst) hx
  rw [map_fst_trace] at hmem
  exact (List.mem_filter.mp hmem).2

lemma final_bad {step : ι → StateM σ ρ} (h : ∀ i s, Bad s → Bad (step i s).2) {s : σ} (hs : Bad s) (is : List ι) :
    Bad (final step is s) := by
  induction is generalizing s with
  | nil => exact hs
  | cons i is ih => exact ih (h i s hs)

lemma trace_follows {step : ι → StateM σ ρ} {spec : ι → StateM τ ρ} {s : σ} {t : τ} {is : List ι}
    (h : ∀ i ∈ is, Follows R Bad (step i) (spec i)) (hr : R s t) :
    Bad (final step is s) ∨ (trace step is s = trace spec is t ∧ R (final step is s) (final spec is t)) := by
  have hbad : ∀ (js : List ι) (u : σ), (∀ i ∈ js, Follows R Bad (step i) (spec i)) → Bad u → Bad (final step js u) := by
    intro js
    induction js with
    | nil => exact fun _ _ hu => hu
    | cons j js ih =>
      intro u hj hu
      exact ih _ (fun i hi => hj i (List.mem_cons_of_mem _ hi)) ((hj j List.mem_cons_self).bad u hu)
  induction is generalizing s t with
  | nil => exact Or.inr ⟨rfl, hr⟩
  | cons i is ih =>
    have htail := fun j hj => h j (List.mem_cons_of_mem i hj)
    rcases (h i List.mem_cons_self).good s t hr with hb | ⟨he, hr'⟩
    · exact Or.inl (hbad is _ htail hb)
    · rw [trace, trace, final, final, he]
      exact (ih htail hr').imp_right (fun ⟨ht, hf⟩ => ⟨by rw [ht], hf⟩)

/-- If some calls follow a model and all others leave its state alone, the answers to the former are those of
the model that gets no other calls. -/
lemma trace_separated {step : ι → StateM σ ρ} {spec : ι → StateM τ ρ} {mine : ι → Bool} {s : σ} {t : τ}
    (hmine : ∀ i, mine i = true → Follows R Bad (step i) (spec i))
    (hother : ∀ i, mine i = false → Keeps R Bad (step i)) (hr : R s t) (is : List ι) :
    Bad (final step is s) ∨ (trace step is s).filter (fun x => mine x.1) = trace spec (is.filter mine) t := by
  have hbad : ∀ i s, Bad s → Bad (step i s).2 := by
    intro i
    cases hm : mine i with
    | true => exact (hmine i hm).bad
    | false => exact (hother i hm).bad
  induction is generalizing s t with
  | nil => exact Or.inr rfl
  | cons i is ih =>
    cases hm : mine i with
    | true =>
      rw [List.filter_cons_of_pos hm, trace, trace, final, List.filter_cons_of_pos (by exact hm)]
      rcases (hmine i hm).good s t hr with hb | ⟨he, hr'⟩
      · exact Or.inl (final_bad hbad hb is)
      · rw [he]
        exact (ih hr').imp_right (fun hh => by rw [hh])
    | false =>
      rw [List.filter_cons_of_neg (by simp [hm]), trace, final, List.filter_cons_of_neg (by simp [hm])]
      rcases (hother i hm).good s t hr with hb | hr'
      · exact Or.inl (final_bad hbad hb is)
      · exact ih hr'

end ChatDesktop.Library.Simulation
