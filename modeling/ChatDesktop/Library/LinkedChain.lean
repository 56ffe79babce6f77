import Mathlib.Data.List.Nodup
import Mathlib.Tactic.Common

namespace ChatDesktop.Library.LinkedChain

variable {α : Type}

/-- The cells a walk from `c` visits before it meets `stop` are exactly the given list. -/
def Linked (next : α → Option α) (stop : α) : α → List α → Prop
  | c, [] => c = stop
  | c, i :: is => c = i ∧ i ≠ stop ∧ ∃ d, next i = some d ∧ Linked next stop d is

variable {next next' : α → Option α} {stop : α}

lemma Linked.nil : Linked next stop stop [] := rfl

lemma Linked.unique {c : α} {is js : List α} (hi : Linked next stop c is)
    (hj : Linked next stop c js) : is = js := by
  induction is generalizing c js with
  | nil =>
    cases js with
    | nil => rfl
    | cons j js => exact absurd (hj.1.symm.trans hi) hj.2.1
  | cons i is ih =>
    obtain ⟨rfl, hs, d, hd, hl⟩ := hi
    cases js with
    | nil => exact absurd hj hs
    | cons j js =>
      obtain ⟨rfl, -, d', hd', hl'⟩ := hj
      obtain rfl : d = d' := Option.some.inj (hd.symm.trans hd')
      rw [ih hl hl']

lemma Linked.congr {c : α} {is : List α} (h : Linked next stop c is)
    (he : ∀ i ∈ is, next' i = next i) : Linked next' stop c is := by
  induction is generalizing c with
  | nil => exact h
  | cons j js ih =>
    obtain ⟨rfl, hs, d, hd, hl⟩ := h
    exact ⟨rfl, hs, d, (he c (by simp)).trans hd, ih hl (fun i hi => he i (by simp [hi]))⟩

lemma Linked.suffix {c i : α} {is js : List α} (h : Linked next stop c (js ++ i :: is)) :
    Linked next stop i (i :: is) := by
  induction js generalizing c with
  | nil =>
    obtain ⟨rfl, hh⟩ := h
    exact ⟨rfl, hh⟩
  | cons j js ih =>
    obtain ⟨-, -, d, -, hl⟩ := h
    exact ih hl

lemma Linked.nodup {c : α} {is : List α} (h : Linked next stop c is) : is.Nodup := by
  induction is generalizing c with
  | nil => exact List.nodup_nil
  | cons i is ih =>
    obtain ⟨rfl, hs, d, hd, hl⟩ := h
    refine List.nodup_cons.mpr ⟨fun hm => ?_, ih hl⟩
    obtain ⟨xs, ys, rfl⟩ := List.append_of_mem hm
    have hc : Linked next stop c (c :: (xs ++ c :: ys)) := ⟨rfl, hs, d, hd, hl⟩
    have hh := Linked.unique (Linked.suffix hl) hc
    have hlen := congrArg List.length hh
    simp only [List.length_cons, List.length_append] at hlen
    omega

lemma Linked.next_isSome {c i : α} {is : List α} (h : Linked next stop c is) (hi : i ∈ is) :
    ∃ d, next i = some d := by
  induction is generalizing c with
  | nil => simp at hi
  | cons j js ih =>
    obtain ⟨rfl, -, d, hd, hl⟩ := h
    rcases List.mem_cons.mp hi with rfl | hi
    · exact ⟨d, hd⟩
    · exact ih hl hi

end ChatDesktop.Library.LinkedChain
