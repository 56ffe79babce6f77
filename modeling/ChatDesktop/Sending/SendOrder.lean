import ChatDesktop.Library.Reactive
import ChatDesktop.Sending.SendQueue
import Mathlib.Data.List.Range
import Mathlib.Data.List.Perm.Basic
import Mathlib.Tactic

namespace ChatDesktop.Sending

open Library Library.Reactive MessageRepositoryImpl

def MessageRepositoryImpl.live (s : MessageRepositoryImpl) : List SendQueueEntry := s.watchers ++ s.queue

def Ended.Carried (s : MessageRepositoryImpl) (e : Ended) : Prop :=
  e.canceled = false → e.future.canceled = false →
    (s.promises e.number).results = e.future.results.take 1 ∧
      (s.promises e.number).exception = e.future.exception

/-- No send that was not canceled ends with an exception. -/
def Unexceptional (s : MessageRepositoryImpl) : Event → Prop
  | .finished i future _ => s.destroyed = false → ∀ upload, s.watchers[i]? = some upload →
      future.exception.isSome → future.canceled = true ∨ (s.promises upload.number).isCanceled = true
  | _ => True

def MessageRepositoryImpl.gone (s : MessageRepositoryImpl) : ℕ := s.entries - s.live.length

structure Lined (s : MessageRepositoryImpl) : Prop where
  count : s.live.length ≤ s.entries
  numbered : s.live.map (·.number) = List.range' s.gone s.live.length
  finishes : ∀ n, (s.promises n).finishes = if n < s.gone then 1 else 0
  pending : ∀ n, s.gone ≤ n → (s.promises n).results = [] ∧ (s.promises n).exception = none
  keys : (s.uploadTasks.map Prod.fst).Perm (s.live.filterMap (·.task))
  distinct : (s.live.filterMap (·.task)).Nodup

structure Logged (s : MessageRepositoryImpl) : Prop where
  serial : s.watchers.length = s.processing.toNat
  inOrder : (s.started.map (·.1.number)).Pairwise (· < ·)
  before : ∀ n ∈ s.started.map (·.1.number), n < s.gone + s.watchers.length
  uncanceled : ∀ r ∈ s.started, r.2 = false
  skipped : ∀ e ∈ s.skipped, s.isCanceled e.cancellation = true ∧ e.number ∉ s.started.map (·.1.number)
  skippedGone : ∀ e ∈ s.skipped, e.number < s.gone
  lossless : s.destroyed = false → ∀ n < s.gone + s.watchers.length,
    n ∈ s.started.map (·.1.number) ∨ n ∈ s.skipped.map (·.number)
  reported : s.destroyed = false → ∀ n ∈ s.started.map (·.1.number), n < s.gone → n ∈ s.ended.map (·.number)
  ended : ∀ e ∈ s.ended, e.number < s.gone

structure Sound (s : MessageRepositoryImpl) : Prop where
  lined : Lined s
  logged : Logged s

structure Goes (s s' : MessageRepositoryImpl) : Prop where
  sound : Sound s'
  promises : ∀ n < s.gone, s'.promises n = s.promises n
  kept : ∀ e ∈ s.ended, e ∈ s'.ended
  carried : ∀ e ∈ s'.ended, e ∈ s.ended ∨ e.Carried s'
  gone : s.gone ≤ s'.gone

section

variable {s s' s'' : MessageRepositoryImpl} {e : SendQueueEntry} {rest : List SendQueueEntry} {n : ℕ}
  {c : CancellationId} {start : Start}

/-! ### The line -/

lemma Lined.entries_eq (h : Lined s) : s.entries = s.gone + s.live.length := by
  have hc := h.count
  unfold MessageRepositoryImpl.gone
  omega

lemma Lined.mem_live (h : Lined s) : n ∈ s.live.map (·.number) ↔ s.gone ≤ n ∧ n < s.entries := by
  rw [h.numbered, List.mem_range'_1, h.entries_eq]

lemma Ended.carried_congr {r : Ended} (h : s'.promises r.number = s.promises r.number) :
    r.Carried s' ↔ r.Carried s := by
  unfold Ended.Carried
  rw [h]

lemma Sound.goes_self (h : Sound s) : Goes s s :=
  ⟨h, fun _ _ => rfl, fun _ he => he, fun _ he => Or.inl he, le_refl _⟩

lemma Goes.trans (h : Goes s s') (h' : Goes s' s'') : Goes s s'' where
  sound := h'.sound
  promises n hn := (h'.promises n (lt_of_lt_of_le hn h.gone)).trans (h.promises n hn)
  kept e he := h'.kept e (h.kept e he)
  carried e he := by
    obtain he' | he' := h'.carried e he
    · refine (h.carried e he').imp_right (fun hc => ?_)
      exact (Ended.carried_congr (h'.promises _ (h.sound.logged.ended e he'))).mpr hc
    · exact Or.inr he'
  gone := h.gone.trans h'.gone

lemma Goes.carried_iff (h : Goes s s') (hs : Sound s) :
    (∀ e ∈ s'.ended, e.Carried s') ↔ ∀ e ∈ s.ended, e.Carried s := by
  have hkeep : ∀ e ∈ s.ended, (e.Carried s' ↔ e.Carried s) := fun e he =>
    Ended.carried_congr (h.promises _ (hs.logged.ended e he))
  constructor
  · exact fun hc e he => (hkeep e he).mp (hc e (h.kept e he))
  · intro hc e he
    obtain he' | he' := h.carried e he
    · exact (hkeep e he').mpr (hc e he')
    · exact he'

lemma Lined.leave (h : Lined s) (hl : s.live = e :: rest) (hl' : s'.live = rest) (he : s'.entries = s.entries)
    {f : Future} (hp : s'.promises = Function.update s.promises e.number f) (hf : f.finishes = 1)
    (ht : s'.uploadTasks = s.uploadTasks.filter (fun task => e.task ≠ some task.1)) :
    Lined s' ∧ s'.gone = s.gone + 1 ∧ e.number = s.gone := by
  have hc := h.count
  have hg : s'.gone = s.gone + 1 := by
    simp only [MessageRepositoryImpl.gone, hl, hl', he, List.length_cons] at hc ⊢
    omega
  have hn := h.numbered
  simp only [hl, List.map_cons, List.length_cons, List.range'_succ, List.cons.injEq] at hn
  obtain ⟨hnum, hrest⟩ := hn
  have hlt : s.gone < s.entries := by
    rw [h.entries_eq, hl]
    simp
  refine ⟨⟨?_, ?_, fun n => ?_, fun n hn => ?_, ?_, ?_⟩, hg, hnum⟩
  · rw [hl', he]
    rw [hl, List.length_cons] at hc
    omega
  · rw [hl', hg, hrest]
  · rw [hp, hg]
    by_cases hne : n = e.number
    · subst hne
      rw [Function.update_self, hf, if_pos (by omega)]
    · rw [Function.update_of_ne hne, h.finishes]
      have : n < s.gone ↔ n < s.gone + 1 := by omega
      simp only [this]
  · rw [hp, Function.update_of_ne (by omega)]
    exact h.pending n (by omega)
  · have hkeys := h.keys
    have hd := h.distinct
    rw [ht, hl']
    rw [hl] at hkeys hd
    cases htask : e.task with
    | none =>
      simp only [List.filterMap_cons, htask] at hkeys
      simpa using hkeys
    | some id =>
      simp only [List.filterMap_cons, htask, List.nodup_cons] at hkeys hd
      have hfilter : (s.uploadTasks.filter (fun task => some id ≠ some task.1)).map Prod.fst =
          (s.uploadTasks.map Prod.fst).filter (fun k => id ≠ k) := by
        rw [List.filter_map]
        congr 2
        funext task
        simp
      rw [hfilter]
      refine (hkeys.filter _).trans ?_
      rw [List.filter_cons_of_neg (by simp), List.filter_eq_self.mpr]
      intro k hk
      have : id ≠ k := fun hik => hd.1 (hik ▸ hk)
      simpa using this
  · have hd := h.distinct
    rw [hl] at hd
    rw [hl']
    cases htask : e.task with
    | none => simpa only [List.filterMap_cons, htask] using hd
    | some id =>
      simp only [List.filterMap_cons, htask, List.nodup_cons] at hd
      exact hd.2

/-! ### Cancellations -/

structure Flagged (s s' : MessageRepositoryImpl) : Prop where
  promises : ∀ n, (s'.promises n).finishes = (s.promises n).finishes ∧
    (s'.promises n).results = (s.promises n).results ∧
    (s'.promises n).exception = (s.promises n).exception
  done : ∀ n, (s.promises n).finishes ≠ 0 → s'.promises n = s.promises n
  canceled : ∀ c, (s.cancellations c).canceled = true → (s'.cancellations c).canceled = true
  rest : s' = { s with promises := s'.promises, cancellations := s'.cancellations }

lemma Flagged.refl : Flagged s s := ⟨fun _ => ⟨rfl, rfl, rfl⟩, fun _ _ => rfl, fun _ h => h, rfl⟩

lemma Flagged.trans (h : Flagged s s') (h' : Flagged s' s'') : Flagged s s'' where
  promises n := by
    obtain ⟨h₁, h₂, h₃⟩ := h.promises n
    obtain ⟨h₁', h₂', h₃'⟩ := h'.promises n
    exact ⟨h₁'.trans h₁, h₂'.trans h₂, h₃'.trans h₃⟩
  done n hn := (h'.done n (by rw [(h.promises n).1]; exact hn)).trans (h.done n hn)
  canceled c hc := h'.canceled c (h.canceled c hc)
  rest := h'.rest.trans (by rw [h.rest])

lemma Flagged.isCanceled (h : Flagged s s') {o : Option CancellationId} (ho : s.isCanceled o = true) :
    s'.isCanceled o = true := by
  cases o with
  | none => cases ho
  | some c => exact h.canceled c ho

lemma Flagged.sound (h : Flagged s s') (hs : Sound s) : Sound s' := by
  have hcan : ∀ e ∈ s.skipped, s'.isCanceled e.cancellation = true := fun e he =>
    h.isCanceled (hs.logged.skipped e he).1
  obtain ⟨⟨hc, hn, hf, hp, hk, hd⟩, hl⟩ := hs
  have hfinishes : ∀ n, (s'.promises n).finishes = if n < s.gone then 1 else 0 := fun n =>
    (h.promises n).1.trans (hf n)
  have hpending : ∀ n, s.gone ≤ n → (s'.promises n).results = [] ∧ (s'.promises n).exception = none :=
    fun n hg => ⟨(h.promises n).2.1.trans (hp n hg).1, (h.promises n).2.2.trans (hp n hg).2⟩
  rw [h.rest]
  exact ⟨⟨hc, hn, hfinishes, hpending, hk, hd⟩, hl.serial, hl.inOrder, hl.before, hl.uncanceled,
    fun e he => ⟨hcan e he, (hl.skipped e he).2⟩, hl.skippedGone, hl.lossless, hl.reported, hl.ended⟩

lemma Flagged.goes (h : Flagged s s') (hs : Sound s) : Goes s s' := by
  have hsound := h.sound hs
  have hended : s'.ended = s.ended := by rw [h.rest]
  have hgone : s'.gone = s.gone := by
    rw [h.rest]
    rfl
  refine ⟨hsound, fun n hn => h.done n ?_, fun e he => ?_, fun e he => ?_, hgone.ge⟩
  · rw [hs.lined.finishes, if_pos hn]
    exact one_ne_zero
  · rwa [hended]
  · rw [hended] at he
    exact Or.inl he

lemma flagged_cancel : Flagged s (s.cancel c) := by
  unfold MessageRepositoryImpl.cancel
  dsimp only
  split_ifs with hc
  · exact .refl
  refine ⟨fun n => ?_, fun n hn => ?_, fun c' hc' => ?_, rfl⟩
  · dsimp only
    split_ifs <;> exact ⟨rfl, rfl, rfl⟩
  · dsimp only
    rw [if_neg (fun h => by simp [Future.isFinished, hn] at h)]
  · dsimp only
    by_cases hcc : c' = c
    · subst hcc
      rw [Function.update_self]
    · rwa [Function.update_of_ne hcc]

lemma flagged_tryCommit : Flagged s (s.tryCommit c) := by
  unfold MessageRepositoryImpl.tryCommit
  dsimp only
  split_ifs with hc
  · exact .refl
  refine ⟨fun _ => ⟨rfl, rfl, rfl⟩, fun _ _ => rfl, fun c' hc' => ?_, rfl⟩
  dsimp only
  by_cases hcc : c' = c
  · subst hcc
    exact absurd hc' hc
  · rwa [Function.update_of_ne hcc]

lemma flagged_track (hn : (s.promises n).finishes = 0) : Flagged s (s.track c n) := by
  unfold MessageRepositoryImpl.track
  dsimp only
  split_ifs with hc hm
  · refine ⟨fun m => ?_, fun m hm => ?_, fun _ h => h, rfl⟩
    · by_cases hmn : m = n
      · subst hmn
        simp only [change, Function.update_self]
        exact ⟨rfl, rfl, rfl⟩
      · simp only [change, Function.update_of_ne hmn, and_self]
    · simp only [change]
      rw [Function.update_of_ne]
      rintro rfl
      exact hm hn
  · exact .refl
  · refine ⟨fun _ => ⟨rfl, rfl, rfl⟩, fun _ _ => rfl, fun c' hc' => ?_, rfl⟩
    dsimp only
    by_cases hcc : c' = c
    · subst hcc
      rw [Function.update_self]
      exact hc'
    · rwa [Function.update_of_ne hcc]

lemma flagged_cancelFileUpload (id : QString) : Flagged s (s.cancelFileUpload id) := by
  unfold cancelFileUpload
  cases s.uploadTasks.lookup id with
  | none => exact .refl
  | some c => exact flagged_cancel

lemma flagged_cancels (tasks : List (QString × CancellationId)) :
    Flagged s (tasks.foldl (fun s task => s.cancel task.2) s) := by
  induction tasks generalizing s with
  | nil => exact .refl
  | cons task tasks ih => exact flagged_cancel.trans ih

/-! ### The exits of the queue -/

lemma settle_eq : s.settle e = { s with
    promises := Function.update s.promises e.number (s.promises e.number).finish
    uploadTasks := s.uploadTasks.filter (fun task => e.task ≠ some task.1) } := rfl

lemma Lined.unfinished (h : Lined s) (hn : s.gone ≤ n) : (s.promises n).finishes = 0 := by
  rw [h.finishes, if_neg (by omega)]

lemma Sound.skip (h : Sound s) (hq : s.queue = e :: rest) (hp : s.processing = false)
    (hc : s.isCanceled e.cancellation = true) :
    Goes s { s.settle e with skipped := s.skipped ++ [e], queue := rest } := by
  have hw : s.watchers = [] := List.length_eq_zero_iff.mp (by rw [h.logged.serial, hp]; rfl)
  have hl : s.live = e :: rest := by rw [live, hw, hq, List.nil_append]
  have hfin : ((s.promises e.number).finish).finishes = 1 := by
    have hn := h.lined.numbered
    simp only [hl, List.map_cons, List.length_cons, List.range'_succ, List.cons.injEq] at hn
    simp only [Future.finish, h.lined.unfinished hn.1.ge]
  have hl' : ({ s.settle e with skipped := s.skipped ++ [e], queue := rest } : MessageRepositoryImpl).live = rest := by
    simp [live, settle_eq, hw]
  obtain ⟨hlined, hgone, hnum⟩ := h.lined.leave hl hl' rfl rfl hfin rfl
  have hlog := h.logged
  have hbefore : ∀ n ∈ s.started.map (·.1.number), n < s.gone := by simpa [hw] using hlog.before
  refine ⟨⟨hlined, ?_, hlog.inOrder, ?_, hlog.uncanceled, ?_, ?_, ?_, ?_, ?_⟩, ?_, ?_, ?_, ?_⟩
  · exact hlog.serial
  · intro n hn
    rw [hgone]
    exact Nat.lt_add_right _ (Nat.lt_succ_of_lt (hbefore n hn))
  · intro e' he'
    obtain he' | he' := List.mem_append.mp he'
    · exact hlog.skipped e' he'
    · rw [List.mem_singleton.mp he']
      exact ⟨hc, fun hn => absurd (hbefore _ hn) (by omega)⟩
  · intro e' he'
    rw [hgone]
    obtain he' | he' := List.mem_append.mp he'
    · exact Nat.lt_succ_of_lt (hlog.skippedGone e' he')
    · rw [List.mem_singleton.mp he']
      omega
  · intro hd n hn
    rw [hgone] at hn
    have hn : n < s.gone + 1 + s.watchers.length := hn
    rw [hw, List.length_nil, Nat.add_zero] at hn
    by_cases hng : n < s.gone
    · refine (hlog.lossless hd n (by omega)).imp_right (fun hs => ?_)
      rw [List.map_append]
      exact List.mem_append_left _ hs
    · right
      rw [List.map_append]
      exact List.mem_append_right _ (by simp; omega)
  · intro hd n hn _
    exact hlog.reported hd n hn (hbefore n hn)
  · intro r hr
    rw [hgone]
    exact Nat.lt_succ_of_lt (hlog.ended r hr)
  · intro n hn
    exact Function.update_of_ne (by omega) _ _
  · exact fun r hr => hr
  · exact fun r hr => Or.inl hr
  · omega

lemma skipCanceled_goes {queue : List SendQueueEntry} (h : Sound { s with queue }) (hp : s.processing = false) :
    Goes { s with queue } (s.skipCanceled queue) ∧ (s.skipCanceled queue).processing = false ∧
      ∀ e rest, (s.skipCanceled queue).queue = e :: rest →
        (s.skipCanceled queue).isCanceled e.cancellation = false := by
  induction queue generalizing s with
  | nil => exact ⟨h.goes_self, hp, by simp [skipCanceled]⟩
  | cons e rest ih =>
    unfold skipCanceled
    split_ifs with hc
    · have hskip : Goes { s with queue := e :: rest } _ := h.skip rfl hp hc
      obtain ⟨hgoes, hrest⟩ := ih (s := { s.settle e with skipped := s.skipped ++ [e] }) hskip.sound hp
      exact ⟨hskip.trans hgoes, hrest⟩
    · refine ⟨h.goes_self, hp, fun e' rest' he => ?_⟩
      obtain ⟨rfl, rfl⟩ := List.cons.inj he
      exact eq_false_of_ne_true hc

lemma pairwise_append_last {ns : List ℕ} (h : ns.Pairwise (· < ·)) (hn : ∀ m ∈ ns, m < n) :
    (ns ++ [n]).Pairwise (· < ·) := by
  refine List.pairwise_append.mpr ⟨h, List.pairwise_singleton _ _, fun m hm k hk => ?_⟩
  rw [List.mem_singleton.mp hk]
  exact hn m hm

lemma Sound.starts (h : Sound s) (hq : s.queue = e :: rest) (hp : s.processing = false)
    (hc : s.isCanceled e.cancellation = false) :
    Goes s { s with
      processing := true, queue := rest, started := s.started ++ [(e, s.isCanceled e.cancellation)],
      watchers := s.watchers ++ [e] } := by
  have hw : s.watchers = [] := List.length_eq_zero_iff.mp (by rw [h.logged.serial, hp]; rfl)
  have hl : s.live = e :: rest := by rw [live, hw, hq, List.nil_append]
  have hnum : e.number = s.gone := by
    have hn := h.lined.numbered
    simp only [hl, List.map_cons, List.length_cons, List.range'_succ, List.cons.injEq] at hn
    exact hn.1
  generalize hs' : ({ s with
    processing := true, queue := rest, started := s.started ++ [(e, s.isCanceled e.cancellation)],
    watchers := s.watchers ++ [e] } : MessageRepositoryImpl) = s'
  have hlive : s'.live = s.live := by
    subst hs'
    simp [live, hw, hq]
  have hgone : s'.gone = s.gone := by
    rw [MessageRepositoryImpl.gone, hlive]
    subst hs'
    rfl
  have hstarted : s'.started.map (·.1.number) = s.started.map (·.1.number) ++ [s.gone] := by
    subst hs'
    simp [hnum]
  have hlog := h.logged
  have hbefore : ∀ n ∈ s.started.map (·.1.number), n < s.gone := by simpa [hw] using hlog.before
  have hwatch : s'.watchers.length = 1 := by
    subst hs'
    simp [hw]
  have hlined : Lined s' := by
    have hd := h.lined
    subst hs'
    exact ⟨hlive ▸ hd.count, hlive ▸ hgone ▸ hd.numbered, hgone ▸ hd.finishes, hgone ▸ hd.pending, hlive ▸ hd.keys,
      hlive ▸ hd.distinct⟩
  refine ⟨⟨hlined, ⟨?_, ?_, ?_, ?_, ?_, ?_, ?_, ?_, ?_⟩⟩, ?_, ?_, ?_, ?_⟩
  · rw [hwatch]
    subst hs'
    rfl
  · rw [hstarted]
    exact pairwise_append_last hlog.inOrder hbefore
  · rw [hstarted, hgone, hwatch]
    intro n hn
    obtain hn | hn := List.mem_append.mp hn
    · exact Nat.lt_succ_of_lt (hbefore n hn)
    · rw [List.mem_singleton.mp hn]
      exact Nat.lt_succ_self _
  · subst hs'
    intro r hr
    obtain hr | hr := List.mem_append.mp hr
    · exact hlog.uncanceled r hr
    · rw [List.mem_singleton.mp hr]
      exact hc
  · intro e' he'
    rw [hstarted]
    have hs := hlog.skipped e' (by subst hs'; exact he')
    have hg := hlog.skippedGone e' (by subst hs'; exact he')
    refine ⟨by subst hs'; exact hs.1, fun hm => ?_⟩
    obtain hm | hm := List.mem_append.mp hm
    · exact hs.2 hm
    · exact absurd (List.mem_singleton.mp hm) hg.ne
  · rw [hgone]
    subst hs'
    exact hlog.skippedGone
  · rw [hstarted, hgone, hwatch]
    intro hd n hn
    by_cases hng : n < s.gone
    · have hl := hlog.lossless (by subst hs'; exact hd) n (by omega)
      refine hl.imp (fun hm => List.mem_append_left _ hm) (fun hm => ?_)
      subst hs'
      exact hm
    · left
      apply List.mem_append_right
      rw [List.mem_singleton]
      omega
  · rw [hstarted, hgone]
    intro hd n hn hng
    have hn : n ∈ s.started.map (·.1.number) := by
      obtain hn | hn := List.mem_append.mp hn
      · exact hn
      · exact absurd (List.mem_singleton.mp hn) hng.ne
    have hr := hlog.reported (by subst hs'; exact hd) n hn hng
    subst hs'
    exact hr
  · rw [hgone]
    subst hs'
    exact hlog.ended
  · subst hs'
    exact fun _ _ => rfl
  · subst hs'
    exact fun _ hr => hr
  · subst hs'
    exact fun _ hr => Or.inl hr
  · exact hgone.ge

/-- The entry in flight ends with the future `f` of its promise. -/
def MessageRepositoryImpl.ends (f : Future) (r : Ended) (e : SendQueueEntry) (s : MessageRepositoryImpl) :
    MessageRepositoryImpl :=
  { s with
    promises := Function.update s.promises e.number f
    uploadTasks := s.uploadTasks.filter (fun task => e.task ≠ some task.1)
    watchers := []
    processing := false
    ended := s.ended ++ [r] }

lemma Sound.ends (h : Sound s) (hw : s.watchers = [e]) {f : Future} (hf : f.finishes = 1) {r : Ended}
    (hr : r.number = e.number) :
    Sound (s.ends f r e) ∧ (s.ends f r e).gone = s.gone + 1 ∧ e.number = s.gone := by
  have hl : s.live = e :: s.queue := by rw [live, hw, List.singleton_append]
  have hl' : (s.ends f r e).live = s.queue := rfl
  obtain ⟨hlined, hgone, hnum⟩ := h.lined.leave hl hl' rfl rfl hf rfl
  refine ⟨⟨hlined, ?_⟩, hgone, hnum⟩
  have hlog := h.logged
  have hwatch : s.watchers.length = 1 := by rw [hw, List.length_singleton]
  have hnext : (s.ends f r e).gone + (s.ends f r e).watchers.length = s.gone + s.watchers.length := by
    rw [hgone, hwatch]
    rfl
  refine ⟨rfl, hlog.inOrder, ?_, hlog.uncanceled, hlog.skipped, ?_, ?_, ?_, ?_⟩
  · rw [hnext]
    exact hlog.before
  · intro e' he'
    rw [hgone]
    exact Nat.lt_succ_of_lt (hlog.skippedGone e' he')
  · rw [hnext]
    exact hlog.lossless
  · intro hd n hn hng
    rw [hgone] at hng
    have hmap : (s.ends f r e).ended.map (·.number) = s.ended.map (·.number) ++ [s.gone] := by
      rw [← hnum, ← hr]
      exact List.map_append
    rw [hmap]
    by_cases hlt : n < s.gone
    · exact List.mem_append_left _ (hlog.reported hd n hn hlt)
    · apply List.mem_append_right
      rw [List.mem_singleton]
      omega
  · intro r' hr'
    rw [hgone]
    obtain hr' | hr' := List.mem_append.mp hr'
    · exact Nat.lt_succ_of_lt (hlog.ended r' hr')
    · rw [List.mem_singleton.mp hr', hr, hnum]
      exact Nat.lt_succ_self _

lemma Sound.ends_goes (h : Sound s) (hw : s.watchers = [e]) {f : Future} (hf : f.finishes = 1) {r : Ended}
    (hr : r.number = e.number) (hc : r.Carried (s.ends f r e)) : Goes s (s.ends f r e) := by
  obtain ⟨hs, hgone, hnum⟩ := h.ends hw hf hr
  refine ⟨hs, fun n hn => Function.update_of_ne (by omega) _ _, fun r' hr' => List.mem_append_left _ hr', ?_,
    by omega⟩
  intro r' hr'
  obtain hr' | hr' := List.mem_append.mp hr'
  · exact Or.inl hr'
  · rw [List.mem_singleton.mp hr']
    exact Or.inr hc

lemma Sound.processing (h : Sound s) : s.processing = true ↔ s.watchers ≠ [] := by
  have hs := h.logged.serial
  cases hp : s.processing with
  | true =>
    rw [hp] at hs
    simp only [true_iff]
    rintro hw
    simp [hw] at hs
  | false =>
    rw [hp] at hs
    simp only [Bool.false_eq_true, false_iff, not_not]
    exact List.length_eq_zero_iff.mp hs

lemma Sound.congr (h : Sound s) (connected : Bool) (invocations : ℕ) :
    Goes s { s with connected, invocations } := by
  obtain ⟨⟨hc, hn, hf, hp, hk, hd⟩, hl⟩ := h
  exact ⟨⟨⟨hc, hn, hf, hp, hk, hd⟩, hl.serial, hl.inOrder, hl.before, hl.uncanceled, hl.skipped, hl.skippedGone,
    hl.lossless, hl.reported, hl.ended⟩, fun _ _ => rfl, fun _ hr => hr, fun _ hr => Or.inl hr, le_refl _⟩

lemma Sound.inFlight (h : Sound s) (hw : s.watchers = [e]) : e.number = s.gone := by
  have hn := h.lined.numbered
  simp only [live, hw, List.singleton_append, List.map_cons, List.length_cons, List.range'_succ,
    List.cons.injEq] at hn
  exact hn.1

lemma finishes_setException (f : Future) (exception : ℕ) : (f.setException exception).finishes = f.finishes := by
  unfold Future.setException
  split_ifs <;> rfl

lemma finishes_addResult (f : Future) (result : QString) : (f.addResult result).finishes = f.finishes := by
  unfold Future.addResult
  split_ifs <;> rfl

lemma Sound.throws (h : Sound s) (hw : s.watchers = [e]) (exception : ℕ) :
    Goes s (s.ends ((s.promises e.number).setException exception).finish
      ⟨e.number, (s.promises e.number).isCanceled, { exception := some exception }⟩ e) := by
  have hnum := h.inFlight hw
  obtain ⟨hres, hexc⟩ := h.lined.pending _ hnum.ge
  have hunf := h.lined.unfinished hnum.ge
  apply h.ends_goes hw
  · rw [Future.finish, finishes_setException, hunf]
  · rfl
  · intro hc _
    have hset : (s.promises e.number).setException exception =
        { s.promises e.number with exception := some exception } := by
      rw [Future.setException, if_neg]
      rw [Bool.or_eq_true, not_or]
      exact ⟨by simpa using hc, by simp [Future.isFinished, hunf]⟩
    simp only [MessageRepositoryImpl.ends, Function.update_self, hset, Future.finish, hres, List.take_nil, and_self]

lemma Sound.nextProcess (h : Sound s) (start : Start) : Goes s (s.nextProcess start) := by
  unfold MessageRepositoryImpl.nextProcess
  split_ifs with hp
  · exact h.goes_self
  have hproc : s.processing = false := by
    cases hs : s.processing with
    | true => simp [hs] at hp
    | false => rfl
  obtain ⟨hgoes, hproc', hhead⟩ := skipCanceled_goes (s := s) h hproc
  dsimp only
  generalize s.skipCanceled s.queue = s₁ at hgoes hproc' hhead ⊢
  split
  · exact hgoes
  rename_i e rest hq
  split_ifs
  · exact hgoes
  have hc : s₁.isCanceled e.cancellation = false := hhead e rest hq
  have hstarts := hgoes.sound.starts hq hproc' hc
  cases start with
  | sends => exact hgoes.trans hstarts
  | throws exception =>
    have hw : s₁.watchers = [] := by
      have hiff := hgoes.sound.processing
      rw [hproc'] at hiff
      simpa using hiff
    refine hgoes.trans (hstarts.trans ?_)
    generalize hs₂ : ({ s₁ with
      processing := true, queue := rest, started := s₁.started ++ [(e, s₁.isCanceled e.cancellation)],
      watchers := s₁.watchers ++ [e] } : MessageRepositoryImpl) = s₂ at hstarts ⊢
    have hw₂ : s₂.watchers = [e] := by
      subst hs₂
      simp [hw]
    have hthrows := hstarts.sound.throws hw₂ exception
    have hcongr := hthrows.sound.congr s₂.connected (s₂.invocations + 1)
    convert hthrows.trans hcongr using 1
    subst hs₂
    simp [MessageRepositoryImpl.ends, settle_eq, change, hw]

/-! ### The events -/

lemma finishes_handOn (future p : Future) : (future.handOn p).finishes = p.finishes := by
  unfold Future.handOn
  split_ifs
  · rfl
  · cases future.results.head? with
    | none => rfl
    | some result => exact finishes_addResult p result

lemma handOn_iff (future : Future) {p : Future} (hres : p.results = []) (hexc : p.exception = none) (hfin : p.finishes = 0) :
    (p.isCanceled = false → future.canceled = false →
      (future.handOn p).results = future.results.take 1 ∧ (future.handOn p).exception = future.exception) ↔
    (future.exception.isSome → future.canceled = true ∨ p.isCanceled = true) := by
  unfold Future.handOn
  cases hc : p.isCanceled with
  | true => simp
  | false =>
    have hadd : ∀ result, p.addResult result = { p with results := [result] } := fun result => by
      rw [Future.addResult, if_neg (by simp [hc, Future.isFinished, hfin]), hres, List.nil_append]
    cases hf : future.canceled with
    | true => simp
    | false =>
      cases hx : future.exception with
      | some x => simp [Future.isCanceled, hf, hx, Future.cancel, hexc]
      | none =>
        cases hr : future.results with
        | nil => simp [Future.isCanceled, hf, hx, hres, hexc]
        | cons result results => simp [Future.isCanceled, hf, hx, hadd, hexc]

lemma onFinished_eq (h : Sound s) {i : ℕ} (hi : s.watchers[i]? = some e) (future : Future) (start : Start) :
    s.watchers = [e] ∧ s.onFinished i future start =
      (s.ends (future.handOn (s.promises e.number)).finish
        ⟨e.number, (s.promises e.number).isCanceled, future⟩ e).nextProcess start := by
  have hlen : s.watchers.length ≤ 1 := by
    rw [h.logged.serial]
    cases s.processing <;> decide
  obtain ⟨hlt, -⟩ := List.getElem?_eq_some_iff.mp hi
  obtain rfl : i = 0 := by omega
  have hw : s.watchers = [e] := by
    obtain ⟨a, ha⟩ := List.length_eq_one_iff.mp (show s.watchers.length = 1 by omega)
    rw [ha] at hi ⊢
    simpa using hi
  refine ⟨hw, ?_⟩
  unfold MessageRepositoryImpl.onFinished
  simp only [hi]
  congr 1
  simp [MessageRepositoryImpl.ends, settle_eq, change, hw]

lemma Sound.push (h : Sound s) {tasks : List (QString × CancellationId)} {task : Option QString}
    {o : Option CancellationId}
    (hk : (tasks.map Prod.fst).Perm (s.live.filterMap (·.task) ++ task.toList))
    (hn : (s.live.filterMap (·.task) ++ task.toList).Nodup) :
    Goes s { s with
      queue := s.queue ++ [⟨s.entries, o, task⟩], entries := s.entries + 1, uploadTasks := tasks } := by
  generalize hs' : ({ s with
    queue := s.queue ++ [⟨s.entries, o, task⟩], entries := s.entries + 1, uploadTasks := tasks } :
    MessageRepositoryImpl) = s'
  have hlive : s'.live = s.live ++ [⟨s.entries, o, task⟩] := by
    subst hs'
    simp [live]
  have hc := h.lined.count
  have hgone : s'.gone = s.gone := by
    simp only [MessageRepositoryImpl.gone, hlive, List.length_append, List.length_singleton]
    subst hs'
    dsimp only
    omega
  have htasks : s'.live.filterMap (·.task) = s.live.filterMap (·.task) ++ task.toList := by
    rw [hlive, List.filterMap_append]
    cases task <;> rfl
  have hl := h.logged
  have hlined : Lined s' := by
    refine ⟨?_, ?_, ?_, ?_, ?_, ?_⟩
    · rw [hlive, List.length_append, List.length_singleton]
      subst hs'
      exact Nat.succ_le_succ hc
    · rw [hlive, List.map_append, List.length_append, List.length_singleton, hgone, h.lined.numbered,
        ← List.range'_append_1, ← h.lined.entries_eq]
      rfl
    · rw [hgone]
      subst hs'
      exact h.lined.finishes
    · rw [hgone]
      subst hs'
      exact h.lined.pending
    · rw [htasks]
      subst hs'
      exact hk
    · rw [htasks]
      exact hn
  refine ⟨⟨hlined, ?_⟩, ?_, ?_, ?_, hgone.ge⟩
  · have hbefore := hl.before
    have hsg := hl.skippedGone
    have hloss := hl.lossless
    have hrep := hl.reported
    have hend := hl.ended
    rw [← hgone] at hbefore hsg hloss hrep hend
    subst hs'
    exact ⟨hl.serial, hl.inOrder, hbefore, hl.uncanceled, hl.skipped, hsg, hloss, hrep, hend⟩
  · subst hs'
    exact fun _ _ => rfl
  · subst hs'
    exact fun _ hr => hr
  · subst hs'
    exact fun _ hr => Or.inl hr

lemma track_push {c : CancellationId} (q : List SendQueueEntry) :
    { s.track c n with queue := (s.track c n).queue ++ q } = { s with queue := s.queue ++ q }.track c n := by
  unfold MessageRepositoryImpl.track
  dsimp only
  split_ifs <;> rfl

lemma Sound.enqueue (h : Sound s) {tasks : List (QString × CancellationId)} (task : Option QString) (o : Option CancellationId)
    (hk : (tasks.map Prod.fst).Perm (s.live.filterMap (·.task) ++ task.toList))
    (hn : (s.live.filterMap (·.task) ++ task.toList).Nodup) :
    Goes s ({ s with uploadTasks := tasks }.enqueue o task start) := by
  have hpush := h.push (o := o) hk hn
  unfold MessageRepositoryImpl.enqueue
  dsimp only
  cases o with
  | none => exact hpush.trans (hpush.sound.nextProcess start)
  | some c =>
    simp only [Option.elim_some]
    rw [track_push]
    have hflag : Flagged { s with
        queue := s.queue ++ [⟨s.entries, some c, task⟩], entries := s.entries + 1, uploadTasks := tasks } _ :=
      flagged_track (c := c) (n := s.entries) (h.lined.unfinished (h.lined.entries_eq ▸ Nat.le_add_right _ _))
    have hgoes := hpush.trans (hflag.goes hpush.sound)
    exact hgoes.trans (hgoes.sound.nextProcess start)

lemma Sound.sendFiles (h : Sound s) (id : QString) (o : Option CancellationId)
    (readable : Bool) (start : Start) : Goes s (s.sendFiles id o readable start) := by
  unfold MessageRepositoryImpl.sendFiles
  split_ifs with hc hid hr
  · exact h.goes_self
  · exact h.goes_self
  · exact h.goes_self
  have hfresh : id ∉ s.live.filterMap (·.task) := fun hm => hid (h.lined.keys.mem_iff.mpr hm)
  apply h.enqueue
  · exact (h.lined.keys.cons id).trans (List.perm_append_singleton id _).symm
  · refine List.nodup_append.mpr ⟨h.lined.distinct, by simp, ?_⟩
    intro a ha b hb
    rintro rfl
    simp only [Option.toList_some, List.mem_singleton] at hb
    exact hfresh (hb ▸ ha)

def MessageRepositoryImpl.dropAll (ns : List ℕ) (s : MessageRepositoryImpl) : MessageRepositoryImpl :=
  { s with promises := fun n => if n ∈ ns then (s.promises n).cancel.finish else s.promises n }

lemma foldl_drop (es : List SendQueueEntry) (hn : (es.map (·.number)).Nodup) :
    es.foldl drop s = s.dropAll (es.map (·.number)) := by
  induction es generalizing s with
  | nil => simp [dropAll]
  | cons e es ih =>
    rw [List.map_cons, List.nodup_cons] at hn
    rw [List.foldl_cons, ih hn.2]
    simp only [drop, change, dropAll]
    congr 1
    funext n
    by_cases hne : n = e.number
    · subst hne
      rw [Function.update_self, if_neg hn.1, if_pos (by simp)]
    · simp only [Function.update_of_ne hne, List.map_cons, List.mem_cons, hne, false_or]

lemma Lined.numbers_nodup (h : Lined s) : (s.live.map (·.number)).Nodup := by
  rw [h.numbered]
  exact List.nodup_range'

lemma destroy_eq (h : Sound s) : ∃ s₁, Goes s s₁ ∧ s.destroy = { s₁.dropAll (s₁.live.map (·.number)) with
    queue := [], watchers := [], uploadTasks := [], processing := false, destroyed := true } := by
  refine ⟨_, (flagged_cancels s.uploadTasks).goes h, ?_⟩
  have h₁ := ((flagged_cancels s.uploadTasks).goes h).sound
  unfold MessageRepositoryImpl.destroy
  dsimp only
  generalize s.uploadTasks.foldl (fun s task => s.cancel task.2) s = s₁ at h₁ ⊢
  have hperm : ((s₁.queue ++ s₁.watchers).map (·.number)).Perm (s₁.live.map (·.number)) :=
    List.perm_append_comm.map _
  have hnodup := hperm.nodup_iff.mpr h₁.lined.numbers_nodup
  have hwatch : (s₁.queue.foldl drop s₁).watchers = s₁.watchers := by
    rw [foldl_drop _ ((List.nodup_append.mp (by simpa using hnodup)).1)]
    rfl
  rw [hwatch, ← List.foldl_append, foldl_drop _ hnodup]
  simp only [dropAll, hperm.mem_iff]

lemma Sound.destroy (h : Sound s) : Goes s s.destroy := by
  obtain ⟨s₁, hgoes, he⟩ := destroy_eq h
  rw [he]
  apply hgoes.trans
  have h₁ := hgoes.sound
  have hl := h₁.logged
  have hle : s₁.gone ≤ s₁.entries := Nat.sub_le _ _
  have hother : ∀ n, n < s₁.gone ∨ s₁.entries ≤ n → n ∉ s₁.live.map (·.number) := by
    intro n hn hm
    have := h₁.lined.mem_live.mp hm
    omega
  have hwatch : s₁.gone + s₁.watchers.length ≤ s₁.entries := by
    rw [h₁.lined.entries_eq, live, List.length_append]
    omega
  refine ⟨⟨⟨Nat.zero_le _, rfl, fun n => ?_, fun n hn => ?_, .refl _, List.nodup_nil⟩, ⟨rfl, hl.inOrder, fun n hn => ?_,
    hl.uncanceled, hl.skipped, fun e he => lt_of_lt_of_le (hl.skippedGone e he) hle, by simp, by simp,
    fun e he => lt_of_lt_of_le (hl.ended e he) hle⟩⟩, fun n hn => ?_, fun _ hr => hr, fun _ hr => Or.inl hr, hle⟩
  · by_cases hm : n ∈ s₁.live.map (·.number)
    · have hn := h₁.lined.mem_live.mp hm
      simp only [dropAll, if_pos hm, Future.finish, Future.cancel, h₁.lined.unfinished hn.1]
      exact (if_pos hn.2).symm
    · simp only [dropAll, if_neg hm, h₁.lined.finishes]
      have hm' := h₁.lined.mem_live.not.mp hm
      by_cases hg : n < s₁.gone
      · rw [if_pos hg]
        exact (if_pos (lt_of_lt_of_le hg hle)).symm
      · rw [if_neg hg]
        exact (if_neg (show ¬n < s₁.entries by omega)).symm
  · have hn : s₁.entries ≤ n := hn
    simp only [dropAll, if_neg (hother n (Or.inr hn))]
    exact h₁.lined.pending n (hle.trans hn)
  · exact lt_of_lt_of_le (hl.before n hn) hwatch
  · simp only [dropAll, if_neg (hother n (Or.inl hn))]

lemma Sound.onFinished (h : Sound s) (i : ℕ) (future : Future) (start : Start) :
    Sound (s.onFinished i future start) ∧ ((∀ r ∈ s.ended, r.Carried s) →
      ((∀ r ∈ (s.onFinished i future start).ended, r.Carried (s.onFinished i future start)) ↔
        ∀ upload, s.watchers[i]? = some upload → future.exception.isSome →
          future.canceled = true ∨ (s.promises upload.number).isCanceled = true)) := by
  cases hi : s.watchers[i]? with
  | none =>
    have he : s.onFinished i future start = s := by
      unfold MessageRepositoryImpl.onFinished
      rw [hi]
    rw [he]
    exact ⟨h, fun hc => ⟨fun _ _ hn => (Option.some_ne_none _ hn.symm).elim, fun _ => hc⟩⟩
  | some e =>
    obtain ⟨hw, he⟩ := onFinished_eq h hi future start
    have hnum := h.inFlight hw
    obtain ⟨hres, hexc⟩ := h.lined.pending _ hnum.ge
    have hunf := h.lined.unfinished hnum.ge
    have hfin : (future.handOn (s.promises e.number)).finish.finishes = 1 := by
      rw [Future.finish, finishes_handOn, hunf]
    have hiff := handOn_iff future hres hexc hunf
    obtain ⟨hsound, hgone, -⟩ := h.ends (r := ⟨e.number, (s.promises e.number).isCanceled, future⟩) hw hfin rfl
    have hgoes := hsound.nextProcess start
    rw [he]
    refine ⟨hgoes.sound, fun hc => ?_⟩
    rw [hgoes.carried_iff hsound]
    have hold : ∀ r ∈ s.ended, r.Carried (s.ends (future.handOn (s.promises e.number)).finish
        ⟨e.number, (s.promises e.number).isCanceled, future⟩ e) := by
      intro r hr
      refine (Ended.carried_congr (Function.update_of_ne ?_ _ _)).mpr (hc r hr)
      have := h.logged.ended r hr
      omega
    have hnew : (⟨e.number, (s.promises e.number).isCanceled, future⟩ : Ended).Carried
        (s.ends (future.handOn (s.promises e.number)).finish
          ⟨e.number, (s.promises e.number).isCanceled, future⟩ e) ↔
        (future.exception.isSome → future.canceled = true ∨ (s.promises e.number).isCanceled = true) := by
      rw [← hiff]
      simp only [Ended.Carried, MessageRepositoryImpl.ends, Function.update_self, Future.finish]
    constructor
    · rintro hall upload ⟨⟩
      exact hnew.mp (hall _ (List.mem_append_right _ (List.mem_singleton_self _)))
    · intro hu r hr
      obtain hr | hr := List.mem_append.mp hr
      · exact hold r hr
      · rw [List.mem_singleton.mp hr]
        exact hnew.mpr (hu e rfl)

lemma Sound.step (h : Sound s) (ev : Event) :
    Sound (s.step ev) ∧ ((∀ r ∈ s.ended, r.Carried s) →
      (Unexceptional s ev ↔ ∀ r ∈ (s.step ev).ended, r.Carried (s.step ev))) := by
  have key : ∀ {s' : MessageRepositoryImpl} {p : Prop}, Goes s s' → p → Sound s' ∧ ((∀ r ∈ s.ended, r.Carried s) →
      (p ↔ ∀ r ∈ s'.ended, r.Carried s')) := fun hg hp =>
    ⟨hg.sound, fun hc => ⟨fun _ => (hg.carried_iff h).mpr hc, fun _ => hp⟩⟩
  cases hd : s.destroyed with
  | true =>
    cases ev with
    | cancel c => exact key (flagged_cancel.goes h) trivial
    | tryCommit c => exact key (flagged_tryCommit.goes h) trivial
    | finished i future start =>
      simp only [MessageRepositoryImpl.step, hd, if_true]
      exact key h.goes_self (fun hf => absurd hf (by simp [hd]))
    | _ =>
      simp only [MessageRepositoryImpl.step, hd, if_true]
      exact key h.goes_self trivial
  | false =>
    cases ev with
    | cancel c => exact key (flagged_cancel.goes h) trivial
    | tryCommit c => exact key (flagged_tryCommit.goes h) trivial
    | finished i future start =>
      simp only [MessageRepositoryImpl.step, hd, Bool.false_eq_true, if_false]
      obtain ⟨hs, hiff⟩ := h.onFinished i future start
      refine ⟨hs, fun hc => ?_⟩
      rw [hiff hc]
      exact ⟨fun hu => hu hd, fun hu _ => hu⟩
    | sendMessage start =>
      simp only [MessageRepositoryImpl.step, hd, Bool.false_eq_true, if_false]
      refine key (Sound.enqueue h (none : Option QString) none ?_ ?_) trivial
      · simpa using h.lined.keys
      · simpa using h.lined.distinct
    | sendFiles id cancellation readable start =>
      simp only [MessageRepositoryImpl.step, hd, Bool.false_eq_true, if_false]
      exact key (h.sendFiles id _ readable start) trivial
    | connectedChanged connected start =>
      have he : s.step (.connectedChanged connected start) = { s with connected }.nextProcess start :=
        if_neg (by simp [hd])
      rw [he]
      have hcongr := h.congr connected s.invocations
      exact key (hcongr.trans (hcongr.sound.nextProcess start)) trivial
    | nextProcess start =>
      have he : s.step (.nextProcess start) = if s.invocations = 0 then s else
        { s with invocations := s.invocations - 1 }.nextProcess start := if_neg (by simp [hd])
      rw [he]
      split_ifs
      · exact key h.goes_self trivial
      · have hcongr := h.congr s.connected (s.invocations - 1)
        exact key (hcongr.trans (hcongr.sound.nextProcess start)) trivial
    | cancelFileUpload id =>
      simp only [MessageRepositoryImpl.step, hd, Bool.false_eq_true, if_false]
      exact key ((flagged_cancelFileUpload id).goes h) trivial
    | destroyed =>
      simp only [MessageRepositoryImpl.step, hd, Bool.false_eq_true, if_false]
      exact key h.destroy trivial

end

def initial : MessageRepositoryImpl := {}

lemma sound_initial : Sound initial := by
  refine ⟨⟨le_refl _, rfl, fun n => ?_, fun _ _ => ⟨rfl, rfl⟩, .refl _, List.nodup_nil⟩, ⟨rfl, .nil, ?_, ?_, ?_, ?_, ?_, ?_,
    ?_⟩⟩
  · exact (if_neg (Nat.not_lt_zero n)).symm
  all_goals simp [initial, MessageRepositoryImpl.gone]

end ChatDesktop.Sending
