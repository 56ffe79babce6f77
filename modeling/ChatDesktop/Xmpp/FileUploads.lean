import ChatDesktop.Xmpp.FileUploadOperation
import Mathlib.Data.List.Forall2

namespace ChatDesktop.Xmpp.Uploads

open Library Library.Text Library.Reactive

/-- What `watchFileUploads` leaves behind. The `futures` have numbers, those of the batch are its `uploads`, and the
watcher of an upload is there until it has told of the end. -/
structure FileUploads where
  uploads : List ℕ
  futures : ℕ → Promise UploadedFile
  promise : Promise (List UploadedFile)
  results : List UploadedFile := []
  remaining : ℤ := 0
  watchers : List Bool := []
  destroyed : Bool := false

def uploadCanceled : UploadedFile := ⟨[], ofAscii "File upload canceled."⟩

namespace FileUploads

def cancelUnfinished (futures : ℕ → Promise UploadedFile) (j : ℕ) : ℕ → Promise UploadedFile :=
  if (futures j).isFinished then futures else Function.update futures j (futures j).cancel

def cancelChildren (s : FileUploads) : FileUploads :=
  { s with futures := s.uploads.foldl cancelUnfinished s.futures }

/-- The handler of a watcher that tells of the end of upload `i`, which is the future `j`. -/
def onFinished (i j : ℕ) (s : FileUploads) : FileUploads :=
  let future := s.futures j
  let result := if future.canceled then uploadCanceled else future.results.headD {}
  let s := { s with
    results := s.results.set i result
    watchers := s.watchers.set i false
    remaining := s.remaining - 1 }
  if s.remaining = 0 then
    let s := if s.promise.canceled then s else { s with promise := s.promise.addResult s.results }
    { s with promise := s.promise.finish }
  else s

def destroy (s : FileUploads) : FileUploads :=
  let s :=
    if s.promise.isFinished then s
    else
      let s := { s with promise := s.promise.cancel }.cancelChildren
      { s with promise := s.promise.finish }
  { s with destroyed := true }

end FileUploads

def watchFileUploads (futures : ℕ → Promise UploadedFile) (uploads : List ℕ)
    (promise : Promise (List UploadedFile)) : FileUploads :=
  let s : FileUploads := { uploads := uploads, futures := futures, promise := promise }
  let s := if promise.canceled then s.cancelChildren else s
  if uploads.isEmpty then { s with promise := (s.promise.addResult []).finish }
  else
    { s with
      results := List.replicate uploads.length {}
      remaining := uploads.length
      watchers := List.replicate uploads.length true }

/-- `upload` is what happens to a future by itself, and `canceled` the signal of the batch's own watcher. -/
inductive BatchEvent
  | upload (j : ℕ) (move : Promise.Move UploadedFile)
  | uploadFinished (i : ℕ)
  | cancelFuture
  | canceled
  | destroyed

namespace FileUploads

def step (s : FileUploads) : BatchEvent → FileUploads
  | .upload j move => { s with futures := Function.update s.futures j ((s.futures j).move move) }
  | .uploadFinished i =>
    match s.uploads[i]? with
    | none => s
    | some j =>
      if !s.destroyed && s.watchers[i]?.getD false && (s.futures j).isFinished then s.onFinished i j else s
  | .cancelFuture => { s with promise := s.promise.cancel }
  | .canceled => if !s.destroyed && s.promise.canceled then s.cancelChildren else s
  | .destroyed => if s.destroyed then s else s.destroy

def stops (s : FileUploads) : BatchEvent → Bool
  | .canceled => !s.destroyed && s.promise.canceled
  | .destroyed => !s.destroyed
  | _ => false

def Stopped (s : FileUploads) : Prop := ∀ j ∈ s.uploads, (s.futures j).isFinished = true ∨ (s.futures j).canceled = true

def Reports (future : Promise UploadedFile) (result : UploadedFile) : Prop :=
  future.isFinished = true ∧ (future.results = [result] ∨ future.canceled = true ∧ result = uploadCanceled)

end FileUploads

/-- The end of upload `i`, which is the future `j`, was told to the watcher. -/
def FileUploads.Delivered (s : FileUploads) (es : List BatchEvent) (i j : ℕ) : Prop :=
  ∃ before rest, es = before ++ .uploadFinished i :: rest ∧ ((after step s before).futures j).isFinished = true

/-- The batch is finished at most once, and it is when all its uploads have ended, in whatever order they did, or its
parent is destroyed. If it was not canceled by then, it has the results of all uploads in their order. -/
structure BatchSettled (start : FileUploads) (es : List BatchEvent) : Prop where
  promise : (after FileUploads.step start es).promise.Settled
  finished : (after FileUploads.step start es).promise.isFinished = true ↔
    .destroyed ∈ es ∨ ∀ i j : ℕ, start.uploads[i]? = some j → start.Delivered es i j
  results : false ∈ (after FileUploads.step start es).promise.finishes →
    ∃ results, (after FileUploads.step start es).promise.results = [results] ∧
      List.Forall₂ (fun j result => FileUploads.Reports ((after FileUploads.step start es).futures j) result)
        start.uploads results

namespace FileUploads

/-! ### One future -/

def Halted (future : Promise UploadedFile) : Prop := future.isFinished = true ∨ future.canceled = true

lemma Halted.moved {p q : Promise UploadedFile} (hm : p.Moved q) (h : Halted p) : Halted q := by
  refine hm.keeps h fun p m hp => ?_
  obtain hf | hc := hp
  · exact .inl (Promise.isFinished_move hf m)
  · exact .inr (Promise.canceled_move hc m)

lemma Reports.moved {p q : Promise UploadedFile} {result : UploadedFile} (hm : p.Moved q) (h : Reports p result) :
    Reports q result := by
  refine hm.keeps (P := fun p => Reports p result) h fun p m hp => ⟨Promise.isFinished_move hp.1 m, ?_⟩
  obtain hresult | ⟨hc, hcanceled⟩ := hp.2
  · exact .inl ((Promise.results_move hp.1 m).trans hresult)
  · exact .inr ⟨Promise.canceled_move hc m, hcanceled⟩

lemma reports_of_finished {p : Promise UploadedFile} (hs : p.Settled) (hf : p.isFinished = true) :
    Reports p (if p.canceled then uploadCanceled else p.results.headD {}) := by
  refine ⟨hf, ?_⟩
  cases hc : p.canceled with
  | true => exact .inr ⟨rfl, rfl⟩
  | false =>
    obtain ⟨result, hresult⟩ := hs.exists_result hf hc
    left
    rw [hresult]
    rfl

/-! ### All futures -/

lemma moved_cancelUnfinished (futures : ℕ → Promise UploadedFile) (j k : ℕ) :
    (futures k).Moved (cancelUnfinished futures j k) := by
  rw [cancelUnfinished]
  split_ifs
  · exact .refl _
  · by_cases hk : k = j
    · rw [hk, Function.update_self]
      exact (Promise.Moved.refl _).move .cancel
    · rw [Function.update_of_ne hk]
      exact .refl _

lemma moved_foldl (uploads : List ℕ) (futures : ℕ → Promise UploadedFile) (k : ℕ) :
    (futures k).Moved (uploads.foldl cancelUnfinished futures k) := by
  induction uploads generalizing futures with
  | nil => exact .refl _
  | cons j uploads ih => exact (moved_cancelUnfinished futures j k).trans (ih _)

lemma halted_foldl (uploads : List ℕ) (futures : ℕ → Promise UploadedFile) :
    ∀ j ∈ uploads, Halted (uploads.foldl cancelUnfinished futures j) := by
  induction uploads generalizing futures with
  | nil => exact nofun
  | cons first uploads ih =>
    intro j hj
    obtain rfl | hj := List.mem_cons.mp hj
    · refine Halted.moved (moved_foldl uploads _ j) ?_
      rw [cancelUnfinished]
      split_ifs with hf
      · exact .inl hf
      · rw [Function.update_self]
        exact .inr rfl
    · exact ih _ j hj

variable {s : FileUploads}

/-- The watchers that wait, what was told to the others, and when the batch is finished. -/
structure Sound (s : FileUploads) : Prop where
  futures : ∀ j, (s.futures j).Settled
  promise : s.promise.Settled
  lengths : s.watchers.length = s.uploads.length ∧ s.results.length = s.uploads.length
  remaining : s.remaining = s.watchers.count true
  finished : s.promise.isFinished = (s.destroyed || decide (s.watchers.count true = 0))
  told : ∀ i j : ℕ, s.uploads[i]? = some j → s.watchers[i]? = some false →
    ∃ result, s.results[i]? = some result ∧ Reports (s.futures j) result
  results : false ∈ s.promise.finishes → s.watchers.count true = 0 ∧ s.promise.results = [s.results]

lemma Sound.moved (h : s.Sound) {futures : ℕ → Promise UploadedFile} (hm : ∀ j, (s.futures j).Moved (futures j)) :
    { s with futures := futures }.Sound := by
  refine ⟨fun j => (hm j).settled (h.futures j), h.promise, h.lengths, h.remaining, h.finished, fun i j hi hw => ?_,
    h.results⟩
  obtain ⟨result, hresult, hreports⟩ := h.told i j hi hw
  exact ⟨result, hresult, hreports.moved (hm j)⟩

lemma Sound.cancelChildren (h : s.Sound) : s.cancelChildren.Sound := h.moved (moved_foldl s.uploads s.futures)

lemma Sound.cancelFuture (h : s.Sound) : { s with promise := s.promise.cancel }.Sound :=
  ⟨h.futures, h.promise.move .cancel, h.lengths, h.remaining, h.finished, h.told, h.results⟩

lemma stopped_cancelChildren (s : FileUploads) : s.cancelChildren.Stopped := halted_foldl s.uploads s.futures

lemma Sound.all_told (h : s.Sound) (hnone : s.watchers.count true = 0) :
    List.Forall₂ (fun j result => Reports (s.futures j) result) s.uploads s.results := by
  apply List.forall₂_iff_get.mpr
  refine ⟨h.lengths.2.symm, fun i hi hi' => ?_⟩
  have hlt : i < s.watchers.length := h.lengths.1.symm ▸ hi
  have hw : s.watchers[i]? = some false := by
    rw [List.getElem?_eq_getElem hlt]
    cases hwatcher : s.watchers[i] with
    | false => rfl
    | true => exact absurd (hwatcher ▸ List.getElem_mem hlt) (List.count_eq_zero.mp hnone)
  obtain ⟨result, hresult, hreports⟩ := h.told i _ (List.getElem?_eq_getElem hi) hw
  rw [List.getElem?_eq_getElem hi', Option.some.injEq] at hresult
  rw [List.get_eq_getElem, List.get_eq_getElem, hresult]
  exact hreports

lemma Sound.stopped_of_finished (h : s.Sound) (hd : s.destroyed = false) (hf : s.promise.isFinished = true) :
    s.Stopped := by
  have hnone : s.watchers.count true = 0 := by
    rw [h.finished, hd, Bool.false_or] at hf
    exact of_decide_eq_true hf
  intro j hj
  obtain ⟨i, hi, hget⟩ := List.getElem_of_mem hj
  have hreports := (h.all_told hnone).get hi (h.lengths.2.symm ▸ hi)
  rw [List.get_eq_getElem, hget] at hreports
  exact .inl hreports.1

lemma Sound.destroy (h : s.Sound) (hd : s.destroyed = false) : s.destroy.Sound ∧ s.destroy.Stopped := by
  cases hf : s.promise.isFinished with
  | true =>
    have hdestroy : s.destroy = { s with destroyed := true } := by
      rw [FileUploads.destroy, hf]
      rfl
    rw [hdestroy]
    exact ⟨⟨h.futures, h.promise, h.lengths, h.remaining, hf, h.told, h.results⟩, h.stopped_of_finished hd hf⟩
  | false =>
    have hcanceled := h.cancelFuture.cancelChildren
    have hmove : s.promise.cancel.move (.complete []) = s.promise.cancel.finish :=
      Promise.move_complete_of_canceled (p := s.promise.cancel) hf rfl []
    have hdestroy : s.destroy = { s.cancelChildren with
        promise := s.promise.cancel.move (.complete []), destroyed := true } := by
      rw [FileUploads.destroy, hf, hmove]
      rfl
    rw [hdestroy]
    refine ⟨⟨hcanceled.futures, (h.promise.move .cancel).move (.complete []), h.lengths, h.remaining,
      Promise.isFinished_move_complete _ _, hcanceled.told, fun hmem => ?_⟩, stopped_cancelChildren s⟩
    rw [hmove] at hmem
    change false ∈ s.promise.finishes ++ [true] at hmem
    rw [Promise.finishes_of_not_finished hf] at hmem
    cases List.mem_singleton.mp hmem

lemma Sound.onFinished (h : s.Sound) {i j : ℕ} (hi : s.uploads[i]? = some j) (hw : s.watchers[i]? = some true)
    (hd : s.destroyed = false) (hf : (s.futures j).isFinished = true) : (s.onFinished i j).Sound := by
  have hlt : i < s.watchers.length := (List.getElem?_eq_some_iff.mp hw).1
  have hget : s.watchers[i] = true := (List.getElem?_eq_some_iff.mp hw).2
  have hpos : 0 < s.watchers.count true := List.count_pos_iff.mpr (hget ▸ List.getElem_mem hlt)
  have hcount : (s.watchers.set i false).count true = s.watchers.count true - 1 := by
    rw [List.count_set hlt, hget]
    rfl
  have hunfinished : s.promise.isFinished = false := by
    rw [h.finished, hd, Bool.false_or]
    exact decide_eq_false hpos.ne'
  have hreports := reports_of_finished (h.futures j) hf
  obtain ⟨result, hresult⟩ : ∃ result : UploadedFile,
    (if (s.futures j).canceled then uploadCanceled else (s.futures j).results.headD {}) = result := ⟨_, rfl⟩
  rw [hresult] at hreports
  have htold : ∀ i' j' : ℕ, s.uploads[i']? = some j' → (s.watchers.set i false)[i']? = some false →
      ∃ r, (s.results.set i result)[i']? = some r ∧ Reports (s.futures j') r := by
    intro i' j' hi' hw'
    by_cases hsame : i = i'
    · obtain rfl := hsame
      obtain rfl := Option.some.inj (hi.symm.trans hi')
      refine ⟨result, ?_, hreports⟩
      rw [List.getElem?_set_self (h.lengths.2.symm ▸ h.lengths.1 ▸ hlt)]
    · rw [List.getElem?_set_ne hsame] at hw' ⊢
      exact h.told i' j' hi' hw'
  have hlengths : (s.watchers.set i false).length = s.uploads.length ∧
      (s.results.set i result).length = s.uploads.length := by
    rw [List.length_set, List.length_set]
    exact h.lengths
  have hremaining : s.remaining - 1 = ((s.watchers.set i false).count true : ℤ) := by
    rw [h.remaining, hcount]
    omega
  have hstep : s.onFinished i j =
      if s.remaining - 1 = 0 then
        { s with
          results := s.results.set i result
          watchers := s.watchers.set i false
          remaining := s.remaining - 1
          promise := s.promise.move (.complete (s.results.set i result)) }
      else
        { s with
          results := s.results.set i result
          watchers := s.watchers.set i false
          remaining := s.remaining - 1 } := by
    rw [FileUploads.onFinished, Promise.move_complete hunfinished]
    dsimp only
    rw [hresult]
    by_cases hc : s.promise.canceled = true
    · rw [if_pos hc, Promise.addResult_of_canceled hc]
    · rw [if_neg hc]
  rw [hstep]
  split_ifs with hzero
  · have hnone : (s.watchers.set i false).count true = 0 := by omega
    refine ⟨h.futures, h.promise.move (.complete _), hlengths, hremaining, ?_, htold, fun hmem => ⟨hnone, ?_⟩⟩
    · rw [Promise.isFinished_move_complete, hnone]
      exact (Bool.or_true s.destroyed).symm
    · have hc : s.promise.canceled = false := by
        cases hc : s.promise.canceled with
        | false => rfl
        | true =>
          rw [Promise.move_complete_of_canceled hunfinished hc] at hmem
          change false ∈ s.promise.finishes ++ [s.promise.canceled] at hmem
          rw [Promise.finishes_of_not_finished hunfinished, hc] at hmem
          cases List.mem_singleton.mp hmem
      rw [Promise.move_complete_of_not_canceled hunfinished hc,
        h.promise.pending (Promise.finishes_of_not_finished hunfinished)]
      rfl
  · have hsome : (s.watchers.set i false).count true ≠ 0 := by omega
    refine ⟨h.futures, h.promise, hlengths, hremaining, ?_, htold, fun hmem => ?_⟩
    · rw [hunfinished, hd, decide_eq_false hsome]
      rfl
    · rw [Promise.finishes_of_not_finished hunfinished] at hmem
      cases hmem

lemma Sound.step (h : s.Sound) (e : BatchEvent) : (s.step e).Sound := by
  cases e with
  | upload j move =>
    refine h.moved fun k => ?_
    by_cases hk : k = j
    · rw [hk, Function.update_self]
      exact (Promise.Moved.refl _).move move
    · rw [Function.update_of_ne hk]
      exact .refl _
  | uploadFinished i =>
    rw [FileUploads.step]
    cases hi : s.uploads[i]? with
    | none => exact h
    | some j =>
      dsimp only
      by_cases hguard : (!s.destroyed && s.watchers[i]?.getD false && (s.futures j).isFinished) = true
      · rw [if_pos hguard]
        obtain ⟨hleft, hf⟩ := Bool.and_eq_true_iff.mp hguard
        obtain ⟨hd, hwatcher⟩ := Bool.and_eq_true_iff.mp hleft
        have hw : s.watchers[i]? = some true := by
          cases hget : s.watchers[i]? with
          | none =>
            rw [hget] at hwatcher
            cases hwatcher
          | some watcher =>
            rw [hget] at hwatcher
            exact congrArg some hwatcher
        exact h.onFinished hi hw ((Bool.not_eq_true' _).mp hd) hf
      · rw [if_neg hguard]
        exact h
  | cancelFuture => exact h.cancelFuture
  | canceled =>
    rw [FileUploads.step]
    split_ifs
    · exact h.cancelChildren
    · exact h
  | destroyed =>
    rw [FileUploads.step]
    split_ifs with hd
    · exact h
    · exact (h.destroy ((Bool.not_eq_true _).mp hd)).1

lemma Sound.stopped_step (h : s.Sound) {e : BatchEvent} (he : s.stops e = true) : (s.step e).Stopped := by
  cases e with
  | canceled =>
    have hcanceled : (!s.destroyed && s.promise.canceled) = true := he
    rw [FileUploads.step, if_pos hcanceled]
    exact stopped_cancelChildren s
  | destroyed =>
    have hd : s.destroyed = false := (Bool.not_eq_true' _).mp he
    rw [FileUploads.step, hd, if_neg Bool.false_ne_true]
    exact (h.destroy hd).2
  | _ => cases he

/-! ### What was told -/

lemma delivered_concat {start : FileUploads} {es : List BatchEvent} {e : BatchEvent} {i j : ℕ} :
    start.Delivered (es ++ [e]) i j ↔
      start.Delivered es i j ∨ e = .uploadFinished i ∧ ((after FileUploads.step start es).futures j).isFinished = true := by
  constructor
  · rintro ⟨before, rest, he, hf⟩
    rcases List.eq_nil_or_concat rest with rfl | ⟨rest, last, rfl⟩
    · obtain ⟨rfl, hlast⟩ := List.append_inj' he rfl
      exact .inr ⟨(List.cons.inj hlast).1, hf⟩
    · rw [List.concat_eq_append, ← List.cons_append, ← List.append_assoc] at he
      exact .inl ⟨before, rest, (List.append_inj' he rfl).1, hf⟩
  · rintro (⟨before, rest, rfl, hf⟩ | ⟨rfl, hf⟩)
    · exact ⟨before, rest ++ [e], by simp, hf⟩
    · exact ⟨es, [], rfl, hf⟩

structure Heard (start : FileUploads) (es : List BatchEvent) (s : FileUploads) : Prop where
  uploads : s.uploads = start.uploads
  destroyed : s.destroyed = true ↔ .destroyed ∈ es
  told : ∀ i j : ℕ, start.uploads[i]? = some j → s.watchers[i]? = some false → start.Delivered es i j
  delivered : ∀ i j : ℕ, start.uploads[i]? = some j → start.Delivered es i j →
    s.destroyed = true ∨ s.watchers[i]? = some false

lemma Heard.congr {start s' : FileUploads} {es : List BatchEvent} {e : BatchEvent} (h : Heard start es s)
    (huploads : s'.uploads = s.uploads) (hdestroyed : s'.destroyed = s.destroyed) (hwatchers : s'.watchers = s.watchers)
    (hfinished : ∀ i, e ≠ .uploadFinished i) (he : e ≠ .destroyed) : Heard start (es ++ [e]) s' := by
  refine ⟨huploads.trans h.uploads, ?_, fun i j hi hw => ?_, fun i j hi hd => ?_⟩
  · rw [hdestroyed, h.destroyed, List.mem_append, List.mem_singleton]
    exact (or_iff_left he.symm).symm
  · rw [hwatchers] at hw
    exact delivered_concat.mpr (.inl (h.told i j hi hw))
  · rw [hdestroyed, hwatchers]
    exact h.delivered i j hi ((delivered_concat.mp hd).resolve_right fun hlast => hfinished i hlast.1)

lemma Heard.uploadFinished {start : FileUploads} {es : List BatchEvent} (hs : s.Sound)
    (hafter : s = after FileUploads.step start es) (h : Heard start es s) (i : ℕ) :
    Heard start (es ++ [.uploadFinished i]) (s.step (.uploadFinished i)) := by
  have hmem : (BatchEvent.destroyed ∈ es ++ [.uploadFinished i]) ↔ .destroyed ∈ es := by simp
  have hconcat : ∀ i' j, start.Delivered (es ++ [.uploadFinished i]) i' j ↔
      start.Delivered es i' j ∨ i = i' ∧ (s.futures j).isFinished = true := by
    intro i' j
    rw [delivered_concat, ← hafter, BatchEvent.uploadFinished.injEq]
  rw [FileUploads.step]
  cases hi : s.uploads[i]? with
  | none =>
    refine ⟨h.uploads, h.destroyed.trans hmem.symm, fun i' j hi' hw => (hconcat i' j).mpr (.inl (h.told i' j hi' hw)),
      fun i' j hi' hd => h.delivered i' j hi' (((hconcat i' j).mp hd).resolve_right ?_)⟩
    rintro ⟨rfl, -⟩
    rw [← h.uploads, hi] at hi'
    cases hi'
  | some j =>
    have hlt : i < s.watchers.length := hs.lengths.1 ▸ (List.getElem?_eq_some_iff.mp hi).1
    dsimp only
    by_cases hguard : (!s.destroyed && s.watchers[i]?.getD false && (s.futures j).isFinished) = true
    · have hfields : (s.onFinished i j).uploads = s.uploads ∧ (s.onFinished i j).destroyed = s.destroyed ∧
          (s.onFinished i j).watchers = s.watchers.set i false := by
        rw [FileUploads.onFinished]
        dsimp only
        split_ifs <;> exact ⟨rfl, rfl, rfl⟩
      rw [if_pos hguard]
      have hf : (s.futures j).isFinished = true := (Bool.and_eq_true_iff.mp hguard).2
      refine ⟨hfields.1.trans h.uploads, by rw [hfields.2.1, h.destroyed, hmem], fun i' j' hi' hw => ?_,
        fun i' j' hi' hd => ?_⟩
      · rw [hfields.2.2] at hw
        by_cases hsame : i = i'
        · subst hsame
          rw [← h.uploads, hi] at hi'
          obtain rfl := Option.some.inj hi'
          exact (hconcat i j).mpr (.inr ⟨rfl, hf⟩)
        · rw [List.getElem?_set_ne hsame] at hw
          exact (hconcat i' j').mpr (.inl (h.told i' j' hi' hw))
      · rw [hfields.2.1, hfields.2.2]
        by_cases hsame : i = i'
        · subst hsame
          exact .inr (List.getElem?_set_self hlt)
        · rw [List.getElem?_set_ne hsame]
          exact h.delivered i' j' hi' (((hconcat i' j').mp hd).resolve_right fun hlast => hsame hlast.1)
    · rw [if_neg hguard]
      refine ⟨h.uploads, h.destroyed.trans hmem.symm,
        fun i' j' hi' hw => (hconcat i' j').mpr (.inl (h.told i' j' hi' hw)), fun i' j' hi' hd => ?_⟩
      obtain hd | ⟨rfl, hf⟩ := (hconcat i' j').mp hd
      · exact h.delivered i' j' hi' hd
      · -- the batch is gone, or the watcher has told before
        rw [← h.uploads, hi] at hi'
        obtain rfl := Option.some.inj hi'
        cases hgone : s.destroyed with
        | true => exact .inl rfl
        | false =>
          right
          rw [List.getElem?_eq_getElem hlt] at hguard ⊢
          cases hwatcher : s.watchers[i] with
          | false => rfl
          | true => simp [hgone, hf, hwatcher] at hguard

lemma Heard.step {start : FileUploads} {es : List BatchEvent} (hs : s.Sound)
    (hafter : s = after FileUploads.step start es) (h : Heard start es s) (e : BatchEvent) :
    Heard start (es ++ [e]) (s.step e) := by
  cases e with
  | upload j move => exact h.congr rfl rfl rfl nofun nofun
  | uploadFinished i => exact h.uploadFinished hs hafter i
  | cancelFuture => exact h.congr rfl rfl rfl nofun nofun
  | canceled =>
    rw [FileUploads.step]
    split_ifs
    · exact h.congr rfl rfl rfl nofun nofun
    · exact h.congr rfl rfl rfl nofun nofun
  | destroyed =>
    have hgone : (s.step .destroyed).destroyed = true ∧ (s.step .destroyed).uploads = s.uploads ∧
        (s.step .destroyed).watchers = s.watchers := by
      rw [FileUploads.step]
      split_ifs with hd
      · exact ⟨hd, rfl, rfl⟩
      · rw [FileUploads.destroy]
        split_ifs <;> exact ⟨rfl, rfl, rfl⟩
    refine ⟨hgone.2.1.trans h.uploads, iff_of_true hgone.1 (by simp), fun i j hi hw => ?_,
      fun _ _ _ _ => .inl hgone.1⟩
    rw [hgone.2.2] at hw
    exact delivered_concat.mpr (.inl (h.told i j hi hw))

lemma Sound.batchSettled {start : FileUploads} {es : List BatchEvent} (h : (after FileUploads.step start es).Sound)
    (hheard : Heard start es (after FileUploads.step start es)) : BatchSettled start es := by
  generalize hs : after FileUploads.step start es = s at h hheard
  refine ⟨hs ▸ h.promise, ?_, ?_⟩
  · rw [hs, h.finished, Bool.or_eq_true, decide_eq_true_iff, ← hheard.destroyed]
    refine or_congr_right' fun hd => ⟨fun hnone i j hi => ?_, fun hall => ?_⟩
    · have hlt : i < s.watchers.length := by
        rw [h.lengths.1, hheard.uploads]
        exact (List.getElem?_eq_some_iff.mp hi).1
      refine hheard.told i j hi ?_
      rw [List.getElem?_eq_getElem hlt]
      cases hwatcher : s.watchers[i] with
      | false => rfl
      | true => exact absurd (hwatcher ▸ List.getElem_mem hlt) (List.count_eq_zero.mp hnone)
    · refine List.count_eq_zero.mpr fun hmem => ?_
      obtain ⟨i, hi, hget⟩ := List.getElem_of_mem hmem
      have hlt : i < start.uploads.length := by rwa [← hheard.uploads, ← h.lengths.1]
      obtain hgone | hw := hheard.delivered i _ (List.getElem?_eq_getElem hlt) (hall i _ (List.getElem?_eq_getElem hlt))
      · exact hd hgone
      · rw [List.getElem?_eq_getElem hi, hget] at hw
        cases hw
  · rw [hs, ← hheard.uploads]
    intro hmem
    obtain ⟨hnone, hresults⟩ := h.results hmem
    exact ⟨s.results, hresults, h.all_told hnone⟩

lemma heard_run {start : FileUploads} (hs : start.Sound) (hd : start.destroyed = false)
    (hw : false ∉ start.watchers) (es : List BatchEvent) :
    (after FileUploads.step start es).Sound ∧ Heard start es (after FileUploads.step start es) := by
  induction es using List.reverseRecOn with
  | nil =>
    refine ⟨hs, rfl, ?_, fun i j _ hi => absurd (List.mem_of_getElem? hi) hw, ?_⟩
    · rw [after_nil, hd]
      exact iff_of_false Bool.false_ne_true List.not_mem_nil
    · rintro i j - ⟨before, rest, he, -⟩
      exact absurd he.symm (by simp)
  | append_singleton es e ih =>
    rw [after_append, after_cons, after_nil]
    exact ⟨ih.1.step e, ih.2.step ih.1 rfl e⟩

lemma watchFileUploads_cases {futures : ℕ → Promise UploadedFile} (hfutures : ∀ j, (futures j).Settled)
    (uploads : List ℕ) (canceled : Bool) : ∃ futures' : ℕ → Promise UploadedFile, (∀ j, (futures' j).Settled) ∧
      (canceled = true → ∀ j ∈ uploads, Halted (futures' j)) ∧
      watchFileUploads futures uploads { canceled := canceled } =
        if uploads.isEmpty then
          { uploads := uploads, futures := futures', promise := (Promise.addResult [] { canceled := canceled }).finish }
        else
          { uploads := uploads
            futures := futures'
            promise := { canceled := canceled }
            results := List.replicate uploads.length {}
            remaining := uploads.length
            watchers := List.replicate uploads.length true } := by
  cases canceled with
  | false => exact ⟨futures, hfutures, nofun, rfl⟩
  | true =>
    exact ⟨uploads.foldl cancelUnfinished futures, fun j => (moved_foldl uploads futures j).settled (hfutures j),
      fun _ => halted_foldl uploads futures, rfl⟩

lemma sound_watchFileUploads {futures : ℕ → Promise UploadedFile} (hfutures : ∀ j, (futures j).Settled)
    (uploads : List ℕ) (canceled : Bool) :
    (watchFileUploads futures uploads { canceled := canceled }).Sound ∧
      (canceled = true → (watchFileUploads futures uploads { canceled := canceled }).Stopped) := by
  obtain ⟨futures', hsettled, hhalted, hwatch⟩ := watchFileUploads_cases hfutures uploads canceled
  rw [hwatch]
  have hnew : Promise.Settled ({ canceled := canceled } : Promise (List UploadedFile)) := Promise.settled_new canceled
  split_ifs with hempty
  · obtain rfl := List.isEmpty_iff.mp hempty
    refine ⟨⟨hsettled, hnew.move (.complete []), ⟨rfl, rfl⟩, rfl, ?_, nofun, fun hmem => ⟨rfl, ?_⟩⟩, hhalted⟩
    · cases canceled <;> rfl
    · cases canceled with
      | false => rfl
      | true => cases List.mem_singleton.mp hmem
  · have hpos : uploads.length ≠ 0 := fun hlength => hempty (List.isEmpty_iff.mpr (List.length_eq_zero_iff.mp hlength))
    refine ⟨⟨hsettled, hnew, ⟨List.length_replicate, List.length_replicate⟩, ?_, ?_, fun i j _ hw => ?_, nofun⟩,
      hhalted⟩
    · rw [List.count_replicate_self]
    · rw [List.count_replicate_self, decide_eq_false hpos]
      rfl
    · have hmem := List.eq_of_mem_replicate (List.mem_of_getElem? hw)
      cases hmem

lemma after_upload (s : FileUploads) (j : ℕ) (ms : List (Promise.Move UploadedFile)) :
    after step s (ms.map (.upload j)) = { s with futures := Function.update s.futures j ((s.futures j).moves ms) } := by
  induction ms generalizing s with
  | nil =>
    rw [List.map_nil, after_nil, Promise.moves, List.foldl_nil, Function.update_eq_self]
  | cons m ms ih =>
    rw [List.map_cons, after_cons, ih, step]
    dsimp only
    rw [Function.update_self, Function.update_idem]
    rfl

lemma operation_uploads {operation : FileUploadOperation} {p : Promise UploadedFile} (h : operation.Sound p)
    (e : OperationEvent) (j : ℕ) : ∃ es : List BatchEvent, ∀ s : FileUploads, s.futures j = operation.promise →
      after step s es = { s with futures := Function.update s.futures j (operation.step e).promise } := by
  obtain ⟨ms, hms⟩ := h.moved_step e
  refine ⟨ms.map (.upload j), fun s hs => ?_⟩
  rw [after_upload, hs, hms]

end FileUploads

lemma FileUploads.fresh_watchFileUploads (futures : ℕ → Promise UploadedFile) (uploads : List ℕ) (canceled : Bool) :
    (watchFileUploads futures uploads { canceled := canceled }).destroyed = false ∧
      false ∉ (watchFileUploads futures uploads { canceled := canceled }).watchers ∧
      (watchFileUploads futures uploads { canceled := canceled }).uploads = uploads := by
  rw [watchFileUploads]
  cases canceled <;> cases uploads <;> simp [cancelChildren, List.mem_replicate]

/-- A batch may begin when some of its uploads have ended; `earlier` is what has happened to them. What an operation
does to its promise is what the batch takes into account for a future. -/
theorem uploads_settle_once :
    (∀ (canceled disconnected : Bool) (es : List OperationEvent),
      OperationSettled (after FileUploadOperation.step (.create canceled disconnected) es) ∧
        Each FileUploadOperation.step (fun s e => s.ends e = true → (s.step e).promise.finishes.length = 1)
          (.create canceled disconnected) es) ∧
    (∀ (earlier : ℕ → List (Promise.Move UploadedFile)) (uploads : List ℕ) (canceled : Bool) (es : List BatchEvent),
      let s := watchFileUploads (fun j => Promise.moves {} (earlier j)) uploads { canceled := canceled }
      s.uploads = uploads ∧ (canceled = true → s.Stopped) ∧ BatchSettled s es ∧
        Each FileUploads.step (fun s e => s.stops e = true → (s.step e).Stopped) s es) ∧
    ∀ (canceled disconnected : Bool) (es : List OperationEvent) (e : OperationEvent) (j : ℕ),
      let operation := after FileUploadOperation.step (.create canceled disconnected) es
      ∃ bs : List BatchEvent, ∀ s : FileUploads, s.futures j = operation.promise →
        after FileUploads.step s bs = { s with futures := Function.update s.futures j (operation.step e).promise } := by
  refine ⟨operation_settled, fun earlier uploads canceled es => ?_, fun canceled disconnected es e j => ?_⟩
  · have hfutures : ∀ j, (Promise.moves {} (earlier j)).Settled :=
      fun j => Promise.Moved.settled ⟨earlier j, rfl⟩ (Promise.settled_new false)
    obtain ⟨hsound, hstopped⟩ := FileUploads.sound_watchFileUploads hfutures uploads canceled
    obtain ⟨hd, hw, huploads⟩ :=
      FileUploads.fresh_watchFileUploads (fun j => Promise.moves {} (earlier j)) uploads canceled
    have hrun : Each FileUploads.step (fun _ _ => True)
      (watchFileUploads (fun j => Promise.moves {} (earlier j)) uploads { canceled := canceled }) es := each_true
    obtain ⟨hafter, hheard⟩ := FileUploads.heard_run hsound hd hw es
    exact ⟨huploads, hstopped, hafter.batchSettled hheard,
      hrun.imp hsound (fun s e hs _ => hs.step e) (fun s e hs _ he => hs.stopped_step he)⟩
  · exact FileUploads.operation_uploads (FileUploadOperation.sound_run canceled disconnected es) e j

end ChatDesktop.Xmpp.Uploads
