import ChatDesktop.Chat.Entity
import ChatDesktop.Sending.AttachmentBatches
import Mathlib.Data.List.Induction
import Mathlib.Data.List.Perm.Subperm

namespace ChatDesktop.Sending

open Library Library.Text Chat

structure AttachmentItem where
  id : QString
  url : QString
  compress : Bool := false
  isLocalFile : Bool := true
  isFile : Bool := true
  isReadable : Bool := true
  size : Int64 := 1
  fileName : QString := []
  deriving DecidableEq

def AttachmentItem.valid (attachment : AttachmentItem) : Bool :=
  attachment.isLocalFile && attachment.isFile && attachment.isReadable && !decide (attachment.size ≤ 0)

inductive Completion
  | result (error : QString)
  | exception (number : ℕ)
  | canceled
  deriving DecidableEq

def Completion.future : Completion → Future
  | .result error => { results := [error], finishes := 1 }
  | .exception number => { exception := some number, finishes := 1 }
  | .canceled => { canceled := true, finishes := 1 }

def Completion.succeeds (completion : Completion) : Bool := completion = .result []

def failure (future : Future) : Option QString :=
  if future.isCanceled then some uploadCanceled
  else
    match future.results with
    | [] => none
    | result :: _ => if result = [] then none else some result

lemma Completion.failure_eq_none_iff (completion : Completion) :
    failure completion.future = none ↔ completion.succeeds = true := by
  cases completion with
  | result error => simp [failure, Completion.future, Future.isCanceled, succeeds]
  | exception number => simp [failure, Completion.future, Future.isCanceled, succeeds]
  | canceled => simp [failure, Completion.future, Future.isCanceled, succeeds]

lemma Completion.failure_ne_nil (completion : Completion) : failure completion.future ≠ some [] := by
  cases completion with
  | result error => simp [failure, Completion.future, Future.isCanceled]
  | exception number => simp [failure, Completion.future, Future.isCanceled, uploadCanceled, ofAscii]
  | canceled => simp [failure, Completion.future, Future.isCanceled, uploadCanceled, ofAscii]

/-- `settled` are the signals, with the number of the attachment; `returned` the handlers that came to their end. -/
structure Settling where
  payloads : List Payload
  ids : List QString
  remaining : ℕ
  error : QString := []
  promise : Future := {}
  settled : List (ℕ × Bool) := []
  returned : List ℕ := []

/-- A watcher delivers `finished` up to its signal, and comes back from it. -/
inductive SettlingEvent
  | finished (i : ℕ) (completion : Completion)
  | returned (i : ℕ)

namespace Settling

def finished (i : ℕ) (completion : Completion) (s : Settling) : Settling :=
  if i < s.ids.length ∧ i ∉ s.settled.map Prod.fst then
    { s with
      error := (failure completion.future).getD s.error
      settled := s.settled ++ [(i, (failure completion.future).isNone)] }
  else s

def countDown (i : ℕ) (s : Settling) : Settling :=
  if i ∈ s.settled.map Prod.fst ∧ i ∉ s.returned then
    { s with
      remaining := s.remaining - 1
      returned := s.returned ++ [i]
      promise := if s.remaining - 1 = 0 then (s.promise.addResult s.error).finish else s.promise }
  else s

def step (s : Settling) : SettlingEvent → Settling
  | .finished i completion => s.finished i completion
  | .returned i => s.countDown i

def run (s : Settling) (events : List SettlingEvent) : Settling := events.foldl step s

def destroy (s : Settling) : Settling :=
  if s.promise.isFinished then s else { s with promise := s.promise.cancel.finish }

end Settling

/-- What a call has from outside: its user, the time, and the ids it makes. -/
structure SendMoment where
  currentUserId : QString := []
  currentSecsSinceEpoch : QString := []
  batchId : QString := []
  messageIds : ℕ → QString := fun _ => []

def attachmentPayload (now : SendMoment) (receiver caption : QString) (imageOverride : Option Bool) (i : ℕ)
    (attachment : AttachmentItem) : Payload where
  isMine := true
  attachmentBatchId := now.batchId
  attachmentIndex := Int32.ofNat i
  senderId := now.currentUserId
  receiverId := receiver
  messageId := now.messageIds i
  timestamp := now.currentSecsSinceEpoch
  content :=
    { type := if imageOverride.getD attachment.compress then .image else .file
      text := caption
      mediaUrl := attachment.url
      fileName := attachment.fileName
      fileSize := attachment.size }

inductive Sendings
  | ready (future : Future)
  | sending (s : Settling)

def settling (now : SendMoment) (receiver : QString) (attachments : List AttachmentItem) (caption : QString)
    (imageOverride : Option Bool) : Settling where
  payloads := attachments.mapIdx (attachmentPayload now receiver caption imageOverride)
  ids := attachments.map AttachmentItem.id
  remaining := attachments.length

def sendAttachments (now : SendMoment) (receiver : QString) (attachments : List AttachmentItem) (caption : QString)
    (canceled : Bool) (imageOverride : Option Bool) : Sendings :=
  if receiver = [] ∨ attachments = [] then
    .ready { results := [ofAscii "Select attachments and a recipient before sending."], finishes := 1 }
  else if canceled then .ready { canceled := true, finishes := 1 }
  else if attachments.any (fun attachment => !attachment.valid) then
    .ready { results := [ofAscii "Attachment is missing, empty, or unreadable."], finishes := 1 }
  else .sending (settling now receiver attachments caption imageOverride)

/-! ### Accounts -/

def completionOf (events : List SettlingEvent) (i : ℕ) : Option Completion :=
  events.findSome? (fun event => match event with
    | .finished j completion => if j = i then some completion else none
    | .returned _ => none)

def ended (events : List SettlingEvent) (i : ℕ) : List (ℕ × Bool) :=
  (completionOf events i).toList.map (fun completion => (i, completion.succeeds))

def cameBack (events : List SettlingEvent) (i : ℕ) : Prop :=
  ∃ done rest, events = done ++ .returned i :: rest ∧ (completionOf done i).isSome = true

structure Tallied (n : ℕ) (events : List SettlingEvent) (s : Settling) : Prop where
  ids : s.ids.length = n
  settled : ∀ i < n, s.settled.filter (fun e => e.1 = i) = ended events i
  settled_lt : ∀ e ∈ s.settled, e.1 < n
  error : s.error = [] ↔ ∀ e ∈ s.settled, e.2 = true
  nodup : s.returned.Nodup
  returned : ∀ i ∈ s.returned, i ∈ s.settled.map Prod.fst
  handled : ∀ i < n, i ∈ s.returned ↔ cameBack events i
  remaining : s.remaining + s.returned.length = n
  promise : s.promise = if s.remaining = 0 then { results := [s.error], finishes := 1 } else {}

section

variable {n : ℕ} {events : List SettlingEvent} {s : Settling}

lemma completionOf_concat (events : List SettlingEvent) (event : SettlingEvent) (i : ℕ) :
    completionOf (events ++ [event]) i = (completionOf events i).or (completionOf [event] i) := by
  rw [completionOf, List.findSome?_append]
  rfl

lemma cameBack_concat (events : List SettlingEvent) (event : SettlingEvent) (i : ℕ) :
    cameBack (events ++ [event]) i ↔
      cameBack events i ∨ event = .returned i ∧ (completionOf events i).isSome = true := by
  constructor
  · rintro ⟨done, rest, he, hc⟩
    rcases List.eq_nil_or_concat rest with rfl | ⟨rest, last, rfl⟩
    · obtain ⟨rfl, hlast⟩ := List.append_inj' he rfl
      exact .inr ⟨(List.cons.inj hlast).1, hc⟩
    · rw [List.concat_eq_append, ← List.cons_append, ← List.append_assoc] at he
      exact .inl ⟨done, rest, (List.append_inj' he rfl).1, hc⟩
  · rintro (⟨done, rest, rfl, hc⟩ | ⟨rfl, hc⟩)
    · exact ⟨done, rest ++ [event], by simp, hc⟩
    · exact ⟨events, [], rfl, hc⟩

lemma ended_of_settled {i : ℕ} (h : Tallied n events s) (hi : i ∈ s.settled.map Prod.fst) :
    (completionOf events i).isSome := by
  obtain ⟨e, he, rfl⟩ := List.mem_map.mp hi
  have hmem : e ∈ s.settled.filter (fun e' => e'.1 = e.1) := List.mem_filter.mpr ⟨he, by simp⟩
  rw [h.settled e.1 (h.settled_lt e he), ended] at hmem
  cases hc : completionOf events e.1 with
  | none =>
    rw [hc] at hmem
    exact absurd hmem List.not_mem_nil
  | some completion => rfl

lemma settled_of_ended {i : ℕ} (h : Tallied n events s) (hi : i < n) (hc : (completionOf events i).isSome) :
    i ∈ s.settled.map Prod.fst := by
  obtain ⟨completion, hc⟩ := Option.isSome_iff_exists.mp hc
  have hmem : (i, completion.succeeds) ∈ s.settled.filter (fun e => e.1 = i) := by
    rw [h.settled i hi, ended, hc]
    exact List.mem_singleton_self _
  exact List.mem_map_of_mem (List.mem_filter.mp hmem).1

lemma Tallied.returned_lt (h : Tallied n events s) : ∀ i ∈ s.returned, i < n := by
  intro i hi
  obtain ⟨e, he, rfl⟩ := List.mem_map.mp (h.returned i hi)
  exact h.settled_lt e he

lemma Tallied.all_returned (h : Tallied n events s) (hr : s.remaining = 0) : ∀ i < n, i ∈ s.returned := by
  have hsub : s.returned ⊆ List.range n := fun i hi => List.mem_range.mpr (h.returned_lt i hi)
  have hlength : (List.range n).length ≤ s.returned.length := by
    rw [List.length_range, ← h.remaining, hr, Nat.zero_add]
  have hperm := (List.subperm_of_subset h.nodup hsub).perm_of_length_le hlength
  exact fun i hi => hperm.mem_iff.mpr (List.mem_range.mpr hi)

lemma Tallied.remaining_pos (h : Tallied n events s) {i : ℕ} (hi : i < n) (hnot : i ∉ s.returned) :
    s.remaining ≠ 0 := fun hr => hnot (h.all_returned hr i hi)

lemma Tallied.finished (h : Tallied n events s) (i : ℕ) (completion : Completion) :
    Tallied n (events ++ [.finished i completion]) (s.finished i completion) := by
  have hlast : ∀ j, completionOf [.finished i completion] j = if i = j then some completion else none := by
    intro j
    simp only [completionOf, List.findSome?_cons, List.findSome?_nil]
    split_ifs <;> rfl
  have hback : ∀ j, cameBack (events ++ [.finished i completion]) j ↔ cameBack events j := fun j => by
    simp [cameBack_concat]
  rw [Settling.finished]
  split_ifs with hnew
  · obtain ⟨hlt, hnew⟩ := hnew
    rw [h.ids] at hlt
    have hnone : completionOf events i = none := by
      by_contra hsome
      exact hnew (settled_of_ended h hlt (Option.isSome_iff_ne_none.mpr hsome))
    have hremaining := h.remaining_pos hlt (fun hi => hnew (h.returned i hi))
    refine ⟨h.ids, fun j hj => ?_, fun e he => ?_, ?_, h.nodup, fun j hj => ?_, fun j hj => ?_, h.remaining, ?_⟩
    · rw [List.filter_append, h.settled j hj, ended, ended, completionOf_concat, hlast]
      by_cases hij : i = j
      · subst hij
        have hnone' : (failure completion.future).isNone = completion.succeeds := by
          rw [Bool.eq_iff_iff, Option.isNone_iff_eq_none]
          exact completion.failure_eq_none_iff
        simp [hnone, hnone']
      · simp [hij]
    · obtain he | he := List.mem_append.mp he
      · exact h.settled_lt e he
      · rw [List.mem_singleton.mp he]
        exact hlt
    · simp only [List.forall_mem_append, List.forall_mem_singleton, ← h.error]
      cases hf : failure completion.future with
      | none => simp
      | some error =>
        have hne : error ≠ [] := fun he => completion.failure_ne_nil (he ▸ hf)
        simp [hne]
    · rw [List.map_append]
      exact List.mem_append_left _ (h.returned j hj)
    · exact (h.handled j hj).trans (hback j).symm
    · rw [h.promise, if_neg hremaining, if_neg hremaining]
  · refine ⟨h.ids, fun j hj => ?_, h.settled_lt, h.error, h.nodup, h.returned,
      fun j hj => (h.handled j hj).trans (hback j).symm, h.remaining, h.promise⟩
    rw [h.settled j hj, ended, ended, completionOf_concat, hlast]
    by_cases hij : i = j
    · subst hij
      have hold : i ∈ s.settled.map Prod.fst := by
        by_contra hnot
        exact hnew ⟨h.ids ▸ hj, hnot⟩
      obtain ⟨c, hc⟩ := Option.isSome_iff_exists.mp (ended_of_settled h hold)
      rw [hc]
      rfl
    · rw [if_neg hij, Option.or_none]

lemma Tallied.countDown (h : Tallied n events s) (i : ℕ) :
    Tallied n (events ++ [.returned i]) (s.countDown i) := by
  have hsettled : ∀ j < n, s.settled.filter (fun e => e.1 = j) = ended (events ++ [.returned i]) j := by
    intro j hj
    rw [h.settled j hj, ended, ended, completionOf_concat]
    exact congrArg _ (congrArg _ (Option.or_none).symm)
  rw [Settling.countDown]
  by_cases hnew : i ∈ s.settled.map Prod.fst ∧ i ∉ s.returned
  · rw [if_pos hnew]
    obtain ⟨hold, hnew⟩ := hnew
    obtain ⟨e, he, hei⟩ := List.mem_map.mp hold
    have hremaining := h.remaining_pos (hei ▸ h.settled_lt e he) hnew
    refine ⟨h.ids, hsettled, h.settled_lt, h.error, ?_, fun j hj => ?_, fun j hj => ?_, ?_, ?_⟩
    · exact List.nodup_append.mpr ⟨h.nodup, List.pairwise_singleton _ _, fun a ha b hb hab =>
        hnew ((List.mem_singleton.mp hb) ▸ hab ▸ ha)⟩
    · obtain hj | hj := List.mem_append.mp hj
      · exact h.returned j hj
      · rw [List.mem_singleton.mp hj]
        exact hold
    · rw [List.mem_append, List.mem_singleton, cameBack_concat, h.handled j hj]
      refine or_congr_right ⟨?_, fun hb => (SettlingEvent.returned.inj hb.1).symm⟩
      rintro rfl
      exact ⟨rfl, ended_of_settled h hold⟩
    · have hsum := h.remaining
      simp only [List.length_append, List.length_singleton]
      omega
    · rw [h.promise, if_neg hremaining]
      rfl
  · rw [if_neg hnew]
    refine ⟨h.ids, hsettled, h.settled_lt, h.error, h.nodup, h.returned, fun j hj => ?_, h.remaining, h.promise⟩
    rw [cameBack_concat, h.handled j hj]
    refine (or_iff_left_of_imp ?_).symm
    rintro ⟨he, hc⟩
    obtain rfl := SettlingEvent.returned.inj he
    by_contra hnot
    exact hnew ⟨settled_of_ended h hj hc, fun hi => hnot ((h.handled i hj).mp hi)⟩

lemma Tallied.initial (now : SendMoment) (receiver : QString) {attachments : List AttachmentItem} (caption : QString)
    (imageOverride : Option Bool) (h : attachments ≠ []) :
    Tallied attachments.length [] (settling now receiver attachments caption imageOverride) := by
  have hnone : ∀ e : ℕ × Bool, e ∉ ([] : List (ℕ × Bool)) := fun _ => List.not_mem_nil
  refine ⟨List.length_map .., fun _ _ => rfl, fun e he => absurd he (hnone e), ?_, List.nodup_nil,
    fun i hi => absurd hi List.not_mem_nil, fun i _ => ?_, rfl, ?_⟩
  · exact iff_of_true rfl (fun e he => absurd he (hnone e))
  · refine iff_of_false List.not_mem_nil ?_
    rintro ⟨done, rest, he, -⟩
    exact absurd he.symm (by simp)
  · exact (if_neg (fun hlength => h (List.length_eq_zero_iff.mp hlength))).symm

lemma Tallied.run (h : Tallied n [] s) (events : List SettlingEvent) : Tallied n events (s.run events) := by
  induction events using List.reverseRecOn with
  | nil => exact h
  | append_singleton events event ih =>
    rw [Settling.run, List.foldl_append]
    cases event with
    | finished i completion => exact ih.finished i completion
    | returned i => exact ih.countDown i

lemma ids_run (s : Settling) (events : List SettlingEvent) : (s.run events).ids = s.ids := by
  induction events generalizing s with
  | nil => rfl
  | cons event events ih =>
    refine (ih (s.step event)).trans ?_
    cases event with
    | finished i completion => rw [Settling.step, Settling.finished]; split_ifs <;> rfl
    | returned i => rw [Settling.step, Settling.countDown, apply_ite Settling.ids, ite_self]

/-- What a batch has reported after some of its sends ended: it is finished once the last handler came to its end. -/
structure Truthful (n : ℕ) (events : List SettlingEvent) (s : Settling) : Prop where
  settled_lt : ∀ e ∈ s.settled, e.1 < n
  settled_once : ∀ i < n, s.settled.filter (fun e => e.1 = i) = ended events i
  finishes_le : s.promise.finishes ≤ 1
  finished_iff : s.promise.isFinished = true ↔ ∀ i < n, cameBack events i
  finished_last : s.promise.isFinished = true → ∀ i < n, (completionOf events i).isSome
  result : s.promise.isFinished = true → ∃ result, s.promise.results = [result] ∧ s.promise.isCanceled = false ∧
    (result = [] ↔ ∀ i < n, completionOf events i = some (.result []))

lemma Completion.succeeds_iff {completion : Completion} : completion.succeeds = true ↔ completion = .result [] :=
  decide_eq_true_iff

lemma Tallied.succeeded (h : Tallied n events s) (hall : ∀ i < n, (completionOf events i).isSome) :
    s.error = [] ↔ ∀ i < n, completionOf events i = some (.result []) := by
  rw [h.error]
  constructor
  · intro hsettled i hi
    obtain ⟨completion, hc⟩ := Option.isSome_iff_exists.mp (hall i hi)
    have hmem : (i, completion.succeeds) ∈ s.settled.filter (fun e => e.1 = i) := by
      rw [h.settled i hi, ended, hc]
      exact List.mem_singleton_self _
    rw [hc, Completion.succeeds_iff.mp (hsettled _ (List.mem_filter.mp hmem).1)]
  · intro hended e he
    have hmem : e ∈ s.settled.filter (fun e' => e'.1 = e.1) := List.mem_filter.mpr ⟨he, by simp⟩
    rw [h.settled e.1 (h.settled_lt e he), ended, hended e.1 (h.settled_lt e he)] at hmem
    rw [List.mem_singleton.mp hmem]
    rfl

lemma Tallied.truthful (h : Tallied n events s) : Truthful n events s := by
  have hfinished : s.promise.isFinished = true → s.remaining = 0 := by
    intro hf
    by_contra hr
    rw [h.promise, if_neg hr] at hf
    exact nomatch hf
  have hall : s.promise.isFinished = true → ∀ i < n, (completionOf events i).isSome := fun hf i hi =>
    ended_of_settled h (h.returned i (h.all_returned (hfinished hf) i hi))
  refine ⟨h.settled_lt, h.settled, ?_, ⟨fun hf i hi => ?_, fun hback => ?_⟩, hall,
    fun hf => ⟨s.error, ?_, ?_, h.succeeded (hall hf)⟩⟩
  · rw [h.promise]
    split_ifs
    · exact Nat.le_refl 1
    · exact Nat.zero_le 1
  · exact (h.handled i hi).mp (h.all_returned (hfinished hf) i hi)
  · have hsub : List.range n ⊆ s.returned := fun i hi =>
      (h.handled i (List.mem_range.mp hi)).mpr (hback i (List.mem_range.mp hi))
    have hlength := (List.subperm_of_subset List.nodup_range hsub).length_le
    have hsum := h.remaining
    rw [List.length_range] at hlength
    rw [h.promise, if_pos (by omega)]
    rfl
  · rw [h.promise, if_pos (hfinished hf)]
  · rw [h.promise, if_pos (hfinished hf)]
    rfl

end

lemma Truthful.destroy {n : ℕ} {events : List SettlingEvent} {s : Settling} (h : Truthful n events s) :
    s.destroy.promise.finishes = 1 := by
  have hle := h.finishes_le
  rw [Settling.destroy]
  split_ifs with hf
  · have hpos : s.promise.finishes ≠ 0 := by simpa [Future.isFinished] using hf
    omega
  · have hzero : s.promise.finishes = 0 := by simpa [Future.isFinished] using hf
    exact congrArg Nat.succ hzero

theorem sendAttachments_truthful (now : SendMoment) {receiver : QString} {attachments : List AttachmentItem}
    (caption : QString) (imageOverride : Option Bool) (hreceiver : receiver ≠ []) (hattachments : attachments ≠ [])
    (hvalid : ∀ attachment ∈ attachments, attachment.valid = true) :
    ∃ s, sendAttachments now receiver attachments caption false imageOverride = .sending s ∧
      ∀ events, (s.run events).ids = attachments.map AttachmentItem.id ∧
        Truthful attachments.length events (s.run events) ∧ (s.run events).destroy.promise.finishes = 1 := by
  have hinvalid : attachments.any (fun attachment => !attachment.valid) = false := by
    rw [List.any_eq_false]
    intro attachment hmem
    rw [hvalid attachment hmem]
    exact Bool.false_ne_true
  refine ⟨settling now receiver attachments caption imageOverride, ?_, fun events => ?_⟩
  · rw [sendAttachments, if_neg (not_or.mpr ⟨hreceiver, hattachments⟩), if_neg Bool.false_ne_true, hinvalid]
    rfl
  · have htruthful := ((Tallied.initial now receiver caption imageOverride hattachments).run events).truthful
    exact ⟨ids_run _ _, htruthful, htruthful.destroy⟩

theorem sendAttachments_truthful_sample :
    ∃ s, sendAttachments {} (ofAscii "b") [{ id := ofAscii "1", url := ofAscii "file:///a" },
        { id := ofAscii "2", url := ofAscii "file:///b" }] [] false none = .sending s ∧
      ∀ events, (s.run events).ids = [ofAscii "1", ofAscii "2"] ∧
        Truthful 2 events (s.run events) ∧ (s.run events).destroy.promise.finishes = 1 :=
  sendAttachments_truthful {} [] none (by decide) (List.cons_ne_nil _ _) (by decide)

end ChatDesktop.Sending
