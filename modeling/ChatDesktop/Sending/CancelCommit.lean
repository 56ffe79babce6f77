import ChatDesktop.Library.Reactive
import ChatDesktop.Sending.AttachmentBatches

namespace ChatDesktop.Sending

open Library Library.Text Library.Reactive Uploads

/-- What was handed to XMPP is not reported canceled, nor was its batch canceled before. -/
def Agrees (s : Uploads) : Prop :=
  ∀ batch ∈ s.batches, ∀ a ∈ batch.attachments, a.handed = true → a.reported = false ∧ a.recalled = false

/-- A batch is canceled before an attachment of it is handed to XMPP, none is handed before the signal of its canceled
future arrives, and none was when the last of the batch is settled and an attachment canceled by itself has lent its
error to it. -/
def Timely (s : Uploads) : BatchEvent → Prop
  | .cancelAttachmentUpload => ∀ b batch, s.attachmentCancellation = some b → s.batches[b]? = some batch →
      batch.canceled = false → ∀ a ∈ batch.attachments, a.handed = false
  | .uploaded b i error => ∀ batch a, s.batches[b]? = some batch → batch.attachments[i]? = some a →
      batch.canceled = true → a.stage = .uploading → error = [] → a.canceled = true
  | .futureFinished b i => ∀ batch a, s.batches[b]? = some batch → batch.attachments[i]? = some a →
      a.finishes = true → batch.remaining = 1 → a.settledError.getD batch.error = uploadCanceled →
        ∀ a ∈ batch.attachments, a.handed = false
  | _ => True

/-- `batch` says whether the batch is canceled. -/
structure Settled (batch : Bool) (a : Attachment) : Prop where
  exclusive : a.committed = true → a.canceled = false
  committed : a.handed = true → a.committed = true
  future : a.future.isCanceled = true → a.canceled = true ∨ batch = true
  ended : ∀ f, a.stage = .ended f → f.isCanceled = true → a.canceled = true
  finished : a.future.isFinished = true → a.stage = .done
  delivered : a.finishedDelivered = true → a.future.isFinished = true
  reported : a.reported = true → a.handed = false ∧ (a.canceled = true ∨ batch = true ∨ a.stage = .done)
  handed : batch = true → a.handed = false
  recalled : a.recalled = true → batch = true

/-- An attachment that is done stays so, and the delivery of `finished` is not touched. -/
structure Moves (a a' : Attachment) : Prop where
  done : a.stage = .done → a'.stage = .done ∧ a'.handed = a.handed
  delivered : a'.finishedDelivered = a.finishedDelivered

structure Accounted (batch : Batch) : Prop where
  settled : ∀ a ∈ batch.attachments, Settled batch.canceled a
  remaining : batch.attachments.countP (fun a => !a.finishedDelivered) = batch.remaining
  result : ∀ r, batch.result = some r → ∀ a ∈ batch.attachments, a.stage = .done ∧ (r = uploadCanceled → a.handed = false)

def Sorted (s : Uploads) : Prop := ∀ batch ∈ s.batches, Accounted batch

section

variable {s : Uploads} {batch : Batch} {a : Attachment} {c : Bool} {error : QString} {b i : ℕ}

lemma modify_cases {α : Type} (f : α → α) (i : ℕ) (l : List α) :
    (l[i]? = none ∧ l.modify i f = l) ∨
      ∃ l₁ a l₂, l[i]? = some a ∧ l = l₁ ++ a :: l₂ ∧ l.modify i f = l₁ ++ f a :: l₂ := by
  by_cases h : i < l.length
  · obtain ⟨l₁, a, l₂, rfl, rfl, hm⟩ := List.exists_of_modify f h
    exact Or.inr ⟨l₁, a, l₂, by simp, rfl, hm⟩
  · exact Or.inl ⟨List.getElem?_eq_none (by omega), List.modify_eq_self (by omega)⟩

lemma Moves.refl : Moves a a := ⟨fun hd => ⟨hd, rfl⟩, rfl⟩

lemma Moves.ended {a' : Attachment} {p : Prop} (h : Moves a a') (ha : a.stage = .done ∧ (p → a.handed = false)) :
    a'.stage = .done ∧ (p → a'.handed = false) :=
  ⟨(h.done ha.1).1, fun hp => (h.done ha.1).2.trans (ha.2 hp)⟩

/-! ### One attachment -/

lemma Settled.cancelFuture (h : Settled c a) (hc : a.canceled = true ∨ c = true) :
    Settled c a.cancelFuture ∧ Moves a a.cancelFuture := by
  unfold Attachment.cancelFuture
  split_ifs with hf
  · exact ⟨h, .refl⟩
  · refine ⟨⟨h.exclusive, h.committed, fun _ => hc, h.ended, fun hf' => ?_, fun hd => ?_, h.reported, h.handed,
      h.recalled⟩, ⟨fun hd => ⟨hd, rfl⟩, rfl⟩⟩
    · exact absurd hf' hf
    · exact absurd (h.delivered hd) hf

lemma Settled.cancel (h : Settled c a) : Settled c a.cancel.1 ∧ Moves a a.cancel.1 ∧
    (a.cancel.2 = true → a.cancel.1.canceled = true ∧ a.cancel.1.handed = false) := by
  unfold Attachment.cancel
  split_ifs with hc
  · exact ⟨h, .refl, by simp⟩
  · simp only [Bool.or_eq_true, not_or, Bool.not_eq_true] at hc
    have hh : a.handed = false := by
      cases hh : a.handed with
      | false => rfl
      | true => exact absurd (h.committed hh) (by simp [hc.1])
    have h₁ : Settled c { a with canceled := true } := by
      refine ⟨fun hcom => ?_, h.committed, fun _ => Or.inl rfl, fun _ _ _ => rfl, h.finished, h.delivered,
        fun hr => ⟨hh, Or.inl rfl⟩, h.handed, h.recalled⟩
      exact absurd hcom (by simp [hc.1])
    obtain ⟨h₂, hm⟩ := h₁.cancelFuture (Or.inl rfl)
    refine ⟨h₂, ⟨hm.done, hm.delivered⟩, fun _ => ?_⟩
    unfold Attachment.cancelFuture
    split_ifs <;> exact ⟨rfl, hh⟩

lemma Settled.next (h : Settled c a) : Settled c a.next ∧ Moves a a.next := by
  unfold Attachment.next
  split_ifs with hs hc
  · exact ⟨h, .refl⟩
  · refine ⟨⟨h.exclusive, h.committed, h.future, fun f hf => ?_, fun _ => rfl, fun hd => ?_, fun hr => ?_, h.handed,
      h.recalled⟩, ⟨fun _ => ⟨rfl, rfl⟩, rfl⟩⟩
    · cases hf
    · have := h.finished (h.delivered hd)
      simp only [not_not] at hs
      simp [hs] at this
    · exact ⟨(h.reported hr).1, Or.inl hc⟩
  · simp only [not_not] at hs
    refine ⟨⟨h.exclusive, h.committed, h.future, fun f hf => ?_, fun hf => ?_, h.delivered, fun hr => ?_, h.handed,
      h.recalled⟩, ⟨fun hd => ?_, rfl⟩⟩
    · cases hf
    · have := h.finished hf
      simp [hs] at this
    · obtain ⟨hh, hr⟩ := h.reported hr
      refine ⟨hh, hr.imp_right (Or.imp_right (fun hd => ?_))⟩
      simp [hs] at hd
    · simp [hs] at hd

lemma Settled.ends (h : Settled c a) (hs : a.stage = .uploading ∨ a.stage = .handing) {f : Future}
    (hf : f.isCanceled = true → a.canceled = true) :
    Settled c { a with stage := .ended f } ∧ Moves a { a with stage := .ended f } := by
  have hdone : a.stage ≠ .done := by
    obtain hs | hs := hs <;> simp [hs]
  refine ⟨⟨h.exclusive, h.committed, h.future, ?_, fun hf => absurd (h.finished hf) hdone, h.delivered, fun hr => ?_,
    h.handed, h.recalled⟩, ⟨fun hd => absurd hd hdone, rfl⟩⟩
  · rintro _ ⟨⟩
    exact hf
  · obtain ⟨hh, hr⟩ := h.reported hr
    exact ⟨hh, hr.imp_right (Or.imp_right (fun hd => absurd hd hdone))⟩

lemma Settled.uploaded (h : Settled c a)
    (ht : c = true → a.stage = .uploading → error = [] → a.canceled = true) :
    Settled c (a.uploaded error) ∧ Moves a (a.uploaded error) := by
  unfold Attachment.uploaded
  split_ifs with hs hc he
  · exact ⟨h, .refl⟩
  · exact h.ends (Or.inl (not_not.mp hs)) (fun _ => hc)
  · exact h.ends (Or.inl (not_not.mp hs)) (by simp [Future.isCanceled])
  · have hup : a.stage = .uploading := not_not.mp hs
    have hcan : a.canceled = false := by simpa using hc
    have hbatch : c = false := by
      cases c with
      | false => rfl
      | true => exact absurd (ht rfl hup (not_not.mp he)) hc
    have hdone : a.stage ≠ .done := by simp [hup]
    have hrep : ∀ {p : Prop}, a.reported = true → p := fun hr => by
      obtain ⟨-, hr | hr | hr⟩ := h.reported hr
      · exact absurd hr hc
      · simp [hbatch] at hr
      · exact absurd hr hdone
    refine ⟨⟨fun _ => hcan, fun _ => rfl, h.future, fun f hf => absurd hf (by simp), fun hf => absurd (h.finished hf) hdone,
      h.delivered, hrep, fun hb => ?_, h.recalled⟩, ⟨fun hd => absurd hd hdone, rfl⟩⟩
    simp [hbatch] at hb

lemma Settled.sent (h : Settled c a) : Settled c (a.sent error) ∧ Moves a (a.sent error) := by
  unfold Attachment.sent
  split_ifs with hs
  · exact ⟨h, .refl⟩
  · exact h.ends (Or.inr (not_not.mp hs)) (by simp [Future.isCanceled])

lemma isCanceled_handOn {f p : Future} (h : (f.handOn p).finish.isCanceled = true) :
    f.isCanceled = true ∨ p.isCanceled = true := by
  unfold Future.handOn at h
  split_ifs at h with hf
  · exact Or.inl hf
  · right
    cases hr : f.results.head? with
    | none =>
      rw [hr] at h
      exact h
    | some result =>
      simp only [hr, Option.elim_some, Future.addResult] at h
      split_ifs at h <;> exact h

lemma Settled.sendFinished (h : Settled c a) : Settled c a.sendFinished ∧ Moves a a.sendFinished := by
  unfold Attachment.sendFinished
  split
  · rename_i f hs
    refine ⟨⟨h.exclusive, h.committed, fun hc => ?_, fun g hg => absurd hg (by simp), fun _ => rfl, fun hd => ?_, fun hr => ?_,
      h.handed, h.recalled⟩, ⟨fun _ => ⟨rfl, rfl⟩, rfl⟩⟩
    · obtain hf | hp := isCanceled_handOn hc
      · exact Or.inl (h.ended f hs hf)
      · exact h.future hp
    · have := h.finished (h.delivered hd)
      simp [hs] at this
    · exact ⟨(h.reported hr).1, Or.inr (Or.inr rfl)⟩
  · exact ⟨h, .refl⟩

lemma Settled.onCanceled (h : Settled c a) : Settled c a.onCanceled ∧ Moves a a.onCanceled := by
  unfold Attachment.onCanceled
  split_ifs with hf
  · exact ⟨h, .refl⟩
  · have h₁ : Settled c { a with canceledDelivered := true } :=
      ⟨h.exclusive, h.committed, h.future, h.ended, h.finished, h.delivered, h.reported, h.handed, h.recalled⟩
    obtain ⟨h₂, hm, -⟩ := h₁.cancel
    exact ⟨h₂, ⟨hm.done, hm.delivered⟩⟩

lemma Settled.onFinished (h : Settled c a) (hf : a.finishes = true) : Settled c a.onFinished := by
  simp only [Attachment.finishes, Bool.and_eq_true] at hf
  refine ⟨h.exclusive, h.committed, h.future, h.ended, h.finished, fun _ => hf.1.1, fun hr => ?_, h.handed, h.recalled⟩
  have hdone : a.stage = .done := h.finished hf.1.1
  refine ⟨?_, Or.inr (Or.inr hdone)⟩
  simp only [Attachment.onFinished, Bool.or_eq_true] at hr
  obtain hr | hc := hr
  · exact (h.reported hr).1
  · obtain hc | hc := h.future hc
    · cases hh : a.handed with
      | false => exact hh
      | true => exact absurd hc (by simp [h.exclusive (h.committed hh)])
    · exact h.handed hc

/-! ### One batch -/

lemma Accounted.change (h : Accounted batch) {f : Attachment → Attachment}
    (hf : ∀ a, batch.attachments[i]? = some a → Settled batch.canceled a →
      Settled batch.canceled (f a) ∧ Moves a (f a)) : Accounted (batch.change i f) := by
  obtain ⟨-, hm⟩ | ⟨l₁, a, l₂, hi, hl, hm⟩ := modify_cases f i batch.attachments
  · have he : batch.change i f = batch := by rw [Batch.change, hm]
    rw [he]
    exact h
  have hs := h.settled
  have hr := h.remaining
  have hres := h.result
  rw [hl] at hs hr hres
  obtain ⟨ha, hmove⟩ := hf a hi (hs a (by simp))
  have hc : batch.change i f = { batch with attachments := l₁ ++ f a :: l₂ } := by rw [Batch.change, hm]
  rw [hc]
  refine ⟨fun x hx => ?_, ?_, fun r hbr x hx => ?_⟩
  · simp only [List.mem_append, List.mem_cons] at hx
    obtain hx | rfl | hx := hx
    · exact hs x (by simp [hx])
    · exact ha
    · exact hs x (by simp [hx])
  · rw [← hr]
    simp only [List.countP_append, List.countP_cons, hmove.delivered]
  · have hdone := hres r hbr
    simp only [List.mem_append, List.mem_cons] at hx
    obtain hx | rfl | hx := hx
    · exact hdone x (by simp [hx])
    · exact hmove.ended (hdone a (by simp))
    · exact hdone x (by simp [hx])

lemma Accounted.changeAll (h : Accounted batch) {canceled : Bool} {uploadError : Option QString}
    {f : Attachment → Attachment} (hf : ∀ a ∈ batch.attachments, Settled batch.canceled a →
      Settled canceled (f a) ∧ Moves a (f a)) :
    Accounted { batch with canceled, uploadError, attachments := batch.attachments.map f } := by
  refine ⟨fun x hx => ?_, ?_, fun r hbr x hx => ?_⟩
  · obtain ⟨a, ha, rfl⟩ := List.mem_map.mp hx
    exact (hf a ha (h.settled a ha)).1
  · rw [← h.remaining, List.countP_map]
    refine List.countP_congr (fun a ha => ?_)
    simp [(hf a ha (h.settled a ha)).2.delivered]
  · obtain ⟨a, ha, rfl⟩ := List.mem_map.mp hx
    exact (hf a ha (h.settled a ha)).2.ended (h.result r hbr a ha)

lemma Accounted.report (h : Accounted batch)
    (hc : error = uploadCanceled → ∀ a ∈ batch.attachments, a.stage = .done ∧ a.handed = false) :
    Accounted (batch.report error) := by
  rw [Batch.report]
  refine h.changeAll (fun a ha hs => ⟨⟨hs.exclusive, hs.committed, hs.future, hs.ended, hs.finished, hs.delivered,
    fun hr => ?_, hs.handed, hs.recalled⟩, ⟨fun hd => ⟨hd, rfl⟩, rfl⟩⟩)
  simp only [Bool.or_eq_true, decide_eq_true_eq] at hr
  obtain hr | hr := hr
  · exact hs.reported hr
  · exact ⟨(hc hr a ha).2, .inr (.inr (hc hr a ha).1)⟩

lemma Accounted.cancel (h : Accounted batch)
    (ht : batch.canceled = false → ∀ a ∈ batch.attachments, a.handed = false) : Accounted batch.cancel := by
  unfold Batch.cancel
  split_ifs with hc
  · exact h
  refine h.changeAll (fun a ha hs => ?_)
  have hh : a.handed = false := ht (by simpa using hc) a ha
  have h₁ : Settled true a :=
    ⟨hs.exclusive, hs.committed, fun _ => Or.inr rfl, hs.ended, hs.finished, hs.delivered,
      fun hr => ⟨hh, Or.inr (Or.inl rfl)⟩, fun _ => hh, fun _ => rfl⟩
  obtain ⟨h₂, hm⟩ := h₁.cancelFuture (Or.inr rfl)
  exact ⟨⟨h₂.exclusive, h₂.committed, h₂.future, h₂.ended, h₂.finished, h₂.delivered, h₂.reported, h₂.handed,
    fun _ => rfl⟩, ⟨hm.done, hm.delivered⟩⟩

lemma Accounted.onFinished (h : Accounted batch) (ht : ∀ a, batch.attachments[i]? = some a → a.finishes = true →
    batch.remaining = 1 → a.settledError.getD batch.error = uploadCanceled → ∀ a ∈ batch.attachments, a.handed = false) :
    Accounted (batch.onFinished i) := by
  unfold Batch.onFinished
  obtain ⟨hi, -⟩ | ⟨l₁, a, l₂, hi, hl, hm⟩ := modify_cases Attachment.onFinished i batch.attachments
  · rw [hi]
    exact h
  rw [hi]
  dsimp only
  by_cases hf : a.finishes = true
  swap
  · rw [if_neg hf]
    exact h
  rw [if_pos hf]
  have hs := h.settled
  have hr := h.remaining
  have hlate := ht a hi hf
  rw [hl] at hs hr hlate
  have hnot : a.finishedDelivered = false := by
    simp only [Attachment.finishes, Bool.and_eq_true, Bool.not_eq_true'] at hf
    exact hf.1.2
  have hsettled : ∀ x ∈ l₁ ++ a.onFinished :: l₂, Settled batch.canceled x := by
    intro x hx
    simp only [List.mem_append, List.mem_cons] at hx
    obtain hx | rfl | hx := hx
    · exact hs x (by simp [hx])
    · exact (hs a (by simp)).onFinished hf
    · exact hs x (by simp [hx])
  have hremaining : 1 ≤ batch.remaining := by
    rw [← hr, List.countP_append, List.countP_cons, hnot]
    simp only [Bool.not_false, if_true]
    omega
  have hcount : (l₁ ++ a.onFinished :: l₂).countP (fun a => !a.finishedDelivered) = batch.remaining - 1 := by
    simp only [List.countP_append, List.countP_cons, hnot, Attachment.onFinished, Bool.not_false, Bool.not_true,
      if_true, Bool.false_eq_true, if_false] at hr ⊢
    omega
  rw [Batch.change, hm]
  by_cases hzero : batch.remaining - 1 = 0
  · -- all are settled, and what is reported with the batch was not handed
    have hdone : ∀ x ∈ l₁ ++ a.onFinished :: l₂, x.stage = .done := by
      intro x hx
      rw [hzero, List.countP_eq_zero] at hcount
      have hx' := hsettled x hx
      exact hx'.finished (hx'.delivered (by simpa using hcount x hx))
    have hhanded : a.settledError.getD batch.error = uploadCanceled → ∀ x ∈ l₁ ++ a.onFinished :: l₂, x.handed = false := by
      intro herror x hx
      have hall := hlate (by omega) herror
      simp only [List.mem_append, List.mem_cons] at hx
      obtain hx | rfl | hx := hx
      · exact hall x (by simp [hx])
      · exact hall a (by simp)
      · exact hall x (by simp [hx])
    rw [if_pos hzero]
    apply Accounted.report
    · refine ⟨hsettled, hcount, ?_⟩
      rintro _ ⟨⟩ x hx
      exact ⟨hdone x hx, fun herror => hhanded herror x hx⟩
    · exact fun herror x hx => ⟨hdone x hx, hhanded herror x hx⟩
  · rw [if_neg hzero]
    refine ⟨hsettled, hcount, fun r hres x hx => ?_⟩
    have hdone := h.result r hres
    rw [hl] at hdone
    simp only [List.mem_append, List.mem_cons] at hx
    obtain hx | rfl | hx := hx
    · exact hdone x (by simp [hx])
    · exact hdone a (by simp)
    · exact hdone x (by simp [hx])

lemma Accounted.onUploadFinished (h : Accounted batch) : Accounted batch.onUploadFinished := by
  unfold Batch.onUploadFinished
  split
  · rename_i result hres hend
    have hnoted : ∀ uploadError, Accounted { batch with uploadError } := fun _ => ⟨h.settled, h.remaining, h.result⟩
    refine (hnoted _).report fun herror a ha => ?_
    obtain ⟨hdone, hhanded⟩ := h.result result hres a ha
    refine ⟨hdone, ?_⟩
    split_ifs at herror with hc
    · exact (h.settled a ha).handed hc
    · exact hhanded herror
  · exact h

lemma settled_sendFiles (tasks : List QString) (attachment : QString × Option QString) :
    Settled false (sendFiles tasks attachment) ∧ (sendFiles tasks attachment).finishedDelivered = false := by
  have hfresh : Settled false { id := attachment.1 } :=
    ⟨by simp, by simp, by simp [Future.isCanceled], by simp, by simp [Future.isFinished], by simp, by simp, by simp,
      by simp⟩
  have hrefused : ∀ text, Settled false
      { id := attachment.1, future := { results := [text], finishes := 1 }, stage := .done } := fun text =>
    ⟨by simp, by simp, by simp [Future.isCanceled], by simp, by simp, by simp, by simp, by simp, by simp⟩
  unfold sendFiles
  dsimp only
  split_ifs
  · exact ⟨hrefused busy, rfl⟩
  · cases attachment.2 with
    | none => exact ⟨hfresh, rfl⟩
    | some text => exact ⟨hrefused text, rfl⟩

lemma settled_sendAttachments (tasks : List QString) (attachments : List (QString × Option QString)) :
    ∀ a ∈ Uploads.sendAttachments tasks attachments, Settled false a ∧ a.finishedDelivered = false := by
  induction attachments generalizing tasks with
  | nil => simp [Uploads.sendAttachments]
  | cons attachment attachments ih =>
    intro a ha
    simp only [Uploads.sendAttachments, List.mem_cons] at ha
    obtain rfl | ha := ha
    · exact settled_sendFiles tasks attachment
    · exact ih _ a ha

/-! ### A step -/

lemma Sorted.change (h : Sorted s) {f : Batch → Batch}
    (hf : ∀ batch, s.batches[b]? = some batch → Accounted batch → Accounted (f batch)) : Sorted (s.change b f) := by
  intro x hx
  obtain ⟨-, hm⟩ | ⟨l₁, batch, l₂, hb, hl, hm⟩ := modify_cases f b s.batches
  · rw [Uploads.change, hm] at hx
    exact h x hx
  have hs : ∀ x ∈ l₁ ++ batch :: l₂, Accounted x := hl ▸ h
  rw [Uploads.change, hm] at hx
  simp only [List.mem_append, List.mem_cons] at hx
  obtain hx | rfl | hx := hx
  · exact hs x (by simp [hx])
  · exact hf batch hb (hs batch (by simp))
  · exact hs x (by simp [hx])

lemma Sorted.attachment (h : Sorted s) {f : Attachment → Attachment}
    (hf : ∀ {c : Bool} {a : Attachment}, Settled c a → Settled c (f a) ∧ Moves a (f a)) :
    Sorted (s.change b (Batch.change i f)) :=
  h.change fun _ _ hb => hb.change fun _ _ ha => hf ha

lemma Sorted.startAttachmentUpload (h : Sorted s) (refusal : Option QString)
    (attachments : List (QString × Option QString)) : Sorted (s.startAttachmentUpload refusal attachments) := by
  have hnone : ∀ text, Accounted { result := some text } := fun text => ⟨by simp, rfl, by simp⟩
  intro x hx
  obtain hx | hx := List.mem_append.mp hx
  · exact h x hx
  rw [List.mem_singleton.mp hx]
  split
  · exact hnone _
  · exact hnone _
  · have hs := settled_sendAttachments s.uploadTasks attachments
    refine ⟨fun a ha => (hs a ha).1, ?_, by simp⟩
    rw [List.countP_eq_length]
    intro a ha
    simp [(hs a ha).2]

lemma Sorted.cancelFileUpload (h : Sorted s) (upload_id : QString) : Sorted (s.cancelFileUpload upload_id) := by
  intro x hx
  obtain ⟨batch, hb, rfl⟩ := List.mem_map.mp hx
  apply (h batch hb).changeAll
  intro a ha hs
  split_ifs with hid
  · obtain ⟨h₁, hm, hc⟩ := hs.cancel
    refine ⟨⟨h₁.exclusive, h₁.committed, h₁.future, h₁.ended, h₁.finished, h₁.delivered, fun hr => ?_, h₁.handed,
      h₁.recalled⟩, ⟨hm.done, hm.delivered⟩⟩
    simp only [Bool.or_eq_true] at hr
    obtain hr | hr := hr
    · exact h₁.reported hr
    · exact ⟨(hc hr).2, Or.inl (hc hr).1⟩
  · exact ⟨hs, .refl⟩

lemma Sorted.step (h : Sorted s) {e : BatchEvent} (ht : Timely s e) : Sorted (s.step e) := by
  cases e with
  | startAttachmentUpload refusal attachments => exact h.startAttachmentUpload refusal attachments
  | cancelAttachmentUpload =>
    simp only [Uploads.step, cancelAttachmentUpload]
    cases hc : s.attachmentCancellation with
    | none => exact h
    | some b => exact h.change fun batch hb hacc => hacc.cancel (ht b batch hc hb)
  | cancelFileUpload upload_id => exact h.cancelFileUpload upload_id
  | next b i => exact h.attachment fun ha => ha.next
  | uploaded b i error =>
    exact h.change fun batch hb hacc => hacc.change fun a ha hs => hs.uploaded (ht batch a hb ha)
  | sent b i error => exact h.attachment fun ha => ha.sent
  | sendFinished b i => exact h.attachment fun ha => ha.sendFinished
  | futureCanceled b i => exact h.attachment fun ha => ha.onCanceled
  | futureFinished b i => exact h.change fun batch hb hacc => hacc.onFinished fun a ha => ht batch a hb ha
  | uploadFinished b =>
    simp only [Uploads.step, onUploadFinished]
    split_ifs
    · exact h.change fun batch hb hacc => hacc.onUploadFinished
    · exact h

lemma Sorted.agrees (h : Sorted s) : Agrees s := by
  intro batch hb a ha hh
  have hs := (h batch hb).settled a ha
  constructor
  · cases hr : a.reported with
    | false => rfl
    | true => exact absurd hh (by simp [(hs.reported hr).1])
  · cases hr : a.recalled with
    | false => rfl
    | true => exact absurd hh (by simp [hs.handed (hs.recalled hr)])

end

end ChatDesktop.Sending
