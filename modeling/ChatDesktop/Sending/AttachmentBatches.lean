import ChatDesktop.Sending.SendQueue

/-! Batches of attachments and their two levels of cancellation: one for the batch, which cancels the futures the
repository returned, and one for each attachment, which the commit point tests and which hears of a canceled future
from a queued signal. When the queue of the repository starts a send is left open. -/

namespace ChatDesktop.Sending

open Library Library.Text

def uploadCanceled : QString := ofAscii "Upload canceled."

/-- A send that waits, uploads, was handed to XMPP, has a future that ended, and is settled in the queue. -/
inductive Stage
  | queued
  | uploading
  | handing
  | ended (future : Future)
  | done
  deriving DecidableEq, Repr

/-- `canceled` and `committed` are the flags of the attachment's cancellation, `future` the one the repository
returned, with the signals of its watcher that were delivered. The last three note whether it was handed to XMPP,
reported canceled, and not yet handed when its batch was canceled. -/
structure Attachment where
  id : QString
  canceled : Bool := false
  committed : Bool := false
  future : Future := {}
  stage : Stage := .queued
  canceledDelivered : Bool := false
  finishedDelivered : Bool := false
  handed : Bool := false
  reported : Bool := false
  recalled : Bool := false
  deriving DecidableEq, Repr

namespace Attachment

def cancelFuture (a : Attachment) : Attachment :=
  if a.future.isFinished then a else { a with future := a.future.cancel }

/-- `cancel` of the attachment's cancellation; it tracks the future until the commit. -/
def cancel (a : Attachment) : Attachment × Bool :=
  if a.committed || a.canceled then (a, false) else ({ a with canceled := true }.cancelFuture, true)

def next (a : Attachment) : Attachment :=
  if a.stage ≠ .queued then a
  else if a.canceled then { a with future := a.future.finish, stage := .done }
  else { a with stage := .uploading }

def uploaded (error : QString) (a : Attachment) : Attachment :=
  if a.stage ≠ .uploading then a
  else if a.canceled then { a with stage := .ended { canceled := true, finishes := 1 } }
  else if error ≠ [] then { a with stage := .ended { results := [error], finishes := 1 } }
  else { a with committed := true, stage := .handing, handed := true }

def sent (error : QString) (a : Attachment) : Attachment :=
  if a.stage ≠ .handing then a else { a with stage := .ended { results := [error], finishes := 1 } }

def sendFinished (a : Attachment) : Attachment :=
  match a.stage with
  | .ended future => { a with future := (future.handOn a.future).finish, stage := .done }
  | _ => a

def onCanceled (a : Attachment) : Attachment :=
  if a.future.isCanceled = false ∨ a.canceledDelivered then a
  else { a with canceledDelivered := true }.cancel.1

def finishes (a : Attachment) : Bool :=
  a.future.isFinished && !a.finishedDelivered && (!a.future.isCanceled || a.canceledDelivered)

def onFinished (a : Attachment) : Attachment :=
  { a with finishedDelivered := true, reported := a.reported || a.future.isCanceled }

def settledError (a : Attachment) : Option QString :=
  if a.future.isCanceled then some uploadCanceled
  else
    match a.future.results with
    | [] => none
    | result :: _ => if result = [] then none else some result

end Attachment

/-- `canceled` is the flag of the batch's cancellation, `result` that of its promise, and `uploadError` what its end
left in the view model. -/
structure Batch where
  attachments : List Attachment := []
  canceled : Bool := false
  remaining : ℕ := 0
  error : QString := []
  result : Option QString := none
  uploadError : Option QString := none
  deriving DecidableEq, Repr

namespace Batch

def cancel (batch : Batch) : Batch :=
  if batch.canceled then batch
  else { batch with
    canceled := true
    attachments := batch.attachments.map (fun a => { a.cancelFuture with recalled := !a.handed }) }

def change (i : ℕ) (f : Attachment → Attachment) (batch : Batch) : Batch :=
  { batch with attachments := batch.attachments.modify i f }

def report (error : QString) (batch : Batch) : Batch :=
  { batch with
    attachments := batch.attachments.map (fun a =>
      { a with reported := a.reported || decide (error = uploadCanceled) }) }

def onFinished (i : ℕ) (batch : Batch) : Batch :=
  match batch.attachments[i]? with
  | none => batch
  | some a =>
    if a.finishes then
      let error := a.settledError.getD batch.error
      let remaining := batch.remaining - 1
      let batch := { batch.change i Attachment.onFinished with error, remaining }
      if remaining = 0 then { batch with result := some error }.report error else batch
    else batch

def onUploadFinished (batch : Batch) : Batch :=
  match batch.result, batch.uploadError with
  | some result, none =>
    let error := if batch.canceled then uploadCanceled else result
    { batch with uploadError := some error }.report error
  | _, _ => batch

end Batch

/-- `attachmentCancellation` is that of the batch of this number. -/
structure Uploads where
  batches : List Batch := []
  attachmentCancellation : Option ℕ := none
  deriving DecidableEq, Repr

/-- A refusal is the text of a batch that is not begun, or of an attachment that `sendFiles` does not enqueue. -/
inductive BatchEvent
  | startAttachmentUpload (refusal : Option QString) (attachments : List (QString × Option QString))
  | cancelAttachmentUpload
  | cancelFileUpload (upload_id : QString)
  | next (b i : ℕ)
  | uploaded (b i : ℕ) (error : QString)
  | sent (b i : ℕ) (error : QString)
  | sendFinished (b i : ℕ)
  | futureCanceled (b i : ℕ)
  | futureFinished (b i : ℕ)
  | uploadFinished (b : ℕ)
  deriving DecidableEq, Repr

namespace Uploads

def change (b : ℕ) (f : Batch → Batch) (s : Uploads) : Uploads := { s with batches := s.batches.modify b f }

def uploadTasks (s : Uploads) : List QString :=
  s.batches.flatMap (fun batch => (batch.attachments.filter (fun a => a.stage ≠ .done)).map (·.id))

def busy : QString := ofAscii "File upload is already queued or in progress."

/-- `sendFiles` of one attachment after others of its batch. -/
def sendFiles (tasks : List QString) (attachment : QString × Option QString) : Attachment :=
  let refused (text : QString) : Attachment :=
    { id := attachment.1, future := { results := [text], finishes := 1 }, stage := .done }
  if attachment.1 ∈ tasks then refused busy else attachment.2.elim { id := attachment.1 } refused

def sendAttachments (tasks : List QString) : List (QString × Option QString) → List Attachment
  | [] => []
  | attachment :: attachments =>
    let a := sendFiles tasks attachment
    a :: sendAttachments (if a.stage = .done then tasks else a.id :: tasks) attachments

def startAttachmentUpload (refusal : Option QString) (attachments : List (QString × Option QString))
    (s : Uploads) : Uploads :=
  let attachments := sendAttachments s.uploadTasks attachments
  let batch : Batch :=
    match refusal, attachments with
    | some text, _ => { result := some text }
    | none, [] => { result := some (ofAscii "Select attachments and a recipient before sending.") }
    | none, _ => { attachments, remaining := attachments.length }
  { batches := s.batches ++ [batch], attachmentCancellation := some s.batches.length }

def cancelAttachmentUpload (s : Uploads) : Uploads :=
  s.attachmentCancellation.elim s (fun b => s.change b Batch.cancel)

def cancelFileUpload (upload_id : QString) (s : Uploads) : Uploads :=
  { s with batches := s.batches.map (fun batch => { batch with
      attachments := batch.attachments.map (fun a =>
        if a.id = upload_id ∧ a.stage ≠ .done then
          let (a, canceled) := a.cancel
          { a with reported := a.reported || canceled }
        else a) }) }

/-- The watcher of the batch of this number has a result to deliver; whichever batch is the last one, it cannot be
canceled after that. -/
def onUploadFinished (b : ℕ) (s : Uploads) : Uploads :=
  if s.batches[b]?.any (fun batch => batch.result.isSome && batch.uploadError.isNone) then
    { s.change b Batch.onUploadFinished with attachmentCancellation := none }
  else s

def step (s : Uploads) : BatchEvent → Uploads
  | .startAttachmentUpload refusal attachments => s.startAttachmentUpload refusal attachments
  | .cancelAttachmentUpload => s.cancelAttachmentUpload
  | .cancelFileUpload upload_id => s.cancelFileUpload upload_id
  | .next b i => s.change b (Batch.change i Attachment.next)
  | .uploaded b i error => s.change b (Batch.change i (Attachment.uploaded error))
  | .sent b i error => s.change b (Batch.change i (Attachment.sent error))
  | .sendFinished b i => s.change b (Batch.change i Attachment.sendFinished)
  | .futureCanceled b i => s.change b (Batch.change i Attachment.onCanceled)
  | .futureFinished b i => s.change b (Batch.onFinished i)
  | .uploadFinished b => s.onUploadFinished b

end Uploads

end ChatDesktop.Sending
