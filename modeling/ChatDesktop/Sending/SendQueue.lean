import ChatDesktop.Library.Text

/-! The queue of the messages and uploads to be sent. Entries are numbered as they are enqueued, and each has
the promise of its number. What a send does until its future ends is left open. -/

namespace ChatDesktop.Sending

open Library

abbrev QString := Text

/-! ### Futures -/

structure Future where
  canceled : Bool := false
  exception : Option ℕ := none
  results : List QString := []
  finishes : ℕ := 0
  deriving DecidableEq, Repr

namespace Future

def isCanceled (f : Future) : Bool := f.canceled || f.exception.isSome

def isFinished (f : Future) : Bool := f.finishes != 0

def cancel (f : Future) : Future := { f with canceled := true }

def addResult (result : QString) (f : Future) : Future :=
  if f.isCanceled || f.isFinished then f else { f with results := f.results ++ [result] }

def setException (exception : ℕ) (f : Future) : Future :=
  if f.isCanceled || f.isFinished then f else { f with exception := some exception }

def finish (f : Future) : Future := { f with finishes := f.finishes + 1 }

/-- What the handler of a future that ended makes of the promise. The exception of one that is not canceled would be
passed on, but there is none. -/
def handOn (future promise : Future) : Future :=
  if future.isCanceled then promise.cancel
  else future.results.head?.elim promise (fun result => promise.addResult result)

end Future

/-- `tracked` are the promises among the futures to be canceled. -/
structure UploadCancellation where
  canceled : Bool := false
  committed : Bool := false
  tracked : List ℕ := []
  deriving DecidableEq, Repr

/-- A cancellation the caller hands over, or the one `sendFiles` makes for the entry of a number. -/
inductive CancellationId
  | given (n : ℕ)
  | own (n : ℕ)
  deriving DecidableEq, Repr

/-- `task` is the id of the entry's upload. -/
structure SendQueueEntry where
  number : ℕ
  cancellation : Option CancellationId := none
  task : Option QString := none
  deriving DecidableEq, Repr

/-- How a send ended; `canceled` says that its promise was canceled before. -/
structure Ended where
  number : ℕ
  canceled : Bool
  future : Future
  deriving DecidableEq, Repr

/-! ### The queue -/

/-- `watchers` are the entries in flight and `invocations` the queued calls of `nextProcess`. The last three lists
note what became of the entries; `started` with whether the entry's cancellation was canceled. -/
structure MessageRepositoryImpl where
  queue : List SendQueueEntry := []
  processing : Bool := false
  uploadTasks : List (QString × CancellationId) := []
  watchers : List SendQueueEntry := []
  connected : Bool := false
  invocations : ℕ := 0
  entries : ℕ := 0
  promises : ℕ → Future := fun _ => {}
  cancellations : CancellationId → UploadCancellation := fun _ => {}
  destroyed : Bool := false
  started : List (SendQueueEntry × Bool) := []
  skipped : List SendQueueEntry := []
  ended : List Ended := []

/-- How `start` goes if it is called. -/
inductive Start
  | sends
  | throws (exception : ℕ)
  deriving DecidableEq, Repr

namespace MessageRepositoryImpl

def change (n : ℕ) (f : Future → Future) (s : MessageRepositoryImpl) : MessageRepositoryImpl :=
  { s with promises := Function.update s.promises n (f (s.promises n)) }

def isCanceled (s : MessageRepositoryImpl) (c : Option CancellationId) : Bool :=
  c.any (fun c => (s.cancellations c).canceled)

def track (c : CancellationId) (n : ℕ) (s : MessageRepositoryImpl) : MessageRepositoryImpl :=
  let u := s.cancellations c
  if u.canceled then s.change n Future.cancel
  else if u.committed then s
  else { s with cancellations := Function.update s.cancellations c { u with tracked := u.tracked ++ [n] } }

def cancel (c : CancellationId) (s : MessageRepositoryImpl) : MessageRepositoryImpl :=
  let u := s.cancellations c
  if u.committed || u.canceled then s
  else { s with
    cancellations := Function.update s.cancellations c { u with canceled := true, tracked := [] }
    promises := fun n =>
      if n ∈ u.tracked ∧ (s.promises n).isFinished = false then (s.promises n).cancel else s.promises n }

def tryCommit (c : CancellationId) (s : MessageRepositoryImpl) : MessageRepositoryImpl :=
  let u := s.cancellations c
  if u.canceled then s
  else { s with cancellations := Function.update s.cancellations c { u with committed := true, tracked := [] } }

def settle (upload : SendQueueEntry) (s : MessageRepositoryImpl) : MessageRepositoryImpl :=
  let s₁ := s.change upload.number Future.finish
  { s₁ with uploadTasks := s₁.uploadTasks.filter (fun task => upload.task ≠ some task.1) }

def skipCanceled (s : MessageRepositoryImpl) : List SendQueueEntry → MessageRepositoryImpl
  | [] => { s with queue := [] }
  | upload :: queue =>
    if s.isCanceled upload.cancellation then
      skipCanceled { s.settle upload with skipped := s.skipped ++ [upload] } queue
    else { s with queue := upload :: queue }

def nextProcess (start : Start) (s : MessageRepositoryImpl) : MessageRepositoryImpl :=
  if s.processing || s.queue.isEmpty then s
  else
    let s₁ := s.skipCanceled s.queue
    match s₁.queue with
    | [] => s₁
    | upload :: queue =>
      if s₁.connected = false then s₁
      else
        let s₂ := { s₁ with
          processing := true
          queue
          started := s₁.started ++ [(upload, s₁.isCanceled upload.cancellation)] }
        match start with
        | .sends => { s₂ with watchers := s₂.watchers ++ [upload] }
        | .throws exception =>
          let ended : Ended :=
            ⟨upload.number, (s₂.promises upload.number).isCanceled, { exception := some exception }⟩
          let s₃ := (s₂.change upload.number (Future.setException exception)).settle upload
          { s₃ with processing := false, invocations := s₃.invocations + 1, ended := s₃.ended ++ [ended] }

def enqueue (cancellation : Option CancellationId) (task : Option QString) (start : Start)
    (s : MessageRepositoryImpl) : MessageRepositoryImpl :=
  let upload : SendQueueEntry := { number := s.entries, cancellation, task }
  let s₁ := { s with entries := s.entries + 1 }
  let s₂ := cancellation.elim s₁ (fun c => s₁.track c upload.number)
  { s₂ with queue := s₂.queue ++ [upload] }.nextProcess start

/-- A file that is missing, empty or unreadable is not `readable`. -/
def sendFiles (id : QString) (cancellation : Option CancellationId) (readable : Bool) (start : Start)
    (s : MessageRepositoryImpl) : MessageRepositoryImpl :=
  if s.isCanceled cancellation then s
  else if id ∈ s.uploadTasks.map Prod.fst then s
  else if readable = false then s
  else
    let c := cancellation.getD (.own s.entries)
    { s with uploadTasks := (id, c) :: s.uploadTasks }.enqueue (some c) (some id) start

def cancelFileUpload (upload_id : QString) (s : MessageRepositoryImpl) : MessageRepositoryImpl :=
  (s.uploadTasks.lookup upload_id).elim s (fun c => s.cancel c)

/-- The handler of the end of a send, that of the watcher at place `i`. -/
def onFinished (i : ℕ) (future : Future) (start : Start) (s : MessageRepositoryImpl) :
    MessageRepositoryImpl :=
  match s.watchers[i]? with
  | none => s
  | some upload =>
    let ended : Ended := ⟨upload.number, (s.promises upload.number).isCanceled, future⟩
    let s₁ := (s.change upload.number future.handOn).settle upload
    { s₁ with
      watchers := s₁.watchers.eraseIdx i
      processing := false
      ended := s₁.ended ++ [ended] }.nextProcess start

def drop (s : MessageRepositoryImpl) (upload : SendQueueEntry) : MessageRepositoryImpl :=
  s.change upload.number (fun f => f.cancel.finish)

def destroy (s : MessageRepositoryImpl) : MessageRepositoryImpl :=
  let s₁ := s.uploadTasks.foldl (fun s task => s.cancel task.2) s
  let s₂ := s₁.queue.foldl drop s₁
  let s₃ := s₂.watchers.foldl drop s₂
  { s₃ with queue := [], watchers := [], uploadTasks := [], processing := false, destroyed := true }

end MessageRepositoryImpl

inductive Event
  | sendMessage (start : Start)
  | sendFiles (id : QString) (cancellation : Option ℕ) (readable : Bool) (start : Start)
  | connectedChanged (connected : Bool) (start : Start)
  | nextProcess (start : Start)
  | cancelFileUpload (id : QString)
  | cancel (cancellation : CancellationId)
  | tryCommit (cancellation : CancellationId)
  | finished (i : ℕ) (future : Future) (start : Start)
  | destroyed
  deriving DecidableEq, Repr

namespace MessageRepositoryImpl

def step (s : MessageRepositoryImpl) : Event → MessageRepositoryImpl
  | .cancel c => s.cancel c
  | .tryCommit c => s.tryCommit c
  | e =>
    if s.destroyed then s
    else
      match e with
      | .sendMessage start => s.enqueue none none start
      | .sendFiles id cancellation readable start =>
        s.sendFiles id (cancellation.map .given) readable start
      | .connectedChanged connected start => { s with connected }.nextProcess start
      | .nextProcess start =>
        if s.invocations = 0 then s else { s with invocations := s.invocations - 1 }.nextProcess start
      | .cancelFileUpload id => s.cancelFileUpload id
      | .finished i future start => s.onFinished i future start
      | .destroyed => s.destroy
      | .cancel _ => s
      | .tryCommit _ => s

end MessageRepositoryImpl

end ChatDesktop.Sending
