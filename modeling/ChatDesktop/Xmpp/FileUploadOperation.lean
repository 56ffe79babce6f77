import ChatDesktop.Library.Promise
import ChatDesktop.Library.Reactive
import ChatDesktop.Library.Text
import Mathlib.Data.List.Infix

namespace ChatDesktop.Xmpp.Uploads

open Library Library.Text Library.Reactive

structure UploadedFile where
  url : Text := []
  error : Text := []
  deriving DecidableEq

/-- A request of `put`. -/
structure Reply where
  downloadUrl : Text
  running : Bool := true

inductive Source
  | file
  | buffer
  deriving DecidableEq

/-- `stopped` is the cancellation of the future or the end of the operation. -/
inductive Mark
  | stopped
  | progress (sent total : ℤ)
  | put (request : Text)
  | deleteLater
  deriving DecidableEq

/-- The last reply is `m_reply`; what the operation does and when it stops stands in the `history`. -/
structure FileUploadOperation where
  promise : Promise UploadedFile
  source : Source := .file
  fileOpen : Bool := false
  fileSize : ℕ := 0
  buffer : List UInt8 := []
  bufferOpen : Bool := false
  replies : List Reply := []
  done : Bool := false
  destroyed : Bool := false
  history : List Mark := []

namespace FileUploadOperation

def put (mark : Mark) (s : FileUploadOperation) : FileUploadOperation := { s with history := s.history ++ [mark] }

def isStopped (s : FileUploadOperation) : Bool := s.done || s.promise.canceled

def size (s : FileUploadOperation) : ℕ :=
  match s.source with
  | .file => s.fileSize
  | .buffer => s.buffer.length

/-- The handler of the end of a reply, with what `m_reply` says. -/
def onFinished (finish : UploadedFile → FileUploadOperation → FileUploadOperation) (downloadUrl : Text)
    (error : Option Text) (status : ℤ) (s : FileUploadOperation) : FileUploadOperation :=
  if s.isStopped then s
  else
    match error with
    | some errorString => finish ⟨[], errorString⟩ s
    | none =>
      if status < 200 ∨ 300 ≤ status then
        finish ⟨[], ofAscii ("File upload failed (HTTP " ++ toString status ++ ").")⟩ s
      else finish ⟨downloadUrl, []⟩ s

def stopTransport (finish : UploadedFile → FileUploadOperation → FileUploadOperation) (s : FileUploadOperation) :
    FileUploadOperation :=
  let s :=
    match s.replies.getLast? with
    | none => s
    | some reply =>
      if reply.running then
        onFinished finish reply.downloadUrl (some (ofAscii "Operation canceled")) 0
          { s with replies := s.replies.dropLast ++ [{ reply with running := false }] }
      else s
  { s with fileOpen := false, bufferOpen := false }

/-- `finish`, which an abort may call again from within itself; the depth of such calls is limited. -/
def finishWithin : ℕ → UploadedFile → FileUploadOperation → FileUploadOperation
  | 0, _, s => s
  | depth + 1, result, s =>
    if s.done then s
    else
      let s := { s with done := true }.put .stopped
      let s := s.stopTransport (finishWithin depth)
      let s := if s.promise.canceled then s else { s with promise := s.promise.addResult result }
      { s with promise := s.promise.finish }.put .deleteLater

def finish (result : UploadedFile) (s : FileUploadOperation) : FileUploadOperation := s.finishWithin 3 result

def cancel (s : FileUploadOperation) : FileUploadOperation :=
  if s.done then s
  else
    let s := { s with done := true }.put .stopped
    let s := s.stopTransport finish
    { s with promise := s.promise.finish }.put .deleteLater

def destroy (s : FileUploadOperation) : FileUploadOperation :=
  let s :=
    if s.done then s
    else
      let s := { s with done := true, promise := s.promise.cancel }.put .stopped
      let s := s.stopTransport finish
      { s with promise := s.promise.finish }
  { s with destroyed := true }

def cancelFuture (s : FileUploadOperation) : FileUploadOperation :=
  { s with promise := s.promise.cancel }.put .stopped

/-- `opened` is the size of the file, or why it cannot be read. -/
def openFile (opened : Except Text ℕ) (s : FileUploadOperation) : Bool × FileUploadOperation :=
  if s.isStopped then (false, s)
  else
    match opened with
    | .error errorString => (false, s.finish ⟨[], errorString⟩)
    | .ok size => (true, { s with fileOpen := true, fileSize := size })

def openData (bytes : List UInt8) (s : FileUploadOperation) : Bool × FileUploadOperation :=
  if s.isStopped then (false, s)
  else if bytes.isEmpty then (false, s.finish ⟨[], ofAscii "Cached upload is missing or unreadable."⟩)
  else
    (true, { s with
      buffer := if s.bufferOpen then s.buffer else bytes
      bufferOpen := true
      source := .buffer })

end FileUploadOperation

/-- What the callback of `put` may do to the operation. -/
inductive Meanwhile
  | cancelFuture
  | finish (result : UploadedFile)

namespace FileUploadOperation

def meanwhile (s : FileUploadOperation) : Meanwhile → FileUploadOperation
  | .cancelFuture => s.cancelFuture
  | .finish result => s.finish result

/-- `during` is what the callback does at the first progress. -/
def putFile (request downloadUrl : Text) (during : List Meanwhile) (s : FileUploadOperation) : FileUploadOperation :=
  if s.isStopped then s
  else
    let s : FileUploadOperation := during.foldl meanwhile (s.put (.progress 0 s.size))
    if s.isStopped then s
    else { s with replies := s.replies ++ [Reply.mk downloadUrl true] }.put (.put request)

def uploadProgress (sent total : ℤ) (s : FileUploadOperation) : FileUploadOperation :=
  if s.isStopped then s else s.put (.progress sent total)

def replyFinished (i : ℕ) (error : Option Text) (status : ℤ) (s : FileUploadOperation) : FileUploadOperation :=
  match s.replies[i]? with
  | none => s
  | some reply =>
    if reply.running then
      onFinished finish reply.downloadUrl error status
        { s with replies := s.replies.set i { reply with running := false } }
    else s

def create (canceled disconnected : Bool) : FileUploadOperation :=
  let s : FileUploadOperation := { promise := { canceled := canceled }, history := if canceled then [.stopped] else [] }
  if disconnected then s.finish ⟨[], ofAscii "No network connection. Reconnect and retry."⟩ else s

end FileUploadOperation

/-- `canceled` is the signal of the watcher, which comes some time after `cancelFuture`. -/
inductive OperationEvent
  | cancelFuture
  | canceled
  | reachabilityChanged (disconnected : Bool)
  | timeout
  | openFile (opened : Except Text ℕ)
  | openData (bytes : List UInt8)
  | put (request downloadUrl : Text) (during : List Meanwhile)
  | uploadProgress (sent total : ℤ)
  | replyFinished (i : ℕ) (error : Option Text) (status : ℤ)
  | finish (result : UploadedFile)
  | destroyed

namespace FileUploadOperation

def handle (s : FileUploadOperation) : OperationEvent → FileUploadOperation
  | .cancelFuture => s.cancelFuture
  | .canceled => if s.promise.canceled then s.cancel else s
  | .reachabilityChanged disconnected =>
    if disconnected then s.finish ⟨[], ofAscii "Connection lost during upload. Reconnect and retry."⟩ else s
  | .timeout => s.finish ⟨[], ofAscii "File upload timed out. Please retry."⟩
  | .openFile opened => (s.openFile opened).2
  | .openData bytes => (s.openData bytes).2
  | .put request downloadUrl during => s.putFile request downloadUrl during
  | .uploadProgress sent total => s.uploadProgress sent total
  | .replyFinished i error status => s.replyFinished i error status
  | .finish result => s.finish result
  | .destroyed => s.destroy

def step (s : FileUploadOperation) (e : OperationEvent) : FileUploadOperation :=
  if s.destroyed then
    match e with
    | .cancelFuture => s.cancelFuture
    | _ => s
  else s.handle e

def ends (s : FileUploadOperation) : OperationEvent → Bool
  | .canceled => s.promise.canceled
  | .reachabilityChanged disconnected => disconnected
  | .timeout => true
  | .openFile (.error _) => !s.promise.canceled
  | .openData bytes => bytes.isEmpty && !s.promise.canceled
  | .replyFinished i _ _ => s.replies[i]?.any Reply.running && !s.promise.canceled
  | .finish _ => true
  | .destroyed => true
  | _ => false

end FileUploadOperation

def NoLatePut (history : List Mark) : Prop :=
  ∀ before request, before ++ [.put request] <+: history → .stopped ∉ before

lemma NoLatePut.append {history : List Mark} (h : NoLatePut history) {mark : Mark}
    (hm : ∀ request, mark ≠ .put request) : NoLatePut (history ++ [mark]) := by
  intro before request hp
  obtain he | hp := List.prefix_concat_iff.mp hp
  · exact absurd (List.head_eq_of_cons_eq (List.append_inj' he rfl).2).symm (hm request)
  · exact h before request hp

lemma NoLatePut.put {history : List Mark} (h : NoLatePut history) (hs : .stopped ∉ history) (request : Text) :
    NoLatePut (history ++ [.put request]) := by
  intro before other hp
  obtain he | hp := List.prefix_concat_iff.mp hp
  · rwa [(List.append_inj' he rfl).1]
  · exact h before other hp

namespace FileUploadOperation

variable {s : FileUploadOperation} {p : Promise UploadedFile}

/-! ### The end of an operation -/

def closed (s : FileUploadOperation) : FileUploadOperation where
  promise := s.promise
  source := s.source
  fileSize := s.fileSize
  buffer := s.buffer
  replies :=
    match s.replies.getLast? with
    | none => s.replies
    | some reply => if reply.running then s.replies.dropLast ++ [{ reply with running := false }] else s.replies
  done := s.done
  destroyed := s.destroyed
  history := s.history

lemma stopTransport_of_done (hd : s.done = true) (finish : UploadedFile → FileUploadOperation → FileUploadOperation) :
    s.stopTransport finish = s.closed := by
  rw [stopTransport, closed]
  cases hlast : s.replies.getLast? with
  | none => rfl
  | some reply =>
    dsimp only
    split_ifs with hrunning
    · have hstopped :
          isStopped { s with replies := s.replies.dropLast ++ [{ reply with running := false }] } = true := by
        rw [isStopped, hd]
        rfl
      rw [onFinished, if_pos hstopped]
    · rfl

def ended (promise : Promise UploadedFile) (s : FileUploadOperation) : FileUploadOperation :=
  { s.closed with promise := promise, done := true, history := s.history ++ [.stopped] }

lemma finishWithin_succ (hd : s.done = false) (hf : s.promise.isFinished = false) (depth : ℕ) (result : UploadedFile) :
    s.finishWithin (depth + 1) result = (s.ended (s.promise.move (.complete result))).put .deleteLater := by
  have hclosed := stopTransport_of_done (s := { s with done := true }.put .stopped) rfl (finishWithin depth)
  rw [finishWithin, hd, if_neg Bool.false_ne_true, Promise.move_complete hf]
  simp only [hclosed]
  split_ifs with hc
  · have hsame : s.promise.addResult result = s.promise := Promise.addResult_of_canceled hc result
    rw [hsame]
    rfl
  · rfl

lemma finish_of_not_done (hd : s.done = false) (hf : s.promise.isFinished = false) (result : UploadedFile) :
    s.finish result = (s.ended (s.promise.move (.complete result))).put .deleteLater :=
  finishWithin_succ hd hf 2 result

lemma finish_of_done (hd : s.done = true) (result : UploadedFile) : s.finish result = s := by
  rw [finish, finishWithin, if_pos hd]

lemma cancel_of_not_done (hd : s.done = false) : s.cancel = (s.ended s.promise.finish).put .deleteLater := by
  have hclosed := stopTransport_of_done (s := { s with done := true }.put .stopped) rfl finish
  rw [cancel, hd, if_neg Bool.false_ne_true]
  simp only [hclosed]
  rfl

lemma destroy_of_not_done (hd : s.done = false) :
    s.destroy = { s.ended s.promise.cancel.finish with destroyed := true } := by
  have hclosed := stopTransport_of_done (s := { s with done := true, promise := s.promise.cancel }.put .stopped) rfl
    finish
  rw [destroy, hd, if_neg Bool.false_ne_true]
  simp only [hclosed]
  rfl

/-! ### What holds all along -/

/-- The promise has come from `p`, and is finished exactly when the operation is done. -/
structure Sound (p : Promise UploadedFile) (s : FileUploadOperation) : Prop where
  moved : p.Moved s.promise
  finished : s.promise.isFinished = s.done
  stopped : .stopped ∈ s.history → s.isStopped = true
  puts : NoLatePut s.history
  destroyed : s.destroyed = true → s.done = true

lemma Sound.again (h : s.Sound p) : s.Sound s.promise := ⟨.refl _, h.finished, h.stopped, h.puts, h.destroyed⟩

lemma Sound.note (h : s.Sound p) {mark : Mark} (hput : ∀ request, mark ≠ .put request) (hstopped : mark ≠ .stopped) :
    (s.put mark).Sound p := by
  refine ⟨h.moved, h.finished, fun hs => h.stopped ?_, h.puts.append hput, h.destroyed⟩
  obtain hs | hs := List.mem_append.mp hs
  · exact hs
  · exact absurd (List.mem_singleton.mp hs).symm hstopped

lemma Sound.progress (h : s.Sound p) (sent total : ℤ) : (s.put (.progress sent total)).Sound p := h.note nofun nofun

lemma Sound.deleteLater (h : s.Sound p) : (s.put .deleteLater).Sound p := h.note nofun nofun

lemma Sound.cancelFuture (h : s.Sound p) : s.cancelFuture.Sound p := by
  refine ⟨h.moved.move .cancel, h.finished, fun _ => ?_, h.puts.append nofun, h.destroyed⟩
  exact Bool.or_true s.done

lemma Sound.ended (h : s.Sound p) {q : Promise UploadedFile} (hq : p.Moved q) (hf : q.isFinished = true) :
    (s.ended q).Sound p :=
  ⟨hq, hf, fun _ => rfl, h.puts.append nofun, fun _ => rfl⟩

lemma Sound.finish (h : s.Sound p) (result : UploadedFile) :
    (s.finish result).Sound p ∧ (s.finish result).done = true := by
  cases hd : s.done with
  | true =>
    rw [finish_of_done hd]
    exact ⟨h, hd⟩
  | false =>
    rw [finish_of_not_done hd (h.finished.trans hd)]
    exact ⟨(h.ended (h.moved.move _) (s.promise.isFinished_move_complete result)).deleteLater, rfl⟩

lemma Sound.cancel (h : s.Sound p) (hc : s.promise.canceled = true) : s.cancel.Sound p ∧ s.cancel.done = true := by
  cases hd : s.done with
  | true =>
    rw [FileUploadOperation.cancel, if_pos hd]
    exact ⟨h, hd⟩
  | false =>
    have hmove := Promise.move_complete_of_canceled (h.finished.trans hd) hc ⟨[], []⟩
    rw [cancel_of_not_done hd, ← hmove]
    exact ⟨(h.ended (h.moved.move _) (s.promise.isFinished_move_complete _)).deleteLater, rfl⟩

lemma Sound.destroy (h : s.Sound p) : s.destroy.Sound p ∧ s.destroy.done = true := by
  cases hd : s.done with
  | true =>
    have hdestroy : s.destroy = { s with destroyed := true } := by rw [FileUploadOperation.destroy, if_pos hd]
    rw [hdestroy]
    exact ⟨⟨h.moved, h.finished, h.stopped, h.puts, fun _ => hd⟩, hd⟩
  | false =>
    have hmove := Promise.move_complete_of_canceled (p := s.promise.cancel) (h.finished.trans hd) rfl ⟨[], []⟩
    rw [destroy_of_not_done hd, ← hmove]
    have hended := h.ended ((h.moved.move .cancel).move (.complete ⟨[], []⟩)) (Promise.isFinished_move_complete _ _)
    exact ⟨⟨hended.moved, hended.finished, hended.stopped, hended.puts, fun _ => rfl⟩, rfl⟩

lemma Sound.meanwhile (h : s.Sound p) (during : List Meanwhile) : (during.foldl meanwhile s).Sound p := by
  induction during generalizing s with
  | nil => exact h
  | cons act during ih =>
    apply ih
    cases act with
    | cancelFuture => exact h.cancelFuture
    | finish result => exact (h.finish result).1

lemma Sound.putFile (h : s.Sound p) (request downloadUrl : Text) (during : List Meanwhile) :
    (s.putFile request downloadUrl during).Sound p := by
  rw [FileUploadOperation.putFile]
  by_cases hs : s.isStopped = true
  · rwa [if_pos hs]
  · rw [if_neg hs]
    have hduring := (h.progress 0 s.size).meanwhile during
    dsimp only
    split_ifs with hstopped
    · exact hduring
    · have hnone : .stopped ∉ (during.foldl FileUploadOperation.meanwhile (s.put (.progress 0 s.size))).history :=
        fun hmem => hstopped (hduring.stopped hmem)
      refine ⟨hduring.moved, hduring.finished, fun hmem => ?_, hduring.puts.put hnone request, hduring.destroyed⟩
      obtain hmem | hmem := List.mem_append.mp hmem
      · exact hduring.stopped hmem
      · cases List.mem_singleton.mp hmem

lemma Sound.openFile (h : s.Sound p) (opened : Except Text ℕ) : (s.openFile opened).2.Sound p := by
  unfold FileUploadOperation.openFile
  by_cases hs : s.isStopped = true
  · rwa [if_pos hs]
  · rw [if_neg hs]
    cases opened with
    | error errorString => exact (h.finish _).1
    | ok size => exact ⟨h.moved, h.finished, h.stopped, h.puts, h.destroyed⟩

lemma Sound.openData (h : s.Sound p) (bytes : List UInt8) : (s.openData bytes).2.Sound p := by
  rw [FileUploadOperation.openData]
  by_cases hs : s.isStopped = true
  · rwa [if_pos hs]
  · rw [if_neg hs]
    by_cases hb : bytes.isEmpty = true
    · rw [if_pos hb]
      exact (h.finish _).1
    · rw [if_neg hb]
      exact ⟨h.moved, h.finished, h.stopped, h.puts, h.destroyed⟩

lemma Sound.onFinished (h : s.Sound p) (downloadUrl : Text) (error : Option Text) (status : ℤ) :
    (s.onFinished FileUploadOperation.finish downloadUrl error status).Sound p ∧
      (s.promise.canceled = false →
        (s.onFinished FileUploadOperation.finish downloadUrl error status).done = true) := by
  unfold FileUploadOperation.onFinished
  by_cases hs : s.isStopped = true
  · rw [if_pos hs]
    refine ⟨h, fun hc => ?_⟩
    rwa [isStopped, hc, Bool.or_false] at hs
  · rw [if_neg hs]
    cases error with
    | some errorString => exact ⟨(h.finish _).1, fun _ => (h.finish _).2⟩
    | none =>
      dsimp only
      split_ifs
      · exact ⟨(h.finish _).1, fun _ => (h.finish _).2⟩
      · exact ⟨(h.finish _).1, fun _ => (h.finish _).2⟩

lemma Sound.replyFinished (h : s.Sound p) (i : ℕ) (error : Option Text) (status : ℤ) :
    (s.replyFinished i error status).Sound p := by
  rw [FileUploadOperation.replyFinished]
  cases s.replies[i]? with
  | none => exact h
  | some reply =>
    dsimp only
    split_ifs
    · refine (Sound.onFinished ?_ reply.downloadUrl error status).1
      exact ⟨h.moved, h.finished, h.stopped, h.puts, h.destroyed⟩
    · exact h

lemma Sound.handle (h : s.Sound p) (e : OperationEvent) : (s.handle e).Sound p := by
  cases e with
  | cancelFuture => exact h.cancelFuture
  | canceled =>
    rw [FileUploadOperation.handle]
    split_ifs with hc
    · exact (h.cancel hc).1
    · exact h
  | reachabilityChanged disconnected =>
    rw [FileUploadOperation.handle]
    split_ifs
    · exact (h.finish _).1
    · exact h
  | timeout => exact (h.finish _).1
  | openFile opened => exact h.openFile opened
  | openData bytes => exact h.openData bytes
  | put request downloadUrl during => exact h.putFile request downloadUrl during
  | uploadProgress sent total =>
    rw [FileUploadOperation.handle, uploadProgress]
    split_ifs
    · exact h
    · exact h.progress sent total
  | replyFinished i error status => exact h.replyFinished i error status
  | finish result => exact (h.finish result).1
  | destroyed => exact h.destroy.1

lemma Sound.step (h : s.Sound p) (e : OperationEvent) : (s.step e).Sound p := by
  unfold FileUploadOperation.step
  by_cases hd : s.destroyed = true
  · rw [if_pos hd]
    cases e with
    | cancelFuture => exact h.cancelFuture
    | _ => exact h
  · rw [if_neg hd]
    exact h.handle e

lemma Sound.moved_step (h : s.Sound p) (e : OperationEvent) : s.promise.Moved (s.step e).promise :=
  (h.again.step e).moved

lemma Sound.done_of_ends (h : s.Sound p) {e : OperationEvent} (he : s.ends e = true) : (s.step e).done = true := by
  unfold FileUploadOperation.step
  by_cases hd : s.destroyed = true
  · rw [if_pos hd]
    cases e with
    | cancelFuture => cases he
    | _ => exact h.destroyed hd
  · rw [if_neg hd]
    cases e with
    | cancelFuture => cases he
    | canceled =>
      have hc : s.promise.canceled = true := he
      rw [FileUploadOperation.handle, if_pos hc]
      exact (h.cancel hc).2
    | reachabilityChanged disconnected =>
      have hlost : disconnected = true := he
      rw [FileUploadOperation.handle, if_pos hlost]
      exact (h.finish _).2
    | timeout => exact (h.finish _).2
    | openFile opened =>
      cases opened with
      | error errorString =>
        have hc : s.promise.canceled = false := (Bool.not_eq_true' _).mp he
        rw [FileUploadOperation.handle, FileUploadOperation.openFile, isStopped, hc, Bool.or_false]
        split_ifs with hdone
        · exact hdone
        · exact (h.finish _).2
      | ok size => cases he
    | openData bytes =>
      obtain ⟨hempty, hc⟩ := Bool.and_eq_true_iff.mp he
      rw [FileUploadOperation.handle, FileUploadOperation.openData, isStopped, (Bool.not_eq_true' _).mp hc,
        Bool.or_false, if_pos hempty]
      split_ifs with hdone
      · exact hdone
      · exact (h.finish _).2
    | put request downloadUrl during => cases he
    | uploadProgress sent total => cases he
    | replyFinished i error status =>
      obtain ⟨hrunning, hc⟩ := Bool.and_eq_true_iff.mp he
      cases hr : s.replies[i]? with
      | none =>
        rw [hr] at hrunning
        cases hrunning
      | some reply =>
        rw [hr] at hrunning
        have hrun : reply.running = true := hrunning
        rw [FileUploadOperation.handle, FileUploadOperation.replyFinished, hr]
        dsimp only
        rw [if_pos hrun]
        have hended : Sound p { s with replies := s.replies.set i { reply with running := false } } :=
          ⟨h.moved, h.finished, h.stopped, h.puts, h.destroyed⟩
        exact (hended.onFinished reply.downloadUrl error status).2 ((Bool.not_eq_true' _).mp hc)
    | finish result => exact (h.finish result).2
    | destroyed => exact h.destroy.2

end FileUploadOperation

/-- The promise is settled, once the operation is done it is finished, and no request is made after that. -/
structure OperationSettled (s : FileUploadOperation) : Prop where
  promise : s.promise.Settled
  done : s.done = true → s.promise.finishes.length = 1
  puts : NoLatePut s.history

section

open FileUploadOperation

lemma sound_create (canceled disconnected : Bool) : (create canceled disconnected).Sound { canceled := canceled } := by
  have hnew : FileUploadOperation.Sound { canceled := canceled }
      { promise := { canceled := canceled }, history := if canceled then [.stopped] else [] } := by
    refine ⟨.refl _, rfl, fun hs => ?_, ?_, nofun⟩
    · cases canceled with
      | false => cases hs
      | true => rfl
    · intro before request hp
      cases canceled with
      | false => simp at hp
      | true => simp [List.prefix_cons_iff, List.append_eq_cons_iff] at hp
  rw [create]
  by_cases hd : disconnected = true
  · rw [if_pos hd]
    exact (hnew.finish _).1
  · rw [if_neg hd]
    exact hnew

lemma FileUploadOperation.Sound.operationSettled {s : FileUploadOperation} {p : Promise UploadedFile} (h : s.Sound p)
    (hp : p.Settled) : OperationSettled s := by
  have hsettled := h.moved.settled hp
  refine ⟨hsettled, fun hd => ?_, h.puts⟩
  have hne := Promise.isFinished_iff.mp (h.finished.trans hd)
  exact le_antisymm hsettled.once (List.length_pos_iff.mpr hne)

lemma FileUploadOperation.sound_run (canceled disconnected : Bool) (es : List OperationEvent) :
    (after step (create canceled disconnected) es).Sound { canceled := canceled } :=
  each_true.invariant (P := fun _ _ => True) (sound_create canceled disconnected) fun _ e hs _ => hs.step e

lemma operation_settled (canceled disconnected : Bool) (es : List OperationEvent) :
    OperationSettled (after step (create canceled disconnected) es) ∧
      Each step (fun s e => s.ends e = true → (s.step e).promise.finishes.length = 1)
        (create canceled disconnected) es := by
  have hcreate := sound_create canceled disconnected
  have hp := Promise.settled_new (α := UploadedFile) canceled
  have hrun : Each step (fun _ _ => True) (create canceled disconnected) es := each_true
  constructor
  · exact (FileUploadOperation.sound_run canceled disconnected es).operationSettled hp
  · refine hrun.imp hcreate (fun s e hs _ => hs.step e) (fun s e hs _ he => ?_)
    exact ((hs.step e).operationSettled hp).done (hs.done_of_ends he)

end

end ChatDesktop.Xmpp.Uploads
