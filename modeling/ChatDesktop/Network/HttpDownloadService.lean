import ChatDesktop.Library.Hash
import ChatDesktop.Library.Text
import Mathlib.Data.Int.Notation
import Mathlib.Logic.Function.Basic

/-! Downloads to files. What arrives is written to a partial file, which takes the place of the destination at
the end. -/

namespace ChatDesktop.Network

open Library Library.Text

structure QUrl where
  isValid : Bool := true
  scheme : Text := []
  host : Text := []
  path : Text := []
  encoded : Text := []
  deriving DecidableEq

def QUrl.downloadable (url : QUrl) : Bool :=
  url.isValid && !url.host.isEmpty && (url.scheme = ofAscii "http" || url.scheme = ofAscii "https")

inductive FilePath
  | file (path : Text)
  | part (path : Text) (request : ℕ)
  deriving DecidableEq

abbrev Files := FilePath → Option (List UInt8)

/-- `received` is what the reply had to give, chunk by chunk. -/
structure DownloadTask where
  requestId : ℕ
  destinationPath : Text
  overwrite : Bool
  cancelled : Bool := false
  writeFailed : Bool := false
  writeError : Text := []
  received : List (List UInt8) := []

namespace DownloadTask

def destination (task : DownloadTask) : FilePath := .file task.destinationPath

def temporary (task : DownloadTask) : FilePath := .part task.destinationPath task.requestId

end DownloadTask

structure Reading where
  data : List UInt8 := []
  written : ℤ := 0
  errorString : Text := []

structure Finish where
  reading : Reading := {}
  flushed : Bool := true
  fileError : Text := []
  error : Option Text := none
  statusCode : Option ℤ := none
  removesPart : Bool := true
  removesDestination : Bool := true
  renames : Bool := true

inductive Ending
  | completed (path : Text)
  | failed (error : Text)
  | cancelled
  deriving DecidableEq

/-- `timers` are the failures that are announced from the event loop. -/
structure HttpDownloadService where
  files : Files
  tasks : Hash ℕ DownloadTask := .empty
  timers : List (ℕ × Text) := []
  made : ℕ := 0
  announced : List (ℕ × Ending) := []

/-! ### One reply -/

def DownloadTask.read (reading : Reading) (task : DownloadTask) (files : Files) : DownloadTask × Files :=
  let task := { task with received := task.received ++ [reading.data] }
  if task.cancelled || task.writeFailed || reading.data.isEmpty then (task, files)
  else
    let content := (files task.temporary).getD [] ++ reading.data.take reading.written.toNat
    (if reading.written ≠ reading.data.length then
      { task with writeFailed := true, writeError := reading.errorString } else task,
    Function.update files task.temporary (some content))

def DownloadTask.closeFile (finish : Finish) (files : Files) (task : DownloadTask) : DownloadTask :=
  let task := if finish.flushed then task else { task with writeFailed := true, writeError := finish.fileError }
  if (files task.temporary).getD [] = [] ∧ task.writeFailed = false then
    { task with writeFailed := true, writeError := ofAscii "Downloaded file is empty." }
  else task

def discard (finish : Finish) (task : DownloadTask) (files : Files) : Files :=
  if finish.removesPart then Function.update files task.temporary none else files

def moveFile (finish : Finish) (task : DownloadTask) (files : Files) : Ending × Files :=
  if finish.renames && (files task.destination).isNone then
    (.completed task.destinationPath,
      Function.update (Function.update files task.destination (files task.temporary)) task.temporary none)
  else (.failed (ofAscii "Unable to finalize downloaded file"), discard finish task files)

def conclude (finish : Finish) (task : DownloadTask) (files : Files) : Ending × Files :=
  if task.cancelled then (.cancelled, discard finish task files)
  else if task.writeFailed then
    (.failed (if task.writeError.isEmpty then ofAscii "Unable to write downloaded file" else task.writeError),
      discard finish task files)
  else match finish.error with
    | some error => (.failed error, discard finish task files)
    | none =>
      if finish.statusCode.any (fun status => decide (status < 200 ∨ 300 ≤ status)) then
        (.failed (ofAscii "HTTP error: " ++ ofAscii (toString (finish.statusCode.getD 0))), discard finish task files)
      else if task.overwrite && (files task.destination).isSome then
        if !finish.removesDestination then
          (.failed (ofAscii "Unable to replace existing file"), discard finish task files)
        else moveFile finish task (Function.update files task.destination none)
      else moveFile finish task files

/-! ### The service -/

namespace HttpDownloadService

structure Opening where
  mkpath : Bool := true
  openError : Option Text := none

def download (opening : Opening) (url : QUrl) (destinationPath : Text) (overwrite : Bool) (s : HttpDownloadService) :
    Option ℕ × HttpDownloadService :=
  if !url.downloadable || destinationPath.isEmpty then (none, s)
  else if !opening.mkpath then
    (some s.made, { s with
      made := s.made + 1
      timers := s.timers ++ [(s.made, ofAscii "Unable to create destination directory")] })
  else match opening.openError with
    | some error => (some s.made, { s with made := s.made + 1, timers := s.timers ++ [(s.made, error)] })
    | none => (some s.made, { s with
        made := s.made + 1
        files := Function.update s.files (.part destinationPath s.made) (some [])
        tasks := s.tasks.insert s.made
          { requestId := s.made, destinationPath := destinationPath, overwrite := overwrite } })

def handleFinished (finish : Finish) (task : DownloadTask) (s : HttpDownloadService) : HttpDownloadService :=
  let (task, files) := task.read finish.reading s.files
  let task := task.closeFile finish files
  let (ending, files) := conclude finish task files
  { s with
    files := files
    tasks := s.tasks.erase task.requestId
    announced := s.announced ++ [(task.requestId, ending)] }

def readyRead (request : ℕ) (reading : Reading) (s : HttpDownloadService) : HttpDownloadService :=
  match s.tasks.find? request with
  | none => s
  | some task =>
    let (task, files) := task.read reading s.files
    { s with files := files, tasks := s.tasks.insert request task }

def replyFinished (request : ℕ) (finish : Finish) (s : HttpDownloadService) : HttpDownloadService :=
  match s.tasks.find? request with
  | none => s
  | some task => s.handleFinished finish task

def cancel (request : ℕ) (finish : Finish) (s : HttpDownloadService) : HttpDownloadService :=
  match s.tasks.find? request with
  | none => s
  | some task =>
    if task.cancelled then s else s.handleFinished finish { task with cancelled := true }

def timeout (s : HttpDownloadService) : HttpDownloadService :=
  match s.timers with
  | [] => s
  | (request, error) :: timers => { s with timers := timers, announced := s.announced ++ [(request, .failed error)] }

end HttpDownloadService

inductive DownloadEvent
  | download (opening : HttpDownloadService.Opening) (url : QUrl) (destinationPath : Text) (overwrite : Bool)
  | readyRead (request : ℕ) (reading : Reading)
  | finished (request : ℕ) (finish : Finish)
  | cancel (request : ℕ) (finish : Finish)
  | timeout

namespace HttpDownloadService

def step (s : HttpDownloadService) : DownloadEvent → HttpDownloadService
  | .download opening url destinationPath overwrite => (s.download opening url destinationPath overwrite).2
  | .readyRead request reading => s.readyRead request reading
  | .finished request finish => s.replyFinished request finish
  | .cancel request finish => s.cancel request finish
  | .timeout => s.timeout

def run (files : Files) (events : List DownloadEvent) : HttpDownloadService := events.foldl step { files := files }

end HttpDownloadService

end ChatDesktop.Network
