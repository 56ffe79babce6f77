import ChatDesktop.Chat.Entity
import ChatDesktop.Network.HttpDownloadService

/-! The downloads of media files: which message waits for which request. A save dialog is answered while other
calls and events go on. -/

namespace ChatDesktop.Media

open Library Network Chat

structure PendingDownload where
  messageId : QString
  url : QUrl
  path : QString
  accountId : QString
  cachePath : QString
  temporary : Bool
  deriving DecidableEq

/-- What a call finds outside: the user, the media cache and the file system. -/
structure Surroundings where
  currentUser : Option QString := none
  sha256 : QString → QString → QString := fun _ encoded => encoded
  downloadLocation : QString := []
  absoluteFilePath : QString → QString := id
  mkpath : QString → Bool := fun _ => true
  filePath : QString → QString → QString → QString := fun key _ _ => key
  voicePath : QString → QString → QString → QString := fun key _ _ => key
  localFilePath : QUrl → QString → QString := fun _ _ => []
  exists? : QString → Bool := fun _ => false
  saveFile : QString → QString → Bool := fun _ _ => true
  temporary : Option QString := none

inductive Signal
  | downloadStarted (messageId : QString)
  | downloadProgress (messageId : QString) (received total : Int64)
  | downloadCompleted (messageId path : QString)
  | downloadFailed (messageId error : QString)
  | asked (suggestion : QString)
  deriving DecidableEq

structure Asking where
  messageId : QString
  url : QUrl
  accountId : QString
  cachePath : QString
  deriving DecidableEq

structure MediaRepository where
  requests : Hash ℕ PendingDownload := .empty
  messages : Hash QString ℕ := .empty
  dialogs : List Asking := []
  made : ℕ := 0
  log : List Signal := []

/-! ### File names -/

def fileName (path : QString) : QString := (path.reverse.takeWhile (fun u => u ≠ 0x2F)).reverse

def directoryName (path : QString) : QString := ((path.reverse.dropWhile (fun u => u ≠ 0x2F)).drop 1).reverse

def suffix (path : QString) : QString :=
  if 0x2E ∈ fileName path then ((fileName path).reverse.takeWhile (fun u => u ≠ 0x2E)).reverse else []

def suggestedName (url : QUrl) : QString :=
  let name := (fileName url.path).map (fun u => if u = 0x5C ∨ u < 32 then 0x5F else u)
  if name = [] ∨ name = key "." ∨ name = key ".." then key "download" else name

def audioExtensions : List QString := ["m4a", "mp3", "aac", "wav", "ogg", "opus", "flac", "mp4", "webm"].map key

def audioExtension (url : QUrl) : QString :=
  if (suffix url.path).toLower ∈ audioExtensions then (suffix url.path).toLower else key "bin"

def genericFile (messageId : QString) : Bool := key "file:" <+: messageId

namespace MediaRepository

def emit (s : MediaRepository) (signal : Signal) : MediaRepository := { s with log := s.log ++ [signal] }

def takeMessage (requestId : ℕ) (s : MediaRepository) : QString × MediaRepository :=
  match s.requests.find? requestId with
  | none => ([], s)
  | some request =>
    (request.messageId, { s with
      requests := s.requests.erase requestId
      messages := if request.messageId.isEmpty then s.messages else s.messages.erase request.messageId })

def cancelDownload (messageId : QString) (s : MediaRepository) : MediaRepository :=
  match s.messages.find? messageId with
  | none => s
  | some request =>
    (takeMessage request
      { s with messages := s.messages.erase messageId, requests := s.requests.erase request }).2

/-- `HttpDownloadService::download` has a request for every address and path it takes. -/
def start (pending : PendingDownload) (s : MediaRepository) : MediaRepository :=
  if !pending.url.downloadable || pending.path.isEmpty then
    s.emit (.downloadFailed pending.messageId (key "Unable to start file download."))
  else { s with
    requests := s.requests.insert s.made pending
    messages := s.messages.insert pending.messageId s.made
    made := s.made + 1 }.emit (.downloadStarted pending.messageId)

def underway (messageId : QString) (url : QUrl) (s : MediaRepository) : Bool :=
  match s.messages.find? messageId with
  | none => false
  | some existing => (s.requests.find? existing).any (fun pending => pending.url = url)

def voicePath (now : Surroundings) (messageId : QString) (url : QUrl) : QString :=
  now.voicePath (now.sha256 messageId url.encoded) (audioExtension url) ((now.currentUser.map normalizedId).getD [])

def downloadFile (now : Surroundings) (messageId : QString) (url : QUrl) (s : MediaRepository) : MediaRepository :=
  if messageId.isEmpty || !url.downloadable then
    s.emit (.downloadFailed messageId (key "Invalid file download URL."))
  else if s.underway messageId url then s
  else
    let s := s.cancelDownload messageId
    let accountId := (now.currentUser.map normalizedId).getD []
    if genericFile messageId then
      let savedPath := now.localFilePath url accountId
      if !savedPath.isEmpty then (s.emit (.downloadStarted messageId)).emit (.downloadCompleted messageId savedPath)
      else
        let cachePath := now.filePath (now.sha256 messageId url.encoded) (suffix url.path) accountId
        { s with dialogs := ⟨messageId, url, accountId, cachePath⟩ :: s.dialogs }.emit
          (.asked (now.downloadLocation ++ 0x2F :: suggestedName url))
    else
      let cachePath := voicePath now messageId url
      if now.exists? cachePath then s.emit (.downloadCompleted messageId cachePath)
      else match now.temporary with
        | none => s.emit (.downloadFailed messageId (key "Unable to prepare media download."))
        | some path => s.start ⟨messageId, url, path, accountId, cachePath, true⟩

def inUse (path : QString) (s : MediaRepository) : Bool :=
  s.requests.entries.any (fun entry => entry.2.path = path)

def answered (now : Surroundings) (chosen : QString) (s : MediaRepository) : MediaRepository :=
  match s.dialogs with
  | [] => s
  | asking :: dialogs =>
    let s := { s with dialogs := dialogs }
    if chosen.isEmpty then s
    else
      let path := now.absoluteFilePath chosen
      if !now.mkpath (directoryName path) then
        s.emit (.downloadFailed asking.messageId (key "Unable to access the folder: " ++ directoryName path))
      else if s.inUse path then
        s.emit (.downloadFailed asking.messageId (key "A download to this file is already in progress."))
      else s.start ⟨asking.messageId, asking.url, path, asking.accountId, asking.cachePath, false⟩

def progressChanged (request : ℕ) (received total : Int64) (s : MediaRepository) : MediaRepository :=
  match s.requests.find? request with
  | none => s
  | some pending => s.emit (.downloadProgress pending.messageId received total)

def completedChanged (now : Surroundings) (request : ℕ) (path : QString) (s : MediaRepository) : MediaRepository :=
  let pending := s.requests.find? request
  let (message, s) := s.takeMessage request
  match pending with
  | none => s
  | some pending =>
    if message.isEmpty then s
    else if pending.temporary then
      if !now.saveFile pending.cachePath path then
        s.emit (.downloadFailed message (key "Unable to save encrypted media cache."))
      else s.emit (.downloadCompleted message pending.cachePath)
    else s.emit (.downloadCompleted message path)

def failedChanged (request : ℕ) (error : QString) (s : MediaRepository) : MediaRepository :=
  let (message, s) := s.takeMessage request
  if message.isEmpty then s else s.emit (.downloadFailed message error)

end MediaRepository

inductive Event
  | downloadFile (messageId : QString) (url : QUrl)
  | cancelDownload (messageId : QString)
  | answered (chosen : QString)
  | progress (request : ℕ) (received total : Int64)
  | completed (request : ℕ) (path : QString)
  | failed (request : ℕ) (error : QString)
  | cancelled (request : ℕ)

namespace MediaRepository

def step (s : MediaRepository) : Surroundings × Event → MediaRepository
  | (now, .downloadFile messageId url) => s.downloadFile now messageId url
  | (_, .cancelDownload messageId) => s.cancelDownload messageId
  | (now, .answered chosen) => s.answered now chosen
  | (_, .progress request received total) => s.progressChanged request received total
  | (now, .completed request path) => s.completedChanged now request path
  | (_, .failed request error) => s.failedChanged request error
  | (_, .cancelled request) => (s.takeMessage request).2

def run (events : List (Surroundings × Event)) : MediaRepository := events.foldl step {}

end MediaRepository

end ChatDesktop.Media
