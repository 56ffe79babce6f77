import ChatDesktop.Library.TextFields
import ChatDesktop.Media.MediaRepository

/-! The media downloads with the two that use them: the voice controller, which plays a voice message when it is
there, and the view model, which shows the downloads of the files in its rows. -/

namespace ChatDesktop.Media

open Library Network Chat

inductive AudioUrl
  | empty
  | localFile (path : QString)
  | remote (url : QUrl)
  deriving DecidableEq

def AudioUrl.isEmpty : AudioUrl → Bool
  | .empty => true
  | _ => false

def AudioUrl.toUrl : AudioUrl → QUrl
  | .empty => { isValid := false }
  | .localFile path => { scheme := key "file", path := path }
  | .remote url => url

/-- What a call finds outside, with what the player that is asked tells of itself. -/
structure Outside extends Surroundings where
  messageIdForSource : QUrl → QString := fun _ => []
  hash : QString → QString := id
  isFile : QString → Bool := fun _ => true
  size : QString → ℤ := fun _ => 0
  isCachePath : QString → Bool := fun _ => false
  read : QString → List UInt8 := fun _ => []
  isPlaying : Bool := false
  noError : Bool := true
  invalidMedia : Bool := false
  isSeekable : Bool := false
  duration : ℤ := 0
  previewPlaying : Bool := false

def AudioUrl.fileThere (now : Outside) : AudioUrl → Option QString
  | .localFile path => if now.isFile path then some path else none
  | _ => none

/-! ### The audio player -/

inductive PlayerCall
  | setSource (source : AudioUrl)
  | setSourceDevice (data : List UInt8) (source : AudioUrl)
  | setPosition (position : ℤ)
  | play
  | pause
  | stop
  deriving DecidableEq

structure AudioPlayer where
  source : AudioUrl := .empty
  cachedAudio : List UInt8 := []
  calls : List PlayerCall := []

namespace AudioPlayer

def tell (call : PlayerCall) (p : AudioPlayer) : AudioPlayer := { p with calls := p.calls ++ [call] }

def stop (p : AudioPlayer) : AudioPlayer := (p.tell .stop).tell (.setPosition 0)

def load (source : AudioUrl) (p : AudioPlayer) : AudioPlayer := { p with source := source }.tell (.setSource source)

def loadCached (now : Outside) (path : QString) (p : AudioPlayer) : AudioPlayer :=
  let data := now.read path
  let p := { p with cachedAudio := data }
  if data.isEmpty then p
  else { p with source := .localFile path }.tell (.setSourceDevice data (.localFile path))

def setSource (now : Outside) (source : AudioUrl) (p : AudioPlayer) : AudioPlayer :=
  if source = p.source then p
  else
    let p := { p.stop.load .empty with cachedAudio := [] }
    match source with
    | .localFile path => if now.isCachePath path then p.loadCached now path else p.load (.localFile path)
    | source => p.load source

def setPosition (now : Outside) (position : ℤ) (p : AudioPlayer) : AudioPlayer :=
  if now.isSeekable then p.tell (.setPosition (max 0 (min position now.duration))) else p

def play (p : AudioPlayer) : AudioPlayer := if p.source.isEmpty then p else p.tell .play

def pause (p : AudioPlayer) : AudioPlayer := p.tell .pause

def togglePlayback (playing : Bool) (p : AudioPlayer) : AudioPlayer := if playing then p.pause else p.play

end AudioPlayer

/-! ### The voice controller -/

/-- The part of the controller that plays; `asked` is what playback turned to last, with what was found outside. -/
structure VoiceMessageController where
  pendingVoiceMessage : QString := []
  voicePlaybackSource : AudioUrl := .empty
  voicePlaybackMessageId : QString := []
  voiceDownloadError : QString := []
  currentPlay : Bool := false
  messagePlayback : AudioPlayer := {}
  previewPlayback : AudioPlayer := {}
  asked : Option (Outside × AudioUrl) := none

def voiceKey (now : Outside) (url : QUrl) : QString :=
  let messageId := now.messageIdForSource url
  if messageId.isEmpty then now.hash url.encoded else messageId

namespace VoiceMessageController

def voiceDownloading (c : VoiceMessageController) : Bool := !c.pendingVoiceMessage.isEmpty

def setIsInPlay (value : Bool) (c : VoiceMessageController) : VoiceMessageController := { c with currentPlay := value }

def start (now : Outside) (source : AudioUrl) (c : VoiceMessageController) : VoiceMessageController :=
  { c with messagePlayback := (c.messagePlayback.setSource now source).play }

/-- `absoluteFilePath` is that of the system the program runs on. -/
def downloadCompleted (absoluteFilePath : QString → QString) (now : Outside) (message path : QString)
    (c : VoiceMessageController) : VoiceMessageController :=
  if message ≠ c.pendingVoiceMessage then c
  else
    let c := { c with pendingVoiceMessage := [] }
    if !now.isFile path || decide (now.size path ≤ 0) then
      { c with voiceDownloadError := key "Downloaded audio is missing or empty." }
    else c.start now (.localFile (absoluteFilePath path))

def downloadFailed (message error : QString) (c : VoiceMessageController) : VoiceMessageController :=
  if message = c.pendingVoiceMessage then { c with pendingVoiceMessage := [], voiceDownloadError := error } else c

def heard (absoluteFilePath : QString → QString) (now : Outside) (c : VoiceMessageController) :
    Signal → VoiceMessageController
  | .downloadCompleted message path => c.downloadCompleted absoluteFilePath now message path
  | .downloadFailed message error => c.downloadFailed message error
  | _ => c

def mediaStatusChanged (now : Outside) (endOfMedia : Bool) (c : VoiceMessageController) : VoiceMessageController :=
  let c := if endOfMedia then { c with messagePlayback := c.messagePlayback.tell (.setPosition 0) } else c
  c.setIsInPlay now.isPlaying

end VoiceMessageController

/-! ### The rows of the view model -/

structure FileDownloadState where
  messageId : QString := []
  downloading : Bool := false
  localFile : Option QString := none
  error : QString := []
  deriving DecidableEq

def filePrefix : QString := key "file:"

def FileDownloadState.heard (now : Outside) (row : FileDownloadState) : Signal → FileDownloadState
  | .downloadStarted _ => { row with downloading := true }
  | .downloadCompleted _ path =>
    if !row.downloading then row
    else if now.isFile path then { row with downloading := false, localFile := some path }
    else { row with downloading := false, error := key "Downloaded file is missing." }
  | .downloadFailed _ error => { row with downloading := false, error := error }
  | _ => row

def Signal.request : Signal → QString
  | .downloadStarted message => message
  | .downloadProgress message _ _ => message
  | .downloadCompleted message _ => message
  | .downloadFailed message _ => message
  | .asked _ => []

def heardByRows (now : Outside) (rows : Hash QString FileDownloadState) (signal : Signal) :
    Hash QString FileDownloadState :=
  if !genericFile signal.request then rows
  else
    match rows.find? (signal.request.drop filePrefix.length) with
    | none => rows
    | some row => rows.insert (signal.request.drop filePrefix.length) (row.heard now signal)

def transferId (messageId : QString) (contentIndex : ℤ) : QString :=
  if contentIndex = 0 then messageId else messageId ++ key ":content:" ++ Text.number contentIndex

/-! ### All together -/

structure MessagingViewModel where
  mediaRepository : Option MediaRepository := none
  voiceController : VoiceMessageController := {}
  fileDownloads : Hash QString FileDownloadState := .empty

namespace MessagingViewModel

variable (absoluteFilePath : QString → QString)

def heard (now : Outside) (s : MessagingViewModel) (signal : Signal) : MessagingViewModel :=
  { s with
    voiceController := s.voiceController.heard absoluteFilePath now signal
    fileDownloads := heardByRows now s.fileDownloads signal }

def withRepository (now : Outside) (act : MediaRepository → MediaRepository) (s : MessagingViewModel) :
    MessagingViewModel :=
  match s.mediaRepository with
  | none => s
  | some repository =>
    let repository := act { repository with log := [] }
    repository.log.foldl (heard absoluteFilePath now) { s with mediaRepository := some repository }

def control (f : VoiceMessageController → VoiceMessageController) (s : MessagingViewModel) : MessagingViewModel :=
  { s with voiceController := f s.voiceController }

def withPlayer (f : AudioPlayer → AudioPlayer) (s : MessagingViewModel) : MessagingViewModel :=
  s.control (fun c => { c with messagePlayback := f c.messagePlayback })

def withPreview (f : AudioPlayer → AudioPlayer) (s : MessagingViewModel) : MessagingViewModel :=
  s.control (fun c => { c with previewPlayback := f c.previewPlayback })

def stopCurrentAudio (now : Outside) (s : MessagingViewModel) : MessagingViewModel :=
  let pending := s.voiceController.pendingVoiceMessage
  let s := s.control (fun c => { c with pendingVoiceMessage := [] })
  let s := if pending.isEmpty then s else s.withRepository absoluteFilePath now (·.cancelDownload pending)
  s.withPlayer AudioPlayer.stop

def stopVoicePlayback (now : Outside) (s : MessagingViewModel) : MessagingViewModel :=
  (s.stopCurrentAudio absoluteFilePath now).control (·.setIsInPlay false)

def askFor (now : Outside) (source : AudioUrl) (messageId : QString) (s : MessagingViewModel) : MessagingViewModel :=
  let s := (s.stopCurrentAudio absoluteFilePath now).withPlayer (·.setSource now .empty)
  let s := s.control (fun c => { c with
    voicePlaybackSource := source
    voicePlaybackMessageId := messageId
    voiceDownloadError := []
    asked := some (now, source) })
  let s := match source with
    | .localFile path => s.control (·.start now (.localFile path))
    | source =>
      let message := voiceKey now source.toUrl
      match s.mediaRepository with
      | none => s.control (fun c => { c with voiceDownloadError := key "Audio download service is unavailable." })
      | some _ =>
        (s.control (fun c => { c with pendingVoiceMessage := message })).withRepository absoluteFilePath now
          (·.downloadFile now.toSurroundings message source.toUrl)
  s.control (·.setIsInPlay true)

def playVoice (now : Outside) (source : AudioUrl) (messageId : QString) (s : MessagingViewModel) :
    MessagingViewModel :=
  if source.isEmpty then s
  else
    let s := s.withPreview AudioPlayer.stop
    let c := s.voiceController
    let sameMessage := if messageId ≠ [] then decide (messageId = c.voicePlaybackMessageId)
      else decide (source = c.voicePlaybackSource)
    if sameMessage && c.voiceDownloading then s
    else if sameMessage && !c.messagePlayback.source.isEmpty && now.noError && !now.invalidMedia then
      (s.control (·.setIsInPlay true)).withPlayer (·.togglePlayback now.isPlaying)
    else s.askFor absoluteFilePath now source messageId

def reset (now : Outside) (s : MessagingViewModel) : MessagingViewModel :=
  let s := s.stopVoicePlayback absoluteFilePath now
  (s.control (fun c => { c with voicePlaybackSource := .empty, voicePlaybackMessageId := [] })).withPlayer
    (·.setSource now .empty)

/-- `found` is the address of the first message of the id that is a file. -/
def downloadFile (now : Outside) (messageId : QString) (contentIndex : ℤ) (found : Option AudioUrl)
    (s : MessagingViewModel) : MessagingViewModel :=
  let id := transferId messageId contentIndex
  if (s.fileDownloads.find? id).any FileDownloadState.downloading then s
  else
    match found with
    | none => s
    | some source =>
      if contentIndex ≠ 0 then s
      else
        let put (row : FileDownloadState) := { s with fileDownloads := s.fileDownloads.insert id row }
        match source.fileThere now, s.mediaRepository with
        | some path, _ => put { messageId := messageId, localFile := some path }
        | none, none => put { messageId := messageId, error := key "File download service is unavailable." }
        | none, some _ =>
          (put { messageId := messageId }).withRepository absoluteFilePath now
            (·.downloadFile now.toSurroundings (filePrefix ++ id) source.toUrl)

def cancelFileDownload (now : Outside) (messageId : QString) (contentIndex : ℤ) (s : MessagingViewModel) :
    MessagingViewModel :=
  let id := transferId messageId contentIndex
  match s.fileDownloads.find? id with
  | none => s
  | some row =>
    if !row.downloading then s
    else
      { s with fileDownloads := s.fileDownloads.insert id { row with downloading := false } }.withRepository
        absoluteFilePath now (·.cancelDownload (filePrefix ++ id))

end MessagingViewModel

/-- The first group are calls of the view, the second the player's, the third the answers of the user and of the
download service. -/
inductive MediaEvent
  | playVoice (source : AudioUrl) (messageId : QString)
  | pauseVoice
  | resumeVoice
  | seekVoice (position : ℤ)
  | stopVoicePlayback
  | cancelVoicePlayback
  | playVoicePreview
  | seekVoicePreview (position : ℤ)
  | stopVoicePreview
  | startVoiceRecording
  | reset
  | downloadFile (messageId : QString) (contentIndex : ℤ) (found : Option AudioUrl)
  | cancelFileDownload (messageId : QString) (contentIndex : ℤ)
  | voiceRecordingFileChanged (file : AudioUrl)
  | mediaStatusChanged (endOfMedia : Bool)
  | answered (chosen : QString)
  | progress (request : ℕ) (received total : Int64)
  | completed (request : ℕ) (path : QString)
  | failed (request : ℕ) (error : QString)

section

variable (absoluteFilePath : QString → QString)

def mediaStep (s : MessagingViewModel) : Outside × MediaEvent → MessagingViewModel
  | (now, .playVoice source messageId) => s.playVoice absoluteFilePath now source messageId
  | (_, .pauseVoice) =>
    if s.voiceController.messagePlayback.source.isEmpty then s else s.withPlayer AudioPlayer.pause
  | (now, .resumeVoice) =>
    if s.voiceController.messagePlayback.source.isEmpty then s else s.withPlayer (·.togglePlayback now.isPlaying)
  | (now, .seekVoice position) => s.withPlayer (·.setPosition now position)
  | (now, .stopVoicePlayback) => s.stopVoicePlayback absoluteFilePath now
  | (_, .cancelVoicePlayback) => (s.withPlayer AudioPlayer.stop).control (·.setIsInPlay false)
  | (now, .playVoicePreview) =>
    (s.stopVoicePlayback absoluteFilePath now).withPreview (·.togglePlayback now.previewPlaying)
  | (now, .seekVoicePreview position) => s.withPreview (·.setPosition now position)
  | (_, .stopVoicePreview) => s.withPreview AudioPlayer.stop
  | (now, .startVoiceRecording) => s.stopVoicePlayback absoluteFilePath now
  | (now, .reset) => s.reset absoluteFilePath now
  | (now, .downloadFile messageId contentIndex found) => s.downloadFile absoluteFilePath now messageId contentIndex found
  | (now, .cancelFileDownload messageId contentIndex) =>
    s.cancelFileDownload absoluteFilePath now messageId contentIndex
  | (now, .voiceRecordingFileChanged file) => s.withPreview (·.setSource now file)
  | (now, .mediaStatusChanged endOfMedia) => s.control (·.mediaStatusChanged now endOfMedia)
  | (now, .answered chosen) => s.withRepository absoluteFilePath now (·.answered now.toSurroundings chosen)
  | (now, .progress request received total) =>
    s.withRepository absoluteFilePath now (·.progressChanged request received total)
  | (now, .completed request path) =>
    s.withRepository absoluteFilePath now (·.completedChanged now.toSurroundings request path)
  | (now, .failed request error) => s.withRepository absoluteFilePath now (·.failedChanged request error)

end

end ChatDesktop.Media
