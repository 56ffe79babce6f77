import ChatDesktop.Chat.Entity
import ChatDesktop.Voice.VoiceRecorder

/-! The voice messages of the view model: its controller's recording, and the request to send that waits
for the recording to be ready. Playback, the error texts on screen and the end of an upload do not touch
them. -/

namespace ChatDesktop.Voice

open Library

inductive Moment
  | started (directory : ℕ)
  | asked
  | handed (receiver : QString) (file : VoiceFile) (duration : ℤ)
  deriving DecidableEq, Repr

structure VoiceMessageController where
  voiceRecorder : VoiceRecorder := {}
  activeConversationId : QString := []
  recordingConversationId : QString := []
  voiceRecordingFile : Option VoiceFile := none
  finalVoiceDuration : ℕ := 0
  deriving DecidableEq, Repr

/-- `moments` is the last moment first. -/
structure MessagingViewModel where
  voiceController : VoiceMessageController := {}
  activeConversationId : QString := []
  sendVoiceWhenReady : Bool := false
  isSendingVoice : Bool := false
  moments : List Moment := []
  deriving DecidableEq, Repr

namespace MessagingViewModel

def note (moment : Moment) (s : MessagingViewModel) : MessagingViewModel :=
  { s with moments := moment :: s.moments }

def withRecorder (voiceRecorder : VoiceRecorder) (s : MessagingViewModel) : MessagingViewModel :=
  { s with voiceController.voiceRecorder := voiceRecorder }

def isVoiceRecordingBusy (s : MessagingViewModel) : Bool :=
  s.voiceController.voiceRecorder.state != .idle

/-- The handler of `voiceRecordingCanceled` and of `voiceRecordingFailed`. -/
def onVoiceRecordingEnded (s : MessagingViewModel) : MessagingViewModel :=
  { s with sendVoiceWhenReady := false }

/-- `stop` and `cancel` of the recorder emit no other signal. -/
def onCanceled (out : VoiceRecorder × Option Signal) (s : MessagingViewModel) : MessagingViewModel :=
  let s₁ := s.withRecorder out.1
  if out.2 = some .canceled then s₁.onVoiceRecordingEnded else s₁

def stopVoiceRecording (s : MessagingViewModel) : MessagingViewModel :=
  s.onCanceled s.voiceController.voiceRecorder.stop

def cancelVoiceRecording (s : MessagingViewModel) : MessagingViewModel :=
  let s₁ := { s with
    voiceController.recordingConversationId := [], voiceController.finalVoiceDuration := 0 }
  let s₂ := s₁.onCanceled s₁.voiceController.voiceRecorder.cancel
  { s₂ with voiceController.voiceRecordingFile := none }

def sendVoice (duration : ℤ) (s : MessagingViewModel) : MessagingViewModel :=
  if s.isSendingVoice then s
  else if s.isVoiceRecordingBusy then { s with sendVoiceWhenReady := true }.stopVoiceRecording
  else
    let finalizedDuration := s.voiceController.finalVoiceDuration
    let recorded := s.voiceController.voiceRecorder.duration
    let duration : ℤ :=
      if 0 < finalizedDuration then finalizedDuration else if 0 < recorded then recorded else duration
    let receiver := s.voiceController.recordingConversationId
    match s.voiceController.voiceRecordingFile with
    | none => s
    | some file =>
      if duration ≤ 0 ∨ receiver = [] ∨ receiver ≠ s.activeConversationId then s
      else
        let s₁ := { s with isSendingVoice := true }.note (.handed receiver file duration)
        { s₁.cancelVoiceRecording with isSendingVoice := false }

def onVoiceRecordingReady (duration : ℤ) (s : MessagingViewModel) : MessagingViewModel :=
  if s.sendVoiceWhenReady then { s with sendVoiceWhenReady := false }.sendVoice duration else s

def recordsActive (s : MessagingViewModel) : Bool :=
  s.voiceController.recordingConversationId != [] &&
    s.voiceController.recordingConversationId == s.voiceController.activeConversationId

def onSignal (s : MessagingViewModel) : Signal → MessagingViewModel
  | .recordingReady file duration =>
    if s.recordsActive then
      { s with
        voiceController.voiceRecordingFile := some file
        voiceController.finalVoiceDuration := duration }.onVoiceRecordingReady duration
    else s
  | .previewReady file _ =>
    if s.recordsActive then { s with voiceController.voiceRecordingFile := some file } else s
  | .recordingFileLocaltionChanged location =>
    { s with voiceController.voiceRecordingFile := some location }
  | .canceled => s.onVoiceRecordingEnded
  | .errorOccurred _ => s.onVoiceRecordingEnded

def emitting (out : VoiceRecorder × Option Signal) (s : MessagingViewModel) : MessagingViewModel :=
  out.2.elim (s.withRecorder out.1) (s.withRecorder out.1).onSignal

def setConversation (conversationId : QString) (s : MessagingViewModel) : MessagingViewModel :=
  if conversationId ≠ s.voiceController.activeConversationId then
    { s.cancelVoiceRecording with voiceController.activeConversationId := conversationId }
  else s

def fetchMessage (user_id : QString) (s : MessagingViewModel) : MessagingViewModel :=
  let conversation_id := Chat.normalizedId user_id
  let s₁ := if conversation_id ≠ s.activeConversationId then { s with sendVoiceWhenReady := false } else s
  { s₁.setConversation conversation_id with activeConversationId := conversation_id }

def resetModel (s : MessagingViewModel) : MessagingViewModel :=
  let s₁ := { s with sendVoiceWhenReady := false }.cancelVoiceRecording
  { s₁ with voiceController.activeConversationId := [], activeConversationId := [] }

end MessagingViewModel

inductive Call
  | pauseVoiceRecording (stops : Bool) (preview : Encode)
  | resumeVoiceRecording (stops : Bool)
  | stopVoiceRecording
  | cancelVoiceRecording
  | sendVoice (duration : ℤ)
  | fetchMessage (user_id : QString)
  | resetModel
  deriving DecidableEq, Repr

/-- While a recording starts, the signal of its new state may be answered by calls. -/
inductive Event
  | startVoiceRecording (outputDirectory : OutputDirectory) (answers : List Call) (permission : Permission)
  | call (c : Call)
  | permission (request : ℕ) (granted : Option Capture)
  | sourceError
  | writeData (captured : ℕ)
  | durationTimeout
  | finishTimeout (encode : Encode)
  | encodingFinished (error : QString)
  deriving DecidableEq, Repr

namespace MessagingViewModel

def call (s : MessagingViewModel) : Call → MessagingViewModel
  | .pauseVoiceRecording stops preview => s.emitting (s.voiceController.voiceRecorder.pause stops preview)
  | .resumeVoiceRecording stops =>
    let s₁ := if s.voiceController.voiceRecorder.state = .paused then
      { s with voiceController.voiceRecordingFile := none } else s
    s₁.emitting (s₁.voiceController.voiceRecorder.resume stops)
  | .stopVoiceRecording => s.stopVoiceRecording
  | .cancelVoiceRecording => s.cancelVoiceRecording
  | .sendVoice duration => (s.note .asked).sendVoice duration
  | .fetchMessage user_id => s.fetchMessage user_id
  | .resetModel => s.resetModel

def prepared (s : MessagingViewModel) : MessagingViewModel :=
  { s with
    voiceController.recordingConversationId := s.voiceController.activeConversationId
    voiceController.finalVoiceDuration := 0
    voiceController.voiceRecordingFile := none }

def startVoiceRecording (outputDirectory : OutputDirectory) (answers : List Call) (permission : Permission)
    (s : MessagingViewModel) : MessagingViewModel :=
  if s.isVoiceRecordingBusy then s
  else if s.voiceController.activeConversationId = [] then s.onVoiceRecordingEnded
  else
    let s₁ := s.prepared.emitting (s.voiceController.voiceRecorder.start outputDirectory)
    let recorder := s₁.voiceController.voiceRecorder
    if recorder.state = .starting then
      let s₂ := answers.foldl call (s₁.note (.started recorder.request))
      s₂.emitting (s₂.voiceController.voiceRecorder.checkPermission recorder.request permission)
    else s₁

def step (s : MessagingViewModel) : Event → MessagingViewModel
  | .startVoiceRecording outputDirectory answers permission =>
    s.startVoiceRecording outputDirectory answers permission
  | .call c => s.call c
  | .permission request granted => s.emitting (s.voiceController.voiceRecorder.onPermission request granted)
  | .sourceError => s.emitting s.voiceController.voiceRecorder.onSourceError
  | .writeData captured => s.emitting (s.voiceController.voiceRecorder.writeData captured)
  | .durationTimeout => s.emitting s.voiceController.voiceRecorder.onDurationTimeout
  | .finishTimeout encode => s.emitting (s.voiceController.voiceRecorder.onFinishTimeout encode)
  | .encodingFinished error => s.emitting (s.voiceController.voiceRecorder.onEncodingFinished error)

end MessagingViewModel

end ChatDesktop.Voice
