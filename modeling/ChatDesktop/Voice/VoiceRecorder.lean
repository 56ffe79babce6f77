import ChatDesktop.Library.Text

namespace ChatDesktop.Voice

open Library Library.Text

abbrev QString := Text

inductive State
  | idle
  | starting
  | recording
  | paused
  | stopping
  deriving DecidableEq, Repr

/-- The file `voice.m4a` of a recording's own directory, or one of the previews beside it. The directory
goes by the number of the request that made it. -/
structure VoiceFile where
  directory : ℕ
  preview : Option ℕ := none
  deriving DecidableEq, Repr

inductive Signal
  | recordingReady (location : VoiceFile) (duration : ℕ)
  | previewReady (location : VoiceFile) (duration : ℕ)
  | recordingFileLocaltionChanged (location : VoiceFile)
  | canceled
  | errorOccurred (message : QString)
  deriving DecidableEq, Repr

/-! ### The encoder -/

/-- `captured` is the length of the PCM in milliseconds, `job` the file being encoded. -/
structure M4aEncoder where
  errorString : QString := ofAscii "Unknown error"
  captured : ℕ := 0
  job : Option VoiceFile := none
  deriving DecidableEq, Repr

inductive Encode
  | started
  | refused (error : QString)
  | unreadable (error : QString)
  deriving DecidableEq, Repr

/-- `setErrorString`; an empty text is read as the one of no error. -/
def M4aEncoder.setErrorString (error : QString) (encoder : M4aEncoder) : M4aEncoder :=
  { encoder with errorString := if error.isEmpty then ofAscii "Unknown error" else error }

def M4aEncoder.encode (encoder : M4aEncoder) (path : VoiceFile) : Encode → M4aEncoder × Bool
  | .started => ({ encoder with job := some path }, true)
  | .refused error => (encoder.setErrorString error, false)
  | .unreadable error => ({ encoder.setErrorString error with job := none }, false)

structure Session where
  directory : ℕ
  encoder : M4aEncoder := {}
  previewRevision : ℕ := 0
  encodingFinal : Bool := false
  deriving DecidableEq, Repr

/-! ### The recorder -/

/-- `finishes` are the requests of the single shots of `scheduleFinish` not yet fired. -/
structure VoiceRecorder where
  session : Option Session := none
  state : State := .idle
  duration : ℕ := 0
  error : QString := []
  request : ℕ := 0
  discard : Bool := false
  finishes : List ℕ := []
  deriving DecidableEq, Repr

inductive OutputDirectory
  | remote
  | notWritable
  | writable
  deriving DecidableEq, Repr

/-- How `beginRecording` goes. -/
inductive Capture
  | unavailable
  | unsupported
  | refused (error : QString)
  | stopsCapturing
  | cannotStart
  | captures
  deriving DecidableEq, Repr

inductive Permission
  | granted (capture : Capture)
  | denied
  | undetermined
  deriving DecidableEq, Repr

namespace VoiceRecorder

def scheduleFinish (r : VoiceRecorder) : VoiceRecorder := { r with finishes := r.finishes ++ [r.request] }

def fail (message : QString) (r : VoiceRecorder) : VoiceRecorder × Option Signal :=
  let r₁ := { r with error := message, discard := true }
  if r₁.session.isSome then ({ r₁ with state := .stopping }.scheduleFinish, some (.errorOccurred message))
  else ({ r₁ with state := .idle }, some (.errorOccurred message))

def stoppedCapturing : QString := ofAscii "The microphone stopped capturing audio."

def beginRecording (capture : Capture) (r : VoiceRecorder) : VoiceRecorder × Option Signal :=
  let session : Session := { directory := r.request }
  match capture with
  | .unavailable => r.fail (ofAscii "The selected microphone is unavailable.")
  | .unsupported =>
    { r with session := some session }.fail (ofAscii "The microphone does not support PCM voice recording.")
  | .refused error =>
    let encoder := session.encoder.setErrorString error
    { r with session := some { session with encoder } }.fail encoder.errorString
  -- the source reports the error while it is being started
  | .stopsCapturing => { r with session := some session }.fail stoppedCapturing
  | .cannotStart => { r with session := some session }.fail (ofAscii "Cannot start the microphone.")
  | .captures =>
    ({ r with session := some session, state := .recording },
      some (.recordingFileLocaltionChanged { directory := r.request }))

/-- The part of `start` up to the signal `stateChanged` of the new state. -/
def start (outputDirectory : OutputDirectory) (r : VoiceRecorder) : VoiceRecorder × Option Signal :=
  if r.state ≠ .idle then (r, none)
  else
    let r₁ := { r with error := [], duration := 0, discard := false }
    match outputDirectory with
    | .remote => r₁.fail (ofAscii "The recording directory must be a local folder.")
    | .notWritable => r₁.fail (ofAscii "The recording directory is not writable.")
    | .writable => ({ r₁ with request := r₁.request + 1, state := .starting }, none)

def checkPermission (request : ℕ) (permission : Permission) (r : VoiceRecorder) :
    VoiceRecorder × Option Signal :=
  if r.state ≠ .starting ∨ request ≠ r.request then (r, none)
  else
    match permission with
    | .granted capture => r.beginRecording capture
    | .denied => r.fail (ofAscii "Microphone access is denied. Enable it in system settings.")
    | .undetermined => (r, none)

def onPermission (request : ℕ) (granted : Option Capture) (r : VoiceRecorder) :
    VoiceRecorder × Option Signal :=
  if request ≠ r.request ∨ r.state ≠ .starting then (r, none)
  else
    match granted with
    | some capture => r.beginRecording capture
    | none => r.fail (ofAscii "Microphone access is required to record voice.")

def pause (stops : Bool) (preview : Encode) (r : VoiceRecorder) : VoiceRecorder × Option Signal :=
  match r.state, r.session with
  | .recording, some session =>
    if stops then r.fail stoppedCapturing
    else
      let revision := session.previewRevision + 1
      let (encoder, saved) := session.encoder.encode ⟨session.directory, some revision⟩ preview
      let r₁ := { r with
        state := .paused
        duration := session.encoder.captured
        session := some { session with previewRevision := revision, encoder } }
      if saved then (r₁, none)
      else ({ r₁ with error := encoder.errorString }, some (.errorOccurred encoder.errorString))
  | _, _ => (r, none)

def resume (stops : Bool) (r : VoiceRecorder) : VoiceRecorder × Option Signal :=
  match r.state, r.session with
  | .paused, some _ => if stops then r.fail stoppedCapturing else ({ r with state := .recording }, none)
  | _, _ => (r, none)

def stopSession (r : VoiceRecorder) : VoiceRecorder := { r with state := .stopping }.scheduleFinish

def cancel (r : VoiceRecorder) : VoiceRecorder × Option Signal :=
  if r.state = .idle then (r, none)
  else
    let r₁ := { r with discard := true }
    if r₁.session.isSome then
      if r₁.state = .stopping then (r₁.scheduleFinish, none) else (r₁.stopSession, none)
    else ({ r₁ with request := r₁.request + 1, state := .idle }, some .canceled)

def stop (r : VoiceRecorder) : VoiceRecorder × Option Signal :=
  if r.state = .idle ∨ r.state = .stopping then (r, none)
  else if r.session.isNone then r.cancel
  else (r.stopSession, none)

def onSourceError (r : VoiceRecorder) : VoiceRecorder × Option Signal :=
  if r.state ≠ .stopping ∧ r.session.isSome then r.fail stoppedCapturing else (r, none)

def writeData (captured : ℕ) (r : VoiceRecorder) : VoiceRecorder × Option Signal :=
  match r.state, r.session with
  | .recording, some session =>
    ({ r with session := some { session with
        encoder.captured := session.encoder.captured + captured } }, none)
  | _, _ => (r, none)

def onDurationTimeout (r : VoiceRecorder) : VoiceRecorder × Option Signal :=
  match r.session with
  | some session => ({ r with duration := session.encoder.captured }, none)
  | none => (r, none)

def completeRecording (saved : Bool) (session : Session) (r : VoiceRecorder) :
    VoiceRecorder × Option Signal :=
  let missingRecording := !saved && !r.discard && r.error.isEmpty
  let error := if missingRecording then session.encoder.errorString else r.error
  let r₁ := { r with error, session := none, state := .idle }
  if saved then (r₁, some (.recordingReady { directory := session.directory } r₁.duration))
  else if error.isEmpty then (r₁, some .canceled)
  else if missingRecording then (r₁, some (.errorOccurred error))
  else (r₁, none)

def finishRecording (encode : Encode) (r : VoiceRecorder) : VoiceRecorder × Option Signal :=
  match r.session with
  | none => (r, none)
  | some session =>
    if r.state ≠ .stopping then (r, none)
    else
      let r₁ := { r with duration := session.encoder.captured }
      if r₁.discard then r₁.completeRecording false session
      else
        let (encoder, encoding) := session.encoder.encode { directory := session.directory } encode
        let final := { session with encodingFinal := true, encoder }
        if encoding then ({ r₁ with session := some final }, none)
        else r₁.completeRecording false final

def onFinishTimeout (encode : Encode) (r : VoiceRecorder) : VoiceRecorder × Option Signal :=
  match r.finishes with
  | [] => (r, none)
  | request :: finishes =>
    let r₁ := { r with finishes }
    if request = r₁.request then r₁.finishRecording encode else (r₁, none)

def onEncodingFinished (error : QString) (r : VoiceRecorder) : VoiceRecorder × Option Signal :=
  match r.session with
  | none => (r, none)
  | some session =>
    match session.encoder.job with
    | none => (r, none)
    | some path =>
      let encoder := { session.encoder with
        job := none
        errorString := if error.isEmpty then session.encoder.errorString else error }
      let session₁ := { session with encoder }
      let r₁ := { r with session := some session₁ }
      if session.encodingFinal then r₁.completeRecording (error.isEmpty && !r₁.discard) session₁
      else if r₁.state = .paused then
        if error.isEmpty then (r₁, some (.previewReady path r₁.duration))
        else ({ r₁ with error := encoder.errorString }, some (.errorOccurred encoder.errorString))
      else (r₁, none)

/-! ### What a call can do -/

structure Wf (r : VoiceRecorder) : Prop where
  busy : ∀ session, r.session = some session → r.state ≠ .idle
  directory : ∀ session, r.session = some session → session.directory = r.request
  job : ∀ session path, r.session = some session → session.encoder.job = some path →
    path.directory = r.request

structure GoesOn (r r' : VoiceRecorder) : Prop where
  busy : r.state ≠ .idle
  busy' : r'.state ≠ .idle
  request : r'.request = r.request
  discard : r.discard = true → r'.discard = true

/-- A call other than `start`: the recording goes on, or ends with a signal, or, if `unsaved`, without
one. -/
inductive Goes (unsaved : Prop) (r r' : VoiceRecorder) : Option Signal → Prop
  | rests : r.state = .idle → r'.state = .idle → Goes unsaved r r' none
  | goesOn : GoesOn r r' → Goes unsaved r r' none
  | fails (message : QString) : GoesOn r r' → Goes unsaved r r' (some (.errorOccurred message))
  | shows (location : VoiceFile) (duration : ℕ) : GoesOn r r' → location.directory = r.request →
      Goes unsaved r r' (some (.previewReady location duration))
  | locates (location : VoiceFile) : GoesOn r r' → location.directory = r.request →
      Goes unsaved r r' (some (.recordingFileLocaltionChanged location))
  | cancels : r'.state = .idle → Goes unsaved r r' (some .canceled)
  | gives_up (message : QString) : r'.state = .idle → Goes unsaved r r' (some (.errorOccurred message))
  | ready (location : VoiceFile) (duration : ℕ) : r.state ≠ .idle → r'.state = .idle → r.discard = false →
      location.directory = r.request → Goes unsaved r r' (some (.recordingReady location duration))
  | silent : r.state ≠ .idle → r'.state = .idle → unsaved → Goes unsaved r r' none

def Went (unsaved : Prop) (r : VoiceRecorder) (out : VoiceRecorder × Option Signal) : Prop :=
  out.1.Wf ∧ Goes unsaved r out.1 out.2

def FinishesUnsaved (encode : Encode) (r : VoiceRecorder) : Prop :=
  r.session.isSome ∧ r.state = .stopping ∧ r.finishes.head? = some r.request ∧
    (r.discard = true ∨ encode ≠ .started)

def EncodesUnsaved (error : QString) (r : VoiceRecorder) : Prop :=
  ∃ session, r.session = some session ∧ session.encodingFinal = true ∧ session.encoder.job.isSome ∧
    (r.discard = true ∨ error ≠ [])

section

variable {r r₁ r' : VoiceRecorder} {unsaved : Prop} {signal : Option Signal} {session : Session}

lemma wf_rest (h : r.session = none) : r.Wf :=
  ⟨by simp [h], by simp [h], by simp [h]⟩

lemma wf_session (h : r.session = some session) (hbusy : r.state ≠ .idle)
    (hd : session.directory = r.request)
    (hjob : ∀ path, session.encoder.job = some path → path.directory = r.request) : r.Wf := by
  refine ⟨fun _ _ => hbusy, fun s hs => ?_, fun s path hs hp => ?_⟩
  · rw [h, Option.some.injEq] at hs
    exact hs ▸ hd
  · rw [h, Option.some.injEq] at hs
    subst hs
    exact hjob path hp

lemma Wf.session_none (h : r.Wf) (hr : r.state = .idle) : r.session = none := by
  cases hs : r.session with
  | none => rfl
  | some session => exact absurd hr (h.busy session hs)

lemma Wf.congr (h : r.Wf) (hs : r'.session = r.session) (hq : r'.request = r.request)
    (hbusy : r.session.isSome → r'.state ≠ .idle) : r'.Wf := by
  cases he : r.session with
  | none => exact wf_rest (hs.trans he)
  | some session =>
    refine wf_session (hs.trans he) (hbusy (by simp [he])) ?_ (fun path hp => ?_)
    · rw [hq]
      exact h.directory session he
    · rw [hq]
      exact h.job session path he hp

lemma Goes.congr (h : Goes unsaved r₁ r' signal) (hs : r₁.state = r.state) (hq : r₁.request = r.request)
    (hd : r₁.discard = r.discard) : Goes unsaved r r' signal := by
  have on : GoesOn r₁ r' → GoesOn r r' := fun h =>
    ⟨hs ▸ h.busy, h.busy', h.request.trans hq, fun hr => h.discard (hd.trans hr)⟩
  cases h with
  | rests h h' => exact .rests (hs ▸ h) h'
  | goesOn h => exact .goesOn (on h)
  | fails message h => exact .fails message (on h)
  | shows location duration h hl => exact .shows location duration (on h) (hl.trans hq)
  | locates location h hl => exact .locates location (on h) (hl.trans hq)
  | cancels h => exact .cancels h
  | gives_up message h => exact .gives_up message h
  | ready location duration h h' hr hl => exact .ready location duration (hs ▸ h) h' (hd ▸ hr) (hl.trans hq)
  | silent h h' hu => exact .silent (hs ▸ h) h' hu

lemma Goes.goesOn_of_busy (h : Goes unsaved r r' signal) (hb : r'.state ≠ .idle) : GoesOn r r' := by
  cases h with
  | goesOn h => exact h
  | fails message h => exact h
  | shows location duration h hl => exact h
  | locates location h hl => exact h
  | rests h h' => exact absurd h' hb
  | cancels h => exact absurd h hb
  | gives_up message h => exact absurd h hb
  | ready location duration h h' hr hl => exact absurd h' hb
  | silent h h' hu => exact absurd h' hb

lemma Went.congr (h : Went unsaved r₁ (r', signal)) (hs : r₁.state = r.state) (hq : r₁.request = r.request)
    (hd : r₁.discard = r.discard) : Went unsaved r (r', signal) := ⟨h.1, h.2.congr hs hq hd⟩

lemma Wf.stays (h : r.Wf) : Went unsaved r (r, none) := by
  refine ⟨h, ?_⟩
  by_cases hr : r.state = .idle
  · exact .rests hr hr
  · exact .goesOn ⟨hr, hr, rfl, id⟩

lemma Wf.fail (h : r.Wf) (message : QString) : Went unsaved r (r.fail message) := by
  unfold VoiceRecorder.fail
  dsimp only
  split_ifs with hs
  · obtain ⟨session, hs⟩ := Option.isSome_iff_exists.mp hs
    refine ⟨h.congr rfl rfl (fun _ => by simp [scheduleFinish]), .fails message ?_⟩
    exact ⟨h.busy session hs, by simp [scheduleFinish], rfl, fun _ => rfl⟩
  · exact ⟨wf_rest (by simpa using hs), .gives_up message rfl⟩

lemma Wf.beginRecording (h : r.Wf) (hr : r.state = .starting) (capture : Capture) :
    Went unsaved r (r.beginRecording capture) := by
  have hbusy : r.state ≠ .idle := by simp [hr]
  have wf (error : QString) :
      { r with session := some { directory := r.request, encoder := M4aEncoder.setErrorString error {} } }.Wf :=
    wf_session rfl hbusy rfl (by simp [M4aEncoder.setErrorString])
  have wf' : { r with session := some { directory := r.request } }.Wf := wf_session rfl hbusy rfl (by simp)
  cases capture with
  | unavailable => exact h.fail _
  | unsupported => exact (wf'.fail _).congr rfl rfl rfl
  | refused error => exact ((wf _).fail _).congr rfl rfl rfl
  | stopsCapturing => exact (wf'.fail _).congr rfl rfl rfl
  | cannotStart => exact (wf'.fail _).congr rfl rfl rfl
  | captures =>
    have hbusy' : (r.beginRecording .captures).1.state ≠ .idle := by simp [VoiceRecorder.beginRecording]
    exact ⟨wf_session rfl hbusy' rfl (by simp), .locates _ ⟨hbusy, hbusy', rfl, id⟩ rfl⟩

lemma Wf.checkPermission (h : r.Wf) (request : ℕ) (permission : Permission) :
    Went unsaved r (r.checkPermission request permission) := by
  unfold VoiceRecorder.checkPermission
  split_ifs with hc
  · exact h.stays
  · have hr : r.state = .starting := by
      by_contra hr
      exact hc (Or.inl hr)
    cases permission with
    | granted capture => exact h.beginRecording hr capture
    | denied => exact h.fail _
    | undetermined => exact h.stays

lemma Wf.onPermission (h : r.Wf) (request : ℕ) (granted : Option Capture) :
    Went unsaved r (r.onPermission request granted) := by
  unfold VoiceRecorder.onPermission
  split_ifs with hc
  · exact h.stays
  · have hr : r.state = .starting := by
      by_contra hr
      exact hc (Or.inr hr)
    cases granted with
    | some capture => exact h.beginRecording hr capture
    | none => exact h.fail _

lemma Wf.cancel (h : r.Wf) : Went unsaved r r.cancel := by
  unfold VoiceRecorder.cancel
  dsimp only
  split_ifs with hr hs hstop
  · exact h.stays
  · refine ⟨h.congr rfl rfl (fun _ => hr), .goesOn ⟨hr, hr, rfl, fun _ => rfl⟩⟩
  · refine ⟨h.congr rfl rfl (fun _ => by simp [stopSession, scheduleFinish]), .goesOn ?_⟩
    exact ⟨hr, by simp [stopSession, scheduleFinish], rfl, fun _ => rfl⟩
  · exact ⟨wf_rest (by simpa using hs), .cancels rfl⟩

lemma Wf.stop (h : r.Wf) : Went unsaved r r.stop := by
  unfold VoiceRecorder.stop
  split_ifs with hr hs
  · exact h.stays
  · exact h.cancel
  · push Not at hr
    refine ⟨h.congr rfl rfl (fun _ => by simp [stopSession, scheduleFinish]), .goesOn ?_⟩
    exact ⟨hr.1, by simp [stopSession, scheduleFinish], rfl, id⟩

lemma Wf.pause (h : r.Wf) (stops : Bool) (preview : Encode) : Went unsaved r (r.pause stops preview) := by
  unfold VoiceRecorder.pause
  split
  · rename_i session hr hs
    have hbusy : r.state ≠ .idle := h.busy session hs
    have hjob : ∀ path, (session.encoder.encode ⟨session.directory, some (session.previewRevision + 1)⟩
        preview).1.job = some path → path.directory = r.request := by
      intro path hp
      cases preview with
      | started =>
        cases hp
        exact h.directory session hs
      | refused error => exact h.job session path hs hp
      | unreadable error => cases hp
    dsimp only
    split_ifs with hstops hsaved
    · exact h.fail _
    · refine ⟨wf_session rfl (by simp) (h.directory session hs) hjob, .goesOn ?_⟩
      exact ⟨hbusy, by simp, rfl, id⟩
    · refine ⟨wf_session rfl (by simp) (h.directory session hs) hjob, .fails _ ?_⟩
      exact ⟨hbusy, by simp, rfl, id⟩
  · exact h.stays

lemma Wf.resume (h : r.Wf) (stops : Bool) : Went unsaved r (r.resume stops) := by
  unfold VoiceRecorder.resume
  split
  · rename_i session hr hs
    split_ifs with hstops
    · exact h.fail _
    · refine ⟨h.congr rfl rfl (fun _ => by simp), .goesOn ?_⟩
      exact ⟨h.busy session hs, by simp, rfl, id⟩
  · exact h.stays

lemma Wf.onSourceError (h : r.Wf) : Went unsaved r r.onSourceError := by
  unfold VoiceRecorder.onSourceError
  split_ifs with hc
  · exact h.fail _
  · exact h.stays

lemma Wf.writeData (h : r.Wf) (captured : ℕ) : Went unsaved r (r.writeData captured) := by
  unfold VoiceRecorder.writeData
  split
  · rename_i session hr hs
    have hbusy : r.state ≠ .idle := h.busy session hs
    refine ⟨wf_session rfl hbusy (h.directory session hs) (fun path hp => h.job session path hs hp), ?_⟩
    exact .goesOn ⟨hbusy, hbusy, rfl, id⟩
  · exact h.stays

lemma Wf.onDurationTimeout (h : r.Wf) : Went unsaved r r.onDurationTimeout := by
  unfold VoiceRecorder.onDurationTimeout
  split
  · rename_i session hs
    have hbusy : r.state ≠ .idle := h.busy session hs
    exact ⟨h.congr rfl rfl (fun _ => hbusy), .goesOn ⟨hbusy, hbusy, rfl, id⟩⟩
  · exact h.stays

lemma completeRecording_went (saved : Bool) (hbusy : r.state ≠ .idle)
    (hdir : session.directory = r.request) (hsaved : saved = true → r.discard = false)
    (hu : saved = false → r.error ≠ [] → unsaved) :
    Went unsaved r (r.completeRecording saved session) := by
  cases saved with
  | true => exact ⟨wf_rest rfl, .ready _ _ hbusy rfl (hsaved rfl) hdir⟩
  | false =>
    unfold completeRecording
    simp only [Bool.not_false, Bool.true_and, Bool.false_eq_true, if_false]
    by_cases hm : (!r.discard && r.error.isEmpty) = true
    · simp only [hm, if_true]
      split_ifs
      · exact ⟨wf_rest rfl, .cancels rfl⟩
      · exact ⟨wf_rest rfl, .gives_up _ rfl⟩
    · simp only [hm, Bool.false_eq_true, if_false]
      split_ifs with he
      · exact ⟨wf_rest rfl, .cancels rfl⟩
      · exact ⟨wf_rest rfl, .silent hbusy rfl (hu rfl (by simpa using he))⟩

lemma Wf.onFinishTimeout (h : r.Wf) (encode : Encode) :
    Went (r.error ≠ [] ∧ r.FinishesUnsaved encode) r (r.onFinishTimeout encode) := by
  unfold VoiceRecorder.onFinishTimeout
  split
  · exact h.stays
  rename_i request finishes hf
  dsimp only
  have hw : { r with finishes }.Wf := h.congr rfl rfl (fun hs => by
    obtain ⟨session, hs⟩ := Option.isSome_iff_exists.mp hs
    exact h.busy session hs)
  split_ifs with hq
  · unfold finishRecording
    dsimp only
    split
    · exact hw.stays.congr rfl rfl rfl
    rename_i session hs
    have hbusy : r.state ≠ .idle := h.busy session hs
    have hdir : session.directory = r.request := h.directory session hs
    split_ifs with hstop hd hok
    · exact hw.stays.congr rfl rfl rfl
    · refine (completeRecording_went false (by simpa using hbusy) (by simpa using hdir) (by simp) ?_).congr
        rfl rfl rfl
      exact fun _ he => ⟨he, by simp [hs], by simpa using hstop, by simp [hf, hq], Or.inl hd⟩
    · cases encode with
      | started =>
        refine ⟨wf_session rfl hbusy hdir ?_, .goesOn ⟨hbusy, hbusy, rfl, id⟩⟩
        intro path hp
        cases hp
        exact hdir
      | refused error => cases hok
      | unreadable error => cases hok
    · refine (completeRecording_went false (by simpa using hbusy) (by simpa using hdir) (by simp) ?_).congr
        rfl rfl rfl
      refine fun _ he => ⟨he, by simp [hs], by simpa using hstop, by simp [hf, hq], Or.inr ?_⟩
      rintro rfl
      exact hok rfl
  · exact hw.stays.congr rfl rfl rfl

lemma Wf.onEncodingFinished (h : r.Wf) (error : QString) :
    Went (r.error ≠ [] ∧ r.EncodesUnsaved error) r (r.onEncodingFinished error) := by
  unfold VoiceRecorder.onEncodingFinished
  split
  · exact h.stays
  rename_i session hs
  have hbusy : r.state ≠ .idle := h.busy session hs
  have hdir : session.directory = r.request := h.directory session hs
  split
  · exact h.stays
  rename_i path hp
  dsimp only
  by_cases hfinal : session.encodingFinal = true
  · rw [if_pos hfinal]
    refine (completeRecording_went _ (by simpa using hbusy) (by simpa using hdir) (by simp) ?_).congr rfl rfl rfl
    refine fun hsaved he => ⟨he, session, hs, hfinal, by simp [hp], ?_⟩
    cases hd : r.discard with
    | true => exact Or.inl rfl
    | false =>
      right
      rintro rfl
      simp [hd] at hsaved
  rw [if_neg hfinal]
  by_cases hpaused : r.state = .paused
  · rw [if_pos hpaused]
    by_cases hok : error.isEmpty = true
    · rw [if_pos hok]
      refine ⟨wf_session rfl hbusy hdir (by simp), ?_⟩
      exact .shows _ _ ⟨hbusy, hbusy, rfl, id⟩ (h.job session path hs hp)
    · rw [if_neg hok]
      exact ⟨wf_session rfl hbusy hdir (by simp), .fails _ ⟨hbusy, hbusy, rfl, id⟩⟩
  · rw [if_neg hpaused]
    exact ⟨wf_session rfl hbusy hdir (by simp), .goesOn ⟨hbusy, hbusy, rfl, id⟩⟩

lemma completeRecording_silent (he : r.error ≠ []) :
    (r.completeRecording false session).1.state = .idle ∧ (r.completeRecording false session).2 = none := by
  have hm : (!r.discard && r.error.isEmpty) = false := by simp [he]
  unfold completeRecording
  simp [hm, he]

lemma onFinishTimeout_silent {encode : Encode} (he : r.error ≠ []) (hu : r.FinishesUnsaved encode) :
    (r.onFinishTimeout encode).1.state = .idle ∧ (r.onFinishTimeout encode).2 = none := by
  obtain ⟨hs, hstop, hf, hd⟩ := hu
  obtain ⟨session, hs⟩ := Option.isSome_iff_exists.mp hs
  obtain ⟨finishes, hf⟩ := List.head?_eq_some_iff.mp hf
  unfold VoiceRecorder.onFinishTimeout finishRecording
  simp only [hf, if_true, hs, hstop, ne_eq, not_true_eq_false, if_false]
  by_cases hdis : r.discard = true
  · simp only [hdis, if_true]
    exact completeRecording_silent he
  · simp only [hdis, Bool.false_eq_true, if_false]
    cases encode with
    | started => exact absurd rfl (hd.resolve_left hdis)
    | refused error => exact completeRecording_silent he
    | unreadable error => exact completeRecording_silent he

lemma onEncodingFinished_silent {error : QString} (he : r.error ≠ []) (hu : r.EncodesUnsaved error) :
    (r.onEncodingFinished error).1.state = .idle ∧ (r.onEncodingFinished error).2 = none := by
  obtain ⟨session, hs, hfinal, hj, hd⟩ := hu
  obtain ⟨path, hj⟩ := Option.isSome_iff_exists.mp hj
  have hsaved : (error.isEmpty && !r.discard) = false := by
    obtain hd | hd := hd
    · simp [hd]
    · simp [hd]
  unfold VoiceRecorder.onEncodingFinished
  simp only [hs, hj, hfinal, if_true, hsaved]
  exact completeRecording_silent he

end

end VoiceRecorder

end ChatDesktop.Voice
