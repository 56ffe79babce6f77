import ChatDesktop.Library.Reactive
import ChatDesktop.Voice.VoiceRecorder

namespace ChatDesktop.Voice

open Library.Reactive Library.Text

/-- A call of the recorder, or what comes to it; `start` is in two parts. -/
inductive RecorderEvent
  | start (outputDirectory : OutputDirectory)
  | checkPermission (request : ℕ) (permission : Permission)
  | permission (request : ℕ) (granted : Option Capture)
  | pause (stops : Bool) (preview : Encode)
  | resume (stops : Bool)
  | stop
  | cancel
  | sourceError
  | writeData (captured : ℕ)
  | durationTimeout
  | finishTimeout (encode : Encode)
  | encodingFinished (error : QString)
  deriving DecidableEq

def VoiceRecorder.handle (r : VoiceRecorder) : RecorderEvent → VoiceRecorder × Option Signal
  | .start outputDirectory => r.start outputDirectory
  | .checkPermission request permission => r.checkPermission request permission
  | .permission request granted => r.onPermission request granted
  | .pause stops preview => r.pause stops preview
  | .resume stops => r.resume stops
  | .stop => r.stop
  | .cancel => r.cancel
  | .sourceError => r.onSourceError
  | .writeData captured => r.writeData captured
  | .durationTimeout => r.onDurationTimeout
  | .finishTimeout encode => r.onFinishTimeout encode
  | .encodingFinished error => r.onEncodingFinished error

def VoiceRecorder.EndsUnsaved (r : VoiceRecorder) : RecorderEvent → Prop
  | .finishTimeout encode => r.FinishesUnsaved encode
  | .encodingFinished error => r.EncodesUnsaved error
  | _ => False

/-- A recording, from the start that leaves the idle state on. `outcomes` are the signals that tell how it ended. -/
structure Take where
  outcomes : List Signal := []
  canceled : Bool := false
  failed : Bool := false
  previewFailed : Bool := false
  deriving DecidableEq

namespace Take

def cancel (event : RecorderEvent) (take : Take) : Take :=
  { take with canceled := take.canceled || decide (event = .cancel) }

def note (state : State) : Option Signal → Take → Take
  | some (.errorOccurred message), take =>
    if state = .paused then { take with previewFailed := true }
    else { take with failed := true, outcomes := take.outcomes ++ [.errorOccurred message] }
  | some (.recordingReady location duration), take =>
    { take with outcomes := take.outcomes ++ [.recordingReady location duration] }
  | some .canceled, take => { take with outcomes := take.outcomes ++ [.canceled] }
  | _, take => take

/-- A recording that ended: it has one outcome, and it is not ready if it was canceled or failed. -/
structure Sound (take : Take) : Prop where
  one : take.outcomes.length = 1
  ready : take.canceled = true ∨ take.failed = true → ∀ location duration,
    Signal.recordingReady location duration ∉ take.outcomes

end Take

/-- The recorder with its recording, if it is not idle, and the recordings before. -/
structure History where
  recorder : VoiceRecorder := {}
  take : Take := {}
  takes : List Take := []

namespace History

def step (h : History) (event : RecorderEvent) : History :=
  let (recorder, signal) := h.recorder.handle event
  if h.recorder.state = .idle then { h with recorder := recorder, take := {} }
  else
    let take := (h.take.cancel event).note recorder.state signal
    if recorder.state = .idle then { recorder := recorder, takes := h.takes ++ [take] }
    else { h with recorder := recorder, take := take }

/-- After a failed preview the recording does not end unsaved, unless it fails before. -/
def EndsHeard (h : History) (event : RecorderEvent) : Prop :=
  h.take.previewFailed = true → h.take.failed = false → ¬h.recorder.EndsUnsaved event

end History

/-! ### What an event does -/

structure Valid (r : VoiceRecorder) : Prop where
  session : r.session.isSome = true ↔ r.state ≠ .idle ∧ r.state ≠ .starting
  errorString : ∀ session, r.session = some session → session.encoder.errorString ≠ []
  final : ∀ session, r.session = some session → session.encodingFinal = true → r.state = .stopping

structure Continues (r r' : VoiceRecorder) : Prop where
  busy : r.state ≠ .idle
  busy' : r'.state ≠ .idle
  error : r'.error = r.error
  discard : r.discard = true → r'.discard = true
  stopping : r.state = .stopping → r'.state = .stopping

inductive Turns (r : VoiceRecorder) (event : RecorderEvent) (r' : VoiceRecorder) : Option Signal → Prop
  | rests (signal : Option Signal) : r.state = .idle → r'.state = .idle → Turns r event r' signal
  | begins (signal : Option Signal) : r.state = .idle → r'.state = .starting → r'.error = [] → r'.discard = false →
      Turns r event r' signal
  | goesOn (signal : Option Signal) : Continues r r' → (event = .cancel → r'.discard = true) →
      (∀ take : Take, take.note r'.state signal = take) → Turns r event r' signal
  | previewFails (message : QString) : message ≠ [] → r.state ≠ .idle → r.state ≠ .stopping → r'.state = .paused →
      r'.error = message → r'.discard = r.discard → event ≠ .cancel → Turns r event r' (some (.errorOccurred message))
  | fails (message : QString) : message ≠ [] → r.state ≠ .idle → r.state ≠ .stopping → r'.error = message →
      r'.discard = true → r'.state = .stopping ∨ r'.state = .idle → Turns r event r' (some (.errorOccurred message))
  | cancels : r.state = .starting → r'.state = .idle → Turns r event r' (some .canceled)
  | ready (location : VoiceFile) (duration : ℕ) : r.state = .stopping → r'.state = .idle → r.discard = false →
      event ≠ .cancel → Turns r event r' (some (.recordingReady location duration))
  | endsHeard (signal : Signal) : r.state = .stopping → r'.state = .idle → r.error = [] →
      (signal = .canceled ∨ ∃ message, signal = .errorOccurred message) → Turns r event r' (some signal)
  | endsUnheard : r.state = .stopping → r'.state = .idle → r.error ≠ [] → r.EndsUnsaved event → Turns r event r' none

def Turned (r : VoiceRecorder) (event : RecorderEvent) (out : VoiceRecorder × Option Signal) : Prop :=
  Valid out.1 ∧ Turns r event out.1 out.2

section

variable {r r₁ r' : VoiceRecorder} {event : RecorderEvent} {session : Session} {signal : Option Signal}

lemma setErrorString_ne (error : QString) (encoder : M4aEncoder) : (encoder.setErrorString error).errorString ≠ [] := by
  rw [M4aEncoder.setErrorString]
  dsimp only
  split_ifs with he
  · decide
  · simpa using he

lemma encode_errorString {encoder : M4aEncoder} (h : encoder.errorString ≠ []) (path : VoiceFile) (encode : Encode) :
    (encoder.encode path encode).1.errorString ≠ [] := by
  cases encode with
  | started => exact h
  | refused error => exact setErrorString_ne error encoder
  | unreadable error => exact setErrorString_ne error encoder

lemma valid_rest (h : r.session = none) (hr : r.state = .idle ∨ r.state = .starting) : Valid r := by
  refine ⟨?_, fun _ hs => ?_, fun _ hs => ?_⟩
  · rw [h]
    rcases hr with hr | hr <;> simp [hr]
  · cases h.symm.trans hs
  · cases h.symm.trans hs

lemma valid_session (h : r.session = some session) (hr : r.state ≠ .idle ∧ r.state ≠ .starting)
    (herror : session.encoder.errorString ≠ []) (hfinal : session.encodingFinal = true → r.state = .stopping) :
    Valid r := by
  refine ⟨?_, fun s hs => ?_, fun s hs hf => ?_⟩
  · simp [h, hr]
  · obtain rfl := Option.some.inj (h.symm.trans hs)
    exact herror
  · obtain rfl := Option.some.inj (h.symm.trans hs)
    exact hfinal hf

lemma Valid.session_none (h : Valid r) (hr : r.state = .idle ∨ r.state = .starting) : r.session = none := by
  rw [Option.eq_none_iff_forall_ne_some]
  intro session hs
  have hbusy := h.session.mp (hs ▸ rfl)
  rcases hr with hr | hr
  · exact hbusy.1 hr
  · exact hbusy.2 hr

lemma Valid.busy (h : Valid r) (hs : r.session = some session) : r.state ≠ .idle ∧ r.state ≠ .starting :=
  h.session.mp (hs ▸ rfl)

lemma Valid.stops (h : Valid r) (hs : r.session = some session) (h₁ : r₁.session = r.session)
    (hstate : r₁.state = .stopping) : Valid r₁ :=
  valid_session (h₁.trans hs) (by simp [hstate]) (h.errorString session hs) (fun _ => hstate)

lemma Valid.stays (h : Valid r) (hc : event = .cancel → r.state = .idle) : Turned r event (r, none) := by
  refine ⟨h, ?_⟩
  by_cases hr : r.state = .idle
  · exact .rests _ hr hr
  · exact .goesOn _ ⟨hr, hr, rfl, id, id⟩ (fun he => absurd (hc he) hr) (fun _ => rfl)

lemma Valid.fail (h : Valid r) {message : QString} (hmessage : message ≠ []) (hr : r.state ≠ .idle)
    (hstop : r.state ≠ .stopping) : Turned r event (r.fail message) := by
  rw [VoiceRecorder.fail]
  dsimp only
  split_ifs with hs
  · obtain ⟨session, hs⟩ := Option.isSome_iff_exists.mp hs
    exact ⟨h.stops hs rfl rfl, .fails message hmessage hr hstop rfl rfl (.inl rfl)⟩
  · have hnone : r.session = none := by simpa using hs
    exact ⟨valid_rest hnone (.inl rfl), .fails message hmessage hr hstop rfl rfl (.inr rfl)⟩

lemma fail_rests (hnone : r.session = none) (message : QString) :
    Valid (r.fail message).1 ∧ (r.fail message).1.state = .idle := by
  have hs : r.session.isSome = false := by simp [hnone]
  rw [VoiceRecorder.fail]
  dsimp only
  rw [hs]
  exact ⟨valid_rest hnone (.inl rfl), rfl⟩

lemma Continues.turned (h : Continues r r') (hvalid : Valid r') (hc : event ≠ .cancel)
    (hnote : ∀ take : Take, take.note r'.state signal = take) : Turned r event (r', signal) :=
  ⟨hvalid, .goesOn _ h (fun he => absurd he hc) hnote⟩

lemma Valid.start (h : Valid r) (outputDirectory : OutputDirectory) :
    Turned r (.start outputDirectory) (r.start outputDirectory) := by
  rw [VoiceRecorder.start]
  split_ifs with hr
  · exact h.stays nofun
  · have hidle : r.state = .idle := not_not.mp hr
    have hnone := h.session_none (.inl hidle)
    cases outputDirectory with
    | remote =>
      obtain ⟨hvalid, hrest⟩ := fail_rests (r := { r with error := [], duration := 0, discard := false }) hnone
        (ofAscii "The recording directory must be a local folder.")
      exact ⟨hvalid, .rests _ hidle hrest⟩
    | notWritable =>
      obtain ⟨hvalid, hrest⟩ := fail_rests (r := { r with error := [], duration := 0, discard := false }) hnone
        (ofAscii "The recording directory is not writable.")
      exact ⟨hvalid, .rests _ hidle hrest⟩
    | writable => exact ⟨valid_rest hnone (.inr rfl), .begins _ hidle rfl rfl rfl⟩

lemma fail_turned (hr : r.state = .starting) (h₁ : r₁.session = none ∨ ∃ session, r₁.session = some session ∧
    session.encoder.errorString ≠ []) {message : QString} (hmessage : message ≠ []) :
    Turned r event (r₁.fail message) := by
  have hidle : r.state ≠ .idle := by simp [hr]
  have hstop : r.state ≠ .stopping := by simp [hr]
  rw [VoiceRecorder.fail]
  dsimp only
  rcases h₁ with hs | ⟨session, hs, herror⟩
  · rw [if_neg (by simp [hs])]
    exact ⟨valid_rest hs (.inl rfl), .fails message hmessage hidle hstop rfl rfl (.inr rfl)⟩
  · rw [if_pos (by simp [hs])]
    have hvalid : Valid { r₁ with error := message, discard := true, state := .stopping }.scheduleFinish :=
      valid_session hs ⟨nofun, nofun⟩ herror (fun _ => rfl)
    exact ⟨hvalid, .fails message hmessage hidle hstop rfl rfl (.inl rfl)⟩

lemma Valid.beginRecording (h : Valid r) (hr : r.state = .starting) (hc : event ≠ .cancel) (capture : Capture) :
    Turned r event (r.beginRecording capture) := by
  have hnew : ({} : M4aEncoder).errorString ≠ [] := by decide
  cases capture with
  | unavailable => exact fail_turned hr (.inl (h.session_none (.inr hr))) (by decide)
  | unsupported => exact fail_turned hr (.inr ⟨_, rfl, hnew⟩) (by decide)
  | refused error =>
    have herror := setErrorString_ne error ({ directory := r.request } : Session).encoder
    exact fail_turned hr (.inr ⟨_, rfl, herror⟩) herror
  | stopsCapturing => exact fail_turned hr (.inr ⟨_, rfl, hnew⟩) (by decide)
  | cannotStart => exact fail_turned hr (.inr ⟨_, rfl, hnew⟩) (by decide)
  | captures =>
    refine Continues.turned (r := r) ⟨?_, ?_, rfl, id, ?_⟩ (valid_session rfl ?_ hnew nofun) hc (fun _ => rfl)
    all_goals simp [hr]

lemma Valid.checkPermission (h : Valid r) (request : ℕ) (permission : Permission) :
    Turned r (.checkPermission request permission) (r.checkPermission request permission) := by
  rw [VoiceRecorder.checkPermission.eq_def]
  split_ifs with hc
  · exact h.stays nofun
  · have hr : r.state = .starting := not_not.mp (fun hr => hc (.inl hr))
    cases permission with
    | granted capture => exact h.beginRecording hr (by simp) capture
    | denied => exact fail_turned hr (.inl (h.session_none (.inr hr))) (by decide)
    | undetermined => exact h.stays nofun

lemma Valid.onPermission (h : Valid r) (request : ℕ) (granted : Option Capture) :
    Turned r (.permission request granted) (r.onPermission request granted) := by
  rw [VoiceRecorder.onPermission.eq_def]
  split_ifs with hc
  · exact h.stays nofun
  · have hr : r.state = .starting := not_not.mp (fun hr => hc (.inr hr))
    cases granted with
    | some capture => exact h.beginRecording hr (by simp) capture
    | none => exact fail_turned hr (.inl (h.session_none (.inr hr))) (by decide)

lemma Valid.pause (h : Valid r) (stops : Bool) (preview : Encode) :
    Turned r (.pause stops preview) (r.pause stops preview) := by
  rw [VoiceRecorder.pause.eq_def]
  split
  · rename_i session hr hs
    have hidle : r.state ≠ .idle := by simp [hr]
    have hstop : r.state ≠ .stopping := by simp [hr]
    have herror := encode_errorString (h.errorString session hs)
      ⟨session.directory, some (session.previewRevision + 1)⟩ preview
    have hfinal : session.encodingFinal = true → State.paused = .stopping := fun hf => absurd (h.final session hs hf) hstop
    dsimp only
    split_ifs with hstops hsaved
    · exact h.fail (by decide) hidle hstop
    · refine Continues.turned (r := r) ⟨hidle, ?_, rfl, id, fun he => absurd he hstop⟩ (valid_session rfl ?_ herror hfinal)
        nofun (fun _ => rfl)
      all_goals simp
    · refine ⟨valid_session rfl ?_ herror hfinal, .previewFails _ herror hidle hstop rfl rfl rfl nofun⟩
      simp
  · exact h.stays nofun

lemma Valid.resume (h : Valid r) (stops : Bool) : Turned r (.resume stops) (r.resume stops) := by
  rw [VoiceRecorder.resume.eq_def]
  split
  · rename_i session hr hs
    have hidle : r.state ≠ .idle := by simp [hr]
    have hstop : r.state ≠ .stopping := by simp [hr]
    split_ifs with hstops
    · exact h.fail (by decide) hidle hstop
    · refine Continues.turned (r := r) ⟨hidle, ?_, rfl, id, fun he => absurd he hstop⟩ (valid_session hs ?_
        (h.errorString session hs) (fun hf => absurd (h.final session hs hf) hstop)) nofun (fun _ => rfl)
      all_goals simp
  · exact h.stays nofun

lemma Valid.stopSession (h : Valid r) (hs : r.session = some session) (h₁ : r₁.session = r.session)
    (herror : r₁.error = r.error) (hdiscard : r.discard = true ∨ event = .cancel → r₁.discard = true) :
    Turned r event (r₁.stopSession, none) := by
  have hvalid : Valid r₁.stopSession := h.stops hs h₁ rfl
  exact ⟨hvalid, .goesOn _ ⟨(h.busy hs).1, nofun, herror, fun hd => hdiscard (.inl hd), fun _ => rfl⟩
    (fun he => hdiscard (.inr he)) (fun _ => rfl)⟩

lemma Valid.cancel (h : Valid r) : Turned r event r.cancel := by
  rw [VoiceRecorder.cancel]
  dsimp only
  split_ifs with hr hs hstopping
  · exact h.stays (fun _ => hr)
  · obtain ⟨session, hs⟩ := Option.isSome_iff_exists.mp hs
    exact ⟨h.stops hs rfl hstopping, .goesOn _ ⟨hr, hr, rfl, fun _ => rfl, id⟩ (fun _ => rfl)
      (fun _ => rfl)⟩
  · obtain ⟨session, hs⟩ := Option.isSome_iff_exists.mp hs
    exact h.stopSession hs rfl rfl (fun _ => rfl)
  · have hnone : r.session = none := by simpa using hs
    have hstarting : r.state = .starting := by
      by_contra hne
      exact hs (h.session.mpr ⟨hr, hne⟩)
    exact ⟨valid_rest hnone (.inl rfl), .cancels hstarting rfl⟩

lemma Valid.stop (h : Valid r) : Turned r .stop r.stop := by
  rw [VoiceRecorder.stop]
  split_ifs with hr hs
  · exact h.stays nofun
  · exact h.cancel
  · obtain ⟨session, hs⟩ := Option.ne_none_iff_exists'.mp (by simpa using hs)
    exact h.stopSession hs rfl rfl (fun hd => hd.resolve_right nofun)

lemma Valid.onSourceError (h : Valid r) : Turned r .sourceError r.onSourceError := by
  rw [VoiceRecorder.onSourceError]
  split_ifs with hc
  · exact h.fail (by decide) (h.session.mp hc.2).1 hc.1
  · exact h.stays nofun

lemma Valid.writeData (h : Valid r) (captured : ℕ) : Turned r (.writeData captured) (r.writeData captured) := by
  rw [VoiceRecorder.writeData.eq_def]
  split
  · rename_i session hr hs
    exact Continues.turned (r := r) ⟨(h.busy hs).1, (h.busy hs).1, rfl, id, id⟩
      (valid_session rfl (h.busy hs) (h.errorString session hs) (h.final session hs)) nofun (fun _ => rfl)
  · exact h.stays nofun

lemma Valid.onDurationTimeout (h : Valid r) : Turned r .durationTimeout r.onDurationTimeout := by
  rw [VoiceRecorder.onDurationTimeout.eq_def]
  split
  · rename_i session hs
    exact Continues.turned (r := r) ⟨(h.busy hs).1, (h.busy hs).1, rfl, id, id⟩
      (valid_session hs (h.busy hs) (h.errorString session hs) (h.final session hs)) nofun (fun _ => rfl)
  · exact h.stays nofun

lemma completeRecording_turned (saved : Bool) (hr : r.state = .stopping) (herror : session.encoder.errorString ≠ [])
    (h₁ : r₁.error = r.error) (hd : r₁.discard = r.discard) (hsaved : saved = true → r.discard = false)
    (hc : event ≠ .cancel) (hunsaved : saved = false → r.EndsUnsaved event) :
    Turned r event (r₁.completeRecording saved session) := by
  have hvalid : Valid (r₁.completeRecording saved session).1 := by
    rw [VoiceRecorder.completeRecording]
    dsimp only
    split_ifs <;> exact valid_rest rfl (.inl rfl)
  refine ⟨hvalid, ?_⟩
  rw [VoiceRecorder.completeRecording, h₁, hd]
  cases saved with
  | true => exact .ready _ _ hr rfl (hsaved rfl) hc
  | false =>
    by_cases hnone : r.error = []
    · rw [hnone]
      cases r.discard with
      | true => exact .endsHeard _ hr rfl hnone (.inl rfl)
      | false =>
        dsimp only [Bool.not_false, Bool.true_and, List.isEmpty_nil]
        simp only [Bool.false_eq_true, if_false]
        rw [if_neg (by simpa using herror)]
        exact .endsHeard _ hr rfl hnone (.inr ⟨_, rfl⟩)
    · have hm : (!false && !r.discard && r.error.isEmpty) = false := by simp [hnone]
      rw [hm]
      simp only [Bool.false_eq_true, if_false]
      rw [if_neg (by simpa using hnone)]
      exact .endsUnheard hr rfl hnone (hunsaved rfl)

lemma Valid.onFinishTimeout (h : Valid r) (encode : Encode) :
    Turned r (.finishTimeout encode) (r.onFinishTimeout encode) := by
  rw [VoiceRecorder.onFinishTimeout.eq_def]
  split
  · exact h.stays nofun
  rename_i request finishes hf
  have hrest : Turned r (.finishTimeout encode) ({ r with finishes }, none) := by
    have hw : Valid { r with finishes } := ⟨h.session, h.errorString, h.final⟩
    refine ⟨hw, ?_⟩
    by_cases hr : r.state = .idle
    · exact .rests _ hr hr
    · exact .goesOn _ ⟨hr, hr, rfl, id, id⟩ nofun (fun _ => rfl)
  dsimp only
  split_ifs with hq
  · rw [VoiceRecorder.finishRecording.eq_def]
    dsimp only
    split
    · exact hrest
    rename_i session hs
    have herror := encode_errorString (h.errorString session hs) { directory := session.directory } encode
    split_ifs with hstop hd hok
    · exact hrest
    · have hstopping : r.state = .stopping := not_not.mp hstop
      refine completeRecording_turned (r := r) false hstopping (h.errorString session hs) rfl rfl nofun nofun (fun _ => ?_)
      exact ⟨by simp [hs], hstopping, by simp [hf, hq], .inl hd⟩
    · exact Continues.turned (r := r) ⟨(h.busy hs).1, (h.busy hs).1, rfl, id, id⟩
        (valid_session rfl (h.busy hs) herror (fun _ => not_not.mp hstop)) nofun (fun _ => rfl)
    · have hstopping : r.state = .stopping := not_not.mp hstop
      refine completeRecording_turned (r := r) false hstopping herror rfl rfl nofun nofun (fun _ => ?_)
      refine ⟨by simp [hs], hstopping, by simp [hf, hq], .inr ?_⟩
      rintro rfl
      exact hok rfl
  · exact hrest

lemma Valid.onEncodingFinished (h : Valid r) (error : QString) :
    Turned r (.encodingFinished error) (r.onEncodingFinished error) := by
  rw [VoiceRecorder.onEncodingFinished.eq_def]
  split
  · exact h.stays nofun
  rename_i session hs
  split
  · exact h.stays nofun
  rename_i path hjob
  have herror : (if error.isEmpty then session.encoder.errorString else error) ≠ [] := by
    split_ifs with he
    · exact h.errorString session hs
    · simpa using he
  dsimp only
  generalize (if error.isEmpty then session.encoder.errorString else error) = message at herror ⊢
  have hgoes := h.busy hs
  by_cases hfinal : session.encodingFinal = true
  · have hstopping := h.final session hs hfinal
    rw [if_pos hfinal]
    refine completeRecording_turned (r := r) _ hstopping herror rfl rfl ?_ nofun (fun hsaved => ?_)
    · intro hsaved
      simpa using (Bool.and_eq_true_iff.mp hsaved).2
    · refine ⟨session, hs, hfinal, by simp [hjob], ?_⟩
      by_cases hd : r.discard = true
      · exact .inl hd
      · right
        rintro rfl
        simp [hd] at hsaved
  rw [if_neg hfinal]
  by_cases hpaused : r.state = .paused
  · have hstop : r.state ≠ .stopping := by simp [hpaused]
    rw [if_pos hpaused]
    by_cases hok : error.isEmpty = true
    · rw [if_pos hok]
      exact Continues.turned (r := r) ⟨hgoes.1, hgoes.1, rfl, id, id⟩
        (valid_session rfl hgoes herror (h.final session hs)) nofun (fun _ => rfl)
    · rw [if_neg hok]
      exact ⟨valid_session rfl hgoes herror (h.final session hs),
        .previewFails _ herror hgoes.1 hstop hpaused rfl rfl nofun⟩
  · rw [if_neg hpaused]
    exact Continues.turned (r := r) ⟨hgoes.1, hgoes.1, rfl, id, id⟩
      (valid_session rfl hgoes herror (h.final session hs)) nofun (fun _ => rfl)

lemma Valid.handle (h : Valid r) (event : RecorderEvent) : Turned r event (r.handle event) := by
  cases event with
  | start outputDirectory => exact h.start outputDirectory
  | checkPermission request permission => exact h.checkPermission request permission
  | permission request granted => exact h.onPermission request granted
  | pause stops preview => exact h.pause stops preview
  | resume stops => exact h.resume stops
  | stop => exact h.stop
  | cancel => exact h.cancel
  | sourceError => exact h.onSourceError
  | writeData captured => exact h.writeData captured
  | durationTimeout => exact h.onDurationTimeout
  | finishTimeout encode => exact h.onFinishTimeout encode
  | encodingFinished error => exact h.onEncodingFinished error

lemma Valid.stopping_of_endsUnsaved (h : Valid r) (hu : r.EndsUnsaved event) : r.state = .stopping := by
  cases event with
  | finishTimeout encode => exact hu.2.1
  | encodingFinished error =>
    obtain ⟨session, hs, hfinal, -⟩ := hu
    exact h.final session hs hfinal
  | _ => exact hu.elim

lemma endsUnsaved_silent (he : r.error ≠ []) (hu : r.EndsUnsaved event) :
    (r.handle event).1.state = .idle ∧ (r.handle event).2 = none := by
  cases event with
  | finishTimeout encode => exact VoiceRecorder.onFinishTimeout_silent he hu
  | encodingFinished error => exact VoiceRecorder.onEncodingFinished_silent he hu
  | _ => exact hu.elim

end

/-! ### Recordings -/

structure Tally (h : History) : Prop where
  valid : Valid h.recorder
  outcomes : h.recorder.state ≠ .idle → h.take.failed = false → h.take.outcomes = []
  failed : h.recorder.state ≠ .idle → h.take.failed = true → (∃ message, h.take.outcomes = [.errorOccurred message]) ∧
    h.recorder.state = .stopping ∧ h.recorder.discard = true
  canceled : h.recorder.state ≠ .idle → h.take.canceled = true → h.recorder.discard = true
  error : h.recorder.state ≠ .idle → (h.recorder.error ≠ [] ↔ h.take.failed = true ∨ h.take.previewFailed = true)

namespace History

variable {h : History} {event : RecorderEvent}

lemma step_rests (hr : h.recorder.state = .idle) :
    h.step event = { h with recorder := (h.recorder.handle event).1, take := {} } := by
  rw [step]
  exact if_pos hr

lemma step_ends (hr : h.recorder.state ≠ .idle) (hr' : (h.recorder.handle event).1.state = .idle) :
    h.step event = { recorder := (h.recorder.handle event).1, takes := h.takes ++ [(h.take.cancel event).note
      (h.recorder.handle event).1.state (h.recorder.handle event).2] } := by
  rw [step]
  exact (if_neg hr).trans (if_pos hr')

lemma step_goesOn (hr : h.recorder.state ≠ .idle) (hr' : (h.recorder.handle event).1.state ≠ .idle) :
    h.step event = { h with
      recorder := (h.recorder.handle event).1
      take := (h.take.cancel event).note (h.recorder.handle event).1.state (h.recorder.handle event).2 } := by
  rw [step]
  exact (if_neg hr).trans (if_neg hr')

end History

section

variable {h : History} {event : RecorderEvent}

lemma Tally.heard (ht : Tally h) (hr : h.recorder.state ≠ .idle)
    (hout : (h.recorder.handle event).1.state ≠ .idle ∨ (h.recorder.handle event).2 ≠ none) : h.EndsHeard event := by
  intro hpreview _ hu
  obtain ⟨hidle, hnone⟩ := endsUnsaved_silent ((ht.error hr).mpr (.inr hpreview)) hu
  rcases hout with hout | hout
  · exact hout hidle
  · exact hout hnone

lemma tally_rest {h : History} (hvalid : Valid h.recorder) (hr : h.recorder.state = .idle) : Tally h :=
  ⟨hvalid, fun hb => absurd hr hb, fun hb => absurd hr hb, fun hb => absurd hr hb, fun hb => absurd hr hb⟩

lemma Take.sound_of_outcomes {take : Take} (signal : Signal) (h : take.outcomes = [signal])
    (hready : take.canceled = true ∨ take.failed = true → ∀ location duration,
      signal ≠ .recordingReady location duration) : take.Sound := by
  refine ⟨by rw [h]; rfl, fun hstopped location duration hmem => ?_⟩
  rw [h, List.mem_singleton] at hmem
  exact hready hstopped location duration hmem.symm

lemma Tally.ends (ht : Tally h) (hr : h.recorder.state ≠ .idle) (hr' : (h.recorder.handle event).1.state = .idle) :
    ((h.take.cancel event).note (h.recorder.handle event).1.state (h.recorder.handle event).2).Sound ↔
      h.EndsHeard event := by
  obtain ⟨-, hturns⟩ := ht.valid.handle event
  have hheard : _ → h.EndsHeard event := ht.heard hr
  have hfresh : (h.take.failed = true → False) → h.take.outcomes = [] := fun hf =>
    ht.outcomes hr (Bool.eq_false_iff.mpr hf)
  rw [hr']
  generalize (h.recorder.handle event).1 = r' at hturns hr' hheard
  generalize (h.recorder.handle event).2 = signal at hturns hheard
  cases hturns with
  | rests _ hidle => exact absurd hidle hr
  | begins _ hidle => exact absurd hidle hr
  | goesOn _ hgoes => exact absurd hr' hgoes.busy'
  | previewFails _ _ _ _ hpaused => simp [hpaused] at hr'
  | fails message _ _ hstop _ _ _ =>
    have hnone := hfresh (fun hf => hstop (ht.failed hr hf).2.1)
    refine iff_of_true (Take.sound_of_outcomes (.errorOccurred message) ?_ (fun _ => nofun))
      (hheard (.inr nofun))
    change h.take.outcomes ++ _ = _
    rw [hnone, List.nil_append]
  | cancels hstarting _ =>
    have hnone := hfresh (fun hf => nomatch hstarting.symm.trans (ht.failed hr hf).2.1)
    refine iff_of_true (Take.sound_of_outcomes .canceled ?_ (fun _ => nofun)) (hheard (.inr nofun))
    change h.take.outcomes ++ _ = _
    rw [hnone, List.nil_append]
  | ready location duration _ _ hdiscard hc =>
    have hfailed : h.take.failed = true → False := fun hf => nomatch hdiscard.symm.trans (ht.failed hr hf).2.2
    have hcanceled : h.take.canceled = true → False := fun hf => nomatch hdiscard.symm.trans (ht.canceled hr hf)
    refine iff_of_true (Take.sound_of_outcomes (.recordingReady location duration) ?_ ?_)
      (hheard (.inr nofun))
    · change h.take.outcomes ++ _ = _
      rw [hfresh hfailed, List.nil_append]
    · rintro (hstopped | hstopped)
      · change (h.take.canceled || decide (event = .cancel)) = true at hstopped
        rw [decide_eq_false hc, Bool.or_false] at hstopped
        exact (hcanceled hstopped).elim
      · exact (hfailed hstopped).elim
  | endsHeard signal _ _ hnone hsignal =>
    have hempty := hfresh (fun hf => (ht.error hr).mpr (.inl hf) hnone)
    refine iff_of_true (Take.sound_of_outcomes signal ?_ ?_) (hheard (.inr nofun))
    · rcases hsignal with rfl | ⟨message, rfl⟩
      · change h.take.outcomes ++ _ = _
        rw [hempty, List.nil_append]
      · change h.take.outcomes ++ _ = _
        rw [hempty, List.nil_append]
    · rcases hsignal with rfl | ⟨message, rfl⟩
      · exact fun _ => nofun
      · exact fun _ => nofun
  | endsUnheard _ _ herror hu =>
    cases hf : h.take.failed with
    | true =>
      obtain ⟨message, houtcomes⟩ := (ht.failed hr hf).1
      refine iff_of_true (Take.sound_of_outcomes (.errorOccurred message) houtcomes (fun _ => nofun)) ?_
      exact fun _ hnot => nomatch hf.symm.trans hnot
    | false =>
      have hpreview := ((ht.error hr).mp herror).resolve_left (by simp [hf])
      refine iff_of_false (fun hsound => ?_) (fun hheard => hheard hpreview hf hu)
      have hone := hsound.one
      change h.take.outcomes.length = 1 at hone
      rw [ht.outcomes hr hf] at hone
      simp at hone

lemma Tally.step (ht : Tally h) (event : RecorderEvent) : Tally (h.step event) := by
  obtain ⟨hvalid, hturns⟩ := ht.valid.handle event
  by_cases hr : h.recorder.state = .idle
  · rw [History.step_rests hr]
    by_cases hr' : (h.recorder.handle event).1.state = .idle
    · exact tally_rest hvalid hr'
    · generalize (h.recorder.handle event).1 = r' at hturns hr' hvalid
      generalize (h.recorder.handle event).2 = signal at hturns
      cases hturns with
      | rests _ _ hidle => exact absurd hidle hr'
      | begins _ _ hstarting herror hdiscard =>
        exact ⟨hvalid, fun _ _ => rfl, fun _ => nofun, fun _ => nofun, fun _ => by simp [herror]⟩
      | goesOn _ hgoes => exact absurd hr hgoes.busy
      | previewFails _ _ hbusy => exact absurd hr hbusy
      | fails _ _ hbusy => exact absurd hr hbusy
      | cancels hstarting => exact absurd hr (by simp [hstarting])
      | ready _ _ hstopping => exact absurd hr (by simp [hstopping])
      | endsHeard _ hstopping => exact absurd hr (by simp [hstopping])
      | endsUnheard hstopping => exact absurd hr (by simp [hstopping])
  by_cases hr' : (h.recorder.handle event).1.state = .idle
  · rw [History.step_ends hr hr']
    exact tally_rest hvalid hr'
  rw [History.step_goesOn hr hr']
  generalize (h.recorder.handle event).1 = r' at hturns hr' hvalid
  generalize (h.recorder.handle event).2 = signal at hturns
  cases hturns with
  | rests _ hidle => exact absurd hidle hr
  | begins _ hidle => exact absurd hidle hr
  | goesOn _ hgoes hcancel hnote =>
    rw [hnote]
    refine ⟨hvalid, fun _ => ht.outcomes hr, fun _ hf => ?_, fun _ hc => ?_, fun _ => ?_⟩
    · obtain ⟨houtcomes, hstopping, hdiscard⟩ := ht.failed hr hf
      exact ⟨houtcomes, hgoes.stopping hstopping, hgoes.discard hdiscard⟩
    · rcases Bool.or_eq_true_iff.mp hc with hc | hc
      · exact hgoes.discard (ht.canceled hr hc)
      · exact hcancel (of_decide_eq_true hc)
    · dsimp only
      rw [hgoes.error]
      exact ht.error hr
  | previewFails message hmessage _ hstop hpaused herror hdiscard hc =>
    have hfailed : h.take.failed = true → False := fun hf => hstop (ht.failed hr hf).2.1
    have hnote : (h.take.cancel event).note r'.state (some (.errorOccurred message)) =
        { h.take.cancel event with previewFailed := true } := if_pos hpaused
    rw [hnote]
    refine ⟨hvalid, fun _ => ht.outcomes hr, fun _ hf => (hfailed hf).elim, fun _ hcanceled => ?_, fun _ => ?_⟩
    · change (h.take.canceled || decide (event = .cancel)) = true at hcanceled
      rw [decide_eq_false hc, Bool.or_false] at hcanceled
      exact hdiscard.trans (ht.canceled hr hcanceled)
    · exact iff_of_true (herror ▸ hmessage) (.inr rfl)
  | fails message hmessage _ hstop herror hdiscard hends =>
    have hstopping : r'.state = .stopping := hends.resolve_right hr'
    have hempty := ht.outcomes hr (Bool.eq_false_iff.mpr fun hf => hstop (ht.failed hr hf).2.1)
    have hnote : (h.take.cancel event).note r'.state (some (.errorOccurred message)) =
        { h.take.cancel event with failed := true, outcomes := h.take.outcomes ++ [.errorOccurred message] } :=
      if_neg (by simp [hstopping])
    rw [hnote]
    refine ⟨hvalid, fun _ => nofun, fun _ _ => ⟨⟨message, ?_⟩, hstopping, hdiscard⟩, fun _ _ => hdiscard, fun _ => ?_⟩
    · dsimp only
      rw [hempty, List.nil_append]
    · exact iff_of_true (herror ▸ hmessage) (.inl rfl)
  | cancels _ hidle => exact absurd hidle hr'
  | ready _ _ _ hidle => exact absurd hidle hr'
  | endsHeard _ _ hidle => exact absurd hidle hr'
  | endsUnheard _ hidle => exact absurd hidle hr'

lemma Tally.takes_iff (ht : Tally h) (event : RecorderEvent) :
    (∀ take ∈ (h.step event).takes, take.Sound) ↔ (∀ take ∈ h.takes, take.Sound) ∧ h.EndsHeard event := by
  by_cases hr : h.recorder.state = .idle
  · rw [History.step_rests hr]
    refine (and_iff_left fun _ _ hu => ?_).symm
    cases hr.symm.trans (ht.valid.stopping_of_endsUnsaved hu)
  by_cases hr' : (h.recorder.handle event).1.state = .idle
  · rw [History.step_ends hr hr', ← ht.ends hr hr']
    simp only [List.mem_append, List.mem_singleton, or_imp, forall_and, forall_eq]
  · rw [History.step_goesOn hr hr']
    exact (and_iff_left (ht.heard hr (.inl hr'))).symm

lemma Tally.run_takes_iff (ht : Tally h) (events : List RecorderEvent) :
    (∀ take ∈ (after History.step h events).takes, take.Sound) ↔
      (∀ take ∈ h.takes, take.Sound) ∧ Each History.step History.EndsHeard h events := by
  induction events generalizing h with
  | nil => simp
  | cons event events ih => rw [after_cons, each_cons, ih (ht.step event), ht.takes_iff, and_assoc]

/-- The recordings of a run have one outcome each just when none ends unheard. -/
theorem one_outcome_iff (events : List RecorderEvent) :
    (∀ take ∈ (after History.step {} events).takes, take.Sound) ↔ Each History.step History.EndsHeard {} events := by
  have ht : Tally {} := tally_rest (valid_rest rfl (.inl rfl)) rfl
  exact (ht.run_takes_iff events).trans (and_iff_right nofun)

end

def pausedAtOnce : List RecorderEvent :=
  [.start .writable, .checkPermission 1 (.granted .captures), .pause false (.refused (ofAscii "no audio")), .cancel,
    .finishTimeout .started]

theorem pausedAtOnce_unsound : ¬∀ take ∈ (after History.step {} pausedAtOnce).takes, take.Sound := by
  intro h
  have hone := (h { canceled := true, previewFailed := true } (by decide)).one
  exact absurd hone (by decide)

end ChatDesktop.Voice
