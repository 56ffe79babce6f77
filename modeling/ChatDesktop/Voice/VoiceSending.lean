import ChatDesktop.Library.Reactive
import ChatDesktop.Voice.VoiceMessages

namespace ChatDesktop.Voice

open Library Library.Text Library.Reactive VoiceRecorder MessagingViewModel

def AskedSince (directory : ℕ) (moments : List Moment) : Prop :=
  ∃ later earlier, moments = later ++ .started directory :: earlier ∧ .asked ∈ later

def SentOnRequest (moments : List Moment) : Prop :=
  ∀ later receiver file duration earlier, moments = later ++ .handed receiver file duration :: earlier →
    AskedSince file.directory earlier

def StartsUnarmed (s : MessagingViewModel) : Event → Prop
  | .startVoiceRecording _ _ _ => s.isVoiceRecordingBusy = false →
      s.voiceController.activeConversationId ≠ [] → s.sendVoiceWhenReady = false
  | _ => True

def OnRequest (s : MessagingViewModel) (e : Event) : Prop :=
  StartsUnarmed s e ∧ SentOnRequest (s.step e).moments

def WaitsInVain (s : MessagingViewModel) : Prop :=
  s.sendVoiceWhenReady = true ∧ s.voiceController.activeConversationId ≠ [] ∧
    s.voiceController.voiceRecorder.error ≠ []

/-- The step does not end unsaved a recording with an error that a request to send waits for. -/
def EndsAnnounced (s : MessagingViewModel) : Event → Prop
  | .finishTimeout encode => ¬(WaitsInVain s ∧ s.voiceController.voiceRecorder.FinishesUnsaved encode)
  | .encodingFinished error => ¬(WaitsInVain s ∧ s.voiceController.voiceRecorder.EncodesUnsaved error)
  | _ => True

structure Noted (s : MessagingViewModel) : Prop where
  wf : s.voiceController.voiceRecorder.Wf
  started : s.voiceController.voiceRecorder.state ≠ .idle →
    .started s.voiceController.voiceRecorder.request ∈ s.moments
  asked : s.sendVoiceWhenReady = true → s.voiceController.voiceRecorder.state ≠ .idle →
    AskedSince s.voiceController.voiceRecorder.request s.moments
  rests : s.sendVoiceWhenReady = true → s.voiceController.voiceRecorder.state = .idle →
    s.voiceController.activeConversationId = []
  file : ∀ file, s.voiceController.voiceRecordingFile = some file → .started file.directory ∈ s.moments
  sent : SentOnRequest s.moments
  active : s.activeConversationId = s.voiceController.activeConversationId

def Owned (s : MessagingViewModel) : Prop :=
  s.voiceController.voiceRecorder.state ≠ .idle →
    s.voiceController.voiceRecorder.discard = true ∨ s.recordsActive = true

section

variable {s : MessagingViewModel} {out : VoiceRecorder × Option Signal} {unsaved : Prop} {d : ℕ}
  {m : Moment} {moments : List Moment}

lemma AskedSince.of_started (h : Moment.started d ∈ moments) : AskedSince d (.asked :: moments) := by
  obtain ⟨later, earlier, rfl⟩ := List.append_of_mem h
  exact ⟨.asked :: later, earlier, rfl, List.mem_cons_self⟩

lemma AskedSince.cons (h : AskedSince d moments) : AskedSince d (m :: moments) := by
  obtain ⟨later, earlier, rfl, ha⟩ := h
  exact ⟨m :: later, earlier, rfl, List.mem_cons_of_mem _ ha⟩

lemma SentOnRequest.cons (h : SentOnRequest moments)
    (hm : ∀ receiver file duration, m = .handed receiver file duration → AskedSince file.directory moments) :
    SentOnRequest (m :: moments) := by
  intro later receiver file duration earlier he
  cases later with
  | nil =>
    simp only [List.nil_append, List.cons.injEq] at he
    obtain ⟨rfl, rfl⟩ := he
    exact hm receiver file duration rfl
  | cons n later =>
    simp only [List.cons_append, List.cons.injEq] at he
    exact h later receiver file duration earlier he.2

lemma Noted.asked_note (h : Noted s) : Noted (s.note .asked) where
  wf := h.wf
  started hr := List.mem_cons_of_mem _ (h.started hr)
  asked ha hr := (h.asked ha hr).cons
  rests := h.rests
  file f hf := List.mem_cons_of_mem _ (h.file f hf)
  sent := h.sent.cons (by simp)
  active := h.active

lemma Noted.ended (h : Noted s) : Noted s.onVoiceRecordingEnded :=
  ⟨h.wf, h.started, by simp [onVoiceRecordingEnded], by simp [onVoiceRecordingEnded], h.file, h.sent, h.active⟩

lemma Noted.withFile (h : Noted s) {file : Option VoiceFile} {duration : ℕ}
    (hf : ∀ f, file = some f → .started f.directory ∈ s.moments) :
    Noted { s with voiceController.voiceRecordingFile := file, voiceController.finalVoiceDuration := duration } :=
  ⟨h.wf, h.started, h.asked, h.rests, hf, h.sent, h.active⟩

lemma Noted.atRest (h : Noted s) {r : VoiceRecorder} (hw : r.Wf) (hr : r.state = .idle) :
    Noted (s.withRecorder r).onVoiceRecordingEnded :=
  ⟨hw, fun hb => absurd hr hb, by simp [onVoiceRecordingEnded], by simp [onVoiceRecordingEnded], h.file, h.sent,
    h.active⟩

lemma Noted.goesOn (h : Noted s) {r : VoiceRecorder} (hw : r.Wf)
    (hg : GoesOn s.voiceController.voiceRecorder r) : Noted (s.withRecorder r) where
  wf := hw
  started _ := by
    have hs := h.started hg.busy
    rwa [← hg.request] at hs
  asked ha _ := by
    have hs := h.asked ha hg.busy
    rwa [← hg.request] at hs
  rests _ hr := absurd hr hg.busy'
  file := h.file
  sent := h.sent
  active := h.active

/-! ### The calls that stop a recording -/

lemma cancel_signal (r : VoiceRecorder) : r.cancel.2 = none ∨ r.cancel.2 = some .canceled := by
  unfold VoiceRecorder.cancel
  dsimp only
  split_ifs <;> simp

lemma stop_signal (r : VoiceRecorder) : r.stop.2 = none ∨ r.stop.2 = some .canceled := by
  unfold VoiceRecorder.stop
  split_ifs
  · exact Or.inl rfl
  · exact cancel_signal r
  · exact Or.inl rfl

lemma cancel_idle {r : VoiceRecorder} (h : r.state = .idle) : r.cancel = (r, none) := by
  simp only [VoiceRecorder.cancel, h, if_true]

lemma cancel_discards (r : VoiceRecorder) (h : r.cancel.1.state ≠ .idle) : r.cancel.1.discard = true := by
  by_cases hr : r.state = .idle
  · rw [cancel_idle hr] at h
    exact absurd hr h
  · unfold VoiceRecorder.cancel
    simp only [hr, if_false]
    split_ifs <;> rfl

lemma onCanceled_eq (h : out.2 = none ∨ out.2 = some .canceled) : s.onCanceled out = s.emitting out := by
  obtain ⟨r, signal⟩ := out
  obtain rfl | rfl : signal = none ∨ signal = some .canceled := h
  · rfl
  · rfl

lemma Noted.emitting_unready (h : Noted s) (hw : Went unsaved s.voiceController.voiceRecorder out)
    (hu : unsaved → s.sendVoiceWhenReady = true → s.voiceController.activeConversationId = [])
    (hr : ∀ file duration, out.2 ≠ some (.recordingReady file duration)) : Noted (s.emitting out) := by
  obtain ⟨r, signal⟩ := out
  obtain ⟨hwf, hgoes⟩ := hw
  have hfile : ∀ {f : VoiceFile}, s.voiceController.voiceRecorder.state ≠ .idle →
      f.directory = s.voiceController.voiceRecorder.request → .started f.directory ∈ s.moments := by
    intro f hb hf
    rw [hf]
    exact h.started hb
  cases hgoes with
  | rests hs hs' =>
    exact ⟨hwf, fun hb => absurd hs' hb, fun _ hb => absurd hs' hb, fun ha _ => h.rests ha hs, h.file, h.sent,
      h.active⟩
  | goesOn hg => exact h.goesOn hwf hg
  | fails message hg => exact (h.goesOn hwf hg).ended
  | shows file duration hg hf =>
    simp only [MessagingViewModel.emitting, Option.elim_some, onSignal]
    split_ifs
    · apply (h.goesOn hwf hg).withFile
      rintro f ⟨⟩
      exact hfile hg.busy hf
    · exact h.goesOn hwf hg
  | locates file hg hf =>
    apply (h.goesOn hwf hg).withFile
    rintro f ⟨⟩
    exact hfile hg.busy hf
  | cancels hs => exact h.atRest hwf hs
  | gives_up message hs => exact h.atRest hwf hs
  | ready file duration hs hs' hd hf => exact absurd rfl (hr file duration)
  | silent hs hs' hun =>
    exact ⟨hwf, fun hb => absurd hs' hb, fun _ hb => absurd hs' hb, fun ha _ => hu hun ha, h.file, h.sent,
      h.active⟩

lemma emitting_unready (hr : ∀ file duration, out.2 ≠ some (.recordingReady file duration)) :
    (s.emitting out).voiceController.voiceRecorder = out.1 ∧ (s.emitting out).recordsActive = s.recordsActive := by
  obtain ⟨r, signal⟩ := out
  cases signal with
  | none => exact ⟨rfl, rfl⟩
  | some signal =>
    cases signal with
    | recordingReady file duration => exact absurd rfl (hr file duration)
    | previewReady file duration =>
      simp only [MessagingViewModel.emitting, Option.elim_some, onSignal]
      split_ifs <;> exact ⟨rfl, rfl⟩
    | recordingFileLocaltionChanged location => exact ⟨rfl, rfl⟩
    | canceled => exact ⟨rfl, rfl⟩
    | errorOccurred message => exact ⟨rfl, rfl⟩

lemma Owned.emitting_unready (ho : Owned s) (hw : Went unsaved s.voiceController.voiceRecorder out)
    (hr : ∀ file duration, out.2 ≠ some (.recordingReady file duration)) : Owned (s.emitting out) := by
  obtain ⟨he, ha⟩ := Voice.emitting_unready (s := s) hr
  intro hb
  rw [he] at hb ⊢
  rw [ha]
  have hg := hw.2.goesOn_of_busy hb
  exact (ho hg.busy).imp_left hg.discard

lemma stop_unready (r : VoiceRecorder) (file : VoiceFile) (duration : ℕ) :
    r.stop.2 ≠ some (.recordingReady file duration) := by
  obtain h | h := stop_signal r <;> simp [h]

lemma cancel_unready (r : VoiceRecorder) (file : VoiceFile) (duration : ℕ) :
    r.cancel.2 ≠ some (.recordingReady file duration) := by
  obtain h | h := cancel_signal r <;> simp [h]

lemma Noted.stopVoiceRecording (h : Noted s) : Noted s.stopVoiceRecording := by
  unfold MessagingViewModel.stopVoiceRecording
  rw [onCanceled_eq (stop_signal _)]
  exact h.emitting_unready h.wf.stop False.elim (stop_unready _)

lemma Owned.stopVoiceRecording (ho : Owned s) (h : Noted s) : Owned s.stopVoiceRecording := by
  unfold MessagingViewModel.stopVoiceRecording
  rw [onCanceled_eq (stop_signal _)]
  have hw : Went False _ _ := h.wf.stop
  exact ho.emitting_unready hw (stop_unready _)

lemma Noted.cancelVoiceRecording (h : Noted s) : Noted s.cancelVoiceRecording := by
  unfold MessagingViewModel.cancelVoiceRecording
  dsimp only
  have h₁ : Noted { s with
      voiceController.recordingConversationId := [], voiceController.finalVoiceDuration := 0 } :=
    ⟨h.wf, h.started, h.asked, h.rests, h.file, h.sent, h.active⟩
  have h₂ := h₁.emitting_unready h.wf.cancel False.elim (cancel_unready _)
  rw [onCanceled_eq (cancel_signal _)]
  exact h₂.withFile (by simp)

lemma cancelVoiceRecording_recorder :
    s.cancelVoiceRecording.voiceController.voiceRecorder = s.voiceController.voiceRecorder.cancel.1 := by
  unfold MessagingViewModel.cancelVoiceRecording onCanceled
  dsimp only
  split_ifs <;> rfl

lemma owned_cancelVoiceRecording : Owned s.cancelVoiceRecording := by
  intro h
  rw [cancelVoiceRecording_recorder] at h ⊢
  exact Or.inl (cancel_discards _ h)

/-! ### Sending -/

lemma Noted.sendVoice (h : Noted s) (duration : ℤ)
    (hbusy : s.voiceController.voiceRecorder.state ≠ .idle →
      AskedSince s.voiceController.voiceRecorder.request s.moments)
    (hfile : ∀ file, s.voiceController.voiceRecordingFile = some file → AskedSince file.directory s.moments) :
    Noted (s.sendVoice duration) := by
  unfold MessagingViewModel.sendVoice
  split_ifs with hs hb
  · exact h
  · have hb' : s.voiceController.voiceRecorder.state ≠ .idle := by simpa [isVoiceRecordingBusy] using hb
    apply Noted.stopVoiceRecording
    exact ⟨h.wf, h.started, fun _ => hbusy, fun _ hr => absurd hr hb', h.file, h.sent, h.active⟩
  · dsimp only
    generalize (if 0 < s.voiceController.finalVoiceDuration then _ else _ : ℤ) = d
    split
    · exact h
    rename_i file hf
    split_ifs with hc
    · exact h
    · have h₁ : Noted ({ s with isSendingVoice := true }.note
          (.handed s.voiceController.recordingConversationId file d)) := by
        refine ⟨h.wf, fun hr => List.mem_cons_of_mem _ (h.started hr), fun ha hr => (h.asked ha hr).cons, h.rests,
          fun f hf => List.mem_cons_of_mem _ (h.file f hf), h.sent.cons ?_, h.active⟩
        rintro _ _ _ ⟨⟩
        exact hfile file hf
      have h₂ := h₁.cancelVoiceRecording
      exact ⟨h₂.wf, h₂.started, h₂.asked, h₂.rests, h₂.file, h₂.sent, h₂.active⟩

lemma Owned.sendVoice (ho : Owned s) (h : Noted s) (duration : ℤ)
    (hbusy : s.voiceController.voiceRecorder.state ≠ .idle →
      AskedSince s.voiceController.voiceRecorder.request s.moments) : Owned (s.sendVoice duration) := by
  unfold MessagingViewModel.sendVoice
  split_ifs with hs hb
  · exact ho
  · have hb' : s.voiceController.voiceRecorder.state ≠ .idle := by simpa [isVoiceRecordingBusy] using hb
    have ho₁ : Owned { s with sendVoiceWhenReady := true } := ho
    apply ho₁.stopVoiceRecording
    exact ⟨h.wf, h.started, fun _ => hbusy, fun _ hr => absurd hr hb', h.file, h.sent, h.active⟩
  · dsimp only
    generalize (if 0 < s.voiceController.finalVoiceDuration then _ else _ : ℤ) = d
    split
    · exact ho
    rename_i file hf
    split_ifs with hc
    · exact ho
    · exact owned_cancelVoiceRecording (s := { s with isSendingVoice := true }.note _)

lemma sendVoice_idle (hr : s.voiceController.voiceRecorder.state = .idle) (duration : ℤ) :
    (s.sendVoice duration).voiceController.voiceRecorder = s.voiceController.voiceRecorder := by
  unfold MessagingViewModel.sendVoice
  split_ifs with hs hb
  · rfl
  · simp [isVoiceRecordingBusy, hr] at hb
  · dsimp only
    generalize (if 0 < s.voiceController.finalVoiceDuration then _ else _ : ℤ) = d
    split
    · rfl
    split_ifs with hc
    · rfl
    · dsimp only
      rw [cancelVoiceRecording_recorder, cancel_idle (by exact hr)]
      rfl

lemma Noted.emitting (h : Noted s) (ho : Owned s) (hw : Went unsaved s.voiceController.voiceRecorder out)
    (hu : unsaved → s.sendVoiceWhenReady = true → s.voiceController.activeConversationId = []) :
    Noted (s.emitting out) ∧ Owned (s.emitting out) := by
  by_cases hr : ∀ file duration, out.2 ≠ some (.recordingReady file duration)
  · exact ⟨h.emitting_unready hw hu hr, ho.emitting_unready hw hr⟩
  push Not at hr
  obtain ⟨file, duration, hr⟩ := hr
  obtain ⟨r, signal⟩ := out
  subst hr
  obtain ⟨hwf, hgoes⟩ := hw
  cases hgoes with
  | ready _ _ hs hs' hd hf =>
  have ha : s.recordsActive = true := (ho hs).resolve_left (by simp [hd])
  have hfile : Moment.started file.directory ∈ s.moments := by
    rw [hf]
    exact h.started hs
  simp only [MessagingViewModel.emitting, Option.elim_some, onSignal]
  rw [if_pos (show (s.withRecorder r).recordsActive = true from ha)]
  have hidle : ∀ {p : Prop}, (s.withRecorder r).voiceController.voiceRecorder.state ≠ .idle → p :=
    fun hb => absurd hs' hb
  unfold onVoiceRecordingReady
  dsimp only
  split_ifs with harmed
  · constructor
    · apply Noted.sendVoice
      · refine ⟨hwf, hidle, fun _ => hidle, by simp, ?_, h.sent, h.active⟩
        rintro f ⟨⟩
        exact hfile
      · exact hidle
      · rintro f ⟨⟩
        rw [hf]
        exact h.asked harmed hs
    · intro hb
      rw [sendVoice_idle (by exact hs')] at hb
      exact hidle hb
  · refine ⟨⟨hwf, hidle, fun _ => hidle, fun ha => absurd ha harmed, ?_, h.sent, h.active⟩, hidle⟩
    rintro f ⟨⟩
    exact hfile

lemma cancelVoiceRecording_unarmed (h : s.sendVoiceWhenReady = false) :
    s.cancelVoiceRecording.sendVoiceWhenReady = false := by
  unfold MessagingViewModel.cancelVoiceRecording onCanceled
  dsimp only
  split_ifs
  · rfl
  · exact h

lemma Noted.leaves (h : Noted s) (id : QString) : Noted { { s with sendVoiceWhenReady := false }.cancelVoiceRecording with
    voiceController.activeConversationId := id, activeConversationId := id } := by
  have h₁ : Noted { s with sendVoiceWhenReady := false } :=
    ⟨h.wf, h.started, by simp, by simp, h.file, h.sent, h.active⟩
  have h₂ := h₁.cancelVoiceRecording
  refine ⟨h₂.wf, h₂.started, h₂.asked, fun ha => ?_, h₂.file, h₂.sent, rfl⟩
  have hu := cancelVoiceRecording_unarmed (s := { s with sendVoiceWhenReady := false }) rfl
  exact absurd ha (by simp [hu])

lemma owned_leaves (id : QString) : Owned { { s with sendVoiceWhenReady := false }.cancelVoiceRecording with
    voiceController.activeConversationId := id, activeConversationId := id } := by
  intro hb
  dsimp only at hb ⊢
  rw [cancelVoiceRecording_recorder] at hb ⊢
  exact Or.inl (cancel_discards _ hb)

/-! ### A step -/

lemma fetchMessage_cases (h : Noted s) (user_id : QString) : s.fetchMessage user_id = s ∨
    ∃ id, s.fetchMessage user_id = { { s with sendVoiceWhenReady := false }.cancelVoiceRecording with
      voiceController.activeConversationId := id, activeConversationId := id } := by
  unfold MessagingViewModel.fetchMessage setConversation
  dsimp only
  by_cases hc : Chat.normalizedId user_id = s.activeConversationId
  · left
    rw [if_neg (not_not_intro hc), if_neg (not_not_intro (hc.trans h.active)), hc]
  · right
    refine ⟨Chat.normalizedId user_id, ?_⟩
    rw [if_pos hc, if_pos (by rw [← h.active]; exact hc)]

lemma Noted.call (h : Noted s) (ho : Owned s) (c : Call) : Noted (s.call c) ∧ Owned (s.call c) := by
  cases c with
  | pauseVoiceRecording stops preview => exact h.emitting ho (h.wf.pause stops preview) False.elim
  | resumeVoiceRecording stops =>
    simp only [MessagingViewModel.call]
    split_ifs with hp
    · exact (h.withFile (by simp)).emitting ho (h.wf.resume stops) False.elim
    · exact h.emitting ho (h.wf.resume stops) False.elim
  | stopVoiceRecording => exact ⟨h.stopVoiceRecording, ho.stopVoiceRecording h⟩
  | cancelVoiceRecording => exact ⟨h.cancelVoiceRecording, owned_cancelVoiceRecording⟩
  | sendVoice duration =>
    have hb : s.voiceController.voiceRecorder.state ≠ .idle →
        AskedSince s.voiceController.voiceRecorder.request (.asked :: s.moments) :=
      fun hb => .of_started (h.started hb)
    have ho' : Owned (s.note .asked) := ho
    exact ⟨h.asked_note.sendVoice duration hb (fun f hf => .of_started (h.file f hf)),
      ho'.sendVoice h.asked_note duration hb⟩
  | fetchMessage user_id =>
    simp only [MessagingViewModel.call]
    obtain he | ⟨id, he⟩ := fetchMessage_cases h user_id
    · rw [he]
      exact ⟨h, ho⟩
    · rw [he]
      exact ⟨h.leaves id, owned_leaves id⟩
  | resetModel => exact ⟨h.leaves [], owned_leaves []⟩

lemma start_cases (h : s.voiceController.voiceRecorder.state = .idle) (hw : s.voiceController.voiceRecorder.Wf)
    (outputDirectory : OutputDirectory) :
    (∃ r message, s.voiceController.voiceRecorder.start outputDirectory = (r, some (.errorOccurred message)) ∧
      r.state = .idle ∧ r.session = none) ∨
    ∃ r, s.voiceController.voiceRecorder.start outputDirectory = (r, none) ∧ r.state = .starting ∧
      r.session = none := by
  have hs : s.voiceController.voiceRecorder.session = none := hw.session_none h
  unfold VoiceRecorder.start
  simp only [h, ne_eq, not_true_eq_false, if_false]
  cases outputDirectory with
  | remote => exact Or.inl ⟨_, _, by simp only [fail, hs]; rfl, rfl, by simp⟩
  | notWritable => exact Or.inl ⟨_, _, by simp only [fail, hs]; rfl, rfl, by simp⟩
  | writable => exact Or.inr ⟨_, rfl, rfl, hs⟩

lemma Noted.calls (h : Noted s) (ho : Owned s) (cs : List Call) :
    Noted (cs.foldl MessagingViewModel.call s) ∧ Owned (cs.foldl MessagingViewModel.call s) := by
  induction cs generalizing s with
  | nil => exact ⟨h, ho⟩
  | cons c cs ih =>
    obtain ⟨h', ho'⟩ := h.call ho c
    exact ih h' ho'

lemma Noted.startVoiceRecording (h : Noted s) (ho : Owned s) (outputDirectory : OutputDirectory)
    (answers : List Call) (permission : Permission)
    (hu : StartsUnarmed s (.startVoiceRecording outputDirectory answers permission)) :
    Noted (s.startVoiceRecording outputDirectory answers permission) ∧
      Owned (s.startVoiceRecording outputDirectory answers permission) := by
  unfold MessagingViewModel.startVoiceRecording
  split_ifs with hb ha
  · exact ⟨h, ho⟩
  · exact ⟨h.ended, ho⟩
  have hidle : s.voiceController.voiceRecorder.state = .idle := by simpa [isVoiceRecordingBusy] using hb
  have harmed : s.sendVoiceWhenReady = false := hu (by simpa using hb) ha
  have hp : Noted s.prepared := ⟨h.wf, h.started, h.asked, h.rests, by simp [prepared], h.sent, h.active⟩
  obtain ⟨r, message, he, hr, hn⟩ | ⟨r, he, hr, hn⟩ := start_cases hidle h.wf outputDirectory
  · have hs : s.prepared.emitting (r, some (.errorOccurred message)) =
      (s.prepared.withRecorder r).onVoiceRecordingEnded := rfl
    have hrest : (s.prepared.withRecorder r).onVoiceRecordingEnded.voiceController.voiceRecorder = r := rfl
    rw [he, hs]
    dsimp only
    rw [hrest, hr]
    simp only [reduceCtorEq, if_false]
    exact ⟨hp.atRest (wf_rest hn) hr, fun hb => absurd hr hb⟩
  · have hs : s.prepared.emitting (r, none) = s.prepared.withRecorder r := rfl
    have hstart : (s.prepared.withRecorder r).voiceController.voiceRecorder = r := rfl
    rw [he, hs]
    dsimp only
    rw [hstart, if_pos hr]
    have h₁ : Noted ((s.prepared.withRecorder r).note (.started r.request)) := by
      refine ⟨wf_rest hn, fun _ => List.mem_cons_self, fun hs => ?_, fun hs => ?_, by simp [note, withRecorder, prepared],
        h.sent.cons (by simp), h.active⟩
      · exact absurd (show s.sendVoiceWhenReady = true from hs) (by simp [harmed])
      · exact absurd (show s.sendVoiceWhenReady = true from hs) (by simp [harmed])
    have ho₁ : Owned ((s.prepared.withRecorder r).note (.started r.request)) := by
      intro _
      right
      simpa [recordsActive, note, withRecorder, prepared] using ha
    obtain ⟨h₂, ho₂⟩ := h₁.calls ho₁ answers
    exact h₂.emitting ho₂ (h₂.wf.checkPermission r.request permission) False.elim

lemma Noted.unarmed (h : Noted s) (e : Event) : StartsUnarmed s e := by
  cases e with
  | startVoiceRecording outputDirectory answers permission =>
    intro hb hc
    have hidle : s.voiceController.voiceRecorder.state = .idle := by simpa [isVoiceRecordingBusy] using hb
    by_contra ha
    exact hc (h.rests (by simpa using ha) hidle)
  | _ => trivial

lemma rests_of_not_waits {p : Prop} (h : ¬(WaitsInVain s ∧ p))
    (hu : s.voiceController.voiceRecorder.error ≠ [] ∧ p) (ha : s.sendVoiceWhenReady = true) :
    s.voiceController.activeConversationId = [] := by
  by_contra hc
  exact h ⟨⟨ha, hc, hu.1⟩, hu.2⟩

lemma Noted.step (h : Noted s) (ho : Owned s) {e : Event} (he : EndsAnnounced s e) :
    Noted (s.step e) ∧ Owned (s.step e) := by
  cases e with
  | startVoiceRecording outputDirectory answers permission =>
    exact h.startVoiceRecording ho outputDirectory answers permission (h.unarmed _)
  | call c => exact h.call ho c
  | permission request granted => exact h.emitting ho (h.wf.onPermission request granted) False.elim
  | sourceError => exact h.emitting ho h.wf.onSourceError False.elim
  | writeData captured => exact h.emitting ho (h.wf.writeData captured) False.elim
  | durationTimeout => exact h.emitting ho h.wf.onDurationTimeout False.elim
  | finishTimeout encode => exact h.emitting ho (h.wf.onFinishTimeout encode) (rests_of_not_waits he)
  | encodingFinished error => exact h.emitting ho (h.wf.onEncodingFinished error) (rests_of_not_waits he)

lemma starts_armed {e : Event} (he : ¬EndsAnnounced s e) :
    ¬StartsUnarmed (s.step e) (.startVoiceRecording .writable [] .undetermined) := by
  have key : ∀ {out : VoiceRecorder × Option Signal}, WaitsInVain s → out.1.state = .idle → out.2 = none →
      ¬StartsUnarmed (s.emitting out) (.startVoiceRecording .writable [] .undetermined) := by
    rintro ⟨r, signal⟩ hw hr rfl hn
    have hb : (s.withRecorder r).isVoiceRecordingBusy = false := by
      simpa [isVoiceRecordingBusy, withRecorder] using hr
    have ha : s.sendVoiceWhenReady = false := hn hb hw.2.1
    simp [hw.1] at ha
  cases e with
  | finishTimeout encode =>
    obtain ⟨hw, hu⟩ := not_not.mp he
    obtain ⟨hr, hn⟩ := onFinishTimeout_silent hw.2.2 hu
    exact key hw hr hn
  | encodingFinished error =>
    obtain ⟨hw, hu⟩ := not_not.mp he
    obtain ⟨hr, hn⟩ := onEncodingFinished_silent hw.2.2 hu
    exact key hw hr hn
  | _ => exact absurd trivial he

end

def initial : MessagingViewModel := {}

lemma noted_initial : Noted initial :=
  ⟨wf_rest rfl, by simp [initial], by simp [initial], by simp [initial], by simp [initial],
    by intro later; simp [initial], rfl⟩

/-- As long as each recording that is waited for ends saved or announced, recordings start unarmed and are
handed on request; where one ends otherwise the next starts armed. -/
theorem sent_on_request {es : List Event} (h : Each step EndsAnnounced initial es) :
    Each step OnRequest initial es ∧ ∀ e, ¬EndsAnnounced (after step initial es) e →
      ∃ rest, ¬Each step OnRequest initial (es ++ e :: rest) := by
  have h₀ : Noted initial ∧ Owned initial := ⟨noted_initial, fun hb => absurd rfl hb⟩
  constructor
  · refine h.imp (I := fun s => Noted s ∧ Owned s) h₀ (fun s e hs he => hs.1.step hs.2 he) (fun s e hs he => ?_)
    exact ⟨hs.1.unarmed e, (hs.1.step hs.2 he).1.sent⟩
  · intro e he
    refine ⟨[.startVoiceRecording .writable [] .undetermined], fun hall => ?_⟩
    obtain ⟨-, -, hstart, -⟩ := each_append.mp hall
    exact starts_armed he hstart.1

def recorded (preview : Encode) : List Event :=
  [.call (.fetchMessage (ofAscii "peer")), .startVoiceRecording .writable [] (.granted .captures),
    .writeData 2000, .call (.pauseVoiceRecording false preview), .call (.sendVoice 0)]

theorem sent_on_request_sample :
    Each step OnRequest initial (recorded .started ++ [.finishTimeout .started, .encodingFinished []]) := by
  have h : Each step EndsAnnounced initial
      (recorded .started ++ [.finishTimeout .started, .encodingFinished []]) := by
    refine ⟨trivial, trivial, trivial, trivial, trivial, ?_, ?_, trivial⟩
    · rintro ⟨hw, -⟩
      exact absurd rfl hw.2.2
    · rintro ⟨hw, -⟩
      exact absurd rfl hw.2.2
  exact (sent_on_request h).1

def unasked : List Event :=
  recorded (.refused (ofAscii "no audio")) ++ [.finishTimeout (.refused (ofAscii "no audio")),
    .startVoiceRecording .writable [] (.granted .captures), .writeData 3000, .call .stopVoiceRecording,
    .finishTimeout .started]

theorem sent_without_request : ¬Each step OnRequest initial (unasked ++ [.encodingFinished []]) := by
  intro h
  have hsent := (each_append.mp h).2.1.2
  have hm : ((after step initial unasked).step (.encodingFinished [])).moments =
      [.handed (ofAscii "peer") ⟨2, none⟩ 3000, .started 2, .asked, .started 1] := by decide
  obtain ⟨later, earlier, he, ha⟩ := hsent [] _ _ _ _ hm
  cases later with
  | nil => cases ha
  | cons m later =>
    have hmem : Moment.started 2 ∈ [Moment.asked, .started 1] := by
      rw [(List.cons.inj he).2]
      simp
    simp at hmem

end ChatDesktop.Voice
