import ChatDesktop.Media.PlaybackSteps

namespace ChatDesktop.Media

open Library Library.Reactive Network Chat

section

variable {r r' : MediaRepository} {pending path path' message m : QString} {i : ℕ} {p : PendingDownload}
  {requested requested' : QString → Prop} {rows : Hash QString FileDownloadState} {now : Outside}
  {absoluteFilePath : QString → QString} {c : VoiceMessageController} {s : MessagingViewModel} {signal : Signal}

/-! ### Calls of the controller -/

def AudioPlayer.plays (player : AudioPlayer) : ℕ := player.calls.count .play

lemma plays_tell (player : AudioPlayer) (call : PlayerCall) (hc : call ≠ .play) :
    (player.tell call).plays = player.plays := by
  unfold AudioPlayer.plays AudioPlayer.tell
  rw [List.count_append, List.count_singleton, if_neg (by simpa using hc), Nat.add_zero]

lemma plays_stop (player : AudioPlayer) : player.stop.plays = player.plays :=
  (plays_tell (player.tell .stop) (.setPosition 0) nofun).trans (plays_tell player .stop nofun)

lemma plays_setSource (now : Outside) (source : AudioUrl) (player : AudioPlayer) :
    (player.setSource now source).plays = player.plays := by
  have hload : ∀ (player : AudioPlayer) source, (player.load source).plays = player.plays :=
    fun player source => plays_tell { player with source := source } (.setSource source) nofun
  have hstopped : AudioPlayer.plays { player.stop.load .empty with cachedAudio := [] } = player.plays :=
    (hload player.stop .empty).trans (plays_stop player)
  unfold AudioPlayer.setSource
  split
  · rfl
  · dsimp only
    split
    · rename_i path
      split
      · unfold AudioPlayer.loadCached
        dsimp only
        split
        · exact hstopped
        · exact (plays_tell _ (.setSourceDevice _ _) nofun).trans hstopped
      · exact (hload _ _).trans hstopped
    · exact (hload _ _).trans hstopped

lemma source_setSource_empty (now : Outside) (player : AudioPlayer) : (player.setSource now .empty).source = .empty := by
  obtain he | he := source_setSource now .empty player
  · exact he
  · exact he

lemma Tuned.control (ht : Tuned absoluteFilePath s) {f : VoiceMessageController → VoiceMessageController}
    (hp : (f s.voiceController).pendingVoiceMessage = s.voiceController.pendingVoiceMessage)
    (ha : (f s.voiceController).asked = s.voiceController.asked)
    (hplaying : Playing absoluteFilePath (f s.voiceController)) : Tuned absoluteFilePath (s.control f) := by
  refine ⟨?_, hplaying, fun r hr => ?_, ?_, ht.rows⟩
  · change genericFile (f s.voiceController).pendingVoiceMessage = false
    rw [hp]
    exact ht.plain
  · change Waiting (f s.voiceController).pendingVoiceMessage (askedPath (f s.voiceController).asked) r
    rw [hp, ha]
    exact ht.waiting r hr
  · change (f s.voiceController).pendingVoiceMessage ≠ [] →
      ∃ r, s.mediaRepository = some r ∧ r.Requested (f s.voiceController).pendingVoiceMessage
    rw [hp]
    exact ht.requested

lemma Tuned.withPlayer (ht : Tuned absoluteFilePath s) {f : AudioPlayer → AudioPlayer}
    (hf : ∀ player, (f player).source = player.source ∨ (f player).source = .empty) :
    Tuned absoluteFilePath (s.withPlayer f) := by
  refine ht.control rfl rfl ⟨?_, ht.playing.pending⟩
  change (f s.voiceController.messagePlayback).source = _ ∨ ∃ now, _ ∧ (f s.voiceController.messagePlayback).source = _
  obtain he | he := hf s.voiceController.messagePlayback
  · rw [he]
    exact ht.playing.source
  · exact Or.inl he

lemma Tuned.withPreview (ht : Tuned absoluteFilePath s) (f : AudioPlayer → AudioPlayer) :
    Tuned absoluteFilePath (s.withPreview f) := ht.control rfl rfl ⟨ht.playing.source, ht.playing.pending⟩

lemma Tuned.setIsInPlay (ht : Tuned absoluteFilePath s) (value : Bool) :
    Tuned absoluteFilePath (s.control (·.setIsInPlay value)) := ht.control rfl rfl ⟨ht.playing.source, ht.playing.pending⟩

structure Stopped (absoluteFilePath : QString → QString) (s : MessagingViewModel) : Prop where
  tuned : Tuned absoluteFilePath s
  pending : s.voiceController.pendingVoiceMessage = []

lemma Tuned.stopCurrentAudio (ht : Tuned absoluteFilePath s) (now : Outside) :
    Stopped absoluteFilePath (s.stopCurrentAudio absoluteFilePath now) := by
  have hplaying : Playing absoluteFilePath { s.voiceController with pendingVoiceMessage := [] } :=
    ⟨ht.playing.source, fun hne => absurd rfl hne⟩
  have hstop : ∀ {s' : MessagingViewModel}, Tuned absoluteFilePath s' →
      s'.voiceController = { s.voiceController with pendingVoiceMessage := [] } →
      Stopped absoluteFilePath (s'.withPlayer AudioPlayer.stop) := by
    intro s' ht' hc
    refine ⟨ht'.withPlayer fun player => Or.inl rfl, ?_⟩
    change s'.voiceController.pendingVoiceMessage = []
    rw [hc]
  unfold MessagingViewModel.stopCurrentAudio
  dsimp only
  split
  · rename_i hempty
    have hnone : s.voiceController.pendingVoiceMessage = [] := List.isEmpty_iff.mp hempty
    exact hstop (ht.control hnone.symm rfl hplaying) rfl
  · rename_i hne
    have hwaits : s.voiceController.pendingVoiceMessage ≠ [] := fun hnone => hne (List.isEmpty_iff.mpr hnone)
    obtain ⟨r, hr, -⟩ := ht.requested hwaits
    have hw := (ht.waiting r hr).quiet
    have hcancelled := hw.cancel s.voiceController.pendingVoiceMessage
    rw [if_pos rfl] at hcancelled
    have hrows : Shows (MediaRepository.cancelDownload s.voiceController.pendingVoiceMessage
        { r with log := [] }).Requested s.fileDownloads := by
      refine (ht.shows hr).mono fun id hid => (requested_cancel hw _ hid).resolve_right fun he => ?_
      have hplain := ht.plain
      rw [← he, genericFile_filePrefix] at hplain
      cases hplain
    rw [withRepository_some (s.control fun c => { c with pendingVoiceMessage := [] }) hr, log_cancelDownload]
    refine hstop ⟨rfl, hplaying, fun r' he => ?_, fun hsome => absurd rfl hsome,
      hrows.mono fun id hid => ⟨_, rfl, hid⟩⟩ rfl
    obtain rfl := Option.some.inj he
    exact hcancelled

lemma downloadFile_voice (hn : m ≠ []) (hg : genericFile m = false) (hm : r.messages.find? m = none)
    (now : Surroundings) (url : QUrl) : r.downloadFile now m url =
      if !url.downloadable then r.emit (.downloadFailed m (key "Invalid file download URL."))
      else if now.exists? (MediaRepository.voicePath now m url) then
        r.emit (.downloadCompleted m (MediaRepository.voicePath now m url))
      else match now.temporary with
        | none => r.emit (.downloadFailed m (key "Unable to prepare media download."))
        | some path => r.start ⟨m, url, path, (now.currentUser.map normalizedId).getD [],
            MediaRepository.voicePath now m url, true⟩ := by
  have hempty : m.isEmpty = false := by simpa using hn
  have hunderway : r.underway m url = false := by
    unfold MediaRepository.underway
    rw [hm]
  unfold MediaRepository.downloadFile
  dsimp only
  rw [hempty, hunderway, hg, MediaRepository.cancelDownload_missing hm]
  rfl

lemma Tuned.requestVoice (ht : Tuned absoluteFilePath s) (now : Outside) {source : AudioUrl}
    (hnone : s.voiceController.pendingVoiceMessage = []) (hr : s.mediaRepository = some r)
    (hasked : s.voiceController.asked = some (now, source)) (hsource : s.voiceController.voicePlaybackSource = source)
    (hremote : ∀ path, source ≠ .localFile path)
    (hn : voiceKey now source.toUrl ≠ []) (hg : genericFile (voiceKey now source.toUrl) = false) :
    Tuned absoluteFilePath ((s.control (fun c => { c with pendingVoiceMessage := voiceKey now source.toUrl
      })).withRepository absoluteFilePath now
        (·.downloadFile now.toSurroundings (voiceKey now source.toUrl) source.toUrl)) := by
  have hwaiting := (ht.waiting r hr).quiet
  rw [hnone] at hwaiting
  have hpath : askedPath s.voiceController.asked =
      MediaRepository.voicePath now.toSurroundings (voiceKey now source.toUrl) source.toUrl := by
    rw [hasked]
    rfl
  have hfile : askedFile absoluteFilePath (now, source) = .localFile (absoluteFilePath
      (askedPath s.voiceController.asked)) := by
    rw [hpath]
    cases source with
    | empty => rfl
    | localFile path => exact absurd rfl (hremote path)
    | remote url => rfl
  have hplaying : Playing absoluteFilePath
      { s.voiceController with pendingVoiceMessage := voiceKey now source.toUrl } := by
    refine ⟨ht.playing.source, fun _ => ⟨now, ?_, ?_⟩⟩
    · change s.voiceController.asked = some (now, s.voiceController.voicePlaybackSource)
      rw [hsource]
      exact hasked
    · change askedFile absoluteFilePath (now, s.voiceController.voicePlaybackSource) = _
      rw [hsource]
      exact hfile
  have hrows : Shows r.Requested s.fileDownloads := ht.shows hr
  rw [withRepository_some (s.control fun c => { c with pendingVoiceMessage := voiceKey now source.toUrl }) hr,
    @downloadFile_voice { r with log := [] } _ hn hg (hwaiting.unmapped hg)]
  rw [← hpath]
  generalize voiceKey now source.toUrl = message at hn hg hplaying ⊢
  -- What is answered at once is answered by one signal.
  have hended : ∀ signal : Signal, signal.answers = true → signal.request = message →
      (∀ path, signal = .downloadCompleted message path → path = askedPath s.voiceController.asked) →
      Tuned absoluteFilePath (MessagingViewModel.heard absoluteFilePath now
        { s with
          voiceController := { s.voiceController with pendingVoiceMessage := message }
          mediaRepository := some (MediaRepository.emit { r with log := [] } signal) } signal) := by
    intro signal ha hs hp
    have hemitted : Waiting [] (askedPath s.voiceController.asked) (MediaRepository.emit { r with log := [] } signal) :=
      hwaiting.congr rfl rfl rfl fun _ => Or.inl
    have hanswered : Shows (MediaRepository.emit { r with log := [] } signal).Requested
        (heardByRows now s.fileDownloads signal) := Shows.answer (hrows.mono fun _ => Or.inl) ha
    exact Playing.ended (s := { s with
      voiceController := { s.voiceController with pendingVoiceMessage := message } }) hplaying now signal hn ha hs hp
      hemitted hanswered
  split_ifs
  · exact hended _ rfl rfl nofun
  · refine hended _ rfl rfl fun path he => ?_
    exact (Signal.downloadCompleted.inj he).2.symm
  · split
    · exact hended _ rfl rfl nofun
    · rename_i path _
      obtain ⟨hstarted, hkept, hcases⟩ := (hwaiting.cleared : Waiting message (askedPath s.voiceController.asked)
        { r with log := [] }).start (p := ⟨message, source.toUrl, path, (now.currentUser.map normalizedId).getD [],
          askedPath s.voiceController.asked, true⟩) hn fun _ => ⟨rfl, rfl, rfl, hwaiting.unmapped hg⟩
      obtain ⟨error, he⟩ | ⟨hrequested, he⟩ := hcases
      · rw [he]
        exact hended (.downloadFailed message error) rfl rfl nofun
      · rw [he]
        have hshown : Shows (MediaRepository.start ⟨message, source.toUrl, path,
            (now.currentUser.map normalizedId).getD [], askedPath s.voiceController.asked, true⟩
              { r with log := [] }).Requested (heardByRows now s.fileDownloads (.downloadStarted message)) := by
          refine Shows.started (hrows.mono fun id hid => hkept _ hid) fun hgeneric => ?_
          rw [hg] at hgeneric
          cases hgeneric
        refine ⟨hg, hplaying, fun r' hr' => ?_, fun _ => ⟨_, rfl, hrequested⟩, hshown.mono fun id hid => ⟨_, rfl, hid⟩⟩
        obtain rfl := Option.some.inj hr'
        exact hstarted

/-- What may be asked for: its download has a name, which is not that of a file's. -/
def MediaEvent.Plain : Outside × MediaEvent → Prop
  | (now, .playVoice (.remote url) _) => voiceKey now url ≠ [] ∧ genericFile (voiceKey now url) = false
  | _ => True

def MediaEvent.starts : MediaEvent → Bool
  | .playVoice _ _ => true
  | .resumeVoice => true
  | _ => false

def MediaEvent.stops : MediaEvent → Bool
  | .stopVoicePlayback => true
  | .playVoicePreview => true
  | .startVoiceRecording => true
  | .reset => true
  | _ => false

lemma Tuned.askFor (ht : Tuned absoluteFilePath s) {now : Outside} {source : AudioUrl} (messageId : QString)
    (hp : MediaEvent.Plain (now, .playVoice source messageId)) (hne : source.isEmpty = false) :
    Tuned absoluteFilePath (s.askFor absoluteFilePath now source messageId) := by
  have hstopped := ht.stopCurrentAudio now
  have hempty := hstopped.tuned.withPlayer (f := (·.setSource now .empty))
    fun player => Or.inr (source_setSource_empty now player)
  have hnone : ((s.stopCurrentAudio absoluteFilePath now).withPlayer
    (·.setSource now .empty)).voiceController.pendingVoiceMessage = [] := hstopped.pending
  have hsilent : ((s.stopCurrentAudio absoluteFilePath now).withPlayer
      (·.setSource now .empty)).voiceController.messagePlayback.source = .empty := source_setSource_empty now _
  unfold MessagingViewModel.askFor
  dsimp only
  generalize (s.stopCurrentAudio absoluteFilePath now).withPlayer (·.setSource now .empty) = stopped
    at hempty hnone hsilent ⊢
  have hasked : Tuned absoluteFilePath (stopped.control fun c => { c with
      voicePlaybackSource := source
      voicePlaybackMessageId := messageId
      voiceDownloadError := []
      asked := some (now, source) }) := by
    refine ⟨hempty.plain, ⟨Or.inl hsilent, fun hne => absurd hnone hne⟩, fun r hr => ?_, hempty.requested, hempty.rows⟩
    have hw := hempty.waiting r hr
    rw [hnone] at hw
    change Waiting stopped.voiceController.pendingVoiceMessage _ r
    rw [hnone]
    exact hw.cleared
  refine Tuned.setIsInPlay ?_ true
  split
  · rename_i path
    exact hasked.control rfl rfl (hasked.playing.start rfl rfl)
  · rename_i hremote
    split
    · exact hasked.control rfl rfl ⟨hasked.playing.source, hasked.playing.pending⟩
    · rename_i hr
      cases source with
      | empty => cases hne
      | localFile path => exact absurd rfl (hremote path)
      | remote url => exact hasked.requestVoice now hnone hr rfl rfl hremote hp.1 hp.2

lemma source_togglePlayback (playing : Bool) (player : AudioPlayer) :
    (player.togglePlayback playing).source = player.source := by
  unfold AudioPlayer.togglePlayback
  split
  · rfl
  · exact source_play player

lemma source_setPosition (now : Outside) (position : ℤ) (player : AudioPlayer) :
    (player.setPosition now position).source = player.source := by
  unfold AudioPlayer.setPosition
  split
  · rfl
  · rfl

lemma Tuned.playVoice (ht : Tuned absoluteFilePath s) {now : Outside} {source : AudioUrl} {messageId : QString}
    (hp : MediaEvent.Plain (now, .playVoice source messageId)) :
    Tuned absoluteFilePath (s.playVoice absoluteFilePath now source messageId) := by
  unfold MessagingViewModel.playVoice
  split
  · exact ht
  · rename_i hne
    have hpreview := ht.withPreview AudioPlayer.stop
    dsimp only
    generalize (if messageId ≠ [] then _ else _ : Bool) = sameMessage
    split
    · exact hpreview
    · split
      · exact (hpreview.setIsInPlay true).withPlayer fun player => Or.inl (source_togglePlayback _ player)
      · exact hpreview.askFor messageId hp ((Bool.not_eq_true _).mp hne)

lemma Tuned.stopVoicePlayback (ht : Tuned absoluteFilePath s) (now : Outside) :
    Stopped absoluteFilePath (s.stopVoicePlayback absoluteFilePath now) := by
  have hstopped := ht.stopCurrentAudio now
  exact ⟨hstopped.tuned.setIsInPlay false, hstopped.pending⟩

lemma Tuned.reset (ht : Tuned absoluteFilePath s) (now : Outside) :
    Tuned absoluteFilePath (s.reset absoluteFilePath now) := by
  have hstopped := ht.stopVoicePlayback now
  unfold MessagingViewModel.reset
  dsimp only
  generalize s.stopVoicePlayback absoluteFilePath now = stopped at hstopped ⊢
  have hsilent := source_setSource_empty now stopped.voiceController.messagePlayback
  have hnone := hstopped.pending
  exact ⟨hstopped.tuned.plain, ⟨Or.inl hsilent, fun hne => absurd hnone hne⟩, hstopped.tuned.waiting,
    hstopped.tuned.requested, hstopped.tuned.rows⟩

/-! ### Runs -/

lemma Tuned.step (ht : Tuned absoluteFilePath s) (e : Outside × MediaEvent) (hp : MediaEvent.Plain e) :
    Tuned absoluteFilePath (mediaStep absoluteFilePath s e) := by
  obtain ⟨now, e⟩ := e
  cases e with
  | playVoice source messageId => exact ht.playVoice hp
  | pauseVoice =>
    change Tuned absoluteFilePath (if s.voiceController.messagePlayback.source.isEmpty then s else _)
    split
    · exact ht
    · exact ht.withPlayer fun player => Or.inl rfl
  | resumeVoice =>
    change Tuned absoluteFilePath (if s.voiceController.messagePlayback.source.isEmpty then s else _)
    split
    · exact ht
    · exact ht.withPlayer fun player => Or.inl (source_togglePlayback _ player)
  | seekVoice position => exact ht.withPlayer fun player => Or.inl (source_setPosition now position player)
  | stopVoicePlayback => exact (ht.stopVoicePlayback now).tuned
  | cancelVoicePlayback =>
    have hstopped : Tuned absoluteFilePath (s.withPlayer AudioPlayer.stop) := ht.withPlayer fun player => Or.inl rfl
    exact hstopped.setIsInPlay false
  | playVoicePreview => exact (ht.stopVoicePlayback now).tuned.withPreview _
  | seekVoicePreview position => exact ht.withPreview _
  | stopVoicePreview => exact ht.withPreview _
  | startVoiceRecording => exact (ht.stopVoicePlayback now).tuned
  | reset => exact ht.reset now
  | downloadFile messageId contentIndex found => exact ht.downloadFile now messageId contentIndex found
  | cancelFileDownload messageId contentIndex => exact ht.cancelFileDownload now messageId contentIndex
  | voiceRecordingFileChanged file => exact ht.withPreview _
  | mediaStatusChanged endOfMedia =>
    cases endOfMedia with
    | true => exact ht.control rfl rfl ⟨ht.playing.source, ht.playing.pending⟩
    | false => exact ht.control rfl rfl ⟨ht.playing.source, ht.playing.pending⟩
  | answered chosen => exact ht.answered now chosen
  | progress request received total => exact ht.progressChanged now request received total
  | completed request path => exact ht.completedChanged now request path
  | failed request error => exact ht.failedChanged now request error

structure Silent (plays : ℕ) (s : MessagingViewModel) : Prop where
  pending : s.voiceController.pendingVoiceMessage = []
  plays : s.voiceController.messagePlayback.plays = plays

def Signal.Named (signal : Signal) : Prop := ∀ path, signal ≠ .downloadCompleted [] path

variable {plays : ℕ}

lemma Silent.heard (hs : Silent plays s) (hn : signal.Named) : Silent plays (s.heard absoluteFilePath now signal) := by
  cases signal with
  | downloadCompleted message path =>
    have hmessage : message ≠ s.voiceController.pendingVoiceMessage := by
      rw [hs.pending]
      rintro rfl
      exact hn path rfl
    have hsame : s.voiceController.heard absoluteFilePath now (.downloadCompleted message path) = s.voiceController :=
      if_pos hmessage
    exact ⟨(congrArg _ hsame).trans hs.pending, (congrArg (fun c => c.messagePlayback.plays) hsame).trans hs.plays⟩
  | downloadFailed message error =>
    by_cases hm : message = s.voiceController.pendingVoiceMessage
    · have hfailed : s.voiceController.heard absoluteFilePath now (.downloadFailed message error) =
          { s.voiceController with pendingVoiceMessage := [], voiceDownloadError := error } := if_pos hm
      exact ⟨congrArg _ hfailed, (congrArg (fun c => c.messagePlayback.plays) hfailed).trans hs.plays⟩
    · have hsame : s.voiceController.heard absoluteFilePath now (.downloadFailed message error) = s.voiceController :=
        if_neg hm
      exact ⟨(congrArg _ hsame).trans hs.pending, (congrArg (fun c => c.messagePlayback.plays) hsame).trans hs.plays⟩
  | downloadStarted message => exact ⟨hs.pending, hs.plays⟩
  | downloadProgress message received total => exact ⟨hs.pending, hs.plays⟩
  | asked suggestion => exact ⟨hs.pending, hs.plays⟩

def Names (act : MediaRepository → MediaRepository) : Prop :=
  ∀ r, ∀ signal ∈ (act r).log, signal ∈ r.log ∨ signal.Named

lemma Silent.withRepository (hs : Silent plays s) {act : MediaRepository → MediaRepository} (hact : Names act) :
    Silent plays (s.withRepository absoluteFilePath now act) := by
  have hfold : ∀ (l : List Signal) (s : MessagingViewModel), Silent plays s → (∀ signal ∈ l, signal.Named) →
      Silent plays (l.foldl (MessagingViewModel.heard absoluteFilePath now) s) := by
    intro l
    induction l with
    | nil => exact fun s hs _ => hs
    | cons signal l ih =>
      intro s hs hl
      exact ih _ (hs.heard (hl signal List.mem_cons_self)) fun other ho => hl other (List.mem_cons_of_mem _ ho)
  unfold MessagingViewModel.withRepository
  split
  · exact hs
  · exact hfold _ _ ⟨hs.pending, hs.plays⟩ fun signal hmem => (hact _ signal hmem).resolve_left List.not_mem_nil

lemma mem_emit {other : Signal} (h : other ∈ (r.emit signal).log) : other ∈ r.log ∨ other = signal :=
  (List.mem_append.mp h).imp_right List.mem_singleton.mp

lemma names_emit (h : signal.Named) : ∀ other ∈ (r.emit signal).log, other ∈ r.log ∨ other.Named :=
  fun _ ho => (mem_emit ho).imp_right fun he => by rwa [he]

lemma log_takeMessage (r : MediaRepository) (i : ℕ) : (r.takeMessage i).2.log = r.log := by
  unfold MediaRepository.takeMessage
  split
  · rfl
  · rfl

lemma names_cancelDownload (m : QString) : Names (·.cancelDownload m) := fun r signal hs => by
  rw [log_cancelDownload] at hs
  exact .inl hs

lemma names_start (p : PendingDownload) : Names (·.start p) := fun r => by
  unfold MediaRepository.start
  split
  · exact names_emit nofun
  · exact names_emit nofun

lemma names_progressChanged (request : ℕ) (received total : Int64) :
    Names (·.progressChanged request received total) := fun r => by
  unfold MediaRepository.progressChanged
  dsimp only
  split
  · exact fun _ => .inl
  · exact names_emit nofun

lemma named_completed (hm : m ≠ []) (path : QString) : (Signal.downloadCompleted m path).Named := by
  rintro path' ⟨⟩
  exact hm rfl

lemma names_completedChanged (now : Surroundings) (request : ℕ) (path : QString) :
    Names (·.completedChanged now request path) := fun r => by
  have hlog := log_takeMessage r request
  unfold MediaRepository.completedChanged
  dsimp only
  generalize r.takeMessage request = taken at hlog ⊢
  rw [← hlog]
  split
  · exact fun _ => .inl
  · split_ifs with hempty
    · exact fun _ => .inl
    · exact names_emit nofun
    · exact names_emit (named_completed (by simpa using hempty) _)
    · exact names_emit (named_completed (by simpa using hempty) _)

lemma names_failedChanged (request : ℕ) (error : QString) : Names (·.failedChanged request error) := fun r => by
  have hlog := log_takeMessage r request
  unfold MediaRepository.failedChanged
  dsimp only
  rw [← hlog]
  split_ifs
  · exact fun _ => .inl
  · exact names_emit nofun

lemma names_answered (now : Surroundings) (chosen : QString) : Names (·.answered now chosen) := fun r => by
  dsimp only
  by_cases hd : r.dialogs = []
  · rw [answered_nil hd]
    exact fun _ => .inl
  · obtain ⟨asking, dialogs, hd⟩ := List.exists_cons_of_ne_nil hd
    rw [answered_cons hd]
    split_ifs
    · exact fun _ => .inl
    · exact names_emit nofun
    · exact names_emit nofun
    · exact names_start _ { r with dialogs := dialogs }

lemma names_downloadFile (now : Surroundings) (m : QString) (url : QUrl) : Names (·.downloadFile now m url) := fun r => by
  have hlog := log_cancelDownload r m
  unfold MediaRepository.downloadFile
  dsimp only
  generalize r.cancelDownload m = cancelled at hlog ⊢
  rw [← hlog]
  by_cases hinvalid : (m.isEmpty || !url.downloadable) = true
  · rw [if_pos hinvalid, hlog]
    exact names_emit nofun
  · have hm : m ≠ [] := by
      rintro rfl
      exact hinvalid rfl
    rw [if_neg hinvalid]
    split_ifs
    · rw [hlog]
      exact fun _ => .inl
    · have hstarted : (Signal.downloadStarted m).Named := nofun
      intro signal hs
      obtain hs | rfl := mem_emit hs
      · exact names_emit hstarted signal hs
      · exact .inr (named_completed hm _)
    · exact names_emit nofun
    · exact names_emit (named_completed hm _)
    · split
      · exact names_emit nofun
      · exact names_start _ cancelled

lemma silent_stopCurrentAudio (now : Outside) (s : MessagingViewModel) :
    Silent s.voiceController.messagePlayback.plays (s.stopCurrentAudio absoluteFilePath now) := by
  have hcleared : Silent s.voiceController.messagePlayback.plays
      (s.control fun c => { c with pendingVoiceMessage := [] }) := ⟨rfl, rfl⟩
  have hstop : ∀ {s' : MessagingViewModel}, Silent s.voiceController.messagePlayback.plays s' →
      Silent s.voiceController.messagePlayback.plays (s'.withPlayer AudioPlayer.stop) :=
    fun h => ⟨h.pending, (plays_stop _).trans h.plays⟩
  unfold MessagingViewModel.stopCurrentAudio
  dsimp only
  split
  · exact hstop hcleared
  · exact hstop (hcleared.withRepository (names_cancelDownload _))

lemma silent_stopVoicePlayback (now : Outside) (s : MessagingViewModel) :
    Silent s.voiceController.messagePlayback.plays (s.stopVoicePlayback absoluteFilePath now) := by
  have hstopped : Silent _ (s.stopCurrentAudio absoluteFilePath now) := silent_stopCurrentAudio now s
  exact ⟨hstopped.pending, hstopped.plays⟩

lemma plays_setPosition (now : Outside) (position : ℤ) (player : AudioPlayer) :
    (player.setPosition now position).plays = player.plays := by
  unfold AudioPlayer.setPosition
  split
  · exact plays_tell player _ nofun
  · rfl

lemma silent_stops {e : Outside × MediaEvent} (he : e.2.stops = true) (s : MessagingViewModel) :
    Silent s.voiceController.messagePlayback.plays (mediaStep absoluteFilePath s e) := by
  obtain ⟨now, e⟩ := e
  have hstopped : Silent _ (s.stopVoicePlayback absoluteFilePath now) := silent_stopVoicePlayback now s
  cases e with
  | stopVoicePlayback => exact hstopped
  | startVoiceRecording => exact hstopped
  | playVoicePreview => exact ⟨hstopped.pending, hstopped.plays⟩
  | reset => exact ⟨hstopped.pending, (plays_setSource now .empty _).trans hstopped.plays⟩
  | _ => cases he

lemma Silent.step (hs : Silent plays s) (e : Outside × MediaEvent) (he : e.2.starts = false) :
    Silent plays (mediaStep absoluteFilePath s e) := by
  by_cases hstops : e.2.stops = true
  · rw [← hs.plays]
    exact silent_stops hstops s
  obtain ⟨now, e⟩ := e
  cases e with
  | playVoice source messageId => cases he
  | resumeVoice => cases he
  | stopVoicePlayback => exact absurd rfl hstops
  | playVoicePreview => exact absurd rfl hstops
  | startVoiceRecording => exact absurd rfl hstops
  | reset => exact absurd rfl hstops
  | pauseVoice =>
    change Silent plays (if s.voiceController.messagePlayback.source.isEmpty then s else _)
    split
    · exact hs
    · exact ⟨hs.pending, (plays_tell _ .pause (by decide)).trans hs.plays⟩
  | seekVoice position => exact ⟨hs.pending, (plays_setPosition now position _).trans hs.plays⟩
  | cancelVoicePlayback => exact ⟨hs.pending, (plays_stop _).trans hs.plays⟩
  | seekVoicePreview position => exact ⟨hs.pending, hs.plays⟩
  | stopVoicePreview => exact ⟨hs.pending, hs.plays⟩
  | downloadFile messageId contentIndex found =>
    change Silent plays (s.downloadFile absoluteFilePath now messageId contentIndex found)
    unfold MessagingViewModel.downloadFile
    dsimp only
    split
    · exact hs
    · split
      · exact hs
      · split
        · exact hs
        · split
          · exact ⟨hs.pending, hs.plays⟩
          · exact ⟨hs.pending, hs.plays⟩
          · refine Silent.withRepository ?_ (names_downloadFile _ _ _)
            exact ⟨hs.pending, hs.plays⟩
  | cancelFileDownload messageId contentIndex =>
    change Silent plays (s.cancelFileDownload absoluteFilePath now messageId contentIndex)
    unfold MessagingViewModel.cancelFileDownload
    dsimp only
    split
    · exact hs
    · split
      · exact hs
      · refine Silent.withRepository ?_ (names_cancelDownload _)
        exact ⟨hs.pending, hs.plays⟩
  | voiceRecordingFileChanged file => exact ⟨hs.pending, hs.plays⟩
  | mediaStatusChanged endOfMedia =>
    cases endOfMedia with
    | true => exact ⟨hs.pending, (plays_tell _ (.setPosition 0) (by decide)).trans hs.plays⟩
    | false => exact ⟨hs.pending, hs.plays⟩
  | answered chosen => exact hs.withRepository (names_answered _ _)
  | progress request received total => exact hs.withRepository (names_progressChanged _ _ _)
  | completed request path => exact hs.withRepository (names_completedChanged _ _ _)
  | failed request error => exact hs.withRepository (names_failedChanged _ _)

def MessagingViewModel.first (available : Bool) : MessagingViewModel :=
  { mediaRepository := if available then some {} else none }

lemma tuned_first (available : Bool) : Tuned absoluteFilePath (MessagingViewModel.first available) := by
  refine ⟨rfl, ⟨Or.inl rfl, fun hne => absurd rfl hne⟩, fun r hr => ?_, fun hne => absurd rfl hne, fun id row hrow _ => ?_⟩
  · cases available with
    | false => cases hr
    | true =>
      obtain rfl := Option.some.inj hr
      refine ⟨⟨fun i p hp => ?_, fun i p hp => ?_, nofun⟩, fun m i hm => ?_, fun i p hp => ?_, nofun⟩
      · cases hp
      · cases hp
      · cases hm
      · cases hp
  · cases hrow

lemma tuned_after (absoluteFilePath : QString → QString) (available : Bool) {es : List (Outside × MediaEvent)}
    (h : ∀ e ∈ es, MediaEvent.Plain e) :
    Tuned absoluteFilePath (after (mediaStep absoluteFilePath) (.first available) es) :=
  (each_true.and_mem h).invariant (tuned_first available) fun _ e ht hp => ht.step e hp.2

end

/-! ### What holds of every run -/

def remoteVoice : QUrl := { scheme := key "https", host := key "a", encoded := key "https://a" }

def atRemoteVoice : Outside where
  messageIdForSource := fun _ => key "m"
  temporary := some (key "t")
  size := fun _ => 1

lemma plain_remoteVoice : ∀ e ∈ [(atRemoteVoice, MediaEvent.playVoice (.remote remoteVoice) (key "m"))],
    MediaEvent.Plain e := by
  intro e he
  rw [List.mem_singleton.mp he]
  exact ⟨by decide, by decide⟩

section

variable (absoluteFilePath : QString → QString) (available : Bool)

/-- What the player has in it is the file of what playback turned to last, which is what the view shows. -/
theorem source_asked (es : List (Outside × MediaEvent)) (h : ∀ e ∈ es, MediaEvent.Plain e)
    (hs : (after (mediaStep absoluteFilePath) (.first available) es).voiceController.messagePlayback.source ≠ .empty) :
    ∃ now, (after (mediaStep absoluteFilePath) (.first available) es).voiceController.asked =
        some (now, (after (mediaStep absoluteFilePath) (.first available) es).voiceController.voicePlaybackSource) ∧
      (after (mediaStep absoluteFilePath) (.first available) es).voiceController.messagePlayback.source =
        askedFile absoluteFilePath
          (now, (after (mediaStep absoluteFilePath) (.first available) es).voiceController.voicePlaybackSource) :=
  (tuned_after absoluteFilePath available h).playing.source.resolve_left hs

theorem source_asked_voice : ∃ now, (after (mediaStep id) (.first true)
      [(atRemoteVoice, .playVoice (.remote remoteVoice) (key "m")), (atRemoteVoice, .completed 0 (key "t"))]
        ).voiceController.messagePlayback.source = askedFile id (now, .remote remoteVoice) := by
  have hplain : ∀ e ∈ [(atRemoteVoice, MediaEvent.playVoice (.remote remoteVoice) (key "m")),
      (atRemoteVoice, .completed 0 (key "t"))], MediaEvent.Plain e := by
    intro e he
    obtain rfl | he := List.mem_cons.mp he
    · exact plain_remoteVoice _ List.mem_cons_self
    · rw [List.mem_singleton.mp he]
      trivial
  obtain ⟨now, -, h⟩ := source_asked id true _ hplain (by decide)
  exact ⟨now, h⟩

/-- Once the playback was stopped, the player is not started until it is asked for again, whatever of the downloads
comes to its end. -/
theorem stopped_silent (es es' : List (Outside × MediaEvent)) (e : Outside × MediaEvent)
    (he : e.2.stops = true) (hes : ∀ e ∈ es', e.2.starts = false) :
    (after (mediaStep absoluteFilePath) (.first available) (es ++ e :: es')).voiceController.messagePlayback.plays =
      (after (mediaStep absoluteFilePath) (.first available) es).voiceController.messagePlayback.plays := by
  rw [after_append, after_cons]
  have hstopped := @silent_stops absoluteFilePath e he
    (after (mediaStep absoluteFilePath) (.first available) es)
  have hrun : Silent _ (after (mediaStep absoluteFilePath) _ es') :=
    (each_true.and_mem hes).invariant hstopped fun _ e hs he => hs.step e he.2
  exact hrun.plays

theorem stopped_silent_voice : (after (mediaStep id) (.first true)
      ([(atRemoteVoice, .playVoice (.remote remoteVoice) (key "m"))] ++ (atRemoteVoice, .stopVoicePlayback) ::
        [(atRemoteVoice, .completed 0 (key "t"))])).voiceController.messagePlayback.plays =
    (after (mediaStep id) (.first true)
      [(atRemoteVoice, .playVoice (.remote remoteVoice) (key "m"))]).voiceController.messagePlayback.plays :=
  stopped_silent id true [(atRemoteVoice, .playVoice (.remote remoteVoice) (key "m"))]
    [(atRemoteVoice, .completed 0 (key "t"))] (atRemoteVoice, .stopVoicePlayback) rfl fun e he => by
      rw [List.mem_singleton.mp he]
      rfl

/-- Whoever waits has a request: the controller for its message, and each row that shows a
download; and there is no other request of the controller's. -/
theorem waits_requested (es : List (Outside × MediaEvent)) (h : ∀ e ∈ es, MediaEvent.Plain e) :
    ((after (mediaStep absoluteFilePath) (.first available) es).voiceController.pendingVoiceMessage ≠ [] →
      ∃ r, (after (mediaStep absoluteFilePath) (.first available) es).mediaRepository = some r ∧
        r.Requested (after (mediaStep absoluteFilePath) (.first available) es).voiceController.pendingVoiceMessage) ∧
    (∀ id row, (after (mediaStep absoluteFilePath) (.first available) es).fileDownloads.find? id = some row →
      row.downloading = true → ∃ r, (after (mediaStep absoluteFilePath) (.first available) es).mediaRepository = some r ∧
        r.Requested (filePrefix ++ id)) ∧
    ∀ r request pending, (after (mediaStep absoluteFilePath) (.first available) es).mediaRepository = some r →
      r.requests.find? request = some pending → genericFile pending.messageId = false →
        pending.messageId =
          (after (mediaStep absoluteFilePath) (.first available) es).voiceController.pendingVoiceMessage ∧
        r.messages.find? pending.messageId = some request := by
  have ht := tuned_after absoluteFilePath available h
  refine ⟨ht.requested, ht.rows, fun r request pending hr hp hg => ?_⟩
  obtain ⟨hm, -, -, hmessage⟩ := (ht.waiting r hr).voice request pending hp hg
  exact ⟨hm, hmessage⟩

theorem waits_requested_voice : ∃ r, (after (mediaStep id) (.first true)
    [(atRemoteVoice, .playVoice (.remote remoteVoice) (key "m"))]).mediaRepository = some r ∧ r.Requested (key "m") :=
  (waits_requested id true _ plain_remoteVoice).1 (by decide)

end

end ChatDesktop.Media
