import ChatDesktop.Library.Reactive
import ChatDesktop.Media.DownloadLinks
import ChatDesktop.Media.Playback

namespace ChatDesktop.Media

open Library Library.Reactive Network Chat

def askedFile (absoluteFilePath : QString → QString) : Outside × AudioUrl → AudioUrl
  | (_, .localFile path) => .localFile path
  | (now, source) => .localFile (absoluteFilePath
      (MediaRepository.voicePath now.toSurroundings (voiceKey now source.toUrl) source.toUrl))

def askedPath : Option (Outside × AudioUrl) → QString
  | none => []
  | some (now, source) => MediaRepository.voicePath now.toSurroundings (voiceKey now source.toUrl) source.toUrl

def MediaRepository.Requested (r : MediaRepository) (message : QString) : Prop :=
  ∃ request pending, r.requests.find? request = some pending ∧ pending.messageId = message

structure Waiting (pending path : QString) (r : MediaRepository) : Prop where
  numbered : r.Numbered
  linked : ∀ m i, r.messages.find? m = some i → ∃ p, r.requests.find? i = some p ∧ p.messageId = m
  voice : ∀ i p, r.requests.find? i = some p → genericFile p.messageId = false →
    p.messageId = pending ∧ p.temporary = true ∧ p.cachePath = path ∧ r.messages.find? p.messageId = some i
  asking : ∀ a ∈ r.dialogs, genericFile a.messageId = true

def Shows (requested : QString → Prop) (rows : Hash QString FileDownloadState) : Prop :=
  ∀ id row, rows.find? id = some row → row.downloading = true → requested (filePrefix ++ id)

/-- The controller, when the message it waits for is `pending`. -/
structure Playing (absoluteFilePath : QString → QString) (c : VoiceMessageController) : Prop where
  source : c.messagePlayback.source = .empty ∨ ∃ now, c.asked = some (now, c.voicePlaybackSource) ∧
    c.messagePlayback.source = askedFile absoluteFilePath (now, c.voicePlaybackSource)
  pending : c.pendingVoiceMessage ≠ [] → ∃ now, c.asked = some (now, c.voicePlaybackSource) ∧
    askedFile absoluteFilePath (now, c.voicePlaybackSource) = .localFile (absoluteFilePath (askedPath c.asked))

structure Tuned (absoluteFilePath : QString → QString) (s : MessagingViewModel) : Prop where
  plain : genericFile s.voiceController.pendingVoiceMessage = false
  playing : Playing absoluteFilePath s.voiceController
  waiting : ∀ r, s.mediaRepository = some r →
    Waiting s.voiceController.pendingVoiceMessage (askedPath s.voiceController.asked) r
  requested : s.voiceController.pendingVoiceMessage ≠ [] →
    ∃ r, s.mediaRepository = some r ∧ r.Requested s.voiceController.pendingVoiceMessage
  rows : Shows (fun message => ∃ r, s.mediaRepository = some r ∧ r.Requested message) s.fileDownloads

section

variable {r r' : MediaRepository} {pending path path' message m : QString} {i : ℕ} {p : PendingDownload}
  {requested requested' : QString → Prop} {rows : Hash QString FileDownloadState} {now : Outside}
  {absoluteFilePath : QString → QString} {c : VoiceMessageController} {s : MessagingViewModel} {signal : Signal}

/-! ### The repository -/

lemma Waiting.congr (hw : Waiting pending path r) (hr : r'.requests = r.requests) (hm : r'.messages = r.messages)
    (hmade : r'.made = r.made) (hd : ∀ a ∈ r'.dialogs, a ∈ r.dialogs ∨ a.messageId ≠ [] ∧ genericFile a.messageId = true) :
    Waiting pending path r' := by
  refine ⟨hw.numbered.congr hr hmade fun a ha => ?_, ?_, ?_, fun a ha => ?_⟩
  · obtain ha | ha := hd a ha
    · exact hw.numbered.asked a ha
    · exact ha.1
  · rw [hr, hm]
    exact hw.linked
  · rw [hr, hm]
    exact hw.voice
  · obtain ha | ha := hd a ha
    · exact hw.asking a ha
    · exact ha.2

lemma Waiting.cleared (hw : Waiting [] path r) : Waiting pending path' r :=
  ⟨hw.numbered, hw.linked, fun i p hp hg => absurd (hw.voice i p hp hg).1 (hw.numbered.named i p hp), hw.asking⟩

lemma Waiting.unmapped (hw : Waiting [] path r) (hm : genericFile m = false) : r.messages.find? m = none := by
  cases hf : r.messages.find? m with
  | none => rfl
  | some i =>
    obtain ⟨p, hp, rfl⟩ := hw.linked m i hf
    exact absurd (hw.voice i p hp hm).1 (hw.numbered.named i p hp)

lemma Waiting.forget (hw : Waiting pending path r) (hp : r.requests.find? i = some p) :
    Waiting (if p.messageId = pending then [] else pending) path (r.forget p.messageId i) := by
  have hmessages : ∀ m, (r.forget p.messageId i).messages.find? m =
      if m = p.messageId then none else r.messages.find? m := fun m => Hash.find?_erase
  refine ⟨hw.numbered.forget _ _, fun m j hm => ?_, fun j q hq hg => ?_, hw.asking⟩
  · rw [hmessages] at hm
    split_ifs at hm with hne
    obtain ⟨q, hq, hqm⟩ := hw.linked m j hm
    refine ⟨q, MediaRepository.find?_forget_requests.mpr ⟨?_, hq⟩, hqm⟩
    rintro rfl
    rw [hp] at hq
    obtain rfl := Option.some.inj hq
    exact hne hqm.symm
  · obtain ⟨hne, hq⟩ := MediaRepository.find?_forget_requests.mp hq
    obtain ⟨hqm, htemporary, hpath, hmessage⟩ := hw.voice j q hq hg
    have hother : q.messageId ≠ p.messageId := by
      intro he
      have hpg : genericFile p.messageId = false := he ▸ hg
      have hpmessage := (hw.voice i p hp hpg).2.2.2
      rw [← he, hmessage] at hpmessage
      exact hne (Option.some.inj hpmessage)
    rw [hmessages, if_neg hother, if_neg (fun he => hother (hqm.trans he.symm))]
    exact ⟨hqm, htemporary, hpath, hmessage⟩

lemma requested_forget (hp : r.requests.find? i = some p) (hm : r.Requested message) :
    (r.forget p.messageId i).Requested message ∨ message = p.messageId := by
  obtain ⟨j, q, hq, rfl⟩ := hm
  by_cases hj : j = i
  · subst hj
    rw [hp] at hq
    obtain rfl := Option.some.inj hq
    exact Or.inr rfl
  · exact Or.inl ⟨j, q, MediaRepository.find?_forget_requests.mpr ⟨hj, hq⟩, rfl⟩

lemma Waiting.cancel (hw : Waiting pending path r) (m : QString) :
    Waiting (if m = pending then [] else pending) path (r.cancelDownload m) := by
  cases hm : r.messages.find? m with
  | none =>
    rw [MediaRepository.cancelDownload_missing hm]
    split_ifs with he
    · refine ⟨hw.numbered, hw.linked, fun i p hp hg => ?_, hw.asking⟩
      obtain ⟨hpm, -, -, hmessage⟩ := hw.voice i p hp hg
      rw [hpm, ← he, hm] at hmessage
      cases hmessage
    · exact hw
  | some i =>
    obtain ⟨p, hp, rfl⟩ := hw.linked m i hm
    rw [MediaRepository.cancelDownload_found hm]
    exact hw.forget hp

lemma requested_cancel (hw : Waiting pending path r) (m : QString) (hr : r.Requested message) :
    (r.cancelDownload m).Requested message ∨ message = m := by
  cases hm : r.messages.find? m with
  | none =>
    rw [MediaRepository.cancelDownload_missing hm]
    exact Or.inl hr
  | some i =>
    obtain ⟨p, hp, rfl⟩ := hw.linked m i hm
    rw [MediaRepository.cancelDownload_found hm]
    exact requested_forget hp hr

lemma log_cancelDownload (r : MediaRepository) (m : QString) : (r.cancelDownload m).log = r.log := by
  cases hm : r.messages.find? m with
  | none => rw [MediaRepository.cancelDownload_missing hm]
  | some i =>
    rw [MediaRepository.cancelDownload_found hm]
    rfl

lemma Waiting.start (hw : Waiting pending path r) (hn : p.messageId ≠ [])
    (hv : genericFile p.messageId = false →
      p.messageId = pending ∧ p.temporary = true ∧ p.cachePath = path ∧ r.messages.find? p.messageId = none) :
    Waiting pending path (r.start p) ∧ (∀ m, r.Requested m → (r.start p).Requested m) ∧
      ((∃ error, r.start p = r.emit (.downloadFailed p.messageId error)) ∨
        (r.start p).Requested p.messageId ∧ (r.start p).log = r.log ++ [.downloadStarted p.messageId]) := by
  have hnumbered : (r.start p).Numbered := hw.numbered.start hn
  unfold MediaRepository.start at hnumbered ⊢
  split_ifs at hnumbered ⊢
  · exact ⟨⟨hnumbered, hw.linked, hw.voice, hw.asking⟩, fun m hr => hr, Or.inl ⟨_, rfl⟩⟩
  · have hold : ∀ j q, r.requests.find? j = some q → (r.requests.insert r.made p).find? j = some q := by
      intro j q hq
      rw [Hash.find?_insert, if_neg (hw.numbered.request_lt j q hq).ne, hq]
    have hnew : (r.requests.insert r.made p).find? r.made = some p := by
      rw [Hash.find?_insert, if_pos rfl]
    have hmessages : ∀ m, (r.messages.insert p.messageId r.made).find? m =
        if m = p.messageId then some r.made else r.messages.find? m := fun m => Hash.find?_insert
    refine ⟨⟨hnumbered, fun m j hm => ?_, fun j q hq hg => ?_, hw.asking⟩,
      fun m ⟨j, q, hq, hqm⟩ => ⟨j, q, hold j q hq, hqm⟩, Or.inr ⟨⟨r.made, p, hnew, rfl⟩, rfl⟩⟩
    · change (r.messages.insert p.messageId r.made).find? m = some j at hm
      rw [hmessages] at hm
      split_ifs at hm with he
      · obtain rfl := Option.some.inj hm
        exact ⟨p, hnew, he.symm⟩
      · obtain ⟨q, hq, hqm⟩ := hw.linked m j hm
        exact ⟨q, hold j q hq, hqm⟩
    · change (r.requests.insert r.made p).find? j = some q at hq
      change _ ∧ _ ∧ _ ∧ (r.messages.insert p.messageId r.made).find? q.messageId = some j
      rw [Hash.find?_insert] at hq
      rw [hmessages]
      split_ifs at hq with hj
      · obtain rfl := Option.some.inj hq
        obtain ⟨hpm, htemporary, hpath, -⟩ := hv hg
        rw [if_pos rfl, hj]
        exact ⟨hpm, htemporary, hpath, rfl⟩
      · obtain ⟨hqm, htemporary, hpath, hmessage⟩ := hw.voice j q hq hg
        have hother : q.messageId ≠ p.messageId := by
          intro he
          rw [he, (hv (he ▸ hg)).2.2.2] at hmessage
          cases hmessage
        rw [if_neg hother]
        exact ⟨hqm, htemporary, hpath, hmessage⟩

/-! ### What the users hear -/

lemma genericFile_filePrefix (id : QString) : genericFile (filePrefix ++ id) = true := by
  unfold genericFile
  exact decide_eq_true (List.prefix_append _ _)

lemma eq_of_genericFile (hm : genericFile m = true) : filePrefix ++ m.drop filePrefix.length = m := by
  obtain ⟨id, rfl⟩ := of_decide_eq_true hm
  exact congrArg (filePrefix ++ ·) (List.drop_left ..)

lemma Shows.mono (hs : Shows requested rows) (hr : ∀ id, requested (filePrefix ++ id) → requested' (filePrefix ++ id)) :
    Shows requested' rows := fun id row hrow hd => hr id (hs id row hrow hd)

lemma Shows.insert (hs : Shows requested rows) {id : QString} {row : FileDownloadState}
    (hr : ∀ other, other ≠ id → requested (filePrefix ++ other) → requested' (filePrefix ++ other))
    (hrow : row.downloading = true → requested' (filePrefix ++ id)) : Shows requested' (rows.insert id row) := by
  intro other r hfind hd
  rw [Hash.find?_insert] at hfind
  split_ifs at hfind with ho
  · obtain rfl := Option.some.inj hfind
    rw [ho]
    exact hrow hd
  · exact hr other ho (hs other r hfind hd)

lemma Shows.heard (hs : Shows requested rows) (signal : Signal)
    (hr : ∀ message, message ≠ signal.request → requested message → requested' message)
    (hrow : ∀ row : FileDownloadState, genericFile signal.request = true →
      (row.downloading = true → requested signal.request) → (row.heard now signal).downloading = true →
      requested' signal.request) : Shows requested' (heardByRows now rows signal) := by
  unfold heardByRows
  split
  · rename_i hg
    rw [Bool.not_eq_true'] at hg
    refine hs.mono fun id hid => hr _ ?_ hid
    rintro he
    rw [← he, genericFile_filePrefix] at hg
    cases hg
  · rename_i hg
    rw [Bool.not_eq_true', Bool.not_eq_false] at hg
    have hid := eq_of_genericFile hg
    split
    · rename_i hnone
      intro id row hfind hd
      refine hr _ ?_ (hs id row hfind hd)
      intro he
      rw [← he, List.drop_left, hfind] at hnone
      cases hnone
    · rename_i row hfind
      refine hs.insert (fun other hother hrequested => hr _ ?_ hrequested) fun hd => ?_
      · intro he
        refine hother ?_
        rw [← he]
        exact (List.drop_left ..).symm
      · rw [hid]
        refine hrow row hg (fun hdownloading => ?_) hd
        have hold := hs _ row hfind hdownloading
        rwa [hid] at hold

def Signal.answers : Signal → Bool
  | .downloadCompleted _ _ => true
  | .downloadFailed _ _ => true
  | _ => false

def Signal.Spares (pending : QString) (signal : Signal) : Prop := signal.answers = true → signal.request ≠ pending

lemma heard_answer (ha : signal.answers = true) (row : FileDownloadState) : (row.heard now signal).downloading = false := by
  cases signal with
  | downloadCompleted message path =>
    unfold FileDownloadState.heard
    dsimp only
    split_ifs with hd
    · rwa [Bool.not_eq_true'] at hd
    · rfl
    · rfl
  | downloadFailed message error => rfl
  | downloadStarted message => cases ha
  | downloadProgress message received total => cases ha
  | asked suggestion => cases ha

lemma Shows.answer (hs : Shows (fun message => requested message ∨ message = signal.request) rows)
    (ha : signal.answers = true) : Shows requested (heardByRows now rows signal) := by
  refine hs.heard signal (fun message hm hr => hr.resolve_right hm) fun row _ _ hd => ?_
  rw [heard_answer ha] at hd
  cases hd

lemma Shows.started (hs : Shows requested rows) (hr : genericFile m = true → requested m) :
    Shows requested (heardByRows now rows (.downloadStarted m)) :=
  hs.heard (.downloadStarted m) (fun _ _ => id) fun _ hg _ _ => hr hg

lemma heard_spared (hs : signal.Spares c.pendingVoiceMessage) : c.heard absoluteFilePath now signal = c := by
  cases signal with
  | downloadCompleted message path => exact if_pos (hs rfl)
  | downloadFailed message error => exact if_neg (hs rfl)
  | downloadStarted message => rfl
  | downloadProgress message received total => rfl
  | asked suggestion => rfl

lemma foldl_heard (absoluteFilePath : QString → QString) (now : Outside) (s : MessagingViewModel) (l : List Signal)
    (hl : ∀ signal ∈ l, signal.Spares s.voiceController.pendingVoiceMessage) :
    l.foldl (MessagingViewModel.heard absoluteFilePath now) s =
      { s with fileDownloads := l.foldl (heardByRows now) s.fileDownloads } := by
  induction l generalizing s with
  | nil => rfl
  | cons signal l ih =>
    have hsame : s.heard absoluteFilePath now signal =
        { s with fileDownloads := heardByRows now s.fileDownloads signal } := by
      unfold MessagingViewModel.heard
      rw [heard_spared (hl signal List.mem_cons_self)]
    rw [List.foldl_cons, List.foldl_cons, hsame]
    exact ih _ fun other ho => hl other (List.mem_cons_of_mem _ ho)

/-! ### Steps of the repository -/

lemma Tuned.told (ht : Tuned absoluteFilePath s) (now : Outside) (rows : Hash QString FileDownloadState)
    (l : List Signal)
    (hw : Waiting s.voiceController.pendingVoiceMessage (askedPath s.voiceController.asked) r')
    (hr : s.voiceController.pendingVoiceMessage ≠ [] → r'.Requested s.voiceController.pendingVoiceMessage)
    (hl : ∀ signal ∈ l, signal.Spares s.voiceController.pendingVoiceMessage)
    (hrows : Shows r'.Requested (l.foldl (heardByRows now) rows)) :
    Tuned absoluteFilePath (l.foldl (MessagingViewModel.heard absoluteFilePath now)
      { s with mediaRepository := some r', fileDownloads := rows }) := by
  rw [foldl_heard absoluteFilePath now { s with mediaRepository := some r', fileDownloads := rows } l hl]
  refine ⟨ht.plain, ht.playing, fun r he => ?_, fun hp => ⟨r', rfl, hr hp⟩, ?_⟩
  · obtain rfl := Option.some.inj he
    exact hw
  · exact hrows.mono fun id hid => ⟨r', rfl, hid⟩

lemma Tuned.shows (ht : Tuned absoluteFilePath s) (hr : s.mediaRepository = some r) :
    Shows r.Requested s.fileDownloads := by
  refine ht.rows.mono fun id hid => ?_
  obtain ⟨r', hr', hid⟩ := hid
  obtain rfl := Option.some.inj (hr.symm.trans hr')
  exact hid

lemma Tuned.has (ht : Tuned absoluteFilePath s) (hr : s.mediaRepository = some r)
    (hp : s.voiceController.pendingVoiceMessage ≠ []) : r.Requested s.voiceController.pendingVoiceMessage := by
  obtain ⟨r', hr', hrequested⟩ := ht.requested hp
  obtain rfl := Option.some.inj (hr.symm.trans hr')
  exact hrequested

lemma source_setSource (now : Outside) (source : AudioUrl) (player : AudioPlayer) :
    (player.setSource now source).source = source ∨ (player.setSource now source).source = .empty := by
  unfold AudioPlayer.setSource
  split
  · rename_i he
    exact Or.inl he.symm
  · dsimp only
    split
    · rename_i path
      split
      · unfold AudioPlayer.loadCached
        dsimp only
        split
        · exact Or.inr rfl
        · exact Or.inl rfl
      · exact Or.inl rfl
    · exact Or.inl rfl

@[simp] lemma source_play (player : AudioPlayer) : player.play.source = player.source := by
  unfold AudioPlayer.play
  split
  · rfl
  · rfl

lemma Playing.start (hp : Playing absoluteFilePath c) {outside : Outside} {file : AudioUrl}
    (ha : c.asked = some (outside, c.voicePlaybackSource))
    (hf : askedFile absoluteFilePath (outside, c.voicePlaybackSource) = file) :
    Playing absoluteFilePath (c.start now file) := by
  refine ⟨?_, hp.pending⟩
  change ((c.messagePlayback.setSource now file).play).source = _ ∨ ∃ now', _ ∧
    ((c.messagePlayback.setSource now file).play).source = _
  rw [source_play]
  obtain hs | hs := source_setSource now file c.messagePlayback
  · exact Or.inr ⟨outside, ha, hs.trans hf.symm⟩
  · exact Or.inl hs

lemma Playing.ended (hp : Playing absoluteFilePath s.voiceController) (now : Outside) (signal : Signal)
    (hm : s.voiceController.pendingVoiceMessage ≠ []) (ha : signal.answers = true)
    (hs : signal.request = s.voiceController.pendingVoiceMessage)
    (hpath : ∀ path, signal = .downloadCompleted s.voiceController.pendingVoiceMessage path →
      path = askedPath s.voiceController.asked)
    (hw : Waiting [] path r') (hrows : Shows r'.Requested (heardByRows now s.fileDownloads signal)) :
    Tuned absoluteFilePath ({ s with mediaRepository := some r' }.heard absoluteFilePath now signal) := by
  obtain ⟨outside, hasked, hfile⟩ := hp.pending hm
  have hcleared : Playing absoluteFilePath { s.voiceController with pendingVoiceMessage := [] } :=
    ⟨hp.source, fun hne => absurd rfl hne⟩
  have hdone : ∀ c, c.pendingVoiceMessage = [] → Playing absoluteFilePath c →
      Tuned absoluteFilePath { s with
        mediaRepository := some r'
        voiceController := c
        fileDownloads := heardByRows now s.fileDownloads signal } := by
    intro c hnone hplaying
    refine ⟨?_, hplaying, fun r he => ?_, fun hne => absurd hnone hne, hrows.mono fun id hid => ⟨_, rfl, hid⟩⟩
    · change genericFile c.pendingVoiceMessage = false
      rw [hnone]
      rfl
    · obtain rfl := Option.some.inj he
      change Waiting c.pendingVoiceMessage (askedPath c.asked) _
      rw [hnone]
      exact hw.cleared
  cases signal with
  | downloadCompleted message path =>
    obtain rfl : message = s.voiceController.pendingVoiceMessage := hs
    obtain rfl := hpath path rfl
    have hcompleted : s.voiceController.downloadCompleted absoluteFilePath now s.voiceController.pendingVoiceMessage
          (askedPath s.voiceController.asked) =
        if !now.isFile (askedPath s.voiceController.asked) ||
            decide (now.size (askedPath s.voiceController.asked) ≤ 0) then
          { s.voiceController with
            pendingVoiceMessage := []
            voiceDownloadError := key "Downloaded audio is missing or empty." }
        else ({ s.voiceController with pendingVoiceMessage := [] } : VoiceMessageController).start now
          (.localFile (absoluteFilePath (askedPath s.voiceController.asked))) := if_neg (not_not.mpr rfl)
    refine hdone (s.voiceController.downloadCompleted absoluteFilePath now s.voiceController.pendingVoiceMessage
      (askedPath s.voiceController.asked)) ?_ ?_
    · rw [hcompleted]
      split
      · rfl
      · rfl
    · rw [hcompleted]
      split
      · exact ⟨hp.source, fun hne => absurd rfl hne⟩
      · exact hcleared.start hasked hfile
  | downloadFailed message error =>
    obtain rfl : message = s.voiceController.pendingVoiceMessage := hs
    have hfailed : s.voiceController.downloadFailed s.voiceController.pendingVoiceMessage error =
        { s.voiceController with pendingVoiceMessage := [], voiceDownloadError := error } := if_pos rfl
    refine hdone (s.voiceController.downloadFailed s.voiceController.pendingVoiceMessage error) ?_ ?_
    · rw [hfailed]
    · rw [hfailed]
      exact ⟨hp.source, fun hne => absurd rfl hne⟩
  | downloadStarted message => cases ha
  | downloadProgress message received total => cases ha
  | asked suggestion => cases ha

lemma Tuned.answer (ht : Tuned absoluteFilePath s) (now : Outside) (signal : Signal) (hr : s.mediaRepository = some r)
    (hp : r.requests.find? i = some p) (ha : signal.answers = true) (hs : signal.request = p.messageId)
    (hpath : ∀ path, signal = .downloadCompleted p.messageId path → p.temporary = true → path = p.cachePath)
    (log : List Signal) : Tuned absoluteFilePath
      ({ s with mediaRepository := some { r.forget p.messageId i with log := log } }.heard absoluteFilePath now
        signal) := by
  have hw := ht.waiting r hr
  have hforget : Waiting (if p.messageId = s.voiceController.pendingVoiceMessage then []
      else s.voiceController.pendingVoiceMessage) (askedPath s.voiceController.asked)
      { r.forget p.messageId i with log := log } :=
    (hw.forget hp).congr rfl rfl rfl fun a ha => Or.inl ha
  have hrows : Shows (r.forget p.messageId i).Requested (heardByRows now s.fileDownloads signal) := by
    refine Shows.answer ((ht.shows hr).mono fun id hid => ?_) ha
    rw [hs]
    exact requested_forget hp hid
  by_cases hm : p.messageId = s.voiceController.pendingVoiceMessage
  · have hwaits : s.voiceController.pendingVoiceMessage ≠ [] := hm ▸ hw.numbered.named i p hp
    rw [if_pos hm] at hforget
    obtain ⟨-, htemporary, hcache, -⟩ := hw.voice i p hp (hm ▸ ht.plain)
    refine ht.playing.ended now signal hwaits ha (hs.trans hm) (fun path he => ?_) hforget hrows
    rw [← hcache]
    exact hpath path (hm ▸ he) htemporary
  · rw [if_neg hm] at hforget
    have hother : ∀ message, r.Requested message → message ≠ p.messageId →
        MediaRepository.Requested { r.forget p.messageId i with log := log } message :=
      fun message hrequested hne => (requested_forget hp hrequested).resolve_right hne
    refine ht.told now s.fileDownloads [signal] hforget (fun hne => hother _ (ht.has hr hne) (Ne.symm hm))
      (fun other ho _ => ?_) hrows
    rw [List.mem_singleton.mp ho, hs]
    exact hm

lemma Tuned.still (ht : Tuned absoluteFilePath s) (now : Outside) (l : List Signal) (hr : s.mediaRepository = some r)
    (hw : Waiting s.voiceController.pendingVoiceMessage (askedPath s.voiceController.asked) r')
    (hkept : ∀ m, r.Requested m → r'.Requested m)
    (hl : ∀ signal ∈ l, signal.Spares s.voiceController.pendingVoiceMessage)
    (hrows : Shows r'.Requested (l.foldl (heardByRows now) s.fileDownloads)) :
    Tuned absoluteFilePath (l.foldl (MessagingViewModel.heard absoluteFilePath now)
      { s with mediaRepository := some r' }) :=
  ht.told now s.fileDownloads l hw (fun hne => hkept _ (ht.has hr hne)) hl hrows

lemma withRepository_none (s : MessagingViewModel) (hr : s.mediaRepository = none) (act : MediaRepository → MediaRepository) :
    s.withRepository absoluteFilePath now act = s := by
  unfold MessagingViewModel.withRepository
  rw [hr]

lemma withRepository_some (s : MessagingViewModel) (hr : s.mediaRepository = some r) (act : MediaRepository → MediaRepository) :
    s.withRepository absoluteFilePath now act =
      (act { r with log := [] }).log.foldl (MessagingViewModel.heard absoluteFilePath now)
        { s with mediaRepository := some (act { r with log := [] }) } := by
  unfold MessagingViewModel.withRepository
  rw [hr]

lemma Waiting.quiet (hw : Waiting pending path r) : Waiting pending path { r with log := [] } :=
  hw.congr rfl rfl rfl fun _ => Or.inl

lemma Tuned.idle (ht : Tuned absoluteFilePath s) (hr : s.mediaRepository = some r) :
    Tuned absoluteFilePath { s with mediaRepository := some { r with log := [] } } := by
  have hrows : Shows r.Requested s.fileDownloads := ht.shows hr
  exact ht.still {} [] hr (ht.waiting r hr).quiet (fun _ => id) nofun hrows

lemma Tuned.progressChanged (ht : Tuned absoluteFilePath s) (now : Outside) (request : ℕ) (received total : Int64) :
    Tuned absoluteFilePath
      (s.withRepository absoluteFilePath now (·.progressChanged request received total)) := by
  cases hr : s.mediaRepository with
  | none =>
    rw [withRepository_none s hr]
    exact ht
  | some r =>
    rw [withRepository_some s hr]
    unfold MediaRepository.progressChanged
    dsimp only
    split
    · exact ht.idle hr
    · rename_i pending _
      have hw : Waiting s.voiceController.pendingVoiceMessage (askedPath s.voiceController.asked)
          (MediaRepository.emit { r with log := [] } (.downloadProgress pending.messageId received total)) :=
        (ht.waiting r hr).congr rfl rfl rfl fun _ => Or.inl
      have hrows : Shows r.Requested (heardByRows now s.fileDownloads
          (.downloadProgress pending.messageId received total)) :=
        (ht.shows hr).heard _ (fun _ _ => id) fun row _ hd hd' => hd hd'
      refine ht.still now [.downloadProgress pending.messageId received total] hr hw (fun _ => id)
        (fun signal hs ha => ?_) hrows
      rw [List.mem_singleton.mp hs] at ha
      cases ha

lemma completed_missing (hp : r.requests.find? i = none) (now : Surroundings) (path : QString) :
    r.completedChanged now i path = r := by
  unfold MediaRepository.completedChanged
  dsimp only
  rw [MediaRepository.takeMessage_missing hp, hp]

lemma completed_cases (hn : r.Numbered) (hp : r.requests.find? i = some p) (now : Surroundings) (path : QString) :
    ∃ signal : Signal, r.completedChanged now i path = (r.forget p.messageId i).emit signal ∧
      signal.answers = true ∧ signal.request = p.messageId ∧
      ∀ path', signal = .downloadCompleted p.messageId path' → p.temporary = true → path' = p.cachePath := by
  have hnamed := hn.named i p hp
  unfold MediaRepository.completedChanged
  dsimp only
  rw [MediaRepository.takeMessage_found hn hp, hp]
  dsimp only
  rw [if_neg (by simpa using hnamed)]
  split_ifs with htemporary hsaved
  · exact ⟨_, rfl, rfl, rfl, nofun⟩
  · refine ⟨_, rfl, rfl, rfl, fun path' he _ => ?_⟩
    exact (Signal.downloadCompleted.inj he).2.symm
  · exact ⟨_, rfl, rfl, rfl, fun _ _ ht => absurd ht htemporary⟩

lemma Tuned.completedChanged (ht : Tuned absoluteFilePath s) (now : Outside) (request : ℕ) (path : QString) :
    Tuned absoluteFilePath
      (s.withRepository absoluteFilePath now (·.completedChanged now.toSurroundings request path)) := by
  cases hr : s.mediaRepository with
  | none =>
    rw [withRepository_none s hr]
    exact ht
  | some r =>
    rw [withRepository_some s hr]
    cases hp : r.requests.find? request with
    | none =>
      rw [@completed_missing { r with log := [] } request hp]
      exact ht.idle hr
    | some p =>
      obtain ⟨signal, he, ha, hs, hpath⟩ :=
        @completed_cases { r with log := [] } request p (ht.waiting r hr).quiet.numbered hp now.toSurroundings path
      rw [he]
      exact ht.answer now signal hr hp ha hs hpath [signal]

lemma Tuned.failedChanged (ht : Tuned absoluteFilePath s) (now : Outside) (request : ℕ) (error : QString) :
    Tuned absoluteFilePath (s.withRepository absoluteFilePath now (·.failedChanged request error)) := by
  cases hr : s.mediaRepository with
  | none =>
    rw [withRepository_none s hr]
    exact ht
  | some r =>
    rw [withRepository_some s hr]
    unfold MediaRepository.failedChanged
    cases hp : r.requests.find? request with
    | none =>
      rw [@MediaRepository.takeMessage_missing { r with log := [] } request hp]
      exact ht.idle hr
    | some p =>
      have hn := (ht.waiting r hr).quiet.numbered
      rw [MediaRepository.takeMessage_found hn hp]
      dsimp only
      rw [if_neg (by simpa using hn.named request p hp)]
      exact ht.answer now (.downloadFailed p.messageId error) hr hp rfl rfl nofun [_]

lemma spares_generic (hp : genericFile pending = false) (hs : genericFile signal.request = true) :
    signal.Spares pending := by
  intro _ he
  rw [he, hp] at hs
  cases hs

lemma Tuned.start (ht : Tuned absoluteFilePath s) (now : Outside) (hr : s.mediaRepository = some r)
    (hw : Waiting s.voiceController.pendingVoiceMessage (askedPath s.voiceController.asked) r')
    (hlog : r'.log = []) (hkept : ∀ m, r.Requested m → r'.Requested m) (hn : p.messageId ≠ [])
    (hg : genericFile p.messageId = true) :
    Tuned absoluteFilePath ((r'.start p).log.foldl (MessagingViewModel.heard absoluteFilePath now)
      { s with mediaRepository := some (r'.start p) }) := by
  obtain ⟨hstarted, hkept', hcases⟩ := hw.start (p := p) hn fun hv => absurd (hg.symm.trans hv) nofun
  have hrows : Shows (r'.start p).Requested s.fileDownloads :=
    (ht.shows hr).mono fun id hid => hkept' _ (hkept _ hid)
  obtain ⟨error, he⟩ | ⟨hrequested, he⟩ := hcases
  · have hsignals : (r'.start p).log = [.downloadFailed p.messageId error] := by
      rw [he]
      change r'.log ++ [_] = _
      rw [hlog]
      rfl
    rw [hsignals]
    refine ht.still now _ hr hstarted (fun m hm => hkept' m (hkept m hm)) (fun signal hs => ?_) ?_
    · obtain rfl := List.mem_singleton.mp hs
      exact spares_generic ht.plain hg
    · exact Shows.answer (hrows.mono fun _ => Or.inl) rfl
  · rw [he, hlog]
    refine ht.still now _ hr hstarted (fun m hm => hkept' m (hkept m hm)) (fun signal hs => ?_) ?_
    · obtain rfl := List.mem_singleton.mp hs
      exact spares_generic ht.plain hg
    · exact hrows.started fun _ => hrequested

lemma answered_nil (hd : r.dialogs = []) (now : Surroundings) (chosen : QString) : r.answered now chosen = r := by
  unfold MediaRepository.answered
  rw [hd]

lemma answered_cons {asking : Asking} {dialogs : List Asking} (hd : r.dialogs = asking :: dialogs)
    (now : Surroundings) (chosen : QString) : r.answered now chosen =
      if chosen.isEmpty then { r with dialogs := dialogs }
      else if !now.mkpath (directoryName (now.absoluteFilePath chosen)) then
        MediaRepository.emit { r with dialogs := dialogs } (.downloadFailed asking.messageId
          (key "Unable to access the folder: " ++ directoryName (now.absoluteFilePath chosen)))
      else if r.inUse (now.absoluteFilePath chosen) then
        MediaRepository.emit { r with dialogs := dialogs } (.downloadFailed asking.messageId
          (key "A download to this file is already in progress."))
      else MediaRepository.start ⟨asking.messageId, asking.url, now.absoluteFilePath chosen, asking.accountId,
        asking.cachePath, false⟩ { r with dialogs := dialogs } := by
  unfold MediaRepository.answered
  rw [hd]
  rfl

lemma Tuned.answered (ht : Tuned absoluteFilePath s) (now : Outside) (chosen : QString) :
    Tuned absoluteFilePath
      (s.withRepository absoluteFilePath now (·.answered now.toSurroundings chosen)) := by
  cases hr : s.mediaRepository with
  | none =>
    rw [withRepository_none s hr]
    exact ht
  | some r =>
    rw [withRepository_some s hr]
    have hw := ht.waiting r hr
    have hrows : Shows r.Requested s.fileDownloads := ht.shows hr
    by_cases hd : r.dialogs = []
    · rw [@answered_nil { r with log := [] } hd]
      exact ht.idle hr
    · obtain ⟨asking, dialogs, hd⟩ := List.exists_cons_of_ne_nil hd
      have hclosed : Waiting s.voiceController.pendingVoiceMessage (askedPath s.voiceController.asked)
          { r with log := [], dialogs := dialogs } :=
        hw.congr rfl rfl rfl fun a ha => Or.inl (hd ▸ List.mem_cons_of_mem _ ha)
      have hg := hw.asking asking (hd ▸ List.mem_cons_self)
      have hn := hw.numbered.asked asking (hd ▸ List.mem_cons_self)
      have hfailed : ∀ error, Tuned absoluteFilePath (MessagingViewModel.heard absoluteFilePath now
          { s with mediaRepository := some { r with
            dialogs := dialogs
            log := [.downloadFailed asking.messageId error] } } (.downloadFailed asking.messageId error)) := by
        intro error
        have hemitted : Waiting s.voiceController.pendingVoiceMessage (askedPath s.voiceController.asked)
            { r with dialogs := dialogs, log := [.downloadFailed asking.messageId error] } :=
          hclosed.congr rfl rfl rfl fun _ => Or.inl
        refine ht.still now [.downloadFailed asking.messageId error] hr hemitted (fun _ => id) (fun signal hs => ?_) ?_
        · obtain rfl := List.mem_singleton.mp hs
          exact spares_generic ht.plain hg
        · exact Shows.answer (hrows.mono fun _ => Or.inl) rfl
      rw [@answered_cons { r with log := [] } asking dialogs hd]
      split_ifs
      · exact ht.still now [] hr hclosed (fun _ => id) nofun hrows
      · exact hfailed _
      · exact hfailed _
      · exact ht.start now hr hclosed rfl (fun _ => id) hn hg

/-! ### Downloads of files -/

lemma downloadFile_generic (hg : genericFile m = true) (now : Surroundings) (url : QUrl) :
    r.downloadFile now m url =
      if m.isEmpty || !url.downloadable then r.emit (.downloadFailed m (key "Invalid file download URL."))
      else if r.underway m url then r
      else
        let accountId := (now.currentUser.map normalizedId).getD []
        let savedPath := now.localFilePath url accountId
        if !savedPath.isEmpty then
          ((r.cancelDownload m).emit (.downloadStarted m)).emit (.downloadCompleted m savedPath)
        else
          let cachePath := now.filePath (now.sha256 m url.encoded) (suffix url.path) accountId
          { r.cancelDownload m with dialogs := ⟨m, url, accountId, cachePath⟩ :: (r.cancelDownload m).dialogs }.emit
            (.asked (now.downloadLocation ++ 0x2F :: suggestedName url)) := by
  unfold MediaRepository.downloadFile
  dsimp only
  rw [if_pos hg]

lemma Tuned.requestFile (ht : Tuned absoluteFilePath s) (now : Outside) (id : QString) (url : QUrl)
    {row : FileDownloadState} (hrow : row.downloading = false) (hr : s.mediaRepository = some r) :
    Tuned absoluteFilePath
      ({ s with fileDownloads := s.fileDownloads.insert id row }.withRepository absoluteFilePath now
        (·.downloadFile now.toSurroundings (filePrefix ++ id) url)) := by
  have hg := genericFile_filePrefix id
  have hnamed : filePrefix ++ id ≠ [] := List.append_ne_nil_of_left_ne_nil (by decide) _
  have hother : s.voiceController.pendingVoiceMessage ≠ filePrefix ++ id := by
    intro he
    have hplain := ht.plain
    rw [he, hg] at hplain
    cases hplain
  have hw := (ht.waiting r hr).quiet
  have hput : Shows (fun message => message ≠ filePrefix ++ id ∧ r.Requested message)
      (s.fileDownloads.insert id row) := by
    refine (ht.shows hr).insert (fun other ho hrequested => ⟨fun he => ho (List.append_cancel_left he), hrequested⟩)
      fun hd => ?_
    rw [hrow] at hd
    cases hd
  have hcancelled := hw.cancel (filePrefix ++ id)
  rw [if_neg hother.symm] at hcancelled
  have hleft : ∀ message, message ≠ filePrefix ++ id → r.Requested message →
      (MediaRepository.cancelDownload (filePrefix ++ id) { r with log := [] }).Requested message :=
    fun message hne hrequested => (requested_cancel hw _ hrequested).resolve_right hne
  have hlog : (MediaRepository.cancelDownload (filePrefix ++ id) { r with log := [] }).log = [] :=
    log_cancelDownload _ _
  have hrows := hput.mono fun other h => hleft _ h.1 h.2
  rw [withRepository_some { s with fileDownloads := s.fileDownloads.insert id row } hr, downloadFile_generic hg]
  generalize MediaRepository.cancelDownload (filePrefix ++ id) { r with log := [] } = cancelled
    at hcancelled hleft hlog hrows
  have hpending : s.voiceController.pendingVoiceMessage ≠ [] →
      cancelled.Requested s.voiceController.pendingVoiceMessage := fun hne => hleft _ hother (ht.has hr hne)
  have hold : Shows r.Requested (s.fileDownloads.insert id row) := hput.mono fun other h => h.2
  have hhas : s.voiceController.pendingVoiceMessage ≠ [] → r.Requested s.voiceController.pendingVoiceMessage :=
    fun hne => ht.has hr hne
  split_ifs with hinvalid hunderway
  · have hfailed : Shows r.Requested (heardByRows now (s.fileDownloads.insert id row)
        (.downloadFailed (filePrefix ++ id) (key "Invalid file download URL."))) :=
      Shows.answer (hold.mono fun _ => Or.inl) rfl
    have hemitted : Waiting s.voiceController.pendingVoiceMessage (askedPath s.voiceController.asked)
        (MediaRepository.emit { r with log := [] } (.downloadFailed (filePrefix ++ id)
          (key "Invalid file download URL."))) := hw.congr rfl rfl rfl fun _ => Or.inl
    refine ht.told now (s.fileDownloads.insert id row)
      [.downloadFailed (filePrefix ++ id) (key "Invalid file download URL.")] hemitted hhas
      (fun signal hs _ => ?_) hfailed
    rw [List.mem_singleton.mp hs]
    exact hother.symm
  · exact ht.told now (s.fileDownloads.insert id row) [] hw hhas nofun hold
  · dsimp only
    split_ifs
    · generalize now.localFilePath url ((now.currentUser.map normalizedId).getD []) = savedPath
      have hstarted : Shows (fun message => cancelled.Requested message ∨ message = filePrefix ++ id)
          (heardByRows now (s.fileDownloads.insert id row) (.downloadStarted (filePrefix ++ id))) :=
        (hrows.mono fun _ => Or.inl).started fun _ => Or.inr rfl
      have hsaved : Shows cancelled.Requested (heardByRows now (heardByRows now (s.fileDownloads.insert id row)
          (.downloadStarted (filePrefix ++ id))) (.downloadCompleted (filePrefix ++ id) savedPath)) :=
        Shows.answer hstarted rfl
      have hemitted : Waiting s.voiceController.pendingVoiceMessage (askedPath s.voiceController.asked)
          ((cancelled.emit (.downloadStarted (filePrefix ++ id))).emit
            (.downloadCompleted (filePrefix ++ id) savedPath)) := hcancelled.congr rfl rfl rfl fun _ => Or.inl
      have htuned := ht.told now (s.fileDownloads.insert id row)
        [.downloadStarted (filePrefix ++ id), .downloadCompleted (filePrefix ++ id) savedPath] hemitted hpending
        (fun signal hs _ => by
          obtain rfl | hs := List.mem_cons.mp hs
          · exact hother.symm
          · rw [List.mem_singleton.mp hs]
            exact hother.symm) hsaved
      have hsignals : ((cancelled.emit (.downloadStarted (filePrefix ++ id))).emit
          (.downloadCompleted (filePrefix ++ id) savedPath)).log =
          [.downloadStarted (filePrefix ++ id), .downloadCompleted (filePrefix ++ id) savedPath] := by
        change (cancelled.log ++ [_]) ++ [_] = _
        rw [hlog]
        rfl
      rw [hsignals]
      exact htuned
    · generalize now.downloadLocation ++ 0x2F :: suggestedName url = suggestion
      have hasking : Waiting s.voiceController.pendingVoiceMessage (askedPath s.voiceController.asked)
          ({ cancelled with dialogs := ⟨filePrefix ++ id, url, (now.currentUser.map normalizedId).getD [],
            now.filePath (now.sha256 (filePrefix ++ id) url.encoded) (suffix url.path)
              ((now.currentUser.map normalizedId).getD [])⟩ :: cancelled.dialogs }.emit (.asked suggestion)) := by
        refine hcancelled.congr rfl rfl rfl fun a ha => ?_
        obtain rfl | ha := List.mem_cons.mp ha
        · exact Or.inr ⟨hnamed, hg⟩
        · exact Or.inl ha
      have hheard : Shows cancelled.Requested (heardByRows now (s.fileDownloads.insert id row) (.asked suggestion)) :=
        hrows.heard _ (fun _ _ hrequested => hrequested) fun _ _ hd hd' => hd hd'
      have htuned := ht.told now (s.fileDownloads.insert id row) [.asked suggestion] hasking hpending
        (fun signal hs ha => by
          rw [List.mem_singleton.mp hs] at ha
          cases ha) hheard
      have hsignals : ({ cancelled with dialogs := ⟨filePrefix ++ id, url, (now.currentUser.map normalizedId).getD [],
          now.filePath (now.sha256 (filePrefix ++ id) url.encoded) (suffix url.path)
            ((now.currentUser.map normalizedId).getD [])⟩ :: cancelled.dialogs }.emit (.asked suggestion)).log =
          [.asked suggestion] := by
        change cancelled.log ++ [_] = _
        rw [hlog]
        rfl
      rw [hsignals]
      exact htuned

lemma Tuned.put (ht : Tuned absoluteFilePath s) (id : QString) {row : FileDownloadState}
    (hrow : row.downloading = false) :
    Tuned absoluteFilePath { s with fileDownloads := s.fileDownloads.insert id row } := by
  refine ⟨ht.plain, ht.playing, ht.waiting, ht.requested, ?_⟩
  refine ht.rows.insert (fun _ _ hrequested => hrequested) fun hd => ?_
  rw [hrow] at hd
  cases hd

lemma Tuned.downloadFile (ht : Tuned absoluteFilePath s) (now : Outside) (messageId : QString) (contentIndex : ℤ)
    (found : Option AudioUrl) :
    Tuned absoluteFilePath (s.downloadFile absoluteFilePath now messageId contentIndex found) := by
  unfold MessagingViewModel.downloadFile
  dsimp only
  split
  · exact ht
  · split
    · exact ht
    · split
      · exact ht
      · split
        · exact ht.put _ rfl
        · exact ht.put _ rfl
        · rename_i hr
          exact ht.requestFile now _ _ rfl hr

lemma Tuned.cancelFileDownload (ht : Tuned absoluteFilePath s) (now : Outside) (messageId : QString)
    (contentIndex : ℤ) : Tuned absoluteFilePath (s.cancelFileDownload absoluteFilePath now messageId contentIndex) := by
  unfold MessagingViewModel.cancelFileDownload
  dsimp only
  generalize transferId messageId contentIndex = id
  split
  · exact ht
  · rename_i row _
    split
    · exact ht
    · obtain hr | ⟨r, hr⟩ := Option.eq_none_or_eq_some s.mediaRepository
      · rw [withRepository_none { s with fileDownloads := s.fileDownloads.insert id { row with downloading := false } }
          hr]
        exact ht.put id rfl
      · have hw := (ht.waiting r hr).quiet
        have hother : filePrefix ++ id ≠ s.voiceController.pendingVoiceMessage := by
          intro he
          have hplain := ht.plain
          rw [← he, genericFile_filePrefix] at hplain
          cases hplain
        have hcancelled := hw.cancel (filePrefix ++ id)
        rw [if_neg hother] at hcancelled
        have hleft : ∀ message, message ≠ filePrefix ++ id → r.Requested message →
            (MediaRepository.cancelDownload (filePrefix ++ id) { r with log := [] }).Requested message :=
          fun message hne hrequested => (requested_cancel hw _ hrequested).resolve_right hne
        have hrows : Shows (MediaRepository.cancelDownload (filePrefix ++ id) { r with log := [] }).Requested
            (s.fileDownloads.insert id { row with downloading := false }) :=
          (ht.shows hr).insert (fun other ho hrequested =>
            hleft _ (fun he => ho (List.append_cancel_left he)) hrequested) nofun
        have hpending : s.voiceController.pendingVoiceMessage ≠ [] →
            (MediaRepository.cancelDownload (filePrefix ++ id) { r with log := [] }).Requested
              s.voiceController.pendingVoiceMessage := fun hne => hleft _ hother.symm (ht.has hr hne)
        have htuned := ht.told now (s.fileDownloads.insert id { row with downloading := false }) []
          hcancelled hpending nofun hrows
        rw [withRepository_some { s with fileDownloads := s.fileDownloads.insert id { row with downloading := false } }
          hr, log_cancelDownload]
        exact htuned

end

end ChatDesktop.Media
