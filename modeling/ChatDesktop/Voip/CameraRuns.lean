import ChatDesktop.Voip.CameraThread

namespace ChatDesktop.Voip.Rtc

open Library Library.Text Library.Reactive Camera

section

variable {s s' : WebrtcClient} {requested : Bool} {t t' : CaptureThread} {c' : QtCameraCapture}

/-! ### The calls of the client -/

lemma capture_prepare (s : WebrtcClient) : s.prepare.capture.isSome = true := by
  unfold WebrtcClient.prepare
  cases hc : s.capture with
  | none => rfl
  | some t =>
    change (s.capture.map _).isSome = true
    rw [hc]
    rfl

lemma requested_prepare (s : WebrtcClient) : s.prepare.cameraRequested = s.cameraRequested ∧
    s.prepare.cameraDevice = s.cameraDevice ∧ s.prepare.alive = s.alive := by
  unfold WebrtcClient.prepare
  split
  · exact ⟨rfl, rfl, rfl⟩
  · exact ⟨rfl, rfl, rfl⟩

lemma FilmingAs.request (h : FilmingAs requested s) (hp : s.cameraRequested = true → s.capture.isSome = true) :
    Filming (s.postCapture (if s.cameraRequested then .start else .stop)) := by
  cases hc : s.capture with
  | none =>
    obtain ⟨hoff, -⟩ := h.absent hc
    have hoff' : s.cameraRequested = false := by
      rw [hc] at hp
      exact Bool.eq_false_of_not_eq_true fun hr => Bool.false_ne_true (hp hr)
    have hsame : Unfilmed s (s.postCapture (if s.cameraRequested then .start else .stop)) := by
      refine .same rfl ?_ rfl rfl rfl
      change s.capture.map _ = _
      rw [hc]
      rfl
    refine Filming.unfilmed ?_ hsame
    unfold Filming
    rwa [hoff', ← hoff]
  | some t =>
    have hposted : (s.postCapture (if s.cameraRequested then .start else .stop)).capture =
        some (t.post (if s.cameraRequested then .start else .stop)) := congrArg (Option.map _) hc
    refine @FilmingAs.post _ _ _ _ (if s.cameraRequested then .start else .stop) h hc _ ?_ ?_ hposted rfl rfl
    · change _ = s.cameraRequested
      cases s.cameraRequested <;> rfl
    · change _ = some s.cameraDevice
      cases s.cameraRequested <;> rfl

lemma FilmingAs.update (h : FilmingAs requested s) : Filming s.updateCameraCapture := by
  unfold WebrtcClient.updateCameraCapture
  have htrack : FilmingAs requested { s with
      localVideoTrack := s.localVideoTrack.map (VideoTrack.setEnabled s.cameraRequested) } :=
    h.unfilmed (.same rfl rfl rfl rfl rfl)
  dsimp only
  split
  · refine htrack.prepare.request fun _ => capture_prepare _
  · rename_i hnone
    refine htrack.request fun hr => ?_
    change s.cameraRequested = true at hr
    rw [hr, Bool.true_and, Option.isNone_iff_eq_none] at hnone
    exact Option.isSome_iff_ne_none.mpr hnone

lemma Filming.prepare (h : Filming s) : Filming s.prepare := by
  unfold Filming
  rw [(requested_prepare s).1]
  exact FilmingAs.prepare h

lemma Filming.setCameraDevice (h : Filming s) (device : Option QCameraDevice) :
    Filming (s.setCameraDevice device) := by
  cases hc : s.capture with
  | none =>
    have hnone : (s.setCameraDevice device).capture = none := congrArg (Option.map _) hc
    have hpushed := h.pushed
    rw [hc] at hpushed
    refine ⟨h.alive, fun _ => h.absent hc, fun t ht => ?_, fun t ht => ?_, fun t ht => ?_, fun t ht => ?_, ?_, h.blank⟩
    · rw [hnone] at ht
      cases ht
    · rw [hnone] at ht
      cases ht
    · rw [hnone] at ht
      cases ht
    · rw [hnone] at ht
      cases ht
    · rw [hnone]
      exact hpushed
  | some t =>
    have hposted : (s.setCameraDevice device).capture = some (t.post (.setDevice device)) :=
      congrArg (Option.map _) hc
    exact FilmingAs.post h hc rfl rfl hposted rfl rfl

lemma FilmingAs.clear (h : FilmingAs requested s) : FilmingAs requested (s.put (.localVideoFrameReady noFrame)) := by
  have hran : ranCalls (s.put (.localVideoFrameReady noFrame)).history = ranCalls s.history := by
    change (s.history ++ [_]).filterMap Happening.ranCall = _
    rw [List.filterMap_append]
    exact List.append_nil _
  have hpushes : pushes (s.put (.localVideoFrameReady noFrame)).history = pushes s.history := by
    change (s.history ++ [_]).filterMap Happening.pushed = _
    rw [List.filterMap_append]
    exact List.append_nil _
  have hpreviews : previews (s.put (.localVideoFrameReady noFrame)).history = previews s.history ++ [noFrame] := by
    change (s.history ++ [_]).filterMap Happening.preview = _
    rw [List.filterMap_append]
    rfl
  have hshown : shown (s.put (.localVideoFrameReady noFrame)).history = shown s.history := by
    unfold shown
    rw [hpreviews, List.filter_append]
    exact List.append_nil _
  refine ⟨h.alive, ?_, ?_, ?_, ?_, ?_, ?_, fun _ frame hf => ?_⟩
  · rw [hran]
    exact h.absent
  · rw [hran]
    exact h.asked
  · rw [hran]
    exact h.chosen
  · rw [hran]
    exact h.following
  · rw [hran]
    exact h.selects
  · rw [hpushes, hshown]
    exact h.pushed
  · rw [hpreviews, List.getLast?_concat] at hf
    obtain rfl := Option.some.inj hf
    rfl

lemma unfilmed_close (s : WebrtcClient) : Unfilmed s s.closePeerConnection := by
  unfold WebrtcClient.closePeerConnection
  split
  · exact .refl s
  · have hgone : Unfilmed s { s with peerConnection := none } := .same rfl rfl rfl rfl rfl
    exact hgone.put _ rfl

lemma Filming.closeConnection (h : Filming s) : Filming s.closeConnection := by
  have hoff : FilmingAs s.cameraRequested { s with peerConnected := false, cameraRequested := false } := by
    exact ⟨h.alive, h.absent, h.asked, h.chosen, h.following, h.selects, h.pushed, h.blank⟩
  have hclosed := hoff.update.unfilmed ((unfilmed_close _).trans (.same rfl rfl rfl rfl rfl) :
    Unfilmed _ { ({ s with peerConnected := false, cameraRequested := false
      }.updateCameraCapture.closePeerConnection.dropObserver) with localVideoTrack := none })
  unfold WebrtcClient.closeConnection
  dsimp only
  generalize { ({ s with peerConnected := false, cameraRequested := false
      }.updateCameraCapture.closePeerConnection.dropObserver) with localVideoTrack := none } = closed at hclosed ⊢
  have hcleared : Filming (closed.put (.localVideoFrameReady noFrame)) := FilmingAs.clear hclosed
  have hframes := (Unfilmed.refl (closed.put (.localVideoFrameReady noFrame))).put (.remoteVideoFrameReady noFrame) rfl
  split
  · exact hcleared.unfilmed ((hframes.put (.connectionStateChanged .disconnect) rfl).put .disconnected rfl)
  · exact hcleared.unfilmed hframes

lemma Filming.tends (h : Filming s) (hs : Tends s s') : Filming s' := by
  induction hs with
  | same call film =>
    obtain ⟨capture, requested, device⟩ | rfl := film
    · exact h.unfilmed (.same call.alive capture requested device call.history)
    · exact FilmingAs.update h
  | put _ happening hh ih =>
    have hfilms := Happening.films_beside (Bool.and_eq_true_iff.mp hh).1
    exact (ih h).unfilmed ((Unfilmed.refl _).put happening hfilms)
  | post _ event _ ih => exact (ih h).unfilmed ((Beside.refl _).post event).unfilmed
  | trans _ _ ih ih' => exact ih' (ih h)

lemma unfilmed_createPeerConnection (created : Bool) (iceServers : List IceServer) (s : WebrtcClient) :
    Unfilmed s (s.createPeerConnection created iceServers).2 := by
  unfold WebrtcClient.createPeerConnection
  dsimp only
  split_ifs
  any_goals exact .same rfl rfl rfl rfl rfl

lemma Filming.call (h : Filming s) (c : Call) : Filming (s.call c) := by
  cases c with
  | initializeClient answers => exact h.unfilmed (beside_initializeClient answers s).unfilmed
  | prepare => exact h.prepare
  | createPeerConnection created iceServers => exact h.unfilmed (unfilmed_createPeerConnection created iceServers s)
  | createOffer answers onSuccess => exact h.tends (tends_createDescription (fun _ _ => rfl) answers onSuccess s)
  | createAnswer answers onSuccess => exact h.tends (tends_createDescription (fun _ _ => rfl) answers onSuccess s)
  | setRemoteSdp knows parses type sdp onSuccess =>
    exact h.unfilmed (beside_setRemoteSdp knows parses type sdp onSuccess s).unfilmed
  | setRemoteCandidate parses sdp sdpMid sdpMLineIndex =>
    exact h.unfilmed (beside_setRemoteCandidate parses sdp sdpMid sdpMLineIndex s).unfilmed
  | closeConnection => exact h.closeConnection
  | setMuteMicrophone mute => exact h.unfilmed (minor_setMuteMicrophone mute s).beside.unfilmed
  | createLocalCameraTrack answers => exact h.tends (tends_createLocalCameraTrack answers s)
  | setCameraEnabled enable =>
    have hset : FilmingAs s.cameraRequested { s with cameraRequested := enable } :=
      ⟨h.alive, h.absent, h.asked, h.chosen, h.following, h.selects, h.pushed, h.blank⟩
    exact hset.update
  | setCameraDevice device => exact h.setCameraDevice device

lemma Filming.calls (h : Filming s) (calls : List Call) : Filming (calls.foldl WebrtcClient.call s) := by
  induction calls generalizing s with
  | nil => exact h
  | cons c calls ih => exact ih (h.call c)

/-! ### What the capture lets out -/

def outFrame : Output → Option QVideoFrame
  | .frameReady frame => some frame
  | _ => none

def outFrames (outputs : List Output) : List QVideoFrame := outputs.filterMap outFrame

lemma forward_spec (outputs : List Output) (s : WebrtcClient) :
    (outputs.foldl WebrtcClient.forward s).alive = s.alive ∧
    (outputs.foldl WebrtcClient.forward s).capture = s.capture ∧
    (outputs.foldl WebrtcClient.forward s).cameraRequested = s.cameraRequested ∧
    (outputs.foldl WebrtcClient.forward s).cameraDevice = s.cameraDevice ∧
    ranCalls (outputs.foldl WebrtcClient.forward s).history = ranCalls s.history ∧
    pushes (outputs.foldl WebrtcClient.forward s).history = pushes s.history ∧
    previews (outputs.foldl WebrtcClient.forward s).history = previews s.history ++ outFrames outputs := by
  induction outputs generalizing s with
  | nil => exact ⟨rfl, rfl, rfl, rfl, rfl, rfl, (List.append_nil _).symm⟩
  | cons output outputs ih =>
    have hone : (s.forward output).alive = s.alive ∧ (s.forward output).capture = s.capture ∧
        (s.forward output).cameraRequested = s.cameraRequested ∧ (s.forward output).cameraDevice = s.cameraDevice ∧
        ranCalls (s.forward output).history = ranCalls s.history ∧
        pushes (s.forward output).history = pushes s.history ∧
        previews (s.forward output).history = previews s.history ++ outFrames [output] := by
      cases output with
      | frameReady frame =>
        refine ⟨rfl, rfl, rfl, rfl, ?_, ?_, ?_⟩
        · exact (List.filterMap_append ..).trans (List.append_nil _)
        · exact (List.filterMap_append ..).trans (List.append_nil _)
        · exact List.filterMap_append ..
      | errorOccurred message =>
        refine ⟨rfl, rfl, rfl, rfl, ?_, ?_, ?_⟩
        · exact (List.filterMap_append ..).trans (List.append_nil _)
        · exact (List.filterMap_append ..).trans (List.append_nil _)
        · exact List.filterMap_append ..
      | taken frame => exact ⟨rfl, rfl, rfl, rfl, rfl, rfl, (List.append_nil _).symm⟩
    obtain ⟨ha, hc, hr, hd, hcalls, hpushes, hpreviews⟩ := ih (s.forward output)
    obtain ⟨ha', hc', hr', hd', hcalls', hpushes', hpreviews'⟩ := hone
    refine ⟨ha.trans ha', hc.trans hc', hr.trans hr', hd.trans hd', hcalls.trans hcalls', hpushes.trans hpushes', ?_⟩
    rw [List.foldl_cons, hpreviews, hpreviews', List.append_assoc]
    congr 1
    exact (List.filterMap_append (l := [output])).symm

lemma outFrames_quiet (h : Quiet c') : ∀ frame ∈ outFrames c'.outputs, frame.isValid = false := by
  intro frame hf
  obtain ⟨output, ho, he⟩ := List.mem_filterMap.mp hf
  cases output with
  | frameReady f =>
    obtain rfl := Option.some.inj he
    exact h f (Or.inl ho)
  | errorOccurred message => cases he
  | taken f => cases he

lemma FilmingAs.step (h : FilmingAs requested s) (hc : s.capture = some t) (hc' : s'.capture = some t')
    (ha : s'.alive = s.alive) (new : List CaptureCall) {frames : List QVideoFrame}
    (hd : s'.cameraDevice = s.cameraDevice)
    (hcalls : t.calls = new ++ t'.calls) (hran : ranCalls s'.history = ranCalls s.history ++ new)
    (hpushes : pushes s'.history = pushes s.history) (hpreviews : previews s'.history = previews s.history ++ frames)
    (hfollowing : Following (askedBy (ranCalls s.history ++ new)) t'.capture)
    (hselects : Selects (selectedBy (ranCalls s.history ++ new)) t'.capture)
    (hmailbox : (mailbox t'.capture).Sublist (mailbox t.capture ++ frames.filter QVideoFrame.isValid))
    (hblank : askedBy (ranCalls s.history ++ new) = false → (∀ frame ∈ frames, frame.isValid = false) ∧
      (frames = [] → askedBy (ranCalls s.history) = false)) : FilmingAs requested s' := by
  have hthread : ∀ u, s'.capture = some u → u = t' := fun u hu => (Option.some.inj (hc'.symm.trans hu)).symm
  refine ⟨ha.trans h.alive, fun hn => ?_, fun u hu => ?_, fun u hu => ?_, fun u hu => ?_, fun u hu => ?_, ?_,
    fun hoff frame hf => ?_⟩
  · rw [hc'] at hn
    cases hn
  · rw [hthread u hu, hran, List.append_assoc, ← hcalls]
    exact h.asked t hc
  · rw [hthread u hu, hran, List.append_assoc, ← hcalls, hd]
    exact h.chosen t hc
  · rw [hthread u hu, hran]
    exact hfollowing
  · rw [hthread u hu, hran]
    exact hselects
  · have hpushed := h.pushed
    rw [hc] at hpushed
    have hshown : shown s'.history = shown s.history ++ frames.filter QVideoFrame.isValid := by
      unfold shown
      rw [hpreviews, List.filter_append]
    rw [hpushes, hc', hshown]
    change (pushes s.history ++ mailbox t'.capture).Sublist _
    have hall := hpushed.append (List.Sublist.refl (frames.filter QVideoFrame.isValid))
    rw [List.append_assoc] at hall
    exact ((List.Sublist.refl _).append hmailbox).trans hall
  · rw [hran] at hoff
    obtain ⟨hquiet, hold⟩ := hblank hoff
    rw [hpreviews] at hf
    cases hframes : frames.getLast? with
    | none =>
      have hnil : frames = [] := List.getLast?_eq_none_iff.mp hframes
      rw [hnil, List.append_nil] at hf
      exact h.blank (hold hnil) frame hf
    | some last =>
      rw [List.getLast?_append, hframes] at hf
      obtain rfl := Option.some.inj hf
      exact hquiet _ (List.mem_of_getLast? hframes)

lemma Filming.runCapture (h : Filming s) (defaultVideoInput : Option QCameraDevice) :
    Filming (s.runCapture defaultVideoInput) := by
  unfold WebrtcClient.runCapture
  split
  · rename_i capture c calls hc
    have hquiet : Quiet { capture with outputs := [] } := fun frame hf => hf.elim nofun nofun
    obtain ⟨hquiet', hsub⟩ := clears_run hquiet c defaultVideoInput
    have hfollowing := ((h.following _ hc).outputs).run c defaultVideoInput
    have hselects : Selects (selectedBy (ranCalls s.history)) { capture with outputs := [] } := h.selects _ hc
    unfold WebrtcClient.capturing
    dsimp only
    obtain ⟨halive, hcapture, hrequested, hdevice, hran, hpushes, hpreviews⟩ := forward_spec
      (c.run defaultVideoInput { capture with outputs := [] }).outputs
      { s.put (.ranCapture c) with capture := some ⟨c.run defaultVideoInput { capture with outputs := [] }, calls⟩ }
    unfold Filming
    rw [hrequested]
    refine FilmingAs.step h hc hcapture halive [c] hdevice rfl (hran.trans ?_) (hpushes.trans ?_)
      (hpreviews.trans ?_) ?_ ?_ (hsub.trans (List.sublist_append_left _ _))
      fun hoff => ⟨outFrames_quiet hquiet', fun hnil => ?_⟩
    · exact List.filterMap_append ..
    · exact (List.filterMap_append ..).trans (List.append_nil _)
    · congr 1
      exact (List.filterMap_append ..).trans (List.append_nil _)
    · rw [askedBy_concat]
      exact hfollowing
    · rw [selectedBy_concat]
      exact hselects.run c defaultVideoInput
    · rw [askedBy_concat] at hoff
      cases c with
      | prepare device => exact hoff
      | setDevice device => exact hoff
      | start => cases hoff
      | stop => cases hnil
  · exact h

lemma Filming.capturing (h : Filming s) (hc : s.capture = some t) {step : QtCameraCapture → QtCameraCapture}
    (hfollowing : ∀ started c, Following started c → Following started (step c))
    (hdevice : ∀ c, (step c).hasDeviceSelection = c.hasDeviceSelection ∧ (step c).device = c.device)
    (hframes : ∀ c : QtCameraCapture, c.outputs = [] →
      (outFrames (step c).outputs = [] ∧ (step c).latestFrame = c.latestFrame) ∨
      ∃ frame, c.requested = true ∧ outFrames (step c).outputs = [frame] ∧ (step c).latestFrame = frame) :
    Filming (s.capturing step t) := by
  have hselects : Selects (selectedBy (ranCalls s.history)) (step { t.capture with outputs := [] }) := by
    intro d hd
    obtain ⟨hs, he⟩ := hdevice { t.capture with outputs := [] }
    exact ⟨hs.trans (h.selects t hc d hd).1, he.trans (h.selects t hc d hd).2⟩
  have hkept := hfollowing _ _ (h.following t hc).outputs
  unfold WebrtcClient.capturing
  dsimp only
  obtain ⟨halive, hcapture, hrequested, hdevice', hran, hpushes, hpreviews⟩ := forward_spec
    (step { t.capture with outputs := [] }).outputs
    { s with capture := some { t with capture := step { t.capture with outputs := [] } } }
  unfold Filming
  rw [hrequested]
  refine FilmingAs.step h hc hcapture halive [] hdevice' rfl (hran.trans (List.append_nil _).symm) hpushes hpreviews
    ?_ ?_ ?_ fun hoff => ?_
  · rw [List.append_nil]
    exact hkept
  · rw [List.append_nil]
    exact hselects
  · obtain ⟨-, hlatest⟩ | ⟨frame, -, hout, hlatest⟩ := hframes { t.capture with outputs := [] } rfl
    · exact (mailbox_of_latest hlatest).trans (List.sublist_append_left _ _)
    · rw [hout]
      unfold mailbox
      rw [hlatest]
      refine List.Sublist.trans ?_ (List.sublist_append_right _ _)
      cases hv : frame.isValid with
      | true => rw [List.filter_cons_of_pos hv]; exact List.Sublist.refl _
      | false => exact List.nil_sublist _
  · rw [List.append_nil] at hoff
    obtain ⟨hout, -⟩ | ⟨frame, hr, -, -⟩ := hframes { t.capture with outputs := [] } rfl
    · rw [hout]
      exact ⟨nofun, fun _ => hoff⟩
    · have hon := (h.following t hc).requested hr
      rw [hoff] at hon
      cases hon

lemma Filming.videoFrameChanged (h : Filming s) (hc : s.capture = some t) (frame copied : QVideoFrame) :
    Filming (s.capturing (QtCameraCapture.videoFrameChanged frame copied) t) := by
  refine h.capturing hc (fun _ _ hf => hf.videoFrameChanged frame copied) (fun c => ?_) fun c hnone => ?_
  · obtain he | ⟨-, he⟩ := videoFrameChanged_cases frame copied c
    · rw [he]
      exact ⟨rfl, rfl⟩
    · rw [he]
      exact ⟨rfl, rfl⟩
  · obtain he | ⟨hr, he⟩ := videoFrameChanged_cases frame copied c
    · left
      rw [he, hnone]
      exact ⟨rfl, rfl⟩
    · right
      rw [he]
      refine ⟨copied, hr, ?_, rfl⟩
      change outFrames (c.outputs ++ [.frameReady copied]) = _
      rw [hnone]
      rfl

lemma Filming.cameraErrorOccurred (h : Filming s) (hc : s.capture = some t) (message : Text) :
    Filming (s.capturing (QtCameraCapture.cameraErrorOccurred message) t) := by
  refine h.capturing hc (fun _ _ hf => hf.cameraErrorOccurred message) (fun c => ?_) fun c hnone => Or.inl ?_
  · unfold QtCameraCapture.cameraErrorOccurred
    split
    · exact ⟨rfl, rfl⟩
    · exact ⟨rfl, rfl⟩
  · unfold QtCameraCapture.cameraErrorOccurred
    split
    · rw [hnone]
      exact ⟨rfl, rfl⟩
    · refine ⟨?_, rfl⟩
      change outFrames (c.outputs ++ [.errorOccurred message]) = _
      rw [hnone]
      rfl

lemma Filming.takeFrame (h : Filming s) (hc : s.capture = some t) :
    Filming { s with capture := some { t with capture := t.capture.takeFrame } } ∧
      (t.capture.latestFrame.isValid = true → Filming ({ s with capture := some { t with capture := t.capture.takeFrame } }.put
        (.pushFrame t.capture.latestFrame))) := by
  have hthread : ∀ u, some { t with capture := t.capture.takeFrame } = some u →
      u = { t with capture := t.capture.takeFrame } := fun u hu => (Option.some.inj hu).symm
  have hpushed := h.pushed
  rw [hc] at hpushed
  have htaken : Filming { s with capture := some { t with capture := t.capture.takeFrame } } := by
    refine ⟨h.alive, nofun, fun u hu => ?_, fun u hu => ?_, fun u hu => ?_, fun u hu => ?_, ?_, h.blank⟩
    · rw [hthread u hu]
      exact h.asked t hc
    · rw [hthread u hu]
      exact h.chosen t hc
    · rw [hthread u hu]
      exact (h.following t hc).takeFrame
    · rw [hthread u hu]
      exact h.selects t hc
    · exact ((List.Sublist.refl _).append (List.nil_sublist _)).trans hpushed
  refine ⟨htaken, fun hv => ?_⟩
  have hran : ∀ s : WebrtcClient, ranCalls (s.put (.pushFrame t.capture.latestFrame)).history = ranCalls s.history :=
    fun s => (List.filterMap_append ..).trans (List.append_nil _)
  have hpreviews : ∀ s : WebrtcClient,
      previews (s.put (.pushFrame t.capture.latestFrame)).history = previews s.history :=
    fun s => (List.filterMap_append ..).trans (List.append_nil _)
  refine ⟨h.alive, nofun, ?_, ?_, ?_, ?_, ?_, ?_⟩
  · rw [hran]
    exact htaken.asked
  · rw [hran]
    exact htaken.chosen
  · rw [hran]
    exact htaken.following
  · rw [hran]
    exact htaken.selects
  · have hsent : pushes ({ s with capture := some { t with capture := t.capture.takeFrame } }.put
        (.pushFrame t.capture.latestFrame)).history = pushes s.history ++ [t.capture.latestFrame] :=
      List.filterMap_append ..
    have hbox : mailbox t.capture = [t.capture.latestFrame] := if_pos hv
    change (pushes s.history ++ mailbox t.capture).Sublist (shown s.history) at hpushed
    rw [hbox] at hpushed
    unfold shown
    rw [hsent, hpreviews]
    change (pushes s.history ++ [t.capture.latestFrame] ++ []).Sublist (shown s.history)
    rwa [List.append_nil]
  · rw [hran, hpreviews]
    exact htaken.blank

lemma Filming.showRemoteFrame (h : Filming s) : Filming s.showRemoteFrame := by
  unfold WebrtcClient.showRemoteFrame
  split
  · rename_i observer _
    have htaken : Unfilmed s { s with
        peerObserver := some { observer with latestFrame := noFrame, framePending := false } } :=
      .same rfl rfl rfl rfl rfl
    split
    · exact h.unfilmed (htaken.put (.remoteVideoFrameReady _) rfl)
    · exact h
  · exact h

lemma Filming.pushLocalFrame (h : Filming s) (converted : Bool) : Filming (s.pushLocalFrame converted) := by
  unfold WebrtcClient.pushLocalFrame
  split
  · rename_i hc _
    split
    · obtain ⟨htaken, hsent⟩ := h.takeFrame hc
      dsimp only
      split
      · rename_i hv
        rw [Bool.and_eq_true] at hv
        exact hsent hv.1
      · exact htaken
    · exact h
  · exact h

lemma Filming.videoTimeout (h : Filming s) (converted : Bool) : Filming (s.videoTimeout converted) :=
  h.showRemoteFrame.pushLocalFrame converted

/-! ### Runs -/

lemma unfilmed_showState (state : PeerConnectionState) (s : WebrtcClient) : Unfilmed s (s.showState state) := by
  have hset : Unfilmed s { s with peerConnected := decide (state = PeerConnectionState.connected) } :=
    .same rfl rfl rfl rfl rfl
  unfold WebrtcClient.showState
  split
  · exact hset
  · exact hset.put (.remoteVideoFrameReady noFrame) rfl

lemma Filming.connectionStateChanged (h : Filming s) (state : PeerConnectionState) :
    Filming (s.connectionStateChanged state) := by
  obtain ⟨told, hs⟩ := connectionStateChanged_cases state s
  have hupdated := FilmingAs.update (h.unfilmed (unfilmed_showState state s))
  exact hupdated.unfilmed (((Unfilmed.refl _).put (.connectionStateChanged told) rfl).trans hs.beside.unfilmed)

lemma Filming.run (h : Filming s) (calls : List Call) (event : Posted) : Filming (s.run calls event) := by
  cases event with
  | sdpCreated request guard onSuccess type sdp =>
    change Filming (if !s.guarded guard then s else _)
    split
    · exact h
    · have hcalled : Filming (calls.foldl WebrtcClient.call (s.put (.localSdpCreated type sdp))) :=
        (h.unfilmed ((Unfilmed.refl s).put (.localSdpCreated type sdp) rfl)).calls calls
      split
      · exact hcalled.unfilmed ((Unfilmed.refl _).put (.onSdp _ _ _) rfl)
      · exact hcalled
  | remoteSdpSet request guard onSuccess =>
    change Filming (if s.guarded guard && onSuccess then _ else s)
    split
    · exact h.unfilmed ((Unfilmed.refl s).put (.onRemoteSdp _ _) rfl)
    · exact h
  | connectionStateChanged observer state => exact h.connectionStateChanged state
  | iceCandidateChanged observer candidate sdpMid sdpMLineIndex =>
    exact h.unfilmed ((Unfilmed.refl s).put (.localIceCandidateGenerated candidate sdpMid sdpMLineIndex) rfl)
  | peerErrorOccurred observer message => exact h.unfilmed ((Unfilmed.refl s).put (.errorOccurred message) rfl)
  | captureErrorOccurred message => exact h.unfilmed ((Unfilmed.refl s).put (.errorOccurred message) rfl)

lemma Filming.runPosted (h : Filming s) (calls : List Call) : Filming (s.runPosted calls) := by
  unfold WebrtcClient.runPosted
  split
  · exact h
  · rename_i event rest _
    have hrest : Unfilmed s { s with posted := rest } := .same rfl rfl rfl rfl rfl
    exact (h.unfilmed (hrest.put (.ran event) rfl)).run calls event

lemma Following.runs {started : Bool} {c : QtCameraCapture} (h : Following started c) (calls : List CaptureCall)
    (defaultVideoInput : Option QCameraDevice) :
    ∃ started', Following started' (calls.foldl (fun c call => call.run defaultVideoInput c) c) := by
  induction calls generalizing started c with
  | nil => exact ⟨started, h⟩
  | cons call calls ih => exact ih (h.run call defaultVideoInput)

lemma unfilmed_dropObserver (s : WebrtcClient) : Unfilmed s s.dropObserver := .same rfl rfl rfl rfl rfl

lemma Filming.destroy (h : Filming s) (defaultVideoInput : Option QCameraDevice) :
    Ended (s.destroy defaultVideoInput) := by
  have hu := (unfilmed_close s).trans (unfilmed_dropObserver s.closePeerConnection)
  have hclosed := h.unfilmed hu
  have hcapture := hu.capture
  unfold WebrtcClient.destroy
  generalize s.closePeerConnection.dropObserver = closed at hclosed hcapture ⊢
  have hthread : ∀ t', s.capture.map (CaptureThread.quit defaultVideoInput) = some t' →
      ∃ t, s.capture = some t ∧ t.quit defaultVideoInput = t' := fun t' ht => Option.map_eq_some_iff.mp ht
  refine ⟨rfl, rfl, fun t' ht => ?_, fun t' ht => ?_, (List.sublist_append_left _ _).trans hclosed.pushed⟩
  · obtain ⟨t, -, rfl⟩ := hthread t' ht
    rfl
  · obtain ⟨t, hc, rfl⟩ := hthread t' ht
    obtain ⟨started, hf⟩ := (h.following t hc).runs t.calls defaultVideoInput
    exact hf.stop

lemma Ended.unfilmed (h : Ended s) (hu : Unfilmed s s') : Ended s' := by
  obtain ⟨more, he, hm⟩ := hu.history
  have hpreviews : previews s'.history = previews s.history := by
    rw [he]
    exact filterMap_unfilmed preview_unfilmed hm
  have hpushes : pushes s'.history = pushes s.history := by
    rw [he]
    exact filterMap_unfilmed pushed_unfilmed hm
  refine ⟨hu.alive.trans h.alive, hu.requested.trans h.requested, ?_, ?_, ?_⟩
  · rw [hu.capture]
    exact h.calls
  · rw [hu.capture]
    exact h.following
  · unfold shown
    rw [hpushes, hpreviews]
    exact h.pushed

lemma unfilmed_onFrame (image : Option QVideoFrame) (s : WebrtcClient) : Unfilmed s (s.onFrame image) := by
  unfold WebrtcClient.onFrame
  split
  · rename_i image _ _
    have hset : Unfilmed s (s.observed (PeerConnectionObserver.onFrame image)) := .same rfl rfl rfl rfl rfl
    exact hset.put (.onFrame image) rfl
  · exact .refl s

def Recorded (s : WebrtcClient) : Prop := Filming s ∨ Ended s

lemma Recorded.unfilmed (h : Recorded s) (hu : Unfilmed s s') : Recorded s' :=
  h.imp (fun hf => hf.unfilmed hu) (fun he => he.unfilmed hu)

lemma filming_first : Filming {} := by
  refine ⟨rfl, fun _ => ⟨rfl, rfl⟩, ?_, ?_, ?_, ?_, List.Sublist.refl _, ?_⟩
  · intro t ht
    cases ht
  · intro t ht
    cases ht
  · intro t ht
    cases ht
  · intro t ht
    cases ht
  · intro _ frame hf
    cases hf

lemma Recorded.step (h : Recorded s) (e : ClientEvent) : Recorded (clientStep s e) := by
  have hlive : ∀ {u : WebrtcClient}, (Filming s → Filming u) → Recorded (if !s.alive then s else u) := by
    intro u hu
    obtain hf | he := h
    · rw [hf.alive]
      exact Or.inl (hu hf)
    · rw [he.alive]
      exact Or.inr he
  have haside : ∀ {u : WebrtcClient}, Unfilmed s u → Recorded (if !s.alive then s else u) :=
    fun hu => hlive fun hf => hf.unfilmed hu
  cases e with
  | descriptionCreated request description =>
    exact h.unfilmed (minor_descriptionCreated request description s).beside.unfilmed
  | descriptionFailed request => exact h.unfilmed (minor_forget request s).beside.unfilmed
  | localDescriptionSet request ok => exact h.unfilmed (minor_localDescriptionSet request ok s).beside.unfilmed
  | remoteDescriptionSet request ok => exact h.unfilmed (minor_remoteDescriptionSet request ok s).beside.unfilmed
  | call call => exact hlive fun hf => hf.call call
  | runPosted calls => exact hlive fun hf => hf.runPosted calls
  | videoTimeout converted => exact hlive fun hf => hf.videoTimeout converted
  | destroy defaultVideoInput =>
    obtain hf | he := h
    · change Recorded (if !s.alive then s else _)
      rw [hf.alive]
      exact Or.inr (hf.destroy defaultVideoInput)
    · change Recorded (if !s.alive then s else _)
      rw [he.alive]
      exact Or.inr he
  | runCapture defaultVideoInput => exact hlive fun hf => hf.runCapture defaultVideoInput
  | videoFrameChanged mapped pixelsMapped frame pixels =>
    refine hlive fun hf => ?_
    split
    · rename_i hc
      exact hf.videoFrameChanged hc frame (copyCameraFrame mapped pixelsMapped frame pixels).1
    · exact hf
  | cameraErrorOccurred message =>
    refine hlive fun hf => ?_
    split
    · rename_i hc
      exact hf.cameraErrorOccurred hc message
    · exact hf
  | onConnectionChange state => exact haside (beside_onConnectionChange state s).unfilmed
  | onIceConnectionFailed => exact haside (minor_onIceConnectionFailed s).beside.unfilmed
  | onIceCandidate candidate sdpMid sdpMLineIndex =>
    exact haside (minor_onIceCandidate candidate sdpMid sdpMLineIndex s).beside.unfilmed
  | onIceCandidateError message => exact haside (minor_onIceCandidateError message s).beside.unfilmed
  | onTrack track => exact haside (.same rfl rfl rfl rfl rfl)
  | onRemoveTrack track => exact haside (.same rfl rfl rfl rfl rfl)
  | onFrame image => exact haside (unfilmed_onFrame image s)

end

lemma recorded_after (es : List ClientEvent) : Recorded (after clientStep {} es) := by
  have hrun : ∀ s : WebrtcClient, Recorded s → Recorded (after clientStep s es) := by
    induction es with
    | nil => exact fun s hs => hs
    | cons e es ih => exact fun s hs => ih _ (hs.step e)
  exact hrun {} (Or.inl filming_first)

/-- When the client does not want the camera and no call of the capture waits, it is off, holds no frame, and the
preview is clear. -/
theorem camera_off (es : List ClientEvent) (t : CaptureThread) (h : (after clientStep {} es).capture = some t)
    (hcalls : t.calls = []) (hoff : (after clientStep {} es).cameraRequested = false) :
    t.capture.running = false ∧ t.capture.latestFrame.isValid = false ∧ ((after clientStep {} es).alive = true →
      ∀ frame, (previews (after clientStep {} es).history).getLast? = some frame → frame.isValid = false) := by
  obtain hf | he := recorded_after es
  · have hasked := hf.asked t h
    rw [hcalls, List.append_nil, hoff] at hasked
    have hfollowing := hf.following t h
    rw [hasked] at hfollowing
    exact ⟨Bool.eq_false_of_not_eq_true hfollowing.not_running, (hfollowing.off rfl).2, fun _ => hf.blank hasked⟩
  · have hfollowing := he.following t h
    refine ⟨Bool.eq_false_of_not_eq_true hfollowing.not_running, (hfollowing.off rfl).2, fun ha => ?_⟩
    rw [he.alive] at ha
    cases ha

theorem camera_off_closed : ∃ t, (after clientStep {} [.call (.setCameraDevice (some frontCamera)),
    .call (.setCameraEnabled true), .runCapture none, .runCapture none, .call .closeConnection,
    .runCapture none]).capture = some t ∧ t.capture.running = false :=
  ⟨_, rfl, (camera_off [.call (.setCameraDevice (some frontCamera)), .call (.setCameraEnabled true),
    .runCapture none, .runCapture none, .call .closeConnection, .runCapture none] _ rfl rfl rfl).1⟩

theorem pushes_shown (es : List ClientEvent) :
    (pushes (after clientStep {} es).history).Sublist (shown (after clientStep {} es).history) := by
  obtain hf | he := recorded_after es
  · exact (List.sublist_append_left _ _).trans hf.pushed
  · exact he.pushed

end ChatDesktop.Voip.Rtc
