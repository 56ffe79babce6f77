import ChatDesktop.Voip.Negotiation

namespace ChatDesktop.Voip.Rtc

open Library Library.Text Library.Reactive Camera

section

variable {s s' s'' : WebrtcClient} {r n : ℕ} {guard : Option ℕ} {stage : Stage} {h : Happening} {event : Posted}

/-! ### The calls of the client -/

lemma fine_prepare (s : WebrtcClient) : Fine s s.prepare := by
  unfold WebrtcClient.prepare
  split <;> exact .same rfl rfl rfl rfl rfl rfl rfl

lemma fine_updateCameraCapture (s : WebrtcClient) : Fine s s.updateCameraCapture := by
  have htrack : Fine s { s with localVideoTrack := s.localVideoTrack.map (VideoTrack.setEnabled s.cameraRequested) } :=
    .same rfl rfl rfl rfl rfl rfl rfl
  unfold WebrtcClient.updateCameraCapture
  dsimp only
  split
  · exact (htrack.trans (fine_prepare _)).trans (.same rfl rfl rfl rfl rfl rfl rfl)
  · exact htrack.trans (.same rfl rfl rfl rfl rfl rfl rfl)

lemma current_updateCameraCapture (s : WebrtcClient) : s.updateCameraCapture.peerConnection = s.peerConnection := by
  unfold WebrtcClient.updateCameraCapture WebrtcClient.prepare
  dsimp only
  split
  · split <;> rfl
  · rfl

lemma peerConnection_addVideoTrack (s : WebrtcClient) : s.addVideoTrack.peerConnection = s.peerConnection := by
  unfold WebrtcClient.addVideoTrack
  split <;> rfl

lemma fine_addVideoTrack (s : WebrtcClient) : Fine s s.addVideoTrack := by
  unfold WebrtcClient.addVideoTrack
  split
  · exact .refl s
  · exact .same rfl rfl rfl rfl rfl rfl rfl

lemma createLocalCameraTrack_fine (answers : TrackAnswers) (s : WebrtcClient) :
    Fine s (s.createLocalCameraTrack answers) ∧ (s.createLocalCameraTrack answers).current = s.current := by
  have hupdated : Fine s s.addVideoTrack.updateCameraCapture :=
    (fine_addVideoTrack s).trans (fine_updateCameraCapture s.addVideoTrack)
  have hcurrent : s.addVideoTrack.updateCameraCapture.peerConnection = s.peerConnection :=
    (current_updateCameraCapture _).trans (peerConnection_addVideoTrack s)
  have hsame : s.addVideoTrack.updateCameraCapture.current = s.current := congrArg (Option.map _) hcurrent
  unfold WebrtcClient.createLocalCameraTrack
  split
  · exact ⟨.refl s, rfl⟩
  · split
    · exact ⟨.refl s, rfl⟩
    · split
      · exact ⟨.refl s, rfl⟩
      · dsimp only
        split
        · rename_i connection track hconnection htrack
          have hadded : (s.addVideoTrack.updateCameraCapture).current = some connection.number :=
            congrArg (Option.map PeerConnection.number) hconnection
          split
          · exact ⟨hupdated, hsame⟩
          · split
            · exact ⟨hupdated.trans (.same rfl hadded.symm rfl rfl rfl rfl rfl), hadded.symm.trans hsame⟩
            · exact ⟨hupdated.signal _ rfl, hsame⟩
        · exact ⟨hupdated, hsame⟩

lemma fine_initializeClient (answers : Initialization) (s : WebrtcClient) : Fine s (s.initializeClient answers).2 := by
  unfold WebrtcClient.initializeClient WebrtcClient.createLocalAudioTrack
  split_ifs
  any_goals exact .same rfl rfl rfl rfl rfl rfl rfl
  exact (Fine.refl s).signal _ rfl

lemma fine_createPeerConnection (created : Bool) (iceServers : List IceServer) (s : WebrtcClient) :
    Fine s (s.createPeerConnection created iceServers).2 := by
  unfold WebrtcClient.createPeerConnection
  split
  · exact .refl s
  · split
    · exact .refl s
    · rename_i hnone
      have hcurrent : s.peerConnection = none := by simpa using hnone
      split
      · exact .refl s
      · dsimp only
        split
        · refine fine_cut (fun n hn => ?_) (fun n hn => ?_) (Nat.le_succ _) rfl rfl rfl (Or.inl rfl)
          · obtain rfl := Option.some.inj hn
            exact ⟨rfl, Nat.lt_succ_self _⟩
          · change s.peerConnection.map PeerConnection.number = some n at hn
            rw [hcurrent] at hn
            cases hn
        · refine fine_cut (fun n hn => ?_) (fun n hn => hn) (Nat.le_succ _) rfl rfl rfl (Or.inl rfl)
          obtain rfl := Option.some.inj hn
          exact ⟨rfl, Nat.lt_succ_self _⟩

lemma fine_request (onSuccess : Bool) (hp : Plain h) (hn : h.connection = some n) (hc : s.current = some n)
    (hj : Justified s.history h) (hr : stage.Reached (s.history ++ [h]) s.requests n) :
    Fine s ((s.put h).observe stage onSuccess) := by
  intro hs
  have hput : Fine s (s.put h) := by
    refine fine_put hp (fun m hm => ?_) hj
    obtain rfl := Option.some.inj (hn.symm.trans hm)
    exact hs.current _ hc
  have hcurrent : (s.put h).current = some n := hc
  exact hput.trans (fine_observe onSuccess hcurrent hr) hs

lemma fine_createDescription {create : ℕ → ℕ → Happening}
    (hcreate : create = .createOffer ∨ create = .createAnswer) (answers : TrackAnswers) (onSuccess : Bool)
    (s : WebrtcClient) : Fine s (s.createDescription create answers onSuccess) := by
  unfold WebrtcClient.createDescription
  split
  · exact .refl s
  · rename_i connection hconnection
    have hcurrent : s.current = some connection.number := congrArg (Option.map PeerConnection.number) hconnection
    split
    · exact .refl s
    · split
      · exact .refl s
      · dsimp only
        have haudio : Fine s { s with peerConnection := some (connection.addTrack .audio) } :=
          .same rfl hcurrent.symm rfl rfl rfl rfl rfl
        obtain ⟨hfine, hkept⟩ :=
          createLocalCameraTrack_fine answers { s with peerConnection := some (connection.addTrack .audio) }
        refine (haudio.trans hfine).trans ?_
        obtain rfl | rfl := hcreate
        · exact fine_request onSuccess ⟨rfl, rfl, rfl, nofun⟩ rfl hkept trivial
            (Or.inl (List.mem_append_right _ List.mem_cons_self))
        · exact fine_request onSuccess ⟨rfl, rfl, rfl, nofun⟩ rfl hkept trivial
            (Or.inr (List.mem_append_right _ List.mem_cons_self))

lemma fine_setRemoteSdp (knows parses : Bool) (type sdp : QString) (onSuccess : Bool) (s : WebrtcClient) :
    Fine s (s.setRemoteSdp knows parses type sdp onSuccess).2 := by
  unfold WebrtcClient.setRemoteSdp
  split
  · exact .refl s
  · rename_i connection hconnection
    have hcurrent : s.current = some connection.number := congrArg (Option.map PeerConnection.number) hconnection
    split
    · exact .refl s
    · split
      · exact .refl s
      · exact fine_request onSuccess ⟨rfl, rfl, rfl, nofun⟩ rfl hcurrent trivial
          ⟨type, sdp, List.mem_append_right _ List.mem_cons_self⟩

lemma fine_setRemoteCandidate (parses : Bool) (sdp sdpMid : QString) (sdpMLineIndex : ℤ) (s : WebrtcClient) :
    Fine s (s.setRemoteCandidate parses sdp sdpMid sdpMLineIndex).2 := by
  intro hs
  unfold WebrtcClient.setRemoteCandidate
  split
  · exact Fine.refl s hs
  · rename_i connection hconnection
    refine fine_put ⟨rfl, rfl, rfl, nofun⟩ (fun n hn => ?_) trivial hs
    obtain rfl := Option.some.inj hn
    exact hs.current _ (congrArg (Option.map PeerConnection.number) hconnection)

lemma fine_setMuteMicrophone (mute : Bool) (s : WebrtcClient) : Fine s (s.setMuteMicrophone mute) := by
  unfold WebrtcClient.setMuteMicrophone
  split
  · exact .refl s
  · split
    · exact .refl s
    · exact .same rfl rfl rfl rfl rfl rfl rfl

lemma fine_closeConnection (s : WebrtcClient) : Fine s s.closeConnection := by
  have hoff : Fine s { s with peerConnected := false, cameraRequested := false } := .same rfl rfl rfl rfl rfl rfl rfl
  have hupdated := hoff.trans (fine_updateCameraCapture _)
  have hclosed : Fine s ({ s with peerConnected := false, cameraRequested := false
      }.updateCameraCapture.closePeerConnection.dropObserver) :=
    hupdated.trans fun hs => fine_close hs.current hs
  unfold WebrtcClient.closeConnection
  dsimp only
  generalize { s with peerConnected := false, cameraRequested := false
    }.updateCameraCapture.closePeerConnection.dropObserver = closed at hclosed ⊢
  have hcleared : Fine s { closed with localVideoTrack := none } := hclosed.trans (.same rfl rfl rfl rfl rfl rfl rfl)
  have hframes := (hcleared.signal (.localVideoFrameReady noFrame) rfl).signal (.remoteVideoFrameReady noFrame) rfl
  split
  · exact (hframes.signal (.connectionStateChanged .disconnect) rfl).signal .disconnected rfl
  · exact hframes

lemma fine_call (c : Call) (s : WebrtcClient) : Fine s (s.call c) := by
  cases c with
  | initializeClient answers => exact fine_initializeClient answers s
  | prepare => exact fine_prepare s
  | createPeerConnection created iceServers => exact fine_createPeerConnection created iceServers s
  | createOffer answers onSuccess => exact fine_createDescription (Or.inl rfl) answers onSuccess s
  | createAnswer answers onSuccess => exact fine_createDescription (Or.inr rfl) answers onSuccess s
  | setRemoteSdp knows parses type sdp onSuccess => exact fine_setRemoteSdp knows parses type sdp onSuccess s
  | setRemoteCandidate parses sdp sdpMid sdpMLineIndex =>
    exact fine_setRemoteCandidate parses sdp sdpMid sdpMLineIndex s
  | closeConnection => exact fine_closeConnection s
  | setMuteMicrophone mute => exact fine_setMuteMicrophone mute s
  | createLocalCameraTrack answers => exact (createLocalCameraTrack_fine answers s).1
  | setCameraEnabled enable =>
    have hset : Fine s { s with cameraRequested := enable } := .same rfl rfl rfl rfl rfl rfl rfl
    exact hset.trans (fine_updateCameraCapture _)
  | setCameraDevice device => exact .same rfl rfl rfl rfl rfl rfl rfl

lemma fine_calls (calls : List Call) (s : WebrtcClient) : Fine s (calls.foldl WebrtcClient.call s) := by
  induction calls generalizing s with
  | nil => exact .refl s
  | cons c calls ih => exact (fine_call c s).trans (ih (s.call c))

/-! ### What comes from other threads -/

lemma guarded_some (hg : s.guarded guard = true) : ∃ n, guard = some n ∧ s.observing = some n := by
  unfold WebrtcClient.guarded at hg
  rw [Bool.and_eq_true, Bool.and_eq_true, decide_eq_true_iff] at hg
  obtain ⟨n, hn⟩ := Option.isSome_iff_exists.mp hg.1.2
  exact ⟨n, hn, hg.2.trans hn⟩

lemma Stands.connected (hst : Stands s r guard stage n) (hg : s.guarded guard = true) : s.current = some n := by
  obtain ⟨m, hm, ho⟩ := guarded_some hg
  obtain rfl := Option.some.inj (hm.symm.trans hst.guard)
  exact hst.current ho

lemma fine_connectionStateChanged (state : PeerConnectionState) (s : WebrtcClient) :
    Fine s (s.connectionStateChanged state) := by
  have hset : Fine s { s with peerConnected := decide (state = PeerConnectionState.connected) } :=
    .same rfl rfl rfl rfl rfl rfl rfl
  unfold WebrtcClient.connectionStateChanged
  dsimp only
  have hupdated : Fine s (if decide (state = PeerConnectionState.connected) = true then
      { s with peerConnected := decide (state = PeerConnectionState.connected) }
      else { s with peerConnected := decide (state = PeerConnectionState.connected) }.put
        (.remoteVideoFrameReady noFrame)).updateCameraCapture := by
    split
    · exact hset.trans (fine_updateCameraCapture _)
    · exact (hset.signal (.remoteVideoFrameReady noFrame) rfl).trans (fine_updateCameraCapture _)
  refine hupdated.trans ?_
  generalize (if decide (state = PeerConnectionState.connected) = true then
      { s with peerConnected := decide (state = PeerConnectionState.connected) }
      else { s with peerConnected := decide (state = PeerConnectionState.connected) }.put
        (.remoteVideoFrameReady noFrame)).updateCameraCapture = updated
  have hgone := ((Fine.refl updated).signal (.connectionStateChanged .disconnect) rfl).signal .disconnected rfl
  cases state with
  | new => exact (Fine.refl updated).signal (.connectionStateChanged .checking) rfl
  | connecting => exact (Fine.refl updated).signal (.connectionStateChanged .connecting) rfl
  | connected =>
    have hsignals := ((Fine.refl updated).signal (.connectionStateChanged .connected) rfl).signal .connected rfl
    exact hsignals.trans (fine_setMuteMicrophone false _)
  | disconnected => exact hgone
  | failed => exact hgone
  | closed => exact hgone

lemma Negotiating.run (hs : Negotiating s) (calls : List Call) (hready : event.Ready s)
    (hfree : ∀ r, event.request = some r → Free s r) : Negotiating (s.run calls event) := by
  cases event with
  | sdpCreated request guard onSuccess type sdp =>
    change Negotiating (if !s.guarded guard then s else _)
    split
    · exact hs
    · have hfine : Fine s (calls.foldl WebrtcClient.call (s.put (.localSdpCreated type sdp))) :=
        ((Fine.refl s).signal (.localSdpCreated type sdp) rfl).trans (fine_calls calls _)
      obtain ⟨hs', hg⟩ := hfine hs
      split
      · rename_i hguarded
        rw [Bool.and_eq_true] at hguarded
        obtain ⟨n, hst⟩ := hready
        have hst' := hst.grow hg
        have hcurrent := hst'.connected hguarded.1
        refine hs'.answer (hg.free request (hfree request rfl)) rfl rfl rfl hs'.current (fun _ => nofun) ?_
        exact ⟨n, type, hcurrent, hst'.reached.1, hst'.reached.2⟩
      · exact hs'
  | remoteSdpSet request guard onSuccess =>
    change Negotiating (if s.guarded guard && onSuccess then _ else s)
    split
    · rename_i hguarded
      rw [Bool.and_eq_true] at hguarded
      obtain ⟨n, hst⟩ := hready
      obtain ⟨type, sdp, hmem⟩ := hst.reached
      refine hs.answer (hfree request rfl) rfl rfl rfl hs.current (fun n => by intro hn; cases hn) ?_
      exact ⟨n, type, sdp, hst.connected hguarded.1, hmem⟩
    · exact hs
  | connectionStateChanged observer state => exact (fine_connectionStateChanged state s hs).1
  | iceCandidateChanged observer candidate sdpMid sdpMLineIndex =>
    exact ((Fine.refl s).signal (.localIceCandidateGenerated candidate sdpMid sdpMLineIndex) rfl hs).1
  | peerErrorOccurred observer message => exact ((Fine.refl s).signal (.errorOccurred message) rfl hs).1
  | captureErrorOccurred message => exact ((Fine.refl s).signal (.errorOccurred message) rfl hs).1

lemma Negotiating.runPosted (hs : Negotiating s) (calls : List Call) : Negotiating (s.runPosted calls) := by
  unfold WebrtcClient.runPosted
  cases hp : s.posted with
  | nil => exact hs
  | cons event rest =>
    obtain ⟨hs', hready, hfree⟩ := hs.pop hp
    exact hs'.run calls hready hfree

lemma Negotiating.descriptionCreated (hs : Negotiating s) (r : ℕ) (description : Option (QString × QString)) :
    Negotiating (s.descriptionCreated r description) := by
  unfold WebrtcClient.descriptionCreated
  split
  · rename_i guard onSuccess ho
    obtain ⟨hs', hg⟩ := hs.forget r
    have hf := hs.free_forget ho
    obtain ⟨n, hst⟩ := hs.outstanding r _ ho
    have hst' := hst.grow hg
    dsimp only
    split
    · rename_i connection type sdp hcurrent
      split
      · rename_i hguarded
        obtain rfl : connection = n := Option.some.inj (hcurrent.symm.trans (hst'.connected hguarded))
        have hput : Fine (s.forget r) ((s.forget r).put (.setLocalDescription r connection type sdp)) := by
          refine fine_put ⟨rfl, rfl, rfl, nofun⟩ (fun m hm => ?_) hst'.reached
          obtain rfl := Option.some.inj hm
          exact hs'.current _ hcurrent
        obtain ⟨hs'', hg'⟩ := hput hs'
        refine hs''.replace (hg'.free r hf) fun o' ho' => ?_
        obtain rfl := Option.some.inj ho'
        have hst'' := hst'.grow hg'
        exact ⟨connection, hst''.number, hst''.guard, hst''.known, hst''.current, hst''.reached,
          List.mem_append_right _ List.mem_cons_self⟩
      · exact hs'
    · exact hs'
  · exact hs

lemma Negotiating.localDescriptionSet (hs : Negotiating s) (r : ℕ) (ok : Bool) :
    Negotiating (s.localDescriptionSet r ok) := by
  unfold WebrtcClient.localDescriptionSet
  split
  · rename_i guard onSuccess type sdp ho
    obtain ⟨hs', hg⟩ := hs.forget r
    dsimp only
    split
    · exact hs'.complete (hs.free_forget ho) rfl rfl ((hs.outstanding r _ ho).imp fun n hst => hst.grow hg)
    · exact hs'
  · exact hs

lemma Negotiating.remoteDescriptionSet (hs : Negotiating s) (r : ℕ) (ok : Bool) :
    Negotiating (s.remoteDescriptionSet r ok) := by
  unfold WebrtcClient.remoteDescriptionSet
  split
  · rename_i guard onSuccess ho
    obtain ⟨hs', hg⟩ := hs.forget r
    dsimp only
    split
    · exact hs'.complete (hs.free_forget ho) rfl rfl ((hs.outstanding r _ ho).imp fun n hst => hst.grow hg)
    · exact hs'
  · exact hs

lemma fine_forward (output : Output) (s : WebrtcClient) : Fine s (s.forward output) := by
  cases output with
  | frameReady frame => exact (Fine.refl s).signal (.localVideoFrameReady frame) rfl
  | errorOccurred message => exact fine_post rfl (fun n => by intro hn; cases hn)
  | taken frame => exact .refl s

lemma fine_capturing (step : QtCameraCapture → QtCameraCapture) (thread : CaptureThread) (s : WebrtcClient) :
    Fine s (s.capturing step thread) := by
  have hforward : ∀ (outputs : List Output) (s : WebrtcClient), Fine s (outputs.foldl WebrtcClient.forward s) := by
    intro outputs
    induction outputs with
    | nil => exact fun s => .refl s
    | cons output outputs ih => exact fun s => (fine_forward output s).trans (ih _)
  have hset : Fine s { s with capture := some { thread with capture := step { thread.capture with outputs := [] } } } :=
    .same rfl rfl rfl rfl rfl rfl rfl
  exact hset.trans (hforward _ _)

lemma fine_runCapture (defaultVideoInput : Option QCameraDevice) (s : WebrtcClient) :
    Fine s (s.runCapture defaultVideoInput) := by
  unfold WebrtcClient.runCapture
  split
  · rename_i c calls _
    exact ((Fine.refl s).signal (.ranCapture c) rfl).trans (fine_capturing _ _ _)
  · exact .refl s

lemma fine_showRemoteFrame (s : WebrtcClient) : Fine s s.showRemoteFrame := by
  unfold WebrtcClient.showRemoteFrame
  split
  · rename_i observer hobserver
    have hnumber : some observer.number = s.observing :=
      (congrArg (Option.map PeerConnectionObserver.number) hobserver).symm
    have htaken : Fine s { s with
        peerObserver := some { observer with latestFrame := noFrame, framePending := false } } :=
      .same hnumber rfl rfl rfl rfl rfl rfl
    split
    · exact htaken.signal (.remoteVideoFrameReady _) rfl
    · exact .refl s
  · exact .refl s

lemma fine_pushLocalFrame (converted : Bool) (s : WebrtcClient) : Fine s (s.pushLocalFrame converted) := by
  unfold WebrtcClient.pushLocalFrame
  split
  · rename_i thread track hthread htrack
    have htaken : Fine s { s with capture := some { thread with capture := thread.capture.takeFrame } } :=
      .same rfl rfl rfl rfl rfl rfl rfl
    split
    · dsimp only
      split
      · exact htaken.signal (.pushFrame _) rfl
      · exact htaken
    · exact .refl s
  · exact .refl s

lemma fine_videoTimeout (converted : Bool) (s : WebrtcClient) : Fine s (s.videoTimeout converted) :=
  (fine_showRemoteFrame s).trans (fine_pushLocalFrame converted _)

lemma fine_observed {f : PeerConnectionObserver → PeerConnectionObserver} (hf : ∀ o, (f o).number = o.number)
    (s : WebrtcClient) : Fine s (s.observed f) := by
  refine .same ?_ rfl rfl rfl rfl rfl rfl
  change (s.peerObserver.map f).map PeerConnectionObserver.number = s.peerObserver.map PeerConnectionObserver.number
  rw [Option.map_map]
  exact congrFun (congrArg Option.map (funext hf)) s.peerObserver

lemma fine_onFrame (image : Option QVideoFrame) (s : WebrtcClient) : Fine s (s.onFrame image) := by
  unfold WebrtcClient.onFrame
  split
  · rename_i image _ _
    have hset := fine_observed (f := PeerConnectionObserver.onFrame image) (fun _ => rfl) s
    exact hset.signal (.onFrame image) rfl
  · exact .refl s

lemma fine_posts (hr : event.request = none) (ho : event.observer = some n) (hn : s.observing = some n) :
    Fine s (s.post event) := by
  refine fine_post hr fun m hm => ?_
  rw [hn, ← ho, hm]

lemma fine_onConnectionChange (state : PeerConnectionState) (s : WebrtcClient) :
    Fine s (s.onConnectionChange state) := by
  unfold WebrtcClient.onConnectionChange
  split
  · exact .refl s
  · rename_i n hn
    have hposted : Fine s (s.post (.connectionStateChanged n state)) := fine_posts rfl rfl hn
    dsimp only
    split
    · exact hposted.trans (fine_posts rfl rfl hn)
    · exact hposted

lemma Negotiating.destroy (hs : Negotiating s) (defaultVideoInput : Option QCameraDevice) :
    Negotiating (s.destroy defaultVideoInput) := by
  have hclosed := (fine_close hs.current hs).1
  have hnone : s.closePeerConnection.dropObserver.observing = none := rfl
  unfold WebrtcClient.destroy
  generalize s.closePeerConnection.dropObserver = t at hclosed hnone ⊢
  have hsub : ((s.destroy defaultVideoInput).posted.filterMap Posted.request ++
      t.history.filterMap Happening.answered).Sublist
      (t.posted.filterMap Posted.request ++ t.history.filterMap Happening.answered) :=
    List.sublist_append_right _ _
  refine ⟨hclosed.observing, hclosed.current, fun r o ho => ?_, fun event he => absurd he List.not_mem_nil,
    ⟨hsub.nodup hclosed.single.once, fun r hr => hclosed.single.number r (hsub.subset hr),
      fun r hr => hclosed.single.gone r (hsub.subset hr)⟩, fun n => ?_, hclosed.justified, hclosed.silent⟩
  · obtain ⟨n, hst⟩ := hclosed.outstanding r o ho
    exact ⟨n, hst.number, hst.guard, hst.known, hst.current, hst.reached⟩
  · have hi := hclosed.order n
    refine ⟨fun hn => ?_, hi.past, fun _ event he => absurd he List.not_mem_nil, hi.unborn⟩
    change t.observing = some n at hn
    rw [hnone] at hn
    cases hn

lemma Negotiating.step (hs : Negotiating s) (e : ClientEvent) : Negotiating (clientStep s e) := by
  have hdead : ∀ {t : WebrtcClient}, Negotiating t → Negotiating (if !s.alive then s else t) := by
    intro t ht
    split
    · exact hs
    · exact ht
  cases e with
  | descriptionCreated request description => exact hs.descriptionCreated request description
  | descriptionFailed request => exact (hs.forget request).1
  | localDescriptionSet request ok => exact hs.localDescriptionSet request ok
  | remoteDescriptionSet request ok => exact hs.remoteDescriptionSet request ok
  | call call => exact hdead (fine_call call s hs).1
  | runPosted calls => exact hdead (hs.runPosted calls)
  | videoTimeout converted => exact hdead (fine_videoTimeout converted s hs).1
  | destroy defaultVideoInput => exact hdead (hs.destroy defaultVideoInput)
  | runCapture defaultVideoInput => exact hdead (fine_runCapture defaultVideoInput s hs).1
  | videoFrameChanged mapped pixelsMapped frame pixels =>
    refine hdead ?_
    split
    · exact (fine_capturing _ _ s hs).1
    · exact hs
  | cameraErrorOccurred message =>
    refine hdead ?_
    split
    · exact (fine_capturing _ _ s hs).1
    · exact hs
  | onConnectionChange state => exact hdead (fine_onConnectionChange state s hs).1
  | onIceConnectionFailed =>
    refine hdead ?_
    dsimp only [WebrtcClient.onIceConnectionFailed]
    split
    · exact hs
    · exact (fine_posts rfl rfl ‹_› hs).1
  | onIceCandidate candidate sdpMid sdpMLineIndex =>
    refine hdead ?_
    dsimp only [WebrtcClient.onIceCandidate]
    split
    · exact hs
    · exact (fine_posts rfl rfl ‹_› hs).1
  | onIceCandidateError message =>
    refine hdead ?_
    dsimp only [WebrtcClient.onIceCandidateError]
    split
    · exact hs
    · exact (fine_posts rfl rfl ‹_› hs).1
  | onTrack track =>
    refine hdead (fine_observed (fun o => ?_) s hs).1
    cases track <;> rfl
  | onRemoveTrack track =>
    refine hdead (fine_observed (fun o => ?_) s hs).1
    unfold PeerConnectionObserver.onRemoveTrack
    split <;> rfl
  | onFrame image => exact hdead (fine_onFrame image s hs).1

end

lemma negotiating_first : Negotiating {} := by
  refine ⟨nofun, nofun, nofun, nofun, ⟨List.nodup_nil, nofun, nofun⟩, fun n => ?_, fun before h hp => ?_,
    fun before after n heq => ?_⟩
  · exact ⟨nofun, List.prefix_refl _, nofun, fun _ => rfl⟩
  · have hlen := hp.length_le
    rw [List.length_append, List.length_singleton] at hlen
    exact absurd hlen (Nat.not_succ_le_zero _)
  · have hlen := congrArg List.length heq
    rw [List.length_append, List.length_cons] at hlen
    cases hlen

lemma negotiating_after (es : List ClientEvent) : Negotiating (after clientStep {} es) := by
  have hrun : ∀ (s : WebrtcClient), Negotiating s → Negotiating (after clientStep s es) := by
    induction es with
    | nil => exact fun s hs => hs
    | cons e es ih => exact fun s hs => ih _ (hs.step e)
  exact hrun {} negotiating_first

/-- A local description is given to the connection that was asked for it, a function is called once, while the
connection of its request is there, and after that connection has been given the description. -/
theorem descriptions_answered (es : List ClientEvent) :
    (∀ before h, before ++ [h] <+: (after clientStep {} es).history → Justified before h) ∧
      ((after clientStep {} es).history.filterMap Happening.answered).Nodup := by
  have h := negotiating_after es
  exact ⟨h.justified, (List.nodup_append.mp h.single.once).2.1⟩

/-- The signals of a connection are run in the order in which they were posted, all of them as long as it is there,
and once it is closed nothing concerns it any more. -/
theorem signals_in_order (es : List ClientEvent) (n : ℕ) :
    ranOf n (after clientStep {} es).history <+: postedOf n (after clientStep {} es).history ∧
      ((after clientStep {} es).current = some n → (after clientStep {} es).posted = [] →
        ranOf n (after clientStep {} es).history = postedOf n (after clientStep {} es).history) ∧
      ∀ before later, (after clientStep {} es).history = before ++ .close n :: later →
        ∀ h ∈ later, h.connection ≠ some n := by
  have h := negotiating_after es
  refine ⟨(h.order n).past, fun hcurrent hempty => ?_, fun before later heq => (h.silent before later n heq).2⟩
  have hqueued := (h.order n).queued (h.current n hcurrent)
  rwa [hempty, List.filter_nil, List.append_nil] at hqueued

end ChatDesktop.Voip.Rtc
