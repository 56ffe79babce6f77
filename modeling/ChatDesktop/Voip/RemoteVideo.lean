import ChatDesktop.Voip.WebrtcClient

namespace ChatDesktop.Voip.Rtc

open Library Library.Text Library.Reactive Camera

def Happening.shownRemotely : Happening → Option QVideoFrame
  | .remoteVideoFrameReady frame => some frame
  | _ => none

def Happening.decoded : Happening → Option QVideoFrame
  | .onFrame image => some image
  | _ => none

def remotes (history : List Happening) : List QVideoFrame := history.filterMap Happening.shownRemotely

def remoteFrames (history : List Happening) : List QVideoFrame := (remotes history).filter QVideoFrame.isValid

def received (history : List Happening) : List QVideoFrame := history.filterMap Happening.decoded

def Happening.stateAfter (state : Option PeerConnectionState) : Happening → Option PeerConnectionState
  | .ran (.connectionStateChanged _ next) => some next
  | .close _ => none
  | _ => state

def told (history : List Happening) : Option PeerConnectionState := history.foldl Happening.stateAfter none

def Begins (before : List Happening) : Prop := before = [] ∨ ∃ earlier n, before = earlier ++ [.close n]

def PeerConnectionObserver.box (o : PeerConnectionObserver) : List QVideoFrame :=
  [o.latestFrame].filter QVideoFrame.isValid

def WebrtcClient.box (s : WebrtcClient) : List QVideoFrame := s.peerObserver.elim [] PeerConnectionObserver.box

/-- The view may show a frame if it is `lit`. -/
structure WatchingAs (lit : Bool) (s : WebrtcClient) : Prop where
  frames : ∀ before later, s.history = before ++ later → Begins before →
    (remoteFrames later ++ s.box).Sublist (received later)
  connected : s.alive = true → s.peerConnected = true → told s.history = some .connected
  shown : ∀ before frame, before ++ [.remoteVideoFrameReady frame] <+: s.history → frame.isValid = true →
    told before = some .connected
  blank : lit = false → ∀ frame, (remotes s.history).getLast? = some frame → frame.isValid = false

def Watching (s : WebrtcClient) : Prop := WatchingAs s.peerConnected s

structure Aside (s s' : WebrtcClient) : Prop where
  alive : s'.alive = s.alive
  connected : s'.peerConnected = s.peerConnected
  watching : ∀ lit, WatchingAs lit s → WatchingAs lit s'

section

variable {s s' s'' : WebrtcClient} {lit lit' : Bool} {h : Happening} {history before later : List Happening}

/-! ### The history -/

lemma begins_split (he : history ++ [h] = before ++ later) (hb : Begins before) :
    (∃ later', later = later' ++ [h] ∧ history = before ++ later') ∨ (later = [] ∧ ∃ n, h = .close n) := by
  obtain rfl | ⟨later', last, rfl⟩ := List.eq_nil_or_concat' later
  · right
    refine ⟨rfl, ?_⟩
    rw [List.append_nil] at he
    obtain rfl | ⟨earlier, n, rfl⟩ := hb
    · exact absurd he (List.concat_ne_nil _ _)
    · exact ⟨n, (List.append_inj' he rfl).2 |> List.singleton_inj.mp⟩
  · left
    rw [← List.append_assoc] at he
    obtain ⟨hhistory, hlast⟩ := List.append_inj' he rfl
    obtain rfl := List.singleton_inj.mp hlast
    exact ⟨later', rfl, hhistory⟩

lemma told_concat (history : List Happening) (h : Happening) : told (history ++ [h]) = h.stateAfter (told history) :=
  List.foldl_concat ..

lemma Happening.stateAfter_apart (ha : h.apart = true) (state : Option PeerConnectionState) :
    h.stateAfter state = state := by
  cases h with
  | ran event => cases event <;> first | rfl | cases ha
  | close connection => cases ha
  | _ => rfl

lemma Happening.shownRemotely_apart (ha : h.apart = true) : h.shownRemotely = none := by
  cases h with
  | remoteVideoFrameReady frame => cases ha
  | _ => rfl

lemma remotes_concat (hh : h.shownRemotely = none) (history : List Happening) :
    remotes (history ++ [h]) = remotes history := by
  unfold remotes
  rw [List.filterMap_append, List.filterMap_cons_none hh]
  exact List.append_nil _

lemma remoteFrames_concat (hh : h.shownRemotely = none) (history : List Happening) :
    remoteFrames (history ++ [h]) = remoteFrames history := congrArg (List.filter _) (remotes_concat hh history)

lemma received_sublist (history : List Happening) (h : Happening) :
    (received history).Sublist (received (history ++ [h])) := by
  unfold received
  rw [List.filterMap_append]
  exact List.sublist_append_left _ _

lemma shown_concat (hs : ∀ before frame, before ++ [.remoteVideoFrameReady frame] <+: history →
      frame.isValid = true → told before = some .connected)
    (hh : ∀ frame, h = .remoteVideoFrameReady frame → frame.isValid = true → told history = some .connected) :
    ∀ before frame, before ++ [.remoteVideoFrameReady frame] <+: history ++ [h] → frame.isValid = true →
      told before = some .connected := by
  intro before frame hp hv
  obtain he | hp := List.prefix_concat_iff.mp hp
  · obtain ⟨rfl, hlast⟩ := List.append_inj' he rfl
    exact hh frame (List.singleton_inj.mp hlast).symm hv
  · exact hs before frame hp hv

/-! ### Steps -/

lemma WatchingAs.boxless (hw : WatchingAs lit s) (he : s.history = before ++ later) (hb : Begins before) :
    (remoteFrames later).Sublist (received later) :=
  (List.sublist_append_left _ _).trans (hw.frames before later he hb)

lemma WatchingAs.same (hw : WatchingAs lit s) (hh : s'.history = s.history) (hb : s'.box.Sublist s.box)
    (hc : s'.alive = true → s'.peerConnected = true → s.alive = true ∧ s.peerConnected = true) :
    WatchingAs lit s' := by
  refine ⟨fun before later he hbegins => ?_, fun ha hp => ?_, ?_, ?_⟩
  · exact ((List.Sublist.refl _).append hb).trans (hw.frames before later (hh.symm.trans he) hbegins)
  · obtain ⟨ha, hp⟩ := hc ha hp
    rw [hh]
    exact hw.connected ha hp
  · rw [hh]
    exact hw.shown
  · rw [hh]
    exact hw.blank

lemma WatchingAs.put (hw : WatchingAs lit s) (ha : h.apart = true) : WatchingAs lit (s.put h) := by
  refine ⟨fun before later he hb => ?_, fun halive hc => ?_, shown_concat hw.shown ?_, ?_⟩
  · obtain ⟨later', rfl, hhistory⟩ | ⟨-, n, rfl⟩ := begins_split he hb
    · rw [remoteFrames_concat (Happening.shownRemotely_apart ha)]
      exact (hw.frames before later' hhistory hb).trans (received_sublist later' h)
    · cases ha
  · change told (s.history ++ [h]) = _
    rw [told_concat, Happening.stateAfter_apart ha]
    exact hw.connected halive hc
  · rintro frame rfl
    cases ha
  · change lit = false → ∀ frame, (remotes (s.history ++ [h])).getLast? = some frame → _
    rw [remotes_concat (Happening.shownRemotely_apart ha)]
    exact hw.blank

lemma WatchingAs.clear (hw : WatchingAs lit s) : WatchingAs lit' (s.put (.remoteVideoFrameReady noFrame)) := by
  have hremotes : ∀ history, remotes (history ++ [.remoteVideoFrameReady noFrame]) = remotes history ++ [noFrame] :=
    fun history => List.filterMap_append ..
  have hframes : ∀ history, remoteFrames (history ++ [.remoteVideoFrameReady noFrame]) = remoteFrames history := by
    intro history
    unfold remoteFrames
    rw [hremotes, List.filter_append]
    exact List.append_nil _
  refine ⟨fun before later he hb => ?_, fun ha hc => ?_, shown_concat hw.shown ?_, fun _ frame hf => ?_⟩
  · obtain ⟨later', rfl, hhistory⟩ | ⟨-, n, hn⟩ := begins_split he hb
    · rw [hframes]
      exact (hw.frames before later' hhistory hb).trans (received_sublist later' _)
    · cases hn
  · change told (s.history ++ [_]) = _
    rw [told_concat]
    exact hw.connected ha hc
  · intro frame hf hv
    obtain rfl := Happening.remoteVideoFrameReady.inj hf
    cases hv
  · change (remotes (s.history ++ [_])).getLast? = _ at hf
    rw [hremotes, List.getLast?_concat] at hf
    obtain rfl := Option.some.inj hf
    rfl

lemma WatchingAs.on (hw : WatchingAs lit s) (hl : lit' = true) : WatchingAs lit' s := by
  refine ⟨hw.frames, hw.connected, hw.shown, fun hoff => ?_⟩
  rw [hl] at hoff
  cases hoff

lemma Aside.refl (s : WebrtcClient) : Aside s s := ⟨rfl, rfl, fun _ => id⟩

lemma Aside.trans (ha : Aside s s') (ha' : Aside s' s'') : Aside s s'' :=
  ⟨ha'.alive.trans ha.alive, ha'.connected.trans ha.connected, fun lit hw => ha'.watching lit (ha.watching lit hw)⟩

lemma Aside.same (ho : s'.box.Sublist s.box) (hh : s'.history = s.history) (ha : s'.alive = s.alive)
    (hc : s'.peerConnected = s.peerConnected) : Aside s s' :=
  ⟨ha, hc, fun _ hw => hw.same hh ho fun hl hp => ⟨ha.symm.trans hl, hc.symm.trans hp⟩⟩

lemma Aside.kept (ho : s'.peerObserver = s.peerObserver) (hh : s'.history = s.history) (ha : s'.alive = s.alive)
    (hc : s'.peerConnected = s.peerConnected) : Aside s s' := by
  refine .same ?_ hh ha hc
  unfold WebrtcClient.box
  rw [ho]

lemma Aside.put (ha : Aside s s') (h : Happening) (hh : h.apart = true) : Aside s (s'.put h) :=
  ha.trans ⟨rfl, rfl, fun _ hw => hw.put hh⟩

lemma Aside.post (ha : Aside s s') (event : Posted) : Aside s (s'.post event) := by
  have hposted : Aside s' { s' with posted := s'.posted ++ [event] } := .kept rfl rfl rfl rfl
  exact (ha.trans hposted).put (.posted event) rfl

lemma Beside.aside (hs : Beside s s') : Aside s s' := by
  induction hs with
  | same alive _ _ _ connected observer history => exact .kept observer history alive connected
  | put _ h hh ih => exact ih.put h (Happening.apart_beside hh)
  | trans _ _ ih ih' => exact ih.trans ih'

lemma Calm.aside (hs : Calm s s') : Aside s s' := by
  induction hs with
  | same call _ => exact .kept call.observer call.history call.alive call.connected
  | put _ h hh ih => exact ih.put h (Bool.and_eq_true_iff.mp hh).1
  | post _ event _ ih => exact ih.post event
  | trans _ _ ih ih' => exact ih.trans ih'

lemma Watching.aside (hw : Watching s) (ha : Aside s s') : Watching s' := by
  unfold Watching
  rw [ha.connected]
  exact ha.watching _ hw

/-! ### What leaves it alone -/

lemma aside_createPeerConnection (created : Bool) (iceServers : List IceServer) (s : WebrtcClient) :
    Aside s (s.createPeerConnection created iceServers).2 := by
  unfold WebrtcClient.createPeerConnection
  dsimp only
  split_ifs
  any_goals exact .refl s
  any_goals exact .same (List.nil_sublist _) rfl rfl rfl

/-! ### The end of a call -/

lemma WatchingAs.closed (hw : WatchingAs lit s) (hh : s'.history = s.closePeerConnection.history)
    (ho : s'.peerObserver = none) (hc : s'.alive = true → s'.peerConnected = false) : WatchingAs lit s' := by
  have hbox : s'.box = [] := by
    unfold WebrtcClient.box
    rw [ho]
    rfl
  have hoff : s'.alive = true → s'.peerConnected = true → told s'.history = some .connected := by
    intro ha hp
    rw [hc ha] at hp
    cases hp
  unfold WebrtcClient.closePeerConnection at hh
  split at hh
  · refine ⟨fun before later he hb => ?_, hoff, ?_, ?_⟩
    · rw [hbox, List.append_nil]
      exact hw.boxless (hh.symm.trans he) hb
    · rw [hh]
      exact hw.shown
    · rw [hh]
      exact hw.blank
  · rename_i n _
    change s'.history = s.history ++ [.close n] at hh
    refine ⟨fun before later he hb => ?_, hoff, ?_, ?_⟩
    · rw [hbox, List.append_nil]
      obtain ⟨later', rfl, hhistory⟩ | ⟨rfl, -⟩ := begins_split (hh.symm.trans he) hb
      · rw [remoteFrames_concat rfl]
        exact (hw.boxless hhistory hb).trans (received_sublist later' _)
      · exact List.Sublist.refl _
    · rw [hh]
      exact shown_concat hw.shown nofun
    · rw [hh, remotes_concat rfl]
      exact hw.blank

lemma closePeerConnection_spec (s : WebrtcClient) : s.closePeerConnection.alive = s.alive ∧
    s.closePeerConnection.peerConnected = s.peerConnected := by
  unfold WebrtcClient.closePeerConnection
  split
  · exact ⟨rfl, rfl⟩
  · exact ⟨rfl, rfl⟩

lemma Watching.closeConnection (hw : Watching s) :
    Watching s.closeConnection ∧ s.closeConnection.alive = s.alive := by
  have hoff : WatchingAs s.peerConnected { s with peerConnected := false, cameraRequested := false } :=
    WatchingAs.same hw rfl (List.Sublist.refl _) nofun
  have hupdated := (tends_updateCameraCapture { s with peerConnected := false, cameraRequested := false }).calm.aside
  have hwatching := hupdated.watching _ hoff
  have halive := hupdated.alive
  have hconnected := hupdated.connected
  unfold WebrtcClient.closeConnection
  dsimp only
  generalize { s with peerConnected := false, cameraRequested := false }.updateCameraCapture = updated
    at hwatching halive hconnected ⊢
  obtain ⟨ha, hc⟩ := closePeerConnection_spec updated
  have hclosed : WatchingAs s.peerConnected { updated.closePeerConnection.dropObserver with localVideoTrack := none } :=
    hwatching.closed rfl rfl fun _ => hc.trans hconnected
  have hdark : Watching (({ updated.closePeerConnection.dropObserver with localVideoTrack := none }.put
      (.localVideoFrameReady noFrame)).put (.remoteVideoFrameReady noFrame)) :=
    (hclosed.put rfl).clear
  split
  · exact ⟨hdark.aside (((Aside.refl _).put (.connectionStateChanged .disconnect) rfl).put .disconnected rfl),
      ha.trans halive⟩
  · exact ⟨hdark, ha.trans halive⟩

lemma Watching.destroy (hw : Watching s) (defaultVideoInput : Option QCameraDevice) :
    Watching (s.destroy defaultVideoInput) := by
  have hdestroyed : WatchingAs s.peerConnected (s.destroy defaultVideoInput) :=
    WatchingAs.closed hw rfl rfl nofun
  have hconnected : (s.destroy defaultVideoInput).peerConnected = s.peerConnected := (closePeerConnection_spec s).2
  unfold Watching
  rwa [hconnected]

/-! ### Runs -/

lemma Watching.call (hw : Watching s) (c : Call) : Watching (s.call c) ∧ (s.call c).alive = s.alive := by
  have haside : ∀ {u : WebrtcClient}, Aside s u → Watching u ∧ u.alive = s.alive :=
    fun ha => ⟨hw.aside ha, ha.alive⟩
  cases c with
  | initializeClient answers => exact haside (beside_initializeClient answers s).aside
  | prepare => exact haside (calm_prepare s).aside
  | createPeerConnection created iceServers => exact haside (aside_createPeerConnection created iceServers s)
  | createOffer answers onSuccess => exact haside (tends_createDescription (fun _ _ => rfl) answers onSuccess s).calm.aside
  | createAnswer answers onSuccess => exact haside (tends_createDescription (fun _ _ => rfl) answers onSuccess s).calm.aside
  | setRemoteSdp knows parses type sdp onSuccess =>
    exact haside (beside_setRemoteSdp knows parses type sdp onSuccess s).aside
  | setRemoteCandidate parses sdp sdpMid sdpMLineIndex =>
    exact haside (beside_setRemoteCandidate parses sdp sdpMid sdpMLineIndex s).aside
  | closeConnection => exact hw.closeConnection
  | setMuteMicrophone mute => exact haside (minor_setMuteMicrophone mute s).calm.aside
  | createLocalCameraTrack answers => exact haside (tends_createLocalCameraTrack answers s).calm.aside
  | setCameraEnabled enable => exact haside (calm_setCameraEnabled enable s).aside
  | setCameraDevice device => exact haside (calm_setCameraDevice device s).aside

lemma Watching.calls (hw : Watching s) (calls : List Call) : Watching (calls.foldl WebrtcClient.call s) := by
  induction calls generalizing s with
  | nil => exact hw
  | cons c calls ih => exact ih (hw.call c).1

lemma Watching.state (hw : Watching s) {rest : List Posted} (observer : ℕ) (state : PeerConnectionState) :
    Watching (({ s with posted := rest }.put (.ran (.connectionStateChanged observer state))).connectionStateChanged
      state) := by
  have hran : WatchingAs s.peerConnected
      { ({ s with posted := rest }.put (.ran (.connectionStateChanged observer state))) with
        peerConnected := decide (state = PeerConnectionState.connected) } := by
    refine ⟨fun before later he hb => ?_, fun ha hp => ?_, shown_concat hw.shown nofun, ?_⟩
    · obtain ⟨later', rfl, hhistory⟩ | ⟨-, n, hn⟩ := begins_split he hb
      · rw [remoteFrames_concat rfl]
        exact (hw.frames before later' hhistory hb).trans (received_sublist later' _)
      · cases hn
    · change told (s.history ++ [_]) = _
      rw [told_concat]
      exact congrArg some (of_decide_eq_true hp)
    · change _ → ∀ frame, (remotes (s.history ++ [_])).getLast? = some frame → _
      rw [remotes_concat rfl]
      exact hw.blank
  have hlit : Watching
      (({ s with posted := rest }.put (.ran (.connectionStateChanged observer state))).showState state) := by
    unfold WebrtcClient.showState
    split
    · rename_i hconnected
      exact hran.on hconnected
    · exact hran.clear
  generalize { s with posted := rest }.put (.ran (.connectionStateChanged observer state)) = ran at hlit ⊢
  obtain ⟨told, hs⟩ := connectionStateChanged_cases state ran
  have hput := (tends_updateCameraCapture (ran.showState state)).calm.aside.put (.connectionStateChanged told) rfl
  exact hlit.aside (hput.trans hs.calm.aside)

lemma Watching.runPosted (hw : Watching s) (calls : List Call) : Watching (s.runPosted calls) := by
  unfold WebrtcClient.runPosted
  split
  · exact hw
  · rename_i event rest _
    have hrest : Aside s { s with posted := rest } := .kept rfl rfl rfl rfl
    cases event with
    | sdpCreated request guard onSuccess type sdp =>
      have hran := hrest.put (.ran (.sdpCreated request guard onSuccess type sdp)) rfl
      unfold WebrtcClient.run
      dsimp only
      split
      · exact hw.aside hran
      · have hcalled := (hw.aside (hran.put (.localSdpCreated type sdp) rfl)).calls calls
        split
        · exact hcalled.aside ((Aside.refl _).put (.onSdp _ _ _) rfl)
        · exact hcalled
    | remoteSdpSet request guard onSuccess =>
      have hran := hrest.put (.ran (.remoteSdpSet request guard onSuccess)) rfl
      unfold WebrtcClient.run
      dsimp only
      split
      · exact hw.aside (hran.put (.onRemoteSdp _ _) rfl)
      · exact hw.aside hran
    | connectionStateChanged observer state => exact hw.state observer state
    | iceCandidateChanged observer candidate sdpMid sdpMLineIndex =>
      exact hw.aside ((hrest.put (.ran _) rfl).put (.localIceCandidateGenerated candidate sdpMid sdpMLineIndex) rfl)
    | peerErrorOccurred observer message =>
      exact hw.aside ((hrest.put (.ran _) rfl).put (.errorOccurred message) rfl)
    | captureErrorOccurred message => exact hw.aside ((hrest.put (.ran _) rfl).put (.errorOccurred message) rfl)

lemma Watching.showRemoteFrame (hw : Watching s) (ha : s.alive = true) : Watching s.showRemoteFrame := by
  unfold WebrtcClient.showRemoteFrame
  split
  · rename_i observer hobserver
    split
    · rename_i hp
      rw [Bool.and_eq_true] at hp
      have hbox : s.box = observer.box := by
        unfold WebrtcClient.box
        rw [hobserver]
        rfl
      have hremotes : ∀ history, remotes (history ++ [.remoteVideoFrameReady observer.latestFrame]) =
          remotes history ++ [observer.latestFrame] := fun history => List.filterMap_append ..
      have hframes : ∀ history, remoteFrames (history ++ [.remoteVideoFrameReady observer.latestFrame]) =
          remoteFrames history ++ observer.box := by
        intro history
        unfold remoteFrames PeerConnectionObserver.box
        rw [hremotes, List.filter_append]
      refine ⟨fun before later he hb => ?_, fun _ _ => ?_, shown_concat hw.shown fun _ _ _ => ?_, fun hoff => ?_⟩
      · obtain ⟨later', rfl, hhistory⟩ | ⟨-, n, hn⟩ := begins_split he hb
        · change (remoteFrames (later' ++ [_]) ++ []).Sublist _
          rw [List.append_nil, hframes, ← hbox]
          exact (hw.frames before later' hhistory hb).trans (received_sublist later' _)
        · cases hn
      · change told (s.history ++ [_]) = _
        rw [told_concat]
        exact hw.connected ha hp.1
      · exact hw.connected ha hp.1
      · change s.peerConnected = false at hoff
        rw [hp.1] at hoff
        cases hoff
    · exact hw
  · exact hw

lemma Watching.onFrame (hw : Watching s) (image : Option QVideoFrame) : Watching (s.onFrame image) := by
  unfold WebrtcClient.onFrame
  split
  · rename_i image _ htrack
    have hdecoded : ∀ history, received (history ++ [.onFrame image]) = received history ++ [image] :=
      fun history => List.filterMap_append ..
    have hbox : ((s.observed (PeerConnectionObserver.onFrame image)).put (.onFrame image)).box.Sublist [image] := by
      change ((s.peerObserver.map (PeerConnectionObserver.onFrame image)).elim [] PeerConnectionObserver.box).Sublist _
      cases s.peerObserver with
      | none => exact List.nil_sublist _
      | some observer => exact List.filter_sublist
    refine ⟨fun before later he hb => ?_, fun ha hp => ?_, shown_concat hw.shown nofun, ?_⟩
    · obtain ⟨later', rfl, hhistory⟩ | ⟨-, n, hn⟩ := begins_split he hb
      · rw [remoteFrames_concat rfl, hdecoded]
        exact (hw.boxless hhistory hb).append hbox
      · cases hn
    · change told (s.history ++ [_]) = _
      rw [told_concat]
      exact hw.connected ha hp
    · change _ → ∀ frame, (remotes (s.history ++ [_])).getLast? = some frame → _
      rw [remotes_concat rfl]
      exact hw.blank
  · exact hw

lemma aside_observed {f : PeerConnectionObserver → PeerConnectionObserver} (hf : ∀ o, (f o).box.Sublist o.box)
    (s : WebrtcClient) : Aside s (s.observed f) := by
  refine .same ?_ rfl rfl rfl
  change ((s.peerObserver.map f).elim [] PeerConnectionObserver.box).Sublist _
  unfold WebrtcClient.box
  cases s.peerObserver with
  | none => exact List.Sublist.refl _
  | some observer => exact hf observer

lemma box_onTrack (track : Option ℕ) (o : PeerConnectionObserver) : (o.onTrack track).box.Sublist o.box := by
  cases track with
  | none => exact List.Sublist.refl _
  | some track => exact List.nil_sublist _

lemma box_onRemoveTrack (track : Option ℕ) (o : PeerConnectionObserver) :
    (o.onRemoveTrack track).box.Sublist o.box := by
  unfold PeerConnectionObserver.onRemoveTrack
  split
  · exact List.nil_sublist _
  · exact List.Sublist.refl _

lemma Watching.step (hw : Watching s) (e : ClientEvent) : Watching (clientStep s e) := by
  have hlive : ∀ {u : WebrtcClient}, (s.alive = true → Watching u) → Watching (if !s.alive then s else u) := by
    intro u hu
    cases ha : s.alive with
    | true => exact hu ha
    | false => exact hw
  have haside : ∀ {u : WebrtcClient}, Aside s u → Watching (if !s.alive then s else u) :=
    fun ha => hlive fun _ => hw.aside ha
  cases e with
  | descriptionCreated request description => exact hw.aside (minor_descriptionCreated request description s).calm.aside
  | descriptionFailed request => exact hw.aside (minor_forget request s).calm.aside
  | localDescriptionSet request ok => exact hw.aside (minor_localDescriptionSet request ok s).calm.aside
  | remoteDescriptionSet request ok => exact hw.aside (minor_remoteDescriptionSet request ok s).calm.aside
  | call call => exact hlive fun _ => (hw.call call).1
  | runPosted calls => exact hlive fun _ => hw.runPosted calls
  | videoTimeout converted =>
    exact hlive fun ha => (hw.showRemoteFrame ha).aside (calm_pushLocalFrame converted _).aside
  | destroy defaultVideoInput => exact hlive fun _ => hw.destroy defaultVideoInput
  | runCapture defaultVideoInput => exact haside (calm_runCapture defaultVideoInput s).aside
  | videoFrameChanged mapped pixelsMapped frame pixels =>
    refine haside ?_
    split
    · exact (calm_capturing _ _ s).aside
    · exact .refl s
  | cameraErrorOccurred message =>
    refine haside ?_
    split
    · exact (calm_capturing _ _ s).aside
    · exact .refl s
  | onConnectionChange state => exact haside (beside_onConnectionChange state s).aside
  | onIceConnectionFailed => exact haside (minor_onIceConnectionFailed s).calm.aside
  | onIceCandidate candidate sdpMid sdpMLineIndex =>
    exact haside (minor_onIceCandidate candidate sdpMid sdpMLineIndex s).calm.aside
  | onIceCandidateError message => exact haside (minor_onIceCandidateError message s).calm.aside
  | onTrack track => exact haside (aside_observed (box_onTrack track) s)
  | onRemoveTrack track => exact haside (aside_observed (box_onRemoveTrack track) s)
  | onFrame image => exact hlive fun _ => hw.onFrame image

lemma watching_first : Watching {} := by
  refine ⟨fun before later he _ => ?_, fun _ hc => ?_, fun before frame hp _ => ?_, fun _ frame hf => ?_⟩
  · obtain ⟨rfl, rfl⟩ := List.append_eq_nil_iff.mp he.symm
    exact List.Sublist.refl _
  · cases hc
  · exact absurd (List.prefix_nil.mp hp) (List.concat_ne_nil _ _)
  · cases hf

lemma watching_after (es : List ClientEvent) : Watching (after clientStep {} es) :=
  each_true.invariant watching_first fun _ e hw _ => hw.step e

end

/-- The frames of the other side that are shown were received, each once and in their order, after the last call
ended; each is shown while the connection is up, and the view is blank when it is not. -/
theorem remote_frames_shown (es : List ClientEvent) :
    (remoteFrames (after clientStep {} es).history).Sublist (received (after clientStep {} es).history) ∧
    (∀ before later n, (after clientStep {} es).history = before ++ .close n :: later →
      (remoteFrames later).Sublist (received later)) ∧
    (∀ before frame, before ++ [.remoteVideoFrameReady frame] <+: (after clientStep {} es).history →
      frame.isValid = true → told before = some .connected) ∧
    ((after clientStep {} es).peerConnected = false →
      ∀ frame, (remotes (after clientStep {} es).history).getLast? = some frame → frame.isValid = false) := by
  have hw := watching_after es
  refine ⟨hw.boxless (List.nil_append _).symm (Or.inl rfl), fun before later n he => ?_, hw.shown, hw.blank⟩
  have hcut : (after clientStep {} es).history = (before ++ [.close n]) ++ later := by
    rw [he, List.append_assoc]
    rfl
  exact hw.boxless hcut (Or.inr ⟨before, n, rfl⟩)

end ChatDesktop.Voip.Rtc
