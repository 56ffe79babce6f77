import ChatDesktop.Library.Causes
import ChatDesktop.Voip.CallSetup
import ChatDesktop.Voip.CameraRuns
import ChatDesktop.Voip.ServiceRefinement

namespace ChatDesktop.Voip.Rtc

open Library Library.Text Library.Reactive Camera

/-! ### What the service does of its own accord -/

structure Steady (s s' : WebrtcClient) : Prop where
  filming : Filming s → Filming s'
  requested : s'.cameraRequested = s.cameraRequested
  device : s'.cameraDevice = s.cameraDevice

section

variable {s s' s'' : WebrtcClient}

lemma Steady.refl (s : WebrtcClient) : Steady s s := ⟨id, rfl, rfl⟩

lemma Steady.trans (h : Steady s s') (h' : Steady s' s'') : Steady s s'' :=
  ⟨h'.filming ∘ h.filming, h'.requested.trans h.requested, h'.device.trans h.device⟩

lemma Unfilmed.steady (h : Unfilmed s s') : Steady s s' := ⟨fun hf => hf.unfilmed h, h.requested, h.device⟩

lemma Beside.steady (h : Beside s s') : Steady s s' := h.unfilmed.steady

lemma steady_prepare (s : WebrtcClient) : Steady s s.prepare :=
  ⟨Filming.prepare, (requested_prepare s).1, (requested_prepare s).2.1⟩

lemma steady_updateCameraCapture (s : WebrtcClient) : Steady s s.updateCameraCapture := by
  refine ⟨fun h => FilmingAs.update h, ?_, ?_⟩
  · unfold WebrtcClient.updateCameraCapture
    dsimp only
    split
    · exact (requested_prepare _).1
    · rfl
  · unfold WebrtcClient.updateCameraCapture
    dsimp only
    split
    · exact (requested_prepare _).2.1
    · rfl

lemma Tends.steady (hs : Tends s s') : Steady s s' := by
  induction hs with
  | same call film =>
    obtain ⟨capture, requested, device⟩ | rfl := film
    · exact (Unfilmed.same call.alive capture requested device call.history).steady
    · exact steady_updateCameraCapture _
  | put _ h hh ih =>
    have hfilms := Happening.films_beside (Bool.and_eq_true_iff.mp hh).1
    exact ih.trans ((Unfilmed.refl _).put h hfilms).steady
  | post _ event _ ih => exact ih.trans ((Beside.refl _).post event).steady
  | trans _ _ ih ih' => exact ih.trans ih'

lemma steady_connectionStateChanged (state : PeerConnectionState) (s : WebrtcClient) :
    Steady s (s.connectionStateChanged state) := by
  obtain ⟨told, hs⟩ := connectionStateChanged_cases state s
  have hupdated := (unfilmed_showState state s).steady.trans (steady_updateCameraCapture _)
  have hput := ((Unfilmed.refl (s.showState state).updateCameraCapture).put (.connectionStateChanged told) rfl).steady
  exact (hupdated.trans hput).trans hs.beside.steady

lemma steady_runPosted (s : WebrtcClient) : Steady s (s.runPosted []) := by
  unfold WebrtcClient.runPosted
  split
  · exact .refl s
  · rename_i event rest _
    have hpopped : Unfilmed s { s with posted := rest } := .same rfl rfl rfl rfl rfl
    have hran := hpopped.put (.ran event) rfl
    refine hran.steady.trans ?_
    generalize { s with posted := rest }.put (.ran event) = ran
    unfold WebrtcClient.run
    cases event with
    | sdpCreated request guard onSuccess type sdp =>
      dsimp only
      have htold := (Unfilmed.refl ran).put (.localSdpCreated type sdp) rfl
      split
      · exact .refl ran
      · rw [List.foldl_nil]
        split
        · exact (htold.put (.onSdp _ _ _) rfl).steady
        · exact htold.steady
    | remoteSdpSet request guard onSuccess =>
      dsimp only
      split
      · exact ((Unfilmed.refl ran).put (.onRemoteSdp _ _) rfl).steady
      · exact .refl ran
    | connectionStateChanged observer state => exact steady_connectionStateChanged state ran
    | iceCandidateChanged observer candidate sdpMid sdpMLineIndex =>
      exact ((Unfilmed.refl ran).put (.localIceCandidateGenerated candidate sdpMid sdpMLineIndex) rfl).steady
    | peerErrorOccurred observer message => exact ((Unfilmed.refl ran).put (.errorOccurred message) rfl).steady
    | captureErrorOccurred message => exact ((Unfilmed.refl ran).put (.errorOccurred message) rfl).steady

lemma requested_capturing (step : QtCameraCapture → QtCameraCapture) (thread : CaptureThread) (s : WebrtcClient) :
    (s.capturing step thread).cameraRequested = s.cameraRequested ∧
      (s.capturing step thread).cameraDevice = s.cameraDevice :=
  ⟨(forward_spec _ _).2.2.1, (forward_spec _ _).2.2.2.1⟩

lemma requested_videoTimeout (converted : Bool) (s : WebrtcClient) :
    (s.videoTimeout converted).cameraRequested = s.cameraRequested ∧
      (s.videoTimeout converted).cameraDevice = s.cameraDevice := by
  have hshown : s.showRemoteFrame.cameraRequested = s.cameraRequested ∧
      s.showRemoteFrame.cameraDevice = s.cameraDevice := by
    unfold WebrtcClient.showRemoteFrame
    split
    · split
      · exact ⟨rfl, rfl⟩
      · exact ⟨rfl, rfl⟩
    · exact ⟨rfl, rfl⟩
  unfold WebrtcClient.videoTimeout WebrtcClient.pushLocalFrame
  split
  · split
    · dsimp only
      split
      · exact hshown
      · exact hshown
    · exact hshown
  · exact hshown

lemma requested_clientStep {e : ClientEvent} (he : JingleService.happens s e = true) :
    (clientStep s e).cameraRequested = s.cameraRequested ∧ (clientStep s e).cameraDevice = s.cameraDevice := by
  have hlive : ∀ {u : WebrtcClient}, u.cameraRequested = s.cameraRequested ∧ u.cameraDevice = s.cameraDevice →
      (if !s.alive then s else u).cameraRequested = s.cameraRequested ∧
        (if !s.alive then s else u).cameraDevice = s.cameraDevice := by
    intro u hu
    split
    · exact ⟨rfl, rfl⟩
    · exact hu
  have haside : ∀ {u : WebrtcClient}, Unfilmed s u → u.cameraRequested = s.cameraRequested ∧
      u.cameraDevice = s.cameraDevice := fun hu => ⟨hu.requested, hu.device⟩
  cases e with
  | call call => cases he
  | runPosted calls => cases he
  | destroy defaultVideoInput => cases he
  | videoTimeout converted => exact hlive (requested_videoTimeout converted s)
  | runCapture defaultVideoInput =>
    apply hlive
    unfold WebrtcClient.runCapture
    split
    · exact requested_capturing _ _ _
    · exact ⟨rfl, rfl⟩
  | videoFrameChanged mapped pixelsMapped frame pixels =>
    apply hlive
    split
    · exact requested_capturing _ _ s
    · exact ⟨rfl, rfl⟩
  | cameraErrorOccurred message =>
    apply hlive
    split
    · exact requested_capturing _ _ s
    · exact ⟨rfl, rfl⟩
  | descriptionCreated request description =>
    exact haside (minor_descriptionCreated request description s).beside.unfilmed
  | descriptionFailed request => exact haside (minor_forget request s).beside.unfilmed
  | localDescriptionSet request ok => exact haside (minor_localDescriptionSet request ok s).beside.unfilmed
  | remoteDescriptionSet request ok => exact haside (minor_remoteDescriptionSet request ok s).beside.unfilmed
  | onConnectionChange state => exact hlive (haside (beside_onConnectionChange state s).unfilmed)
  | onIceConnectionFailed => exact hlive (haside (minor_onIceConnectionFailed s).beside.unfilmed)
  | onIceCandidate candidate sdpMid sdpMLineIndex =>
    exact hlive (haside (minor_onIceCandidate candidate sdpMid sdpMLineIndex s).beside.unfilmed)
  | onIceCandidateError message => exact hlive (haside (minor_onIceCandidateError message s).beside.unfilmed)
  | onTrack track => exact hlive ⟨rfl, rfl⟩
  | onRemoveTrack track => exact hlive ⟨rfl, rfl⟩
  | onFrame image => exact hlive (haside (unfilmed_onFrame image s))

lemma steady_clientStep {e : ClientEvent} (he : JingleService.happens s e = true) : Steady s (clientStep s e) := by
  refine ⟨fun h => ?_, (requested_clientStep he).1, (requested_clientStep he).2⟩
  obtain hf | hended := Recorded.step (Or.inl h) e
  · exact hf
  · have halive := (silent_clientStep he).alive
    rw [hended.alive, h.alive] at halive
    cases halive

end

/-! ### Who asks for the camera -/

/-- A client that wants the camera only if `p`, and has the device that its owner chose. -/
structure Wants (p : Prop) (device : Option QCameraDevice) (s : WebrtcClient) : Prop where
  filming : Filming s
  requested : s.cameraRequested = true → p
  device : s.cameraDevice = device

def Wanting (p : Prop) (s : JingleService) : Prop := ∀ held, s.client = some held → Wants p s.cameraDevice held.rtc

def Asks (p : Prop) (s s' : WebrtcClient) : Prop := ∀ q device, Wants q device s → Wants (p ∨ q) device s'

/-- The service goes on, and asks for the camera only if `p`. -/
structure Onward (p : Prop) (s s' : JingleService) : Prop where
  videoCall : s'.signaling.videoCall = s.signaling.videoCall
  wanting : ∀ q, Wanting q s → Wanting (p ∨ q) s'

def videoOffer : ActionSignal → Bool
  | .remoteSdpOfferReceived offer _ _ => JingleService.videoMedia offer
  | _ => false

def OffersVideo (s : JingleService) (stanza : Element) : Prop :=
  s.signaling.videoCall = true ∧ ∃ signal ∈ (s.signaling.action.parse stanza).2.1, videoOffer signal = true

/-- The user starts a video call or accepts one, or an offer of video comes. -/
def ServiceEvent.AsksCamera (s : JingleService) : ServiceEvent → Prop
  | .startCall _ video _ _ => s.signaling.connected = true ∧ video = true
  | .acceptCall _ => s.signaling.connected = true ∧ s.signaling.videoCall = true
  | .stanza element _ => OffersVideo s element
  | _ => False

section

variable {P : Platform} {p q : Prop} {rtc rtc' : WebrtcClient} {device : Option QCameraDevice} {held : OwnedClient}
  {s s' s'' : JingleService}

lemma Wants.mono (h : Wants p device rtc) (hpq : p → q) : Wants q device rtc := ⟨h.filming, hpq ∘ h.requested, h.device⟩

lemma Steady.asks (h : Steady rtc rtc') : Asks p rtc rtc' :=
  fun _ _ hw => ⟨h.filming hw.filming, fun hr => Or.inr (hw.requested (h.requested ▸ hr)), h.device.trans hw.device⟩

lemma asks_setCameraEnabled (enable : Bool) (rtc : WebrtcClient) :
    Asks (enable = true) rtc (rtc.setCameraEnabled enable) := by
  have hupdated := steady_updateCameraCapture { rtc with cameraRequested := enable }
  exact fun _ _ hw => ⟨hw.filming.call (.setCameraEnabled enable), fun hr => Or.inl (hupdated.requested.symm.trans hr),
    hupdated.device.trans hw.device⟩

lemma Wanting.mono (h : Wanting p s) (hpq : p → q) : Wanting q s := fun held hh => (h held hh).mono hpq

lemma Wanting.absent (hn : s.client = none) : Wanting p s := by
  intro held hh
  rw [hn] at hh
  cases hh

lemma Wanting.same (h : Wanting p s) (hc : s'.client = s.client) (hd : s'.cameraDevice = s.cameraDevice) :
    Wanting p s' := by
  intro held hh
  rw [hd]
  exact h held (hc ▸ hh)

lemma Onward.same (hv : s'.signaling.videoCall = s.signaling.videoCall) (hc : s'.client = s.client)
    (hd : s'.cameraDevice = s.cameraDevice) : Onward p s s' :=
  ⟨hv, fun _ h => (h.same hc hd).mono Or.inr⟩

lemma Onward.refl (s : JingleService) : Onward p s s := .same rfl rfl rfl

lemma Onward.trans (h : Onward p s s') (h' : Onward p s' s'') : Onward p s s'' := by
  refine ⟨h'.videoCall.trans h.videoCall, fun q hq => ?_⟩
  exact (h'.wanting _ (h.wanting q hq)).mono fun hp => hp.elim Or.inl id

lemma Onward.mono (h : Onward p s s') (hpq : p → q) : Onward q s s' :=
  ⟨h.videoCall, fun r hr => (h.wanting r hr).mono (Or.imp_left hpq)⟩

lemma onward_signal {f : Voip.JingleService → Voip.JingleService} (hf : ∀ t, (f t).videoCall = t.videoCall)
    (s : JingleService) : Onward p s (s.signal f) := .same (hf _) rfl rfl

lemma onward_emit (effect : Effect) (s : JingleService) : Onward p s (s.signal (Voip.JingleService.emit effect)) :=
  .same rfl rfl rfl

lemma onward_signalingFailed (reason : String) (s : JingleService) : Onward p s (s.signalingFailed reason) :=
  .same rfl rfl rfl

lemma onward_hear (h : Happening) (s : JingleService) : Onward p s (s.hear h) := by
  cases h with
  | connectionStateChanged state =>
    refine onward_signal (fun t => ?_) s
    cases state <;> rfl
  | _ => exact .same rfl rfl rfl

lemma onward_foldl {α : Type} {f : JingleService → α → JingleService} {l : List α}
    (h : ∀ a ∈ l, ∀ s', s'.signaling.videoCall = s.signaling.videoCall → Onward p s' (f s' a)) :
    Onward p s (l.foldl f s) := by
  induction l generalizing s with
  | nil => exact .refl s
  | cons a l ih =>
    have hfirst := h a List.mem_cons_self s rfl
    exact hfirst.trans (ih fun b hb s' hs' => h b (List.mem_cons_of_mem _ hb) s' (hs'.trans hfirst.videoCall))

lemma onward_client (hc : s.client = some held) (h : Asks p held.rtc rtc) :
    Onward p s { s with client := some { held with rtc := rtc } } := by
  refine ⟨rfl, fun q hq held' hh => ?_⟩
  obtain rfl := Option.some.inj hh
  exact h q _ (hq held hc)

lemma onward_calling {act : WebrtcClient → Bool × WebrtcClient} (h : ∀ rtc, Asks p rtc (act rtc).2)
    (s : JingleService) : Onward p s (s.calling act).2 := by
  unfold JingleService.calling
  split
  · exact .refl s
  · rename_i held hc
    exact (onward_client hc (h held.rtc)).trans (onward_foldl fun h _ s' _ => onward_hear h s')

lemma onward_call {f : WebrtcClient → WebrtcClient} (h : ∀ rtc, Asks p rtc (f rtc)) (s : JingleService) :
    Onward p s (s.call f) := onward_calling h s

lemma onward_map {f : OwnedClient → OwnedClient} (hf : ∀ held, (f held).rtc = held.rtc) (s : JingleService) :
    Onward p s { s with client := s.client.map f } := by
  refine ⟨rfl, fun q hq held' hh => ?_⟩
  obtain ⟨held, hc, rfl⟩ := Option.map_eq_some_iff.mp hh
  rw [hf]
  exact (hq held hc).mono Or.inr

lemma onward_requesting (completion : Completion) {act : WebrtcClient → Bool × WebrtcClient}
    (h : ∀ rtc, Asks p rtc (act rtc).2) (s : JingleService) : Onward p s (s.requesting completion act).2 := by
  refine (onward_calling h s).trans (onward_map (fun held => ?_) _)
  unfold OwnedClient.keep
  split
  · rfl
  · rfl

lemma onward_reset (s : JingleService) : Onward p s s.reset := ⟨rfl, fun _ _ => .absent rfl⟩

lemma onward_createWebrtcClient (s : JingleService) : Onward p s s.createWebrtcClient := by
  refine ⟨rfl, fun q _ held hh => ?_⟩
  obtain rfl := Option.some.inj hh
  exact ⟨filming_first.setCameraDevice s.cameraDevice, nofun, rfl⟩

lemma onward_created (s : JingleService) : Onward p s (if s.client.isNone then s.createWebrtcClient else s) := by
  split
  · exact onward_createWebrtcClient s
  · exact .refl s

/-! ### What each event asks for -/

lemma onward_prepareMedia (answers : Initialization) (video : Bool) (s : JingleService) :
    Onward (video = true) s (s.prepareMedia answers video).2 := by
  have hasked := (onward_created (p := video = true) s).trans (onward_call (asks_setCameraEnabled video) _)
  unfold JingleService.prepareMedia
  dsimp only
  generalize (if s.client.isNone then s.createWebrtcClient else s).call (WebrtcClient.setCameraEnabled video) = asked
    at hasked ⊢
  have hinitialized := hasked.trans
    (onward_calling (fun rtc => (beside_initializeClient answers rtc).steady.asks) asked)
  split
  · exact hasked
  · split
    · have hoff : Onward (video = true) _ ((asked.calling (WebrtcClient.initializeClient answers)).2.call
          (WebrtcClient.setCameraEnabled false)) :=
        (onward_call (asks_setCameraEnabled false) _).mono nofun
      exact ((hinitialized.trans hoff).trans (onward_reset _)).trans (onward_signalingFailed _ _)
    · exact hinitialized.trans (.same rfl rfl rfl)

lemma onward_prepare (answers : Initialization) (s : JingleService) : Onward p s (s.prepare answers) := by
  unfold JingleService.prepare
  split
  · exact .refl s
  · have hprepared := (onward_created s).trans (onward_call (p := p) (fun rtc => (steady_prepare rtc).asks) _)
    exact hprepared.trans ((onward_prepareMedia answers false _).mono nofun)

lemma isConnected_videoCall (t : Voip.JingleService) : t.isConnected.2.videoCall = t.videoCall := by
  unfold Voip.JingleService.isConnected
  split
  · rfl
  · rfl

lemma onward_acceptCall (answers : Initialization) (s : JingleService) :
    Onward (s.signaling.connected = true ∧ s.signaling.videoCall = true) s (s.acceptCall answers) := by
  have hvideo := isConnected_videoCall s.signaling
  unfold JingleService.acceptCall
  dsimp only
  split
  · exact .same hvideo rfl rfl
  · rename_i hc
    have hconnected : s.signaling.connected = true := by simpa [isConnected_fst] using hc
    have htold : Onward (s.signaling.connected = true ∧ s.signaling.videoCall = true) s
        { s with signaling := s.signaling.isConnected.2 } := .same hvideo rfl rfl
    have hasked := htold.trans ((onward_prepareMedia answers s.signaling.isConnected.2.videoCall _).mono
      fun hv => ⟨hconnected, hvideo.symm.trans hv⟩)
    split
    · exact hasked
    · refine hasked.trans (onward_signal (fun t => ?_) _)
      unfold Voip.JingleService.sendAccept
      split
      · rfl
      · rfl

lemma onward_rejectCall (s : JingleService) : Onward p s s.rejectCall := by
  have hvideo := isConnected_videoCall s.signaling
  unfold JingleService.rejectCall
  dsimp only
  split
  · exact .same hvideo rfl rfl
  · exact ⟨hvideo, fun _ _ => .absent rfl⟩

lemma wanting_startCall (h : Wanting p s) (receiverId : QString) (video : Bool) (answers : Initialization)
    (track : TrackAnswers) : Wanting (s.signaling.connected = true ∧ video = true ∨ p)
      (s.startCall P receiverId video answers track) := by
  have hkept : ∀ f, Wanting p (s.signal f) := fun f => h.same rfl rfl
  unfold JingleService.startCall
  dsimp only
  split
  · exact (hkept _).mono Or.inr
  · rename_i hc
    have hconnected : s.signaling.connected = true := by simpa using hc
    split
    · exact (hkept _).mono Or.inr
    · split
      · exact (hkept _).mono Or.inr
      · have hprepared := ((onward_prepareMedia answers video _).wanting p (hkept fun t =>
          { t with recipientId := s.signaling.recipientOf receiverId, videoCall := video }.emit
            (.callStateChange .calling))).mono (Or.imp_left fun hv => And.intro hconnected hv)
        generalize JingleService.prepareMedia answers video _ = prepared at hprepared ⊢
        split
        · exact hprepared
        · have hstarted : Wanting (s.signaling.connected = true ∧ video = true ∨ p)
              (prepared.2.signal fun t => { t with callStarted := true }) := hprepared.same rfl rfl
          have htracked := (onward_call (p := False) (fun rtc => (tends_createLocalCameraTrack track rtc).steady.asks)
            _).wanting _ hstarted
          exact (htracked.mono fun hp => hp.elim False.elim id).same rfl rfl

lemma onward_onJingleAction (created : Bool) (signal : ActionSignal) (s : JingleService) :
    Onward (s.signaling.videoCall = true ∧ videoOffer signal = true) s (s.onJingleAction P created signal) := by
  cases signal with
  | remoteSdpOfferReceived offer iceServers sid =>
    change Onward _ s (s.onRemoteSdpOfferReceived P created offer iceServers sid)
    unfold JingleService.onRemoteSdpOfferReceived
    dsimp only
    split
    · exact .same rfl rfl rfl
    · have hset : Onward (s.signaling.videoCall = true ∧ JingleService.videoMedia offer = true) s
          (s.signal fun t => { t with jingle := { t.jingle with currentSid := sid } }) := .same rfl rfl rfl
      have hasked := hset.trans ((onward_call (asks_setCameraEnabled _) _).mono
        fun hv => (Bool.and_eq_true _ _).mp hv)
      have hmade := hasked.trans (onward_calling
        (fun rtc => (unfilmed_createPeerConnection created iceServers rtc).steady.asks) _)
      split
      · exact hmade.trans (onward_signalingFailed _ _)
      · have happlied := hmade.trans (onward_requesting .createAnswer
          (fun rtc => (beside_setRemoteSdp true (P.parsesSdp (ofAscii "offer") offer) (ofAscii "offer") offer true
            rtc).steady.asks) _)
        split
        · exact happlied
        · exact happlied.trans (onward_signalingFailed _ _)
  | exchangeIceCandidateReceived sdp sdpMid sdpMLineIndex =>
    change Onward _ s (if s.client.isNone then _ else _)
    split
    · exact .same rfl rfl rfl
    · exact onward_calling (fun rtc => (beside_setRemoteCandidate _ sdp sdpMid sdpMLineIndex rtc).steady.asks) s
  | remoteSdpAnswerReceived answer sid =>
    have happlied : Onward (s.signaling.videoCall = true ∧ videoOffer (.remoteSdpAnswerReceived answer sid) = true) s
        (s.calling (WebrtcClient.setRemoteSdp true (P.parsesSdp (ofAscii "answer") answer) (ofAscii "answer") answer
          false)).2 :=
      onward_calling (fun rtc => (beside_setRemoteSdp _ _ _ answer false rtc).steady.asks) s
    unfold JingleService.onJingleAction
    dsimp only
    split
    · exact happlied
    · exact happlied.trans (onward_signalingFailed _ _)
  | sessionTerminateReceived => exact .same rfl rfl rfl

lemma onward_handleIq (created : Bool) (stanza jingle : Element) (s : JingleService) :
    Onward (OffersVideo s stanza) s (s.handleIq P created stanza jingle) := by
  have hsignals : ∀ s', Onward (OffersVideo s stanza) s s' → Onward (OffersVideo s stanza) s
      ((s.signaling.action.parse stanza).2.1.foldl (JingleService.onJingleAction P created) s') :=
    fun s' hs => hs.trans (onward_foldl fun signal hm u hu => (onward_onJingleAction created signal u).mono
      fun hp => ⟨(hu.trans hs.videoCall).symm.trans hp.1, signal, hm, hp.2⟩)
  unfold JingleService.handleIq
  dsimp only
  split_ifs
  · refine (hsignals _ ?_).trans (onward_emit _ _)
    exact .same rfl rfl rfl
  · refine hsignals _ ?_
    exact .same rfl rfl rfl
  · refine (hsignals _ ?_).trans (onward_emit _ _)
    exact .same rfl rfl rfl
  · refine hsignals _ ?_
    exact .same rfl rfl rfl

lemma wanting_handleStanza (h : Wanting p s) (created : Bool) (stanza : Element) :
    Wanting (OffersVideo s stanza ∨ p) (s.handleStanza P created stanza) := by
  unfold JingleService.handleStanza
  split_ifs
  · split
    · exact h.mono Or.inr
    · split
      · exact h.mono Or.inr
      · exact (h.same rfl rfl).mono Or.inr
  · split
    · exact h.mono Or.inr
    · exact (onward_handleIq created stanza _ s).wanting p h
  · exact h.mono Or.inr

lemma onward_onDiscovery (services : Option (List Voip.JingleService.ExternalService)) (created : Bool)
    (track : TrackAnswers) (s : JingleService) : Onward p s (s.onDiscovery services created track) := by
  unfold JingleService.onDiscovery
  split
  · exact .refl s
  · cases services with
    | none => exact .same rfl rfl rfl
    | some services =>
      have hcounted : Onward p s (s.signal fun t => { t with discoveries := t.discoveries - 1 }) := .same rfl rfl rfl
      refine hcounted.trans ?_
      unfold JingleService.onExternalServiceReceived
      dsimp only
      split
      · exact .refl _
      · have hmade := onward_calling (p := p) (fun rtc => (unfilmed_createPeerConnection created
          (services.filterMap Voip.JingleService.ExternalService.ice) rtc).steady.asks)
          (s.signal fun t => { t with discoveries := t.discoveries - 1 })
        split
        · exact hmade.trans (onward_signalingFailed _ _)
        · exact hmade.trans (onward_requesting _
            (fun rtc => (tends_createDescription (fun _ _ => rfl) track true rtc).steady.asks) _)

lemma onward_complete (track : TrackAnswers) (request : ℕ) (sdp : QString) (s : JingleService) :
    Onward p s (s.complete P track request sdp) := by
  unfold JingleService.complete
  split
  · exact .refl s
  · rename_i completion _
    have hdropped : Onward p s { s with client := s.client.map (OwnedClient.drop request) } :=
      onward_map (f := OwnedClient.drop request) (fun _ => rfl) s
    cases completion with
    | sessionInitaite iceServers =>
      refine hdropped.trans (onward_signal (fun t => ?_) _)
      unfold Voip.JingleService.sessionInitaite
      split
      · rfl
      · rfl
    | createAnswer =>
      exact hdropped.trans (onward_requesting _
        (fun rtc => (tends_createDescription (fun _ _ => rfl) track true rtc).steady.asks) _)
    | sessionAccept =>
      refine hdropped.trans (onward_signal (fun t => ?_) _)
      unfold Voip.JingleService.sessionAccept
      split
      · rfl
      · rfl

lemma onward_runPosted (track : TrackAnswers) (s : JingleService) : Onward p s (s.runPosted P track) := by
  unfold JingleService.runPosted
  split
  · exact .refl s
  · rename_i held hc
    refine (onward_client hc (steady_runPosted held.rtc).asks).trans (onward_foldl fun h _ s' _ => ?_)
    unfold JingleService.receive
    split
    · exact onward_complete track _ _ s'
    · exact onward_complete track _ _ s'
    · exact onward_hear h s'

lemma onward_clientEvent (e : ClientEvent) (s : JingleService) : Onward p s (s.clientEvent e) := by
  refine onward_call (fun rtc => ?_) s
  split
  · rename_i he
    exact (steady_clientStep he).asks
  · exact (Steady.refl rtc).asks

lemma wanting_setCameraDevice (h : Wanting p s) (device : Option QCameraDevice) :
    Wanting p (s.setCameraDevice device) := by
  unfold JingleService.setCameraDevice JingleService.call JingleService.calling
  dsimp only
  split
  · rename_i hc
    exact .absent hc
  · rename_i held hc
    have hset : Wanting p { s with
        cameraDevice := device
        client := some { held with rtc := held.rtc.setCameraDevice device } } := by
      intro held' hh
      obtain rfl := Option.some.inj hh
      exact ⟨(h held hc).filming.setCameraDevice device, (h held hc).requested, rfl⟩
    refine ((onward_foldl (p := False) fun h _ s' _ => onward_hear h s').wanting p hset).mono ?_
    exact fun hp => hp.elim False.elim id

lemma Wanting.step (h : Wanting p s) (e : ServiceEvent) :
    Wanting (e.AsksCamera s ∨ p ∧ ¬e = .endCall) (serviceStep P s e) := by
  have hcleared : Wanting p (s.signal fun t => { t with log := [] }) := h.same rfl rfl
  have hkept : ∀ {s'}, Onward False (s.signal fun t => { t with log := [] }) s' → e ≠ .endCall →
      Wanting (e.AsksCamera s ∨ p ∧ ¬e = .endCall) s' :=
    fun hs he => (hs.wanting p hcleared).mono fun hp => hp.elim False.elim fun hp => Or.inr ⟨hp, he⟩
  unfold serviceStep
  cases e with
  | stanza stanza created =>
    exact (wanting_handleStanza hcleared created stanza).mono (Or.imp_right fun hp => ⟨hp, nofun⟩)
  | discovery services created track => exact hkept (onward_onDiscovery services created track _) nofun
  | connectivity connected => exact hkept (.same rfl rfl rfl) nofun
  | prepare answers => exact hkept (onward_prepare answers _) nofun
  | startCall receiverId video answers track =>
    exact (wanting_startCall hcleared receiverId video answers track).mono (Or.imp_right fun hp => ⟨hp, nofun⟩)
  | acceptCall answers =>
    exact ((onward_acceptCall answers _).wanting p hcleared).mono (Or.imp_right fun hp => ⟨hp, nofun⟩)
  | rejectCall => exact hkept (onward_rejectCall _) nofun
  | endCall => exact .absent rfl
  | setCameraDevice device =>
    exact (wanting_setCameraDevice hcleared device).mono fun hp => Or.inr ⟨hp, nofun⟩
  | runPosted track => exact hkept (onward_runPosted track _) nofun
  | client e => exact hkept (onward_clientEvent e _) nofun

lemma wanting_create (domain jidBare : QString) : Wanting False (.create domain jidBare) := by
  have hfirst : Wanting False { signaling := { domain := domain, jidBare := jidBare } } := .absent rfl
  exact ((onward_createWebrtcClient (p := False) _).wanting _ hfirst).mono fun hp => hp.elim id id

lemma askedBy_started {calls later : List CaptureCall} (h : askedBy calls = true) (hstop : .stop ∉ later) :
    askedBy (calls ++ later) = true := by
  induction later generalizing calls with
  | nil => rwa [List.append_nil]
  | cons call later ih =>
    obtain ⟨hcall, hlater⟩ := not_or.mp (mt List.mem_cons.mpr hstop)
    rw [List.append_cons]
    refine ih ?_ hlater
    rw [askedBy_concat, h]
    cases call with
    | stop => exact absurd rfl hcall
    | _ => rfl

end

/-- When the camera runs, and no call to stop it waits for its thread, it was asked for and the call has not been ended
since; and it is the camera that the user chose, if no call waits. -/
theorem camera_asked (P : Platform) (domain jidBare : QString) (es : List ServiceEvent) (held : OwnedClient)
    (t : CaptureThread) (hclient : (after (serviceStep P) (.create domain jidBare) es).client = some held)
    (ht : held.rtc.capture = some t) (hstop : .stop ∉ t.calls) (hrunning : t.capture.running = true) :
    Since (serviceStep P) (.create domain jidBare) (fun s e => e.AsksCamera s) (· = .endCall) es ∧
      (t.calls = [] → ∀ camera, t.capture.camera = some camera →
        (after (serviceStep P) (.create domain jidBare) es).cameraDevice = some camera.device) := by
  have hwanting : Wanting (Since (serviceStep P) (.create domain jidBare) (fun s e => e.AsksCamera s) (· = .endCall) es)
      (after (serviceStep P) (.create domain jidBare) es) :=
    since_run (W := Wanting) (fun hpq hw => hw.mono hpq) (wanting_create domain jidBare) (fun e hw => hw.step e) es
  have hwants := hwanting held hclient
  have hfollowing := hwants.filming.following t ht
  constructor
  · refine hwants.requested ?_
    rw [← hwants.filming.asked t ht]
    refine askedBy_started ?_ hstop
    cases ha : askedBy (ranCalls held.rtc.history) with
    | true => rfl
    | false =>
      rw [ha] at hfollowing
      exact absurd hrunning hfollowing.not_running
  · intro hcalls camera hc
    have hchosen := hwants.filming.chosen t ht
    rw [hcalls, List.append_nil] at hchosen
    obtain ⟨hselection, hdevice⟩ := hwants.filming.selects t ht _ hchosen
    rw [← hwants.device, ← hdevice]
    exact hfollowing.device camera hc hselection

def callsWithVideo : List ServiceEvent :=
  [.connectivity true, .setCameraDevice (some frontCamera), .startCall (ofAscii "bob") true {} {},
    .client (.runCapture none), .client (.runCapture none), .client (.runCapture none)]

theorem camera_asked_call : ∃ held t,
    (after (serviceStep samplePlatform) (.create (ofAscii "chat") (ofAscii "alice@chat")) callsWithVideo).client =
        some held ∧
      held.rtc.capture = some t ∧ t.capture.running = true ∧
      Since (serviceStep samplePlatform) (.create (ofAscii "chat") (ofAscii "alice@chat"))
        (fun s e => e.AsksCamera s) (· = .endCall) callsWithVideo :=
  ⟨_, _, rfl, rfl, rfl, (camera_asked samplePlatform (ofAscii "chat") (ofAscii "alice@chat") callsWithVideo _ _ rfl rfl
    nofun rfl).1⟩

end ChatDesktop.Voip.Rtc
