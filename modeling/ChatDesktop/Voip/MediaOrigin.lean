import ChatDesktop.Voip.TwoParties

namespace ChatDesktop.Voip

open Library Library.Text Library.TwoParties JingleService
open JingleAction (inNamespace attributeOf_inNamespace)

def JingleService.given (s : JingleService) : List Applied :=
  ((s.webrtc.bind WebrtcClient.peerConnection).map PeerConnection.applied).getD []

def ActionSignal.gives : ActionSignal → Option Applied
  | .remoteSdpOfferReceived offer _ _ => some (.remoteSdp (ofAscii "offer") offer)
  | .exchangeIceCandidateReceived sdp sdpMid sdpMLineIndex => some (.remoteCandidate sdp sdpMid sdpMLineIndex)
  | .remoteSdpAnswerReceived answer _ => some (.remoteSdp (ofAscii "answer") answer)
  | .sessionTerminateReceived => none

/-- From `s` to `s'` the connection is given nothing but what is in `new`, or replaced or closed. -/
def Receives (new : List Applied) (s s' : JingleService) : Prop := ∀ a ∈ s'.given, a ∈ s.given ∨ a ∈ new

section

variable {P : Platform} {new new' : List Applied} {s s' s'' : JingleService}

lemma Receives.refl (s : JingleService) : Receives [] s s := fun _ ha => Or.inl ha

lemma Receives.trans (h : Receives new s s') (h' : Receives new' s' s'') : Receives (new ++ new') s s'' := by
  intro a ha
  rcases h' a ha with ha | ha
  · exact (h a ha).imp_right (List.mem_append_left _)
  · exact Or.inr (List.mem_append_right _ ha)

lemma Receives.mono (h : Receives new s s') (hnew : ∀ a ∈ new, a ∈ new') : Receives new' s s' :=
  fun a ha => (h a ha).imp_right (hnew a)

lemma Receives.congr (h : Receives new s s') (hw : s''.webrtc = s'.webrtc) : Receives new s s'' := by
  unfold Receives JingleService.given at *
  rw [hw]
  exact h

lemma Receives.closed (hw : s'.webrtc = none) : Receives [] s s' := by
  intro a ha
  rw [JingleService.given, hw] at ha
  cases ha

lemma receives_prepareMedia (initialized : Bool) (s : JingleService) : Receives [] s (s.prepareMedia initialized).2 := by
  rcases prepareMedia_cases initialized s with ⟨-, -, he⟩ | ⟨-, n, he | ⟨w, -, hp, he⟩⟩
  · rw [he]
    exact .refl s
  · rw [he]
    exact .closed rfl
  · rw [he]
    intro a ha
    rw [JingleService.given, Option.bind_some, hp] at ha
    exact Or.inl ha

lemma receives_createPeerConnection (created : Bool) (iceServers : List IceServer) (w : WebrtcClient)
    (s : JingleService) : Receives [] s (s.createPeerConnection created iceServers w).2 := by
  rcases createPeerConnection_cases created iceServers w s with he | ⟨-, -, he⟩
  · rw [he]
    exact .refl s
  · rw [he]
    intro a ha
    cases ha

lemma receives_apply (a : Applied) (s : JingleService) : Receives [a] s (s.apply a) := by
  intro b hb
  unfold JingleService.given JingleService.apply at *
  cases hw : s.webrtc with
  | none =>
    rw [hw] at hb
    cases hb
  | some w =>
    rw [hw] at hb
    cases hp : w.peerConnection with
    | none =>
      simp [hp] at hb
    | some p =>
      simp only [Option.map_some, Option.bind_some, hp, Option.getD_some] at hb ⊢
      exact List.mem_append.mp hb

lemma receives_setRemoteSdp (type sdp : QString) (s : JingleService) :
    Receives [.remoteSdp type sdp] s (s.setRemoteSdp P type sdp).2 := by
  rcases setRemoteSdp_cases (P := P) type sdp s with ⟨-, he⟩ | ⟨-, he⟩
  · rw [he]
    exact receives_apply _ s
  · rw [he]
    exact (Receives.refl s).mono nofun

lemma receives_onRemoteSdpOfferReceived (created : Bool) (offer sid : QString) (iceServers : List IceServer)
    (s : JingleService) : Receives [.remoteSdp (ofAscii "offer") offer] s
      (s.onRemoteSdpOfferReceived P created offer iceServers sid) := by
  have hsid : Receives [] s { s with jingle := { s.jingle with currentSid := sid } } := (Receives.refl s).congr rfl
  unfold onRemoteSdpOfferReceived
  dsimp only
  split
  · exact (hsid.congr rfl).mono nofun
  · rename_i w hw
    have hmade := hsid.trans (receives_createPeerConnection created iceServers w _)
    have happlied := hmade.trans (receives_setRemoteSdp (P := P) (ofAscii "offer") offer _)
    split_ifs
    · exact (hmade.congr rfl).mono nofun
    · exact happlied.congr rfl
    · exact happlied.congr rfl

lemma receives_onJingleAction (created : Bool) (s : JingleService) (signal : ActionSignal) :
    Receives signal.gives.toList s (s.onJingleAction P created signal) := by
  cases signal with
  | remoteSdpOfferReceived offer iceServers sid => exact receives_onRemoteSdpOfferReceived created offer sid iceServers s
  | exchangeIceCandidateReceived sdp sdpMid sdpMLineIndex =>
    have hself : Receives [.remoteCandidate sdp sdpMid sdpMLineIndex] s s := (Receives.refl s).mono nofun
    unfold onJingleAction setRemoteCandidate
    dsimp only
    split
    · exact hself.congr rfl
    · split
      · exact receives_apply _ s
      · exact hself
  | remoteSdpAnswerReceived answer sid =>
    have happlied := receives_setRemoteSdp (P := P) (ofAscii "answer") answer s
    unfold onJingleAction
    dsimp only
    split
    · exact happlied
    · exact happlied.congr rfl
  | sessionTerminateReceived => exact (Receives.refl s).congr rfl

lemma receives_onJingleActions (created : Bool) (signals : List ActionSignal) (s : JingleService) :
    Receives (signals.filterMap ActionSignal.gives) s (signals.foldl (onJingleAction P created) s) := by
  induction signals generalizing s with
  | nil => exact .refl s
  | cons signal signals ih =>
    refine ((receives_onJingleAction (P := P) created s signal).trans (ih _)).mono (fun a ha => ?_)
    rw [List.filterMap_cons]
    rcases List.mem_append.mp ha with ha | ha
    · rw [Option.mem_toList] at ha
      rw [show signal.gives = some a from ha]
      exact List.mem_cons_self
    · split
      · exact ha
      · exact List.mem_cons_of_mem _ ha

lemma webrtc_onJingleMessage (m : JingleMessage) (s : JingleService) : (s.onJingleMessage m).webrtc = s.webrtc := by
  unfold onJingleMessage
  cases m.type with
  | accept =>
    dsimp only
    rcases onAcceptReceived_cases m.sender m.sessionId (s.emit (.callStateChange .exchange)) with
      he | ⟨reason, he⟩ | ⟨-, he⟩
    · rw [he]
      rfl
    · rw [he]
      rfl
    · rw [he]
      rfl
  | _ => rfl

lemma receives_handleIq (created : Bool) (stanza jingle : Element) (s : JingleService) :
    Receives ((s.action.parse stanza).2.1.filterMap ActionSignal.gives) s (s.handleIq P created stanza jingle) := by
  have hactions (s' : JingleService) (hw : s'.webrtc = s.webrtc) :
      Receives ((s.action.parse stanza).2.1.filterMap ActionSignal.gives) s
        ((s.action.parse stanza).2.1.foldl (onJingleAction P created) { s' with
          action := (s.action.parse stanza).2.2 }) := by
    have h' : Receives [] s { s' with action := (s.action.parse stanza).2.2 } := (Receives.refl s).congr hw
    exact h'.trans (receives_onJingleActions created _ _)
  unfold handleIq
  dsimp only
  split
  · have hset := hactions { s with jingle := { s.jingle with
      sessionSender := stanza.attributeOf (ofAscii "from") } } rfl
    split
    · exact hset.congr rfl
    · exact hset
  · have hkept := hactions s rfl
    split
    · exact hkept.congr rfl
    · exact hkept

lemma receives_handleStanza (created : Bool) (stanza : Element) (s : JingleService) :
    Receives ((s.action.parse stanza).2.1.filterMap ActionSignal.gives) s (s.handleStanza P created stanza) := by
  have hself {s' : JingleService} (hw : s'.webrtc = s.webrtc) :
      Receives ((s.action.parse stanza).2.1.filterMap ActionSignal.gives) s s' :=
    ((Receives.refl s).congr hw).mono nofun
  unfold handleStanza
  split
  · split
    · exact hself rfl
    · split
      · exact hself rfl
      · exact hself (webrtc_onJingleMessage _ s)
  · split
    · split
      · exact hself rfl
      · exact receives_handleIq created stanza _ s
    · exact hself rfl

lemma receives_onDiscovery (services : Option (List ExternalService)) (created : Bool) (s : JingleService) :
    Receives [] s (s.onDiscovery services created) := by
  unfold onDiscovery
  split_ifs
  · exact .refl s
  · cases services with
    | none => exact (Receives.refl s).congr rfl
    | some services =>
      dsimp only
      rcases onExternalServiceReceived_cases services created { s with discoveries := s.discoveries - 1 } with
        he | he | ⟨w, iceServers, -, -, -, he⟩
      · rw [he]
        exact (Receives.refl s).congr rfl
      · rw [he]
        exact (Receives.refl s).congr rfl
      · rw [he]
        intro a ha
        cases ha

lemma receives_acceptCall (initialized : Bool) (s : JingleService) : Receives [] s (s.acceptCall initialized) := by
  have hconnected : Receives [] s s.isConnected.2 := by
    refine (Receives.refl s).congr ?_
    unfold isConnected
    split
    · rfl
    · rfl
  have hprepared := hconnected.trans (receives_prepareMedia initialized s.isConnected.2)
  unfold acceptCall
  dsimp only
  split
  · exact hconnected
  · split
    · exact hprepared
    · refine hprepared.congr ?_
      unfold sendAccept
      split
      · rfl
      · rfl

lemma receives_rejectCall (s : JingleService) : Receives [] s s.rejectCall := by
  unfold rejectCall isConnected
  by_cases hc : s.connected = true
  · rw [if_pos hc]
    exact .closed rfl
  · rw [if_neg hc]
    exact (Receives.refl s).congr rfl

lemma receives_startCall (receiverId : QString) (video initialized : Bool) (s : JingleService) :
    Receives [] s (s.startCall P receiverId video initialized) := by
  have hfailed {s' : JingleService} (hw : s'.webrtc = s.webrtc) : Receives [] s s' := (Receives.refl s).congr hw
  have hcalling : Receives [] s ({ s with
    recipientId := s.recipientOf receiverId, videoCall := video }.emit (.callStateChange .calling)) := hfailed rfl
  have hprepared := hcalling.trans (receives_prepareMedia initialized _)
  unfold startCall
  dsimp only
  split
  · exact hfailed rfl
  · split
    · exact hfailed rfl
    · split
      · exact hfailed rfl
      · split
        · exact hprepared
        · exact hprepared.congr rfl

lemma receives_handle (e : Event) (s : JingleService) :
    Receives (match e.received with
      | some stanza => (s.action.parse stanza).2.1.filterMap ActionSignal.gives
      | none => []) s (s.handle P e) := by
  cases e with
  | stanza stanza created => exact receives_handleStanza created stanza s
  | discovery services created => exact receives_onDiscovery services created s
  | offerCreated n sdp =>
    refine (Receives.refl s).congr ?_
    change (s.onOfferCreated P n sdp).webrtc = s.webrtc
    rcases onOfferCreated_cases (P := P) n sdp s with he | ⟨cb, -, he | ⟨-, sid, jingle, action, uuids, he⟩⟩
    · rw [he]
    · rw [he]
    · rw [he]
      rfl
  | remoteApplied n =>
    refine (Receives.refl s).congr ?_
    change (s.onRemoteApplied n).webrtc = s.webrtc
    unfold onRemoteApplied
    split
    · rfl
    · dsimp only
      split
      · rfl
      · rfl
  | answerCreated n sdp =>
    refine (Receives.refl s).congr ?_
    change (s.onAnswerCreated n sdp).webrtc = s.webrtc
    rcases onAnswerCreated_cases n sdp s with he | he | ⟨cb, -, -, he⟩
    · rw [he]
    · rw [he]
    · rw [he]
      rfl
  | peerState state =>
    refine (Receives.refl s).congr ?_
    change (s.onPeerState state).webrtc = s.webrtc
    unfold onPeerState
    split
    · rfl
    · cases state <;> rfl
  | connectivity connected => exact (Receives.refl s).congr rfl
  | prepare initialized =>
    change Receives [] s (s.prepare initialized)
    unfold JingleService.prepare
    split
    · exact .refl s
    · exact receives_prepareMedia initialized s
  | startCall receiverId video initialized => exact receives_startCall receiverId video initialized s
  | acceptCall initialized => exact receives_acceptCall initialized s
  | rejectCall => exact receives_rejectCall s
  | endCall =>
    change Receives [] s s.endCall
    unfold JingleService.endCall
    dsimp only
    split
    · exact .closed rfl
    · exact .closed rfl

end

/-! ### What a stanza carries -/

def Carries (stanza : Element) (a : Applied) : Prop :=
  ∃ peer : JingleAction, ∃ signal ∈ (peer.parse stanza).2.1, signal.gives = some a

def Created (acts : List LocalEvent) : Applied → Prop
  | .remoteSdp type sdp =>
    (type = ofAscii "offer" ∧ ∃ n, .event (.offerCreated n sdp) ∈ acts) ∨
    (type = ofAscii "answer" ∧ ∃ n, .event (.answerCreated n sdp) ∈ acts)
  | .remoteCandidate candidate sdpMid sdpMLineIndex =>
    ∃ index : Int32, index.toInt = sdpMLineIndex ∧ .localIceCandidate candidate sdpMid index ∈ acts

section

variable {jid recipient sid sdp : QString} {iceServers : List IceServer} {e : Element} {ns : Text}
  {attributes named : List (QString × QString)} {media : StreamType}

lemma contentOffer_arrives {ices : List XmlElement}
    (h : XmlElement.Arrives true ns (.mk (ofAscii "content") named [] [JingleAction.descriptionElement sdp media,
      inNamespace (ofAscii "transport") kJINGLE_TRANSPORT_ICE [] ices]) e) : (JingleAction.contentOffer e).1 = sdp := by
  obtain ⟨description, es, hes, hd, htail⟩ := XmlElement.arriveIn_cons.mp h.children
  obtain ⟨transport, rfl, ht⟩ := XmlElement.arriveIn_single.mp htail
  have hfirst : JingleAction.nameMatches description (ofAscii "description") kJINGLE_APP = true :=
    (JingleAction.nameMatches_inNamespace hd (by decide) _ _).trans (by decide)
  have hother : JingleAction.nameMatches transport (ofAscii "description") kJINGLE_APP = false :=
    (JingleAction.nameMatches_inNamespace ht (by decide) _ _).trans (by decide)
  simp only [JingleAction.contentOffer, hes, List.foldl_cons, List.foldl_nil, hfirst, hother, if_true,
    Bool.false_eq_true, if_false, JingleAction.childText_description hd]
  split
  · rfl
  · rfl

lemma offered_initiateIq {jidBare : QString} {jingle : Element} {c : Element × QString × List IceServer}
    (hj : JingleAction.jingleOf ((JingleAction.initiateIq jidBare sid recipient sdp iceServers media).delivered jid) =
      some jingle) (h : JingleAction.offered jingle = some c) : c.2.1 = sdp := by
  obtain ⟨jingle', hj', harrives⟩ := JingleAction.jingleOf_setIq
    (arrives_delivered (JingleAction.initiateIq jidBare sid recipient sdp iceServers media) jid)
  obtain rfl : jingle' = jingle := Option.some.inj (hj'.symm.trans hj)
  obtain ⟨content, hcontent, hc⟩ := XmlElement.arriveIn_single.mp
    (show XmlElement.ArriveIn _ _ [.mk (ofAscii "content") _ [] _] _ from harrives.childrenNamed (ofAscii "content"))
  rw [JingleAction.offered, hcontent] at h
  have hmem := List.mem_of_find?_eq_some h
  rw [List.map_singleton, List.mem_singleton] at hmem
  rw [hmem]
  exact contentOffer_arrives hc

lemma answered_sessionAcceptIq {a : JingleAction} {jingle : Element} {answer : QString}
    (hj : JingleAction.jingleOf ((JingleAction.sessionAccept jid recipient sdp media a).delivered jid) = some jingle)
    (h : JingleAction.answered jingle = some answer) : answer = sdp := by
  obtain ⟨jingle', hj', harrives⟩ := JingleAction.jingleOf_setIq
    (arrives_delivered (JingleAction.sessionAccept jid recipient sdp media a) jid)
  obtain rfl : jingle' = jingle := Option.some.inj (hj'.symm.trans hj)
  obtain ⟨content, hcontent, hc⟩ := XmlElement.arriveIn_single.mp
    (show XmlElement.ArriveIn _ _ [.mk (ofAscii "content") _ [] _] _ from harrives.children)
  obtain ⟨description, hes, hd⟩ := XmlElement.arriveIn_single.mp (show XmlElement.ArriveIn _ _
    [JingleAction.descriptionElement sdp media] _ from hc.childrenNamed (ofAscii "description"))
  rw [JingleAction.answered, hcontent, List.dropWhile_cons_of_neg (by simp [hc.tagName, XmlElement.tagName]),
    List.map_cons, hes] at h
  have hmem := List.mem_of_find?_eq_some h
  rw [List.map_nil, List.mem_singleton, List.head?_cons, Option.map_some, Option.getD_some,
    JingleAction.childText_description hd] at hmem
  exact hmem

lemma carries_candidate {candidate sdpMid : QString} {sdpMLineIndex : Int32} {s : JingleService} {iq : QXmppIq}
    {x : Applied} (h : iceCandidate candidate sdpMid sdpMLineIndex s = some iq) (hx : Carries (iq.delivered jid) x) :
    x = .remoteCandidate candidate sdpMid sdpMLineIndex.toInt := by
  have hkind := @iceCandidate_kind jid _ _ _ _ _ h
  unfold iceCandidate at h
  split_ifs at h with hc
  dsimp only at h
  split_ifs at h with he
  obtain rfl := Option.some.inj h
  have hext : (JingleAction.exchangeIceCandidate s.jingle.sessionSender candidate sdpMid sdpMLineIndex
      s.action).extensions ≠ [] := by simpa using he
  obtain ⟨peer, signal, hsignal, hgives⟩ := hx
  obtain ⟨-, -, fields, -, -, heq⟩ := JingleAction.exchangeIceCandidate_extensions hext
  -- only a peer of the same session takes it
  have hsid : s.action.currentSid = peer.currentSid := by
    rcases parse_cases peer (QXmppIq.delivered (JingleAction.exchangeIceCandidate s.jingle.sessionSender candidate
      sdpMid sdpMLineIndex s.action) jid) with hn | ⟨_, _, _, -, ht, -⟩ | ⟨_, _, -, ht, -⟩ | ht | ⟨jingle, hj, -, hs, -⟩
    · rw [hn] at hsignal
      cases hsignal
    · rw [hkind] at ht
      cases ht
    · rw [hkind] at ht
      cases ht
    · rw [ht, List.mem_singleton] at hsignal
      rw [hsignal] at hgives
      cases hgives
    · rw [heq] at hj
      obtain ⟨jingle', hj', harrives⟩ := JingleAction.jingleOf_setIq (arrives_delivered _ jid)
      obtain rfl : jingle' = jingle := Option.some.inj (hj'.symm.trans hj)
      rw [← hs, attributeOf_inNamespace harrives (by decide)]
      rfl
  rw [JingleAction.exchangeIceCandidate_emits hsid hext true _ (arrives_delivered _ jid)] at hsignal
  split_ifs at hsignal
  · rw [List.mem_singleton.mp hsignal] at hgives
    exact (Option.some.inj hgives).symm
  · cases hsignal

lemma carries_transmit {s : JingleService} {x : Effect} {stanza : Element} {a : Applied}
    (h : transmit jid s x = some stanza) (ha : Carries stanza a) :
    (∃ recipient sid sdp iceServers, x = .sendSessionInitiate recipient sid sdp iceServers ∧
      a = .remoteSdp (ofAscii "offer") sdp) ∨
    ∃ recipient sid sdp, x = .sendSessionAccept recipient sid sdp ∧ a = .remoteSdp (ofAscii "answer") sdp := by
  obtain ⟨peer, signal, hsignal, hgives⟩ := ha
  rcases parse_cases peer stanza with
    hn | ⟨jingle, c, sid, hj, ht, ho, hs⟩ | ⟨jingle, answer, hj, ht, ho, -, hs⟩ | hs | ⟨jingle, hj, ht, -⟩
  · rw [hn] at hsignal
    cases hsignal
  · rw [hs, List.mem_singleton] at hsignal
    rw [hsignal] at hgives
    have hi := transmit_initiate h (by rw [isInitiateStanza, ht]; rfl)
    cases x with
    | sendSessionInitiate recipient sid' sdp iceServers =>
      obtain rfl := Option.some.inj h
      rw [← Option.some.inj hgives, offered_initiateIq hj ho]
      exact Or.inl ⟨recipient, sid', sdp, iceServers, rfl, rfl⟩
    | _ => cases hi
  · rw [hs, List.mem_singleton] at hsignal
    rw [hsignal] at hgives
    have hi := transmit_answer h (by rw [isAnswerStanza, ht]; rfl)
    cases x with
    | sendSessionAccept recipient sid' sdp =>
      obtain rfl := Option.some.inj h
      rw [← Option.some.inj hgives, answered_sessionAcceptIq hj ho]
      exact Or.inr ⟨recipient, sid', sdp, rfl, rfl⟩
    | _ => cases hi
  · rw [hs, List.mem_singleton] at hsignal
    rw [hsignal] at hgives
    cases hgives
  · -- no effect sends candidates
    rw [transmit_action h] at ht
    cases x <;> cases ht

end

/-! ### Where they come from -/

section

variable (x : Parties) (side : Bool)

lemma created_mono {as as' : List LocalEvent} (h : as ⊆ as') {a : Applied} (ha : Created as a) : Created as' a := by
  cases a with
  | remoteSdp type sdp =>
    rcases ha with ⟨ht, n, hn⟩ | ⟨ht, n, hn⟩
    · exact Or.inl ⟨ht, n, h hn⟩
    · exact Or.inr ⟨ht, n, h hn⟩
  | remoteCandidate candidate sdpMid sdpMLineIndex =>
    obtain ⟨index, hi, hmem⟩ := ha
    exact ⟨index, hi, h hmem⟩

lemma created_of_sent (s : JingleService) (e : Event) {stanza : Element}
    (h : stanza ∈ (x.send side (step (x.platform side) s e)).2) {a : Applied} (ha : Carries stanza a) :
    Created [.event e] a := by
  obtain ⟨effect, heffect, htransmit⟩ := List.mem_filterMap.mp h
  obtain ⟨d, hd, hmade⟩ := spends_handle (P := x.platform side) e { s with log := [] }
  have hdescribed {effect : Effect} (hlog : effect ∈ (step (x.platform side) s e).log)
      (hdescribes : effect.describes = true) : MadeBy e effect := by
    rcases hd.made effect hlog hdescribes with hnil | hmem
    · cases hnil
    · exact hmade effect hmem
  rcases carries_transmit htransmit ha with ⟨_, _, sdp, _, rfl, rfl⟩ | ⟨_, _, sdp, rfl, rfl⟩
  · rcases hdescribed heffect rfl with ⟨n, _, _, _, _, rfl, he⟩ | ⟨_, _, _, _, -, he⟩
    · cases he
      exact Or.inl ⟨rfl, n, List.mem_cons_self⟩
    · cases he
  · rcases hdescribed heffect rfl with ⟨_, _, _, _, _, -, he⟩ | ⟨n, _, _, _, rfl, he⟩
    · cases he
    · cases he
      exact Or.inr ⟨rfl, n, List.mem_cons_self⟩

lemma makes_created : Makes x.protocol side (fun acts stanza => ∀ a, Carries stanza a → Created acts a) := by
  refine ⟨fun as as' stanza hsub h a ha => created_mono hsub (h a ha), fun s act stanza hmem a ha => ?_,
    fun s stanza created stanza' hmem a ha => ?_⟩
  · cases act with
    | event e =>
      change stanza ∈ (x.act side s (.event e)).2 at hmem
      unfold Parties.act at hmem
      dsimp only at hmem
      split_ifs at hmem
      · cases hmem
      · exact created_of_sent x side s e hmem ha
    | localIceCandidate candidate sdpMid sdpMLineIndex =>
      change stanza ∈ ((iceCandidate candidate sdpMid sdpMLineIndex s).map
        (fun iq => iq.delivered (x.jid side))).toList at hmem
      obtain ⟨iq, hiq, rfl⟩ := Option.map_eq_some_iff.mp (Option.mem_toList.mp hmem)
      rw [carries_candidate hiq ha]
      exact ⟨sdpMLineIndex, rfl, List.mem_cons_self⟩
  · have hcreated := created_of_sent x side s (.stanza stanza created) hmem ha
    -- a stanza makes none
    cases a with
    | remoteSdp type sdp =>
      rcases hcreated with ⟨-, n, hn⟩ | ⟨-, n, hn⟩
      · cases List.mem_singleton.mp hn
      · cases List.mem_singleton.mp hn
    | remoteCandidate candidate sdpMid sdpMLineIndex =>
      obtain ⟨index, -, hn⟩ := hcreated
      cases List.mem_singleton.mp hn

lemma knows_given : Knows x.protocol side (fun stanzas s => ∀ a ∈ s.given, ∃ stanza ∈ stanzas, Carries stanza a) := by
  refine ⟨fun stanzas stanzas' s h a ha => ?_, fun stanzas s act h => ?_, fun stanzas s stanza created hmem h => ?_⟩
  · obtain ⟨stanza, hs, hc⟩ := h a ha
    exact ⟨stanza, List.mem_append_left _ hs, hc⟩
  · cases act with
    | event e =>
      change ∀ a ∈ (x.act side s (.event e)).1.given, _
      unfold Parties.act
      dsimp only
      by_cases hr : e.received.isSome
      · rw [if_pos hr]
        exact h
      · rw [if_neg hr]
        intro a ha
        have hreceived := receives_handle (P := x.platform side) e { s with log := [] } a ha
        rw [Option.not_isSome_iff_eq_none.mp hr] at hreceived
        rcases hreceived with ha | ha
        · exact h a ha
        · cases ha
    | localIceCandidate candidate sdpMid sdpMLineIndex => exact h
  · intro a ha
    rcases receives_handle (P := x.platform side) (.stanza stanza created) { s with log := [] } a ha with ha | ha
    · exact h a ha
    · obtain ⟨signal, hsignal, hgives⟩ := List.mem_filterMap.mp ha
      exact ⟨stanza, hmem, s.action, signal, hsignal, hgives⟩

end

/-- Whatever a party's connection was given, an offer, an answer or a candidate, the WebRTC library of the other
party has made, as that and with that text. -/
theorem given_created (x : Parties) (as : List (Action LocalEvent Bool)) (side : Bool) :
    ∀ a ∈ ((x.run as).party side).given, Created ((x.run as).acts (!side)) a := by
  intro a ha
  have hstart : ∀ a ∈ (JingleService.create (x.domain side) (x.jidBare side)).given,
      ∃ stanza ∈ ([] : List Element), Carries stanza a := by
    intro a ha
    cases ha
  obtain ⟨stanza, hsent, hcarries⟩ := (knows_given x side).run hstart as a ha
  exact (makes_created x (!side)).run _ as stanza hsent a hcarries

def namedParties : Parties where
  platform _ := ⟨fun n => ofAscii "sid" ++ [n.toUInt16 + 0x30], fun _ _ => true, fun _ _ _ => true⟩
  jid side := if side then ofAscii "b@s/y" else ofAscii "a@s/x"
  domain _ := ofAscii "s"
  jidBare side := if side then ofAscii "b@s" else ofAscii "a@s"

-- the first party calls the other, which accepts and is sent the offer
def offerMade : List (Action LocalEvent Bool) :=
  [.act false (.event (.connectivity true)), .act true (.event (.connectivity true)),
    .act false (.event (.startCall (ofAscii "b") false true)), .deliver true 0 false,
    .act true (.event (.acceptCall true)), .deliver false 1 false, .act false (.event (.discovery (some []) true)),
    .act false (.event (.offerCreated 0 (ofAscii "v=0"))), .deliver true 0 true]

theorem given_created_offer :
    Created ((namedParties.run offerMade).acts (!true)) (.remoteSdp (ofAscii "offer") (ofAscii "v=0")) :=
  given_created namedParties offerMade true (.remoteSdp (ofAscii "offer") (ofAscii "v=0")) (by decide +kernel)

end ChatDesktop.Voip
