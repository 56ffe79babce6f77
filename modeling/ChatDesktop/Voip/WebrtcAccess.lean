import ChatDesktop.Library.Program
import ChatDesktop.Voip.Consent

namespace ChatDesktop.Voip

open Library Library.Text Library.Program Library.Reactive JingleService

inductive Member
  | setAudioInputDevice
  | setAudioOutputDevice
  | setCameraDevice
  | prepare
  | setCameraEnabled
  | initializeClient
  | createPeerConnection
  | createOffer
  | setRemoteSdp
  | setRemoteCandidate
  | setEnableSpeaker
  | closeConnection
  | createLocalCameraTrack
  deriving DecidableEq, Repr

abbrev Access := Prog JingleService Member

namespace Access

def call (member : Member) : Access WebrtcClient := fun s =>
  match s.webrtc with
  | some w => (.ok w, s)
  | none => (.error member, s)

def run {α : Type} (f : JingleService → α × JingleService) : Access α := fun s => (.ok (f s).1, (f s).2)

def forEach {α : Type} (f : α → Access Unit) : List α → Access Unit
  | [] => pure ()
  | a :: as => do
    f a
    forEach f as

def createWebrtcClient : Access Unit := do
  Prog.modify JingleService.createWebrtcClient
  let _ ← call .setAudioInputDevice
  let _ ← call .setAudioOutputDevice
  let _ ← call .setCameraDevice
  pure ()

def prepareMedia (initialized : Bool) : Access Bool := do
  let s ← Prog.get
  Prog.when s.webrtc.isNone createWebrtcClient
  let _ ← call .setCameraEnabled
  let s ← Prog.get
  if s.mediaPrepared then pure true
  else
    let _ ← call .initializeClient
    if !initialized then
      let _ ← call .setCameraEnabled
      Prog.modify (fun s => { s with webrtc := none }.signalingFailed "Cannot initialize WebRTC for the call")
      pure false
    else
      Prog.modify (fun s => { s with
        mediaPrepared := true
        webrtc := s.webrtc.map (fun w => { w with initialized := true }) })
      pure true

def prepare (initialized : Bool) : Access Unit := do
  let s ← Prog.get
  if s.callStarted then pure ()
  else
    Prog.when s.webrtc.isNone createWebrtcClient
    let _ ← call .prepare
    let _ ← prepareMedia initialized
    pure ()

variable (P : Platform)

def onExternalServiceReceived (services : List ExternalService) (created : Bool) : Access Unit := do
  let s ← Prog.get
  if s.webrtc.isNone then pure ()
  else
    let iceServers := services.filterMap ExternalService.ice
    let w ← call .createPeerConnection
    let made ← run (JingleService.createPeerConnection created iceServers w)
    if !made then Prog.modify (·.signalingFailed "Cannot create the peer connection for the local offer")
    else
      let _ ← call .createOffer
      Prog.modify (·.createOffer iceServers)

def onDiscovery (services : Option (List ExternalService)) (created : Bool) : Access Unit := do
  let s ← Prog.get
  if s.discoveries = 0 then pure ()
  else
    Prog.modify (fun s => { s with discoveries := s.discoveries - 1 })
    match services with
    | none => pure ()
    | some services => onExternalServiceReceived services created

def onRemoteSdpOfferReceived (created : Bool) (offer : QString) (iceServers : List IceServer) (sid : QString) :
    Access Unit := do
  Prog.modify (fun s => { s with jingle := { s.jingle with currentSid := sid } })
  let s ← Prog.get
  if s.webrtc.isNone then Prog.modify (·.signalingFailed "Cannot answer: WebRTC is not initialized")
  else
    let _ ← call .setCameraEnabled
    let w ← call .createPeerConnection
    let made ← run (JingleService.createPeerConnection created iceServers w)
    if !made then Prog.modify (·.signalingFailed "Cannot create the peer connection for the remote offer")
    else
      let _ ← call .setRemoteSdp
      let applied ← run (JingleService.setRemoteSdp P (ofAscii "offer") offer)
      if applied then Prog.modify (fun s => { s with remotes := s.remotes ++ s.callback [] })
      else Prog.modify (·.signalingFailed "Cannot apply the remote SDP offer")

def onRemoteSdpAnswerReceived (answer : QString) : Access Unit := do
  let s ← Prog.get
  if s.webrtc.isNone then Prog.modify (·.signalingFailed "Cannot apply the remote SDP answer")
  else
    let _ ← call .setRemoteSdp
    let applied ← run (JingleService.setRemoteSdp P (ofAscii "answer") answer)
    if applied then pure () else Prog.modify (·.signalingFailed "Cannot apply the remote SDP answer")

def onExchangeIceCandidateReceived (sdp sdpMid : QString) (sdpMLineIndex : Int) : Access Unit := do
  let _ ← call .setRemoteCandidate
  Prog.modify (·.setRemoteCandidate P sdp sdpMid sdpMLineIndex)

def onJingleAction (created : Bool) : ActionSignal → Access Unit
  | .remoteSdpOfferReceived offer iceServers sid => onRemoteSdpOfferReceived P created offer iceServers sid
  | .exchangeIceCandidateReceived sdp sdpMid sdpMLineIndex => onExchangeIceCandidateReceived P sdp sdpMid sdpMLineIndex
  | .remoteSdpAnswerReceived answer _ => onRemoteSdpAnswerReceived P answer
  | .sessionTerminateReceived => Prog.modify (·.emit .sessionTerminate)

def noteSender (stanza jingle : Element) (s : JingleService) : JingleService :=
  if jingle.attributeOf (ofAscii "action") = ofAscii "session-initiate" ∧
      stanza.attributeOf (ofAscii "type") = ofAscii "set" then
    { s with jingle := { s.jingle with sessionSender := stanza.attributeOf (ofAscii "from") } } else s

def handleIq (created : Bool) (stanza jingle : Element) : Access Unit := do
  Prog.modify (noteSender stanza jingle)
  let s ← Prog.get
  let parsed := s.action.parse stanza
  Prog.modify (fun s => { s with action := parsed.2.2 })
  forEach (onJingleAction P created) parsed.2.1
  Prog.modify (fun s => if parsed.1 then
    s.emit (.sendReply (stanza.attributeOf (ofAscii "from")) (stanza.attributeOf (ofAscii "id"))) else s)

def handleStanza (created : Bool) (stanza : Element) : Access Unit :=
  if stanza.tagName = ofAscii "message" then Prog.modify (·.handleStanza P created stanza)
  else if stanza.tagName = ofAscii "iq" then
    match findJingleElement stanza with
    | none => pure ()
    | some jingle => handleIq P created stanza jingle
  else pure ()

def acceptCall (initialized : Bool) : Access Unit := do
  let connected ← run JingleService.isConnected
  if !connected then pure ()
  else
    let prepared ← prepareMedia initialized
    if !prepared then pure () else Prog.modify (fun s => { s with callStarted := true }.sendAccept)

def endCall : Access Unit := do
  Prog.modify (fun s => if s.callStarted && s.connected then s.sessionTerminate else s)
  let s ← Prog.get
  Prog.when s.webrtc.isSome (do
    let _ ← call .setCameraEnabled
    let _ ← call .setEnableSpeaker
    let _ ← call .closeConnection
    Prog.modify (fun s => if s.hasPeerConnection then
      (s.emit (.callStateChange .reconnect)).emit (.connectionStateChange .disconnect) else s)
    Prog.modify (fun s => { s with webrtc := none }))
  Prog.modify (fun s => { s with mediaPrepared := false, callStarted := false })

def startCall (receiverId : QString) (video initialized : Bool) : Access Unit := do
  let s ← Prog.get
  let recipient := s.recipientOf receiverId
  if !s.connected then Prog.modify (·.signalingFailed "Cannot start call: XMPP is not connected")
  else if !jidPattern recipient then Prog.modify (·.signalingFailed "Cannot start call: invalid recipient")
  else if recipient = s.jidBare then Prog.modify (·.signalingFailed "Cannot call your own account")
  else
    Prog.modify (fun s => { s with recipientId := recipient, videoCall := video }.emit (.callStateChange .calling))
    let prepared ← prepareMedia initialized
    if !prepared then pure ()
    else
      Prog.modify (fun s => { s with callStarted := true })
      let _ ← call .createLocalCameraTrack
      Prog.modify (·.propose P recipient video)

/-- The members that the callbacks of the library call belong to the client they were created by, as long as
it lives. -/
def handle : Event → Access Unit
  | .stanza stanza created => handleStanza P created stanza
  | .discovery services created => onDiscovery services created
  | .prepare initialized => prepare initialized
  | .startCall receiverId video initialized => startCall P receiverId video initialized
  | .acceptCall initialized => acceptCall initialized
  | .rejectCall => Prog.modify JingleService.rejectCall
  | .endCall => endCall
  | e => Prog.modify (fun s => s.handle P e)

def handleAll (es : List Event) : Access Unit :=
  forEach (fun e => do
    Prog.modify (fun s => { s with log := [] })
    handle P e) es

def serve (es : List Event) : Access Unit := do
  createWebrtcClient
  handleAll P es

end Access

/-! ### With a client -/

section

variable {P : Platform} {s : JingleService} {w : WebrtcClient} {α : Type}

lemma call_bind (h : s.webrtc = some w) (member : Member) (f : WebrtcClient → Access α) :
    (Access.call member >>= f) s = f w s := by rw [bind_apply, Access.call, h]

lemma call_bind_missing (h : s.webrtc = none) (member : Member) (f : WebrtcClient → Access α) :
    (Access.call member >>= f) s = (.error member, s) := by rw [bind_apply, Access.call, h]

lemma run_bind {β : Type} (f : JingleService → β × JingleService) (g : β → Access α) (s : JingleService) :
    (Access.run f >>= g) s = g (f s).1 (f s).2 := rfl

lemma access_createWebrtcClient (s : JingleService) : Access.createWebrtcClient s = (.ok (), s.createWebrtcClient) := by
  rw [Access.createWebrtcClient, modify_bind_apply, call_bind rfl, call_bind rfl, call_bind rfl, pure_apply]

lemma when_isNone_bind (f : Unit → Access α) (s : JingleService) :
    (Prog.when (s.webrtc.isNone : Prop) Access.createWebrtcClient >>= f) s =
      f () (if s.webrtc.isNone then s.createWebrtcClient else s) := by
  cases hw : s.webrtc with
  | none =>
    rw [when_pos (by rfl), bind_ok (access_createWebrtcClient s)]
    rfl
  | some w =>
    rw [when_neg (by exact Bool.false_ne_true)]
    rfl

lemma isSome_ensured (s : JingleService) :
    ∃ w, (if s.webrtc.isNone then s.createWebrtcClient else s).webrtc = some w := by
  cases hw : s.webrtc with
  | none => exact ⟨_, rfl⟩
  | some w => exact ⟨w, hw⟩

lemma access_prepareMedia (initialized : Bool) (s : JingleService) :
    Access.prepareMedia initialized s = (.ok (s.prepareMedia initialized).1, (s.prepareMedia initialized).2) := by
  obtain ⟨w, hw⟩ := isSome_ensured s
  rw [Access.prepareMedia, get_bind_apply, when_isNone_bind, JingleService.prepareMedia]
  generalize (if s.webrtc.isNone then s.createWebrtcClient else s) = t at hw ⊢
  rw [call_bind hw, get_bind_apply]
  split_ifs
  · rfl
  · rw [call_bind hw, call_bind hw]
    rfl
  · rw [call_bind hw]
    rfl

lemma isSome_prepareMedia {initialized : Bool} (h : (s.prepareMedia initialized).1 = true) :
    ∃ w, (s.prepareMedia initialized).2.webrtc = some w := by
  obtain ⟨w, hw⟩ := isSome_ensured s
  rw [JingleService.prepareMedia] at h ⊢
  generalize (if s.webrtc.isNone then s.createWebrtcClient else s) = t at hw h ⊢
  split_ifs at h ⊢
  · exact ⟨w, hw⟩
  · exact ⟨{ w with initialized := true }, congrArg (Option.map _) hw⟩

lemma access_prepare (initialized : Bool) (s : JingleService) :
    Access.prepare initialized s = (.ok (), s.prepare initialized) := by
  rw [Access.prepare, get_bind_apply, JingleService.prepare]
  split_ifs with hstarted
  · rfl
  · obtain ⟨w, hw⟩ := isSome_ensured s
    -- once there is a client, preparing the media does not create another
    have hsame : (if s.webrtc.isNone then s.createWebrtcClient else s).prepareMedia initialized =
        s.prepareMedia initialized := by
      split_ifs with hnone
      · rw [JingleService.prepareMedia, JingleService.prepareMedia, if_pos hnone]
        rfl
      · rfl
    rw [when_isNone_bind, call_bind hw, bind_ok (access_prepareMedia initialized _), hsame, pure_apply]

lemma access_onExternalServiceReceived (services : List ExternalService) (created : Bool) (s : JingleService) :
    Access.onExternalServiceReceived services created s = (.ok (), s.onExternalServiceReceived services created) := by
  rw [Access.onExternalServiceReceived, get_bind_apply, JingleService.onExternalServiceReceived]
  cases hw : s.webrtc with
  | none => rfl
  | some w =>
    rw [Option.isNone_some, if_neg Bool.false_ne_true, call_bind hw, run_bind]
    obtain he | ⟨-, -, he⟩ := createPeerConnection_cases created (services.filterMap ExternalService.ice) w s
    · simp only [he]
      rfl
    · simp only [he, Bool.not_true, Bool.false_eq_true, if_false]
      rw [call_bind rfl]
      rfl

lemma access_onDiscovery (services : Option (List ExternalService)) (created : Bool) (s : JingleService) :
    Access.onDiscovery services created s = (.ok (), s.onDiscovery services created) := by
  unfold Access.onDiscovery JingleService.onDiscovery
  rw [get_bind_apply]
  split_ifs
  · rfl
  · rw [modify_bind_apply]
    cases services with
    | none => rfl
    | some services => exact access_onExternalServiceReceived services created _

lemma access_onRemoteSdpOfferReceived (created : Bool) (offer : QString) (iceServers : List IceServer) (sid : QString)
    (s : JingleService) : Access.onRemoteSdpOfferReceived P created offer iceServers sid s =
      (.ok (), s.onRemoteSdpOfferReceived P created offer iceServers sid) := by
  rw [Access.onRemoteSdpOfferReceived, modify_bind_apply, get_bind_apply, JingleService.onRemoteSdpOfferReceived]
  generalize ({ s with jingle := { s.jingle with currentSid := sid } } : JingleService) = t
  cases hw : t.webrtc with
  | none => rfl
  | some w =>
    rw [Option.isNone_some, if_neg Bool.false_ne_true, call_bind hw, call_bind hw, run_bind]
    obtain he | ⟨-, -, he⟩ := createPeerConnection_cases created iceServers w t
    · simp only [he]
      rfl
    · simp only [he, Bool.not_true, Bool.false_eq_true, if_false]
      rw [call_bind rfl, run_bind]
      split_ifs <;> rfl

lemma access_onRemoteSdpAnswerReceived (created : Bool) (answer sid : QString) (s : JingleService) :
    Access.onRemoteSdpAnswerReceived P answer s =
      (.ok (), s.onJingleAction P created (.remoteSdpAnswerReceived answer sid)) := by
  rw [Access.onRemoteSdpAnswerReceived, get_bind_apply, JingleService.onJingleAction]
  cases hw : s.webrtc with
  | none =>
    have hno : s.hasPeerConnection = false := by rw [hasPeerConnection, hw, Option.bind_none, Option.isSome_none]
    rw [setRemoteSdp, hno]
    rfl
  | some w =>
    rw [Option.isNone_some, if_neg Bool.false_ne_true, call_bind hw, run_bind]
    obtain ⟨-, he⟩ | ⟨-, he⟩ := setRemoteSdp_cases (P := P) (ofAscii "answer") answer s
    · simp only [he]
      rfl
    · simp only [he]
      rfl

def ActionSignal.isCandidate : ActionSignal → Bool
  | .exchangeIceCandidateReceived .. => true
  | _ => false

lemma access_onJingleAction {signal : ActionSignal} (h : s.webrtc ≠ none ∨ signal.isCandidate = false) (created : Bool) :
    Access.onJingleAction P created signal s = (.ok (), s.onJingleAction P created signal) := by
  cases signal with
  | remoteSdpOfferReceived offer iceServers sid => exact access_onRemoteSdpOfferReceived created offer iceServers sid s
  | remoteSdpAnswerReceived answer sid => exact access_onRemoteSdpAnswerReceived created answer sid s
  | sessionTerminateReceived => rfl
  | exchangeIceCandidateReceived sdp sdpMid sdpMLineIndex =>
    have hsome := h.resolve_right nofun
    obtain ⟨w, hw⟩ := Option.ne_none_iff_exists'.mp hsome
    rw [Access.onJingleAction, Access.onExchangeIceCandidateReceived, call_bind hw, JingleService.onJingleAction, hw,
      Option.isNone_some, if_neg Bool.false_ne_true]
    rfl

lemma isNone_onJingleAction (created : Bool) (signal : ActionSignal) (s : JingleService) :
    (s.onJingleAction P created signal).webrtc = none ↔ s.webrtc = none := by
  cases signal with
  | remoteSdpOfferReceived offer iceServers sid =>
    rw [onJingleAction]
    obtain ⟨-, reason, he⟩ | ⟨⟨w, hw, -⟩, he⟩ :=
      onRemoteSdpOfferReceived_cases (P := P) created offer sid iceServers s
    · rw [he]
      exact Iff.rfl
    · apply iff_of_false
      · intro hnone
        rw [hasPeerConnection, hnone] at he
        cases he
      · rw [hw]
        exact Option.some_ne_none w
  | remoteSdpAnswerReceived answer sid =>
    rw [onJingleAction]
    obtain ⟨-, he⟩ | ⟨-, he⟩ := setRemoteSdp_cases (P := P) (ofAscii "answer") answer s
    · simp only [he, if_true]
      exact Option.map_eq_none_iff
    · simp only [he]
      exact Iff.rfl
  | sessionTerminateReceived => exact Iff.rfl
  | exchangeIceCandidateReceived sdp sdpMid sdpMLineIndex =>
    rw [onJingleAction, setRemoteCandidate]
    split_ifs
    · exact Iff.rfl
    · exact Option.map_eq_none_iff
    · exact Iff.rfl

lemma access_onJingleActions (created : Bool) {signals : List ActionSignal}
    (h : s.webrtc ≠ none ∨ ∀ signal ∈ signals, signal.isCandidate = false) :
    Access.forEach (Access.onJingleAction P created) signals s =
      (.ok (), signals.foldl (JingleService.onJingleAction P created) s) := by
  induction signals generalizing s with
  | nil => rfl
  | cons signal signals ih =>
    have hhead := h.imp_right (fun hall => hall signal List.mem_cons_self)
    rw [Access.forEach, bind_ok (access_onJingleAction hhead created), List.foldl_cons]
    apply ih
    rw [ne_eq, isNone_onJingleAction]
    exact h.imp_right (fun hall signal' hmem => hall signal' (List.mem_cons_of_mem _ hmem))

lemma access_onJingleActions_missing (created : Bool) {signals : List ActionSignal} (hw : s.webrtc = none)
    (h : ∃ signal ∈ signals, signal.isCandidate = true) :
    ∃ t, Access.forEach (Access.onJingleAction P created) signals s = (.error .setRemoteCandidate, t) := by
  induction signals generalizing s with
  | nil =>
    obtain ⟨signal, hmem, -⟩ := h
    cases hmem
  | cons signal signals ih =>
    rw [Access.forEach]
    cases hc : signal.isCandidate with
    | true =>
      cases signal with
      | exchangeIceCandidateReceived sdp sdpMid sdpMLineIndex =>
        exact ⟨s, bind_error (call_bind_missing hw _ _)⟩
      | _ => cases hc
    | false =>
      rw [bind_ok (access_onJingleAction (Or.inr hc) created)]
      apply ih ((isNone_onJingleAction created signal s).mpr hw)
      obtain ⟨signal', hmem, hc'⟩ := h
      obtain rfl | hmem := List.mem_cons.mp hmem
      · rw [hc] at hc'
        cases hc'
      · exact ⟨signal', hmem, hc'⟩

/-! ### The events -/

def StrayCandidate (s : JingleService) : Event → Prop
  | .stanza stanza _ => s.webrtc = none ∧ stanza.tagName = ofAscii "iq" ∧ (findJingleElement stanza).isSome ∧
      ∃ jingle, JingleAction.jingleOf stanza = some jingle ∧
        ActionType.fromString (jingle.attributeOf (ofAscii "action")) = some .sessionTransport ∧
        s.action.currentSid ≠ [] ∧ jingle.attributeOf (ofAscii "sid") = s.action.currentSid ∧
        JingleAction.candidates jingle ≠ []
  | _ => False

lemma isCandidate_of_mem {jingle : Element} {signal : ActionSignal} (h : signal ∈ JingleAction.candidates jingle) :
    signal.isCandidate = true := by
  obtain ⟨sdp, sdpMid, sdpMLineIndex, rfl⟩ := exchange_of_mem_candidates h
  rfl

lemma exists_isCandidate_iff {a : JingleAction} {stanza : Element} :
    (∃ signal ∈ (a.parse stanza).2.1, signal.isCandidate = true) ↔
      ∃ jingle, JingleAction.jingleOf stanza = some jingle ∧
        ActionType.fromString (jingle.attributeOf (ofAscii "action")) = some .sessionTransport ∧
        a.currentSid ≠ [] ∧ jingle.attributeOf (ofAscii "sid") = a.currentSid ∧ JingleAction.candidates jingle ≠ [] := by
  have hnone : ¬∃ signal ∈ ([] : List ActionSignal), signal.isCandidate = true := by
    rintro ⟨signal, hmem, -⟩
    cases hmem
  rw [JingleAction.parse]
  cases hj : JingleAction.jingleOf stanza with
  | none => exact iff_of_false hnone (fun ⟨_, he, _⟩ => nomatch he)
  | some jingle =>
    simp only [Option.some.injEq, exists_eq_left']
    cases ha : ActionType.fromString (jingle.attributeOf (ofAscii "action")) with
    | none => exact iff_of_false hnone (fun h => nomatch h.1)
    | some action =>
      have hone : ∀ signal : ActionSignal, signal.isCandidate = false →
          ¬∃ signal' ∈ [signal], signal'.isCandidate = true := by
        rintro signal hs ⟨signal', hmem, hc⟩
        rw [List.mem_singleton.mp hmem, hs] at hc
        cases hc
      dsimp only
      by_cases hsid : jingle.attributeOf (ofAscii "sid") = []
      · rw [if_pos hsid]
        exact iff_of_false hnone (fun h => h.2.1 (h.2.2.1 ▸ hsid))
      rw [if_neg hsid]
      cases action with
      | sessionTransport =>
        by_cases hother : jingle.attributeOf (ofAscii "sid") = a.currentSid
        · simp only [hother, ne_eq, not_true_eq_false, if_false, true_and]
          constructor
          · rintro ⟨signal, hmem, -⟩
            exact ⟨hother ▸ hsid, List.ne_nil_of_mem hmem⟩
          · rintro ⟨-, hne⟩
            obtain ⟨signal, hmem⟩ := List.exists_mem_of_ne_nil _ hne
            exact ⟨signal, hmem, isCandidate_of_mem hmem⟩
        · simp only [ne_eq, hother, not_false_eq_true, if_true]
          exact iff_of_false hnone (fun h => h.2.2.1)
      | sessionInitiate =>
        refine iff_of_false ?_ (fun h => nomatch h.1)
        cases JingleAction.offered jingle with
        | none => exact hnone
        | some offer => exact hone _ rfl
      | sessionAccept =>
        refine iff_of_false ?_ (fun h => nomatch h.1)
        dsimp only
        split_ifs
        · exact hnone
        · cases JingleAction.answered jingle with
          | none => exact hnone
          | some answer => exact hone _ rfl
      | sessionTerminate => exact iff_of_false (hone _ rfl) (fun h => nomatch h.1)
      | _ => exact iff_of_false hnone (fun h => nomatch h.1)

lemma noteSender_action (stanza jingle : Element) (s : JingleService) :
    (Access.noteSender stanza jingle s).action = s.action := by
  rw [Access.noteSender]
  split_ifs <;> rfl

lemma noteSender_webrtc (stanza jingle : Element) (s : JingleService) :
    (Access.noteSender stanza jingle s).webrtc = s.webrtc := by
  rw [Access.noteSender]
  split_ifs <;> rfl

lemma access_handleIq (created : Bool) {stanza : Element} (jingle : Element)
    (h : s.webrtc ≠ none ∨ ∀ signal ∈ (s.action.parse stanza).2.1, signal.isCandidate = false) :
    Access.handleIq P created stanza jingle s = (.ok (), s.handleIq P created stanza jingle) := by
  rw [Access.handleIq, modify_bind_apply, get_bind_apply, modify_bind_apply]
  rw [← noteSender_action stanza jingle, ← noteSender_webrtc stanza jingle] at h
  exact (bind_ok (access_onJingleActions created (by exact h))).trans rfl

lemma access_handleIq_missing (created : Bool) {stanza : Element} (jingle : Element) (hw : s.webrtc = none)
    (h : ∃ signal ∈ (s.action.parse stanza).2.1, signal.isCandidate = true) :
    ∃ t, Access.handleIq P created stanza jingle s = (.error .setRemoteCandidate, t) := by
  rw [Access.handleIq, modify_bind_apply, get_bind_apply, modify_bind_apply]
  rw [← noteSender_action stanza jingle] at h
  rw [← noteSender_webrtc stanza jingle] at hw
  obtain ⟨t, ht⟩ := access_onJingleActions_missing (P := P)
    (s := { Access.noteSender stanza jingle s with
      action := ((Access.noteSender stanza jingle s).action.parse stanza).2.2 }) created hw h
  exact ⟨t, bind_error ht⟩

lemma access_acceptCall (initialized : Bool) (s : JingleService) :
    Access.acceptCall initialized s = (.ok (), s.acceptCall initialized) := by
  rw [Access.acceptCall, run_bind, JingleService.acceptCall]
  rcases s.isConnected with ⟨connected, t⟩
  cases connected with
  | false => rfl
  | true =>
    rw [Bool.not_true, if_neg Bool.false_ne_true, bind_ok (access_prepareMedia initialized t)]
    dsimp only
    rcases t.prepareMedia initialized with ⟨prepared, u⟩
    cases prepared with
    | false => rfl
    | true => rfl

lemma access_endCall (s : JingleService) : Access.endCall s = (.ok (), s.endCall) := by
  rw [Access.endCall, modify_bind_apply, get_bind_apply, JingleService.endCall]
  generalize (if s.callStarted && s.connected then s.sessionTerminate else s) = t
  cases hw : t.webrtc with
  | none =>
    have hno : t.hasPeerConnection = false := by rw [hasPeerConnection, hw, Option.bind_none, Option.isSome_none]
    rw [when_neg (by exact Bool.false_ne_true), hno]
    change (Except.ok (), { t with mediaPrepared := false, callStarted := false }) =
      (Except.ok (), { t with webrtc := none, mediaPrepared := false, callStarted := false })
    rw [← hw]
  | some w =>
    rw [when_pos (by rfl), bind_assoc, call_bind hw, bind_assoc, call_bind hw, bind_assoc, call_bind hw]
    rfl

lemma access_startCall (receiverId : QString) (video initialized : Bool) (s : JingleService) :
    Access.startCall P receiverId video initialized s = (.ok (), s.startCall P receiverId video initialized) := by
  rw [Access.startCall, get_bind_apply, JingleService.startCall]
  split_ifs with hconnected hpattern hown
  · rfl
  · rfl
  · rfl
  · rw [modify_bind_apply, bind_ok (access_prepareMedia initialized _)]
    generalize ({ s with recipientId := s.recipientOf receiverId, videoCall := video } : JingleService).emit
      (.callStateChange .calling) = t
    cases hprepared : (t.prepareMedia initialized).1 with
    | false =>
      simp only [hprepared]
      rfl
    | true =>
      obtain ⟨w, hw⟩ := isSome_prepareMedia hprepared
      rw [Bool.not_true, if_neg Bool.false_ne_true, modify_bind_apply, call_bind (by exact hw)]
      simp only [hprepared]
      rfl

lemma access_handle {e : Event} (h : ¬StrayCandidate s e) : Access.handle P e s = (.ok (), s.handle P e) := by
  cases e with
  | stanza stanza created =>
    change Access.handleStanza P created stanza s = (.ok (), s.handleStanza P created stanza)
    rw [Access.handleStanza]
    split_ifs with hmessage hiq
    · rfl
    · rw [JingleService.handleStanza, if_neg hmessage, if_pos hiq]
      cases hj : findJingleElement stanza with
      | none => rfl
      | some jingle =>
        apply access_handleIq
        by_contra hno
        rw [not_or, not_not] at hno
        refine h ⟨hno.1, hiq, by rw [hj]; rfl, exists_isCandidate_iff.mp ?_⟩
        simpa using hno.2
    · rw [JingleService.handleStanza, if_neg hmessage, if_neg hiq]
      rfl
  | discovery services created => exact access_onDiscovery services created s
  | prepare initialized => exact access_prepare initialized s
  | startCall receiverId video initialized => exact access_startCall receiverId video initialized s
  | acceptCall initialized => exact access_acceptCall initialized s
  | endCall => exact access_endCall s
  | _ => rfl

lemma access_handle_missing {e : Event} (h : StrayCandidate s e) :
    ∃ t, Access.handle P e s = (.error .setRemoteCandidate, t) := by
  cases e with
  | stanza stanza created =>
    obtain ⟨hw, hiq, hj, hcandidate⟩ := h
    obtain ⟨jingle, hj⟩ := Option.isSome_iff_exists.mp hj
    change ∃ t, Access.handleStanza P created stanza s = _
    rw [Access.handleStanza, if_neg (by rw [hiq]; decide), if_pos hiq, hj]
    exact access_handleIq_missing created jingle hw (exists_isCandidate_iff.mpr hcandidate)
  | _ => exact h.elim

lemma handleAll_iff {es : List Event} :
    (Access.handleAll P es s).1 = .ok () ↔ Each (step P) (fun s e => ¬StrayCandidate s e) s es := by
  induction es generalizing s with
  | nil => exact iff_of_true rfl trivial
  | cons e es ih =>
    rw [Access.handleAll, Access.forEach, bind_assoc, modify_bind_apply, each_cons]
    by_cases h : StrayCandidate s e
    · obtain ⟨t, ht⟩ := access_handle_missing (P := P) (s := { s with log := [] }) h
      rw [bind_error ht]
      exact iff_of_false nofun (fun hstray => hstray.1 h)
    · have ht := access_handle (P := P) (s := { s with log := [] }) h
      rw [bind_ok ht]
      exact ih.trans (and_iff_right h).symm

lemma handleAll_after {es : List Event} (h : Each (step P) (fun s e => ¬StrayCandidate s e) s es) :
    Access.handleAll P es s = (.ok (), after (step P) s es) := by
  induction es generalizing s with
  | nil => rfl
  | cons e es ih =>
    have ht := access_handle (P := P) (s := { s with log := [] }) h.1
    rw [Access.handleAll, Access.forEach, bind_assoc, modify_bind_apply, bind_ok ht]
    exact ih h.2

/-- In a run of the service no member of a missing client is called, exactly if no candidate of it is stray; it
ends where it should then. -/
theorem serve_ok_iff (domain jidBare : QString) (es : List Event) :
    ((Access.serve P es { domain := domain, jidBare := jidBare }).1 = .ok () ↔
      Each (step P) (fun s e => ¬StrayCandidate s e) (.create domain jidBare) es) ∧
    ((Access.serve P es { domain := domain, jidBare := jidBare }).1 = .ok () →
      (Access.serve P es { domain := domain, jidBare := jidBare }).2 = after (step P) (.create domain jidBare) es) := by
  rw [Access.serve, bind_ok (access_createWebrtcClient _)]
  refine ⟨handleAll_iff, fun hok => ?_⟩
  have hrun := handleAll_after (handleAll_iff.mp hok)
  exact congrArg Prod.snd hrun

end

def transportIq (sender sid : String) : Element :=
  .mk (ofAscii "iq") [] [] [(ofAscii "from", ofAscii sender), (ofAscii "type", ofAscii "set")]
    [.mk (ofAscii "jingle") (ofAscii "jingle") kJINGLE_NAME
      [(ofAscii "action", ofAscii "session-transport"), (ofAscii "sid", ofAscii sid)]
      [.mk (ofAscii "transport") (ofAscii "transport") kJINGLE_TRANSPORT []
        [.mk (ofAscii "candidate") (ofAscii "candidate") kJINGLE_TRANSPORT
          [(ofAscii "foundation", ofAscii "0"), (ofAscii "component", ofAscii "0"), (ofAscii "sdp", ofAscii "candidate:1")]
          [] []] []] []] []

def lateCandidate : List Event :=
  [.stanza (initiationIq "alice@chat/pc" "s") true, .endCall, .stanza (transportIq "alice@chat/pc" "s") true]

/-- Alice has made an offer, Bob hangs up, and a candidate of hers comes late. -/
theorem serve_late_candidate : ¬∀ (P : Platform) (domain jidBare : QString) (es : List Event),
    (Access.serve P es { domain := domain, jidBare := jidBare }).1 = .ok () := by
  intro h
  have hfail : (Access.serve samplePlatform lateCandidate
      { domain := ofAscii "chat", jidBare := ofAscii "bob@chat" }).1 = .error .setRemoteCandidate := by
    decide
  rw [h] at hfail
  cases hfail

end ChatDesktop.Voip
