import ChatDesktop.Library.Reactive
import ChatDesktop.Voip.JingleAction

/-! The signalling of a call: the protocol extension, the service behind it and its WebRTC client.
Video frames, devices and the local candidates do not touch this state and are left out. -/

namespace ChatDesktop.Voip

open Library Library.Text

/-- What the WebRTC library answers: new UUIDs, and which descriptions and candidates it can parse. -/
structure Platform where
  uuid : ℕ → QString
  parsesSdp : QString → QString → Bool
  parsesCandidate : QString → QString → Int → Bool

inductive CallState
  | calling
  | ringing
  | connected
  | reconnect
  | reject
  | handUp
  | exchange
  deriving DecidableEq, Repr

inductive ConnectionState
  | checking
  | connecting
  | connected
  | disconnect
  deriving DecidableEq, Repr

inductive Applied
  | remoteSdp (type sdp : QString)
  | remoteCandidate (sdp sdpMid : QString) (sdpMLineIndex : Int)
  deriving DecidableEq, Repr

structure PeerConnection where
  number : ℕ
  servers : List IceServer
  applied : List Applied
  deriving DecidableEq, Repr

structure WebrtcClient where
  number : ℕ
  initialized : Bool
  peerConnection : Option PeerConnection
  deriving DecidableEq, Repr

structure Callback where
  client : ℕ
  peer : ℕ
  iceServers : List IceServer
  deriving DecidableEq, Repr

inductive Effect
  | sendMessage (type : JingleMessageType) (recipient mid : QString) (streams : List StreamType)
  | sendSessionInitiate (recipient sid sdp : QString) (iceServers : List IceServer)
  | sendSessionAccept (recipient sid sdp : QString)
  | sendSessionTerminate (recipient sid : QString)
  | sendReply (recipient id : QString)
  | requestExtDiscoQuery
  | callStateChange (state : CallState)
  | connectionStateChange (state : ConnectionState)
  | proposeReceived (sender : QString) (streams : List StreamType)
  | acceptReceived (accept mid : QString)
  | retractReceived (retract mid : QString)
  | proceedReceived (proceed mid : QString)
  | rejectReceived (reject mid : QString)
  | finishReceived (finish mid : QString)
  | sessionTerminate
  | signalingFailed (reason : QString)
  /-- A member of a missing WebRTC client is called. -/
  | missingWebrtc
  deriving DecidableEq, Repr

structure JingleExtension where
  currentSid : QString := []
  sessionSender : QString := []
  proposeFrom : QString := []
  mid : QString := []
  deriving DecidableEq, Repr

/-- `connected`, `domain` and `jidBare` are the client's, `log` the effects of the running event. -/
structure JingleService where
  domain : QString
  jidBare : QString
  connected : Bool := false
  action : JingleAction := {}
  jingle : JingleExtension := {}
  webrtc : Option WebrtcClient := none
  mediaPrepared : Bool := false
  callStarted : Bool := false
  videoCall : Bool := false
  recipientId : QString := []
  clients : ℕ := 0
  peers : ℕ := 0
  uuids : ℕ := 0
  discoveries : ℕ := 0
  offers : List Callback := []
  remotes : List Callback := []
  answers : List Callback := []
  log : List Effect := []
  deriving DecidableEq, Repr

namespace JingleService

def emit (e : Effect) (s : JingleService) : JingleService := { s with log := s.log ++ [e] }

def signalingFailed (reason : String) (s : JingleService) : JingleService :=
  s.emit (.signalingFailed (ofAscii reason))

def jidToBareJid (jid : QString) : QString := firstSection jid 0x2F

def jidToResource (jid : QString) : QString := (jid.dropWhile (fun u => !decide (u = 0x2F))).drop 1

/-! ### The WebRTC client -/

def createWebrtcClient (s : JingleService) : JingleService :=
  { s with mediaPrepared := false, webrtc := some ⟨s.clients, false, none⟩, clients := s.clients + 1 }

/-- `initialized` says whether the WebRTC client can be initialised. -/
def prepareMedia (initialized : Bool) (s : JingleService) : Bool × JingleService :=
  let s := if s.webrtc.isNone then s.createWebrtcClient else s
  if s.mediaPrepared then (true, s)
  else if !initialized then
    (false, { s with webrtc := none }.signalingFailed "Cannot initialize WebRTC for the call")
  else
    (true, { s with
      mediaPrepared := true
      webrtc := s.webrtc.map (fun w => { w with initialized := true }) })

/-- `created` says whether the library creates the connection. -/
def createPeerConnection (created : Bool) (iceServers : List IceServer) (w : WebrtcClient) (s : JingleService) :
    Bool × JingleService :=
  if !w.initialized || w.peerConnection.isSome || iceServers.any (fun ice => (trimmed ice.host).isEmpty) ||
      !created then (false, s)
  else
    (true, { s with webrtc := some { w with peerConnection := some ⟨s.peers, iceServers, []⟩ }, peers := s.peers + 1 })

def callback (iceServers : List IceServer) (s : JingleService) : List Callback :=
  match s.webrtc with
  | some ⟨client, _, some peer⟩ => [⟨client, peer.number, iceServers⟩]
  | _ => []

def alive (c : Callback) (s : JingleService) : Bool :=
  match s.webrtc with
  | some ⟨client, _, some peer⟩ => decide (client = c.client ∧ peer.number = c.peer)
  | _ => false

def createOffer (iceServers : List IceServer) (s : JingleService) : JingleService :=
  { s with offers := s.offers ++ s.callback iceServers }

def createAnswer (s : JingleService) : JingleService := { s with answers := s.answers ++ s.callback [] }

def apply (a : Applied) (s : JingleService) : JingleService :=
  { s with webrtc := s.webrtc.map (fun w =>
      { w with peerConnection := w.peerConnection.map (fun p => { p with applied := p.applied ++ [a] }) }) }

def hasPeerConnection (s : JingleService) : Bool := (s.webrtc.bind WebrtcClient.peerConnection).isSome

variable (P : Platform)

def setRemoteSdp (type sdp : QString) (s : JingleService) : Bool × JingleService :=
  if s.hasPeerConnection && P.parsesSdp type sdp then (true, s.apply (.remoteSdp type sdp)) else (false, s)

def setRemoteCandidate (sdp sdpMid : QString) (sdpMLineIndex : Int) (s : JingleService) : JingleService :=
  if s.hasPeerConnection && P.parsesCandidate sdp sdpMid sdpMLineIndex then
    s.apply (.remoteCandidate sdp sdpMid sdpMLineIndex)
  else s

/-! ### The extension -/

def sessionInitaite (recipient sdp_offer : QString) (ice_servers : List IceServer) (s : JingleService) :
    JingleService :=
  if !s.connected || sdp_offer.isEmpty || recipient.isEmpty then s
  else
    { s with
      jingle := { s.jingle with sessionSender := recipient }
      action := { s.action with currentSid := P.uuid s.uuids }
      uuids := s.uuids + 1 }.emit (.sendSessionInitiate recipient (P.uuid s.uuids) sdp_offer ice_servers)

def sessionAccept (sdp_answer : QString) (s : JingleService) : JingleService :=
  if !s.connected || s.jingle.sessionSender.isEmpty || s.jingle.currentSid.isEmpty ||
      (trimmed sdp_answer).isEmpty then s
  else s.emit (.sendSessionAccept s.jingle.sessionSender s.action.currentSid sdp_answer)

def sessionTerminate (s : JingleService) : JingleService :=
  if !s.connected || s.jingle.sessionSender.isEmpty then s
  else s.emit (.sendSessionTerminate s.jingle.sessionSender s.action.currentSid)

def propose (recipient : QString) (video : Bool) (s : JingleService) : JingleService :=
  let streams := if video then [StreamType.audio, .video] else [.audio]
  { s with
    jingle := { s.jingle with mid := P.uuid s.uuids, sessionSender := recipient }
    uuids := s.uuids + 1 }.emit (.sendMessage .propose recipient (P.uuid s.uuids) streams)

def ringing (s : JingleService) : JingleService :=
  s.emit (.sendMessage .ringing s.jingle.proposeFrom s.jingle.mid [])

def reject (s : JingleService) : JingleService :=
  s.emit (.sendMessage .reject s.jingle.proposeFrom s.jingle.mid [])

def sendAccept (s : JingleService) : JingleService :=
  if s.jingle.proposeFrom.isEmpty || s.jingle.mid.isEmpty then s
  else (s.emit (.sendMessage .accept s.jingle.proposeFrom s.jingle.mid [])).emit (.callStateChange .exchange)

/-! ### What the service does on the signals of the extension -/

def onAcceptReceived (accept mid : QString) (s : JingleService) : JingleService :=
  if jidToBareJid accept ≠ jidToBareJid s.recipientId then s
  else if (jidToResource accept).isEmpty then
    s.signalingFailed "Cannot start session: acceptance is missing the peer resource"
  else
    ({ s with recipientId := accept, discoveries := s.discoveries + 1 }.emit .requestExtDiscoQuery).emit
      (.acceptReceived accept mid)

def onJingleMessage (m : JingleMessage) (s : JingleService) : JingleService :=
  match m.type with
  | .propose =>
    let s := { s with jingle := { s.jingle with proposeFrom := m.sender, mid := m.sessionId } }.ringing
    { s with videoCall := decide (StreamType.video ∈ m.streams) }.emit (.proposeReceived m.sender m.streams)
  | .retract => (s.emit (.callStateChange .handUp)).emit (.retractReceived m.reason m.sessionId)
  | .ringing => s.emit (.callStateChange .ringing)
  | .accept => (s.emit (.callStateChange .exchange)).onAcceptReceived m.sender m.sessionId
  | .proceed => s.emit (.proceedReceived m.sender m.sessionId)
  | .reject => (s.emit (.callStateChange .reject)).emit (.rejectReceived m.reason m.sessionId)
  | .finish => s.emit (.finishReceived m.reason m.sessionId)

def onRemoteSdpOfferReceived (created : Bool) (offer : QString) (iceServers : List IceServer) (sid : QString)
    (s : JingleService) : JingleService :=
  let s := { s with jingle := { s.jingle with currentSid := sid } }
  match s.webrtc with
  | none => s.signalingFailed "Cannot answer: WebRTC is not initialized"
  | some w =>
    let (made, s) := s.createPeerConnection created iceServers w
    if !made then s.signalingFailed "Cannot create the peer connection for the remote offer"
    else
      let (applied, s) := s.setRemoteSdp P (ofAscii "offer") offer
      if applied then { s with remotes := s.remotes ++ s.callback [] }
      else s.signalingFailed "Cannot apply the remote SDP offer"

def onJingleAction (created : Bool) (s : JingleService) : ActionSignal → JingleService
  | .remoteSdpOfferReceived offer iceServers sid => s.onRemoteSdpOfferReceived P created offer iceServers sid
  | .exchangeIceCandidateReceived sdp sdpMid sdpMLineIndex =>
    if s.webrtc.isNone then s.emit .missingWebrtc else s.setRemoteCandidate P sdp sdpMid sdpMLineIndex
  | .remoteSdpAnswerReceived answer _ =>
    let (applied, s) := s.setRemoteSdp P (ofAscii "answer") answer
    if applied then s else s.signalingFailed "Cannot apply the remote SDP answer"
  | .sessionTerminateReceived => s.emit .sessionTerminate

/-! ### Stanzas -/

def findJingleElement (stanza : Element) : Option Element :=
  stanza.children.find? (fun child => child.namespaceURI = kJINGLE_MESSAGE ∨ child.namespaceURI = kJINGLE_NAME)

def handleIq (created : Bool) (stanza jingle : Element) (s : JingleService) : JingleService :=
  let from_ := stanza.attributeOf (ofAscii "from")
  let s := if jingle.attributeOf (ofAscii "action") = ofAscii "session-initiate" ∧
      stanza.attributeOf (ofAscii "type") = ofAscii "set" then
    { s with jingle := { s.jingle with sessionSender := from_ } } else s
  let (handled, signals, action) := s.action.parse stanza
  let s := signals.foldl (onJingleAction P created) { s with action := action }
  if handled then s.emit (.sendReply from_ (stanza.attributeOf (ofAscii "id"))) else s

def handleStanza (created : Bool) (stanza : Element) (s : JingleService) : JingleService :=
  if stanza.tagName = ofAscii "message" then
    match findJingleElement stanza with
    | none => s
    | some _ =>
      match JingleMessage.parse stanza with
      | none => s
      | some m => s.onJingleMessage m
  else if stanza.tagName = ofAscii "iq" then
    match findJingleElement stanza with
    | none => s
    | some jingle => s.handleIq P created stanza jingle
  else s

/-! ### The user's calls -/

def isConnected (s : JingleService) : Bool × JingleService :=
  if s.connected then (true, s) else (false, s.signalingFailed "Cannot accept call: XMPP is not connected")

def prepare (initialized : Bool) (s : JingleService) : JingleService :=
  if s.callStarted then s else (s.prepareMedia initialized).2

def acceptCall (initialized : Bool) (s : JingleService) : JingleService :=
  let (connected, s) := s.isConnected
  if !connected then s
  else
    let (prepared, s) := s.prepareMedia initialized
    if !prepared then s else { s with callStarted := true }.sendAccept

def endCall (s : JingleService) : JingleService :=
  let s := if s.callStarted && s.connected then s.sessionTerminate else s
  let s := if s.hasPeerConnection then
    (s.emit (.callStateChange .reconnect)).emit (.connectionStateChange .disconnect) else s
  { s with webrtc := none, mediaPrepared := false, callStarted := false }

def rejectCall (s : JingleService) : JingleService :=
  let (connected, s) := s.isConnected
  if !connected then s else { s.reject with webrtc := none, mediaPrepared := false, callStarted := false }

def isAsciiSpace (u : UInt16) : Bool := (9 ≤ u && u ≤ 13) || u == 0x20

def jidPattern (jid : QString) : Bool :=
  let user := firstSection jid 0x40
  let domain := (jid.dropWhile (fun u => !decide (u = 0x40))).drop 1
  let plain (part : QString) : Bool := !part.isEmpty && part.all (fun u => u != 0x40 && u != 0x2F && !isAsciiSpace u)
  plain user && plain domain

def recipientOf (receiverId : QString) (s : JingleService) : QString :=
  let recipient := jidToBareJid (trimmed receiverId)
  if recipient ≠ [] ∧ 0x40 ∉ recipient then recipient ++ 0x40 :: s.domain else recipient

def startCall (receiverId : QString) (video initialized : Bool) (s : JingleService) : JingleService :=
  let recipient := s.recipientOf receiverId
  if !s.connected then s.signalingFailed "Cannot start call: XMPP is not connected"
  else if !jidPattern recipient then s.signalingFailed "Cannot start call: invalid recipient"
  else if recipient = s.jidBare then s.signalingFailed "Cannot call your own account"
  else
    let (prepared, s) :=
      ({ s with recipientId := recipient, videoCall := video }.emit (.callStateChange .calling)).prepareMedia initialized
    if !prepared then s else { s with callStarted := true }.propose P recipient video

/-! ### Answers of the network and of the WebRTC library -/

structure ExternalService where
  type : QString
  host : QString
  port : Option QString
  username : Option QString
  password : Option QString

def IceType.toType (str : QString) : Option IceType :=
  if str = ofAscii "turn" then some .turn
  else if str = ofAscii "turns" then some .turns
  else if str = ofAscii "stun" then some .stun
  else none

def ExternalService.ice (service : ExternalService) : Option IceServer :=
  (IceType.toType service.type).map (fun type =>
    ⟨type, service.host, service.port.getD [], service.username.getD [], service.password.getD []⟩)

def onExternalServiceReceived (services : List ExternalService) (created : Bool) (s : JingleService) :
    JingleService :=
  match s.webrtc with
  | none => s
  | some w =>
    let iceServers := services.filterMap ExternalService.ice
    let (made, s) := s.createPeerConnection created iceServers w
    if !made then s.signalingFailed "Cannot create the peer connection for the local offer"
    else s.createOffer iceServers

/-- An answer to a discovery request; `services` is `none` for an error. -/
def onDiscovery (services : Option (List ExternalService)) (created : Bool) (s : JingleService) : JingleService :=
  if s.discoveries = 0 then s
  else
    let s := { s with discoveries := s.discoveries - 1 }
    match services with
    | none => s
    | some services => s.onExternalServiceReceived services created

def onOfferCreated (i : ℕ) (sdp_offer : QString) (s : JingleService) : JingleService :=
  match s.offers[i]? with
  | none => s
  | some c =>
    let s := { s with offers := s.offers.eraseIdx i }
    if s.alive c then s.sessionInitaite P s.recipientId sdp_offer c.iceServers else s

def onRemoteApplied (i : ℕ) (s : JingleService) : JingleService :=
  match s.remotes[i]? with
  | none => s
  | some c =>
    let s := { s with remotes := s.remotes.eraseIdx i }
    if s.alive c then s.createAnswer else s

def onAnswerCreated (i : ℕ) (sdp_answer : QString) (s : JingleService) : JingleService :=
  match s.answers[i]? with
  | none => s
  | some c =>
    let s := { s with answers := s.answers.eraseIdx i }
    if s.alive c then s.sessionAccept sdp_answer else s

def onPeerState (state : ConnectionState) (s : JingleService) : JingleService :=
  if !s.hasPeerConnection then s
  else
    let s := match state with
      | .connected => s.emit (.callStateChange .connected)
      | .disconnect => s.emit (.callStateChange .reconnect)
      | _ => s
    s.emit (.connectionStateChange state)

end JingleService

open JingleService

inductive Event
  | stanza (stanza : Element) (created : Bool)
  | discovery (services : Option (List ExternalService)) (created : Bool)
  | offerCreated (i : ℕ) (sdp_offer : QString)
  | remoteApplied (i : ℕ)
  | answerCreated (i : ℕ) (sdp_answer : QString)
  | peerState (state : ConnectionState)
  | connectivity (connected : Bool)
  | prepare (initialized : Bool)
  | startCall (receiverId : QString) (video initialized : Bool)
  | acceptCall (initialized : Bool)
  | rejectCall
  | endCall

variable (P : Platform)

def JingleService.handle (s : JingleService) : Event → JingleService
  | .stanza stanza created => s.handleStanza P created stanza
  | .discovery services created => s.onDiscovery services created
  | .offerCreated i sdp_offer => s.onOfferCreated P i sdp_offer
  | .remoteApplied i => s.onRemoteApplied i
  | .answerCreated i sdp_answer => s.onAnswerCreated i sdp_answer
  | .peerState state => s.onPeerState state
  | .connectivity connected => { s with connected := connected }
  | .prepare initialized => s.prepare initialized
  | .startCall receiverId video initialized => s.startCall P receiverId video initialized
  | .acceptCall initialized => s.acceptCall initialized
  | .rejectCall => s.rejectCall
  | .endCall => s.endCall

def step (s : JingleService) (e : Event) : JingleService := { s with log := [] }.handle P e

def JingleService.create (domain jidBare : QString) : JingleService :=
  JingleService.createWebrtcClient { domain := domain, jidBare := jidBare }

end ChatDesktop.Voip
