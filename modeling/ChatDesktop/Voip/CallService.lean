import ChatDesktop.Voip.WebrtcClient

/-! The call service with the WebRTC client of its own thread: what it calls of the client, what it hears of it, and
the functions it gives it to call. -/

namespace ChatDesktop.Voip.Rtc

open Library Library.Text Library.Reactive Camera

inductive Completion
  | sessionInitaite (iceServers : List IceServer)
  | createAnswer
  | sessionAccept
  deriving DecidableEq

/-- The client of a service, with the functions it holds by the numbers of their requests. -/
structure OwnedClient where
  rtc : WebrtcClient := {}
  completions : List (ℕ × Completion) := []

namespace OwnedClient

def keep (completion : Completion) (request : ℕ) (held : OwnedClient) : OwnedClient :=
  if held.rtc.requests = request then held
  else { held with completions := held.completions ++ [(request, completion)] }

def find (request : ℕ) (held : OwnedClient) : Option Completion :=
  (held.completions.find? (fun c => c.1 = request)).map Prod.snd

def drop (request : ℕ) (held : OwnedClient) : OwnedClient :=
  { held with completions := held.completions.filter (fun c => c.1 ≠ request) }

end OwnedClient

/-- `signaling` is the service and its extension without the client, so the fields of the client stay empty there;
`errors` are those of the client, which the service passes on as failures. -/
structure JingleService where
  signaling : Voip.JingleService
  cameraDevice : Option QCameraDevice := none
  client : Option OwnedClient := none
  errors : List QString := []

namespace JingleService

def signal (f : Voip.JingleService → Voip.JingleService) (s : JingleService) : JingleService :=
  { s with signaling := f s.signaling }

def signalingFailed (reason : String) (s : JingleService) : JingleService :=
  s.signal (Voip.JingleService.signalingFailed reason)

def onConnectionStateChanged (state : ConnectionState) (s : Voip.JingleService) : Voip.JingleService :=
  let s := match state with
    | .connected => s.emit (.callStateChange .connected)
    | .disconnect => s.emit (.callStateChange .reconnect)
    | _ => s
  s.emit (.connectionStateChange state)

/-- The signals of the client that the service is connected to, beside the frames and candidates it passes on. -/
def hear (s : JingleService) : Happening → JingleService
  | .errorOccurred message => { s with errors := s.errors ++ [message] }
  | .connectionStateChanged state => s.signal (onConnectionStateChanged state)
  | _ => s

def calling (f : WebrtcClient → Bool × WebrtcClient) (s : JingleService) : Bool × JingleService :=
  match s.client with
  | none => (false, s)
  | some held =>
    let (result, rtc) := f held.rtc
    (result, (rtc.history.drop held.rtc.history.length).foldl hear { s with client := some { held with rtc := rtc } })

def call (f : WebrtcClient → WebrtcClient) (s : JingleService) : JingleService :=
  (s.calling (fun rtc => (true, f rtc))).2

def requesting (completion : Completion) (f : WebrtcClient → Bool × WebrtcClient) (s : JingleService) :
    Bool × JingleService :=
  let (result, s') := s.calling f
  (result, { s' with
    client := s'.client.map (OwnedClient.keep completion ((s.client.map (fun held => held.rtc.requests)).getD 0)) })

def reset (s : JingleService) : JingleService := { s with client := none }

/-! ### Media -/

def createWebrtcClient (s : JingleService) : JingleService :=
  { s with
    signaling := { s.signaling with mediaPrepared := false }
    client := some { rtc := ({} : WebrtcClient).setCameraDevice s.cameraDevice } }

def prepareMedia (answers : Initialization) (video : Bool) (s : JingleService) : Bool × JingleService :=
  let s := if s.client.isNone then s.createWebrtcClient else s
  let s := s.call (WebrtcClient.setCameraEnabled video)
  if s.signaling.mediaPrepared then (true, s)
  else
    let (initialized, s) := s.calling (WebrtcClient.initializeClient answers)
    if !initialized then
      (false, (s.call (WebrtcClient.setCameraEnabled false)).reset.signalingFailed
        "Cannot initialize WebRTC for the call")
    else (true, s.signal (fun t => { t with mediaPrepared := true }))

def prepare (answers : Initialization) (s : JingleService) : JingleService :=
  if s.signaling.callStarted then s
  else
    let s := if s.client.isNone then s.createWebrtcClient else s
    ((s.call WebrtcClient.prepare).prepareMedia answers false).2

def setCameraDevice (device : Option QCameraDevice) (s : JingleService) : JingleService :=
  { s with cameraDevice := device }.call (WebrtcClient.setCameraDevice device)

/-! ### Calls of the user -/

def acceptCall (answers : Initialization) (s : JingleService) : JingleService :=
  let (connected, signaling) := s.signaling.isConnected
  let s := { s with signaling := signaling }
  if !connected then s
  else
    let (prepared, s) := s.prepareMedia answers s.signaling.videoCall
    if !prepared then s else s.signal (fun t => { t with callStarted := true }.sendAccept)

def endCall (s : JingleService) : JingleService :=
  let s := if s.signaling.callStarted && s.signaling.connected then s.signal Voip.JingleService.sessionTerminate else s
  let s := ((s.call (WebrtcClient.setCameraEnabled false)).call WebrtcClient.closeConnection).reset
  s.signal (fun t => { t with mediaPrepared := false, callStarted := false })

def rejectCall (s : JingleService) : JingleService :=
  let (connected, signaling) := s.signaling.isConnected
  let s := { s with signaling := signaling }
  if !connected then s
  else (s.signal Voip.JingleService.reject).reset.signal (fun t => { t with mediaPrepared := false, callStarted := false })

variable (P : Platform)

def startCall (receiverId : QString) (video : Bool) (answers : Initialization) (track : TrackAnswers)
    (s : JingleService) : JingleService :=
  let recipient := s.signaling.recipientOf receiverId
  if !s.signaling.connected then s.signalingFailed "Cannot start call: XMPP is not connected"
  else if !Voip.JingleService.jidPattern recipient then s.signalingFailed "Cannot start call: invalid recipient"
  else if recipient = s.signaling.jidBare then s.signalingFailed "Cannot call your own account"
  else
    let s := s.signal (fun t => { t with recipientId := recipient, videoCall := video }.emit (.callStateChange .calling))
    let (prepared, s) := s.prepareMedia answers video
    if !prepared then s
    else
      let s := s.signal (fun t => { t with callStarted := true })
      (s.call (WebrtcClient.createLocalCameraTrack track)).signal
        (Voip.JingleService.propose P recipient video)

/-! ### Signals of the extension and answers of the network -/

def isDigit (u : UInt16) : Bool := 0x30 ≤ u && u ≤ 0x39

def videoMedia (offer : QString) : Bool :=
  (0x0A :: offer).tails.any (fun rest =>
    let port := rest.drop 9
    (ofAscii "\nm=video ").isPrefixOf rest && port.head?.any (fun u => isDigit u && u != 0x30) &&
      (port.dropWhile isDigit).head? == some 0x20)

def onRemoteSdpOfferReceived (created : Bool) (offer : QString) (iceServers : List IceServer) (sid : QString)
    (s : JingleService) : JingleService :=
  let s := s.signal (fun t => { t with jingle := { t.jingle with currentSid := sid } })
  if s.client.isNone then s.signalingFailed "Cannot answer: WebRTC is not initialized"
  else
    let s := s.call (WebrtcClient.setCameraEnabled (s.signaling.videoCall && videoMedia offer))
    let (made, s) := s.calling (WebrtcClient.createPeerConnection created iceServers)
    if !made then s.signalingFailed "Cannot create the peer connection for the remote offer"
    else
      let (applied, s) := s.requesting .createAnswer
        (WebrtcClient.setRemoteSdp true (P.parsesSdp (ofAscii "offer") offer) (ofAscii "offer") offer true)
      if applied then s else s.signalingFailed "Cannot apply the remote SDP offer"

def onJingleAction (created : Bool) (s : JingleService) : ActionSignal → JingleService
  | .remoteSdpOfferReceived offer iceServers sid => s.onRemoteSdpOfferReceived P created offer iceServers sid
  | .exchangeIceCandidateReceived sdp sdpMid sdpMLineIndex =>
    if s.client.isNone then s.signal (Voip.JingleService.emit .missingWebrtc)
    else
      (s.calling (WebrtcClient.setRemoteCandidate (P.parsesCandidate sdp sdpMid sdpMLineIndex) sdp sdpMid
        sdpMLineIndex)).2
  | .remoteSdpAnswerReceived answer _ =>
    let (applied, s) := s.calling
      (WebrtcClient.setRemoteSdp true (P.parsesSdp (ofAscii "answer") answer) (ofAscii "answer") answer false)
    if applied then s else s.signalingFailed "Cannot apply the remote SDP answer"
  | .sessionTerminateReceived => s.signal (Voip.JingleService.emit .sessionTerminate)

def handleIq (created : Bool) (stanza jingle : Element) (s : JingleService) : JingleService :=
  let from_ := stanza.attributeOf (ofAscii "from")
  let s := if jingle.attributeOf (ofAscii "action") = ofAscii "session-initiate" ∧
      stanza.attributeOf (ofAscii "type") = ofAscii "set" then
    s.signal (fun t => { t with jingle := { t.jingle with sessionSender := from_ } }) else s
  let (handled, signals, action) := s.signaling.action.parse stanza
  let s := signals.foldl (onJingleAction P created) (s.signal (fun t => { t with action := action }))
  if handled then s.signal (Voip.JingleService.emit (.sendReply from_ (stanza.attributeOf (ofAscii "id")))) else s

def handleStanza (created : Bool) (stanza : Element) (s : JingleService) : JingleService :=
  if stanza.tagName = ofAscii "message" then
    match Voip.JingleService.findJingleElement stanza with
    | none => s
    | some _ =>
      match JingleMessage.parse stanza with
      | none => s
      | some m => s.signal (Voip.JingleService.onJingleMessage m)
  else if stanza.tagName = ofAscii "iq" then
    match Voip.JingleService.findJingleElement stanza with
    | none => s
    | some jingle => s.handleIq P created stanza jingle
  else s

def onExternalServiceReceived (services : List Voip.JingleService.ExternalService) (created : Bool)
    (track : TrackAnswers) (s : JingleService) : JingleService :=
  if s.client.isNone then s
  else
    let iceServers := services.filterMap Voip.JingleService.ExternalService.ice
    let (made, s) := s.calling (WebrtcClient.createPeerConnection created iceServers)
    if !made then s.signalingFailed "Cannot create the peer connection for the local offer"
    else (s.requesting (.sessionInitaite iceServers) (fun rtc => (true, rtc.createOffer track true))).2

def onDiscovery (services : Option (List Voip.JingleService.ExternalService)) (created : Bool) (track : TrackAnswers)
    (s : JingleService) : JingleService :=
  if s.signaling.discoveries = 0 then s
  else
    let s := s.signal (fun t => { t with discoveries := t.discoveries - 1 })
    match services with
    | none => s
    | some services => s.onExternalServiceReceived services created track

/-! ### The client's own events -/

def complete (track : TrackAnswers) (request : ℕ) (sdp : QString) (s : JingleService) : JingleService :=
  match s.client.bind (OwnedClient.find request) with
  | none => s
  | some completion =>
    let s := { s with client := s.client.map (OwnedClient.drop request) }
    match completion with
    | .sessionInitaite iceServers =>
      s.signal (fun t => t.sessionInitaite P t.recipientId sdp iceServers)
    | .createAnswer => (s.requesting .sessionAccept (fun rtc => (true, rtc.createAnswer track true))).2
    | .sessionAccept => s.signal (Voip.JingleService.sessionAccept sdp)

def receive (track : TrackAnswers) (s : JingleService) : Happening → JingleService
  | .onSdp request _ sdp => s.complete P track request sdp
  | .onRemoteSdp request _ => s.complete P track request []
  | h => s.hear h

/-- The service has no receiver for `localSdpCreated`, so nothing is called before the function. -/
def runPosted (track : TrackAnswers) (s : JingleService) : JingleService :=
  match s.client with
  | none => s
  | some held =>
    let rtc := held.rtc.runPosted []
    (rtc.history.drop held.rtc.history.length).foldl (receive P track)
      { s with client := some { held with rtc := rtc } }

/-- What the timer, the camera's thread and the library do to the client; of a connection that was never created the
library says nothing. -/
def happens (rtc : WebrtcClient) : ClientEvent → Bool
  | .call _ => false
  | .runPosted _ => false
  | .destroy _ => false
  | .onConnectionChange _ => rtc.peerConnection.isSome
  | _ => true

def clientEvent (e : ClientEvent) (s : JingleService) : JingleService :=
  s.call (fun rtc => if happens rtc e then clientStep rtc e else rtc)

end JingleService

inductive ServiceEvent
  | stanza (stanza : Element) (created : Bool)
  | discovery (services : Option (List Voip.JingleService.ExternalService)) (created : Bool) (track : TrackAnswers)
  | connectivity (connected : Bool)
  | prepare (answers : Initialization)
  | startCall (receiverId : QString) (video : Bool) (answers : Initialization) (track : TrackAnswers)
  | acceptCall (answers : Initialization)
  | rejectCall
  | endCall
  | setCameraDevice (device : Option QCameraDevice)
  | runPosted (track : TrackAnswers)
  | client (e : ClientEvent)

variable (P : Platform)

def JingleService.handle (s : JingleService) : ServiceEvent → JingleService
  | .stanza stanza created => s.handleStanza P created stanza
  | .discovery services created track => s.onDiscovery services created track
  | .connectivity connected => s.signal (fun t => { t with connected := connected })
  | .prepare answers => s.prepare answers
  | .startCall receiverId video answers track => s.startCall P receiverId video answers track
  | .acceptCall answers => s.acceptCall answers
  | .rejectCall => s.rejectCall
  | .endCall => s.endCall
  | .setCameraDevice device => s.setCameraDevice device
  | .runPosted track => s.runPosted P track
  | .client e => s.clientEvent e

/-- One event, with the effects it has in the service's `log`. -/
def serviceStep (s : JingleService) (e : ServiceEvent) : JingleService :=
  (s.signal (fun t => { t with log := [] })).handle P e

def JingleService.create (domain jidBare : QString) : JingleService :=
  JingleService.createWebrtcClient { signaling := { domain := domain, jidBare := jidBare } }

end ChatDesktop.Voip.Rtc
