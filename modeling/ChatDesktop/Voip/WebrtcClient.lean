import ChatDesktop.Voip.CameraCapture
import ChatDesktop.Voip.JingleService

/-! The WebRTC client on its thread, the camera's capture on a thread of its own, and the callbacks of the library
from its threads. What crosses threads waits in the queue of the thread that runs it. What the client does and what
the library tells it stand in one history, in their order. -/

namespace ChatDesktop.Voip.Rtc

open Library Library.Text Library.Reactive Camera

inductive PeerConnectionState
  | new
  | connecting
  | connected
  | disconnected
  | failed
  | closed
  deriving DecidableEq

/-- What waits in the queue of the capture's thread; to prepare it is to set the device first. -/
inductive CaptureCall
  | prepare (device : Option QCameraDevice)
  | setDevice (device : Option QCameraDevice)
  | start
  | stop
  deriving DecidableEq

inductive Posted
  | sdpCreated (request : ℕ) (connection : Option ℕ) (onSuccess : Bool) (type sdp : QString)
  | remoteSdpSet (request : ℕ) (connection : Option ℕ) (onSuccess : Bool)
  | connectionStateChanged (observer : ℕ) (state : PeerConnectionState)
  | iceCandidateChanged (observer : ℕ) (candidate sdpMid : QString) (sdpMLineIndex : ℤ)
  | peerErrorOccurred (observer : ℕ) (message : QString)
  | captureErrorOccurred (message : Text)
  deriving DecidableEq

def Posted.observer : Posted → Option ℕ
  | .connectionStateChanged observer _ => some observer
  | .iceCandidateChanged observer _ _ _ => some observer
  | .peerErrorOccurred observer _ => some observer
  | _ => none

/-- The first group are signals, the second the caller's functions, with the connection there is when they are
called, the third calls of the library, and the last what comes from other threads. -/
inductive Happening
  | errorOccurred (message : QString)
  | localSdpCreated (type sdp : QString)
  | localIceCandidateGenerated (candidate sdpMid : QString) (sdpMLineIndex : ℤ)
  | connectionStateChanged (state : ConnectionState)
  | connected
  | disconnected
  | localVideoFrameReady (frame : QVideoFrame)
  | remoteVideoFrameReady (frame : QVideoFrame)
  | onSdp (request : ℕ) (current : Option ℕ) (sdp : QString)
  | onRemoteSdp (request : ℕ) (current : Option ℕ)
  | createOffer (request connection : ℕ)
  | createAnswer (request connection : ℕ)
  | setLocalDescription (request connection : ℕ) (type sdp : QString)
  | setRemoteDescription (request connection : ℕ) (type sdp : QString)
  | addIceCandidate (connection : ℕ) (candidate : Option (QString × QString × ℤ))
  | close (connection : ℕ)
  | pushFrame (frame : QVideoFrame)
  | posted (event : Posted)
  | ran (event : Posted)
  | ranCapture (call : CaptureCall)
  | onFrame (image : QVideoFrame)

/-- What the library does next for a request, from the answer to `CreateOffer` or `CreateAnswer` on. -/
inductive Stage
  | creating
  | setting (type sdp : QString)
  | applying
  deriving DecidableEq

structure SdpObserver where
  connection : Option ℕ
  onSuccess : Bool
  stage : Stage
  deriving DecidableEq

structure PeerConnectionObserver where
  number : ℕ
  remoteVideoTrack : Option ℕ := none
  latestFrame : QVideoFrame := noFrame
  framePending : Bool := false

inductive Track
  | audio
  | video (number : ℕ)
  deriving DecidableEq

structure RtcServer where
  url : QString
  username : QString
  password : QString
  deriving DecidableEq

structure PeerConnection where
  number : ℕ
  servers : List RtcServer
  senders : List Track := []
  deriving DecidableEq

def PeerConnection.addTrack (track : Track) (connection : PeerConnection) : PeerConnection :=
  { connection with senders := connection.senders ++ [track] }

structure VideoTrack where
  number : ℕ
  enabled : Bool := true
  deriving DecidableEq

def VideoTrack.setEnabled (enable : Bool) (track : VideoTrack) : VideoTrack := { track with enabled := enable }

structure CaptureThread where
  capture : QtCameraCapture := {}
  calls : List CaptureCall := []

structure WebrtcClient where
  alive : Bool := true
  factory : Bool := false
  localAudioTrack : Option Bool := none
  cameraDevice : Option QCameraDevice := none
  cameraRequested : Bool := false
  peerConnected : Bool := false
  peerObserver : Option PeerConnectionObserver := none
  peerConnection : Option PeerConnection := none
  localVideoTrack : Option VideoTrack := none
  capture : Option CaptureThread := none
  sdpObservers : ℕ → Option SdpObserver := fun _ => none
  posted : List Posted := []
  observers : ℕ := 0
  tracks : ℕ := 0
  requests : ℕ := 0
  history : List Happening := []

structure Initialization where
  networkThread : Bool := true
  workerThread : Bool := true
  signalingThread : Bool := true
  audioDevice : Bool := true
  factory : Bool := true
  audioSource : Bool := true
  audioTrack : Bool := true
  deriving DecidableEq

structure TrackAnswers where
  audioAdded : Bool := true
  videoCreated : Bool := true
  videoAdded : Bool := true
  deriving DecidableEq

def iceTypeName : IceType → QString
  | .turn => ofAscii "turn"
  | .turns => ofAscii "turns"
  | .stun => ofAscii "stun"

def url (ice : IceServer) : QString :=
  let address := trimmed ice.host
  let address := if address.contains 0x3A && address.head? ≠ some 0x5B then 0x5B :: address ++ [0x5D] else address
  let result := iceTypeName ice.type ++ 0x3A :: address
  if ice.port.isEmpty then result else result ++ 0x3A :: ice.port

/-! ### The capture's thread -/

namespace CaptureThread

def post (call : CaptureCall) (t : CaptureThread) : CaptureThread := { t with calls := t.calls ++ [call] }

end CaptureThread

def CaptureCall.run (defaultVideoInput : Option QCameraDevice) (call : CaptureCall) (c : QtCameraCapture) :
    QtCameraCapture :=
  match call with
  | .prepare device => (c.setDevice device).prepare defaultVideoInput
  | .setDevice device => c.setDevice device
  | .start => c.start defaultVideoInput
  | .stop => c.stop

def CaptureThread.quit (defaultVideoInput : Option QCameraDevice) (t : CaptureThread) : CaptureThread where
  capture := (t.calls.foldl (fun c call => call.run defaultVideoInput c) t.capture).stop

/-! ### The peer observer -/

namespace PeerConnectionObserver

def detachRemoteVideo (o : PeerConnectionObserver) : PeerConnectionObserver :=
  { o with remoteVideoTrack := none, latestFrame := noFrame, framePending := true }

/-- `track` is that of the transceiver's receiver, if it is one for video. -/
def onTrack (track : Option ℕ) (o : PeerConnectionObserver) : PeerConnectionObserver :=
  match track with
  | none => o
  | some track => { o.detachRemoteVideo with remoteVideoTrack := some track }

def onRemoveTrack (track : Option ℕ) (o : PeerConnectionObserver) : PeerConnectionObserver :=
  if track = o.remoteVideoTrack then o.detachRemoteVideo else o

def onFrame (image : QVideoFrame) (o : PeerConnectionObserver) : PeerConnectionObserver :=
  { o with latestFrame := image, framePending := true }

end PeerConnectionObserver

namespace WebrtcClient

def put (h : Happening) (s : WebrtcClient) : WebrtcClient := { s with history := s.history ++ [h] }

def post (event : Posted) (s : WebrtcClient) : WebrtcClient :=
  { s with posted := s.posted ++ [event] }.put (.posted event)

def current (s : WebrtcClient) : Option ℕ := s.peerConnection.map PeerConnection.number

def observing (s : WebrtcClient) : Option ℕ := s.peerObserver.map PeerConnectionObserver.number

def guarded (connection : Option ℕ) (s : WebrtcClient) : Bool :=
  s.alive && connection.isSome && decide (s.observing = connection)

def dropObserver (s : WebrtcClient) : WebrtcClient :=
  { s with
    peerObserver := none
    posted := s.posted.filter (fun event => event.observer.isNone || decide (event.observer ≠ s.observing)) }

/-! ### The camera -/

def postCapture (call : CaptureCall) (s : WebrtcClient) : WebrtcClient :=
  { s with capture := s.capture.map (CaptureThread.post call) }

def prepare (s : WebrtcClient) : WebrtcClient :=
  let s := if s.capture.isNone then { s with capture := some {} } else s
  s.postCapture (.prepare s.cameraDevice)

def updateCameraCapture (s : WebrtcClient) : WebrtcClient :=
  let s := { s with localVideoTrack := s.localVideoTrack.map (VideoTrack.setEnabled s.cameraRequested) }
  let s := if s.cameraRequested && s.capture.isNone then s.prepare else s
  s.postCapture (if s.cameraRequested then .start else .stop)

def setCameraEnabled (enable : Bool) (s : WebrtcClient) : WebrtcClient :=
  { s with cameraRequested := enable }.updateCameraCapture

def setCameraDevice (device : Option QCameraDevice) (s : WebrtcClient) : WebrtcClient :=
  { s with cameraDevice := device }.postCapture (.setDevice device)

def addVideoTrack (s : WebrtcClient) : WebrtcClient :=
  if s.localVideoTrack.isSome then s
  else { s with localVideoTrack := some { number := s.tracks }, tracks := s.tracks + 1 }

def createLocalCameraTrack (answers : TrackAnswers) (s : WebrtcClient) : WebrtcClient :=
  if !s.cameraRequested then s
  else if !s.factory then s
  else if s.localVideoTrack.isNone && !answers.videoCreated then s
  else
    let s := s.addVideoTrack.updateCameraCapture
    match s.peerConnection, s.localVideoTrack with
    | some connection, some track =>
      if connection.senders.contains (.video track.number) then s
      else if answers.videoAdded then
        { s with peerConnection := some (connection.addTrack (.video track.number)) }
      else s.put (.errorOccurred (ofAscii "Unable to add the local video track"))
    | _, _ => s

/-! ### The connection -/

def createLocalAudioTrack (answers : Initialization) (s : WebrtcClient) : WebrtcClient :=
  if !s.factory then s
  else if !answers.audioSource then s
  else { s with localAudioTrack := if answers.audioTrack then some true else none }

def initializeClient (answers : Initialization) (s : WebrtcClient) : Bool × WebrtcClient :=
  if !answers.networkThread then (false, s)
  else if !answers.workerThread then (false, s)
  else if !answers.signalingThread then (false, s)
  else if !answers.audioDevice then (false, s.put (.errorOccurred (ofAscii "Cannot initialize audio devices")))
  else if !answers.factory then (false, { s with factory := false })
  else (true, { s with factory := true }.createLocalAudioTrack answers)

/-- `created` says whether the library creates the connection. -/
def createPeerConnection (created : Bool) (iceServers : List IceServer) (s : WebrtcClient) : Bool × WebrtcClient :=
  if !s.factory then (false, s)
  else if s.peerConnection.isSome then (false, s)
  else if iceServers.any (fun ice => (trimmed ice.host).isEmpty) then (false, s)
  else
    let servers := iceServers.map (fun ice => (⟨url ice, ice.username, ice.credential⟩ : RtcServer))
    let number := s.observers
    let s := { s.dropObserver with peerObserver := some { number := number }, observers := number + 1 }
    if !created then (false, s) else (true, { s with peerConnection := some { number := number, servers := servers } })

def observe (stage : Stage) (onSuccess : Bool) (s : WebrtcClient) : WebrtcClient :=
  { s with
    sdpObservers := Function.update s.sdpObservers s.requests (some ⟨s.observing, onSuccess, stage⟩)
    requests := s.requests + 1 }

/-- `createOffer` and `createAnswer`, which differ in the call of the library. -/
def createDescription (create : ℕ → ℕ → Happening) (answers : TrackAnswers) (onSuccess : Bool) (s : WebrtcClient) :
    WebrtcClient :=
  match s.peerConnection with
  | none => s
  | some connection =>
    if !s.factory then s
    else if !answers.audioAdded then s
    else
      let s := { s with peerConnection := some (connection.addTrack .audio) }
      let s := s.createLocalCameraTrack answers
      (s.put (create s.requests connection.number)).observe .creating onSuccess

def createOffer (answers : TrackAnswers) (onSuccess : Bool) (s : WebrtcClient) : WebrtcClient :=
  s.createDescription .createOffer answers onSuccess

def createAnswer (answers : TrackAnswers) (onSuccess : Bool) (s : WebrtcClient) : WebrtcClient :=
  s.createDescription .createAnswer answers onSuccess

/-- `knows` and `parses` say whether the library knows the type and can parse the description. -/
def setRemoteSdp (knows parses : Bool) (type sdp : QString) (onSuccess : Bool) (s : WebrtcClient) :
    Bool × WebrtcClient :=
  match s.peerConnection with
  | none => (false, s)
  | some connection =>
    if !knows then (false, s)
    else if !parses then (false, s)
    else
      (true, (s.put (.setRemoteDescription s.requests connection.number type sdp)).observe .applying onSuccess)

def setRemoteCandidate (parses : Bool) (sdp sdpMid : QString) (sdpMLineIndex : ℤ) (s : WebrtcClient) :
    Bool × WebrtcClient :=
  match s.peerConnection with
  | none => (false, s)
  | some connection =>
    (false, s.put (.addIceCandidate connection.number (if parses then some (sdp, sdpMid, sdpMLineIndex) else none)))

def setMuteMicrophone (mute : Bool) (s : WebrtcClient) : WebrtcClient :=
  match s.localAudioTrack with
  | none => s
  | some enabled => if enabled = mute then s else { s with localAudioTrack := some (!mute) }

def closePeerConnection (s : WebrtcClient) : WebrtcClient :=
  match s.current with
  | none => s
  | some connection => { s with peerConnection := none }.put (.close connection)

def closeConnection (s : WebrtcClient) : WebrtcClient :=
  let hadConnection := s.peerConnection.isSome
  let s := { s with peerConnected := false, cameraRequested := false }.updateCameraCapture
  let s := { s.closePeerConnection.dropObserver with localVideoTrack := none }
  let s := (s.put (.localVideoFrameReady noFrame)).put (.remoteVideoFrameReady noFrame)
  if hadConnection then (s.put (.connectionStateChanged .disconnect)).put .disconnected else s

def destroy (defaultVideoInput : Option QCameraDevice) (s : WebrtcClient) : WebrtcClient :=
  { s.closePeerConnection.dropObserver with
    alive := false
    cameraRequested := false
    capture := s.capture.map (CaptureThread.quit defaultVideoInput)
    posted := []
    factory := false
    localAudioTrack := none
    localVideoTrack := none }

/-! ### Signals of the peer observer -/

def connectionStateChanged (state : PeerConnectionState) (s : WebrtcClient) : WebrtcClient :=
  let s := { s with peerConnected := decide (state = PeerConnectionState.connected) }
  let s := if s.peerConnected then s else s.put (.remoteVideoFrameReady noFrame)
  let s := s.updateCameraCapture
  match state with
  | .connected => ((s.put (.connectionStateChanged .connected)).put .connected).setMuteMicrophone false
  | .connecting => s.put (.connectionStateChanged .connecting)
  | .new => s.put (.connectionStateChanged .checking)
  | _ => (s.put (.connectionStateChanged .disconnect)).put .disconnected

def onConnectionChange (state : PeerConnectionState) (s : WebrtcClient) : WebrtcClient :=
  match s.observing with
  | none => s
  | some observer =>
    let s := s.post (.connectionStateChanged observer state)
    if state = .failed then s.post (.peerErrorOccurred observer (ofAscii "WebRTC peer connection failed")) else s

def onIceConnectionFailed (s : WebrtcClient) : WebrtcClient :=
  match s.observing with
  | none => s
  | some observer => s.post (.peerErrorOccurred observer (ofAscii "WebRTC ICE connection failed"))

/-- `message` is the text put together from what the library says of the error. -/
def onIceCandidateError (message : QString) (s : WebrtcClient) : WebrtcClient :=
  match s.observing with
  | none => s
  | some observer => s.post (.peerErrorOccurred observer message)

def onIceCandidate (candidate sdpMid : QString) (sdpMLineIndex : ℤ) (s : WebrtcClient) : WebrtcClient :=
  match s.observing with
  | none => s
  | some observer => s.post (.iceCandidateChanged observer candidate sdpMid sdpMLineIndex)

/-! ### The library's answers to requests -/

def forget (request : ℕ) (s : WebrtcClient) : WebrtcClient :=
  { s with sdpObservers := Function.update s.sdpObservers request none }

/-- `CreateOffer` or `CreateAnswer` succeeds; a description that is missing or cannot be written is none. -/
def descriptionCreated (request : ℕ) (description : Option (QString × QString)) (s : WebrtcClient) : WebrtcClient :=
  match s.sdpObservers request with
  | some ⟨guard, onSuccess, .creating⟩ =>
    let s := s.forget request
    match s.current, description with
    | some connection, some (type, sdp) =>
      if s.guarded guard then
        { s with
          sdpObservers := Function.update s.sdpObservers request (some ⟨guard, onSuccess, .setting type sdp⟩)
        }.put (.setLocalDescription request connection type sdp)
      else s
    | _, _ => s
  | _ => s

def localDescriptionSet (request : ℕ) (ok : Bool) (s : WebrtcClient) : WebrtcClient :=
  match s.sdpObservers request with
  | some ⟨guard, onSuccess, .setting type sdp⟩ =>
    let s := s.forget request
    if s.guarded guard && ok then s.post (.sdpCreated request guard onSuccess type sdp) else s
  | _ => s

def remoteDescriptionSet (request : ℕ) (ok : Bool) (s : WebrtcClient) : WebrtcClient :=
  match s.sdpObservers request with
  | some ⟨guard, onSuccess, .applying⟩ =>
    let s := s.forget request
    if s.guarded guard && ok then s.post (.remoteSdpSet request guard onSuccess) else s
  | _ => s

end WebrtcClient

/-! ### Runs -/

inductive Call
  | initializeClient (answers : Initialization)
  | prepare
  | createPeerConnection (created : Bool) (iceServers : List IceServer)
  | createOffer (answers : TrackAnswers) (onSuccess : Bool)
  | createAnswer (answers : TrackAnswers) (onSuccess : Bool)
  | setRemoteSdp (knows parses : Bool) (type sdp : QString) (onSuccess : Bool)
  | setRemoteCandidate (parses : Bool) (sdp sdpMid : QString) (sdpMLineIndex : ℤ)
  | closeConnection
  | setMuteMicrophone (mute : Bool)
  | createLocalCameraTrack (answers : TrackAnswers)
  | setCameraEnabled (enable : Bool)
  | setCameraDevice (device : Option QCameraDevice)

def WebrtcClient.call (s : WebrtcClient) : Call → WebrtcClient
  | .initializeClient answers => (s.initializeClient answers).2
  | .prepare => s.prepare
  | .createPeerConnection created iceServers => (s.createPeerConnection created iceServers).2
  | .createOffer answers onSuccess => s.createOffer answers onSuccess
  | .createAnswer answers onSuccess => s.createAnswer answers onSuccess
  | .setRemoteSdp knows parses type sdp onSuccess => (s.setRemoteSdp knows parses type sdp onSuccess).2
  | .setRemoteCandidate parses sdp sdpMid sdpMLineIndex =>
    (s.setRemoteCandidate parses sdp sdpMid sdpMLineIndex).2
  | .closeConnection => s.closeConnection
  | .setMuteMicrophone mute => s.setMuteMicrophone mute
  | .createLocalCameraTrack answers => s.createLocalCameraTrack answers
  | .setCameraEnabled enable => s.setCameraEnabled enable
  | .setCameraDevice device => s.setCameraDevice device

namespace WebrtcClient

/-- A completion or signal is run; `calls` are those that the receivers of `localSdpCreated` make before the
function of the caller is called. -/
def run (calls : List Call) (event : Posted) (s : WebrtcClient) : WebrtcClient :=
  match event with
  | .sdpCreated request guard onSuccess type sdp =>
    if !s.guarded guard then s
    else
      let s := calls.foldl call (s.put (.localSdpCreated type sdp))
      if s.guarded guard && onSuccess then s.put (.onSdp request s.current sdp) else s
  | .remoteSdpSet request guard onSuccess =>
    if s.guarded guard && onSuccess then s.put (.onRemoteSdp request s.current) else s
  | .connectionStateChanged _ state => s.connectionStateChanged state
  | .iceCandidateChanged _ candidate sdpMid sdpMLineIndex =>
    s.put (.localIceCandidateGenerated candidate sdpMid sdpMLineIndex)
  | .peerErrorOccurred _ message => s.put (.errorOccurred message)
  | .captureErrorOccurred message => s.put (.errorOccurred message)

def runPosted (calls : List Call) (s : WebrtcClient) : WebrtcClient :=
  match s.posted with
  | [] => s
  | event :: rest => ({ s with posted := rest }.put (.ran event)).run calls event

def showRemoteFrame (s : WebrtcClient) : WebrtcClient :=
  match s.peerObserver with
  | some observer =>
    if s.peerConnected && observer.framePending then
      { s with peerObserver := some { observer with latestFrame := noFrame, framePending := false } }.put
        (.remoteVideoFrameReady observer.latestFrame)
    else s
  | none => s

/-- `converted` says whether the frame can be converted for the source. -/
def pushLocalFrame (converted : Bool) (s : WebrtcClient) : WebrtcClient :=
  match s.capture, s.localVideoTrack with
  | some thread, some track =>
    if s.cameraRequested && track.enabled then
      let frame := thread.capture.latestFrame
      let s := { s with capture := some { thread with capture := thread.capture.takeFrame } }
      if frame.isValid && converted then s.put (.pushFrame frame) else s
    else s
  | _, _ => s

def videoTimeout (converted : Bool) (s : WebrtcClient) : WebrtcClient :=
  s.showRemoteFrame.pushLocalFrame converted

def forward (s : WebrtcClient) : Output → WebrtcClient
  | .frameReady frame => s.put (.localVideoFrameReady frame)
  | .errorOccurred message => s.post (.captureErrorOccurred message)
  | .taken _ => s

def capturing (step : QtCameraCapture → QtCameraCapture) (thread : CaptureThread) (s : WebrtcClient) : WebrtcClient :=
  let capture := step { thread.capture with outputs := [] }
  capture.outputs.foldl forward { s with capture := some { thread with capture := capture } }

def runCapture (defaultVideoInput : Option QCameraDevice) (s : WebrtcClient) : WebrtcClient :=
  match s.capture with
  | some ⟨capture, c :: calls⟩ => (s.put (.ranCapture c)).capturing (c.run defaultVideoInput) ⟨capture, calls⟩
  | _ => s

def observed (f : PeerConnectionObserver → PeerConnectionObserver) (s : WebrtcClient) : WebrtcClient :=
  { s with peerObserver := s.peerObserver.map f }

def onFrame (image : Option QVideoFrame) (s : WebrtcClient) : WebrtcClient :=
  match image, s.peerObserver.bind PeerConnectionObserver.remoteVideoTrack with
  | some image, some _ => (s.observed (PeerConnectionObserver.onFrame image)).put (.onFrame image)
  | _, _ => s

end WebrtcClient

inductive ClientEvent
  | call (call : Call)
  | runPosted (calls : List Call)
  | videoTimeout (converted : Bool)
  | destroy (defaultVideoInput : Option QCameraDevice)
  | runCapture (defaultVideoInput : Option QCameraDevice)
  | videoFrameChanged (mapped pixelsMapped : Bool) (frame pixels : QVideoFrame)
  | cameraErrorOccurred (message : Text)
  | descriptionCreated (request : ℕ) (description : Option (QString × QString))
  | descriptionFailed (request : ℕ)
  | localDescriptionSet (request : ℕ) (ok : Bool)
  | remoteDescriptionSet (request : ℕ) (ok : Bool)
  | onConnectionChange (state : PeerConnectionState)
  | onIceConnectionFailed
  | onIceCandidate (candidate sdpMid : QString) (sdpMLineIndex : ℤ)
  | onIceCandidateError (message : QString)
  | onTrack (track : Option ℕ)
  | onRemoveTrack (track : Option ℕ)
  | onFrame (image : Option QVideoFrame)

def clientStep (s : WebrtcClient) (e : ClientEvent) : WebrtcClient :=
  match e with
  | .descriptionCreated request description => s.descriptionCreated request description
  | .descriptionFailed request => s.forget request
  | .localDescriptionSet request ok => s.localDescriptionSet request ok
  | .remoteDescriptionSet request ok => s.remoteDescriptionSet request ok
  | e =>
    if !s.alive then s
    else
      match e with
      | .call call => s.call call
      | .runPosted calls => s.runPosted calls
      | .videoTimeout converted => s.videoTimeout converted
      | .destroy defaultVideoInput => s.destroy defaultVideoInput
      | .runCapture defaultVideoInput => s.runCapture defaultVideoInput
      | .videoFrameChanged mapped pixelsMapped frame pixels =>
        match s.capture with
        | some thread =>
          let copied := (copyCameraFrame mapped pixelsMapped frame pixels).1
          s.capturing (QtCameraCapture.videoFrameChanged frame copied) thread
        | none => s
      | .cameraErrorOccurred message =>
        match s.capture with
        | some thread => s.capturing (QtCameraCapture.cameraErrorOccurred message) thread
        | none => s
      | .onConnectionChange state => s.onConnectionChange state
      | .onIceConnectionFailed => s.onIceConnectionFailed
      | .onIceCandidate candidate sdpMid sdpMLineIndex => s.onIceCandidate candidate sdpMid sdpMLineIndex
      | .onIceCandidateError message => s.onIceCandidateError message
      | .onTrack track => s.observed (PeerConnectionObserver.onTrack track)
      | .onRemoveTrack track => s.observed (PeerConnectionObserver.onRemoveTrack track)
      | .onFrame image => s.onFrame image
      | _ => s

/-! ### What the functions change -/

/-- What concerns neither the camera nor the other side's video. -/
def Happening.beside : Happening → Bool
  | .localVideoFrameReady _ => false
  | .remoteVideoFrameReady _ => false
  | .close _ => false
  | .pushFrame _ => false
  | .ran (.connectionStateChanged _ _) => false
  | .ranCapture _ => false
  | .onFrame _ => false
  | _ => true

/-- What does not concern the other side's video. -/
def Happening.apart : Happening → Bool
  | .remoteVideoFrameReady _ => false
  | .onFrame _ => false
  | .close _ => false
  | .ran (.connectionStateChanged _ _) => false
  | _ => true

/-- What the service does nothing about. -/
def Happening.unheard : Happening → Bool
  | .connectionStateChanged _ => false
  | .onSdp _ _ _ => false
  | .onRemoteSdp _ _ => false
  | .setRemoteDescription _ _ _ _ => false
  | .addIceCandidate _ candidate => candidate.isNone
  | _ => true

def Posted.tellsState : Posted → Bool
  | .connectionStateChanged _ _ => true
  | _ => false

structure SameCall (s s' : WebrtcClient) : Prop where
  alive : s'.alive = s.alive
  factory : s'.factory = s.factory
  connection : s'.peerConnection.isSome = s.peerConnection.isSome
  connected : s'.peerConnected = s.peerConnected
  observer : s'.peerObserver = s.peerObserver
  posted : s'.posted = s.posted
  history : s'.history = s.history

structure SameCamera (s s' : WebrtcClient) : Prop where
  capture : s'.capture = s.capture
  requested : s'.cameraRequested = s.cameraRequested
  device : s'.cameraDevice = s.cameraDevice

/-- One function of the client after another, each of which leaves the call as it is, does to the camera what `camera`
says, and does no more than `tells`. -/
inductive Changes (camera : WebrtcClient → WebrtcClient → Prop) (tells : Happening → Bool) :
    WebrtcClient → WebrtcClient → Prop
  | same {s s' : WebrtcClient} (call : SameCall s s') (film : camera s s') : Changes camera tells s s'
  | put {s s' : WebrtcClient} (before : Changes camera tells s s') (h : Happening) (hh : tells h = true) :
    Changes camera tells s (s'.put h)
  | post {s s' : WebrtcClient} (before : Changes camera tells s s') (event : Posted) (he : event.tellsState = false) :
    Changes camera tells s (s'.post event)
  | trans {s s' s'' : WebrtcClient} (before : Changes camera tells s s') (later : Changes camera tells s' s'') :
    Changes camera tells s s''

def Happening.minor (h : Happening) : Bool := h.beside && h.unheard

def Happening.calm (h : Happening) : Bool := h.apart && h.unheard

abbrev Minor : WebrtcClient → WebrtcClient → Prop := Changes SameCamera Happening.minor

abbrev Tends : WebrtcClient → WebrtcClient → Prop :=
  Changes (fun s s' => SameCamera s s' ∨ s' = s.updateCameraCapture) Happening.minor

abbrev Calm : WebrtcClient → WebrtcClient → Prop := Changes (fun _ _ => True) Happening.calm

inductive Beside : WebrtcClient → WebrtcClient → Prop
  | same {s s' : WebrtcClient} (alive : s'.alive = s.alive) (capture : s'.capture = s.capture)
      (requested : s'.cameraRequested = s.cameraRequested) (device : s'.cameraDevice = s.cameraDevice)
      (connected : s'.peerConnected = s.peerConnected) (observer : s'.peerObserver = s.peerObserver)
      (history : s'.history = s.history) : Beside s s'
  | put {s s' : WebrtcClient} (before : Beside s s') (h : Happening) (hh : h.beside = true) : Beside s (s'.put h)
  | trans {s s' s'' : WebrtcClient} (before : Beside s s') (later : Beside s' s'') : Beside s s''

section

variable {s s' : WebrtcClient} {h : Happening} {camera camera' : WebrtcClient → WebrtcClient → Prop}
  {tells tells' : Happening → Bool}

lemma SameCall.refl (s : WebrtcClient) : SameCall s s := ⟨rfl, rfl, rfl, rfl, rfl, rfl, rfl⟩

lemma SameCamera.refl (s : WebrtcClient) : SameCamera s s := ⟨rfl, rfl, rfl⟩

lemma Happening.apart_beside (hh : h.beside = true) : h.apart = true := by
  cases h with
  | ran event => cases event <;> first | rfl | cases hh
  | _ => first | rfl | cases hh

lemma Changes.mono (hs : Changes camera tells s s') (hc : ∀ s s', camera s s' → camera' s s')
    (ht : ∀ h, tells h = true → tells' h = true) : Changes camera' tells' s s' := by
  induction hs with
  | same call film => exact .same call (hc _ _ film)
  | put _ h hh ih => exact ih.put h (ht h hh)
  | post _ event he ih => exact ih.post event he
  | trans _ _ ih ih' => exact ih.trans ih'

lemma Minor.refl (s : WebrtcClient) : Minor s s := .same (.refl s) (.refl s)

lemma Tends.refl (s : WebrtcClient) : Tends s s := .same (.refl s) (.inl (.refl s))

lemma Calm.refl (s : WebrtcClient) : Calm s s := .same (.refl s) trivial

lemma Minor.tends (hs : Minor s s') : Tends s s' := hs.mono (fun _ _ => Or.inl) fun _ hh => hh

lemma Tends.calm (hs : Tends s s') : Calm s s' :=
  hs.mono (fun _ _ _ => trivial) fun h hh => by
    unfold Happening.minor at hh
    rw [Bool.and_eq_true] at hh
    exact Bool.and_eq_true_iff.mpr ⟨Happening.apart_beside hh.1, hh.2⟩

lemma Minor.calm (hs : Minor s s') : Calm s s' := hs.tends.calm

lemma Beside.refl (s : WebrtcClient) : Beside s s := .same rfl rfl rfl rfl rfl rfl rfl

lemma Beside.post (hs : Beside s s') (event : Posted) : Beside s (s'.post event) := by
  have hposted : Beside s' { s' with posted := s'.posted ++ [event] } := .same rfl rfl rfl rfl rfl rfl rfl
  exact (hs.trans hposted).put (.posted event) rfl

lemma Minor.beside (hs : Minor s s') : Beside s s' := by
  induction hs with
  | same call film =>
    exact .same call.alive film.capture film.requested film.device call.connected call.observer call.history
  | put _ h hh ih => exact ih.put h (Bool.and_eq_true_iff.mp hh).1
  | post _ event _ ih => exact ih.post event
  | trans _ _ ih ih' => exact ih.trans ih'

/-! ### The camera -/

lemma sameCall_prepare (s : WebrtcClient) : SameCall s s.prepare := by
  unfold WebrtcClient.prepare
  dsimp only
  split
  · exact ⟨rfl, rfl, rfl, rfl, rfl, rfl, rfl⟩
  · exact ⟨rfl, rfl, rfl, rfl, rfl, rfl, rfl⟩

lemma tends_updateCameraCapture (s : WebrtcClient) : Tends s s.updateCameraCapture := by
  refine .same ?_ (Or.inr rfl)
  unfold WebrtcClient.updateCameraCapture
  dsimp only
  split
  · obtain ⟨alive, factory, connection, connected, observer, posted, history⟩ := sameCall_prepare
      { s with localVideoTrack := s.localVideoTrack.map (VideoTrack.setEnabled s.cameraRequested) }
    exact ⟨alive, factory, connection, connected, observer, posted, history⟩
  · exact ⟨rfl, rfl, rfl, rfl, rfl, rfl, rfl⟩

lemma calm_prepare (s : WebrtcClient) : Calm s s.prepare := .same (sameCall_prepare s) trivial

lemma calm_setCameraEnabled (enable : Bool) (s : WebrtcClient) : Calm s (s.setCameraEnabled enable) := by
  have hset : Calm s { s with cameraRequested := enable } := .same ⟨rfl, rfl, rfl, rfl, rfl, rfl, rfl⟩ trivial
  exact hset.trans (tends_updateCameraCapture _).calm

lemma calm_setCameraDevice (device : Option QCameraDevice) (s : WebrtcClient) : Calm s (s.setCameraDevice device) :=
  .same ⟨rfl, rfl, rfl, rfl, rfl, rfl, rfl⟩ trivial

lemma minor_addVideoTrack (s : WebrtcClient) : Minor s s.addVideoTrack := by
  unfold WebrtcClient.addVideoTrack
  split
  · exact .refl s
  · exact .same ⟨rfl, rfl, rfl, rfl, rfl, rfl, rfl⟩ ⟨rfl, rfl, rfl⟩

lemma tends_createLocalCameraTrack (answers : TrackAnswers) (s : WebrtcClient) :
    Tends s (s.createLocalCameraTrack answers) := by
  have hupdated : Tends s s.addVideoTrack.updateCameraCapture :=
    (minor_addVideoTrack s).tends.trans (tends_updateCameraCapture _)
  unfold WebrtcClient.createLocalCameraTrack
  split
  · exact .refl s
  · split
    · exact .refl s
    · split
      · exact .refl s
      · dsimp only
        split
        · rename_i connection track hconnection htrack
          split
          · exact hupdated
          · split
            · have hadded : Minor s.addVideoTrack.updateCameraCapture { s.addVideoTrack.updateCameraCapture with
                  peerConnection := some (connection.addTrack (.video track.number)) } :=
                .same ⟨rfl, rfl, by rw [hconnection]; rfl, rfl, rfl, rfl, rfl⟩ ⟨rfl, rfl, rfl⟩
              exact hupdated.trans hadded.tends
            · exact hupdated.put (.errorOccurred _) rfl
        · exact hupdated

lemma calm_forward (output : Output) (s : WebrtcClient) : Calm s (s.forward output) := by
  cases output with
  | frameReady frame => exact (Calm.refl s).put (.localVideoFrameReady frame) rfl
  | errorOccurred message => exact (Calm.refl s).post (.captureErrorOccurred message) rfl
  | taken frame => exact .refl s

lemma calm_capturing (step : QtCameraCapture → QtCameraCapture) (thread : CaptureThread) (s : WebrtcClient) :
    Calm s (s.capturing step thread) := by
  have hall : ∀ (outputs : List Output) (t : WebrtcClient), Calm t (outputs.foldl WebrtcClient.forward t) := by
    intro outputs
    induction outputs with
    | nil => exact .refl
    | cons output outputs ih => exact fun t => (calm_forward output t).trans (ih _)
  have hset : Calm s { s with
      capture := some { thread with capture := step { thread.capture with outputs := [] } } } :=
    .same ⟨rfl, rfl, rfl, rfl, rfl, rfl, rfl⟩ trivial
  exact hset.trans (hall _ _)

lemma calm_runCapture (defaultVideoInput : Option QCameraDevice) (s : WebrtcClient) :
    Calm s (s.runCapture defaultVideoInput) := by
  unfold WebrtcClient.runCapture
  split
  · rename_i c _ _
    exact ((Calm.refl s).put (.ranCapture c) rfl).trans (calm_capturing _ _ _)
  · exact .refl s

lemma calm_pushLocalFrame (converted : Bool) (s : WebrtcClient) : Calm s (s.pushLocalFrame converted) := by
  unfold WebrtcClient.pushLocalFrame
  split
  · rename_i thread track _ _
    split
    · have htaken : Calm s { s with capture := some { thread with capture := thread.capture.takeFrame } } :=
        .same ⟨rfl, rfl, rfl, rfl, rfl, rfl, rfl⟩ trivial
      dsimp only
      split
      · exact htaken.put (.pushFrame _) rfl
      · exact htaken
    · exact .refl s
  · exact .refl s

/-! ### The calls of the client -/

lemma beside_initializeClient (answers : Initialization) (s : WebrtcClient) :
    Beside s (s.initializeClient answers).2 := by
  unfold WebrtcClient.initializeClient WebrtcClient.createLocalAudioTrack
  split_ifs
  any_goals exact .same rfl rfl rfl rfl rfl rfl rfl
  exact (Beside.refl s).put (.errorOccurred _) rfl

lemma tends_createDescription {create : ℕ → ℕ → Happening}
    (hcreate : ∀ request connection, (create request connection).minor = true) (answers : TrackAnswers)
    (onSuccess : Bool) (s : WebrtcClient) : Tends s (s.createDescription create answers onSuccess) := by
  unfold WebrtcClient.createDescription
  split
  · exact .refl s
  · rename_i connection hconnection
    split
    · exact .refl s
    · split
      · exact .refl s
      · have haudio : Minor s { s with peerConnection := some (connection.addTrack .audio) } :=
          .same ⟨rfl, rfl, by rw [hconnection]; rfl, rfl, rfl, rfl, rfl⟩ ⟨rfl, rfl, rfl⟩
        have htrack := haudio.tends.trans (tends_createLocalCameraTrack answers _)
        have hobserved : ∀ t : WebrtcClient, Minor t (t.observe .creating onSuccess) :=
          fun _ => .same ⟨rfl, rfl, rfl, rfl, rfl, rfl, rfl⟩ ⟨rfl, rfl, rfl⟩
        exact (htrack.put _ (hcreate _ _)).trans (hobserved _).tends

lemma beside_setRemoteSdp (knows parses : Bool) (type sdp : QString) (onSuccess : Bool) (s : WebrtcClient) :
    Beside s (s.setRemoteSdp knows parses type sdp onSuccess).2 := by
  unfold WebrtcClient.setRemoteSdp
  split
  · exact .refl s
  · rename_i connection _
    split_ifs
    · exact .refl s
    · exact .refl s
    · have hput := (Beside.refl s).put (.setRemoteDescription s.requests connection.number type sdp) rfl
      exact hput.trans (.same rfl rfl rfl rfl rfl rfl rfl)

lemma beside_setRemoteCandidate (parses : Bool) (sdp sdpMid : QString) (sdpMLineIndex : ℤ) (s : WebrtcClient) :
    Beside s (s.setRemoteCandidate parses sdp sdpMid sdpMLineIndex).2 := by
  unfold WebrtcClient.setRemoteCandidate
  split
  · exact .refl s
  · exact (Beside.refl s).put (.addIceCandidate _ _) rfl

lemma minor_setMuteMicrophone (mute : Bool) (s : WebrtcClient) : Minor s (s.setMuteMicrophone mute) := by
  unfold WebrtcClient.setMuteMicrophone
  split
  · exact .refl s
  · split
    · exact .refl s
    · exact .same ⟨rfl, rfl, rfl, rfl, rfl, rfl, rfl⟩ ⟨rfl, rfl, rfl⟩

/-! ### Answers of the library, and signals of the observer -/

lemma minor_forget (r : ℕ) (s : WebrtcClient) : Minor s (s.forget r) :=
  .same ⟨rfl, rfl, rfl, rfl, rfl, rfl, rfl⟩ ⟨rfl, rfl, rfl⟩

lemma minor_descriptionCreated (r : ℕ) (description : Option (QString × QString)) (s : WebrtcClient) :
    Minor s (s.descriptionCreated r description) := by
  unfold WebrtcClient.descriptionCreated
  split
  · rename_i guard onSuccess _
    dsimp only
    split
    · rename_i connection type sdp _
      split
      · have hset : Minor s { s.forget r with
            sdpObservers := Function.update (s.forget r).sdpObservers r
              (some ⟨guard, onSuccess, .setting type sdp⟩) } :=
          .same ⟨rfl, rfl, rfl, rfl, rfl, rfl, rfl⟩ ⟨rfl, rfl, rfl⟩
        exact hset.put (.setLocalDescription r connection type sdp) rfl
      · exact minor_forget r s
    · exact minor_forget r s
  · exact .refl s

lemma minor_localDescriptionSet (r : ℕ) (ok : Bool) (s : WebrtcClient) :
    Minor s (s.localDescriptionSet r ok) := by
  unfold WebrtcClient.localDescriptionSet
  split
  · dsimp only
    split
    · exact (minor_forget r s).post _ rfl
    · exact minor_forget r s
  · exact .refl s

lemma minor_remoteDescriptionSet (r : ℕ) (ok : Bool) (s : WebrtcClient) :
    Minor s (s.remoteDescriptionSet r ok) := by
  unfold WebrtcClient.remoteDescriptionSet
  split
  · dsimp only
    split
    · exact (minor_forget r s).post _ rfl
    · exact minor_forget r s
  · exact .refl s

lemma onConnectionChange_cases (state : PeerConnectionState) (s : WebrtcClient) : s.onConnectionChange state = s ∨
    ∃ observer, Minor (s.post (.connectionStateChanged observer state)) (s.onConnectionChange state) := by
  unfold WebrtcClient.onConnectionChange
  split
  · exact Or.inl rfl
  · rename_i observer _
    refine Or.inr ⟨observer, ?_⟩
    dsimp only
    split
    · exact (Minor.refl _).post _ rfl
    · exact .refl _

lemma beside_onConnectionChange (state : PeerConnectionState) (s : WebrtcClient) :
    Beside s (s.onConnectionChange state) := by
  obtain he | ⟨observer, hs⟩ := onConnectionChange_cases state s
  · rw [he]
    exact .refl s
  · exact ((Beside.refl s).post _).trans hs.beside

lemma minor_onIceConnectionFailed (s : WebrtcClient) : Minor s s.onIceConnectionFailed := by
  unfold WebrtcClient.onIceConnectionFailed
  split
  · exact .refl s
  · exact (Minor.refl s).post _ rfl

lemma minor_onIceCandidate (candidate sdpMid : QString) (sdpMLineIndex : ℤ) (s : WebrtcClient) :
    Minor s (s.onIceCandidate candidate sdpMid sdpMLineIndex) := by
  unfold WebrtcClient.onIceCandidate
  split
  · exact .refl s
  · exact (Minor.refl s).post _ rfl

lemma minor_onIceCandidateError (message : QString) (s : WebrtcClient) :
    Minor s (s.onIceCandidateError message) := by
  unfold WebrtcClient.onIceCandidateError
  split
  · exact .refl s
  · exact (Minor.refl s).post _ rfl

/-! ### A change of the connection's state -/

def WebrtcClient.showState (state : PeerConnectionState) (s : WebrtcClient) : WebrtcClient :=
  if decide (state = PeerConnectionState.connected) then
    { s with peerConnected := decide (state = PeerConnectionState.connected) }
  else { s with peerConnected := decide (state = PeerConnectionState.connected) }.put (.remoteVideoFrameReady noFrame)

lemma connectionStateChanged_cases (state : PeerConnectionState) (s : WebrtcClient) :
    ∃ told, Minor ((s.showState state).updateCameraCapture.put (.connectionStateChanged told))
      (s.connectionStateChanged state) := by
  cases state with
  | connected => exact ⟨.connected, ((Minor.refl _).put .connected rfl).trans (minor_setMuteMicrophone false _)⟩
  | connecting => exact ⟨.connecting, .refl _⟩
  | new => exact ⟨.checking, .refl _⟩
  | disconnected => exact ⟨.disconnect, (Minor.refl _).put .disconnected rfl⟩
  | failed => exact ⟨.disconnect, (Minor.refl _).put .disconnected rfl⟩
  | closed => exact ⟨.disconnect, (Minor.refl _).put .disconnected rfl⟩

end

end ChatDesktop.Voip.Rtc
