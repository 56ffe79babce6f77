import ChatDesktop.Voip.JingleMessage

/-! The IQ stanzas of a session: an offer, an answer, candidates, its end. -/

namespace ChatDesktop.Voip

open Library Library.Text

def kJINGLE_TRANSPORT : QString := ofAscii "urn:xmpp:jingle:apps:rtp:info:1"

def kJINGLE_TRANSPORT_ICE : QString := ofAscii "urn:xmpp:jingle:transports:ice:0"

inductive ActionType
  | sessionInitiate
  | sessionTerminate
  | sessionAccept
  | sessionInfo
  | sessionTransport
  | transportReplace
  | transportAccept
  deriving DecidableEq, Repr

def ActionType.fromString (type : QString) : Option ActionType :=
  if type = ofAscii "session-initiate" then some .sessionInitiate
  else if type = ofAscii "session-terminate" then some .sessionTerminate
  else if type = ofAscii "session-accept" then some .sessionAccept
  else if type = ofAscii "session-info" then some .sessionInfo
  else if type = ofAscii "session-transport" then some .sessionTransport
  else if type = ofAscii "transport-replace" then some .transportReplace
  else if type = ofAscii "transport-accept" then some .transportAccept
  else none

inductive IceType
  | turn
  | turns
  | stun
  deriving DecidableEq, Repr

structure IceServer where
  type : IceType
  host : QString
  port : QString
  username : QString
  credential : QString
  deriving DecidableEq, Repr

inductive ActionSignal
  | remoteSdpOfferReceived (offer : QString) (iceServers : List IceServer) (sid : QString)
  | exchangeIceCandidateReceived (sdp sdpMid : QString) (sdpMLineIndex : Int)
  | remoteSdpAnswerReceived (answer sid : QString)
  | sessionTerminateReceived
  deriving DecidableEq, Repr

structure JingleAction where
  currentSid : QString := []
  contentName : QString := []
  contentCreator : QString := []
  deriving DecidableEq, Repr

namespace JingleAction

def nameMatches (node : Element) (name ns : QString) : Bool :=
  let localName := if node.localName = [] then node.tagName else node.localName
  let namespaceUri := if node.namespaceURI = [] then node.attributeOf (ofAscii "xmlns") else node.namespaceURI
  decide (localName = name ∧ namespaceUri = ns)

def iceServer (ice : Element) : Option IceServer :=
  let type := ice.attributeOf (ofAscii "type")
  let host := ice.attributeOf (ofAscii "host")
  let server (t : IceType) : Option IceServer :=
    if host = [] then none
    else some ⟨t, host, ice.attributeOf (ofAscii "port"), ice.attributeOf (ofAscii "username"),
      ice.attributeOf (ofAscii "credential")⟩
  if type = ofAscii "stun" then server .stun
  else if type = ofAscii "turn" then server .turn
  else none

def contentOffer (content : Element) : QString × List IceServer :=
  content.children.foldl (fun acc child =>
    if nameMatches child (ofAscii "description") kJINGLE_APP then (child.childText (ofAscii "sdp"), acc.2)
    else if nameMatches child (ofAscii "transport") kJINGLE_TRANSPORT_ICE then
      (acc.1, acc.2 ++ (child.childrenNamed (ofAscii "ice")).filterMap iceServer)
    else acc) ([], [])

def offered (jingle : Element) : Option (Element × QString × List IceServer) :=
  ((jingle.childrenNamed (ofAscii "content")).map (fun content => (content, contentOffer content))).find?
    (fun c => trimmed c.2.1 ≠ [])

/-- The answer of the first `content` or of the first sibling after it that has one. -/
def answered (jingle : Element) : Option QString :=
  ((jingle.children.dropWhile (fun c => c.tagName ≠ ofAscii "content")).map (fun content =>
    ((content.childrenNamed (ofAscii "description")).head?.map
      (fun description => description.childText (ofAscii "sdp"))).getD [])).find? (fun answer => trimmed answer ≠ [])

def candidate (element : Element) : Option ActionSignal :=
  let name := if element.localName = [] then element.tagName else element.localName
  if name ≠ ofAscii "candidate" then none
  else if (element.namespaceURI ≠ [] ∨ element.hasAttribute (ofAscii "xmlns")) ∧
      !nameMatches element (ofAscii "candidate") kJINGLE_TRANSPORT then none
  else
    let foundation := element.attributeOf (ofAscii "foundation")
    let component := element.attributeOf (ofAscii "component")
    let sdp := element.attributeOf (ofAscii "sdp")
    if trimmed sdp = [] ∨ foundation = [] ∨ component = [] then none
    else
      match toInt component with
      | some sdpMLineIndex => if sdpMLineIndex < 0 then none
          else some (.exchangeIceCandidateReceived sdp foundation sdpMLineIndex)
      | none => none

def candidates (jingle : Element) : List ActionSignal :=
  (jingle.children.filter (fun t => nameMatches t (ofAscii "transport") kJINGLE_TRANSPORT)).flatMap
    (fun transport => transport.children.filterMap candidate)

/-- The `jingle` element of a stanza, if it is one that sets something. -/
def jingleOf (element : Element) : Option Element :=
  if element.tagName = ofAscii "iq" ∨ element.localName = ofAscii "iq" then
    if element.attributeOf (ofAscii "type") ≠ ofAscii "set" then none
    else element.children.find? (fun child => nameMatches child (ofAscii "jingle") kJINGLE_NAME)
  else if nameMatches element (ofAscii "jingle") kJINGLE_NAME then some element
  else none

def parse (a : JingleAction) (element : Element) : Bool × List ActionSignal × JingleAction :=
  match jingleOf element with
  | none => (false, [], a)
  | some jingle =>
    let sid := jingle.attributeOf (ofAscii "sid")
    match ActionType.fromString (jingle.attributeOf (ofAscii "action")) with
    | none => (false, [], a)
    | some action =>
      if sid = [] then (false, [], a)
      else
        match action with
        | .sessionInitiate =>
          match offered jingle with
          | some (content, offer, iceServers) =>
            (true, [.remoteSdpOfferReceived offer iceServers sid], {
              currentSid := sid
              contentName := content.attributeOf (ofAscii "name")
              contentCreator := content.attributeOf (ofAscii "creator") (ofAscii "initiator") })
          | none => (false, [], a)
        | .sessionAccept =>
          if sid ≠ a.currentSid then (false, [], a)
          else
            match answered jingle with
            | some answer => (true, [.remoteSdpAnswerReceived answer sid], a)
            | none => (false, [], a)
        | .sessionTerminate => (false, [.sessionTerminateReceived], a)
        | .sessionTransport =>
          if sid ≠ a.currentSid then (false, [], a)
          else (decide (candidates jingle ≠ []), candidates jingle, a)
        | .sessionInfo | .transportReplace | .transportAccept => (false, [], a)

end JingleAction

end ChatDesktop.Voip
