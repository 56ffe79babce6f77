import ChatDesktop.Library.Dom

/-! The messages that propose a call and answer a proposal. -/

namespace ChatDesktop.Voip

open Library Library.Text

abbrev QString := Text

def kJINGLE_MESSAGE : QString := ofAscii "urn:xmpp:jingle-message:0"

def kJINGLE_NAME : QString := ofAscii "urn:xmpp:jingle:1"

def kJINGLE_APP : QString := ofAscii "urn:xmpp:jingle:apps:rtp:1"

inductive StreamType
  | audio
  | video
  deriving DecidableEq, Repr

def fromStreamTypeString (str : QString) : Option StreamType :=
  if str = ofAscii "audio" then some .audio
  else if str = ofAscii "video" then some .video
  else none

inductive JingleMessageType
  | propose
  | retract
  | accept
  | proceed
  | reject
  | finish
  | ringing
  deriving DecidableEq, Repr

def fromJingleMessageTypeString (str : QString) : Option JingleMessageType :=
  if str = ofAscii "propose" then some .propose
  else if str = ofAscii "retract" then some .retract
  else if str = ofAscii "accept" then some .accept
  else if str = ofAscii "proceed" then some .proceed
  else if str = ofAscii "reject" then some .reject
  else if str = ofAscii "finish" then some .finish
  else if str = ofAscii "ringing" then some .ringing
  else none

/-- What `JingleMessage::parse` emits for a message. -/
structure JingleMessage where
  type : JingleMessageType
  sender : QString
  sessionId : QString
  streams : List StreamType
  reason : QString

namespace JingleMessage

def streamTypes (payload : Element) : List StreamType :=
  payload.children.foldl (fun streams description =>
    if description.tagName ≠ ofAscii "description" ∨ description.namespaceURI ≠ kJINGLE_APP then streams
    else
      match fromStreamTypeString (description.attributeOf (ofAscii "media")) with
      | some stream => if stream ∈ streams then streams else streams ++ [stream]
      | none => streams) []

def reasonFrom (reasonText : QString) : List Element → QString
  | [] => reasonText
  | child :: rest =>
    if child.namespaceURI ≠ kJINGLE_NAME then reasonFrom reasonText rest
    else if child.tagName = ofAscii "text" then child.text
    else reasonFrom (if reasonText = [] then child.tagName else reasonText) rest

def reasonText (payload : Element) : QString :=
  match (payload.childrenNamed (ofAscii "reason")).head? with
  | some reason => if reason.namespaceURI = kJINGLE_NAME then reasonFrom [] reason.children else []
  | none => []

def parsePayload (sender : QString) (payload : Element) : Option JingleMessage :=
  if payload.namespaceURI ≠ kJINGLE_MESSAGE then none
  else
    let sessionId := payload.attributeOf (ofAscii "id")
    match fromJingleMessageTypeString payload.tagName with
    | none => none
    | some type =>
      if trimmed sessionId = [] then none
      else
        let streams := if type = .propose then streamTypes payload else []
        if type = .propose ∧ streams = [] then none
        else some ⟨type, sender, sessionId, streams, reasonText payload⟩

def parse (element : Element) : Option JingleMessage :=
  if element.tagName = ofAscii "message" then
    let sender := element.attributeOf (ofAscii "from")
    if trimmed sender = [] ∨ element.attributeOf (ofAscii "type") = ofAscii "error" then none
    else (element.children.find? (fun child => child.namespaceURI = kJINGLE_MESSAGE)).bind (parsePayload sender)
  else parsePayload [] element

end JingleMessage

end ChatDesktop.Voip
