import ChatDesktop.Library.TextFields
import ChatDesktop.Library.XmlElement
import ChatDesktop.Voip.JingleAction

namespace ChatDesktop.Voip

open Library Library.Text

/-! ### Building -/

def ActionType.fromType : ActionType → QString
  | .sessionInitiate => ofAscii "session-initiate"
  | .sessionTerminate => ofAscii "session-terminate"
  | .sessionAccept => ofAscii "session-accept"
  | .sessionInfo => ofAscii "session-info"
  | .sessionTransport => ofAscii "session-transport"
  | .transportReplace => ofAscii "transport-replace"
  | .transportAccept => ofAscii "transport-accept"

lemma ActionType.fromString_fromType (type : ActionType) : fromString type.fromType = some type := by
  cases type <;> decide

def fromStreamType : StreamType → QString
  | .audio => ofAscii "audio"
  | .video => ofAscii "video"

def IceType.toString : IceType → QString
  | .turn => ofAscii "turn"
  | .turns => ofAscii "turns"
  | .stun => ofAscii "stun"

abbrev QUuid := Vector UInt8 16

def QUuid.toText (uuid : QUuid) : QString :=
  let bytes := uuid.toList
  ofLatin1 (hex (bytes.take 4) ++ 0x2D :: (hex ((bytes.drop 4).take 2) ++ 0x2D :: (hex ((bytes.drop 6).take 2) ++
    0x2D :: (hex ((bytes.drop 8).take 2) ++ 0x2D :: hex (bytes.drop 10)))))

lemma QUuid.toText_ne_nil (uuid : QUuid) : QUuid.toText uuid ≠ [] := by
  simp [QUuid.toText, ofLatin1]

inductive IqType
  | error
  | get
  | set
  | result
  deriving DecidableEq

def IqType.toText : IqType → QString
  | .error => ofAscii "error"
  | .get => ofAscii "get"
  | .set => ofAscii "set"
  | .result => ofAscii "result"

structure QXmppIq where
  type : IqType := .get
  recipient : QString := []
  extensions : List XmlElement := []

namespace JingleAction

def inNamespace (tagName xmlns : QString) (attributes : List (QString × QString)) (children : List XmlElement) :
    XmlElement :=
  .mk tagName ((XmlElement.xmlns, xmlns) :: attributes) [] children

def setIq (recipient : QString) (jingle : XmlElement) : QXmppIq := ⟨.set, recipient, [jingle]⟩

def sdpElement (sdp : QString) : XmlElement := .mk (ofAscii "sdp") [] sdp []

def descriptionElement (sdp : QString) (media : StreamType) : XmlElement :=
  inNamespace (ofAscii "description") kJINGLE_APP [(ofAscii "media", fromStreamType media)] [sdpElement sdp]

def iceElement (ice : IceServer) : XmlElement :=
  .mk (ofAscii "ice") [(ofAscii "type", ice.type.toString), (ofAscii "port", ice.port),
    (ofAscii "username", ice.username), (ofAscii "credential", ice.credential)] [] []

/-- `jidBare` is the account's own bare JID and `uuid` a new identifier. -/
def sessionInitaite (jidBare : QString) (uuid : QUuid) (recipient sdp_offer : QString) (ice_servers : List IceServer)
    (media : StreamType) (a : JingleAction) : QXmppIq × JingleAction :=
  let a := { a with currentSid := QUuid.toText uuid }
  let transport := inNamespace (ofAscii "transport") kJINGLE_TRANSPORT_ICE [] (ice_servers.map iceElement)
  let content := .mk (ofAscii "content") [(ofAscii "creatore", ofAscii "initiator"), (ofAscii "name", ofAscii "video")]
    [] [descriptionElement sdp_offer media, transport]
  let jingle := inNamespace (ofAscii "jingle") kJINGLE_NAME
    [(ofAscii "action", ActionType.sessionInitiate.fromType), (ofAscii "initiator", jidBare),
      (ofAscii "sid", a.currentSid)] [content]
  (setIq recipient jingle, a)

def sessionAccept (jid recipient sdp : QString) (media : StreamType) (a : JingleAction) : QXmppIq :=
  let content := .mk (ofAscii "content") [(ofAscii "creator", a.contentCreator), (ofAscii "name", a.contentName)] []
    [descriptionElement sdp media]
  let jingle := inNamespace (ofAscii "jingle") kJINGLE_NAME
    [(ofAscii "action", ActionType.sessionAccept.fromType), (ofAscii "responder", jid),
      (ofAscii "sid", a.currentSid)] [content]
  setIq recipient jingle

def hasFoundation (field : QString) : Bool :=
  let foundation := if (ofAscii "a=").isPrefixOf field then field.drop 2 else field
  (ofAscii "candidate:").isPrefixOf foundation && decide (foundation.drop 10 ≠ [])

def candidateFields (parts : List QString) (candidate : QString) : List (QString × QString) :=
  [(ofAscii "protocol", parts.getD 2 []), (ofAscii "priority", parts.getD 3 []), (ofAscii "ip", parts.getD 4 []),
    (ofAscii "port", parts.getD 5 []), (ofAscii "type", parts.getD 7 []), (ofAscii "sdp", candidate)]

def exchangeIceCandidate (recipient candidate sdpMid : QString) (sdpMLineIndex : Int32) (a : JingleAction) : QXmppIq :=
  let parts := splitSkipEmpty (simplified candidate)
  if recipient = [] ∨ a.currentSid = [] ∨ parts.length < 8 ∨ parts.getD 6 [] ≠ ofAscii "typ" then {}
  else if !hasFoundation (parts.getD 0 []) then {}
  else
    let candidateElement := .mk (ofAscii "candidate") ((ofAscii "foundation", sdpMid) ::
      (ofAscii "component", number sdpMLineIndex.toInt) :: candidateFields parts candidate) [] []
    let transport := inNamespace (ofAscii "transport") kJINGLE_TRANSPORT [] [candidateElement]
    let jingle := inNamespace (ofAscii "jingle") kJINGLE_NAME
      [(ofAscii "action", ActionType.sessionTransport.fromType), (ofAscii "sid", a.currentSid)] [transport]
    setIq recipient jingle

end JingleAction

/-! ### Arriving -/

/-- The stanza as the peer has it. The server adds the sender and an identifier. -/
def QXmppIq.Arrives (iq : QXmppIq) (namespaces : Bool) (e : Element) : Prop :=
  e.tagName = ofAscii "iq" ∧ e.attributeOf (ofAscii "type") = iq.type.toText ∧
    XmlElement.ArriveIn namespaces (ofAscii "jabber:client") iq.extensions e.children

def EmitsAt (iq : QXmppIq) (peer : JingleAction) (signals : List ActionSignal) : Prop :=
  ∀ namespaces e, iq.Arrives namespaces e → (peer.parse e).2.1 = signals

def QXmppIq.document (iq : QXmppIq) : Element :=
  .mk (ofAscii "iq") [] [] [(ofAscii "type", iq.type.toText), (ofAscii "to", iq.recipient)]
    (XmlElement.documents iq.extensions) (XmlElement.textOf iq.extensions)

lemma QXmppIq.arrives_document (iq : QXmppIq) : iq.Arrives false iq.document :=
  ⟨rfl, rfl, XmlElement.arriveIn_documents _ _⟩

lemma EmitsAt.unique {iq : QXmppIq} {peer : JingleAction} {signals signals' : List ActionSignal}
    (h : EmitsAt iq peer signals) : EmitsAt iq peer signals' ↔ signals = signals' := by
  refine ⟨fun h' => ?_, fun he => he ▸ h⟩
  exact (h false _ iq.arrives_document).symm.trans (h' false _ iq.arrives_document)

namespace JingleAction

section

variable {namespaces : Bool} {ns : Text} {q : XmlElement} {e : Element} {tagName uri name : QString}
  {attributes named : List (QString × QString)} {children : List XmlElement}

lemma xmlns_eq : XmlElement.xmlns = ofAscii "xmlns" := rfl

lemma namespaceIn_inNamespace (h : uri ≠ []) : (inNamespace tagName uri attributes children).namespaceIn ns = uri := by
  have hx : (inNamespace tagName uri attributes children).attributeOf XmlElement.xmlns = uri := by
    simp [inNamespace, XmlElement.attributeOf]
  rw [XmlElement.namespaceIn, hx, if_neg h]

lemma nameMatches_inNamespace (h : XmlElement.Arrives namespaces ns (inNamespace tagName uri attributes children) e)
    (huri : uri ≠ []) (name uri' : QString) : nameMatches e name uri' = decide (tagName = name ∧ uri = uri') := by
  have hn := h.named
  have ht : e.tagName = tagName := h.tagName
  rw [namespaceIn_inNamespace huri] at hn
  have hx : (inNamespace tagName uri attributes children).attributeOf XmlElement.xmlns = uri := by
    simp [inNamespace, XmlElement.attributeOf]
  cases namespaces with
  | true =>
    obtain ⟨hl, hu, -⟩ := hn
    have hl' : (if e.localName = [] then e.tagName else e.localName) = tagName := by
      split_ifs
      · exact ht
      · exact hl
    simp only [nameMatches, hl', hu, if_neg huri]
  | false =>
    obtain ⟨hl, hu, ha, -⟩ := hn
    rw [hx] at ha
    simp only [nameMatches, hl, hu, if_true, ht, ← xmlns_eq, ha]

lemma attributeOf_inNamespace (h : XmlElement.Arrives namespaces ns (inNamespace tagName uri attributes children) e)
    (hname : name ≠ XmlElement.xmlns) : e.attributeOf name = (attributes.lookup name).getD [] := by
  rw [h.attributeOf hname, inNamespace, XmlElement.attributeOf, List.lookup_cons, beq_false_of_ne hname]

lemma jingleOf_setIq {recipient : QString}
    (h : (setIq recipient (inNamespace (ofAscii "jingle") kJINGLE_NAME attributes children)).Arrives namespaces e) :
    ∃ jingle, jingleOf e = some jingle ∧ XmlElement.Arrives namespaces (ofAscii "jabber:client")
      (inNamespace (ofAscii "jingle") kJINGLE_NAME attributes children) jingle := by
  obtain ⟨htag, htype, hext⟩ := h
  obtain ⟨jingle, hchildren, hj⟩ := XmlElement.arriveIn_single.mp hext
  refine ⟨jingle, ?_, hj⟩
  have hm : nameMatches jingle (ofAscii "jingle") kJINGLE_NAME = true := by
    rw [nameMatches_inNamespace hj (by decide)]
    decide
  have htype' : e.attributeOf (ofAscii "type") = ofAscii "set" := htype
  rw [jingleOf, if_pos (Or.inl htag), if_neg (by simp [htype']), hchildren]
  exact List.find?_cons_of_pos hm

lemma childText_description {sdp : QString} {media : StreamType}
    (h : XmlElement.Arrives namespaces ns (descriptionElement sdp media) e) : e.childText (ofAscii "sdp") = sdp := by
  have hc := h.childrenNamed (ofAscii "sdp")
  obtain ⟨s, hs, ha⟩ := XmlElement.arriveIn_single.mp (show XmlElement.ArriveIn _ _ [sdpElement sdp] _ from hc)
  rw [Element.childText, hs, List.head?_cons, Option.map_some, Option.getD_some, ha.text]
  simp [sdpElement, XmlElement.text, XmlElement.textOf]

lemma offered_sessionInitaite {sdp : QString} {media : StreamType} {ices : List XmlElement}
    (hsdp : trimmed sdp ≠ []) (hices : ∀ q ∈ ices, ∀ ns e, XmlElement.Arrives namespaces ns q e → iceServer e = none)
    (h : XmlElement.Arrives namespaces ns (inNamespace (ofAscii "jingle") kJINGLE_NAME attributes
      [.mk (ofAscii "content") named [] [descriptionElement sdp media,
        inNamespace (ofAscii "transport") kJINGLE_TRANSPORT_ICE [] ices]]) e) :
    ∃ content, offered e = some (content, sdp, []) := by
  obtain ⟨content, hcontent, hc⟩ := XmlElement.arriveIn_single.mp
    (show XmlElement.ArriveIn _ _ [.mk (ofAscii "content") named [] _] _ from h.childrenNamed (ofAscii "content"))
  obtain ⟨description, es, hes, hd, htail⟩ := XmlElement.arriveIn_cons.mp hc.children
  obtain ⟨transport, rfl, ht⟩ := XmlElement.arriveIn_single.mp htail
  have hservers : (transport.childrenNamed (ofAscii "ice")).filterMap iceServer = [] :=
    (ht.childrenNamed _).filterMap_nil fun q hq d => hices q (List.mem_of_mem_filter hq) _ d
  have hoffer : contentOffer content = (sdp, []) := by
    have hfirst : nameMatches description (ofAscii "description") kJINGLE_APP = true :=
      (nameMatches_inNamespace hd (by decide) _ _).trans (by decide)
    have hother : nameMatches transport (ofAscii "description") kJINGLE_APP = false :=
      (nameMatches_inNamespace ht (by decide) _ _).trans (by decide)
    have hsecond : nameMatches transport (ofAscii "transport") kJINGLE_TRANSPORT_ICE = true :=
      (nameMatches_inNamespace ht (by decide) _ _).trans (by decide)
    simp only [contentOffer, hes, List.foldl_cons, List.foldl_nil, hfirst, hother, hsecond, if_true,
      Bool.false_eq_true, if_false, childText_description hd, hservers, List.append_nil]
  refine ⟨content, ?_⟩
  rw [offered, hcontent, List.map_cons, List.find?_cons_of_pos (by simpa [hoffer] using hsdp), hoffer]

lemma iceServer_iceElement {ice : IceServer} (h : XmlElement.Arrives namespaces ns (iceElement ice) e) :
    iceServer e = none := by
  have hhost : e.attributeOf (ofAscii "host") = [] := h.attributeOf (by decide)
  simp only [iceServer, hhost, if_true, ite_self]

lemma answered_sessionAccept {sdp : QString} {media : StreamType} (hsdp : trimmed sdp ≠ [])
    (h : XmlElement.Arrives namespaces ns (inNamespace (ofAscii "jingle") kJINGLE_NAME attributes
      [.mk (ofAscii "content") named [] [descriptionElement sdp media]]) e) : answered e = some sdp := by
  obtain ⟨content, hcontent, hc⟩ := XmlElement.arriveIn_single.mp
    (show XmlElement.ArriveIn _ _ [.mk (ofAscii "content") named [] _] _ from h.children)
  obtain ⟨description, hes, hd⟩ := XmlElement.arriveIn_single.mp (show XmlElement.ArriveIn _ _
    [descriptionElement sdp media] _ from hc.childrenNamed (ofAscii "description"))
  rw [answered, hcontent, List.dropWhile_cons_of_neg (by simp [hc.tagName, XmlElement.tagName]), List.map_cons, hes,
    List.head?_cons, Option.map_some, Option.getD_some, childText_description hd,
    List.find?_cons_of_pos (by simpa using hsdp)]

lemma candidate_inherits {attributes : List (QString × QString)}
    (h : XmlElement.Arrives namespaces kJINGLE_TRANSPORT (.mk (ofAscii "candidate") attributes [] []) e)
    (hx : attributes.lookup XmlElement.xmlns = none) :
    (if e.localName = [] then e.tagName else e.localName) = ofAscii "candidate" ∧
      ¬((e.namespaceURI ≠ [] ∨ e.hasAttribute (ofAscii "xmlns")) ∧
        !nameMatches e (ofAscii "candidate") kJINGLE_TRANSPORT) := by
  have ht : e.tagName = ofAscii "candidate" := h.tagName
  have hno : (XmlElement.mk (ofAscii "candidate") attributes [] []).attributeOf XmlElement.xmlns = [] := by
    rw [XmlElement.attributeOf, hx]
    rfl
  have hn := h.named
  rw [XmlElement.namespaceIn, if_pos hno] at hn
  cases namespaces with
  | true =>
    obtain ⟨hl, hu, -⟩ := hn
    have hl' : e.localName = ofAscii "candidate" := hl
    have hm : nameMatches e (ofAscii "candidate") kJINGLE_TRANSPORT = true := by
      rw [nameMatches, hl', hu, if_neg (by decide), if_neg (by decide)]
      decide
    rw [hl', hm]
    exact ⟨if_neg (by decide), by simp⟩
  | false =>
    obtain ⟨hl, hu, -, hhas⟩ := hn
    have hnone : e.hasAttribute (ofAscii "xmlns") = false := by
      rw [← xmlns_eq, hhas, XmlElement.hasAttribute, hx]
      rfl
    rw [hl, if_pos rfl, hu, hnone]
    exact ⟨ht, by simp⟩

lemma candidate_exchange {cand sdpMid : QString} {sdpMLineIndex : Int32} {fields : List (QString × QString)}
    (hcand : trimmed cand ≠ []) (hsdp : fields.lookup (ofAscii "sdp") = some cand)
    (hx : fields.lookup XmlElement.xmlns = none)
    (h : XmlElement.Arrives namespaces kJINGLE_TRANSPORT (.mk (ofAscii "candidate")
      ((ofAscii "foundation", sdpMid) :: (ofAscii "component", number sdpMLineIndex.toInt) :: fields) [] []) e) :
    candidate e = if sdpMid ≠ [] ∧ 0 ≤ sdpMLineIndex.toInt
      then some (.exchangeIceCandidateReceived cand sdpMid sdpMLineIndex.toInt) else none := by
  obtain ⟨hname, hns⟩ := candidate_inherits h
    (by rw [List.lookup_cons, List.lookup_cons, beq_false_of_ne (by decide), beq_false_of_ne (by decide), hx])
  have hfoundation : e.attributeOf (ofAscii "foundation") = sdpMid := by
    rw [h.attributeOf (by decide), XmlElement.attributeOf, List.lookup_cons, beq_self_eq_true]
    rfl
  have hcomponent : e.attributeOf (ofAscii "component") = number sdpMLineIndex.toInt := by
    rw [h.attributeOf (by decide), XmlElement.attributeOf, List.lookup_cons, beq_false_of_ne (by decide),
      List.lookup_cons, beq_self_eq_true]
    rfl
  have htext : e.attributeOf (ofAscii "sdp") = cand := by
    rw [h.attributeOf (by decide), XmlElement.attributeOf, List.lookup_cons, beq_false_of_ne (by decide),
      List.lookup_cons, beq_false_of_ne (by decide), hsdp]
    rfl
  simp only [candidate, hname, ne_eq, not_true_eq_false, if_false, hfoundation, hcomponent, htext, hcand, false_or,
    number_ne_nil, or_false, toInt_number]
  rw [if_neg hns]
  by_cases hmid : sdpMid = []
  · simp [hmid]
  · by_cases hindex : sdpMLineIndex.toInt < 0
    · rw [if_neg hmid, if_pos hindex, if_neg (by omega)]
    · rw [if_neg hmid, if_neg hindex, if_pos ⟨hmid, by omega⟩]

end

/-! ### What the peer emits -/

variable {a peer : JingleAction} {jid recipient sdp : QString} {uuid : QUuid} {servers : List IceServer}
  {media : StreamType} {candidate sdpMid : QString} {sdpMLineIndex : Int32}

lemma sessionInitaite_emits (hsdp : trimmed sdp ≠ []) :
    EmitsAt (sessionInitaite jid uuid recipient sdp servers media a).1 peer
      [.remoteSdpOfferReceived sdp [] (QUuid.toText uuid)] := by
  intro namespaces e h
  obtain ⟨jingle, hj, harr⟩ := jingleOf_setIq h
  have haction : jingle.attributeOf (ofAscii "action") = ActionType.sessionInitiate.fromType :=
    attributeOf_inNamespace harr (by decide)
  have hsid : jingle.attributeOf (ofAscii "sid") = QUuid.toText uuid := attributeOf_inNamespace harr (by decide)
  obtain ⟨content, hoffer⟩ := offered_sessionInitaite hsdp (fun q hq ns e he => by
    obtain ⟨ice, -, rfl⟩ := List.mem_map.mp hq
    exact iceServer_iceElement he) harr
  simp only [parse, hj, haction, ActionType.fromString_fromType, hsid, QUuid.toText_ne_nil, if_false, hoffer]

lemma sessionAccept_emits (hsdp : trimmed sdp ≠ []) (hpeer : a.currentSid = peer.currentSid) :
    EmitsAt (sessionAccept jid recipient sdp media a) peer
      (if a.currentSid = [] then [] else [.remoteSdpAnswerReceived sdp a.currentSid]) := by
  intro namespaces e h
  obtain ⟨jingle, hj, harr⟩ := jingleOf_setIq h
  have haction : jingle.attributeOf (ofAscii "action") = ActionType.sessionAccept.fromType :=
    attributeOf_inNamespace harr (by decide)
  have hsid : jingle.attributeOf (ofAscii "sid") = a.currentSid := attributeOf_inNamespace harr (by decide)
  simp only [parse, hj, haction, ActionType.fromString_fromType, hsid, answered_sessionAccept hsdp harr]
  split_ifs with hnil hne
  · rfl
  · exact absurd hpeer hne
  · rfl

lemma exchangeIceCandidate_extensions
    (h : (exchangeIceCandidate recipient candidate sdpMid sdpMLineIndex a).extensions ≠ []) :
    a.currentSid ≠ [] ∧ trimmed candidate ≠ [] ∧
      ∃ fields, fields.lookup (ofAscii "sdp") = some candidate ∧ fields.lookup XmlElement.xmlns = none ∧
        exchangeIceCandidate recipient candidate sdpMid sdpMLineIndex a =
          setIq recipient (inNamespace (ofAscii "jingle") kJINGLE_NAME
            [(ofAscii "action", ActionType.sessionTransport.fromType), (ofAscii "sid", a.currentSid)]
            [inNamespace (ofAscii "transport") kJINGLE_TRANSPORT [] [.mk (ofAscii "candidate")
              ((ofAscii "foundation", sdpMid) :: (ofAscii "component", number sdpMLineIndex.toInt) :: fields) [] []]]) := by
  by_cases hbad : recipient = [] ∨ a.currentSid = [] ∨ (splitSkipEmpty (simplified candidate)).length < 8 ∨
      (splitSkipEmpty (simplified candidate)).getD 6 [] ≠ ofAscii "typ"
  · rw [exchangeIceCandidate, if_pos hbad] at h
    exact absurd rfl h
  · by_cases hfound : hasFoundation ((splitSkipEmpty (simplified candidate)).getD 0 []) = true
    · have hlen : splitSkipEmpty (simplified candidate) ≠ [] := by
        intro hnil
        exact hbad (Or.inr (Or.inr (Or.inl (by rw [hnil]; decide))))
      refine ⟨fun hsid => hbad (Or.inr (Or.inl hsid)), trimmed_ne_nil_of_fields hlen,
        candidateFields (splitSkipEmpty (simplified candidate)) candidate, rfl, rfl, ?_⟩
      rw [exchangeIceCandidate, if_neg hbad, if_neg (by rw [hfound]; decide)]
    · rw [exchangeIceCandidate, if_neg hbad, if_pos (by simpa using hfound)] at h
      exact absurd rfl h

lemma exchangeIceCandidate_emits (hpeer : a.currentSid = peer.currentSid)
    (hext : (exchangeIceCandidate recipient candidate sdpMid sdpMLineIndex a).extensions ≠ []) :
    EmitsAt (exchangeIceCandidate recipient candidate sdpMid sdpMLineIndex a) peer
      (if sdpMid ≠ [] ∧ 0 ≤ sdpMLineIndex.toInt
        then [.exchangeIceCandidateReceived candidate sdpMid sdpMLineIndex.toInt] else []) := by
  obtain ⟨hsession, hcand, fields, hsdp, hx, heq⟩ := exchangeIceCandidate_extensions hext
  intro namespaces e h
  rw [heq] at h
  obtain ⟨jingle, hj, harr⟩ := jingleOf_setIq h
  have haction : jingle.attributeOf (ofAscii "action") = ActionType.sessionTransport.fromType :=
    attributeOf_inNamespace harr (by decide)
  have hsid : jingle.attributeOf (ofAscii "sid") = a.currentSid := attributeOf_inNamespace harr (by decide)
  obtain ⟨transport, htransport, ht⟩ := XmlElement.arriveIn_single.mp harr.children
  obtain ⟨element, helement, hc⟩ := XmlElement.arriveIn_single.mp ht.children
  rw [namespaceIn_inNamespace (by decide)] at hc
  have hmatch : nameMatches transport (ofAscii "transport") kJINGLE_TRANSPORT = true :=
    (nameMatches_inNamespace ht (by decide) _ _).trans (by decide)
  have hcands : candidates jingle = (JingleAction.candidate element).toList := by
    simp only [candidates, htransport, List.filter_cons, hmatch, if_true, List.filter_nil, List.flatMap_cons,
      List.flatMap_nil, List.append_nil, helement]
    cases hcase : JingleAction.candidate element <;> simp [hcase]
  rw [candidate_exchange hcand hsdp hx hc] at hcands
  rw [hpeer] at hsid hsession
  simp only [parse, hj, haction, ActionType.fromString_fromType, hsid, hsession, if_false, ne_eq,
    not_true_eq_false, hcands]
  split_ifs <;> rfl

/-! ### Agreement -/

/-- Every peer hears of the offer, the servers and the session. -/
def OfferAgrees (jid : QString) (uuid : QUuid) (recipient sdp : QString) (servers : List IceServer) (media : StreamType)
    (a : JingleAction) : Prop :=
  let built := sessionInitaite jid uuid recipient sdp servers media a
  ∀ peer, EmitsAt built.1 peer [.remoteSdpOfferReceived sdp servers built.2.currentSid]

/-- Every peer in the same session hears of the answer. -/
def AnswerAgrees (jid recipient sdp : QString) (media : StreamType) (a : JingleAction) : Prop :=
  ∀ peer : JingleAction, a.currentSid = peer.currentSid →
    EmitsAt (sessionAccept jid recipient sdp media a) peer [.remoteSdpAnswerReceived sdp a.currentSid]

/-- Every peer in the same session hears of the candidate, once. -/
def CandidateAgrees (recipient candidate sdpMid : QString) (sdpMLineIndex : Int32) (a : JingleAction) : Prop :=
  ∀ peer : JingleAction, a.currentSid = peer.currentSid →
    EmitsAt (exchangeIceCandidate recipient candidate sdpMid sdpMLineIndex a) peer
      [.exchangeIceCandidateReceived candidate sdpMid sdpMLineIndex.toInt]

lemma offerAgrees_iff (hsdp : trimmed sdp ≠ []) :
    OfferAgrees jid uuid recipient sdp servers media a ↔ servers = [] := by
  have h : ∀ peer : JingleAction, EmitsAt (sessionInitaite jid uuid recipient sdp servers media a).1 peer
      [.remoteSdpOfferReceived sdp servers (QUuid.toText uuid)] ↔ servers = [] := fun peer => by
    rw [(sessionInitaite_emits hsdp).unique]
    simp [eq_comm]
  exact ⟨fun ha => (h {}).mp (ha {}), fun hs peer => (h peer).mpr hs⟩

lemma answerAgrees_iff (hsdp : trimmed sdp ≠ []) :
    AnswerAgrees jid recipient sdp media a ↔ a.currentSid ≠ [] := by
  have h : ∀ peer : JingleAction, a.currentSid = peer.currentSid → (EmitsAt (sessionAccept jid recipient sdp media a) peer
      [.remoteSdpAnswerReceived sdp a.currentSid] ↔ a.currentSid ≠ []) := fun peer hpeer => by
    rw [(sessionAccept_emits hsdp hpeer).unique]
    split_ifs with hnil <;> simp [hnil]
  exact ⟨fun ha => (h a rfl).mp (ha a rfl), fun hs peer hpeer => (h peer hpeer).mpr hs⟩

lemma candidateAgrees_iff
    (hext : (exchangeIceCandidate recipient candidate sdpMid sdpMLineIndex a).extensions ≠ []) :
    CandidateAgrees recipient candidate sdpMid sdpMLineIndex a ↔ sdpMid ≠ [] ∧ 0 ≤ sdpMLineIndex.toInt := by
  have h : ∀ peer : JingleAction, a.currentSid = peer.currentSid →
      (EmitsAt (exchangeIceCandidate recipient candidate sdpMid sdpMLineIndex a) peer
        [.exchangeIceCandidateReceived candidate sdpMid sdpMLineIndex.toInt] ↔
        sdpMid ≠ [] ∧ 0 ≤ sdpMLineIndex.toInt) := fun peer hpeer => by
    rw [(exchangeIceCandidate_emits hpeer hext).unique]
    split_ifs with hvalid <;> simp [hvalid]
  exact ⟨fun ha => (h a rfl).mp (ha a rfl), fun hs peer hpeer => (h peer hpeer).mpr hs⟩

/-- An offer agrees without servers only, an answer in a session, a candidate with a media section that has a
name and a number. -/
theorem iqs_agree_iff (jid recipient sdp candidate sdpMid : QString) (uuid : QUuid) (servers : List IceServer)
    (media : StreamType) (sdpMLineIndex : Int32) (a : JingleAction) :
    (trimmed sdp ≠ [] →
      (OfferAgrees jid uuid recipient sdp servers media a ↔ servers = []) ∧
        (AnswerAgrees jid recipient sdp media a ↔ a.currentSid ≠ [])) ∧
      ((exchangeIceCandidate recipient candidate sdpMid sdpMLineIndex a).extensions ≠ [] →
        (CandidateAgrees recipient candidate sdpMid sdpMLineIndex a ↔ sdpMid ≠ [] ∧ 0 ≤ sdpMLineIndex.toInt)) :=
  ⟨fun hsdp => ⟨offerAgrees_iff hsdp, answerAgrees_iff hsdp⟩, candidateAgrees_iff⟩

def sampleSession : JingleAction := { currentSid := ofAscii "s1" }

def sampleCandidate : QString := ofAscii "candidate:1 1 udp 2122260223 192.0.2.1 54321 typ host"

theorem iqs_agree_iff_sample :
    (OfferAgrees [] (Vector.replicate 16 0) (ofAscii "b@x") (ofAscii "v=0") [] .video sampleSession ∧
      AnswerAgrees [] (ofAscii "b@x") (ofAscii "v=0") .video sampleSession) ∧
      CandidateAgrees (ofAscii "b@x") sampleCandidate (ofAscii "0") 0 sampleSession := by
  have h := iqs_agree_iff [] (ofAscii "b@x") (ofAscii "v=0") sampleCandidate (ofAscii "0") (Vector.replicate 16 0) []
    .video 0 sampleSession
  have hsdp : trimmed (ofAscii "v=0") ≠ [] := by decide
  have hext : (exchangeIceCandidate (ofAscii "b@x") sampleCandidate (ofAscii "0") 0 sampleSession).extensions ≠ [] := by
    have hkeep : ¬(ofAscii "b@x" = [] ∨ sampleSession.currentSid = [] ∨
        (splitSkipEmpty (simplified sampleCandidate)).length < 8 ∨
        (splitSkipEmpty (simplified sampleCandidate)).getD 6 [] ≠ ofAscii "typ") := by decide
    have hfound : hasFoundation ((splitSkipEmpty (simplified sampleCandidate)).getD 0 []) = true := by decide
    rw [exchangeIceCandidate, if_neg hkeep, if_neg (by rw [hfound]; decide)]
    exact List.cons_ne_nil _ _
  exact ⟨⟨(h.1 hsdp).1.mpr rfl, (h.1 hsdp).2.mpr (by decide)⟩, (h.2 hext).mpr (by decide)⟩

/-- A server that has a host does not arrive. -/
theorem server_lost :
    ¬OfferAgrees [] (Vector.replicate 16 0) (ofAscii "b@x") (ofAscii "v=0")
      [⟨.turn, ofAscii "turn.x", ofAscii "3478", ofAscii "u", ofAscii "p"⟩] .video {} := by
  rw [offerAgrees_iff (by decide)]
  decide

end JingleAction

end ChatDesktop.Voip
