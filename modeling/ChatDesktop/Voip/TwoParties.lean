import ChatDesktop.Library.TwoParties
import ChatDesktop.Voip.CallTokens
import ChatDesktop.Voip.MessageEncoders

namespace ChatDesktop.Voip

open Library Library.Text Library.TwoParties JingleService
open JingleAction (inNamespace attributeOf_inNamespace)

/-! ### What is sent -/

def QXmppIq.delivered (iq : QXmppIq) (sender : QString) : Element :=
  .mk (ofAscii "iq") (ofAscii "iq") (ofAscii "jabber:client")
    [(ofAscii "from", sender), (ofAscii "to", iq.recipient), (ofAscii "type", iq.type.toText)]
    (XmlElement.namespacedIn (ofAscii "jabber:client") iq.extensions) (XmlElement.textOf iq.extensions)

namespace JingleAction

def initiateIq (jidBare sid recipient sdp_offer : QString) (ice_servers : List IceServer) (media : StreamType) :
    QXmppIq :=
  let transport := inNamespace (ofAscii "transport") kJINGLE_TRANSPORT_ICE [] (ice_servers.map iceElement)
  let content := .mk (ofAscii "content") [(ofAscii "creatore", ofAscii "initiator"), (ofAscii "name", ofAscii "video")]
    [] [descriptionElement sdp_offer media, transport]
  setIq recipient (inNamespace (ofAscii "jingle") kJINGLE_NAME
    [(ofAscii "action", ActionType.sessionInitiate.fromType), (ofAscii "initiator", jidBare), (ofAscii "sid", sid)]
    [content])

def sessionTerminate (recipient : QString) (a : JingleAction) : QXmppIq :=
  setIq recipient (inNamespace (ofAscii "jingle") kJINGLE_NAME
    [(ofAscii "sid", a.currentSid), (ofAscii "action", ActionType.sessionTerminate.fromType)]
    [.mk (ofAscii "reason") [] [] [.mk (ofAscii "success") [] [] [], .mk (ofAscii "text") [] (ofAscii "Stuck!") []]])

end JingleAction

def mediaOf (sdp : QString) : StreamType :=
  if sdp.tails.any (fun rest => (ofAscii "\nm=video ").isPrefixOf rest) then .video else .audio

/-- The stanza of an effect, `s` being the service after it. -/
def transmit (jid : QString) (s : JingleService) : Effect → Option Element
  | .sendMessage type recipient mid streams => some ((JingleMessage.encode recipient streams mid type).document jid)
  | .sendSessionInitiate recipient sid sdp iceServers =>
    some ((JingleAction.initiateIq s.jidBare sid recipient sdp iceServers (mediaOf sdp)).delivered jid)
  | .sendSessionAccept recipient _ sdp =>
    some ((JingleAction.sessionAccept jid recipient sdp (mediaOf sdp) s.action).delivered jid)
  | .sendSessionTerminate recipient _ => some ((JingleAction.sessionTerminate recipient s.action).delivered jid)
  | .sendReply recipient _ => some (QXmppIq.delivered { type := .result, recipient := recipient } jid)
  | _ => none

/-- What a party does by itself: an event other than a stanza, or a local candidate. -/
inductive LocalEvent
  | event (e : Event)
  | localIceCandidate (candidate sdpMid : QString) (sdpMLineIndex : Int32)

def iceCandidate (candidate sdpMid : QString) (sdpMLineIndex : Int32) (s : JingleService) : Option QXmppIq :=
  if !s.connected || s.jingle.sessionSender.isEmpty then none
  else
    let iq := JingleAction.exchangeIceCandidate s.jingle.sessionSender candidate sdpMid sdpMLineIndex s.action
    if iq.extensions.isEmpty then none else some iq

/-- The platform of each party, its full JID, its server and its account. -/
structure Parties where
  platform : Bool → Platform
  jid : Bool → QString
  domain : Bool → QString
  jidBare : Bool → QString

def Parties.send (x : Parties) (side : Bool) (s : JingleService) : JingleService × List Element :=
  (s, s.log.filterMap (transmit (x.jid side) s))

def Parties.act (x : Parties) (side : Bool) (s : JingleService) : LocalEvent → JingleService × List Element
  | .event e => if e.received.isSome then (s, []) else x.send side (step (x.platform side) s e)
  | .localIceCandidate candidate sdpMid sdpMLineIndex =>
    (s, ((iceCandidate candidate sdpMid sdpMLineIndex s).map (fun iq => iq.delivered (x.jid side))).toList)

def Parties.protocol (x : Parties) : Protocol JingleService LocalEvent Bool Element where
  act := x.act
  receive side s stanza created := x.send side (step (x.platform side) s (.stanza stanza created))

abbrev Call := Network JingleService LocalEvent Element

def Parties.run (x : Parties) (as : List (Action LocalEvent Bool)) : Call :=
  x.protocol.run (fun side => .create (x.domain side) (x.jidBare side)) as

/-! ### The kinds of stanzas -/

section

variable {type : JingleMessageType} {jid recipient sdp sid mid : QString} {streams : List StreamType}

lemma parsePayload_type {sender : QString} {payload : Element} {m : JingleMessage}
    (h : JingleMessage.parsePayload sender payload = some m) :
    fromJingleMessageTypeString payload.tagName = some m.type := by
  unfold JingleMessage.parsePayload at h
  split_ifs at h with hns
  dsimp only at h
  cases ht : fromJingleMessageTypeString payload.tagName with
  | none =>
    rw [ht] at h
    cases h
  | some type =>
    rw [ht] at h
    dsimp only at h
    split_ifs at h
    · obtain rfl := Option.some.inj h
      rfl
    · obtain rfl := Option.some.inj h
      rfl

lemma parse_type {e : Element} {m : JingleMessage} (htag : e.tagName = ofAscii "message")
    (h : JingleMessage.parse e = some m) :
    ∃ child ∈ e.children, child.namespaceURI = kJINGLE_MESSAGE ∧
      fromJingleMessageTypeString child.tagName = some m.type := by
  rw [JingleMessage.parse, if_pos htag] at h
  dsimp only at h
  split_ifs at h
  obtain ⟨child, hfind, hpayload⟩ := Option.bind_eq_some_iff.mp h
  have hns := List.find?_some hfind
  exact ⟨child, List.mem_of_find?_eq_some hfind, by simpa using hns, parsePayload_type hpayload⟩

lemma encode_payload : ∃ children, (JingleMessage.encode recipient streams mid type).extensions =
    [JingleMessage.payload type mid children] := by
  cases type <;> exact ⟨_, rfl⟩

lemma parse_document_type {m : JingleMessage}
    (h : JingleMessage.parse ((JingleMessage.encode recipient streams mid type).document jid) = some m) :
    m.type = type := by
  have harrives := (JingleMessage.encode recipient streams mid type).arrives_document jid
  obtain ⟨child, hmem, hns, htype⟩ := parse_type harrives.tagName h
  obtain ⟨before, extensions, after, hchildren, hin, hother, -⟩ := harrives.children
  obtain ⟨children, hext⟩ := @encode_payload type recipient mid streams
  rw [if_pos rfl, hext] at hin
  obtain ⟨p, rfl, hp⟩ := XmlElement.arriveIn_single.mp hin
  have hchild : child = p := by
    rw [hchildren] at hmem
    by_contra hne
    refine hother child ?_ hns
    simp only [List.mem_append, List.mem_singleton] at hmem ⊢
    tauto
  rw [hchild, (JingleMessage.payload_arrives hp).1, JingleMessage.fromJingleMessageTypeString_type] at htype
  exact (Option.some.inj htype).symm

lemma actionOf_document (m : QXmppMessage) : actionOf (m.document jid) = none := by
  have hother : ¬((m.document jid).tagName = ofAscii "iq" ∨ (m.document jid).localName = ofAscii "iq") := by
    change ¬(ofAscii "message" = ofAscii "iq" ∨ ofAscii "message" = ofAscii "iq")
    decide
  have hname : JingleAction.nameMatches (m.document jid) (ofAscii "jingle") kJINGLE_NAME = false := by
    have hne : ¬(ofAscii "message" = ofAscii "jingle" ∧ ofAscii "jabber:client" = kJINGLE_NAME) := by decide
    exact decide_eq_false hne
  have hnone : JingleAction.jingleOf (m.document jid) = none := by
    unfold JingleAction.jingleOf
    rw [if_neg hother, hname]
    rfl
  rw [actionOf, hnone]
  rfl

lemma arrives_delivered (iq : QXmppIq) (sender : QString) : iq.Arrives true (iq.delivered sender) := by
  refine ⟨rfl, ?_, XmlElement.arriveIn_namespaced _ _⟩
  have hne : ofAscii "type" ≠ ofAscii "from" ∧ ofAscii "type" ≠ ofAscii "to" := by decide
  rw [QXmppIq.delivered, Element.attributeOf, List.lookup_cons, beq_false_of_ne hne.1, List.lookup_cons,
    beq_false_of_ne hne.2, List.lookup_cons, beq_self_eq_true]
  rfl

lemma actionOf_setIq {attributes : List (QString × QString)} {children : List XmlElement} {type : ActionType}
    (h : attributes.lookup (ofAscii "action") = some type.fromType) :
    actionOf ((JingleAction.setIq recipient
      (inNamespace (ofAscii "jingle") kJINGLE_NAME attributes children)).delivered jid) = some type := by
  obtain ⟨jingle, hj, harrives⟩ := JingleAction.jingleOf_setIq (arrives_delivered _ jid)
  have haction : jingle.attributeOf (ofAscii "action") = type.fromType := by
    rw [attributeOf_inNamespace harrives (by decide), h]
    rfl
  rw [actionOf, hj, Option.bind_some, haction, ActionType.fromString_fromType]

lemma acceptOf_delivered (iq : QXmppIq) : acceptOf (iq.delivered jid) = none := by
  have hne : ofAscii "iq" ≠ ofAscii "message" := by decide
  exact if_neg (fun h => hne h.1)

lemma actionOf_reply : actionOf (QXmppIq.delivered { type := .result, recipient := recipient } jid) = none := by
  have hiq := arrives_delivered { type := .result, recipient := recipient } jid
  have htype : (QXmppIq.delivered { type := .result, recipient := recipient } jid).attributeOf (ofAscii "type") ≠
      ofAscii "set" := by
    rw [hiq.2.1]
    change IqType.toText .result ≠ ofAscii "set"
    decide
  rw [actionOf, JingleAction.jingleOf, if_pos (Or.inl hiq.1), if_pos htype]
  rfl

end

def Effect.action : Effect → Option ActionType
  | .sendSessionInitiate .. => some .sessionInitiate
  | .sendSessionAccept .. => some .sessionAccept
  | .sendSessionTerminate .. => some .sessionTerminate
  | _ => none

section

variable {jid : QString} {s : JingleService} {e : Effect} {stanza : Element}

lemma transmit_action (h : transmit jid s e = some stanza) : actionOf stanza = e.action := by
  cases e with
  | sendMessage type recipient mid streams =>
    obtain rfl := Option.some.inj h
    exact actionOf_document _
  | sendSessionInitiate recipient sid sdp iceServers =>
    obtain rfl := Option.some.inj h
    exact actionOf_setIq rfl
  | sendSessionAccept recipient sid sdp =>
    obtain rfl := Option.some.inj h
    exact actionOf_setIq rfl
  | sendSessionTerminate recipient sid =>
    obtain rfl := Option.some.inj h
    exact actionOf_setIq rfl
  | sendReply recipient id =>
    obtain rfl := Option.some.inj h
    exact actionOf_reply
  | _ => cases h

lemma transmit_accept (h : transmit jid s e = some stanza) (ha : isAcceptStanza stanza = true) :
    e.isAcceptMessage = true := by
  obtain ⟨m, hm⟩ := Option.isSome_iff_exists.mp ha
  have haccept := (acceptOf_eq_some (P := samplePlatform) hm).1
  have hmessage := hm
  unfold acceptOf at hm
  split_ifs at hm
  obtain ⟨hparse, -⟩ := Option.filter_eq_some_iff.mp hm
  cases e with
  | sendMessage type recipient mid streams =>
    obtain rfl := Option.some.inj h
    rw [← parse_document_type hparse, haccept]
    rfl
  | sendSessionInitiate recipient sid sdp iceServers =>
    obtain rfl := Option.some.inj h
    rw [acceptOf_delivered] at hmessage
    cases hmessage
  | sendSessionAccept recipient sid sdp =>
    obtain rfl := Option.some.inj h
    rw [acceptOf_delivered] at hmessage
    cases hmessage
  | sendSessionTerminate recipient sid =>
    obtain rfl := Option.some.inj h
    rw [acceptOf_delivered] at hmessage
    cases hmessage
  | sendReply recipient id =>
    obtain rfl := Option.some.inj h
    rw [acceptOf_delivered] at hmessage
    cases hmessage
  | _ => cases h

lemma transmit_initiate (h : transmit jid s e = some stanza) (ha : isInitiateStanza stanza = true) :
    e.isInitiate = true := by
  rw [isInitiateStanza, transmit_action h, decide_eq_true_eq] at ha
  cases e with
  | sendSessionInitiate recipient sid sdp iceServers => rfl
  | _ => cases ha

lemma transmit_answer (h : transmit jid s e = some stanza) (ha : isAnswerStanza stanza = true) : e.accepts = true := by
  rw [isAnswerStanza, transmit_action h, decide_eq_true_eq] at ha
  cases e with
  | sendSessionAccept recipient sid sdp => rfl
  | _ => cases ha

end

lemma iceCandidate_kind {jid candidate sdpMid : QString} {sdpMLineIndex : Int32} {s : JingleService} {iq : QXmppIq}
    (h : iceCandidate candidate sdpMid sdpMLineIndex s = some iq) :
    actionOf (iq.delivered jid) = some .sessionTransport := by
  unfold iceCandidate at h
  split_ifs at h with hc
  dsimp only at h
  split_ifs at h with he
  obtain rfl := Option.some.inj h
  unfold JingleAction.exchangeIceCandidate at he ⊢
  dsimp only at he ⊢
  split_ifs at he ⊢
  · exact absurd rfl he
  · exact absurd rfl he
  · exact actionOf_setIq rfl

lemma countP_filterMap_le {α β : Type} {f : α → Option β} {q : α → Bool} {r : β → Bool}
    (h : ∀ a b, f a = some b → r b = true → q a = true) (l : List α) : (l.filterMap f).countP r ≤ l.countP q := by
  induction l with
  | nil => exact Nat.le_refl 0
  | cons a l ih =>
    rw [List.countP_cons]
    cases hf : f a with
    | none =>
      rw [List.filterMap_cons_none hf]
      omega
    | some b =>
      rw [List.filterMap_cons_some hf, List.countP_cons]
      have himp := h a b hf
      by_cases hr : r b = true
      · rw [if_pos hr, if_pos (himp hr)]
        omega
      · rw [if_neg hr]
        omega

/-! ### Who accepted -/

def LocalEvent.isAcceptCall : LocalEvent → Bool
  | .event e => e.isAcceptCall
  | .localIceCandidate .. => false

section

variable (x : Parties) (side : Bool)

lemma send_kinds (s : JingleService) :
    (x.send side s).2.countP isAcceptStanza ≤ s.log.countP Effect.isAcceptMessage ∧
    (x.send side s).2.countP isInitiateStanza ≤ s.log.countP Effect.isInitiate ∧
    (x.send side s).2.countP isAnswerStanza ≤ s.log.countP Effect.accepts :=
  ⟨countP_filterMap_le (fun _ _ => transmit_accept) _, countP_filterMap_le (fun _ _ => transmit_initiate) _,
    countP_filterMap_le (fun _ _ => transmit_answer) _⟩

lemma flow_of_spends {stored : JingleService → ℕ} {gains : LocalEvent → Bool} {enters leaves : Element → Bool}
    (hevent : ∀ P s e, stored (step P s e) + (x.send side (step P s e)).2.countP leaves ≤
      stored s + (if e.received.any enters then 1 else 0) + if gains (.event e) then 1 else 0)
    (hstanza : ∀ stanza created, gains (.event (.stanza stanza created)) = false)
    (hcandidate : ∀ stanza, actionOf stanza = some .sessionTransport → acceptOf stanza = none →
      leaves stanza = false) :
    Flow x.protocol side stored gains enters leaves := by
  refine ⟨fun s a => ?_, fun s stanza created => ?_⟩
  · cases a with
    | event e =>
      change stored (x.act side s (.event e)).1 + (x.act side s (.event e)).2.countP leaves ≤ _
      unfold Parties.act
      dsimp only
      by_cases hr : e.received.isSome
      · rw [if_pos hr]
        exact Nat.le_add_right _ _
      · have h := hevent (x.platform side) s e
        rw [Option.not_isSome_iff_eq_none.mp hr] at h
        rw [if_neg hr]
        exact h
    | localIceCandidate candidate sdpMid sdpMLineIndex =>
      refine Nat.le_trans (Nat.le_of_eq ?_) (Nat.le_add_right _ _)
      change stored s + _ = stored s
      unfold Protocol.act Parties.protocol Parties.act
      dsimp only
      cases hiq : iceCandidate candidate sdpMid sdpMLineIndex s with
      | none => rfl
      | some iq =>
        have hkind := hcandidate _ (@iceCandidate_kind (x.jid side) _ _ _ _ _ hiq) (acceptOf_delivered iq)
        simp [hkind]
  · have h := hevent (x.platform side) s (.stanza stanza created)
    rw [hstanza] at h
    exact h

lemma flow_initiates : Flow x.protocol side (fun s => s.discoveries + s.offers.length) (fun _ => false) isAcceptStanza
    isInitiateStanza := by
  refine flow_of_spends x side (fun P s e => ?_) (fun _ _ => rfl) (fun stanza ha _ => ?_)
  · obtain ⟨d, hd, -⟩ := spends_handle (P := P) e { s with log := [] }
    have hspent := hd.calling
    have hsent := (send_kinds x side (step P s e)).2.1
    simp only [JingleService.calling, List.countP_nil, Nat.add_zero] at hspent
    simp only [Bool.false_eq_true, if_false, Nat.add_zero]
    exact Nat.le_trans (Nat.add_le_add_left hsent _) hspent
  · rw [isInitiateStanza, ha]
    rfl

lemma flow_answers : Flow x.protocol side (fun s => s.remotes.length + s.answers.length) (fun _ => false)
    isInitiateStanza isAnswerStanza := by
  refine flow_of_spends x side (fun P s e => ?_) (fun _ _ => rfl) (fun stanza ha _ => ?_)
  · obtain ⟨d, hd, -⟩ := spends_handle (P := P) e { s with log := [] }
    have hspent := hd.answering
    have hsent := (send_kinds x side (step P s e)).2.2
    simp only [JingleService.answering, List.countP_nil, Nat.add_zero] at hspent
    simp only [Bool.false_eq_true, if_false, Nat.add_zero]
    exact Nat.le_trans (Nat.add_le_add_left hsent _) hspent
  · rw [isAnswerStanza, ha]
    rfl

lemma flow_accepts : Flow x.protocol side (fun _ => 0) LocalEvent.isAcceptCall (fun _ => false) isAcceptStanza := by
  refine flow_of_spends x side (fun P s e => ?_) (fun _ _ => rfl) (fun stanza _ ha => ?_)
  · obtain ⟨d, hd, -⟩ := spends_handle (P := P) e { s with log := [] }
    have hspent := hd.accepting
    have hsent := (send_kinds x side (step P s e)).1
    simp only [JingleService.accepting, List.countP_nil, Nat.zero_add] at hspent
    have hnone : e.received.any (fun _ => false) = false := by cases e.received <;> rfl
    rw [hnone]
    simp only [Bool.false_eq_true, if_false, Nat.zero_add]
    exact Nat.le_trans hsent hspent
  · rw [isAcceptStanza, ha]
    rfl

/-- However stanzas are delayed, reordered and lost: a party answers no more often than the other initiated, the other
initiates no more often than the party sent an accept message, and the party sends no more of these than its user
accepted a call. -/
theorem answers_accepted (x : Parties) (as : List (Action LocalEvent Bool)) (side : Bool) :
    ((x.run as).sent side).countP isAnswerStanza ≤ ((x.run as).sent (!side)).countP isInitiateStanza ∧
    ((x.run as).sent (!side)).countP isInitiateStanza ≤ ((x.run as).sent side).countP isAcceptStanza ∧
    ((x.run as).sent side).countP isAcceptStanza ≤ ((x.run as).acts side).countP LocalEvent.isAcceptCall := by
  have hanswers := (flow_answers x side).bound (fun side => .create (x.domain side) (x.jidBare side)) as
  have hinitiates := (flow_initiates x (!side)).bound (fun side => .create (x.domain side) (x.jidBare side)) as
  have haccepts := (flow_accepts x side).bound (fun side => .create (x.domain side) (x.jidBare side)) as
  rw [List.countP_false, Function.const_apply, Nat.add_zero] at hanswers hinitiates haccepts
  rw [Bool.not_not] at hinitiates
  have hstart : ∀ domain jidBare, (JingleService.create domain jidBare).remotes.length +
      (JingleService.create domain jidBare).answers.length = 0 ∧ (JingleService.create domain jidBare).discoveries +
      (JingleService.create domain jidBare).offers.length = 0 := fun _ _ => ⟨rfl, rfl⟩
  rw [(hstart _ _).1, Nat.zero_add] at hanswers
  rw [(hstart _ _).2, Nat.zero_add] at hinitiates
  rw [Nat.zero_add] at haccepts
  exact ⟨hanswers, hinitiates, haccepts⟩

end

end ChatDesktop.Voip
