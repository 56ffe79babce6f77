import ChatDesktop.Voip.JingleIq
import ChatDesktop.Voip.JingleMessage
import Mathlib.Data.List.Induction

namespace ChatDesktop.Voip

open Library Library.Text
open JingleAction (inNamespace namespaceIn_inNamespace attributeOf_inNamespace)

def fromJingleMessageType : JingleMessageType → QString
  | .propose => ofAscii "propose"
  | .retract => ofAscii "retract"
  | .accept => ofAscii "accept"
  | .proceed => ofAscii "proceed"
  | .reject => ofAscii "reject"
  | .finish => ofAscii "finish"
  | .ringing => ofAscii "ringing"

inductive JingleReason
  | busy
  | cancel
  | success

def fromJingleReason : JingleReason → QString
  | .busy => ofAscii "busy"
  | .cancel => ofAscii "cancel"
  | .success => ofAscii "suceess"

inductive Hint
  | store

structure QXmppMessage where
  type : QString
  recipient : QString
  extensions : List XmlElement
  hints : List Hint := []

inductive MessageSignal
  | messageReceived (action sender sessionId : QString) (streams : List StreamType) (reason : QString)
  | proposeReceived (streams : List StreamType) (sender sessionId : QString)
  | retractReceived (reason sessionId : QString)
  | acceptReceived (sender sessionId : QString)
  | proceedReceived (sender sessionId : QString)
  | rejectReceived (reason sessionId : QString)
  | finishReceived (reason sessionId : QString)
  | ringingReceived (sender sessionId : QString)
  deriving DecidableEq

namespace JingleMessage

/-! ### Building -/

def chat (recipient : QString) (extension : XmlElement) : QXmppMessage where
  type := ofAscii "chat"
  recipient := recipient
  extensions := [extension]

def payload (type : JingleMessageType) (mid : QString) (children : List XmlElement) : XmlElement :=
  inNamespace (fromJingleMessageType type) kJINGLE_MESSAGE [(ofAscii "id", mid)] children

def description (stream : StreamType) : XmlElement :=
  inNamespace (ofAscii "description") kJINGLE_APP [(ofAscii "media", fromStreamType stream)] []

def propose (recipient : QString) (streams : List StreamType) (mid : QString) : QXmppMessage :=
  { chat recipient (payload .propose mid (streams.map description)) with hints := [.store] }

def accept (recipient mid : QString) : QXmppMessage := chat recipient (payload .accept mid [])

def proceed (recipient mid : QString) : QXmppMessage := chat recipient (payload .proceed mid [])

def ringing (recipient mid : QString) : QXmppMessage := chat recipient (payload .ringing mid [])

def reasonElement (reason : JingleReason) (text : QString) : XmlElement :=
  inNamespace (ofAscii "reason") kJINGLE_NAME []
    [.mk (fromJingleReason reason) [] [] [], .mk (ofAscii "text") [] text []]

def reject (recipient mid : QString) : QXmppMessage :=
  chat recipient (payload .reject mid [reasonElement .busy (ofAscii "Busy")])

def retract (recipient mid : QString) : QXmppMessage :=
  chat recipient (payload .retract mid [reasonElement .cancel (ofAscii "Cancel")])

def finish (recipient mid : QString) : QXmppMessage :=
  chat recipient (payload .finish mid
    [.mk [] [(XmlElement.xmlns, kJINGLE_NAME)] (ofAscii "reason")
      [.mk (fromJingleReason .success) [] [] [], .mk [] [(ofAscii "text", ofAscii "Success")] [] []]])

def encode (recipient : QString) (streams : List StreamType) (mid : QString) : JingleMessageType → QXmppMessage
  | .propose => propose recipient streams mid
  | .retract => retract recipient mid
  | .accept => accept recipient mid
  | .proceed => proceed recipient mid
  | .reject => reject recipient mid
  | .finish => finish recipient mid
  | .ringing => ringing recipient mid

/-! ### Receiving -/

def signals (m : JingleMessage) : List MessageSignal :=
  [.messageReceived (fromJingleMessageType m.type) m.sender m.sessionId m.streams m.reason,
    match m.type with
    | .propose => .proposeReceived m.streams m.sender m.sessionId
    | .accept => .acceptReceived m.sender m.sessionId
    | .ringing => .ringingReceived m.sender m.sessionId
    | .retract => .retractReceived m.reason m.sessionId
    | .proceed => .proceedReceived m.sender m.sessionId
    | .reject => .rejectReceived m.reason m.sessionId
    | .finish => .finishReceived m.reason m.sessionId]

def emitted (element : Element) : List MessageSignal :=
  match parse element with
  | none => []
  | some m => m.signals

end JingleMessage

/-! ### In between -/

mutual

def written : XmlElement → XmlElement
  | .mk tagName attributes value children => .mk tagName attributes value (writtenChildren children)

def writtenChildren : List XmlElement → List XmlElement
  | [] => []
  | child :: children =>
    if child.tagName = [] then writtenChildren children else written child :: writtenChildren children

end

/-- The message where it arrives, among whatever else the stanza holds before or after the extensions.
Nameless elements are kept or not. -/
structure QXmppMessage.Arrives (m : QXmppMessage) (keepsNameless : Bool) (sender : QString) (e : Element) : Prop where
  tagName : e.tagName = ofAscii "message"
  sender : e.attributeOf (ofAscii "from") = sender
  recipient : e.attributeOf (ofAscii "to") = m.recipient
  type : e.attributeOf (ofAscii "type") = m.type
  children : ∃ before extensions after, e.children = before ++ extensions ++ after ∧
    XmlElement.ArriveIn true (ofAscii "jabber:client")
      (if keepsNameless then m.extensions else writtenChildren m.extensions) extensions ∧
    (∀ c ∈ before ++ after, c.namespaceURI ≠ kJINGLE_MESSAGE) ∧
    ∀ hint ∈ m.hints, ∃ c ∈ before ++ after, match hint with
      | .store => c.tagName = ofAscii "store" ∧ c.namespaceURI = ofAscii "urn:xmpp:hints"

def Hint.element : Hint → Element
  | .store => .mk (ofAscii "store") (ofAscii "store") (ofAscii "urn:xmpp:hints") [] [] []

def QXmppMessage.document (m : QXmppMessage) (sender : QString) : Element :=
  .mk (ofAscii "message") (ofAscii "message") (ofAscii "jabber:client")
    [(ofAscii "from", sender), (ofAscii "to", m.recipient), (ofAscii "type", m.type)]
    (XmlElement.namespacedIn (ofAscii "jabber:client") m.extensions ++ m.hints.map Hint.element)
    (XmlElement.textOf m.extensions)

lemma QXmppMessage.arrives_document (m : QXmppMessage) (sender : QString) :
    m.Arrives true sender (m.document sender) where
  tagName := rfl
  sender := rfl
  recipient := rfl
  type := rfl
  children := by
    refine ⟨[], _, m.hints.map Hint.element, rfl, XmlElement.arriveIn_namespaced _ _, fun c hc => ?_,
      fun hint hhint => ?_⟩
    · obtain ⟨hint, -, rfl⟩ := List.mem_map.mp hc
      cases hint
      decide
    · refine ⟨hint.element, List.mem_map_of_mem hhint, ?_⟩
      cases hint
      exact ⟨rfl, rfl⟩

namespace JingleMessage

def intendedReason : JingleMessageType → Option QString
  | .reject => some (ofAscii "Busy")
  | .retract => some (ofAscii "Cancel")
  | .finish => some (ofAscii "Success")
  | _ => none

/-- The signals of the type with what was encoded. -/
def Agrees (type : JingleMessageType) (streams : List StreamType) (mid sender : QString) (e : Element) : Prop :=
  ∃ reason, (∀ text, intendedReason type = some text → reason = text) ∧
    emitted e = signals ⟨type, sender, mid, if type = .propose then streams.eraseDups else [], reason⟩

section

variable {type : JingleMessageType} {recipient mid sender ns : QString} {streams shown : List StreamType}
  {keeps : Bool} {children : List XmlElement} {e : Element} {es : List Element}

lemma fromJingleMessageTypeString_type (type : JingleMessageType) :
    fromJingleMessageTypeString (fromJingleMessageType type) = some type := by
  cases type <;> decide

lemma fromStreamTypeString_stream (stream : StreamType) :
    fromStreamTypeString (fromStreamType stream) = some stream := by
  cases stream <;> decide

lemma Arrives.namespaceURI {q : XmlElement} (h : XmlElement.Arrives true ns q e) :
    e.namespaceURI = q.namespaceIn ns := h.named.2.1

lemma payload_arrives (h : XmlElement.Arrives true ns (payload type mid children) e) :
    e.tagName = fromJingleMessageType type ∧ e.namespaceURI = kJINGLE_MESSAGE ∧ e.attributeOf (ofAscii "id") = mid ∧
      XmlElement.ArriveIn true kJINGLE_MESSAGE children e.children := by
  have hns : (payload type mid children).namespaceIn ns = kJINGLE_MESSAGE := namespaceIn_inNamespace (by decide)
  refine ⟨h.tagName, (Arrives.namespaceURI h).trans hns, ?_, ?_⟩
  · rw [attributeOf_inNamespace h (by decide)]
    rfl
  · have hchildren := h.children
    rw [hns] at hchildren
    exact hchildren

lemma parse_arrives {m : QXmppMessage} (h : m.Arrives keeps sender e) (hsender : trimmed sender ≠ [])
    (htype : m.type = ofAscii "chat")
    (hext : (if keeps then m.extensions else writtenChildren m.extensions) = [payload type mid children])
    (hmid : trimmed mid ≠ []) :
    ∃ p, XmlElement.ArriveIn true kJINGLE_MESSAGE children p.children ∧
      parse e = if type = .propose ∧ streamTypes p = [] then none
        else some ⟨type, sender, mid, if type = .propose then streamTypes p else [], reasonText p⟩ := by
  obtain ⟨before, extensions, after, hchildren, harrive, hother, -⟩ := h.children
  rw [hext] at harrive
  obtain ⟨p, rfl, hp⟩ := XmlElement.arriveIn_single.mp harrive
  obtain ⟨htag, hns, hid, hin⟩ := payload_arrives hp
  refine ⟨p, hin, ?_⟩
  have hfind : e.children.find? (fun child => child.namespaceURI = kJINGLE_MESSAGE) = some p := by
    have hbefore : before.find? (fun child => decide (child.namespaceURI = kJINGLE_MESSAGE)) = none :=
      List.find?_eq_none.mpr fun c hc => by simpa using hother c (List.mem_append_left _ hc)
    rw [hchildren, List.append_assoc, List.find?_append, hbefore]
    simp [hns]
  have hchat : e.attributeOf (ofAscii "type") ≠ ofAscii "error" := by
    rw [h.type, htype]
    decide
  have hfrom : ¬(trimmed (e.attributeOf (ofAscii "from")) = [] ∨ e.attributeOf (ofAscii "type") = ofAscii "error") := by
    rw [h.sender]
    exact not_or.mpr ⟨hsender, hchat⟩
  rw [parse, if_pos h.tagName, if_neg hfrom, hfind, Option.bind_some, h.sender, parsePayload, if_neg (not_not.mpr hns)]
  simp only [htag, fromJingleMessageTypeString_type, hid, if_neg hmid]
  by_cases ht : type = .propose
  · simp [ht]
  · simp [ht]

/-! ### Streams -/

lemma foldl_eraseDups (streams : List StreamType) :
    streams.foldl (fun shown stream => if stream ∈ shown then shown else shown ++ [stream]) [] = streams.eraseDups := by
  induction streams using List.reverseRecOn with
  | nil => rfl
  | append_singleton streams stream ih =>
    rw [List.foldl_append, ih, List.eraseDups_append, List.foldl_cons, List.foldl_nil]
    simp only [List.mem_eraseDups, List.removeAll]
    by_cases hmem : stream ∈ streams
    · simp [hmem]
    · have hone : [stream].eraseDups = [stream] := rfl
      simp [hmem, hone]

lemma foldl_descriptions (shown : List StreamType) (h : XmlElement.ArriveIn true ns (streams.map description) es) :
    es.foldl (fun streams description =>
      if description.tagName ≠ ofAscii "description" ∨ description.namespaceURI ≠ kJINGLE_APP then streams
      else
        match fromStreamTypeString (description.attributeOf (ofAscii "media")) with
        | some stream => if stream ∈ streams then streams else streams ++ [stream]
        | none => streams) shown =
      streams.foldl (fun shown stream => if stream ∈ shown then shown else shown ++ [stream]) shown := by
  induction streams generalizing es shown with
  | nil =>
    rw [List.map_nil, XmlElement.arriveIn_nil] at h
    rw [h]
    rfl
  | cons stream streams ih =>
    obtain ⟨d, es', rfl, hd, hes⟩ := XmlElement.arriveIn_cons.mp h
    have htag : d.tagName = ofAscii "description" := hd.tagName
    have hns : d.namespaceURI = kJINGLE_APP := (Arrives.namespaceURI hd).trans (namespaceIn_inNamespace (by decide))
    have hmedia : d.attributeOf (ofAscii "media") = fromStreamType stream := by
      rw [attributeOf_inNamespace hd (by decide)]
      rfl
    rw [List.foldl_cons, List.foldl_cons, if_neg (by simp [htag, hns]), hmedia, fromStreamTypeString_stream]
    exact ih _ hes

lemma streamTypes_descriptions {p : Element}
    (h : XmlElement.ArriveIn true ns (streams.map description) p.children) : streamTypes p = streams.eraseDups := by
  rw [streamTypes]
  exact (foldl_descriptions [] h).trans (foldl_eraseDups streams)

lemma eraseDups_ne_nil (h : streams ≠ []) : streams.eraseDups ≠ [] := by
  obtain ⟨stream, hmem⟩ := List.exists_mem_of_ne_nil _ h
  exact List.ne_nil_of_mem (List.mem_eraseDups.mpr hmem)

/-! ### Reasons -/

lemma reasonText_nil {p : Element} (h : p.childrenNamed (ofAscii "reason") = []) : reasonText p = [] := by
  rw [reasonText, h]
  rfl

lemma reasonText_reasonElement {p : Element} {reason : JingleReason} {text : QString}
    (h : XmlElement.ArriveIn true ns [reasonElement reason text] p.children) : reasonText p = text := by
  obtain ⟨r, hr, hreason⟩ := XmlElement.arriveIn_single.mp h
  have htag : r.tagName = ofAscii "reason" := hreason.tagName
  have hin : (reasonElement reason text).namespaceIn ns = kJINGLE_NAME := namespaceIn_inNamespace (by decide)
  have hns : r.namespaceURI = kJINGLE_NAME := (Arrives.namespaceURI hreason).trans hin
  have hnamed : p.childrenNamed (ofAscii "reason") = [r] := by
    rw [Element.childrenNamed, hr]
    exact List.filter_cons_of_pos (by simp [htag])
  have hchildren := hreason.children
  rw [hin] at hchildren
  obtain ⟨named, rest, hes, hn, hrest⟩ := XmlElement.arriveIn_cons.mp hchildren
  obtain ⟨texted, rfl, ht⟩ := XmlElement.arriveIn_single.mp hrest
  have hnamedTag : named.tagName = fromJingleReason reason := hn.tagName
  have hne : fromJingleReason reason ≠ ofAscii "text" := by cases reason <;> decide
  have htextTag : texted.tagName = ofAscii "text" := ht.tagName
  have hnamedNs : named.namespaceURI = kJINGLE_NAME := Arrives.namespaceURI hn
  have htextNs : texted.namespaceURI = kJINGLE_NAME := Arrives.namespaceURI ht
  have htext : texted.text = text := by
    rw [ht.text]
    simp [XmlElement.text, XmlElement.textOf]
  rw [reasonText, hnamed, List.head?_cons]
  simp only [hns, if_true, hes, reasonFrom, hnamedNs, not_true, ne_eq, if_false, hnamedTag, hne, htextNs, htextTag,
    htext]

/-! ### What arrives -/

lemma written_descriptions (streams : List StreamType) :
    writtenChildren (streams.map description) = streams.map description := by
  induction streams with
  | nil => rfl
  | cons stream streams ih =>
    rw [List.map_cons, writtenChildren, ih]
    rfl

/-- The children that are written, apart from those of `finish`. -/
def sentChildren (streams : List StreamType) : JingleMessageType → List XmlElement
  | .propose => streams.map description
  | .reject => [reasonElement .busy (ofAscii "Busy")]
  | .retract => [reasonElement .cancel (ofAscii "Cancel")]
  | _ => []

lemma encode_extensions (keeps : Bool) (recipient mid : QString) (streams : List StreamType) (h : type ≠ .finish) :
    (if keeps then (encode recipient streams mid type).extensions
      else writtenChildren (encode recipient streams mid type).extensions) =
      [payload type mid (sentChildren streams type)] := by
  cases keeps with
  | true => cases type <;> first | rfl | exact absurd rfl h
  | false =>
    have hpayload : ∀ children, writtenChildren children = children →
        writtenChildren [payload type mid children] = [payload type mid children] := by
      intro children hsame
      cases type <;> simp [payload, inNamespace, writtenChildren, written, XmlElement.tagName, hsame] <;> decide
    cases type with
    | finish => exact absurd rfl h
    | propose => exact hpayload _ (written_descriptions streams)
    | _ => exact hpayload _ rfl

lemma not_named {p : Element} {qs : List XmlElement} (h : XmlElement.ArriveIn true ns qs p.children)
    (hqs : ∀ q ∈ qs, q.tagName ≠ ofAscii "reason") : p.childrenNamed (ofAscii "reason") = [] := by
  have hnone := h.filter (p := fun _ => false) (r := fun c => decide (c.tagName = ofAscii "reason")) fun q hq c hc => by
    rw [hc.tagName]
    exact decide_eq_false (hqs q hq)
  rw [List.filter_false, XmlElement.arriveIn_nil] at hnone
  exact hnone

lemma Agrees.of_ne_finish (h : (encode recipient streams mid type).Arrives keeps sender e) (hmid : trimmed mid ≠ [])
    (hsender : trimmed sender ≠ []) (hstreams : type = .propose → streams ≠ []) (htype : type ≠ .finish) :
    Agrees type streams mid sender e := by
  have hchat : (encode recipient streams mid type).type = ofAscii "chat" := by cases type <;> rfl
  obtain ⟨p, hchildren, hparse⟩ :=
    parse_arrives h hsender hchat (encode_extensions keeps recipient mid streams htype) hmid
  have htexts : ∀ text, intendedReason type = some text → reasonText p = text := by
    intro text htext
    cases type <;> cases htext
    · exact reasonText_reasonElement hchildren
    · exact reasonText_reasonElement hchildren
    · exact absurd rfl htype
  refine ⟨reasonText p, htexts, ?_⟩
  rw [emitted, hparse]
  by_cases hpropose : type = .propose
  · subst hpropose
    rw [streamTypes_descriptions hchildren, if_neg (fun hno => eraseDups_ne_nil (hstreams rfl) hno.2)]
  · rw [if_neg (fun hno => hpropose hno.1)]
    simp only [if_neg hpropose]

lemma emitted_finish (h : (encode recipient streams mid .finish).Arrives keeps sender e) (hmid : trimmed mid ≠ [])
    (hsender : trimmed sender ≠ []) : emitted e = signals ⟨.finish, sender, mid, [], []⟩ := by
  have hsent : ∃ children, (∀ q ∈ children, q.tagName ≠ ofAscii "reason") ∧
      (if keeps then (encode recipient streams mid .finish).extensions
        else writtenChildren (encode recipient streams mid .finish).extensions) = [payload .finish mid children] := by
    cases keeps with
    | true =>
      refine ⟨_, fun q hq => ?_, rfl⟩
      rw [List.mem_singleton.mp hq]
      decide
    | false =>
      refine ⟨[], nofun, ?_⟩
      simp only [Bool.false_eq_true, if_false, encode, finish, chat, payload, inNamespace, writtenChildren, written,
        XmlElement.tagName, if_true]
      rw [if_neg (by decide)]
  obtain ⟨children, hnames, hext⟩ := hsent
  obtain ⟨p, hchildren, hparse⟩ := parse_arrives h hsender rfl hext hmid
  rw [emitted, hparse, reasonText_nil (not_named hchildren hnames)]
  rfl

lemma not_agrees_finish (h : (encode recipient streams mid .finish).Arrives keeps sender e) (hmid : trimmed mid ≠ [])
    (hsender : trimmed sender ≠ []) : ¬Agrees .finish streams mid sender e := by
  rintro ⟨reason, htext, hemitted⟩
  rw [emitted_finish h hmid hsender] at hemitted
  obtain ⟨hreason, -⟩ := List.cons.inj hemitted
  rw [htext _ rfl] at hreason
  exact absurd hreason (by simp [ofAscii])

/-- The message of every type but `finish` is read as it was meant. -/
theorem encoders_agree_iff (type : JingleMessageType) (recipient mid sender : QString) (streams : List StreamType)
    (keepsNameless : Bool) (e : Element) (hmid : trimmed mid ≠ []) (hsender : trimmed sender ≠ [])
    (hstreams : type = .propose → streams ≠ [])
    (he : (encode recipient streams mid type).Arrives keepsNameless sender e) :
    Agrees type streams mid sender e ↔ type ≠ .finish := by
  constructor
  · rintro hagrees rfl
    exact not_agrees_finish he hmid hsender hagrees
  · exact Agrees.of_ne_finish he hmid hsender hstreams

end

theorem encoders_agree_iff_sample :
    Agrees .propose [.video, .audio, .video] (ofAscii "m1") (ofAscii "a@x")
      ((encode (ofAscii "b@x") [.video, .audio, .video] (ofAscii "m1") .propose).document (ofAscii "a@x")) :=
  (encoders_agree_iff .propose (ofAscii "b@x") (ofAscii "m1") (ofAscii "a@x") [.video, .audio, .video] true _
    (by decide) (by decide) nofun (QXmppMessage.arrives_document _ _)).mpr nofun

/-- The text of a call that is finished does not reach the other side. -/
theorem finish_without_reason :
    ¬∀ (type : JingleMessageType) (recipient mid sender : QString) (streams : List StreamType) (keepsNameless : Bool)
      (e : Element), trimmed mid ≠ [] → trimmed sender ≠ [] → (type = .propose → streams ≠ []) →
      (encode recipient streams mid type).Arrives keepsNameless sender e → Agrees type streams mid sender e := by
  intro h
  have harrives := (encode (ofAscii "b@x") [] (ofAscii "m1") .finish).arrives_document (ofAscii "a@x")
  have hmid : trimmed (ofAscii "m1") ≠ [] := by decide
  have hsender : trimmed (ofAscii "a@x") ≠ [] := by decide
  exact not_agrees_finish harrives hmid hsender (h .finish _ _ _ [] true _ hmid hsender nofun harrives)

end JingleMessage

end ChatDesktop.Voip
