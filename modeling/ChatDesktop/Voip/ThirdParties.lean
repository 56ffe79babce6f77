import ChatDesktop.Voip.CallSetup

namespace ChatDesktop.Voip

open Library Library.Text Library.Reactive JingleService

def JingleService.guarded (s : JingleService) :
    JingleExtension × QString × QString × Bool × Option PeerConnection :=
  (s.jingle, s.action.currentSid, s.recipientId, s.videoCall, s.webrtc.bind WebrtcClient.peerConnection)

def Effect.alarm : Effect → Bool
  | .sendMessage type _ _ _ => decide (type = .reject ∨ type = .retract)
  | .sendSessionTerminate .. | .sessionTerminate | .rejectReceived .. | .retractReceived ..
  | .callStateChange _ => true
  | _ => false

/-- The call goes on in `s'` as it was in `s`, and nobody hears otherwise. -/
def Untouched (s s' : JingleService) : Prop :=
  s'.guarded = s.guarded ∧ ∀ e ∈ s'.log, e.alarm = false

def Foreign (s : JingleService) (stanza : Element) : Prop :=
  stanza.attributeOf (ofAscii "from") ≠ s.jingle.sessionSender ∨
    ∃ jingle, findJingleElement stanza = some jingle ∧
      if stanza.tagName = ofAscii "message" then jingle.attributeOf (ofAscii "id") ≠ s.jingle.mid
      else jingle.attributeOf (ofAscii "sid") ≠ s.action.currentSid

def HarmlessMessage (s : JingleService) (m : JingleMessage) : Prop :=
  m.type = .proceed ∨ m.type = .finish ∨ m.type = .propose ∧ m.sender = s.jingle.proposeFrom ∧
    m.sessionId = s.jingle.mid ∧ decide (StreamType.video ∈ m.streams) = s.videoCall

def Connectable (s : JingleService) (created : Bool) (iceServers : List IceServer) : Prop :=
  ∃ w, s.webrtc = some w ∧ w.initialized = true ∧ w.peerConnection = none ∧
    (∀ ice ∈ iceServers, trimmed ice.host ≠ []) ∧ created = true

variable (P : Platform)

def AppliesCandidate (s : JingleService) : ActionSignal → Prop
  | .exchangeIceCandidateReceived sdp sdpMid sdpMLineIndex =>
    s.hasPeerConnection = true ∧ P.parsesCandidate sdp sdpMid sdpMLineIndex = true
  | _ => False

/-- An offer names the session that is on and gets no connection, an answer and the candidates cannot be
applied. -/
def HarmlessAction (s : JingleService) (created : Bool) (jingle : Element) : Prop :=
  let sid := jingle.attributeOf (ofAscii "sid")
  match ActionType.fromString (jingle.attributeOf (ofAscii "action")) with
  | some .sessionInitiate => ∀ content offer iceServers, sid ≠ [] →
      JingleAction.offered jingle = some (content, offer, iceServers) →
      sid = s.jingle.currentSid ∧ sid = s.action.currentSid ∧ ¬Connectable s created iceServers
  | some .sessionTerminate => sid = []
  | some .sessionAccept => ∀ answer, sid ≠ [] → sid = s.action.currentSid →
      JingleAction.answered jingle = some answer →
      ¬(s.hasPeerConnection = true ∧ P.parsesSdp (ofAscii "answer") answer = true)
  | some .sessionTransport => sid ≠ [] → sid = s.action.currentSid →
      ∀ candidate ∈ JingleAction.candidates jingle, ¬AppliesCandidate P s candidate
  | _ => True

/-- A message that is none of a call or says nothing about it, an IQ that neither takes the peer's place
nor does any harm. -/
def Harmless (s : JingleService) (created : Bool) (stanza : Element) : Prop :=
  match findJingleElement stanza with
  | none => True
  | some jingle =>
    if stanza.tagName = ofAscii "message" then
      ∀ m, JingleMessage.parse stanza = some m → HarmlessMessage s m
    else if stanza.tagName = ofAscii "iq" then
      (jingle.attributeOf (ofAscii "action") = ofAscii "session-initiate" →
        stanza.attributeOf (ofAscii "type") = ofAscii "set" →
        stanza.attributeOf (ofAscii "from") = s.jingle.sessionSender) ∧
      ∀ jingle, JingleAction.jingleOf stanza = some jingle → HarmlessAction P s created jingle
    else True

section

variable {P} {s s' : JingleService}

lemma untouched_emit {e : Effect} (he : e.alarm = false) : Untouched s (s'.emit e) ↔ Untouched s s' := by
  simp only [Untouched, JingleService.emit, List.mem_append, List.mem_singleton]
  constructor
  · exact fun h => ⟨h.1, fun e' he' => h.2 e' (Or.inl he')⟩
  · refine fun h => ⟨h.1, fun e' he' => ?_⟩
    obtain he' | rfl := he'
    · exact h.2 e' he'
    · exact he

lemma not_untouched {e : Effect} (h : e ∈ s'.log) (he : e.alarm = true) : ¬Untouched s s' := fun hs => by
  rw [hs.2 e h] at he
  cases he

lemma untouched_self (hlog : s.log = []) : Untouched s s := ⟨rfl, by rw [hlog]; exact fun _ h => by cases h⟩

lemma log_onAcceptReceived (accept mid : QString) (s : JingleService) :
    ∃ es, (s.onAcceptReceived accept mid).log = s.log ++ es := by
  obtain he | ⟨reason, he⟩ | ⟨-, he⟩ := onAcceptReceived_cases accept mid s
  · exact ⟨[], by rw [he, List.append_nil]⟩
  · exact ⟨_, by rw [he]; rfl⟩
  · exact ⟨[_, _], by rw [he]; simp only [JingleService.emit, List.append_assoc]; rfl⟩

lemma onJingleMessage_untouched (hlog : s.log = []) (m : JingleMessage) :
    Untouched s (s.onJingleMessage m) ↔ HarmlessMessage s m := by
  unfold onJingleMessage HarmlessMessage
  cases ht : m.type with
  | propose =>
    simp only [reduceCtorEq, false_or, true_and]
    rw [untouched_emit rfl]
    simp only [Untouched, JingleService.ringing, JingleService.emit, hlog, guarded]
    constructor
    · intro h
      simp only [Prod.mk.injEq] at h
      have hj := h.1.1
      rw [← hj]
      exact ⟨rfl, rfl, h.1.2.2.2.1⟩
    · rintro ⟨hs, hm, hv⟩
      rw [hs, hm, hv]
      refine ⟨rfl, ?_⟩
      simp [Effect.alarm]
  | retract => exact iff_of_false (not_untouched (e := .callStateChange .handUp) (by simp [JingleService.emit]) rfl) (by simp)
  | ringing => exact iff_of_false (not_untouched (e := .callStateChange .ringing) (by simp [JingleService.emit]) rfl) (by simp)
  | accept =>
    obtain ⟨es, he⟩ := log_onAcceptReceived m.sender m.sessionId (s.emit (.callStateChange .exchange))
    refine iff_of_false (not_untouched (e := .callStateChange .exchange) ?_ rfl) (by simp)
    rw [he]
    simp [JingleService.emit]
  | proceed => exact iff_of_true ((untouched_emit rfl).mpr (untouched_self hlog)) (Or.inl rfl)
  | reject => exact iff_of_false (not_untouched (e := .callStateChange .reject) (by simp [JingleService.emit]) rfl) (by simp)
  | finish => exact iff_of_true ((untouched_emit rfl).mpr (untouched_self hlog)) (Or.inr (Or.inl rfl))

def JingleService.appliedCount (s : JingleService) : ℕ :=
  ((s.webrtc.bind WebrtcClient.peerConnection).map (fun p => p.applied.length)).getD 0

lemma Untouched.appliedCount (h : Untouched s s') : s'.appliedCount = s.appliedCount :=
  congrArg (fun g => (g.2.2.2.2.map (fun p => p.applied.length)).getD 0) h.1

lemma Untouched.hasPeerConnection (h : Untouched s s') : s'.hasPeerConnection = s.hasPeerConnection :=
  congrArg (fun g => g.2.2.2.2.isSome) h.1

lemma appliedCount_apply (a : Applied) (h : s.hasPeerConnection = true) :
    (s.apply a).appliedCount = s.appliedCount + 1 := by
  unfold JingleService.hasPeerConnection at h
  obtain ⟨p, hp⟩ := Option.isSome_iff_exists.mp h
  obtain ⟨w, hw, hwp⟩ := Option.bind_eq_some_iff.mp hp
  simp [JingleService.appliedCount, apply, hw, hwp]

/-! ### The actions of a session -/

lemma setRemoteSdp_cases (type sdp : QString) (s : JingleService) :
    (s.hasPeerConnection = true ∧ P.parsesSdp type sdp = true) ∧
      s.setRemoteSdp P type sdp = (true, s.apply (.remoteSdp type sdp)) ∨
    ¬(s.hasPeerConnection = true ∧ P.parsesSdp type sdp = true) ∧ s.setRemoteSdp P type sdp = (false, s) := by
  unfold setRemoteSdp
  by_cases h : s.hasPeerConnection = true ∧ P.parsesSdp type sdp = true
  · exact Or.inl ⟨h, if_pos (by simp [h])⟩
  · exact Or.inr ⟨h, if_neg (by simpa using h)⟩

lemma onAnswer_untouched (hlog : s.log = []) (created : Bool) (answer sid : QString) :
    Untouched s (s.onJingleAction P created (.remoteSdpAnswerReceived answer sid)) ↔
      ¬(s.hasPeerConnection = true ∧ P.parsesSdp (ofAscii "answer") answer = true) := by
  unfold onJingleAction
  obtain ⟨h, he⟩ | ⟨h, he⟩ := setRemoteSdp_cases (P := P) (ofAscii "answer") answer s
  · simp only [he, if_true]
    refine iff_of_false (fun hs => ?_) (not_not.mpr h)
    have hcount := hs.appliedCount
    rw [appliedCount_apply _ h.1] at hcount
    omega
  · simp only [he, Bool.false_eq_true, if_false]
    exact iff_of_true ((untouched_emit rfl).mpr (untouched_self hlog)) h

lemma onCandidate_cases {c : ActionSignal} (created : Bool) (s : JingleService) {sdp sdpMid : QString}
    {sdpMLineIndex : Int} (hc : c = .exchangeIceCandidateReceived sdp sdpMid sdpMLineIndex) :
    AppliesCandidate P s c ∧ s.onJingleAction P created c = s.apply (.remoteCandidate sdp sdpMid sdpMLineIndex) ∨
    ¬AppliesCandidate P s c ∧
      (s.onJingleAction P created c = s ∨ s.onJingleAction P created c = s.emit .missingWebrtc) := by
  subst hc
  simp only [onJingleAction, setRemoteCandidate, AppliesCandidate]
  cases hw : s.webrtc with
  | none =>
    refine Or.inr ⟨?_, Or.inr (if_pos rfl)⟩
    simp [JingleService.hasPeerConnection, hw]
  | some w =>
    rw [if_neg (by simp)]
    by_cases h : s.hasPeerConnection = true ∧ P.parsesCandidate sdp sdpMid sdpMLineIndex = true
    · exact Or.inl ⟨h, if_pos (by simp [h])⟩
    · exact Or.inr ⟨h, Or.inl (if_neg (by simpa using h))⟩

lemma exchange_of_mem_candidates {jingle : Element} {c : ActionSignal} (h : c ∈ JingleAction.candidates jingle) :
    ∃ sdp sdpMid sdpMLineIndex, c = .exchangeIceCandidateReceived sdp sdpMid sdpMLineIndex := by
  obtain ⟨transport, -, hc⟩ := List.mem_flatMap.mp h
  obtain ⟨element, -, hc⟩ := List.mem_filterMap.mp hc
  unfold JingleAction.candidate at hc
  dsimp only at hc
  generalize (if element.localName = [] then element.tagName else element.localName) = name at hc
  split_ifs at hc
  split at hc
  · split_ifs at hc
    exact ⟨_, _, _, (Option.some.inj hc).symm⟩
  · cases hc

lemma appliedCount_le_foldl (created : Bool) {cs : List ActionSignal} (s : JingleService)
    (hcs : ∀ c ∈ cs, ∃ sdp sdpMid i, c = .exchangeIceCandidateReceived sdp sdpMid i) :
    s.appliedCount ≤ (cs.foldl (onJingleAction P created) s).appliedCount := by
  induction cs generalizing s with
  | nil => exact le_rfl
  | cons c cs ih =>
    refine le_trans ?_ (ih _ fun c hc => hcs c (List.mem_cons_of_mem _ hc))
    obtain ⟨sdp, sdpMid, i, hc⟩ := hcs c List.mem_cons_self
    obtain ⟨happ, he⟩ | ⟨-, he | he⟩ := onCandidate_cases (P := P) created s hc
    · rw [he, appliedCount_apply _ (by rw [hc] at happ; exact happ.1)]
      exact Nat.le_succ _
    · rw [he]
    · rw [he]
      exact le_rfl

lemma onCandidates_untouched (created : Bool) {cs : List ActionSignal} (h : Untouched s s')
    (hcs : ∀ c ∈ cs, ∃ sdp sdpMid i, c = .exchangeIceCandidateReceived sdp sdpMid i) :
    Untouched s (cs.foldl (onJingleAction P created) s') ↔ ∀ c ∈ cs, ¬AppliesCandidate P s c := by
  induction cs generalizing s' with
  | nil => exact iff_of_true h (fun _ hc => by cases hc)
  | cons c cs ih =>
    rw [List.forall_mem_cons, List.foldl_cons]
    obtain ⟨sdp, sdpMid, i, hc⟩ := hcs c List.mem_cons_self
    have hcs' := fun c hc => hcs c (List.mem_cons_of_mem _ hc)
    have hsame : AppliesCandidate P s' c ↔ AppliesCandidate P s c := by
      rw [hc, AppliesCandidate, AppliesCandidate, h.hasPeerConnection]
    obtain ⟨happ, he⟩ | ⟨happ, he⟩ := onCandidate_cases (P := P) created s' hc
    · refine iff_of_false (fun hs => ?_) (fun hall => hall.1 (hsame.mp happ))
      have hle := appliedCount_le_foldl (P := P) created (s'.onJingleAction P created c) hcs'
      rw [hs.appliedCount, he, appliedCount_apply _ (by rw [hc] at happ; exact happ.1), h.appliedCount] at hle
      omega
    · have h' : Untouched s (s'.onJingleAction P created c) := by
        obtain he | he := he
        · rwa [he]
        · rw [he]
          exact (untouched_emit rfl).mpr h
      rw [ih h' hcs']
      exact (and_iff_right (mt hsame.mpr happ)).symm

lemma createPeerConnection_connectable (created : Bool) (iceServers : List IceServer) {w : WebrtcClient}
    (hw : s.webrtc = some w) :
    Connectable s created iceServers ∧ (∃ p, s.createPeerConnection created iceServers w =
      (true, { s with webrtc := some { w with peerConnection := some p }, peers := s.peers + 1 })) ∨
    ¬Connectable s created iceServers ∧ s.createPeerConnection created iceServers w = (false, s) := by
  unfold createPeerConnection
  by_cases hb : (!w.initialized || w.peerConnection.isSome || iceServers.any (fun ice => (trimmed ice.host).isEmpty) ||
      !created) = true
  · refine Or.inr ⟨?_, if_pos hb⟩
    rintro ⟨w', hw', hi, hp, hhosts, rfl⟩
    obtain rfl := Option.some.inj (hw.symm.trans hw')
    simp only [hi, hp, Bool.not_true, Option.isSome_none, Bool.or_false, Bool.false_or, List.any_eq_true,
      List.isEmpty_iff] at hb
    obtain ⟨ice, hice, hnil⟩ := hb
    exact hhosts ice hice hnil
  · refine Or.inl ⟨⟨w, hw, ?_⟩, _, if_neg hb⟩
    simpa [and_assoc] using hb

lemma untouched_session (hlog : s.log = []) {action : JingleAction} {sid : QString}
    (hsid : action.currentSid = sid) :
    Untouched s { s with action := action, jingle := { s.jingle with currentSid := sid } } ↔
      sid = s.jingle.currentSid ∧ sid = s.action.currentSid := by
  simp only [Untouched, guarded, hlog, Prod.mk.injEq, and_true, hsid]
  constructor
  · rintro ⟨⟨hj, ha⟩, -⟩
    exact ⟨congrArg JingleExtension.currentSid hj, ha⟩
  · rintro ⟨hj, ha⟩
    refine ⟨⟨by rw [hj], ha⟩, fun _ h => by cases h⟩

lemma onRemoteSdpOfferReceived_cases (created : Bool) (offer sid : QString) (iceServers : List IceServer)
    (s : JingleService) :
    ¬Connectable s created iceServers ∧ (∃ reason, s.onRemoteSdpOfferReceived P created offer iceServers sid =
      signalingFailed reason { s with jingle := { s.jingle with currentSid := sid } }) ∨
    Connectable s created iceServers ∧
      (s.onRemoteSdpOfferReceived P created offer iceServers sid).hasPeerConnection = true := by
  unfold onRemoteSdpOfferReceived
  dsimp only
  split
  · rename_i hw
    refine Or.inl ⟨?_, _, rfl⟩
    rintro ⟨w, hw', -⟩
    rw [hw] at hw'
    cases hw'
  · rename_i w hw
    obtain ⟨hconn, p, he⟩ | ⟨hconn, he⟩ := createPeerConnection_connectable created iceServers
      (s := { s with jingle := { s.jingle with currentSid := sid } }) hw
    · refine Or.inr ⟨hconn, ?_⟩
      simp only [he, Bool.not_true, Bool.false_eq_true, if_false]
      obtain ⟨-, he⟩ | ⟨-, he⟩ := setRemoteSdp_cases (P := P) (ofAscii "offer") offer
        { s with
          jingle := { s.jingle with currentSid := sid }
          webrtc := some { w with peerConnection := some p }
          peers := s.peers + 1 }
      · simp only [he, if_true]
        rfl
      · simp only [he, Bool.false_eq_true, if_false]
        rfl
    · refine Or.inl ⟨hconn, "Cannot create the peer connection for the remote offer", ?_⟩
      simp only [he, Bool.not_false, if_true]

lemma Connectable.no_peer {created : Bool} {iceServers : List IceServer} (h : Connectable s created iceServers) :
    s.hasPeerConnection = false := by
  obtain ⟨w, hw, -, hp, -⟩ := h
  rw [JingleService.hasPeerConnection, hw, Option.bind_some, hp]
  rfl

lemma onOffer_untouched (hlog : s.log = []) (created : Bool) (offer sid : QString) (iceServers : List IceServer)
    {action : JingleAction} (hsid : action.currentSid = sid) :
    Untouched s ({ s with action := action }.onJingleAction P created (.remoteSdpOfferReceived offer iceServers sid)) ↔
      sid = s.jingle.currentSid ∧ sid = s.action.currentSid ∧ ¬Connectable s created iceServers := by
  obtain ⟨hno, reason, he⟩ | ⟨hconn, he⟩ := onRemoteSdpOfferReceived_cases (P := P) created offer sid iceServers
    { s with action := action }
  · have hno : ¬Connectable s created iceServers := hno
    rw [onJingleAction, he]
    refine ((untouched_emit rfl).trans (untouched_session hlog hsid)).trans ?_
    simp only [hno, not_false_eq_true, and_true]
  · have hconn : Connectable s created iceServers := hconn
    refine iff_of_false (fun hs => ?_) (fun h => h.2.2 hconn)
    have hpeer := hs.hasPeerConnection
    rw [onJingleAction, he, hconn.no_peer] at hpeer
    cases hpeer

lemma reply_untouched (handled : Bool) (recipient id : QString) :
    Untouched s (if handled then s'.emit (.sendReply recipient id) else s') ↔ Untouched s s' := by
  cases handled with
  | false => exact Iff.rfl
  | true => exact untouched_emit rfl

lemma onAction_untouched (hlog : s.log = []) (created : Bool) (stanza : Element) :
    Untouched s ((s.action.parse stanza).2.1.foldl (onJingleAction P created)
        { s with action := (s.action.parse stanza).2.2 }) ↔
      ∀ jingle, JingleAction.jingleOf stanza = some jingle → HarmlessAction P s created jingle := by
  unfold JingleAction.parse HarmlessAction
  have hself := untouched_self hlog
  cases hj : JingleAction.jingleOf stanza with
  | none => exact iff_of_true hself (fun _ h => by cases h)
  | some jingle =>
    simp only [Option.some.injEq, forall_eq']
    cases ha : ActionType.fromString (jingle.attributeOf (ofAscii "action")) with
    | none => exact iff_of_true hself trivial
    | some action =>
      by_cases hsid : jingle.attributeOf (ofAscii "sid") = []
      · simp only [if_pos hsid]
        refine iff_of_true hself ?_
        cases action <;> simp [hsid]
      · simp only [if_neg hsid]
        cases action with
        | sessionInitiate =>
          dsimp only
          cases ho : JingleAction.offered jingle with
          | none => exact iff_of_true hself (by simp)
          | some c =>
            obtain ⟨content, offer, iceServers⟩ := c
            refine (onOffer_untouched hlog created offer _ iceServers rfl).trans ?_
            simp [hsid]
        | sessionAccept =>
          dsimp only
          by_cases hcur : jingle.attributeOf (ofAscii "sid") = s.action.currentSid
          · rw [if_neg (not_not.mpr hcur)]
            cases ho : JingleAction.answered jingle with
            | none => exact iff_of_true hself (by simp)
            | some answer =>
              refine (onAnswer_untouched hlog created answer (jingle.attributeOf (ofAscii "sid"))).trans ?_
              simp [hcur, hcur ▸ hsid]
          · rw [if_pos hcur]
            exact iff_of_true hself (fun _ _ h => absurd h hcur)
        | sessionTerminate => exact iff_of_false (not_untouched (e := .sessionTerminate) (by simp [onJingleAction, JingleService.emit]) rfl) hsid
        | sessionTransport =>
          dsimp only
          by_cases hcur : jingle.attributeOf (ofAscii "sid") = s.action.currentSid
          · rw [if_neg (not_not.mpr hcur)]
            refine (onCandidates_untouched created hself fun _ => exchange_of_mem_candidates).trans ?_
            exact ⟨fun h _ _ => h, fun h => h hsid hcur⟩
          · rw [if_pos hcur]
            exact iff_of_true hself (fun _ h => absurd h hcur)
        | sessionInfo => exact iff_of_true hself trivial
        | transportReplace => exact iff_of_true hself trivial
        | transportAccept => exact iff_of_true hself trivial

lemma sessionSender_onJingleAction (created : Bool) (s : JingleService) (signal : ActionSignal) :
    (s.onJingleAction P created signal).jingle.sessionSender = s.jingle.sessionSender := by
  cases signal with
  | remoteSdpOfferReceived offer iceServers sid =>
    simp only [onJingleAction, onRemoteSdpOfferReceived]
    split
    · rfl
    · rename_i w hw
      obtain ⟨-, p, he⟩ | ⟨-, he⟩ := createPeerConnection_connectable created iceServers
        (s := { s with jingle := { s.jingle with currentSid := sid } }) hw
      · simp only [he, setRemoteSdp]
        split_ifs <;> rfl
      · simp only [he]
        rfl
  | exchangeIceCandidateReceived sdp sdpMid sdpMLineIndex =>
    simp only [onJingleAction, setRemoteCandidate]
    split_ifs <;> rfl
  | remoteSdpAnswerReceived answer sid =>
    obtain ⟨-, he⟩ | ⟨-, he⟩ := setRemoteSdp_cases (P := P) (ofAscii "answer") answer s <;>
    · simp only [onJingleAction, he]
      rfl
  | sessionTerminateReceived => rfl

lemma sessionSender_onJingleActions (created : Bool) (signals : List ActionSignal) (s : JingleService) :
    (signals.foldl (onJingleAction P created) s).jingle.sessionSender = s.jingle.sessionSender := by
  induction signals generalizing s with
  | nil => rfl
  | cons signal signals ih => rw [List.foldl_cons, ih, sessionSender_onJingleAction]

lemma untouched_sender {sender : QString} (hsender : s'.jingle.sessionSender = sender) :
    Untouched s s' ↔ sender = s.jingle.sessionSender ∧
      Untouched { s with jingle := { s.jingle with sessionSender := sender } } s' := by
  subst hsender
  simp only [Untouched, guarded, Prod.mk.injEq]
  constructor
  · rintro ⟨⟨hj, h⟩, hl⟩
    exact ⟨congrArg JingleExtension.sessionSender hj, ⟨by rw [hj], h⟩, hl⟩
  · rintro ⟨hsender, ⟨hj, h⟩, hl⟩
    exact ⟨⟨by rw [hj, hsender], h⟩, hl⟩

lemma handleIq_untouched (hlog : s.log = []) (created : Bool) (stanza jingle : Element) :
    Untouched s (s.handleIq P created stanza jingle) ↔
      (jingle.attributeOf (ofAscii "action") = ofAscii "session-initiate" →
        stanza.attributeOf (ofAscii "type") = ofAscii "set" →
        stanza.attributeOf (ofAscii "from") = s.jingle.sessionSender) ∧
      ∀ jingle, JingleAction.jingleOf stanza = some jingle → HarmlessAction P s created jingle := by
  unfold handleIq
  dsimp only
  rw [reply_untouched]
  by_cases h : jingle.attributeOf (ofAscii "action") = ofAscii "session-initiate" ∧
      stanza.attributeOf (ofAscii "type") = ofAscii "set"
  · rw [if_pos h, untouched_sender (sessionSender_onJingleActions ..)]
    refine and_congr (by simp only [h, true_imp_iff]) ?_
    exact onAction_untouched (s := { s with
      jingle := { s.jingle with sessionSender := stanza.attributeOf (ofAscii "from") } }) hlog created stanza
  · rw [if_neg h, onAction_untouched hlog created stanza, and_iff_right]
    exact fun h1 h2 => absurd ⟨h1, h2⟩ h

end

/-- A stanza leaves a call alone exactly if it is harmless. -/
theorem untouched_iff_harmless (s : JingleService) (stanza : Element) (created : Bool) :
    Untouched s (step P s (.stanza stanza created)) ↔ Harmless P s created stanza := by
  have hself : Untouched s { s with log := [] } := ⟨rfl, fun _ h => by cases h⟩
  have hstep : Untouched s (step P s (.stanza stanza created)) ↔
      Untouched { s with log := [] } (handleStanza P created stanza { s with log := [] }) := Iff.rfl
  rw [hstep, handleStanza, Harmless]
  cases hj : findJingleElement stanza with
  | none =>
    refine iff_of_true ?_ trivial
    split_ifs <;> exact hself
  | some jingle =>
    dsimp only
    split_ifs with hmessage hiq
    · cases hm : JingleMessage.parse stanza with
      | none => exact iff_of_true hself (fun _ h => by cases h)
      | some m =>
        simp only [Option.some.injEq, forall_eq']
        exact onJingleMessage_untouched rfl m
    · exact handleIq_untouched rfl created stanza jingle
    · exact iff_of_true hself trivial

def sessionTerminateIq (sender sid : String) : Element :=
  .mk (ofAscii "iq") [] [] [(ofAscii "from", ofAscii sender), (ofAscii "type", ofAscii "set")]
    [.mk (ofAscii "jingle") (ofAscii "jingle") kJINGLE_NAME
      [(ofAscii "action", ofAscii "session-terminate"), (ofAscii "sid", ofAscii sid)] [] []] []

/-- In Alice's call with Bob a stranger ends a session. -/
theorem touched_by_stranger : ¬∀ (P : Platform) (domain jidBare : QString) (es : List Event) (stanza : Element)
    (created : Bool), (after (step P) (.create domain jidBare) es).callStarted = true →
    Foreign (after (step P) (.create domain jidBare) es) stanza →
    Untouched (after (step P) (.create domain jidBare) es)
      (step P (after (step P) (.create domain jidBare) es) (.stanza stanza created)) := by
  intro h
  have hs := h samplePlatform (ofAscii "chat") (ofAscii "alice@chat")
    (callBob (jingleMessage "accept" "bob@chat/phone" "0")) (sessionTerminateIq "eve@chat/phone" "any") true
    (by decide) (Or.inl (by decide))
  have hend := hs.2 .sessionTerminate (by decide)
  cases hend

end ChatDesktop.Voip
