import ChatDesktop.Voip.ThirdParties

namespace ChatDesktop.Voip

open Library Library.Text Library.Reactive JingleService

/-- `accepted` is the sender of the proposal that the user called `acceptCall` for and has neither rejected
nor ended; `initiator` tells who sent the session-initiate of a peer connection. -/
structure Consent where
  accepted : Option QString := none
  initiator : ℕ → Option QString := fun _ => none

def Consent.note (g : Consent) (s s' : JingleService) : Event → Consent
  | .acceptCall _ => if s.jingle.proposeFrom = [] then g else { g with accepted := some s.jingle.proposeFrom }
  | .rejectCall | .endCall => { g with accepted := none }
  | .stanza stanza _ =>
    { g with initiator := fun n =>
        if (s'.remotes.drop s.remotes.length).any (fun c => decide (c.peer = n)) then
          some (stanza.attributeOf (ofAscii "from"))
        else g.initiator n }
  | _ => g

variable (P : Platform)

def consentStep (s : JingleService × Consent) (e : Event) : JingleService × Consent :=
  (step P s.1 e, s.2.note s.1 (step P s.1 e) e)

def Effect.accepts : Effect → Bool
  | .sendSessionAccept .. => true
  | _ => false

/-- A session-accept goes to whom the user accepted, and answers an offer of theirs. -/
def AcceptsConsented (s : JingleService × Consent) (e : Event) : Prop :=
  ∀ recipient sid sdp, .sendSessionAccept recipient sid sdp ∈ (step P s.1 e).log →
    ∃ i c, e = .answerCreated i sdp ∧ s.1.answers[i]? = some c ∧ s.2.accepted = some recipient ∧
      s.2.initiator c.peer = some recipient

/-! ### When answers are right -/

def JingleService.present (s : JingleService) : Option (ℕ × ℕ) :=
  s.webrtc.bind (fun w => w.peerConnection.map (fun p => (w.number, p.number)))

def JingleService.making (s : JingleService) : List (ℕ × ℕ) :=
  (s.remotes ++ s.answers).map (fun c => (c.client, c.peer))

def JingleService.Answering (s : JingleService) : Prop := ∃ c ∈ s.making, s.present = some c

def peerAfter (s : JingleService) (stanza jingle : Element) : QString :=
  if jingle.attributeOf (ofAscii "action") = ofAscii "session-initiate" ∧
      stanza.attributeOf (ofAscii "type") = ofAscii "set" then stanza.attributeOf (ofAscii "from")
  else s.jingle.sessionSender

def Answered (s : JingleService) (created : Bool) (stanza : Element) : Prop :=
  ∃ offer iceServers sid, .remoteSdpOfferReceived offer iceServers sid ∈ (s.action.parse stanza).2.1 ∧
    Connectable s created iceServers ∧ P.parsesSdp (ofAscii "offer") offer = true

/-- An offer that is answered comes from whom the user accepted. While the answer is made no other peer takes
their place: by an IQ, a call of the user's own or another proposal that is accepted; and no call is rejected
that the service goes on with because it is offline. -/
def Unforced (s : JingleService × Consent) : Event → Prop
  | .stanza stanza created => stanza.tagName = ofAscii "iq" → ∀ jingle, findJingleElement stanza = some jingle →
      (s.1.Answering → peerAfter s.1 stanza jingle = s.1.jingle.sessionSender) ∧
      (Answered P s.1 created stanza → s.2.accepted = some (stanza.attributeOf (ofAscii "from")) ∧
        peerAfter s.1 stanza jingle = stanza.attributeOf (ofAscii "from"))
  | .startCall receiverId _ _ => Startable s.1 receiverId → ¬s.1.Answering
  | .acceptCall _ => s.1.Answering → s.1.jingle.proposeFrom = [] ∨ s.2.accepted = some s.1.jingle.proposeFrom
  | .rejectCall => s.1.connected = false → ¬s.1.Answering
  | _ => True

section

variable {P} {s s' s'' : JingleService} {g g' : Consent}

lemma alive_iff {c : Callback} : s.alive c = true ↔ s.present = some (c.client, c.peer) := by
  rw [alive, present]
  rcases hw : s.webrtc with _ | ⟨client, initialized, _ | peer⟩
  · simp
  · simp
  · simp

lemma not_answering (h : s.present = none) : ¬s.Answering := by
  rintro ⟨c, -, hc⟩
  rw [h] at hc
  cases hc

structure Idles (s s' : JingleService) : Prop where
  present : s'.present = s.present ∨ s'.present = none
  peers : s'.peers = s.peers
  offers : s'.offers ⊆ s.offers
  making : s'.making ⊆ s.making
  remotes : s'.remotes.length ≤ s.remotes.length
  silent : ∀ e ∈ s'.log, e ∈ s.log ∨ e.accepts = false

lemma Idles.refl (s : JingleService) : Idles s s :=
  ⟨Or.inl rfl, rfl, List.Subset.refl _, List.Subset.refl _, le_rfl, fun _ he => Or.inl he⟩

lemma Idles.trans (h : Idles s s') (h' : Idles s' s'') : Idles s s'' := by
  refine ⟨?_, h'.peers.trans h.peers, List.Subset.trans h'.offers h.offers, List.Subset.trans h'.making h.making,
    h'.remotes.trans h.remotes, fun e he => ?_⟩
  · rcases h'.present with hp | hp
    · rw [hp]
      exact h.present
    · exact Or.inr hp
  · rcases h'.silent e he with he | he
    · exact h.silent e he
    · exact Or.inr he

lemma Idles.emit (h : Idles s s') {e : Effect} (he : e.accepts = false) : Idles s (s'.emit e) := by
  refine ⟨h.present, h.peers, h.offers, h.making, h.remotes, fun e' he' => ?_⟩
  obtain he' | he' := List.mem_append.mp he'
  · exact h.silent e' he'
  · rw [List.mem_singleton.mp he']
    exact Or.inr he

lemma Idles.failed (h : Idles s s') (reason : String) : Idles s (s'.signalingFailed reason) := h.emit rfl

lemma Idles.congr (h : Idles s s') (hw : s''.webrtc = s'.webrtc ∨ s''.webrtc = none) (hp : s''.peers = s'.peers)
    (ho : s''.offers = s'.offers) (hr : s''.remotes = s'.remotes) (ha : s''.answers = s'.answers)
    (hl : s''.log = s'.log) : Idles s s'' := by
  have hmaking : s''.making = s'.making := by rw [JingleService.making, hr, ha]; rfl
  refine ⟨?_, hp.trans h.peers, ho ▸ h.offers, hmaking ▸ h.making, hr ▸ h.remotes, hl ▸ h.silent⟩
  obtain hw | hw := hw
  · have hpresent : s''.present = s'.present := by rw [JingleService.present, hw]; rfl
    exact hpresent ▸ h.present
  · right
    rw [JingleService.present, hw]
    rfl

/-! ### What idles -/

lemma idles_prepareMedia (initialized : Bool) (s : JingleService) : Idles s (s.prepareMedia initialized).2 := by
  have hs := Idles.refl s
  unfold prepareMedia
  cases hw : s.webrtc with
  | none =>
    cases initialized with
    | false =>
      refine Idles.failed ?_ _
      exact hs.congr (Or.inr rfl) rfl rfl rfl rfl rfl
    | true => exact ⟨Or.inr rfl, rfl, List.Subset.refl _, List.Subset.refl _, le_rfl, fun _ he => Or.inl he⟩
  | some w =>
    cases hm : s.mediaPrepared with
    | true =>
      simp only [Option.isNone_some, Bool.false_eq_true, if_false, hm, if_true]
      exact hs
    | false =>
      simp only [Option.isNone_some, Bool.false_eq_true, if_false, hm]
      cases initialized with
      | false =>
        refine Idles.failed ?_ _
        exact hs.congr (Or.inr rfl) rfl rfl rfl rfl rfl
      | true =>
        refine ⟨Or.inl ?_, rfl, List.Subset.refl _, List.Subset.refl _, le_rfl, fun _ he => Or.inl he⟩
        simp only [JingleService.present, hw]
        rfl

lemma idles_onAcceptReceived (accept mid : QString) (s : JingleService) :
    Idles s (s.onAcceptReceived accept mid) := by
  obtain he | ⟨reason, he⟩ | ⟨-, he⟩ := onAcceptReceived_cases accept mid s
  · rw [he]
    exact Idles.refl s
  · rw [he]
    exact (Idles.refl s).failed reason
  · rw [he]
    refine Idles.emit (Idles.emit ?_ rfl) rfl
    exact (Idles.refl s).congr (Or.inl rfl) rfl rfl rfl rfl rfl

lemma idles_onJingleMessage (m : JingleMessage) (s : JingleService) : Idles s (s.onJingleMessage m) := by
  have hs := Idles.refl s
  unfold onJingleMessage
  cases m.type with
  | propose =>
    have hproposed : Idles s { s with jingle := { s.jingle with proposeFrom := m.sender, mid := m.sessionId } } :=
      hs.congr (Or.inl rfl) rfl rfl rfl rfl rfl
    have hringing := hproposed.emit (e := .sendMessage .ringing m.sender m.sessionId []) rfl
    refine Idles.emit ?_ rfl
    exact hringing.congr (Or.inl rfl) rfl rfl rfl rfl rfl
  | retract => exact (hs.emit rfl).emit rfl
  | ringing => exact hs.emit rfl
  | accept => exact (hs.emit rfl).trans (idles_onAcceptReceived ..)
  | proceed => exact hs.emit rfl
  | reject => exact (hs.emit rfl).emit rfl
  | finish => exact hs.emit rfl

lemma present_apply (a : Applied) (s : JingleService) : (s.apply a).present = s.present := by
  simp only [JingleService.present, apply]
  rcases s.webrtc with _ | ⟨client, initialized, _ | peer⟩ <;> rfl

lemma Idles.apply (h : Idles s s') (a : Applied) : Idles s (s'.apply a) :=
  ⟨present_apply a s' ▸ h.present, h.peers, h.offers, h.making, h.remotes, h.silent⟩

lemma idles_answer (created : Bool) (answer sid : QString) (s : JingleService) :
    Idles s (s.onJingleAction P created (.remoteSdpAnswerReceived answer sid)) := by
  unfold onJingleAction
  obtain ⟨-, he⟩ | ⟨-, he⟩ := setRemoteSdp_cases (P := P) (ofAscii "answer") answer s
  · simp only [he, if_true]
    exact (Idles.refl s).apply _
  · simp only [he, Bool.false_eq_true, if_false]
    exact (Idles.refl s).failed _

lemma idles_candidate (created : Bool) (sdp sdpMid : QString) (i : Int) (s : JingleService) :
    Idles s (s.onJingleAction P created (.exchangeIceCandidateReceived sdp sdpMid i)) := by
  have hc : ActionSignal.exchangeIceCandidateReceived sdp sdpMid i = .exchangeIceCandidateReceived sdp sdpMid i := rfl
  obtain ⟨-, he⟩ | ⟨-, he | he⟩ := onCandidate_cases (P := P) created s hc
  · rw [he]
    exact (Idles.refl s).apply _
  · rw [he]
    exact Idles.refl s
  · rw [he]
    exact (Idles.refl s).emit rfl

lemma idles_candidates (created : Bool) {cs : List ActionSignal} (s : JingleService)
    (hcs : ∀ c ∈ cs, ∃ sdp sdpMid i, c = .exchangeIceCandidateReceived sdp sdpMid i) :
    Idles s (cs.foldl (onJingleAction P created) s) := by
  induction cs generalizing s with
  | nil => exact Idles.refl s
  | cons c cs ih =>
    obtain ⟨sdp, sdpMid, i, rfl⟩ := hcs c List.mem_cons_self
    exact (idles_candidate created sdp sdpMid i s).trans (ih _ fun c hc => hcs c (List.mem_cons_of_mem _ hc))

lemma idles_onPeerState (state : ConnectionState) (s : JingleService) : Idles s (s.onPeerState state) := by
  have hs := Idles.refl s
  unfold onPeerState
  split_ifs
  · exact hs
  · refine Idles.emit ?_ rfl
    cases state with
    | connected => exact hs.emit rfl
    | disconnect => exact hs.emit rfl
    | _ => exact hs

lemma idles_prepare (initialized : Bool) (s : JingleService) : Idles s (s.prepare initialized) := by
  unfold JingleService.prepare
  split_ifs
  · exact Idles.refl s
  · exact idles_prepareMedia initialized s

lemma idles_isConnected (s : JingleService) : Idles s s.isConnected.2 := by
  unfold isConnected
  split_ifs
  · exact Idles.refl s
  · exact (Idles.refl s).failed _

lemma idles_acceptCall (initialized : Bool) (s : JingleService) : Idles s (s.acceptCall initialized) := by
  unfold JingleService.acceptCall
  have hconn := idles_isConnected s
  rcases hc : s.isConnected with ⟨connected, s₁⟩
  rw [hc] at hconn
  cases connected with
  | false => exact hconn
  | true =>
    have hmedia := hconn.trans (idles_prepareMedia initialized s₁)
    dsimp only
    rcases hp : s₁.prepareMedia initialized with ⟨prepared, s₂⟩
    rw [hp] at hmedia
    cases prepared with
    | false => exact hmedia
    | true =>
      have hstarted : Idles s { s₂ with callStarted := true } := hmedia.congr (Or.inl rfl) rfl rfl rfl rfl rfl
      simp only [Bool.not_true, Bool.false_eq_true, if_false, sendAccept]
      split_ifs
      · exact hstarted
      · exact (hstarted.emit rfl).emit rfl

lemma idles_sessionTerminate (s : JingleService) : Idles s s.sessionTerminate := by
  unfold JingleService.sessionTerminate
  split_ifs
  · exact Idles.refl s
  · exact (Idles.refl s).emit rfl

lemma idles_endCall (s : JingleService) : Idles s s.endCall := by
  unfold JingleService.endCall
  have hend : Idles s (if s.callStarted && s.connected then s.sessionTerminate else s) := by
    split_ifs
    · exact idles_sessionTerminate s
    · exact Idles.refl s
  dsimp only
  generalize (if s.callStarted && s.connected then s.sessionTerminate else s) = s₁ at hend ⊢
  have hstate : Idles s (if s₁.hasPeerConnection then
      (s₁.emit (.callStateChange .reconnect)).emit (.connectionStateChange .disconnect) else s₁) := by
    split_ifs
    · exact (hend.emit rfl).emit rfl
    · exact hend
  exact hstate.congr (Or.inr rfl) rfl rfl rfl rfl rfl

lemma idles_rejectCall (s : JingleService) : Idles s s.rejectCall := by
  unfold JingleService.rejectCall isConnected
  split_ifs with hc
  · exact ((Idles.refl s).emit rfl).congr (Or.inr rfl) rfl rfl rfl rfl rfl
  · exact (Idles.refl s).failed _

lemma idles_startCall (receiverId : QString) (video initialized : Bool) (s : JingleService) :
    Idles s (s.startCall P receiverId video initialized) := by
  have hs := Idles.refl s
  have hcalling : Idles s (JingleService.emit (.callStateChange .calling)
      { s with recipientId := s.recipientOf receiverId, videoCall := video }) := by
    refine Idles.emit ?_ rfl
    exact hs.congr (Or.inl rfl) rfl rfl rfl rfl rfl
  have hmedia := hcalling.trans (idles_prepareMedia initialized _)
  unfold JingleService.startCall
  dsimp only
  split_ifs
  · exact hs.failed _
  · exact hs.failed _
  · exact hs.failed _
  · exact hmedia
  · refine Idles.emit ?_ rfl
    exact hmedia.congr (Or.inl rfl) rfl rfl rfl rfl rfl

/-! ### The signals of an IQ -/

lemma parse_signals (a : JingleAction) (stanza : Element) :
    (∃ offer iceServers sid, (a.parse stanza).2.1 = [.remoteSdpOfferReceived offer iceServers sid]) ∨
      ∀ s : JingleService, ∀ created, Idles s ((a.parse stanza).2.1.foldl (onJingleAction P created) s) := by
  have hnone : ∀ s : JingleService, ∀ created : Bool,
      Idles s (([] : List ActionSignal).foldl (onJingleAction P created) s) := fun s _ => Idles.refl s
  unfold JingleAction.parse
  cases JingleAction.jingleOf stanza with
  | none => exact Or.inr hnone
  | some jingle =>
    dsimp only
    cases ActionType.fromString (jingle.attributeOf (ofAscii "action")) with
    | none => exact Or.inr hnone
    | some action =>
      dsimp only
      by_cases hsid : jingle.attributeOf (ofAscii "sid") = []
      · rw [if_pos hsid]
        exact Or.inr hnone
      rw [if_neg hsid]
      cases action with
      | sessionInitiate =>
        cases JingleAction.offered jingle with
        | none => exact Or.inr hnone
        | some c => exact Or.inl ⟨_, _, _, rfl⟩
      | sessionAccept =>
        dsimp only
        split_ifs
        · exact Or.inr hnone
        · cases JingleAction.answered jingle with
          | none => exact Or.inr hnone
          | some answer =>
            exact Or.inr (fun s created => idles_answer created answer (jingle.attributeOf (ofAscii "sid")) s)
      | sessionTerminate => exact Or.inr (fun s _ => (Idles.refl s).emit rfl)
      | sessionTransport =>
        dsimp only
        split_ifs
        · exact Or.inr hnone
        · exact Or.inr (fun s created => idles_candidates created s fun _ => exchange_of_mem_candidates)
      | _ => exact Or.inr hnone

lemma onRemoteSdpOfferReceived_effect (created : Bool) (offer sid : QString) (iceServers : List IceServer)
    (s : JingleService) :
    Idles s (s.onRemoteSdpOfferReceived P created offer iceServers sid) ∨
    ∃ n s', s.onRemoteSdpOfferReceived P created offer iceServers sid = s' ∧ s'.present = some (n, s.peers) ∧
      s'.peers = s.peers + 1 ∧ s'.offers = s.offers ∧ s'.answers = s.answers ∧
      (∀ e ∈ s'.log, e ∈ s.log ∨ e.accepts = false) ∧
      (s'.remotes = s.remotes ∨ Connectable s created iceServers ∧ P.parsesSdp (ofAscii "offer") offer = true ∧
        s'.remotes = s.remotes ++ [⟨n, s.peers, []⟩]) := by
  have hsid : Idles s { s with jingle := { s.jingle with currentSid := sid } } :=
    (Idles.refl s).congr (Or.inl rfl) rfl rfl rfl rfl rfl
  unfold onRemoteSdpOfferReceived
  dsimp only
  split
  · exact Or.inl (hsid.failed _)
  · rename_i w hw
    obtain he | ⟨-, -, he⟩ := createPeerConnection_cases created iceServers w
      { s with jingle := { s.jingle with currentSid := sid } }
    · rw [he]
      exact Or.inl (hsid.failed _)
    · have hconn : Connectable s created iceServers := by
        obtain ⟨hconn, -⟩ | ⟨-, he'⟩ := createPeerConnection_connectable created iceServers
          (s := { s with jingle := { s.jingle with currentSid := sid } }) hw
        · exact hconn
        · rw [he'] at he
          cases congrArg Prod.fst he
      rw [he]
      simp only [Bool.not_true, Bool.false_eq_true, if_false]
      obtain ⟨⟨-, hparse⟩, hset⟩ | ⟨-, hset⟩ := setRemoteSdp_cases (P := P) (ofAscii "offer") offer
        { s with
          jingle := { s.jingle with currentSid := sid }
          webrtc := some { w with peerConnection := some ⟨s.peers, iceServers, []⟩ }
          peers := s.peers + 1 }
      · rw [hset]
        exact Or.inr ⟨w.number, _, rfl, rfl, rfl, rfl, rfl, fun _ he => Or.inl he, Or.inr ⟨hconn, hparse, rfl⟩⟩
      · rw [hset]
        refine Or.inr ⟨w.number, _, rfl, rfl, rfl, rfl, rfl, fun e he => ?_, Or.inl rfl⟩
        obtain he | he := List.mem_append.mp he
        · exact Or.inl he
        · rw [List.mem_singleton.mp he]
          exact Or.inr rfl

/-! ### Every answer has its reason -/

/-- Each answer that is made for the connection at hand is for the peer, whom the user accepted and whose offer
it answers; connections that answers are made for are not those of offers. -/
structure Answerable (s : JingleService) (g : Consent) : Prop where
  peer : ∀ c, s.present = some c → c.2 < s.peers
  making_lt : ∀ c ∈ s.making, c.2 < s.peers
  offer_lt : ∀ c ∈ s.offers, c.peer < s.peers
  apart : ∀ c ∈ s.offers, ∀ c' ∈ s.making, c.peer ≠ c'.2
  pending : ∀ c ∈ s.making, s.present = some c →
    g.accepted = some s.jingle.sessionSender ∧ g.initiator c.2 = some s.jingle.sessionSender

lemma Idles.answering (h : Idles s s') (ha : s'.Answering) : s.Answering ∧ s'.present = s.present := by
  obtain ⟨c, hc, hp⟩ := ha
  have hsame : s'.present = s.present := h.present.resolve_right (fun hn => by rw [hn] at hp; cases hp)
  exact ⟨⟨c, h.making hc, hsame ▸ hp⟩, hsame⟩

lemma Answerable.idles (h : Answerable s g) (hi : Idles s s')
    (hwho : s'.Answering → s'.jingle.sessionSender = s.jingle.sessionSender ∧ g' = g) : Answerable s' g' := by
  refine ⟨fun c hc => ?_, fun c hc => ?_, fun c hc => ?_, fun c hc c' hc' => ?_, fun c hc hp => ?_⟩
  · rw [hi.peers]
    obtain hp | hp := hi.present
    · exact h.peer c (hp ▸ hc)
    · rw [hp] at hc
      cases hc
  · rw [hi.peers]
    exact h.making_lt c (hi.making hc)
  · rw [hi.peers]
    exact h.offer_lt c (hi.offers hc)
  · exact h.apart c (hi.offers hc) c' (hi.making hc')
  · obtain ⟨hsender, rfl⟩ := hwho ⟨c, hc, hp⟩
    obtain ⟨-, hsame⟩ := hi.answering ⟨c, hc, hp⟩
    rw [hsender]
    exact h.pending c (hi.making hc) (hsame ▸ hp)

lemma Answerable.connection (h : Answerable s g) {w : WebrtcClient} (iceServers : List IceServer) :
    Answerable ({ s with
      webrtc := some { w with peerConnection := some ⟨s.peers, iceServers, []⟩ }
      peers := s.peers + 1 }.createOffer iceServers) g := by
  refine ⟨fun c hc => ?_, fun c hc => Nat.lt_succ_of_lt (h.making_lt c hc), fun c hc => ?_, fun c hc c' hc' => ?_,
    fun c hc hp => ?_⟩
  · rw [← Option.some.inj hc]
    exact Nat.lt_succ_self _
  · obtain hc | hc := List.mem_append.mp hc
    · exact Nat.lt_succ_of_lt (h.offer_lt c hc)
    · rw [List.mem_singleton.mp hc]
      exact Nat.lt_succ_self _
  · obtain hc | hc := List.mem_append.mp hc
    · exact h.apart c hc c' hc'
    · rw [List.mem_singleton.mp hc]
      exact (h.making_lt c' hc').ne'
  · have hlt := h.making_lt c hc
    rw [← Option.some.inj hp] at hlt
    exact absurd hlt (lt_irrefl _)

lemma Answerable.discovery (h : Answerable s g) (services : Option (List ExternalService)) (created : Bool) :
    Answerable (s.onDiscovery services created) g ∧
      ∀ e ∈ (s.onDiscovery services created).log, e ∈ s.log ∨ e.accepts = false := by
  have hs : Idles s { s with discoveries := s.discoveries - 1 } :=
    (Idles.refl s).congr (Or.inl rfl) rfl rfl rfl rfl rfl
  have hkept : ∀ {s'}, Idles s s' → s'.jingle.sessionSender = s.jingle.sessionSender →
      Answerable s' g ∧ ∀ e ∈ s'.log, e ∈ s.log ∨ e.accepts = false :=
    fun hi hsender => ⟨h.idles hi (fun _ => ⟨hsender, rfl⟩), hi.silent⟩
  unfold onDiscovery
  split_ifs with hd
  · exact hkept (Idles.refl s) rfl
  cases services with
  | none => exact hkept hs rfl
  | some services =>
    dsimp only
    obtain he | he | ⟨w, iceServers, -, -, -, he⟩ :=
      onExternalServiceReceived_cases services created { s with discoveries := s.discoveries - 1 }
    · rw [he]
      exact hkept hs rfl
    · rw [he]
      exact hkept (hs.failed _) rfl
    · rw [he]
      exact ⟨(hkept hs rfl).1.connection iceServers, fun _ he => Or.inl he⟩

lemma Answerable.offerCreated (h : Answerable s g) (i : ℕ) (sdp : QString) :
    Answerable (s.onOfferCreated P i sdp) g ∧
      ∀ e ∈ (s.onOfferCreated P i sdp).log, e ∈ s.log ∨ e.accepts = false := by
  have herase : Idles s { s with offers := s.offers.eraseIdx i } :=
    ⟨Or.inl rfl, rfl, List.eraseIdx_subset, List.Subset.refl _, le_rfl, fun _ he => Or.inl he⟩
  obtain he | ⟨c, hc, he | ⟨ha, sid, jingle, action, uuids, he⟩⟩ := onOfferCreated_cases (P := P) i sdp s
  · rw [he]
    exact ⟨h, fun _ he => Or.inl he⟩
  · rw [he]
    exact ⟨h.idles herase (fun _ => ⟨rfl, rfl⟩), herase.silent⟩
  · have hno : ¬s.Answering := by
      rintro ⟨c', hc', hp⟩
      rw [alive_iff, hp] at ha
      exact h.apart c (List.mem_of_getElem? hc) c' hc' (congrArg Prod.snd (Option.some.inj ha)).symm
    rw [he]
    have hsent : Idles s ({ s with
        offers := s.offers.eraseIdx i, jingle := jingle, action := action, uuids := uuids }.emit
          (.sendSessionInitiate s.recipientId sid sdp c.iceServers)) := by
      refine Idles.emit ?_ rfl
      exact herase.congr (Or.inl rfl) rfl rfl rfl rfl rfl
    exact ⟨h.idles hsent (fun hn => absurd (hsent.answering hn).1 hno), hsent.silent⟩

lemma callback_of_alive {c : Callback} (h : s.alive c = true) (iceServers : List IceServer) :
    s.callback iceServers = [⟨c.client, c.peer, iceServers⟩] := by
  rw [alive] at h
  rw [callback]
  rcases hw : s.webrtc with _ | ⟨client, initialized, _ | peer⟩
  · rw [hw] at h
    cases h
  · rw [hw] at h
    cases h
  · rw [hw] at h
    obtain ⟨hclient, hpeer⟩ := of_decide_eq_true h
    dsimp only
    rw [hclient, hpeer]

lemma idles_onRemoteApplied (i : ℕ) (s : JingleService) : Idles s (s.onRemoteApplied i) := by
  unfold onRemoteApplied
  cases hc : s.remotes[i]? with
  | none => exact Idles.refl s
  | some c =>
    have hsub : (s.remotes.eraseIdx i ++ s.answers).map (fun c => (c.client, c.peer)) ⊆ s.making :=
      List.map_subset _ (List.append_subset.mpr ⟨List.Subset.trans List.eraseIdx_subset (List.subset_append_left _ _),
        List.subset_append_right _ _⟩)
    dsimp only
    by_cases ha : s.alive c = true
    · have ha' : alive c { s with remotes := s.remotes.eraseIdx i } = true := ha
      rw [if_pos ha', createAnswer, callback_of_alive ha']
      refine ⟨Or.inl rfl, rfl, List.Subset.refl _, ?_, List.length_eraseIdx_le .., fun _ he => Or.inl he⟩
      have hmem : (c.client, c.peer) ∈ s.making :=
        List.mem_map.mpr ⟨c, List.mem_append_left _ (List.mem_of_getElem? hc), rfl⟩
      rw [JingleService.making, ← List.append_assoc, List.map_append]
      exact List.append_subset.mpr ⟨hsub, List.cons_subset.mpr ⟨hmem, List.nil_subset _⟩⟩
    · have ha' : ¬alive c { s with remotes := s.remotes.eraseIdx i } = true := ha
      rw [if_neg ha']
      exact ⟨Or.inl rfl, rfl, List.Subset.refl _, hsub, List.length_eraseIdx_le .., fun _ he => Or.inl he⟩

lemma sender_onRemoteApplied (i : ℕ) (s : JingleService) :
    (s.onRemoteApplied i).jingle.sessionSender = s.jingle.sessionSender := by
  unfold onRemoteApplied
  cases s.remotes[i]? with
  | none => rfl
  | some c =>
    dsimp only
    split_ifs <;> rfl

lemma onAnswerCreated_cases (i : ℕ) (sdp : QString) (s : JingleService) :
    s.onAnswerCreated i sdp = s ∨ s.onAnswerCreated i sdp = { s with answers := s.answers.eraseIdx i } ∨
    ∃ c, s.answers[i]? = some c ∧ s.alive c = true ∧ s.onAnswerCreated i sdp =
      { s with answers := s.answers.eraseIdx i }.emit
        (.sendSessionAccept s.jingle.sessionSender s.action.currentSid sdp) := by
  unfold onAnswerCreated
  cases hc : s.answers[i]? with
  | none => exact Or.inl rfl
  | some c =>
    right
    dsimp only
    by_cases ha : s.alive c = true
    · have ha' : alive c { s with answers := s.answers.eraseIdx i } = true := ha
      rw [if_pos ha', JingleService.sessionAccept]
      split_ifs
      · exact Or.inl rfl
      · exact Or.inr ⟨c, rfl, ha, rfl⟩
    · have ha' : ¬alive c { s with answers := s.answers.eraseIdx i } = true := ha
      exact Or.inl (if_neg ha')

lemma Answerable.emit (h : Answerable s g) (e : Effect) : Answerable (s.emit e) g :=
  ⟨h.peer, h.making_lt, h.offer_lt, h.apart, h.pending⟩

lemma Answerable.answerCreated (h : Answerable s g) (hlog : s.log = []) (i : ℕ) (sdp : QString) :
    Answerable (s.onAnswerCreated i sdp) g ∧ ∀ recipient sid sdp',
      .sendSessionAccept recipient sid sdp' ∈ (s.onAnswerCreated i sdp).log → sdp' = sdp ∧
        ∃ c, s.answers[i]? = some c ∧ g.accepted = some recipient ∧ g.initiator c.peer = some recipient := by
  have hsub : (s.remotes ++ s.answers.eraseIdx i).map (fun c => (c.client, c.peer)) ⊆ s.making :=
    List.map_subset _ (List.append_subset.mpr ⟨List.subset_append_left _ _,
      List.Subset.trans List.eraseIdx_subset (List.subset_append_right _ _)⟩)
  have herase : Idles s { s with answers := s.answers.eraseIdx i } :=
    ⟨Or.inl rfl, rfl, List.Subset.refl _, hsub, le_rfl, fun _ he => Or.inl he⟩
  have hkept : Answerable { s with answers := s.answers.eraseIdx i } g := h.idles herase (fun _ => ⟨rfl, rfl⟩)
  obtain he | he | ⟨c, hc, ha, he⟩ := onAnswerCreated_cases i sdp s
  · rw [he, hlog]
    exact ⟨h, fun _ _ _ hm => absurd hm List.not_mem_nil⟩
  · rw [he]
    refine ⟨hkept, fun _ _ _ hm => ?_⟩
    change _ ∈ s.log at hm
    rw [hlog] at hm
    exact absurd hm List.not_mem_nil
  · rw [he]
    refine ⟨hkept.emit _, fun recipient sid sdp' hm => ?_⟩
    simp only [JingleService.emit, hlog, List.nil_append, List.mem_singleton] at hm
    obtain ⟨rfl, rfl, rfl⟩ := Effect.sendSessionAccept.inj hm
    have hmem : (c.client, c.peer) ∈ s.making :=
      List.mem_map.mpr ⟨c, List.mem_append_right _ (List.mem_of_getElem? hc), rfl⟩
    obtain ⟨haccepted, hinitiator⟩ := h.pending _ hmem (alive_iff.mp ha)
    exact ⟨rfl, c, hc, haccepted, hinitiator⟩

/-! ### Stanzas -/

lemma Consent.note_stanza (g : Consent) (h : s'.remotes.length ≤ s.remotes.length) (stanza : Element)
    (created : Bool) : g.note s s' (.stanza stanza created) = g := by
  rw [Consent.note, List.drop_eq_nil_of_le h]
  rfl

lemma Answerable.offered (h : Answerable s g) {n : ℕ} (hp : s'.present = some (n, s.peers))
    (hpeers : s'.peers = s.peers + 1) (hoffers : s'.offers = s.offers)
    (hmaking : ∀ c ∈ s'.making, c ∈ s.making ∨ c = (n, s.peers) ∧ g'.accepted = some s'.jingle.sessionSender ∧
      g'.initiator s.peers = some s'.jingle.sessionSender) : Answerable s' g' := by
  refine ⟨fun c hc => ?_, fun c hc => ?_, fun c hc => ?_, fun c hc c' hc' => ?_, fun c hc hpc => ?_⟩
  · rw [hp] at hc
    rw [hpeers, ← Option.some.inj hc]
    exact Nat.lt_succ_self _
  · rw [hpeers]
    obtain hold | ⟨rfl, -⟩ := hmaking c hc
    · exact Nat.lt_succ_of_lt (h.making_lt c hold)
    · exact Nat.lt_succ_self _
  · rw [hpeers]
    exact Nat.lt_succ_of_lt (h.offer_lt c (hoffers ▸ hc))
  · rw [hoffers] at hc
    obtain hold | ⟨rfl, -⟩ := hmaking c' hc'
    · exact h.apart c hc c' hold
    · exact (h.offer_lt c hc).ne
  · obtain hold | ⟨rfl, hreason⟩ := hmaking c hc
    · have hlt := h.making_lt c hold
      rw [← Option.some.inj (hp.symm.trans hpc)] at hlt
      exact absurd hlt (lt_irrefl _)
    · exact hreason

lemma sender_onJingleMessage (m : JingleMessage) (s : JingleService) :
    (s.onJingleMessage m).jingle.sessionSender = s.jingle.sessionSender := by
  unfold onJingleMessage
  cases m.type with
  | accept =>
    dsimp only
    obtain he | ⟨reason, he⟩ | ⟨-, he⟩ :=
      onAcceptReceived_cases m.sender m.sessionId (s.emit (.callStateChange .exchange)) <;>
    · rw [he]
      rfl
  | _ => rfl

lemma Answerable.action (h : Answerable s g) (created : Bool) {stanza jingle : Element}
    (hiq : stanza.tagName = ofAscii "iq") (hj : findJingleElement stanza = some jingle)
    (hu : Unforced P (s, g) (.stanza stanza created)) (action : JingleAction) {s₂ : JingleService}
    (he : (s.action.parse stanza).2.1.foldl (onJingleAction P created)
      { s with jingle := { s.jingle with sessionSender := peerAfter s stanza jingle }, action := action } = s₂) :
    Answerable s₂ (g.note s s₂ (.stanza stanza created)) ∧ ∀ e ∈ s₂.log, e ∈ s.log ∨ e.accepts = false := by
  obtain ⟨hsame, hanswered⟩ := hu hiq jingle hj
  have hsender : s₂.jingle.sessionSender = peerAfter s stanza jingle := by
    rw [← he, sessionSender_onJingleActions]
  have hs : Idles s { s with
      jingle := { s.jingle with sessionSender := peerAfter s stanza jingle }, action := action } :=
    (Idles.refl s).congr (Or.inl rfl) rfl rfl rfl rfl rfl
  have hidle : Idles s s₂ →
      Answerable s₂ (g.note s s₂ (.stanza stanza created)) ∧ ∀ e ∈ s₂.log, e ∈ s.log ∨ e.accepts = false := by
    intro hi
    rw [g.note_stanza hi.remotes]
    exact ⟨h.idles hi (fun ha => ⟨hsender.trans (hsame (hi.answering ha).1), rfl⟩), hi.silent⟩
  obtain ⟨offer, iceServers, sid, hsignals⟩ | hall := parse_signals (P := P) s.action stanza
  · rw [hsignals, List.foldl_cons, List.foldl_nil] at he
    obtain hi | ⟨n, s₃, he', hp, hpeers, hoffers, hanswers, hsilent, hremotes⟩ :=
      onRemoteSdpOfferReceived_effect (P := P) created offer sid iceServers
        { s with jingle := { s.jingle with sessionSender := peerAfter s stanza jingle }, action := action }
    · exact hidle (hs.trans (he ▸ hi))
    · obtain rfl : s₃ = s₂ := he'.symm.trans he
      refine ⟨h.offered hp hpeers hoffers ?_, hsilent⟩
      obtain hremotes | ⟨hconn, hparse, hremotes⟩ := hremotes
      · intro c hc
        rw [JingleService.making, hremotes, hanswers] at hc
        exact Or.inl hc
      · have hmem : .remoteSdpOfferReceived offer iceServers sid ∈ (s.action.parse stanza).2.1 := by
          rw [hsignals]
          exact List.mem_cons_self
        obtain ⟨haccepted, hpeer⟩ := hanswered ⟨offer, iceServers, sid, hmem, hconn, hparse⟩
        intro c hc
        rw [JingleService.making, hremotes, hanswers, List.mem_map] at hc
        obtain ⟨c', hc', rfl⟩ := hc
        rw [List.append_assoc, List.mem_append, List.mem_append, List.mem_singleton] at hc'
        obtain hc' | rfl | hc' := hc'
        · exact Or.inl (List.mem_map.mpr ⟨c', List.mem_append_left _ hc', rfl⟩)
        · refine Or.inr ⟨rfl, ?_, ?_⟩
          · rw [hsender, hpeer]
            exact haccepted
          · have hnew : s₃.remotes.drop s.remotes.length = [⟨n, s.peers, []⟩] := by
              rw [hremotes]
              exact List.drop_left
            rw [hsender, hpeer, Consent.note]
            dsimp only
            rw [hnew]
            exact if_pos (by simp)
        · exact Or.inl (List.mem_map.mpr ⟨c', List.mem_append_right _ hc', rfl⟩)
  · exact hidle (hs.trans (he ▸ hall _ created))

lemma Answerable.stanza (h : Answerable s g) {stanza : Element} {created : Bool}
    (hu : Unforced P (s, g) (.stanza stanza created)) :
    Answerable (s.handleStanza P created stanza)
        (g.note s (s.handleStanza P created stanza) (.stanza stanza created)) ∧
      ∀ e ∈ (s.handleStanza P created stanza).log, e ∈ s.log ∨ e.accepts = false := by
  have hsame : Answerable s (g.note s s (.stanza stanza created)) ∧ ∀ e ∈ s.log, e ∈ s.log ∨ e.accepts = false :=
    ⟨(g.note_stanza le_rfl stanza created).symm ▸ h, fun _ he => Or.inl he⟩
  unfold handleStanza
  split_ifs with hmessage hiq
  · cases hj : findJingleElement stanza with
    | none => exact hsame
    | some jingle =>
      dsimp only
      cases hm : JingleMessage.parse stanza with
      | none => exact hsame
      | some m =>
        have hi := idles_onJingleMessage m s
        dsimp only
        rw [g.note_stanza hi.remotes]
        exact ⟨h.idles hi (fun _ => ⟨sender_onJingleMessage m s, rfl⟩), hi.silent⟩
  · cases hj : findJingleElement stanza with
    | none => exact hsame
    | some jingle =>
      have hpeer : (if jingle.attributeOf (ofAscii "action") = ofAscii "session-initiate" ∧
          stanza.attributeOf (ofAscii "type") = ofAscii "set" then
          { s with jingle := { s.jingle with sessionSender := stanza.attributeOf (ofAscii "from") } } else s) =
          { s with jingle := { s.jingle with sessionSender := peerAfter s stanza jingle } } := by
        unfold peerAfter
        split_ifs <;> rfl
      dsimp only
      rw [handleIq, hpeer]
      dsimp only
      obtain ⟨hs₂, hsilent⟩ := h.action created hiq hj hu (s.action.parse stanza).2.2 rfl
      cases (s.action.parse stanza).1 with
      | false => exact ⟨hs₂, hsilent⟩
      | true =>
        refine ⟨hs₂.emit _, fun e he => ?_⟩
        obtain he | he := List.mem_append.mp he
        · exact hsilent e he
        · rw [List.mem_singleton.mp he]
          exact Or.inr rfl
  · exact hsame

/-! ### The user's calls -/

lemma sender_prepareMedia (initialized : Bool) (s : JingleService) :
    (s.prepareMedia initialized).2.jingle.sessionSender = s.jingle.sessionSender := by
  unfold prepareMedia
  dsimp only
  split_ifs <;> rfl

lemma sender_prepare (initialized : Bool) (s : JingleService) :
    (s.prepare initialized).jingle.sessionSender = s.jingle.sessionSender := by
  unfold JingleService.prepare
  split_ifs
  · rfl
  · exact sender_prepareMedia initialized s

lemma sender_acceptCall (initialized : Bool) (s : JingleService) :
    (s.acceptCall initialized).jingle.sessionSender = s.jingle.sessionSender := by
  unfold JingleService.acceptCall isConnected
  split_ifs
  · simp only [Bool.not_true, Bool.false_eq_true, if_false, sendAccept]
    split_ifs
    · exact sender_prepareMedia initialized s
    · exact sender_prepareMedia initialized s
    · exact sender_prepareMedia initialized s
  · rfl

lemma sender_onPeerState (state : ConnectionState) (s : JingleService) :
    (s.onPeerState state).jingle.sessionSender = s.jingle.sessionSender := by
  unfold onPeerState
  split_ifs
  · rfl
  · cases state <;> rfl

lemma Answerable.acceptCall (h : Answerable s g) (initialized : Bool)
    (hu : Unforced P (s, g) (.acceptCall initialized)) :
    Answerable (s.acceptCall initialized) (g.note s (s.acceptCall initialized) (.acceptCall initialized)) := by
  have hi := idles_acceptCall initialized s
  refine h.idles hi (fun ha => ⟨sender_acceptCall initialized s, ?_⟩)
  rw [Consent.note]
  split_ifs with hnone
  · rfl
  · rw [← (hu (hi.answering ha).1).resolve_left hnone]

lemma Answerable.rejectCall (h : Answerable s g) (hu : Unforced P (s, g) .rejectCall) :
    Answerable s.rejectCall (g.note s s.rejectCall .rejectCall) := by
  have hi := idles_rejectCall s
  refine h.idles hi (fun ha => ?_)
  cases hc : s.connected with
  | false => exact absurd (hi.answering ha).1 (hu hc)
  | true =>
    have hgone : s.rejectCall.present = none := by
      unfold JingleService.rejectCall isConnected
      rw [hc]
      rfl
    exact absurd ha (not_answering hgone)

lemma Answerable.startCall (h : Answerable s g) (receiverId : QString) (video initialized : Bool)
    (hu : Unforced P (s, g) (.startCall receiverId video initialized)) :
    Answerable (s.startCall P receiverId video initialized) g := by
  have hi := idles_startCall (P := P) receiverId video initialized s
  refine h.idles hi (fun ha => ?_)
  obtain ⟨reason, he⟩ | ⟨hstart, -⟩ := startCall_cases (P := P) s receiverId video initialized
  · rw [he]
    exact ⟨rfl, rfl⟩
  · exact absurd (hi.answering ha).1 (hu hstart)

lemma acceptsConsented_of_silent {s : JingleService × Consent} {e : Event}
    (h : ∀ e' ∈ (step P s.1 e).log, e' ∈ ([] : List Effect) ∨ e'.accepts = false) : AcceptsConsented P s e := by
  intro recipient sid sdp hm
  obtain hn | hn := h _ hm
  · cases hn
  · cases hn

lemma Answerable.step {s : JingleService × Consent} (h : Answerable s.1 s.2) {e : Event} (hu : Unforced P s e) :
    Answerable (consentStep P s e).1 (consentStep P s e).2 ∧ AcceptsConsented P s e := by
  obtain ⟨s, g⟩ := s
  have h' : Answerable { s with log := [] } g := ⟨h.peer, h.making_lt, h.offer_lt, h.apart, h.pending⟩
  have hkept : ∀ {s'}, Idles { s with log := [] } s' → s'.jingle.sessionSender = s.jingle.sessionSender →
      Answerable s' g := fun hi hsender => h'.idles hi (fun _ => ⟨hsender, rfl⟩)
  cases e with
  | stanza stanza created =>
    obtain ⟨hs, hsilent⟩ := h'.stanza (P := P) hu
    exact ⟨hs, acceptsConsented_of_silent hsilent⟩
  | discovery services created =>
    obtain ⟨hs, hsilent⟩ := h'.discovery services created
    exact ⟨hs, acceptsConsented_of_silent hsilent⟩
  | offerCreated i sdp =>
    obtain ⟨hs, hsilent⟩ := h'.offerCreated (P := P) i sdp
    exact ⟨hs, acceptsConsented_of_silent hsilent⟩
  | remoteApplied i =>
    have hi := idles_onRemoteApplied i { s with log := [] }
    exact ⟨hkept hi (sender_onRemoteApplied i _), acceptsConsented_of_silent hi.silent⟩
  | answerCreated i sdp =>
    obtain ⟨hs, hsent⟩ := h'.answerCreated rfl i sdp
    refine ⟨hs, fun recipient sid sdp' hm => ?_⟩
    obtain ⟨rfl, c, hc, hreason⟩ := hsent recipient sid sdp' hm
    exact ⟨i, c, rfl, hc, hreason⟩
  | peerState state =>
    have hi := idles_onPeerState state { s with log := [] }
    exact ⟨hkept hi (sender_onPeerState state _), acceptsConsented_of_silent hi.silent⟩
  | connectivity connected =>
    have hi : Idles { s with log := [] } { s with log := [], connected := connected } :=
      (Idles.refl _).congr (Or.inl rfl) rfl rfl rfl rfl rfl
    exact ⟨hkept hi rfl, acceptsConsented_of_silent hi.silent⟩
  | prepare initialized =>
    have hi := idles_prepare initialized { s with log := [] }
    exact ⟨hkept hi (sender_prepare initialized _), acceptsConsented_of_silent hi.silent⟩
  | startCall receiverId video initialized =>
    have hi := idles_startCall (P := P) receiverId video initialized { s with log := [] }
    exact ⟨h'.startCall receiverId video initialized hu, acceptsConsented_of_silent hi.silent⟩
  | acceptCall initialized =>
    have hi := idles_acceptCall initialized { s with log := [] }
    exact ⟨h'.acceptCall (P := P) initialized hu, acceptsConsented_of_silent hi.silent⟩
  | rejectCall =>
    have hi := idles_rejectCall { s with log := [] }
    exact ⟨h'.rejectCall (P := P) hu, acceptsConsented_of_silent hi.silent⟩
  | endCall =>
    have hi := idles_endCall { s with log := [] }
    exact ⟨h'.idles hi (fun ha => absurd ha (not_answering rfl)), acceptsConsented_of_silent hi.silent⟩

end

def initialCallee (domain jidBare : QString) : JingleService × Consent := (.create domain jidBare, {})

lemma answerable_initial (domain jidBare : QString) :
    Answerable (initialCallee domain jidBare).1 (initialCallee domain jidBare).2 := by
  refine ⟨fun c hc => ?_, fun c hc => ?_, fun c hc => ?_, fun c hc => ?_, fun c hc => ?_⟩
  · cases hc
  · cases hc
  · cases hc
  · cases hc
  · cases hc

/-- Where nothing forces an answer, every session-accept is one that the user agreed to. -/
theorem accepts_consented {domain jidBare : QString} {es : List Event}
    (h : Each (consentStep P) (Unforced P) (initialCallee domain jidBare) es) :
    Each (consentStep P) (AcceptsConsented P) (initialCallee domain jidBare) es :=
  h.imp (I := fun s => Answerable s.1 s.2) (answerable_initial ..) (fun _ _ hs hu => (hs.step hu).1)
    (fun _ _ hs hu => (hs.step hu).2)

def proposal (sender id : String) : Element :=
  .mk (ofAscii "message") [] [] [(ofAscii "from", ofAscii sender)]
    [.mk (ofAscii "propose") (ofAscii "propose") kJINGLE_MESSAGE [(ofAscii "id", ofAscii id)]
      [.mk (ofAscii "description") (ofAscii "description") kJINGLE_APP [(ofAscii "media", ofAscii "audio")] [] []]
      []] []

def initiation (sid : String) : Element :=
  .mk (ofAscii "jingle") (ofAscii "jingle") kJINGLE_NAME
    [(ofAscii "action", ofAscii "session-initiate"), (ofAscii "sid", ofAscii sid)]
    [.mk (ofAscii "content") (ofAscii "content") kJINGLE_NAME []
      [.mk (ofAscii "description") (ofAscii "description") kJINGLE_APP []
        [.mk (ofAscii "sdp") (ofAscii "sdp") [] [] [] (ofAscii "offer")] []] []] []

def initiationIq (sender sid : String) : Element :=
  .mk (ofAscii "iq") [] [] [(ofAscii "from", ofAscii sender), (ofAscii "type", ofAscii "set")] [initiation sid] []

def bob : JingleService × Consent := initialCallee (ofAscii "chat") (ofAscii "bob@chat")

def rings (answer : List Event) : List Event :=
  [.connectivity true, .stanza (proposal "alice@chat/pc" "m") true, .prepare true] ++ answer

def initiated (sender : String) : List Event :=
  [.stanza (initiationIq sender "s") true, .remoteApplied 0, .answerCreated 0 (ofAscii "answer")]

lemma quiet {s : JingleService} (h : s.making = []) : ¬s.Answering := by
  rintro ⟨c, hc, -⟩
  rw [h] at hc
  cases hc

theorem accepts_consented_sample :
    Each (consentStep samplePlatform) (AcceptsConsented samplePlatform) bob
      (rings [.acceptCall true] ++ initiated "alice@chat/pc") := by
  refine accepts_consented _ ⟨trivial, fun hiq => absurd hiq (by decide), trivial,
    fun ha => absurd ha (quiet (by decide)), fun _ jingle hj => ?_, trivial, trivial, trivial⟩
  have hfind : findJingleElement (initiationIq "alice@chat/pc" "s") = some (initiation "s") := rfl
  obtain rfl := Option.some.inj (hj.symm.trans hfind)
  exact ⟨fun ha => absurd ha (quiet (by decide)), fun _ => ⟨by decide, by decide⟩⟩

/-- Without an acceptance of Bob's Eve is answered. -/
theorem accepts_stranger : ¬∀ (P : Platform) (domain jidBare : QString) (es : List Event),
    Each (consentStep P) (AcceptsConsented P) (initialCallee domain jidBare) es := by
  intro h
  have hs := h samplePlatform (ofAscii "chat") (ofAscii "bob@chat") (rings [] ++ initiated "eve@chat/pc")
  have hlast : AcceptsConsented samplePlatform (after (consentStep samplePlatform) bob (rings [] ++
      (initiated "eve@chat/pc").take 2)) (.answerCreated 0 (ofAscii "answer")) := hs.2.2.2.2.2.1
  have hsent : .sendSessionAccept (ofAscii "eve@chat/pc") (ofAscii "s") (ofAscii "answer") ∈
      (step samplePlatform (after (consentStep samplePlatform) bob (rings [] ++ (initiated "eve@chat/pc").take 2)).1
        (.answerCreated 0 (ofAscii "answer"))).log := by decide
  obtain ⟨i, c, -, -, haccepted, -⟩ := hlast _ _ _ hsent
  have hnone : (after (consentStep samplePlatform) bob
      (rings [] ++ (initiated "eve@chat/pc").take 2)).2.accepted = none := by decide
  rw [hnone] at haccepted
  cases haccepted

end ChatDesktop.Voip
