import ChatDesktop.Voip.Consent

namespace ChatDesktop.Voip

open Library Library.Text JingleService

def Effect.isInitiate : Effect → Bool
  | .sendSessionInitiate .. => true
  | _ => false

def Effect.isAcceptMessage : Effect → Bool
  | .sendMessage .accept .. => true
  | _ => false

def actionOf (stanza : Element) : Option ActionType :=
  (JingleAction.jingleOf stanza).bind (fun jingle =>
    ActionType.fromString (jingle.attributeOf (ofAscii "action")))

def isInitiateStanza (stanza : Element) : Bool := decide (actionOf stanza = some .sessionInitiate)

def isAnswerStanza (stanza : Element) : Bool := decide (actionOf stanza = some .sessionAccept)

def isAcceptStanza (stanza : Element) : Bool := (acceptOf stanza).isSome

def ActionSignal.isOffer : ActionSignal → Bool
  | .remoteSdpOfferReceived .. => true
  | _ => false

namespace JingleService

def calling (s : JingleService) : ℕ := s.discoveries + s.offers.length + s.log.countP Effect.isInitiate

def answering (s : JingleService) : ℕ := s.remotes.length + s.answers.length + s.log.countP Effect.accepts

def accepting (s : JingleService) : ℕ := s.log.countP Effect.isAcceptMessage

end JingleService

def Effect.describes (e : Effect) : Bool := e.isInitiate || e.accepts

/-- From `s` to `s'` as many accept messages, session-initiates and calls of `acceptCall` are taken up at most, and
no descriptions are sent but those in `made`. -/
structure Spends (accepts initiates calls : ℕ) (made : List Effect) (s s' : JingleService) : Prop where
  calling : s'.calling ≤ s.calling + accepts
  answering : s'.answering ≤ s.answering + initiates
  accepting : s'.accepting ≤ s.accepting + calls
  made : ∀ e ∈ s'.log, e.describes = true → e ∈ s.log ∨ e ∈ made

section

variable {P : Platform} {s s' s'' : JingleService} {a a' i i' c c' : ℕ} {d d' : List Effect}

lemma Spends.refl (s : JingleService) : Spends 0 0 0 [] s s :=
  ⟨Nat.le_refl _, Nat.le_refl _, Nat.le_refl _, fun _ he _ => Or.inl he⟩

lemma Spends.trans (h : Spends a i c d s s') (h' : Spends a' i' c' d' s' s'') : Spends (a + a') (i + i') (c + c') (d ++ d') s s'' := by
  obtain ⟨h₁, h₂, h₃, h₄⟩ := h
  obtain ⟨h₁', h₂', h₃', h₄'⟩ := h'
  refine ⟨by omega, by omega, by omega, fun e he hd => ?_⟩
  rcases h₄' e he hd with he | he
  · exact (h₄ e he hd).imp_right (List.mem_append_left _)
  · exact Or.inr (List.mem_append_right _ he)

lemma Spends.mono (h : Spends a i c d s s') (ha : a ≤ a') (hi : i ≤ i') (hc : c ≤ c') : Spends a' i' c' d s s' := by
  obtain ⟨h₁, h₂, h₃, h₄⟩ := h
  exact ⟨by omega, by omega, by omega, h₄⟩

lemma Spends.congr (h : Spends a i c d s s') (hd : s''.discoveries = s'.discoveries) (ho : s''.offers = s'.offers)
    (hr : s''.remotes = s'.remotes) (ha : s''.answers = s'.answers) (hl : s''.log = s'.log) : Spends a i c d s s'' := by
  obtain ⟨h₁, h₂, h₃, h₄⟩ := h
  unfold JingleService.calling JingleService.answering JingleService.accepting at *
  rw [← hd, ← ho, ← hl] at h₁
  rw [← hr, ← ha, ← hl] at h₂
  rw [← hl] at h₃ h₄
  exact ⟨h₁, h₂, h₃, h₄⟩

lemma Spends.emit (h : Spends a i c d s s') {e : Effect} (hi : e.isInitiate = false) (ha : e.accepts = false)
    (hm : e.isAcceptMessage = false) : Spends a i c d s (s'.emit e) := by
  constructor
  · simpa [JingleService.calling, JingleService.emit, hi] using h.calling
  · simpa [JingleService.answering, JingleService.emit, ha] using h.answering
  · simpa [JingleService.accepting, JingleService.emit, hm] using h.accepting
  · intro x hx hd
    rcases List.mem_append.mp hx with hx | hx
    · exact h.made x hx hd
    · rw [List.mem_singleton.mp hx, Effect.describes, hi, ha] at hd
      cases hd

lemma Spends.failed (h : Spends a i c d s s') (reason : String) : Spends a i c d s (s'.signalingFailed reason) :=
  h.emit rfl rfl rfl

lemma spends_prepareMedia (initialized : Bool) (s : JingleService) : Spends 0 0 0 [] s (s.prepareMedia initialized).2 := by
  rcases prepareMedia_cases initialized s with ⟨-, -, he⟩ | ⟨-, n, he | ⟨w, -, -, he⟩⟩
  · rw [he]
    exact .refl s
  · rw [he]
    have hs : Spends 0 0 0 [] s { s with webrtc := none, mediaPrepared := false, clients := n } :=
      (Spends.refl s).congr rfl rfl rfl rfl rfl
    exact hs.failed _
  · rw [he]
    exact (Spends.refl s).congr rfl rfl rfl rfl rfl

lemma spends_onAcceptReceived (accept mid : QString) (s : JingleService) :
    Spends 1 0 0 [] s (s.onAcceptReceived accept mid) := by
  rcases onAcceptReceived_cases accept mid s with he | ⟨reason, he⟩ | ⟨-, he⟩
  · rw [he]
    exact (Spends.refl s).mono (Nat.zero_le 1) (Nat.le_refl 0) (Nat.le_refl 0)
  · rw [he]
    exact ((Spends.refl s).failed reason).mono (Nat.zero_le 1) (Nat.le_refl 0) (Nat.le_refl 0)
  · rw [he]
    have hreceived : Spends 1 0 0 [] s { s with recipientId := accept, discoveries := s.discoveries + 1 } := by
      constructor
      · simp only [JingleService.calling]
        omega
      · exact Nat.le_refl _
      · exact Nat.le_refl _
      · exact fun _ hx _ => Or.inl hx
    exact (hreceived.emit rfl rfl rfl).emit rfl rfl rfl

lemma spends_onJingleMessage (m : JingleMessage) (s : JingleService) :
    Spends (if m.type = .accept then 1 else 0) 0 0 [] s (s.onJingleMessage m) := by
  have hs := Spends.refl s
  unfold onJingleMessage
  cases m.type with
  | propose =>
    have hs' : Spends 0 0 0 [] s { s with jingle := { s.jingle with proposeFrom := m.sender, mid := m.sessionId } } :=
      hs.congr rfl rfl rfl rfl rfl
    have hrings : Spends 0 0 0 [] s { s with
        jingle := { s.jingle with proposeFrom := m.sender, mid := m.sessionId } }.ringing := hs'.emit rfl rfl rfl
    have hvideo : Spends 0 0 0 [] s { { s with
        jingle := { s.jingle with proposeFrom := m.sender, mid := m.sessionId } }.ringing with
          videoCall := decide (StreamType.video ∈ m.streams) } := hrings.congr rfl rfl rfl rfl rfl
    exact hvideo.emit rfl rfl rfl
  | accept =>
    have hs' : Spends 0 0 0 [] s (s.emit (.callStateChange .exchange)) := hs.emit rfl rfl rfl
    exact hs'.trans (spends_onAcceptReceived m.sender m.sessionId _)
  | ringing => exact hs.emit rfl rfl rfl
  | proceed => exact hs.emit rfl rfl rfl
  | retract => exact (hs.emit rfl rfl rfl).emit rfl rfl rfl
  | reject => exact (hs.emit rfl rfl rfl).emit rfl rfl rfl
  | finish => exact hs.emit rfl rfl rfl

lemma length_callback (iceServers : List IceServer) (s : JingleService) : (s.callback iceServers).length ≤ 1 := by
  unfold callback
  split
  · exact Nat.le_refl 1
  · exact Nat.zero_le 1

lemma length_eraseIdx_lt {α : Type} {l : List α} {n : ℕ} {x : α} (h : l[n]? = some x) :
    (l.eraseIdx n).length + 1 = l.length := by
  obtain ⟨hn, -⟩ := List.getElem?_eq_some_iff.mp h
  rw [List.length_eraseIdx_of_lt hn]
  omega

lemma spends_onDiscovery (services : Option (List ExternalService)) (created : Bool) (s : JingleService) :
    Spends 0 0 0 [] s (s.onDiscovery services created) := by
  unfold onDiscovery
  split_ifs with hd
  · exact .refl s
  · have htaken : Spends 0 0 0 [] s { s with discoveries := s.discoveries - 1 } := by
      constructor
      · simp only [JingleService.calling]
        omega
      · exact Nat.le_refl _
      · exact Nat.le_refl _
      · exact fun _ hx _ => Or.inl hx
    cases services with
    | none => exact htaken
    | some services =>
      dsimp only
      rcases onExternalServiceReceived_cases services created { s with discoveries := s.discoveries - 1 } with
        he | he | ⟨w, iceServers, -, -, -, he⟩
      · rw [he]
        exact htaken
      · rw [he]
        exact htaken.failed _
      · rw [he]
        constructor
        · simp only [JingleService.calling, createOffer, List.length_append]
          have := length_callback iceServers { s with
            discoveries := s.discoveries - 1
            webrtc := some { w with peerConnection := some ⟨s.peers, iceServers, []⟩ }
            peers := s.peers + 1 }
          omega
        · exact Nat.le_refl _
        · exact Nat.le_refl _
        · exact fun _ hx _ => Or.inl hx

lemma spends_onOfferCreated (n : ℕ) (sdp : QString) (s : JingleService) :
    ∃ d, Spends 0 0 0 d s (s.onOfferCreated P n sdp) ∧
      ∀ e ∈ d, ∃ recipient sid iceServers, e = .sendSessionInitiate recipient sid sdp iceServers := by
  rcases onOfferCreated_cases (P := P) n sdp s with he | ⟨cb, hc, he | ⟨-, sid, jingle, action, uuids, he⟩⟩
  · rw [he]
    exact ⟨[], .refl s, nofun⟩
  · rw [he]
    have hlen := length_eraseIdx_lt hc
    refine ⟨[], ⟨?_, Nat.le_refl _, Nat.le_refl _, fun _ hx _ => Or.inl hx⟩, nofun⟩
    simp only [JingleService.calling]
    omega
  · rw [he]
    have hlen := length_eraseIdx_lt hc
    refine ⟨[.sendSessionInitiate s.recipientId sid sdp cb.iceServers], ⟨?_, ?_, ?_, fun x hx _ => ?_⟩,
      fun e he => ⟨_, _, _, List.mem_singleton.mp he⟩⟩
    · simp only [JingleService.calling, JingleService.emit, List.countP_append, List.countP_singleton,
        Effect.isInitiate, if_true]
      omega
    · simp [JingleService.answering, JingleService.emit, Effect.accepts]
    · simp [JingleService.accepting, JingleService.emit, Effect.isAcceptMessage]
    · exact List.mem_append.mp hx

lemma spends_onRemoteApplied (n : ℕ) (s : JingleService) : Spends 0 0 0 [] s (s.onRemoteApplied n) := by
  unfold onRemoteApplied
  cases hc : s.remotes[n]? with
  | none => exact .refl s
  | some cb =>
    have hlen := length_eraseIdx_lt hc
    dsimp only
    split_ifs
    · have hcallback := length_callback [] { s with remotes := s.remotes.eraseIdx n }
      refine ⟨Nat.le_refl _, ?_, Nat.le_refl _, fun _ hx _ => Or.inl hx⟩
      simp only [JingleService.answering, createAnswer, List.length_append]
      omega
    · refine ⟨Nat.le_refl _, ?_, Nat.le_refl _, fun _ hx _ => Or.inl hx⟩
      simp only [JingleService.answering]
      omega

lemma spends_onAnswerCreated (n : ℕ) (sdp : QString) (s : JingleService) :
    ∃ d, Spends 0 0 0 d s (s.onAnswerCreated n sdp) ∧
      ∀ e ∈ d, ∃ recipient sid, e = .sendSessionAccept recipient sid sdp := by
  rcases onAnswerCreated_cases n sdp s with he | he | ⟨cb, hc, -, he⟩
  · rw [he]
    exact ⟨[], .refl s, nofun⟩
  · rw [he]
    have hlen := (List.eraseIdx_sublist s.answers n).length_le
    refine ⟨[], ⟨Nat.le_refl _, ?_, Nat.le_refl _, fun _ hx _ => Or.inl hx⟩, nofun⟩
    simp only [JingleService.answering]
    omega
  · rw [he]
    have hlen := length_eraseIdx_lt hc
    refine ⟨[.sendSessionAccept s.jingle.sessionSender s.action.currentSid sdp], ⟨?_, ?_, ?_, fun x hx _ => ?_⟩,
      fun e he => ⟨_, _, List.mem_singleton.mp he⟩⟩
    · simp [JingleService.calling, JingleService.emit, Effect.isInitiate]
    · simp only [JingleService.answering, JingleService.emit, List.countP_append, List.countP_singleton,
        Effect.accepts, if_true]
      omega
    · simp [JingleService.accepting, JingleService.emit, Effect.isAcceptMessage]
    · exact List.mem_append.mp hx

/-! ### The actions of a session -/

lemma spends_setRemoteSdp (type sdp : QString) (s : JingleService) :
    Spends 0 0 0 [] s (s.setRemoteSdp P type sdp).2 := by
  rcases setRemoteSdp_cases (P := P) type sdp s with ⟨-, he⟩ | ⟨-, he⟩
  · rw [he]
    exact (Spends.refl s).congr rfl rfl rfl rfl rfl
  · rw [he]
    exact .refl s

lemma spends_createPeerConnection (created : Bool) (iceServers : List IceServer) (w : WebrtcClient)
    (s : JingleService) : Spends 0 0 0 [] s (s.createPeerConnection created iceServers w).2 := by
  rcases createPeerConnection_cases created iceServers w s with he | ⟨-, -, he⟩
  · rw [he]
    exact .refl s
  · rw [he]
    exact (Spends.refl s).congr rfl rfl rfl rfl rfl

lemma Spends.applies (h : Spends a i c d s s') :
    Spends a (i + 1) c d s { s' with remotes := s'.remotes ++ s'.callback [] } := by
  refine ⟨h.calling, ?_, h.accepting, h.made⟩
  have hlen := length_callback [] s'
  have hanswering := h.answering
  simp only [JingleService.answering, List.length_append] at hanswering ⊢
  omega

lemma spends_onRemoteSdpOfferReceived (created : Bool) (offer sid : QString) (iceServers : List IceServer)
    (s : JingleService) : Spends 0 1 0 [] s (s.onRemoteSdpOfferReceived P created offer iceServers sid) := by
  have hsid : Spends 0 0 0 [] s { s with jingle := { s.jingle with currentSid := sid } } :=
    (Spends.refl s).congr rfl rfl rfl rfl rfl
  have hmore {s' : JingleService} (h : Spends 0 0 0 [] s s') : Spends 0 1 0 [] s s' :=
    h.mono (Nat.le_refl 0) (Nat.zero_le 1) (Nat.le_refl 0)
  unfold onRemoteSdpOfferReceived
  dsimp only
  split
  · exact hmore (hsid.failed _)
  · rename_i w hw
    have hmade := hsid.trans (spends_createPeerConnection created iceServers w _)
    have happlied := hmade.trans (spends_setRemoteSdp (P := P) (ofAscii "offer") offer _)
    split_ifs
    · exact hmore (hmade.failed _)
    · exact happlied.applies
    · exact hmore (happlied.failed _)

lemma spends_onJingleAction (created : Bool) (s : JingleService) (signal : ActionSignal) :
    Spends 0 (if signal.isOffer then 1 else 0) 0 [] s (s.onJingleAction P created signal) := by
  cases signal with
  | remoteSdpOfferReceived offer iceServers sid => exact spends_onRemoteSdpOfferReceived created offer sid iceServers s
  | exchangeIceCandidateReceived sdp sdpMid sdpMLineIndex =>
    change Spends 0 0 0 [] s _
    unfold onJingleAction setRemoteCandidate
    dsimp only
    split
    · exact (Spends.refl s).emit rfl rfl rfl
    · split
      · exact (Spends.refl s).congr rfl rfl rfl rfl rfl
      · exact .refl s
  | remoteSdpAnswerReceived answer sid =>
    change Spends 0 0 0 [] s _
    unfold onJingleAction
    dsimp only
    split
    · exact spends_setRemoteSdp _ _ s
    · exact (spends_setRemoteSdp _ _ s).failed _
  | sessionTerminateReceived => exact (Spends.refl s).emit rfl rfl rfl

lemma spends_onJingleActions (created : Bool) (signals : List ActionSignal) (s : JingleService) :
    Spends 0 (signals.countP ActionSignal.isOffer) 0 [] s (signals.foldl (onJingleAction P created) s) := by
  induction signals generalizing s with
  | nil => exact .refl s
  | cons signal signals ih =>
    rw [List.countP_cons, Nat.add_comm]
    exact (spends_onJingleAction created s signal).trans (ih _)

lemma parse_cases (a : JingleAction) (stanza : Element) :
    (a.parse stanza).2.1 = [] ∨
    (∃ jingle c sid, JingleAction.jingleOf stanza = some jingle ∧ actionOf stanza = some .sessionInitiate ∧
      JingleAction.offered jingle = some c ∧ (a.parse stanza).2.1 = [.remoteSdpOfferReceived c.2.1 c.2.2 sid]) ∨
    (∃ jingle answer, JingleAction.jingleOf stanza = some jingle ∧ actionOf stanza = some .sessionAccept ∧
      JingleAction.answered jingle = some answer ∧ jingle.attributeOf (ofAscii "sid") = a.currentSid ∧
      (a.parse stanza).2.1 = [.remoteSdpAnswerReceived answer (jingle.attributeOf (ofAscii "sid"))]) ∨
    (a.parse stanza).2.1 = [.sessionTerminateReceived] ∨
    ∃ jingle, JingleAction.jingleOf stanza = some jingle ∧ actionOf stanza = some .sessionTransport ∧
      jingle.attributeOf (ofAscii "sid") = a.currentSid ∧
      (a.parse stanza).2.1 = JingleAction.candidates jingle := by
  unfold JingleAction.parse actionOf
  cases hj : JingleAction.jingleOf stanza with
  | none => exact Or.inl rfl
  | some jingle =>
    rw [Option.bind_some]
    dsimp only
    cases ht : ActionType.fromString (jingle.attributeOf (ofAscii "action")) with
    | none => exact Or.inl rfl
    | some action =>
      dsimp only
      by_cases hsid : jingle.attributeOf (ofAscii "sid") = []
      · rw [if_pos hsid]
        exact Or.inl rfl
      · rw [if_neg hsid]
        cases action with
        | sessionInitiate =>
          dsimp only
          cases ho : JingleAction.offered jingle with
          | none => exact Or.inl rfl
          | some c => exact Or.inr (Or.inl ⟨jingle, c, _, rfl, rfl, ho, rfl⟩)
        | sessionAccept =>
          dsimp only
          by_cases hs : jingle.attributeOf (ofAscii "sid") = a.currentSid
          · rw [if_neg (not_not.mpr hs)]
            cases ha : JingleAction.answered jingle with
            | none => exact Or.inl rfl
            | some answer => exact Or.inr (Or.inr (Or.inl ⟨jingle, answer, rfl, rfl, ha, hs, rfl⟩))
          · rw [if_pos hs]
            exact Or.inl rfl
        | sessionTransport =>
          dsimp only
          by_cases hs : jingle.attributeOf (ofAscii "sid") = a.currentSid
          · rw [if_neg (not_not.mpr hs)]
            exact Or.inr (Or.inr (Or.inr (Or.inr ⟨jingle, rfl, rfl, hs, rfl⟩)))
          · rw [if_pos hs]
            exact Or.inl rfl
        | sessionTerminate => exact Or.inr (Or.inr (Or.inr (Or.inl rfl)))
        | sessionInfo => exact Or.inl rfl
        | transportReplace => exact Or.inl rfl
        | transportAccept => exact Or.inl rfl

lemma countP_isOffer (a : JingleAction) (stanza : Element) :
    (a.parse stanza).2.1.countP ActionSignal.isOffer ≤ if isInitiateStanza stanza then 1 else 0 := by
  rcases parse_cases a stanza with he | ⟨_, c, sid, _, ht, _, he⟩ | ⟨_, answer, _, _, _, _, he⟩ | he | ⟨jingle, _, _, _, he⟩
  · rw [he]
    exact Nat.zero_le _
  · rw [he, isInitiateStanza, ht]
    exact Nat.le_refl 1
  · rw [he]
    exact Nat.zero_le _
  · rw [he]
    exact Nat.zero_le _
  · rw [he]
    have hnone : (JingleAction.candidates jingle).countP ActionSignal.isOffer = 0 := by
      apply List.countP_eq_zero.mpr
      intro signal hs
      obtain ⟨sdp, sdpMid, sdpMLineIndex, rfl⟩ := exchange_of_mem_candidates hs
      exact Bool.false_ne_true
    rw [hnone]
    exact Nat.zero_le _

lemma spends_handleIq (created : Bool) (stanza jingle : Element) (s : JingleService) :
    Spends 0 (if isInitiateStanza stanza then 1 else 0) 0 [] s (s.handleIq P created stanza jingle) := by
  have hactions (s' : JingleService) (h : Spends 0 0 0 [] s s') : Spends 0 (if isInitiateStanza stanza then 1 else 0) 0 [] s
      ((s.action.parse stanza).2.1.foldl (onJingleAction P created) { s' with
        action := (s.action.parse stanza).2.2 }) := by
    have h' : Spends 0 0 0 [] s { s' with action := (s.action.parse stanza).2.2 } := h.congr rfl rfl rfl rfl rfl
    refine (h'.trans (spends_onJingleActions created _ _)).mono (Nat.le_refl 0) ?_ (Nat.le_refl 0)
    rw [Nat.zero_add]
    exact countP_isOffer s.action stanza
  generalize (if isInitiateStanza stanza then 1 else 0) = n at hactions ⊢
  unfold handleIq
  dsimp only
  split
  · have hset := hactions { s with jingle := { s.jingle with
      sessionSender := stanza.attributeOf (ofAscii "from") } } ((Spends.refl s).congr rfl rfl rfl rfl rfl)
    split
    · exact hset.emit rfl rfl rfl
    · exact hset
  · have hkept := hactions s (.refl s)
    split
    · exact hkept.emit rfl rfl rfl
    · exact hkept

lemma spends_handleStanza (created : Bool) (stanza : Element) (s : JingleService) :
    Spends (if isAcceptStanza stanza then 1 else 0) (if isInitiateStanza stanza then 1 else 0) 0 [] s
      (s.handleStanza P created stanza) := by
  have hidle : ∀ n m, Spends n m 0 [] s s := fun n m =>
    (Spends.refl s).mono (Nat.zero_le _) (Nat.zero_le _) (Nat.le_refl 0)
  unfold handleStanza
  by_cases htag : stanza.tagName = ofAscii "message"
  · rw [if_pos htag]
    cases hf : findJingleElement stanza with
    | none => exact hidle _ _
    | some jingle =>
      dsimp only
      cases hm : JingleMessage.parse stanza with
      | none => exact hidle _ _
      | some m =>
        refine (spends_onJingleMessage m s).mono ?_ (Nat.zero_le _) (Nat.le_refl 0)
        have haccept : isAcceptStanza stanza = decide (m.type = .accept) := by
          rw [isAcceptStanza, acceptOf, if_pos ⟨htag, by rw [hf]; rfl⟩, hm, Option.filter_some]
          cases ht : decide (m.type = JingleMessageType.accept)
          · rfl
          · rfl
        simp only [haccept, decide_eq_true_eq, Nat.le_refl]
  · rw [if_neg htag]
    by_cases hiq : stanza.tagName = ofAscii "iq"
    · rw [if_pos hiq]
      cases hf : findJingleElement stanza with
      | none => exact hidle _ _
      | some jingle =>
        exact (spends_handleIq created stanza jingle s).mono (Nat.zero_le _) (Nat.le_refl _) (Nat.le_refl 0)
    · rw [if_neg hiq]
      exact hidle _ _

/-! ### The user's calls -/

lemma spends_isConnected (s : JingleService) : Spends 0 0 0 [] s s.isConnected.2 := by
  unfold isConnected
  split
  · exact .refl s
  · exact (Spends.refl s).failed _

lemma spends_sendAccept (s : JingleService) : Spends 0 0 1 [] s s.sendAccept := by
  unfold sendAccept
  split
  · exact (Spends.refl s).mono (Nat.le_refl 0) (Nat.le_refl 0) (Nat.zero_le 1)
  · have hsent : Spends 0 0 1 [] s (s.emit (.sendMessage .accept s.jingle.proposeFrom s.jingle.mid [])) := by
      constructor
      · simp [JingleService.calling, JingleService.emit, Effect.isInitiate]
      · simp [JingleService.answering, JingleService.emit, Effect.accepts]
      · simp [JingleService.accepting, JingleService.emit, Effect.isAcceptMessage]
      · intro e he hd
        rcases List.mem_append.mp he with he | he
        · exact Or.inl he
        · rw [List.mem_singleton.mp he] at hd
          cases hd
    exact hsent.emit rfl rfl rfl

lemma spends_acceptCall (initialized : Bool) (s : JingleService) : Spends 0 0 1 [] s (s.acceptCall initialized) := by
  have hless {s' : JingleService} (h : Spends 0 0 0 [] s s') : Spends 0 0 1 [] s s' :=
    h.mono (Nat.le_refl 0) (Nat.le_refl 0) (Nat.zero_le 1)
  have hconnected := spends_isConnected s
  have hprepared := hconnected.trans (spends_prepareMedia initialized s.isConnected.2)
  unfold acceptCall
  dsimp only
  split
  · exact hless hconnected
  · split
    · exact hless hprepared
    · have hstarted : Spends 0 0 0 [] s { (s.isConnected.2.prepareMedia initialized).2 with callStarted := true } :=
        hprepared.congr rfl rfl rfl rfl rfl
      exact hstarted.trans (spends_sendAccept _)

lemma spends_endCall (s : JingleService) : Spends 0 0 0 [] s s.endCall := by
  have hterminated : Spends 0 0 0 [] s s.sessionTerminate := by
    unfold sessionTerminate
    split
    · exact .refl s
    · exact (Spends.refl s).emit rfl rfl rfl
  have hclosed : Spends 0 0 0 [] s (if s.callStarted && s.connected then s.sessionTerminate else s) := by
    split
    · exact hterminated
    · exact .refl s
  unfold endCall
  dsimp only
  generalize (if s.callStarted && s.connected then s.sessionTerminate else s) = s' at hclosed ⊢
  split
  · exact Spends.congr ((hclosed.emit rfl rfl rfl).emit rfl rfl rfl) rfl rfl rfl rfl rfl
  · exact hclosed.congr rfl rfl rfl rfl rfl

lemma spends_rejectCall (s : JingleService) : Spends 0 0 0 [] s s.rejectCall := by
  have hconnected := spends_isConnected s
  unfold rejectCall
  dsimp only
  split
  · exact hconnected
  · have hrejected : Spends 0 0 0 [] s s.isConnected.2.reject := hconnected.emit rfl rfl rfl
    exact hrejected.congr rfl rfl rfl rfl rfl

lemma spends_startCall (receiverId : QString) (video initialized : Bool) (s : JingleService) :
    Spends 0 0 0 [] s (s.startCall P receiverId video initialized) := by
  have hs := Spends.refl s
  have hcalling : Spends 0 0 0 [] s
      ({ s with recipientId := s.recipientOf receiverId, videoCall := video }.emit (.callStateChange .calling)) := by
    have hset : Spends 0 0 0 [] s { s with recipientId := s.recipientOf receiverId, videoCall := video } :=
      hs.congr rfl rfl rfl rfl rfl
    exact hset.emit rfl rfl rfl
  have hprepared := hcalling.trans (spends_prepareMedia initialized _)
  unfold startCall
  dsimp only
  split
  · exact hs.failed _
  · split
    · exact hs.failed _
    · split
      · exact hs.failed _
      · split
        · exact hprepared
        · have hproposed {s' : JingleService} (h : Spends 0 0 0 [] s s') (recipient : QString) :
              Spends 0 0 0 [] s ({ s' with callStarted := true }.propose P recipient video) := by
            have h' : Spends 0 0 0 [] s { s' with
                callStarted := true
                jingle := { s'.jingle with mid := P.uuid s'.uuids, sessionSender := recipient }
                uuids := s'.uuids + 1 } := h.congr rfl rfl rfl rfl rfl
            exact h'.emit rfl rfl rfl
          exact hproposed hprepared _

lemma spends_onPeerState (state : ConnectionState) (s : JingleService) : Spends 0 0 0 [] s (s.onPeerState state) := by
  unfold onPeerState
  split
  · exact .refl s
  · cases state with
    | connected => exact ((Spends.refl s).emit rfl rfl rfl).emit rfl rfl rfl
    | disconnect => exact ((Spends.refl s).emit rfl rfl rfl).emit rfl rfl rfl
    | checking => exact (Spends.refl s).emit rfl rfl rfl
    | connecting => exact (Spends.refl s).emit rfl rfl rfl

/-! ### Events -/

def Event.isAcceptCall : Event → Bool
  | .acceptCall _ => true
  | _ => false

def Event.received : Event → Option Element
  | .stanza element _ => some element
  | _ => none

def MadeBy (e : Event) (x : Effect) : Prop :=
  (∃ n sdp recipient sid iceServers, e = .offerCreated n sdp ∧ x = .sendSessionInitiate recipient sid sdp iceServers) ∨
  ∃ n sdp recipient sid, e = .answerCreated n sdp ∧ x = .sendSessionAccept recipient sid sdp

lemma spends_handle (e : Event) (s : JingleService) :
    ∃ d, Spends (if (e.received.any isAcceptStanza) then 1 else 0) (if (e.received.any isInitiateStanza) then 1 else 0)
      (if e.isAcceptCall then 1 else 0) d s (s.handle P e) ∧ ∀ x ∈ d, MadeBy e x := by
  cases e with
  | stanza stanza created => exact ⟨[], spends_handleStanza created stanza s, nofun⟩
  | discovery services created => exact ⟨[], spends_onDiscovery services created s, nofun⟩
  | offerCreated n sdp =>
    obtain ⟨d, hd, hmade⟩ := spends_onOfferCreated (P := P) n sdp s
    refine ⟨d, hd, fun x hx => ?_⟩
    obtain ⟨recipient, sid, iceServers, rfl⟩ := hmade x hx
    exact Or.inl ⟨n, sdp, recipient, sid, iceServers, rfl, rfl⟩
  | remoteApplied n => exact ⟨[], spends_onRemoteApplied n s, nofun⟩
  | answerCreated n sdp =>
    obtain ⟨d, hd, hmade⟩ := spends_onAnswerCreated n sdp s
    refine ⟨d, hd, fun x hx => ?_⟩
    obtain ⟨recipient, sid, rfl⟩ := hmade x hx
    exact Or.inr ⟨n, sdp, recipient, sid, rfl, rfl⟩
  | peerState state => exact ⟨[], spends_onPeerState state s, nofun⟩
  | connectivity connected => exact ⟨[], (Spends.refl s).congr rfl rfl rfl rfl rfl, nofun⟩
  | prepare initialized =>
    refine ⟨[], ?_, nofun⟩
    change Spends 0 0 0 [] s (s.prepare initialized)
    unfold JingleService.prepare
    split
    · exact .refl s
    · exact spends_prepareMedia initialized s
  | startCall receiverId video initialized => exact ⟨[], spends_startCall receiverId video initialized s, nofun⟩
  | acceptCall initialized => exact ⟨[], spends_acceptCall initialized s, nofun⟩
  | rejectCall => exact ⟨[], spends_rejectCall s, nofun⟩
  | endCall => exact ⟨[], spends_endCall s, nofun⟩

end

end ChatDesktop.Voip
