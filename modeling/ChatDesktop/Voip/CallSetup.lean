import ChatDesktop.Voip.JingleService
import Mathlib.Data.List.Nodup
import Mathlib.Data.List.TakeWhile

namespace ChatDesktop.Voip

open Library Library.Text Library.Reactive JingleService

/-- `accepted` are the senders of accept messages with the `mid` of the call's propose. -/
structure Proposed where
  mid : QString
  accepted : List QString := []
  initiated : ℕ := 0

def initiates (log : List Effect) : List QString :=
  log.filterMap (fun | .sendSessionInitiate recipient _ _ _ => some recipient | _ => none)

def proposes (log : List Effect) : Option QString :=
  log.findSome? (fun | .sendMessage .propose _ mid _ => some mid | _ => none)

def acceptOf (stanza : Element) : Option JingleMessage :=
  if stanza.tagName = ofAscii "message" ∧ (findJingleElement stanza).isSome then
    (JingleMessage.parse stanza).filter (fun m => m.type = .accept)
  else none

def Proposed.accept (c : Proposed) (m : JingleMessage) : Proposed :=
  if m.sessionId = c.mid then { c with accepted := c.accepted ++ [m.sender] } else c

def note (g : Option Proposed) (log : List Effect) : Event → Option Proposed
  | .startCall .. => ((proposes log).map (fun mid => ⟨mid, [], 0⟩)).or g
  | .endCall => none
  | .stanza stanza _ =>
    match acceptOf stanza with
    | some m => g.map (fun c => c.accept m)
    | none => g
  | .offerCreated .. => g.map (fun c => { c with initiated := c.initiated + (initiates log).length })
  | _ => g

variable (P : Platform)

def callStep (s : JingleService × Option Proposed) (e : Event) : JingleService × Option Proposed :=
  (step P s.1 e, note s.2 (step P s.1 e).log e)

/-- A session-initiate is the first of the call and goes to a full JID that accepted its propose. -/
def InitiatesAccepted (s : JingleService × Option Proposed) (e : Event) : Prop :=
  initiates (step P s.1 e).log = [] ∨ ∃ c recipient, s.2 = some c ∧ c.initiated = 0 ∧
    initiates (step P s.1 e).log = [recipient] ∧ recipient ∈ c.accepted ∧ jidToResource recipient ≠ []

def Startable (s : JingleService) (receiverId : QString) : Prop :=
  s.connected = true ∧ jidPattern (s.recipientOf receiverId) = true ∧ s.recipientOf receiverId ≠ s.jidBare

/-- The service takes `sender` for the recipient of the call. -/
def Takes (s : JingleService) (sender : QString) : Prop :=
  jidToBareJid sender = jidToBareJid s.recipientId ∧ jidToResource sender ≠ []

/-- The events of a caller, where no call is started while the offer of another is made, an accept that is
taken before the session-initiate carries the call's `mid`, and a discovery is answered only after one. -/
def Unmixed (s : JingleService × Option Proposed) : Event → Prop
  | .startCall receiverId _ _ => Startable s.1 receiverId → ∀ c ∈ s.1.offers, s.1.alive c = false
  | .endCall => True
  | .connectivity _ => True
  | .stanza stanza _ => ∃ m, acceptOf stanza = some m ∧ ∀ c, s.2 = some c → c.initiated = 0 →
      Takes s.1 m.sender → m.sessionId = c.mid ∨ m.sender ∈ c.accepted
  | .discovery services _ => services.isSome → s.2.isSome → s.1.hasPeerConnection = false →
      jidToResource s.1.recipientId ≠ []
  | .offerCreated .. => True
  | _ => False

section

variable {P} {s : JingleService} {g : Option Proposed}

lemma prepareMedia_cases (initialized : Bool) (s : JingleService) :
    (s.mediaPrepared = true ∧ s.webrtc.isSome ∧ s.prepareMedia initialized = (true, s)) ∨
    ((s.mediaPrepared = false ∨ s.webrtc = none) ∧ ∃ n, (s.prepareMedia initialized =
        (false, { s with webrtc := none, mediaPrepared := false, clients := n }.signalingFailed
          "Cannot initialize WebRTC for the call") ∨
      ∃ w, w.initialized = true ∧ w.peerConnection = s.webrtc.bind WebrtcClient.peerConnection ∧
        s.prepareMedia initialized =
          (true, { s with webrtc := some w, mediaPrepared := true, clients := n }))) := by
  unfold prepareMedia
  cases hw : s.webrtc with
  | none =>
    refine Or.inr ⟨Or.inr rfl, s.clients + 1, ?_⟩
    cases initialized with
    | false => exact Or.inl rfl
    | true => exact Or.inr ⟨⟨s.clients, true, none⟩, rfl, rfl, rfl⟩
  | some w =>
    cases hm : s.mediaPrepared with
    | true => exact Or.inl ⟨rfl, rfl, by simp [hm]⟩
    | false =>
      refine Or.inr ⟨Or.inl rfl, s.clients, ?_⟩
      cases initialized with
      | false =>
        left
        obtain ⟨⟩ := s
        simp_all
      | true =>
        refine Or.inr ⟨{ w with initialized := true }, rfl, rfl, ?_⟩
        simp [hm, hw]

/-- What a call in the making rests on: each connection has one offer at most, it is made for the recipient
that accepted, and a connection outlives the session-initiate. -/
structure SetUp (s : JingleService) (g : Option Proposed) : Prop where
  peer : ∀ w p, s.webrtc = some w → w.peerConnection = some p → p.number < s.peers ∧ w.initialized = true
  offer_lt : ∀ c ∈ s.offers, c.peer < s.peers
  nodup : (s.offers.map Callback.peer).Nodup
  pending : ∀ c ∈ s.offers, s.alive c = true →
    ∃ call, g = some call ∧ call.initiated = 0 ∧ s.recipientId ∈ call.accepted ∧ jidToResource s.recipientId ≠ []
  called : ∀ w, s.webrtc = some w → w.initialized = true → g.isSome ∧ s.mediaPrepared = true
  initiated : ∀ call, g = some call → call.initiated ≠ 0 → s.hasPeerConnection = true
  accepted : ∀ call, g = some call → call.initiated = 0 → jidToResource s.recipientId ≠ [] →
    s.recipientId ∈ call.accepted

lemma SetUp.congr {s' : JingleService} (h : SetUp s g) (hw : s'.webrtc = s.webrtc) (hp : s'.peers = s.peers)
    (ho : s'.offers = s.offers) (hr : s'.recipientId = s.recipientId) (hm : s'.mediaPrepared = s.mediaPrepared) :
    SetUp s' g := by
  have halive : ∀ c, s'.alive c = s.alive c := fun c => by rw [alive, alive, hw]
  have hhas : s'.hasPeerConnection = s.hasPeerConnection := by rw [hasPeerConnection, hasPeerConnection, hw]
  refine ⟨?_, ?_, ?_, ?_, ?_, ?_, ?_⟩
  · rw [hw, hp]
    exact h.peer
  · rw [ho, hp]
    exact h.offer_lt
  · rw [ho]
    exact h.nodup
  · intro c hc ha
    rw [hr]
    exact h.pending c (ho ▸ hc) (halive c ▸ ha)
  · rw [hw, hm]
    exact h.called
  · rw [hhas]
    exact h.initiated
  · rw [hr]
    exact h.accepted

lemma SetUp.emit (h : SetUp s g) (e : Effect) : SetUp (s.emit e) g := h.congr rfl rfl rfl rfl rfl

lemma alive_none {c : Callback} (h : s.hasPeerConnection = false) : s.alive c = false := by
  unfold alive
  unfold hasPeerConnection at h
  split
  · rename_i hw
    rw [hw] at h
    cases h
  · rfl

lemma SetUp.fresh {s' : JingleService} {g' : Option Proposed} (h : SetUp s g) (hp : s'.peers = s.peers)
    (ho : s'.offers = s.offers) (hno : s'.hasPeerConnection = false)
    (hcalled : ∀ w, s'.webrtc = some w → w.initialized = true → g'.isSome ∧ s'.mediaPrepared = true)
    (hcall : ∀ call, g' = some call → call.initiated = 0 ∧
      (jidToResource s'.recipientId ≠ [] → s'.recipientId ∈ call.accepted)) : SetUp s' g' := by
  refine ⟨?_, ?_, ?_, ?_, hcalled, ?_, ?_⟩
  · intro w p hw hwp
    rw [hasPeerConnection, hw, Option.bind_some, hwp] at hno
    cases hno
  · rw [ho, hp]
    exact h.offer_lt
  · rw [ho]
    exact h.nodup
  · intro c _ ha
    rw [alive_none hno] at ha
    cases ha
  · exact fun call hg hn => absurd (hcall call hg).1 hn
  · exact fun call hg _ => (hcall call hg).2

lemma jidToResource_of_jidPattern {jid : QString} (h : jidPattern jid = true) : jidToResource jid = [] := by
  have hall : ∀ u ∈ jid, u ≠ 0x2F := by
    intro u hu
    simp only [jidPattern, Bool.and_eq_true, List.all_eq_true, bne_iff_ne, ne_eq] at h
    obtain ⟨⟨-, huser⟩, -, hdomain⟩ := h
    rw [← List.takeWhile_append_dropWhile (p := fun u => !decide (u = 0x40)) (l := jid), List.mem_append] at hu
    obtain hu | hu := hu
    · exact (huser u hu).1.2
    · cases hd : jid.dropWhile (fun u => !decide (u = 0x40)) with
      | nil =>
        rw [hd] at hu
        cases hu
      | cons v rest =>
        rw [hd] at hu hdomain
        obtain rfl | hu := List.mem_cons.mp hu
        · have hv := List.head?_dropWhile_not (fun u => !decide (u = 0x40)) jid
          rw [hd] at hv
          have hv : u = 0x40 := by simpa using hv
          rw [hv]
          decide
        · exact (hdomain u hu).1.2
  have hnil : jid.dropWhile (fun u => !decide (u = 0x2F)) = [] := by
    rw [List.dropWhile_eq_nil_iff]
    intro u hu
    simpa using hall u hu
  rw [jidToResource, hnil]
  rfl

lemma startCall_cases (s : JingleService) (receiverId : QString) (video initialized : Bool) :
    (∃ reason, s.startCall P receiverId video initialized = s.signalingFailed reason) ∨
    Startable s receiverId ∧ ∃ s', s.startCall P receiverId video initialized = s' ∧
      s'.recipientId = s.recipientOf receiverId ∧ s'.offers = s.offers ∧ s'.peers = s.peers ∧
      ((∃ reason, s'.log = s.log ++ [.callStateChange .calling] ++ [.signalingFailed reason] ∧
          s'.webrtc = none ∧ (s.mediaPrepared = false ∨ s.webrtc = none)) ∨
        (∃ recipient mid streams, s'.log =
            s.log ++ [.callStateChange .calling] ++ [.sendMessage .propose recipient mid streams] ∧
          s'.mediaPrepared = true ∧
          ((s.mediaPrepared = true ∧ s'.webrtc = s.webrtc) ∨
            (s.mediaPrepared = false ∨ s.webrtc = none) ∧ ∃ w, s'.webrtc = some w ∧
              w.peerConnection = s.webrtc.bind WebrtcClient.peerConnection))) := by
  unfold JingleService.startCall
  dsimp only
  by_cases hc : (!s.connected) = true
  · exact Or.inl ⟨_, if_pos hc⟩
  by_cases hj : (!jidPattern (s.recipientOf receiverId)) = true
  · exact Or.inl ⟨_, (if_neg hc).trans (if_pos hj)⟩
  by_cases hown : s.recipientOf receiverId = s.jidBare
  · exact Or.inl ⟨_, (if_neg hc).trans ((if_neg hj).trans (if_pos hown))⟩
  rw [if_neg hc, if_neg hj, if_neg hown]
  rw [Bool.not_eq_true', Bool.not_eq_false] at hc hj
  refine Or.inr ⟨⟨hc, hj, hown⟩, _, rfl, ?_⟩
  obtain ⟨hm, -, he⟩ | ⟨hm, n, he | ⟨w, -, hpeer, he⟩⟩ := prepareMedia_cases initialized
    ({ s with recipientId := s.recipientOf receiverId, videoCall := video }.emit (.callStateChange .calling))
  · simp only [he, Bool.not_true, Bool.false_eq_true, if_false]
    exact ⟨rfl, rfl, rfl, Or.inr ⟨_, _, _, rfl, hm, Or.inl ⟨hm, rfl⟩⟩⟩
  · simp only [he, Bool.not_false, if_true]
    exact ⟨rfl, rfl, rfl, Or.inl ⟨_, rfl, rfl, hm⟩⟩
  · simp only [he, Bool.not_true, Bool.false_eq_true, if_false]
    exact ⟨rfl, rfl, rfl, Or.inr ⟨_, _, _, rfl, rfl, Or.inr ⟨hm, w, rfl, hpeer⟩⟩⟩

lemma SetUp.no_peer (h : SetUp s g) (hm : s.mediaPrepared = false ∨ s.webrtc = none) :
    s.webrtc.bind WebrtcClient.peerConnection = none := by
  cases hw : s.webrtc with
  | none => rfl
  | some w =>
    cases hp : w.peerConnection with
    | none => exact hp
    | some p =>
      have hprepared := (h.called w hw (h.peer w p hw hp).2).2
      rw [hw, hprepared] at hm
      simp at hm

lemma SetUp.startCall (h : SetUp s g) (hlog : s.log = []) (receiverId : QString) (video initialized : Bool)
    (hoffers : Startable s receiverId → ∀ c ∈ s.offers, s.alive c = false) :
    SetUp (s.startCall P receiverId video initialized)
        (note g (s.startCall P receiverId video initialized).log (.startCall receiverId video initialized)) ∧
      initiates (s.startCall P receiverId video initialized).log = [] := by
  obtain ⟨reason, he⟩ | ⟨hstart, s', he, hrec, ho, hp, hcases⟩ := startCall_cases s receiverId video initialized
  · rw [he, JingleService.signalingFailed]
    simp only [JingleService.emit, hlog]
    exact ⟨h.congr rfl rfl rfl rfl rfl, rfl⟩
  rw [he]
  have hbare : jidToResource s'.recipientId = [] := hrec ▸ jidToResource_of_jidPattern hstart.2.1
  obtain ⟨reason, hl, hw, hm⟩ | ⟨recipient, mid, streams, hl, hm', hcases⟩ := hcases
  · rw [hl, hlog]
    refine ⟨h.fresh hp ho (by rw [hasPeerConnection, hw]; rfl) (by rw [hw]; simp) ?_, rfl⟩
    intro call hcall
    refine ⟨?_, fun hr => absurd hbare hr⟩
    by_contra hn
    have hpeer := h.initiated call hcall hn
    rw [hasPeerConnection, h.no_peer hm] at hpeer
    cases hpeer
  · rw [hl, hlog]
    refine ⟨?_, rfl⟩
    have hg : note g ([] ++ [.callStateChange .calling] ++ [.sendMessage .propose recipient mid streams])
        (.startCall receiverId video initialized) = some ⟨mid, [], 0⟩ := rfl
    rw [hg]
    obtain ⟨hm, hw⟩ | ⟨hm, w, hw, hpeer⟩ := hcases
    · have hdead : ∀ c ∈ s'.offers, s'.alive c = false := fun c hc => by
        rw [alive, hw]
        exact hoffers hstart c (ho ▸ hc)
      refine ⟨?_, ?_, ?_, fun c hc ha => ?_, fun _ _ _ => ⟨rfl, hm'⟩, ?_, ?_⟩
      · rw [hw, hp]
        exact h.peer
      · rw [ho, hp]
        exact h.offer_lt
      · rw [ho]
        exact h.nodup
      · rw [hdead c hc] at ha
        cases ha
      · rintro call hcall hn
        rw [← Option.some.inj hcall] at hn
        exact absurd rfl hn
      · exact fun _ _ _ hr => absurd hbare hr
    · refine h.fresh hp ho ?_ (fun _ _ _ => ⟨rfl, hm'⟩) ?_
      · rw [hasPeerConnection, hw, Option.bind_some, hpeer, h.no_peer hm]
        rfl
      · rintro call hcall
        rw [← Option.some.inj hcall]
        exact ⟨rfl, fun hr => absurd hbare hr⟩

lemma SetUp.endCall (h : SetUp s g) (hlog : s.log = []) :
    SetUp s.endCall none ∧ initiates s.endCall.log = [] := by
  constructor
  · refine h.fresh ?_ ?_ rfl (by simp [JingleService.endCall]) (by simp) <;>
      simp only [JingleService.endCall, sessionTerminate, JingleService.emit] <;> split_ifs <;> rfl
  · simp only [JingleService.endCall, sessionTerminate, JingleService.emit]
    split_ifs <;> simp [initiates, hlog]

lemma SetUp.connection (h : SetUp s g) {w : WebrtcClient} {iceServers : List IceServer} (hw : s.webrtc = some w)
    (hi : w.initialized = true) (hp : w.peerConnection = none) (hr : jidToResource s.recipientId ≠ []) :
    SetUp ({ s with
      webrtc := some { w with peerConnection := some ⟨s.peers, iceServers, []⟩ }
      peers := s.peers + 1 }.createOffer iceServers) g := by
  obtain ⟨hsome, hprepared⟩ := h.called w hw hi
  obtain ⟨call, hg⟩ := Option.isSome_iff_exists.mp hsome
  have hno : s.hasPeerConnection = false := by
    rw [hasPeerConnection, hw, Option.bind_some, hp]
    rfl
  have h0 : call.initiated = 0 := by
    by_contra hn
    rw [h.initiated call hg hn] at hno
    cases hno
  refine ⟨?_, ?_, ?_, ?_, fun _ _ _ => ⟨hsome, hprepared⟩, fun _ _ _ => rfl, h.accepted⟩
  · intro w' p hw' hp'
    obtain rfl := Option.some.inj hw'
    obtain rfl := Option.some.inj hp'
    exact ⟨Nat.lt_succ_self _, hi⟩
  · intro c hc
    obtain hc | hc := List.mem_append.mp hc
    · exact Nat.lt_succ_of_lt (h.offer_lt c hc)
    · rw [List.mem_singleton.mp hc]
      exact Nat.lt_succ_self _
  · rw [createOffer, List.map_append, List.nodup_append]
    refine ⟨h.nodup, List.nodup_singleton _, ?_⟩
    rintro q hq q' hq' rfl
    obtain ⟨c, hc, rfl⟩ := List.mem_map.mp hq
    have hlt := h.offer_lt c hc
    have heq : c.peer = s.peers := List.mem_singleton.mp hq'
    omega
  · exact fun _ _ _ => ⟨call, hg, h0, h.accepted call hg h0 hr, hr⟩

lemma createPeerConnection_cases (created : Bool) (iceServers : List IceServer) (w : WebrtcClient)
    (s : JingleService) :
    s.createPeerConnection created iceServers w = (false, s) ∨
    w.initialized = true ∧ w.peerConnection = none ∧ s.createPeerConnection created iceServers w =
      (true, { s with
        webrtc := some { w with peerConnection := some ⟨s.peers, iceServers, []⟩ }, peers := s.peers + 1 }) := by
  unfold createPeerConnection
  by_cases hb : (!w.initialized || w.peerConnection.isSome || iceServers.any (fun ice => (trimmed ice.host).isEmpty) ||
      !created) = true
  · exact Or.inl (if_pos hb)
  · refine Or.inr ⟨?_, ?_, if_neg hb⟩ <;> simp only [Bool.or_eq_true, not_or] at hb
    · simpa using hb.1.1.1
    · simpa using hb.1.1.2

lemma onExternalServiceReceived_cases (services : List ExternalService) (created : Bool) (s : JingleService) :
    s.onExternalServiceReceived services created = s ∨
    s.onExternalServiceReceived services created =
      s.signalingFailed "Cannot create the peer connection for the local offer" ∨
    ∃ w iceServers, s.webrtc = some w ∧ w.initialized = true ∧ w.peerConnection = none ∧
      s.onExternalServiceReceived services created = { s with
        webrtc := some { w with peerConnection := some ⟨s.peers, iceServers, []⟩ }
        peers := s.peers + 1 }.createOffer iceServers := by
  unfold onExternalServiceReceived
  split
  · exact Or.inl rfl
  · rename_i w hw
    dsimp only
    obtain he | ⟨hi, hp, he⟩ := createPeerConnection_cases created (services.filterMap ExternalService.ice) w s
    · exact Or.inr (Or.inl (by simp only [he, Bool.not_false, if_true]))
    · exact Or.inr (Or.inr ⟨w, services.filterMap ExternalService.ice, hw, hi, hp,
        by simp only [he, Bool.not_true, Bool.false_eq_true, if_false]⟩)

lemma SetUp.discovery (h : SetUp s g) (hlog : s.log = []) (services : Option (List ExternalService))
    (created : Bool) (hr : services.isSome → g.isSome → s.hasPeerConnection = false → jidToResource s.recipientId ≠ []) :
    SetUp (s.onDiscovery services created) g ∧ initiates (s.onDiscovery services created).log = [] := by
  unfold onDiscovery
  split_ifs with hd
  · exact ⟨h, by rw [hlog]; rfl⟩
  have h' : SetUp { s with discoveries := s.discoveries - 1 } g := h.congr rfl rfl rfl rfl rfl
  cases services with
  | none => exact ⟨h', by simp [initiates, hlog]⟩
  | some services =>
    dsimp only
    obtain he | he | ⟨w, iceServers, hw, hi, hp, he⟩ :=
      onExternalServiceReceived_cases services created { s with discoveries := s.discoveries - 1 }
    · rw [he]
      exact ⟨h', by simp [initiates, hlog]⟩
    · rw [he]
      exact ⟨h'.emit _, by simp [initiates, JingleService.signalingFailed, JingleService.emit, hlog]⟩
    · rw [he]
      refine ⟨h'.connection hw hi hp (hr rfl (h.called w hw hi).1 ?_), by simp [initiates, createOffer, hlog]⟩
      rw [hasPeerConnection, show s.webrtc = some w from hw, Option.bind_some, hp]
      rfl

lemma acceptOf_eq_some {stanza : Element} {m : JingleMessage} (h : acceptOf stanza = some m) :
    m.type = .accept ∧ ∀ created s, handleStanza P created stanza s = s.onJingleMessage m := by
  unfold acceptOf at h
  split_ifs at h with hs
  obtain ⟨hp, ht⟩ := Option.filter_eq_some_iff.mp h
  refine ⟨by simpa using ht, fun created s => ?_⟩
  obtain ⟨jingle, hj⟩ := Option.isSome_iff_exists.mp hs.2
  rw [handleStanza, if_pos hs.1, hj]
  simp only [hp]

lemma onAcceptReceived_cases (accept mid : QString) (s : JingleService) :
    s.onAcceptReceived accept mid = s ∨ (∃ reason, s.onAcceptReceived accept mid = s.signalingFailed reason) ∨
    Takes s accept ∧ s.onAcceptReceived accept mid =
      ({ s with recipientId := accept, discoveries := s.discoveries + 1 }.emit .requestExtDiscoQuery).emit
        (.acceptReceived accept mid) := by
  unfold onAcceptReceived
  split_ifs with hb hr
  · exact Or.inl rfl
  · exact Or.inr (Or.inl ⟨_, rfl⟩)
  · exact Or.inr (Or.inr ⟨⟨not_not.mp hb, by simpa using hr⟩, rfl⟩)

lemma Proposed.accept_initiated (c : Proposed) (m : JingleMessage) : (c.accept m).initiated = c.initiated := by
  unfold Proposed.accept
  split_ifs <;> rfl

lemma Proposed.mem_accept {c : Proposed} {m : JingleMessage} {jid : QString} (h : jid ∈ c.accepted) :
    jid ∈ (c.accept m).accepted := by
  unfold Proposed.accept
  split_ifs
  · exact List.mem_append_left _ h
  · exact h

lemma SetUp.noted (h : SetUp s g) (m : JingleMessage) : SetUp s (g.map (fun c => c.accept m)) := by
  refine ⟨h.peer, h.offer_lt, h.nodup, fun c hc ha => ?_, fun w hw hi => ?_, fun call hg hn => ?_,
    fun call hg h0 hr => ?_⟩
  · obtain ⟨call, hg, h0, hmem, hr⟩ := h.pending c hc ha
    exact ⟨call.accept m, by rw [hg]; rfl, (call.accept_initiated m).trans h0, Proposed.mem_accept hmem, hr⟩
  · obtain ⟨hg, hp⟩ := h.called w hw hi
    exact ⟨by rwa [Option.isSome_map], hp⟩
  · obtain ⟨c, hc, rfl⟩ := Option.map_eq_some_iff.mp hg
    rw [c.accept_initiated] at hn
    exact h.initiated c hc hn
  · obtain ⟨c, hc, rfl⟩ := Option.map_eq_some_iff.mp hg
    rw [c.accept_initiated] at h0
    exact Proposed.mem_accept (h.accepted c hc h0 hr)

lemma SetUp.accept (h : SetUp s g) (hlog : s.log = []) {m : JingleMessage} (ht : m.type = .accept)
    (hm : ∀ c, g = some c → c.initiated = 0 → Takes s m.sender → m.sessionId = c.mid ∨ m.sender ∈ c.accepted) :
    SetUp (s.onJingleMessage m) (g.map (fun c => c.accept m)) ∧ initiates (s.onJingleMessage m).log = [] := by
  have h' := (h.noted m).emit (.callStateChange .exchange)
  simp only [onJingleMessage, ht]
  obtain he | ⟨reason, he⟩ | ⟨htakes, he⟩ :=
    onAcceptReceived_cases m.sender m.sessionId (s.emit (.callStateChange .exchange))
  · rw [he]
    exact ⟨h', by simp [initiates, JingleService.emit, hlog]⟩
  · rw [he]
    exact ⟨h'.emit _, by simp [initiates, JingleService.signalingFailed, JingleService.emit, hlog]⟩
  · rw [he]
    refine ⟨?_, by simp [initiates, JingleService.emit, hlog]⟩
    have hmem : ∀ call, g.map (fun c => c.accept m) = some call → call.initiated = 0 →
        m.sender ∈ call.accepted := by
      intro call hcall h0
      obtain ⟨c, hg, rfl⟩ := Option.map_eq_some_iff.mp hcall
      rw [c.accept_initiated] at h0
      obtain hmid | hin := hm c hg h0 htakes
      · rw [Proposed.accept, if_pos hmid]
        exact List.mem_append_right _ List.mem_cons_self
      · exact Proposed.mem_accept hin
    refine ⟨h'.peer, h'.offer_lt, h'.nodup, fun c hc ha => ?_, h'.called, h'.initiated, fun call hcall h0 _ => ?_⟩
    · obtain ⟨call, hg, h0, -, -⟩ := h'.pending c hc ha
      exact ⟨call, hg, h0, hmem call hg h0, htakes.2⟩
    · exact hmem call hcall h0

lemma onOfferCreated_cases (i : ℕ) (sdp : QString) (s : JingleService) :
    s.onOfferCreated P i sdp = s ∨
    ∃ c, s.offers[i]? = some c ∧
      (s.onOfferCreated P i sdp = { s with offers := s.offers.eraseIdx i } ∨
      s.alive c = true ∧ ∃ sid jingle action uuids, s.onOfferCreated P i sdp =
        { s with offers := s.offers.eraseIdx i, jingle := jingle, action := action, uuids := uuids }.emit
          (.sendSessionInitiate s.recipientId sid sdp c.iceServers)) := by
  unfold onOfferCreated
  split
  · exact Or.inl rfl
  · rename_i c hc
    refine Or.inr ⟨c, hc, ?_⟩
    dsimp only
    by_cases ha : s.alive c = true
    · have ha' : alive c { s with offers := s.offers.eraseIdx i } = true := ha
      rw [if_pos ha', sessionInitaite]
      split_ifs
      · exact Or.inl rfl
      · exact Or.inr ⟨ha, _, _, _, _, rfl⟩
    · have ha' : ¬alive c { s with offers := s.offers.eraseIdx i } = true := ha
      exact Or.inl (if_neg ha')

lemma alive_peer {c : Callback} (h : s.alive c = true) :
    ∃ w p, s.webrtc = some w ∧ w.peerConnection = some p ∧ p.number = c.peer := by
  unfold alive at h
  split at h
  · rename_i client initialized peer hw
    exact ⟨_, peer, hw, rfl, (of_decide_eq_true h).2⟩
  · cases h

lemma SetUp.alive_erased (h : SetUp s g) {i : ℕ} {c c' : Callback} (hc : s.offers[i]? = some c)
    (ha : s.alive c = true) (hc' : c' ∈ s.offers.eraseIdx i) : s.alive c' = false := by
  rw [Bool.eq_false_iff]
  intro ha'
  obtain ⟨w, p, hw, hp, hn⟩ := alive_peer ha
  obtain ⟨w', p', hw', hp', hn'⟩ := alive_peer ha'
  obtain rfl := Option.some.inj (hw.symm.trans hw')
  obtain rfl := Option.some.inj (hp.symm.trans hp')
  obtain ⟨hi, hget⟩ := List.getElem?_eq_some_iff.mp hc
  obtain ⟨j, hj, hji, hget'⟩ := List.mem_eraseIdx_iff_getElem.mp hc'
  have hj' : j < (s.offers.map Callback.peer).length := by simpa using hj
  have hi' : i < (s.offers.map Callback.peer).length := by simpa using hi
  have hsame : (s.offers.map Callback.peer)[j] = (s.offers.map Callback.peer)[i] := by
    simp only [List.getElem_map, hget, hget']
    exact hn'.symm.trans hn
  exact hji (h.nodup.getElem_inj_iff.mp hsame)

lemma SetUp.offerCreated (h : SetUp s g) (hlog : s.log = []) (i : ℕ) (sdp : QString) :
    SetUp (s.onOfferCreated P i sdp)
        (note g (s.onOfferCreated P i sdp).log (.offerCreated i sdp)) ∧
      (initiates (s.onOfferCreated P i sdp).log = [] ∨ ∃ c recipient, g = some c ∧ c.initiated = 0 ∧
        initiates (s.onOfferCreated P i sdp).log = [recipient] ∧ recipient ∈ c.accepted ∧
        jidToResource recipient ≠ []) := by
  have hsame : g.map (fun c => { c with initiated := c.initiated + (initiates []).length }) = g := by
    cases g <;> rfl
  obtain he | ⟨c, hc, he | ⟨ha, sid, jingle, action, uuids, he⟩⟩ := onOfferCreated_cases i sdp s
  · rw [he, hlog, note, hsame]
    exact ⟨h, Or.inl rfl⟩
  · rw [he]
    dsimp only
    rw [hlog, note, hsame]
    exact ⟨⟨h.peer, fun c hc => h.offer_lt c (List.mem_of_mem_eraseIdx hc),
      h.nodup.sublist ((List.eraseIdx_sublist ..).map _), fun c hc => h.pending c (List.mem_of_mem_eraseIdx hc),
      h.called, h.initiated, h.accepted⟩, Or.inl rfl⟩
  · obtain ⟨call, rfl, h0, hmem, hr⟩ := h.pending c (List.mem_of_getElem? hc) ha
    rw [he]
    simp only [JingleService.emit, hlog]
    refine ⟨⟨h.peer, fun c hc => h.offer_lt c (List.mem_of_mem_eraseIdx hc),
      h.nodup.sublist ((List.eraseIdx_sublist ..).map _), fun c' hc' ha' => ?_, h.called, fun _ _ _ => ?_,
      fun c' hc' h0' => ?_⟩, Or.inr ⟨call, s.recipientId, rfl, h0, rfl, hmem, hr⟩⟩
    · have hdead := h.alive_erased hc ha hc'
      rw [show s.alive c' = true from ha'] at hdead
      cases hdead
    · obtain ⟨w, p, hw, hp, -⟩ := alive_peer ha
      rw [hasPeerConnection, show s.webrtc = some w from hw, Option.bind_some, hp]
      rfl
    · obtain rfl := Option.some.inj hc'
      simp [initiates] at h0'

lemma SetUp.step {s : JingleService × Option Proposed} (h : SetUp s.1 s.2) {e : Event} (hu : Unmixed s e) :
    SetUp (callStep P s e).1 (callStep P s e).2 ∧ InitiatesAccepted P s e := by
  obtain ⟨s, g⟩ := s
  have h' : SetUp { s with log := [] } g := h.congr rfl rfl rfl rfl rfl
  cases e with
  | startCall receiverId video initialized =>
    obtain ⟨hs, hi⟩ := h'.startCall (P := P) rfl receiverId video initialized hu
    exact ⟨hs, Or.inl hi⟩
  | endCall =>
    obtain ⟨hs, hi⟩ := h'.endCall rfl
    exact ⟨hs, Or.inl hi⟩
  | connectivity connected => exact ⟨h'.congr rfl rfl rfl rfl rfl, Or.inl rfl⟩
  | stanza stanza created =>
    obtain ⟨m, hm, hmid⟩ := hu
    obtain ⟨ht, hstep⟩ := acceptOf_eq_some (P := P) hm
    obtain ⟨hs, hi⟩ := h'.accept rfl ht hmid
    have he : Voip.step P s (.stanza stanza created) = onJingleMessage m { s with log := [] } := hstep ..
    refine ⟨?_, Or.inl (by rw [he]; exact hi)⟩
    simp only [callStep, he, note, hm]
    exact hs
  | discovery services created =>
    obtain ⟨hs, hi⟩ := h'.discovery rfl services created hu
    exact ⟨hs, Or.inl hi⟩
  | offerCreated i sdp =>
    obtain ⟨hs, hi⟩ := h'.offerCreated (P := P) rfl i sdp
    exact ⟨hs, hi⟩
  | _ => exact absurd hu id

end

def initialCall (domain jidBare : QString) : JingleService × Option Proposed := (.create domain jidBare, none)

lemma setUp_initial (domain jidBare : QString) :
    SetUp (initialCall domain jidBare).1 (initialCall domain jidBare).2 := by
  refine ⟨?_, by simp [initialCall, create, createWebrtcClient], List.nodup_nil,
    by simp [initialCall, create, createWebrtcClient], ?_, by simp [initialCall], by simp [initialCall]⟩ <;>
  · rintro w
    simp only [initialCall, create, createWebrtcClient, Option.some.injEq]
    aesop

/-- A caller whose calls do not mix sends each call's only session-initiate to a JID that accepted it. -/
theorem initiates_accepted {domain jidBare : QString} {es : List Event}
    (h : Each (callStep P) Unmixed (initialCall domain jidBare) es) :
    Each (callStep P) (InitiatesAccepted P) (initialCall domain jidBare) es :=
  h.imp (I := fun s => SetUp s.1 s.2) (setUp_initial ..) (fun _ _ hs hu => (hs.step hu).1)
    (fun _ _ hs hu => (hs.step hu).2)

def jingleMessage (type sender id : String) : Element :=
  .mk (ofAscii "message") [] [] [(ofAscii "from", ofAscii sender)]
    [.mk (ofAscii type) (ofAscii type) kJINGLE_MESSAGE [(ofAscii "id", ofAscii id)] [] []] []

def samplePlatform : Platform := ⟨fun n => [0x30 + UInt16.ofNat n], fun _ _ => true, fun _ _ _ => true⟩

def alice : JingleService × Option Proposed := initialCall (ofAscii "chat") (ofAscii "alice@chat")

/-- Alice calls Bob and a session is made with the sender of `accept`. -/
def callBob (accept : Element) : List Event :=
  [.connectivity true, .startCall (ofAscii "bob") false true, .stanza accept true, .discovery (some []) true,
    .offerCreated 0 (ofAscii "sdp")]

theorem initiates_accepted_sample : Each (callStep samplePlatform) (InitiatesAccepted samplePlatform) alice
    (callBob (jingleMessage "accept" "bob@chat/phone" "0")) := by
  refine initiates_accepted _ ⟨trivial, fun _ c hc => ?_, ⟨⟨.accept, ofAscii "bob@chat/phone", ofAscii "0", [], []⟩,
    by rfl, fun c hc _ _ => Or.inl ?_⟩, fun _ _ _ => by decide, trivial, trivial⟩
  · cases hc
  · have hmid : (after (callStep samplePlatform) alice [.connectivity true,
        .startCall (ofAscii "bob") false true]).2.map Proposed.mid = some (ofAscii "0") := by decide
    have hmid' : some c.mid = some (ofAscii "0") := (congrArg (Option.map Proposed.mid) hc).symm.trans hmid
    exact (Option.some.inj hmid').symm

/-- A late accept of an earlier call has the session of this one made with its sender. -/
theorem initiates_unaccepted : ¬Each (callStep samplePlatform) (InitiatesAccepted samplePlatform) alice
    (callBob (jingleMessage "accept" "bob@chat/phone" "earlier")) := by
  intro h
  obtain h | ⟨c, recipient, hc, -, hr, hmem, -⟩ := h.2.2.2.2.1
  · revert h
    decide
  · have hnone : (after (callStep samplePlatform) alice
        ((callBob (jingleMessage "accept" "bob@chat/phone" "earlier")).take 4)).2.map Proposed.accepted = some [] := by
      decide
    have hnone' : some c.accepted = some [] := (congrArg (Option.map Proposed.accepted) hc).symm.trans hnone
    rw [Option.some.inj hnone'] at hmem
    cases hmem

end ChatDesktop.Voip
