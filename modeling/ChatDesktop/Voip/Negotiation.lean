import ChatDesktop.Voip.WebrtcClient
import Mathlib.Data.List.Nodup

namespace ChatDesktop.Voip.Rtc

open Library Library.Text Library.Reactive Camera

def Posted.request : Posted → Option ℕ
  | .sdpCreated request _ _ _ _ => some request
  | .remoteSdpSet request _ _ => some request
  | _ => none

def Happening.answered : Happening → Option ℕ
  | .onSdp request _ _ => some request
  | .onRemoteSdp request _ => some request
  | _ => none

def Happening.postedEvent : Happening → Option Posted
  | .posted event => some event
  | _ => none

def Happening.ranEvent : Happening → Option Posted
  | .ran event => some event
  | _ => none

def Happening.connection : Happening → Option ℕ
  | .onSdp _ current _ => current
  | .onRemoteSdp _ current => current
  | .createOffer _ connection => some connection
  | .createAnswer _ connection => some connection
  | .setLocalDescription _ connection _ _ => some connection
  | .setRemoteDescription _ connection _ _ => some connection
  | .addIceCandidate connection _ => some connection
  | .close connection => some connection
  | .posted event => event.observer
  | .ran event => event.observer
  | _ => none

def Asked (history : List Happening) (request connection : ℕ) : Prop :=
  .createOffer request connection ∈ history ∨ .createAnswer request connection ∈ history

/-- A local description is given to the connection that made it, and a function is called for the connection there
is, after that has taken the description. -/
def Justified (before : List Happening) : Happening → Prop
  | .setLocalDescription request connection _ _ => Asked before request connection
  | .onSdp request current sdp => ∃ connection type, current = some connection ∧ Asked before request connection ∧
      .setLocalDescription request connection type sdp ∈ before
  | .onRemoteSdp request current => ∃ connection type sdp, current = some connection ∧
      .setRemoteDescription request connection type sdp ∈ before
  | _ => True

def postedOf (n : ℕ) (history : List Happening) : List Posted :=
  (history.filterMap Happening.postedEvent).filter (fun event => decide (event.observer = some n))

def ranOf (n : ℕ) (history : List Happening) : List Posted :=
  (history.filterMap Happening.ranEvent).filter (fun event => decide (event.observer = some n))

/-! ### What stands -/

def Stage.Reached (history : List Happening) (request connection : ℕ) : Stage → Prop
  | .creating => Asked history request connection
  | .setting type sdp => Asked history request connection ∧
      .setLocalDescription request connection type sdp ∈ history
  | .applying => ∃ type sdp, .setRemoteDescription request connection type sdp ∈ history

/-- A request whose guard points to the observer of a connection, which is there as long as the observer is. -/
structure Stands (s : WebrtcClient) (request : ℕ) (guard : Option ℕ) (stage : Stage) (connection : ℕ) : Prop where
  number : request < s.requests
  guard : guard = some connection
  known : connection < s.observers
  current : s.observing = some connection → s.current = some connection
  reached : stage.Reached s.history request connection

def Posted.Ready (s : WebrtcClient) : Posted → Prop
  | .sdpCreated request guard _ type sdp => ∃ connection, Stands s request guard (.setting type sdp) connection
  | .remoteSdpSet request guard _ => ∃ connection, Stands s request guard .applying connection
  | _ => True

structure Single (s : WebrtcClient) : Prop where
  once : (s.posted.filterMap Posted.request ++ s.history.filterMap Happening.answered).Nodup
  number : ∀ r ∈ s.posted.filterMap Posted.request ++ s.history.filterMap Happening.answered, r < s.requests
  gone : ∀ r ∈ s.posted.filterMap Posted.request ++ s.history.filterMap Happening.answered, s.sdpObservers r = none

structure InOrder (s : WebrtcClient) (n : ℕ) : Prop where
  queued : s.observing = some n → ranOf n s.history ++
    s.posted.filter (fun event => decide (event.observer = some n)) = postedOf n s.history
  past : ranOf n s.history <+: postedOf n s.history
  gone : s.observing ≠ some n → ∀ event ∈ s.posted, event.observer ≠ some n
  unborn : s.observers ≤ n → postedOf n s.history = []

structure Negotiating (s : WebrtcClient) : Prop where
  observing : ∀ n, s.observing = some n → n < s.observers
  current : ∀ n, s.current = some n → s.observing = some n
  outstanding : ∀ r o, s.sdpObservers r = some o → ∃ connection, Stands s r o.connection o.stage connection
  ready : ∀ event ∈ s.posted, event.Ready s
  single : Single s
  order : ∀ n, InOrder s n
  justified : ∀ before h, before ++ [h] <+: s.history → Justified before h
  silent : ∀ before after n, s.history = before ++ .close n :: after →
    (n < s.observers ∧ s.observing ≠ some n) ∧ ∀ h ∈ after, h.connection ≠ some n

structure Free (s : WebrtcClient) (r : ℕ) : Prop where
  number : r < s.requests
  gone : s.sdpObservers r = none
  fresh : r ∉ s.posted.filterMap Posted.request ++ s.history.filterMap Happening.answered

structure Grows (s s' : WebrtcClient) : Prop where
  requests : s.requests ≤ s'.requests
  observers : s.observers ≤ s'.observers
  history : ∀ h ∈ s.history, h ∈ s'.history
  live : ∀ n, n < s.observers → (s.observing = some n → s.current = some n) → s'.observing = some n →
    s'.current = some n
  free : ∀ r, Free s r → Free s' r

def Fine (s s' : WebrtcClient) : Prop := Negotiating s → Negotiating s' ∧ Grows s s'

section

variable {s s' s'' : WebrtcClient} {r n : ℕ} {guard : Option ℕ} {stage : Stage} {h : Happening} {event : Posted}
  {history : List Happening}

lemma Stage.Reached.mono {history' : List Happening} (hr : stage.Reached history r n)
    (hh : ∀ h ∈ history, h ∈ history') : stage.Reached history' r n := by
  cases stage with
  | creating => exact Or.imp (hh _) (hh _) hr
  | setting type sdp => exact ⟨Or.imp (hh _) (hh _) hr.1, hh _ hr.2⟩
  | applying =>
    obtain ⟨type, sdp, hmem⟩ := hr
    exact ⟨type, sdp, hh _ hmem⟩

lemma Grows.refl (s : WebrtcClient) : Grows s s :=
  ⟨Nat.le_refl _, Nat.le_refl _, fun _ hh => hh, fun _ _ hc => hc, fun _ hf => hf⟩

lemma Grows.trans (h : Grows s s') (h' : Grows s' s'') : Grows s s'' := by
  refine ⟨h.requests.trans h'.requests, h.observers.trans h'.observers, fun e he => h'.history e (h.history e he),
    fun n hn hc => ?_, fun r hf => h'.free r (h.free r hf)⟩
  exact h'.live n (hn.trans_le h.observers) (h.live n hn hc)

lemma Stands.grow (hs : Stands s r guard stage n) (hg : Grows s s') : Stands s' r guard stage n :=
  ⟨hs.number.trans_le hg.requests, hs.guard, hs.known.trans_le hg.observers, hg.live n hs.known hs.current,
    hs.reached.mono hg.history⟩

lemma Posted.Ready.mono (hr : event.Ready s)
    (hs : ∀ {q guard stage n}, Stands s q guard stage n → Stands s' q guard stage n) : event.Ready s' := by
  cases event with
  | sdpCreated request guard onSuccess type sdp => exact hr.imp fun n hst => hs hst
  | remoteSdpSet request guard onSuccess => exact hr.imp fun n hst => hs hst
  | connectionStateChanged observer state => trivial
  | iceCandidateChanged observer candidate sdpMid sdpMLineIndex => trivial
  | peerErrorOccurred observer message => trivial
  | captureErrorOccurred message => trivial

lemma Posted.Ready.grow (hr : event.Ready s) (hg : Grows s s') : event.Ready s' :=
  hr.mono fun hst => hst.grow hg

lemma Fine.refl (s : WebrtcClient) : Fine s s := fun hs => ⟨hs, .refl s⟩

lemma Fine.trans (h : Fine s s') (h' : Fine s' s'') : Fine s s'' := by
  intro hs
  obtain ⟨hs', hg⟩ := h hs
  obtain ⟨hs'', hg'⟩ := h' hs'
  exact ⟨hs'', hg.trans hg'⟩

lemma Fine.same (ho : s'.observing = s.observing) (hc : s'.current = s.current)
    (hs : s'.sdpObservers = s.sdpObservers) (hp : s'.posted = s.posted) (hn : s'.observers = s.observers)
    (hr : s'.requests = s.requests) (hh : s'.history = s.history) : Fine s s' := by
  intro h
  have hg : Grows s s' := by
    refine ⟨hr.ge, hn.ge, fun e he => by rwa [hh], fun n _ hl => by rwa [ho, hc], fun r hf => ?_⟩
    exact ⟨by rw [hr]; exact hf.number, by rw [hs]; exact hf.gone, by rw [hp, hh]; exact hf.fresh⟩
  refine ⟨⟨?_, ?_, fun r o hso => ?_, fun event he => ?_, ?_, fun n => ?_, ?_, ?_⟩, hg⟩
  · rw [ho, hn]
    exact h.observing
  · rw [ho, hc]
    exact h.current
  · rw [hs] at hso
    obtain ⟨n, hst⟩ := h.outstanding r o hso
    exact ⟨n, hst.grow hg⟩
  · rw [hp] at he
    exact (h.ready event he).grow hg
  · refine ⟨?_, ?_, ?_⟩
    · rw [hp, hh]
      exact h.single.once
    · rw [hp, hh, hr]
      exact h.single.number
    · rw [hp, hh, hs]
      exact h.single.gone
  · have hi := h.order n
    refine ⟨?_, ?_, ?_, ?_⟩
    · rw [ho, hh, hp]
      exact hi.queued
    · rw [hh]
      exact hi.past
    · rw [ho, hp]
      exact hi.gone
    · rw [hn, hh]
      exact hi.unborn
  · rw [hh]
    exact h.justified
  · rw [hh, hn, ho]
    exact h.silent

/-! ### The history grows by one -/

lemma justified_concat (hj : ∀ before e, before ++ [e] <+: history → Justified before e) (hh : Justified history h) :
    ∀ before e, before ++ [e] <+: history ++ [h] → Justified before e := by
  intro before e hp
  obtain he | hp := List.prefix_concat_iff.mp hp
  · obtain ⟨rfl, hlast⟩ := List.append_inj' he rfl
    rwa [List.head_eq_of_cons_eq hlast]
  · exact hj before e hp

lemma silent_concat {closed closed' : ℕ → Prop}
    (hs : ∀ before after n, history = before ++ .close n :: after → closed n ∧ ∀ h ∈ after, h.connection ≠ some n)
    (hmono : ∀ n, closed n → closed' n) (hclose : ∀ n, h = .close n → closed' n)
    (hh : ∀ n, closed n → h.connection ≠ some n) :
    ∀ before after n, history ++ [h] = before ++ .close n :: after →
      closed' n ∧ ∀ h ∈ after, h.connection ≠ some n := by
  intro before after n heq
  cases List.eq_nil_or_concat after with
  | inl hnil =>
    rw [hnil] at heq
    have hlast := List.head_eq_of_cons_eq (List.append_inj' heq rfl).2
    rw [hnil]
    exact ⟨hclose n hlast, fun e he => absurd he List.not_mem_nil⟩
  | inr hconcat =>
    obtain ⟨after, last, rfl⟩ := hconcat
    rw [List.concat_eq_append, ← List.cons_append, ← List.append_assoc] at heq
    obtain ⟨heq, hlast⟩ := List.append_inj' heq rfl
    obtain ⟨hc, hafter⟩ := hs before after n heq
    refine ⟨hmono n hc, fun e he => ?_⟩
    rw [List.concat_eq_append, List.mem_append, List.mem_singleton] at he
    obtain he | rfl := he
    · exact hafter e he
    · rw [← List.head_eq_of_cons_eq hlast]
      exact hh n hc

lemma postedOf_concat (n : ℕ) (history : List Happening) (hh : h.postedEvent = none) :
    postedOf n (history ++ [h]) = postedOf n history := by
  rw [postedOf, List.filterMap_append, List.filterMap_cons_none hh, List.filterMap_nil, List.append_nil, postedOf]

lemma ranOf_concat (n : ℕ) (history : List Happening) (hh : h.ranEvent = none) :
    ranOf n (history ++ [h]) = ranOf n history := by
  rw [ranOf, List.filterMap_append, List.filterMap_cons_none hh, List.filterMap_nil, List.append_nil, ranOf]

lemma answered_concat (history : List Happening) (hh : h.answered = none) :
    (history ++ [h]).filterMap Happening.answered = history.filterMap Happening.answered := by
  rw [List.filterMap_append, List.filterMap_cons_none hh, List.filterMap_nil, List.append_nil]

/-- A happening that is neither an answer nor one of the queue, and closes nothing. -/
structure Plain (h : Happening) : Prop where
  answered : h.answered = none
  posted : h.postedEvent = none
  ran : h.ranEvent = none
  close : ∀ n, h ≠ .close n

lemma grows_put (s : WebrtcClient) (ha : h.answered = none) : Grows s (s.put h) := by
  refine ⟨Nat.le_refl _, Nat.le_refl _, fun e he => List.mem_append_left _ he, fun _ _ hc => hc, fun r hf => ?_⟩
  refine ⟨hf.number, hf.gone, ?_⟩
  change r ∉ s.posted.filterMap Posted.request ++ (s.history ++ [h]).filterMap Happening.answered
  rw [answered_concat _ ha]
  exact hf.fresh

lemma fine_put (hp : Plain h) (hc : ∀ n, h.connection = some n → s.observing = some n)
    (hj : Justified s.history h) : Fine s (s.put h) := by
  intro hs
  have hg := grows_put s hp.answered
  refine ⟨⟨hs.observing, hs.current, fun r o hso => ?_, fun event he => (hs.ready event he).grow hg, ?_, fun n => ?_,
    justified_concat hs.justified hj,
    silent_concat hs.silent (fun _ hn => hn) (fun n hn => absurd hn (hp.close n)) ?_⟩, hg⟩
  · obtain ⟨n, hst⟩ := hs.outstanding r o hso
    exact ⟨n, hst.grow hg⟩
  · have he := answered_concat s.history hp.answered
    refine ⟨?_, ?_, ?_⟩
    · change (s.posted.filterMap Posted.request ++ (s.history ++ [h]).filterMap Happening.answered).Nodup
      rw [he]
      exact hs.single.once
    · change ∀ r ∈ s.posted.filterMap Posted.request ++ (s.history ++ [h]).filterMap Happening.answered, _
      rw [he]
      exact hs.single.number
    · change ∀ r ∈ s.posted.filterMap Posted.request ++ (s.history ++ [h]).filterMap Happening.answered, _
      rw [he]
      exact hs.single.gone
  · have hi := hs.order n
    have hposted := postedOf_concat n s.history hp.posted
    have hran := ranOf_concat n s.history hp.ran
    refine ⟨fun ho => ?_, ?_, hi.gone, fun hn => hposted.trans (hi.unborn hn)⟩
    · change ranOf n (s.history ++ [h]) ++ _ = postedOf n (s.history ++ [h])
      rw [hposted, hran]
      exact hi.queued ho
    · change ranOf n (s.history ++ [h]) <+: postedOf n (s.history ++ [h])
      rw [hposted, hran]
      exact hi.past
  · intro n hn hconnection
    exact hn.2 (hc n hconnection)

def Happening.isSignal : Happening → Bool
  | .errorOccurred _ => true
  | .localSdpCreated _ _ => true
  | .localIceCandidateGenerated _ _ _ => true
  | .connectionStateChanged _ => true
  | .connected => true
  | .disconnected => true
  | .localVideoFrameReady _ => true
  | .remoteVideoFrameReady _ => true
  | .pushFrame _ => true
  | .ranCapture _ => true
  | .onFrame _ => true
  | _ => false

lemma Fine.signal (hf : Fine s s') (h : Happening) (hh : h.isSignal = true) : Fine s (s'.put h) := by
  refine hf.trans (fine_put ⟨?_, ?_, ?_, fun n hn => ?_⟩ (fun n hn => ?_) ?_)
  · cases h <;> first | rfl | cases hh
  · cases h <;> first | rfl | cases hh
  · cases h <;> first | rfl | cases hh
  · rw [hn] at hh
    cases hh
  · cases h <;> first | (cases hh; done) | cases hn
  · cases h <;> trivial

/-! ### The queue -/

lemma fine_post (hr : event.request = none) (ho : ∀ n, event.observer = some n → s.observing = some n) :
    Fine s (s.post event) := by
  intro hs
  have hposted : (s.posted ++ [event]).filterMap Posted.request = s.posted.filterMap Posted.request := by
    rw [List.filterMap_append, List.filterMap_cons_none hr, List.filterMap_nil, List.append_nil]
  have hanswered : (s.history ++ [Happening.posted event]).filterMap Happening.answered =
      s.history.filterMap Happening.answered := answered_concat _ rfl
  have htickets : (s.post event).posted.filterMap Posted.request ++
      (s.post event).history.filterMap Happening.answered =
      s.posted.filterMap Posted.request ++ s.history.filterMap Happening.answered := congrArg₂ _ hposted hanswered
  have hg : Grows s (s.post event) := by
    refine ⟨Nat.le_refl _, Nat.le_refl _, fun e he => List.mem_append_left _ he, fun _ _ hc => hc, fun r hf => ?_⟩
    exact ⟨hf.number, hf.gone, htickets ▸ hf.fresh⟩
  refine ⟨⟨hs.observing, hs.current, fun r o hso => ?_, fun e he => ?_, ?_, fun n => ?_,
    justified_concat hs.justified trivial, silent_concat hs.silent (fun _ hn => hn) (fun n hn => by cases hn) ?_⟩, hg⟩
  · obtain ⟨n, hst⟩ := hs.outstanding r o hso
    exact ⟨n, hst.grow hg⟩
  · obtain he | he := List.mem_append.mp he
    · exact (hs.ready e he).grow hg
    · rw [List.mem_singleton.mp he]
      cases event <;> trivial
  · exact ⟨htickets ▸ hs.single.once, htickets ▸ hs.single.number, htickets ▸ hs.single.gone⟩
  · have hi := hs.order n
    have hran : ranOf n (s.post event).history = ranOf n s.history := ranOf_concat n s.history rfl
    have hnew : postedOf n (s.post event).history =
        postedOf n s.history ++ [event].filter (fun event => decide (event.observer = some n)) := by
      change postedOf n (s.history ++ [.posted event]) = _
      rw [postedOf, List.filterMap_append, List.filter_append]
      rfl
    refine ⟨fun hn => ?_, ?_, fun hn e he => ?_, fun hn => ?_⟩
    · rw [hran, hnew, ← hi.queued hn, List.append_assoc]
      congr 1
      exact List.filter_append _ _
    · rw [hran, hnew]
      exact hi.past.trans (List.prefix_append _ _)
    · obtain he | he := List.mem_append.mp he
      · exact hi.gone hn e he
      · rw [List.mem_singleton.mp he]
        exact fun heq => hn (ho n heq)
    · have hne : event.observer ≠ some n := fun heq => absurd (hs.observing n (ho n heq)) (Nat.not_lt.mpr hn)
      rw [hnew, hi.unborn hn, List.nil_append, List.filter_cons_of_neg (by simpa using hne), List.filter_nil]
  · intro n hn hconnection
    exact hn.2 (ho n hconnection)

lemma Negotiating.pop (hs : Negotiating s) {rest : List Posted} (hp : s.posted = event :: rest) :
    Negotiating ({ s with posted := rest }.put (.ran event)) ∧
      event.Ready ({ s with posted := rest }.put (.ran event)) ∧
      ∀ r, event.request = some r → Free ({ s with posted := rest }.put (.ran event)) r := by
  have hanswered : ({ s with posted := rest }.put (.ran event)).history.filterMap Happening.answered =
      s.history.filterMap Happening.answered := answered_concat _ rfl
  have htickets : s.posted.filterMap Posted.request = event.request.toList ++ rest.filterMap Posted.request := by
    rw [hp]
    cases he : event.request with
    | none => rw [List.filterMap_cons_none he]; rfl
    | some r => rw [List.filterMap_cons_some he]; rfl
  have hsub : ∀ r ∈ rest.filterMap Posted.request ++ s.history.filterMap Happening.answered,
      r ∈ s.posted.filterMap Posted.request ++ s.history.filterMap Happening.answered := by
    intro r hr
    rw [htickets, List.append_assoc]
    exact List.mem_append_right _ hr
  have hg : Grows s ({ s with posted := rest }.put (.ran event)) := by
    refine ⟨Nat.le_refl _, Nat.le_refl _, fun e he => List.mem_append_left _ he, fun _ _ hc => hc, fun r hf => ?_⟩
    refine ⟨hf.number, hf.gone, fun hmem => hf.fresh (hsub r ?_)⟩
    rwa [hanswered] at hmem
  have hready : ∀ e ∈ s.posted, e.Ready ({ s with posted := rest }.put (.ran event)) :=
    fun e he => (hs.ready e he).grow hg
  have hhead : event ∈ s.posted := by
    rw [hp]
    exact List.mem_cons_self
  refine ⟨⟨hs.observing, hs.current, fun r o hso => ?_, fun e he => hready e ?_, ⟨?_, fun r hr => ?_, fun r hr => ?_⟩,
    fun n => ?_, justified_concat hs.justified trivial, silent_concat hs.silent (fun _ hn => hn) nofun ?_⟩,
    hready event hhead, fun r hr => ?_⟩
  · obtain ⟨n, hst⟩ := hs.outstanding r o hso
    exact ⟨n, hst.grow hg⟩
  · rw [hp]
    exact List.mem_cons_of_mem _ he
  · rw [hanswered]
    have honce := hs.single.once
    rw [htickets, List.append_assoc] at honce
    exact (List.nodup_append.mp honce).2.1
  · rw [hanswered] at hr
    exact hs.single.number r (hsub r hr)
  · rw [hanswered] at hr
    exact hs.single.gone r (hsub r hr)
  · have hi := hs.order n
    have hposted : postedOf n ({ s with posted := rest }.put (.ran event)).history = postedOf n s.history :=
      postedOf_concat n s.history rfl
    have hran : ranOf n ({ s with posted := rest }.put (.ran event)).history =
        ranOf n s.history ++ [event].filter (fun event => decide (event.observer = some n)) := by
      change ranOf n (s.history ++ [.ran event]) = _
      rw [ranOf, List.filterMap_append, List.filter_append]
      rfl
    have hqueue : s.posted.filter (fun event => decide (event.observer = some n)) =
        [event].filter (fun event => decide (event.observer = some n)) ++
          rest.filter (fun event => decide (event.observer = some n)) := by
      rw [hp, ← List.filter_append]
      rfl
    have hnow : s.observing = some n → ranOf n ({ s with posted := rest }.put (.ran event)).history ++
        rest.filter (fun event => decide (event.observer = some n)) = postedOf n s.history := by
      intro hn
      rw [hran, List.append_assoc, ← hqueue]
      exact hi.queued hn
    refine ⟨fun hn => ?_, ?_, fun hn e he => hi.gone hn e ?_, fun hn => hposted.trans (hi.unborn hn)⟩
    · rw [hposted]
      exact hnow hn
    · rw [hposted]
      by_cases hn : s.observing = some n
      · exact ⟨_, hnow hn⟩
      · rw [hran, List.filter_cons_of_neg (by simpa using hi.gone hn event hhead), List.filter_nil, List.append_nil]
        exact hi.past
    · rw [hp]
      exact List.mem_cons_of_mem _ he
  · intro n hn hconnection
    exact (hs.order n).gone hn.2 event hhead hconnection
  · have hmem : r ∈ s.posted.filterMap Posted.request ++ s.history.filterMap Happening.answered := by
      rw [htickets, hr]
      exact List.mem_append_left _ List.mem_cons_self
    refine ⟨hs.single.number r hmem, hs.single.gone r hmem, fun hmem => ?_⟩
    rw [hanswered] at hmem
    have honce := hs.single.once
    rw [htickets, hr, List.append_assoc] at honce
    exact (List.nodup_cons.mp honce).1 hmem

lemma Negotiating.answer (hs : Negotiating s) (hf : Free s r) (ha : h.answered = some r) (hp : h.postedEvent = none)
    (hr : h.ranEvent = none) (hc : ∀ n, h.connection = some n → s.observing = some n) (hclose : ∀ n, h ≠ .close n)
    (hj : Justified s.history h) : Negotiating (s.put h) := by
  have hanswered : (s.put h).history.filterMap Happening.answered = s.history.filterMap Happening.answered ++ [r] := by
    change (s.history ++ [h]).filterMap Happening.answered = _
    rw [List.filterMap_append, List.filterMap_cons_some ha, List.filterMap_nil]
  have hmem : ∀ q ∈ (s.put h).posted.filterMap Posted.request ++ (s.put h).history.filterMap Happening.answered,
      q ∈ s.posted.filterMap Posted.request ++ s.history.filterMap Happening.answered ∨ q = r := by
    intro q hq
    rw [hanswered, ← List.append_assoc, List.mem_append, List.mem_singleton] at hq
    exact hq
  have hstands : ∀ {q guard stage n}, Stands s q guard stage n → Stands (s.put h) q guard stage n := fun hst =>
    ⟨hst.number, hst.guard, hst.known, hst.current, hst.reached.mono fun e he => List.mem_append_left _ he⟩
  refine ⟨hs.observing, hs.current, fun q o hso => ?_, fun event he => ?_, ⟨?_, fun q hq => ?_, fun q hq => ?_⟩,
    fun n => ?_, justified_concat hs.justified hj, silent_concat hs.silent (fun _ hn => hn)
      (fun n hn => absurd hn (hclose n)) fun n hn hh => hn.2 (hc n hh)⟩
  · obtain ⟨n, hst⟩ := hs.outstanding q o hso
    exact ⟨n, hstands hst⟩
  · exact (hs.ready event he).mono hstands
  · rw [hanswered, ← List.append_assoc, ← List.concat_eq_append]
    exact List.Nodup.concat hf.fresh hs.single.once
  · obtain hq | rfl := hmem q hq
    · exact hs.single.number q hq
    · exact hf.number
  · obtain hq | rfl := hmem q hq
    · exact hs.single.gone q hq
    · exact hf.gone
  · have hi := hs.order n
    have hposted : postedOf n (s.put h).history = postedOf n s.history := postedOf_concat n s.history hp
    have hran : ranOf n (s.put h).history = ranOf n s.history := ranOf_concat n s.history hr
    refine ⟨fun hn => ?_, ?_, hi.gone, fun hn => hposted.trans (hi.unborn hn)⟩
    · rw [hposted, hran]
      exact hi.queued hn
    · rw [hposted, hran]
      exact hi.past

/-! ### Requests -/

lemma fine_observe (onSuccess : Bool) (hc : s.current = some n) (hr : stage.Reached s.history s.requests n) :
    Fine s (s.observe stage onSuccess) := by
  intro hs
  have hold : ∀ q, q < s.requests → (s.observe stage onSuccess).sdpObservers q = s.sdpObservers q :=
    fun q hq => Function.update_of_ne (Nat.ne_of_lt hq) _ _
  have hg : Grows s (s.observe stage onSuccess) := by
    refine ⟨Nat.le_succ _, Nat.le_refl _, fun e he => he, fun _ _ hc => hc, fun r hf => ?_⟩
    exact ⟨hf.number.trans (Nat.lt_succ_self _), (hold r hf.number).trans hf.gone, hf.fresh⟩
  refine ⟨⟨hs.observing, hs.current, fun r o hso => ?_, fun event he => (hs.ready event he).grow hg,
    ⟨hs.single.once, fun r hr => (hs.single.number r hr).trans (Nat.lt_succ_self _), fun r hr => ?_⟩,
    fun n => ?_, hs.justified, hs.silent⟩, hg⟩
  · change Function.update s.sdpObservers s.requests _ r = some o at hso
    by_cases he : r = s.requests
    · rw [he, Function.update_self] at hso
      obtain rfl := Option.some.inj hso
      have ho := hs.current n hc
      exact ⟨n, ⟨by rw [he]; exact Nat.lt_succ_self _, ho, hs.observing n ho, fun _ => hc, by rw [he]; exact hr⟩⟩
    · rw [Function.update_of_ne he] at hso
      obtain ⟨n, hst⟩ := hs.outstanding r o hso
      exact ⟨n, hst.grow hg⟩
  · rw [hold r (hs.single.number r hr)]
    exact hs.single.gone r hr
  · have hi := hs.order n
    exact ⟨hi.queued, hi.past, hi.gone, hi.unborn⟩

lemma Negotiating.replace (hs : Negotiating s) (hf : Free s r) {o : Option SdpObserver}
    (ho : ∀ o', o = some o' → ∃ n, Stands s r o'.connection o'.stage n) :
    Negotiating { s with sdpObservers := Function.update s.sdpObservers r o } := by
  have hstands : ∀ {q guard stage n}, Stands s q guard stage n →
      Stands { s with sdpObservers := Function.update s.sdpObservers r o } q guard stage n := fun hst =>
    ⟨hst.number, hst.guard, hst.known, hst.current, hst.reached⟩
  refine ⟨hs.observing, hs.current, fun q o' hso => ?_, fun event he => ?_,
    ⟨hs.single.once, hs.single.number, fun q hq => ?_⟩, fun n => ?_, hs.justified, hs.silent⟩
  · change Function.update s.sdpObservers r o q = some o' at hso
    by_cases he : q = r
    · subst he
      rw [Function.update_self] at hso
      exact (ho o' hso).imp fun n hst => hstands hst
    · rw [Function.update_of_ne he] at hso
      exact (hs.outstanding q o' hso).imp fun n hst => hstands hst
  · exact (hs.ready event he).mono hstands
  · have hne : q ≠ r := by
      rintro rfl
      exact hf.fresh hq
    exact (Function.update_of_ne hne _ _).trans (hs.single.gone q hq)
  · have hi := hs.order n
    exact ⟨hi.queued, hi.past, hi.gone, hi.unborn⟩

lemma Negotiating.forget (hs : Negotiating s) (r : ℕ) : Negotiating (s.forget r) ∧ Grows s (s.forget r) := by
  have hgone : ∀ q, s.sdpObservers q = none → (s.forget r).sdpObservers q = none := by
    intro q hq
    change Function.update s.sdpObservers r none q = none
    by_cases he : q = r
    · rw [he, Function.update_self]
    · rw [Function.update_of_ne he, hq]
  have hg : Grows s (s.forget r) :=
    ⟨Nat.le_refl _, Nat.le_refl _, fun e he => he, fun _ _ hc => hc, fun q hf => ⟨hf.number, hgone q hf.gone, hf.fresh⟩⟩
  refine ⟨⟨hs.observing, hs.current, fun q o hso => ?_, fun event he => (hs.ready event he).grow hg,
    ⟨hs.single.once, hs.single.number, fun q hq => hgone q (hs.single.gone q hq)⟩, fun n => ?_, hs.justified,
    hs.silent⟩, hg⟩
  · change Function.update s.sdpObservers r none q = some o at hso
    by_cases he : q = r
    · rw [he, Function.update_self] at hso
      cases hso
    · rw [Function.update_of_ne he] at hso
      exact (hs.outstanding q o hso).imp fun n hst => hst.grow hg
  · have hi := hs.order n
    exact ⟨hi.queued, hi.past, hi.gone, hi.unborn⟩

lemma Negotiating.free_forget (hs : Negotiating s) {o : SdpObserver} (ho : s.sdpObservers r = some o) :
    Free (s.forget r) r := by
  obtain ⟨n, hst⟩ := hs.outstanding r o ho
  refine ⟨hst.number, ?_, fun hmem => ?_⟩
  · change Function.update s.sdpObservers r none r = none
    exact Function.update_self r none s.sdpObservers
  · rw [hs.single.gone r hmem] at ho
    cases ho

lemma Negotiating.complete (hs : Negotiating s) (hf : Free s r) (hr : event.request = some r)
    (ho : event.observer = none) (hready : event.Ready s) : Negotiating (s.post event) := by
  have hposted : (s.post event).posted.filterMap Posted.request = s.posted.filterMap Posted.request ++ [r] := by
    change (s.posted ++ [event]).filterMap Posted.request = _
    rw [List.filterMap_append, List.filterMap_cons_some hr, List.filterMap_nil]
  have hanswered : (s.post event).history.filterMap Happening.answered = s.history.filterMap Happening.answered :=
    answered_concat _ rfl
  have hperm : ((s.post event).posted.filterMap Posted.request ++
      (s.post event).history.filterMap Happening.answered).Perm
      (r :: (s.posted.filterMap Posted.request ++ s.history.filterMap Happening.answered)) := by
    rw [hposted, hanswered, List.append_assoc]
    exact List.perm_middle
  have hstands : ∀ {q guard stage n}, Stands s q guard stage n → Stands (s.post event) q guard stage n := fun hst =>
    ⟨hst.number, hst.guard, hst.known, hst.current, hst.reached.mono fun e he => List.mem_append_left _ he⟩
  have hfilter : ∀ n, [event].filter (fun event => decide (event.observer = some n)) = [] := by
    intro n
    rw [List.filter_cons_of_neg (by rw [ho]; simp), List.filter_nil]
  refine ⟨hs.observing, hs.current, fun q o hso => ?_, fun e he => ?_, ⟨?_, fun q hq => ?_, fun q hq => ?_⟩,
    fun n => ?_, justified_concat hs.justified trivial, silent_concat hs.silent (fun _ hn => hn) nofun ?_⟩
  · exact (hs.outstanding q o hso).imp fun n hst => hstands hst
  · obtain he | he := List.mem_append.mp he
    · exact (hs.ready e he).mono hstands
    · rw [List.mem_singleton.mp he]
      exact hready.mono hstands
  · exact hperm.nodup_iff.mpr (List.nodup_cons.mpr ⟨hf.fresh, hs.single.once⟩)
  · obtain rfl | hq := List.mem_cons.mp (hperm.mem_iff.mp hq)
    · exact hf.number
    · exact hs.single.number q hq
  · obtain rfl | hq := List.mem_cons.mp (hperm.mem_iff.mp hq)
    · exact hf.gone
    · exact hs.single.gone q hq
  · have hi := hs.order n
    have hran : ranOf n (s.post event).history = ranOf n s.history := ranOf_concat n s.history rfl
    have hnew : postedOf n (s.post event).history = postedOf n s.history := by
      change postedOf n (s.history ++ [.posted event]) = _
      rw [postedOf, List.filterMap_append, List.filter_append]
      change _ ++ [event].filter _ = _
      rw [hfilter n, List.append_nil, postedOf]
    have hqueue : (s.post event).posted.filter (fun event => decide (event.observer = some n)) =
        s.posted.filter (fun event => decide (event.observer = some n)) := by
      change (s.posted ++ [event]).filter _ = _
      rw [List.filter_append, hfilter n, List.append_nil]
    refine ⟨fun hn => ?_, ?_, fun hn e he => ?_, fun hn => hnew.trans (hi.unborn hn)⟩
    · rw [hran, hqueue, hnew]
      exact hi.queued hn
    · rw [hran, hnew]
      exact hi.past
    · obtain he | he := List.mem_append.mp he
      · exact hi.gone hn e he
      · rw [List.mem_singleton.mp he, ho]
        exact Option.some_ne_none n |>.symm
  · intro n hn hconnection
    change event.observer = some n at hconnection
    rw [ho] at hconnection
    cases hconnection

/-! ### Connections come and go -/

lemma fine_cut (ho : ∀ n, s'.observing = some n → n = s.observers ∧ n < s'.observers)
    (hc : ∀ n, s'.current = some n → s'.observing = some n) (hn : s.observers ≤ s'.observers)
    (hso : s'.sdpObservers = s.sdpObservers) (hr : s'.requests = s.requests)
    (hp : s'.posted = s.posted.filter (fun event => event.observer.isNone || decide (event.observer ≠ s.observing)))
    (hh : s'.history = s.history ∨ ∃ n, s.observing = some n ∧ s'.history = s.history ++ [.close n]) : Fine s s' := by
  intro hs
  have hold : ∀ n, n < s.observers → s'.observing ≠ some n := fun n hlt heq => absurd (ho n heq).1 (Nat.ne_of_lt hlt)
  have hkept : ∀ event ∈ s'.posted, event ∈ s.posted := fun event he => List.mem_of_mem_filter (hp ▸ he)
  have hmem : ∀ e ∈ s.history, e ∈ s'.history := by
    intro e he
    obtain hh | ⟨n, -, hh⟩ := hh
    · rwa [hh]
    · rw [hh]
      exact List.mem_append_left _ he
  have hanswered : s'.history.filterMap Happening.answered = s.history.filterMap Happening.answered := by
    obtain hh | ⟨n, -, hh⟩ := hh
    · rw [hh]
    · rw [hh]
      exact answered_concat _ rfl
  have hposted : ∀ n, postedOf n s'.history = postedOf n s.history := by
    intro n
    obtain hh | ⟨m, -, hh⟩ := hh
    · rw [hh]
    · rw [hh]
      exact postedOf_concat n _ rfl
  have hran : ∀ n, ranOf n s'.history = ranOf n s.history := by
    intro n
    obtain hh | ⟨m, -, hh⟩ := hh
    · rw [hh]
    · rw [hh]
      exact ranOf_concat n _ rfl
  have hsub : (s'.posted.filterMap Posted.request ++ s'.history.filterMap Happening.answered).Sublist
      (s.posted.filterMap Posted.request ++ s.history.filterMap Happening.answered) := by
    rw [hanswered, hp]
    exact (List.filter_sublist.filterMap _).append (List.Sublist.refl _)
  have hg : Grows s s' := by
    refine ⟨hr.ge, hn, hmem, fun n hlt _ heq => absurd heq (hold n hlt), fun r hf => ?_⟩
    exact ⟨by rw [hr]; exact hf.number, by rw [hso]; exact hf.gone, fun hr => hf.fresh (hsub.subset hr)⟩
  refine ⟨⟨fun n heq => (ho n heq).2, hc, fun r o hro => ?_, fun event he => (hs.ready event (hkept event he)).grow hg,
    ⟨hsub.nodup hs.single.once, fun r hr' => ?_, fun r hr' => ?_⟩, fun n => ?_, ?_, ?_⟩, hg⟩
  · rw [hso] at hro
    exact (hs.outstanding r o hro).imp fun n hst => hst.grow hg
  · rw [hr]
    exact hs.single.number r (hsub.subset hr')
  · rw [hso]
    exact hs.single.gone r (hsub.subset hr')
  · have hi := hs.order n
    refine ⟨fun heq => ?_, ?_, fun _ event he heq => ?_, fun hle => (hposted n).trans (hi.unborn (hn.trans hle))⟩
    · obtain ⟨rfl, -⟩ := ho n heq
      have hnone : s.observing ≠ some s.observers := fun h => absurd (hs.observing _ h) (Nat.lt_irrefl _)
      have hempty := hi.unborn (Nat.le_refl _)
      have hran' : ranOf s.observers s.history = [] := List.prefix_nil.mp (hempty ▸ hi.past)
      rw [hran, hposted, hempty, hran', List.nil_append, List.filter_eq_nil_iff]
      intro event he
      simpa using hi.gone hnone event (hkept event he)
    · rw [hposted, hran]
      exact hi.past
    · have hevent := List.of_mem_filter (hp ▸ he)
      rw [heq, Option.isNone_some, Bool.false_or, decide_eq_true_iff] at hevent
      exact hi.gone hevent.symm event (hkept event he) heq
  · obtain hh | ⟨n, -, hh⟩ := hh
    · rw [hh]
      exact hs.justified
    · rw [hh]
      exact justified_concat hs.justified trivial
  · have hmono : ∀ n, n < s.observers ∧ s.observing ≠ some n → n < s'.observers ∧ s'.observing ≠ some n :=
      fun n h => ⟨h.1.trans_le hn, hold n h.1⟩
    obtain hh | ⟨m, hm, hh⟩ := hh
    · rw [hh]
      exact fun before after n heq => (hs.silent before after n heq).imp_left (hmono n)
    · rw [hh]
      refine silent_concat hs.silent hmono (fun n heq => ?_) (fun n h heq => h.2 ?_)
      · obtain rfl := Happening.close.inj heq
        exact ⟨(hs.observing _ hm).trans_le hn, hold _ (hs.observing _ hm)⟩
      · obtain rfl := Option.some.inj heq
        exact hm

lemma current_closed (s : WebrtcClient) : s.closePeerConnection.current = none := by
  unfold WebrtcClient.closePeerConnection
  cases hc : s.current with
  | none => exact hc
  | some n => rfl

lemma fine_close (hc : ∀ n, s.current = some n → s.observing = some n) :
    Fine s s.closePeerConnection.dropObserver := by
  have hclosed : s.closePeerConnection.dropObserver.current = none := current_closed s
  apply fine_cut
  · exact fun n hn => by cases hn
  · intro n hn
    rw [hclosed] at hn
    cases hn
  all_goals
    unfold WebrtcClient.closePeerConnection
    cases hcurrent : s.current with
    | none => first | rfl | exact Nat.le_refl _ | exact Or.inl rfl
    | some n => first | rfl | exact Nat.le_refl _ | exact Or.inr ⟨n, hc n hcurrent, rfl⟩

end

end ChatDesktop.Voip.Rtc
