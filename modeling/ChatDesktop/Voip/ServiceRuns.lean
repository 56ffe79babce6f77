import ChatDesktop.Voip.ServiceRefinement
import Mathlib.Data.List.Flatten

namespace ChatDesktop.Voip.Rtc

open Library Library.Text Library.Reactive Camera

def outside : Event → Option Event
  | .offerCreated _ _ => none
  | .remoteApplied _ => none
  | .answerCreated _ _ => none
  | .peerState _ => none
  | e => some e

def ServiceEvent.outside : ServiceEvent → Option Event
  | .stanza element created => some (.stanza element created)
  | .discovery services created _ => some (.discovery services created)
  | .connectivity connected => some (.connectivity connected)
  | .prepare answers => some (.prepare answers.ok)
  | .startCall receiverId video answers _ => some (.startCall receiverId video answers.ok)
  | .acceptCall answers => some (.acceptCall answers.ok)
  | .rejectCall => some .rejectCall
  | .endCall => some .endCall
  | .setCameraDevice _ => none
  | .runPosted _ => none
  | .client _ => none

def shows (P : Platform) (t : Voip.JingleService) (d : Event) : List (Event ⊕ Effect) :=
  (outside d).toList.map .inl ++ (step P t d).log.map .inr

def serviceShows (P : Platform) (s : JingleService) (e : ServiceEvent) : List (Event ⊕ Effect) :=
  e.outside.toList.map .inl ++ (serviceStep P s e).signaling.log.map .inr

def cleared (t : Voip.JingleService) : Voip.JingleService := { t with log := [] }

/-- The service is in the model's state, and its client's connection was given what the model's was. -/
structure Agrees (s : JingleService) (t : Voip.JingleService) : Prop where
  signaling : cleared s.signaling = withClient {} (cleared t)
  client : t.webrtc.map (fun w => (w.initialized, w.peerConnection.map Voip.PeerConnection.applied)) =
    s.client.map (fun held => (held.rtc.factory,
      held.rtc.peerConnection.map (fun _ => held.rtc.history.filterMap Happening.applies)))

section

variable {P : Platform} {s s' : JingleService} {t t' : Voip.JingleService} {held : OwnedClient} {w : Voip.WebrtcClient}
  {rtc rtc' : WebrtcClient} {told : List Happening} {kind : Completion → Option (List IceServer)}
  {act : WebrtcClient → Bool × WebrtcClient}

/-! ### Connections -/

lemma createPeerConnection_spec (created : Bool) (iceServers : List IceServer) (rtc : WebrtcClient) :
    (rtc.createPeerConnection created iceServers).1 = !(!rtc.factory || rtc.peerConnection.isSome ||
      iceServers.any (fun ice => (trimmed ice.host).isEmpty) || !created) ∧
    ((rtc.createPeerConnection created iceServers).1 = false →
      Silent rtc (rtc.createPeerConnection created iceServers).2) ∧
    ((rtc.createPeerConnection created iceServers).1 = true →
      (rtc.createPeerConnection created iceServers).2.alive = rtc.alive ∧
      (rtc.createPeerConnection created iceServers).2.factory = rtc.factory ∧
      (rtc.createPeerConnection created iceServers).2.peerConnection.isSome = true ∧
      (rtc.createPeerConnection created iceServers).2.history = rtc.history) := by
  unfold WebrtcClient.createPeerConnection
  cases hf : rtc.factory with
  | false => exact ⟨rfl, fun _ => .refl rtc, nofun⟩
  | true =>
  cases hp : rtc.peerConnection.isSome with
  | true => exact ⟨rfl, fun _ => .refl rtc, nofun⟩
  | false =>
  cases hi : iceServers.any (fun ice => (trimmed ice.host).isEmpty) with
  | true => exact ⟨rfl, fun _ => .refl rtc, nofun⟩
  | false =>
  cases created with
  | false => exact ⟨rfl, fun _ => .same rfl rfl rfl List.filter_sublist rfl, nofun⟩
  | true => exact ⟨rfl, nofun, fun _ => ⟨rfl, hf, rfl, rfl⟩⟩

lemma Refines.createPeerConnection (h : Refines s t) (hw : t.webrtc = some w) (created : Bool)
    (iceServers : List IceServer) :
    (s.calling (WebrtcClient.createPeerConnection created iceServers)).1 =
        (t.createPeerConnection created iceServers w).1 ∧
      Refines (s.calling (WebrtcClient.createPeerConnection created iceServers)).2
        (t.createPeerConnection created iceServers w).2 := by
  obtain hn | ⟨held, hh⟩ := Option.eq_none_or_eq_some s.client
  · rw [h.absent hn] at hw
    cases hw
  · have howned := h.present held hh
    obtain ⟨w', hw', hseen⟩ := howned.seen
    obtain rfl := Option.some.inj (hw'.symm.trans hw)
    have hconnection := congrArg Option.isSome hseen.connection
    rw [Option.isSome_map, Option.isSome_map] at hconnection
    obtain ⟨hresult, hfails, hmade⟩ := createPeerConnection_spec created iceServers held.rtc
    unfold Voip.JingleService.createPeerConnection
    rw [hseen.initialized, hconnection]
    generalize hg : (!held.rtc.factory || held.rtc.peerConnection.isSome ||
      iceServers.any (fun ice => (trimmed ice.host).isEmpty) || !created) = refused at hresult
    cases hr : refused with
    | true =>
      rw [hr] at hresult
      obtain ⟨errors, he⟩ := calling_unheard _ hh (hfails hresult).history
      rw [he, hresult]
      exact ⟨rfl, .owned h.signaling (howned.silent (hfails hresult)) errors⟩
    | false =>
      rw [hr] at hresult
      obtain ⟨halive, hfactory, hsome, hhistory⟩ := hmade hresult
      obtain ⟨errors, he⟩ := calling_unheard _ hh ⟨[], hhistory.trans (List.append_nil _).symm, nofun⟩
      rw [he, hresult]
      -- there was no connection, and so no function that waits
      have hnone : held.rtc.peerConnection = none := by
        simp only [hr, Bool.or_eq_false_iff] at hg
        exact Option.not_isSome_iff_eq_none.mp (Bool.eq_false_iff.mp hg.1.1.2)
      have hcompletions : held.completions = [] := by
        by_contra hc
        have hc' := hseen.completions hc
        rw [hnone] at hc'
        cases hc'
      obtain ⟨connection, hconnection'⟩ := Option.isSome_iff_exists.mp hsome
      refine ⟨rfl, ⟨h.signaling, nofun, fun held' hh' => ?_⟩⟩
      obtain rfl := Option.some.inj hh'
      refine ⟨⟨_, rfl, halive.trans hseen.alive, hfactory.symm, ?_, ?_, fun _ _ _ => hsome,
        fun _ => hsome⟩, ?_, ?_, ?_⟩
      · change _ = (held.rtc.createPeerConnection created iceServers).2.peerConnection.map _
        rw [hconnection', hhistory]
        exact congrArg some (hseen.fresh hnone).symm
      · intro hgone
        rw [hgone] at hsome
        cases hsome
      · rw [awaited, hcompletions]
        exact List.nil_subperm
      · rw [awaited, hcompletions]
        exact List.nil_subperm
      · rw [awaited, hcompletions]
        exact List.nil_subperm

/-! ### Requests -/

def awaiting (completion : Completion) (t : Voip.JingleService) : Voip.JingleService :=
  { t with
    offers := t.offers ++ completion.offer.toList.flatMap (fun iceServers => t.callback iceServers)
    remotes := t.remotes ++ completion.remote.toList.flatMap (fun iceServers => t.callback iceServers)
    answers := t.answers ++ completion.answer.toList.flatMap (fun iceServers => t.callback iceServers) }

lemma awaited_keep (completion : Completion) (request : ℕ) :
    (awaited kind (held.keep completion request) t).Subperm
      (awaited kind held t ++ (kind completion).toList.flatMap (fun iceServers => t.callback iceServers)) := by
  unfold OwnedClient.keep
  split
  · exact (List.sublist_append_left _ _).subperm
  · unfold awaited
    rw [List.filterMap_append, List.flatMap_append]
    cases hk : kind completion with
    | none =>
      simp only [List.filterMap_cons, hk, List.filterMap_nil, List.flatMap_nil, Option.toList_none]
      exact List.Subperm.refl _
    | some iceServers =>
      simp only [List.filterMap_cons, hk, List.filterMap_nil, Option.toList_some]
      exact List.Subperm.refl _

lemma Owned.keep (h : Owned held t) (completion : Completion) (request : ℕ)
    (hc : held.rtc.requests ≠ request → held.rtc.peerConnection.isSome = true) :
    Owned (held.keep completion request) (awaiting completion t) := by
  have hrtc : (held.keep completion request).rtc = held.rtc := by
    unfold OwnedClient.keep
    split
    · rfl
    · rfl
  have hadded : ∀ {kind : Completion → Option (List IceServer)} {callbacks : List Callback},
      (awaited kind held t).Subperm callbacks →
      (awaited kind (held.keep completion request) (awaiting completion t)).Subperm
        (callbacks ++ (kind completion).toList.flatMap (fun iceServers => t.callback iceServers)) := by
    intro kind callbacks hk
    have hsame : awaited kind (held.keep completion request) (awaiting completion t) =
        awaited kind (held.keep completion request) t := awaited_congr rfl
    rw [hsame]
    exact (awaited_keep completion request).trans ((List.subperm_append_right _).mpr hk)
  obtain ⟨w, hw, hseen⟩ := h.seen
  refine ⟨⟨w, hw, ?_⟩, hadded h.offers, hadded h.remotes, hadded h.answers⟩
  refine ⟨by rw [hrtc]; exact hseen.alive, by rw [hrtc]; exact hseen.initialized, by rw [hrtc]; exact hseen.connection,
    by rw [hrtc]; exact hseen.fresh, by rw [hrtc]; exact hseen.posted, fun hkept => ?_⟩
  rw [hrtc]
  unfold OwnedClient.keep at hkept
  split at hkept
  · exact hseen.completions hkept
  · rename_i hr
    exact hc hr

lemma requesting_none (completion : Completion) (hn : s.client = none) :
    s.requesting completion act = (false, s) := by
  unfold JingleService.requesting
  rw [calling_none hn]
  dsimp only
  rw [hn]
  obtain ⟨⟩ := s
  cases hn
  rfl

lemma requesting_some (act : WebrtcClient → Bool × WebrtcClient) (told : List Happening) (completion : Completion)
    (hh : s.client = some held)
    (ht : (act held.rtc).2.history = held.rtc.history ++ told)
    (hheard : ∀ s : JingleService, ∃ errors, told.foldl JingleService.hear s = { s with errors := errors }) :
    ∃ errors, s.requesting completion act = ((act held.rtc).1, { s with
      client := some (OwnedClient.keep completion held.rtc.requests { held with rtc := (act held.rtc).2 })
      errors := errors }) := by
  obtain ⟨errors, he⟩ := hheard { s with client := some { held with rtc := (act held.rtc).2 } }
  refine ⟨errors, ?_⟩
  unfold JingleService.requesting
  rw [calling_some _ told hh ht, he, hh]
  rfl

lemma createDescription_requests {create : ℕ → ℕ → Happening} (track : TrackAnswers) (onSuccess : Bool)
    (hn : rtc.peerConnection = none) : rtc.createDescription create track onSuccess = rtc := by
  unfold WebrtcClient.createDescription
  rw [hn]

lemma Refines.awaiting (h : Refines s t) (hn : s.client = none) (completion : Completion) :
    Refines s (awaiting completion t) :=
  ⟨h.signaling, h.absent, fun held hh => by rw [hn] at hh; cases hh⟩

lemma Refines.requested (h : Refines s t) (completion : Completion) (create : ℕ → ℕ → Happening)
    (hcreate : ∀ request connection, (create request connection).minor = true) (track : TrackAnswers) :
    Refines (s.requesting completion (fun rtc => (true, rtc.createDescription create track true))).2
      (Rtc.awaiting completion t) := by
  obtain hn | ⟨held, hh⟩ := Option.eq_none_or_eq_some s.client
  · rw [requesting_none completion hn]
    exact h.awaiting hn completion
  · have hsilent := (tends_createDescription hcreate track true held.rtc).calm.silent
    obtain ⟨told, hhistory, htold⟩ := hsilent.history
    obtain ⟨errors, he⟩ := requesting_some (fun rtc => (true, rtc.createDescription create track true))
      told completion hh hhistory (foldl_hear htold)
    rw [he]
    have howned := ((h.present held hh).silent hsilent).keep completion held.rtc.requests fun hr => by
      rw [hsilent.connected]
      by_contra hc
      exact hr (congrArg WebrtcClient.requests
        (createDescription_requests track true (Option.not_isSome_iff_eq_none.mp hc)))
    exact ⟨h.signaling, nofun, fun held' hh' => by rw [← Option.some.inj hh']; exact howned⟩

lemma callback_apply (a : Applied) (t : Voip.JingleService) (iceServers : List IceServer) :
    (t.apply a).callback iceServers = t.callback iceServers := by
  unfold Voip.JingleService.callback Voip.JingleService.apply
  obtain hw | ⟨⟨client, initialized, _ | peer⟩, hw⟩ := Option.eq_none_or_eq_some t.webrtc
  · rw [hw]
    rfl
  · rw [hw]
    rfl
  · rw [hw]
    rfl

lemma awaited_apply (a : Applied) : awaited kind held (t.apply a) = awaited kind held t := by
  unfold awaited
  simp only [callback_apply]

lemma Owned.applied (h : Owned held t) (a : Applied) (rtc : WebrtcClient) (hc : held.rtc.peerConnection.isSome = true)
    (halive : rtc.alive = held.rtc.alive) (hfactory : rtc.factory = held.rtc.factory)
    (hp : rtc.peerConnection = held.rtc.peerConnection)
    (hh : rtc.history = held.rtc.history ++ told) (ha : told.filterMap Happening.applies = [a]) :
    Owned { held with rtc := rtc } (t.apply a) := by
  obtain ⟨w, hw, hseen⟩ := h.seen
  have hsome : rtc.peerConnection.isSome = true := by rw [hp, hc]
  refine ⟨⟨{ w with peerConnection := w.peerConnection.map (fun p => { p with applied := p.applied ++ [a] }) }, ?_, ?_⟩,
    ?_, ?_, ?_⟩
  · unfold Voip.JingleService.apply
    rw [hw]
    rfl
  · refine ⟨halive.trans hseen.alive, hseen.initialized.trans hfactory.symm, ?_, fun hn => ?_, fun _ _ _ => hsome,
      fun _ => hsome⟩
    · change (w.peerConnection.map _).map _ = rtc.peerConnection.map (fun _ => rtc.history.filterMap _)
      rw [hp, hh, List.filterMap_append, ha]
      have hconnection := hseen.connection
      obtain ⟨connection, hheld⟩ := Option.isSome_iff_exists.mp hc
      rw [hheld] at hconnection ⊢
      obtain ⟨peer, hpeer, happlied⟩ := Option.map_eq_some_iff.mp hconnection
      rw [hpeer]
      change some (peer.applied ++ [a]) = some _
      rw [happlied]
    · rw [hn] at hsome
      cases hsome
  · rw [awaited_apply]
    exact h.offers
  · rw [awaited_apply]
    exact h.remotes
  · rw [awaited_apply]
    exact h.answers

lemma setRemoteSdp_spec (parses : Bool) (type sdp : QString) (onSuccess : Bool) (rtc : WebrtcClient) :
    ((rtc.peerConnection.isSome && parses) = false ∧
      rtc.setRemoteSdp true parses type sdp onSuccess = (false, rtc)) ∨
    ((rtc.peerConnection.isSome && parses) = true ∧ (rtc.setRemoteSdp true parses type sdp onSuccess).1 = true ∧
      ∃ connection, rtc.setRemoteSdp true parses type sdp onSuccess =
        (true, (rtc.put (.setRemoteDescription rtc.requests connection type sdp)).observe .applying onSuccess)) := by
  unfold WebrtcClient.setRemoteSdp
  cases hp : rtc.peerConnection with
  | none => exact Or.inl ⟨rfl, rfl⟩
  | some connection =>
    cases parses with
    | false => exact Or.inl ⟨rfl, rfl⟩
    | true => exact Or.inr ⟨rfl, rfl, connection.number, rfl⟩

lemma Refines.hasPeerConnection (h : Refines s t) (hh : s.client = some held) :
    t.hasPeerConnection = held.rtc.peerConnection.isSome := by
  obtain ⟨w, hw, hseen⟩ := (h.present held hh).seen
  exact hasPeerConnection_iff hseen hw

lemma Refines.no_peer (h : Refines s t) (hn : s.client = none) : t.hasPeerConnection = false := by
  unfold Voip.JingleService.hasPeerConnection
  rw [h.absent hn]
  rfl

lemma Refines.setRemoteSdp (h : Refines s t) (type sdp : QString) :
    (s.calling (WebrtcClient.setRemoteSdp true (P.parsesSdp type sdp) type sdp false)).1 =
        (t.setRemoteSdp P type sdp).1 ∧
      Refines (s.calling (WebrtcClient.setRemoteSdp true (P.parsesSdp type sdp) type sdp false)).2
        (t.setRemoteSdp P type sdp).2 := by
  unfold Voip.JingleService.setRemoteSdp
  obtain hn | ⟨held, hh⟩ := Option.eq_none_or_eq_some s.client
  · rw [calling_none hn, h.no_peer hn]
    exact ⟨rfl, h⟩
  · rw [h.hasPeerConnection hh]
    obtain ⟨hc, he⟩ | ⟨hc, -, connection, he⟩ :=
      setRemoteSdp_spec (P.parsesSdp type sdp) type sdp false held.rtc
    · obtain ⟨errors, hcalled⟩ := calling_unheard
        (WebrtcClient.setRemoteSdp true (P.parsesSdp type sdp) type sdp false) hh
        ⟨[], by rw [he, List.append_nil], nofun⟩
      rw [hcalled, he, hc]
      exact ⟨rfl, .owned h.signaling (h.present held hh) errors⟩
    · have hcalled := calling_some (WebrtcClient.setRemoteSdp true (P.parsesSdp type sdp) type sdp false)
        [.setRemoteDescription held.rtc.requests connection type sdp] hh (by rw [he]; rfl)
      have happlied := (h.present held hh).applied (.remoteSdp type sdp)
        ((held.rtc.put (.setRemoteDescription held.rtc.requests connection type sdp)).observe .applying false)
        (Bool.and_eq_true_iff.mp hc).1 rfl rfl rfl rfl rfl
      rw [hcalled, he, hc]
      exact ⟨rfl, .owned (t := t.apply (.remoteSdp type sdp)) h.signaling happlied s.errors⟩

lemma Refines.offered (h : Refines s t) (type sdp : QString) :
    (s.requesting .createAnswer (WebrtcClient.setRemoteSdp true (P.parsesSdp type sdp) type sdp true)).1 =
        (t.setRemoteSdp P type sdp).1 ∧
      Refines (s.requesting .createAnswer (WebrtcClient.setRemoteSdp true (P.parsesSdp type sdp) type sdp true)).2
        (if (t.setRemoteSdp P type sdp).1 then Rtc.awaiting .createAnswer (t.setRemoteSdp P type sdp).2
          else (t.setRemoteSdp P type sdp).2) := by
  unfold Voip.JingleService.setRemoteSdp
  obtain hn | ⟨held, hh⟩ := Option.eq_none_or_eq_some s.client
  · rw [requesting_none .createAnswer hn, h.no_peer hn]
    exact ⟨rfl, h⟩
  · rw [h.hasPeerConnection hh]
    obtain ⟨hc, he⟩ | ⟨hc, -, connection, he⟩ :=
      setRemoteSdp_spec (P.parsesSdp type sdp) type sdp true held.rtc
    · obtain ⟨errors, hcalled⟩ := requesting_some
        (WebrtcClient.setRemoteSdp true (P.parsesSdp type sdp) type sdp true) [] .createAnswer hh
        (by rw [he, List.append_nil]) (foldl_hear nofun)
      have hkept : OwnedClient.keep .createAnswer held.rtc.requests { held with rtc := held.rtc } = held := if_pos rfl
      rw [hcalled, he, hc, hkept]
      exact ⟨rfl, .owned h.signaling (h.present held hh) errors⟩
    · obtain ⟨errors, hcalled⟩ := requesting_some (WebrtcClient.setRemoteSdp true (P.parsesSdp type sdp) type sdp true)
        [.setRemoteDescription held.rtc.requests connection type sdp] .createAnswer hh (by rw [he]; rfl)
        (fun s => ⟨s.errors, rfl⟩)
      have hconnected := (Bool.and_eq_true_iff.mp hc).1
      have happlied := (h.present held hh).applied (.remoteSdp type sdp)
        ((held.rtc.put (.setRemoteDescription held.rtc.requests connection type sdp)).observe .applying true)
        hconnected rfl rfl rfl rfl rfl
      rw [hcalled, he, hc]
      refine ⟨rfl, ⟨h.signaling, nofun, fun held' hh' => ?_⟩⟩
      rw [← Option.some.inj hh']
      exact happlied.keep .createAnswer held.rtc.requests fun _ => hconnected

lemma Refines.setRemoteCandidate (h : Refines s t) (hs : s.client.isSome = true) (sdp sdpMid : QString)
    (sdpMLineIndex : ℤ) :
    Refines (s.calling (WebrtcClient.setRemoteCandidate (P.parsesCandidate sdp sdpMid sdpMLineIndex) sdp sdpMid
      sdpMLineIndex)).2 (t.setRemoteCandidate P sdp sdpMid sdpMLineIndex) := by
  obtain ⟨held, hh⟩ := Option.isSome_iff_exists.mp hs
  unfold Voip.JingleService.setRemoteCandidate
  rw [h.hasPeerConnection hh]
  have howned := h.present held hh
  cases hp : held.rtc.peerConnection with
  | none =>
    have he : ∀ parses, held.rtc.setRemoteCandidate parses sdp sdpMid sdpMLineIndex = (false, held.rtc) := by
      intro parses
      unfold WebrtcClient.setRemoteCandidate
      rw [hp]
    obtain ⟨errors, hcalled⟩ := calling_unheard (WebrtcClient.setRemoteCandidate
      (P.parsesCandidate sdp sdpMid sdpMLineIndex) sdp sdpMid sdpMLineIndex) hh
      ⟨[], by rw [he, List.append_nil], nofun⟩
    rw [hcalled, he]
    exact .owned h.signaling howned errors
  | some connection =>
    have he : ∀ parses : Bool, held.rtc.setRemoteCandidate parses sdp sdpMid sdpMLineIndex =
        (false, held.rtc.put (.addIceCandidate connection.number
          (if parses then some (sdp, sdpMid, sdpMLineIndex) else none))) := by
      intro parses
      unfold WebrtcClient.setRemoteCandidate
      rw [hp]
    cases hparses : P.parsesCandidate sdp sdpMid sdpMLineIndex with
    | false =>
      obtain ⟨errors, hcalled⟩ := calling_unheard (WebrtcClient.setRemoteCandidate false sdp sdpMid sdpMLineIndex) hh
        ⟨[.addIceCandidate connection.number none], by rw [he]; rfl, fun h hm => by rw [List.mem_singleton.mp hm]; rfl⟩
      rw [hcalled, he]
      exact .owned h.signaling (howned.silent ((Silent.refl _).put (.addIceCandidate connection.number none) rfl)) errors
    | true =>
      have hcalled := calling_some (WebrtcClient.setRemoteCandidate true sdp sdpMid sdpMLineIndex)
        [.addIceCandidate connection.number (some (sdp, sdpMid, sdpMLineIndex))] hh (by rw [he]; rfl)
      have happlied := howned.applied (.remoteCandidate sdp sdpMid sdpMLineIndex)
        (held.rtc.put (.addIceCandidate connection.number (some (sdp, sdpMid, sdpMLineIndex)))) (by rw [hp]; rfl)
        rfl rfl rfl rfl rfl
      rw [hcalled, he]
      exact .owned (t := t.apply (.remoteCandidate sdp sdpMid sdpMLineIndex)) h.signaling happlied s.errors

lemma awaiting_createAnswer (t : Voip.JingleService) :
    awaiting .createAnswer t = { t with remotes := t.remotes ++ t.callback [] } := by
  simp [Rtc.awaiting, Completion.offer, Completion.remote, Completion.answer]

lemma awaiting_sessionInitaite (iceServers : List IceServer) (t : Voip.JingleService) :
    awaiting (.sessionInitaite iceServers) t = t.createOffer iceServers := by
  simp [Rtc.awaiting, Completion.offer, Completion.remote, Completion.answer, Voip.JingleService.createOffer]

lemma awaiting_sessionAccept (t : Voip.JingleService) : awaiting .sessionAccept t = t.createAnswer := by
  simp [Rtc.awaiting, Completion.offer, Completion.remote, Completion.answer, Voip.JingleService.createAnswer]

/-! ### Stanzas and discoveries -/

lemma Refines.onRemoteSdpOfferReceived (h : Refines s t) (created : Bool) (offer : QString)
    (iceServers : List IceServer) (sid : QString) :
    Refines (s.onRemoteSdpOfferReceived P created offer iceServers sid)
      (t.onRemoteSdpOfferReceived P created offer iceServers sid) := by
  have hsid := h.signal (f := fun t => { t with jingle := { t.jingle with currentSid := sid } }) (fun _ _ => rfl)
  unfold JingleService.onRemoteSdpOfferReceived Voip.JingleService.onRemoteSdpOfferReceived
  dsimp only
  generalize s.signal (fun t => { t with jingle := { t.jingle with currentSid := sid } }) = s₁ at hsid ⊢
  obtain hw | ⟨w, hw⟩ := Option.eq_none_or_eq_some t.webrtc
  · have hn : s₁.client.isNone = true := by
      rw [hsid.isNone]
      exact Option.isNone_iff_eq_none.mpr hw
    rw [hw] at hsid ⊢
    rw [if_pos hn]
    exact hsid.signalingFailed _
  · have hn : s₁.client.isNone = false := by
      rw [hsid.isNone]
      exact congrArg Option.isNone hw
    rw [hw] at hsid ⊢
    rw [if_neg (by rw [hn]; exact Bool.false_ne_true)]
    dsimp only
    have hcamera := hsid.call fun rtc =>
      (calm_setCameraEnabled (s₁.signaling.videoCall && JingleService.videoMedia offer) rtc).silent
    obtain ⟨hmade, hs⟩ := hcamera.createPeerConnection rfl created iceServers
    rw [hmade]
    split
    · exact hs.signalingFailed _
    · obtain ⟨happlied, hs'⟩ := hs.offered (P := P) (ofAscii "offer") offer
      rw [happlied]
      split
      · rename_i ha
        rw [if_pos ha, awaiting_createAnswer] at hs'
        exact hs'
      · rename_i ha
        rw [if_neg ha] at hs'
        exact hs'.signalingFailed _

lemma Refines.onJingleAction (h : Refines s t) (created : Bool) (signal : ActionSignal) :
    Refines (s.onJingleAction P created signal) (t.onJingleAction P created signal) := by
  cases signal with
  | remoteSdpOfferReceived offer iceServers sid => exact h.onRemoteSdpOfferReceived created offer iceServers sid
  | exchangeIceCandidateReceived sdp sdpMid sdpMLineIndex =>
    unfold JingleService.onJingleAction Voip.JingleService.onJingleAction
    dsimp only
    rw [h.isNone]
    split
    · exact h.signal (apart_emit .missingWebrtc)
    · rename_i hn
      refine h.setRemoteCandidate ?_ sdp sdpMid sdpMLineIndex
      rw [← Option.not_isNone, h.isNone]
      exact Bool.not_eq_true' _ |>.mpr (Bool.eq_false_iff.mpr hn)
  | remoteSdpAnswerReceived answer sid =>
    obtain ⟨happlied, hs⟩ := h.setRemoteSdp (P := P) (ofAscii "answer") answer
    unfold JingleService.onJingleAction Voip.JingleService.onJingleAction
    dsimp only
    rw [happlied]
    split
    · exact hs
    · exact hs.signalingFailed _
  | sessionTerminateReceived => exact h.signal (apart_emit .sessionTerminate)

lemma Refines.onJingleActions (h : Refines s t) (created : Bool) (signals : List ActionSignal) :
    Refines (signals.foldl (JingleService.onJingleAction P created) s)
      (signals.foldl (Voip.JingleService.onJingleAction P created) t) := by
  induction signals generalizing s t with
  | nil => exact h
  | cons signal signals ih => exact ih (h.onJingleAction created signal)

lemma Refines.handleIq (h : Refines s t) (created : Bool) (stanza jingle : Element) :
    Refines (s.handleIq P created stanza jingle) (t.handleIq P created stanza jingle) := by
  unfold JingleService.handleIq Voip.JingleService.handleIq
  dsimp only
  have hsender : Refines
      (if jingle.attributeOf (ofAscii "action") = ofAscii "session-initiate" ∧
        stanza.attributeOf (ofAscii "type") = ofAscii "set" then
        s.signal (fun t => { t with jingle := { t.jingle with sessionSender := stanza.attributeOf (ofAscii "from") } })
        else s)
      (if jingle.attributeOf (ofAscii "action") = ofAscii "session-initiate" ∧
        stanza.attributeOf (ofAscii "type") = ofAscii "set" then
        { t with jingle := { t.jingle with sessionSender := stanza.attributeOf (ofAscii "from") } } else t) := by
    split
    · exact h.signal (fun _ _ => rfl)
    · exact h
  generalize (if jingle.attributeOf (ofAscii "action") = ofAscii "session-initiate" ∧
    stanza.attributeOf (ofAscii "type") = ofAscii "set" then
    s.signal (fun t => { t with jingle := { t.jingle with sessionSender := stanza.attributeOf (ofAscii "from") } })
    else s) = s₁ at hsender ⊢
  generalize (if jingle.attributeOf (ofAscii "action") = ofAscii "session-initiate" ∧
    stanza.attributeOf (ofAscii "type") = ofAscii "set" then
    { t with jingle := { t.jingle with sessionSender := stanza.attributeOf (ofAscii "from") } } else t) = t₁
    at hsender ⊢
  have haction : s₁.signaling.action = t₁.action := by
    rw [hsender.signaling]
    rfl
  rw [haction]
  have hsignals := (hsender.signal (f := fun t => { t with action := (t₁.action.parse stanza).2.2 })
    (fun _ _ => rfl)).onJingleActions (P := P) created (t₁.action.parse stanza).2.1
  split
  · exact hsignals.signal (apart_emit _)
  · exact hsignals

lemma Refines.handleStanza (h : Refines s t) (created : Bool) (stanza : Element) :
    Refines (s.handleStanza P created stanza) (t.handleStanza P created stanza) := by
  unfold JingleService.handleStanza Voip.JingleService.handleStanza
  split
  · cases Voip.JingleService.findJingleElement stanza with
    | none => exact h
    | some jingle =>
      cases JingleMessage.parse stanza with
      | none => exact h
      | some m => exact h.signal (apart_onJingleMessage m)
  · split
    · cases Voip.JingleService.findJingleElement stanza with
      | none => exact h
      | some jingle => exact h.handleIq created stanza jingle
    · exact h

lemma Refines.onDiscovery (h : Refines s t) (services : Option (List Voip.JingleService.ExternalService))
    (created : Bool) (track : TrackAnswers) :
    Refines (s.onDiscovery services created track) (t.onDiscovery services created) := by
  have hdiscoveries : s.signaling.discoveries = t.discoveries := by
    rw [h.signaling]
    rfl
  unfold JingleService.onDiscovery Voip.JingleService.onDiscovery
  rw [hdiscoveries]
  split
  · exact h
  · have hs := h.signal (f := fun t => { t with discoveries := t.discoveries - 1 }) (fun _ _ => rfl)
    cases services with
    | none => exact hs
    | some services =>
      unfold JingleService.onExternalServiceReceived Voip.JingleService.onExternalServiceReceived
      dsimp only at hs ⊢
      generalize s.signal (fun t => { t with discoveries := t.discoveries - 1 }) = s₁ at hs ⊢
      obtain hw | ⟨w, hw⟩ := Option.eq_none_or_eq_some t.webrtc
      · have hn : s₁.client.isNone = true := by
          rw [hs.isNone]
          exact Option.isNone_iff_eq_none.mpr hw
        rw [hw] at hs ⊢
        rw [if_pos hn]
        exact hs
      · have hn : s₁.client.isNone = false := by
          rw [hs.isNone]
          exact congrArg Option.isNone hw
        rw [hw] at hs ⊢
        rw [if_neg (by rw [hn]; exact Bool.false_ne_true)]
        dsimp only
        obtain ⟨hmade, hs'⟩ := hs.createPeerConnection rfl created
          (services.filterMap Voip.JingleService.ExternalService.ice)
        rw [hmade]
        split
        · exact hs'.signalingFailed _
        · have hrequested := hs'.requested
            (.sessionInitaite (services.filterMap Voip.JingleService.ExternalService.ice)) .createOffer
            (fun _ _ => rfl) track
          rw [awaiting_sessionInitaite] at hrequested
          exact hrequested

/-! ### Functions that are called -/

lemma Refines.errors (h : Refines s t) (errors : List QString) : Refines { s with errors := errors } t :=
  ⟨h.signaling, h.absent, h.present⟩

lemma awaited_drop (request : ℕ) : (awaited kind (held.drop request) t).Sublist (awaited kind held t) :=
  (List.filter_sublist.filterMap _).flatMap _

lemma awaited_take {request : ℕ} {completion : Completion} {iceServers : List IceServer} {c : Callback}
    (hm : (request, completion) ∈ held.completions) (hk : kind completion = some iceServers)
    (hc : t.callback iceServers = [c]) :
    (c :: awaited kind (held.drop request) t).Subperm (awaited kind held t) := by
  obtain ⟨before, later, hl⟩ := List.append_of_mem hm
  have hdropped : (held.drop request).completions.Sublist (before ++ later) := by
    change (held.completions.filter _).Sublist _
    rw [hl, List.filter_append, List.filter_cons_of_neg (by simp)]
    exact List.filter_sublist.append List.filter_sublist
  have hwhole : (awaited kind held t).Perm (c :: (((before ++ later).filterMap (fun x => kind x.2)).flatMap
      (fun iceServers => t.callback iceServers))) := by
    unfold awaited
    rw [hl, List.filterMap_append, List.filterMap_cons_some (by exact hk), List.flatMap_append, List.flatMap_cons, hc,
      List.filterMap_append, List.flatMap_append]
    exact List.perm_middle
  rw [hwhole.subperm_left]
  exact (((hdropped.filterMap _).flatMap _).cons_cons c).subperm

lemma exists_callback {request : ℕ} {completion : Completion} {iceServers : List IceServer} {callbacks : List Callback}
    (howned : Owned held t) (hcallbacks : (awaited kind held t).Subperm callbacks)
    (hm : (request, completion) ∈ held.completions) (hk : kind completion = some iceServers) :
    ∃ i c, callbacks[i]? = some c ∧ t.alive c = true ∧ c.iceServers = iceServers ∧
      (awaited kind (held.drop request) t).Subperm (callbacks.eraseIdx i) := by
  obtain ⟨w, hw, hseen⟩ := howned.seen
  have hconnected := hasPeerConnection_iff hseen hw
  rw [hseen.completions (List.ne_nil_of_mem hm), Voip.JingleService.hasPeerConnection, hw, Option.bind_some] at hconnected
  obtain ⟨client, initialized, peer⟩ := w
  obtain ⟨peer, rfl⟩ := Option.isSome_iff_exists.mp hconnected
  have hc : t.callback iceServers = [⟨client, peer.number, iceServers⟩] := by
    unfold Voip.JingleService.callback
    rw [hw]
  have htaken := awaited_take hm hk hc
  obtain ⟨i, hi, hget⟩ := List.mem_iff_getElem.mp ((htaken.trans hcallbacks).subset List.mem_cons_self)
  refine ⟨i, _, List.getElem?_eq_some_iff.mpr ⟨hi, hget⟩, ?_, rfl, ?_⟩
  · unfold Voip.JingleService.alive
    rw [hw]
    exact decide_eq_true ⟨rfl, rfl⟩
  · have herased := List.getElem_cons_eraseIdx_perm hi
    rw [hget] at herased
    exact (List.subperm_cons _).mp ((htaken.trans hcallbacks).trans herased.symm.subperm)

lemma Owned.dropped (h : Owned held t) (request : ℕ) {offers remotes answers : List Callback}
    (ho : (awaited Completion.offer (held.drop request) t).Subperm offers)
    (hr : (awaited Completion.remote (held.drop request) t).Subperm remotes)
    (ha : (awaited Completion.answer (held.drop request) t).Subperm answers) :
    Owned (held.drop request) { t with offers := offers, remotes := remotes, answers := answers } := by
  obtain ⟨w, hw, hseen⟩ := h.seen
  refine ⟨⟨w, hw, hseen.alive, hseen.initialized, hseen.connection, hseen.fresh, hseen.posted, fun hc => ?_⟩, ho, hr, ha⟩
  refine hseen.completions fun hnone => hc ?_
  change held.completions.filter _ = []
  rw [hnone]
  rfl

lemma mem_of_find {request : ℕ} {completion : Completion} (h : held.find request = some completion) :
    (request, completion) ∈ held.completions := by
  obtain ⟨c, hc, rfl⟩ := Option.map_eq_some_iff.mp h
  have hm := List.mem_of_find?_eq_some hc
  have hr := List.find?_some hc
  obtain ⟨number, completion⟩ := c
  obtain rfl : number = request := by simpa using hr
  exact hm

lemma Refines.complete (h : Refines s t) (track : TrackAnswers) (request : ℕ) (sdp : QString) :
    Refines (s.complete P track request sdp) t ∨
      ∃ d, outside d = none ∧ Refines (s.complete P track request sdp) (t.handle P d) := by
  unfold JingleService.complete
  obtain hn | ⟨completion, hcompletion⟩ := Option.eq_none_or_eq_some (s.client.bind (OwnedClient.find request))
  · rw [hn]
    exact Or.inl h
  · rw [hcompletion]
    obtain ⟨held, hh, hfind⟩ := Option.bind_eq_some_iff.mp hcompletion
    have hm := mem_of_find hfind
    have howned := h.present held hh
    rw [hh]
    right
    cases completion with
    | sessionInitaite iceServers =>
      obtain ⟨i, c, hc, halive, hice, ho⟩ := exists_callback howned howned.offers hm rfl
      refine ⟨.offerCreated i sdp, rfl, ?_⟩
      have hdropped := Refines.owned (t := { t with offers := t.offers.eraseIdx i }) h.signaling
        (howned.dropped request ho ((awaited_drop request).subperm.trans howned.remotes)
          ((awaited_drop request).subperm.trans howned.answers)) s.errors
      change Refines _ (t.onOfferCreated P i sdp)
      unfold Voip.JingleService.onOfferCreated
      rw [hc]
      dsimp only
      rw [if_pos (show Voip.JingleService.alive c { t with offers := t.offers.eraseIdx i } = true from halive), hice]
      exact hdropped.signal (apart_sessionInitaite sdp iceServers)
    | createAnswer =>
      obtain ⟨i, c, hc, halive, -, hr⟩ := exists_callback howned howned.remotes hm rfl
      refine ⟨.remoteApplied i, rfl, ?_⟩
      have hdropped := Refines.owned (t := { t with remotes := t.remotes.eraseIdx i }) h.signaling
        (howned.dropped request ((awaited_drop request).subperm.trans howned.offers) hr
          ((awaited_drop request).subperm.trans howned.answers)) s.errors
      change Refines _ (t.onRemoteApplied i)
      unfold Voip.JingleService.onRemoteApplied
      rw [hc]
      dsimp only
      rw [if_pos (show Voip.JingleService.alive c { t with remotes := t.remotes.eraseIdx i } = true from halive),
        ← awaiting_sessionAccept]
      exact hdropped.requested .sessionAccept .createAnswer (fun _ _ => rfl) track
    | sessionAccept =>
      obtain ⟨i, c, hc, halive, -, ha⟩ := exists_callback howned howned.answers hm rfl
      refine ⟨.answerCreated i sdp, rfl, ?_⟩
      have hdropped := Refines.owned (t := { t with answers := t.answers.eraseIdx i }) h.signaling
        (howned.dropped request ((awaited_drop request).subperm.trans howned.offers)
          ((awaited_drop request).subperm.trans howned.remotes) ha) s.errors
      change Refines _ (t.onAnswerCreated i sdp)
      unfold Voip.JingleService.onAnswerCreated
      rw [hc]
      dsimp only
      rw [if_pos (show Voip.JingleService.alive c { t with answers := t.answers.eraseIdx i } = true from halive)]
      exact hdropped.signal (apart_sessionAccept sdp)

/-! ### What is posted to the client's thread -/

def Hearable (rtc : WebrtcClient) : Happening → Prop
  | .onSdp _ _ _ => True
  | .onRemoteSdp _ _ => True
  | .connectionStateChanged _ => ∃ event ∈ rtc.posted, event.tellsState = true
  | _ => False

lemma silent_showState (state : PeerConnectionState) (rtc : WebrtcClient) : Silent rtc (rtc.showState state) := by
  have hset : Silent rtc { rtc with peerConnected := decide (state = PeerConnectionState.connected) } :=
    .same rfl rfl rfl (List.Sublist.refl _) rfl
  unfold WebrtcClient.showState
  split
  · exact hset
  · exact hset.put (.remoteVideoFrameReady noFrame) rfl

lemma runPosted_cases (rtc : WebrtcClient) : Silent rtc (rtc.runPosted []) ∨
    ∃ mid h, Silent rtc mid ∧ Hearable rtc h ∧ Silent (mid.put h) (rtc.runPosted []) := by
  unfold WebrtcClient.runPosted
  cases hp : rtc.posted with
  | nil => exact Or.inl (.refl rtc)
  | cons event rest =>
    have hpopped : Silent rtc { rtc with posted := rest } :=
      .same rfl rfl rfl (by rw [hp]; exact List.sublist_cons_self event rest) rfl
    have hran := hpopped.put (.ran event) rfl
    dsimp only
    generalize { rtc with posted := rest }.put (.ran event) = ran at hran ⊢
    unfold WebrtcClient.run
    cases event with
    | sdpCreated request guard onSuccess type sdp =>
      dsimp only
      split
      · exact Or.inl hran
      · have htold := hran.put (.localSdpCreated type sdp) rfl
        rw [List.foldl_nil]
        split
        · exact Or.inr ⟨_, .onSdp request _ sdp, htold, trivial, .refl _⟩
        · exact Or.inl htold
    | remoteSdpSet request guard onSuccess =>
      dsimp only
      split
      · exact Or.inr ⟨_, .onRemoteSdp request _, hran, trivial, .refl _⟩
      · exact Or.inl hran
    | connectionStateChanged observer state =>
      obtain ⟨told, hdone⟩ := connectionStateChanged_cases state ran
      have hmid := (silent_showState state ran).trans (tends_updateCameraCapture _).calm.silent
      exact Or.inr ⟨_, .connectionStateChanged told, hran.trans hmid, ⟨_, hp ▸ List.mem_cons_self, rfl⟩,
        hdone.calm.silent⟩
    | iceCandidateChanged observer candidate sdpMid sdpMLineIndex =>
      exact Or.inl (hran.put (.localIceCandidateGenerated candidate sdpMid sdpMLineIndex) rfl)
    | peerErrorOccurred observer message => exact Or.inl (hran.put (.errorOccurred message) rfl)
    | captureErrorOccurred message => exact Or.inl (hran.put (.errorOccurred message) rfl)

lemma Owned.put (h : Owned held t) {x : Happening} (hx : x.applies = none) :
    Owned { held with rtc := held.rtc.put x } t := by
  obtain ⟨w, hw, hseen⟩ := h.seen
  have happlied : (held.rtc.put x).history.filterMap Happening.applies =
      held.rtc.history.filterMap Happening.applies := by
    change (held.rtc.history ++ [x]).filterMap _ = _
    rw [List.filterMap_append, List.filterMap_cons_none hx, List.filterMap_nil, List.append_nil]
  refine ⟨⟨w, hw, hseen.alive, hseen.initialized, ?_, fun hn => ?_, hseen.posted, hseen.completions⟩, h.offers, h.remotes,
    h.answers⟩
  · rw [happlied]
    exact hseen.connection
  · rw [happlied]
    exact hseen.fresh hn

lemma receive_unheard {h : Happening} (hh : h.unheard = true) (track : TrackAnswers) (s : JingleService) :
    s.receive P track h = s.hear h := by
  cases h with
  | onSdp request current sdp => cases hh
  | onRemoteSdp request current => cases hh
  | _ => rfl

lemma foldl_receive (h : ∀ x ∈ told, x.unheard = true) (track : TrackAnswers) (s : JingleService) :
    told.foldl (JingleService.receive P track) s = told.foldl JingleService.hear s := by
  induction told generalizing s with
  | nil => rfl
  | cons x told ih =>
    rw [List.foldl_cons, List.foldl_cons, receive_unheard (h x List.mem_cons_self),
      ih (fun y hy => h y (List.mem_cons_of_mem _ hy))]

lemma Refines.received (h : Refines s t) (ht : ∀ x ∈ told, x.unheard = true) (track : TrackAnswers) :
    Refines (told.foldl (JingleService.receive P track) s) t := by
  obtain ⟨errors, he⟩ := foldl_hear ht s
  rw [foldl_receive ht, he]
  exact h.errors errors

lemma Refines.runPosted (h : Refines s t) (track : TrackAnswers) :
    Refines (s.runPosted P track) t ∨ ∃ d, outside d = none ∧ Refines (s.runPosted P track) (t.handle P d) := by
  unfold JingleService.runPosted
  obtain hn | ⟨held, hh⟩ := Option.eq_none_or_eq_some s.client
  · rw [hn]
    exact Or.inl h
  · rw [hh]
    dsimp only
    have howned := h.present held hh
    rcases runPosted_cases held.rtc with hsilent | ⟨mid, x, hmid, hx, hdone⟩
    · obtain ⟨told, hhistory, htold⟩ := hsilent.history
      rw [hhistory, List.drop_left]
      exact Or.inl ((Refines.owned h.signaling (howned.silent hsilent) s.errors).received htold track)
    · obtain ⟨told, hhistory, htold⟩ := hmid.history
      obtain ⟨told', hhistory', htold'⟩ := hdone.history
      have hx' : x.applies = none := by
        cases x with
        | setRemoteDescription request connection type sdp => cases hx
        | addIceCandidate connection candidate => cases hx
        | _ => rfl
      have hgone := ((howned.silent hmid).put hx').silent hdone
      have hwhole : (held.rtc.runPosted []).history = held.rtc.history ++ (told ++ x :: told') := by
        rw [hhistory']
        change (mid.history ++ [x]) ++ told' = _
        rw [hhistory]
        simp only [List.append_assoc, List.cons_append, List.nil_append]
      rw [hwhole, List.drop_left, List.foldl_append, List.foldl_cons]
      have hbefore := (Refines.owned h.signaling hgone s.errors).received (P := P) htold track
      generalize told.foldl (JingleService.receive P track)
        { s with client := some { held with rtc := held.rtc.runPosted [] } } = s₁ at hbefore ⊢
      cases x with
      | onSdp request current sdp =>
        rcases hbefore.complete track request sdp with hcalled | ⟨d, hd, hcalled⟩
        · exact Or.inl (hcalled.received htold' track)
        · exact Or.inr ⟨d, hd, hcalled.received htold' track⟩
      | onRemoteSdp request current =>
        rcases hbefore.complete track request [] with hcalled | ⟨d, hd, hcalled⟩
        · exact Or.inl (hcalled.received htold' track)
        · exact Or.inr ⟨d, hd, hcalled.received htold' track⟩
      | connectionStateChanged state =>
        obtain ⟨event, hevent, htells⟩ := hx
        obtain ⟨w, hw, hseen⟩ := howned.seen
        have hconnected := hasPeerConnection_iff hseen hw
        rw [hseen.posted event hevent htells] at hconnected
        refine Or.inr ⟨.peerState state, rfl, ?_⟩
        change Refines _ (t.onPeerState state)
        unfold Voip.JingleService.onPeerState
        rw [hconnected]
        exact (hbefore.signal (apart_onConnectionStateChanged state)).received htold' track
      | _ => cases hx

/-! ### Runs -/

lemma Refines.handle (h : Refines s t) (e : ServiceEvent) : (e.outside = none ∧ Refines (s.handle P e) t) ∨
    ∃ d, outside d = e.outside ∧ Refines (s.handle P e) (t.handle P d) := by
  cases e with
  | stanza stanza created => exact Or.inr ⟨.stanza stanza created, rfl, h.handleStanza created stanza⟩
  | discovery services created track =>
    exact Or.inr ⟨.discovery services created, rfl, h.onDiscovery services created track⟩
  | connectivity connected =>
    exact Or.inr ⟨.connectivity connected, rfl, h.signal (f := fun t => { t with connected := connected }) fun _ _ => rfl⟩
  | prepare answers => exact Or.inr ⟨.prepare answers.ok, rfl, h.prepare answers⟩
  | startCall receiverId video answers track =>
    exact Or.inr ⟨.startCall receiverId video answers.ok, rfl, h.startCall receiverId video answers track⟩
  | acceptCall answers => exact Or.inr ⟨.acceptCall answers.ok, rfl, h.acceptCall answers⟩
  | rejectCall => exact Or.inr ⟨.rejectCall, rfl, h.rejectCall⟩
  | endCall => exact Or.inr ⟨.endCall, rfl, h.endCall⟩
  | setCameraDevice device => exact Or.inl ⟨rfl, h.setCameraDevice device⟩
  | runPosted track =>
    rcases h.runPosted (P := P) track with hs | ⟨d, hd, hs⟩
    · exact Or.inl ⟨rfl, hs⟩
    · exact Or.inr ⟨d, hd, hs⟩
  | client e =>
    refine Or.inl ⟨rfl, h.call fun rtc => ?_⟩
    split
    · rename_i he
      exact silent_clientStep he
    · exact .refl rtc

lemma apart_cleared : Apart cleared := fun _ _ => rfl

def Implements (s : JingleService) (t : Voip.JingleService) : Prop := Refines (s.signal cleared) (cleared t)

lemma Implements.step (h : Implements s t) (e : ServiceEvent) :
    Answers (step P) (shows P) t (serviceShows P s e) (Implements (serviceStep P s e)) := by
  rcases Refines.handle (P := P) h e with ⟨he, hs⟩ | ⟨d, hd, hs⟩
  · have hlog : (serviceStep P s e).signaling.log = [] := congrArg Voip.JingleService.log hs.signaling
    have hshows : serviceShows P s e = [] := by
      unfold serviceShows
      rw [he, hlog]
      rfl
    rw [hshows]
    exact .none (hs.signal apart_cleared)
  · have hlog : (serviceStep P s e).signaling.log = (Voip.step P t d).log :=
      (congrArg Voip.JingleService.log hs.signaling).trans rfl
    have hshows : serviceShows P s e = shows P t d := by
      unfold serviceShows shows
      rw [← hd, hlog]
    rw [hshows]
    exact .one d (hs.signal apart_cleared)

lemma Implements.agrees (h : Implements s t) : Agrees s t := by
  refine ⟨h.signaling, ?_⟩
  obtain hn | ⟨held, hh⟩ := Option.eq_none_or_eq_some s.client
  · rw [hn, show t.webrtc = none from h.absent hn]
    rfl
  · obtain ⟨w, hw, hseen⟩ := (h.present held hh).seen
    rw [hh, show t.webrtc = some w from hw]
    change some (_, _) = some (_, _)
    rw [hseen.initialized, hseen.connection]

end

end ChatDesktop.Voip.Rtc
