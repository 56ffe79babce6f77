import ChatDesktop.Library.Stuttering
import ChatDesktop.Voip.ServiceClient
import Mathlib.Data.List.Perm.Basic

namespace ChatDesktop.Voip.Rtc

open Library Library.Text Library.Reactive Camera

/-! ### What does not concern the client -/

structure ClientPart where
  webrtc : Option Voip.WebrtcClient := none
  clients : ℕ := 0
  peers : ℕ := 0
  offers : List Callback := []
  remotes : List Callback := []
  answers : List Callback := []

def withClient (p : ClientPart) (t : Voip.JingleService) : Voip.JingleService :=
  { t with
    webrtc := p.webrtc, clients := p.clients, peers := p.peers
    offers := p.offers, remotes := p.remotes, answers := p.answers }

def clientPart (t : Voip.JingleService) : ClientPart :=
  ⟨t.webrtc, t.clients, t.peers, t.offers, t.remotes, t.answers⟩

def Apart (f : Voip.JingleService → Voip.JingleService) : Prop := ∀ p t, f (withClient p t) = withClient p (f t)

section

variable {P : Platform} {f g : Voip.JingleService → Voip.JingleService} {t : Voip.JingleService}

lemma Apart.comp (hf : Apart f) (hg : Apart g) : Apart (fun t => g (f t)) := by
  intro p t
  change g (f (withClient p t)) = withClient p (g (f t))
  rw [hf, hg]

lemma Apart.clientPart (hf : Apart f) (t : Voip.JingleService) : Rtc.clientPart (f t) = Rtc.clientPart t := by
  have hsame : f t = withClient (Rtc.clientPart t) (f t) := hf (Rtc.clientPart t) t
  rw [hsame]
  rfl

lemma apart_ite {c : Voip.JingleService → Prop} [DecidablePred c] (hc : ∀ p t, c (withClient p t) ↔ c t) (hf : Apart f)
    (hg : Apart g) : Apart (fun t => if c t then f t else g t) := by
  intro p t
  by_cases h : c t
  · simp only [if_pos h, if_pos ((hc p t).mpr h), hf p t]
  · simp only [if_neg h, if_neg (mt (hc p t).mp h), hg p t]

lemma apart_id : Apart (fun t => t) := fun _ _ => rfl

lemma apart_emit (e : Effect) : Apart (Voip.JingleService.emit e) := fun _ _ => rfl

lemma apart_signalingFailed (reason : String) : Apart (Voip.JingleService.signalingFailed reason) := fun _ _ => rfl

lemma apart_sessionInitaite (sdp : QString) (iceServers : List IceServer) :
    Apart (fun t => t.sessionInitaite P t.recipientId sdp iceServers) :=
  apart_ite (fun _ _ => Iff.rfl) apart_id fun _ _ => rfl

lemma apart_sessionAccept (sdp : QString) : Apart (Voip.JingleService.sessionAccept sdp) :=
  apart_ite (fun _ _ => Iff.rfl) apart_id fun _ _ => rfl

lemma apart_sessionTerminate : Apart Voip.JingleService.sessionTerminate :=
  apart_ite (fun _ _ => Iff.rfl) apart_id fun _ _ => rfl

lemma apart_sendAccept : Apart Voip.JingleService.sendAccept :=
  apart_ite (fun _ _ => Iff.rfl) apart_id fun _ _ => rfl

lemma apart_onAcceptReceived (accept mid : QString) : Apart (Voip.JingleService.onAcceptReceived accept mid) :=
  apart_ite (fun _ _ => Iff.rfl) apart_id (apart_ite (fun _ _ => Iff.rfl) (apart_signalingFailed _) fun _ _ => rfl)

lemma apart_onJingleMessage (m : JingleMessage) : Apart (Voip.JingleService.onJingleMessage m) := by
  intro p t
  unfold Voip.JingleService.onJingleMessage
  cases m.type with
  | accept => exact (apart_emit (.callStateChange .exchange)).comp (apart_onAcceptReceived m.sender m.sessionId) p t
  | _ => rfl

lemma apart_onConnectionStateChanged (state : ConnectionState) :
    Apart (JingleService.onConnectionStateChanged state) := by
  intro p t
  cases state <;> rfl

end

/-! ### The model's client and the client -/

structure Seen (held : OwnedClient) (w : Voip.WebrtcClient) : Prop where
  alive : held.rtc.alive = true
  initialized : w.initialized = held.rtc.factory
  connection : w.peerConnection.map Voip.PeerConnection.applied =
    held.rtc.peerConnection.map (fun _ => held.rtc.history.filterMap Happening.applies)
  fresh : held.rtc.peerConnection = none → held.rtc.history.filterMap Happening.applies = []
  posted : ∀ event ∈ held.rtc.posted, event.tellsState = true → held.rtc.peerConnection.isSome = true
  completions : held.completions ≠ [] → held.rtc.peerConnection.isSome = true

def Completion.offer : Completion → Option (List IceServer)
  | .sessionInitaite iceServers => some iceServers
  | _ => none

def Completion.remote : Completion → Option (List IceServer)
  | .createAnswer => some []
  | _ => none

def Completion.answer : Completion → Option (List IceServer)
  | .sessionAccept => some []
  | _ => none

def awaited (kind : Completion → Option (List IceServer)) (held : OwnedClient) (t : Voip.JingleService) :
    List Callback :=
  (held.completions.filterMap (fun c => kind c.2)).flatMap (fun iceServers => t.callback iceServers)

/-- The model may hold more callbacks, of earlier clients and of requests that the library does not answer. -/
structure Owned (held : OwnedClient) (t : Voip.JingleService) : Prop where
  seen : ∃ w, t.webrtc = some w ∧ Seen held w
  offers : (awaited Completion.offer held t).Subperm t.offers
  remotes : (awaited Completion.remote held t).Subperm t.remotes
  answers : (awaited Completion.answer held t).Subperm t.answers

structure Refines (s : JingleService) (t : Voip.JingleService) : Prop where
  signaling : s.signaling = withClient {} t
  absent : s.client = none → t.webrtc = none
  present : ∀ held, s.client = some held → Owned held t

section

variable {P : Platform} {f : Voip.JingleService → Voip.JingleService} {s s' : JingleService} {t t' : Voip.JingleService}
  {held : OwnedClient} {w : Voip.WebrtcClient} {rtc rtc' : WebrtcClient} {told : List Happening}
  {kind : Completion → Option (List IceServer)}

lemma callback_congr (hw : t'.webrtc = t.webrtc) (iceServers : List IceServer) :
    t'.callback iceServers = t.callback iceServers := by
  unfold Voip.JingleService.callback
  rw [hw]

lemma awaited_congr (hw : t'.webrtc = t.webrtc) : awaited kind held t' = awaited kind held t := by
  unfold awaited
  simp only [callback_congr hw]

lemma Owned.congr (h : Owned held t) (hp : clientPart t' = clientPart t) : Owned held t' := by
  have hw : t'.webrtc = t.webrtc := congrArg ClientPart.webrtc hp
  have ho : t'.offers = t.offers := congrArg ClientPart.offers hp
  have hr : t'.remotes = t.remotes := congrArg ClientPart.remotes hp
  have ha : t'.answers = t.answers := congrArg ClientPart.answers hp
  refine ⟨?_, ?_, ?_, ?_⟩
  · rw [hw]
    exact h.seen
  · rw [awaited_congr hw, ho]
    exact h.offers
  · rw [awaited_congr hw, hr]
    exact h.remotes
  · rw [awaited_congr hw, ha]
    exact h.answers

lemma Refines.signal (h : Refines s t) (hf : Apart f) : Refines (s.signal f) (f t) := by
  have hp := hf.clientPart t
  refine ⟨?_, fun hn => ?_, fun held hh => (h.present held hh).congr hp⟩
  · change f s.signaling = _
    rw [h.signaling, hf]
  · exact (congrArg ClientPart.webrtc hp).trans (h.absent hn)

lemma Refines.signalingFailed (h : Refines s t) (reason : String) :
    Refines (s.signalingFailed reason) (t.signalingFailed reason) := h.signal (apart_signalingFailed reason)

/-! ### Calls of the client -/

lemma applies_unheard {h : Happening} (hh : h.unheard = true) : h.applies = none := by
  cases h with
  | setRemoteDescription request connection type sdp => cases hh
  | addIceCandidate connection candidate =>
    obtain rfl := Option.isNone_iff_eq_none.mp hh
    rfl
  | _ => rfl

lemma filterMap_applies_unheard (h : ∀ x ∈ told, x.unheard = true) : told.filterMap Happening.applies = [] :=
  List.filterMap_eq_nil_iff.mpr fun x hx => applies_unheard (h x hx)

lemma hear_unheard {h : Happening} (hh : h.unheard = true) (s : JingleService) :
    ∃ errors, s.hear h = { s with errors := errors } := by
  cases h with
  | errorOccurred message => exact ⟨s.errors ++ [message], rfl⟩
  | connectionStateChanged state => cases hh
  | _ => exact ⟨s.errors, rfl⟩

lemma foldl_hear (h : ∀ x ∈ told, x.unheard = true) (s : JingleService) :
    ∃ errors, told.foldl JingleService.hear s = { s with errors := errors } := by
  induction told generalizing s with
  | nil => exact ⟨s.errors, rfl⟩
  | cons x told ih =>
    obtain ⟨errors, he⟩ := hear_unheard (h x List.mem_cons_self) s
    obtain ⟨errors', he'⟩ := ih (fun y hy => h y (List.mem_cons_of_mem _ hy)) { s with errors := errors }
    refine ⟨errors', ?_⟩
    rw [List.foldl_cons, he, he']

variable {act : WebrtcClient → Bool × WebrtcClient}

lemma calling_none (hn : s.client = none) : s.calling act = (false, s) := by
  unfold JingleService.calling
  rw [hn]

lemma calling_some (act : WebrtcClient → Bool × WebrtcClient) (told : List Happening) (hh : s.client = some held)
    (ht : (act held.rtc).2.history = held.rtc.history ++ told) :
    s.calling act = ((act held.rtc).1, told.foldl JingleService.hear
      { s with client := some { held with rtc := (act held.rtc).2 } }) := by
  unfold JingleService.calling
  rw [hh]
  dsimp only
  rw [ht, List.drop_left]

lemma calling_unheard (act : WebrtcClient → Bool × WebrtcClient) (hh : s.client = some held)
    (ht : ∃ told, (act held.rtc).2.history = held.rtc.history ++ told ∧ ∀ h ∈ told, h.unheard = true) :
    ∃ errors, s.calling act = ((act held.rtc).1,
      { s with client := some { held with rtc := (act held.rtc).2 }, errors := errors }) := by
  obtain ⟨told, hhistory, htold⟩ := ht
  obtain ⟨errors, he⟩ := foldl_hear htold { s with client := some { held with rtc := (act held.rtc).2 } }
  refine ⟨errors, ?_⟩
  rw [calling_some _ told hh hhistory, he]

lemma Seen.silent (h : Seen held w) (hs : Silent held.rtc rtc) : Seen { held with rtc := rtc } w := by
  obtain ⟨told, hhistory, htold⟩ := hs.history
  have happlied : rtc.history.filterMap Happening.applies = held.rtc.history.filterMap Happening.applies := by
    rw [hhistory, List.filterMap_append, filterMap_applies_unheard htold, List.append_nil]
  have hmap : ∀ applied : List Applied, rtc.peerConnection.map (fun _ => applied) =
      held.rtc.peerConnection.map (fun _ => applied) := by
    intro applied
    have hc := hs.connected
    cases hp : rtc.peerConnection <;> cases hp' : held.rtc.peerConnection <;> rw [hp, hp'] at hc <;>
      first | rfl | cases hc
  refine ⟨hs.alive.trans h.alive, h.initialized.trans hs.factory.symm, ?_, ?_, ?_, ?_⟩
  · rw [h.connection]
    change _ = rtc.peerConnection.map (fun _ => rtc.history.filterMap Happening.applies)
    rw [happlied, hmap]
  · intro hn
    change rtc.history.filterMap Happening.applies = []
    rw [happlied]
    refine h.fresh (Option.isNone_iff_eq_none.mp ?_)
    rw [← Option.not_isSome, ← hs.connected, hn]
    rfl
  · intro event he ht
    change rtc.peerConnection.isSome = true
    rw [hs.connected]
    rcases hs.posted event he ht with he | hc
    · exact h.posted event he ht
    · exact hc
  · intro hc
    change rtc.peerConnection.isSome = true
    rw [hs.connected]
    exact h.completions hc

lemma Owned.silent (h : Owned held t) (hs : Silent held.rtc rtc) : Owned { held with rtc := rtc } t := by
  obtain ⟨w, hw, hseen⟩ := h.seen
  exact ⟨⟨w, hw, hseen.silent hs⟩, h.offers, h.remotes, h.answers⟩

lemma Refines.owned (hs : s.signaling = withClient {} t) (howned : Owned held t) (errors : List QString) :
    Refines { s with client := some held, errors := errors } t := by
  refine ⟨hs, nofun, fun held' hh => ?_⟩
  rw [← Option.some.inj hh]
  exact howned

lemma Refines.calling (h : Refines s t) (hs : ∀ rtc, Silent rtc (act rtc).2) : Refines (s.calling act).2 t := by
  obtain hn | ⟨held, hh⟩ := Option.eq_none_or_eq_some s.client
  · rw [calling_none hn]
    exact h
  · obtain ⟨errors, he⟩ := calling_unheard _ hh (hs held.rtc).history
    rw [he]
    exact .owned h.signaling ((h.present held hh).silent (hs held.rtc)) errors

lemma Refines.call (h : Refines s t) {member : WebrtcClient → WebrtcClient}
    (hs : ∀ rtc, Silent rtc (member rtc)) : Refines (s.call member) t := by
  unfold JingleService.call
  exact h.calling hs

/-! ### Media -/

lemma Refines.isNone (h : Refines s t) : s.client.isNone = t.webrtc.isNone := by
  obtain hn | ⟨held, hh⟩ := Option.eq_none_or_eq_some s.client
  · rw [hn, h.absent hn]
    rfl
  · obtain ⟨w, hw, -⟩ := (h.present held hh).seen
    rw [hh, hw]
    rfl

lemma Refines.createWebrtcClient (h : Refines s t) : Refines s.createWebrtcClient t.createWebrtcClient := by
  refine ⟨?_, nofun, fun held hh => ?_⟩
  · change { s.signaling with mediaPrepared := false } = _
    rw [h.signaling]
    rfl
  · obtain rfl := Option.some.inj hh
    refine ⟨⟨⟨t.clients, false, none⟩, rfl, rfl, rfl, rfl, fun _ => rfl, nofun, fun hc => absurd rfl hc⟩, ?_, ?_, ?_⟩
    · exact List.nil_subperm
    · exact List.nil_subperm
    · exact List.nil_subperm

lemma Refines.created (h : Refines s t) :
    Refines (if s.client.isNone then s.createWebrtcClient else s) (if t.webrtc.isNone then t.createWebrtcClient else t) ∧
      (if s.client.isNone then s.createWebrtcClient else s).client.isSome = true := by
  rw [← h.isNone]
  split
  · exact ⟨h.createWebrtcClient, rfl⟩
  · rename_i hn
    rw [Option.isNone_iff_eq_none] at hn
    exact ⟨h, Option.isSome_iff_ne_none.mpr hn⟩

def Initialization.ok (answers : Initialization) : Bool :=
  answers.networkThread && answers.workerThread && answers.signalingThread && answers.audioDevice && answers.factory

lemma initializeClient_spec (answers : Initialization) (rtc : WebrtcClient) :
    (rtc.initializeClient answers).1 = answers.ok ∧
    (∃ told, (rtc.initializeClient answers).2.history = rtc.history ++ told ∧ ∀ h ∈ told, h.unheard = true) ∧
    (answers.ok = true → (rtc.initializeClient answers).2.alive = rtc.alive ∧
      (rtc.initializeClient answers).2.factory = true ∧
      (rtc.initializeClient answers).2.peerConnection = rtc.peerConnection ∧
      (rtc.initializeClient answers).2.history = rtc.history ∧
      (rtc.initializeClient answers).2.posted = rtc.posted) := by
  have hnone : ∃ told, rtc.history = rtc.history ++ told ∧ ∀ h ∈ told, h.unheard = true :=
    ⟨[], (List.append_nil _).symm, nofun⟩
  obtain ⟨networkThread, workerThread, signalingThread, audioDevice, factory, audioSource, audioTrack⟩ := answers
  unfold WebrtcClient.initializeClient Initialization.ok
  cases networkThread with
  | false => exact ⟨rfl, hnone, nofun⟩
  | true =>
  cases workerThread with
  | false => exact ⟨rfl, hnone, nofun⟩
  | true =>
  cases signalingThread with
  | false => exact ⟨rfl, hnone, nofun⟩
  | true =>
  cases audioDevice with
  | false =>
    refine ⟨rfl, ⟨[.errorOccurred _], rfl, fun h hm => ?_⟩, nofun⟩
    rw [List.mem_singleton.mp hm]
    rfl
  | true =>
  cases factory with
  | false => exact ⟨rfl, hnone, nofun⟩
  | true => cases audioSource <;> exact ⟨rfl, hnone, fun _ => ⟨rfl, rfl, rfl, rfl, rfl⟩⟩

lemma Owned.initialized (h : Owned held t) (halive : rtc.alive = held.rtc.alive) (hfactory : rtc.factory = true)
    (hconnection : rtc.peerConnection = held.rtc.peerConnection) (hhistory : rtc.history = held.rtc.history)
    (hposted : rtc.posted = held.rtc.posted) :
    Owned { held with rtc := rtc } { t with webrtc := t.webrtc.map (fun w => { w with initialized := true }) } := by
  obtain ⟨w, hw, hseen⟩ := h.seen
  have hcallback : ∀ iceServers, ({ t with webrtc := t.webrtc.map (fun w => { w with initialized := true }) } :
      Voip.JingleService).callback iceServers = t.callback iceServers := by
    intro iceServers
    unfold Voip.JingleService.callback
    dsimp only
    rw [hw]
    obtain ⟨number, initialized, _ | peer⟩ := w
    · rfl
    · rfl
  have hawaited : ∀ kind, awaited kind { held with rtc := rtc }
      { t with webrtc := t.webrtc.map (fun w => { w with initialized := true }) } = awaited kind held t := by
    intro kind
    unfold awaited
    simp only [hcallback]
  refine ⟨⟨{ w with initialized := true }, by rw [hw]; rfl, ?_⟩, ?_, ?_, ?_⟩
  · refine ⟨halive.trans hseen.alive, hfactory.symm, ?_, ?_, ?_, ?_⟩
    · rw [hhistory, hconnection]
      exact hseen.connection
    · rw [hhistory, hconnection]
      exact hseen.fresh
    · rw [hposted, hconnection]
      exact hseen.posted
    · rw [hconnection]
      exact hseen.completions
  · rw [hawaited]
    exact h.offers
  · rw [hawaited]
    exact h.remotes
  · rw [hawaited]
    exact h.answers

lemma Refines.without (hs : s.signaling = withClient {} t) (hn : s.client = none) (hw : t.webrtc = none) :
    Refines s t :=
  ⟨hs, fun _ => hw, fun held hh => by rw [hn] at hh; cases hh⟩

lemma Refines.prepareMedia (h : Refines s t) (answers : Initialization) (video : Bool) :
    (s.prepareMedia answers video).1 = (t.prepareMedia answers.ok).1 ∧
      Refines (s.prepareMedia answers video).2 (t.prepareMedia answers.ok).2 := by
  obtain ⟨hcreated, hsome⟩ := h.created
  unfold JingleService.prepareMedia Voip.JingleService.prepareMedia
  dsimp only
  generalize (if s.client.isNone then s.createWebrtcClient else s) = s₁ at hcreated hsome ⊢
  generalize (if t.webrtc.isNone then t.createWebrtcClient else t) = t₁ at hcreated ⊢
  have hcamera := hcreated.call fun rtc => (calm_setCameraEnabled video rtc).silent
  have hsome₂ : (s₁.call (WebrtcClient.setCameraEnabled video)).client.isSome = true := by
    rw [← Option.not_isNone, hcamera.isNone, ← hcreated.isNone, Option.not_isNone, hsome]
  generalize s₁.call (WebrtcClient.setCameraEnabled video) = s₂ at hcamera hsome₂ ⊢
  have hprepared : s₂.signaling.mediaPrepared = t₁.mediaPrepared := by
    rw [hcamera.signaling]
    rfl
  rw [hprepared]
  split
  · exact ⟨rfl, hcamera⟩
  · obtain ⟨held, hh⟩ := Option.isSome_iff_exists.mp hsome₂
    obtain ⟨hok, htold, hspec⟩ := initializeClient_spec answers held.rtc
    obtain ⟨errors, he⟩ := calling_unheard _ hh htold
    rw [he, hok]
    cases ha : answers.ok with
    | false =>
      refine ⟨rfl, ?_⟩
      generalize (held.rtc.initializeClient answers).2 = rtc at he ⊢
      obtain ⟨errors', he'⟩ := calling_unheard
        (s := { s₂ with client := some { held with rtc := rtc }, errors := errors })
        (fun rtc => (true, rtc.setCameraEnabled false)) rfl (calm_setCameraEnabled false rtc).silent.history
      have hgone : Refines ({ s₂ with client := some { held with rtc := rtc }, errors := errors }.call
          (WebrtcClient.setCameraEnabled false)).reset { t₁ with webrtc := none } := by
        unfold JingleService.call
        rw [he']
        exact .without hcamera.signaling rfl rfl
      exact hgone.signalingFailed _
    | true =>
      obtain ⟨halive, hfactory, hconnection, hhistory, hposted⟩ := hspec ha
      have howned := (hcamera.present held hh).initialized halive hfactory hconnection hhistory hposted
      refine ⟨rfl, ?_, nofun, fun held' hh' => ?_⟩
      · change { s₂.signaling with mediaPrepared := true } = _
        rw [hcamera.signaling]
        rfl
      · obtain rfl := Option.some.inj hh'
        exact howned.congr rfl

lemma prepareMedia_created (initialized : Bool) (t : Voip.JingleService) :
    (if t.webrtc.isNone then t.createWebrtcClient else t).prepareMedia initialized = t.prepareMedia initialized := by
  split
  · rename_i hn
    unfold Voip.JingleService.prepareMedia
    rw [if_pos hn]
    rfl
  · rfl

lemma Refines.prepare (h : Refines s t) (answers : Initialization) :
    Refines (s.prepare answers) (t.prepare answers.ok) := by
  unfold JingleService.prepare Voip.JingleService.prepare
  have hstarted : s.signaling.callStarted = t.callStarted := by
    rw [h.signaling]
    rfl
  rw [hstarted]
  split
  · exact h
  · rw [← prepareMedia_created]
    exact ((h.created.1.call fun rtc => (calm_prepare rtc).silent).prepareMedia answers false).2

lemma Refines.setCameraDevice (h : Refines s t) (device : Option QCameraDevice) :
    Refines (s.setCameraDevice device) t := by
  have hdevice : Refines { s with cameraDevice := device } t := ⟨h.signaling, h.absent, h.present⟩
  exact hdevice.call fun rtc => (calm_setCameraDevice device rtc).silent

/-! ### Calls of the user -/

lemma apart_isConnected : Apart (fun t => t.isConnected.2) := by
  intro p t
  unfold Voip.JingleService.isConnected
  change (if t.connected = true then _ else _ : Bool × _).2 = withClient p (if t.connected = true then _ else _ : Bool × _).2
  split
  · rfl
  · rfl

lemma isConnected_fst (t : Voip.JingleService) : t.isConnected.1 = t.connected := by
  unfold Voip.JingleService.isConnected
  cases hc : t.connected with
  | false => rfl
  | true => rfl

lemma Refines.isConnected (h : Refines s t) : s.signaling.isConnected.1 = t.isConnected.1 ∧
    Refines { s with signaling := s.signaling.isConnected.2 } t.isConnected.2 := by
  refine ⟨?_, h.signal apart_isConnected⟩
  rw [isConnected_fst, isConnected_fst, h.signaling]
  rfl

lemma apart_started : Apart (fun t => { t with callStarted := true }) := fun _ _ => rfl

lemma Refines.acceptCall (h : Refines s t) (answers : Initialization) :
    Refines (s.acceptCall answers) (t.acceptCall answers.ok) := by
  obtain ⟨hconnected, hs⟩ := h.isConnected
  unfold JingleService.acceptCall Voip.JingleService.acceptCall
  dsimp only
  rw [hconnected]
  split
  · exact hs
  · obtain ⟨hprepared, hs'⟩ := hs.prepareMedia answers s.signaling.isConnected.2.videoCall
    rw [hprepared]
    split
    · exact hs'
    · exact hs'.signal (apart_started.comp apart_sendAccept)

lemma Refines.rejectCall (h : Refines s t) : Refines s.rejectCall t.rejectCall := by
  obtain ⟨hconnected, hs⟩ := h.isConnected
  unfold JingleService.rejectCall Voip.JingleService.rejectCall
  dsimp only
  rw [hconnected]
  split
  · exact hs
  · have hrejected := hs.signal (f := Voip.JingleService.reject) (fun _ _ => rfl)
    refine .without ?_ rfl rfl
    change { (s.signaling.isConnected.2.reject) with mediaPrepared := false, callStarted := false } = _
    rw [show s.signaling.isConnected.2.reject = _ from hrejected.signaling]
    rfl

lemma closeConnection_told (rtc : WebrtcClient) : ∃ told, (∀ h ∈ told, h.unheard = true) ∧
    rtc.closeConnection.history = rtc.history ++ (told ++ if rtc.peerConnection.isSome then
      [.connectionStateChanged .disconnect, .disconnected] else []) := by
  have hupdated := tends_updateCameraCapture { rtc with peerConnected := false, cameraRequested := false }
  obtain ⟨told, hh, htold⟩ := hupdated.calm.silent.history
  have hclosed : ∀ u : WebrtcClient, ∃ told, (∀ h ∈ told, h.unheard = true) ∧
      u.closePeerConnection.history = u.history ++ told := by
    intro u
    unfold WebrtcClient.closePeerConnection
    split
    · exact ⟨[], nofun, (List.append_nil _).symm⟩
    · refine ⟨[.close _], fun h hm => ?_, rfl⟩
      rw [List.mem_singleton.mp hm]
      rfl
  obtain ⟨told', htold', hh'⟩ :=
    hclosed { rtc with peerConnected := false, cameraRequested := false }.updateCameraCapture
  have hhistory : ({ rtc with peerConnected := false, cameraRequested := false
      }.updateCameraCapture.closePeerConnection).history = rtc.history ++ (told ++ told') := by
    rw [hh', hh, List.append_assoc]
  refine ⟨told ++ told' ++ [.localVideoFrameReady noFrame, .remoteVideoFrameReady noFrame], fun h hm => ?_, ?_⟩
  · rcases List.mem_append.mp hm with hm | hm
    · exact (List.mem_append.mp hm).elim (htold h) (htold' h)
    · rcases List.mem_pair.mp hm with rfl | rfl
      · rfl
      · rfl
  · unfold WebrtcClient.closeConnection
    dsimp only
    by_cases hc : rtc.peerConnection.isSome = true
    · rw [if_pos hc, if_pos hc]
      change ((((({ rtc with peerConnected := false, cameraRequested := false
        }.updateCameraCapture.closePeerConnection).history ++ [_]) ++ [_]) ++ [_]) ++ [_] : List Happening) = _
      rw [hhistory]
      simp only [List.append_assoc, List.cons_append, List.nil_append]
    · rw [if_neg hc, if_neg hc]
      change ((({ rtc with peerConnected := false, cameraRequested := false
        }.updateCameraCapture.closePeerConnection).history ++ [_]) ++ [_] : List Happening) = _
      rw [hhistory]
      simp only [List.append_assoc, List.cons_append, List.nil_append, List.append_nil]

lemma hasPeerConnection_iff (h : Seen held w) (hw : t.webrtc = some w) :
    t.hasPeerConnection = held.rtc.peerConnection.isSome := by
  unfold Voip.JingleService.hasPeerConnection
  rw [hw, Option.bind_some]
  have hconnection := congrArg Option.isSome h.connection
  rwa [Option.isSome_map, Option.isSome_map] at hconnection

lemma Refines.closed (h : Refines s t) :
    (s.call WebrtcClient.closeConnection).signaling = withClient {} (if t.hasPeerConnection then
      (t.emit (.callStateChange .reconnect)).emit (.connectionStateChange .disconnect) else t) := by
  obtain hn | ⟨held, hh⟩ := Option.eq_none_or_eq_some s.client
  · have hnone : t.hasPeerConnection = false := by
      unfold Voip.JingleService.hasPeerConnection
      rw [h.absent hn]
      rfl
    unfold JingleService.call
    rw [calling_none hn, hnone]
    exact h.signaling
  · obtain ⟨w, hw, hseen⟩ := (h.present held hh).seen
    obtain ⟨told, htold, hhistory⟩ := closeConnection_told held.rtc
    unfold JingleService.call
    rw [calling_some _ _ hh hhistory, List.foldl_append, hasPeerConnection_iff hseen hw]
    obtain ⟨errors, he⟩ := foldl_hear htold { s with client := some { held with rtc := held.rtc.closeConnection } }
    dsimp only
    rw [he]
    cases hc : held.rtc.peerConnection.isSome with
    | false => exact h.signaling
    | true =>
      change JingleService.onConnectionStateChanged .disconnect s.signaling = _
      rw [h.signaling]
      rfl

lemma Refines.endCall (h : Refines s t) : Refines s.endCall t.endCall := by
  unfold JingleService.endCall Voip.JingleService.endCall
  have hstarted : s.signaling.callStarted = t.callStarted ∧ s.signaling.connected = t.connected := by
    rw [h.signaling]
    exact ⟨rfl, rfl⟩
  have hterminated : Refines
      (if s.signaling.callStarted && s.signaling.connected then s.signal Voip.JingleService.sessionTerminate else s)
      (if t.callStarted && t.connected then t.sessionTerminate else t) := by
    rw [hstarted.1, hstarted.2]
    split
    · exact h.signal apart_sessionTerminate
    · exact h
  have hclosed := (hterminated.call fun rtc => (calm_setCameraEnabled false rtc).silent).closed
  refine .without ?_ rfl rfl
  change { (JingleService.call _ _).signaling with mediaPrepared := false, callStarted := false } = _
  rw [hclosed]
  rfl

lemma Refines.startCall (h : Refines s t) (receiverId : QString) (video : Bool) (answers : Initialization)
    (track : TrackAnswers) :
    Refines (s.startCall P receiverId video answers track) (t.startCall P receiverId video answers.ok) := by
  have hsame : s.signaling.recipientOf receiverId = t.recipientOf receiverId ∧
      s.signaling.connected = t.connected ∧ s.signaling.jidBare = t.jidBare := by
    rw [h.signaling]
    exact ⟨rfl, rfl, rfl⟩
  unfold JingleService.startCall Voip.JingleService.startCall
  dsimp only
  rw [hsame.1, hsame.2.1, hsame.2.2]
  generalize t.recipientOf receiverId = recipient
  split
  · exact h.signalingFailed _
  · split
    · exact h.signalingFailed _
    · split
      · exact h.signalingFailed _
      · have hcalling := h.signal (f := fun t =>
          { t with recipientId := recipient, videoCall := video }.emit (.callStateChange .calling)) (fun _ _ => rfl)
        obtain ⟨hprepared, hs⟩ := hcalling.prepareMedia answers video
        rw [hprepared]
        split
        · exact hs
        · have htrack := (hs.signal apart_started).call fun rtc => (tends_createLocalCameraTrack track rtc).calm.silent
          exact htrack.signal (f := Voip.JingleService.propose P recipient video) (fun _ _ => rfl)

end

end ChatDesktop.Voip.Rtc
