import ChatDesktop.Voip.CallService

namespace ChatDesktop.Voip.Rtc

open Library Library.Text Library.Reactive Camera

def Happening.applies : Happening → Option Applied
  | .setRemoteDescription _ _ type sdp => some (.remoteSdp type sdp)
  | .addIceCandidate _ (some (candidate, sdpMid, sdpMLineIndex)) =>
    some (.remoteCandidate candidate sdpMid sdpMLineIndex)
  | _ => none

structure Silent (s s' : WebrtcClient) : Prop where
  alive : s'.alive = s.alive
  factory : s'.factory = s.factory
  connected : s'.peerConnection.isSome = s.peerConnection.isSome
  posted : ∀ event ∈ s'.posted, event.tellsState = true → event ∈ s.posted ∨ s.peerConnection.isSome = true
  history : ∃ told, s'.history = s.history ++ told ∧ ∀ h ∈ told, h.unheard = true

section

variable {s s' s'' : WebrtcClient} {h : Happening}

lemma Silent.same (alive : s'.alive = s.alive) (factory : s'.factory = s.factory)
    (connected : s'.peerConnection.isSome = s.peerConnection.isSome) (posted : s'.posted.Sublist s.posted)
    (history : s'.history = s.history) : Silent s s' := by
  refine ⟨alive, factory, connected, fun event he _ => Or.inl (posted.subset he), [], ?_, nofun⟩
  rw [history, List.append_nil]

lemma Silent.refl (s : WebrtcClient) : Silent s s := .same rfl rfl rfl (List.Sublist.refl _) rfl

lemma Silent.trans (hs : Silent s s') (hs' : Silent s' s'') : Silent s s'' := by
  obtain ⟨told, hh, htold⟩ := hs.history
  obtain ⟨told', hh', htold'⟩ := hs'.history
  refine ⟨hs'.alive.trans hs.alive, hs'.factory.trans hs.factory, hs'.connected.trans hs.connected, ?_, told ++ told', ?_,
    fun h hm => (List.mem_append.mp hm).elim (htold h) (htold' h)⟩
  · intro event he ht
    rcases hs'.posted event he ht with he | hc
    · exact hs.posted event he ht
    · exact Or.inr (hs.connected ▸ hc)
  · rw [hh', hh, List.append_assoc]

lemma Silent.put (hs : Silent s s') (h : Happening) (hh : h.unheard = true) : Silent s (s'.put h) := by
  have hput : Silent s' (s'.put h) := by
    refine ⟨rfl, rfl, rfl, fun event he _ => Or.inl he, [h], rfl, fun h' hm => ?_⟩
    rw [List.mem_singleton.mp hm]
    exact hh
  exact hs.trans hput

lemma Silent.post (hs : Silent s s') (event : Posted) (he : event.tellsState = true → s'.peerConnection.isSome = true) :
    Silent s (s'.post event) := by
  have hposted : Silent s' { s' with posted := s'.posted ++ [event] } := by
    refine ⟨rfl, rfl, rfl, fun e hm ht => ?_, [], (List.append_nil _).symm, nofun⟩
    rcases List.mem_append.mp hm with hm | hm
    · exact Or.inl hm
    · rw [List.mem_singleton.mp hm] at ht
      exact Or.inr (he ht)
  exact (hs.trans hposted).put (.posted event) rfl

lemma Calm.silent (hs : Calm s s') : Silent s s' := by
  induction hs with
  | same call _ =>
    refine .same call.alive call.factory call.connection ?_ call.history
    rw [call.posted]
  | put _ h hh ih => exact ih.put h (Bool.and_eq_true_iff.mp hh).2
  | post _ event he ih => exact ih.post event fun ht => absurd (he.symm.trans ht) Bool.false_ne_true
  | trans _ _ ih ih' => exact ih.trans ih'

/-! ### Signals of the observer, and frames -/

lemma silent_onConnectionChange (state : PeerConnectionState) (hc : s.peerConnection.isSome = true) :
    Silent s (s.onConnectionChange state) := by
  obtain he | ⟨observer, hs⟩ := onConnectionChange_cases state s
  · rw [he]
    exact .refl s
  · exact ((Silent.refl s).post _ fun _ => hc).trans hs.calm.silent

lemma silent_observed (f : PeerConnectionObserver → PeerConnectionObserver) (s : WebrtcClient) :
    Silent s (s.observed f) := .same rfl rfl rfl (List.Sublist.refl _) rfl

lemma silent_onFrame (image : Option QVideoFrame) (s : WebrtcClient) : Silent s (s.onFrame image) := by
  unfold WebrtcClient.onFrame
  split
  · exact (silent_observed _ s).put (.onFrame _) rfl
  · exact .refl s

lemma silent_showRemoteFrame (s : WebrtcClient) : Silent s s.showRemoteFrame := by
  unfold WebrtcClient.showRemoteFrame
  split
  · split
    · rename_i observer _ _
      have htaken : Silent s { s with
          peerObserver := some { observer with latestFrame := noFrame, framePending := false } } :=
        .same rfl rfl rfl (List.Sublist.refl _) rfl
      exact htaken.put (.remoteVideoFrameReady _) rfl
    · exact .refl s
  · exact .refl s

lemma silent_clientStep {e : ClientEvent} (he : JingleService.happens s e = true) : Silent s (clientStep s e) := by
  have hdead : ∀ t, Silent s t → Silent s (if !s.alive then s else t) := by
    intro t ht
    split
    · exact .refl s
    · exact ht
  cases e with
  | call call => cases he
  | runPosted calls => cases he
  | destroy defaultVideoInput => cases he
  | videoTimeout converted =>
    exact hdead _ ((silent_showRemoteFrame s).trans (calm_pushLocalFrame converted _).silent)
  | runCapture defaultVideoInput => exact hdead _ (calm_runCapture defaultVideoInput s).silent
  | videoFrameChanged mapped pixelsMapped frame pixels =>
    apply hdead
    split
    · exact (calm_capturing _ _ s).silent
    · exact .refl s
  | cameraErrorOccurred message =>
    apply hdead
    split
    · exact (calm_capturing _ _ s).silent
    · exact .refl s
  | descriptionCreated request description => exact (minor_descriptionCreated request description s).calm.silent
  | descriptionFailed request => exact (minor_forget request s).calm.silent
  | localDescriptionSet request ok => exact (minor_localDescriptionSet request ok s).calm.silent
  | remoteDescriptionSet request ok => exact (minor_remoteDescriptionSet request ok s).calm.silent
  | onConnectionChange state => exact hdead _ (silent_onConnectionChange state he)
  | onIceConnectionFailed => exact hdead _ (minor_onIceConnectionFailed s).calm.silent
  | onIceCandidate candidate sdpMid sdpMLineIndex =>
    exact hdead _ (minor_onIceCandidate candidate sdpMid sdpMLineIndex s).calm.silent
  | onIceCandidateError message => exact hdead _ (minor_onIceCandidateError message s).calm.silent
  | onTrack track => exact hdead _ (silent_observed _ s)
  | onRemoveTrack track => exact hdead _ (silent_observed _ s)
  | onFrame image => exact hdead _ (silent_onFrame image s)

end

end ChatDesktop.Voip.Rtc
