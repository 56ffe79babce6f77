import ChatDesktop.Voip.WebrtcClient

namespace ChatDesktop.Voip.Rtc

open Library Library.Text Library.Reactive Camera

def CaptureCall.asked (started : Bool) : CaptureCall → Bool
  | .start => true
  | .stop => false
  | _ => started

def CaptureCall.selected (device : Option (Option QCameraDevice)) : CaptureCall → Option (Option QCameraDevice)
  | .prepare device => some device
  | .setDevice device => some device
  | _ => device

def Happening.ranCall : Happening → Option CaptureCall
  | .ranCapture call => some call
  | _ => none

def Happening.preview : Happening → Option QVideoFrame
  | .localVideoFrameReady frame => some frame
  | _ => none

def Happening.pushed : Happening → Option QVideoFrame
  | .pushFrame frame => some frame
  | _ => none

def askedBy (calls : List CaptureCall) : Bool := calls.foldl CaptureCall.asked false

def selectedBy (calls : List CaptureCall) : Option (Option QCameraDevice) := calls.foldl CaptureCall.selected none

def ranCalls (history : List Happening) : List CaptureCall := history.filterMap Happening.ranCall

def previews (history : List Happening) : List QVideoFrame := history.filterMap Happening.preview

def shown (history : List Happening) : List QVideoFrame := (previews history).filter QVideoFrame.isValid

def pushes (history : List Happening) : List QVideoFrame := history.filterMap Happening.pushed

def mailbox (c : QtCameraCapture) : List QVideoFrame := if c.latestFrame.isValid then [c.latestFrame] else []

structure Following (started : Bool) (c : QtCameraCapture) : Prop where
  requested : c.requested = true → started = true
  on : c.requested = true → ∀ camera, c.camera = some camera → camera.active = true
  format : ∀ camera, c.camera = some camera → usable (some camera.device) = true
  device : ∀ camera, c.camera = some camera → c.hasDeviceSelection = true → c.device = some camera.device
  unplugged : c.requested = true → c.camera = none → c.hasDeviceSelection = true ∧ c.device = none
  off : started = false → (∀ camera, c.camera = some camera → camera.active = false) ∧ c.latestFrame.isValid = false

section

variable {started : Bool} {c c' : QtCameraCapture} {device defaultVideoInput : Option QCameraDevice}

/-! ### What the capture does with a call -/

lemma Following.put (h : Following started c) (output : Output) : Following started (c.put output) :=
  ⟨h.requested, h.on, h.format, h.device, h.unplugged, h.off⟩

lemma Following.outputs (h : Following started c) : Following started { c with outputs := [] } :=
  ⟨h.requested, h.on, h.format, h.device, h.unplugged, h.off⟩

lemma Following.prepare (h : Following started c) (defaultVideoInput : Option QCameraDevice) :
    Following started (c.prepare defaultVideoInput) := by
  obtain ⟨camera, -, he⟩ | ⟨-, -, message, he⟩ | ⟨hc, husable, camera, hd, ha, he⟩ :=
    prepare_cases defaultVideoInput c
  · rwa [he]
  · rw [he]
    exact h.put _
  · have hselected : c.hasDeviceSelection = true → c.device = some camera.device := by
      intro hs
      rwa [QtCameraCapture.candidate, if_pos hs] at hd
    have hidle : c.requested ≠ true := by
      intro hr
      obtain ⟨hs, hnone⟩ := h.unplugged hr hc
      rw [hselected hs] at hnone
      cases hnone
    rw [he]
    refine ⟨h.requested, fun hr => absurd hr hidle, fun d hd' => ?_, fun d hd' hs => ?_, fun hr => absurd hr hidle,
      fun hoff => ⟨fun d hd' => ?_, (h.off hoff).2⟩⟩
    · obtain rfl := Option.some.inj hd'
      rwa [← hd]
    · obtain rfl := Option.some.inj hd'
      exact hselected hs
    · obtain rfl := Option.some.inj hd'
      exact ha

lemma Following.starting {camera : QCamera} (hf : usable (some camera.device) = true)
    (hd : c.hasDeviceSelection = true → c.device = some camera.device) :
    Following true { c with requested := true, camera := some camera.start } := by
  refine ⟨fun _ => rfl, fun _ d he => ?_, fun d he => ?_, fun d he => ?_, nofun, nofun⟩
  · obtain rfl := Option.some.inj he
    rfl
  · obtain rfl := Option.some.inj he
    exact hf
  · obtain rfl := Option.some.inj he
    exact hd

lemma Following.start (h : Following started c) (defaultVideoInput : Option QCameraDevice) :
    Following true (c.start defaultVideoInput) := by
  have hstarted : Following true c :=
    ⟨fun _ => rfl, h.on, h.format, h.device, h.unplugged, nofun⟩
  cases hr : c.requested with
  | true => rwa [QtCameraCapture.start, if_pos hr]
  | false =>
    obtain ⟨camera, hc, he⟩ | ⟨hc, husable, message, he⟩ | ⟨hc, husable, camera, hd, he⟩ :=
      start_cases defaultVideoInput hr
    · rw [he]
      exact .starting (h.format camera hc) (h.device camera hc)
    · rw [he]
      exact hstarted.put _
    · rw [he]
      refine .starting (hd ▸ husable) (fun hs => ?_)
      rwa [QtCameraCapture.candidate, if_pos hs] at hd

lemma Following.stop (h : Following started c) : Following false c.stop := by
  refine ⟨nofun, nofun, fun camera hc => ?_, fun camera hc => ?_,
    nofun, fun _ => ⟨fun camera hc => ?_, rfl⟩⟩
  · obtain ⟨before, hb, rfl⟩ := Option.map_eq_some_iff.mp hc
    exact h.format before hb
  · obtain ⟨before, hb, rfl⟩ := Option.map_eq_some_iff.mp hc
    exact h.device before hb
  · obtain ⟨before, -, rfl⟩ := Option.map_eq_some_iff.mp hc
    rfl

lemma following_replaced (started : Bool) (device : Option QCameraDevice) (c : QtCameraCapture) :
    Following started (c.replaced device) := by
  refine ⟨nofun, nofun, nofun, nofun,
    nofun, fun _ => ⟨nofun, rfl⟩⟩

lemma Following.setDevice (h : Following started c) (device : Option QCameraDevice) :
    Following started (c.setDevice device) := by
  by_cases hsame : c.hasDeviceSelection = true ∧ c.device = device
  · rwa [setDevice_same hsame]
  cases hr : c.requested with
  | false =>
    rw [setDevice_idle hsame hr]
    exact following_replaced started device c
  | true =>
    obtain rfl := h.requested hr
    obtain ⟨husable, camera, hd, he⟩ | ⟨-, message, he⟩ := setDevice_restarted hsame hr
    · rw [he]
      exact .starting (hd ▸ husable) (fun _ => hd)
    · rw [he]
      refine ⟨fun _ => rfl, nofun, nofun,
        nofun, fun hnone _ => ⟨rfl, Option.isNone_iff_eq_none.mp hnone⟩,
        nofun⟩

lemma Following.run (h : Following started c) (call : CaptureCall) (defaultVideoInput : Option QCameraDevice) :
    Following (call.asked started) (call.run defaultVideoInput c) := by
  cases call with
  | prepare device => exact (h.setDevice device).prepare defaultVideoInput
  | setDevice device => exact h.setDevice device
  | start => exact h.start defaultVideoInput
  | stop => exact h.stop

lemma Following.takeFrame (h : Following started c) : Following started c.takeFrame :=
  ⟨h.requested, h.on, h.format, h.device, h.unplugged, fun hoff => ⟨(h.off hoff).1, rfl⟩⟩

lemma Following.videoFrameChanged (h : Following started c) (frame copied : QVideoFrame) :
    Following started (c.videoFrameChanged frame copied) := by
  obtain he | ⟨hr, he⟩ := videoFrameChanged_cases frame copied c
  · rwa [he]
  · rw [he]
    refine ⟨h.requested, h.on, h.format, h.device, h.unplugged, fun hoff => ?_⟩
    rw [h.requested hr] at hoff
    cases hoff

lemma Following.cameraErrorOccurred (h : Following started c) (message : Text) :
    Following started (c.cameraErrorOccurred message) := by
  unfold QtCameraCapture.cameraErrorOccurred
  split
  · exact h
  · exact ⟨nofun, nofun, h.format, h.device, nofun, h.off⟩

/-! ### Which device is selected -/

lemma prepare_device (defaultVideoInput : Option QCameraDevice) (c : QtCameraCapture) :
    (c.prepare defaultVideoInput).hasDeviceSelection = c.hasDeviceSelection ∧
      (c.prepare defaultVideoInput).device = c.device := by
  obtain ⟨camera, -, he⟩ | ⟨-, -, message, he⟩ | ⟨-, -, camera, -, -, he⟩ := prepare_cases defaultVideoInput c
  · rw [he]
    exact ⟨rfl, rfl⟩
  · rw [he]
    exact ⟨rfl, rfl⟩
  · rw [he]
    exact ⟨rfl, rfl⟩

lemma start_device (defaultVideoInput : Option QCameraDevice) (c : QtCameraCapture) :
    (c.start defaultVideoInput).hasDeviceSelection = c.hasDeviceSelection ∧
      (c.start defaultVideoInput).device = c.device := by
  cases hr : c.requested with
  | true =>
    rw [QtCameraCapture.start, if_pos hr]
    exact ⟨rfl, rfl⟩
  | false =>
    obtain ⟨camera, -, he⟩ | ⟨-, -, message, he⟩ | ⟨-, -, camera, -, he⟩ := start_cases defaultVideoInput hr
    · rw [he]
      exact ⟨rfl, rfl⟩
    · rw [he]
      exact ⟨rfl, rfl⟩
    · rw [he]
      exact ⟨rfl, rfl⟩

lemma setDevice_device (device : Option QCameraDevice) (c : QtCameraCapture) :
    (c.setDevice device).hasDeviceSelection = true ∧ (c.setDevice device).device = device := by
  by_cases hsame : c.hasDeviceSelection = true ∧ c.device = device
  · rwa [setDevice_same hsame]
  cases hr : c.requested with
  | false =>
    rw [setDevice_idle hsame hr]
    exact ⟨rfl, rfl⟩
  | true =>
    obtain ⟨-, camera, -, he⟩ | ⟨-, message, he⟩ := setDevice_restarted hsame hr
    · rw [he]
      exact ⟨rfl, rfl⟩
    · rw [he]
      exact ⟨rfl, rfl⟩

def Selects (device : Option (Option QCameraDevice)) (c : QtCameraCapture) : Prop :=
  ∀ d, device = some d → c.hasDeviceSelection = true ∧ c.device = d

lemma Selects.run {device : Option (Option QCameraDevice)} (h : Selects device c) (call : CaptureCall)
    (defaultVideoInput : Option QCameraDevice) : Selects (call.selected device) (call.run defaultVideoInput c) := by
  intro d hd
  cases call with
  | prepare device =>
    obtain rfl := Option.some.inj hd
    obtain ⟨hs, he⟩ := prepare_device defaultVideoInput (c.setDevice device)
    obtain ⟨hs', he'⟩ := setDevice_device device c
    exact ⟨hs.trans hs', he.trans he'⟩
  | setDevice device =>
    obtain rfl := Option.some.inj hd
    exact setDevice_device device c
  | start =>
    obtain ⟨hs, he⟩ := start_device defaultVideoInput c
    exact ⟨hs.trans (h d hd).1, he.trans (h d hd).2⟩
  | stop => exact h d hd

lemma Following.not_running (h : Following false c) : ¬c.running = true := by
  cases hc : c.camera with
  | none => exact not_running_of_none hc
  | some camera =>
    rw [QtCameraCapture.running, hc, Option.any_some, (h.off rfl).1 camera hc]
    exact Bool.false_ne_true

/-! ### The frames of a call -/

structure Clears (c c' : QtCameraCapture) : Prop where
  quiet : Quiet c'
  mailbox : (mailbox c').Sublist (mailbox c)

lemma mailbox_of_latest (h : c'.latestFrame = c.latestFrame) : (mailbox c').Sublist (mailbox c) := by
  unfold mailbox
  rw [h]

lemma mailbox_of_noFrame (h : c'.latestFrame = noFrame) : (mailbox c').Sublist (mailbox c) := by
  have hnone : mailbox c' = [] := by
    unfold mailbox
    rw [h]
    rfl
  rw [hnone]
  exact List.nil_sublist _

lemma prepare_latest (defaultVideoInput : Option QCameraDevice) (c : QtCameraCapture) :
    (c.prepare defaultVideoInput).latestFrame = c.latestFrame := by
  obtain ⟨camera, -, he⟩ | ⟨-, -, message, he⟩ | ⟨-, -, camera, -, -, he⟩ := prepare_cases defaultVideoInput c
  · rw [he]
  · rw [he]
    rfl
  · rw [he]

lemma start_latest (defaultVideoInput : Option QCameraDevice) (c : QtCameraCapture) :
    (c.start defaultVideoInput).latestFrame = c.latestFrame := by
  cases hr : c.requested with
  | true => rw [QtCameraCapture.start, if_pos hr]
  | false =>
    obtain ⟨camera, -, he⟩ | ⟨-, -, message, he⟩ | ⟨-, -, camera, -, he⟩ := start_cases defaultVideoInput hr
    · rw [he]
    · rw [he]
      rfl
    · rw [he]

lemma clears_setDevice (hq : Quiet c) (device : Option QCameraDevice) : Clears c (c.setDevice device) := by
  refine ⟨hq.setDevice device, ?_⟩
  by_cases hsame : c.hasDeviceSelection = true ∧ c.device = device
  · rw [setDevice_same hsame]
  cases hr : c.requested with
  | false =>
    rw [setDevice_idle hsame hr]
    exact mailbox_of_noFrame rfl
  | true =>
    obtain ⟨-, camera, -, he⟩ | ⟨-, message, he⟩ := setDevice_restarted hsame hr
    · rw [he]
      exact mailbox_of_noFrame rfl
    · rw [he]
      exact mailbox_of_noFrame rfl

lemma clears_run (hq : Quiet c) (call : CaptureCall) (defaultVideoInput : Option QCameraDevice) :
    Clears c (call.run defaultVideoInput c) := by
  cases call with
  | prepare device =>
    obtain ⟨hquiet, hsub⟩ := clears_setDevice hq device
    exact ⟨hquiet.prepare defaultVideoInput, (mailbox_of_latest (prepare_latest defaultVideoInput _)).trans hsub⟩
  | setDevice device => exact clears_setDevice hq device
  | start => exact ⟨hq.start defaultVideoInput, mailbox_of_latest (start_latest defaultVideoInput c)⟩
  | stop => exact ⟨hq.stop, mailbox_of_noFrame rfl⟩

end

/-! ### What stands between the client and the capture -/

/-- The capture has been asked for what the client remembers, by the calls that were run and those that wait. -/
structure FilmingAs (requested : Bool) (s : WebrtcClient) : Prop where
  alive : s.alive = true
  absent : s.capture = none → requested = false ∧ ranCalls s.history = []
  asked : ∀ t, s.capture = some t → askedBy (ranCalls s.history ++ t.calls) = requested
  chosen : ∀ t, s.capture = some t → selectedBy (ranCalls s.history ++ t.calls) = some s.cameraDevice
  following : ∀ t, s.capture = some t → Following (askedBy (ranCalls s.history)) t.capture
  selects : ∀ t, s.capture = some t → Selects (selectedBy (ranCalls s.history)) t.capture
  pushed : (pushes s.history ++ (s.capture.elim [] (fun t => mailbox t.capture))).Sublist (shown s.history)
  blank : askedBy (ranCalls s.history) = false → ∀ frame, (previews s.history).getLast? = some frame →
    frame.isValid = false

def Filming (s : WebrtcClient) : Prop := FilmingAs s.cameraRequested s

structure Ended (s : WebrtcClient) : Prop where
  alive : s.alive = false
  requested : s.cameraRequested = false
  calls : ∀ t, s.capture = some t → t.calls = []
  following : ∀ t, s.capture = some t → Following false t.capture
  pushed : (pushes s.history).Sublist (shown s.history)

def Happening.films : Happening → Bool
  | .ranCapture _ => true
  | .localVideoFrameReady _ => true
  | .pushFrame _ => true
  | _ => false

structure Unfilmed (s s' : WebrtcClient) : Prop where
  alive : s'.alive = s.alive
  capture : s'.capture = s.capture
  requested : s'.cameraRequested = s.cameraRequested
  device : s'.cameraDevice = s.cameraDevice
  history : ∃ more, s'.history = s.history ++ more ∧ ∀ h ∈ more, h.films = false

section

variable {s s' s'' : WebrtcClient} {requested : Bool} {h : Happening} {history more : List Happening}
  {t : CaptureThread} {call : CaptureCall}

lemma Unfilmed.refl (s : WebrtcClient) : Unfilmed s s :=
  ⟨rfl, rfl, rfl, rfl, [], (List.append_nil _).symm, fun _ he => absurd he List.not_mem_nil⟩

lemma Unfilmed.trans (h : Unfilmed s s') (h' : Unfilmed s' s'') : Unfilmed s s'' := by
  obtain ⟨more, he, hm⟩ := h.history
  obtain ⟨more', he', hm'⟩ := h'.history
  refine ⟨h'.alive.trans h.alive, h'.capture.trans h.capture, h'.requested.trans h.requested,
    h'.device.trans h.device, more ++ more', ?_, fun e hmem => ?_⟩
  · rw [he', he, List.append_assoc]
  · obtain hmem | hmem := List.mem_append.mp hmem
    · exact hm e hmem
    · exact hm' e hmem

lemma Unfilmed.same (ha : s'.alive = s.alive) (hc : s'.capture = s.capture)
    (hr : s'.cameraRequested = s.cameraRequested) (hd : s'.cameraDevice = s.cameraDevice)
    (hh : s'.history = s.history) : Unfilmed s s' :=
  ⟨ha, hc, hr, hd, [], by rw [hh, List.append_nil], fun _ he => absurd he List.not_mem_nil⟩

lemma Unfilmed.put (hs : Unfilmed s s') (h : Happening) (hh : h.films = false) : Unfilmed s (s'.put h) := by
  refine hs.trans ⟨rfl, rfl, rfl, rfl, [h], rfl, fun e he => ?_⟩
  rwa [List.mem_singleton.mp he]

lemma Happening.films_beside (hh : h.beside = true) : h.films = false := by
  cases h <;> first | rfl | cases hh

lemma Beside.unfilmed (hs : Beside s s') : Unfilmed s s' := by
  induction hs with
  | same alive capture requested device _ _ history => exact .same alive capture requested device history
  | put _ h hh ih => exact ih.put h (Happening.films_beside hh)
  | trans _ _ ih ih' => exact ih.trans ih'

lemma filterMap_unfilmed {α : Type} {f : Happening → Option α} (hf : ∀ h : Happening, h.films = false → f h = none)
    (hm : ∀ h ∈ more, h.films = false) : (history ++ more).filterMap f = history.filterMap f := by
  rw [List.filterMap_append, List.filterMap_eq_nil_iff.mpr fun h hh => hf h (hm h hh), List.append_nil]

lemma ranCall_unfilmed (h : Happening) (hh : h.films = false) : h.ranCall = none := by
  cases h <;> first | rfl | cases hh

lemma preview_unfilmed (h : Happening) (hh : h.films = false) : h.preview = none := by
  cases h <;> first | rfl | cases hh

lemma pushed_unfilmed (h : Happening) (hh : h.films = false) : h.pushed = none := by
  cases h <;> first | rfl | cases hh

lemma FilmingAs.unfilmed (h : FilmingAs requested s) (hu : Unfilmed s s') : FilmingAs requested s' := by
  obtain ⟨more, he, hm⟩ := hu.history
  have hran : ranCalls s'.history = ranCalls s.history := by
    rw [he]
    exact filterMap_unfilmed ranCall_unfilmed hm
  have hpreviews : previews s'.history = previews s.history := by
    rw [he]
    exact filterMap_unfilmed preview_unfilmed hm
  have hpushes : pushes s'.history = pushes s.history := by
    rw [he]
    exact filterMap_unfilmed pushed_unfilmed hm
  have hshown : shown s'.history = shown s.history := congrArg (List.filter _) hpreviews
  refine ⟨hu.alive.trans h.alive, ?_, ?_, ?_, ?_, ?_, ?_, ?_⟩
  · rw [hu.capture, hran]
    exact h.absent
  · rw [hu.capture, hran]
    exact h.asked
  · rw [hu.capture, hran, hu.device]
    exact h.chosen
  · rw [hu.capture, hran]
    exact h.following
  · rw [hu.capture, hran]
    exact h.selects
  · rw [hpushes, hu.capture, hshown]
    exact h.pushed
  · rw [hran, hpreviews]
    exact h.blank

lemma Filming.unfilmed (h : Filming s) (hu : Unfilmed s s') : Filming s' := by
  unfold Filming
  rw [hu.requested]
  exact FilmingAs.unfilmed h hu

/-! ### The client's requests -/

lemma askedBy_concat (calls : List CaptureCall) (call : CaptureCall) :
    askedBy (calls ++ [call]) = call.asked (askedBy calls) := List.foldl_concat _ _ _ _

lemma selectedBy_concat (calls : List CaptureCall) (call : CaptureCall) :
    selectedBy (calls ++ [call]) = call.selected (selectedBy calls) := List.foldl_concat _ _ _ _

lemma FilmingAs.post (h : FilmingAs requested s) (hc : s.capture = some t) {requested' : Bool}
    (hasked : call.asked requested = requested')
    (hdevice : call.selected (some s.cameraDevice) = some s'.cameraDevice)
    (hc' : s'.capture = some (t.post call)) (ha : s'.alive = s.alive) (hh : s'.history = s.history) :
    FilmingAs requested' s' := by
  have hthread : ∀ t', s'.capture = some t' → t' = t.post call := by
    intro t' ht'
    exact (Option.some.inj (hc'.symm.trans ht')).symm
  refine ⟨ha.trans h.alive, fun hn => ?_, fun t' ht' => ?_, fun t' ht' => ?_, fun t' ht' => ?_, fun t' ht' => ?_,
    ?_, ?_⟩
  · rw [hc'] at hn
    cases hn
  · rw [hthread t' ht', hh]
    change askedBy (ranCalls s.history ++ (t.calls ++ [call])) = _
    rw [← List.append_assoc, askedBy_concat, h.asked t hc, hasked]
  · rw [hthread t' ht', hh]
    change selectedBy (ranCalls s.history ++ (t.calls ++ [call])) = _
    rw [← List.append_assoc, selectedBy_concat, h.chosen t hc, hdevice]
  · rw [hthread t' ht', hh]
    exact h.following t hc
  · rw [hthread t' ht', hh]
    exact h.selects t hc
  · have hpushed := h.pushed
    rw [hc] at hpushed
    rw [hh, hc']
    exact hpushed
  · rw [hh]
    exact h.blank

lemma following_first (started : Bool) : Following started {} :=
  ⟨nofun, nofun, nofun, nofun, nofun, fun _ => ⟨nofun, rfl⟩⟩

lemma FilmingAs.prepare (h : FilmingAs requested s) : FilmingAs requested s.prepare := by
  unfold WebrtcClient.prepare
  cases hc : s.capture with
  | some t =>
    refine @FilmingAs.post _ _ _ _ (.prepare s.cameraDevice) h hc requested rfl rfl ?_ rfl rfl
    change s.capture.map _ = _
    rw [hc]
    rfl
  | none =>
    obtain ⟨hoff, hnone⟩ := h.absent hc
    have hpushed : (pushes s.history ++ []).Sublist (shown s.history) := by
      have hp := h.pushed
      rwa [hc] at hp
    have hthread : ∀ t', some (CaptureThread.mk {} [CaptureCall.prepare s.cameraDevice]) = some t' →
        t' = CaptureThread.mk {} [CaptureCall.prepare s.cameraDevice] := fun t' ht' => (Option.some.inj ht').symm
    refine ⟨h.alive, nofun, fun t' ht' => ?_, fun t' ht' => ?_, fun t' ht' => ?_, fun t' ht' => ?_, hpushed, h.blank⟩
    · rw [hthread t' ht']
      change askedBy (ranCalls s.history ++ _) = _
      rw [hnone, hoff]
      rfl
    · rw [hthread t' ht']
      change selectedBy (ranCalls s.history ++ _) = _
      rw [hnone]
      rfl
    · rw [hthread t' ht']
      exact following_first _
    · rw [hthread t' ht']
      change Selects (selectedBy (ranCalls s.history)) {}
      rw [hnone]
      exact fun d hd => by cases hd

end

end ChatDesktop.Voip.Rtc
