import ChatDesktop.Library.Reactive
import ChatDesktop.Library.Text
import ChatDesktop.Voip.CameraFrame
import Mathlib.Algebra.Order.Ring.Rat

namespace ChatDesktop.Voip.Camera

open Library Library.Text Library.Reactive

inductive PixelFormat
  | nv12
  | nv21
  | yuv420p
  | yv12
  | bgra8888
  | bgrx8888
  | rgba8888
  | rgbx8888
  | uyvy
  | yuyv
  | other (number : ℕ)
  deriving DecidableEq

def isCameraPixelFormatSupported : PixelFormat → Bool
  | .other _ => false
  | _ => true

structure QCameraFormat where
  pixelFormat : PixelFormat
  width : Int32 := 0
  height : Int32 := 0
  minFrameRate : ℚ := 0
  maxFrameRate : ℚ := 0
  deriving DecidableEq

structure QCameraDevice where
  id : List UInt8
  videoFormats : List QCameraFormat
  deriving DecidableEq

def QCameraFormat.score (format : QCameraFormat) : ℚ :=
  |((format.width.toInt - 1280 : ℤ) : ℚ)| + |((format.height.toInt - 720 : ℤ) : ℚ)| +
    100 * max 0 (30 - format.maxFrameRate) + 100 * max 0 (format.minFrameRate - 30)

def selectFormat (formats : List QCameraFormat) : Option QCameraFormat :=
  formats.foldl (fun selected format =>
    if !isCameraPixelFormatSupported format.pixelFormat then selected
    else if selected.all (fun best => format.score < best.score) then some format
    else selected) none

structure QCamera where
  device : QCameraDevice
  format : QCameraFormat
  active : Bool := false

def QCamera.start (camera : QCamera) : QCamera := { camera with active := true }

def QCamera.stop (camera : QCamera) : QCamera := { camera with active := false }

def noFrame : QVideoFrame := { isValid := false }

/-- What leaves the capture: its signals, and the frames that `takeFrame` gives away. -/
inductive Output
  | frameReady (frame : QVideoFrame)
  | errorOccurred (message : Text)
  | taken (frame : QVideoFrame)

/-- A device is null if there is none; `outputs` are those of the running call. -/
structure QtCameraCapture where
  device : Option QCameraDevice := none
  hasDeviceSelection : Bool := false
  camera : Option QCamera := none
  requested : Bool := false
  latestFrame : QVideoFrame := noFrame
  outputs : List Output := []

namespace QtCameraCapture

def put (output : Output) (s : QtCameraCapture) : QtCameraCapture := { s with outputs := s.outputs ++ [output] }

def takeFrame (s : QtCameraCapture) : QtCameraCapture := { s.put (.taken s.latestFrame) with latestFrame := noFrame }

def candidate (defaultVideoInput : Option QCameraDevice) (s : QtCameraCapture) : Option QCameraDevice :=
  if s.hasDeviceSelection then s.device else defaultVideoInput

def prepare (defaultVideoInput : Option QCameraDevice) (s : QtCameraCapture) : QtCameraCapture :=
  if s.camera.isSome then s
  else
    match s.candidate defaultVideoInput with
    | none => s.put (.errorOccurred (ofAscii "No usable local camera is available"))
    | some device =>
      match selectFormat device.videoFormats with
      | none => s.put (.errorOccurred (ofAscii "Camera has no supported video format"))
      | some format => { s with camera := some { device := device, format := format } }

def start (defaultVideoInput : Option QCameraDevice) (s : QtCameraCapture) : QtCameraCapture :=
  if s.requested then s
  else
    let s := if s.camera.isNone then s.prepare defaultVideoInput else s
    match s.camera with
    | none => s
    | some camera => { s with requested := true, camera := some camera.start }

def stop (s : QtCameraCapture) : QtCameraCapture :=
  { s with requested := false, camera := s.camera.map QCamera.stop, latestFrame := noFrame }.put (.frameReady noFrame)

def setDevice (device : Option QCameraDevice) (s : QtCameraCapture) : QtCameraCapture :=
  if s.hasDeviceSelection = true ∧ s.device = device then s
  else
    let restart := s.requested
    let s := { s.stop with camera := none, device := device, hasDeviceSelection := true }
    if restart then
      -- There is a selection, so the default is not asked for.
      let s := s.start none
      if device.isNone then { s with requested := true } else s
    else s

/-- A frame of the sink; `copied` is what `copyCameraFrame` makes of it. -/
def videoFrameChanged (frame copied : QVideoFrame) (s : QtCameraCapture) : QtCameraCapture :=
  if s.camera.isNone then s
  else if !s.requested || !frame.isValid then s
  else if !copied.isValid then s
  else { s with latestFrame := copied }.put (.frameReady copied)

def cameraErrorOccurred (message : Text) (s : QtCameraCapture) : QtCameraCapture :=
  if s.camera.isNone then s else { s with requested := false }.put (.errorOccurred message)

end QtCameraCapture

inductive CaptureEvent
  | setDevice (device : Option QCameraDevice)
  | prepare (defaultVideoInput : Option QCameraDevice)
  | start (defaultVideoInput : Option QCameraDevice)
  | stop
  | takeFrame
  | videoFrameChanged (mapped pixelsMapped : Bool) (frame pixels : QVideoFrame)
  | cameraErrorOccurred (message : Text)

def QtCameraCapture.handle (s : QtCameraCapture) : CaptureEvent → QtCameraCapture
  | .setDevice device => s.setDevice device
  | .prepare defaultVideoInput => s.prepare defaultVideoInput
  | .start defaultVideoInput => s.start defaultVideoInput
  | .stop => s.stop
  | .takeFrame => s.takeFrame
  | .videoFrameChanged mapped pixelsMapped frame pixels =>
    s.videoFrameChanged frame (copyCameraFrame mapped pixelsMapped frame pixels).1
  | .cameraErrorOccurred message => s.cameraErrorOccurred message

/-! ### What was asked for last -/

/-- `started` tells whether the last of `start` and `stop` was `start`, and `defaultVideoInput` is the default of the
last call that could ask for it. -/
structure Watched where
  capture : QtCameraCapture := {}
  started : Bool := false
  defaultVideoInput : Option QCameraDevice := none

def captureStep (s : Watched) (e : CaptureEvent) : Watched where
  capture := { s.capture with outputs := [] }.handle e
  started := match e with
    | .start _ => true
    | .stop => false
    | _ => s.started
  defaultVideoInput := match e with
    | .start defaultVideoInput => defaultVideoInput
    | .prepare defaultVideoInput => defaultVideoInput
    | _ => s.defaultVideoInput

def usable (device : Option QCameraDevice) : Bool :=
  device.any (fun d => d.videoFormats.any (fun format => isCameraPixelFormatSupported format.pixelFormat))

def QtCameraCapture.running (s : QtCameraCapture) : Bool := s.camera.any QCamera.active

def QtCameraCapture.selected (defaultVideoInput : Option QCameraDevice) (s : QtCameraCapture) : Option QCameraDevice :=
  if s.hasDeviceSelection then s.device
  else s.camera.elim defaultVideoInput (fun camera => some camera.device)

/-- The camera runs as it was asked to, and gives frames only where it was. -/
structure Followed (s : Watched) : Prop where
  running : s.capture.running = true ↔ s.started = true ∧ usable (s.capture.selected s.defaultVideoInput) = true
  frames : ∀ frame : QVideoFrame, .frameReady frame ∈ s.capture.outputs ∨ .taken frame ∈ s.capture.outputs →
    frame.isValid = true → s.started = true

/-- A request to start that stands is known to the capture when a usable camera comes along. -/
def Remembers (s : Watched) : CaptureEvent → Prop
  | .setDevice device => ¬(s.capture.hasDeviceSelection = true ∧ s.capture.device = device) →
      usable device = true → s.started = true → s.capture.requested = true
  | .prepare defaultVideoInput => s.capture.hasDeviceSelection = false → s.capture.camera = none →
      usable defaultVideoInput = true → s.started = true → s.capture.requested = true
  | _ => True

def CaptureEvent.isCameraError : CaptureEvent → Bool
  | .cameraErrorOccurred _ => true
  | _ => false

structure Sound (started : Bool) (s : QtCameraCapture) : Prop where
  requested : s.requested = true → started = true
  active : ∀ camera, s.camera = some camera → camera.active = s.requested
  format : ∀ camera, s.camera = some camera → usable (some camera.device) = true
  device : ∀ camera, s.camera = some camera → s.hasDeviceSelection = true → s.device = some camera.device
  unplugged : s.requested = true → s.camera = none → s.hasDeviceSelection = true ∧ s.device = none
  latest : s.latestFrame.isValid = true → s.requested = true

def Quiet (s : QtCameraCapture) : Prop :=
  ∀ frame : QVideoFrame, .frameReady frame ∈ s.outputs ∨ .taken frame ∈ s.outputs → frame.isValid = false

section

variable {s : QtCameraCapture} {started : Bool} {device defaultVideoInput : Option QCameraDevice}

lemma isSome_selectFormat (formats : List QCameraFormat) : (selectFormat formats).isSome =
    formats.any (fun format => isCameraPixelFormatSupported format.pixelFormat) := by
  have hfold : ∀ selected : Option QCameraFormat, (formats.foldl (fun selected format =>
      if !isCameraPixelFormatSupported format.pixelFormat then selected
      else if selected.all (fun best => format.score < best.score) then some format else selected) selected).isSome =
      (selected.isSome || formats.any (fun format => isCameraPixelFormatSupported format.pixelFormat)) := by
    induction formats with
    | nil => exact fun selected => (Bool.or_false _).symm
    | cons format formats ih =>
      intro selected
      rw [List.foldl_cons, ih, List.any_cons, ← Bool.or_assoc]
      congr 1
      cases isCameraPixelFormatSupported format.pixelFormat with
      | false => exact (Bool.or_false _).symm
      | true =>
        cases selected with
        | none => rfl
        | some best =>
          simp only [Bool.not_true, Bool.false_eq_true, if_false, Option.isSome_some, Bool.true_or]
          split_ifs <;> rfl
  exact hfold none

lemma prepare_cases (defaultVideoInput : Option QCameraDevice) (s : QtCameraCapture) :
    (∃ camera, s.camera = some camera ∧ s.prepare defaultVideoInput = s) ∨
    (s.camera = none ∧ usable (s.candidate defaultVideoInput) = false ∧
      ∃ message, s.prepare defaultVideoInput = s.put (.errorOccurred message)) ∨
    (s.camera = none ∧ usable (s.candidate defaultVideoInput) = true ∧
      ∃ camera, s.candidate defaultVideoInput = some camera.device ∧ camera.active = false ∧
        s.prepare defaultVideoInput = { s with camera := some camera }) := by
  cases hc : s.camera with
  | some camera =>
    refine .inl ⟨camera, rfl, ?_⟩
    rw [QtCameraCapture.prepare, hc]
    exact if_pos rfl
  | none =>
    right
    have hprepare : s.prepare defaultVideoInput = match s.candidate defaultVideoInput with
        | none => s.put (.errorOccurred (ofAscii "No usable local camera is available"))
        | some device =>
          match selectFormat device.videoFormats with
          | none => s.put (.errorOccurred (ofAscii "Camera has no supported video format"))
          | some format => { s with camera := some { device := device, format := format } } := by
      rw [QtCameraCapture.prepare, hc]
      exact if_neg Bool.false_ne_true
    cases hd : s.candidate defaultVideoInput with
    | none =>
      rw [hd] at hprepare
      exact .inl ⟨rfl, rfl, _, hprepare⟩
    | some device =>
      rw [hd] at hprepare
      have husable : usable (some device) = (selectFormat device.videoFormats).isSome :=
        (isSome_selectFormat device.videoFormats).symm
      rw [husable]
      cases hf : selectFormat device.videoFormats with
      | none =>
        dsimp only at hprepare
        rw [hf] at hprepare
        exact .inl ⟨rfl, rfl, _, hprepare⟩
      | some format =>
        dsimp only at hprepare
        rw [hf] at hprepare
        exact .inr ⟨rfl, rfl, ⟨device, format, false⟩, rfl, rfl, hprepare⟩

lemma start_cases (defaultVideoInput : Option QCameraDevice) (hr : s.requested = false) :
    (∃ camera : QCamera, s.camera = some camera ∧
      s.start defaultVideoInput = { s with requested := true, camera := some camera.start }) ∨
    (s.camera = none ∧ usable (s.candidate defaultVideoInput) = false ∧
      ∃ message, s.start defaultVideoInput = s.put (.errorOccurred message)) ∨
    (s.camera = none ∧ usable (s.candidate defaultVideoInput) = true ∧
      ∃ camera : QCamera, s.candidate defaultVideoInput = some camera.device ∧
        s.start defaultVideoInput = { s with requested := true, camera := some camera.start }) := by
  rw [QtCameraCapture.start, hr]
  obtain ⟨camera, hc, -⟩ | ⟨hc, husable, message, he⟩ | ⟨hc, husable, camera, hd, -, he⟩ :=
    prepare_cases defaultVideoInput s
  · refine .inl ⟨camera, hc, ?_⟩
    simp only [hc, Bool.false_eq_true, if_false, Option.isNone_some]
  · refine .inr (.inl ⟨hc, husable, message, ?_⟩)
    simp only [hc, Bool.false_eq_true, if_false, Option.isNone_none, if_true, he, QtCameraCapture.put]
  · refine .inr (.inr ⟨hc, husable, camera, hd, ?_⟩)
    simp only [hc, Bool.false_eq_true, if_false, Option.isNone_none, if_true, he]

/-! ### What the capture knows after a call -/

lemma Sound.running (h : Sound started s) : s.running = (s.requested && s.camera.isSome) := by
  rw [QtCameraCapture.running]
  cases hc : s.camera with
  | none => exact (Bool.and_false _).symm
  | some camera => exact (h.active camera hc).trans (Bool.and_true _).symm

lemma Sound.put (h : Sound started s) (output : Output) : Sound started (s.put output) :=
  ⟨h.requested, h.active, h.format, h.device, h.unplugged, h.latest⟩

lemma Sound.withCamera (h : Sound started s) {camera : QCamera} (hc : s.camera = none)
    (hd : s.candidate defaultVideoInput = some camera.device)
    (husable : usable (s.candidate defaultVideoInput) = true) (ha : camera.active = false) :
    Sound started { s with camera := some camera } := by
  have hselected : s.hasDeviceSelection = true → s.device = some camera.device := by
    intro hs
    rwa [QtCameraCapture.candidate, if_pos hs] at hd
  have hr : s.requested = false := by
    cases hr : s.requested with
    | false => rfl
    | true =>
      obtain ⟨hs, hnone⟩ := h.unplugged hr hc
      rw [hselected hs] at hnone
      cases hnone
  refine ⟨h.requested, fun c he => ?_, fun c he => ?_, fun c he => ?_, fun _ he => ?_, h.latest⟩
  · obtain rfl := Option.some.inj he
    exact ha.trans hr.symm
  · obtain rfl := Option.some.inj he
    rwa [← hd]
  · obtain rfl := Option.some.inj he
    exact hselected
  · cases he

lemma Sound.prepare (h : Sound started s) (defaultVideoInput : Option QCameraDevice) :
    Sound started (s.prepare defaultVideoInput) := by
  obtain ⟨camera, -, he⟩ | ⟨-, -, message, he⟩ | ⟨hc, husable, camera, hd, ha, he⟩ :=
    prepare_cases defaultVideoInput s
  · rwa [he]
  · rw [he]
    exact h.put _
  · rw [he]
    exact h.withCamera hc hd husable ha

lemma Sound.starting {camera : QCamera} (hf : usable (some camera.device) = true)
    (hd : s.hasDeviceSelection = true → s.device = some camera.device) :
    Sound true { s with requested := true, camera := some camera.start } := by
  refine ⟨fun _ => rfl, fun c he => ?_, fun c he => ?_, fun c he => ?_, fun _ he => ?_, fun _ => rfl⟩
  · obtain rfl := Option.some.inj he
    rfl
  · obtain rfl := Option.some.inj he
    exact hf
  · obtain rfl := Option.some.inj he
    exact hd
  · cases he

lemma Sound.start (h : Sound started s) (defaultVideoInput : Option QCameraDevice) :
    Sound true (s.start defaultVideoInput) := by
  cases hr : s.requested with
  | true =>
    rw [QtCameraCapture.start, if_pos hr]
    exact ⟨fun _ => rfl, h.active, h.format, h.device, h.unplugged, h.latest⟩
  | false =>
    obtain ⟨camera, hc, he⟩ | ⟨hc, husable, message, he⟩ | ⟨hc, husable, camera, hd, he⟩ :=
      start_cases defaultVideoInput hr
    · rw [he]
      exact .starting (h.format camera hc) (h.device camera hc)
    · rw [he]
      exact .put ⟨fun _ => rfl, h.active, h.format, h.device, h.unplugged, h.latest⟩ _
    · rw [he]
      refine .starting (hd ▸ husable) (fun hs => ?_)
      rwa [QtCameraCapture.candidate, if_pos hs] at hd

lemma Sound.stop (h : Sound started s) : Sound false s.stop := by
  refine ⟨nofun, fun camera hc => ?_, fun camera hc => ?_, fun camera hc => ?_, nofun, nofun⟩
  · obtain ⟨before, -, rfl⟩ := Option.map_eq_some_iff.mp hc
    rfl
  · obtain ⟨before, hb, rfl⟩ := Option.map_eq_some_iff.mp hc
    exact h.format before hb
  · obtain ⟨before, hb, rfl⟩ := Option.map_eq_some_iff.mp hc
    exact h.device before hb

/-- What `setDevice` leaves before the new device is started. -/
def QtCameraCapture.replaced (device : Option QCameraDevice) (s : QtCameraCapture) : QtCameraCapture :=
  { s.stop with camera := none, device := device, hasDeviceSelection := true }

lemma setDevice_same (hsame : s.hasDeviceSelection = true ∧ s.device = device) : s.setDevice device = s := if_pos hsame

lemma setDevice_idle (hdiffers : ¬(s.hasDeviceSelection = true ∧ s.device = device)) (hr : s.requested = false) :
    s.setDevice device = s.replaced device := by
  rw [QtCameraCapture.setDevice, if_neg hdiffers, hr]
  rfl

lemma setDevice_restarted (hdiffers : ¬(s.hasDeviceSelection = true ∧ s.device = device)) (hr : s.requested = true) :
    (usable device = true ∧ ∃ camera : QCamera, device = some camera.device ∧ s.setDevice device =
      { s.replaced device with requested := true, camera := some camera.start }) ∨
    (usable device = false ∧ ∃ message, s.setDevice device =
      { (s.replaced device).put (.errorOccurred message) with requested := device.isNone }) := by
  have hset : s.setDevice device =
      if device.isNone then { (s.replaced device).start none with requested := true }
      else (s.replaced device).start none := by
    rw [QtCameraCapture.setDevice, if_neg hdiffers, hr]
    exact if_pos rfl
  obtain ⟨camera, hc, -⟩ | ⟨-, husable, message, he⟩ | ⟨-, husable, camera, hd, he⟩ :=
    start_cases (s := s.replaced device) none rfl
  · cases hc
  · refine .inr ⟨husable, message, ?_⟩
    rw [hset, he]
    cases device <;> rfl
  · refine .inl ⟨husable, camera, hd, ?_⟩
    rw [hset, he, if_neg]
    intro hnone
    change device = some camera.device at hd
    rw [hd] at hnone
    cases hnone

lemma Sound.replaced (device : Option QCameraDevice) (s : QtCameraCapture) : Sound started (s.replaced device) :=
  ⟨nofun, nofun, nofun, nofun, nofun, nofun⟩

lemma Sound.setDevice (h : Sound started s) (device : Option QCameraDevice) : Sound started (s.setDevice device) := by
  by_cases hsame : s.hasDeviceSelection = true ∧ s.device = device
  · rwa [setDevice_same hsame]
  cases hr : s.requested with
  | false =>
    rw [setDevice_idle hsame hr]
    exact .replaced device s
  | true =>
    obtain rfl := h.requested hr
    obtain ⟨husable, camera, hd, he⟩ | ⟨-, message, he⟩ := setDevice_restarted hsame hr
    · rw [he]
      exact .starting (hd ▸ husable) (fun _ => hd)
    · rw [he]
      refine ⟨fun _ => rfl, nofun, nofun, nofun, fun hnone _ => ⟨rfl, ?_⟩, nofun⟩
      exact Option.isNone_iff_eq_none.mp hnone

lemma Sound.takeFrame (h : Sound started s) : Sound started s.takeFrame :=
  ⟨h.requested, h.active, h.format, h.device, h.unplugged, nofun⟩

lemma videoFrameChanged_cases (frame copied : QVideoFrame) (s : QtCameraCapture) :
    s.videoFrameChanged frame copied = s ∨
    (s.requested = true ∧
      s.videoFrameChanged frame copied = { s with latestFrame := copied }.put (.frameReady copied)) := by
  rw [QtCameraCapture.videoFrameChanged]
  split_ifs with _ hoff _
  · exact .inl rfl
  · exact .inl rfl
  · exact .inl rfl
  · refine .inr ⟨?_, rfl⟩
    cases hr : s.requested with
    | true => rfl
    | false =>
      rw [hr] at hoff
      exact absurd rfl hoff

lemma Sound.videoFrameChanged (h : Sound started s) (frame copied : QVideoFrame) :
    Sound started (s.videoFrameChanged frame copied) := by
  obtain he | ⟨hr, he⟩ := videoFrameChanged_cases frame copied s
  · rwa [he]
  · rw [he]
    exact ⟨h.requested, h.active, h.format, h.device, h.unplugged, fun _ => hr⟩

/-! ### The frames that leave it -/

lemma Quiet.error (h : Quiet s) (message : Text) : Quiet (s.put (.errorOccurred message)) := by
  intro frame hf
  apply h frame
  simpa only [QtCameraCapture.put, List.mem_append, List.mem_singleton, reduceCtorEq, or_false] using hf

lemma Quiet.stop (h : Quiet s) : Quiet s.stop := by
  intro frame hf
  simp only [QtCameraCapture.stop, QtCameraCapture.put, List.mem_append, List.mem_singleton, reduceCtorEq, or_false,
    Output.frameReady.injEq] at hf
  obtain (hf | rfl) | hf := hf
  · exact h frame (.inl hf)
  · rfl
  · exact h frame (.inr hf)

lemma Quiet.prepare (h : Quiet s) (defaultVideoInput : Option QCameraDevice) : Quiet (s.prepare defaultVideoInput) := by
  obtain ⟨camera, -, he⟩ | ⟨-, -, message, he⟩ | ⟨-, -, camera, -, -, he⟩ := prepare_cases defaultVideoInput s
  · rwa [he]
  · rw [he]
    exact h.error message
  · rwa [he]

lemma Quiet.start (h : Quiet s) (defaultVideoInput : Option QCameraDevice) : Quiet (s.start defaultVideoInput) := by
  cases hr : s.requested with
  | true => rwa [QtCameraCapture.start, if_pos hr]
  | false =>
    obtain ⟨camera, -, he⟩ | ⟨-, -, message, he⟩ | ⟨-, -, camera, -, he⟩ := start_cases defaultVideoInput hr
    · rwa [he]
    · rw [he]
      exact h.error message
    · rwa [he]

lemma Quiet.setDevice (h : Quiet s) (device : Option QCameraDevice) : Quiet (s.setDevice device) := by
  by_cases hsame : s.hasDeviceSelection = true ∧ s.device = device
  · rwa [setDevice_same hsame]
  have hreplaced : Quiet (s.replaced device) := h.stop
  cases hr : s.requested with
  | false => rwa [setDevice_idle hsame hr]
  | true =>
    obtain ⟨-, camera, -, he⟩ | ⟨-, message, he⟩ := setDevice_restarted hsame hr
    · rw [he]
      exact hreplaced
    · rw [he]
      exact hreplaced.error message

lemma Sound.quiet_or_on (h : Sound started s) (hnone : s.outputs = []) (e : CaptureEvent)
    (he : e.isCameraError = false) : Quiet (s.handle e) ∨ (s.handle e).requested = true := by
  have hquiet : Quiet s := by
    intro frame hf
    rw [hnone] at hf
    exact hf.elim nofun nofun
  cases e with
  | setDevice device => exact .inl (hquiet.setDevice device)
  | prepare defaultVideoInput => exact .inl (hquiet.prepare defaultVideoInput)
  | start defaultVideoInput => exact .inl (hquiet.start defaultVideoInput)
  | stop => exact .inl hquiet.stop
  | takeFrame =>
    by_cases hv : s.latestFrame.isValid = true
    · exact .inr (h.latest hv)
    · left
      intro frame hf
      simp only [QtCameraCapture.handle, QtCameraCapture.takeFrame, QtCameraCapture.put, hnone, List.nil_append,
        List.mem_singleton, reduceCtorEq, false_or, Output.taken.injEq] at hf
      rw [hf]
      exact Bool.eq_false_of_not_eq_true hv
  | videoFrameChanged mapped pixelsMapped frame pixels =>
    obtain hsame | ⟨hr, hchanged⟩ :=
      videoFrameChanged_cases frame (copyCameraFrame mapped pixelsMapped frame pixels).1 s
    · left
      rwa [QtCameraCapture.handle, hsame]
    · right
      rwa [QtCameraCapture.handle, hchanged]
  | cameraErrorOccurred message => cases he

/-! ### Whether it runs -/

lemma Sound.running_iff (h : Sound started s) (hr : s.requested = true) :
    s.running = true ↔ usable (s.selected defaultVideoInput) = true := by
  rw [h.running, hr, Bool.true_and, QtCameraCapture.selected]
  cases hc : s.camera with
  | none =>
    obtain ⟨hs, hnone⟩ := h.unplugged hr hc
    rw [if_pos hs, hnone]
    exact Iff.rfl
  | some camera =>
    refine iff_of_true rfl ?_
    by_cases hs : s.hasDeviceSelection = true
    · rw [if_pos hs, h.device camera hc hs]
      exact h.format camera hc
    · rw [if_neg hs]
      exact h.format camera hc

lemma Sound.not_running (h : Sound started s) (hr : s.requested = false) : ¬s.running = true := by
  rw [h.running, hr]
  exact Bool.false_ne_true

lemma not_running_of_none (hc : s.camera = none) : ¬s.running = true := by
  rw [QtCameraCapture.running, hc]
  exact Bool.false_ne_true

lemma selected_of_none (hc : s.camera = none) : s.selected defaultVideoInput = s.candidate defaultVideoInput := by
  rw [QtCameraCapture.selected, QtCameraCapture.candidate, hc]
  rfl

lemma selected_of_some {camera : QCamera} (hc : s.camera = some camera)
    (other : Option QCameraDevice) : s.selected defaultVideoInput = s.selected other := by
  rw [QtCameraCapture.selected, QtCameraCapture.selected, hc]
  rfl

def Runs (started : Bool) (defaultVideoInput : Option QCameraDevice) (s : QtCameraCapture) : Prop :=
  s.running = true ↔ started = true ∧ usable (s.selected defaultVideoInput) = true

lemma Sound.runs_of_requested (h : Sound true s) (hr : s.requested = true) : Runs true defaultVideoInput s := by
  rw [Runs, h.running_iff hr]
  exact (and_iff_right rfl).symm

lemma Sound.runs_setDevice (h : Sound started s) (hruns : Runs started defaultVideoInput s)
    (device : Option QCameraDevice) :
    (¬(s.hasDeviceSelection = true ∧ s.device = device) → usable device = true → started = true →
      s.requested = true) ↔ Runs started defaultVideoInput (s.setDevice device) := by
  by_cases hsame : s.hasDeviceSelection = true ∧ s.device = device
  · rw [setDevice_same hsame]
    exact iff_of_true (fun hdiffers => absurd hsame hdiffers) hruns
  cases hr : s.requested with
  | true =>
    obtain rfl := h.requested hr
    refine iff_of_true (fun _ _ _ => rfl) ?_
    obtain ⟨husable, camera, hd, he⟩ | ⟨husable, message, he⟩ := setDevice_restarted hsame hr
    · rw [he]
      exact iff_of_true rfl ⟨rfl, husable⟩
    · rw [he]
      refine iff_of_false (not_running_of_none rfl) (fun hon => ?_)
      exact Bool.false_ne_true (husable.symm.trans hon.2)
  | false =>
    rw [setDevice_idle hsame hr]
    have hoff : ¬(s.replaced device).running = true := not_running_of_none rfl
    rw [Runs, iff_false_left hoff]
    constructor
    · intro hremembers hon
      exact Bool.false_ne_true (hremembers hsame hon.2 hon.1)
    · intro hforgot _ husable hstarted
      exact absurd ⟨hstarted, husable⟩ hforgot

lemma Sound.runs_prepare (h : Sound started s) {before : Option QCameraDevice} (hruns : Runs started before s)
    (defaultVideoInput : Option QCameraDevice) :
    (s.hasDeviceSelection = false → s.camera = none → usable defaultVideoInput = true → started = true →
      s.requested = true) ↔ Runs started defaultVideoInput (s.prepare defaultVideoInput) := by
  obtain ⟨camera, hc, he⟩ | ⟨hc, husable, message, he⟩ | ⟨hc, husable, camera, hd, ha, he⟩ :=
    prepare_cases defaultVideoInput s
  · rw [he, Runs, selected_of_some hc before]
    refine iff_of_true (fun _ hnone => ?_) hruns
    rw [hc] at hnone
    cases hnone
  · rw [he]
    refine iff_of_true (fun hs _ hu _ => ?_) (iff_of_false (not_running_of_none hc) (fun hon => ?_))
    · rw [QtCameraCapture.candidate, hs] at husable
      exact absurd (husable.symm.trans hu) Bool.false_ne_true
    · rw [selected_of_none (s := s.put _) hc] at hon
      exact Bool.false_ne_true (husable.symm.trans hon.2)
  · have hprepared := h.withCamera hc hd husable ha
    rw [he, Runs]
    have hoff : ¬QtCameraCapture.running { s with camera := some camera } = true :=
      fun hon => Bool.false_ne_true (ha.symm.trans hon)
    have hr : s.requested = false := (hprepared.active camera rfl).symm.trans ha
    have hcandidate : s.candidate before = some camera.device → ¬started = true := by
      intro hb hstarted
      apply not_running_of_none hc
      apply hruns.mpr
      rw [selected_of_none hc, hb]
      exact ⟨hstarted, hd ▸ husable⟩
    rw [iff_false_left hoff]
    by_cases hs : s.hasDeviceSelection = true
    · refine iff_of_true (fun hno => ?_) (fun hon => hcandidate ?_ hon.1)
      · rw [hs] at hno
        cases hno
      · rw [QtCameraCapture.candidate, if_pos hs] at hd ⊢
        exact hd
    · rw [QtCameraCapture.candidate, if_neg hs] at hd husable
      have hselected : QtCameraCapture.selected defaultVideoInput { s with camera := some camera } =
          defaultVideoInput := by
        rw [QtCameraCapture.selected, if_neg hs, hd]
        rfl
      rw [hselected, hr]
      constructor
      · intro hremembers hon
        exact Bool.false_ne_true (hremembers (Bool.eq_false_of_not_eq_true hs) hc hon.2 hon.1)
      · intro hforgot _ _ _ hstarted
        exact absurd ⟨hstarted, husable⟩ hforgot

lemma Sound.runs_start (h : Sound started s) (defaultVideoInput : Option QCameraDevice) :
    Runs true defaultVideoInput (s.start defaultVideoInput) := by
  have hstarted : Sound true (s.start defaultVideoInput) := h.start defaultVideoInput
  cases hr : s.requested with
  | true =>
    apply hstarted.runs_of_requested
    rwa [QtCameraCapture.start, if_pos hr]
  | false =>
    obtain ⟨camera, -, he⟩ | ⟨hc, husable, message, he⟩ | ⟨-, -, camera, -, he⟩ := start_cases defaultVideoInput hr
    · exact hstarted.runs_of_requested (by rw [he])
    · rw [he]
      refine iff_of_false (not_running_of_none hc) (fun hon => ?_)
      rw [selected_of_none (s := s.put _) hc] at hon
      exact Bool.false_ne_true (husable.symm.trans hon.2)
    · exact hstarted.runs_of_requested (by rw [he])

lemma Sound.runs_stop (h : Sound started s) : Runs false defaultVideoInput s.stop := by
  refine iff_of_false (h.stop.not_running rfl) (fun hon => ?_)
  cases hon.1

lemma runs_videoFrameChanged (hruns : Runs started defaultVideoInput s) (frame copied : QVideoFrame) :
    Runs started defaultVideoInput (s.videoFrameChanged frame copied) := by
  obtain he | ⟨-, he⟩ := videoFrameChanged_cases frame copied s
  · rwa [he]
  · rw [he]
    exact hruns

end

lemma sound_captureStep {s : Watched} {e : CaptureEvent} (h : Sound s.started s.capture)
    (he : e.isCameraError = false) : Sound (captureStep s e).started (captureStep s e).capture := by
  have hemptied : Sound s.started { s.capture with outputs := [] } :=
    ⟨h.requested, h.active, h.format, h.device, h.unplugged, h.latest⟩
  cases e with
  | setDevice device => exact hemptied.setDevice device
  | prepare defaultVideoInput => exact hemptied.prepare defaultVideoInput
  | start defaultVideoInput => exact hemptied.start defaultVideoInput
  | stop => exact hemptied.stop
  | takeFrame => exact hemptied.takeFrame
  | videoFrameChanged mapped pixelsMapped frame pixels => exact hemptied.videoFrameChanged _ _
  | cameraErrorOccurred message => cases he

lemma runs_captureStep {s : Watched} {e : CaptureEvent} (h : Sound s.started s.capture)
    (he : e.isCameraError = false) (hruns : Runs s.started s.defaultVideoInput s.capture) :
    Remembers s e ↔
      Runs (captureStep s e).started (captureStep s e).defaultVideoInput (captureStep s e).capture := by
  have hemptied : Sound s.started { s.capture with outputs := [] } :=
    ⟨h.requested, h.active, h.format, h.device, h.unplugged, h.latest⟩
  have hruns : Runs s.started s.defaultVideoInput { s.capture with outputs := [] } := hruns
  cases e with
  | setDevice device => exact hemptied.runs_setDevice hruns device
  | prepare defaultVideoInput => exact hemptied.runs_prepare hruns defaultVideoInput
  | start defaultVideoInput => exact iff_of_true trivial (hemptied.runs_start defaultVideoInput)
  | stop => exact iff_of_true trivial hemptied.runs_stop
  | takeFrame => exact iff_of_true trivial hruns
  | videoFrameChanged mapped pixelsMapped frame pixels =>
    exact iff_of_true trivial (runs_videoFrameChanged hruns _ _)
  | cameraErrorOccurred message => cases he

lemma frames_captureStep {s : Watched} {e : CaptureEvent} (h : Sound s.started s.capture)
    (he : e.isCameraError = false) (frame : QVideoFrame)
    (hf : .frameReady frame ∈ (captureStep s e).capture.outputs ∨ .taken frame ∈ (captureStep s e).capture.outputs)
    (hv : frame.isValid = true) : (captureStep s e).started = true := by
  have hemptied : Sound s.started { s.capture with outputs := [] } :=
    ⟨h.requested, h.active, h.format, h.device, h.unplugged, h.latest⟩
  obtain hquiet | hon := hemptied.quiet_or_on rfl e he
  · exact absurd ((hquiet frame hf).symm.trans hv) Bool.false_ne_true
  · exact (sound_captureStep h he).requested hon

lemma followed_captureStep {s : Watched} {e : CaptureEvent} (h : Sound s.started s.capture)
    (he : e.isCameraError = false) (hfollowed : Followed s) : Remembers s e ↔ Followed (captureStep s e) := by
  rw [runs_captureStep h he hfollowed.running]
  exact ⟨fun hruns => ⟨hruns, frames_captureStep h he⟩, fun hfollowed => hfollowed.running⟩

theorem camera_followed_iff (es : List CaptureEvent) (herrors : ∀ e ∈ es, e.isCameraError = false) :
    Each captureStep Remembers {} es ↔ Each captureStep (fun s e => Followed (captureStep s e)) {} es := by
  have hrun : Each captureStep (fun _ e => e.isCameraError = false) {} es := by
    refine (each_true.and_mem herrors).imp (I := fun _ => True) trivial (fun _ _ _ _ => trivial) ?_
    exact fun _ _ _ he => he.2
  have hfirst : Followed {} := ⟨iff_of_false nofun nofun, fun frame hf => hf.elim nofun nofun⟩
  refine hrun.iff_kept (G := fun s => Sound s.started s.capture) ⟨nofun, nofun, nofun, nofun, nofun, nofun⟩ hfirst ?_
  exact fun s e h he => ⟨sound_captureStep h he, followed_captureStep h he⟩

def frontCamera : QCameraDevice := ⟨[102], [⟨.nv12, 1280, 720, 30, 30⟩]⟩

theorem camera_followed_sample :
    Each captureStep Remembers {} [.start (some frontCamera), .setDevice none, .setDevice (some frontCamera), .stop] ↔
      Each captureStep (fun s e => Followed (captureStep s e)) {}
        [.start (some frontCamera), .setDevice none, .setDevice (some frontCamera), .stop] :=
  camera_followed_iff _ (by decide)

/-- The camera is asked for while none is there, and does not run when one is selected. -/
theorem camera_not_followed : ¬∀ es : List CaptureEvent, (∀ e ∈ es, e.isCameraError = false) →
    Each captureStep (fun s e => Followed (captureStep s e)) {} es := by
  intro h
  have hrun := h [.setDevice none, .start none, .setDevice (some frontCamera)] (by decide)
  have hfollowed : Followed (after captureStep {} [.setDevice none, .start none, .setDevice (some frontCamera)]) :=
    hrun.2.2.1
  have hruns := hfollowed.running.mpr ⟨by decide, by decide⟩
  exact absurd hruns (by decide)

end ChatDesktop.Voip.Camera
