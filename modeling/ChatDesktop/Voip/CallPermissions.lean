import ChatDesktop.Library.Reactive
import ChatDesktop.Library.Text
import ChatDesktop.Voip.CameraFrame
import Mathlib.Data.List.Nodup
import Mathlib.Data.List.Perm.Basic

namespace ChatDesktop.Voip.CallPermissions

open Library Library.Text Library.Reactive

inductive PermissionStatus
  | undetermined
  | granted
  | denied
  deriving DecidableEq

inductive Permission
  | microphone
  | camera
  deriving DecidableEq

inductive Action
  | execute (receiver : Text) (video : Bool)
  | prepare
  | acceptCall
  deriving DecidableEq

structure Completion where
  number : ℕ
  video : Bool
  action : Action
  deriving DecidableEq

def Completion.needs (completion : Completion) : List Permission :=
  if completion.video then [.microphone, .camera] else [.microphone]

/-- `asked` is a call of `withCallPermissions`, `told` what `checkPermission` or the user says for it, and `ran` the
call of its action; `prepareIncoming`, `declineCall` and `endCall` are calls of the use case, the others signals. -/
inductive Happening
  | asked (completion : Completion)
  | told (number : ℕ) (permission : Permission) (status : PermissionStatus)
  | ran (completion : Completion)
  | prepareIncoming
  | declineCall
  | endCall
  | callFailed (reason : Text)
  | callWindowRequested (receiverId userName : Text)
  | proposeReceived (sender : Text) (video : Bool)
  | connectionStateChanged
  | localVideoFrameChanged
  | remoteVideoFrameChanged
  deriving DecidableEq

structure Dialog where
  permission : Permission
  request : ℕ
  completion : Completion

structure CallVM where
  permissionRequest : ℕ := 0
  receiverId : Text := []
  userName : Text := []
  connectionState : Text := []
  incomingVideo : Bool := false
  acceptRemoteVideo : Bool := false
  localVideoFrame : Camera.QVideoFrame := { isValid := false }
  remoteVideoFrame : Camera.QVideoFrame := { isValid := false }
  dialogs : List Dialog := []
  completions : ℕ := 0
  history : List Happening := []

abbrev System := Permission → PermissionStatus

def denied : Permission → Text
  | .microphone =>
    ofAscii "Microphone access is denied. Allow microphone access in system settings to make calls."
  | .camera => ofAscii "Camera access is denied. Allow camera access in system settings to make video calls."

def required : Permission → Text
  | .microphone => ofAscii "Microphone access is required for calls."
  | .camera => ofAscii "Camera access is required for video calls."

namespace CallVM

def put (h : Happening) (s : CallVM) : CallVM := { s with history := s.history ++ [h] }

def complete (completion : Completion) (s : CallVM) : CallVM :=
  { s with acceptRemoteVideo := true }.put (.ran completion)

def checkPermission (system : System) (permission : Permission) (request : ℕ) (completion : Completion)
    (onGranted : CallVM → CallVM) (s : CallVM) : CallVM :=
  let s := s.put (.told completion.number permission (system permission))
  match system permission with
  | .granted => onGranted s
  | .denied => s.put (.callFailed (denied permission))
  | .undetermined => { s with dialogs := s.dialogs ++ [⟨permission, request, completion⟩] }

/-- The function that `withCallPermissions` gives to `withMicrophonePermission`. -/
def microphoneGranted (system : System) (completion : Completion) (s : CallVM) : CallVM :=
  if !completion.video then s.complete completion
  else s.checkPermission system .camera s.permissionRequest completion (complete completion)

def withMicrophonePermission (system : System) (completion : Completion) (s : CallVM) : CallVM :=
  let s := { s with permissionRequest := s.permissionRequest + 1 }
  s.checkPermission system .microphone s.permissionRequest completion (microphoneGranted system completion)

def withCallPermissions (system : System) (video : Bool) (action : Action) (s : CallVM) : CallVM :=
  let completion : Completion := ⟨s.completions, video, action⟩
  let s := { s with completions := s.completions + 1 }.put (.asked completion)
  s.withMicrophonePermission system completion

def answered (system : System) (i : ℕ) (status : PermissionStatus) (s : CallVM) : CallVM :=
  match s.dialogs[i]? with
  | none => s
  | some dialog =>
    let s := { s with dialogs := s.dialogs.eraseIdx i }.put (.told dialog.completion.number dialog.permission status)
    if dialog.request ≠ s.permissionRequest then s
    else if status = .granted then
      match dialog.permission with
      | .microphone => s.microphoneGranted system dialog.completion
      | .camera => s.complete dialog.completion
    else s.put (.callFailed (required dialog.permission))

def startCall (system : System) (video : Bool) (s : CallVM) : CallVM :=
  if (trimmed s.receiverId).isEmpty then
    s.put (.callFailed (ofAscii "Cannot start call: no recipient or call service"))
  else s.withCallPermissions system video (.execute s.receiverId video)

def requestCall (system : System) (receiverId userName : Text) (s : CallVM) : CallVM :=
  if (trimmed receiverId).isEmpty then s
  else
    let s := { s with
      permissionRequest := s.permissionRequest + 1, receiverId := receiverId, userName := userName }
    (s.put (.callWindowRequested receiverId userName)).withCallPermissions system true .prepare

def accept (system : System) (s : CallVM) : CallVM := s.withCallPermissions system s.incomingVideo .acceptCall

def declineCall (s : CallVM) : CallVM :=
  { s with permissionRequest := s.permissionRequest + 1 }.put .declineCall

def reset (s : CallVM) : CallVM :=
  let s := { s with acceptRemoteVideo := false, localVideoFrame := { isValid := false } }.put .localVideoFrameChanged
  let s := { s with remoteVideoFrame := { isValid := false } }.put .remoteVideoFrameChanged
  let s := { s with permissionRequest := s.permissionRequest + 1 }.put .endCall
  let s := if s.connectionState.isEmpty then s else { s with connectionState := [] }.put .connectionStateChanged
  { s with incomingVideo := false, receiverId := [], userName := [] }

def proposeReceived (sender : Text) (video : Bool) (s : CallVM) : CallVM :=
  ({ s with incomingVideo := video }.put .prepareIncoming).put (.proposeReceived sender video)

def localVideoFrameReady (frame : Camera.QVideoFrame) (s : CallVM) : CallVM :=
  if s.acceptRemoteVideo then { s with localVideoFrame := frame }.put .localVideoFrameChanged else s

def remoteVideoFrameReady (frame : Camera.QVideoFrame) (s : CallVM) : CallVM :=
  if s.acceptRemoteVideo then { s with remoteVideoFrame := frame }.put .remoteVideoFrameChanged else s

def setConnectionState (state : Text) (s : CallVM) : CallVM :=
  if state = s.connectionState then s else { s with connectionState := state }.put .connectionStateChanged

end CallVM

inductive CallEvent
  | startCall (system : System) (video : Bool)
  | requestCall (system : System) (receiverId userName : Text)
  | accept (system : System)
  | declineCall
  | reset
  | answered (system : System) (dialog : ℕ) (status : PermissionStatus)
  | proposeReceived (sender : Text) (video : Bool)
  | localVideoFrameReady (frame : Camera.QVideoFrame)
  | remoteVideoFrameReady (frame : Camera.QVideoFrame)
  | setConnectionState (state : Text)

def callStep (s : CallVM) : CallEvent → CallVM
  | .startCall system video => s.startCall system video
  | .requestCall system receiverId userName => s.requestCall system receiverId userName
  | .accept system => s.accept system
  | .declineCall => s.declineCall
  | .reset => s.reset
  | .answered system dialog status => s.answered system dialog status
  | .proposeReceived sender video => s.proposeReceived sender video
  | .localVideoFrameReady frame => s.localVideoFrameReady frame
  | .remoteVideoFrameReady frame => s.remoteVideoFrameReady frame
  | .setConnectionState state => s.setConnectionState state

/-! ### One shot for each request -/

def Happening.askedNumber : Happening → Option ℕ
  | .asked completion => some completion.number
  | _ => none

def Happening.ranNumber : Happening → Option ℕ
  | .ran completion => some completion.number
  | _ => none

def Happening.revokes : Happening → Bool
  | .asked _ => true
  | .declineCall => true
  | .endCall => true
  | _ => false

structure Standing (history : List Happening) (completion : Completion) (permissions : List Permission) : Prop where
  since : ∃ before since, history = before ++ .asked completion :: since ∧ (∀ h ∈ since, h.revokes = false) ∧
    ∀ permission ∈ permissions, .told completion.number permission .granted ∈ since
  fresh : completion.number ∉ history.filterMap Happening.ranNumber

structure OneShot (history : List Happening) : Prop where
  distinct : (history.filterMap Happening.askedNumber).Nodup
  once : (history.filterMap Happening.ranNumber).Nodup
  allowed : ∀ before completion, before ++ [.ran completion] <+: history →
    Standing before completion completion.needs

section

variable {history : List Happening} {completion : Completion} {permissions : List Permission} {h : Happening}

lemma filterMap_concat_none {number : Happening → Option ℕ} (hn : number h = none) :
    (history ++ [h]).filterMap number = history.filterMap number := by
  rw [List.filterMap_append, List.filterMap_cons_none hn, List.filterMap_nil, List.append_nil]

lemma filterMap_concat_some {number : Happening → Option ℕ} {n : ℕ} (hn : number h = some n) :
    (history ++ [h]).filterMap number = history.filterMap number ++ [n] := by
  rw [List.filterMap_append, List.filterMap_cons_some hn, List.filterMap_nil]

lemma Standing.put (hs : Standing history completion permissions) (hrevokes : h.revokes = false)
    (hran : h.ranNumber = none) : Standing (history ++ [h]) completion permissions := by
  obtain ⟨before, since, hhistory, hquiet, htold⟩ := hs.since
  refine ⟨⟨before, since ++ [h], ?_, fun h' hmem => ?_, fun permission hp => ?_⟩, ?_⟩
  · rw [hhistory, List.append_assoc, List.cons_append]
  · obtain hmem | hmem := List.mem_append.mp hmem
    · exact hquiet h' hmem
    · rwa [List.mem_singleton.mp hmem]
  · exact List.mem_append_left _ (htold permission hp)
  · rw [filterMap_concat_none hran]
    exact hs.fresh

lemma Standing.told (hs : Standing history completion permissions) (permission : Permission) :
    Standing (history ++ [.told completion.number permission .granted]) completion (permissions ++ [permission]) := by
  obtain ⟨before, since, hhistory, hquiet, htold⟩ := hs.since
  refine ⟨⟨before, since ++ [.told completion.number permission .granted], ?_, fun h' hmem => ?_, fun p hp => ?_⟩,
    (hs.put rfl rfl).fresh⟩
  · rw [hhistory, List.append_assoc, List.cons_append]
  · obtain hmem | hmem := List.mem_append.mp hmem
    · exact hquiet h' hmem
    · rw [List.mem_singleton.mp hmem]
      rfl
  · obtain hp | hp := List.mem_append.mp hp
    · exact List.mem_append_left _ (htold p hp)
    · rw [List.mem_singleton.mp hp]
      exact List.mem_append_right _ List.mem_cons_self

lemma Standing.mem (hs : Standing history completion permissions) :
    completion.number ∈ history.filterMap Happening.askedNumber := by
  obtain ⟨before, since, hhistory, -, -⟩ := hs.since
  apply List.mem_filterMap.mpr
  refine ⟨.asked completion, ?_, rfl⟩
  rw [hhistory]
  exact List.mem_append_right _ List.mem_cons_self

lemma standing_asked (hfresh : completion.number ∉ history.filterMap Happening.ranNumber) :
    Standing (history ++ [.asked completion]) completion [] := by
  refine ⟨⟨history, [], rfl, nofun, nofun⟩, ?_⟩
  rwa [filterMap_concat_none rfl]

lemma OneShot.put (hs : OneShot history) (hasked : h.askedNumber = none) (hran : h.ranNumber = none) :
    OneShot (history ++ [h]) := by
  refine ⟨?_, ?_, fun before completion hp => ?_⟩
  · rw [filterMap_concat_none hasked]
    exact hs.distinct
  · rw [filterMap_concat_none hran]
    exact hs.once
  · obtain he | hp := List.prefix_concat_iff.mp hp
    · obtain rfl := List.head_eq_of_cons_eq (List.append_inj' he rfl).2
      cases hran
    · exact hs.allowed before completion hp

lemma OneShot.asked (hs : OneShot history)
    (hfresh : completion.number ∉ history.filterMap Happening.askedNumber) :
    OneShot (history ++ [.asked completion]) := by
  refine ⟨?_, ?_, fun before c hp => ?_⟩
  · rw [filterMap_concat_some (n := completion.number) rfl]
    rw [← List.concat_eq_append]
    exact List.Nodup.concat hfresh hs.distinct
  · rw [filterMap_concat_none rfl]
    exact hs.once
  · obtain he | hp := List.prefix_concat_iff.mp hp
    · cases (List.append_inj' he rfl).2
    · exact hs.allowed before c hp

lemma OneShot.ran (hs : OneShot history) (hstanding : Standing history completion completion.needs) :
    OneShot (history ++ [.ran completion]) := by
  refine ⟨?_, ?_, fun before c hp => ?_⟩
  · rw [filterMap_concat_none rfl]
    exact hs.distinct
  · rw [filterMap_concat_some (n := completion.number) rfl]
    rw [← List.concat_eq_append]
    exact List.Nodup.concat hstanding.fresh hs.once
  · obtain he | hp := List.prefix_concat_iff.mp hp
    · obtain ⟨rfl, he⟩ := List.append_inj' he rfl
      obtain rfl : c = completion := by simpa using he
      exact hstanding
    · exact hs.allowed before c hp

end

def Permission.before : Permission → List Permission
  | .microphone => []
  | .camera => [.microphone]

/-- The requests of the history and the dialogs that are open. -/
structure Kept (history : List Happening) (dialogs : List Dialog) (request completions : ℕ) : Prop where
  asked : ∀ n ∈ history.filterMap Happening.askedNumber, n < completions
  ran : ∀ n ∈ history.filterMap Happening.ranNumber, n < completions
  oneShot : OneShot history
  requests : ∀ d ∈ dialogs, d.request ≤ request
  single : (dialogs.map Dialog.request).Nodup
  current : ∀ d ∈ dialogs, d.request = request →
    Standing history d.completion d.permission.before ∧ (d.permission = .camera → d.completion.video = true)

namespace CallVM

abbrev Sound (s : CallVM) : Prop := Kept s.history s.dialogs s.permissionRequest s.completions

abbrev Idle (s : CallVM) : Prop := ∀ d ∈ s.dialogs, d.request ≠ s.permissionRequest

variable {s : CallVM} {completion : Completion} {h : Happening}

lemma Sound.put (hs : s.Sound) (hasked : h.askedNumber = none) (hran : h.ranNumber = none)
    (hrevokes : s.Idle ∨ h.revokes = false) : (s.put h).Sound := by
  refine ⟨?_, ?_, hs.oneShot.put hasked hran, hs.requests, hs.single, fun d hd he => ?_⟩
  · rw [CallVM.put, filterMap_concat_none hasked]
    exact hs.asked
  · rw [CallVM.put, filterMap_concat_none hran]
    exact hs.ran
  · obtain hidle | hrevokes := hrevokes
    · exact absurd he (hidle d hd)
    · exact ⟨(hs.current d hd he).1.put hrevokes hran, (hs.current d hd he).2⟩

lemma Sound.raised (hs : s.Sound) :
    { s with permissionRequest := s.permissionRequest + 1 }.Sound ∧
      { s with permissionRequest := s.permissionRequest + 1 }.Idle := by
  have hidle : ∀ d ∈ s.dialogs, d.request ≠ s.permissionRequest + 1 :=
    fun d hd he => absurd (hs.requests d hd) (by omega)
  exact ⟨⟨hs.asked, hs.ran, hs.oneShot, fun d hd => (hs.requests d hd).trans (Nat.le_succ _), hs.single,
    fun d hd he => absurd he (hidle d hd)⟩, hidle⟩

lemma Sound.complete (hs : s.Sound) (hidle : s.Idle)
    (hstanding : Standing s.history completion completion.needs) : (s.complete completion).Sound := by
  refine ⟨?_, ?_, hs.oneShot.ran hstanding, hs.requests, hs.single, fun d hd he => absurd he (hidle d hd)⟩
  · rw [CallVM.complete, CallVM.put, filterMap_concat_none rfl]
    exact hs.asked
  · rw [CallVM.complete, CallVM.put, filterMap_concat_some (n := completion.number) rfl]
    intro n hn
    obtain hn | hn := List.mem_append.mp hn
    · exact hs.ran n hn
    · rw [List.mem_singleton.mp hn]
      exact hs.asked _ hstanding.mem

lemma Sound.checkPermission (hs : s.Sound) (hidle : s.Idle) (system : System) {permission : Permission}
    {onGranted : CallVM → CallVM} (hstanding : Standing s.history completion permission.before)
    (hvideo : permission = .camera → completion.video = true)
    (hgranted : ∀ s' : CallVM, s'.Sound → s'.Idle →
      Standing s'.history completion (permission.before ++ [permission]) → (onGranted s').Sound) :
    (s.checkPermission system permission s.permissionRequest completion onGranted).Sound := by
  have htold : (s.put (.told completion.number permission (system permission))).Sound := hs.put rfl rfl (.inr rfl)
  rw [CallVM.checkPermission]
  cases hp : system permission with
  | granted =>
    rw [hp] at htold
    exact hgranted _ htold hidle (hstanding.told permission)
  | denied =>
    rw [hp] at htold
    exact htold.put rfl rfl (.inl hidle)
  | undetermined =>
    rw [hp] at htold
    refine ⟨htold.asked, htold.ran, htold.oneShot, fun d hd => ?_, ?_, fun d hd he => ?_⟩
    · obtain hd | hd := List.mem_append.mp hd
      · exact hs.requests d hd
      · rw [List.mem_singleton.mp hd]
        exact le_refl _
    · rw [List.map_append, List.map_singleton, ← List.concat_eq_append]
      refine List.Nodup.concat (fun hmem => ?_) hs.single
      obtain ⟨d, hd, he⟩ := List.mem_map.mp hmem
      exact hidle d hd he
    · obtain hd | hd := List.mem_append.mp hd
      · exact absurd he (hidle d hd)
      · rw [List.mem_singleton.mp hd]
        exact ⟨hstanding.put rfl rfl, hvideo⟩

lemma Sound.microphoneGranted (hs : s.Sound) (hidle : s.Idle) (system : System)
    (hstanding : Standing s.history completion [.microphone]) :
    (s.microphoneGranted system completion).Sound := by
  rw [CallVM.microphoneGranted]
  cases hv : completion.video with
  | false =>
    have hneeds : completion.needs = [.microphone] := by
      rw [Completion.needs, hv]
      rfl
    exact hs.complete hidle (hneeds ▸ hstanding)
  | true =>
    have hneeds : completion.needs = [.microphone, .camera] := by
      rw [Completion.needs, hv]
      rfl
    refine hs.checkPermission hidle system hstanding (fun _ => hv) (fun s' hs' hidle' hgranted => ?_)
    exact hs'.complete hidle' (hneeds ▸ hgranted)

lemma Sound.withCallPermissions (hs : s.Sound) (system : System) (video : Bool) (action : Action) :
    (s.withCallPermissions system video action).Sound := by
  have hfresh : s.completions ∉ s.history.filterMap Happening.askedNumber := fun hn => Nat.lt_irrefl _ (hs.asked _ hn)
  have hunused : s.completions ∉ s.history.filterMap Happening.ranNumber := fun hn => Nat.lt_irrefl _ (hs.ran _ hn)
  obtain ⟨hraised, hidle⟩ := hs.raised
  have hasked : Kept (s.history ++ [.asked ⟨s.completions, video, action⟩]) s.dialogs (s.permissionRequest + 1)
      (s.completions + 1) := by
    refine ⟨?_, ?_, hs.oneShot.asked hfresh, hraised.requests, hs.single, fun d hd he => absurd he (hidle d hd)⟩
    · rw [filterMap_concat_some (n := s.completions) rfl]
      intro n hn
      obtain hn | hn := List.mem_append.mp hn
      · exact Nat.lt_succ_of_lt (hs.asked n hn)
      · rw [List.mem_singleton.mp hn]
        exact Nat.lt_succ_self _
    · rw [filterMap_concat_none rfl]
      exact fun n hn => Nat.lt_succ_of_lt (hs.ran n hn)
  rw [CallVM.withCallPermissions, CallVM.withMicrophonePermission]
  refine Sound.checkPermission (s := { s with
    permissionRequest := s.permissionRequest + 1, completions := s.completions + 1,
    history := s.history ++ [.asked ⟨s.completions, video, action⟩] }) hasked hidle system (standing_asked hunused)
    (fun hp => by cases hp) (fun s' hs' hidle' hgranted => ?_)
  exact hs'.microphoneGranted hidle' system hgranted

lemma Sound.answered (hs : s.Sound) (system : System) (i : ℕ) (status : PermissionStatus) :
    (s.answered system i status).Sound := by
  rw [CallVM.answered]
  cases hd : s.dialogs[i]? with
  | none => exact hs
  | some dialog =>
    dsimp only
    obtain ⟨hi, hget⟩ := List.getElem?_eq_some_iff.mp hd
    have hperm := List.getElem_cons_eraseIdx_perm hi
    rw [hget] at hperm
    have hnodup := (hperm.map Dialog.request).nodup_iff.mpr hs.single
    obtain ⟨hother, hsingle⟩ := List.nodup_cons.mp hnodup
    have hmem : ∀ d ∈ s.dialogs.eraseIdx i, d ∈ s.dialogs := fun d => List.mem_of_mem_eraseIdx
    have herased : Kept s.history (s.dialogs.eraseIdx i) s.permissionRequest s.completions :=
      ⟨hs.asked, hs.ran, hs.oneShot, fun d hd => hs.requests d (hmem d hd), hsingle,
        fun d hd => hs.current d (hmem d hd)⟩
    have htold : ({ s with dialogs := s.dialogs.eraseIdx i }.put
        (.told dialog.completion.number dialog.permission status)).Sound :=
      Sound.put (s := { s with dialogs := s.dialogs.eraseIdx i }) herased rfl rfl (.inr rfl)
    split_ifs with hstale hstatus
    · exact htold
    · have hrequest : dialog.request = s.permissionRequest := not_not.mp hstale
      have hidle : ∀ d ∈ s.dialogs.eraseIdx i, d.request ≠ s.permissionRequest := by
        intro d hd he
        exact hother (hrequest ▸ he ▸ List.mem_map_of_mem hd)
      obtain ⟨hstanding, hvideo⟩ := hs.current dialog (List.mem_of_getElem? hd) hrequest
      have hgranted := hstanding.told dialog.permission
      rw [hstatus] at htold ⊢
      cases hp : dialog.permission with
      | microphone =>
        rw [hp] at hgranted htold
        exact htold.microphoneGranted hidle system hgranted
      | camera =>
        rw [hp] at hgranted htold
        have hneeds : dialog.completion.needs = [.microphone, .camera] := by
          rw [Completion.needs, hvideo hp]
          rfl
        exact htold.complete hidle (hneeds ▸ hgranted)
    · exact htold.put rfl rfl (.inr rfl)

lemma Sound.reset (hs : s.Sound) : s.reset.Sound := by
  have hframes : ((s.put .localVideoFrameChanged).put .remoteVideoFrameChanged).Sound :=
    (hs.put rfl rfl (.inr rfl)).put rfl rfl (.inr rfl)
  obtain ⟨hraised, hidle⟩ := hframes.raised
  have hended := hraised.put (h := .endCall) rfl rfl (.inl hidle)
  rw [CallVM.reset]
  split_ifs with hstate
  · exact hended
  · exact hended.put (h := .connectionStateChanged) rfl rfl (.inr rfl)

lemma Sound.requestCall (hs : s.Sound) (system : System) (receiverId userName : Text) :
    (s.requestCall system receiverId userName).Sound := by
  rw [CallVM.requestCall]
  split_ifs with hreceiver
  · exact hs
  · apply Sound.withCallPermissions
    exact hs.raised.1.put (h := .callWindowRequested receiverId userName) rfl rfl (.inr rfl)

lemma Sound.next (hs : s.Sound) (e : CallEvent) : (callStep s e).Sound := by
  cases e with
  | startCall system video =>
    rw [callStep, CallVM.startCall]
    split_ifs with hreceiver
    · exact hs.put rfl rfl (.inr rfl)
    · exact hs.withCallPermissions system video _
  | requestCall system receiverId userName => exact hs.requestCall system receiverId userName
  | accept system => exact hs.withCallPermissions system s.incomingVideo _
  | declineCall =>
    obtain ⟨hraised, hidle⟩ := hs.raised
    exact hraised.put (h := .declineCall) rfl rfl (.inl hidle)
  | reset => exact hs.reset
  | answered system dialog status => exact hs.answered system dialog status
  | proposeReceived sender video =>
    exact (hs.put (h := .prepareIncoming) rfl rfl (.inr rfl)).put (h := .proposeReceived sender video) rfl rfl
      (.inr rfl)
  | localVideoFrameReady frame =>
    rw [callStep, CallVM.localVideoFrameReady]
    split_ifs with haccept
    · exact hs.put (h := .localVideoFrameChanged) rfl rfl (.inr rfl)
    · exact hs
  | remoteVideoFrameReady frame =>
    rw [callStep, CallVM.remoteVideoFrameReady]
    split_ifs with haccept
    · exact hs.put (h := .remoteVideoFrameChanged) rfl rfl (.inr rfl)
    · exact hs
  | setConnectionState state =>
    rw [callStep, CallVM.setConnectionState]
    split_ifs with hstate
    · exact hs
    · exact hs.put (h := .connectionStateChanged) rfl rfl (.inr rfl)

end CallVM

lemma sound_initial : CallVM.Sound {} :=
  ⟨nofun, nofun, ⟨List.nodup_nil, List.nodup_nil, fun before completion hp => by simp at hp⟩, nofun, List.nodup_nil,
    nofun⟩

theorem call_permissions_one_shot (es : List CallEvent) : OneShot (after callStep {} es).history := by
  have hrun : Each callStep (fun _ _ => True) {} es := each_true
  have hsound : (after callStep {} es).Sound := hrun.invariant sound_initial fun s e hs _ => hs.next e
  exact hsound.oneShot

example : (after callStep {} [.requestCall (fun _ => .undetermined) (ofAscii "bob") (ofAscii "Bob"),
    .answered (fun _ => .undetermined) 0 .granted, .answered (fun _ => .granted) 0 .granted,
    .startCall (fun _ => .undetermined) false, .reset, .answered (fun _ => .granted) 0 .granted]).history.filterMap
      Happening.ranNumber = [0] := by decide

end ChatDesktop.Voip.CallPermissions
