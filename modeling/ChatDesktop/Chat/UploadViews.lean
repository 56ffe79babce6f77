import ChatDesktop.Chat.MessagingViewModel
import ChatDesktop.Library.Reactive
import Mathlib.Algebra.Order.Ring.Rat

namespace ChatDesktop.Chat

open Library Library.Reactive MessagingViewModel

namespace MessagingViewModel

def Event.isUpload : Event → Bool
  | .fileUploadStated .. => true
  | .setUploadProgress .. => true
  | .removeCanceledUpload .. => true
  | _ => false

end MessagingViewModel

/-- `progress` is that of the uploads in the table of the view model. -/
structure UploadViewModel where
  vm : MessagingViewModel
  progress : QString → ℚ := fun _ => 0
  settings : List (QString × ℚ × Bool) := []

structure ContentItem where
  msgType : MessageType
  body : QString
  fileName : QString
  fileSize : Int64
  duration : Int64
  contentIndex : ℕ := 0
  uploadProgress : ℚ
  isUploading : Bool
  deriving DecidableEq

namespace UploadViewModel

section

variable (D : Desktop)

def setUploadProgress (id : QString) (progress : ℚ) (uploading : Bool) (s : UploadViewModel) : UploadViewModel :=
  match s.vm.fileUploads.lookup id with
  | none => s
  | some upload =>
    if upload.canceled then s
    else
      let progress := max 0 (min progress 1)
      { vm := s.vm.setUploadProgress id uploading
        progress := Function.update s.progress id progress
        settings := s.settings ++ [(id, progress, uploading)] }

/-- `m_fileUploads.value(id)`; there is a message, or the upload is not in the table. -/
def value (id : QString) (s : UploadViewModel) : FileUpload × ℚ :=
  match s.vm.fileUploads.lookup id with
  | some upload => (upload, s.progress id)
  | none => (⟨[], false, false⟩, 0)

def fileUploadStated (id path : QString) (s : UploadViewModel) : UploadViewModel :=
  match s.vm.message.messages.reverse.find? (fun m => m.id = id || D.sameUrl m.body.content.mediaUrl path) with
  | none => s
  | some m =>
    { s with
      vm := s.vm.setUpload id ⟨m.id, true, false⟩
      progress := Function.update s.progress id 0 }.setUploadProgress id 0 true

def fileUploadProgress (id : QString) (progress : ℚ) (s : UploadViewModel) : UploadViewModel :=
  if !(s.value id).1.uploading then s else s.setUploadProgress id progress true

def fileUploadFinish (id : QString) (s : UploadViewModel) : UploadViewModel := s.setUploadProgress id 1 false

def fileUploadSettled (id : QString) (success : Bool) (s : UploadViewModel) : UploadViewModel :=
  s.setUploadProgress id (if success then 1 else (s.value id).2) false

def removeCanceledUpload (id : QString) (s : UploadViewModel) : UploadViewModel :=
  { s with vm := s.vm.removeCanceledUpload D id }

def sendingFinished (id : QString) (canceled : Bool) (error : QString) (s : UploadViewModel) : UploadViewModel :=
  if canceled then s.removeCanceledUpload D id
  else s.setUploadProgress id (if error.isEmpty then 1 else (s.value id).2) false

def attachmentsFinished (ids : List QString) (success : Bool) (s : UploadViewModel) : UploadViewModel :=
  ids.foldl (fun s id =>
    let upload := s.value id
    if upload.1.uploading then s.setUploadProgress id (if success then 1 else upload.2) false else s) s

/-! ### What a row shows -/

def uploadProgressRole (row : ℕ) (s : UploadViewModel) : Option ℚ := s.vm.message.messages[row]?.map (fun _ => 0)

def isUploadingRole (row : ℕ) (s : UploadViewModel) : Option Bool :=
  s.vm.message.messages[row]?.map (fun messaging =>
    match (D.hashOrder s.vm.fileUploads).find? (fun upload => upload.2.messageId = messaging.id) with
    | some upload => upload.2.uploading
    | none => false)

def candidate (messageId : QString) (s : UploadViewModel) : Option (QString × FileUpload) :=
  (D.hashOrder s.vm.fileUploads).find? (fun candidate => candidate.2.messageId = messageId)

def contentItem (item : Content) (progress : ℚ) (uploading : Bool) : ContentItem where
  msgType := item.type
  body := item.text
  fileName := item.fileName
  fileSize := item.fileSize
  duration := item.duration
  uploadProgress := progress
  isUploading := uploading

def contentsRole (row : ℕ) (s : UploadViewModel) : Option (List ContentItem) :=
  s.vm.message.messages[row]?.map (fun messaging =>
    let item := messaging.body.content
    match s.candidate D messaging.id with
    | none => [contentItem item 0 false]
    | some upload => if upload.2.canceled then [] else [contentItem item (s.progress upload.1) upload.2.uploading])

end

end UploadViewModel

inductive UploadEvent
  | fileUploadStated (id path : QString)
  | fileUploadProgress (id : QString) (progress : ℚ)
  | fileUploadFinish (id : QString)
  | fileUploadSettled (id : QString) (success : Bool)
  | fileUploadCanceled (id : QString)
  | sendingFinished (id : QString) (canceled : Bool) (error : QString)
  | attachmentsFinished (ids : List QString) (success : Bool)
  | other (e : {e : Event // e.isUpload = false})

namespace UploadViewModel

variable (D : Desktop)

def step (s : UploadViewModel) (e : Int × UploadEvent) : UploadViewModel :=
  let begun : UploadViewModel := { s with vm := { s.vm with log := [], now := e.1 } }
  match e.2 with
  | .fileUploadStated id path => begun.fileUploadStated D id path
  | .fileUploadProgress id progress => begun.fileUploadProgress id progress
  | .fileUploadFinish id => begun.fileUploadFinish id
  | .fileUploadSettled id success => begun.fileUploadSettled id success
  | .fileUploadCanceled id => begun.removeCanceledUpload D id
  | .sendingFinished id canceled error => begun.sendingFinished D id canceled error
  | .attachmentsFinished ids success => begun.attachmentsFinished ids success
  | .other event => { s with vm := MessagingViewModel.step D s.vm (e.1, event.1) }

def create (message : MessageResponse) : UploadViewModel := { vm := MessagingViewModel.create message }

def lastSet (id : QString) (s : UploadViewModel) : Option (ℚ × Bool) := s.settings.reverse.lookup id

/-- Both views of a row show the values that were set last for each upload of it that is not canceled. -/
def Agree (s : UploadViewModel) : Prop :=
  ∀ row messaging, s.vm.message.messages[row]? = some messaging →
    ∀ upload ∈ s.vm.fileUploads, upload.2.messageId = messaging.id → upload.2.canceled = false →
      ∃ item rest, s.contentsRole D row = some (item :: rest) ∧ s.uploadProgressRole row = some item.uploadProgress ∧
        s.isUploadingRole D row = some item.isUploading ∧
        s.lastSet upload.1 = some (item.uploadProgress, item.isUploading)

/-- No upload on screen that is not canceled has got anywhere, and the one that is found for its message, if it is
another one, is not canceled and goes on exactly if this one does. -/
def Fits (s : UploadViewModel) : Prop :=
  ∀ messaging ∈ s.vm.message.messages, ∀ upload ∈ s.vm.fileUploads, upload.2.messageId = messaging.id →
    upload.2.canceled = false → s.progress upload.1 = 0 ∧
      ∀ found, s.candidate D messaging.id = some found →
        found.2.canceled = false ∧ found.2.uploading = upload.2.uploading

end UploadViewModel

/-! ### Who changes the table -/

section

variable {D : Desktop} {s : MessagingViewModel}

lemma fileUploads_reconcile (row : ℕ) (incoming : List MessageItem) :
    (s.reconcile D row incoming).fileUploads = s.fileUploads := by
  induction incoming generalizing row s with
  | nil => rfl
  | cons item incoming ih =>
    rw [reconcile, ih, reconcileRow]
    split_ifs <;> rfl

lemma fileUploads_truncate (first : ℕ) : (s.truncate first).fileUploads = s.fileUploads := by
  rw [truncate]
  split_ifs <;> rfl

lemma fileUploads_resultReady (requestId : ℕ) (response : MessageResponse) :
    (s.resultReady D requestId response).fileUploads = s.fileUploads := by
  rw [resultReady, applyFetchedMessages]
  split_ifs
  · rfl
  · exact (fileUploads_truncate _).trans (fileUploads_reconcile 0 _)
  · rfl

lemma fileUploads_deleteMessage (rows : List Int) : (s.deleteMessage rows).fileUploads = s.fileUploads := by
  rw [deleteMessage]
  generalize (rows.mergeSort (fun a b => b ≤ a)).destutter (· ≠ ·) = rows
  induction rows generalizing s with
  | nil => rfl
  | cons row rows ih =>
    rw [List.foldl_cons, ih]
    split_ifs <;> rfl

lemma fileUploads_status (messageId : QString) (sending : Bool) :
    (s.updateMessageSeningStatus messageId sending).fileUploads = s.fileUploads := by
  rw [updateMessageSeningStatus]
  split <;> rfl

lemma fileUploads_fetchFinished (i : ℕ) (canceled : Bool) :
    (s.onFetchFinished D i canceled).fileUploads = s.fileUploads := by
  rw [onFetchFinished]
  cases s.fetches[i]? with
  | none => rfl
  | some fetch =>
    dsimp only
    split_ifs
    · exact fileUploads_resultReady _ _
    · exact fileUploads_resultReady _ _
    · rfl
    · rfl

lemma fileUploads_applyNextPage (nextPage : Int32) (response : MessageResponse) :
    (s.applyNextPage D nextPage response).fileUploads = s.fileUploads := by
  rw [applyNextPage]
  by_cases hpage : response.page < 1
  · rw [if_pos hpage]
  · rw [if_neg hpage]
    by_cases hcount : 0 < response.messages.length
    · simp only [if_pos hcount]
      rfl
    · simp only [if_neg hcount]
      rfl

lemma fileUploads_nextResult (i : ℕ) (response : MessageResponse) :
    (s.onNextResult D i response).fileUploads = s.fileUploads := by
  rw [onNextResult]
  cases s.nextPages[i]? with
  | none => rfl
  | some next =>
    dsimp only
    split_ifs
    · rfl
    · exact fileUploads_applyNextPage _ _

lemma fileUploads_handle (e : Event) (h : e.isUpload = false) : (s.handle D e).fileUploads = s.fileUploads := by
  cases e with
  | fetchMessage userId currentUserId => rfl
  | fetchResult i response =>
    rw [handle, onFetchResult]
    cases s.fetches[i]? with
    | none => rfl
    | some fetch => exact fileUploads_resultReady _ _
  | fetchFinished i canceled => exact fileUploads_fetchFinished i canceled
  | fetchNextMessage currentUserId =>
    rw [handle, fetchNextMessage]
    split_ifs <;> rfl
  | nextResult i response => exact fileUploads_nextResult i response
  | resetModel => rfl
  | messageReceived payload currentUserId =>
    rw [handle, messageReceived, onMessagedReceived]
    split_ifs <;> rfl
  | messageSent payload currentUserId =>
    rw [handle, messageSent, fileUploads_status]
    split_ifs <;> rfl
  | messageSendFinished messageId => exact fileUploads_status messageId false
  | messageUpdated payload =>
    rw [handle, messageUpdated]
    split <;> rfl
  | fileUploadStated id path => cases h
  | setUploadProgress id uploading => cases h
  | removeCanceledUpload id => cases h
  | deleteMessage rows => exact fileUploads_deleteMessage rows

lemma fileUploads_setUploadProgress {id : QString} {upload : FileUpload} (hl : s.fileUploads.lookup id = some upload)
    (hc : upload.canceled = false) (uploading : Bool) : (s.setUploadProgress id uploading).fileUploads =
      s.fileUploads.filter (fun u => u.1 ≠ id) ++ [(id, { upload with uploading := uploading })] := by
  rw [MessagingViewModel.setUploadProgress, hl]
  dsimp only
  rw [hc, if_neg Bool.false_ne_true]
  split <;> rfl

lemma fileUploads_removeCanceledUpload (id : QString) : (s.removeCanceledUpload D id).fileUploads = s.fileUploads ∨
    ∃ upload : FileUpload, (s.removeCanceledUpload D id).fileUploads =
      s.fileUploads.filter (fun u => u.1 ≠ id) ++ [(id, { upload with uploading := false, canceled := true })] := by
  rw [MessagingViewModel.removeCanceledUpload]
  cases s.fileUploads.lookup id with
  | none => exact .inl rfl
  | some upload =>
    dsimp only
    by_cases hc : upload.canceled = true
    · rw [if_pos hc]
      exact .inl rfl
    · rw [if_neg hc]
      refine .inr ⟨upload, ?_⟩
      split
      · rfl
      · split_ifs
        · exact fileUploads_deleteMessage _
        · rfl

end

namespace UploadViewModel

variable {D : Desktop} {s : UploadViewModel}

/-- The table is right for the uploads with the property. -/
structure Kept (uploads : List (QString × FileUpload)) (progress : QString → ℚ) (settings : List (QString × ℚ × Bool))
    (P : QString → Prop) : Prop where
  keys : (uploads.map Prod.fst).Nodup
  last : ∀ upload ∈ uploads, P upload.1 → upload.2.canceled = false →
    settings.reverse.lookup upload.1 = some (progress upload.1, upload.2.uploading)

abbrev Sound (s : UploadViewModel) : Prop := Kept s.vm.fileUploads s.progress s.settings (fun _ => True)

lemma nodup_replaced {uploads : List (QString × FileUpload)} (h : (uploads.map Prod.fst).Nodup) (id : QString)
    (upload : FileUpload) : ((uploads.filter (fun u => u.1 ≠ id) ++ [(id, upload)]).map Prod.fst).Nodup := by
  rw [List.map_append, List.map_singleton, ← List.concat_eq_append]
  refine List.Nodup.concat (fun hmem => ?_) (h.sublist (List.filter_sublist.map _))
  obtain ⟨u, hu, rfl⟩ := List.mem_map.mp hmem
  simpa using (List.mem_filter.mp hu).2

lemma lookup_concat (settings : List (QString × ℚ × Bool)) (id other : QString) (values : ℚ × Bool) :
    (settings ++ [(id, values)]).reverse.lookup other =
      if other = id then some values else settings.reverse.lookup other := by
  rw [List.reverse_concat']
  by_cases h : other = id
  · rw [h, if_pos rfl, List.lookup_cons_self]
  · rw [if_neg h, List.lookup_cons, beq_false_of_ne h]

lemma Kept.setUploadProgress {id : QString} {upload : FileUpload}
    (h : Kept s.vm.fileUploads s.progress s.settings (fun other => other ≠ id))
    (hl : s.vm.fileUploads.lookup id = some upload) (hc : upload.canceled = false) (progress : ℚ) (uploading : Bool) :
    (s.setUploadProgress id progress uploading).Sound := by
  have hset : s.setUploadProgress id progress uploading =
      { vm := s.vm.setUploadProgress id uploading
        progress := Function.update s.progress id (max 0 (min progress 1))
        settings := s.settings ++ [(id, max 0 (min progress 1), uploading)] } := by
    rw [UploadViewModel.setUploadProgress, hl]
    dsimp only
    rw [hc, if_neg Bool.false_ne_true]
  rw [Sound, hset]
  dsimp only
  refine ⟨?_, fun u hu _ hlive => ?_⟩
  · rw [fileUploads_setUploadProgress hl hc]
    exact nodup_replaced h.keys id _
  · rw [fileUploads_setUploadProgress hl hc] at hu
    rw [lookup_concat]
    obtain hu | hu := List.mem_append.mp hu
    · obtain ⟨hu, hne⟩ := List.mem_filter.mp hu
      have hother : u.1 ≠ id := of_decide_eq_true hne
      rw [if_neg hother, Function.update_of_ne hother]
      exact h.last u hu hother hlive
    · obtain rfl := List.mem_singleton.mp hu
      rw [if_pos rfl, Function.update_self]

lemma Sound.setUploadProgress (h : s.Sound) (id : QString) (progress : ℚ) (uploading : Bool) :
    (s.setUploadProgress id progress uploading).Sound := by
  cases hl : s.vm.fileUploads.lookup id with
  | none => rwa [UploadViewModel.setUploadProgress, hl]
  | some upload =>
    cases hc : upload.canceled with
    | true =>
      have hsame : s.setUploadProgress id progress uploading = s := by
        rw [UploadViewModel.setUploadProgress, hl]
        exact if_pos hc
      rwa [hsame]
    | false =>
      have hothers : Kept s.vm.fileUploads s.progress s.settings (fun other => other ≠ id) :=
        ⟨h.keys, fun u hu _ => h.last u hu trivial⟩
      exact hothers.setUploadProgress hl hc progress uploading

lemma Sound.removeCanceledUpload (h : s.Sound) (D : Desktop) (id : QString) : (s.removeCanceledUpload D id).Sound := by
  obtain hsame | ⟨upload, hremoved⟩ := fileUploads_removeCanceledUpload (D := D) (s := s.vm) id
  · refine ⟨?_, ?_⟩
    · rw [UploadViewModel.removeCanceledUpload, hsame]
      exact h.keys
    · rw [UploadViewModel.removeCanceledUpload, hsame]
      exact h.last
  · refine ⟨?_, fun u hu _ hlive => ?_⟩
    · rw [UploadViewModel.removeCanceledUpload, hremoved]
      exact nodup_replaced h.keys id _
    · rw [UploadViewModel.removeCanceledUpload, hremoved] at hu
      obtain hu | hu := List.mem_append.mp hu
      · exact h.last u (List.mem_filter.mp hu).1 trivial hlive
      · obtain rfl := List.mem_singleton.mp hu
        cases hlive

lemma Sound.fileUploadStated (h : s.Sound) (D : Desktop) (id path : QString) :
    (s.fileUploadStated D id path).Sound := by
  rw [UploadViewModel.fileUploadStated]
  split
  · exact h
  · rename_i m _
    have hnew : (s.vm.fileUploads.filter (fun u => u.1 ≠ id) ++ [(id, (⟨m.id, true, false⟩ : FileUpload))]).lookup id =
        some ⟨m.id, true, false⟩ := by
      have hgone : (s.vm.fileUploads.filter (fun u => u.1 ≠ id)).lookup id = none := by
        apply List.lookup_eq_none_iff.mpr
        intro u hu
        exact bne_iff_ne.mpr (of_decide_eq_true (List.mem_filter.mp hu).2).symm
      rw [List.lookup_append, hgone, List.lookup_cons_self]
      rfl
    have hothers : Kept (s.vm.fileUploads.filter (fun u => u.1 ≠ id) ++ [(id, ⟨m.id, true, false⟩)])
        (Function.update s.progress id 0) s.settings (fun other => other ≠ id) := by
      refine ⟨nodup_replaced h.keys id _, fun u hu hother hlive => ?_⟩
      obtain hu | hu := List.mem_append.mp hu
      · rw [Function.update_of_ne hother]
        exact h.last u (List.mem_filter.mp hu).1 trivial hlive
      · obtain rfl := List.mem_singleton.mp hu
        exact absurd rfl hother
    exact Kept.setUploadProgress hothers hnew rfl 0 true

lemma Sound.attachmentsFinished (h : s.Sound) (ids : List QString) (success : Bool) :
    (s.attachmentsFinished ids success).Sound := by
  induction ids generalizing s with
  | nil => exact h
  | cons id ids ih =>
    apply ih
    dsimp only
    split_ifs
    · exact h.setUploadProgress id _ false
    · exact h.setUploadProgress id _ false
    · exact h

lemma Sound.fileUploadProgress (h : s.Sound) (id : QString) (progress : ℚ) :
    (s.fileUploadProgress id progress).Sound := by
  rw [UploadViewModel.fileUploadProgress]
  split_ifs
  · exact h
  · exact h.setUploadProgress id progress true

lemma Sound.sendingFinished (h : s.Sound) (D : Desktop) (id : QString) (canceled : Bool) (error : QString) :
    (s.sendingFinished D id canceled error).Sound := by
  rw [UploadViewModel.sendingFinished]
  by_cases hc : canceled = true
  · rw [if_pos hc]
    exact h.removeCanceledUpload D id
  · rw [if_neg hc]
    exact h.setUploadProgress id _ false

lemma Sound.next (h : s.Sound) (e : Int × UploadEvent) : (step D s e).Sound := by
  have hbegun : UploadViewModel.Sound { s with vm := { s.vm with log := [], now := e.1 } } := h
  obtain ⟨now, e⟩ := e
  cases e with
  | fileUploadStated id path => exact hbegun.fileUploadStated D id path
  | fileUploadProgress id progress => exact hbegun.fileUploadProgress id progress
  | fileUploadFinish id => exact hbegun.setUploadProgress id 1 false
  | fileUploadSettled id success => exact hbegun.setUploadProgress id _ false
  | fileUploadCanceled id => exact hbegun.removeCanceledUpload D id
  | sendingFinished id canceled error => exact hbegun.sendingFinished D id canceled error
  | attachmentsFinished ids success => exact hbegun.attachmentsFinished ids success
  | other event =>
    have hsame : (MessagingViewModel.step D s.vm (now, event.1)).fileUploads = s.vm.fileUploads :=
      fileUploads_handle (s := { s.vm with log := [], now := now }) event.1 event.2
    refine ⟨?_, ?_⟩
    · rw [step, hsame]
      exact h.keys
    · rw [step, hsame]
      exact h.last

/-! ### The two views -/

section

variable {row : ℕ} {messaging : MessageItem} {found upload : QString × FileUpload} {messageId : QString}

lemma isUploadingRole_eq (hrow : s.vm.message.messages[row]? = some messaging)
    (hc : s.candidate D messaging.id = some found) : s.isUploadingRole D row = some found.2.uploading := by
  rw [candidate] at hc
  rw [isUploadingRole, hrow, Option.map_some, hc]

lemma contentsRole_eq (hrow : s.vm.message.messages[row]? = some messaging)
    (hc : s.candidate D messaging.id = some found) : s.contentsRole D row =
      some (if found.2.canceled then []
        else [contentItem messaging.body.content (s.progress found.1) found.2.uploading]) := by
  rw [contentsRole, hrow, Option.map_some, hc]

lemma of_candidate (hD : ∀ uploads, (D.hashOrder uploads).Perm uploads) (hc : s.candidate D messageId = some found) :
    found ∈ s.vm.fileUploads ∧ found.2.messageId = messageId := by
  rw [candidate] at hc
  refine ⟨(hD s.vm.fileUploads).mem_iff.mp (List.mem_of_find?_eq_some hc), ?_⟩
  have hid := List.find?_some hc
  exact of_decide_eq_true hid

lemma candidate_isSome (hD : ∀ uploads, (D.hashOrder uploads).Perm uploads) (hu : upload ∈ s.vm.fileUploads)
    (hid : upload.2.messageId = messageId) : ∃ found, s.candidate D messageId = some found := by
  apply Option.isSome_iff_exists.mp
  apply List.find?_isSome.mpr
  exact ⟨upload, (hD s.vm.fileUploads).mem_iff.mpr hu, decide_eq_true hid⟩

lemma Sound.fits_iff (h : s.Sound) (hD : ∀ uploads, (D.hashOrder uploads).Perm uploads) : s.Fits D ↔ s.Agree D := by
  constructor
  · intro hfits row messaging hrow upload hu hid hlive
    obtain ⟨found, hc⟩ := candidate_isSome hD hu hid
    obtain ⟨hmem, hfid⟩ := of_candidate hD hc
    obtain ⟨hzero, hothers⟩ := hfits messaging (List.mem_of_getElem? hrow) upload hu hid hlive
    obtain ⟨hflive, hsame⟩ := hothers found hc
    obtain ⟨hfzero, -⟩ := hfits messaging (List.mem_of_getElem? hrow) found hmem hfid hflive
    have hcontents := contentsRole_eq hrow hc
    rw [hflive, if_neg Bool.false_ne_true] at hcontents
    refine ⟨_, [], hcontents, ?_, isUploadingRole_eq hrow hc, ?_⟩
    · rw [uploadProgressRole, hrow, Option.map_some, contentItem, hfzero]
    · rw [lastSet, h.last upload hu trivial hlive, contentItem, hzero, hfzero, hsame]
  · intro hagree messaging hm upload hu hid hlive
    obtain ⟨row, hrow⟩ := List.getElem?_of_mem hm
    obtain ⟨item, rest, hcontents, hprogress, huploading, hlast⟩ := hagree row messaging hrow upload hu hid hlive
    rw [lastSet, h.last upload hu trivial hlive] at hlast
    obtain ⟨hset, hon⟩ := Prod.mk.inj (Option.some.inj hlast)
    rw [uploadProgressRole, hrow, Option.map_some] at hprogress
    refine ⟨hset.trans (Option.some.inj hprogress).symm, fun found hc => ?_⟩
    rw [isUploadingRole_eq hrow hc] at huploading
    refine ⟨?_, (Option.some.inj huploading).trans hon.symm⟩
    rw [contentsRole_eq hrow hc] at hcontents
    cases hcanceled : found.2.canceled with
    | false => rfl
    | true =>
      rw [hcanceled] at hcontents
      cases hcontents

end

theorem upload_views_agree_iff (D : Desktop) (hD : ∀ uploads, (D.hashOrder uploads).Perm uploads)
    (message : MessageResponse) (es : List (Int × UploadEvent)) :
    Each (step D) (fun s e => (step D s e).Fits D) (create message) es ↔
      Each (step D) (fun s e => (step D s e).Agree D) (create message) es := by
  have hinitial : (create message).Sound := ⟨List.nodup_nil, nofun⟩
  constructor
  · intro hrun
    exact hrun.imp (I := Sound) hinitial (fun s e hs _ => hs.next e)
      (fun s e hs hfits => ((hs.next e).fits_iff hD).mp hfits)
  · intro hrun
    exact hrun.imp (I := Sound) hinitial (fun s e hs _ => hs.next e)
      (fun s e hs hagree => ((hs.next e).fits_iff hD).mpr hagree)

def plainDesktop : Desktop := ⟨fun _ => none, fun _ _ => [], fun a b => decide (a = b), id⟩

def photoSent : List (Int × UploadEvent) :=
  [(0, .other ⟨.messageSent { id := [112] } [], rfl⟩), (0, .fileUploadStated [112] [47])]

theorem upload_views_agree_sample :
    Each (step plainDesktop) (fun s e => (step plainDesktop s e).Fits plainDesktop) (create {}) photoSent ↔
      Each (step plainDesktop) (fun s e => (step plainDesktop s e).Agree plainDesktop) (create {}) photoSent :=
  upload_views_agree_iff plainDesktop (fun _ => List.Perm.refl _) {} photoSent

/-- Two fifths of the photo are uploaded. -/
theorem upload_views_differ : ¬∀ (D : Desktop), (∀ uploads, (D.hashOrder uploads).Perm uploads) →
    ∀ (message : MessageResponse) (es : List (Int × UploadEvent)),
      Each (step D) (fun s e => (step D s e).Agree D) (create message) es := by
  intro h
  have hrun := h plainDesktop (fun _ => List.Perm.refl _) {} (photoSent ++ [(0, .fileUploadProgress [112] (2 / 5))])
  have hagree : (after (step plainDesktop) (create {})
    (photoSent ++ [(0, .fileUploadProgress [112] (2 / 5))])).Agree plainDesktop := hrun.2.2.1
  obtain ⟨item, rest, hcontents, hprogress, -, -⟩ := hagree 0 { id := [112], isMine := true } rfl
    ([112], ⟨[112], true, false⟩) (by decide) rfl rfl
  have hcandidate : (after (step plainDesktop) (create {})
      (photoSent ++ [(0, .fileUploadProgress [112] (2 / 5))])).candidate plainDesktop [112] =
        some ([112], ⟨[112], true, false⟩) := rfl
  rw [contentsRole_eq rfl hcandidate] at hcontents
  obtain ⟨hitem, -⟩ := List.cons.inj (Option.some.inj hcontents)
  have hzero : item.uploadProgress = 0 := (Option.some.inj hprogress).symm
  rw [← hitem] at hzero
  exact absurd hzero (by decide +kernel)

end UploadViewModel

end ChatDesktop.Chat
