import ChatDesktop.Network.HttpDownloadService
import Mathlib.Data.List.Induction

namespace ChatDesktop.Network

open Library

/-- The announcement of an end is true of the files. After a failure what was at the destination is there, and nothing
has come there or is left beside it; a completed download is all that was received. -/
def Kept (task : DownloadTask) (before : Option (List UInt8)) (result : Ending × Files) : Prop :=
  match result.1 with
  | .completed path =>
    path = task.destinationPath ∧ result.2 task.destination = some task.received.flatten ∧ task.received.flatten ≠ []
  | .failed _ | .cancelled =>
    (∀ content, before = some content → result.2 task.destination = some content) ∧
      (before = none → result.2 task.destination = none) ∧ result.2 task.temporary = none

def givesUp (finish : Finish) (task : DownloadTask) : Bool :=
  task.cancelled || task.writeFailed || finish.error.isSome ||
    finish.statusCode.any (fun status => decide (status < 200 ∨ 300 ≤ status))

/-- The partial file can be removed where it is no longer wanted, and a destination that was removed is taken. -/
def Spares (finish : Finish) (task : DownloadTask) (files : Files) : Prop :=
  if givesUp finish task then finish.removesPart = true
  else if task.overwrite && (files task.destination).isSome then
    if finish.removesDestination then finish.renames = true else finish.removesPart = true
  else (finish.renames && (files task.destination).isNone) = true ∨ finish.removesPart = true

instance (finish : Finish) (task : DownloadTask) (files : Files) : Decidable (Spares finish task files) :=
  inferInstanceAs (Decidable (if givesUp finish task then finish.removesPart = true
    else if task.overwrite && (files task.destination).isSome then
      if finish.removesDestination then finish.renames = true else finish.removesPart = true
    else (finish.renames && (files task.destination).isNone) = true ∨ finish.removesPart = true))

/-! ### The partial file -/

def Holds (task : DownloadTask) (files : Files) : Prop :=
  ∃ content, files task.temporary = some content ∧
    (task.cancelled = false → task.writeFailed = false → content = task.received.flatten)

section

variable {task : DownloadTask} {files : Files}

lemma DownloadTask.read_fields (reading : Reading) (task : DownloadTask) (files : Files) :
    (task.read reading files).1.requestId = task.requestId ∧
      (task.read reading files).1.destinationPath = task.destinationPath ∧
      (task.read reading files).1.overwrite = task.overwrite ∧
      (task.read reading files).1.cancelled = task.cancelled ∧
      (task.read reading files).1.received = task.received ++ [reading.data] := by
  rw [DownloadTask.read]
  dsimp only
  split_ifs <;> exact ⟨rfl, rfl, rfl, rfl, rfl⟩

lemma DownloadTask.read_files (reading : Reading) (task : DownloadTask) (files : Files) {path : FilePath}
    (h : path ≠ task.temporary) : (task.read reading files).2 path = files path := by
  rw [DownloadTask.read]
  dsimp only
  split_ifs
  · rfl
  · exact Function.update_of_ne h _ _
  · exact Function.update_of_ne h _ _

lemma Holds.congr {files' : Files} (h : Holds task files)
    (hfile : files' task.temporary = files task.temporary) : Holds task files' := by
  obtain ⟨content, hcontent, hreceived⟩ := h
  exact ⟨content, hfile.trans hcontent, hreceived⟩

lemma Holds.cancelled (h : Holds task files) : Holds { task with cancelled := true } files := by
  obtain ⟨content, hcontent, -⟩ := h
  exact ⟨content, hcontent, nofun⟩

lemma Holds.read (h : Holds task files) (reading : Reading) :
    Holds (task.read reading files).1 (task.read reading files).2 := by
  obtain ⟨content, hfile, hcontent⟩ := h
  rw [DownloadTask.read]
  dsimp only
  split_ifs with hskip hshort
  · refine ⟨content, hfile, fun hcancelled hfailed => ?_⟩
    change task.cancelled = false at hcancelled
    change task.writeFailed = false at hfailed
    have hempty : reading.data = [] := by simpa [hcancelled, hfailed] using hskip
    rw [hcontent hcancelled hfailed, hempty]
    simp
  · exact ⟨_, Function.update_self .., fun _ hfailed => nomatch hfailed⟩
  · refine ⟨_, Function.update_self .., fun hcancelled hfailed => ?_⟩
    have hwritten : reading.written = reading.data.length := not_not.mp hshort
    have hbefore : (files task.temporary).getD [] = task.received.flatten := by
      rw [hfile, Option.getD_some, hcontent hcancelled hfailed]
    change (files task.temporary).getD [] ++ reading.data.take reading.written.toNat =
      (task.received ++ [reading.data]).flatten
    rw [hbefore, hwritten, Int.toNat_natCast, List.take_length]
    simp

lemma DownloadTask.closeFile_fields (finish : Finish) (files : Files) (task : DownloadTask) :
    (task.closeFile finish files).requestId = task.requestId ∧
      (task.closeFile finish files).destinationPath = task.destinationPath ∧
      (task.closeFile finish files).cancelled = task.cancelled ∧
      (task.closeFile finish files).received = task.received := by
  rw [DownloadTask.closeFile]
  split_ifs <;> exact ⟨rfl, rfl, rfl, rfl⟩

lemma DownloadTask.closeFile_writeFailed (finish : Finish) (files : Files) (task : DownloadTask)
    (h : (task.closeFile finish files).writeFailed = false) :
    task.writeFailed = false ∧ (files task.temporary).getD [] ≠ [] := by
  rw [DownloadTask.closeFile] at h
  split_ifs at h with hflushed hempty hempty
  exact ⟨h, fun hnil => hempty ⟨hnil, h⟩⟩

structure Closed (task : DownloadTask) (files : Files) : Prop where
  holds : Holds task files
  nonempty : task.writeFailed = false → (files task.temporary).getD [] ≠ []

lemma Holds.closeFile (h : Holds task files) (finish : Finish) : Closed (task.closeFile finish files) files := by
  obtain ⟨hid, hpath, hcancelled, hreceived⟩ := task.closeFile_fields finish files
  have htemporary : (task.closeFile finish files).temporary = task.temporary := by
    rw [DownloadTask.temporary, DownloadTask.temporary, hid, hpath]
  obtain ⟨content, hfile, hcontent⟩ := h
  refine ⟨⟨content, htemporary ▸ hfile, fun hc hf => ?_⟩, fun hf => ?_⟩
  · rw [hreceived]
    exact hcontent (hcancelled ▸ hc) (task.closeFile_writeFailed finish files hf).1
  · rw [htemporary]
    exact (task.closeFile_writeFailed finish files hf).2

/-! ### The end of a request -/

lemma destination_ne_temporary (task : DownloadTask) : task.destination ≠ task.temporary := nofun

lemma discard_destination (finish : Finish) (task : DownloadTask) (files : Files) :
    discard finish task files task.destination = files task.destination := by
  rw [discard]
  split_ifs
  · exact Function.update_of_ne (destination_ne_temporary task) _ _
  · rfl

lemma discard_temporary (h : Holds task files) (finish : Finish) :
    discard finish task files task.temporary = none ↔ finish.removesPart = true := by
  obtain ⟨content, hfile, -⟩ := h
  rw [discard]
  split_ifs with hremoves
  · exact iff_of_true (Function.update_self ..) hremoves
  · rw [hfile]
    exact iff_of_false (Option.some_ne_none _) hremoves

lemma discard_kept (h : Holds task files) (finish : Finish) {ending : Ending} (hending : ∀ path, ending ≠ .completed path) :
    Kept task (files task.destination) (ending, discard finish task files) ↔ finish.removesPart = true := by
  have hkept : Kept task (files task.destination) (ending, discard finish task files) ↔
      (∀ content, files task.destination = some content →
        discard finish task files task.destination = some content) ∧
        (files task.destination = none → discard finish task files task.destination = none) ∧
          discard finish task files task.temporary = none := by
    cases ending with
    | completed path => exact absurd rfl (hending path)
    | failed error => rfl
    | cancelled => rfl
  rw [hkept, discard_destination, discard_temporary h]
  exact (and_iff_right (fun content hc => hc)).trans (and_iff_right id)

lemma conclude_files (finish : Finish) (task : DownloadTask) (files : Files) {path : FilePath}
    (hd : path ≠ task.destination) (ht : path ≠ task.temporary) : (conclude finish task files).2 path = files path := by
  have hdiscard : ∀ files, discard finish task files path = files path := by
    intro files
    rw [discard]
    split_ifs
    · exact Function.update_of_ne ht _ _
    · rfl
  have hmove : ∀ files, (moveFile finish task files).2 path = files path := by
    intro files
    rw [moveFile]
    split_ifs
    · exact (Function.update_of_ne ht _ _).trans (Function.update_of_ne hd _ _)
    · exact hdiscard files
  rw [conclude]
  cases finish.error with
  | some error => split_ifs <;> exact hdiscard files
  | none =>
    dsimp only
    split_ifs
    · exact hdiscard files
    · exact hdiscard files
    · exact hdiscard files
    · exact hdiscard files
    · exact hdiscard files
    · exact (hmove _).trans (Function.update_of_ne hd _ _)
    · exact hmove files

end

/-! ### The service -/

namespace HttpDownloadService

def ending? (s : HttpDownloadService) : DownloadEvent → Option (DownloadTask × Finish)
  | .finished request finish => (s.tasks.find? request).map (fun task => (task, finish))
  | .cancel request finish =>
    ((s.tasks.find? request).filter (fun task => !task.cancelled)).map
      (fun task => ({ task with cancelled := true }, finish))
  | _ => none

def Spared (s : HttpDownloadService) (event : DownloadEvent) : Prop :=
  ∀ task finish, s.ending? event = some (task, finish) →
    Spares finish ((task.read finish.reading s.files).1.closeFile finish (task.read finish.reading s.files).2)
      (task.read finish.reading s.files).2

def mentions (request : ℕ) (s : HttpDownloadService) : ℕ :=
  s.announced.countP (fun a => a.1 = request) + s.timers.countP (fun a => a.1 = request) +
    if (s.tasks.find? request).isSome then 1 else 0

structure Sane (s : HttpDownloadService) : Prop where
  tasks : ∀ request task, s.tasks.find? request = some task →
    task.requestId = request ∧ request < s.made ∧ task.cancelled = false ∧ Holds task s.files
  mentions : ∀ request, s.mentions request = if request < s.made then 1 else 0

section

variable {s : HttpDownloadService} {task : DownloadTask} {files : Files} {request : ℕ}

lemma temporary_ne {other : DownloadTask} (h : other.requestId ≠ task.requestId) : other.temporary ≠ task.temporary :=
  fun he => h (FilePath.part.inj he).2

lemma handleFinished_announced (s : HttpDownloadService) (finish : Finish) (task : DownloadTask) :
    (s.handleFinished finish task).announced = s.announced ++ [(task.requestId,
      (conclude finish ((task.read finish.reading s.files).1.closeFile finish (task.read finish.reading s.files).2)
        (task.read finish.reading s.files).2).1)] := by
  obtain ⟨hid, -⟩ := DownloadTask.read_fields finish.reading task s.files
  obtain ⟨hid', -⟩ := DownloadTask.closeFile_fields finish (task.read finish.reading s.files).2
    (task.read finish.reading s.files).1
  rw [← hid, ← hid']
  rfl

lemma Sane.holds_of_ne (h : Sane s) (hfiles : ∀ other : DownloadTask, other.requestId ≠ task.requestId →
    files other.temporary = s.files other.temporary) {other : ℕ} {task' : DownloadTask}
    (ht : s.tasks.find? other = some task') (hne : other ≠ task.requestId) : Holds task' files := by
  obtain ⟨hid, -, -, hholds⟩ := h.tasks other task' ht
  exact Holds.congr hholds (hfiles task' (hid ▸ hne))

lemma countP_concat {α : Type} (p : α → Bool) (l : List α) (a : α) :
    (l ++ [a]).countP p = l.countP p + if p a then 1 else 0 := by
  rw [List.countP_append, List.countP_singleton]

lemma Sane.handleFinished (h : Sane s) (finish : Finish)
    (ht : (s.tasks.find? task.requestId).isSome = true) : Sane (s.handleFinished finish task) := by
  obtain ⟨hid, -⟩ := DownloadTask.read_fields finish.reading task s.files
  obtain ⟨hid', -⟩ := DownloadTask.closeFile_fields finish (task.read finish.reading s.files).2
    (task.read finish.reading s.files).1
  have hsame := hid'.trans hid
  have htasks : ∀ other, (s.handleFinished finish task).tasks.find? other =
      if other = task.requestId then none else s.tasks.find? other := by
    intro other
    rw [← hsame]
    exact Hash.find?_erase
  refine ⟨fun other task' ht' => ?_, fun other => ?_⟩
  · rw [htasks] at ht'
    split_ifs at ht' with hother
    obtain ⟨hid'', hmade, hcancelled, -⟩ := h.tasks other task' ht'
    refine ⟨hid'', hmade, hcancelled, ?_⟩
    apply h.holds_of_ne (fun o ho => ?_) ht' hother
    have htemporary := DownloadTask.read_files finish.reading task s.files (temporary_ne ho)
    have ht : o.temporary ≠ ((task.read finish.reading s.files).1.closeFile finish
        (task.read finish.reading s.files).2).temporary := temporary_ne (hsame.symm ▸ ho)
    exact (conclude_files finish _ (task.read finish.reading s.files).2 (by simp [DownloadTask.temporary,
      DownloadTask.destination]) ht).trans htemporary
  · have hbefore := h.mentions other
    rw [HttpDownloadService.mentions, handleFinished_announced, htasks, countP_concat]
    rw [HttpDownloadService.mentions] at hbefore
    change _ + s.timers.countP (fun a => a.1 = other) + _ = if other < s.made then 1 else 0
    by_cases hother : other = task.requestId
    · subst hother
      rw [if_pos ht] at hbefore
      simp only [decide_true, if_true, Option.isSome_none, Bool.false_eq_true, if_false]
      omega
    · simp only [Ne.symm hother, hother, decide_false, Bool.false_eq_true, if_false]
      omega

lemma Sane.initial (files : Files) : Sane { files := files } :=
  ⟨fun _ _ h => (nomatch h), fun _ => rfl⟩

lemma Sane.step (h : Sane s) (event : DownloadEvent) : Sane (s.step event) := by
  cases event with
  | download opening url destinationPath overwrite =>
    have hwait : ∀ error, Sane { s with made := s.made + 1, timers := s.timers ++ [(s.made, error)] } := by
      intro error
      refine ⟨fun r t ht => ?_, fun r => ?_⟩
      · obtain ⟨hid, hlt, hrest⟩ := h.tasks r t ht
        exact ⟨hid, Nat.lt_succ_of_lt hlt, hrest⟩
      · have hbefore := h.mentions r
        rw [HttpDownloadService.mentions] at hbefore ⊢
        dsimp only
        rw [countP_concat]
        simp only [decide_eq_true_eq]
        grind
    rw [HttpDownloadService.step, download]
    split_ifs
    · exact h
    · exact hwait _
    · cases opening.openError with
      | some error => exact hwait error
      | none =>
        have hfresh : s.tasks.find? s.made = none := by
          cases ht : s.tasks.find? s.made with
          | none => rfl
          | some t => exact absurd (h.tasks _ t ht).2.1 (Nat.lt_irrefl _)
        refine ⟨fun r t ht => ?_, fun r => ?_⟩
        · rw [Hash.find?_insert] at ht
          split_ifs at ht with hr
          · obtain rfl := Option.some.inj ht
            exact ⟨hr.symm, hr ▸ Nat.lt_succ_self _, rfl, [], Function.update_self .., fun _ _ => rfl⟩
          · obtain ⟨hid, hlt, hcancelled, hholds⟩ := h.tasks r t ht
            refine ⟨hid, Nat.lt_succ_of_lt hlt, hcancelled, Holds.congr hholds ?_⟩
            exact Function.update_of_ne (fun he => hr (hid ▸ (FilePath.part.inj he).2)) _ _
        · have hbefore := h.mentions r
          rw [HttpDownloadService.mentions] at hbefore ⊢
          dsimp only
          rw [Hash.find?_insert]
          by_cases hr : r = s.made
          · subst hr
            rw [hfresh] at hbefore
            simp only [if_true, Option.isSome_some, Nat.lt_succ_self, Option.isSome_none, Bool.false_eq_true,
              if_false, Nat.lt_irrefl] at hbefore ⊢
            omega
          · rw [if_neg hr, hbefore]
            exact if_congr (by omega) rfl rfl
  | readyRead request reading =>
    rw [HttpDownloadService.step, readyRead]
    cases ht : s.tasks.find? request with
    | none => exact h
    | some task =>
      obtain ⟨hid, hlt, hcancelled, hholds⟩ := h.tasks request task ht
      obtain ⟨hid', -, -, hcancelled', -⟩ := DownloadTask.read_fields reading task s.files
      refine ⟨fun r t hr => ?_, fun r => ?_⟩
      · rw [Hash.find?_insert] at hr
        split_ifs at hr with he
        · obtain rfl := Option.some.inj hr
          exact ⟨(hid'.trans hid).trans he.symm, he ▸ hlt, hcancelled'.trans hcancelled, Holds.read hholds reading⟩
        · obtain ⟨hidr, hltr, hcancelledr, -⟩ := h.tasks r t hr
          refine ⟨hidr, hltr, hcancelledr, ?_⟩
          exact h.holds_of_ne (fun o ho => DownloadTask.read_files reading task s.files (temporary_ne ho)) hr (hid ▸ he)
      · have hbefore := h.mentions r
        rw [HttpDownloadService.mentions] at hbefore ⊢
        dsimp only
        rw [Hash.find?_insert]
        by_cases he : r = request
        · subst he
          rw [ht] at hbefore
          rw [if_pos rfl]
          exact hbefore
        · rw [if_neg he]
          exact hbefore
  | finished request finish =>
    rw [HttpDownloadService.step, replyFinished]
    cases ht : s.tasks.find? request with
    | none => exact h
    | some task =>
      obtain ⟨rfl, -⟩ := h.tasks request task ht
      exact h.handleFinished finish (Option.isSome_iff_exists.mpr ⟨task, ht⟩)
  | cancel request finish =>
    rw [HttpDownloadService.step, cancel]
    cases ht : s.tasks.find? request with
    | none => exact h
    | some task =>
      obtain ⟨rfl, -⟩ := h.tasks request task ht
      dsimp only
      split_ifs
      · exact h
      · exact h.handleFinished finish (Option.isSome_iff_exists.mpr ⟨task, ht⟩)
  | timeout =>
    rw [HttpDownloadService.step, timeout]
    cases htimers : s.timers with
    | nil => exact h
    | cons timer timers =>
      refine ⟨h.tasks, fun r => ?_⟩
      have hbefore := h.mentions r
      rw [HttpDownloadService.mentions, htimers, List.countP_cons] at hbefore
      rw [HttpDownloadService.mentions]
      dsimp only
      rw [countP_concat]
      simp only [decide_eq_true_eq] at hbefore ⊢
      omega

end

/-! ### Runs -/

lemma run_concat (files : Files) (events : List DownloadEvent) (event : DownloadEvent) :
    run files (events ++ [event]) = (run files events).step event := by
  rw [run, run, List.foldl_append]
  rfl

end HttpDownloadService

end ChatDesktop.Network
