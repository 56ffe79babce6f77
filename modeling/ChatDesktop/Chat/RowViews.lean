import ChatDesktop.Chat.MessagingViewModel
import ChatDesktop.Library.Reactive

namespace ChatDesktop.Chat

open Library Library.ListModel Library.Reactive MessagingViewModel

variable (D : Desktop)

/-- The view has the rows of the model, and the model the texts of the rows. -/
structure Shown (s : MessagingViewModel) (view : List (MessageItem × Int)) : Prop where
  rows : view.map Prod.fst = s.message.messages
  displayDates : s.displayDates = view.map (fun row => dateOf D row.2 row.1)
  sections : s.sections = view.map (fun row => sectionOf D row.2 row.1)

def watch (s : MessagingViewModel × List (MessageItem × Int)) (e : Int × Event) :
    MessagingViewModel × List (MessageItem × Int) :=
  (step D s.1 e, (step D s.1 e).log.foldl follow s.2)

def AnnouncesValid (s : MessagingViewModel × List (MessageItem × Int)) (e : Int × Event) : Prop :=
  ∀ a ∈ (step D s.1 e).log, a.change.Valid a.before.length

def Tracked (s s' : MessagingViewModel) : Prop :=
  ∀ view, Shown D s view → ∃ new, s'.log = s.log ++ new ∧
    (∀ a ∈ new, a.change.Valid a.before.length) ∧ Shown D s' (new.foldl follow view)

section

variable {D} {s s' s'' : MessagingViewModel} {view : List (MessageItem × Int)}

lemma Tracked.refl (s : MessagingViewModel) : Tracked D s s :=
  fun _ h => ⟨[], (List.append_nil _).symm, List.forall_mem_nil _, h⟩

lemma Tracked.trans (h : Tracked D s s') (h' : Tracked D s' s'') : Tracked D s s'' := by
  intro view hview
  obtain ⟨new, hlog, hvalid, hview'⟩ := h view hview
  obtain ⟨new', hlog', hvalid', hview''⟩ := h' _ hview'
  refine ⟨new ++ new', by rw [hlog', hlog, List.append_assoc], ?_, by rw [List.foldl_append]; exact hview''⟩
  intro a ha
  obtain ha | ha := List.mem_append.mp ha
  · exact hvalid a ha
  · exact hvalid' a ha

lemma Tracked.congr (h : Tracked D s s') (hm : s''.message.messages = s'.message.messages)
    (hd : s''.displayDates = s'.displayDates) (hs : s''.sections = s'.sections) (hl : s''.log = s'.log) :
    Tracked D s s'' := by
  intro view hview
  obtain ⟨new, hlog, hvalid, hview'⟩ := h view hview
  exact ⟨new, hl.trans hlog, hvalid, hview'.rows.trans hm.symm, hd.trans hview'.displayDates,
    hs.trans hview'.sections⟩

lemma Shown.length (h : Shown D s view) : view.length = s.message.messages.length := by
  rw [← h.rows, List.length_map]

lemma tracked_announce {change : Change Role} {messages : List MessageItem} {displayDates sections : List QString}
    (hvalid : change.Valid s.message.messages.length)
    (h : ∀ view, Shown D s view → Shown D (s.announce change messages displayDates sections)
      (follow view ⟨change, s.message.messages, messages, s.now⟩)) :
    Tracked D s (s.announce change messages displayDates sections) := by
  intro view hview
  refine ⟨[⟨change, s.message.messages, messages, s.now⟩], rfl, ?_, h view hview⟩
  intro a ha
  rw [List.mem_singleton.mp ha]
  exact hvalid

/-! ### What each announcement does -/

lemma tracked_insert {n : ℕ} {new : List MessageItem} (hn : n ≤ s.message.messages.length) (hnew : new ≠ []) :
    Tracked D s (s.announce (.insertRows n (n + new.length - 1))
      (s.message.messages.take n ++ new ++ s.message.messages.drop n)
      (s.displayDates.take n ++ new.map (dateOf D s.now) ++ s.displayDates.drop n)
      (s.sections.take n ++ new.map (sectionOf D s.now) ++ s.sections.drop n)) := by
  have hpos : 0 < new.length := List.length_pos_iff.mpr hnew
  refine tracked_announce ⟨by omega, hn⟩ fun view hview => ?_
  rw [follow_insertRows hn hnew]
  refine ⟨?_, ?_, ?_⟩
  · simp [announce, ← hview.rows, List.map_take, List.map_drop, Function.comp_def]
  · simp [announce, hview.displayDates, List.map_take, List.map_drop]
  · simp [announce, hview.sections, List.map_take, List.map_drop]

lemma tracked_insertMessage (payload : MessageItem) : Tracked D s (s.insertMessage D payload) := by
  intro view hview
  have hd : s.displayDates.length = s.message.messages.length := by
    rw [hview.displayDates, List.length_map, hview.length]
  have hs : s.sections.length = s.message.messages.length := by
    rw [hview.sections, List.length_map, hview.length]
  have h := tracked_insert (D := D) (s := s) le_rfl (List.cons_ne_nil payload []) view hview
  rw [List.take_length, List.drop_length, ← hd, List.take_length, List.drop_length, hd, ← hs, List.take_length,
    List.drop_length, hs] at h
  simp only [List.append_nil, List.length_singleton, Nat.add_sub_cancel] at h
  exact h

lemma tracked_nextPage {new : List MessageItem} (hnew : new ≠ []) :
    Tracked D s (s.announce (.insertRows 0 (new.length - 1)) (new ++ s.message.messages)
      (new.map (dateOf D s.now) ++ s.displayDates) (new.map (sectionOf D s.now) ++ s.sections)) := by
  have h := tracked_insert (D := D) (s := s) (n := 0) (Nat.zero_le _) hnew
  simpa only [List.take_zero, List.nil_append, List.drop_zero, Nat.zero_add] using h

lemma tracked_reset (new : List MessageItem) :
    Tracked D s (s.announce .resetModel new (new.map (dateOf D s.now)) (new.map (sectionOf D s.now))) := by
  refine tracked_announce trivial fun view _ => ⟨?_, ?_, ?_⟩ <;>
    simp [announce, follow, Function.comp_def]

lemma tracked_remove {first last : ℕ} (hf : first ≤ last) (hl : last < s.message.messages.length) :
    Tracked D s (s.announce (.removeRows first last)
      (s.message.messages.take first ++ s.message.messages.drop (last + 1))
      (s.displayDates.take first ++ s.displayDates.drop (last + 1))
      (s.sections.take first ++ s.sections.drop (last + 1))) := by
  refine tracked_announce ⟨hf, hl⟩ fun view hview => ⟨?_, ?_, ?_⟩
  · simp [announce, follow, ← hview.rows, List.map_take, List.map_drop]
  · simp [announce, follow, hview.displayDates, List.map_take, List.map_drop]
  · simp [announce, follow, hview.sections, List.map_take, List.map_drop]

lemma tracked_modify {row : ℕ} {role : Role} {roles : List Role} {f : MessageItem → MessageItem}
    (hrow : row < s.message.messages.length) (hf : ∀ m, (f m).body.timestamp = m.body.timestamp) :
    Tracked D s (s.announce (.dataChanged row (role :: roles)) (s.message.messages.modify row f)
      s.displayDates s.sections) := by
  refine tracked_announce hrow fun view hview => ?_
  rw [follow_dataChanged hview.rows]
  have hdate : ∀ m now, dateOf D now (f m) = dateOf D now m := fun m now => by rw [dateOf, dateOf, hf]
  have hsection : ∀ m now, sectionOf D now (f m) = sectionOf D now m := fun m now => by rw [sectionOf, sectionOf, hf]
  refine ⟨?_, ?_, ?_⟩
  · rw [map_modify (g := Prod.fst) (h := f) (fun _ => rfl), hview.rows]
    rfl
  · refine hview.displayDates.trans ?_
    rw [map_modify (h := id), List.modify_id]
    exact fun row => hdate row.1 row.2
  · refine hview.sections.trans ?_
    rw [map_modify (h := id), List.modify_id]
    exact fun row => hsection row.1 row.2

lemma tracked_set {row : ℕ} {m : MessageItem} {f : MessageItem → MessageItem}
    (hrow : row < s.message.messages.length) (hf : ∀ m', (f m').body.timestamp = m.body.timestamp) :
    Tracked D s (s.announce (.dataChanged row []) (s.message.messages.modify row f)
      (s.displayDates.set row (dateOf D s.now m)) (s.sections.set row (sectionOf D s.now m))) := by
  refine tracked_announce hrow fun view hview => ?_
  rw [follow_dataChanged hview.rows]
  refine ⟨?_, ?_, ?_⟩
  · rw [map_modify (g := Prod.fst) (h := f) (fun _ => rfl), hview.rows]
    rfl
  · rw [map_modify (h := fun _ => dateOf D s.now m), ← hview.displayDates, ← List.set_eq_modify]
    · rfl
    · exact fun row => by simp [dateOf, hf]
  · rw [map_modify (h := fun _ => sectionOf D s.now m), ← hview.sections, ← List.set_eq_modify]
    · rfl
    · exact fun row => by simp [sectionOf, hf]

lemma tracked_move {source destination : ℕ} (hd : destination < source) (hs : source < s.message.messages.length) :
    Tracked D s (s.announce (.moveRows source source destination) (move source destination s.message.messages)
      (move source destination s.displayDates) (move source destination s.sections)) := by
  refine tracked_announce ⟨le_rfl, hs, by omega, Or.inl hd⟩ fun view hview => ?_
  rw [follow_moveRows hd.le (by rw [hview.length]; exact hs)]
  refine ⟨?_, ?_, ?_⟩
  · rw [map_move, hview.rows]
    rfl
  · rw [map_move, ← hview.displayDates]
    rfl
  · rw [map_move, ← hview.sections]
    rfl

/-! ### The operations -/

lemma tracked_dataChanged {row : ℕ} (role : Role) (roles : List Role) (hrow : row < s.message.messages.length) :
    Tracked D s (s.dataChanged row (role :: roles)) := by
  have h : Tracked D s (s.announce (.dataChanged row (role :: roles)) (s.message.messages.modify row id) s.displayDates
      s.sections) := tracked_modify hrow (fun _ => rfl)
  rwa [List.modify_id] at h

lemma firstRow_lt {p : MessageItem → Bool} {row : ℕ} (h : s.firstRow p = some row) :
    row < s.message.messages.length := (List.findIdx?_eq_some_iff_getElem.mp h).1

lemma tracked_removeRow {row : ℕ} (hrow : row < s.message.messages.length) : Tracked D s (s.removeRow row) := by
  have h := tracked_remove (D := D) le_rfl hrow
  simpa only [removeRow, List.eraseIdx_eq_take_drop_succ] using h

lemma tracked_deleteMessage (rows : List Int) : Tracked D s (s.deleteMessage rows) := by
  unfold deleteMessage
  generalize (rows.mergeSort (fun a b => b ≤ a)).destutter (· ≠ ·) = rows
  induction rows generalizing s with
  | nil => exact .refl s
  | cons row rows ih =>
    rw [List.foldl_cons]
    refine Tracked.trans ?_ ih
    split_ifs with h
    · exact .refl s
    · exact tracked_removeRow (by omega)

lemma tracked_status (messageId : QString) (sending : Bool) :
    Tracked D s (s.updateMessageSeningStatus messageId sending) := by
  unfold updateMessageSeningStatus
  split
  · exact .refl s
  · rename_i row hrow
    exact tracked_modify (firstRow_lt hrow) (fun _ => rfl)

lemma tracked_messageUpdated (payload : MessageItem) : Tracked D s (s.messageUpdated payload) := by
  unfold messageUpdated
  split
  · exact .refl s
  · rename_i row hrow
    exact tracked_modify (firstRow_lt hrow) (fun _ => rfl)

lemma updatedFrom_timestamp (previous incoming : MessageItem) :
    (updatedFrom previous incoming).body.timestamp = incoming.body.timestamp := by
  unfold updatedFrom
  split_ifs <;> rfl

lemma reconcileRow_cases {row : ℕ} (incoming : MessageItem) (hrow : row ≤ s.message.messages.length) :
    s.reconcileRow D row incoming =
      s.announce (.insertRows row row) (s.message.messages.insertIdx row incoming)
        (s.displayDates.insertIdx row (dateOf D s.now incoming)) (s.sections.insertIdx row (sectionOf D s.now incoming)) ∨
    row < s.message.messages.length ∧ ∃ s', (s' = s ∨ ∃ existing, row < existing ∧
        existing < s.message.messages.length ∧ s' = s.announce (.moveRows existing existing row)
          (move existing row s.message.messages) (move existing row s.displayDates) (move existing row s.sections)) ∧
      s.reconcileRow D row incoming = s'.announce (.dataChanged row [])
        (s'.message.messages.modify row (fun previous => updatedFrom previous incoming))
        (s'.displayDates.set row (dateOf D s'.now incoming)) (s'.sections.set row (sectionOf D s'.now incoming)) := by
  unfold reconcileRow
  dsimp only
  have hle : (s.message.messages.drop row).findIdx (fun m => m.id = incoming.id) ≤ s.message.messages.length - row := by
    rw [← List.length_drop]
    exact List.findIdx_le_length
  generalize (s.message.messages.drop row).findIdx (fun m => m.id = incoming.id) = found at hle
  by_cases hnew : row + found = s.message.messages.length
  · exact Or.inl (if_pos hnew)
  · rw [if_neg hnew]
    refine Or.inr ⟨by omega, _, ?_, rfl⟩
    by_cases hmoved : row + found ≠ row
    · exact Or.inr ⟨row + found, by omega, by omega, if_pos hmoved⟩
    · exact Or.inl (if_neg hmoved)

lemma tracked_insertIdx {row : ℕ} (incoming : MessageItem) (hrow : row ≤ s.message.messages.length) :
    Tracked D s (s.announce (.insertRows row row) (s.message.messages.insertIdx row incoming)
      (s.displayDates.insertIdx row (dateOf D s.now incoming)) (s.sections.insertIdx row (sectionOf D s.now incoming))) := by
  intro view hview
  have hd : row ≤ s.displayDates.length := by rw [hview.displayDates, List.length_map, hview.length]; exact hrow
  have hs : row ≤ s.sections.length := by rw [hview.sections, List.length_map, hview.length]; exact hrow
  have h := tracked_insert (D := D) hrow (List.cons_ne_nil incoming []) view hview
  rw [insertIdx_eq_take_drop hrow, insertIdx_eq_take_drop hd, insertIdx_eq_take_drop hs]
  simpa using h

lemma tracked_reconcileRow {row : ℕ} (incoming : MessageItem) (hrow : row ≤ s.message.messages.length) :
    Tracked D s (s.reconcileRow D row incoming) := by
  obtain he | ⟨hlt, s', hs', he⟩ := reconcileRow_cases (D := D) incoming hrow
  · rw [he]
    exact tracked_insertIdx incoming hrow
  · rw [he]
    obtain rfl | ⟨existing, hmoved, hexisting, rfl⟩ := hs'
    · exact tracked_set hlt fun _ => updatedFrom_timestamp ..
    · refine (tracked_move hmoved hexisting).trans (tracked_set ?_ fun _ => updatedFrom_timestamp ..)
      rw [announce, length_move hmoved.le hexisting]
      exact hlt

lemma length_reconcileRow {row : ℕ} (incoming : MessageItem) (hrow : row ≤ s.message.messages.length) :
    row < (s.reconcileRow D row incoming).message.messages.length := by
  obtain he | ⟨hlt, s', hs', he⟩ := reconcileRow_cases (D := D) incoming hrow
  · rw [he, announce, List.length_insertIdx, if_pos hrow]
    exact Nat.lt_succ_of_le hrow
  · rw [he, announce, List.length_modify]
    obtain rfl | ⟨existing, hmoved, hexisting, rfl⟩ := hs'
    · exact hlt
    · rw [announce, length_move hmoved.le hexisting]
      exact hlt

lemma tracked_reconcile {row : ℕ} (incoming : List MessageItem) (hrow : row ≤ s.message.messages.length) :
    Tracked D s (s.reconcile D row incoming) := by
  induction incoming generalizing row s with
  | nil => exact .refl s
  | cons m rest ih => exact (tracked_reconcileRow m hrow).trans (ih (length_reconcileRow m hrow))

lemma tracked_truncate (first : ℕ) : Tracked D s (s.truncate first) := by
  unfold truncate
  split_ifs with h
  · intro view hview
    have hlast : s.message.messages.length - 1 + 1 = s.message.messages.length := by omega
    have hd : s.displayDates.length = s.message.messages.length := by
      rw [hview.displayDates, List.length_map, hview.length]
    have hs : s.sections.length = s.message.messages.length := by
      rw [hview.sections, List.length_map, hview.length]
    have htracked := tracked_remove (D := D) (s := s) (show first ≤ s.message.messages.length - 1 by omega)
      (by omega) view hview
    rw [hlast, List.drop_length, List.drop_of_length_le hd.le, List.drop_of_length_le hs.le] at htracked
    simpa only [List.append_nil] using htracked
  · exact .refl s

lemma tracked_apply (messages : MessageResponse) (requestId : ℕ) :
    Tracked D s (s.applyFetchedMessages D messages requestId) := by
  unfold applyFetchedMessages
  split_ifs
  · exact .refl s
  · exact ((tracked_reconcile _ (Nat.zero_le _)).trans (tracked_truncate _)).congr rfl rfl rfl rfl
  · exact (tracked_reset _).congr rfl rfl rfl rfl

lemma Tracked.same (hm : s'.message.messages = s.message.messages) (hd : s'.displayDates = s.displayDates)
    (hs : s'.sections = s.sections) (hl : s'.log = s.log) : Tracked D s s' :=
  (Tracked.refl s).congr hm hd hs hl

lemma tracked_resultReady (requestId : ℕ) (response : MessageResponse) :
    Tracked D s (s.resultReady D requestId response) := by
  unfold resultReady
  split_ifs
  · exact .refl s
  · have hloading : Tracked D s { s with loading := false } := .same rfl rfl rfl rfl
    exact hloading.trans (tracked_apply _ _)

lemma tracked_uploadRow {id : QString} {upload : FileUpload} (p : MessageItem → Bool) (role : Role)
    (roles : List Role) :
    Tracked D s (match (s.setUpload id upload).firstRow p with
      | none => s.setUpload id upload
      | some row => (s.setUpload id upload).dataChanged row (role :: roles)) := by
  have hsame : Tracked D s (s.setUpload id upload) := .same rfl rfl rfl rfl
  split
  · exact hsame
  · rename_i row hrow
    exact hsame.trans (tracked_dataChanged role roles (firstRow_lt hrow))

lemma tracked_setUploadProgress (id : QString) (uploading : Bool) :
    Tracked D s (s.setUploadProgress id uploading) := by
  unfold setUploadProgress
  split
  · exact .refl s
  · split_ifs
    · exact .refl s
    · exact tracked_uploadRow _ _ _

lemma tracked_removeCanceledUpload (id : QString) : Tracked D s (s.removeCanceledUpload D id) := by
  unfold removeCanceledUpload
  split
  · exact .refl s
  · rename_i upload _
    split_ifs
    · exact .refl s
    · have hsame : Tracked D s (s.setUpload id { upload with uploading := false, canceled := true }) :=
        .same rfl rfl rfl rfl
      refine hsame.trans ?_
      dsimp only
      split
      · exact .refl _
      · rename_i row hrow
        split_ifs
        · exact tracked_deleteMessage [(row : Int)]
        · exact tracked_dataChanged _ _ (firstRow_lt hrow)

lemma tracked_nextResult (nextPage : Int32) (response : MessageResponse) :
    Tracked D s (s.applyNextPage D nextPage response) := by
  unfold applyNextPage
  by_cases hpage : response.page < 1
  · rw [if_pos hpage]
    exact .same rfl rfl rfl rfl
  · rw [if_neg hpage]
    by_cases hcount : 0 < response.messages.length
    · simp only [if_pos hcount]
      exact (tracked_nextPage (List.length_pos_iff.mp hcount)).congr rfl rfl rfl rfl
    · simp only [if_neg hcount]
      exact .same rfl rfl rfl rfl

lemma tracked_handle (e : Event) : Tracked D s (s.handle D e) := by
  cases e with
  | fetchMessage userId currentUserId => exact .same rfl rfl rfl rfl
  | fetchResult i response =>
    simp only [handle, onFetchResult]
    split
    · exact .refl s
    · rename_i fetch _
      have hcounted : Tracked D s
          { s with fetches := s.fetches.set i { fetch with results := fetch.results + 1 } } := .same rfl rfl rfl rfl
      exact hcounted.trans (tracked_resultReady _ _)
  | fetchFinished i canceled =>
    simp only [handle, onFetchFinished]
    split
    · exact .refl s
    · rename_i fetch _
      have hdone : Tracked D s { s with fetches := s.fetches.eraseIdx i } := .same rfl rfl rfl rfl
      have hresult : Tracked D s (if !canceled ∧ fetch.results = 0 then
          { s with fetches := s.fetches.eraseIdx i }.resultReady D fetch.requestId {}
          else { s with fetches := s.fetches.eraseIdx i }) := by
        split_ifs
        · exact hdone.trans (tracked_resultReady _ _)
        · exact hdone
      split_ifs at hresult ⊢
      all_goals exact hresult.congr rfl rfl rfl rfl
  | fetchNextMessage currentUserId =>
    simp only [handle, MessagingViewModel.fetchNextMessage]
    split_ifs
    · exact .refl s
    · exact .refl s
    · exact .same rfl rfl rfl rfl
  | nextResult i response =>
    simp only [handle, onNextResult]
    split
    · exact .refl s
    · have hdone : Tracked D s { s with nextPages := s.nextPages.eraseIdx i } := .same rfl rfl rfl rfl
      split_ifs
      · exact hdone
      · exact hdone.trans (tracked_nextResult _ _)
  | resetModel => exact (tracked_reset []).congr rfl rfl rfl rfl
  | messageReceived payload currentUserId =>
    simp only [handle, MessagingViewModel.messageReceived, onMessagedReceived]
    split_ifs
    · exact tracked_insertMessage _
    · exact .refl s
    · exact .refl s
  | messageSent payload currentUserId =>
    simp only [handle, MessagingViewModel.messageSent]
    split_ifs
    · exact (tracked_insertMessage _).trans (tracked_status _ _)
    · exact tracked_status _ _
  | messageSendFinished messageId => exact tracked_status messageId false
  | messageUpdated payload => exact tracked_messageUpdated payload
  | fileUploadStated id path =>
    simp only [handle, MessagingViewModel.fileUploadStated]
    split
    · exact .refl s
    · rename_i m _
      have hupload : Tracked D s (s.setUpload id ⟨m.id, true, false⟩) := .same rfl rfl rfl rfl
      exact hupload.trans (tracked_setUploadProgress _ _)
  | setUploadProgress id uploading => exact tracked_setUploadProgress id uploading
  | removeCanceledUpload id => exact tracked_removeCanceledUpload id
  | deleteMessage rows => exact tracked_deleteMessage rows

lemma shown_step {s : MessagingViewModel × List (MessageItem × Int)} (h : Shown D s.1 s.2) (e : Int × Event) :
    Shown D (watch D s e).1 (watch D s e).2 ∧ AnnouncesValid D s e := by
  obtain ⟨new, hlog, hvalid, hview⟩ := tracked_handle (D := D) (s := { s.1 with log := [], now := e.1 }) e.2 s.2
    ⟨h.rows, h.displayDates, h.sections⟩
  have hlog : (step D s.1 e).log = new := hlog
  refine ⟨?_, ?_⟩
  · rw [watch, hlog]
    exact hview
  · rw [AnnouncesValid, hlog]
    exact hvalid

end

/-- The rows, their texts and a view that follows agree after each operation, and each index it was told
was one of a row. -/
theorem views_shown (message : MessageResponse) (es : List (Int × Event)) :
    (Shown D (after (watch D) (create message, []) es).1 (after (watch D) (create message, []) es).2) ∧
      Each (watch D) (AnnouncesValid D) (create message, []) es := by
  have hcreate : Shown D (create message) [] := ⟨rfl, rfl, rfl⟩
  have hany : Each (watch D) (fun _ _ => True) (create message, []) es := each_true
  constructor
  · exact hany.invariant (I := fun s => Shown D s.1 s.2) hcreate (fun _ e h _ => (shown_step h e).1)
  · exact hany.imp (I := fun s => Shown D s.1 s.2) hcreate (fun _ e h _ => (shown_step h e).1)
      (fun _ e h _ => (shown_step h e).2)

end ChatDesktop.Chat
