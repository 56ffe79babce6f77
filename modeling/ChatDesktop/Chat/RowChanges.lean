import ChatDesktop.Chat.RowViews

namespace ChatDesktop.Chat

open Library Library.ListModel Library.Reactive MessagingViewModel

structure Ident where
  id : QString
  messageId : QString
  senderId : QString
  recipientId : QString
  deriving DecidableEq

def ident (m : MessageItem) : Ident := ⟨m.id, m.body.messageId, m.senderId, m.recipientId⟩

def idents (s : MessagingViewModel) : List Ident := s.message.messages.map ident

inductive MessageKey
  | id
  | messageId

def MessageKey.of : MessageKey → Ident → QString
  | id, i => i.id
  | messageId, i => i.messageId

inductive RowChange
  | none
  | append (payload : MessageItem)
  | prepend (messages : List MessageItem)
  | replace (messages : List MessageItem)

def rowChange (s : MessagingViewModel) : Event → RowChange
  | .messageReceived payload _ =>
    if normalizedId payload.senderId = s.userListener ∧ normalizedId payload.senderId = s.activeConversationId then
      .append payload else .none
  | .messageSent payload _ =>
    if normalizedId payload.recipientId = s.activeConversationId then .append payload else .none
  | .nextResult i response =>
    match s.nextPages[i]? with
    | some next =>
      if next.requestId = s.fetchRequestId ∧ ¬response.page < 1 then .prepend response.messages else .none
    | none => .none
  | .fetchResult i response =>
    match s.fetches[i]? with
    | some fetch => if fetch.requestId = s.fetchRequestId then .replace response.messages else .none
    | none => .none
  | .fetchFinished i canceled =>
    match s.fetches[i]? with
    | some fetch =>
      if fetch.requestId = s.fetchRequestId ∧ canceled = false ∧ fetch.results = 0 then .replace [] else .none
    | none => .none
  | _ => .none

def Changed (s s' : MessagingViewModel) : RowChange → Prop
  | .none => (idents s').Sublist (idents s) ∧
      (s'.displayedConversationId = s.displayedConversationId ∨ s'.displayedConversationId = [] ∧ idents s' = [])
  | .append payload => idents s' = idents s ++ [ident payload] ∧ s'.displayedConversationId = s.displayedConversationId
  | .prepend messages => (idents s').Perm (messages.map ident ++ idents s) ∧
      s'.displayedConversationId = s.displayedConversationId
  | .replace messages => (idents s').Perm (messages.map ident) ∧ s'.displayedConversationId = s.activeConversationId

section

variable {D : Desktop} {s s' : MessagingViewModel}

def Unchanged (s s' : MessagingViewModel) : Prop :=
  idents s' = idents s ∧ s'.displayedConversationId = s.displayedConversationId

lemma Unchanged.changed (h : Unchanged s s') : Changed s s' .none :=
  ⟨h.1 ▸ List.Sublist.refl _, Or.inl h.2⟩

lemma arranged_perm (currentUserId : QString) (response : MessageResponse) :
    ((MessageUsecase.arranged currentUserId response).messages.map ident).Perm (response.messages.map ident) := by
  refine ((List.mergeSort_perm _ _).map ident).trans (List.Perm.of_eq ?_)
  rw [List.map_map]
  rfl

lemma map_ident_modify {f : MessageItem → MessageItem} (hf : ∀ m, ident (f m) = ident m) (row : ℕ)
    (l : List MessageItem) : (l.modify row f).map ident = l.map ident := by
  rw [map_modify (h := id) hf, List.modify_id]

lemma ident_updatedFrom (previous incoming : MessageItem) : ident (updatedFrom previous incoming) = ident incoming := by
  unfold updatedFrom
  split_ifs <;> rfl

lemma unchanged_status (messageId : QString) (sending : Bool) :
    Unchanged s (s.updateMessageSeningStatus messageId sending) := by
  unfold updateMessageSeningStatus
  split
  · exact ⟨rfl, rfl⟩
  · refine ⟨map_ident_modify ?_ _ _, rfl⟩
    exact fun _ => rfl

lemma unchanged_messageUpdated (payload : MessageItem) : Unchanged s (s.messageUpdated payload) := by
  unfold messageUpdated
  split
  · exact ⟨rfl, rfl⟩
  · refine ⟨map_ident_modify ?_ _ _, rfl⟩
    exact fun _ => rfl

lemma unchanged_setUploadProgress (id : QString) (uploading : Bool) :
    Unchanged s (s.setUploadProgress id uploading) := by
  unfold setUploadProgress
  split
  · exact ⟨rfl, rfl⟩
  · split_ifs
    · exact ⟨rfl, rfl⟩
    · dsimp only
      split <;> exact ⟨rfl, rfl⟩

def Fewer (s s' : MessagingViewModel) : Prop :=
  (idents s').Sublist (idents s) ∧ s'.displayedConversationId = s.displayedConversationId

lemma fewer_deleteMessage (rows : List Int) : Fewer s (s.deleteMessage rows) := by
  unfold deleteMessage
  generalize (rows.mergeSort (fun a b => b ≤ a)).destutter (· ≠ ·) = rows
  induction rows generalizing s with
  | nil => exact ⟨List.Sublist.refl _, rfl⟩
  | cons row rows ih =>
    rw [List.foldl_cons]
    split_ifs with h
    · exact ih
    · obtain ⟨hrows, hscreen⟩ := ih (s := s.removeRow row.toNat)
      exact ⟨hrows.trans ((List.eraseIdx_sublist ..).map ident), hscreen⟩

lemma fewer_removeCanceledUpload (id : QString) : Fewer s (s.removeCanceledUpload D id) := by
  unfold removeCanceledUpload
  split
  · exact ⟨List.Sublist.refl _, rfl⟩
  · rename_i upload _
    split_ifs
    · exact ⟨List.Sublist.refl _, rfl⟩
    · dsimp only
      split
      · exact ⟨List.Sublist.refl _, rfl⟩
      · split_ifs
        · exact fewer_deleteMessage (s := s.setUpload id { upload with uploading := false, canceled := true }) _
        · exact ⟨List.Sublist.refl _, rfl⟩

/-! ### A refresh -/

lemma take_modify {row : ℕ} {f : MessageItem → MessageItem} {l : List MessageItem} (h : row < l.length) :
    (l.modify row f).take (row + 1) = l.take row ++ [f l[row]] := by
  have hlen : (l.take row).length = row := by rw [List.length_take, Nat.min_eq_left h.le]
  rw [List.modify_eq_take_cons_drop h, List.take_append, hlen, Nat.add_sub_cancel_left,
    List.take_of_length_le (by rw [hlen]; exact Nat.le_succ _)]
  rfl

lemma idents_reconcileRow {row : ℕ} (incoming : MessageItem) (hrow : row ≤ s.message.messages.length) :
    (idents (s.reconcileRow D row incoming)).take (row + 1) = (idents s).take row ++ [ident incoming] := by
  obtain he | ⟨hlt, s', hs', he⟩ := reconcileRow_cases (D := D) incoming hrow
  · have hlen : (s.message.messages.take row).length = row := by rw [List.length_take, Nat.min_eq_left hrow]
    rw [he, idents, idents, announce, insertIdx_eq_take_drop hrow, ← List.map_take, ← List.map_take, List.take_append,
      hlen, Nat.add_sub_cancel_left, List.take_of_length_le (by rw [hlen]; exact Nat.le_succ _), List.map_append]
    rfl
  · obtain ⟨htake, hlt'⟩ : s'.message.messages.take row = s.message.messages.take row ∧
        row < s'.message.messages.length := by
      obtain rfl | ⟨existing, hmoved, hexisting, rfl⟩ := hs'
      · exact ⟨rfl, hlt⟩
      · refine ⟨take_move hmoved.le hexisting, ?_⟩
        rw [announce, length_move hmoved.le hexisting]
        exact hlt
    rw [he, idents, idents, announce, ← List.map_take, ← List.map_take, take_modify hlt', htake, List.map_append,
      List.map_singleton, ident_updatedFrom]

lemma idents_reconcile {row : ℕ} (incoming : List MessageItem) (hrow : row ≤ s.message.messages.length) :
    (idents (s.reconcile D row incoming)).take (row + incoming.length) =
      (idents s).take row ++ incoming.map ident := by
  induction incoming generalizing row s with
  | nil => simp [reconcile]
  | cons m rest ih =>
    have h := ih (length_reconcileRow (D := D) m hrow)
    rw [idents_reconcileRow m hrow] at h
    rw [reconcile, List.length_cons, Nat.add_comm rest.length 1, ← Nat.add_assoc, h]
    simp

lemma displayed_reconcile (row : ℕ) (incoming : List MessageItem) :
    (s.reconcile D row incoming).displayedConversationId = s.displayedConversationId := by
  induction incoming generalizing row s with
  | nil => rfl
  | cons m rest ih =>
    refine (ih (s := s.reconcileRow D row m) (row + 1)).trans ?_
    unfold reconcileRow
    dsimp only
    split_ifs <;> rfl

lemma truncate_eq (first : ℕ) : idents (s.truncate first) = (idents s).take first ∧
    (s.truncate first).displayedConversationId = s.displayedConversationId := by
  unfold truncate
  split_ifs with h
  · exact ⟨List.map_take, rfl⟩
  · refine ⟨(List.take_of_length_le ?_).symm, rfl⟩
    rw [idents, List.length_map]
    omega

lemma idents_apply (messages : MessageResponse) :
    idents (s.applyFetchedMessages D messages s.fetchRequestId) = messages.messages.map ident ∧
      (s.applyFetchedMessages D messages s.fetchRequestId).displayedConversationId = s.activeConversationId := by
  unfold applyFetchedMessages
  rw [if_neg (not_not.mpr rfl)]
  split_ifs with hrefresh
  · obtain ⟨hrows, hscreen⟩ := truncate_eq (s := s.reconcile D 0 messages.messages) messages.messages.length
    have hreconciled := idents_reconcile (D := D) (s := s) messages.messages (Nat.zero_le _)
    rw [Nat.zero_add, List.take_zero, List.nil_append] at hreconciled
    refine ⟨hrows.trans hreconciled, ?_⟩
    exact hscreen.trans ((displayed_reconcile ..).trans hrefresh.1)
  · exact ⟨rfl, rfl⟩

lemma changed_resultReady (requestId : ℕ) (response : MessageResponse) :
    Changed s (s.resultReady D requestId response)
      (if requestId = s.fetchRequestId then .replace response.messages else .none) := by
  unfold resultReady
  by_cases h : requestId = s.fetchRequestId
  · subst h
    rw [if_neg (not_not.mpr rfl), if_pos rfl]
    obtain ⟨hrows, hscreen⟩ := idents_apply (D := D) (s := { s with loading := false }) response
    exact ⟨hrows ▸ List.Perm.refl _, hscreen⟩
  · rw [if_pos h, if_neg h]
    exact Unchanged.changed ⟨rfl, rfl⟩

lemma changed_nextResult (nextPage : Int32) (response : MessageResponse) :
    Changed s (s.applyNextPage D nextPage response)
      (if ¬response.page < 1 then .prepend response.messages else .none) := by
  unfold applyNextPage
  by_cases hpage : response.page < 1
  · rw [if_pos hpage, if_neg (not_not.mpr hpage)]
    exact Unchanged.changed ⟨rfl, rfl⟩
  · rw [if_neg hpage, if_pos hpage]
    by_cases hcount : 0 < response.messages.length
    · simp only [if_pos hcount]
      refine ⟨List.Perm.of_eq ?_, rfl⟩
      exact List.map_append
    · simp only [if_neg hcount]
      rw [Changed, List.length_eq_zero_iff.mp (Nat.eq_zero_of_not_pos hcount)]
      exact ⟨List.Perm.refl _, rfl⟩

lemma Changed.congr {s₁ : MessagingViewModel} {c : RowChange} (h : Changed s₁ s' c)
    (hm : s₁.message.messages = s.message.messages) (hd : s₁.displayedConversationId = s.displayedConversationId)
    (ha : s₁.activeConversationId = s.activeConversationId) : Changed s s' c := by
  have hi : idents s₁ = idents s := congrArg (List.map ident) hm
  cases c with
  | none => exact ⟨hi ▸ h.1, hd ▸ h.2⟩
  | append payload => exact ⟨hi ▸ h.1, h.2.trans hd⟩
  | prepend messages => exact ⟨hi ▸ h.1, h.2.trans hd⟩
  | replace messages => exact ⟨h.1, h.2.trans ha⟩

lemma Changed.arranged {currentUserId : QString} {response : MessageResponse} :
    (Changed s s' (.replace (MessageUsecase.arranged currentUserId response).messages) →
      Changed s s' (.replace response.messages)) ∧
    (Changed s s' (.prepend (MessageUsecase.arranged currentUserId response).messages) →
      Changed s s' (.prepend response.messages)) :=
  ⟨fun h => ⟨h.1.trans (arranged_perm ..), h.2⟩,
    fun h => ⟨h.1.trans ((arranged_perm ..).append_right _), h.2⟩⟩

lemma changed_handle (e : Event) : Changed s (s.handle D e) (rowChange s e) := by
  cases e with
  | fetchMessage userId currentUserId => exact Unchanged.changed ⟨rfl, rfl⟩
  | fetchResult i response =>
    simp only [handle, onFetchResult, rowChange]
    cases hfetch : s.fetches[i]? with
    | none => exact Unchanged.changed ⟨rfl, rfl⟩
    | some fetch =>
      have h := changed_resultReady (D := D)
        (s := { s with fetches := s.fetches.set i { fetch with results := fetch.results + 1 } })
        fetch.requestId (MessageUsecase.arranged fetch.currentUserId response)
      dsimp only at h ⊢
      split_ifs at h ⊢
      · exact (Changed.arranged.1 h).congr rfl rfl rfl
      · exact h.congr rfl rfl rfl
  | fetchFinished i canceled =>
    simp only [handle, onFetchFinished, rowChange]
    cases hfetch : s.fetches[i]? with
    | none => exact Unchanged.changed ⟨rfl, rfl⟩
    | some fetch =>
      have h := changed_resultReady (D := D) (s := { s with fetches := s.fetches.eraseIdx i }) fetch.requestId {}
      by_cases hempty : canceled = false ∧ fetch.results = 0
      · have h' : Changed s (resultReady D fetch.requestId {} { s with fetches := s.fetches.eraseIdx i })
            (if fetch.requestId = s.fetchRequestId ∧ canceled = false ∧ fetch.results = 0 then .replace [] else .none) := by
          simp only [hempty, and_self, and_true]
          exact h.congr rfl rfl rfl
        simp only [hempty, Bool.not_false, and_self, if_true, and_true] at h' ⊢
        split_ifs at h' ⊢
        all_goals exact h'
      · have hno : ¬((!canceled) = true ∧ fetch.results = 0) := by simpa using hempty
        have hnone : ¬(fetch.requestId = s.fetchRequestId ∧ canceled = false ∧ fetch.results = 0) :=
          fun h => hempty h.2
        simp only [if_neg hno, if_neg hnone]
        split_ifs <;> exact Unchanged.changed ⟨rfl, rfl⟩
  | fetchNextMessage currentUserId =>
    simp only [handle, MessagingViewModel.fetchNextMessage, rowChange]
    split_ifs <;> exact Unchanged.changed ⟨rfl, rfl⟩
  | nextResult i response =>
    simp only [handle, onNextResult, rowChange]
    cases hnext : s.nextPages[i]? with
    | none => exact Unchanged.changed ⟨rfl, rfl⟩
    | some next =>
      have h := changed_nextResult (D := D) (s := { s with nextPages := s.nextPages.eraseIdx i }) next.page
        (MessageUsecase.arranged next.currentUserId response)
      have hpage : (MessageUsecase.arranged next.currentUserId response).page = response.page := rfl
      rw [hpage] at h
      dsimp only
      by_cases hcurrent : next.requestId = s.fetchRequestId
      · rw [if_neg (not_not.mpr hcurrent)]
        simp only [hcurrent, true_and]
        by_cases hlt : response.page < 1
        · rw [if_neg (not_not.mpr hlt)] at h ⊢
          exact h.congr rfl rfl rfl
        · rw [if_pos hlt] at h ⊢
          exact (Changed.arranged.2 h).congr rfl rfl rfl
      · rw [if_pos hcurrent, if_neg fun h => hcurrent h.1]
        exact Unchanged.changed ⟨rfl, rfl⟩
  | resetModel => exact ⟨List.nil_sublist _, Or.inr ⟨rfl, rfl⟩⟩
  | messageReceived payload currentUserId =>
    simp only [handle, MessagingViewModel.messageReceived, onMessagedReceived, rowChange]
    by_cases hlistener : normalizedId payload.senderId = s.userListener
    · by_cases hactive : normalizedId payload.senderId = s.activeConversationId
      · rw [if_pos hlistener, if_pos hactive, if_pos ⟨hlistener, hactive⟩]
        exact ⟨List.map_append, rfl⟩
      · rw [if_pos hlistener, if_neg hactive, if_neg fun h => hactive h.2]
        exact Unchanged.changed ⟨rfl, rfl⟩
    · rw [if_neg hlistener, if_neg fun h => hlistener h.1]
      exact Unchanged.changed ⟨rfl, rfl⟩
  | messageSent payload currentUserId =>
    simp only [handle, MessagingViewModel.messageSent, rowChange]
    by_cases hactive : normalizedId payload.recipientId = s.activeConversationId
    · simp only [if_pos hactive]
      obtain ⟨hrows, hscreen⟩ := unchanged_status (s := s.insertMessage D
        { payload with isMine := decide (payload.senderId = currentUserId) }) payload.id true
      exact ⟨hrows.trans List.map_append, hscreen⟩
    · simp only [if_neg hactive]
      exact (unchanged_status payload.id true).changed
  | messageSendFinished messageId => exact (unchanged_status messageId false).changed
  | messageUpdated payload => exact (unchanged_messageUpdated payload).changed
  | fileUploadStated id path =>
    simp only [handle, MessagingViewModel.fileUploadStated]
    split
    · exact Unchanged.changed ⟨rfl, rfl⟩
    · exact (unchanged_setUploadProgress (s := s.setUpload id _) id true).changed
  | setUploadProgress id uploading => exact (unchanged_setUploadProgress id uploading).changed
  | removeCanceledUpload id =>
    obtain ⟨hrows, hscreen⟩ := fewer_removeCanceledUpload (D := D) (s := s) id
    exact ⟨hrows, Or.inl hscreen⟩
  | deleteMessage rows =>
    obtain ⟨hrows, hscreen⟩ := fewer_deleteMessage (s := s) rows
    exact ⟨hrows, Or.inl hscreen⟩

end

theorem changed_step (D : Desktop) (s : MessagingViewModel) (e : Int × Event) :
    Changed s (step D s e) (rowChange s e.2) :=
  (changed_handle (D := D) (s := { s with log := [], now := e.1 }) e.2).congr rfl rfl rfl

end ChatDesktop.Chat
