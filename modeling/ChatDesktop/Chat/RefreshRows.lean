import ChatDesktop.Chat.DisplayedRows
import ChatDesktop.Library.Matching

namespace ChatDesktop.Chat

open Library Library.ListModel Library.Matching MessagingViewModel

/-- The rows of a refreshed conversation: the messages in order, each over the row it takes, if any;
`source` numbers the rows of before. -/
structure Reconciled (rows incoming result : List MessageItem) (source : ℕ → Option ℕ) : Prop where
  length : result.length = incoming.length
  fresh : ∀ k x, incoming[k]? = some x → source k = none → result[k]? = some x
  taken : ∀ k x j, incoming[k]? = some x → source k = some j → ∃ previous, rows[j]? = some previous ∧
    previous.id = x.id ∧ result[k]? = some (updatedFrom previous x)
  first : ∀ k x j previous, incoming[k]? = some x → rows[j]? = some previous → previous.id = x.id →
    (∀ i < k, source i ≠ some j) → ∃ i ≤ j, source k = some i
  once : ∀ k k' j, source k = some j → source k' = some j → k = k'

section

variable {D : Desktop} {s : MessagingViewModel} {rows shown left incoming : List MessageItem} {x : MessageItem} {k : ℕ}

def takeOver (left : List MessageItem) (x : MessageItem) : MessageItem :=
  ((left.find? (fun m => m.id = x.id)).map (fun previous => updatedFrom previous x)).getD x

lemma modify_append (f : MessageItem → MessageItem) :
    (shown ++ x :: left).modify shown.length f = shown ++ f x :: left := by
  induction shown with
  | nil => rfl
  | cons y shown ih => exact congrArg (y :: ·) ih

lemma reconcileRow_messages (hs : s.message.messages = shown ++ left) :
    (s.reconcileRow D shown.length x).message.messages =
      shown ++ takeOver left x :: left.eraseP (fun m => m.id = x.id) := by
  unfold reconcileRow
  dsimp only
  rw [hs, List.drop_left, List.length_append, takeOver, List.find?_eq_getElem?_findIdx, List.eraseP_eq_eraseIdx]
  cases hfound : left.findIdx? (fun m => m.id = x.id) with
  | none =>
    have hnone := List.findIdx?_eq_none_iff.mp hfound
    have hlast : left.findIdx (fun m => decide (m.id = x.id)) = left.length := List.findIdx_eq_length.mpr hnone
    rw [hlast, if_pos rfl, List.getElem?_eq_none le_rfl, announce, hs]
    have hle : shown.length ≤ (shown ++ left).length := by
      rw [List.length_append]
      exact Nat.le_add_right _ _
    rw [insertIdx_eq_take_drop hle, List.take_left, List.drop_left]
    rfl
  | some i =>
    obtain ⟨hlt, hi⟩ := List.findIdx?_eq_some_iff_findIdx_eq.mp hfound
    have hget : left[i]? = some left[i] := List.getElem?_eq_getElem hlt
    have hmoved : (if shown.length + i ≠ shown.length then
        s.announce (.moveRows (shown.length + i) (shown.length + i) shown.length)
          (move (shown.length + i) shown.length (shown ++ left)) (move (shown.length + i) shown.length s.displayDates)
          (move (shown.length + i) shown.length s.sections) else s).message.messages =
        shown ++ left[i] :: left.eraseIdx i := by
      split_ifs with hmove
      · exact move_append hget
      · obtain rfl : i = 0 := by omega
        rw [hs]
        cases left with
        | nil => cases hlt
        | cons y left => rfl
    rw [hi, if_neg (by omega), hget, announce]
    dsimp only
    rw [hmoved, modify_append]
    rfl

/-! ### The rows of before -/

def sameId (rows : List MessageItem) (j : ℕ) (x : MessageItem) : Bool := rows[j]?.any (fun m => m.id = x.id)

def source (rows incoming : List MessageItem) (k : ℕ) : Option ℕ :=
  served (sameId rows) (List.range rows.length) incoming k

lemma filterMap_range (rows : List MessageItem) : (List.range rows.length).filterMap (rows[·]?) = rows := by
  induction rows with
  | nil => rfl
  | cons y rows ih =>
    rw [List.length_cons, List.range_succ_eq_map, List.filterMap_cons, List.filterMap_map]
    exact congrArg (y :: ·) ih

lemma eraseP_rows (js : List ℕ) (x : MessageItem) : (js.filterMap (rows[·]?)).eraseP (fun m => m.id = x.id) =
    (js.eraseP (sameId rows · x)).filterMap (rows[·]?) := by
  refine List.eraseP_filterMap.trans (congrArg (fun p => (js.eraseP p).filterMap (rows[·]?)) (funext fun j => ?_))
  rw [sameId]
  cases rows[j]? <;> rfl

lemma find?_rows (js : List ℕ) (x : MessageItem) : (js.filterMap (rows[·]?)).find? (fun m => m.id = x.id) =
    (js.find? (sameId rows · x)).bind (rows[·]?) := List.find?_filterMap

lemma reconcile_messages (D : Desktop) (incoming : List MessageItem) (js : List ℕ) (hs : s.message.messages = shown ++ js.filterMap (rows[·]?)) :
    ∃ done, (s.reconcile D shown.length incoming).message.messages =
        shown ++ done ++ (rest (sameId rows) js incoming).filterMap (rows[·]?) ∧
      done.length = incoming.length ∧
      ∀ k x, incoming[k]? = some x → done[k]? =
        some (takeOver ((rest (sameId rows) js (incoming.take k)).filterMap (rows[·]?)) x) := by
  induction incoming generalizing s shown js with
  | nil => exact ⟨[], by rw [reconcile, hs, rest, List.append_nil], rfl, nofun⟩
  | cons y incoming ih =>
    have hrow := reconcileRow_messages (D := D) (x := y) hs
    rw [eraseP_rows, List.append_cons] at hrow
    obtain ⟨done, hmessages, hlen, htaken⟩ := ih _ hrow
    refine ⟨takeOver (js.filterMap (rows[·]?)) y :: done, ?_, congrArg (· + 1) hlen, fun k x hx => ?_⟩
    · rw [List.length_append] at hmessages
      rw [reconcile, rest]
      refine hmessages.trans ?_
      rw [List.append_assoc shown]
      rfl
    · cases k with
      | zero =>
        obtain rfl := Option.some.inj hx
        rfl
      | succ k => exact htaken k x hx

lemma truncate_messages (first : ℕ) : (s.truncate first).message.messages = s.message.messages.take first := by
  unfold truncate
  split_ifs with h
  · rfl
  · exact (List.take_of_length_le (not_lt.mp h)).symm

lemma source_eq (hx : incoming[k]? = some x) :
    source rows incoming k = (rest (sameId rows) (List.range rows.length) (incoming.take k)).find? (sameId rows · x) :=
  served_eq hx

lemma sameId_iff {j : ℕ} : sameId rows j x = true ↔ ∃ previous, rows[j]? = some previous ∧ previous.id = x.id := by
  rw [sameId]
  cases rows[j]? <;> simp

lemma Reconciled.of_takeOver {result : List MessageItem} (hlen : result.length = incoming.length)
    (htaken : ∀ k x, incoming[k]? = some x → result[k]? =
      some (takeOver ((rest (sameId rows) (List.range rows.length) (incoming.take k)).filterMap (rows[·]?)) x)) :
    Reconciled rows incoming result (source rows incoming) where
  length := hlen
  fresh k x hx hnone := by
    rw [source_eq hx] at hnone
    rw [htaken k x hx, takeOver, find?_rows, hnone]
    rfl
  taken k x j hx hsource := by
    obtain ⟨previous, hrow, hid⟩ := sameId_iff.mp (served_fits hx hsource)
    refine ⟨previous, hrow, hid, ?_⟩
    rw [source_eq hx] at hsource
    rw [htaken k x hx, takeOver, find?_rows, hsource, Option.bind_some, hrow]
    rfl
  first k x j previous hx hrow hid hfree := by
    have hlt : j < rows.length := (List.getElem?_eq_some_iff.mp hrow).1
    exact served_first List.pairwise_lt_range hx (List.mem_range.mpr hlt) (sameId_iff.mpr ⟨previous, hrow, hid⟩) hfree
  once k k' j hk hk' := served_once List.nodup_range hk hk'

/-- A refresh leaves the messages, each over the first row with its id that no message before it has taken,
whose path it keeps if the file is the same. -/
theorem refresh_reconciles (D : Desktop) (s : MessagingViewModel) (response : MessageResponse)
    (hdisplayed : s.displayedConversationId = s.activeConversationId) (hid : s.displayedConversationId ≠ []) :
    Reconciled s.message.messages response.messages
        (s.applyFetchedMessages D response s.fetchRequestId).message.messages
        (source s.message.messages response.messages) ∧
      ∀ k x, response.messages[k]? = some x →
        ((s.reconcile D 0 (response.messages.take k)).message.messages.drop k).find? (fun m => m.id = x.id) =
          (source s.message.messages response.messages k).bind (s.message.messages[·]?) := by
  have hstart : s.message.messages = [] ++ (List.range s.message.messages.length).filterMap (s.message.messages[·]?) :=
    (filterMap_range _).symm
  constructor
  · obtain ⟨done, hmessages, hlen, htaken⟩ :=
      reconcile_messages D response.messages _ hstart
    have hresult : (s.applyFetchedMessages D response s.fetchRequestId).message.messages = done := by
      unfold applyFetchedMessages
      rw [if_neg (not_not.mpr rfl), if_pos ⟨hdisplayed, hid⟩]
      refine (truncate_messages _).trans ?_
      rw [List.nil_append] at hmessages
      rw [← hlen]
      exact (congrArg (List.take done.length) hmessages).trans List.take_left
    rw [hresult]
    exact .of_takeOver hlen htaken
  · intro k x hx
    obtain ⟨done, hmessages, hlen, -⟩ :=
      reconcile_messages D (response.messages.take k) _ hstart
    have hk : done.length = k := by
      rw [hlen, List.length_take, Nat.min_eq_left (List.getElem?_eq_some_iff.mp hx).1.le]
    rw [List.nil_append] at hmessages
    have hdrop := congrArg (List.drop done.length) hmessages
    rw [List.drop_left, hk] at hdrop
    rw [source_eq hx, ← find?_rows]
    exact congrArg (List.find? (fun m => decide (m.id = x.id))) hdrop

end

def sampleItem (path : QString) : MessageItem :=
  { id := Text.ofAscii "1", body := { content := { localpath := path } } }

def twinRows : MessagingViewModel where
  message := { messages := [sampleItem (Text.ofAscii "a"), sampleItem (Text.ofAscii "b")] }
  activeConversationId := Text.ofAscii "7"
  displayedConversationId := Text.ofAscii "7"

theorem refresh_reconciles_sample :
    Reconciled twinRows.message.messages [sampleItem [], sampleItem [], sampleItem []]
      [sampleItem (Text.ofAscii "a"), sampleItem (Text.ofAscii "b"), sampleItem []]
      (source twinRows.message.messages [sampleItem [], sampleItem [], sampleItem []]) := by
  obtain ⟨h, -⟩ := refresh_reconciles sampleDesktop twinRows
    { messages := [sampleItem [], sampleItem [], sampleItem []] } rfl (by decide)
  have hrows : (twinRows.applyFetchedMessages sampleDesktop { messages := [sampleItem [], sampleItem [], sampleItem []] }
      twinRows.fetchRequestId).message.messages =
      [sampleItem (Text.ofAscii "a"), sampleItem (Text.ofAscii "b"), sampleItem []] := by decide
  rwa [hrows] at h

end ChatDesktop.Chat
