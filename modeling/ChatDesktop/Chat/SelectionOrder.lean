import ChatDesktop.Chat.Entity
import ChatDesktop.Library.StableSort
import Mathlib.Data.Int.ConditionallyCompleteOrder
import Mathlib.Order.ConditionallyCompleteLattice.Basic

namespace ChatDesktop.Chat

open Library

/-! ### Batches, one after the other -/

def byIndex (left right : MessageItem) : Bool := left.body.attachmentIndex ≤ right.body.attachmentIndex

def restoreBatch (messages : List MessageItem) (positions : List ℕ) : List MessageItem :=
  putBack messages positions ((positions.filterMap (fun i => messages[i]?)).mergeSort byIndex)

def restoreBatches (visit : List (QString × QString)) (messages : List MessageItem) : List MessageItem :=
  visit.foldl (fun restored batch =>
    restoreBatch restored (positionsOf MessageItem.batch (some batch) messages)) messages

/-- Every batch of the messages once, in any order. -/
structure Visits (visit : List (QString × QString)) (messages : List MessageItem) : Prop where
  nodup : visit.Nodup
  batches : ∀ batch, batch ∈ visit ↔ ∃ m ∈ messages, m.batch = some batch

def MessageItem.index (m : MessageItem) : ℤ := m.body.attachmentIndex.toInt

lemma byIndex_iff (left right : MessageItem) : byIndex left right = true ↔ left.index ≤ right.index := by
  rw [byIndex, decide_eq_true_iff, Int32.le_iff_toInt_le, MessageItem.index, MessageItem.index]

/-- Messages of no batch stay, and each batch is in the order of its indices on its own positions. -/
structure Restored (messages restored : List MessageItem) : Prop where
  perm : restored.Perm messages
  outside : ∀ (i : ℕ) (m : MessageItem), messages[i]? = some m → m.batch = none → restored[i]? = some m
  positions : ∀ batch, positionsOf MessageItem.batch (some batch) restored =
    positionsOf MessageItem.batch (some batch) messages
  ordered : ∀ batch, StablySorted MessageItem.index (classOf MessageItem.batch (some batch) messages)
    (classOf MessageItem.batch (some batch) restored)

section

variable {messages : List MessageItem} {visit : List (QString × QString)}

/-- The batches of `visit` are sorted, the others are as they were. -/
structure PartlyRestored (messages : List MessageItem) (visit : List (QString × QString))
    (restored : List MessageItem) : Prop where
  batches : restored.map MessageItem.batch = messages.map MessageItem.batch
  classes : ∀ batch, classOf MessageItem.batch batch restored =
    if batch ∈ visit.map some then (classOf MessageItem.batch batch messages).mergeSort byIndex
    else classOf MessageItem.batch batch messages

lemma PartlyRestored.initial (messages : List MessageItem) : PartlyRestored messages [] messages :=
  ⟨rfl, fun _ => rfl⟩

lemma PartlyRestored.step {restored : List MessageItem} (h : PartlyRestored messages visit restored)
    {batch : QString × QString} (hbatch : batch ∉ visit) : PartlyRestored messages (visit ++ [batch])
      (restoreBatch restored (positionsOf MessageItem.batch (some batch) messages)) := by
  have hpositions := positionsOf_congr h.batches (some batch)
  have hclass : classOf MessageItem.batch (some batch) restored =
      classOf MessageItem.batch (some batch) messages := by
    rw [h.classes, if_neg (by simpa using hbatch)]
  rw [restoreBatch, ← hpositions, filterMap_positionsOf, hclass]
  have hvalues : ∀ m ∈ (classOf MessageItem.batch (some batch) messages).mergeSort byIndex,
      MessageItem.batch m = some batch := fun m hm => (mem_classOf.mp (List.mem_mergeSort.mp hm)).2
  obtain ⟨hmap, hclasses⟩ := putBack_positionsOf (by rw [List.length_mergeSort, hclass]) hvalues
  refine ⟨hmap.trans h.batches, fun d => ?_⟩
  rw [hclasses, List.map_append, List.map_singleton]
  by_cases hd : d = some batch
  · rw [if_pos hd, if_pos (List.mem_append_right _ (by simpa using hd)), hd]
  · rw [if_neg hd, h.classes]
    simp only [List.mem_append, List.mem_singleton, hd, or_false]

lemma PartlyRestored.visited {restored : List MessageItem} (h : PartlyRestored messages visit restored)
    {rest : List (QString × QString)} (hrest : (visit ++ rest).Nodup) : PartlyRestored messages (visit ++ rest)
      (rest.foldl (fun restored batch =>
        restoreBatch restored (positionsOf MessageItem.batch (some batch) messages)) restored) := by
  induction rest generalizing visit restored with
  | nil => rwa [List.append_nil]
  | cons batch rest ih =>
    have hbatch : batch ∉ visit := fun hmem =>
      (List.nodup_append.mp hrest).2.2 batch hmem batch List.mem_cons_self rfl
    have hassoc : visit ++ batch :: rest = visit ++ [batch] ++ rest := by
      rw [List.append_assoc, List.singleton_append]
    rw [hassoc] at hrest ⊢
    exact ih (h.step hbatch) hrest

lemma Visits.classes (h : Visits visit messages) (batch : Option (QString × QString)) :
    classOf MessageItem.batch batch (restoreBatches visit messages) = match batch with
      | none => classOf MessageItem.batch none messages
      | some batch => (classOf MessageItem.batch (some batch) messages).mergeSort byIndex := by
  rw [restoreBatches, ((PartlyRestored.initial messages).visited h.nodup).classes batch, List.nil_append]
  cases batch with
  | none => rw [if_neg (by simp)]
  | some batch =>
    dsimp only
    by_cases hmem : batch ∈ visit
    · rw [if_pos (List.mem_map_of_mem hmem)]
    · have hnone : classOf MessageItem.batch (some batch) messages = [] :=
        List.eq_nil_iff_forall_not_mem.mpr (fun m hm =>
          hmem ((h.batches batch).mpr ⟨m, mem_classOf.mp hm⟩))
      rw [if_neg (by simpa using hmem), hnone, List.mergeSort_nil]

lemma Visits.map_batch (h : Visits visit messages) :
    (restoreBatches visit messages).map MessageItem.batch = messages.map MessageItem.batch :=
  ((PartlyRestored.initial messages).visited h.nodup).batches

lemma Visits.restored (h : Visits visit messages) : Restored messages (restoreBatches visit messages) := by
  refine ⟨perm_of_classes (f := MessageItem.batch) (fun batch => ?_), fun i m hi hm => ?_, fun batch => ?_,
    fun batch => ?_⟩
  · rw [h.classes]
    cases batch with
    | none => exact .refl _
    | some batch => exact List.mergeSort_perm _ _
  · exact getElem?_of_class h.map_batch.symm (h.classes none).symm hi hm
  · exact positionsOf_congr h.map_batch _
  · rw [h.classes]
    exact StablySorted.mergeSort byIndex_iff _

/-! ### The positions at once -/

lemma getElem?_inSelectionOrder_none {i : ℕ} {m : MessageItem} (hi : messages[i]? = some m) (hm : m.batch = none) :
    (inSelectionOrder messages)[i]? = some m := by
  rw [inSelectionOrder, List.getElem?_mapIdx, hi, Option.map_some, hm]

lemma length_ordered {i : ℕ} {m : MessageItem} {batch : Option (QString × QString)} (hi : messages[i]? = some m)
    (hm : m.batch = batch) : (classOf MessageItem.batch batch (messages.take i)).length <
      ((classOf MessageItem.batch batch messages).mergeSort byIndex).length := by
  rw [List.length_mergeSort]
  exact length_classOf_take hi hm

lemma getElem?_inSelectionOrder {i : ℕ} {m : MessageItem} {batch : QString × QString} (hi : messages[i]? = some m)
    (hm : m.batch = some batch) : (inSelectionOrder messages)[i]? =
      ((classOf MessageItem.batch (some batch) messages).mergeSort byIndex)[
        (classOf MessageItem.batch (some batch) (messages.take i)).length]? := by
  have hlt := length_ordered hi hm
  rw [inSelectionOrder, List.getElem?_mapIdx, hi, Option.map_some, hm, List.getElem?_eq_getElem hlt]
  exact congrArg some (List.getElem_eq_getD m).symm

lemma map_batch_inSelectionOrder (messages : List MessageItem) :
    (inSelectionOrder messages).map MessageItem.batch = messages.map MessageItem.batch := by
  apply List.ext_getElem?
  intro i
  rw [List.getElem?_map, List.getElem?_map]
  cases hi : messages[i]? with
  | none => rw [inSelectionOrder, List.getElem?_mapIdx, hi]; rfl
  | some m =>
    cases hm : m.batch with
    | none => rw [getElem?_inSelectionOrder_none hi hm]
    | some batch =>
      have hlt := length_ordered hi hm
      have hmem := List.mem_mergeSort.mp (List.getElem_mem hlt)
      rw [getElem?_inSelectionOrder hi hm, List.getElem?_eq_getElem hlt, Option.map_some, Option.map_some, hm,
        (mem_classOf.mp hmem).2]

lemma classOf_inSelectionOrder (messages : List MessageItem) (batch : Option (QString × QString)) :
    classOf MessageItem.batch batch (inSelectionOrder messages) = match batch with
      | none => classOf MessageItem.batch none messages
      | some batch => (classOf MessageItem.batch (some batch) messages).mergeSort byIndex := by
  have hmap := map_batch_inSelectionOrder messages
  cases batch with
  | none =>
    apply classOf_of_dealt hmap rfl
    intro i m hi hm
    rw [getElem?_inSelectionOrder_none hi hm, getElem?_classOf hi hm]
  | some batch =>
    exact classOf_of_dealt hmap (List.length_mergeSort _) (fun i m hi hm => getElem?_inSelectionOrder hi hm)

lemma Visits.eq_inSelectionOrder (h : Visits visit messages) :
    restoreBatches visit messages = inSelectionOrder messages := by
  apply eq_of_classes (h.map_batch.trans (map_batch_inSelectionOrder messages).symm)
  intro batch
  rw [h.classes, classOf_inSelectionOrder]

end

/-! ### Times -/

def MessageItem.time (m : MessageItem) : WithTop ℤ :=
  match m.body.timestamp.toLongLong with
  | some epoch => epoch
  | none => ⊤

def MessageItem.marked (currentUserId : QString) (m : MessageItem) : MessageItem :=
  { m with isMine := decide (normalizedId m.senderId = currentUserId) }

lemma not_earlier_iff (left right : MessageItem) :
    (!MessageUsecase.earlier right left) = true ↔ left.time ≤ right.time := by
  rw [MessageUsecase.earlier, MessageItem.time, MessageItem.time]
  cases hl : left.body.timestamp.toLongLong with
  | none =>
    cases hr : right.body.timestamp.toLongLong with
    | none => simp
    | some epoch => simp
  | some epoch =>
    cases hr : right.body.timestamp.toLongLong with
    | none => simp
    | some epoch' => simp

lemma arranged_stablySorted (currentUserId : QString) (response : MessageResponse) :
    StablySorted MessageItem.time (response.messages.map (MessageItem.marked currentUserId))
      (MessageUsecase.arranged currentUserId response).messages :=
  .mergeSort not_earlier_iff _

lemma classOf_marked (currentUserId : QString) (batch : Option (QString × QString)) (messages : List MessageItem) :
    classOf MessageItem.batch batch (messages.map (MessageItem.marked currentUserId)) =
      (classOf MessageItem.batch batch messages).map (MessageItem.marked currentUserId) := List.filter_map

lemma Restored.arranged {messages : List MessageItem} {response : MessageResponse}
    (h : Restored messages response.messages) (currentUserId : QString) {batch : QString × QString}
    (htimes : ∀ m ∈ messages, ∀ m' ∈ messages, m.batch = some batch → m'.batch = some batch →
      m.index < m'.index → m.time ≤ m'.time) :
    (classOf MessageItem.batch (some batch) (MessageUsecase.arranged currentUserId response).messages).Pairwise
      (fun m m' => m.index ≤ m'.index) := by
  have hsorted := (arranged_stablySorted currentUserId response).filter (fun m => decide (m.batch = some batch))
  apply hsorted.keeps
  · change (classOf MessageItem.batch (some batch) _).Pairwise _
    rw [classOf_marked, List.pairwise_map]
    exact (h.ordered batch).ascending
  · have hmem : ∀ m ∈ (response.messages.map (MessageItem.marked currentUserId)).filter
        (fun m => decide (m.batch = some batch)), ∃ m' ∈ messages, m'.batch = some batch ∧
          m.index = m'.index ∧ m.time = m'.time := by
      intro m hm
      obtain ⟨hm, hbatch⟩ := List.mem_filter.mp hm
      obtain ⟨m', hm', rfl⟩ := List.mem_map.mp hm
      exact ⟨m', h.perm.subset hm', of_decide_eq_true hbatch, rfl, rfl⟩
    intro a ha b hb hlt
    obtain ⟨m, hm, hmb, hmi, hmt⟩ := hmem a ha
    obtain ⟨m', hm', hmb', hmi', hmt'⟩ := hmem b hb
    rw [hmt, hmt']
    exact htimes m hm m' hm' hmb hmb' (hmi ▸ hmi' ▸ hlt)

/-- Valid times first and ascending, the other messages after them in the order they had. -/
structure SortedByTime (before after : List MessageItem) : Prop where
  perm : after.Perm before
  split : after = after.filter (fun m => decide (m.time ≠ ⊤)) ++ before.filter (fun m => decide (m.time = ⊤))
  ascending : (after.filter (fun m => decide (m.time ≠ ⊤))).Pairwise (fun m m' => m.time ≤ m'.time)

theorem history_in_order {response : MessageDto} {visit : List (QString × QString)}
    (hvisit : Visits visit (response.messages.map MessageItemDto.toDomain)) (currentUserId : QString) :
    Restored (response.messages.map MessageItemDto.toDomain)
        (restoreBatches visit (response.messages.map MessageItemDto.toDomain)) ∧
      response.toDomain.messages = restoreBatches visit (response.messages.map MessageItemDto.toDomain) ∧
      SortedByTime (response.toDomain.messages.map (MessageItem.marked currentUserId))
        (MessageUsecase.arranged currentUserId response.toDomain).messages ∧
      ∀ batch, (∀ m ∈ response.toDomain.messages, ∀ m' ∈ response.toDomain.messages,
          m.batch = some batch → m'.batch = some batch → m.index < m'.index → m.time ≤ m'.time) →
        (classOf MessageItem.batch (some batch)
          (MessageUsecase.arranged currentUserId response.toDomain).messages).Pairwise
            (fun m m' => m.index ≤ m'.index) := by
  have hsame : response.toDomain.messages = restoreBatches visit (response.messages.map MessageItemDto.toDomain) :=
    hvisit.eq_inSelectionOrder.symm
  have hrestored : Restored (response.messages.map MessageItemDto.toDomain) response.toDomain.messages :=
    hsame ▸ hvisit.restored
  have hsorted := arranged_stablySorted currentUserId response.toDomain
  refine ⟨hvisit.restored, hsame, ⟨hsorted.perm, hsorted.top_last, hsorted.ascending.filter _⟩, ?_⟩
  intro batch htimes
  apply hrestored.arranged
  intro m hm m' hm' hbatch hbatch' hlt
  exact htimes m (hrestored.perm.symm.subset hm) m' (hrestored.perm.symm.subset hm') hbatch hbatch' hlt

def selections : List MessageItemDto :=
  [selected "a" 1, selected "b" 0, {}, selected "a" 0]
where
  selected (sender : String) (index : Int32) : MessageItemDto :=
    { senderId := key sender, body := { attachmentBatchId := key "s", attachmentIndex := index } }

lemma visits_selections :
    Visits [(key "b", key "s"), (key "a", key "s")] (selections.map MessageItemDto.toDomain) := by
  refine ⟨by decide, fun batch => ⟨fun h => ?_, fun ⟨m, hm, hbatch⟩ => ?_⟩⟩
  · simp only [List.mem_cons, List.not_mem_nil, or_false] at h
    obtain rfl | rfl := h
    · exact ⟨(selections.selected "b" 0).toDomain, by simp [selections], by decide⟩
    · exact ⟨(selections.selected "a" 0).toDomain, by simp [selections], by decide⟩
  · simp only [selections, List.map_cons, List.map_nil, List.mem_cons, List.not_mem_nil, or_false] at hm
    obtain rfl | rfl | rfl | rfl := hm
    · exact List.mem_cons_of_mem _ (List.mem_singleton.mpr (Option.some.inj hbatch).symm)
    · exact List.mem_cons.mpr (.inl (Option.some.inj hbatch).symm)
    · exact nomatch hbatch
    · exact List.mem_cons_of_mem _ (List.mem_singleton.mpr (Option.some.inj hbatch).symm)

theorem history_in_order_sample :
    Restored (selections.map MessageItemDto.toDomain)
      (restoreBatches [(key "b", key "s"), (key "a", key "s")] (selections.map MessageItemDto.toDomain)) :=
  (@history_in_order ⟨selections, 1, 200, 4, 1⟩ _ visits_selections (key "a")).1

end ChatDesktop.Chat
