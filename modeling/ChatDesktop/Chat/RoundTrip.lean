import ChatDesktop.Chat.Dto
import ChatDesktop.Library.JsonText

namespace ChatDesktop.Chat

open Library

def JsonText.Exact (T : JsonText) : Prop :=
  ∀ object : Json.Object, Json.Held (.object object) → T.parse (T.compact object) = some (.object object)

/-! ### Objects of messages -/

lemma ContentDto.keys_toJson (content : ContentDto) : content.toJson.map Prod.fst =
    ((if content.type = .voice then ["duration"] else []) ++
      ["fileSize", "file_name", "media_url", "text", "type"]).map key := by
  rw [ContentDto.toJson]
  split_ifs <;> rfl

lemma held_content (content : ContentDto) : Json.Held (.object content.toJson) := by
  refine .object ?_ (fun field hf => ?_)
  · rw [ContentDto.keys_toJson]
    split_ifs <;> decide
  · rw [ContentDto.toJson] at hf
    simp only [List.mem_append, List.mem_ite_nil_right, List.mem_cons, List.not_mem_nil, or_false] at hf
    obtain ⟨-, rfl⟩ | rfl | rfl | rfl | rfl | rfl := hf
    · exact .number _
    · exact .number _
    · exact .string _
    · exact .string _
    · exact .string _
    · exact .string _

lemma PayloadDto.keys_toJson (payload : PayloadDto) : payload.toJson.map Prod.fst =
    ((if !payload.attachmentBatchId.isEmpty ∧ 0 ≤ payload.attachmentIndex then
      ["attachment_batch_id", "attachment_index"] else []) ++
      ["content", "message_id", "receiver_id", "reply_message_id", "sender_id", "timestamp"]).map key := by
  rw [PayloadDto.toJson]
  split_ifs <;> rfl

lemma PayloadDto.pairwise_keys (payload : PayloadDto) : (payload.toJson.map Prod.fst).Pairwise (· < ·) := by
  rw [PayloadDto.keys_toJson]
  split_ifs <;> decide

lemma held_payload (payload : PayloadDto) : Json.Held (.object payload.toJson) := by
  refine .object (payload.pairwise_keys) (fun field hf => ?_)
  rw [PayloadDto.toJson] at hf
  simp only [List.mem_append, List.mem_ite_nil_right, List.mem_cons, List.not_mem_nil, or_false] at hf
  obtain ⟨-, rfl | rfl⟩ | rfl | rfl | rfl | rfl | rfl | rfl := hf
  · exact .string _
  · exact .number _
  · exact held_content _
  · exact .string _
  · exact .string _
  · exact .string _
  · exact .string _
  · exact .string _

lemma held_item (item : MessageItemDto) : Json.Held (.object item.toJson) := by
  have hkeys : (["body", "id", "recipient_id", "sender_id", "sent_at"].map key).Pairwise (· < ·) := by decide
  refine .object hkeys (fun field hf => ?_)
  rw [MessageItemDto.toJson] at hf
  simp only [List.mem_cons, List.not_mem_nil, or_false] at hf
  obtain rfl | rfl | rfl | rfl | rfl := hf
  · exact held_payload _
  · exact .string _
  · exact .string _
  · exact .string _
  · exact .string _

lemma held_response (response : MessageDto) : Json.Held (.object response.toJson) := by
  have hkeys : (["limit", "messages", "page", "total", "total_pages"].map key).Pairwise (· < ·) := by decide
  refine .object hkeys (fun field hf => ?_)
  rw [MessageDto.toJson] at hf
  simp only [List.mem_cons, List.not_mem_nil, or_false] at hf
  obtain rfl | rfl | rfl | rfl | rfl := hf
  · exact .number _
  · refine .array (fun value hv => ?_)
    obtain ⟨item, -, rfl⟩ := List.mem_map.mp hv
    exact held_item item
  · exact .number _
  · exact .number _
  · exact .number _

lemma JsonText.Exact.readsBack {T : JsonText} (hT : T.Exact) : T.ReadsBack :=
  ⟨fun p => hT _ (held_payload p), fun r => hT _ (held_response r)⟩

/-! ### Shapes -/

inductive ContentDto.Shape (content : ContentDto) : Json → Prop
  | object : Shape content (.object content.toJson)
  | single : Shape content (.array [.object content.toJson])

inductive PayloadDto.Shape (payload : PayloadDto) : Json.Object → Prop
  | intro {content : Json} (h : payload.content.Shape content) :
      Shape payload (payload.toJson.assign (key "content") content)

inductive MessageItemDto.Shape (T : JsonText) (item : MessageItemDto) : Json.Object → Prop
  | object {body : Json.Object} (h : item.body.Shape body) :
      Shape T item (item.toJson.assign (key "body") (.object body))
  | text {body : Json.Object} {text : QString} (h : item.body.Shape body) (htext : T.parse text = some (.object body)) :
      Shape T item (item.toJson.assign (key "body") (.string text))

variable {content : ContentDto} {payload : PayloadDto} {item : MessageItemDto}

lemma ContentDto.Shape.content? {json : Json} (h : content.Shape json) :
    PayloadDto.content? json = some content.encoded := by
  cases h with
  | object => exact congrArg some (ContentDto.fromJson_toJson content)
  | single => exact congrArg some (ContentDto.fromJson_toJson content)

lemma ContentDto.Shape.isSingleObject {json : Json} (h : content.Shape json) : isSingleObject json = true := by
  cases h <;> rfl

lemma ContentDto.Shape.held {json : Json} (h : content.Shape json) : Json.Held json := by
  cases h with
  | object => exact held_content content
  | single => exact .array (List.forall_mem_singleton.mpr (held_content content))

lemma PayloadDto.content_mem_keys (payload : PayloadDto) : key "content" ∈ payload.toJson.map Prod.fst := by
  rw [PayloadDto.keys_toJson, List.map_append]
  exact List.mem_append_right _ List.mem_cons_self

lemma PayloadDto.fromJson_assign (object : Json.Object) {json : Json} (h : key "content" ∈ object.map Prod.fst) :
    PayloadDto.fromJson (object.assign (key "content") json) =
      { PayloadDto.fromJson object with content := (PayloadDto.content? json).getD {} } := by
  have hvalue : ∀ name, key name ≠ key "content" →
      Json.Object.value (object.assign (key "content") json) (key name) = object.value (key name) :=
    fun name hname => Json.Object.value_assign object json hname
  rw [PayloadDto.fromJson, Json.Object.value_assign_self json h, hvalue "message_id" (by decide),
    hvalue "sender_id" (by decide), hvalue "receiver_id" (by decide),
    hvalue "reply_message_id" (by decide), hvalue "timestamp" (by decide),
    hvalue "attachment_batch_id" (by decide), hvalue "attachment_index" (by decide)]
  rfl

lemma PayloadDto.Shape.fromJson {object : Json.Object} (h : payload.Shape object) :
    PayloadDto.fromJson object = payload.encoded := by
  obtain ⟨hcontent⟩ := h
  rw [PayloadDto.fromJson_assign _ payload.content_mem_keys, PayloadDto.fromJson_toJson, hcontent.content?]
  rfl

lemma PayloadDto.Shape.fromJsonString {T : JsonText} {object : Json.Object} {text : QString}
    (h : payload.Shape object) (htext : T.parse text = some (.object object)) :
    PayloadDto.fromJsonString T text = some payload.encoded := by
  have hread := h.fromJson
  obtain ⟨hcontent⟩ := h
  rw [PayloadDto.fromJsonString, htext]
  dsimp only
  rw [Json.Object.value_assign_self _ payload.content_mem_keys, if_pos hcontent.isSingleObject, hread]

lemma PayloadDto.Shape.held {object : Json.Object} (h : payload.Shape object) : Json.Held (.object object) := by
  obtain ⟨hcontent⟩ := h
  refine .object ?_ (fun field hf => ?_)
  · rw [Json.Object.keys_assign]
    exact payload.pairwise_keys
  · obtain hf | rfl := Json.Object.mem_assign hf
    · have hpayload := held_payload payload
      cases hpayload with
      | object hkeys h => exact h field hf
    · exact hcontent.held

lemma MessageItemDto.fromJson_assign (T : JsonText) (item : MessageItemDto) {json : Json} {payload : PayloadDto}
    (h : (match json with
      | .object body => PayloadDto.fromJsonString T (T.compact body)
      | .string body => PayloadDto.fromJsonString T body
      | _ => none) = some payload) :
    MessageItemDto.fromJson T (item.toJson.assign (key "body") json) = some { item with body := payload } := by
  have hbody : (item.toJson.assign (key "body") json).value (key "body") = json := rfl
  rw [MessageItemDto.fromJson, hbody]
  exact congrArg _ h

lemma MessageItemDto.Shape.fromJson {T : JsonText} (hT : T.Exact) {object : Json.Object} (h : item.Shape T object) :
    MessageItemDto.fromJson T object = some item.encoded := by
  cases h with
  | object h => exact MessageItemDto.fromJson_assign T item (h.fromJsonString (hT _ h.held))
  | text h htext => exact MessageItemDto.fromJson_assign T item (h.fromJsonString htext)

/-! ### Messages that are kept whole -/

def ContentDto.Kept (content : ContentDto) : Prop := content.type = .voice ∨ content.duration = 0

def PayloadDto.Kept (payload : PayloadDto) : Prop :=
  (payload.attachmentBatchId = [] ∧ payload.attachmentIndex = -1) ∨
    (payload.attachmentBatchId ≠ [] ∧ 0 ≤ payload.attachmentIndex)

def MessageItemDto.Kept (item : MessageItemDto) : Prop := item.body.content.Kept ∧ item.body.Kept

lemma ContentDto.Kept.encoded (h : content.Kept) : content.encoded = content := by
  obtain ⟨type, text, mediaUrl, fileName, fileSize, duration⟩ := content
  obtain rfl | rfl := h
  · rfl
  · exact congrArg _ (ite_self 0)

lemma MessageItemDto.Kept.encoded (h : item.Kept) : item.encoded = item := by
  obtain ⟨hcontent, hbatch⟩ := h
  rw [MessageItemDto.encoded, PayloadDto.encoded, hcontent.encoded]
  obtain ⟨hid, hindex⟩ | ⟨hid, hindex⟩ := hbatch
  · simp only [hid, List.isEmpty_nil, Bool.not_true, Bool.false_eq_true, false_and, if_false, ← hindex]
    rw [← hid]
  · have hkept : (!item.body.attachmentBatchId.isEmpty) = true ∧ 0 ≤ item.body.attachmentIndex :=
      ⟨by simpa using hid, hindex⟩
    simp only [if_pos hkept]

lemma MessageDto.encoded_of_kept {response : MessageDto} (h : ∀ item ∈ response.messages, item.Kept) :
    response.encoded = response := by
  rw [MessageDto.encoded, List.map_congr_left (fun item hitem => (h item hitem).encoded), List.map_id']

theorem message_round_trip {T : JsonText} (hT : T.Exact) (response : MessageDto)
    (h : ∀ item ∈ response.messages, item.Kept) :
    (∃ object, T.parse (T.compact response.toJson) = some (.object object) ∧
      MessageDto.fromJson T object = some response) ∧
    ∀ item ∈ response.messages, ∀ object, item.Shape T object → MessageItemDto.fromJson T object = some item := by
  refine ⟨⟨response.toJson, hT _ (held_response response), ?_⟩, fun item hitem object hshape => ?_⟩
  · rw [MessageDto.fromJson_toJson hT.readsBack, MessageDto.encoded_of_kept h]
  · rw [hshape.fromJson hT, (h item hitem).encoded]

/-! ### A text layer -/

def JsonText.plain : JsonText := ⟨fun object => Json.write (.object object), Json.parse⟩

lemma JsonText.exact_plain : JsonText.plain.Exact := fun _ h => Json.parse_write h.whole

def keptMessages : List MessageItemDto :=
  [{ id := key "m", senderId := key "a", body :=
      { content := { type := .image, fileSize := 7 }, attachmentBatchId := key "s", attachmentIndex := 1 } },
    { id := key "n", senderId := key "a", body := { content := { type := .voice, duration := 2345 } } }]

lemma kept_keptMessages : ∀ item ∈ keptMessages, item.Kept := by
  intro item hitem
  simp only [keptMessages, List.mem_cons, List.not_mem_nil, or_false] at hitem
  obtain rfl | rfl := hitem
  · exact ⟨.inr rfl, .inr ⟨by decide, by decide⟩⟩
  · exact ⟨.inl rfl, .inl ⟨rfl, rfl⟩⟩

theorem message_round_trip_sample :
    (∃ object, JsonText.plain.parse (JsonText.plain.compact (MessageDto.toJson ⟨keptMessages, 2, 200, 250, 2⟩)) =
      some (.object object) ∧ MessageDto.fromJson .plain object = some ⟨keptMessages, 2, 200, 250, 2⟩) ∧
    ∀ item ∈ keptMessages, ∀ object, item.Shape .plain object → MessageItemDto.fromJson .plain object = some item :=
  message_round_trip JsonText.exact_plain ⟨keptMessages, 2, 200, 250, 2⟩ kept_keptMessages

end ChatDesktop.Chat
