import ChatDesktop.Library.Json

/-! Messages as they travel between the server, the cache and the program. -/

namespace ChatDesktop.Chat

open Library

abbrev QString := Text

inductive MessageType
  | text
  | voice
  | video
  | location
  | image
  | file
  | sticker
  deriving DecidableEq

structure ContentDto where
  type : MessageType := .text
  text : QString := []
  mediaUrl : QString := []
  fileName : QString := []
  fileSize : Int64 := 0
  duration : Int64 := 0
  deriving DecidableEq

structure PayloadDto where
  messageId : QString := []
  senderId : QString := []
  receiverId : QString := []
  replyMessageId : QString := []
  timestamp : QString := []
  content : ContentDto := {}
  attachmentBatchId : QString := []
  attachmentIndex : Int32 := -1
  deriving DecidableEq

structure MessageItemDto where
  id : QString := []
  senderId : QString := []
  recipientId : QString := []
  body : PayloadDto := {}
  sentAt : QString := []
  deriving DecidableEq

structure MessageDto where
  messages : List MessageItemDto
  page : Int32
  limit : Int32
  total : Int32
  totalPages : Int32
  deriving DecidableEq

/-! ### JSON -/

/-- Compact texts of objects, and what texts are read as, if they are JSON. -/
structure JsonText where
  compact : Json.Object → QString
  parse : QString → Option Json

def key (name : String) : QString := Text.ofAscii name

def MessageType.toString : MessageType → QString
  | .text => key "text"
  | .voice => key "voice"
  | .video => key "video"
  | .location => key "location"
  | .image => key "image"
  | .file => key "file"
  | .sticker => key "sticker"

def MessageType.fromString (string : QString) : MessageType :=
  let value := string.trimmed.toLower
  if value = key "text" then .text
  else if value = key "voice" then .voice
  else if value = key "video" then .video
  else if value = key "location" then .location
  else if value = key "image" then .image
  else if value = key "file" then .file
  else if value = key "sticker" then .sticker
  else .text

def ContentDto.toJson (content : ContentDto) : Json.Object :=
  (if content.type = .voice then [(key "duration", .number content.duration.toInt)] else []) ++
    [(key "fileSize", .number content.fileSize.toInt), (key "file_name", .string content.fileName),
      (key "media_url", .string content.mediaUrl), (key "text", .string content.text),
      (key "type", .string content.type.toString)]

def ContentDto.fromJson (object : Json.Object) : ContentDto where
  type := .fromString (object.value (key "type")).toText
  text := (object.value (key "text")).toText
  mediaUrl := (object.value (key "media_url")).toText
  fileName := (object.value (key "file_name")).toText
  fileSize := (object.value (key "fileSize")).toLongLong
  duration := (object.value (key "duration")).toLongLong

def PayloadDto.toJson (payload : PayloadDto) : Json.Object :=
  (if !payload.attachmentBatchId.isEmpty ∧ 0 ≤ payload.attachmentIndex then
    [(key "attachment_batch_id", .string payload.attachmentBatchId),
      (key "attachment_index", .number payload.attachmentIndex.toInt)] else []) ++
    [(key "content", .object payload.content.toJson), (key "message_id", .string payload.messageId),
      (key "receiver_id", .string payload.receiverId), (key "reply_message_id", .string payload.replyMessageId),
      (key "sender_id", .string payload.senderId), (key "timestamp", .string payload.timestamp)]

def PayloadDto.content? : Json → Option ContentDto
  | .object content => some (.fromJson content)
  | .array [item] => some (.fromJson item.toObject)
  | _ => none

def PayloadDto.fromJson (object : Json.Object) : PayloadDto where
  messageId := (object.value (key "message_id")).toText
  senderId := (object.value (key "sender_id")).toText
  receiverId := (object.value (key "receiver_id")).toText
  replyMessageId := (object.value (key "reply_message_id")).toText
  timestamp := (object.value (key "timestamp")).toText
  content := (PayloadDto.content? (object.value (key "content"))).getD {}
  attachmentBatchId := (object.value (key "attachment_batch_id")).toText
  attachmentIndex := Int32.ofInt ((object.value (key "attachment_index")).toInt (-1))

def isSingleObject : Json → Bool
  | .object _ => true
  | .array [.object _] => true
  | _ => false

section

variable (T : JsonText)

def PayloadDto.fromJsonString (string : QString) : Option PayloadDto :=
  match T.parse string with
  | some (.object object) =>
    if isSingleObject (Json.Object.value object (key "content")) then some (.fromJson object) else none
  | _ => none

def MessageItemDto.toJson (item : MessageItemDto) : Json.Object :=
  [(key "body", .object item.body.toJson), (key "id", .string item.id),
    (key "recipient_id", .string item.recipientId), (key "sender_id", .string item.senderId),
    (key "sent_at", .string item.sentAt)]

def MessageItemDto.fromJson (object : Json.Object) : Option MessageItemDto :=
  let body := match object.value (key "body") with
    | .object body => PayloadDto.fromJsonString T (T.compact body)
    | .string body => PayloadDto.fromJsonString T body
    | _ => none
  body.map (fun body => {
    id := (object.value (key "id")).toText
    senderId := (object.value (key "sender_id")).toText
    recipientId := (object.value (key "recipient_id")).toText
    body := body
    sentAt := (object.value (key "sent_at")).toText })

def MessageDto.toJson (response : MessageDto) : Json.Object :=
  [(key "limit", .number response.limit.toInt),
    (key "messages", .array (response.messages.map (fun item => .object item.toJson))),
    (key "page", .number response.page.toInt), (key "total", .number response.total.toInt),
    (key "total_pages", .number response.totalPages.toInt)]

def messageOf : Json → Option MessageItemDto
  | .object object => MessageItemDto.fromJson T object
  | _ => none

def messagesOf (array : List Json) : Option (List MessageItemDto) := array.mapM (messageOf T)

def MessageDto.fromJson (object : Json.Object) : Option MessageDto :=
  match object.value (key "messages") with
  | .array array =>
    (messagesOf T array).map (fun messages => {
      messages := messages
      page := Int32.ofInt ((object.value (key "page")).toInt 0)
      limit := Int32.ofInt ((object.value (key "limit")).toInt 0)
      total := Int32.ofInt ((object.value (key "total")).toInt 0)
      totalPages := Int32.ofInt ((object.value (key "total_pages")).toInt 0) })
  | _ => none

end

/-! ### What is read back -/

/-- The texts of messages are read as the objects they were made of. -/
structure JsonText.ReadsBack (T : JsonText) : Prop where
  payload : ∀ p : PayloadDto, T.parse (T.compact p.toJson) = some (.object p.toJson)
  response : ∀ r : MessageDto, T.parse (T.compact r.toJson) = some (.object r.toJson)

def ContentDto.encoded (content : ContentDto) : ContentDto :=
  { content with duration := if content.type = .voice then content.duration else 0 }

def PayloadDto.encoded (payload : PayloadDto) : PayloadDto :=
  let kept := !payload.attachmentBatchId.isEmpty ∧ 0 ≤ payload.attachmentIndex
  { payload with
    content := payload.content.encoded
    attachmentBatchId := if kept then payload.attachmentBatchId else []
    attachmentIndex := if kept then payload.attachmentIndex else -1 }

def MessageItemDto.encoded (item : MessageItemDto) : MessageItemDto := { item with body := item.body.encoded }

def MessageDto.encoded (response : MessageDto) : MessageDto :=
  { response with messages := response.messages.map MessageItemDto.encoded }

@[simp] lemma MessageType.fromString_toString (type : MessageType) : MessageType.fromString type.toString = type := by
  cases type <;> decide

lemma ContentDto.fromJson_toJson (content : ContentDto) : ContentDto.fromJson content.toJson = content.encoded := by
  have htype : (content.toJson.value (key "type")).toText = content.type.toString := by
    rw [ContentDto.toJson]
    split_ifs <;> rfl
  have hsize : content.toJson.value (key "fileSize") = .number content.fileSize.toInt := by
    rw [ContentDto.toJson]
    split_ifs <;> rfl
  have hduration : (content.toJson.value (key "duration")).toLongLong =
      if content.type = .voice then content.duration else 0 := by
    rw [ContentDto.toJson]
    split_ifs
    · exact Json.toLongLong_number content.duration
    · rfl
  have htext : (content.toJson.value (key "text")).toText = content.text := by
    rw [ContentDto.toJson]
    split_ifs <;> rfl
  have hurl : (content.toJson.value (key "media_url")).toText = content.mediaUrl := by
    rw [ContentDto.toJson]
    split_ifs <;> rfl
  have hname : (content.toJson.value (key "file_name")).toText = content.fileName := by
    rw [ContentDto.toJson]
    split_ifs <;> rfl
  simp only [ContentDto.fromJson, ContentDto.encoded, htype, MessageType.fromString_toString, htext, hurl, hname, hsize,
    Json.toLongLong_number, hduration]

lemma PayloadDto.fromJson_toJson (payload : PayloadDto) : PayloadDto.fromJson payload.toJson = payload.encoded := by
  have hcontent : PayloadDto.content? (payload.toJson.value (key "content")) = some payload.content.encoded := by
    rw [← ContentDto.fromJson_toJson, PayloadDto.toJson]
    split_ifs <;> rfl
  have hbatch : (payload.toJson.value (key "attachment_batch_id")).toText =
      if !payload.attachmentBatchId.isEmpty ∧ 0 ≤ payload.attachmentIndex then payload.attachmentBatchId else [] := by
    rw [PayloadDto.toJson]
    split_ifs <;> rfl
  have hindex : Int32.ofInt ((payload.toJson.value (key "attachment_index")).toInt (-1)) =
      if !payload.attachmentBatchId.isEmpty ∧ 0 ≤ payload.attachmentIndex then payload.attachmentIndex else -1 := by
    rw [PayloadDto.toJson]
    split_ifs
    · exact (congrArg Int32.ofInt (Json.toInt_number _ _)).trans (Int32.ofInt_toInt _)
    · rfl
  have hid : (payload.toJson.value (key "message_id")).toText = payload.messageId := by
    rw [PayloadDto.toJson]
    split_ifs <;> rfl
  have hsender : (payload.toJson.value (key "sender_id")).toText = payload.senderId := by
    rw [PayloadDto.toJson]
    split_ifs <;> rfl
  have hreceiver : (payload.toJson.value (key "receiver_id")).toText = payload.receiverId := by
    rw [PayloadDto.toJson]
    split_ifs <;> rfl
  have hreply : (payload.toJson.value (key "reply_message_id")).toText = payload.replyMessageId := by
    rw [PayloadDto.toJson]
    split_ifs <;> rfl
  have htime : (payload.toJson.value (key "timestamp")).toText = payload.timestamp := by
    rw [PayloadDto.toJson]
    split_ifs <;> rfl
  simp only [PayloadDto.fromJson, PayloadDto.encoded, hcontent, Option.getD_some, hbatch, hindex, hid, hsender, hreceiver,
    hreply, htime]

section

variable {T : JsonText} (hT : T.ReadsBack)

include hT

lemma PayloadDto.fromJsonString_compact (payload : PayloadDto) :
    PayloadDto.fromJsonString T (T.compact payload.toJson) = some payload.encoded := by
  have hcontent : isSingleObject (payload.toJson.value (key "content")) = true := by
    rw [PayloadDto.toJson]
    split_ifs <;> rfl
  rw [PayloadDto.fromJsonString, hT.payload]
  dsimp only
  rw [if_pos hcontent, PayloadDto.fromJson_toJson]

lemma MessageItemDto.fromJson_toJson (item : MessageItemDto) :
    MessageItemDto.fromJson T item.toJson = some item.encoded := by
  have hbody : item.toJson.value (key "body") = .object item.body.toJson := rfl
  rw [MessageItemDto.fromJson, hbody]
  dsimp only
  rw [PayloadDto.fromJsonString_compact hT]
  rfl

lemma messagesOf_toJson (items : List MessageItemDto) :
    messagesOf T (items.map (fun item => .object item.toJson)) = some (items.map MessageItemDto.encoded) := by
  induction items with
  | nil => rfl
  | cons item items ih =>
    rw [messagesOf] at ih ⊢
    rw [List.map_cons, List.mapM_cons, messageOf, MessageItemDto.fromJson_toJson hT, ih]
    rfl

lemma MessageDto.fromJson_toJson (response : MessageDto) :
    MessageDto.fromJson T response.toJson = some response.encoded := by
  have hmessages : response.toJson.value (key "messages") =
      .array (response.messages.map (fun item => .object item.toJson)) := rfl
  have hnumber : ∀ n : Int32, Int32.ofInt ((Json.number (n.toInt : ℚ)).toInt 0) = n := fun n => by
    rw [Json.toInt_number, Int32.ofInt_toInt]
  rw [MessageDto.fromJson, hmessages]
  dsimp only
  rw [messagesOf_toJson hT, Option.map_some, MessageDto.encoded]
  congr 1
  simp only [MessageDto.mk.injEq, true_and]
  exact ⟨hnumber _, hnumber _, hnumber _, hnumber _⟩

end

lemma MessageItemDto.encoded_encoded (item : MessageItemDto) : item.encoded.encoded = item.encoded := by
  have hcontent : item.body.content.encoded.encoded = item.body.content.encoded := by
    simp only [ContentDto.encoded]
    split_ifs <;> rfl
  simp only [MessageItemDto.encoded, PayloadDto.encoded, hcontent]
  split_ifs with hkept hnone
  · rfl
  · exact absurd hnone.2 (by decide)
  · rfl

/-! ### Identity -/

def conversationId (id : QString) : QString :=
  ((Text.firstSection (Text.firstSection id 0x2F) 0x40)).filter (fun u => !decide (u = 0x2D))

def sameMessage (left right : MessageItemDto) : Bool :=
  (!left.body.messageId.isEmpty && decide (left.body.messageId = right.body.messageId)) ||
    (!left.id.isEmpty && decide (left.id = right.id))

end ChatDesktop.Chat
