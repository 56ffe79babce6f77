import ChatDesktop.Chat.Dto

/-! Messages as the program shows them. -/

namespace ChatDesktop.Chat

open Library

structure Content where
  type : MessageType := .text
  text : QString := []
  mediaUrl : QString := []
  fileName : QString := []
  fileSize : Int64 := 0
  duration : Int64 := 0
  localpath : QString := []
  deriving DecidableEq

structure Payload where
  isMine : Bool := false
  messageId : QString := []
  senderId : QString := []
  receiverId : QString := []
  replyMessageId : QString := []
  timestamp : QString := []
  content : Content := {}
  attachmentBatchId : QString := []
  attachmentIndex : Int32 := -1
  deriving DecidableEq

structure MessageItem where
  id : QString := []
  senderId : QString := []
  recipientId : QString := []
  body : Payload := {}
  sentAt : QString := []
  isMine : Bool := false
  sending : Bool := false
  sendSuccess : Bool := false
  deriving DecidableEq

structure MessageResponse where
  messages : List MessageItem := []
  page : Int32 := 0
  limit : Int32 := 0
  total : Int32 := 0
  totalPages : Int32 := 0
  deriving DecidableEq

def ContentDto.toDomain (content : ContentDto) : Content where
  type := content.type
  text := content.text
  mediaUrl := content.mediaUrl
  fileName := content.fileName
  fileSize := content.fileSize
  duration := content.duration

def PayloadDto.toDomain (payload : PayloadDto) : Payload where
  messageId := payload.messageId
  senderId := payload.senderId
  receiverId := payload.receiverId
  replyMessageId := payload.replyMessageId
  timestamp := payload.timestamp
  content := payload.content.toDomain
  attachmentBatchId := payload.attachmentBatchId
  attachmentIndex := payload.attachmentIndex

def MessageItemDto.toDomain (item : MessageItemDto) : MessageItem where
  id := item.id
  senderId := item.senderId
  recipientId := item.recipientId
  body := item.body.toDomain
  sentAt := item.sentAt

def MessageItem.batch (m : MessageItem) : Option (QString × QString) :=
  if !m.body.attachmentBatchId.isEmpty ∧ 0 ≤ m.body.attachmentIndex then some (m.senderId, m.body.attachmentBatchId)
  else none

def inSelectionOrder (messages : List MessageItem) : List MessageItem :=
  messages.mapIdx (fun i m =>
    match m.batch with
    | none => m
    | some batch =>
      let positions := messages.filter (fun m => decide (m.batch = some batch))
      let ordered := positions.mergeSort (fun left right => left.body.attachmentIndex ≤ right.body.attachmentIndex)
      let position := ((messages.take i).filter (fun m => decide (m.batch = some batch))).length
      ordered.getD position m)

def MessageDto.toDomain (response : MessageDto) : MessageResponse where
  messages := inSelectionOrder (response.messages.map MessageItemDto.toDomain)
  page := response.page
  limit := response.limit
  total := response.total
  totalPages := response.totalPages

def normalizedId (id : QString) : QString := id.filter (fun u => !decide (u = 0x2D))

/-! ### The use case that fetches them -/

namespace MessageUsecase

def earlier (left right : MessageItem) : Bool :=
  match left.body.timestamp.toLongLong, right.body.timestamp.toLongLong with
  | some leftEpoch, some rightEpoch => leftEpoch < rightEpoch
  | some _, none => true
  | none, _ => false

def arranged (currentUserId : QString) (payloads : MessageResponse) : MessageResponse :=
  { payloads with
    messages := (payloads.messages.map (fun payload =>
      { payload with isMine := decide (normalizedId payload.senderId = currentUserId) })).mergeSort
        (fun left right => !earlier right left) }

end MessageUsecase

end ChatDesktop.Chat
