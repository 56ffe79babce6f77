import ChatDesktop.Chat.MessageCache

/-! The history of a conversation in the message cache: the pages as the server sent them, and the messages
that came since. -/

namespace ChatDesktop.Chat

open Library Storage

structure Conversation where
  account : QString
  id : QString
  deriving DecidableEq

def Conversation.key (c : Conversation) : QString × QString := (conversationId c.account, conversationId c.id)

def Conversation.blank (c : Conversation) : Bool :=
  (conversationId c.account).isEmpty || (conversationId c.id).isEmpty

structure Snapshots (σ : Type) where
  read : Bytes → StateM σ (Option QString)
  save : Bytes → QString → StateM σ Bool

namespace MessageCache

variable {σ : Type} (S : Snapshots σ)

def pageRoot (page : Int32) : Bytes := (Nat.toDigits 10 page.toInt.toNat).map (fun c => UInt8.ofNat c.toNat)

def pendingRoot : Bytes :=
  [0x70, 0x65, 0x6E, 0x64, 0x69, 0x6E, 0x67, 0x2D, 0x6D, 0x65, 0x73, 0x73, 0x61, 0x67, 0x65, 0x73]

def savePage (objects : QString) (page : Int32) : StateM σ Bool :=
  if page < 1 then pure false else S.save (pageRoot page) objects

def savePending (objects : QString) : StateM σ Bool := S.save pendingRoot objects

def readPage (page : Int32) : StateM σ (Option QString) := if page < 1 then pure none else S.read (pageRoot page)

def readPending : StateM σ (Option QString) := S.read pendingRoot

end MessageCache

namespace MessageHistoryCache

def secret (c : Conversation) : QString :=
  Text.ofLatin1 (base64 (Json.arrayOfStrings [conversationId c.account, conversationId c.id]))

variable (P : Platform) {σ : Type} (S : Snapshots σ)

def noMessages (page : Int32) : MessageDto := ⟨[], page, 200, 0, 0⟩

def decoded (page : Int32) (document : QString) : Option MessageDto :=
  match P.json.parse document with
  | some (.object object) => (MessageDto.fromJson P.json object).filter (fun response => decide (response.page = page))
  | _ => none

def readSnapshot (page : Int32) (live : Bool) : StateM σ MessageDto := do
  let json ← if live then MessageCache.readPending S else MessageCache.readPage S page
  pure ((json.bind (decoded P page)).getD (noMessages page))

def writeSnapshot (c : Conversation) (response : MessageDto) (live : Bool) : StateM σ Bool :=
  if c.blank then pure false
  else if live then MessageCache.savePending S (P.json.compact response.toJson)
  else MessageCache.savePage S (P.json.compact response.toJson) response.page

def addLive (result : MessageDto) (message : MessageItemDto) : MessageDto :=
  if result.messages.any (fun item => sameMessage item message) then result
  else { result with messages := result.messages ++ [message], total := P.increment result.total }

def read (page : Int32) : StateM σ MessageDto := do
  let result ← readSnapshot P S page false
  if page = 1 then
    let live ← readSnapshot P S 1 true
    let result := live.messages.foldl (addLive P) result
    pure (if result.messages.isEmpty then result else { result with totalPages := max 1 result.totalPages })
  else pure result

def unacknowledged (response live : MessageDto) : List MessageItemDto :=
  live.messages.filter (fun message => !response.messages.any (fun item => sameMessage item message))

def savePage (c : Conversation) (response : MessageDto) : StateM σ Bool := do
  let saved ← writeSnapshot P S c response false
  if saved then
    let live ← readSnapshot P S 1 true
    if (unacknowledged response live).length = live.messages.length then pure true
    else writeSnapshot P S c { live with messages := unacknowledged response live } true
  else pure false

def putMessage (message : MessageItemDto) : List MessageItemDto → List MessageItemDto
  | [] => [message]
  | item :: items => if sameMessage item message then message :: items else item :: putMessage message items

def saveMessage (c : Conversation) (message : MessageItemDto) : StateM σ Bool := do
  let live ← readSnapshot P S 1 true
  writeSnapshot P S c { live with messages := putMessage message live.messages } true

def fileName (c : Conversation) : Bytes := FileNameHelper.hexName P (conversationId c.id) (secret c)

def snapshots (c : Conversation) : Snapshots Cache where
  read := MessageCache.readSnapshot P (conversationId c.id) (secret c)
  save root objects := MessageCache.saveSnapshot P objects (conversationId c.id) (secret c) root

end MessageHistoryCache

end ChatDesktop.Chat
