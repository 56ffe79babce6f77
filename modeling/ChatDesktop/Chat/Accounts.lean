import ChatDesktop.Chat.PageFetches
import ChatDesktop.Chat.ReceivedMessages
import ChatDesktop.Session.TokenRefresh
import ChatDesktop.Xmpp.Reconnection

/-! The message repository while accounts change. There is one for all of them: what it queues, sends and fetches
outlives a logout, and it asks for the account anew at every turn. -/

namespace ChatDesktop.Chat.Accounts

open Library Storage MessageHistoryCache Receiving

structure CurrentUser where
  username : QString
  userId : QString

def getCurrentUser (io : Bool) (stored : Session.Stored) : Option CurrentUser :=
  match Session.AuthStorage.read io stored with
  | none => none
  | some (_, session) =>
    if (session.value (key "version")).toInt 0 ≠ 1 then none
    else
      let user := (session.value (key "user")).toObject
      match user.value (key "username"), user.value (key "id") with
      | .string username, .string id => some ⟨username, id⟩
      | _, _ => none

inductive Kind
  | message
  | voice
  | image
  | file
  deriving DecidableEq

structure Send where
  kind : Kind
  payload : PayloadDto
  account : QString
  user : Option QString
  canceled : Bool := false

def Send.cancel (send : Send) : Send := if send.kind = .message then send else { send with canceled := true }

inductive Stage
  | uploading
  | handed
  | ended
  deriving DecidableEq

structure Fetch where
  account : QString
  user : Option QString
  userId : QString
  page : PageFetch

/-- What the repository does for an account: it uses a cache, or a message leaves or is saved over a connection. -/
inductive Use
  | cache (account : QString) (user : Option QString)
  | handed (currentJid : QString) (send : Send)
  | saved (currentJid : QString) (send : Send)

structure AppState where
  app : Session.App
  xmpp : Xmpp.XmppManager := {}
  cache : Cache := {}
  queue : List Send := []
  sending : Option (Send × Stage) := none
  fetches : List Fetch := []
  uses : List Use := []

def jidUser (jid : QString) : QString := Text.firstSection jid 0x40

namespace AppState

def user (s : AppState) : Option QString := (getCurrentUser true s.app.stored).map CurrentUser.userId

def account (io : Bool) (s : AppState) : Account where
  currentJid := s.xmpp.currentJid
  storedUser := (getCurrentUser io s.app.stored).map CurrentUser.userId

def currentUserId (io : Bool) (s : AppState) : QString := (s.account io).currentUserId

def note (use : Use) (s : AppState) : AppState := { s with uses := s.uses ++ [use] }

section

variable (P : Platform)

def fetchMessageById (userId : QString) (page : Int32) (io : Bool) (s : AppState) : AppState :=
  if page < 1 then s
  else
    let account := s.currentUserId io
    if page = 1 then
      let (history, cache) := MessageHistoryCache.read P (snapshots P ⟨account, userId⟩) page s.cache
      let fetch : Fetch := ⟨account, s.user, userId, { page := page, cache := history.toDomain }⟩
      { s with cache := cache, fetches := s.fetches ++ [fetch] }.note (.cache account s.user)
    else { s with fetches := s.fetches ++ [⟨account, s.user, userId, { page := page }⟩] }

def responded (i : ℕ) (body : Option QString) (s : AppState) : AppState :=
  match s.fetches[i]? with
  | none => s
  | some fetch =>
    let s := { s with fetches := s.fetches.eraseIdx i }
    match (fetch.page.respond P body).2 with
    | none => s
    | some response =>
      let conv : Conversation := ⟨fetch.account, fetch.userId⟩
      { s with cache := (savePage P (snapshots P conv) conv response s.cache).2 }.note (.cache fetch.account fetch.user)

def hand (send : Send) (s : AppState) : AppState :=
  { s with sending := some (send, .handed) }.note (.handed s.xmpp.currentJid send)

def start (send : Send) (s : AppState) : AppState :=
  match send.kind with
  | .message => s.hand send
  | .file => { s with sending := some (send, .uploading) }
  | .voice | .image =>
    { s with sending := some (send, .uploading) }.note (.cache send.payload.senderId send.user)

def nextProcess (s : AppState) : AppState :=
  if s.sending.isSome || s.queue.isEmpty then s
  else
    match s.queue.dropWhile Send.canceled with
    | [] => { s with queue := [] }
    | send :: queue =>
      if s.xmpp.clientState = .connected then { s with queue := queue }.start send
      else { s with queue := send :: queue }

def enqueue (kind : Kind) (payload : PayloadDto) (io : Bool) (s : AppState) : AppState :=
  let account := s.currentUserId io
  let send : Send := ⟨kind, { payload with senderId := account }, account, s.user, false⟩
  { s with queue := s.queue ++ [send] }.nextProcess

def cancel (i : ℕ) (s : AppState) : AppState := { s with queue := s.queue.modify i Send.cancel }

def uploaded (success io : Bool) (s : AppState) : AppState :=
  match s.sending with
  | some (send, .uploading) =>
    if success then
      let s := if send.kind = .file then s.note (.cache (s.currentUserId io) send.user) else s
      s.hand send
    else { s with sending := some (send, .ended) }
  | _ => s

def saveMessage (send : Send) (io : Bool) (s : AppState) : AppState :=
  let s := s.note (.saved s.xmpp.currentJid send)
  match PayloadDto.fromJsonString P.json (P.json.compact send.payload.toJson) with
  | none => s
  | some payload =>
    let conv : Conversation := ⟨s.currentUserId io, send.payload.receiverId⟩
    { s with
      cache := (MessageHistoryCache.saveMessage P (snapshots P conv) conv (MessageRepository.itemOf payload) s.cache).2
    }.note (.cache (s.currentUserId io) send.user)

def sent (error : QString) (io : Bool) (s : AppState) : AppState :=
  match s.sending with
  | some (send, .handed) =>
    let s := { s with sending := some (send, .ended) }
    if error.isEmpty then s.saveMessage P send io else s
  | _ => s

def finished (s : AppState) : AppState :=
  match s.sending with
  | some (_, .ended) => { s with sending := none }.nextProcess
  | _ => s

def received (message : Message) (io : Bool) (s : AppState) : AppState :=
  match accepted P message with
  | none => s
  | some _ =>
    { s with cache := (MessageRepository.onMessageReceived P (s.account io) message s.cache).2 }.note
      (.cache (s.currentUserId io) s.user)

def manage (s : AppState) : Session.Effect → AppState
  | .connectToServer jid password host port =>
    { s with xmpp := (s.xmpp.handle (.connectToServer jid password host port)).1 }
  | .closeConnection => { s with xmpp := (s.xmpp.handle .closeConnection).1 }
  | .closeAll => { s with cache := (MessageCache.closeAll s.cache).2 }
  | _ => s

def session (e : Session.Event) (s : AppState) : AppState :=
  (s.app.handle e).2.foldl manage { s with app := (s.app.handle e).1 }

def connection (e : Xmpp.Event) (s : AppState) : AppState :=
  let s' := { s with xmpp := (s.xmpp.handle e).1 }
  if .connectedChanged ∈ (s.xmpp.handle e).2 then s'.nextProcess else s'

end

end AppState

inductive Event
  | session (e : Session.Event)
  | connection (e : Xmpp.Event)
  | fetchMessageById (userId : QString) (page : Int32) (io : Bool)
  | responded (i : ℕ) (body : Option QString)
  | enqueue (kind : Kind) (payload : PayloadDto) (io : Bool)
  | cancel (i : ℕ)
  | uploaded (success io : Bool)
  | sent (error : QString) (io : Bool)
  | finished
  | received (message : Message) (io : Bool)

def step (P : Platform) (s : AppState) : Event → AppState
  | .session e => s.session e
  | .connection e => s.connection e
  | .fetchMessageById userId page io => s.fetchMessageById P userId page io
  | .responded i body => s.responded P i body
  | .enqueue kind payload io => s.enqueue kind payload io
  | .cancel i => s.cancel i
  | .uploaded success io => s.uploaded success io
  | .sent error io => s.sent P error io
  | .finished => s.finished
  | .received message io => s.received P message io

end ChatDesktop.Chat.Accounts
