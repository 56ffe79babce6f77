import ChatDesktop.Chat.Dto
import ChatDesktop.Network.NetworkClient

/-! Fetches of the conversation list. What the cache has is delivered first. A fetch without an answer is queued
until the network is back. -/

namespace ChatDesktop.Chat

open Library Network

structure ConversationList where
  uuid : QString := []
  name : QString := []
  deriving DecidableEq

abbrev Conversations := List ConversationList

abbrev Response := NetworkResponse Json

/-- `JsonSerializer::parse` for bytes, and UTF-8. -/
structure Documents where
  parse : List UInt8 → Option Json
  toUtf8 : QString → List UInt8
  fromUtf8 : List UInt8 → QString

/-! ### JSON -/

/-- `JsonSerializer::fromArray`, from the item at `index` on. -/
def fromArray {α : Type} (fromJson : Json.Object → Except QString α) : ℕ → List Json → Except QString (List α)
  | _, [] => .ok []
  | index, .object object :: values =>
    match fromJson object with
    | .error error =>
      .error (key "Invalid item at index " ++ key (toString index) ++ key ": " ++ error)
    | .ok item => (fromArray fromJson (index + 1) values).map (item :: ·)
  | index, _ :: _ => .error (key "Item at index " ++ key (toString index) ++ key " is not an object")

structure User where
  uuid : QString := []
  name : QString := []

def User.fromJson (object : Json.Object) : Except QString User :=
  .ok { uuid := (object.value (key "uuid")).toText, name := (object.value (key "name")).toText }

structure ConversationDto where
  users : List User := []

def ConversationDto.fromJson (object : Json.Object) : Except QString ConversationDto :=
  match object.value (key "users") with
  | .array users =>
    match fromArray User.fromJson 0 users with
    | .error error => .error (key "Invalid [Group]: " ++ error)
    | .ok users => .ok { users := users }
  | _ => .error (key "Missing or Invalide [Users]")

def ConversationDto.toDomain (dto : ConversationDto) : Conversations :=
  dto.users.map (fun user => { uuid := user.uuid, name := user.name })

def Documents.conversations (D : Documents) (document : List UInt8) : Option Conversations :=
  match D.parse document with
  | some (.object object) =>
    match ConversationDto.fromJson object with
    | .ok dto => some dto.toDomain
    | .error _ => none
  | _ => none

/-! ### The repository -/

structure ConversationsPromise where
  canceled : Bool := false
  results : List Conversations := []
  finishes : ℕ := 0

namespace ConversationsPromise

def addResult (result : Conversations) (promise : ConversationsPromise) : ConversationsPromise :=
  if promise.canceled || promise.finishes != 0 then promise
  else { promise with results := promise.results ++ [result] }

def finish (promise : ConversationsPromise) : ConversationsPromise :=
  { promise with finishes := promise.finishes + 1 }

def giveUp (promise : ConversationsPromise) : ConversationsPromise :=
  (if promise.results.length = 0 then promise.addResult [] else promise).finish

end ConversationsPromise

/-- What a handler of a response or a queued task has with it. -/
structure Attempt where
  promise : ℕ
  userId : QString
  deriving DecidableEq

structure ConversationsFetch where
  userId : QString
  cached : Option Conversations

structure Success where
  promise : ℕ
  conversations : Conversations
  before : List Conversations
  after : List Conversations

/-- `requests` are those without a response, and `promises` are numbered as the `fetches` are. The last four lists note
what happened. -/
structure ConversationsRepositoryImpl where
  currentUser : Option QString := none
  promises : ℕ → ConversationsPromise := fun _ => {}
  requests : List Attempt := []
  queue : List Attempt := []
  fetches : List ConversationsFetch := []
  attempts : List ℕ := []
  successes : List Success := []
  saves : List (Attempt × QString) := []

namespace ConversationsRepositoryImpl

def change (n : ℕ) (f : ConversationsPromise → ConversationsPromise) (s : ConversationsRepositoryImpl) :
    ConversationsRepositoryImpl :=
  { s with promises := Function.update s.promises n (f (s.promises n)) }

def unchanged : Conversations → Conversations → Bool
  | [], [] => true
  | left :: cached, right :: conversations =>
    decide (left.uuid = right.uuid) && decide (left.name = right.name) && unchanged cached conversations
  | _, _ => false

variable (D : Documents)

/-- Conversations have come in a body, for a fetch that is not canceled. Nothing depends on how saving them goes. -/
def succeed (body : List UInt8) (conversations : Conversations) (attempt : Attempt) (s : ConversationsRepositoryImpl) :
    ConversationsRepositoryImpl :=
  if (s.promises attempt.promise).results.head?.any (fun cached => unchanged cached conversations) then
    s.change attempt.promise .finish
  else
    let s := if attempt.userId.isEmpty then s else { s with saves := s.saves ++ [(attempt, D.fromUtf8 body)] }
    s.change attempt.promise (fun promise => (promise.addResult conversations).finish)

def note (attempt : Attempt) (conversations : Conversations) (s before : ConversationsRepositoryImpl) :
    ConversationsRepositoryImpl :=
  let success : Success :=
    { promise := attempt.promise
      conversations := conversations
      before := (before.promises attempt.promise).results
      after := (s.promises attempt.promise).results }
  { s with successes := s.successes ++ [success] }

def answer (response : Response) (attempt : Attempt) (s : ConversationsRepositoryImpl) : ConversationsRepositoryImpl :=
  if (s.promises attempt.promise).canceled then s.change attempt.promise .finish
  else if !response.isSuccess then
    if response.error = .unknownNetworkError then { s with queue := s.queue ++ [attempt] }
    else s.change attempt.promise .giveUp
  else match D.conversations response.body with
    | none => s.change attempt.promise .giveUp
    | some conversations => (s.succeed D response.body conversations attempt).note attempt conversations s

/-- `reply` is the response that `get` comes back with, if there is one at once. -/
def fetchAttempt (reply : Option Response) (attempt : Attempt) (s : ConversationsRepositoryImpl) :
    ConversationsRepositoryImpl :=
  let s := { s with attempts := s.attempts ++ [attempt.promise] }
  if (s.promises attempt.promise).canceled then s.change attempt.promise .finish
  else match reply with
    | none => { s with requests := s.requests ++ [attempt] }
    | some response => s.answer D response attempt

/-- `cached` is what the cache is read as, unless that throws. -/
def fetchConversations (cached : Option QString) (reply : Option Response) (s : ConversationsRepositoryImpl) :
    ConversationsRepositoryImpl :=
  let n := s.fetches.length
  let userId := s.currentUser.getD []
  let conversations := if userId.isEmpty then none else (cached.map D.toUtf8).bind D.conversations
  let fetch : ConversationsFetch := { userId := userId, cached := conversations }
  let s := { s with fetches := s.fetches ++ [fetch] }
  (conversations.elim s (fun result => s.change n (.addResult result))).fetchAttempt D reply ⟨n, userId⟩

def runPending (replies : ℕ → Option Response) : List Attempt → ConversationsRepositoryImpl →
    ConversationsRepositoryImpl
  | [], s => s
  | attempt :: pending, s => runPending replies pending (s.fetchAttempt D (replies attempt.promise) attempt)

def swapped (s : ConversationsRepositoryImpl) : ConversationsRepositoryImpl := { s with queue := [] }

def retryPending (replies : ℕ → Option Response) (s : ConversationsRepositoryImpl) : ConversationsRepositoryImpl :=
  runPending D replies s.queue s.swapped

def respond (request : ℕ) (response : Response) (s : ConversationsRepositoryImpl) : ConversationsRepositoryImpl :=
  match s.requests[request]? with
  | none => s
  | some attempt => { s with requests := s.requests.eraseIdx request }.answer D response attempt

end ConversationsRepositoryImpl

inductive ConversationsEvent
  | userChanged (user : Option QString)
  | fetchConversations (cached : Option QString) (reply : Option Response)
  | response (request : ℕ) (response : Response)
  | cancel (promise : ℕ)
  | isRetryChanged (isRetry : Bool) (replies : ℕ → Option Response)
  | networkConnected (replies : ℕ → Option Response)

namespace ConversationsRepositoryImpl

variable (D : Documents)

def step (s : ConversationsRepositoryImpl) : ConversationsEvent → ConversationsRepositoryImpl
  | .userChanged user => { s with currentUser := user }
  | .fetchConversations cached reply => s.fetchConversations D cached reply
  | .response request response => s.respond D request response
  | .cancel promise =>
    if promise < s.fetches.length then s.change promise (fun promise => { promise with canceled := true }) else s
  | .isRetryChanged isRetry replies => if isRetry then s.retryPending D replies else s
  | .networkConnected replies => s.retryPending D replies

def run (events : List ConversationsEvent) : ConversationsRepositoryImpl := events.foldl (step D) {}

end ConversationsRepositoryImpl

end ChatDesktop.Chat
