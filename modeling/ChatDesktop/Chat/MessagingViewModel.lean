import ChatDesktop.Chat.Entity
import ChatDesktop.Library.ListModel
import Mathlib.Data.List.Destutter

/-! The messages of the conversation on screen: the view model and the use case behind it. The voice
recorder, downloads and the progress of an upload do not touch the rows and are left out. -/

namespace ChatDesktop.Chat

open Library Library.ListModel

inductive Role
  | sending
  | contents
  | filePath
  | fileSize
  | downloadedFile
  | uploadProgress
  | isUploading
  deriving DecidableEq

structure FileUpload where
  messageId : QString
  uploading : Bool
  canceled : Bool := false
  deriving DecidableEq

/-- Local dates as day numbers and as text, for seconds since the epoch; which strings are one URL; and the
order a hash is iterated in. -/
structure Desktop where
  date : Int → Option Int
  text : String → Int → QString
  sameUrl : QString → QString → Bool
  hashOrder : List (QString × FileUpload) → List (QString × FileUpload)

structure Fetch where
  requestId : ℕ
  currentUserId : QString
  results : ℕ
  deriving DecidableEq

structure NextPage where
  requestId : ℕ
  page : Int32
  currentUserId : QString
  deriving DecidableEq

/-- `userListener` is the use case's, `log` what the running event has announced at the time `now`. -/
structure MessagingViewModel where
  message : MessageResponse
  displayDates : List QString := []
  sections : List QString := []
  activeConversationId : QString := []
  displayedConversationId : QString := []
  fetchRequestId : ℕ := 0
  loading : Bool := false
  fileUploads : List (QString × FileUpload) := []
  userListener : QString := []
  fetches : List Fetch := []
  nextPages : List NextPage := []
  now : Int := 0
  log : List (Announcement MessageItem Int Role) := []
  deriving DecidableEq

namespace MessagingViewModel

section

variable (D : Desktop)

def formateConversationDate (now : Int) (epochString : QString) : QString :=
  match epochString.toLongLong with
  | none => Text.ofAscii "N/A"
  | some epoch =>
    let today := (D.date now).getD 0
    match D.date epoch with
    | none => D.text "dd MMM yyyy" epoch
    | some date =>
      if date = today then D.text "hh:mm AP" epoch
      else if date = today - 1 then Text.ofAscii "Yesterday"
      else if today - 7 < date then D.text "ddd" epoch
      else D.text "dd MMM yyyy" epoch

def sectionForDate (now : Int) (sentAt : QString) : QString :=
  match sentAt.toLongLong with
  | none => []
  | some epochSeconds =>
    let today := (D.date now).getD 0
    match D.date epochSeconds with
    | none => []
    | some date =>
      if date = today then Text.ofAscii "Today"
      else if date = today - 1 then Text.ofAscii "Yesterday"
      else D.text "dd MMM yyyy" epochSeconds

def dateOf (now : Int) (m : MessageItem) : QString := formateConversationDate D now m.body.timestamp

def sectionOf (now : Int) (m : MessageItem) : QString := sectionForDate D now m.body.timestamp

/-! ### Rows -/

def announce (change : Change Role) (messages : List MessageItem) (displayDates sections : List QString)
    (s : MessagingViewModel) : MessagingViewModel :=
  { s with
    message := { s.message with messages := messages }
    displayDates := displayDates
    sections := sections
    log := s.log ++ [⟨change, s.message.messages, messages, s.now⟩] }

def dataChanged (row : ℕ) (roles : List Role) (s : MessagingViewModel) : MessagingViewModel :=
  s.announce (.dataChanged row roles) s.message.messages s.displayDates s.sections

def firstRow (p : MessageItem → Bool) (s : MessagingViewModel) : Option ℕ := s.message.messages.findIdx? p

def insertMessage (payload : MessageItem) (s : MessagingViewModel) : MessagingViewModel :=
  let row := s.message.messages.length
  s.announce (.insertRows row row) (s.message.messages ++ [payload]) (s.displayDates ++ [dateOf D s.now payload])
    (s.sections ++ [sectionOf D s.now payload])

def removeRow (row : ℕ) (s : MessagingViewModel) : MessagingViewModel :=
  s.announce (.removeRows row row) (s.message.messages.eraseIdx row) (s.displayDates.eraseIdx row)
    (s.sections.eraseIdx row)

def deleteMessage (rows : List Int) (s : MessagingViewModel) : MessagingViewModel :=
  ((rows.mergeSort (fun a b => b ≤ a)).destutter (· ≠ ·)).foldl (fun s row =>
    if row < 0 ∨ (s.message.messages.length : Int) ≤ row then s else s.removeRow row.toNat) s

def updateMessageSeningStatus (messageId : QString) (sending : Bool) (s : MessagingViewModel) :
    MessagingViewModel :=
  match s.firstRow (fun m => m.body.messageId = messageId) with
  | none => s
  | some row =>
    s.announce (.dataChanged row [.sending])
      (s.message.messages.modify row (fun m => { m with sending := sending })) s.displayDates s.sections

/-! ### Results of a fetch -/

def updatedFrom (previous incoming : MessageItem) : MessageItem :=
  if incoming.body.content.localpath = [] ∧ incoming.body.content.mediaUrl = previous.body.content.mediaUrl then
    { incoming with body := { incoming.body with
        content := { incoming.body.content with localpath := previous.body.content.localpath } } }
  else incoming

def reconcileRow (row : ℕ) (incoming : MessageItem) (s : MessagingViewModel) : MessagingViewModel :=
  let existing := row + (s.message.messages.drop row).findIdx (fun m => m.id = incoming.id)
  if existing = s.message.messages.length then
    s.announce (.insertRows row row) (s.message.messages.insertIdx row incoming)
      (s.displayDates.insertIdx row (dateOf D s.now incoming)) (s.sections.insertIdx row (sectionOf D s.now incoming))
  else
    let s := if existing ≠ row then
      s.announce (.moveRows existing existing row) (move existing row s.message.messages)
        (move existing row s.displayDates) (move existing row s.sections) else s
    s.announce (.dataChanged row [])
      (s.message.messages.modify row (fun previous => updatedFrom previous incoming))
      (s.displayDates.set row (dateOf D s.now incoming)) (s.sections.set row (sectionOf D s.now incoming))

def reconcile (row : ℕ) : List MessageItem → MessagingViewModel → MessagingViewModel
  | [], s => s
  | incoming :: rest, s => reconcile (row + 1) rest (s.reconcileRow D row incoming)

def truncate (first : ℕ) (s : MessagingViewModel) : MessagingViewModel :=
  if first < s.message.messages.length then
    s.announce (.removeRows first (s.message.messages.length - 1)) (s.message.messages.take first)
      (s.displayDates.take first) (s.sections.take first)
  else s

def setPage (messages : MessageResponse) (s : MessagingViewModel) : MessagingViewModel :=
  { s with message := { messages with messages := s.message.messages } }

def applyFetchedMessages (messages : MessageResponse) (requestId : ℕ) (s : MessagingViewModel) :
    MessagingViewModel :=
  if requestId ≠ s.fetchRequestId then s
  else if s.displayedConversationId = s.activeConversationId ∧ s.displayedConversationId ≠ [] then
    { ((s.reconcile D 0 messages.messages).truncate messages.messages.length).setPage messages with loading := false }
  else
    { (s.announce .resetModel messages.messages (messages.messages.map (dateOf D s.now))
        (messages.messages.map (sectionOf D s.now))).setPage messages with
      displayedConversationId := s.activeConversationId
      loading := false }

def fetchMessage (userId currentUserId : QString) (s : MessagingViewModel) : MessagingViewModel :=
  { s with
    fetchRequestId := s.fetchRequestId + 1
    activeConversationId := normalizedId userId
    loading := true
    userListener := normalizedId (normalizedId userId)
    fetches := s.fetches ++ [⟨s.fetchRequestId + 1, normalizedId currentUserId, 0⟩] }

def resultReady (requestId : ℕ) (response : MessageResponse) (s : MessagingViewModel) : MessagingViewModel :=
  if requestId ≠ s.fetchRequestId then s
  else { s with loading := false }.applyFetchedMessages D response requestId

def onFetchResult (i : ℕ) (response : MessageResponse) (s : MessagingViewModel) : MessagingViewModel :=
  match s.fetches[i]? with
  | none => s
  | some fetch =>
    resultReady D fetch.requestId (MessageUsecase.arranged fetch.currentUserId response)
      { s with fetches := s.fetches.set i { fetch with results := fetch.results + 1 } }

def onFetchFinished (i : ℕ) (canceled : Bool) (s : MessagingViewModel) : MessagingViewModel :=
  match s.fetches[i]? with
  | none => s
  | some fetch =>
    let s := { s with fetches := s.fetches.eraseIdx i }
    let s := if !canceled ∧ fetch.results = 0 then s.resultReady D fetch.requestId {} else s
    if fetch.requestId = s.fetchRequestId then { s with loading := false } else s

def fetchNextMessage (currentUserId : QString) (s : MessagingViewModel) : MessagingViewModel :=
  if s.loading then s
  else if s.activeConversationId = [] ∨ s.message.page < 1 ∨ s.message.totalPages ≤ s.message.page then s
  else
    { s with
      loading := true
      userListener := normalizedId s.activeConversationId
      nextPages := s.nextPages ++ [⟨s.fetchRequestId, s.message.page + 1, normalizedId currentUserId⟩] }

def applyNextPage (nextPage : Int32) (response : MessageResponse) (s : MessagingViewModel) : MessagingViewModel :=
  if response.page < 1 then { s with loading := false }
  else
    let count := response.messages.length
    let s := if 0 < count then
      s.announce (.insertRows 0 (count - 1)) (response.messages ++ s.message.messages)
        (response.messages.map (dateOf D s.now) ++ s.displayDates)
        (response.messages.map (sectionOf D s.now) ++ s.sections) else s
    { s.setPage { response with page := if 0 < response.page then response.page else nextPage } with loading := false }

def onNextResult (i : ℕ) (response : MessageResponse) (s : MessagingViewModel) : MessagingViewModel :=
  match s.nextPages[i]? with
  | none => s
  | some next =>
    let s := { s with nextPages := s.nextPages.eraseIdx i }
    if next.requestId ≠ s.fetchRequestId then s
    else s.applyNextPage D next.page (MessageUsecase.arranged next.currentUserId response)

def resetModel (s : MessagingViewModel) : MessagingViewModel :=
  { (s.announce .resetModel [] [] []).setPage {} with
    fetchRequestId := s.fetchRequestId + 1
    activeConversationId := []
    displayedConversationId := []
    loading := false }

/-! ### What comes from the repository -/

def onMessagedReceived (payload : MessageItem) (s : MessagingViewModel) : MessagingViewModel :=
  if normalizedId payload.senderId = s.activeConversationId then s.insertMessage D payload else s

def messageReceived (payload : MessageItem) (currentUserId : QString) (s : MessagingViewModel) : MessagingViewModel :=
  let id := normalizedId payload.senderId
  if id = s.userListener then
    s.onMessagedReceived D { payload with isMine := decide (id = normalizedId currentUserId) }
  else s

def messageSent (payload : MessageItem) (currentUserId : QString) (s : MessagingViewModel) : MessagingViewModel :=
  let payload := { payload with isMine := decide (payload.senderId = currentUserId) }
  let s := if normalizedId payload.recipientId = s.activeConversationId then s.insertMessage D payload else s
  s.updateMessageSeningStatus payload.id true

def messageUpdated (payload : MessageItem) (s : MessagingViewModel) : MessagingViewModel :=
  match s.firstRow (fun m => m.id = payload.id ∧ m.recipientId = payload.recipientId) with
  | none => s
  | some row =>
    s.announce (.dataChanged row [.contents, .filePath, .fileSize, .downloadedFile])
      (s.message.messages.modify row (fun m => { m with body := { m.body with content := payload.body.content } }))
      s.displayDates s.sections

/-! ### Uploads -/

def setUpload (id : QString) (upload : FileUpload) (s : MessagingViewModel) : MessagingViewModel :=
  { s with fileUploads := s.fileUploads.filter (fun u => u.1 ≠ id) ++ [(id, upload)] }

def setUploadProgress (id : QString) (uploading : Bool) (s : MessagingViewModel) : MessagingViewModel :=
  match s.fileUploads.lookup id with
  | none => s
  | some upload =>
    if upload.canceled then s
    else
      let s := s.setUpload id { upload with uploading := uploading }
      match s.firstRow (fun m => m.id = upload.messageId) with
      | none => s
      | some row => s.dataChanged row [.contents, .filePath, .uploadProgress, .isUploading]

def fileUploadStated (id path : QString) (s : MessagingViewModel) : MessagingViewModel :=
  match s.message.messages.reverse.find? (fun m => m.id = id || D.sameUrl m.body.content.mediaUrl path) with
  | none => s
  | some m => (s.setUpload id ⟨m.id, true, false⟩).setUploadProgress id true

/-- The `ContentsRole` of a message is empty: the upload found for it is canceled. -/
def contentsEmpty (messageId : QString) (s : MessagingViewModel) : Bool :=
  match (D.hashOrder s.fileUploads).find? (fun u => u.2.messageId = messageId) with
  | some u => u.2.canceled
  | none => false

def removeCanceledUpload (id : QString) (s : MessagingViewModel) : MessagingViewModel :=
  match s.fileUploads.lookup id with
  | none => s
  | some upload =>
    if upload.canceled then s
    else
      let s := s.setUpload id { upload with uploading := false, canceled := true }
      match s.firstRow (fun m => m.id = upload.messageId) with
      | none => s
      | some row =>
        if s.contentsEmpty D upload.messageId then s.deleteMessage [row]
        else s.dataChanged row [.contents, .uploadProgress, .isUploading]

end

inductive Event
  | fetchMessage (userId currentUserId : QString)
  | fetchResult (i : ℕ) (response : MessageResponse)
  | fetchFinished (i : ℕ) (canceled : Bool)
  | fetchNextMessage (currentUserId : QString)
  | nextResult (i : ℕ) (response : MessageResponse)
  | resetModel
  | messageReceived (payload : MessageItem) (currentUserId : QString)
  | messageSent (payload : MessageItem) (currentUserId : QString)
  | messageSendFinished (messageId : QString)
  | messageUpdated (payload : MessageItem)
  | fileUploadStated (id path : QString)
  | setUploadProgress (id : QString) (uploading : Bool)
  | removeCanceledUpload (id : QString)
  | deleteMessage (rows : List Int)

variable (D : Desktop)

def handle (s : MessagingViewModel) : Event → MessagingViewModel
  | .fetchMessage userId currentUserId => s.fetchMessage userId currentUserId
  | .fetchResult i response => s.onFetchResult D i response
  | .fetchFinished i canceled => s.onFetchFinished D i canceled
  | .fetchNextMessage currentUserId => s.fetchNextMessage currentUserId
  | .nextResult i response => s.onNextResult D i response
  | .resetModel => s.resetModel
  | .messageReceived payload currentUserId => s.messageReceived D payload currentUserId
  | .messageSent payload currentUserId => s.messageSent D payload currentUserId
  | .messageSendFinished messageId => s.updateMessageSeningStatus messageId false
  | .messageUpdated payload => s.messageUpdated payload
  | .fileUploadStated id path => s.fileUploadStated D id path
  | .setUploadProgress id uploading => s.setUploadProgress id uploading
  | .removeCanceledUpload id => s.removeCanceledUpload D id
  | .deleteMessage rows => s.deleteMessage rows

/-- One event at a time, with what it announces in the `log`. -/
def step (s : MessagingViewModel) (e : Int × Event) : MessagingViewModel :=
  { s with log := [], now := e.1 }.handle D e.2

def create (message : MessageResponse) : MessagingViewModel := { message := { message with messages := [] } }

end MessagingViewModel

end ChatDesktop.Chat
