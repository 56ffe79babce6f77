import ChatDesktop.Chat.DisplayedRows
import ChatDesktop.Chat.HistoryOrder

/-! A message on its way from the stanza to the history and to the screen. The stanza has the sender's address, the
body has ids of its own. -/

namespace ChatDesktop.Chat.Receiving

open Library Storage MessagingViewModel MessageHistoryCache

/-- `core::xmpp::Message`; nobody reads its other fields. -/
structure Message where
  fromJid : QString
  body : QString

structure Account where
  currentJid : QString := []
  storedUser : Option QString := none

def Account.currentUserId (a : Account) : QString :=
  let id := Text.firstSection a.currentJid 0x40
  if id.isEmpty then a.storedUser.getD [] else id

def bareJid (jid : QString) : QString := Text.firstSection jid 0x2F

def Account.Own (a : Account) (jid : QString) : Prop := bareJid jid = bareJid a.currentJid

structure Client where
  account : Account
  cache : Cache := {}
  screen : MessagingViewModel

namespace XmppManager

def onMessageReceived (message : Message) : Option Message := if message.body.isEmpty then none else some message

end XmppManager

namespace MessageRepository

def itemOf (payload : PayloadDto) : MessageItemDto where
  id := payload.messageId
  senderId := payload.senderId
  recipientId := payload.receiverId
  body := payload

def conversationOf (account : QString) (payload : PayloadDto) : Conversation where
  account := account
  id := if conversationId payload.senderId = conversationId account then payload.receiverId else payload.senderId

def persistMessage (P : Platform) (conv : Conversation) (message : MessageItemDto) : StateM Cache Unit := do
  let _ ← saveMessage P (snapshots P conv) conv message

def onMessageReceived (P : Platform) (a : Account) (message : Message) : StateM Cache (Option MessageItem) :=
  match PayloadDto.fromJsonString P.json message.body with
  | none => pure none
  | some payload => do
    persistMessage P (conversationOf a.currentUserId payload) (itemOf payload)
    pure (some (itemOf payload).toDomain)

end MessageRepository

open Receiving.MessageRepository

def receive (P : Platform) (D : Desktop) (now : Int) (message : Message) (s : Client) : Client :=
  match XmppManager.onMessageReceived message with
  | none => s
  | some message =>
    match MessageRepository.onMessageReceived P s.account message s.cache with
    | (none, cache) => { s with cache := cache }
    | (some item, cache) =>
      { s with
        cache := cache
        screen := s.screen.step D (now, .messageReceived item s.account.currentUserId) }

def accepted (P : Platform) (message : Message) : Option PayloadDto :=
  (XmppManager.onMessageReceived message).bind (fun message => PayloadDto.fromJsonString P.json message.body)

def waitingFor (P : Platform) (conv : Conversation) (c : Cache) : List MessageItemDto :=
  (readSnapshot P (snapshots P conv) 1 true c).1.messages

def replaced (m : MessageItemDto) (live : List MessageItemDto) : Option MessageItemDto :=
  live.find? (fun item => sameMessage item m)

/-! ### Whose a message is -/

section

variable (P : Platform) (D : Desktop) (now : Int) (s : Client) (message : Message) (payload : PayloadDto)

/-- Everywhere a message goes it is the sender's: in the cache, where it is put into its conversation, and on the
screen. -/
structure FromSender : Prop where
  sender : conversationId (itemOf payload).senderId = conversationId message.fromJid
  saved : (receive P D now message s).cache =
    (saveMessage P (snapshots P (conversationOf s.account.currentUserId payload))
      (conversationOf s.account.currentUserId payload) (itemOf payload) s.cache).2
  put : ∃ before rest, waitingFor P (conversationOf s.account.currentUserId payload) s.cache = before ++
      (replaced (itemOf payload) (waitingFor P (conversationOf s.account.currentUserId payload) s.cache)).toList ++ rest ∧
    putMessage (itemOf payload) (waitingFor P (conversationOf s.account.currentUserId payload) s.cache) =
      before ++ itemOf payload :: rest
  stored : conversationId (conversationOf s.account.currentUserId payload).id = conversationId message.fromJid ∨
    s.account.Own message.fromJid ∧
      conversationId (conversationOf s.account.currentUserId payload).id = conversationId (itemOf payload).recipientId
  replaces : (conversationOf s.account.currentUserId payload).blank = false → ∀ m,
    replaced (itemOf payload) (waitingFor P (conversationOf s.account.currentUserId payload) s.cache) = some m →
      conversationId m.senderId = conversationId message.fromJid
  shown : ∀ row, (receive P D now message s).screen.message.messages = s.screen.message.messages ++ [row] →
    conversationId s.screen.activeConversationId = conversationId message.fromJid ∧
      (s.screen.displayedConversationId ≠ [] →
        conversationId s.screen.displayedConversationId = conversationId message.fromJid) ∧
      (row.isMine = true → s.account.Own message.fromJid)

def Attributed : Prop := ∀ payload, accepted P message = some payload → FromSender P D now s message payload

def Shows (s : MessagingViewModel) (senderId : QString) : Prop :=
  normalizedId senderId = s.userListener ∧ normalizedId senderId = s.activeConversationId

instance (s : MessagingViewModel) (senderId : QString) : Decidable (Shows s senderId) :=
  inferInstanceAs (Decidable (_ ∧ _))

/-- The ids in the body are those of the sender, and of a message of the sender's. -/
structure Genuine : Prop where
  sender : conversationId payload.senderId = conversationId message.fromJid
  replaces : (conversationOf s.account.currentUserId payload).blank = false → ∀ m,
    replaced (itemOf payload) (waitingFor P (conversationOf s.account.currentUserId payload) s.cache) = some m →
      conversationId m.senderId = conversationId payload.senderId
  own : conversationId payload.senderId = conversationId s.account.currentUserId → ¬s.account.Own message.fromJid →
    conversationId payload.receiverId = conversationId payload.senderId ∧
      ¬(Shows s.screen payload.senderId ∧ normalizedId payload.senderId = normalizedId s.account.currentUserId)
  displayed : Shows s.screen payload.senderId → s.screen.displayedConversationId ≠ [] →
    conversationId s.screen.displayedConversationId = conversationId payload.senderId

end

/-! ### Ids -/

lemma conversationId_normalizedId (id : QString) : conversationId (normalizedId id) = conversationId id := by
  have hsep : ∀ sep : UInt16, sep ≠ 0x2D → ∀ t : QString,
      Text.firstSection (normalizedId t) sep = normalizedId (Text.firstSection t sep) := by
    intro sep hne t
    rw [normalizedId, Text.firstSection, List.takeWhile_filter]
    refine congrArg (List.filter _) (congrArg (List.takeWhile · t) (funext fun u => ?_))
    by_cases hu : u = 0x2D
    · simp [hu, hne.symm]
    · simp [hu]
  change normalizedId (Text.firstSection (Text.firstSection (normalizedId id) 0x2F) 0x40) = _
  rw [hsep _ (by decide), hsep _ (by decide), normalizedId, normalizedId, List.filter_filter]
  simp only [Bool.and_self]
  rfl

/-! ### What is done with a message -/

section

variable {P : Platform} {D : Desktop} {now : Int} {s : Client} {message : Message} {payload : PayloadDto}

lemma accepted_eq (h : message.body.isEmpty = false) :
    accepted P message = PayloadDto.fromJsonString P.json message.body := by
  rw [accepted, XmppManager.onMessageReceived, h]
  rfl

lemma putMessage_replaced (m : MessageItemDto) (live : List MessageItemDto) :
    ∃ before rest, live = before ++ (replaced m live).toList ++ rest ∧ putMessage m live = before ++ m :: rest := by
  induction live with
  | nil => exact ⟨[], [], rfl, rfl⟩
  | cons item live ih =>
    rw [replaced, List.find?_cons, putMessage]
    cases hs : sameMessage item m with
    | true => exact ⟨[], live, rfl, rfl⟩
    | false =>
      obtain ⟨before, rest, hlive, hput⟩ := ih
      rw [if_neg Bool.false_ne_true]
      exact ⟨item :: before, rest, congrArg (item :: ·) hlive, congrArg (item :: ·) hput⟩

lemma rows_of_received (D : Desktop) (s : MessagingViewModel) (now : Int) (item : MessageItem)
    (currentUserId : QString) :
    (s.step D (now, .messageReceived item currentUserId)).message.messages =
      if Shows s item.senderId then s.message.messages ++
        [{ item with isMine := decide (normalizedId item.senderId = normalizedId currentUserId) }]
      else s.message.messages := by
  rw [MessagingViewModel.step, handle, MessagingViewModel.messageReceived]
  by_cases hlistener : normalizedId item.senderId = s.userListener
  · by_cases hactive : normalizedId item.senderId = s.activeConversationId
    · have hshows : Shows s item.senderId := ⟨hlistener, hactive⟩
      rw [if_pos hlistener, if_pos hshows, onMessagedReceived, if_pos hactive]
      rfl
    · rw [if_pos hlistener, if_neg (fun h : Shows s item.senderId => hactive h.2), onMessagedReceived, if_neg hactive]
  · rw [if_neg hlistener, if_neg (fun h : Shows s item.senderId => hlistener h.1)]

lemma cache_of_receive (h : accepted P message = some payload) :
    (receive P D now message s).cache =
      (saveMessage P (snapshots P (conversationOf s.account.currentUserId payload))
        (conversationOf s.account.currentUserId payload) (itemOf payload) s.cache).2 := by
  rw [accepted] at h
  obtain ⟨message', hm, hp⟩ := Option.bind_eq_some_iff.mp h
  rw [receive, hm]
  dsimp only
  rw [MessageRepository.onMessageReceived, hp]
  rfl

lemma rows_of_receive (D : Desktop) (now : Int) (s : Client) (h : accepted P message = some payload) :
    (receive P D now message s).screen.message.messages =
      if Shows s.screen payload.senderId then s.screen.message.messages ++
        [{ (itemOf payload).toDomain with
          isMine := decide (normalizedId payload.senderId = normalizedId s.account.currentUserId) }]
      else s.screen.message.messages := by
  rw [accepted] at h
  obtain ⟨message', hm, hp⟩ := Option.bind_eq_some_iff.mp h
  rw [receive, hm]
  dsimp only
  rw [MessageRepository.onMessageReceived, hp]
  exact rows_of_received D s.screen now (itemOf payload).toDomain s.account.currentUserId

lemma Genuine.fromSender (hg : Genuine P s message payload) (h : accepted P message = some payload) :
    FromSender P D now s message payload := by
  refine ⟨hg.sender, cache_of_receive h, putMessage_replaced _ _, ?_,
    fun hblank m hm => (hg.replaces hblank m hm).trans hg.sender, fun row hrow => ?_⟩
  · rw [conversationOf]
    by_cases hsame : conversationId payload.senderId = conversationId s.account.currentUserId
    · rw [if_pos hsame]
      by_cases hown : s.account.Own message.fromJid
      · exact .inr ⟨hown, rfl⟩
      · exact .inl ((hg.own hsame hown).1.trans hg.sender)
    · rw [if_neg hsame]
      exact .inl hg.sender
  · rw [rows_of_receive D now s h] at hrow
    split_ifs at hrow with hshows
    · obtain rfl := List.singleton_inj.mp (List.append_cancel_left hrow)
      refine ⟨?_, fun hne => (hg.displayed hshows hne).trans hg.sender, fun hmine => ?_⟩
      · rw [← hshows.2, conversationId_normalizedId]
        exact hg.sender
      · have hcurrent := of_decide_eq_true hmine
        by_contra hown
        have hsame : conversationId payload.senderId = conversationId s.account.currentUserId := by
          rw [← conversationId_normalizedId, hcurrent, conversationId_normalizedId]
        exact (hg.own hsame hown).2 ⟨hshows, hcurrent⟩
    · exact absurd hrow (by simp)

lemma FromSender.genuine (hs : FromSender P D now s message payload) (h : accepted P message = some payload) :
    Genuine P s message payload := by
  have hrow : Shows s.screen payload.senderId → _ := fun hshows =>
    hs.shown _ ((rows_of_receive D now s h).trans (if_pos hshows))
  refine ⟨hs.sender, fun hblank m hm => (hs.replaces hblank m hm).trans hs.sender.symm, fun hsame hown => ⟨?_, ?_⟩,
    fun hshows hne => ((hrow hshows).2.1 hne).trans hs.sender.symm⟩
  · have hstored := hs.stored
    rw [conversationOf, if_pos hsame] at hstored
    obtain hid | ⟨hown', -⟩ := hstored
    · exact hid.trans hs.sender.symm
    · exact absurd hown' hown
  · rintro ⟨hshows, hcurrent⟩
    exact hown ((hrow hshows).2.2 (decide_eq_true hcurrent))

end

theorem attributed_iff_genuine (P : Platform) (D : Desktop) (now : Int) (s : Client) (message : Message) :
    Attributed P D now s message ↔ ∀ payload, accepted P message = some payload → Genuine P s message payload :=
  forall_congr' fun _ => forall_congr' fun h => ⟨fun hs => hs.genuine h, fun hg => hg.fromSender h⟩

/-! ### Mallory writes in Alice's name -/

def forgedPayload : PayloadDto :=
  { messageId := key "1", senderId := alice, receiverId := bob, content := { text := key "hello" } }

def forged : Message := ⟨key "mallory@chat/phone", plainPlatform.json.compact forgedPayload.toJson⟩

def bobsClient : Client := { account := { currentJid := key "bob@chat/desktop" }, screen := create {} }

lemma accepted_forged : accepted plainPlatform forged = some forgedPayload.encoded := by
  have hbody : forged.body.isEmpty = false := by decide
  rw [accepted_eq hbody]
  exact PayloadDto.fromJsonString_compact plainPlatform_readsBack.json forgedPayload

theorem attributed_to_another : ¬Attributed plainPlatform sampleDesktop 0 bobsClient forged := by
  intro h
  have hsender := (h _ accepted_forged).sender
  exact absurd hsender (by decide)

end ChatDesktop.Chat.Receiving
