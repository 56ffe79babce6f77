import ChatDesktop.Chat.Entity
import ChatDesktop.Chat.HistoryOrder
import ChatDesktop.Library.Reactive

namespace ChatDesktop.Chat

open Library Library.Simulation Library.Reactive Storage MessageHistoryCache

/-- A call of `fetchMessageById`: what the cache had when it started, what the server answered and when (no
text if the request failed), and the results so far. -/
structure PageFetch where
  page : Int32
  cache : MessageResponse := {}
  answer : Option (ℕ × Option QString) := none
  results : List MessageResponse := []
  finished : Bool := false

/-- The repository with the server it asks; `now` counts the events. `persisted` and `saved` list the messages
and responses that reached the cache, with the instants of the arrival and of the server's answer; `failed`
tells that the cache refused one. -/
structure MessageRepository where
  cache : Cache
  server : Int32 → Option QString := fun _ => none
  fetches : List PageFetch := []
  now : ℕ := 0
  persisted : List (ℕ × MessageItemDto) := []
  saved : List (ℕ × MessageDto) := []
  failed : Bool := false

inductive RepositoryEvent
  /-- what the server has changes -/
  | serverChanged (server : Int32 → Option QString)
  | fetchMessageById (page : Int32)
  /-- the server answers the request of a fetch -/
  | answered (i : ℕ)
  /-- the continuation of a fetch runs -/
  | completed (i : ℕ)
  /-- a message has come, or has been sent -/
  | persist (body : QString)

namespace PageFetch

def lastSentAt (response : MessageResponse) : QString := (response.messages.getLast?.map MessageItem.sentAt).getD []

variable (P : Platform)

def dto (fetch : PageFetch) (body : Option QString) : Option MessageDto := body.bind (decoded P fetch.page)

def respond (fetch : PageFetch) (body : Option QString) : List MessageResponse × Option MessageDto :=
  match fetch.dto P body with
  | none => ([], none)
  | some dto =>
    if dto.messages.isEmpty then (if fetch.cache.messages.isEmpty then [{}] else [], none)
    else
      let server := dto.toDomain
      if fetch.page = 1 then
        if fetch.cache.messages.isEmpty ∨ lastSentAt fetch.cache < lastSentAt server then ([server], some dto)
        else ([], none)
      else ([server], none)

def toSave (fetch : PageFetch) : Option (ℕ × MessageDto) :=
  if fetch.finished then none
  else fetch.answer.bind (fun answer => (fetch.respond P answer.2).2.map (fun response => (answer.1, response)))

end PageFetch

def incoming (payload : PayloadDto) : MessageItemDto where
  id := payload.messageId
  senderId := payload.senderId
  recipientId := payload.receiverId
  body := payload

namespace MessageRepository

variable (P : Platform) (conv : Conversation)

def setFetch (i : ℕ) (fetch : PageFetch) (s : MessageRepository) : MessageRepository :=
  { s with fetches := s.fetches.set i fetch }

def fetchMessageById (page : Int32) (s : MessageRepository) : MessageRepository :=
  if page < 1 then { s with fetches := s.fetches ++ [{ page := page, finished := true }] }
  else if page = 1 then
    let (history, c) := MessageHistoryCache.read P (snapshots P conv) page s.cache
    let cache := history.toDomain
    { s with
      cache := c
      fetches := s.fetches ++
        [{ page := page, cache := cache, results := if cache.messages.isEmpty then [] else [cache] }] }
  else { s with fetches := s.fetches ++ [{ page := page }] }

def answered (i : ℕ) (s : MessageRepository) : MessageRepository :=
  match s.fetches[i]? with
  | none => s
  | some fetch =>
    if fetch.finished ∨ fetch.answer.isSome then s
    else s.setFetch i { fetch with answer := some (s.now, s.server fetch.page) }

def cacheMessage (instant : ℕ) (response : MessageDto) (s : MessageRepository) : MessageRepository :=
  let (ok, c) := MessageHistoryCache.savePage P (snapshots P conv) conv response s.cache
  { s with
    cache := c
    saved := if ok then s.saved ++ [(instant, response)] else s.saved
    failed := s.failed || !ok }

def completed (i : ℕ) (s : MessageRepository) : MessageRepository :=
  match s.fetches[i]? with
  | none => s
  | some fetch =>
    match fetch.answer with
    | none => s
    | some answer =>
      if fetch.finished then s
      else
        let s' := s.setFetch i
          { fetch with results := fetch.results ++ (fetch.respond P answer.2).1, finished := true }
        match fetch.toSave P with
        | none => s'
        | some (instant, response) => s'.cacheMessage P conv instant response

def persistMessage (message : MessageItemDto) (s : MessageRepository) : MessageRepository :=
  let (ok, c) := MessageHistoryCache.saveMessage P (snapshots P conv) conv message s.cache
  { s with
    cache := c
    persisted := if ok then s.persisted ++ [(s.now, message)] else s.persisted
    failed := s.failed || !ok }

def handle (s : MessageRepository) : RepositoryEvent → MessageRepository
  | .serverChanged server => { s with server := server }
  | .fetchMessageById page => s.fetchMessageById P conv page
  | .answered i => s.answered i
  | .completed i => s.completed P conv i
  | .persist body =>
    match PayloadDto.fromJsonString P.json body with
    | none => s
    | some payload => s.persistMessage P conv (incoming payload)

def step (s : MessageRepository) (e : RepositoryEvent) : MessageRepository :=
  { s.handle P conv e with now := s.now + 1 }

/-! ### What is kept -/

def isVersion (m item : MessageItemDto) : Bool := decide (item = m.encoded) || sameMessage item m

def shown (s : MessageRepository) (m : MessageItemDto) : Bool :=
  (MessageHistoryCache.read P (snapshots P conv) 1 s.cache).1.messages.any (isVersion m)

def waits (s : MessageRepository) (m : MessageItemDto) : Bool :=
  (readSnapshot P (snapshots P conv) 1 true s.cache).1.messages.any (isVersion m)

def Dropped (s : MessageRepository) (t : ℕ) (m : MessageItemDto) : Prop :=
  ∃ p ∈ s.saved, t < p.1 ∧ contains p.2 m = false

def Kept (s : MessageRepository) : Prop := ∀ p ∈ s.persisted, s.shown P conv p.2 = true ∨ s.Dropped p.1 p.2

def toSave (s : MessageRepository) : RepositoryEvent → Option (ℕ × MessageDto)
  | .completed i => s.fetches[i]?.bind (PageFetch.toSave P)
  | _ => none

/-- A response that is older than a message does not lack the message, unless the message still waits or the
server is known to have dropped it since. -/
def NotOvertaken (s : MessageRepository) (e : RepositoryEvent) : Prop :=
  ∀ instant response, s.toSave P e = some (instant, response) → ∀ p ∈ s.persisted, instant ≤ p.1 →
    contains response p.2 = true ∨ s.waits P conv p.2 = true ∨ s.Dropped p.1 p.2

end MessageRepository

/-! ### A message in a history -/

open MessageRepository

namespace History

def shows (P : Platform) (h : History) (m : MessageItemDto) : Bool := (h.read P 1).messages.any (isVersion m)

def waits (h : History) (m : MessageItemDto) : Bool := h.live.any (isVersion m)

end History

section

variable {h : History} {m item item' : MessageItemDto} {r : MessageDto} {live : List MessageItemDto}

/-- The message has no number but its own, and perhaps none. -/
def Numbered (m : MessageItemDto) : Prop := m.id = m.body.messageId

lemma Numbered.same_iff (hm : Numbered m) :
    sameMessage item m = true ↔ m.id ≠ [] ∧ (item.body.messageId = m.id ∨ item.id = m.id) := by
  constructor
  · intro hs
    have hne : m.id ≠ [] := by
      intro he
      simp [sameMessage, ← show m.id = m.body.messageId from hm, he] at hs
    exact ⟨hne, (Live.same_iff ⟨hm, hne⟩).mp hs⟩
  · rintro ⟨hne, hs⟩
    exact (Live.same_iff ⟨hm, hne⟩).mpr hs

lemma Numbered.same_numbered_iff (hm : Numbered m) (hi : Numbered item) :
    sameMessage item m = true ↔ m.id ≠ [] ∧ item.id = m.id := by
  rw [hm.same_iff, ← show item.id = item.body.messageId from hi, or_self]

lemma isVersion_iff : isVersion m item = true ↔ item = m.encoded ∨ sameMessage item m = true := by
  rw [isVersion, Bool.or_eq_true, decide_eq_true_eq]

lemma Numbered.id_of_version (hm : Numbered m) (hi : Numbered item) (h : isVersion m item = true) : item.id = m.id := by
  obtain rfl | hs := isVersion_iff.mp h
  · rfl
  · exact ((hm.same_numbered_iff hi).mp hs).2

lemma Numbered.version_of_same (hm : Numbered m) (hi : Numbered item) (h : isVersion m item = true)
    (hs : sameMessage item' item = true) : isVersion m item' = true := by
  have hid := hm.id_of_version hi h
  rw [hi.same_iff, hid] at hs
  exact isVersion_iff.mpr (Or.inr (hm.same_iff.mpr hs))

lemma mem_addLive (hi : item ∈ r.messages) (m : MessageItemDto) : item ∈ (addLive P r m).messages := by
  rw [addLive]
  split_ifs
  · exact hi
  · exact List.mem_append_left _ hi

lemma mem_foldl_addLive (hi : item ∈ r.messages) (live : List MessageItemDto) :
    item ∈ (live.foldl (addLive P) r).messages := by
  induction live generalizing r with
  | nil => exact hi
  | cons m live ih => exact ih (mem_addLive hi m)

lemma foldl_addLive_covers (hi : item ∈ live) (r : MessageDto) :
    ∃ item' ∈ (live.foldl (addLive P) r).messages, item' = item ∨ sameMessage item' item = true := by
  induction live generalizing r with
  | nil => exact absurd hi List.not_mem_nil
  | cons m live ih =>
    obtain rfl | hi := List.mem_cons.mp hi
    · by_cases hany : r.messages.any (fun x => sameMessage x item) = true
      · obtain ⟨x, hx, hs⟩ := List.any_eq_true.mp hany
        exact ⟨x, mem_foldl_addLive (mem_addLive hx item) live, Or.inr hs⟩
      · refine ⟨item, mem_foldl_addLive ?_ live, Or.inl rfl⟩
        rw [addLive, if_neg hany]
        exact List.mem_append_right _ List.mem_cons_self
    · exact ih hi (addLive P r m)

lemma of_mem_foldl_addLive (hi : item ∈ (live.foldl (addLive P) r).messages) : item ∈ r.messages ∨ item ∈ live := by
  induction live generalizing r with
  | nil => exact Or.inl hi
  | cons m live ih =>
    rcases ih hi with hr | hl
    · rw [addLive] at hr
      split_ifs at hr
      · exact Or.inl hr
      · obtain hr | hr := List.mem_append.mp hr
        · exact Or.inl hr
        · exact Or.inr (List.mem_cons.mpr (Or.inl (List.mem_singleton.mp hr)))
    · exact Or.inr (List.mem_cons_of_mem _ hl)

lemma read_first_messages (P : Platform) (h : History) :
    (h.read P 1).messages = (h.live.foldl (addLive P) ((h.page 1).getD (noMessages 1))).messages := by
  rw [History.read, if_pos rfl]
  dsimp only
  split_ifs
  · rfl
  · rfl

lemma shows_iff (hm : Numbered m) (hlive : ∀ item ∈ h.live, Numbered item) :
    h.shows P m = true ↔
      ((h.page 1).getD (noMessages 1)).messages.any (isVersion m) = true ∨ h.waits m = true := by
  rw [History.shows, History.waits, read_first_messages, List.any_eq_true, List.any_eq_true, List.any_eq_true]
  constructor
  · rintro ⟨item, hi, hv⟩
    rcases of_mem_foldl_addLive hi with hr | hl
    · exact Or.inl ⟨item, hr, hv⟩
    · exact Or.inr ⟨item, hl, hv⟩
  · rintro (⟨item, hr, hv⟩ | ⟨item, hl, hv⟩)
    · exact ⟨item, mem_foldl_addLive hr _, hv⟩
    · obtain ⟨item', hi', rfl | hs⟩ := foldl_addLive_covers hl ((h.page 1).getD (noMessages 1))
      · exact ⟨item', hi', hv⟩
      · exact ⟨item', hi', hm.version_of_same (hlive item hl) hv hs⟩

lemma waits_savePage_unnumbered (hm : Numbered m) (hid : m.id = []) (hlive : ∀ item ∈ h.live, Numbered item)
    (hw : h.waits m = true) (r : MessageDto) : (h.savePage r).waits m = true := by
  obtain ⟨item, hi, hv⟩ := List.any_eq_true.mp hw
  refine List.any_eq_true.mpr ⟨item, List.mem_filter.mpr ⟨hi, ?_⟩, hv⟩
  have hnone : ∀ x, sameMessage x item = false := fun x => by
    rw [← Bool.not_eq_true, (hlive item hi).same_iff, hm.id_of_version (hlive item hi) hv, hid]
    exact fun hx => hx.1 rfl
  simp only [contains, hnone, Bool.not_eq_true', List.any_eq_false, Bool.false_eq_true, not_false_eq_true, implies_true]

lemma shows_savePage (hr : r.page = 1) (hm : Numbered m) (hlive : ∀ item ∈ h.live, Numbered item)
    (hid : m.id = [] → h.waits m = true) :
    (h.savePage r).shows P m = true ↔ h.waits m = true ∨ contains r m = true := by
  have hlive' : ∀ item ∈ (h.savePage r).live, Numbered item := fun item hi => hlive item (List.mem_of_mem_filter hi)
  have hpage : ((h.savePage r).page 1).getD (noMessages 1) = r.encoded := by
    rw [History.savePage, hr]
    dsimp only
    rw [Function.update_self, Option.getD_some]
  have hcontains : contains r m = true → r.encoded.messages.any (isVersion m) = true := fun hc => by
    obtain ⟨item, hi, hs⟩ := List.any_eq_true.mp hc
    exact List.any_eq_true.mpr ⟨item.encoded, List.mem_map.mpr ⟨item, hi, rfl⟩, isVersion_iff.mpr (Or.inr hs)⟩
  rw [shows_iff hm hlive', hpage]
  constructor
  · rintro (hp | hw)
    · obtain ⟨item, hi, hv⟩ := List.any_eq_true.mp hp
      obtain ⟨x, hx, rfl⟩ := List.mem_map.mp hi
      by_cases he : m.id = []
      · exact Or.inl (hid he)
      · refine Or.inr (List.any_eq_true.mpr ⟨x, hx, ?_⟩)
        obtain he' | hs := isVersion_iff.mp hv
        · have hxid : x.encoded.id = m.encoded.id := by rw [he']
          exact hm.same_iff.mpr ⟨he, Or.inr hxid⟩
        · exact hs
    · obtain ⟨item, hi, hv⟩ := List.any_eq_true.mp hw
      exact Or.inl (List.any_eq_true.mpr ⟨item, List.mem_of_mem_filter hi, hv⟩)
  · rintro (hw | hc)
    · obtain ⟨item, hi, hv⟩ := List.any_eq_true.mp hw
      by_cases hc : contains r item = true
      · obtain ⟨x, hx, hs⟩ := List.any_eq_true.mp hc
        refine Or.inl (List.any_eq_true.mpr ⟨x.encoded, List.mem_map.mpr ⟨x, hx, rfl⟩, ?_⟩)
        exact hm.version_of_same (hlive item hi) hv hs
      · refine Or.inr (List.any_eq_true.mpr ⟨item, List.mem_filter.mpr ⟨hi, ?_⟩, hv⟩)
        rw [Bool.not_eq_true] at hc
        rw [hc]
        rfl
    · exact Or.inl (hcontains hc)

lemma mem_putMessage_self (m : MessageItemDto) (items : List MessageItemDto) : m ∈ putMessage m items := by
  induction items with
  | nil => exact List.mem_cons_self
  | cons item items ih =>
    rw [putMessage]
    split_ifs
    · exact List.mem_cons_self
    · exact List.mem_cons_of_mem _ ih

lemma mem_putMessage {items : List MessageItemDto} (hi : item ∈ items) :
    item ∈ putMessage m items ∨ sameMessage item m = true := by
  induction items with
  | nil => exact absurd hi List.not_mem_nil
  | cons x items ih =>
    rw [putMessage]
    split_ifs with hs
    · obtain rfl | hi := List.mem_cons.mp hi
      · exact Or.inr hs
      · exact Or.inl (List.mem_cons_of_mem _ hi)
    · obtain rfl | hi := List.mem_cons.mp hi
      · exact Or.inl List.mem_cons_self
      · exact (ih hi).imp_left (List.mem_cons_of_mem _)

lemma of_mem_putMessage {items : List MessageItemDto} (hi : item ∈ putMessage m items) : item = m ∨ item ∈ items := by
  induction items with
  | nil => exact Or.inl (List.mem_singleton.mp hi)
  | cons x items ih =>
    rw [putMessage] at hi
    split_ifs at hi
    · obtain rfl | hi := List.mem_cons.mp hi
      · exact Or.inl rfl
      · exact Or.inr (List.mem_cons_of_mem _ hi)
    · obtain rfl | hi := List.mem_cons.mp hi
      · exact Or.inr List.mem_cons_self
      · exact (ih hi).imp_right (List.mem_cons_of_mem _)

lemma numbered_saveMessage (hm : Numbered m) (hlive : ∀ item ∈ h.live, Numbered item) :
    ∀ item ∈ (h.saveMessage m).live, Numbered item := by
  intro item hi
  obtain ⟨x, hx, rfl⟩ := List.mem_map.mp hi
  obtain rfl | hx := of_mem_putMessage hx
  · exact hm
  · exact hlive x hx

lemma waits_saveMessage_self (h : History) (m : MessageItemDto) : (h.saveMessage m).waits m = true :=
  List.any_eq_true.mpr ⟨m.encoded, List.mem_map.mpr ⟨m, mem_putMessage_self m h.live, rfl⟩, isVersion_iff.mpr (Or.inl rfl)⟩

lemma waits_saveMessage {m' : MessageItemDto} (hm : Numbered m) (hm' : Numbered m')
    (hlive : ∀ item ∈ h.live, Numbered item) (henc : ∀ item ∈ h.live, item.encoded = item) (hw : h.waits m = true) :
    (h.saveMessage m').waits m = true := by
  obtain ⟨item, hi, hv⟩ := List.any_eq_true.mp hw
  rcases mem_putMessage (m := m') hi with hput | hs
  · exact List.any_eq_true.mpr ⟨item, List.mem_map.mpr ⟨item, hput, henc item hi⟩, hv⟩
  · refine List.any_eq_true.mpr ⟨m'.encoded, List.mem_map.mpr ⟨m', mem_putMessage_self m' h.live, rfl⟩, ?_⟩
    obtain ⟨hne, hid⟩ := (hm'.same_numbered_iff (hlive item hi)).mp hs
    have hidm := hm.id_of_version (hlive item hi) hv
    refine isVersion_iff.mpr (Or.inr (hm.same_iff.mpr ⟨?_, Or.inr (hid.symm.trans hidm)⟩))
    rw [← hidm, hid]
    exact hne

lemma shows_saveMessage {m' : MessageItemDto} (hm : Numbered m) (hm' : Numbered m')
    (hlive : ∀ item ∈ h.live, Numbered item) (henc : ∀ item ∈ h.live, item.encoded = item) (hshow : h.shows P m = true) :
    (h.saveMessage m').shows P m = true := by
  rw [shows_iff hm (numbered_saveMessage hm' hlive)]
  exact ((shows_iff hm hlive).mp hshow).imp_right (waits_saveMessage hm hm' hlive henc)

end

/-! ### Steps -/

namespace MessageRepository

section

variable {P : Platform} {conv : Conversation} {s s' : MessageRepository} {e : RepositoryEvent} {m : MessageItemDto}
  {h : History}

structure SameRecords (s s' : MessageRepository) : Prop where
  cache : s'.cache = s.cache
  persisted : s'.persisted = s.persisted
  saved : s'.saved = s.saved
  failed : s'.failed = s.failed

structure Quiet (P : Platform) (conv : Conversation) (s s' : MessageRepository) : Prop where
  stands : ∀ h, Stands P conv s.cache h → Stands P conv s'.cache h
  persisted : s'.persisted = s.persisted
  saved : s'.saved = s.saved
  failed : s'.failed = s.failed

lemma Quiet.refl (s : MessageRepository) : Quiet P conv s s := ⟨fun _ hs => hs, rfl, rfl, rfl⟩

lemma SameRecords.quiet (h : SameRecords s s') : Quiet P conv s s' :=
  ⟨fun _ hs => h.cache ▸ hs, h.persisted, h.saved, h.failed⟩

variable (P conv) in
lemma quiet_fetchMessageById (page : Int32) (s : MessageRepository) :
    Quiet P conv s (s.fetchMessageById P conv page) := by
  rw [fetchMessageById]
  by_cases hpage : page < 1
  · rw [if_pos hpage]
    exact SameRecords.quiet ⟨rfl, rfl, rfl, rfl⟩
  rw [if_neg hpage]
  by_cases hfirst : page = 1
  · rw [if_pos hfirst]
    refine ⟨fun h hs => ?_, rfl, rfl, rfl⟩
    obtain ⟨c', hc', hs', -⟩ := hs.read (Int32.not_lt.mp hpage)
    rw [hc']
    exact hs'
  · rw [if_neg hfirst]
    exact SameRecords.quiet ⟨rfl, rfl, rfl, rfl⟩

variable (P conv) in
lemma quiet_answered (i : ℕ) (s : MessageRepository) : Quiet P conv s (s.answered i) := by
  rw [answered]
  cases s.fetches[i]? with
  | none => exact .refl s
  | some fetch =>
    dsimp only
    split_ifs
    · exact .refl s
    · exact SameRecords.quiet ⟨rfl, rfl, rfl, rfl⟩

lemma page_toSave {fetch : PageFetch} {instant : ℕ} {response : MessageDto}
    (h : fetch.toSave P = some (instant, response)) : response.page = 1 := by
  rw [PageFetch.toSave] at h
  split_ifs at h with hf
  obtain ⟨answer, -, h⟩ := Option.bind_eq_some_iff.mp h
  obtain ⟨dto, hdto, he⟩ := Option.map_eq_some_iff.mp h
  obtain ⟨-, rfl⟩ := Prod.mk.inj he
  rw [PageFetch.respond] at hdto
  cases hd : fetch.dto P answer.2 with
  | none =>
    rw [hd] at hdto
    cases hdto
  | some dto' =>
    rw [hd] at hdto
    dsimp only at hdto
    split_ifs at hdto with hempty hpage hnew
    obtain rfl := Option.some.inj hdto
    rw [PageFetch.dto] at hd
    obtain ⟨body, -, hbody⟩ := Option.bind_eq_some_iff.mp hd
    rw [decoded] at hbody
    split at hbody
    · obtain ⟨-, hp⟩ := Option.filter_eq_some_iff.mp hbody
      exact (of_decide_eq_true hp).trans hpage
    · cases hbody

variable (P conv) in
lemma completed_cases (i : ℕ) (s : MessageRepository) :
    (s.toSave P (.completed i) = none ∧ SameRecords s (s.completed P conv i)) ∨
      ∃ instant response, s.toSave P (.completed i) = some (instant, response) ∧ response.page = 1 ∧
        SameRecords (s.cacheMessage P conv instant response) (s.completed P conv i) := by
  rw [completed, toSave]
  cases hfetch : s.fetches[i]? with
  | none => exact Or.inl ⟨rfl, rfl, rfl, rfl, rfl⟩
  | some fetch =>
    rw [Option.bind_some]
    dsimp only
    cases hanswer : fetch.answer with
    | none =>
      refine Or.inl ⟨?_, rfl, rfl, rfl, rfl⟩
      rw [PageFetch.toSave, hanswer, Option.bind_none, ite_self]
    | some answer =>
      dsimp only
      by_cases hfin : fetch.finished = true
      · rw [if_pos hfin]
        exact Or.inl ⟨by rw [PageFetch.toSave, if_pos hfin], rfl, rfl, rfl, rfl⟩
      · rw [if_neg hfin]
        cases hsave : fetch.toSave P with
        | none => exact Or.inl ⟨rfl, rfl, rfl, rfl, rfl⟩
        | some p => exact Or.inr ⟨p.1, p.2, rfl, page_toSave hsave, rfl, rfl, rfl, rfl⟩

variable (P conv) in
lemma step_cases (s : MessageRepository) (e : RepositoryEvent) :
    (s.toSave P e = none ∧ Quiet P conv s (s.step P conv e)) ∨
      (s.toSave P e = none ∧ ∃ m, Numbered m ∧ SameRecords (s.persistMessage P conv m) (s.step P conv e)) ∨
      ∃ instant response, s.toSave P e = some (instant, response) ∧ response.page = 1 ∧
        SameRecords (s.cacheMessage P conv instant response) (s.step P conv e) := by
  cases e with
  | serverChanged server => exact Or.inl ⟨rfl, fun _ hs => hs, rfl, rfl, rfl⟩
  | fetchMessageById page =>
    have hq := quiet_fetchMessageById P conv page s
    exact Or.inl ⟨rfl, hq.stands, hq.persisted, hq.saved, hq.failed⟩
  | answered i =>
    have hq := quiet_answered P conv i s
    exact Or.inl ⟨rfl, hq.stands, hq.persisted, hq.saved, hq.failed⟩
  | completed i =>
    obtain ⟨hsave, hsame⟩ | ⟨instant, response, hsave, hpage, hsame⟩ := completed_cases P conv i s
    · exact Or.inl ⟨hsave, SameRecords.quiet ⟨hsame.cache, hsame.persisted, hsame.saved, hsame.failed⟩⟩
    · exact Or.inr (Or.inr ⟨instant, response, hsave, hpage, hsame.cache, hsame.persisted, hsame.saved, hsame.failed⟩)
  | persist body =>
    cases hbody : PayloadDto.fromJsonString P.json body with
    | none =>
      refine Or.inl ⟨rfl, SameRecords.quiet ?_⟩
      rw [step, handle, hbody]
      exact ⟨rfl, rfl, rfl, rfl⟩
    | some payload =>
      refine Or.inr (Or.inl ⟨rfl, incoming payload, rfl, ?_⟩)
      rw [step, handle, hbody]
      exact ⟨rfl, rfl, rfl, rfl⟩

/-- The cache stands for a history, in which a message without a number waits for ever. -/
structure Sound (P : Platform) (conv : Conversation) (s : MessageRepository) (h : History) : Prop where
  stands : Stands P conv s.cache h
  numbered : ∀ item ∈ h.live, Numbered item
  persisted : ∀ p ∈ s.persisted, Numbered p.2 ∧ (p.2.id = [] → h.waits p.2 = true)

lemma Sound.shown_eq (hs : Sound P conv s h) (m : MessageItemDto) : s.shown P conv m = h.shows P m := by
  obtain ⟨c', hc', -⟩ := hs.stands.read (show (1 : Int32) ≤ 1 by decide)
  rw [shown, hc', History.shows]

lemma Sound.waits_eq (hs : Sound P conv s h) (m : MessageItemDto) : s.waits P conv m = h.waits m := by
  obtain ⟨c', hc', -⟩ := hs.stands.readLive
  rw [waits, hc', History.waits]

lemma Sound.encoded (hs : Sound P conv s h) : ∀ item ∈ h.live, item.encoded = item := by
  obtain ⟨pages, -, hr⟩ := hs.stands
  exact hr.encoded

lemma Sound.quiet (hs : Sound P conv s h) (hq : Quiet P conv s s') :
    Sound P conv s' h ∧ (Kept P conv s' ↔ Kept P conv s) := by
  have hs' : Sound P conv s' h := ⟨hq.stands h hs.stands, hs.numbered, by rw [hq.persisted]; exact hs.persisted⟩
  refine ⟨hs', ?_⟩
  simp only [Kept, Dropped, hq.persisted, hq.saved, hs.shown_eq, hs'.shown_eq]

lemma Sound.persist (hP : P.ReadsBack) (hs : Sound P conv s h) (hm : Numbered m)
    (hrec : SameRecords (s.persistMessage P conv m) s') (hok : s'.failed = false) :
    Sound P conv s' (h.saveMessage m) ∧ (Kept P conv s → Kept P conv s') := by
  obtain ⟨ok, c', hc', hgood, -⟩ := hs.stands.saveMessage hP m
  rw [persistMessage, hc'] at hrec
  obtain ⟨hcache, hpersisted, hsaved, hfailed⟩ := hrec
  dsimp only at hcache hpersisted hsaved hfailed
  rw [hok, eq_comm, Bool.or_eq_false_iff, Bool.not_eq_false'] at hfailed
  obtain rfl := hfailed.2
  rw [if_pos rfl] at hpersisted
  have hs' : Sound P conv s' (h.saveMessage m) := by
    refine ⟨hcache ▸ (hgood rfl).2, numbered_saveMessage hm hs.numbered, fun p hp => ?_⟩
    rw [hpersisted] at hp
    obtain hp | hp := List.mem_append.mp hp
    · obtain ⟨hn, hw⟩ := hs.persisted p hp
      exact ⟨hn, fun hid => waits_saveMessage hn hm hs.numbered hs.encoded (hw hid)⟩
    · obtain rfl := List.mem_singleton.mp hp
      exact ⟨hm, fun _ => waits_saveMessage_self h m⟩
  refine ⟨hs', fun hk p hp => ?_⟩
  rw [hs'.shown_eq, Dropped, hsaved]
  rw [hpersisted] at hp
  obtain hp | hp := List.mem_append.mp hp
  · refine (hk p hp).imp_left (fun hshown => ?_)
    rw [hs.shown_eq] at hshown
    exact shows_saveMessage (hs.persisted p hp).1 hm hs.numbered hs.encoded hshown
  · obtain rfl := List.mem_singleton.mp hp
    refine Or.inl ?_
    rw [shows_iff hm hs'.numbered]
    exact Or.inr (waits_saveMessage_self h m)

lemma Sound.save (hP : P.ReadsBack) (hs : Sound P conv s h) {instant : ℕ} {response : MessageDto}
    (hpage : response.page = 1) (hrec : SameRecords (s.cacheMessage P conv instant response) s')
    (hok : s'.failed = false) : Sound P conv s' (h.savePage response) ∧ (Kept P conv s →
      ((∀ p ∈ s.persisted, instant ≤ p.1 →
        contains response p.2 = true ∨ s.waits P conv p.2 = true ∨ s.Dropped p.1 p.2) ↔ Kept P conv s')) := by
  obtain ⟨ok, c', hc', hgood, -⟩ := hs.stands.savePage hP response
  rw [cacheMessage, hc'] at hrec
  obtain ⟨hcache, hpersisted, hsaved, hfailed⟩ := hrec
  dsimp only at hcache hpersisted hsaved hfailed
  rw [hok, eq_comm, Bool.or_eq_false_iff, Bool.not_eq_false'] at hfailed
  obtain rfl := hfailed.2
  rw [if_pos rfl] at hsaved
  have hs' : Sound P conv s' (h.savePage response) := by
    refine ⟨hcache ▸ (hgood rfl).2, fun item hi => hs.numbered item (List.mem_of_mem_filter hi), fun p hp => ?_⟩
    rw [hpersisted] at hp
    obtain ⟨hn, hw⟩ := hs.persisted p hp
    exact ⟨hn, fun hid => waits_savePage_unnumbered hn hid hs.numbered (hw hid) response⟩
  have hdropped : ∀ t m, s'.Dropped t m ↔ s.Dropped t m ∨ (t < instant ∧ contains response m = false) := by
    intro t m
    simp only [Dropped, hsaved, List.mem_append, List.mem_singleton, or_and_right, exists_or, exists_eq_left]
  refine ⟨hs', fun hk => ?_⟩
  rw [Kept, hpersisted]
  refine forall₂_congr (fun p hp => ?_)
  obtain ⟨hn, hw⟩ := hs.persisted p hp
  rw [hs'.shown_eq, hs.waits_eq, hdropped, shows_savePage hpage hn hs.numbered hw]
  constructor
  · intro hc
    by_cases hlt : instant ≤ p.1
    · rcases hc hlt with hc | hw | hd
      · exact Or.inl (Or.inr hc)
      · exact Or.inl (Or.inl hw)
      · exact Or.inr (Or.inl hd)
    · cases hr : contains response p.2 with
      | true => exact Or.inl (Or.inr rfl)
      | false => exact Or.inr (Or.inr ⟨Nat.lt_of_not_le hlt, rfl⟩)
  · rintro ((hw | hc) | hd | ⟨hlt, -⟩) hle
    · exact Or.inr (Or.inl hw)
    · exact Or.inl hc
    · exact Or.inr (Or.inr hd)
    · exact absurd hlt (Nat.not_lt_of_le hle)

lemma Sound.step (hP : P.ReadsBack) (hs : Sound P conv s h) (e : RepositoryEvent)
    (hok : (s.step P conv e).failed = false) : ∃ h', Sound P conv (s.step P conv e) h' ∧
      (Kept P conv s → (NotOvertaken P conv s e ↔ Kept P conv (s.step P conv e))) := by
  have hnone : s.toSave P e = none → NotOvertaken P conv s e := by
    intro hsave instant response he
    rw [hsave] at he
    cases he
  obtain ⟨hsave, hq⟩ | ⟨hsave, m, hm, hrec⟩ | ⟨instant, response, hsave, hpage, hrec⟩ :=
    step_cases P conv s e
  · obtain ⟨hs', hkept⟩ := hs.quiet hq
    exact ⟨h, hs', fun hk => iff_of_true (hnone hsave) (hkept.mpr hk)⟩
  · obtain ⟨hs', hkept⟩ := hs.persist hP hm hrec hok
    exact ⟨_, hs', fun hk => iff_of_true (hnone hsave) (hkept hk)⟩
  · obtain ⟨hs', hkept⟩ := hs.save hP hpage hrec hok
    refine ⟨_, hs', fun hk => ?_⟩
    rw [← hkept hk, NotOvertaken, hsave]
    constructor
    · exact fun hc => hc instant response rfl
    · intro hc instant' response' he
      obtain ⟨rfl, rfl⟩ := Prod.mk.inj (Option.some.inj he)
      exact hc

lemma failed_step (s : MessageRepository) (e : RepositoryEvent) (h : s.failed = true) :
    (s.step P conv e).failed = true := by
  obtain ⟨-, hq⟩ | ⟨-, m, -, hrec⟩ | ⟨instant, response, -, -, hrec⟩ := step_cases P conv s e
  · rw [hq.failed, h]
  · rw [hrec.failed, persistMessage, h]
    rfl
  · rw [hrec.failed, cacheMessage, h]
    rfl

lemma each_succeeded {es : List RepositoryEvent} (hok : (after (step P conv) s es).failed = false) :
    Each (step P conv) (fun s e => (s.step P conv e).failed = false) s es := by
  have hfailed : ∀ (es : List RepositoryEvent) (s : MessageRepository), s.failed = true →
      (after (step P conv) s es).failed = true := by
    intro es
    induction es with
    | nil => exact fun _ h => h
    | cons e es ih => exact fun s h => ih _ (failed_step s e h)
  induction es generalizing s with
  | nil => trivial
  | cons e es ih =>
    refine ⟨Bool.eq_false_iff.mpr (fun h => ?_), ih hok⟩
    rw [after_cons, hfailed es _ h] at hok
    cases hok

end

/-- However fetches and messages overlap, each message that reached the cache is shown until the server is known
to have dropped it, exactly if no response is saved after it that is older and lacks it, once a page has
taken the message over. -/
theorem messages_outlive_fetches {P : Platform} {conv : Conversation} {c : Cache} {h : History}
    {es : List RepositoryEvent} (hP : P.ReadsBack) (hstart : Stands P conv c h)
    (hlive : ∀ item ∈ h.live, Numbered item) (hok : (after (step P conv) { cache := c } es).failed = false) :
    Each (step P conv) (NotOvertaken P conv) { cache := c } es ↔
      Each (step P conv) (fun s e => Kept P conv (s.step P conv e)) { cache := c } es := by
  have hsound : Sound P conv { cache := c } h := ⟨hstart, hlive, fun p hp => absurd hp List.not_mem_nil⟩
  have hkept : Kept P conv { cache := c } := fun p hp => absurd hp List.not_mem_nil
  refine (each_succeeded hok).iff_kept (G := fun s => ∃ h, Sound P conv s h) ⟨h, hsound⟩ hkept ?_
  rintro s e ⟨h, hs⟩ hH
  obtain ⟨h', hs', hiff⟩ := hs.step hP e hH
  exact ⟨⟨h', hs'⟩, hiff⟩

/-! ### The repository over the history itself -/

/-- The history in place of its file, and what it asks the file to keep; of `rest` the cache plays no part. -/
structure HistoryRepository where
  history : History := {}
  spending : Spending := {}
  rest : MessageRepository

namespace HistoryRepository

variable (P : Platform) (conv : Conversation)

def fetchMessageById (page : Int32) (t : HistoryRepository) : HistoryRepository :=
  let cache := if page = 1 then (t.history.read P page).toDomain else {}
  { t with rest := { t.rest with fetches := t.rest.fetches ++
    [{ page := page, cache := cache, results := if cache.messages.isEmpty then [] else [cache], finished := page < 1 }] } }

def cacheMessage (instant : ℕ) (response : MessageDto) (t : HistoryRepository) : HistoryRepository where
  history := t.history.savePage response
  spending := t.history.spendPage P response t.spending
  rest := { t.rest with saved := t.rest.saved ++ [(instant, response)] }

def completed (i : ℕ) (t : HistoryRepository) : HistoryRepository :=
  match t.rest.fetches[i]? with
  | none => t
  | some fetch =>
    match fetch.answer with
    | none => t
    | some answer =>
      if fetch.finished then t
      else
        let fetch' := { fetch with results := fetch.results ++ (fetch.respond P answer.2).1, finished := true }
        let t' := { t with rest := t.rest.setFetch i fetch' }
        match fetch.toSave P with
        | none => t'
        | some (instant, response) => t'.cacheMessage P instant response

def persistMessage (message : MessageItemDto) (t : HistoryRepository) : HistoryRepository where
  history := t.history.saveMessage message
  spending := t.history.spendMessage P message t.spending
  rest := { t.rest with persisted := t.rest.persisted ++ [(t.rest.now, message)] }

def handle (t : HistoryRepository) : RepositoryEvent → HistoryRepository
  | .serverChanged server => { t with rest := { t.rest with server := server } }
  | .fetchMessageById page => t.fetchMessageById P page
  | .answered i => { t with rest := t.rest.answered i }
  | .completed i => t.completed P i
  | .persist body =>
    match PayloadDto.fromJsonString P.json body with
    | none => t
    | some payload => t.persistMessage P (incoming payload)

def step (t : HistoryRepository) (e : RepositoryEvent) : HistoryRepository :=
  { t.handle P e with rest := { (t.handle P e).rest with now := t.rest.now + 1 } }

def Mirrors (t : HistoryRepository) (s : MessageRepository) : Prop :=
  ∃ c, s = { t.rest with cache := c } ∧ Stands P conv c t.history ∧ Room P t.spending c

section

variable {P : Platform} {conv : Conversation} {t : HistoryRepository} {s : MessageRepository}

lemma Mirrors.fetchMessageById (h : t.Mirrors P conv s) (page : Int32) :
    (t.fetchMessageById P page).Mirrors P conv (s.fetchMessageById P conv page) := by
  obtain ⟨c, rfl, hs, hroom⟩ := h
  rw [MessageRepository.fetchMessageById, HistoryRepository.fetchMessageById]
  by_cases hp : page < 1
  · have hne : page ≠ 1 := by
      rintro rfl
      exact absurd hp (by decide)
    rw [if_pos hp, if_neg hne]
    refine ⟨c, ?_, hs, hroom⟩
    simp [hp]
  by_cases h1 : page = 1
  · obtain ⟨c', hc', hs', -⟩ := hs.read (Int32.not_lt.mp hp)
    have hroom' := hroom.readHistory conv (Int32.not_lt.mp hp)
    rw [hc'] at hroom'
    rw [if_neg hp, if_pos h1, if_pos h1]
    dsimp only
    rw [hc']
    refine ⟨c', ?_, hs', hroom'⟩
    simp [hp]
  · rw [if_neg hp, if_neg h1, if_neg h1]
    refine ⟨c, ?_, hs, hroom⟩
    simp [hp]

lemma Mirrors.cacheMessage (h : t.Mirrors P conv s) (hP : P.ReadsBack) (hblank : conv.blank = false) {instant : ℕ}
    {response : MessageDto} (hpage : response.page = 1) (hfit : (t.cacheMessage P instant response).spending.Fits) :
    (t.cacheMessage P instant response).Mirrors P conv (s.cacheMessage P conv instant response) := by
  obtain ⟨c, rfl, hs, hroom⟩ := h
  obtain ⟨c', hc', -, hs', hroom'⟩ := hs.savePage_fits hroom hP hblank (by rw [hpage]; decide) hfit
  refine ⟨c', ?_, hs', hroom'⟩
  rw [MessageRepository.cacheMessage, hc', HistoryRepository.cacheMessage]
  simp

lemma Mirrors.persistMessage (h : t.Mirrors P conv s) (hP : P.ReadsBack) (hblank : conv.blank = false)
    {message : MessageItemDto} (hfit : (t.persistMessage P message).spending.Fits) :
    (t.persistMessage P message).Mirrors P conv (s.persistMessage P conv message) := by
  obtain ⟨c, rfl, hs, hroom⟩ := h
  obtain ⟨c', hc', -, hs', hroom'⟩ := hs.saveMessage_fits hroom hP hblank hfit
  refine ⟨c', ?_, hs', hroom'⟩
  rw [MessageRepository.persistMessage, hc', HistoryRepository.persistMessage]
  simp

lemma Mirrors.answered (h : t.Mirrors P conv s) (i : ℕ) :
    ({ t with rest := t.rest.answered i } : HistoryRepository).Mirrors P conv (s.answered i) := by
  obtain ⟨c, rfl, hs, hroom⟩ := h
  refine ⟨c, ?_, hs, hroom⟩
  rw [MessageRepository.answered, MessageRepository.answered]
  dsimp only
  cases t.rest.fetches[i]? with
  | none => rfl
  | some fetch =>
    dsimp only
    split_ifs
    · rfl
    · rfl

lemma Mirrors.completed (h : t.Mirrors P conv s) (hP : P.ReadsBack) (hblank : conv.blank = false) {i : ℕ}
    (hfit : (t.completed P i).spending.Fits) : (t.completed P i).Mirrors P conv (s.completed P conv i) := by
  obtain ⟨c, rfl, hs, hroom⟩ := h
  rw [HistoryRepository.completed] at hfit ⊢
  rw [MessageRepository.completed]
  dsimp only
  cases hfetch : t.rest.fetches[i]? with
  | none => exact ⟨c, rfl, hs, hroom⟩
  | some fetch =>
    rw [hfetch] at hfit
    dsimp only at hfit ⊢
    cases hanswer : fetch.answer with
    | none => exact ⟨c, rfl, hs, hroom⟩
    | some answer =>
      rw [hanswer] at hfit
      dsimp only at hfit ⊢
      by_cases hfin : fetch.finished = true
      · rw [if_pos hfin, if_pos hfin]
        exact ⟨c, rfl, hs, hroom⟩
      rw [if_neg hfin] at hfit
      rw [if_neg hfin, if_neg hfin]
      cases hsave : fetch.toSave P with
      | none => exact ⟨c, rfl, hs, hroom⟩
      | some p =>
        rw [hsave] at hfit
        refine Mirrors.cacheMessage (t := { t with rest := t.rest.setFetch i _ }) ⟨c, rfl, hs, hroom⟩ hP hblank ?_ hfit
        exact page_toSave hsave

lemma Mirrors.step (h : t.Mirrors P conv s) (hP : P.ReadsBack) (hblank : conv.blank = false) (e : RepositoryEvent)
    (hfit : (t.step P e).spending.Fits) : (t.step P e).Mirrors P conv (s.step P conv e) := by
  have hhandle : (t.handle P e).Mirrors P conv (s.handle P conv e) := by
    cases e with
    | serverChanged server =>
      obtain ⟨c, rfl, hs, hroom⟩ := h
      exact ⟨c, rfl, hs, hroom⟩
    | fetchMessageById page => exact h.fetchMessageById page
    | answered i => exact h.answered i
    | completed i => exact h.completed hP hblank hfit
    | persist body =>
      change (handle P t (.persist body)).spending.Fits at hfit
      rw [HistoryRepository.handle] at hfit ⊢
      rw [MessageRepository.handle]
      cases hbody : PayloadDto.fromJsonString P.json body with
      | none => exact h
      | some payload =>
        rw [hbody] at hfit
        exact h.persistMessage hP hblank hfit
  have hnow : s.now = t.rest.now := by
    obtain ⟨c, rfl, -, -⟩ := h
    rfl
  obtain ⟨c, hc, hs, hroom⟩ := hhandle
  refine ⟨c, ?_, hs, hroom⟩
  rw [MessageRepository.step, HistoryRepository.step, hc, hnow]

lemma Mirrors.shown_eq (h : t.Mirrors P conv s) (m : MessageItemDto) : s.shown P conv m = t.history.shows P m := by
  obtain ⟨c, rfl, hs, -⟩ := h
  obtain ⟨c', hread, -⟩ := hs.read (show (1 : Int32) ≤ 1 by decide)
  rw [shown, hread, History.shows]

lemma blocks_le_completed (P : Platform) (t : HistoryRepository) (i : ℕ) :
    t.spending.blocks ≤ (t.completed P i).spending.blocks := by
  rw [HistoryRepository.completed]
  cases t.rest.fetches[i]? with
  | none => exact le_rfl
  | some fetch =>
    dsimp only
    cases fetch.answer with
    | none => exact le_rfl
    | some answer =>
      dsimp only
      split_ifs with hfin
      · exact le_rfl
      · cases fetch.toSave P with
        | none => exact le_rfl
        | some p => exact (Spending.blocks_le_add _ _).trans (Spending.blocks_le_add _ _)

lemma blocks_le_step (P : Platform) (t : HistoryRepository) (e : RepositoryEvent) :
    t.spending.blocks ≤ (t.step P e).spending.blocks := by
  cases e with
  | completed i => exact blocks_le_completed P t i
  | persist body =>
    rw [HistoryRepository.step, HistoryRepository.handle]
    cases PayloadDto.fromJsonString P.json body with
    | none => exact le_rfl
    | some payload => exact Spending.blocks_le_add _ _
  | _ => exact le_rfl

lemma blocks_le_after (P : Platform) (t : HistoryRepository) (es : List RepositoryEvent) :
    t.spending.blocks ≤ (after (step P) t es).spending.blocks := by
  induction es generalizing t with
  | nil => exact le_rfl
  | cons e es ih => exact (blocks_le_step P t e).trans (ih _)

lemma Mirrors.after (h : t.Mirrors P conv s) (hP : P.ReadsBack) (hblank : conv.blank = false)
    {es : List RepositoryEvent} (hfit : (Reactive.after (HistoryRepository.step P) t es).spending.Fits) :
    (Reactive.after (HistoryRepository.step P) t es).Mirrors P conv
      (Reactive.after (MessageRepository.step P conv) s es) := by
  induction es generalizing t s with
  | nil => exact h
  | cons e es ih => exact ih (h.step hP hblank e ((blocks_le_after P _ es).trans hfit)) hfit

end

end HistoryRepository

/-! ### A response that comes late -/

def dated (id sentAt : String) : MessageItemDto := { textMessage id "x" with sentAt := key sentAt }

def serverPage (items : List MessageItemDto) (_ : Int32) : Option QString :=
  some (plainPlatform.json.compact (MessageDto.toJson ⟨items, 1, 200, 1, 1⟩))

/-- The first fetch is answered before `m` comes and completes after the second, which is answered after. -/
def lateResponse : List RepositoryEvent :=
  [.serverChanged (serverPage [dated "k" "1"]), .fetchMessageById 1, .answered 0,
    .persist (plainPlatform.json.compact (textMessage "m" "x").body.toJson),
    .serverChanged (serverPage [dated "k" "1", dated "m" "2"]), .fetchMessageById 1, .answered 1,
    .completed 1, .completed 0]

def lateEnd : MessageRepository := after (step plainPlatform plainChat) { cache := {} } lateResponse

def lateHistory : HistoryRepository :=
  after (HistoryRepository.step plainPlatform) { rest := { cache := {} } } lateResponse

lemma lateHistory_facts : lateHistory.spending.Fits ∧ lateHistory.rest.failed = false ∧
    lateHistory.rest.fetches.all PageFetch.finished = true ∧
    lateHistory.rest.persisted = [(3, incoming (textMessage "m" "x").body)] ∧
    lateHistory.rest.saved =
      [(6, ⟨[dated "k" "1", dated "m" "2"], 1, 200, 1, 1⟩), (2, ⟨[dated "k" "1"], 1, 200, 1, 1⟩)] ∧
    lateHistory.history.shows plainPlatform (incoming (textMessage "m" "x").body) = false := by
  decide +kernel

lemma lateEnd_facts : lateEnd.failed = false ∧ lateEnd.fetches.all PageFetch.finished = true ∧
    lateEnd.persisted = [(3, incoming (textMessage "m" "x").body)] ∧
    lateEnd.saved =
      [(6, ⟨[dated "k" "1", dated "m" "2"], 1, 200, 1, 1⟩), (2, ⟨[dated "k" "1"], 1, 200, 1, 1⟩)] ∧
    lateEnd.shown plainPlatform plainChat (incoming (textMessage "m" "x").body) = false := by
  obtain ⟨hfit, hfailed, hfinished, hpersisted, hsaved, hshows⟩ := lateHistory_facts
  have hstart : HistoryRepository.Mirrors plainPlatform plainChat { rest := { cache := {} } } { cache := {} } :=
    ⟨{}, rfl, stands_plainChat, .initial _ _ 0⟩
  have hend : lateHistory.Mirrors plainPlatform plainChat lateEnd :=
    hstart.after plainPlatform_readsBack (by decide) hfit
  rw [hend.shown_eq]
  obtain ⟨c, hc, -⟩ := hend
  generalize lateHistory = t at hc hfailed hfinished hpersisted hsaved hshows ⊢
  rw [hc]
  exact ⟨hfailed, hfinished, hpersisted, hsaved, hshows⟩

theorem messages_outlive_fetches_sample :
    Each (step plainPlatform plainChat) (NotOvertaken plainPlatform plainChat) { cache := {} } lateResponse ↔
      Each (step plainPlatform plainChat) (fun s e => Kept plainPlatform plainChat (s.step plainPlatform plainChat e))
        { cache := {} } lateResponse :=
  messages_outlive_fetches plainPlatform_readsBack stands_plainChat (fun _ h => absurd h List.not_mem_nil)
    lateEnd_facts.1

/-- The page saved first takes `m` over, the page saved last does not have it yet. -/
theorem message_lost_to_late_response : ¬∀ (P : Platform) (conv : Conversation) (c : Cache) (h : History)
    (es : List RepositoryEvent), P.ReadsBack → Stands P conv c h → (∀ item ∈ h.live, Numbered item) →
    (after (step P conv) { cache := c } es).failed = false →
    (∀ fetch ∈ (after (step P conv) { cache := c } es).fetches, fetch.finished = true) →
    Kept P conv (after (step P conv) { cache := c } es) := by
  intro hclaim
  obtain ⟨hok, hfinished, hpersisted, hsaved, hlost⟩ := lateEnd_facts
  have hkept := hclaim plainPlatform plainChat {} {} lateResponse plainPlatform_readsBack stands_plainChat
    (fun _ h => absurd h List.not_mem_nil) hok (List.all_eq_true.mp hfinished)
  have hm : (3, incoming (textMessage "m" "x").body) ∈ lateEnd.persisted := by
    rw [hpersisted]
    exact List.mem_singleton.mpr rfl
  obtain hshown | ⟨p, hp, hlt, homits⟩ := hkept _ hm
  · exact Bool.noConfusion (hlost.symm.trans hshown)
  · change p ∈ lateEnd.saved at hp
    rw [hsaved] at hp
    obtain rfl | hp := List.mem_cons.mp hp
    · exact absurd homits (by decide)
    · obtain rfl := List.mem_singleton.mp hp
      exact absurd hlt (by decide)

end MessageRepository

end ChatDesktop.Chat
