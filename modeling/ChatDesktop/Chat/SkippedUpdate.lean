import ChatDesktop.Chat.PageFetches

namespace ChatDesktop.Chat

open Library Library.Reactive Storage MessageHistoryCache

/-! ### Putting batches in order loses no message -/

lemma exists_position {α : Type} {p : α → Bool} {l : List α} {k : ℕ} (hk : k < (l.filter p).length) :
    ∃ (i : ℕ) (hi : i < l.length), p l[i] = true ∧ ((l.take i).filter p).length = k := by
  induction l generalizing k with
  | nil => exact absurd hk (Nat.not_lt_zero k)
  | cons a l ih =>
    cases ha : p a with
    | true =>
      rw [List.filter_cons_of_pos ha, List.length_cons] at hk
      cases k with
      | zero => exact ⟨0, Nat.succ_pos _, ha, rfl⟩
      | succ k =>
        obtain ⟨i, hi, hp, hlen⟩ := ih (Nat.lt_of_succ_lt_succ hk)
        refine ⟨i + 1, Nat.succ_lt_succ hi, hp, ?_⟩
        rw [List.take_succ_cons, List.filter_cons_of_pos ha, List.length_cons, hlen]
    | false =>
      rw [List.filter_cons_of_neg (by simp [ha])] at hk
      obtain ⟨i, hi, hp, hlen⟩ := ih hk
      refine ⟨i + 1, Nat.succ_lt_succ hi, hp, ?_⟩
      rw [List.take_succ_cons, List.filter_cons_of_neg (by simp [ha]), hlen]

lemma mem_inSelectionOrder {m : MessageItem} {messages : List MessageItem} (hm : m ∈ messages) :
    m ∈ inSelectionOrder messages := by
  rw [inSelectionOrder, List.mem_mapIdx]
  cases hb : m.batch with
  | none =>
    obtain ⟨i, hi, rfl⟩ := List.getElem_of_mem hm
    refine ⟨i, hi, ?_⟩
    rw [hb]
  | some batch =>
    have hpos : m ∈ messages.filter (fun m => decide (m.batch = some batch)) :=
      List.mem_filter.mpr ⟨hm, decide_eq_true hb⟩
    have hsorted := (List.mergeSort_perm _ (fun left right : MessageItem =>
      decide (left.body.attachmentIndex ≤ right.body.attachmentIndex))).mem_iff.mpr hpos
    obtain ⟨k, hk, he⟩ := List.getElem_of_mem hsorted
    have hk' := hk
    rw [List.length_mergeSort] at hk'
    obtain ⟨i, hi, hp, hlen⟩ := exists_position hk'
    refine ⟨i, hi, ?_⟩
    rw [of_decide_eq_true hp]
    dsimp only
    rw [hlen, List.getD_eq_getElem _ _ hk, he]

lemma mem_toDomain {m : MessageItemDto} {r : MessageDto} (hm : m ∈ r.messages) : m.toDomain ∈ r.toDomain.messages :=
  mem_inSelectionOrder (List.mem_map_of_mem hm)

lemma toDomain_eq_nil {r : MessageDto} : r.toDomain.messages = [] ↔ r.messages = [] := by
  rw [← List.length_eq_zero_iff, ← List.length_eq_zero_iff, MessageDto.toDomain, inSelectionOrder, List.length_mapIdx,
    List.length_map]

/-! ### A fetch by itself -/

/-- The first page is fetched from a server that answers with `body`. -/
def isolatedFetch (P : Platform) (conv : Conversation) (c : Cache) (body : QString) : MessageRepository :=
  after (MessageRepository.step P conv) { cache := c, server := fun _ => some body }
    [.fetchMessageById 1, .answered 0, .completed 0]

namespace MessageRepository

def lastResult (s : MessageRepository) : Option MessageResponse :=
  s.fetches.head?.bind (fun fetch => fetch.results.getLast?)

end MessageRepository

def InVersion (m x : MessageItemDto) : Prop := x = m ∨ x = m.encoded

section

variable (P : Platform) (conv : Conversation)

def savedPage (c : Cache) : MessageDto := (readSnapshot P (snapshots P conv) 1 false c).1

def cachedHistory (c : Cache) : MessageDto := (MessageHistoryCache.read P (snapshots P conv) 1 c).1

/-- The caller has been shown the response, and so will the next one. Before the fetch the cache was `c`. -/
def Reflects (c : Cache) (response : MessageDto) (s : MessageRepository) : Prop :=
  ∃ last, s.lastResult = some last ∧
    if response.messages = [] then
      ∀ m ∈ (savedPage P conv c).messages, m.toDomain ∉ last.messages ∧ m ∉ (cachedHistory P conv s.cache).messages
    else
      ∀ m ∈ response.messages, (∃ x, InVersion m x ∧ x.toDomain ∈ last.messages) ∧
        ∃ x ∈ (cachedHistory P conv s.cache).messages, InVersion m x

/-- The history is read to have the response already. -/
def HasAlready (c : Cache) (response : MessageDto) : Prop :=
  ∀ m ∈ response.messages, ∃ x ∈ (cachedHistory P conv c).messages, InVersion m x

/-- The last message of the response is later than the last one in the cache. -/
def Newer (c : Cache) (response : MessageDto) : Prop :=
  (cachedHistory P conv c).messages = [] ∨
    PageFetch.lastSentAt (cachedHistory P conv c).toDomain < PageFetch.lastSentAt response.toDomain

end

section

variable {P : Platform} {conv : Conversation} {c : Cache} {h : History} {body : QString} {response : MessageDto}

lemma Stands.savedPage (hs : Stands P conv c h) : savedPage P conv c = (h.page 1).getD (noMessages 1) := by
  obtain ⟨c', hc', -⟩ := hs.readPage (show (1 : Int32) ≤ 1 by decide)
  rw [Chat.savedPage, hc']

lemma Stands.cachedHistory (hs : Stands P conv c h) : cachedHistory P conv c = h.read P 1 := by
  obtain ⟨c', hc', -⟩ := hs.read (show (1 : Int32) ≤ 1 by decide)
  rw [Chat.cachedHistory, hc']

lemma mem_read_of_page {m : MessageItemDto} (hm : m ∈ ((h.page 1).getD (noMessages 1)).messages) :
    m ∈ (h.read P 1).messages := by
  rw [read_first_messages]
  exact mem_foldl_addLive hm h.live

lemma mem_read_savePage (h : History) (hpage : response.page = 1) {m : MessageItemDto} (hm : m ∈ response.messages) :
    m.encoded ∈ ((h.savePage response).read P 1).messages := by
  refine mem_read_of_page ?_
  rw [History.savePage, hpage]
  dsimp only
  rw [Function.update_self, Option.getD_some]
  exact List.mem_map_of_mem hm

def answeredFetch (P : Platform) (h : History) (body : QString) : PageFetch where
  page := 1
  cache := (h.read P 1).toDomain
  answer := some (1, some body)
  results := if (h.read P 1).toDomain.messages.isEmpty then [] else [(h.read P 1).toDomain]

lemma isolatedFetch_eq (hs : Stands P conv c h) (body : QString) :
    ∃ c₁, Stands P conv c₁ h ∧ c₁.caught = c.caught ∧
      (isolatedFetch P conv c body).lastResult =
        ((answeredFetch P h body).results ++ ((answeredFetch P h body).respond P (some body)).1).getLast? ∧
      (isolatedFetch P conv c body).cache =
        match ((answeredFetch P h body).respond P (some body)).2 with
        | none => c₁
        | some r => (MessageHistoryCache.savePage P (snapshots P conv) conv r c₁).2 := by
  obtain ⟨c₁, hc₁, hs₁, hcaught⟩ := hs.read (show (1 : Int32) ≤ 1 by decide)
  refine ⟨c₁, hs₁, hcaught, ?_⟩
  have hstart : MessageRepository.step P conv { cache := c, server := fun _ => some body } (.fetchMessageById 1) =
      { cache := c₁, server := fun _ => some body, fetches := [{ answeredFetch P h body with answer := none }], now := 1 } := by
    rw [MessageRepository.step, MessageRepository.handle, MessageRepository.fetchMessageById, if_neg (by decide),
      if_pos rfl]
    dsimp only
    rw [hc₁]
    rfl
  have hanswer : MessageRepository.step P conv
      { cache := c₁, server := fun _ => some body, fetches := [{ answeredFetch P h body with answer := none }], now := 1 }
      (.answered 0) = { cache := c₁, server := fun _ => some body, fetches := [answeredFetch P h body], now := 2 } := rfl
  have hsave : (answeredFetch P h body).toSave P =
      ((answeredFetch P h body).respond P (some body)).2.map (fun response => (1, response)) := rfl
  rw [isolatedFetch, after_cons, hstart, after_cons, hanswer, after_cons, after_nil, MessageRepository.step,
    MessageRepository.handle, MessageRepository.completed]
  dsimp only [List.getElem?_cons_zero]
  rw [hsave]
  cases ((answeredFetch P h body).respond P (some body)).2 with
  | none => exact ⟨rfl, rfl⟩
  | some r => exact ⟨rfl, rfl⟩

lemma page_of_decoded (hbody : decoded P 1 body = some response) : response.page = 1 := by
  rw [decoded] at hbody
  split at hbody
  · exact of_decide_eq_true (Option.filter_eq_some_iff.mp hbody).2
  · cases hbody

lemma respond_empty (hbody : decoded P 1 body = some response) (hempty : response.messages = []) :
    (answeredFetch P h body).respond P (some body) =
      (if (h.read P 1).toDomain.messages.isEmpty then [{}] else [], none) := by
  have hdto : (answeredFetch P h body).dto P (some body) = some response := hbody
  rw [PageFetch.respond, hdto]
  dsimp only
  rw [if_pos (by rw [hempty]; rfl)]
  rfl

lemma respond_messages (hbody : decoded P 1 body = some response) (hmessages : response.messages ≠ []) :
    (answeredFetch P h body).respond P (some body) =
      if (h.read P 1).messages = [] ∨ PageFetch.lastSentAt (h.read P 1).toDomain < PageFetch.lastSentAt response.toDomain
        then ([response.toDomain], some response) else ([], none) := by
  have hdto : (answeredFetch P h body).dto P (some body) = some response := hbody
  rw [PageFetch.respond, hdto]
  dsimp only
  rw [if_neg (by rwa [List.isEmpty_iff])]
  simp only [answeredFetch, if_true, List.isEmpty_iff, toDomain_eq_nil]

lemma getLast_results (hne : (h.read P 1).messages ≠ []) :
    ((answeredFetch P h body).results ++ []).getLast? = some (h.read P 1).toDomain := by
  rw [answeredFetch, if_neg (by rwa [List.isEmpty_iff, toDomain_eq_nil])]
  rfl

lemma reflects_empty_iff (hs : Stands P conv c h) (hbody : decoded P 1 body = some response)
    (hempty : response.messages = []) :
    Reflects P conv c response (isolatedFetch P conv c body) ↔ (savedPage P conv c).messages = [] := by
  obtain ⟨c₁, hs₁, -, hlast, hcache⟩ := isolatedFetch_eq hs body
  rw [respond_empty hbody hempty] at hlast hcache
  dsimp only at hlast hcache
  rw [Reflects, hlast, hcache, hs₁.cachedHistory, hs.savedPage]
  simp only [if_pos hempty]
  constructor
  · rintro ⟨last, -, hgone⟩
    by_contra hne
    obtain ⟨m, hm⟩ := List.exists_mem_of_ne_nil _ hne
    exact (hgone m hm).2 (mem_read_of_page hm)
  · intro hnil
    have hsome : ((answeredFetch P h body).results ++
        if (h.read P 1).toDomain.messages.isEmpty = true then [({} : MessageResponse)] else []).getLast?.isSome = true := by
      rw [answeredFetch]
      split_ifs <;> rfl
    obtain ⟨last, hl⟩ := Option.isSome_iff_exists.mp hsome
    refine ⟨last, hl, fun m hm => ?_⟩
    rw [hnil] at hm
    exact absurd hm List.not_mem_nil

lemma reflects_skipped (hs : Stands P conv c h) (hbody : decoded P 1 body = some response)
    (hmessages : response.messages ≠ []) (hnew : ¬Newer P conv c response) :
    Reflects P conv c response (isolatedFetch P conv c body) ↔ HasAlready P conv c response := by
  obtain ⟨c₁, hs₁, -, hlast, hcache⟩ := isolatedFetch_eq hs body
  rw [Newer, hs.cachedHistory] at hnew
  have hne : (h.read P 1).messages ≠ [] := fun hnil => hnew (Or.inl hnil)
  rw [respond_messages hbody hmessages, if_neg hnew] at hlast hcache
  dsimp only at hlast hcache
  rw [getLast_results hne] at hlast
  rw [Reflects, HasAlready, hlast, hcache, hs₁.cachedHistory, hs.cachedHistory]
  simp only [if_neg hmessages, Option.some.injEq, exists_eq_left']
  refine forall₂_congr (fun m _ => ⟨And.right, fun hx => ⟨?_, hx⟩⟩)
  obtain ⟨x, hx, hv⟩ := hx
  exact ⟨x, hv, mem_toDomain hx⟩

lemma reflects_updated (hP : P.ReadsBack) (hs : Stands P conv c h) (hbody : decoded P 1 body = some response)
    (hmessages : response.messages ≠ []) (hnew : Newer P conv c response)
    (hcaught : (isolatedFetch P conv c body).cache.caught = []) :
    Reflects P conv c response (isolatedFetch P conv c body) ↔ HasAlready P conv c response ∨ conv.blank = false := by
  obtain ⟨c₁, hs₁, -, hlast, hcache⟩ := isolatedFetch_eq hs body
  rw [Newer, hs.cachedHistory] at hnew
  rw [respond_messages hbody hmessages, if_pos hnew] at hlast hcache
  dsimp only at hlast hcache
  rw [List.getLast?_concat] at hlast
  obtain ⟨ok, c₂, hc₂, hok, hfail⟩ := hs₁.savePage hP response
  rw [hc₂] at hcache
  rw [hcache] at hcaught
  have hpage := page_of_decoded hbody
  have hdelivered : ∀ m ∈ response.messages, ∃ x, InVersion m x ∧ x.toDomain ∈ response.toDomain.messages :=
    fun m hm => ⟨m, Or.inl rfl, mem_toDomain hm⟩
  rw [Reflects, HasAlready, hlast, hcache, hs.cachedHistory]
  simp only [if_neg hmessages, Option.some.injEq, exists_eq_left']
  cases ok with
  | true =>
    obtain ⟨⟨hblank, -⟩, hs₂⟩ := hok rfl
    refine iff_of_true (fun m hm => ⟨hdelivered m hm, m.encoded, ?_, Or.inr rfl⟩) (Or.inr hblank)
    rw [hs₂.cachedHistory]
    exact mem_read_savePage h hpage hm
  | false =>
    obtain ⟨hs₂, hwhy⟩ := (hfail rfl).resolve_left (fun hne => hne hcaught)
    have hblank : conv.blank = true := hwhy.resolve_right (by rw [hpage]; decide)
    rw [hs₂.cachedHistory]
    constructor
    · exact fun hall => Or.inl (fun m hm => (hall m hm).2)
    · rintro (hall | hfalse)
      · exact fun m hm => ⟨hdelivered m hm, hall m hm⟩
      · rw [hblank] at hfalse
        cases hfalse

/-- A fetch of the first page leaves the caller with the response exactly if the history had it already, or its
last message is newer than the last one in the history and there is a conversation to save it for; and if an
empty response finds no page saved. -/
theorem reflects_iff (hP : P.ReadsBack) (hs : Stands P conv c h) (hbody : decoded P 1 body = some response)
    (hcaught : (isolatedFetch P conv c body).cache.caught = []) :
    Reflects P conv c response (isolatedFetch P conv c body) ↔
      if response.messages = [] then (savedPage P conv c).messages = []
      else HasAlready P conv c response ∨ (Newer P conv c response ∧ conv.blank = false) := by
  split_ifs with hempty
  · exact reflects_empty_iff hs hbody hempty
  · by_cases hnew : Newer P conv c response
    · rw [reflects_updated hP hs hbody hempty hnew hcaught, and_iff_right hnew]
    · rw [reflects_skipped hs hbody hempty hnew, or_iff_left (fun hh => hnew hh.1)]

end

/-! ### An empty response, and an answer to the first fetch -/

def noPage : MessageDto := ⟨[], 1, 200, 0, 0⟩

def onePage : MessageDto := ⟨[MessageRepository.dated "k" "1"], 1, 200, 1, 1⟩

lemma decoded_page (r : MessageDto) (hr : r.page = 1) (henc : r.encoded = r) :
    decoded plainPlatform 1 (plainPlatform.json.compact r.toJson) = some r := by
  have h := decoded_document plainPlatform_readsBack r
  rwa [document, plainPlatform_readsBack.utf8, hr, henc] at h

set_option maxRecDepth 100000 in
theorem reflects_iff_sample :
    Reflects plainPlatform plainChat {} onePage
      (isolatedFetch plainPlatform plainChat {} (plainPlatform.json.compact onePage.toJson)) := by
  refine (reflects_iff plainPlatform_readsBack stands_plainChat (decoded_page onePage rfl (by decide +kernel))
    (by decide +kernel)).mpr ?_
  rw [if_neg (by decide)]
  exact Or.inr ⟨Or.inl (by decide +kernel), by decide +kernel⟩

def savedCache : Cache :=
  (MessageHistoryCache.savePage plainPlatform (snapshots plainPlatform plainChat) plainChat onePage {}).2

lemma stands_savedCache : Stands plainPlatform plainChat savedCache (History.savePage onePage {}) := by
  have hfit : (History.spendPage plainPlatform {} onePage {}).Fits := by decide +kernel
  obtain ⟨c', hc', -, hs, -⟩ :=
    stands_plainChat.savePage_fits (.initial _ _ 0) plainPlatform_readsBack (by decide) (by decide) hfit
  rw [savedCache, hc']
  exact hs

/-- The server has nothing any more; the page that was saved is shown, now and later. -/
theorem empty_response_skipped :
    ¬Reflects plainPlatform plainChat savedCache noPage
      (isolatedFetch plainPlatform plainChat savedCache (plainPlatform.json.compact noPage.toJson)) := by
  rw [reflects_empty_iff stands_savedCache (decoded_page noPage rfl (by decide)) rfl, stands_savedCache.savedPage]
  decide +kernel

end ChatDesktop.Chat
