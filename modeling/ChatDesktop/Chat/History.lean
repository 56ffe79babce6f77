import ChatDesktop.Chat.FileContents
import ChatDesktop.Library.Simulation

namespace ChatDesktop.Chat

open Library Library.Program Storage

/-! ### Roots are told apart -/

lemma isDigit_toDigits {n : ℕ} {c : Char} (h : c ∈ Nat.toDigits 10 n) : 48 ≤ c.toNat ∧ c.toNat ≤ 57 := by
  have hdigit := Nat.isDigit_of_mem_toDigits (by decide) (by decide) h
  rw [Char.isDigit, Bool.and_eq_true, decide_eq_true_eq, decide_eq_true_eq] at hdigit
  exact hdigit

lemma value_pageRoot (page : Int32) :
    (MessageCache.pageRoot page).foldl (fun n b => 10 * n + (b.toNat - 48)) 0 = page.toInt.toNat := by
  have hvalue := Nat.ofDigitChars_ten_toDigits (n := page.toInt.toNat)
  rw [Nat.ofDigitChars_eq_foldl] at hvalue
  rw [MessageCache.pageRoot, List.foldl_map]
  refine Eq.trans (List.foldl_ext _ _ _ (fun m c hc => ?_)) hvalue
  have hlt : c.toNat < 2 ^ 8 := by
    have := (isDigit_toDigits hc).2
    omega
  rw [UInt8.toNat_ofNat', Nat.mod_eq_of_lt hlt]
  rfl

lemma pageRoot_injective {p q : Int32} (hp : 1 ≤ p) (hq : 1 ≤ q)
    (h : MessageCache.pageRoot p = MessageCache.pageRoot q) : p = q := by
  have hv := (value_pageRoot p).symm.trans ((congrArg _ h).trans (value_pageRoot q))
  rw [Int32.le_iff_toInt_le] at hp hq
  have h1 : (1 : Int32).toInt = 1 := rfl
  rw [h1] at hp hq
  exact Int32.toInt_inj.mp (by omega)

lemma pageRoot_ne_pendingRoot (page : Int32) : MessageCache.pageRoot page ≠ MessageCache.pendingRoot := by
  intro h
  have hmem : (0x70 : UInt8) ∈ MessageCache.pageRoot page := by
    rw [h]
    exact List.mem_cons_self
  obtain ⟨c, hc, he⟩ := List.mem_map.mp hmem
  obtain ⟨-, hhi⟩ := isDigit_toDigits hc
  have hn := congrArg UInt8.toNat he
  rw [UInt8.toNat_ofNat', Nat.mod_eq_of_lt (by omega)] at hn
  change c.toNat = 112 at hn
  omega

/-! ### Histories -/

structure History where
  page : Int32 → Option MessageDto := fun _ => none
  live : List MessageItemDto := []

namespace MessageHistoryCache

def contains (response : MessageDto) (message : MessageItemDto) : Bool :=
  response.messages.any (fun item => sameMessage item message)

end MessageHistoryCache

open MessageHistoryCache

namespace History

def read (P : Platform) (h : History) (page : Int32) : MessageDto :=
  let result := (h.page page).getD (noMessages page)
  if page = 1 then
    let result := h.live.foldl (addLive P) result
    if result.messages.isEmpty then result else { result with totalPages := max 1 result.totalPages }
  else result

def savePage (response : MessageDto) (h : History) : History where
  page := Function.update h.page response.page (some response.encoded)
  live := h.live.filter (fun message => !contains response message)

def saveMessage (message : MessageItemDto) (h : History) : History :=
  { h with live := (putMessage message h.live).map MessageItemDto.encoded }

end History

structure Platform.ReadsBack (P : Platform) : Prop where
  json : P.json.ReadsBack
  utf8 : ∀ r : MessageDto, P.fromUtf8 (P.toUtf8 (P.json.compact r.toJson)) = P.json.compact r.toJson

section

variable {P : Platform} {conv : Conversation} {c : Cache} {h : History}

def document (P : Platform) (r : MessageDto) : Bytes := P.toUtf8 (P.json.compact r.toJson)

lemma decoded_document (hP : P.ReadsBack) (r : MessageDto) :
    decoded P r.page (P.fromUtf8 (document P r)) = some r.encoded := by
  rw [decoded, document, hP.utf8, hP.json.response]
  dsimp only
  rw [MessageDto.fromJson_toJson hP.json, Option.filter_some]
  exact if_pos (decide_eq_true rfl)

structure Recorded (P : Platform) (pages : Bytes → Option Bytes) (h : History) : Prop where
  page : ∀ p : Int32, 1 ≤ p → (pages (MessageCache.pageRoot p)).bind (fun d => decoded P p (P.fromUtf8 d)) = h.page p
  live : ((pages MessageCache.pendingRoot).bind (fun d => decoded P 1 (P.fromUtf8 d))).getD (noMessages 1) =
    { noMessages 1 with messages := h.live }
  encoded : ∀ m ∈ h.live, m.encoded = m

/-- The file of the conversation holds the history. -/
def Stands (P : Platform) (conv : Conversation) (c : Cache) (h : History) : Prop :=
  ∃ pages, Holds P (fileName P conv) c pages ∧ Recorded P pages h

lemma Stands.initial (honce : Once c) (hfile : c.files (fileName P conv) = none)
    (hclosed : ∀ s, (fileName P conv, s) ∉ c.openStores) : Stands P conv c {} := by
  refine ⟨fun _ => none, ⟨honce, fun _ => rfl, fun _ => hclosed, fun hf => ?_⟩, ⟨fun _ _ => rfl, rfl, fun _ hm => absurd hm List.not_mem_nil⟩⟩
  rw [hfile] at hf
  cases hf

lemma Recorded.savePage {pages : Bytes → Option Bytes} (hr : Recorded P pages h) (hP : P.ReadsBack) {r : MessageDto}
    (hpage : 1 ≤ r.page) : Recorded P (Function.update pages (MessageCache.pageRoot r.page) (some (document P r)))
      { h with page := Function.update h.page r.page (some r.encoded) } := by
  refine ⟨fun p hp => ?_, ?_, hr.encoded⟩
  · dsimp only
    by_cases he : p = r.page
    · rw [he, Function.update_self, Function.update_self, Option.bind_some, decoded_document hP]
    · rw [Function.update_of_ne he, Function.update_of_ne (fun h => he (pageRoot_injective hp hpage h)), hr.page p hp]
  · rw [Function.update_of_ne (pageRoot_ne_pendingRoot _).symm]
    exact hr.live

lemma Recorded.savePending {pages : Bytes → Option Bytes} (hr : Recorded P pages h) (hP : P.ReadsBack)
    (live : List MessageItemDto) : Recorded P
      (Function.update pages MessageCache.pendingRoot (some (document P { noMessages 1 with messages := live })))
      { h with live := live.map MessageItemDto.encoded } := by
  refine ⟨fun p hp => ?_, ?_, fun m hm => ?_⟩
  · rw [Function.update_of_ne (pageRoot_ne_pendingRoot p)]
    exact hr.page p hp
  · rw [Function.update_self, Option.bind_some]
    exact congrArg (fun o => o.getD (noMessages 1)) (decoded_document hP { noMessages 1 with messages := live })
  · obtain ⟨m, -, rfl⟩ := List.mem_map.mp hm
    exact m.encoded_encoded

/-! ### The history cache keeps to the history -/

lemma Stands.readPage (hs : Stands P conv c h) {page : Int32} (hp : 1 ≤ page) :
    ∃ c', readSnapshot P (snapshots P conv) page false c = ((h.page page).getD (noMessages page), c') ∧
      Stands P conv c' h ∧ c'.caught = c.caught := by
  obtain ⟨pages, hh, hr⟩ := hs
  obtain ⟨c', hc', hh', hcaught⟩ := hh.readSnapshot (MessageCache.pageRoot page)
  refine ⟨c', ?_, ⟨pages, hh', hr⟩, hcaught⟩
  have hread : MessageCache.readPage (snapshots P conv) page c = ((pages (MessageCache.pageRoot page)).map P.fromUtf8, c') := by
    rw [MessageCache.readPage, if_neg (by rw [Int32.not_lt]; exact hp)]
    exact hc'
  rw [readSnapshot, if_neg (by decide), Simulation.bind_eq hread]
  dsimp only
  rw [Option.bind_map, ← hr.page page hp]
  rfl

lemma Stands.readLive (hs : Stands P conv c h) :
    ∃ c', readSnapshot P (snapshots P conv) 1 true c = ({ noMessages 1 with messages := h.live }, c') ∧
      Stands P conv c' h ∧ c'.caught = c.caught := by
  obtain ⟨pages, hh, hr⟩ := hs
  obtain ⟨c', hc', hh', hcaught⟩ := hh.readSnapshot MessageCache.pendingRoot
  refine ⟨c', ?_, ⟨pages, hh', hr⟩, hcaught⟩
  have hread : MessageCache.readPending (snapshots P conv) c = ((pages MessageCache.pendingRoot).map P.fromUtf8, c') := hc'
  rw [readSnapshot, if_pos rfl, Simulation.bind_eq hread]
  dsimp only
  rw [Option.bind_map]
  exact congrArg (fun r => (r, c')) hr.live

lemma Stands.writePage (hs : Stands P conv c h) (hP : P.ReadsBack) (r : MessageDto) :
    ∃ ok c', writeSnapshot P (snapshots P conv) conv r false c = (ok, c') ∧
      (ok = true → conv.blank = false ∧ 1 ≤ r.page ∧
        Stands P conv c' { h with page := Function.update h.page r.page (some r.encoded) }) ∧
      (ok = false → c'.caught ≠ [] ∨ (c' = c ∧ (conv.blank = true ∨ r.page < 1))) := by
  obtain ⟨pages, hh, hr⟩ := hs
  rw [writeSnapshot]
  cases hblank : conv.blank with
  | true => exact ⟨false, c, by rw [if_pos rfl]; rfl, fun hn => Bool.noConfusion hn, fun _ => Or.inr ⟨rfl, Or.inl rfl⟩⟩
  | false =>
    rw [if_neg Bool.false_ne_true, if_neg (by decide), MessageCache.savePage]
    by_cases hpage : r.page < 1
    · exact ⟨false, c, by rw [if_pos hpage]; rfl, fun hn => Bool.noConfusion hn, fun _ => Or.inr ⟨rfl, Or.inr hpage⟩⟩
    rw [if_neg hpage]
    have hpage' := Int32.not_lt.mp hpage
    obtain ⟨ok, c', hc', hok, hfail⟩ := hh.saveSnapshot (Or.inr ⟨r.page, rfl⟩) (P.json.compact r.toJson)
    exact ⟨ok, c', hc', fun hn => ⟨rfl, hpage', _, (hok hn).2, hr.savePage hP hpage'⟩, fun hn => Or.inl (hfail hn)⟩

lemma Stands.writeLive (hs : Stands P conv c h) (hP : P.ReadsBack) (live : List MessageItemDto) :
    ∃ ok c', writeSnapshot P (snapshots P conv) conv { noMessages 1 with messages := live } true c = (ok, c') ∧
      (ok = true → conv.blank = false ∧ Stands P conv c' { h with live := live.map MessageItemDto.encoded }) ∧
      (ok = false → c'.caught ≠ [] ∨ (c' = c ∧ conv.blank = true)) := by
  obtain ⟨pages, hh, hr⟩ := hs
  rw [writeSnapshot]
  cases hblank : conv.blank with
  | true => exact ⟨false, c, by rw [if_pos rfl]; rfl, fun hn => Bool.noConfusion hn, fun _ => Or.inr ⟨rfl, rfl⟩⟩
  | false =>
    rw [if_neg Bool.false_ne_true, if_pos rfl, MessageCache.savePending]
    obtain ⟨ok, c', hc', hok, hfail⟩ := hh.saveSnapshot (Or.inl rfl)
      (P.json.compact { noMessages 1 with messages := live }.toJson)
    exact ⟨ok, c', hc', fun hn => ⟨rfl, _, (hok hn).2, hr.savePending hP live⟩, fun hn => Or.inl (hfail hn)⟩

lemma Stands.read (hs : Stands P conv c h) {page : Int32} (hp : 1 ≤ page) :
    ∃ c', MessageHistoryCache.read P (snapshots P conv) page c = (h.read P page, c') ∧ Stands P conv c' h ∧
      c'.caught = c.caught := by
  obtain ⟨c₁, hc₁, hs₁, hcaught₁⟩ := hs.readPage hp
  rw [MessageHistoryCache.read, Simulation.bind_eq hc₁, History.read]
  by_cases h1 : page = 1
  · obtain ⟨c₂, hc₂, hs₂, hcaught₂⟩ := hs₁.readLive
    rw [if_pos h1, Simulation.bind_eq hc₂]
    dsimp only
    rw [if_pos h1]
    exact ⟨c₂, rfl, hs₂, hcaught₂.trans hcaught₁⟩
  · dsimp only
    rw [if_neg h1, if_neg h1]
    exact ⟨c₁, rfl, hs₁, hcaught₁⟩

lemma Stands.savePage (hs : Stands P conv c h) (hP : P.ReadsBack) (r : MessageDto) :
    ∃ ok c', MessageHistoryCache.savePage P (snapshots P conv) conv r c = (ok, c') ∧
      (ok = true → (conv.blank = false ∧ 1 ≤ r.page) ∧ Stands P conv c' (h.savePage r)) ∧
      (ok = false → c'.caught ≠ [] ∨ (Stands P conv c' h ∧ (conv.blank = true ∨ r.page < 1))) := by
  obtain ⟨saved, c₁, hc₁, hsaved, hfail₁⟩ := hs.writePage hP r
  rw [MessageHistoryCache.savePage, Simulation.bind_eq hc₁]
  cases saved with
  | false =>
    refine ⟨false, c₁, rfl, fun hn => Bool.noConfusion hn, fun hn => (hfail₁ hn).imp_right ?_⟩
    rintro ⟨rfl, hwhy⟩
    exact ⟨hs, hwhy⟩
  | true =>
    obtain ⟨hblank, hpage, hs₁⟩ := hsaved rfl
    obtain ⟨c₂, hc₂, hs₂, -⟩ := hs₁.readLive
    rw [if_pos rfl, Simulation.bind_eq hc₂]
    have hun : unacknowledged r { noMessages 1 with messages := h.live } =
        h.live.filter (fun message => !contains r message) := rfl
    dsimp only
    rw [hun]
    by_cases hlen : (h.live.filter (fun message => !contains r message)).length = h.live.length
    · rw [if_pos hlen]
      refine ⟨true, c₂, rfl, fun _ => ⟨⟨hblank, hpage⟩, ?_⟩, fun hn => Bool.noConfusion hn⟩
      have hall : h.live.filter (fun message => !contains r message) = h.live :=
        List.Sublist.eq_of_length List.filter_sublist hlen
      rw [History.savePage, hall]
      exact hs₂
    · rw [if_neg hlen]
      obtain ⟨ok, c₃, hc₃, hok, hfail⟩ := hs₂.writeLive hP (h.live.filter (fun message => !contains r message))
      refine ⟨ok, c₃, hc₃, fun hn => ⟨⟨hblank, hpage⟩, ?_⟩, fun hn => (hfail hn).imp_right ?_⟩
      · obtain ⟨pages, -, hr⟩ := hs
        have henc : (h.live.filter (fun message => !contains r message)).map MessageItemDto.encoded =
            h.live.filter (fun message => !contains r message) := by
          refine (List.map_congr_left (fun m hm => ?_)).trans (List.map_id _)
          exact hr.encoded m (List.mem_of_mem_filter hm)
        rw [History.savePage]
        rw [henc] at hok
        exact (hok hn).2
      · rintro ⟨-, hb⟩
        rw [hb] at hblank
        cases hblank

lemma Stands.saveMessage (hs : Stands P conv c h) (hP : P.ReadsBack) (m : MessageItemDto) :
    ∃ ok c', MessageHistoryCache.saveMessage P (snapshots P conv) conv m c = (ok, c') ∧
      (ok = true → conv.blank = false ∧ Stands P conv c' (h.saveMessage m)) ∧
      (ok = false → c'.caught ≠ [] ∨ (Stands P conv c' h ∧ conv.blank = true)) := by
  obtain ⟨c₁, hc₁, hs₁, -⟩ := hs.readLive
  rw [MessageHistoryCache.saveMessage, Simulation.bind_eq hc₁]
  obtain ⟨ok, c₂, hc₂, hok, hfail⟩ := hs₁.writeLive hP (putMessage m h.live)
  refine ⟨ok, c₂, hc₂, hok, fun hn => (hfail hn).imp_right ?_⟩
  rintro ⟨rfl, hb⟩
  exact ⟨hs₁, hb⟩

end

end ChatDesktop.Chat
