import ChatDesktop.Chat.CacheRoom
import ChatDesktop.Chat.RoundTrip

namespace ChatDesktop.Chat

open Library Library.Program Library.Simulation Storage MessageHistoryCache

inductive Call
  | savePage (response : MessageDto)
  | saveMessage (message : MessageItemDto)
  deriving DecidableEq

def perform (P : Platform) (conv : Conversation) : Call → StateM Cache Bool
  | .savePage response => MessageHistoryCache.savePage P (snapshots P conv) conv response
  | .saveMessage message => MessageHistoryCache.saveMessage P (snapshots P conv) conv message

structure Live (m : MessageItemDto) : Prop where
  id : m.id = m.body.messageId
  ne : m.id ≠ []

/-! ### What the calls say -/

def Call.acknowledges (m : MessageItemDto) : Call → Bool
  | .savePage response => contains response m
  | .saveMessage _ => false

def firstSaves : List Call → List MessageItemDto
  | [] => []
  | .savePage _ :: calls => firstSaves calls
  | .saveMessage m :: calls =>
    if calls.any (Call.acknowledges m) then firstSaves calls
    else m :: (firstSaves calls).filter (fun m' => !sameMessage m m')

def latest (m : MessageItemDto) (calls : List Call) : MessageItemDto :=
  calls.foldl (fun version call => match call with
    | .saveMessage m' => if sameMessage m' m then m' else version
    | .savePage _ => version) m

def lastPage (page : Int32) (calls : List Call) : Option MessageDto :=
  calls.foldl (fun last call => match call with
    | .savePage response => if response.page = page then some response else last
    | .saveMessage _ => last) none

def pageRead (page : Int32) (calls : List Call) : MessageDto :=
  ((lastPage page calls).map MessageDto.encoded).getD (noMessages page)

/-- The first page as it is read with messages after its own; where an `int` can count them its total does. -/
structure WithMessages (response : MessageDto) (more : List MessageItemDto) (result : MessageDto) : Prop where
  messages : result.messages = response.messages ++ more
  page : result.page = response.page
  limit : result.limit = response.limit
  total : response.total.toInt + more.length < 2 ^ 31 → result.total.toInt = response.total.toInt + more.length
  totalPages : result.totalPages =
    if result.messages.isEmpty then response.totalPages else max 1 response.totalPages

def waiting (order : List Call → List MessageItemDto) (calls : List Call) : List MessageItemDto :=
  ((order calls).map (fun m => (latest m calls).encoded)).filter (fun m => !contains (pageRead 1 calls) m)

/-! ### Messages under their own number -/

section

variable {m m' item : MessageItemDto} {r : MessageDto}

lemma Live.same_iff (hm : Live m) : sameMessage item m = true ↔ item.body.messageId = m.id ∨ item.id = m.id := by
  have hne := hm.ne
  simp only [sameMessage, Bool.or_eq_true, Bool.and_eq_true, Bool.not_eq_true', List.isEmpty_eq_false_iff,
    decide_eq_true_eq, ← hm.id]
  constructor
  · exact Or.imp And.right And.right
  · exact Or.imp (fun h => ⟨h ▸ hne, h⟩) (fun h => ⟨h ▸ hne, h⟩)

lemma Live.same_live_iff (hm : Live m) (hm' : Live m') : sameMessage m' m = true ↔ m'.id = m.id := by
  rw [hm.same_iff, ← hm'.id, or_self]

lemma Live.contains_congr (hm : Live m) (hm' : Live m') (h : m.id = m'.id) : contains r m = contains r m' := by
  have heach : ∀ item, sameMessage item m = sameMessage item m' := fun item => by
    rw [Bool.eq_iff_iff, hm.same_iff, hm'.same_iff, h]
  simp only [contains, heach]

lemma Live.encoded (hm : Live m) : Live m.encoded := ⟨hm.id, hm.ne⟩

end

/-! ### One more call -/

section

variable {calls : List Call} {m : MessageItemDto} {r : MessageDto}

/-- Every message of the calls is saved under its own number. -/
def LiveCalls (calls : List Call) : Prop := ∀ m, .saveMessage m ∈ calls → Live m

lemma LiveCalls.tail {call : Call} (h : LiveCalls (call :: calls)) : LiveCalls calls :=
  fun m hm => h m (List.mem_cons_of_mem _ hm)

lemma LiveCalls.init {call : Call} (h : LiveCalls (calls ++ [call])) : LiveCalls calls :=
  fun m hm => h m (List.mem_append_left _ hm)

lemma live_firstSaves (h : LiveCalls calls) : ∀ m ∈ firstSaves calls, Live m := by
  induction calls with
  | nil => exact fun m hm => absurd hm List.not_mem_nil
  | cons call calls ih =>
    cases call with
    | savePage r => exact ih h.tail
    | saveMessage m' =>
      intro m hm
      rw [firstSaves] at hm
      split_ifs at hm with hack
      · exact ih h.tail m hm
      · obtain rfl | hm := List.mem_cons.mp hm
        · exact h m List.mem_cons_self
        · exact ih h.tail m (List.mem_of_mem_filter hm)

lemma any_acknowledges_append (calls : List Call) (call : Call) (m : MessageItemDto) :
    (calls ++ [call]).any (Call.acknowledges m) = (calls.any (Call.acknowledges m) || call.acknowledges m) := by
  rw [List.any_append, List.any_cons, List.any_nil, Bool.or_false]

lemma firstSaves_savePage (h : LiveCalls calls) (r : MessageDto) :
    firstSaves (calls ++ [.savePage r]) = (firstSaves calls).filter (fun m => !contains r m) := by
  induction calls with
  | nil => rfl
  | cons call calls ih =>
    cases call with
    | savePage r' => exact ih h.tail
    | saveMessage m =>
      rw [List.cons_append, firstSaves, firstSaves, any_acknowledges_append, ih h.tail]
      by_cases hack : calls.any (Call.acknowledges m) = true
      · rw [hack, Bool.true_or, if_pos rfl, if_pos rfl]
      rw [Bool.not_eq_true] at hack
      rw [hack, Bool.false_or, if_neg Bool.false_ne_true]
      change (if contains r m = true then _ else _) = _
      by_cases hr : contains r m = true
      · -- what is the same as `m` is contained as well
        have hm : Live m := h m List.mem_cons_self
        rw [if_pos hr, List.filter_cons_of_neg (by rw [hr]; decide), List.filter_filter]
        refine List.filter_congr (fun m' hm' => ?_)
        have hlive := live_firstSaves h.tail m' hm'
        cases hsame : sameMessage m m' with
        | false => rw [Bool.not_false, Bool.and_true]
        | true => rw [hlive.contains_congr hm ((hlive.same_live_iff hm).mp hsame).symm, hr]; rfl
      · rw [Bool.not_eq_true] at hr
        rw [hr, if_neg Bool.false_ne_true, List.filter_cons_of_pos (by rw [hr]; rfl), List.filter_filter,
          List.filter_filter]
        simp only [Bool.and_comm]

lemma firstSaves_saveMessage (h : LiveCalls calls) (hm : Live m) :
    firstSaves (calls ++ [.saveMessage m]) =
      if (firstSaves calls).any (fun m' => sameMessage m' m) then firstSaves calls else firstSaves calls ++ [m] := by
  induction calls with
  | nil => rfl
  | cons call calls ih =>
    cases call with
    | savePage r => exact ih h.tail
    | saveMessage m' =>
      have hm' : Live m' := h m' List.mem_cons_self
      rw [List.cons_append, firstSaves, firstSaves, any_acknowledges_append, ih h.tail]
      change (if (_ || false) = true then _ else _) = _
      rw [Bool.or_false]
      by_cases hack : calls.any (Call.acknowledges m') = true
      · rw [if_pos hack, if_pos hack]
      rw [if_neg hack, if_neg hack, List.any_cons]
      by_cases hfirst : sameMessage m' m = true
      · -- the first save is that of `m'`, and all that are the same as it go
        rw [hfirst, Bool.true_or, if_pos rfl]
        split_ifs with hany
        · rfl
        · rw [List.filter_append, List.filter_cons_of_neg (by rw [hfirst]; decide), List.filter_nil, List.append_nil]
      · rw [Bool.not_eq_true] at hfirst
        rw [hfirst, Bool.false_or]
        have hany : ((firstSaves calls).filter (fun x => !sameMessage m' x)).any (fun x => sameMessage x m) =
            (firstSaves calls).any (fun x => sameMessage x m) := by
          rw [Bool.eq_iff_iff, List.any_eq_true, List.any_eq_true]
          constructor
          · rintro ⟨x, hx, hs⟩
            exact ⟨x, List.mem_of_mem_filter hx, hs⟩
          · rintro ⟨x, hx, hs⟩
            have hlive := live_firstSaves h.tail x hx
            refine ⟨x, List.mem_filter.mpr ⟨hx, ?_⟩, hs⟩
            cases hx' : sameMessage m' x with
            | false => rfl
            | true =>
              have hid := ((hlive.same_live_iff hm').mp hx').trans ((hm.same_live_iff hlive).mp hs)
              rw [(hm.same_live_iff hm').mpr hid] at hfirst
              cases hfirst
        rw [hany]
        split_ifs with hany'
        · rfl
        · rw [List.filter_append, List.filter_cons_of_pos (by rw [hfirst]; rfl), List.filter_nil]
          rfl

lemma latest_savePage (x : MessageItemDto) (calls : List Call) (r : MessageDto) :
    latest x (calls ++ [.savePage r]) = latest x calls := by
  rw [latest, List.foldl_append]
  rfl

lemma latest_saveMessage (x : MessageItemDto) (calls : List Call) (m : MessageItemDto) :
    latest x (calls ++ [.saveMessage m]) = if sameMessage m x then m else latest x calls := by
  rw [latest, List.foldl_append]
  rfl

lemma latest_live (hm : Live m) (h : LiveCalls calls) : Live (latest m calls) ∧ (latest m calls).id = m.id := by
  induction calls using List.reverseRecOn with
  | nil => exact ⟨hm, rfl⟩
  | append_singleton calls call ih =>
    cases call with
    | savePage r =>
      rw [latest_savePage]
      exact ih h.init
    | saveMessage m' =>
      have hm' : Live m' := h m' (List.mem_append_right _ List.mem_cons_self)
      rw [latest_saveMessage]
      split_ifs with hsame
      · exact ⟨hm', (hm.same_live_iff hm').mp hsame⟩
      · exact ih h.init

lemma lastPage_savePage (page : Int32) (calls : List Call) (r : MessageDto) :
    lastPage page (calls ++ [.savePage r]) = if r.page = page then some r else lastPage page calls := by
  rw [lastPage, List.foldl_append]
  rfl

lemma lastPage_saveMessage (page : Int32) (calls : List Call) (m : MessageItemDto) :
    lastPage page (calls ++ [.saveMessage m]) = lastPage page calls := by
  rw [lastPage, List.foldl_append]
  rfl

end

/-! ### The history after the calls -/

def History.perform (h : History) : Call → History
  | .savePage response => h.savePage response
  | .saveMessage message => h.saveMessage message

def replay (calls : List Call) : History := calls.foldl History.perform {}

section

variable {calls : List Call} {m : MessageItemDto} {r : MessageDto}

lemma replay_savePage (calls : List Call) (r : MessageDto) :
    replay (calls ++ [.savePage r]) = (replay calls).savePage r := by
  rw [replay, List.foldl_append]
  rfl

lemma replay_saveMessage (calls : List Call) (m : MessageItemDto) :
    replay (calls ++ [.saveMessage m]) = (replay calls).saveMessage m := by
  rw [replay, List.foldl_append]
  rfl

lemma replay_page (page : Int32) (calls : List Call) :
    (replay calls).page page = (lastPage page calls).map MessageDto.encoded := by
  induction calls using List.reverseRecOn with
  | nil => rfl
  | append_singleton calls call ih =>
    cases call with
    | savePage r =>
      rw [replay_savePage, lastPage_savePage, History.savePage]
      dsimp only
      by_cases hp : r.page = page
      · rw [if_pos hp, hp, Function.update_self, Option.map_some]
      · rw [if_neg hp, Function.update_of_ne (Ne.symm hp), ih]
    | saveMessage m =>
      rw [replay_saveMessage, lastPage_saveMessage]
      exact ih

lemma putMessage_eq (hm : Live m) (items : List MessageItemDto) (hlive : ∀ item ∈ items, Live item)
    (hapart : items.Pairwise (fun a b => a.id ≠ b.id)) :
    putMessage m items = if items.any (fun item => sameMessage item m)
      then items.map (fun item => if sameMessage item m then m else item) else items ++ [m] := by
  induction items with
  | nil => rfl
  | cons item items ih =>
    obtain ⟨hne, hapart⟩ := List.pairwise_cons.mp hapart
    have hlive' : ∀ item ∈ items, Live item := fun i hi => hlive i (List.mem_cons_of_mem _ hi)
    rw [putMessage, List.any_cons, List.map_cons]
    by_cases hsame : sameMessage item m = true
    · have hrest : items.map (fun item => if sameMessage item m then m else item) = items := by
        refine (List.map_congr_left (fun i hi => if_neg ?_)).trans (List.map_id items)
        rw [hm.same_live_iff (hlive' i hi)]
        have hid := (hm.same_live_iff (hlive item List.mem_cons_self)).mp hsame
        exact fun he => hne i hi (hid.trans he.symm)
      rw [if_pos hsame, if_pos hsame, hsame, Bool.true_or, if_pos rfl, hrest]
    · rw [Bool.not_eq_true] at hsame
      rw [hsame, Bool.false_or, if_neg Bool.false_ne_true, if_neg Bool.false_ne_true, ih hlive' hapart]
      split_ifs <;> rfl

lemma firstSaves_apart (h : LiveCalls calls) : (firstSaves calls).Pairwise (fun a b => a.id ≠ b.id) := by
  induction calls with
  | nil => exact List.Pairwise.nil
  | cons call calls ih =>
    cases call with
    | savePage r => exact ih h.tail
    | saveMessage m =>
      rw [firstSaves]
      split_ifs with hack
      · exact ih h.tail
      · refine List.pairwise_cons.mpr ⟨fun m' hm' he => ?_, (ih h.tail).filter _⟩
        obtain ⟨hmem, hsame⟩ := List.mem_filter.mp hm'
        rw [((live_firstSaves h.tail m' hmem).same_live_iff (h m List.mem_cons_self)).mpr he] at hsame
        cases hsame

lemma replay_live (h : LiveCalls calls) :
    (replay calls).live = (firstSaves calls).map (fun m => (latest m calls).encoded) := by
  induction calls using List.reverseRecOn with
  | nil => rfl
  | append_singleton calls call ih =>
    have hversion : ∀ m ∈ firstSaves calls, Live (latest m calls).encoded ∧ (latest m calls).encoded.id = m.id :=
      fun m hm => by
        obtain ⟨hl, hid⟩ := latest_live (live_firstSaves h.init m hm) h.init
        exact ⟨hl.encoded, hid⟩
    cases call with
    | savePage r =>
      rw [replay_savePage, History.savePage, firstSaves_savePage h.init, ih h.init]
      dsimp only
      rw [List.filter_map]
      simp only [latest_savePage]
      refine congrArg _ (List.filter_congr (fun m hm => ?_))
      obtain ⟨hl, hid⟩ := hversion m hm
      rw [Function.comp_apply, hl.contains_congr (live_firstSaves h.init m hm) hid]
    | saveMessage m =>
      have hm : Live m := h m (List.mem_append_right _ List.mem_cons_self)
      have hsame : ∀ x ∈ firstSaves calls, sameMessage (latest x calls).encoded m = sameMessage x m := fun x hx => by
        obtain ⟨hl, hid⟩ := hversion x hx
        rw [Bool.eq_iff_iff, hm.same_live_iff hl, hid, hm.same_live_iff (live_firstSaves h.init x hx)]
      have hany : ((firstSaves calls).map (fun x => (latest x calls).encoded)).any (fun x => sameMessage x m) =
          (firstSaves calls).any (fun x => sameMessage x m) := by
        rw [List.any_map, Bool.eq_iff_iff, List.any_eq_true, List.any_eq_true]
        constructor
        · rintro ⟨x, hx, hs⟩
          exact ⟨x, hx, (hsame x hx).symm.trans hs⟩
        · rintro ⟨x, hx, hs⟩
          exact ⟨x, hx, (hsame x hx).trans hs⟩
      have hput := putMessage_eq hm ((firstSaves calls).map (fun x => (latest x calls).encoded))
        (by
          intro x hx
          obtain ⟨y, hy, rfl⟩ := List.mem_map.mp hx
          exact (hversion y hy).1)
        (by
          rw [List.pairwise_map]
          refine (firstSaves_apart h.init).imp_of_mem (fun hx hy hne => ?_)
          rwa [(hversion _ hx).2, (hversion _ hy).2])
      rw [replay_saveMessage, History.saveMessage, ih h.init]
      dsimp only
      have hstep : ∀ x ∈ firstSaves calls, latest x (calls ++ [.saveMessage m]) =
          if sameMessage x m then m else latest x calls := fun x hx => by
        have hx' := live_firstSaves h.init x hx
        have hsymm : sameMessage m x = sameMessage x m := by
          rw [Bool.eq_iff_iff, hx'.same_live_iff hm, hm.same_live_iff hx', eq_comm]
        rw [latest_saveMessage, hsymm]
      rw [hput, hany, firstSaves_saveMessage h.init hm]
      by_cases hold : (firstSaves calls).any (fun x => sameMessage x m) = true
      · rw [if_pos hold, if_pos hold, List.map_map, List.map_map]
        refine List.map_congr_left (fun x hx => ?_)
        simp only [Function.comp_apply, hsame x hx, hstep x hx]
        split_ifs
        · rfl
        · exact MessageItemDto.encoded_encoded _
      · rw [if_neg hold, if_neg hold, List.map_append, List.map_append, List.map_map]
        refine congrArg₂ (· ++ ·) (List.map_congr_left (fun x hx => ?_)) ?_
        · have hx' : ¬sameMessage x m = true := fun hs => hold (List.any_eq_true.mpr ⟨x, hx, hs⟩)
          rw [Function.comp_apply, hstep x hx, if_neg hx', MessageItemDto.encoded_encoded]
        · rw [List.map_singleton, List.map_singleton, latest_saveMessage,
            if_pos ((hm.same_live_iff hm).mpr rfl)]

end

/-! ### What is read -/

section

variable {P : Platform} {conv : Conversation} {c c' : Cache} {calls : List Call} {page : Int32}

lemma foldl_addLive {live : List MessageItemDto} (hlive : ∀ m ∈ live, Live m)
    (hapart : live.Pairwise (fun a b => a.id ≠ b.id)) (result : MessageDto) :
    live.foldl (addLive P) result = { result with
      messages := result.messages ++ live.filter (fun m => !contains result m)
      total := P.increment^[(live.filter (fun m => !contains result m)).length] result.total } := by
  induction live generalizing result with
  | nil => rw [List.foldl_nil, List.filter_nil, List.append_nil, List.length_nil, Function.iterate_zero, id]
  | cons m live ih =>
    obtain ⟨hne, hapart⟩ := List.pairwise_cons.mp hapart
    have hlive' : ∀ m ∈ live, Live m := fun x hx => hlive x (List.mem_cons_of_mem _ hx)
    rw [List.foldl_cons, ih hlive' hapart]
    by_cases hc : contains result m = true
    · have hadd : addLive P result m = result := if_pos hc
      rw [hadd, List.filter_cons_of_neg (by rw [hc]; decide)]
    · rw [Bool.not_eq_true] at hc
      have hadd : addLive P result m =
          { result with messages := result.messages ++ [m], total := P.increment result.total } := by
        refine if_neg ?_
        change ¬contains result m = true
        rw [hc]
        decide
      have hfilter : live.filter (fun x => !contains (addLive P result m) x) =
          live.filter (fun x => !contains result x) := by
        refine List.filter_congr (fun x hx => ?_)
        have hx' : sameMessage m x = false := by
          rw [← Bool.not_eq_true, (hlive' x hx).same_live_iff (hlive m List.mem_cons_self)]
          exact hne x hx
        rw [hadd, contains, List.any_append, List.any_cons, List.any_nil, Bool.or_false, hx', Bool.or_false]
        rfl
      rw [hfilter, List.filter_cons_of_pos (by rw [hc]; rfl), hadd]
      dsimp only
      rw [List.append_assoc, List.length_cons, Function.iterate_succ_apply]
      rfl

def Platform.Counts (P : Platform) : Prop := ∀ n : Int32, n.toInt + 1 < 2 ^ 31 → (P.increment n).toInt = n.toInt + 1

lemma Platform.Counts.iterate (hP : P.Counts) (k : ℕ) (n : Int32) (hn : n.toInt + k < 2 ^ 31) :
    (P.increment^[k] n).toInt = n.toInt + k := by
  induction k generalizing n with
  | zero => simp
  | succ k ih =>
    push_cast at hn ⊢
    have hone := hP n (by omega)
    rw [Function.iterate_succ_apply, ih _ (by omega), hone]
    omega

lemma replay_read_first (hP : P.Counts) (h : LiveCalls calls) :
    WithMessages (pageRead 1 calls) (waiting firstSaves calls) ((replay calls).read P 1) := by
  have hlive : ∀ m ∈ (firstSaves calls).map (fun m => (latest m calls).encoded), Live m := by
    intro x hx
    obtain ⟨m, hm, rfl⟩ := List.mem_map.mp hx
    exact (latest_live (live_firstSaves h m hm) h).1.encoded
  have hapart : ((firstSaves calls).map (fun m => (latest m calls).encoded)).Pairwise (fun a b => a.id ≠ b.id) := by
    rw [List.pairwise_map]
    refine (firstSaves_apart h).imp_of_mem (fun hx hy hne => ?_)
    change (latest _ calls).id ≠ (latest _ calls).id
    rwa [(latest_live (live_firstSaves h _ hx) h).2, (latest_live (live_firstSaves h _ hy) h).2]
  rw [History.read, if_pos rfl, replay_live h, replay_page, foldl_addLive hlive hapart]
  dsimp only
  split_ifs with hnone
  · exact ⟨rfl, rfl, rfl, hP.iterate _ _, (if_pos hnone).symm⟩
  · exact ⟨rfl, rfl, rfl, hP.iterate _ _, (if_neg hnone).symm⟩

lemma replay_read_other (hp : page ≠ 1) (calls : List Call) : (replay calls).read P page = pageRead page calls := by
  rw [History.read, if_neg hp, replay_page]
  rfl

lemma Stands.performed {h : History} (hs : Stands P conv c h) (hP : P.ReadsBack) (calls : List Call)
    (hok : ∀ x ∈ trace (perform P conv) calls c, x.2 = true) :
    Stands P conv (final (perform P conv) calls c) (calls.foldl History.perform h) := by
  induction calls generalizing c h with
  | nil => exact hs
  | cons call calls ih =>
    rw [trace, List.forall_mem_cons] at hok
    obtain ⟨hfirst, hrest⟩ := hok
    rw [final, List.foldl_cons]
    cases call with
    | savePage r =>
      obtain ⟨ok, c', hc', hgood, -⟩ := hs.savePage hP r
      have he : perform P conv (.savePage r) c = (ok, c') := hc'
      rw [he] at hfirst hrest ⊢
      exact ih (hgood hfirst).2 hrest
    | saveMessage m =>
      obtain ⟨ok, c', hc', hgood, -⟩ := hs.saveMessage hP m
      have he : perform P conv (.saveMessage m) c = (ok, c') := hc'
      rw [he] at hfirst hrest ⊢
      exact ih (hgood hfirst).2 hrest

end

structure Unsaved (P : Platform) (conv : Conversation) (c : Cache) : Prop where
  once : Once c
  file : c.files (fileName P conv) = none
  closed : ∀ s, (fileName P conv, s) ∉ c.openStores

/-- Pages are read as the calls say, the waiting messages in the given order. -/
def ReadsAs (P : Platform) (conv : Conversation) (order : List Call → List MessageItemDto) (calls : List Call)
    (c : Cache) : Prop :=
  WithMessages (pageRead 1 calls) (waiting order calls) (MessageHistoryCache.read P (snapshots P conv) 1 c).1 ∧
    ∀ page, 1 < page → (MessageHistoryCache.read P (snapshots P conv) page c).1 = pageRead page calls

section

variable {P : Platform} {conv : Conversation} {c : Cache} {calls : List Call}

lemma Unsaved.readsAs (hnew : Unsaved P conv c) (hP : P.ReadsBack) (hcounts : P.Counts) (hlive : LiveCalls calls)
    (hok : ∀ x ∈ trace (perform P conv) calls c, x.2 = true) :
    ReadsAs P conv firstSaves calls (final (perform P conv) calls c) := by
  have hs : Stands P conv (final (perform P conv) calls c) (replay calls) :=
    (Stands.initial hnew.once hnew.file hnew.closed).performed hP calls hok
  refine ⟨?_, fun page hp => ?_⟩
  · obtain ⟨c', hc', -⟩ := hs.read (show (1 : Int32) ≤ 1 by decide)
    rw [hc']
    exact replay_read_first hcounts hlive
  · have hne : page ≠ 1 := by
      rintro rfl
      exact absurd hp (by decide)
    obtain ⟨c', hc', -⟩ := hs.read (Int32.le_of_lt hp)
    rw [hc', ← replay_read_other hne calls]

/-- After any successful calls the first page is the one saved last with the waiting messages after it, in the
order of their first save since the last page that contained them; any other page is the one saved last. -/
theorem reads_in_order_of_saves (hnew : Unsaved P conv c) (hP : P.ReadsBack) (hcounts : P.Counts)
    (hlive : LiveCalls calls) (hok : ∀ x ∈ trace (perform P conv) calls c, x.2 = true) :
    ReadsAs P conv firstSaves calls (final (perform P conv) calls c) :=
  hnew.readsAs hP hcounts hlive hok

end

/-! ### Calls that find room -/

namespace Call

def spend (P : Platform) (h : History) : Call → Spending → Spending
  | savePage response => h.spendPage P response
  | saveMessage message => h.spendMessage P message

def spent (P : Platform) : List Call → History → Spending → Spending
  | [], _, x => x
  | call :: calls, h, x => spent P calls (h.perform call) (call.spend P h x)

end Call

section

variable {P : Platform} {conv : Conversation} {c : Cache} {h : History} {x : Spending} {calls : List Call}

lemma blocks_le_spend (P : Platform) (h : History) (call : Call) (x : Spending) :
    x.blocks ≤ (call.spend P h x).blocks := by
  cases call with
  | savePage r => exact (x.blocks_le_add _).trans (Spending.blocks_le_add _ _)
  | saveMessage m => exact x.blocks_le_add _

lemma blocks_le_spent (P : Platform) (calls : List Call) (h : History) (x : Spending) :
    x.blocks ≤ (Call.spent P calls h x).blocks := by
  induction calls generalizing h x with
  | nil => exact le_rfl
  | cons call calls ih => exact (blocks_le_spend P h call x).trans (ih _ _)

lemma Stands.performed_fits (hs : Stands P conv c h) (hroom : Room P x c) (hP : P.ReadsBack)
    (hblank : conv.blank = false) (hpages : ∀ r, .savePage r ∈ calls → 1 ≤ r.page)
    (hfit : (Call.spent P calls h x).Fits) : ∀ y ∈ trace (perform P conv) calls c, y.2 = true := by
  induction calls generalizing c h x with
  | nil => exact fun y hy => absurd hy List.not_mem_nil
  | cons call calls ih =>
    have hpages' : ∀ r, .savePage r ∈ calls → 1 ≤ r.page := fun r hr => hpages r (List.mem_cons_of_mem _ hr)
    have hfirst : (call.spend P h x).Fits := (blocks_le_spent P calls _ _).trans hfit
    have hcall : ∃ c', perform P conv call c = (true, c') ∧ Stands P conv c' (h.perform call) ∧
        Room P (call.spend P h x) c' := by
      cases call with
      | savePage r =>
        obtain ⟨c', hc', -, hs', hroom'⟩ :=
          hs.savePage_fits hroom hP hblank (hpages r List.mem_cons_self) hfirst
        exact ⟨c', hc', hs', hroom'⟩
      | saveMessage m =>
        obtain ⟨c', hc', -, hs', hroom'⟩ := hs.saveMessage_fits hroom hP hblank hfirst
        exact ⟨c', hc', hs', hroom'⟩
    obtain ⟨c', hc', hs', hroom'⟩ := hcall
    rw [trace, hc', List.forall_mem_cons]
    exact ⟨rfl, ih hs' hroom' hpages' hfit⟩

end

/-! ### A message that is saved again after a page -/

def plainPlatform : Platform where
  crypto := .transparent
  hmac _ message := message
  toUtf8 t := t.map UInt16.toUInt8
  fromUtf8 bs := bs.map UInt8.toUInt16
  json := ⟨fun o => Json.write (.object o), Json.parse⟩
  appSecretKey := []

lemma plainPlatform_readsBack : plainPlatform.ReadsBack := by
  refine ⟨⟨fun p => Json.parse_write (held_payload p).whole, fun r => Json.parse_write (held_response r).whole⟩, fun r => ?_⟩
  have hascii := (held_response r).whole.ascii
  exact hascii.narrow

lemma plainPlatform_counts : plainPlatform.Counts := by
  intro n hn
  have hlow := n.le_toInt
  change (n + 1).toInt = n.toInt + 1
  rw [Int32.toInt_add, Int.bmod_eq_of_le (by simp; omega) (by simp; omega)]
  rfl

def firstSavesEver (calls : List Call) : List MessageItemDto :=
  (saved calls).filter (fun m => (firstSaves calls).any (fun m' => sameMessage m' m))
where
  saved : List Call → List MessageItemDto
    | [] => []
    | .savePage _ :: calls => saved calls
    | .saveMessage m :: calls => m :: (saved calls).filter (fun m' => !sameMessage m m')

def plainChat : Conversation := ⟨key "a", key "b"⟩

def textMessage (id text : String) : MessageItemDto :=
  { id := key id, body := { messageId := key id, content := { text := key text } } }

/-- The second page acknowledges `k`, which is saved again after `j`. -/
def savedAgain : List Call :=
  [.saveMessage (textMessage "k" "x"), .savePage ⟨[textMessage "k" "x"], 2, 200, 1, 1⟩, .saveMessage (textMessage "j" "y"),
    .saveMessage (textMessage "k" "z")]

lemma unsaved_plainChat : Unsaved plainPlatform plainChat {} := ⟨List.nodup_nil, rfl, fun _ h => absurd h List.not_mem_nil⟩

lemma live_savedAgain : LiveCalls savedAgain := by
  intro m hm
  simp only [savedAgain, List.mem_cons, Call.saveMessage.injEq, List.not_mem_nil, or_false, reduceCtorEq, false_or] at hm
  obtain rfl | rfl | rfl := hm
  · exact ⟨rfl, by decide⟩
  · exact ⟨rfl, by decide⟩
  · exact ⟨rfl, by decide⟩

lemma pages_savedAgain : ∀ r, .savePage r ∈ savedAgain → r = ⟨[textMessage "k" "x"], 2, 200, 1, 1⟩ := by
  intro r hr
  simp only [savedAgain, List.mem_cons, Call.savePage.injEq, List.not_mem_nil, or_false, reduceCtorEq, false_or] at hr
  exact hr

lemma stands_plainChat : Stands plainPlatform plainChat {} {} :=
  .initial unsaved_plainChat.once unsaved_plainChat.file unsaved_plainChat.closed

lemma savedAgain_ok : ∀ x ∈ trace (perform plainPlatform plainChat) savedAgain {}, x.2 = true := by
  have hpages : ∀ r, .savePage r ∈ savedAgain → 1 ≤ r.page := by
    intro r hr
    rw [pages_savedAgain r hr]
    decide
  have hfit : (Call.spent plainPlatform savedAgain {} {}).Fits := by decide +kernel
  exact stands_plainChat.performed_fits (.initial _ _ 0) plainPlatform_readsBack (by decide) hpages hfit

theorem reads_in_order_of_saves_sample :
    ReadsAs plainPlatform plainChat firstSaves savedAgain (final (perform plainPlatform plainChat) savedAgain {}) :=
  reads_in_order_of_saves unsaved_plainChat plainPlatform_readsBack plainPlatform_counts live_savedAgain savedAgain_ok

/-- A page that contains a message moves it behind the others when it is saved again. -/
theorem reads_out_of_first_order : ¬∀ (P : Platform) (conv : Conversation) (c : Cache) (calls : List Call),
    Unsaved P conv c → P.ReadsBack → P.Counts → LiveCalls calls →
    (∀ r, .savePage r ∈ calls → r.messages.Pairwise (fun a b => sameMessage a b = false)) →
    (∀ x ∈ trace (perform P conv) calls c, x.2 = true) →
    ReadsAs P conv firstSavesEver calls (final (perform P conv) calls c) := by
  intro h
  have hread := unsaved_plainChat.readsAs plainPlatform_readsBack plainPlatform_counts live_savedAgain savedAgain_ok
  have hpages : ∀ r, .savePage r ∈ savedAgain → r.messages.Pairwise (fun a b => sameMessage a b = false) := by
    intro r hr
    rw [pages_savedAgain r hr]
    exact List.pairwise_singleton _ _
  have hclaim := h _ _ _ _ unsaved_plainChat plainPlatform_readsBack plainPlatform_counts live_savedAgain hpages
    savedAgain_ok
  have hsame := hread.1.messages.symm.trans hclaim.1.messages
  exact absurd hsame (by decide)

end ChatDesktop.Chat
