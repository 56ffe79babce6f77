import ChatDesktop.Chat.ConversationsRepository
import Mathlib.Data.List.Induction

namespace ChatDesktop.Chat

open Library Network

def Success.Told (fetch : ConversationsFetch) (e : Success) : Prop :=
  e.before = fetch.cached.toList ∧
    e.after = if fetch.cached = some e.conversations then e.before else e.before ++ [e.conversations]

namespace ConversationsRepositoryImpl

def inFlight (n : ℕ) (s : ConversationsRepositoryImpl) : ℕ := (s.requests.map Attempt.promise).count n

def queued (pending : List Attempt) (n : ℕ) (s : ConversationsRepositoryImpl) : ℕ :=
  ((s.queue ++ pending).map Attempt.promise).count n

def Accounted (pending : List Attempt) (s : ConversationsRepositoryImpl) : Prop :=
  ∀ n < s.fetches.length, s.inFlight n + s.queued pending n + (s.promises n).finishes = 1

/-- The results are what the cache had until the promise is finished; then there are one or two, if it is not
canceled. -/
def Settled (cached : Option Conversations) (promise : ConversationsPromise) : Prop :=
  if promise.finishes = 0 then promise.results = cached.toList
  else promise.canceled = true ∨ promise.results.length = 1 ∨ promise.results.length = 2

def unknownError (response : Response) : Bool := !response.isSuccess && response.error = .unknownNetworkError

def waits (s : ConversationsRepositoryImpl) (response : Response) (attempt : Attempt) : Bool :=
  !(s.promises attempt.promise).canceled && unknownError response

def goesOut (s : ConversationsRepositoryImpl) (replies : ℕ → Option Response) (attempt : Attempt) : Bool :=
  !(s.promises attempt.promise).canceled && (replies attempt.promise).isNone

def failsAgain (s : ConversationsRepositoryImpl) (replies : ℕ → Option Response) (attempt : Attempt) : Bool :=
  !(s.promises attempt.promise).canceled &&
    (replies attempt.promise).any unknownError

structure Sound (pending : List Attempt) (s : ConversationsRepositoryImpl) : Prop where
  one : ∀ n, s.inFlight n + s.queued pending n + (s.promises n).finishes = if n < s.fetches.length then 1 else 0
  blank : ∀ n, s.fetches.length ≤ n → s.promises n = {}
  settled : ∀ n, n < s.fetches.length → ∃ fetch, s.fetches[n]? = some fetch ∧ Settled fetch.cached (s.promises n)
  held : ∀ attempt ∈ s.requests ++ s.queue ++ pending, ∃ fetch, s.fetches[attempt.promise]? = some fetch ∧
    fetch.userId = attempt.userId
  saves : ∀ save ∈ s.saves, save.1.userId ≠ [] ∧ ∃ fetch, s.fetches[save.1.promise]? = some fetch ∧
    fetch.userId = save.1.userId
  successes : ∀ e ∈ s.successes, ∃ fetch, s.fetches[e.promise]? = some fetch ∧ e.Told fetch

variable {D : Documents} {s : ConversationsRepositoryImpl} {pending : List Attempt} {attempt : Attempt}
  {f : ConversationsPromise → ConversationsPromise}

/-! ### One attempt -/

lemma unchanged_iff (cached conversations : Conversations) :
    unchanged cached conversations = true ↔ cached = conversations := by
  induction cached generalizing conversations with
  | nil => cases conversations <;> simp [unchanged]
  | cons left cached ih =>
    cases conversations with
    | nil => simp [unchanged]
    | cons right conversations =>
      obtain ⟨uuid, name⟩ := left
      obtain ⟨uuid', name'⟩ := right
      simp only [unchanged, Bool.and_eq_true, decide_eq_true_eq, ih, List.cons.injEq, ConversationList.mk.injEq]

lemma queued_cons (n : ℕ) : s.queued (attempt :: pending) n = s.queued pending n + if attempt.promise = n then 1 else 0 := by
  rw [queued, queued, List.map_append, List.map_append, List.count_append, List.count_append, List.map_cons,
    List.count_cons]
  simp only [beq_iff_eq]
  omega

lemma Sound.head (h : Sound (attempt :: pending) s) :
    attempt.promise < s.fetches.length ∧ (s.promises attempt.promise).finishes = 0 := by
  have hone := h.one attempt.promise
  rw [queued_cons, if_pos rfl] at hone
  split_ifs at hone with hlt
  · exact ⟨hlt, by omega⟩
  · omega

lemma Sound.head_results (h : Sound (attempt :: pending) s) :
    ∃ fetch, s.fetches[attempt.promise]? = some fetch ∧ fetch.userId = attempt.userId ∧
      (s.promises attempt.promise).results = fetch.cached.toList := by
  obtain ⟨hlt, hopen⟩ := h.head
  obtain ⟨fetch, hfetch, hsettled⟩ := h.settled _ hlt
  obtain ⟨fetch', hfetch', huser⟩ := h.held attempt (by simp)
  obtain rfl := Option.some.inj (hfetch.symm.trans hfetch')
  rw [Settled, if_pos hopen] at hsettled
  exact ⟨fetch, hfetch, huser, hsettled⟩

lemma Sound.head_length (h : Sound (attempt :: pending) s) : (s.promises attempt.promise).results.length ≤ 1 := by
  obtain ⟨fetch, -, -, hresults⟩ := h.head_results
  rw [hresults]
  cases fetch.cached <;> simp

lemma Sound.settle (h : Sound (attempt :: pending) s)
    (hfinish : (f (s.promises attempt.promise)).finishes = (s.promises attempt.promise).finishes + 1)
    (hresults : (f (s.promises attempt.promise)).canceled = true ∨
      (f (s.promises attempt.promise)).results.length = 1 ∨ (f (s.promises attempt.promise)).results.length = 2) :
    Sound pending (s.change attempt.promise f) := by
  refine ⟨fun n => ?_, fun n hn => ?_, fun n hn => ?_, fun a ha => ?_, h.saves, h.successes⟩
  · have hone := h.one n
    rw [queued_cons] at hone
    change s.inFlight n + s.queued pending n + (Function.update s.promises _ _ n).finishes = _
    rw [Function.update_apply]
    by_cases hn : n = attempt.promise
    · subst hn
      rw [if_pos rfl] at hone ⊢
      rw [hfinish]
      change _ = if attempt.promise < s.fetches.length then 1 else 0
      omega
    · rw [if_neg (Ne.symm hn)] at hone
      rw [if_neg hn]
      exact hone
  · change s.fetches.length ≤ n at hn
    have hlt := h.head.1
    exact (Function.update_of_ne (by omega) _ _).trans (h.blank n hn)
  · obtain ⟨fetch, hfetch, hsettled⟩ := h.settled n hn
    refine ⟨fetch, hfetch, ?_⟩
    change Settled fetch.cached (Function.update s.promises _ _ n)
    rw [Function.update_apply]
    by_cases hn : n = attempt.promise
    · rw [if_pos hn, Settled, if_neg (by omega)]
      exact hresults
    · rw [if_neg hn]
      exact hsettled
  · apply h.held a
    change a ∈ s.requests ++ s.queue ++ pending at ha
    simp only [List.mem_append, List.mem_cons] at ha ⊢
    tauto

lemma giveUp_settles (promise : ConversationsPromise) (hopen : promise.finishes = 0) (hlength : promise.results.length ≤ 1) :
    promise.giveUp.finishes = promise.finishes + 1 ∧
      (promise.giveUp.canceled = true ∨ promise.giveUp.results.length = 1 ∨ promise.giveUp.results.length = 2) := by
  obtain ⟨canceled, results, finishes⟩ := promise
  obtain rfl : finishes = 0 := hopen
  cases canceled with
  | true =>
    rw [ConversationsPromise.giveUp]
    split_ifs <;> exact ⟨rfl, .inl rfl⟩
  | false =>
    match results, hlength with
    | [], _ => exact ⟨rfl, .inr (.inl rfl)⟩
    | [_], _ => exact ⟨rfl, .inr (.inl rfl)⟩

lemma Sound.giveUp (h : Sound (attempt :: pending) s) : Sound pending (s.change attempt.promise .giveUp) := by
  have hgiveUp := giveUp_settles _ h.head.2 h.head_length
  exact h.settle hgiveUp.1 hgiveUp.2

lemma Sound.moves (h : Sound pending s) {s' : ConversationsRepositoryImpl} {pending' : List Attempt}
    (hpromises : s'.promises = s.promises) (hfetches : s'.fetches = s.fetches) (hsaves : s'.saves = s.saves)
    (hsuccesses : s'.successes = s.successes)
    (hperm : (s'.requests ++ s'.queue ++ pending').Perm (s.requests ++ s.queue ++ pending)) : Sound pending' s' := by
  have hcount : ∀ n, s'.inFlight n + s'.queued pending' n = s.inFlight n + s.queued pending n := by
    intro n
    have hn := (hperm.map Attempt.promise).count_eq n
    rw [inFlight, inFlight, queued, queued]
    simp only [List.map_append, List.count_append] at hn ⊢
    omega
  refine ⟨fun n => ?_, ?_, ?_, fun a ha => ?_, ?_, ?_⟩
  · rw [hcount, hpromises, hfetches]
    exact h.one n
  · rw [hpromises, hfetches]
    exact h.blank
  · rw [hpromises, hfetches]
    exact h.settled
  · rw [hfetches]
    apply h.held a
    exact hperm.mem_iff.mp ha
  · rw [hsaves, hfetches]
    exact h.saves
  · rw [hsuccesses, hfetches]
    exact h.successes

lemma Sound.congr_attempts (h : Sound pending s) (attempts : List ℕ) : Sound pending { s with attempts := attempts } :=
  ⟨h.one, h.blank, h.settled, h.held, h.saves, h.successes⟩

lemma Sound.succeed (h : Sound (attempt :: pending) s) (hcanceled : (s.promises attempt.promise).canceled = false)
    (body : List UInt8) (conversations : Conversations) :
    Sound pending ((s.succeed D body conversations attempt).note attempt conversations s) := by
  obtain ⟨hlt, hopen⟩ := h.head
  obtain ⟨fetch, hfetch, huser, hresults⟩ := h.head_results
  have hequal : (s.promises attempt.promise).results.head?.any (fun cached => unchanged cached conversations) = true ↔
      fetch.cached = some conversations := by
    rw [hresults]
    cases fetch.cached with
    | none => simp
    | some cached => simp [unchanged_iff]
  -- the note is about the promise alone
  have hnote : ∀ s' : ConversationsRepositoryImpl, Sound pending s' → s'.fetches = s.fetches →
      (s'.promises attempt.promise).results = (if fetch.cached = some conversations then
        (s.promises attempt.promise).results else (s.promises attempt.promise).results ++ [conversations]) →
      Sound pending (s'.note attempt conversations s) := by
    intro s' h' hsame hafter
    refine ⟨h'.one, h'.blank, h'.settled, h'.held, h'.saves, fun e he => ?_⟩
    rcases List.mem_append.mp he with he | he
    · exact h'.successes e he
    · obtain rfl := List.mem_singleton.mp he
      exact ⟨fetch, hsame ▸ hfetch, hresults, hafter⟩
  have hadd : ((s.promises attempt.promise).addResult conversations).results =
      (s.promises attempt.promise).results ++ [conversations] := by
    rw [ConversationsPromise.addResult, if_neg (by simp [hcanceled, hopen])]
  have hends : ∀ s', Sound (attempt :: pending) s' → s'.promises = s.promises → s'.fetches = s.fetches →
      fetch.cached ≠ some conversations → Sound pending ((s'.change attempt.promise
        (fun promise => (promise.addResult conversations).finish)).note attempt conversations s) := by
    intro s' h' hpromises hsame hnew
    apply hnote
    · apply h'.settle
      · rw [hpromises, ConversationsPromise.addResult]
        split_ifs <;> rfl
      · change _ ∨ ((s'.promises attempt.promise).addResult conversations).results.length = 1 ∨
          ((s'.promises attempt.promise).addResult conversations).results.length = 2
        rw [hpromises, hadd, List.length_append, List.length_singleton]
        have hlength := h.head_length
        omega
    · exact hsame
    · rw [if_neg hnew, ← hadd, ← hpromises]
      change (Function.update s'.promises _ _ attempt.promise).results = _
      rw [Function.update_self]
      rfl
  rw [ConversationsRepositoryImpl.succeed]
  split_ifs with hcached hempty
  · apply hnote
    · apply h.settle rfl
      refine .inr (.inl ?_)
      change (s.promises attempt.promise).results.length = 1
      rw [hresults, hequal.mp hcached]
      rfl
    · rfl
    · rw [if_pos (hequal.mp hcached)]
      change (Function.update s.promises _ _ attempt.promise).results = _
      rw [Function.update_self]
      rfl
  · exact hends s h rfl rfl (fun heq => hcached (hequal.mpr heq))
  · refine hends _ ⟨h.one, h.blank, h.settled, h.held, fun save hsave => ?_, h.successes⟩ rfl rfl
      (fun heq => hcached (hequal.mpr heq))
    rcases List.mem_append.mp hsave with hsave | hsave
    · exact h.saves save hsave
    · obtain rfl := List.mem_singleton.mp hsave
      exact ⟨fun hnil => hempty (List.isEmpty_iff.mpr hnil), fetch, hfetch, huser⟩

lemma Sound.answer (h : Sound (attempt :: pending) s) (response : Response) :
    Sound pending (s.answer D response attempt) := by
  rw [ConversationsRepositoryImpl.answer]
  split_ifs with hcanceled hfailed hunknown
  · exact h.settle rfl (.inl hcanceled)
  · refine h.moves rfl rfl rfl rfl ?_
    simp
  · exact h.giveUp
  · cases D.conversations response.body with
    | none => exact h.giveUp
    | some conversations => exact h.succeed (Bool.eq_false_iff.mpr hcanceled) response.body conversations

lemma Sound.fetchAttempt (h : Sound (attempt :: pending) s) (reply : Option Response) :
    Sound pending (s.fetchAttempt D reply attempt) := by
  have h' := h.congr_attempts (s.attempts ++ [attempt.promise])
  rw [ConversationsRepositoryImpl.fetchAttempt.eq_def]
  dsimp only
  split_ifs with hcanceled
  · exact h'.settle rfl (.inl hcanceled)
  · cases reply with
    | none =>
      refine h'.moves rfl rfl rfl rfl ?_
      simp only [List.append_assoc, List.singleton_append]
      apply List.Perm.append_left
      exact List.perm_middle.symm
    | some response => exact h'.answer response

/-! ### What a retry does -/

lemma finish_canceled (promise : ConversationsPromise) : promise.finish.canceled = promise.canceled := rfl

lemma giveUp_canceled (promise : ConversationsPromise) : promise.giveUp.canceled = promise.canceled := by
  rw [ConversationsPromise.giveUp, ConversationsPromise.addResult]
  split_ifs <;> rfl

lemma change_canceled (hf : ∀ promise, (f promise).canceled = promise.canceled) (m n : ℕ) :
    ((s.change m f).promises n).canceled = (s.promises n).canceled := by
  change (Function.update s.promises m _ n).canceled = _
  rw [Function.update_apply]
  split_ifs with h
  · rw [h, hf]
  · rfl

structure Quiet (s t : ConversationsRepositoryImpl) : Prop where
  fetches : t.fetches = s.fetches
  attempts : t.attempts = s.attempts
  requests : t.requests = s.requests
  queue : t.queue = s.queue
  canceled : ∀ n, (t.promises n).canceled = (s.promises n).canceled

lemma quiet_change (hf : ∀ promise, (f promise).canceled = promise.canceled) (n : ℕ) : Quiet s (s.change n f) :=
  ⟨rfl, rfl, rfl, rfl, change_canceled hf n⟩

lemma quiet_succeed (body : List UInt8) (conversations : Conversations) (attempt : Attempt)
    (s : ConversationsRepositoryImpl) : Quiet s (s.succeed D body conversations attempt) := by
  have hadd : ∀ promise : ConversationsPromise, (promise.addResult conversations).finish.canceled = promise.canceled :=
    fun promise => by
      rw [ConversationsPromise.addResult]
      split_ifs <;> rfl
  rw [succeed]
  split_ifs
  · exact quiet_change finish_canceled _
  · exact quiet_change hadd _
  · exact ⟨rfl, rfl, rfl, rfl, change_canceled hadd _⟩

lemma answer_waits {response : Response} (h : s.waits response attempt = true) :
    s.answer D response attempt = { s with queue := s.queue ++ [attempt] } := by
  obtain ⟨hopen, hunknown⟩ := Bool.and_eq_true_iff.mp h
  obtain ⟨hfailed, herror⟩ := Bool.and_eq_true_iff.mp hunknown
  have hcanceled := (Bool.not_eq_true' _).mp hopen
  rw [answer, if_neg (by simp [hcanceled]), if_pos hfailed, if_pos (of_decide_eq_true herror)]

lemma quiet_answer {response : Response} (h : s.waits response attempt = false) :
    Quiet s (s.answer D response attempt) := by
  rw [answer]
  split_ifs with hcanceled hfailed hunknown
  · exact quiet_change finish_canceled _
  · exact absurd h (by simp [waits, hcanceled, unknownError, hfailed, hunknown])
  · exact quiet_change giveUp_canceled _
  · cases D.conversations response.body with
    | none => exact quiet_change giveUp_canceled _
    | some conversations =>
      have hquiet := quiet_succeed (D := D) response.body conversations attempt s
      exact ⟨hquiet.fetches, hquiet.attempts, hquiet.requests, hquiet.queue, hquiet.canceled⟩

lemma answer_queue (response : Response) (attempt : Attempt) (s : ConversationsRepositoryImpl) :
    (s.answer D response attempt).fetches = s.fetches ∧ (s.answer D response attempt).requests = s.requests ∧
      (s.answer D response attempt).queue = s.queue ++ [attempt].filter (s.waits response) := by
  rw [List.filter_singleton]
  cases h : s.waits response attempt with
  | true =>
    rw [answer_waits h]
    exact ⟨rfl, rfl, rfl⟩
  | false =>
    have hquiet := quiet_answer (D := D) h
    exact ⟨hquiet.fetches, hquiet.requests, hquiet.queue.trans (List.append_nil _).symm⟩

structure Attempted (replies : ℕ → Option Response) (pending : List Attempt) (s t : ConversationsRepositoryImpl) :
    Prop where
  fetches : t.fetches = s.fetches
  attempts : t.attempts = s.attempts ++ pending.map Attempt.promise
  requests : t.requests = s.requests ++ pending.filter (s.goesOut replies)
  queue : t.queue = s.queue ++ pending.filter (s.failsAgain replies)
  canceled : ∀ n, (t.promises n).canceled = (s.promises n).canceled

lemma Attempted.append {replies : ℕ → Option Response} {pending' : List Attempt} {t u : ConversationsRepositoryImpl}
    (h : Attempted replies pending s t) (h' : Attempted replies pending' t u) :
    Attempted replies (pending ++ pending') s u := by
  have hout : t.goesOut replies = s.goesOut replies := by
    funext a
    rw [goesOut, goesOut, h.canceled]
  have hfails : t.failsAgain replies = s.failsAgain replies := by
    funext a
    rw [failsAgain, failsAgain, h.canceled]
  refine ⟨h'.fetches.trans h.fetches, ?_, ?_, ?_, fun n => (h'.canceled n).trans (h.canceled n)⟩
  · rw [h'.attempts, h.attempts, List.append_assoc, List.map_append]
  · rw [h'.requests, h.requests, hout, List.append_assoc, List.filter_append]
  · rw [h'.queue, h.queue, hfails, List.append_assoc, List.filter_append]

lemma Sound.begins (h : Sound [] s) (fetch : ConversationsFetch) {s' : ConversationsRepositoryImpl}
    (hs' : s' = { s with
      fetches := s.fetches ++ [fetch]
      promises := Function.update s.promises s.fetches.length { results := fetch.cached.toList } }) :
    Sound [⟨s.fetches.length, fetch.userId⟩] s' := by
  subst hs'
  have hold : ∀ {n : ℕ} {P : ConversationsFetch → Prop}, (∃ fetch, s.fetches[n]? = some fetch ∧ P fetch) →
      ∃ fetch', (s.fetches ++ [fetch])[n]? = some fetch' ∧ P fetch' := by
    rintro n P ⟨old, hn, hP⟩
    exact ⟨old, (List.getElem?_append_left (List.getElem?_eq_some_iff.mp hn).1).trans hn, hP⟩
  refine ⟨fun n => ?_, fun n hn => ?_, fun n hn => ?_, fun a ha => ?_, fun save hsave => ?_, fun e he => ?_⟩
  · have hone := h.one n
    rw [queued_cons]
    change s.inFlight n + (s.queued [] n + _) + (Function.update s.promises _ _ n).finishes =
      if n < (s.fetches ++ [fetch]).length then 1 else 0
    rw [List.length_append, List.length_singleton, Function.update_apply]
    dsimp only
    by_cases hn : n = s.fetches.length
    · subst hn
      rw [if_neg (Nat.lt_irrefl _)] at hone
      rw [if_pos rfl, if_pos rfl, if_pos (Nat.lt_succ_self _)]
      dsimp only
      omega
    · rw [if_neg (Ne.symm hn), if_neg hn, Nat.add_zero, hone]
      exact if_congr (by omega) rfl rfl
  · rw [List.length_append, List.length_singleton] at hn
    exact (Function.update_of_ne (by omega) _ _).trans (h.blank n (by omega))
  · rw [List.length_append, List.length_singleton] at hn
    dsimp only
    rw [Function.update_apply]
    split_ifs with hlast
    · subst hlast
      refine ⟨fetch, List.getElem?_concat_length, ?_⟩
      rw [Settled, if_pos rfl]
    · exact hold (h.settled n (by omega))
  · rcases List.mem_append.mp ha with ha | ha
    · exact hold (h.held a (by rw [List.append_nil]; exact ha))
    · obtain rfl := List.mem_singleton.mp ha
      exact ⟨fetch, List.getElem?_concat_length, rfl⟩
  · exact ⟨(h.saves save hsave).1, hold (h.saves save hsave).2⟩
  · exact hold (h.successes e he)

lemma Sound.fetchConversations (h : Sound [] s) (cached : Option QString) (reply : Option Response) :
    Sound [] (s.fetchConversations D cached reply) := by
  have hblank := h.blank s.fetches.length le_rfl
  rw [ConversationsRepositoryImpl.fetchConversations]
  apply Sound.fetchAttempt
  generalize (if (s.currentUser.getD []).isEmpty then none else (cached.map D.toUtf8).bind D.conversations) = conversations
  apply h.begins ⟨s.currentUser.getD [], conversations⟩
  cases conversations with
  | none =>
    rw [Option.elim_none, Option.toList_none, ← hblank, Function.update_eq_self]
  | some result =>
    rw [Option.elim_some, change]
    dsimp only
    rw [hblank]
    rfl

lemma Sound.respond (h : Sound [] s) (request : ℕ) (response : Response) : Sound [] (s.respond D request response) := by
  rw [ConversationsRepositoryImpl.respond]
  cases hrequest : s.requests[request]? with
  | none => exact h
  | some attempt =>
    apply Sound.answer
    refine h.moves rfl rfl rfl rfl ?_
    obtain ⟨hlt, hget⟩ := List.getElem?_eq_some_iff.mp hrequest
    have hperm := List.getElem_cons_eraseIdx_perm hlt
    rw [hget] at hperm
    dsimp only
    rw [List.append_nil]
    exact (List.perm_append_singleton _ _).trans (hperm.append_right s.queue)

lemma Sound.swapped (h : Sound [] s) : Sound s.queue s.swapped := by
  refine h.moves rfl rfl rfl rfl ?_
  simp [ConversationsRepositoryImpl.swapped]

lemma Sound.runPending (replies : ℕ → Option Response) (done : List Attempt) (h : Sound (done ++ pending) s) :
    Sound pending (runPending D replies done s) := by
  induction done generalizing s with
  | nil => exact h
  | cons attempt done ih => exact ih (h.fetchAttempt (replies attempt.promise))

lemma Sound.retryPending (h : Sound [] s) (replies : ℕ → Option Response) : Sound [] (s.retryPending D replies) :=
  Sound.runPending replies s.queue (by rw [List.append_nil]; exact h.swapped)

lemma Sound.cancel (h : Sound [] s) (n : ℕ) (hn : n < s.fetches.length) :
    Sound [] (s.change n (fun promise => { promise with canceled := true })) := by
  refine ⟨fun m => ?_, fun m hm => ?_, fun m hm => ?_, h.held, h.saves, h.successes⟩
  · refine Eq.trans ?_ (h.one m)
    change _ + _ + (Function.update s.promises _ _ m).finishes = _
    rw [Function.update_apply]
    split_ifs with he
    · rw [he]
      rfl
    · rfl
  · change s.fetches.length ≤ m at hm
    exact (Function.update_of_ne (by omega) _ _).trans (h.blank m hm)
  · obtain ⟨fetch, hfetch, hsettled⟩ := h.settled m hm
    refine ⟨fetch, hfetch, ?_⟩
    change Settled fetch.cached (Function.update s.promises _ _ m)
    rw [Function.update_apply]
    split_ifs with he
    · subst he
      rw [Settled] at hsettled ⊢
      dsimp only
      split_ifs at hsettled ⊢
      · exact hsettled
      · exact .inl rfl
    · exact hsettled

lemma Sound.step (h : Sound [] s) (event : ConversationsEvent) : Sound [] (s.step D event) := by
  cases event with
  | userChanged user => exact ⟨h.one, h.blank, h.settled, h.held, h.saves, h.successes⟩
  | fetchConversations cached reply => exact h.fetchConversations cached reply
  | response request response => exact h.respond request response
  | cancel promise =>
    rw [ConversationsRepositoryImpl.step]
    split_ifs with hlt
    · exact h.cancel promise hlt
    · exact h
  | isRetryChanged isRetry replies =>
    cases isRetry with
    | false => exact h
    | true => exact h.retryPending replies
  | networkConnected replies => exact h.retryPending replies

lemma Sound.initial : Sound [] {} :=
  ⟨fun _ => rfl, fun _ _ => rfl, fun _ hn => (nomatch hn), fun _ ha => (nomatch ha), fun _ hs => (nomatch hs),
    fun _ he => (nomatch he)⟩

lemma sound_run (events : List ConversationsEvent) : Sound [] (run D events) := by
  induction events using List.reverseRecOn with
  | nil => exact .initial
  | append_singleton events event ih =>
    rw [run, List.foldl_append]
    exact ih.step event

structure Answered (response : Response) (attempt : Attempt) (s t : ConversationsRepositoryImpl) : Prop where
  queue : t.queue = s.queue ++ [attempt].filter (s.waits response)
  finished : (t.promises attempt.promise).finishes = if s.waits response attempt = true then 0 else 1

lemma Sound.responded (h : Sound [] s) (response : Response) {request : ℕ} (hrequest : s.requests[request]? = some attempt) :
    (s.respond D request response).requests = s.requests.eraseIdx request ∧
      Answered response attempt s (s.respond D request response) := by
  have hsound := h.respond (D := D) request response
  obtain ⟨hlt, hget⟩ := List.getElem?_eq_some_iff.mp hrequest
  obtain ⟨hfetches, hrequests, hqueue⟩ :=
    answer_queue (D := D) response attempt { s with requests := s.requests.eraseIdx request }
  have hrespond : s.respond D request response =
      { s with requests := s.requests.eraseIdx request }.answer D response attempt := by
    rw [ConversationsRepositoryImpl.respond, hrequest]
  rw [← hrespond] at hfetches hrequests hqueue
  refine ⟨hrequests, hqueue, ?_⟩
  -- the promise was nowhere else, and is now where the response has put it
  have hone := h.one attempt.promise
  have hone' := hsound.one attempt.promise
  have hcount : s.inFlight attempt.promise =
      (((s.requests.eraseIdx request).map Attempt.promise).count attempt.promise) + 1 := by
    have hperm := (List.getElem_cons_eraseIdx_perm hlt).map Attempt.promise
    rw [inFlight, ← hperm.count_eq, hget, List.map_cons, List.count_cons_self]
  rw [hcount, queued, List.append_nil] at hone
  rw [inFlight, queued, List.append_nil, hrequests, hqueue, List.map_append, List.count_append, hfetches] at hone'
  have hwaits : (([attempt].filter (waits { s with requests := s.requests.eraseIdx request } response)).map
      Attempt.promise).count attempt.promise = if s.waits response attempt = true then 1 else 0 := by
    have hsame : waits { s with requests := s.requests.eraseIdx request } response attempt = s.waits response attempt := rfl
    rw [List.filter_singleton, hsame]
    cases s.waits response attempt <;> simp
  rw [hwaits] at hone'
  dsimp only at hone'
  split_ifs at hone hone' ⊢ <;> omega

end ConversationsRepositoryImpl

end ChatDesktop.Chat
