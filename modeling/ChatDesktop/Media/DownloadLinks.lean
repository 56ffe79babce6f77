import ChatDesktop.Media.MediaRepository
import Mathlib.Data.List.Induction

namespace ChatDesktop.Media

open Library Network Chat

namespace MediaRepository

/-- A message has the request that has the message, and no two requests have one destination. -/
structure Linked (s : MediaRepository) : Prop where
  inverse : ∀ message request, s.messages.find? message = some request ↔
    ∃ pending, s.requests.find? request = some pending ∧ pending.messageId = message
  paths : ∀ request request' pending pending', s.requests.find? request = some pending →
    s.requests.find? request' = some pending' → pending.path = pending'.path → request = request'

structure Numbered (s : MediaRepository) : Prop where
  request_lt : ∀ request pending, s.requests.find? request = some pending → request < s.made
  named : ∀ request pending, s.requests.find? request = some pending → pending.messageId ≠ []
  asked : ∀ asking ∈ s.dialogs, asking.messageId ≠ []

def destination (now : Surroundings) (chosen : QString) (s : MediaRepository) : Option (Asking × QString) :=
  match s.dialogs with
  | [] => none
  | asking :: _ =>
    let path := now.absoluteFilePath chosen
    if chosen.isEmpty || !now.mkpath (directoryName path) || s.inUse path || !asking.url.downloadable || path.isEmpty then
      none
    else some (asking, path)

def temporaryPath (now : Surroundings) (messageId : QString) (url : QUrl) (s : MediaRepository) : Option QString :=
  if messageId.isEmpty || !url.downloadable || s.underway messageId url || genericFile messageId ||
      now.exists? (voicePath now messageId url) then none
  else now.temporary.filter (fun path => !path.isEmpty)

/-- A message whose dialog is answered has no request by then, and a temporary file is not where another download
is saved to. -/
def Sound (s : MediaRepository) : Surroundings × Event → Prop
  | (now, .answered chosen) =>
    ∀ asking path, s.destination now chosen = some (asking, path) → s.messages.find? asking.messageId = none
  | (now, .downloadFile messageId url) =>
    ∀ path, s.temporaryPath now messageId url = some path →
      ∀ request pending, s.requests.find? request = some pending → pending.path = path → pending.messageId = messageId
  | _ => True

section

variable {s t : MediaRepository} {message : QString} {request : ℕ} {pending : PendingDownload}

/-! ### The two maps -/

lemma Linked.congr (h : Linked s) (hr : t.requests = s.requests) (hm : t.messages = s.messages) : Linked t := by
  refine ⟨?_, ?_⟩
  · rw [hr, hm]
    exact h.inverse
  · rw [hr]
    exact h.paths

lemma Numbered.congr (h : Numbered s) (hr : t.requests = s.requests) (hm : t.made = s.made)
    (hd : ∀ asking ∈ t.dialogs, asking.messageId ≠ []) : Numbered t := by
  refine ⟨?_, ?_, hd⟩
  · rw [hr, hm]
    exact h.request_lt
  · rw [hr]
    exact h.named

def forget (message : QString) (request : ℕ) (s : MediaRepository) : MediaRepository :=
  { s with messages := s.messages.erase message, requests := s.requests.erase request }

lemma find?_forget_requests {other : ℕ} : (s.forget message request).requests.find? other = some pending ↔
    other ≠ request ∧ s.requests.find? other = some pending := by
  rw [forget, Hash.find?_erase]
  split_ifs with ho <;> simp [ho]

lemma Linked.forget (h : Linked s) (hm : s.messages.find? message = some request) :
    Linked (s.forget message request) := by
  obtain ⟨p, hp, hpm⟩ := (h.inverse message request).mp hm
  refine ⟨fun m r => ?_, fun r r' q q' hq hq' => ?_⟩
  · have hmessages : (s.forget message request).messages.find? m = some r ↔
        m ≠ message ∧ s.messages.find? m = some r := by
      rw [MediaRepository.forget, Hash.find?_erase]
      split_ifs with he <;> simp [he]
    rw [hmessages, h.inverse]
    constructor
    · rintro ⟨hne, q, hq, hqm⟩
      refine ⟨q, find?_forget_requests.mpr ⟨?_, hq⟩, hqm⟩
      rintro rfl
      rw [hp] at hq
      exact hne (hqm.symm.trans ((Option.some.inj hq) ▸ hpm))
    · rintro ⟨q, hq, hqm⟩
      obtain ⟨hne, hkept⟩ := find?_forget_requests.mp hq
      refine ⟨?_, q, hkept, hqm⟩
      rintro rfl
      have hr := (h.inverse m r).mpr ⟨q, hkept, hqm⟩
      exact hne (Option.some.inj (hr.symm.trans hm))
  · exact h.paths r r' q q' (find?_forget_requests.mp hq).2 (find?_forget_requests.mp hq').2

lemma Numbered.forget (h : Numbered s) (message : QString) (request : ℕ) : Numbered (s.forget message request) :=
  ⟨fun r p hp => h.request_lt r p (find?_forget_requests.mp hp).2,
    fun r p hp => h.named r p (find?_forget_requests.mp hp).2, h.asked⟩

lemma takeMessage_missing (h : s.requests.find? request = none) : s.takeMessage request = ([], s) := by
  rw [takeMessage, h]

lemma takeMessage_found (hn : Numbered s) (h : s.requests.find? request = some pending) :
    s.takeMessage request = (pending.messageId, s.forget pending.messageId request) := by
  have hnamed := hn.named request pending h
  rw [takeMessage, h]
  dsimp only
  rw [if_neg (by simpa using hnamed)]
  rfl

lemma cancelDownload_missing (h : s.messages.find? message = none) : s.cancelDownload message = s := by
  rw [cancelDownload, h]

lemma cancelDownload_found (h : s.messages.find? message = some request) :
    s.cancelDownload message = s.forget message request := by
  have hgone : (s.forget message request).requests.find? request = none := by
    rw [forget, Hash.find?_erase, if_pos rfl]
  rw [cancelDownload, h]
  exact congrArg Prod.snd (takeMessage_missing hgone)

lemma Linked.takeMessage (h : Linked s) (hn : Numbered s) (request : ℕ) : Linked (s.takeMessage request).2 := by
  cases hp : s.requests.find? request with
  | none => rwa [takeMessage_missing hp]
  | some pending =>
    rw [takeMessage_found hn hp]
    exact h.forget ((h.inverse _ _).mpr ⟨pending, hp, rfl⟩)

lemma Numbered.takeMessage (h : Numbered s) (request : ℕ) : Numbered (s.takeMessage request).2 := by
  cases hp : s.requests.find? request with
  | none => rwa [takeMessage_missing hp]
  | some pending =>
    rw [takeMessage_found h hp]
    exact h.forget _ _

lemma Linked.cancelDownload (h : Linked s) (message : QString) : Linked (s.cancelDownload message) := by
  cases hm : s.messages.find? message with
  | none => rwa [cancelDownload_missing hm]
  | some request =>
    rw [cancelDownload_found hm]
    exact h.forget hm

lemma Numbered.cancelDownload (h : Numbered s) (message : QString) : Numbered (s.cancelDownload message) := by
  cases hm : s.messages.find? message with
  | none => rwa [cancelDownload_missing hm]
  | some request =>
    rw [cancelDownload_found hm]
    exact h.forget _ _

@[simp] lemma find?_cancelDownload : (s.cancelDownload message).messages.find? message = none := by
  cases hm : s.messages.find? message with
  | none => rwa [cancelDownload_missing hm]
  | some request => rw [cancelDownload_found hm, forget, Hash.find?_erase, if_pos rfl]

lemma Linked.find?_cancelDownload (h : Linked s) : (s.cancelDownload message).requests.find? request = some pending ↔
    s.requests.find? request = some pending ∧ pending.messageId ≠ message := by
  cases hm : s.messages.find? message with
  | none =>
    rw [cancelDownload_missing hm]
    refine ⟨fun hp => ⟨hp, fun hpm => ?_⟩, And.left⟩
    have hsome := (h.inverse message request).mpr ⟨pending, hp, hpm⟩
    exact nomatch hm.symm.trans hsome
  | some r =>
    obtain ⟨p, hp, hpm⟩ := (h.inverse message r).mp hm
    rw [cancelDownload_found hm, find?_forget_requests]
    constructor
    · rintro ⟨hne, hq⟩
      refine ⟨hq, fun hqm => hne ?_⟩
      exact Option.some.inj (((h.inverse message request).mpr ⟨pending, hq, hqm⟩).symm.trans hm)
    · rintro ⟨hq, hqm⟩
      refine ⟨?_, hq⟩
      rintro rfl
      rw [hp] at hq
      exact hqm ((Option.some.inj hq) ▸ hpm)

/-! ### A new request -/

lemma start_eq (hu : pending.url.downloadable = true) (hp : pending.path.isEmpty = false) :
    s.start pending = { s with
      requests := s.requests.insert s.made pending
      messages := s.messages.insert pending.messageId s.made
      made := s.made + 1 }.emit (.downloadStarted pending.messageId) := by
  rw [start, hu, hp]
  rfl

lemma Numbered.start (h : Numbered s) (hm : pending.messageId ≠ []) : Numbered (s.start pending) := by
  rw [MediaRepository.start]
  split_ifs
  · exact h.congr rfl rfl h.asked
  · have hfind : ∀ r p, (s.requests.insert s.made pending).find? r = some p →
        r < s.made + 1 ∧ p.messageId ≠ [] := by
      intro r p hp
      rw [Hash.find?_insert] at hp
      split_ifs at hp with hr
      · obtain rfl := Option.some.inj hp
        exact ⟨hr ▸ Nat.lt_succ_self _, hm⟩
      · exact ⟨(h.request_lt r p hp).trans (Nat.lt_succ_self _), h.named r p hp⟩
    exact ⟨fun r p hp => (hfind r p hp).1, fun r p hp => (hfind r p hp).2, h.asked⟩

lemma Linked.start_iff (h : Linked s) (hn : Numbered s) (hu : pending.url.downloadable = true)
    (hp : pending.path.isEmpty = false) : Linked (s.start pending) ↔
      s.messages.find? pending.messageId = none ∧
        ∀ r q, s.requests.find? r = some q → q.path ≠ pending.path := by
  have hlt : ∀ r q, s.requests.find? r = some q → r ≠ s.made := fun r q hq => (hn.request_lt r q hq).ne
  have hrequests : ∀ r, (s.start pending).requests.find? r =
      if r = s.made then some pending else s.requests.find? r := fun r => by
    rw [start_eq hu hp]
    exact Hash.find?_insert
  have hmessages : ∀ m, (s.start pending).messages.find? m =
      if m = pending.messageId then some s.made else s.messages.find? m := fun m => by
    rw [start_eq hu hp]
    exact Hash.find?_insert
  constructor
  · intro h'
    refine ⟨?_, fun r q hq hpath => ?_⟩
    · by_contra hsome
      obtain ⟨r, hr⟩ := Option.ne_none_iff_exists'.mp hsome
      obtain ⟨q, hq, hqm⟩ := (h.inverse _ r).mp hr
      have hold : (s.start pending).requests.find? r = some q := by rw [hrequests, if_neg (hlt r q hq), hq]
      have hnew := (h'.inverse _ r).mpr ⟨q, hold, hqm⟩
      rw [hmessages, if_pos rfl] at hnew
      exact hlt r q hq (Option.some.inj hnew).symm
    · have hold : (s.start pending).requests.find? r = some q := by rw [hrequests, if_neg (hlt r q hq), hq]
      have hnew : (s.start pending).requests.find? s.made = some pending := by rw [hrequests, if_pos rfl]
      exact hlt r q hq (h'.paths _ _ _ _ hold hnew hpath)
  · rintro ⟨hm, hpath⟩
    refine ⟨fun m r => ?_, fun r r' q q' hq hq' he => ?_⟩
    · rw [hmessages, hrequests]
      by_cases hmp : m = pending.messageId
      · subst hmp
        rw [if_pos rfl]
        constructor
        · intro hr
          rw [if_pos (Option.some.inj hr).symm]
          exact ⟨pending, rfl, rfl⟩
        · rintro ⟨q, hq, hqm⟩
          split_ifs at hq with hr
          · rw [hr]
          · exact nomatch hm.symm.trans ((h.inverse _ r).mpr ⟨q, hq, hqm⟩)
      · rw [if_neg hmp]
        constructor
        · intro hr
          obtain ⟨q, hq, hqm⟩ := (h.inverse m r).mp hr
          rw [if_neg (hlt r q hq)]
          exact ⟨q, hq, hqm⟩
        · rintro ⟨q, hq, hqm⟩
          split_ifs at hq with hr
          · obtain rfl := Option.some.inj hq
            exact absurd hqm.symm hmp
          · exact (h.inverse m r).mpr ⟨q, hq, hqm⟩
    · rw [hrequests] at hq hq'
      split_ifs at hq hq' with hr hr' hr'
      · rw [hr, hr']
      · exact absurd (he.symm.trans (congrArg PendingDownload.path (Option.some.inj hq)).symm) (hpath r' q' hq')
      · exact absurd (he.trans (congrArg PendingDownload.path (Option.some.inj hq')).symm) (hpath r q hq)
      · exact h.paths r r' q q' hq hq' he

/-! ### Steps -/

lemma inUse_eq_false {path : QString} (h : s.inUse path = false) (hr : s.requests.find? request = some pending) :
    pending.path ≠ path := by
  rw [inUse, List.any_eq_false] at h
  simpa using h _ (Hash.find?_eq_some.mp hr)

lemma answered_none {now : Surroundings} {chosen : QString} (h : s.destination now chosen = none) :
    (s.answered now chosen).requests = s.requests ∧ (s.answered now chosen).messages = s.messages ∧
      (s.answered now chosen).made = s.made ∧ ∀ asking ∈ (s.answered now chosen).dialogs, asking ∈ s.dialogs := by
  rw [answered]
  cases hd : s.dialogs with
  | nil => exact ⟨rfl, rfl, rfl, fun asking ha => hd ▸ ha⟩
  | cons asking dialogs =>
    have hrest : ∀ other ∈ dialogs, other ∈ asking :: dialogs := fun other ho => List.mem_cons_of_mem _ ho
    rw [destination, hd] at h
    dsimp only at h ⊢
    split_ifs at h with hcond
    split_ifs with hchosen hmkpath huse
    · exact ⟨rfl, rfl, rfl, hrest⟩
    · exact ⟨rfl, rfl, rfl, hrest⟩
    · exact ⟨rfl, rfl, rfl, hrest⟩
    · rw [start, if_pos]
      · exact ⟨rfl, rfl, rfl, hrest⟩
      · have huse' : s.inUse (now.absoluteFilePath chosen) = false := (Bool.not_eq_true _).mp huse
        simpa [hchosen, hmkpath, huse'] using hcond

lemma answered_some {now : Surroundings} {chosen path : QString} {asking : Asking}
    (h : s.destination now chosen = some (asking, path)) : ∃ dialogs, s.dialogs = asking :: dialogs ∧
      asking.url.downloadable = true ∧ path.isEmpty = false ∧ s.inUse path = false ∧
      s.answered now chosen = start ⟨asking.messageId, asking.url, path, asking.accountId, asking.cachePath, false⟩
        { s with dialogs := dialogs } := by
  rw [answered]
  cases hd : s.dialogs with
  | nil =>
    rw [destination, hd] at h
    exact nomatch h
  | cons top dialogs =>
    rw [destination, hd] at h
    dsimp only at h ⊢
    split_ifs at h with hcond
    obtain ⟨rfl, rfl⟩ := Prod.mk.inj (Option.some.inj h)
    simp only [Bool.or_eq_true, Bool.not_eq_true', not_or, Bool.not_eq_true, Bool.not_eq_false] at hcond
    obtain ⟨⟨⟨⟨hchosen, hmkpath⟩, huse⟩, hurl⟩, hpath⟩ := hcond
    refine ⟨dialogs, rfl, hurl, hpath, huse, ?_⟩
    rw [if_neg (by rw [hchosen]; exact Bool.false_ne_true), if_neg (by rw [hmkpath]; exact Bool.false_ne_true),
      if_neg]
    exact fun h => Bool.false_ne_true (huse.symm.trans h)

lemma downloadFile_none {now : Surroundings} {url : QUrl} (h : s.temporaryPath now message url = none) :
    ∃ t, (t = s ∨ t = s.cancelDownload message) ∧ (s.downloadFile now message url).requests = t.requests ∧
      (s.downloadFile now message url).messages = t.messages ∧ (s.downloadFile now message url).made = t.made ∧
      ∀ asking ∈ (s.downloadFile now message url).dialogs, asking ∈ t.dialogs ∨ asking.messageId ≠ [] := by
  rw [temporaryPath] at h
  rw [downloadFile]
  dsimp only
  split_ifs with hinvalid hunderway hgeneric hsaved hexists
  · exact ⟨s, .inl rfl, rfl, rfl, rfl, fun asking ha => .inl ha⟩
  · exact ⟨s, .inl rfl, rfl, rfl, rfl, fun asking ha => .inl ha⟩
  · exact ⟨_, .inr rfl, rfl, rfl, rfl, fun asking ha => .inl ha⟩
  · refine ⟨_, .inr rfl, rfl, rfl, rfl, fun asking ha => ?_⟩
    obtain rfl | ha := List.mem_cons.mp ha
    · refine .inr (fun hempty => hinvalid ?_)
      rw [show message = [] from hempty]
      rfl
    · exact .inl ha
  · exact ⟨_, .inr rfl, rfl, rfl, rfl, fun asking ha => .inl ha⟩
  · rw [if_neg (by simp_all)] at h
    cases ht : now.temporary with
    | none => exact ⟨_, .inr rfl, rfl, rfl, rfl, fun asking ha => .inl ha⟩
    | some path =>
      have hpath : path.isEmpty = true := by
        rw [ht] at h
        simpa [Option.filter] using h
      dsimp only
      rw [start, if_pos (by simp [hpath])]
      exact ⟨_, .inr rfl, rfl, rfl, rfl, fun asking ha => .inl ha⟩

lemma downloadFile_some {now : Surroundings} {url : QUrl} {path : QString}
    (h : s.temporaryPath now message url = some path) : message ≠ [] ∧ url.downloadable = true ∧ path.isEmpty = false ∧
      s.downloadFile now message url = (s.cancelDownload message).start
        ⟨message, url, path, (now.currentUser.map normalizedId).getD [], voicePath now message url, true⟩ := by
  rw [temporaryPath] at h
  split_ifs at h with hcond
  obtain ⟨htemporary, hpath⟩ := Option.filter_eq_some_iff.mp h
  simp only [Bool.or_eq_true, Bool.not_eq_true', not_or, Bool.not_eq_true, Bool.not_eq_false] at hcond
  obtain ⟨⟨⟨⟨hmessage, hurl⟩, hunderway⟩, hgeneric⟩, hexists⟩ := hcond
  refine ⟨by simpa using hmessage, hurl, by simpa using hpath, ?_⟩
  rw [downloadFile]
  simp only [hmessage, hurl, hunderway, hgeneric, hexists, htemporary, Bool.not_true, Bool.or_false, Bool.false_eq_true,
    if_false]

lemma Linked.step_iff (h : Linked s) (hn : Numbered s) (event : Surroundings × Event) :
    Linked (s.step event) ↔ s.Sound event := by
  obtain ⟨now, event⟩ := event
  cases event with
  | downloadFile message url =>
    rw [step, Sound]
    cases ht : s.temporaryPath now message url with
    | none =>
      obtain ⟨t, hcase, hr, hm, -, -⟩ := downloadFile_none ht
      refine iff_of_true ?_ (fun path hpath => nomatch hpath)
      obtain rfl | rfl := hcase
      · exact h.congr hr hm
      · exact (h.cancelDownload message).congr hr hm
    | some path =>
      obtain ⟨-, hurl, hpath, heq⟩ := downloadFile_some ht
      rw [heq, (h.cancelDownload message).start_iff (hn.cancelDownload message) hurl hpath]
      simp only [MediaRepository.find?_cancelDownload, h.find?_cancelDownload, true_and, Option.some.injEq]
      constructor
      · rintro hfree path rfl r q hq hqp
        by_contra hqm
        exact hfree r q ⟨hq, hqm⟩ hqp
      · rintro hsound r q ⟨hq, hqm⟩ hqp
        exact hqm (hsound path rfl r q hq hqp)
  | answered chosen =>
    rw [step, Sound]
    cases hd : s.destination now chosen with
    | none =>
      obtain ⟨hr, hm, -, -⟩ := answered_none hd
      exact iff_of_true (h.congr hr hm) (fun asking path hpath => nomatch hpath)
    | some place =>
      obtain ⟨asking, path⟩ := place
      obtain ⟨dialogs, hdialogs, hurl, hpath, huse, heq⟩ := answered_some hd
      have hbefore : Linked { s with dialogs := dialogs } := h.congr rfl rfl
      have hbefore' : Numbered { s with dialogs := dialogs } :=
        hn.congr rfl rfl (fun a ha => hn.asked a (hdialogs ▸ List.mem_cons_of_mem _ ha))
      rw [heq, hbefore.start_iff hbefore' hurl hpath]
      constructor
      · rintro ⟨hm, -⟩ _ _ he
        obtain ⟨rfl, rfl⟩ := Prod.mk.inj (Option.some.inj he)
        exact hm
      · exact fun hsound => ⟨hsound asking path rfl, fun r q hq => inUse_eq_false huse hq⟩
  | cancelDownload message => exact iff_of_true (h.cancelDownload message) trivial
  | progress request received total =>
    refine iff_of_true ?_ trivial
    rw [step, progressChanged]
    split
    · exact h
    · exact h.congr rfl rfl
  | completed request path =>
    refine iff_of_true ?_ trivial
    have htaken := h.takeMessage hn request
    rw [step, completedChanged]
    dsimp only
    split
    · exact htaken
    · split_ifs
      · exact htaken
      · exact htaken.congr rfl rfl
      · exact htaken.congr rfl rfl
      · exact htaken.congr rfl rfl
  | failed request error =>
    refine iff_of_true ?_ trivial
    have htaken := h.takeMessage hn request
    rw [step, failedChanged]
    dsimp only
    split_ifs
    · exact htaken
    · exact htaken.congr rfl rfl
  | cancelled request => exact iff_of_true (h.takeMessage hn request) trivial

lemma Numbered.step (h : Numbered s) (event : Surroundings × Event) : Numbered (s.step event) := by
  obtain ⟨now, event⟩ := event
  cases event with
  | downloadFile message url =>
    rw [MediaRepository.step]
    cases ht : s.temporaryPath now message url with
    | none =>
      obtain ⟨t, hcase, hr, -, hmade, hdialogs⟩ := downloadFile_none ht
      have hbefore : Numbered t := by
        obtain rfl | rfl := hcase
        · exact h
        · exact h.cancelDownload message
      exact hbefore.congr hr hmade (fun asking ha => (hdialogs asking ha).elim (hbefore.asked asking) id)
    | some path =>
      obtain ⟨hmessage, -, -, heq⟩ := downloadFile_some ht
      rw [heq]
      exact (h.cancelDownload message).start hmessage
  | answered chosen =>
    rw [MediaRepository.step]
    cases hd : s.destination now chosen with
    | none =>
      obtain ⟨hr, -, hmade, hdialogs⟩ := answered_none hd
      exact h.congr hr hmade (fun asking ha => h.asked asking (hdialogs asking ha))
    | some place =>
      obtain ⟨asking, path⟩ := place
      obtain ⟨dialogs, hdialogs, -, -, -, heq⟩ := answered_some hd
      rw [heq]
      have hbefore : Numbered { s with dialogs := dialogs } :=
        h.congr rfl rfl (fun a ha => h.asked a (hdialogs ▸ List.mem_cons_of_mem _ ha))
      exact hbefore.start (h.asked asking (hdialogs ▸ List.mem_cons_self))
  | cancelDownload message => exact h.cancelDownload message
  | progress request received total =>
    rw [MediaRepository.step, progressChanged]
    split
    · exact h
    · exact h.congr rfl rfl h.asked
  | completed request path =>
    have htaken := h.takeMessage request
    rw [MediaRepository.step, completedChanged]
    dsimp only
    split
    · exact htaken
    · split_ifs
      · exact htaken
      · exact htaken.congr rfl rfl htaken.asked
      · exact htaken.congr rfl rfl htaken.asked
      · exact htaken.congr rfl rfl htaken.asked
  | failed request error =>
    have htaken := h.takeMessage request
    rw [MediaRepository.step, failedChanged]
    dsimp only
    split_ifs
    · exact htaken
    · exact htaken.congr rfl rfl htaken.asked
  | cancelled request => exact h.takeMessage request

end

/-! ### Runs -/

lemma run_concat (events : List (Surroundings × Event)) (event : Surroundings × Event) :
    run (events ++ [event]) = (run events).step event := by
  rw [run, run, List.foldl_append]
  rfl

lemma numbered_run (events : List (Surroundings × Event)) : Numbered (run events) := by
  induction events using List.reverseRecOn with
  | nil => exact ⟨fun _ _ hp => (nomatch hp), fun _ _ hp => (nomatch hp), fun _ ha => absurd ha List.not_mem_nil⟩
  | append_singleton events event ih =>
    rw [run_concat]
    exact ih.step event

lemma linked_initial : Linked (run []) := by
  refine ⟨fun m r => ⟨fun hr => (nomatch hr), ?_⟩, fun r r' p p' hp => (nomatch hp)⟩
  rintro ⟨p, hp, -⟩
  exact nomatch hp

/-- The maps are inverse after every step of a run just when each of its steps is sound. -/
theorem linked_iff_sound (events : List (Surroundings × Event)) :
    (∀ done rest, events = done ++ rest → Linked (run done)) ↔
      ∀ done event rest, events = done ++ event :: rest → Sound (run done) event := by
  constructor
  · intro h done event rest he
    have hbefore := h done (event :: rest) he
    have hafter := h (done ++ [event]) rest (by rw [he, List.append_assoc, List.singleton_append])
    rw [run_concat] at hafter
    exact (hbefore.step_iff (numbered_run done) event).mp hafter
  · intro h done
    induction done using List.reverseRecOn with
    | nil => exact fun _ _ => linked_initial
    | append_singleton done event ih =>
      intro rest he
      rw [List.append_assoc, List.singleton_append] at he
      rw [run_concat]
      exact ((ih (event :: rest) he).step_iff (numbered_run done) event).mpr (h done event rest he)

def askedTwice : List (Surroundings × Event) :=
  [({}, .downloadFile (key "file:m") picture), ({}, .downloadFile (key "file:m") picture),
    ({}, .answered (key "/a")), ({}, .answered (key "/b"))]
where
  picture : QUrl := { scheme := key "https", host := key "h", path := key "/p.png", encoded := key "https://h/p.png" }

theorem not_linked_askedTwice : ¬Linked (run askedTwice) := by
  intro h
  obtain ⟨pending, hp, hm⟩ : ∃ pending, (run askedTwice).requests.find? 0 = some pending ∧
      pending.messageId = key "file:m" := ⟨_, by rfl, by rfl⟩
  have hfirst := (h.inverse (key "file:m") 0).mpr ⟨pending, hp, hm⟩
  have hsecond : (run askedTwice).messages.find? (key "file:m") = some 1 := by decide
  exact absurd (hfirst.symm.trans hsecond) (by decide)

end MediaRepository

end ChatDesktop.Media
