import ChatDesktop.Chat.RowChanges

namespace ChatDesktop.Chat

open Library Library.ListModel Library.Reactive MessagingViewModel

/-! ### The conversation -/

def OfConversation (id : QString) (i : Ident) : Prop :=
  normalizedId i.senderId = id ∨ normalizedId i.recipientId = id

/-- The rows are of the displayed conversation; there are none without one. -/
def Belongs (s : MessagingViewModel) : Prop :=
  ∀ i ∈ idents s, s.displayedConversationId ≠ [] ∧ OfConversation s.displayedConversationId i

/-- A result that is not too late is of the conversation it was fetched for. -/
def Honest (s : MessagingViewModel) (e : Int × Event) : Prop :=
  match rowChange s e.2 with
  | .prepend messages | .replace messages => ∀ m ∈ messages, OfConversation s.activeConversationId (ident m)
  | _ => True

/-- What comes is of the displayed conversation too, and nothing is fetched for no conversation. -/
def InPlace (s : MessagingViewModel) (e : Int × Event) : Prop :=
  match rowChange s e.2 with
  | .append payload => s.displayedConversationId ≠ [] ∧ OfConversation s.displayedConversationId (ident payload)
  | .prepend messages =>
    ∀ m ∈ messages, s.displayedConversationId ≠ [] ∧ OfConversation s.displayedConversationId (ident m)
  | .replace messages => messages ≠ [] → s.activeConversationId ≠ []
  | .none => True

instance (id : QString) (i : Ident) : Decidable (OfConversation id i) := inferInstanceAs (Decidable (_ ∨ _))

instance (s : MessagingViewModel) (e : Int × Event) : Decidable (Honest s e) :=
  match h : rowChange s e.2 with
  | .prepend messages | .replace messages =>
    decidable_of_iff (∀ m ∈ messages, OfConversation s.activeConversationId (ident m)) (by rw [Honest, h])
  | .none | .append _ => isTrue (by rw [Honest, h]; trivial)

instance (s : MessagingViewModel) (e : Int × Event) : Decidable (InPlace s e) :=
  match h : rowChange s e.2 with
  | .append payload =>
    decidable_of_iff (s.displayedConversationId ≠ [] ∧ OfConversation s.displayedConversationId (ident payload))
      (by rw [InPlace, h])
  | .prepend messages =>
    decidable_of_iff (∀ m ∈ messages, s.displayedConversationId ≠ [] ∧
      OfConversation s.displayedConversationId (ident m)) (by rw [InPlace, h])
  | .replace messages => decidable_of_iff (messages ≠ [] → s.activeConversationId ≠ []) (by rw [InPlace, h])
  | .none => isTrue (by rw [InPlace, h]; trivial)

section

variable {D : Desktop} {s : MessagingViewModel} {e : Int × Event}

lemma Belongs.step_iff (h : Belongs s) (hhonest : Honest s e) : InPlace s e ↔ Belongs (step D s e) := by
  have hchange := changed_step D s e
  unfold InPlace
  unfold Honest at hhonest
  unfold Belongs
  cases hc : rowChange s e.2 with
  | none =>
    rw [hc] at hchange
    obtain ⟨hrows, hscreen | ⟨-, hnil⟩⟩ := hchange
    · refine iff_of_true trivial fun i hi => ?_
      rw [hscreen]
      exact h i (hrows.subset hi)
    · refine iff_of_true trivial fun i hi => ?_
      rw [hnil] at hi
      cases hi
  | append payload =>
    rw [hc] at hchange
    obtain ⟨hrows, hscreen⟩ := hchange
    rw [hrows, hscreen]
    simp only [List.mem_append, List.mem_singleton]
    constructor
    · rintro hp i (hi | rfl)
      · exact h i hi
      · exact hp
    · exact fun hall => hall _ (Or.inr rfl)
  | prepend messages =>
    rw [hc] at hchange
    obtain ⟨hrows, hscreen⟩ := hchange
    rw [hscreen]
    simp only [hrows.mem_iff, List.mem_append, List.mem_map]
    constructor
    · rintro hp i (⟨m, hm, rfl⟩ | hi)
      · exact hp m hm
      · exact h i hi
    · exact fun hall m hm => hall _ (Or.inl ⟨m, hm, rfl⟩)
  | replace messages =>
    rw [hc] at hchange hhonest
    obtain ⟨hrows, hscreen⟩ := hchange
    rw [hscreen]
    simp only [hrows.mem_iff, List.mem_map]
    constructor
    · rintro hp i ⟨m, hm, rfl⟩
      exact ⟨hp (List.ne_nil_of_mem hm), hhonest m hm⟩
    · intro hall hne
      obtain ⟨m, hm⟩ := List.exists_mem_of_ne_nil messages hne
      exact (hall _ ⟨m, hm, rfl⟩).1

end

/-- The rows are always of the displayed conversation exactly if all that comes is. -/
theorem rows_in_place (D : Desktop) {message : MessageResponse} {es : List (Int × Event)}
    (h : Each (step D) Honest (create message) es) :
    Each (step D) InPlace (create message) es ↔ Each (step D) (fun s e => Belongs (step D s e)) (create message) es := by
  have hcreate : Belongs (create message) := fun i hi => by cases hi
  exact h.iff_invariant hcreate fun _ _ hs hh => hs.step_iff hh

def sampleDesktop : Desktop := ⟨fun seconds => some (seconds / 86400), fun _ _ => [], fun a b => a = b, id⟩

def alice : QString := Text.ofAscii "alice"

def bob : QString := Text.ofAscii "bob"

def messageFrom (sender : QString) (id : String) : MessageItem :=
  { id := Text.ofAscii id, senderId := sender, body := { messageId := Text.ofAscii id, senderId := sender } }

def historyOf (sender : QString) (ids : List String) (page totalPages : Int32) : MessageResponse :=
  { messages := ids.map (messageFrom sender), page, total := 3, totalPages }

def visited : List (Int × Event) :=
  [(0, .fetchMessage alice []), (0, .fetchResult 0 (historyOf alice ["0"] 1 1)), (0, .fetchFinished 0 false),
    (0, .messageReceived (messageFrom alice "1") []), (0, .fetchMessage bob []),
    (0, .fetchResult 0 (historyOf bob ["3"] 1 2)), (0, .fetchFinished 0 false),
    (0, .messageReceived (messageFrom bob "4") []), (0, .fetchNextMessage []),
    (0, .nextResult 0 (historyOf bob ["2"] 2 2))]

def switched : List (Int × Event) :=
  [(0, .fetchMessage alice []), (0, .fetchResult 0 {}), (0, .fetchMessage bob [])]

lemma appended (D : Desktop) {s : MessagingViewModel} {e : Event} {payload : MessageItem} (now : Int)
    (h : rowChange s e = .append payload) : ident payload ∈ idents (step D s (now, e)) ∧
      (step D s (now, e)).displayedConversationId = s.displayedConversationId := by
  have hchange := changed_step D s (now, e)
  rw [h] at hchange
  exact ⟨hchange.1 ▸ List.mem_append_right _ List.mem_cons_self, hchange.2⟩

theorem rows_in_place_sample :
    Each (step sampleDesktop) (fun s e => Belongs (step sampleDesktop s e)) (create {}) visited ∧
      (idents (after (step sampleDesktop) (create {}) visited)).map Ident.id = ["2", "3", "4"].map Text.ofAscii := by
  have hhonest : Each (step sampleDesktop) Honest (create {}) visited := by decide
  exact ⟨(rows_in_place sampleDesktop hhonest).mp (by decide), by decide +kernel⟩

/-- A message of Bob's comes before his conversation is displayed. -/
theorem row_out_of_place : ¬∀ (D : Desktop) (message : MessageResponse) (es : List (Int × Event)),
    Each (step D) Honest (create message) es →
      Each (step D) (fun s e => Belongs (step D s e)) (create message) es := by
  intro h
  have hcomes : rowChange (after (step sampleDesktop) (create {}) switched) (.messageReceived (messageFrom bob "1") []) =
      .append (messageFrom bob "1") := by
    unfold rowChange
    exact if_pos (by decide)
  have hhonest : Each (step sampleDesktop) Honest (create {})
      (switched ++ [(0, .messageReceived (messageFrom bob "1") [])]) := by
    refine each_append.mpr ⟨⟨trivial, fun _ hm => (by cases hm), trivial, trivial⟩, ?_, trivial⟩
    rw [Honest, hcomes]
    trivial
  obtain ⟨hmem, hscreen⟩ := appended sampleDesktop 0 hcomes
  have hbelongs := (each_append.mp (h _ _ _ hhonest)).2.1 _ hmem
  rw [hscreen] at hbelongs
  obtain hsender | hrecipient := hbelongs.2
  · revert hsender
    decide
  · revert hrecipient
    decide

/-! ### How often -/

def keysOf (k : MessageKey) (rows : List Ident) : List QString := (rows.map k.of).filter (fun key => key ≠ [])

def NoRepeats (k : MessageKey) (s : MessagingViewModel) : Prop := (keysOf k (idents s)).Nodup

/-- What comes has ids the rows do not have, a result none twice. -/
def Fresh (k : MessageKey) (s : MessagingViewModel) (e : Int × Event) : Prop :=
  match rowChange s e.2 with
  | .append payload => k.of (ident payload) = [] ∨ k.of (ident payload) ∉ (idents s).map k.of
  | .prepend messages => (keysOf k (messages.map ident)).Nodup ∧
      (keysOf k (messages.map ident)).Disjoint (keysOf k (idents s))
  | .replace messages => (keysOf k (messages.map ident)).Nodup
  | .none => True

section

variable {D : Desktop} {k : MessageKey} {s : MessagingViewModel} {e : Int × Event}

lemma keysOf_append (rows rows' : List Ident) : keysOf k (rows ++ rows') = keysOf k rows ++ keysOf k rows' := by
  rw [keysOf, List.map_append, List.filter_append]
  rfl

lemma NoRepeats.step_iff (h : NoRepeats k s) : Fresh k s e ↔ NoRepeats k (step D s e) := by
  have hchange := changed_step D s e
  unfold Fresh
  unfold NoRepeats
  cases hc : rowChange s e.2 with
  | none =>
    rw [hc] at hchange
    exact iff_of_true trivial (h.sublist ((hchange.1.map k.of).filter _))
  | append payload =>
    rw [hc] at hchange
    rw [hchange.1, keysOf_append, List.nodup_append']
    have hmem : ∀ key, key ∈ keysOf k (idents s) ↔ key ∈ (idents s).map k.of ∧ key ≠ [] := fun key => by
      simp [keysOf, List.mem_filter]
    by_cases hempty : k.of (ident payload) = []
    · have hnil : keysOf k [ident payload] = [] := by simp [keysOf, hempty]
      rw [hnil]
      exact iff_of_true (Or.inl hempty) ⟨h, List.nodup_nil, List.disjoint_nil_right _⟩
    · have hone : keysOf k [ident payload] = [k.of (ident payload)] := by simp [keysOf, hempty]
      rw [hone, List.disjoint_singleton, hmem]
      constructor
      · exact fun hf => ⟨h, List.nodup_singleton _, fun hin => (hf.resolve_left hempty) hin.1⟩
      · exact fun hn => Or.inr fun hin => hn.2.2 ⟨hin, hempty⟩
  | prepend messages =>
    rw [hc] at hchange
    have hperm : (keysOf k (idents (step D s e))).Perm (keysOf k (messages.map ident) ++ keysOf k (idents s)) := by
      rw [← keysOf_append]
      exact (hchange.1.map k.of).filter _
    rw [hperm.nodup_iff, List.nodup_append']
    exact ⟨fun hf => ⟨hf.1, h, hf.2⟩, fun hn => ⟨hn.1, hn.2.2⟩⟩
  | replace messages =>
    rw [hc] at hchange
    exact ((hchange.1.map k.of).filter _).nodup_iff.symm

end

/-- No two rows have an id in common exactly if what comes never has one of the rows'. -/
theorem rows_fresh (D : Desktop) (k : MessageKey) (message : MessageResponse) (es : List (Int × Event)) :
    Each (step D) (Fresh k) (create message) es ↔
      Each (step D) (fun s e => NoRepeats k (step D s e)) (create message) es := by
  have hcreate : NoRepeats k (create message) := List.nodup_nil
  have hany : Each (step D) (fun _ _ => True) (create message) es := each_true
  exact hany.iff_invariant hcreate fun _ _ hs _ => hs.step_iff

def history : MessageResponse := { messages := [messageFrom alice "0"], page := 1, total := 1, totalPages := 1 }

def delivered : List (Int × Event) := [(0, .fetchMessage alice []), (0, .fetchResult 0 history),
  (0, .messageReceived (messageFrom alice "1") [])]

lemma delivered_append {es : List (Int × Event)} (h : es = delivered.take 2 ∨ es = delivered) :
    rowChange (after (step sampleDesktop) (create {}) es) (.messageReceived (messageFrom alice "1") []) =
      .append (messageFrom alice "1") := by
  unfold rowChange
  obtain rfl | rfl := h <;> exact if_pos (by decide)

/-- The message is delivered again. -/
theorem row_repeated : ¬∀ (D : Desktop) (k : MessageKey) (message : MessageResponse) (es : List (Int × Event)),
    (∀ e ∈ es, ∀ i response, e.2 = .fetchResult i response ∨ e.2 = .nextResult i response →
      (keysOf k (response.messages.map ident)).Nodup) →
    Each (step D) (fun s e => NoRepeats k (step D s e)) (create message) es := by
  intro h
  have hevents : ∀ e ∈ delivered ++ [(0, .messageReceived (messageFrom alice "1") [])], ∀ i response,
      e.2 = .fetchResult i response ∨ e.2 = .nextResult i response →
        (keysOf .id (response.messages.map ident)).Nodup := by
    intro e he i response hr
    simp only [delivered, List.cons_append, List.nil_append, List.mem_cons, List.not_mem_nil, or_false] at he
    obtain rfl | rfl | rfl | rfl := he <;> simp at hr
    obtain ⟨-, rfl⟩ := hr
    decide
  obtain ⟨hbefore, hafter, -⟩ := each_append.mp (h sampleDesktop .id {} _ hevents)
  have hfresh : Fresh .id (after (step sampleDesktop) (create {}) delivered)
      (0, .messageReceived (messageFrom alice "1") []) := (NoRepeats.step_iff hbefore.2.2.1).mpr hafter
  rw [Fresh, delivered_append (Or.inr rfl)] at hfresh
  obtain hempty | hnot := hfresh
  · revert hempty
    decide
  · apply hnot
    exact List.mem_map_of_mem (appended sampleDesktop 0 (delivered_append (Or.inl rfl))).1

/-! ### For how long -/

def noteInserted (k : MessageKey) (s s' : MessagingViewModel) (inserted : List QString) (e : Event) : List QString :=
  match e, rowChange s e with
  | .fetchMessage .., _ => []
  | _, .append payload => inserted ++ [k.of (ident payload)]
  | _, .prepend messages => messages.map (fun m => k.of (ident m)) ++ inserted
  | _, .replace _ => inserted
  | _, .none => inserted.filter (fun key => key ∈ (idents s').map k.of)

def noteStep (D : Desktop) (k : MessageKey) (s : MessagingViewModel × List QString) (e : Int × Event) :
    MessagingViewModel × List QString :=
  (step D s.1 e, noteInserted k s.1 (step D s.1 e) s.2 e.2)

/-- The rows that came since the last fetch are there. -/
def Held (k : MessageKey) (s : MessagingViewModel × List QString) : Prop :=
  ∀ key ∈ s.2, key ∈ (idents s.1).map k.of

/-- A result of the fetch has the messages that came since. -/
def UpToDate (k : MessageKey) (s : MessagingViewModel × List QString) (e : Int × Event) : Prop :=
  match rowChange s.1 e.2 with
  | .replace messages => ∀ key ∈ s.2, ∃ m ∈ messages, k.of (ident m) = key
  | _ => True

section

variable {D : Desktop} {k : MessageKey} {s : MessagingViewModel} {inserted : List QString}

lemma noteInserted_of_change {s' : MessagingViewModel} {e : Event} (h : rowChange s e ≠ .none) :
    noteInserted k s s' inserted e = match rowChange s e with
      | .append payload => inserted ++ [k.of (ident payload)]
      | .prepend messages => messages.map (fun m => k.of (ident m)) ++ inserted
      | _ => inserted := by
  cases e with
  | fetchMessage userId currentUserId => exact absurd rfl h
  | _ =>
    unfold noteInserted
    split <;> simp_all

lemma held_noteInserted_none {s' : MessagingViewModel} {e : Event} (h : rowChange s e = .none) :
    ∀ key ∈ noteInserted k s s' inserted e, key ∈ (idents s').map k.of := by
  intro key hkey
  cases e with
  | fetchMessage userId currentUserId => cases hkey
  | _ =>
    simp only [noteInserted, h, List.mem_filter, decide_eq_true_eq] at hkey
    exact hkey.2

lemma Held.step_iff {e : Int × Event} (h : Held k (s, inserted)) :
    UpToDate k (s, inserted) e ↔ Held k (noteStep D k (s, inserted) e) := by
  have hchange := changed_step D s e
  unfold UpToDate
  unfold Held at h ⊢
  unfold noteStep
  dsimp only at h ⊢
  cases hc : rowChange s e.2 with
  | none => exact iff_of_true trivial (held_noteInserted_none hc)
  | append payload =>
    rw [hc] at hchange
    rw [noteInserted_of_change (by rw [hc]; simp), hc, hchange.1]
    refine iff_of_true trivial fun key hkey => ?_
    rw [List.map_append, List.mem_append]
    obtain hkey | hkey := List.mem_append.mp hkey
    · exact Or.inl (h key hkey)
    · exact Or.inr hkey
  | prepend messages =>
    rw [hc] at hchange
    rw [noteInserted_of_change (by rw [hc]; simp), hc]
    refine iff_of_true trivial fun key hkey => ?_
    rw [(hchange.1.map k.of).mem_iff, List.map_append, List.map_map, List.mem_append]
    obtain hkey | hkey := List.mem_append.mp hkey
    · exact Or.inl hkey
    · exact Or.inr (h key hkey)
  | replace messages =>
    rw [hc] at hchange
    rw [noteInserted_of_change (by rw [hc]; simp), hc]
    refine forall₂_congr fun key _ => ?_
    simp only [(hchange.1.map k.of).mem_iff, List.map_map, List.mem_map, Function.comp_apply]

end

end ChatDesktop.Chat
