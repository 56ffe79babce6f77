import ChatDesktop.Xmpp.XmppManager

namespace ChatDesktop.Xmpp

open Library Library.Text Library.Reactive XmppManager

abbrev Told := Option ConnectionParameters

/-- The parameters of a call that passes the checks of `connectToServer`. -/
def accepted (jid password host : QString) (port : UInt16) : Option ConnectionParameters :=
  if trimmed jid = [] ∨ password = [] ∨ 0x40 ∉ trimmed jid then none
  else some ⟨trimmed jid, password, trimmed host, port⟩

def Told.note (told : Told) : Event → Told
  | .connectToServer jid password host port => (accepted jid password host port).or told
  | .closeConnection => none
  | _ => told

def step (s : XmppManager × Told) (e : Event) : XmppManager × Told := ((s.1.handle e).1, s.2.note e)

/-- Every connection the step starts is the one last told. -/
def ConnectsWhereTold (s : XmppManager × Told) (e : Event) : Prop :=
  ∀ c, .connectToServer c ∈ (s.1.handle e).2 → ∃ p uuid, s.2.note e = some p ∧ c = configurationOf p uuid

/-- No other parameters wait in a timer, nor in the pending slot of a disconnected client, when the
manager is told to connect, and none in a timer when it is told to close. -/
def Undisturbed (s : XmppManager × Told) : Event → Prop
  | .connectToServer jid password host port => ∀ p, accepted jid password host port = some p →
      (∀ q ∈ s.1.timers, q = p) ∧
        (s.1.clientState = .disconnected → ∀ q, s.1.pendingConnection = some q → q = p)
  | .closeConnection => s.1.timers = []
  | _ => True

def Current (s : XmppManager × Told) : Prop :=
  ∀ q, s.1.pendingConnection = some q ∨ q ∈ s.1.timers → s.2 = some q

section

variable {m : XmppManager} {told : Told} {jid password host : QString} {port : UInt16}
  {p q : ConnectionParameters} {c : Configuration} {e : Event}

@[simp] lemma updateState_pending (state : ConnectionState) :
    (m.updateState state).1.pendingConnection = m.pendingConnection := by
  unfold updateState
  split <;> rfl

@[simp] lemma updateState_timers (state : ConnectionState) : (m.updateState state).1.timers = m.timers := by
  unfold updateState
  split <;> rfl

@[simp] lemma updateState_client (state : ConnectionState) :
    (m.updateState state).1.clientState = m.clientState := by
  unfold updateState
  split <;> rfl

@[simp] lemma not_mem_updateState (state : ConnectionState) :
    Effect.connectToServer c ∉ (m.updateState state).2 := by
  unfold updateState
  split <;> simp

@[simp] lemma setLastError_pending (error : QString) :
    (m.setLastError error).1.pendingConnection = m.pendingConnection := by
  unfold setLastError
  split <;> rfl

@[simp] lemma setLastError_timers (error : QString) : (m.setLastError error).1.timers = m.timers := by
  unfold setLastError
  split <;> rfl

@[simp] lemma setLastError_client (error : QString) :
    (m.setLastError error).1.clientState = m.clientState := by
  unfold setLastError
  split <;> rfl

@[simp] lemma not_mem_setLastError (error : QString) : Effect.connectToServer c ∉ (m.setLastError error).2 := by
  unfold setLastError
  split <;> simp

@[simp] lemma startConnection_pending : (m.startConnection p).1.pendingConnection = m.pendingConnection := by
  simp [startConnection]

@[simp] lemma startConnection_timers : (m.startConnection p).1.timers = m.timers := by
  simp [startConnection]

@[simp] lemma startConnection_client : (m.startConnection p).1.clientState = m.clientState := by
  simp [startConnection]

@[simp] lemma mem_startConnection :
    Effect.connectToServer c ∈ (m.startConnection p).2 ↔ c = configurationOf p m.uuids := by
  simp [startConnection]

variable (m jid password host port) in
lemma connectToServer_cases :
    (accepted jid password host port = none ∧ ∃ text, m.connectToServer jid password host port = m.fail text) ∨
    ∃ p, accepted jid password host port = some p ∧
      ((m.clientState ≠ .disconnected ∧ m.connectToServer jid password host port =
          ({ m with pendingConnection := some p }, [.disconnectFromServer])) ∨
        (m.clientState = .disconnected ∧
          m.connectToServer jid password host port = m.startConnection p)) := by
  unfold connectToServer accepted
  by_cases hj : trimmed jid = []
  · exact Or.inl ⟨by simp [hj], "XMPP JID cannot be empty.", by simp only [hj, if_true]⟩
  by_cases hp : password = []
  · exact Or.inl ⟨by simp [hp], "XMPP password cannot be empty.", by simp only [hj, hp, if_true, if_false]⟩
  by_cases ha : 0x40 ∉ trimmed jid
  · exact Or.inl ⟨by simp [ha], "Invalid XMPP JID. Expected user@domain.",
      by simp only [hj, hp, ha, if_true, if_false, not_false_eq_true]⟩
  · refine Or.inr ⟨_, if_neg (by tauto), ?_⟩
    by_cases hc : m.clientState = .disconnected
    · exact Or.inr ⟨hc, by simp only [hj, hp, ha, hc, if_false, ne_eq, not_true_eq_false]⟩
    · exact Or.inl ⟨hc, by simp only [hj, hp, ha, hc, if_true, if_false, ne_eq, not_false_eq_true]⟩

@[simp] lemma fail_pending (text : String) : (m.fail text).1.pendingConnection = m.pendingConnection := by
  simp [fail]

@[simp] lemma fail_timers (text : String) : (m.fail text).1.timers = m.timers := by
  simp [fail]

@[simp] lemma not_mem_fail (text : String) : Effect.connectToServer c ∉ (m.fail text).2 := by
  simp [fail]

@[simp] lemma connectToServer_timers : (m.connectToServer jid password host port).1.timers = m.timers := by
  obtain ⟨-, text, he⟩ | ⟨p, -, ⟨-, he⟩ | ⟨-, he⟩⟩ :=
    connectToServer_cases m jid password host port <;> simp [he]

lemma Current.step {s : XmppManager × Told} (h : Current s) (hu : Undisturbed s e) : Current (step s e) := by
  obtain ⟨m, told⟩ := s
  intro q hq
  simp only [Xmpp.step] at hq ⊢
  cases e with
  | connectToServer jid password host port =>
    simp only [handle, Told.note] at hq ⊢
    obtain ⟨ha, text, he⟩ | ⟨p, ha, ⟨hc, he⟩ | ⟨hc, he⟩⟩ :=
      connectToServer_cases m jid password host port
    · rw [he, fail_pending, fail_timers] at hq
      rw [ha]
      exact h q hq
    · rw [he] at hq
      rw [ha]
      obtain hq | hq := hq
      · exact hq
      · rw [(hu p ha).1 q hq]
        rfl
    · rw [he, startConnection_pending, startConnection_timers] at hq
      rw [ha]
      obtain hq | hq := hq
      · rw [(hu p ha).2 hc q hq]
        rfl
      · rw [(hu p ha).1 q hq]
        rfl
  | closeConnection =>
    have ht : m.timers = [] := hu
    simp only [handle, closeConnection] at hq
    split_ifs at hq <;> simp [ht] at hq
  | stateChanged state =>
    simp only [handle, onStateChanged, updateState_pending, updateState_timers] at hq
    exact h q hq
  | connected jid =>
    simp only [handle, onConnected, setLastError_pending, setLastError_timers] at hq
    exact h q hq
  | disconnected =>
    simp only [handle, onDisconnected, updateState_pending, setLastError_pending, updateState_timers,
      setLastError_timers] at hq
    cases hp : m.pendingConnection with
    | none =>
      simp only [hp, updateState_pending, setLastError_pending, updateState_timers, setLastError_timers] at hq
      exact h q (hq.imp_left (fun hq => hp.trans hq))
    | some p =>
      simp only [hp, reduceCtorEq, List.mem_append, List.mem_singleton, false_or] at hq
      obtain hq | rfl := hq
      · exact h q (Or.inr hq)
      · exact h q (Or.inl hp)
  | timeout =>
    simp only [handle, onTimeout] at hq
    cases ht : m.timers with
    | nil =>
      simp only [ht] at hq
      exact h q (hq.imp_right (fun hq => ht ▸ hq))
    | cons p timers =>
      have hp : told = some p := h p (Or.inr (by simp [ht]))
      have hrest : ∀ q ∈ timers, told = some q := fun q hq => h q (Or.inr (by simp [ht, hq]))
      simp only [ht] at hq
      split_ifs at hq
      · simp only [startConnection_pending, startConnection_timers] at hq
        exact hq.elim (fun hq => h q (Or.inl hq)) (hrest q)
      · simp only [Option.some.injEq] at hq
        exact hq.elim (fun hq => hq ▸ hp) (hrest q)

lemma Current.connects {s : XmppManager × Told} (h : Current s) : ConnectsWhereTold s e := by
  obtain ⟨m, told⟩ := s
  intro c hc
  cases e with
  | connectToServer jid password host port =>
    simp only [handle, Told.note] at hc ⊢
    obtain ⟨ha, text, he⟩ | ⟨p, ha, ⟨-, he⟩ | ⟨-, he⟩⟩ :=
      connectToServer_cases m jid password host port
    · rw [he] at hc
      exact absurd hc (not_mem_fail text)
    · rw [he] at hc
      simp at hc
    · rw [he, mem_startConnection] at hc
      exact ⟨p, m.uuids, by rw [ha]; rfl, hc⟩
  | closeConnection =>
    simp only [handle, closeConnection] at hc
    split_ifs at hc <;> simp at hc
  | stateChanged state => simp [handle, onStateChanged] at hc
  | connected jid => simp [handle, onConnected] at hc
  | disconnected =>
    simp only [handle, onDisconnected] at hc
    split at hc <;> simp at hc
  | timeout =>
    simp only [handle, onTimeout] at hc
    cases ht : m.timers with
    | nil => simp [ht] at hc
    | cons p timers =>
      simp only [ht] at hc
      split_ifs at hc
      · exact ⟨p, _, h p (Or.inr (by simp [ht])), mem_startConnection.mp hc⟩
      · simp at hc

lemma configurationOf_inj {uuid uuid' : ℕ} (h : configurationOf p uuid = configurationOf q uuid') : p = q := by
  obtain ⟨jid, password, host, port⟩ := p
  obtain ⟨jid', password', host', port'⟩ := q
  simp only [configurationOf, Configuration.mk.injEq] at h
  obtain ⟨rfl, rfl, -, hh, hp⟩ := h
  congr
  · split_ifs at hh <;> simp_all
  · split_ifs at hp <;> simp_all

lemma timer_connects {s : XmppManager × Told} (hq : s.1.timers.head? = some q) (ht : s.2 ≠ some q) :
    ¬Each step ConnectsWhereTold s [.stateChanged .disconnected, .timeout] := by
  obtain ⟨m, told⟩ := s
  obtain ⟨timers, hm⟩ : ∃ timers, m.timers = q :: timers := List.head?_eq_some_iff.mp hq
  rintro ⟨-, h, -⟩
  have hmem : ∃ uuid, Effect.connectToServer (configurationOf q uuid) ∈
      ((m.onStateChanged .disconnected).1.onTimeout).2 := by
    simp only [onStateChanged, onTimeout, updateState_timers, hm, updateState_client, if_true,
      mem_startConnection]
    exact ⟨_, rfl⟩
  obtain ⟨uuid, hmem⟩ := hmem
  obtain ⟨p, uuid', hp, hc⟩ := h _ hmem
  rw [configurationOf_inj hc] at ht
  exact ht hp

lemma Current.disturbed {s : XmppManager × Told} (h : Current s) (hu : ¬Undisturbed s e) :
    ∃ rest, ¬Each Xmpp.step ConnectsWhereTold (Xmpp.step s e) rest := by
  obtain ⟨m, told⟩ := s
  cases e with
  | connectToServer jid password host port =>
    obtain ⟨ha, -⟩ | ⟨p, ha, hcases⟩ :=
      connectToServer_cases m jid password host port
    · refine absurd (fun p hp => ?_) hu
      rw [ha] at hp
      cases hp
    have htold : (Xmpp.step (m, told) (.connectToServer jid password host port)).2 = some p := by
      simp only [Xmpp.step, Told.note, ha, Option.some_or]
    have htimers : (Xmpp.step (m, told) (.connectToServer jid password host port)).1.timers = m.timers :=
      connectToServer_timers
    cases hm : m.timers with
    | cons q timers =>
      by_cases hq : q = p
      · have hall : ∀ r, m.pendingConnection = some r ∨ r ∈ m.timers → r = p := fun r hr =>
          Option.some.inj ((h r hr).symm.trans ((h q (Or.inr (by simp [hm]))).trans (congrArg some hq)))
        refine absurd (fun p' hp' => ?_) hu
        obtain rfl := Option.some.inj (ha.symm.trans hp')
        exact ⟨fun r hr => hall r (Or.inr hr), fun _ r hr => hall r (Or.inl hr)⟩
      · refine ⟨_, timer_connects (q := q) (by rw [htimers, hm]; rfl) ?_⟩
        rw [htold]
        exact fun hpq => hq (Option.some.inj hpq).symm
    | nil =>
      have hpending : m.clientState = .disconnected ∧ ∃ q, m.pendingConnection = some q ∧ q ≠ p := by
        by_contra hn
        refine hu (fun p' hp' => ?_)
        obtain rfl := Option.some.inj (ha.symm.trans hp')
        refine ⟨by simp [hm], fun hc q hq => ?_⟩
        by_contra hqp
        exact hn ⟨hc, q, hq, hqp⟩
      obtain ⟨hc, q, hq, hqp⟩ := hpending
      obtain ⟨hc', -⟩ | ⟨-, he⟩ := hcases
      · exact absurd hc hc'
      refine ⟨[.disconnected, .stateChanged .disconnected, .timeout],
        fun hh => timer_connects (q := q) ?_ ?_ hh.2⟩
      · simp [Xmpp.step, handle, he, onDisconnected, hq, hm]
      · simp only [Xmpp.step, Told.note, ha, Option.some_or]
        exact fun hpq => hqp (Option.some.inj hpq).symm
  | closeConnection =>
    obtain ⟨q, timers, hm⟩ : ∃ q timers, m.timers = q :: timers := List.exists_cons_of_ne_nil hu
    refine ⟨_, timer_connects (q := q) ?_ (by simp [Xmpp.step, Told.note])⟩
    simp only [Xmpp.step, handle, closeConnection]
    split_ifs <;> simp [hm]
  | stateChanged state => exact absurd trivial hu
  | connected jid => exact absurd trivial hu
  | disconnected => exact absurd trivial hu
  | timeout => exact absurd trivial hu

end

def initial : XmppManager × Told := ({}, none)

/-- As long as no other parameters wait at a call the manager connects where it was last told, and a
call among others can be followed by a connection to them. -/
theorem connectsWhereTold {es : List Event} (h : Each step Undisturbed initial es) :
    Each step ConnectsWhereTold initial es ∧
      ∀ e, ¬Undisturbed (after step initial es) e →
        ∃ rest, ¬Each step ConnectsWhereTold initial (es ++ e :: rest) := by
  have h0 : Current initial := by
    intro q hq
    simp [initial] at hq
  constructor
  · exact h.imp h0 (fun s e hs hu => hs.step hu) (fun s e hs _ => hs.connects)
  · intro e hu
    have hs : Current (after step initial es) := h.invariant h0 (fun s e hs hu => hs.step hu)
    obtain ⟨rest, hrest⟩ := hs.disturbed hu
    refine ⟨rest, fun hall => hrest ?_⟩
    rw [each_append, each_cons] at hall
    exact hall.2.2

def alice : Event := .connectToServer (Text.ofAscii "alice@chat") (Text.ofAscii "a") [] 0

def bob : Event := .connectToServer (Text.ofAscii "bob@chat") (Text.ofAscii "b") [] 0

def switched : List Event := [alice, .stateChanged .connecting, .stateChanged .connected, bob,
  .stateChanged .disconnected, .disconnected]

theorem connectsWhereTold_sample : Each step ConnectsWhereTold initial (switched ++ [.timeout]) := by
  have h : Each step Undisturbed initial (switched ++ [.timeout]) := by
    refine ⟨fun p _ => ⟨by simp [initial], fun _ q hq => by cases hq⟩, trivial, trivial,
      fun p _ => ⟨by simp [step, handle, onStateChanged, alice, initial], fun hc => by cases hc⟩, trivial, trivial, trivial, trivial⟩
  exact (connectsWhereTold h).1

/-- Closed before the timer fires, the manager connects to the second account. -/
theorem connects_after_close :
    ¬Each step ConnectsWhereTold initial (switched ++ [.closeConnection, .timeout]) := by
  intro h
  have hlast := (each_append.mp h).2.2.1
  obtain ⟨p, uuid, hp, -⟩ := hlast
    (configurationOf ⟨Text.ofAscii "bob@chat", Text.ofAscii "b", [], 0⟩ 1) (by decide)
  cases hp

end ChatDesktop.Xmpp
