import ChatDesktop.Chat.Accounts

namespace ChatDesktop.Chat.Accounts

open Library Library.Reactive Storage MessageHistoryCache Receiving AppState

section

variable {P : Platform} {s : AppState} {e : Event} {es : List Event} {io : Bool} {send : Send}

/-! ### What a step does to the queue -/

def firstStage : Kind → Stage
  | .message => .handed
  | .voice | .image | .file => .uploading

def firstUses (currentJid : QString) (send : Send) : List Use :=
  match send.kind with
  | .message => [.handed currentJid send]
  | .file => []
  | .voice | .image => [.cache send.payload.senderId send.user]

lemma start_eq (s : AppState) (send : Send) : s.start send =
    { s with sending := some (send, firstStage send.kind), uses := s.uses ++ firstUses s.xmpp.currentJid send } := by
  rw [AppState.start, firstUses]
  cases send.kind with
  | message => rfl
  | voice => rfl
  | image => rfl
  | file =>
    rw [List.append_nil]
    rfl

lemma nextProcess_cases (s : AppState) :
    (∃ queue, queue <:+ s.queue ∧ s.nextProcess = { s with queue := queue }) ∨
      ∃ send queue, send :: queue <:+ s.queue ∧ s.sending = none ∧ s.xmpp.clientState = .connected ∧
        s.nextProcess = { s with queue := queue }.start send := by
  rw [nextProcess]
  by_cases hidle : (s.sending.isSome || s.queue.isEmpty) = true
  · rw [if_pos hidle]
    exact .inl ⟨s.queue, List.suffix_rfl, rfl⟩
  · rw [if_neg hidle]
    have hsuffix := List.dropWhile_suffix Send.canceled (l := s.queue)
    have hnone : s.sending = none := by
      rw [Bool.or_eq_true, not_or, Option.not_isSome_iff_eq_none] at hidle
      exact hidle.1
    cases hq : s.queue.dropWhile Send.canceled with
    | nil => exact .inl ⟨[], List.nil_suffix, rfl⟩
    | cons send queue =>
      rw [hq] at hsuffix
      dsimp only
      by_cases hconnected : s.xmpp.clientState = .connected
      · exact .inr ⟨send, queue, hsuffix, hnone, hconnected, if_pos hconnected⟩
      · exact .inl ⟨send :: queue, hsuffix, if_neg hconnected⟩

/-- What has been noted, what waits and what is being sent. -/
structure Kept (Good : Use → Prop) (W F : Send → Prop) (s : AppState) : Prop where
  uses : ∀ use ∈ s.uses, Good use
  queue : ∀ send ∈ s.queue, W send
  sending : ∀ send stage, s.sending = some (send, stage) → stage ≠ .ended → F send

variable {Good : Use → Prop} {W F : Send → Prop}

lemma Kept.noted {s' : AppState} {use : Use} (h : Kept Good W F s) (huses : s'.uses = s.uses ++ [use])
    (hqueue : s'.queue = s.queue) (hsending : s'.sending = s.sending) (hg : Good use) : Kept Good W F s' := by
  refine ⟨fun u hu => ?_, hqueue ▸ h.queue, hsending ▸ h.sending⟩
  rw [huses] at hu
  obtain hu | hu := List.mem_append.mp hu
  · exact h.uses u hu
  · obtain rfl := List.mem_singleton.mp hu
    exact hg

lemma Kept.note (h : Kept Good W F s) {use : Use} (hg : Good use) : Kept Good W F (s.note use) :=
  h.noted rfl rfl rfl hg

lemma Kept.nextProcess (h : Kept Good W F s)
    (hstart : ∀ send ∈ s.queue, s.xmpp.clientState = .connected → W send →
      F send ∧ ∀ use ∈ firstUses s.xmpp.currentJid send, Good use) : Kept Good W F s.nextProcess := by
  obtain ⟨queue, hsuffix, he⟩ | ⟨send, queue, hsuffix, -, hconnected, he⟩ := nextProcess_cases s
  · rw [he]
    exact ⟨h.uses, fun x hx => h.queue x (hsuffix.subset hx), h.sending⟩
  · have hmem : send ∈ s.queue := hsuffix.subset List.mem_cons_self
    obtain ⟨hflies, huses⟩ := hstart send hmem hconnected (h.queue send hmem)
    rw [he, start_eq]
    refine ⟨fun use hu => ?_, fun x hx => h.queue x (hsuffix.subset (List.mem_cons_of_mem _ hx)),
      fun x stage hx _ => ?_⟩
    · exact (List.mem_append.mp hu).elim (h.uses use) (huses use)
    · obtain ⟨rfl, -⟩ := Prod.mk.inj (Option.some.inj hx)
      exact hflies

lemma mem_modify {α : Type} {f : α → α} {l : List α} {i : ℕ} {a : α} (h : a ∈ l.modify i f) :
    a ∈ l ∨ ∃ b ∈ l, a = f b := by
  obtain ⟨j, hj, rfl⟩ := List.getElem_of_mem h
  rw [List.length_modify] at hj
  rw [List.getElem_modify]
  split_ifs
  · exact .inr ⟨_, List.getElem_mem hj, rfl⟩
  · exact .inl (List.getElem_mem hj)

lemma Kept.cancel (h : Kept Good W F s) (i : ℕ)
    (hcancel : ∀ send, W send → W { send with canceled := true }) : Kept Good W F (s.cancel i) := by
  refine ⟨h.uses, fun send hs => ?_, h.sending⟩
  obtain hs | ⟨x, hx, rfl⟩ := mem_modify hs
  · exact h.queue send hs
  · rw [Send.cancel]
    split_ifs
    · exact h.queue x hx
    · exact hcancel x (h.queue x hx)

/-! ### What a step does to the connection -/

lemma currentJid_updateState (m : Xmpp.XmppManager) (state : Xmpp.ConnectionState) :
    (m.updateState state).1.currentJid = m.currentJid ∧ .connectedChanged ∉ (m.updateState state).2 := by
  rw [Xmpp.XmppManager.updateState]
  split_ifs
  · exact ⟨rfl, List.not_mem_nil⟩
  · exact ⟨rfl, by simp⟩

lemma currentJid_setLastError (m : Xmpp.XmppManager) (error : QString) :
    (m.setLastError error).1.currentJid = m.currentJid ∧ .connectedChanged ∉ (m.setLastError error).2 := by
  rw [Xmpp.XmppManager.setLastError]
  split_ifs
  · exact ⟨rfl, List.not_mem_nil⟩
  · exact ⟨rfl, by simp⟩

lemma currentJid_startConnection (m : Xmpp.XmppManager) (parameters : Xmpp.ConnectionParameters) :
    (m.startConnection parameters).1.currentJid = m.currentJid ∧
      .connectedChanged ∉ (m.startConnection parameters).2 := by
  obtain ⟨hstate, hstate'⟩ := currentJid_updateState { m with uuids := m.uuids + 1 } .connecting
  obtain ⟨herror, herror'⟩ := currentJid_setLastError
    ({ m with uuids := m.uuids + 1 }.updateState .connecting).1 []
  refine ⟨herror.trans hstate, fun h => ?_⟩
  obtain h | h := List.mem_append.mp h
  · exact (List.mem_append.mp h).elim hstate' herror'
  · simp at h

lemma currentJid_fail (m : Xmpp.XmppManager) (error : String) :
    (m.fail error).1.currentJid = m.currentJid ∧ .connectedChanged ∉ (m.fail error).2 := by
  obtain ⟨herror, herror'⟩ := currentJid_setLastError m (Text.ofAscii error)
  refine ⟨herror, fun h => ?_⟩
  obtain h | h := List.mem_append.mp h
  · exact herror' h
  · simp at h

lemma currentJid_handle (m : Xmpp.XmppManager) (e : Xmpp.Event) : (∃ jid, e = .connected jid) ∨
    (m.handle e).1.currentJid = m.currentJid ∧ .connectedChanged ∉ (m.handle e).2 := by
  cases e with
  | connected jid => exact .inl ⟨jid, rfl⟩
  | stateChanged state => exact .inr (currentJid_updateState _ state)
  | connectToServer jid password host port =>
    right
    rw [Xmpp.XmppManager.handle, Xmpp.XmppManager.connectToServer]
    dsimp only
    split_ifs
    · exact currentJid_fail m _
    · exact currentJid_fail m _
    · exact ⟨rfl, by simp⟩
    · exact currentJid_startConnection m _
    · exact currentJid_fail m _
  | closeConnection =>
    right
    rw [Xmpp.XmppManager.handle, Xmpp.XmppManager.closeConnection]
    dsimp only
    split_ifs
    · exact currentJid_updateState _ _
    · exact ⟨rfl, by simp⟩
  | disconnected =>
    right
    obtain ⟨herror, herror'⟩ := currentJid_setLastError m []
    obtain ⟨hstate, hstate'⟩ := currentJid_updateState (m.setLastError []).1 .disconnected
    rw [Xmpp.XmppManager.handle, Xmpp.XmppManager.onDisconnected]
    dsimp only
    split
    · exact ⟨hstate.trans herror, fun h => (List.mem_append.mp h).elim herror' hstate'⟩
    · exact ⟨hstate.trans herror, fun h => (List.mem_append.mp h).elim herror' hstate'⟩
  | timeout =>
    right
    rw [Xmpp.XmppManager.handle, Xmpp.XmppManager.onTimeout]
    split
    · exact ⟨rfl, List.not_mem_nil⟩
    · dsimp only
      split_ifs
      · exact currentJid_startConnection _ _
      · exact ⟨rfl, List.not_mem_nil⟩

/-- A session event leaves the messages and the address alone. -/
structure Untouched (s s' : AppState) : Prop where
  currentJid : s'.xmpp.currentJid = s.xmpp.currentJid
  queue : s'.queue = s.queue
  sending : s'.sending = s.sending
  fetches : s'.fetches = s.fetches
  uses : s'.uses = s.uses

lemma Untouched.trans {s' s'' : AppState} (h : Untouched s s') (h' : Untouched s' s'') : Untouched s s'' :=
  ⟨h'.currentJid.trans h.currentJid, h'.queue.trans h.queue, h'.sending.trans h.sending, h'.fetches.trans h.fetches,
    h'.uses.trans h.uses⟩

lemma untouched_manage (s : AppState) (e : Session.Effect) : Untouched s (s.manage e) := by
  have hhandle : ∀ e, (¬∃ jid, e = .connected jid) → Untouched s { s with xmpp := (s.xmpp.handle e).1 } :=
    fun e he => ⟨((currentJid_handle s.xmpp e).resolve_left he).1, rfl, rfl, rfl, rfl⟩
  cases e with
  | connectToServer jid password host port => exact hhandle _ (by simp)
  | closeConnection => exact hhandle _ (by simp)
  | postRefresh token => exact ⟨rfl, rfl, rfl, rfl, rfl⟩
  | closeAll => exact ⟨rfl, rfl, rfl, rfl, rfl⟩
  | sessionChanged session => exact ⟨rfl, rfl, rfl, rfl, rfl⟩
  | loginSucceded => exact ⟨rfl, rfl, rfl, rfl, rfl⟩
  | emptyDereference => exact ⟨rfl, rfl, rfl, rfl, rfl⟩

lemma untouched_session (e : Session.Event) (s : AppState) : Untouched s (s.session e) := by
  have hfold : ∀ (effects : List Session.Effect) (s' : AppState), Untouched s s' →
      Untouched s (effects.foldl AppState.manage s') := by
    intro effects
    induction effects with
    | nil => exact fun s' h => h
    | cons e effects ih => exact fun s' h => ih _ (h.trans (untouched_manage s' e))
  exact hfold _ _ ⟨rfl, rfl, rfl, rfl, rfl⟩

lemma Kept.untouched {s' : AppState} (h : Kept Good W F s) (hs : Untouched s s') : Kept Good W F s' :=
  ⟨hs.uses ▸ h.uses, hs.queue ▸ h.queue, hs.sending ▸ h.sending⟩

lemma Kept.ended (h : Kept Good W F s) (send : Send) :
    Kept Good W F { s with sending := some (send, .ended) } := by
  refine ⟨h.uses, h.queue, fun x stage hx hstage => ?_⟩
  obtain ⟨-, rfl⟩ := Prod.mk.inj (Option.some.inj hx)
  exact absurd rfl hstage

lemma Kept.hand (h : Kept Good W F s) (hflies : F send) (hg : Good (.handed s.xmpp.currentJid send)) :
    Kept Good W F (s.hand send) := by
  have hk : Kept Good W F { s with sending := some (send, .handed) } := by
    refine ⟨h.uses, h.queue, fun x stage hx _ => ?_⟩
    obtain ⟨rfl, -⟩ := Prod.mk.inj (Option.some.inj hx)
    exact hflies
  exact hk.note hg

/-! ### Messages leave over the connection of their account -/

def Sends (currentJid : QString) (send : Send) : Prop :=
  conversationId (jidUser currentJid) = conversationId send.account ∧ send.payload.senderId = send.account

def OwnConnection : Use → Prop
  | .cache _ _ => True
  | .handed currentJid send => Sends currentJid send
  | .saved currentJid send => Sends currentJid send

/-- No connection of another account is established while messages wait or are being sent, and a connected client has
said as whom before a message is taken from the queue. -/
def Steady (s : AppState) : Event → Prop
  | .connection (.connected jid) =>
    (∀ send ∈ s.queue, conversationId (jidUser jid) = conversationId send.account) ∧
      ∀ send stage, s.sending = some (send, stage) → stage ≠ .ended →
        conversationId (jidUser jid) = conversationId send.account
  | .enqueue _ _ _ => s.xmpp.clientState = .connected → jidUser s.xmpp.currentJid ≠ []
  | .finished => s.xmpp.clientState = .connected → jidUser s.xmpp.currentJid ≠ []
  | _ => True

def Waits (currentJid : QString) (send : Send) : Prop :=
  send.payload.senderId = send.account ∧
    (jidUser currentJid = [] ∨ conversationId (jidUser currentJid) = conversationId send.account)

abbrev Connected (s : AppState) : Prop := Kept OwnConnection (Waits s.xmpp.currentJid) (Sends s.xmpp.currentJid) s

lemma mem_firstUses {jid : QString} {use : Use} (h : use ∈ firstUses jid send) :
    use = .handed jid send ∨
      (send.kind = .voice ∨ send.kind = .image) ∧ use = .cache send.payload.senderId send.user := by
  rw [firstUses] at h
  cases hk : send.kind with
  | message =>
    rw [hk] at h
    exact .inl (List.mem_singleton.mp h)
  | file =>
    rw [hk] at h
    cases h
  | voice =>
    rw [hk] at h
    exact .inr ⟨.inl rfl, List.mem_singleton.mp h⟩
  | image =>
    rw [hk] at h
    exact .inr ⟨.inr rfl, List.mem_singleton.mp h⟩

lemma Sends.firstUses {jid : QString} (h : Sends jid send) : ∀ use ∈ firstUses jid send, OwnConnection use := by
  intro use hu
  obtain rfl | ⟨-, rfl⟩ := mem_firstUses hu
  · exact h
  · trivial

lemma nextProcess_xmpp (s : AppState) : s.nextProcess.xmpp = s.xmpp := by
  obtain ⟨queue, -, he⟩ | ⟨send, queue, -, -, -, he⟩ := nextProcess_cases s
  · rw [he]
  · rw [he, start_eq]

lemma Connected.nextProcess (h : Connected s)
    (hjid : s.xmpp.clientState = .connected → jidUser s.xmpp.currentJid ≠ []) : Connected s.nextProcess := by
  rw [Connected, nextProcess_xmpp]
  refine Kept.nextProcess h (fun send _ hconnected hw => ?_)
  have hsends : Sends s.xmpp.currentJid send := ⟨hw.2.resolve_left (hjid hconnected), hw.1⟩
  exact ⟨hsends, hsends.firstUses⟩

lemma currentUserId_cases (io : Bool) (s : AppState) :
    jidUser s.xmpp.currentJid = [] ∨ s.currentUserId io = jidUser s.xmpp.currentJid := by
  by_cases hid : (jidUser s.xmpp.currentJid).isEmpty = true
  · exact .inl (List.isEmpty_iff.mp hid)
  · exact .inr (if_neg hid)

lemma Connected.connection (h : Connected s) (e : Xmpp.Event) (hs : Steady s (.connection e)) :
    Connected (s.connection e) := by
  rw [AppState.connection]
  obtain ⟨jid, rfl⟩ | ⟨hjid, hno⟩ := currentJid_handle s.xmpp e
  · have hk : Kept OwnConnection (Sends jid) (Sends jid) { s with xmpp := (s.xmpp.handle (.connected jid)).1 } :=
      ⟨h.uses, fun send hq => ⟨hs.1 send hq, (h.queue send hq).1⟩,
        fun send stage hsend hstage => ⟨hs.2 send stage hsend hstage, (h.sending send stage hsend hstage).2⟩⟩
    have hnext := hk.nextProcess (fun send _ _ hsends => ⟨hsends, hsends.firstUses⟩)
    have hweak : ∀ s' : AppState, s'.xmpp.currentJid = jid → Kept OwnConnection (Sends jid) (Sends jid) s' →
        Connected s' := by
      rintro s' rfl hk'
      exact ⟨hk'.uses, fun send hq => ⟨(hk'.queue send hq).2, .inr (hk'.queue send hq).1⟩, hk'.sending⟩
    split_ifs
    · exact hweak _ (congrArg Xmpp.XmppManager.currentJid (nextProcess_xmpp _)) hnext
    · exact hweak _ rfl hk
  · rw [if_neg hno]
    refine ⟨h.uses, fun send hq => ?_, fun send stage hsend hstage => ?_⟩
    · exact hjid.symm ▸ h.queue send hq
    · exact hjid.symm ▸ h.sending send stage hsend hstage

lemma Connected.enqueue (h : Connected s) (kind : Kind) (payload : PayloadDto) (io : Bool)
    (hs : Steady s (.enqueue kind payload io)) : Connected (s.enqueue kind payload io) := by
  have hw : Waits s.xmpp.currentJid
      ⟨kind, { payload with senderId := s.currentUserId io }, s.currentUserId io, s.user, false⟩ :=
    ⟨rfl, (currentUserId_cases io s).imp_right (fun he => congrArg conversationId he.symm)⟩
  have hk : Connected { s with queue := s.queue ++
      [⟨kind, { payload with senderId := s.currentUserId io }, s.currentUserId io, s.user, false⟩] } := by
    refine ⟨h.uses, fun send hq => ?_, h.sending⟩
    obtain hq | hq := List.mem_append.mp hq
    · exact h.queue send hq
    · obtain rfl := List.mem_singleton.mp hq
      exact hw
  exact hk.nextProcess hs

lemma Connected.cached {s' : AppState} {account : QString} {user : Option QString} (h : Connected s)
    (huses : s'.uses = s.uses ++ [.cache account user]) (hqueue : s'.queue = s.queue)
    (hsending : s'.sending = s.sending) (hxmpp : s'.xmpp = s.xmpp) : Connected s' := by
  have hk : Kept OwnConnection (Waits s.xmpp.currentJid) (Sends s.xmpp.currentJid) s' :=
    h.noted huses hqueue hsending trivial
  rwa [← hxmpp] at hk

lemma Connected.uploaded (h : Connected s) (success io : Bool) : Connected (s.uploaded success io) := by
  rw [AppState.uploaded]
  split
  · next send hsend =>
    have hsends : Sends s.xmpp.currentJid send := h.sending send .uploading hsend (by decide)
    split_ifs
    · exact Kept.hand (h.note trivial) hsends hsends
    · exact Kept.hand h hsends hsends
    · exact h.ended send
  · exact h

lemma Connected.sent (h : Connected s) (error : QString) (io : Bool) : Connected (s.sent P error io) := by
  rw [AppState.sent]
  split
  · next send hsend =>
    have hsends : Sends s.xmpp.currentJid send := h.sending send .handed hsend (by decide)
    have hended : Connected { s with sending := some (send, .ended) } := h.ended send
    split_ifs
    · have hsaved : Connected ({ s with sending := some (send, .ended) }.note (.saved s.xmpp.currentJid send)) :=
        hended.note hsends
      rw [AppState.saveMessage]
      split
      · exact hsaved
      · exact hsaved.cached rfl rfl rfl rfl
    · exact hended
  · exact h

lemma Connected.step (h : Connected s) (e : Event) (hs : Steady s e) : Connected (step P s e) := by
  cases e with
  | session e =>
    have hu := untouched_session e s
    have hk := h.untouched hu
    rwa [← hu.currentJid] at hk
  | connection e => exact h.connection e hs
  | fetchMessageById userId page io =>
    rw [Accounts.step, AppState.fetchMessageById]
    split_ifs
    · exact h
    · exact h.cached rfl rfl rfl rfl
    · exact ⟨h.uses, h.queue, h.sending⟩
  | responded i body =>
    rw [Accounts.step, AppState.responded]
    split
    · exact h
    · split
      · exact ⟨h.uses, h.queue, h.sending⟩
      · exact h.cached rfl rfl rfl rfl
  | enqueue kind payload io => exact h.enqueue kind payload io hs
  | cancel i => exact Kept.cancel h i (fun _ hw => hw)
  | uploaded success io => exact h.uploaded success io
  | sent error io => exact h.sent error io
  | finished =>
    rw [Accounts.step, AppState.finished]
    split
    · exact Connected.nextProcess ⟨h.uses, h.queue, fun _ _ hx => by cases hx⟩ hs
    · exact h
  | received message io =>
    rw [Accounts.step, AppState.received]
    split
    · exact h
    · exact h.cached rfl rfl rfl rfl

end

def initial (app : Session.App) (xmpp : Xmpp.XmppManager) (cache : Cache) : AppState :=
  { app := app, xmpp := xmpp, cache := cache }

/-- In every run in which no other account connects while messages wait. -/
theorem sent_over_own_connection {P : Platform} {app : Session.App} {xmpp : Xmpp.XmppManager} {cache : Cache}
    {es : List Event} (h : Each (step P) Steady (initial app xmpp cache) es) :
    ∀ use ∈ (after (step P) (initial app xmpp cache) es).uses, OwnConnection use := by
  have hstart : Connected (initial app xmpp cache) :=
    ⟨fun _ hu => absurd hu List.not_mem_nil, fun _ hq => absurd hq List.not_mem_nil, fun _ _ hx => by cases hx⟩
  exact (h.invariant hstart (fun _ e hc hs => hc.step e hs)).uses

/-! ### Caches are used for the user of the session -/

section

variable {P : Platform} {s : AppState} {e : Event} {io : Bool} {send : Send}

def OwnCache : Use → Prop
  | .cache account user => conversationId account = conversationId (user.getD [])
  | _ => True

def StillOf (s : AppState) (send : Send) : Prop :=
  conversationId (s.user.getD []) = conversationId (send.user.getD [])

/-- `q` holds, of whether the session can be read, whenever a cache is used for the current account; and what was
enqueued in a session ends in it. -/
def Settled (P : Platform) (q : Bool → Prop) (s : AppState) : Event → Prop
  | .fetchMessageById _ page io => page = 1 → q io
  | .enqueue kind _ io => kind = .voice ∨ kind = .image → q io
  | .uploaded success io => ∀ send, s.sending = some (send, .uploading) → success = true → send.kind = .file →
      q io ∧ StillOf s send
  | .sent error io => ∀ send, s.sending = some (send, .handed) → error = [] → q io ∧ StillOf s send
  | .received message io => (accepted P message).isSome = true → q io
  | _ => True

lemma Settled.imp {q r : Bool → Prop} (h : Settled P q s e) (himp : ∀ io, q io → r io) : Settled P r s e := by
  cases e with
  | fetchMessageById userId page io => exact fun hpage => himp io (h hpage)
  | enqueue kind payload io => exact fun hkind => himp io (h hkind)
  | uploaded success io =>
    exact fun send hsend hsuccess hfile => (h send hsend hsuccess hfile).imp_left (himp io)
  | sent error io => exact fun send hsend herror => (h send hsend herror).imp_left (himp io)
  | received message io => exact fun haccepted => himp io (h haccepted)
  | session e => trivial
  | connection e => trivial
  | responded i body => trivial
  | cancel i => trivial
  | finished => trivial

/-- `met` is the user of the session at the last connection, once there was one. -/
structure Watched where
  app : AppState
  met : Option (Option QString) := none

namespace Watched

def step (P : Platform) (w : Watched) (e : Event) : Watched where
  app := Accounts.step P w.app e
  met :=
    match e with
    | .connection (.connected _) => some w.app.user
    | _ => w.met

def Current (w : Watched) (io : Bool) : Prop :=
  match w.met with
  | none => io = true ∨ w.app.user = none
  | some user => conversationId (w.app.user.getD []) = conversationId (user.getD [])

/-- A connection is established as the user of the session, and no cache is used for the current account from a change
of that user to the next connection. -/
def Timely (P : Platform) (w : Watched) (e : Event) : Prop :=
  (∀ jid, e = .connection (.connected jid) → conversationId (jidUser jid) = conversationId (w.app.user.getD [])) ∧
    Settled P w.Current w.app e

def Addressed (w : Watched) : Prop :=
  match w.met with
  | none => jidUser w.app.xmpp.currentJid = []
  | some user => conversationId (jidUser w.app.xmpp.currentJid) = conversationId (user.getD [])

end Watched

def Named (s : AppState) (io : Bool) : Prop :=
  conversationId (s.currentUserId io) = conversationId (s.user.getD [])

def PathOf (send : Send) : Prop :=
  send.kind = .voice ∨ send.kind = .image →
    conversationId send.payload.senderId = conversationId (send.user.getD [])

structure Cached (s : AppState) : Prop where
  kept : Kept OwnCache PathOf (fun _ => True) s
  fetches : ∀ fetch ∈ s.fetches, fetch.page.page = 1 →
    conversationId fetch.account = conversationId (fetch.user.getD [])

lemma currentUserId_of_nil (hid : jidUser s.xmpp.currentJid = []) :
    s.currentUserId io = ((getCurrentUser io s.app.stored).map CurrentUser.userId).getD [] :=
  if_pos (List.isEmpty_iff.mpr hid)

lemma Watched.Addressed.named {w : Watched} (h : w.Addressed) (hc : w.Current io) : Named w.app io := by
  have hread : jidUser w.app.xmpp.currentJid = [] → io = true ∨ w.app.user = none → Named w.app io := by
    rintro hid (rfl | hnone)
    · rw [Named, currentUserId_of_nil hid]
      rfl
    · rw [Named, currentUserId_of_nil hid, hnone]
      cases io with
      | true => exact congrArg (fun user => conversationId (user.getD [])) hnone
      | false => rfl
  rw [Addressed] at h
  rw [Current] at hc
  cases hmet : w.met with
  | none =>
    rw [hmet] at h hc
    exact hread h hc
  | some user =>
    rw [hmet] at h hc
    by_cases hid : jidUser w.app.xmpp.currentJid = []
    · cases io with
      | true => exact hread hid (.inl rfl)
      | false =>
        rw [hid] at h
        rw [Named, currentUserId_of_nil hid]
        exact h.trans hc.symm
    · rw [Named, (currentUserId_cases io w.app).resolve_left hid]
      exact h.trans hc.symm

lemma currentJid_connection (s : AppState) (e : Xmpp.Event) :
    (s.connection e).xmpp.currentJid = (s.xmpp.handle e).1.currentJid := by
  rw [AppState.connection]
  split_ifs
  · exact congrArg Xmpp.XmppManager.currentJid (nextProcess_xmpp _)
  · rfl

lemma currentJid_step (P : Platform) (s : AppState) (e : Event) : (∃ jid, e = .connection (.connected jid)) ∨
    (step P s e).xmpp.currentJid = s.xmpp.currentJid := by
  cases e with
  | session e => exact .inr (untouched_session e s).currentJid
  | connection e =>
    rw [Accounts.step, currentJid_connection]
    exact (currentJid_handle s.xmpp e).imp (fun ⟨jid, he⟩ => ⟨jid, congrArg _ he⟩) And.left
  | fetchMessageById userId page io =>
    right
    rw [Accounts.step, AppState.fetchMessageById]
    split_ifs <;> rfl
  | responded i body =>
    right
    rw [Accounts.step, AppState.responded]
    split
    · rfl
    · dsimp only
      split <;> rfl
  | enqueue kind payload io => exact .inr (congrArg Xmpp.XmppManager.currentJid (nextProcess_xmpp _))
  | cancel i => exact .inr rfl
  | uploaded success io =>
    right
    rw [Accounts.step, AppState.uploaded]
    split
    · split_ifs <;> rfl
    · rfl
  | sent error io =>
    right
    rw [Accounts.step, AppState.sent]
    split
    · dsimp only
      split_ifs
      · rw [AppState.saveMessage]
        split <;> rfl
      · rfl
    · rfl
  | finished =>
    right
    rw [Accounts.step, AppState.finished]
    split
    · exact congrArg Xmpp.XmppManager.currentJid (nextProcess_xmpp _)
    · rfl
  | received message io =>
    right
    rw [Accounts.step, AppState.received]
    split <;> rfl

lemma Watched.Addressed.step {w : Watched} (h : w.Addressed) (he : w.Timely P e) : (w.step P e).Addressed := by
  by_cases hconnected : ∃ jid, e = .connection (.connected jid)
  · obtain ⟨jid, rfl⟩ := hconnected
    have hcurrent : (w.step P (.connection (.connected jid))).app.xmpp.currentJid = jid :=
      currentJid_connection w.app (.connected jid)
    rw [Addressed, hcurrent]
    exact he.1 jid rfl
  · have hcurrent : (w.step P e).app.xmpp.currentJid = w.app.xmpp.currentJid :=
      (currentJid_step P w.app e).resolve_left hconnected
    have hmet : (w.step P e).met = w.met := by
      rw [Watched.step]
      exact fun jid hjid => hconnected ⟨jid, hjid⟩
    rw [Addressed, hmet, hcurrent]
    exact h

lemma PathOf.firstUses {jid : QString} (h : PathOf send) : ∀ use ∈ firstUses jid send, OwnCache use := by
  intro use hu
  obtain rfl | ⟨hk, rfl⟩ := mem_firstUses hu
  · trivial
  · exact h hk

lemma nextProcess_fetches (s : AppState) : s.nextProcess.fetches = s.fetches := by
  obtain ⟨queue, -, he⟩ | ⟨send, queue, -, -, -, he⟩ := nextProcess_cases s
  · rw [he]
  · rw [he, start_eq]

lemma Cached.nextProcess (h : Cached s) : Cached s.nextProcess :=
  ⟨h.kept.nextProcess (fun _ _ _ hw => ⟨trivial, hw.firstUses⟩), (nextProcess_fetches s).symm ▸ h.fetches⟩

lemma Cached.connection (h : Cached s) (e : Xmpp.Event) : Cached (s.connection e) := by
  have hk : Cached { s with xmpp := (s.xmpp.handle e).1 } :=
    ⟨⟨h.kept.uses, h.kept.queue, h.kept.sending⟩, h.fetches⟩
  rw [AppState.connection]
  split_ifs
  · exact hk.nextProcess
  · exact hk

lemma page_of_respond {fetch : PageFetch} {body : Option QString} {response : MessageDto}
    (h : (fetch.respond P body).2 = some response) : fetch.page = 1 := by
  rw [PageFetch.respond] at h
  split at h
  · cases h
  · dsimp only at h
    split_ifs at h with hempty hpage
    exact hpage

lemma Cached.responded (h : Cached s) (i : ℕ) (body : Option QString) : Cached (s.responded P i body) := by
  rw [AppState.responded]
  cases hf : s.fetches[i]? with
  | none => exact h
  | some fetch =>
    have hfetch := h.fetches fetch (List.mem_of_getElem? hf)
    have herase : ∀ x ∈ s.fetches.eraseIdx i, x ∈ s.fetches := fun x hx => List.mem_of_mem_eraseIdx hx
    dsimp only
    cases hr : (fetch.page.respond P body).2 with
    | none => exact ⟨⟨h.kept.uses, h.kept.queue, h.kept.sending⟩, fun x hx => h.fetches x (herase x hx)⟩
    | some response =>
      exact ⟨h.kept.noted rfl rfl rfl (hfetch (page_of_respond hr)), fun x hx => h.fetches x (herase x hx)⟩

lemma Cached.fetchMessageById (h : Cached s) (userId : QString) (page : Int32) (io : Bool)
    (hs : page = 1 → Named s io) : Cached (s.fetchMessageById P userId page io) := by
  rw [AppState.fetchMessageById]
  split_ifs with hlow hpage
  · exact h
  · have hnamed := hs hpage
    refine ⟨h.kept.noted rfl rfl rfl hnamed, fun fetch hf _ => ?_⟩
    obtain hf | hf := List.mem_append.mp hf
    · exact h.fetches fetch hf ‹_›
    · obtain rfl := List.mem_singleton.mp hf
      exact hnamed
  · refine ⟨⟨h.kept.uses, h.kept.queue, h.kept.sending⟩, fun fetch hf hfirst => ?_⟩
    obtain hf | hf := List.mem_append.mp hf
    · exact h.fetches fetch hf hfirst
    · obtain rfl := List.mem_singleton.mp hf
      exact absurd hfirst hpage

lemma Cached.enqueue (h : Cached s) (kind : Kind) (payload : PayloadDto) (io : Bool)
    (hs : kind = .voice ∨ kind = .image → Named s io) : Cached (s.enqueue kind payload io) := by
  refine Cached.nextProcess ⟨⟨h.kept.uses, fun send hq => ?_, h.kept.sending⟩, h.fetches⟩
  obtain hq | hq := List.mem_append.mp hq
  · exact h.kept.queue send hq
  · obtain rfl := List.mem_singleton.mp hq
    exact hs

lemma Cached.uploaded (h : Cached s) (success io : Bool) (hs : Settled P (Named s) s (.uploaded success io)) :
    Cached (s.uploaded success io) := by
  rw [AppState.uploaded]
  split
  · next send hsend =>
    split_ifs with hsuccess hfile
    · obtain ⟨hnamed, hstill⟩ := hs send hsend hsuccess hfile
      have hk : Kept OwnCache PathOf (fun _ => True) (s.note (.cache (s.currentUserId io) send.user)) :=
        h.kept.noted rfl rfl rfl (Eq.trans hnamed hstill)
      exact ⟨hk.hand trivial trivial, h.fetches⟩
    · exact ⟨h.kept.hand trivial trivial, h.fetches⟩
    · exact ⟨h.kept.ended send, h.fetches⟩
  · exact h

lemma Cached.sent (h : Cached s) (error : QString) (io : Bool) (hs : Settled P (Named s) s (.sent error io)) :
    Cached (s.sent P error io) := by
  rw [AppState.sent]
  split
  · next send hsend =>
    split_ifs with herror
    · obtain ⟨hnamed, hstill⟩ := hs send hsend (List.isEmpty_iff.mp herror)
      have hsaved : Kept OwnCache PathOf (fun _ => True)
          ({ s with sending := some (send, .ended) }.note (.saved s.xmpp.currentJid send)) :=
        (h.kept.ended send).note trivial
      rw [AppState.saveMessage]
      split
      · exact ⟨hsaved, h.fetches⟩
      · exact ⟨hsaved.noted rfl rfl rfl (Eq.trans hnamed hstill), h.fetches⟩
    · exact ⟨h.kept.ended send, h.fetches⟩
  · exact h

lemma Cached.step (h : Cached s) (e : Event) (hs : Settled P (Named s) s e) : Cached (step P s e) := by
  cases e with
  | session e =>
    have hu := untouched_session e s
    exact ⟨h.kept.untouched hu, hu.fetches.symm ▸ h.fetches⟩
  | connection e => exact h.connection e
  | fetchMessageById userId page io => exact h.fetchMessageById userId page io hs
  | responded i body => exact h.responded i body
  | enqueue kind payload io => exact h.enqueue kind payload io hs
  | cancel i => exact ⟨h.kept.cancel i (fun _ hw => hw), h.fetches⟩
  | uploaded success io => exact h.uploaded success io hs
  | sent error io => exact h.sent error io hs
  | finished =>
    rw [Accounts.step, AppState.finished]
    split
    · exact Cached.nextProcess ⟨⟨h.kept.uses, h.kept.queue, fun _ _ hx => by cases hx⟩, h.fetches⟩
    · exact h
  | received message io =>
    rw [Accounts.step, AppState.received]
    split
    · exact h
    · next payload hp =>
      have hnamed : Named s io := hs (by rw [hp]; rfl)
      exact ⟨h.kept.noted rfl rfl rfl hnamed, h.fetches⟩

end

lemma Watched.app_run (P : Platform) (w : Watched) (es : List Event) :
    (after (Watched.step P) w es).app = after (Accounts.step P) w.app es := by
  induction es generalizing w with
  | nil => rfl
  | cons e es ih => exact ih (w.step P e)

/-- In every run whose connections are those of the session, and in which no cache is used between a change of its user
and the next connection. -/
theorem cached_for_own_session {P : Platform} {app : Session.App} {cache : Cache} {es : List Event}
    (h : Each (Watched.step P) (Watched.Timely P) { app := initial app {} cache } es) :
    ∀ use ∈ (after (step P) (initial app {} cache) es).uses, OwnCache use := by
  have hstart : Cached (initial app {} cache) :=
    ⟨⟨fun _ hu => absurd hu List.not_mem_nil, fun _ hq => absurd hq List.not_mem_nil, fun _ _ hx => by cases hx⟩,
      fun _ hf => absurd hf List.not_mem_nil⟩
  have haddressed : Watched.Addressed { app := initial app {} cache } := rfl
  have hstep : ∀ (w : Watched) (e : Event), w.Addressed ∧ Cached w.app → w.Timely P e →
      (w.step P e).Addressed ∧ Cached (w.step P e).app := fun w e hw he =>
    ⟨hw.1.step he, hw.2.step e (he.2.imp fun _ hc => hw.1.named hc)⟩
  have hrun := h.invariant ⟨haddressed, hstart⟩ hstep
  rw [← Watched.app_run P { app := initial app {} cache } es]
  exact hrun.2.kept.uses

/-! ### Bob logs in where Alice was -/

def aliceApp : Session.App := .start (some Session.aliceSession) true true

def aliceJid : QString := key "alice@chat"

def bobJid : QString := key "bob@chat"

def online : List Event := [.connection (.stateChanged .connected), .connection (.connected aliceJid)]

def toCarol : Event := .enqueue .message { receiverId := key "carol", messageId := key "1" } true

def bobLogsIn : List Event := [.session (.logout true),
  .session (.login (Session.sessionOf "bob" "token-b" "bob@chat") (key "b") (key "b") true)]

def handedOver : Use → Option (QString × QString)
  | .handed currentJid send => some (currentJid, send.account)
  | _ => none

theorem sent_over_own_connection_sample :
    2 ≤ (after (step plainPlatform) (initial aliceApp {} {}) (online ++ [toCarol, .sent [] true])).uses.length ∧
    ∀ use ∈ (after (step plainPlatform) (initial aliceApp {} {}) (online ++ [toCarol, .sent [] true])).uses,
      OwnConnection use := by
  have hsteady : Each (step plainPlatform) Steady (initial aliceApp {} {}) (online ++ [toCarol, .sent [] true]) :=
    ⟨trivial, ⟨fun _ hq => absurd hq List.not_mem_nil, fun _ _ hx => by cases hx⟩, fun _ => by decide,
      trivial, trivial⟩
  exact ⟨by decide +kernel, sent_over_own_connection hsteady⟩

/-- Alice's message waits while she is offline, and leaves when Bob connects. -/
theorem sent_over_other_connection : ¬∀ (P : Platform) (app : Session.App) (xmpp : Xmpp.XmppManager) (cache : Cache)
    (es : List Event), ∀ use ∈ (after (step P) (initial app xmpp cache) es).uses, OwnConnection use := by
  intro h
  have hhanded : ((after (step plainPlatform) (initial aliceApp {} {})
      (online ++ [.connection (.stateChanged .disconnected), .connection .disconnected, toCarol] ++ bobLogsIn ++
        [.connection (.stateChanged .connected), .connection (.connected bobJid)])).uses.filterMap handedOver) =
      [(bobJid, key "alice")] := by decide
  have hmem := hhanded.symm ▸ List.mem_singleton_self (bobJid, key "alice")
  obtain ⟨use, hu, he⟩ := List.mem_filterMap.mp hmem
  have hown := h _ _ _ _ _ use hu
  cases use with
  | cache account user => cases he
  | saved currentJid send => cases he
  | handed currentJid send =>
    obtain ⟨rfl, hsend⟩ := Prod.mk.inj (Option.some.inj he)
    have hsame := hown.1
    rw [hsend] at hsame
    exact absurd hsame (by decide)

def cachedFor : Use → Option (QString × Option QString)
  | .cache account user => some (account, user)
  | _ => none

def bothRead : List Event :=
  online ++ [.fetchMessageById (key "carol") 1 true] ++ bobLogsIn ++
    [.connection (.stateChanged .connected), .connection (.connected bobJid), .fetchMessageById (key "carol") 1 true]

theorem cached_for_own_session_sample :
    (after (step plainPlatform) (initial aliceApp {} {}) bothRead).uses.filterMap cachedFor =
        [(key "alice", some (key "alice")), (key "bob", some (key "bob"))] ∧
      ∀ use ∈ (after (step plainPlatform) (initial aliceApp {} {}) bothRead).uses, OwnCache use := by
  have htimely : Each (Watched.step plainPlatform) (Watched.Timely plainPlatform) { app := initial aliceApp {} {} }
      bothRead := by
    refine ⟨⟨nofun, trivial⟩, ⟨?_, trivial⟩, ⟨nofun, fun _ => ?_⟩, ⟨nofun, trivial⟩, ⟨nofun, trivial⟩,
      ⟨nofun, trivial⟩, ⟨?_, trivial⟩, ⟨nofun, fun _ => ?_⟩, trivial⟩
    · rintro jid ⟨⟩
      decide
    · exact rfl
    · rintro jid ⟨⟩
      decide
    · exact rfl
  exact ⟨by decide, cached_for_own_session htimely⟩

/-- Bob has logged in but is not connected: what Alice had is read for him. -/
theorem cached_for_other_session : ¬∀ (P : Platform) (app : Session.App) (cache : Cache) (es : List Event),
    ∀ use ∈ (after (step P) (initial app {} cache) es).uses, OwnCache use := by
  intro h
  have hread : (after (step plainPlatform) (initial aliceApp {} {})
      (online ++ bobLogsIn ++ [.fetchMessageById (key "carol") 1 true])).uses.filterMap cachedFor =
      [(key "alice", some (key "bob"))] := by decide
  have hmem := hread.symm ▸ List.mem_singleton_self (key "alice", some (key "bob"))
  obtain ⟨use, hu, he⟩ := List.mem_filterMap.mp hmem
  have hown := h _ _ _ _ use hu
  cases use with
  | handed currentJid send => cases he
  | saved currentJid send => cases he
  | cache account user =>
    obtain ⟨rfl, rfl⟩ := Prod.mk.inj (Option.some.inj he)
    have hsame : conversationId (key "alice") = conversationId (key "bob") := hown
    exact absurd hsame (by decide)

end ChatDesktop.Chat.Accounts
