import ChatDesktop.Chat.HistoryOrder

namespace ChatDesktop.Chat

open Library Library.Program Library.Simulation Storage MessageHistoryCache

inductive Access
  | read (page : Int32)
  | save (call : Call)

def access (P : Platform) (conv : Conversation) : Access → StateM Cache (Option MessageDto)
  | .read page => MessageHistoryCache.read P (snapshots P conv) page >>= fun response => pure (some response)
  | .save call => perform P conv call >>= fun _ => pure none

/-- Calls for two conversations, `true` marking those for the second. -/
def accessEither (P : Platform) (p q : Conversation) (a : Bool × Access) : StateM Cache (Option MessageDto) :=
  access P (if a.1 then q else p) a.2

/-- What is read for `q` is what would have been read without the calls for `p`, as long as nothing is thrown. -/
def Isolated (P : Platform) (p q : Conversation) : Prop :=
  ∀ (c : Cache) (h : History), Stands P q c h → ∀ calls : List (Bool × Access),
    (final (accessEither P p q) calls c).caught = [] →
    (final (accessEither P p q) (calls.filter Prod.fst) c).caught = [] →
    (trace (accessEither P p q) calls c).filter (fun x => x.1.1) =
      trace (accessEither P p q) (calls.filter Prod.fst) c

def fileInput (conv : Conversation) : Bytes × Bytes :=
  FileNameHelper.macInput (conversationId conv.id) (secret conv)

/-- The hash, as much of it as is used, tells apart what is hashed for the two names. -/
def HashApart (P : Platform) (p q : Conversation) : Prop :=
  (P.hmac (fileInput p).1 (fileInput p).2).take 16 = (P.hmac (fileInput q).1 (fileInput q).2).take 16 →
    fileInput p = fileInput q

section

variable {P : Platform} {p q : Conversation}

lemma fileName_congr (h : fileInput p = fileInput q) : fileName P p = fileName P q := by
  change hex ((P.hmac (fileInput p).1 (fileInput p).2).take 16) = hex ((P.hmac (fileInput q).1 (fileInput q).2).take 16)
  rw [h]

lemma HashApart.fileName_ne (hhash : HashApart P p q) (h : fileInput p ≠ fileInput q) :
    fileName P p ≠ fileName P q := fun he => h (hhash (hex_injective he))

end

/-! ### The history cache does what its snapshots do -/

section

variable {σ τ : Type} {S : Snapshots σ} {R : σ → τ → Prop} {Bad : σ → Prop} {P : Platform} {conv : Conversation}

def Snapshots.ReadKeeps (S : Snapshots σ) (R : σ → τ → Prop) (Bad : σ → Prop) : Prop :=
  ∀ root, Keeps R Bad (S.read root)

def Snapshots.SaveKeeps (S : Snapshots σ) (R : σ → τ → Prop) (Bad : σ → Prop) : Prop :=
  ∀ root objects, Keeps R Bad (S.save root objects)

lemma keeps_readSnapshot (hread : S.ReadKeeps R Bad) (page : Int32) (live : Bool) :
    Keeps R Bad (readSnapshot P S page live) := by
  have hpage : Keeps R Bad (MessageCache.readPage S page) := .ite (fun _ => .pure _) (fun _ => hread _)
  have hpending : Keeps R Bad (MessageCache.readPending S) := hread _
  rw [readSnapshot]
  split_ifs
  · exact hpending.bind (fun _ => .pure _)
  · exact hpage.bind (fun _ => .pure _)

lemma keeps_writeSnapshot (hsave : conv.blank = false → S.SaveKeeps R Bad) (r : MessageDto) (live : Bool) :
    Keeps R Bad (writeSnapshot P S conv r live) := by
  refine .ite (fun _ => .pure _) (fun hblank => ?_)
  rw [Bool.not_eq_true] at hblank
  refine .ite (fun _ => hsave hblank _ _) (fun _ => ?_)
  exact .ite (fun _ => .pure _) (fun _ => hsave hblank _ _)

lemma keeps_read (hread : S.ReadKeeps R Bad) (page : Int32) : Keeps R Bad (MessageHistoryCache.read P S page) := by
  refine .bind (keeps_readSnapshot hread _ _) (fun _ => .ite (fun _ => ?_) (fun _ => .pure _))
  exact .bind (keeps_readSnapshot hread _ _) (fun _ => .pure _)

lemma keeps_savePage (hread : S.ReadKeeps R Bad) (hsave : conv.blank = false → S.SaveKeeps R Bad) (r : MessageDto) :
    Keeps R Bad (MessageHistoryCache.savePage P S conv r) := by
  refine .bind (keeps_writeSnapshot hsave _ _) (fun _ => .ite (fun _ => ?_) (fun _ => .pure _))
  exact .bind (keeps_readSnapshot hread _ _) (fun _ => .ite (fun _ => .pure _) (fun _ => keeps_writeSnapshot hsave _ _))

lemma keeps_saveMessage (hread : S.ReadKeeps R Bad) (hsave : conv.blank = false → S.SaveKeeps R Bad)
    (m : MessageItemDto) : Keeps R Bad (MessageHistoryCache.saveMessage P S conv m) :=
  .bind (keeps_readSnapshot hread _ _) (fun _ => keeps_writeSnapshot hsave _ _)

end

lemma keeps_access {τ : Type} {R : Cache → τ → Prop} {Bad : Cache → Prop} {P : Platform} {conv : Conversation}
    (hread : (snapshots P conv).ReadKeeps R Bad) (hsave : conv.blank = false → (snapshots P conv).SaveKeeps R Bad)
    (a : Access) : Keeps R Bad (access P conv a) := by
  cases a with
  | read page => exact .bind (keeps_read hread page) (fun _ => .pure _)
  | save call =>
    refine .bind ?_ (fun _ => .pure _)
    cases call with
    | savePage r => exact keeps_savePage hread hsave r
    | saveMessage m => exact keeps_saveMessage hread hsave m

/-! ### The other conversation -/

def Thrown (c : Cache) : Prop := c.caught ≠ []

lemma Thrown.suffix {c c' : Cache} (h : Thrown c) (hs : c.caught <:+ c'.caught) : Thrown c' :=
  fun hnil => h (List.suffix_nil.mp (hnil ▸ hs))

section

variable {P : Platform} {p q : Conversation} {c : Cache} {h : History}

lemma Stands.congr (hs : Stands P p c h) (hname : fileName P p = fileName P q) : Stands P q c h := by
  obtain ⟨pages, hh, hr⟩ := hs
  exact ⟨pages, hname ▸ hh, hr⟩

lemma Stands.elsewhere {c' : Cache} (hs : Stands P q c h) (he : Elsewhere (fileName P p) c c')
    (hname : fileName P p ≠ fileName P q) : Stands P q c' h := by
  obtain ⟨pages, hh, hr⟩ := hs
  exact ⟨pages, hh.elsewhere he hname.symm, hr⟩

lemma Stands.once (hs : Stands P q c h) : Once c := by
  obtain ⟨pages, hh, -⟩ := hs
  exact hh.once

variable (P p q) in
lemma readKeeps : (snapshots P p).ReadKeeps (Stands P q) Thrown := by
  refine fun root => ⟨fun c hc => hc.suffix (readSnapshot_caught P c _ _ root), fun c h hs => Or.inr ?_⟩
  by_cases hname : fileName P p = fileName P q
  · obtain ⟨pages, hh, hr⟩ := hs.congr hname.symm
    obtain ⟨c', hc', hh', -⟩ := Holds.readSnapshot hh root
    have hread : (snapshots P p).read root c = ((pages root).map P.fromUtf8, c') := hc'
    rw [hread]
    exact Stands.congr ⟨pages, hh', hr⟩ hname
  · exact hs.elsewhere (readSnapshot_elsewhere hs.once root) hname

lemma saveKeeps (hname : fileName P p ≠ fileName P q) : (snapshots P p).SaveKeeps (Stands P q) Thrown :=
  fun root objects => ⟨fun c hc => hc.suffix (saveSnapshot_caught P c _ _ objects root),
    fun _ _ hs => Or.inr (hs.elsewhere (saveSnapshot_elsewhere hs.once objects root) hname)⟩

lemma keeps_other (h : p.blank = true ∨ fileName P p ≠ fileName P q) (a : Access) :
    Keeps (Stands P q) Thrown (access P p a) := by
  refine keeps_access (readKeeps P p q) (fun hblank => saveKeeps (h.resolve_left ?_)) a
  rw [hblank]
  decide

end

/-! ### The conversation itself -/

def Call.saves (conv : Conversation) : Call → Bool
  | .savePage response => !conv.blank && decide (1 ≤ response.page)
  | .saveMessage _ => !conv.blank

def History.access (P : Platform) (conv : Conversation) : Access → StateM History (Option MessageDto)
  | .read page => fun h => (some (if page < 1 then noMessages page else h.read P page), h)
  | .save call => fun h => (none, if call.saves conv then h.perform call else h)

section

variable {P : Platform} {conv : Conversation} {c : Cache} {h : History}

lemma read_before_first {page : Int32} (hp : page < 1) (c : Cache) :
    MessageHistoryCache.read P (snapshots P conv) page c = (noMessages page, c) := by
  have hne : page ≠ 1 := by
    rintro rfl
    exact absurd hp (by decide)
  have hread : readSnapshot P (snapshots P conv) page false c = (noMessages page, c) := by
    have hnone : MessageCache.readPage (snapshots P conv) page c = (none, c) := by
      rw [MessageCache.readPage, if_pos hp]
      rfl
    rw [readSnapshot, if_neg (by decide), bind_eq hnone]
    rfl
  rw [MessageHistoryCache.read, bind_eq hread, if_neg hne]
  rfl

lemma Stands.read_any (hs : Stands P conv c h) (page : Int32) :
    ∃ c', MessageHistoryCache.read P (snapshots P conv) page c = (if page < 1 then noMessages page else h.read P page, c') ∧
      Stands P conv c' h := by
  by_cases hp : page < 1
  · rw [if_pos hp]
    exact ⟨c, read_before_first hp c, hs⟩
  · rw [if_neg hp]
    obtain ⟨c', hc', hs', -⟩ := hs.read (Int32.not_lt.mp hp)
    exact ⟨c', hc', hs'⟩

lemma Stands.perform (hs : Stands P conv c h) (hP : P.ReadsBack) (call : Call) :
    Thrown (perform P conv call c).2 ∨
      Stands P conv (perform P conv call c).2 (if call.saves conv then h.perform call else h) := by
  cases call with
  | savePage r =>
    obtain ⟨ok, c', hc', hok, hfail⟩ := hs.savePage hP r
    have he : Chat.perform P conv (.savePage r) c = (ok, c') := hc'
    rw [he]
    cases ok with
    | true =>
      obtain ⟨⟨hblank, hpage⟩, hs'⟩ := hok rfl
      have hsaves : Call.saves conv (.savePage r) = true := by
        rw [Call.saves, hblank, decide_eq_true hpage]
        rfl
      rw [if_pos hsaves]
      exact Or.inr hs'
    | false =>
      refine (hfail rfl).imp_right ?_
      rintro ⟨hs', hwhy⟩
      have hsaves : Call.saves conv (.savePage r) = false := by
        rw [Call.saves]
        obtain hb | hp := hwhy
        · rw [hb]
          rfl
        · rw [decide_eq_false (Int32.not_le.mpr hp), Bool.and_false]
      rw [hsaves, if_neg Bool.false_ne_true]
      exact hs'
  | saveMessage m =>
    obtain ⟨ok, c', hc', hok, hfail⟩ := hs.saveMessage hP m
    have he : Chat.perform P conv (.saveMessage m) c = (ok, c') := hc'
    rw [he]
    cases ok with
    | true =>
      obtain ⟨hblank, hs'⟩ := hok rfl
      have hsaves : Call.saves conv (.saveMessage m) = true := by
        rw [Call.saves, hblank]
        rfl
      rw [if_pos hsaves]
      exact Or.inr hs'
    | false =>
      refine (hfail rfl).imp_right ?_
      rintro ⟨hs', hblank⟩
      have hsaves : Call.saves conv (.saveMessage m) = false := by
        rw [Call.saves, hblank]
        rfl
      rw [hsaves, if_neg Bool.false_ne_true]
      exact hs'

lemma follows_access (hP : P.ReadsBack) (a : Access) :
    Follows (Stands P conv) Thrown (access P conv a) (History.access P conv a) := by
  have hbad : Keeps (fun _ (_ : Unit) => True) Thrown (access P conv a) :=
    keeps_access (fun root => ⟨fun c hc => hc.suffix (readSnapshot_caught P c _ _ root), fun _ _ _ => Or.inr trivial⟩)
      (fun _ root objects => ⟨fun c hc => hc.suffix (saveSnapshot_caught P c _ _ objects root),
        fun _ _ _ => Or.inr trivial⟩) a
  refine ⟨hbad.bad, fun c h hs => ?_⟩
  cases a with
  | read page =>
    obtain ⟨c', hc', hs'⟩ := hs.read_any page
    rw [access, bind_eq hc']
    exact Or.inr ⟨rfl, hs'⟩
  | save call => exact (hs.perform hP call).imp_right (fun hs' => ⟨rfl, hs'⟩)

end

/-! ### Isolation -/

section

variable {P : Platform} {p q : Conversation}

lemma trace_own (hP : P.ReadsBack) (hname : p.blank = true ∨ fileName P p ≠ fileName P q) {c : Cache} {h : History}
    (hs : Stands P q c h) {calls : List (Bool × Access)} (hcalls : ¬Thrown (final (accessEither P p q) calls c)) :
    (trace (accessEither P p q) calls c).filter (fun x => x.1.1) =
      trace (fun a => History.access P q a.2) (calls.filter Prod.fst) h := by
  have hmine : ∀ i : Bool × Access, i.1 = true →
      Follows (Stands P q) Thrown (accessEither P p q i) (History.access P q i.2) := by
    rintro ⟨mine, a⟩ hmine
    obtain rfl : mine = true := hmine
    exact follows_access hP a
  have hother : ∀ i : Bool × Access, i.1 = false → Keeps (Stands P q) Thrown (accessEither P p q i) := by
    rintro ⟨mine, a⟩ hmine
    obtain rfl : mine = false := hmine
    exact keeps_other hname a
  exact (trace_separated hmine hother hs calls).resolve_left hcalls

lemma not_isolated (hP : P.ReadsBack) (hblank : p.blank = false) (hin : fileInput p = fileInput q)
    {m : MessageItemDto} (hm : ¬Thrown (MessageHistoryCache.saveMessage P (snapshots P p) p m {}).2) :
    ¬Isolated P p q := by
  intro hiso
  have hnew : ∀ conv, Stands P conv {} {} :=
    fun conv => Stands.initial List.nodup_nil rfl (fun _ hs => absurd hs List.not_mem_nil)
  obtain ⟨ok, c₁, hc₁, hok, hfail⟩ := (hnew p).saveMessage hP m
  rw [hc₁] at hm
  have hsaved : Stands P p c₁ (History.saveMessage m {}) := by
    cases ok with
    | true => exact (hok rfl).2
    | false =>
      obtain hbad | ⟨-, hb⟩ := hfail rfl
      · exact absurd hbad hm
      · rw [hb] at hblank
        cases hblank
  obtain ⟨c₂, hc₂, -, hcaught₂⟩ := (hsaved.congr (fileName_congr hin)).read (show (1 : Int32) ≤ 1 by decide)
  obtain ⟨c₃, hc₃, -, hcaught₃⟩ := (hnew q).read (show (1 : Int32) ≤ 1 by decide)
  have hsave : accessEither P p q (false, .save (.saveMessage m)) {} = (none, c₁) := bind_eq hc₁
  have hafter : accessEither P p q (true, .read 1) c₁ = (some ((History.saveMessage m {}).read P 1), c₂) := bind_eq hc₂
  have hbefore : accessEither P p q (true, .read 1) {} = (some (History.read P {} 1), c₃) := bind_eq hc₃
  have hsame := hiso {} {} (hnew q) [(false, .save (.saveMessage m)), (true, .read 1)]
  have hown : [(false, Access.save (.saveMessage m)), (true, .read 1)].filter Prod.fst = [(true, .read 1)] := rfl
  rw [hown] at hsame
  simp only [final, trace, hsave, hafter, hbefore] at hsame
  have hread := hsame (hcaught₂.trans (not_not.mp hm)) hcaught₃
  have hresponse : (History.saveMessage m {}).read P 1 = History.read P {} 1 :=
    Option.some.inj (congrArg Prod.snd (List.cons.inj hread).1)
  have hmessages : [m.encoded] = [] := congrArg MessageDto.messages hresponse
  cases hmessages

/-- Two conversations are isolated exactly when different bytes are hashed for their files. -/
theorem isolated_iff_hashed_apart (hP : P.ReadsBack) (hhash : HashApart P p q)
    (hsave : ∃ m, ¬Thrown (MessageHistoryCache.saveMessage P (snapshots P p) p m {}).2) :
    Isolated P p q ↔ p.blank = true ∨ fileInput p ≠ fileInput q := by
  constructor
  · intro hiso
    obtain ⟨m, hm⟩ := hsave
    by_contra hnot
    obtain ⟨hblank, hin⟩ := not_or.mp hnot
    exact not_isolated hP (Bool.not_eq_true _ ▸ hblank) (not_not.mp hin) hm hiso
  · intro hapart c h hs calls hcalls hown
    have hname := hapart.imp_right hhash.fileName_ne
    have hall := trace_own hP hname hs (not_not.mpr hown)
    rw [filter_trace, List.filter_filter] at hall
    simp only [Bool.and_self] at hall
    rw [trace_own hP hname hs (not_not.mpr hcalls), hall]

end

/-! ### Two accounts that share a file -/

def otherAccount : Conversation := ⟨key "c", key "b"⟩

def otherUser : Conversation := ⟨key "a", key "d"⟩

lemma fileInput_otherAccount : fileInput plainChat = fileInput otherAccount := by decide

set_option maxRecDepth 100000 in
lemma plainChat_saves :
    ¬Thrown (MessageHistoryCache.saveMessage plainPlatform (snapshots plainPlatform plainChat) plainChat
      (textMessage "k" "x") {}).2 := by
  have h : (MessageHistoryCache.saveMessage plainPlatform (snapshots plainPlatform plainChat) plainChat
      (textMessage "k" "x") {}).2.caught = [] := by decide +kernel
  exact not_not.mpr h

theorem isolated_iff_hashed_apart_sample : Isolated plainPlatform plainChat otherUser :=
  (isolated_iff_hashed_apart plainPlatform_readsBack (fun he => absurd he (by decide)) ⟨_, plainChat_saves⟩).mpr
    (Or.inr (by decide))

/-- Half of the key leaves the account out when its name is short. -/
theorem shared_by_accounts : ¬∀ (P : Platform) (p q : Conversation), P.ReadsBack → HashApart P p q → p.key ≠ q.key →
    Isolated P p q := by
  intro h
  exact not_isolated plainPlatform_readsBack (by decide) fileInput_otherAccount plainChat_saves
    (h _ _ _ plainPlatform_readsBack (fun _ => fileInput_otherAccount) (by decide))

end ChatDesktop.Chat
