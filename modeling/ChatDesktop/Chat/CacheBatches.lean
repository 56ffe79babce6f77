import ChatDesktop.Chat.CacheSlots
import ChatDesktop.Storage.Batches

namespace ChatDesktop.Chat

open Library Library.Program Library.Simulation Storage

namespace MessageCache

variable (P : Platform)

def save (objects logicalName secret : QString) : StateM Cache Bool :=
  let file := FileNameHelper.hexName P logicalName secret
  guarded file false do
    let s ← openStore P file
    use file s (Storage.MessageCache.save P.crypto (P.toUtf8 objects))

def read (logicalName secret : QString) : StateM Cache (Option (List QString)) := fun c =>
  let file := FileNameHelper.hexName P logicalName secret
  guarded file none (do
    let c ← Prog.get
    match c.files file with
    | none => pure (some [])
    | some _ =>
      let s ← openStore P file
      let records ← use file s (Prog.read (Storage.MessageCache.read P.crypto))
      pure (records.map (fun batches => batches.map P.fromUtf8))) c

end MessageCache

inductive BatchCall
  | save (cache : CacheKey) (objects : QString)
  | read (cache : CacheKey)
  | snapshots (call : CacheCall)

inductive BatchAnswer
  | saved (ok : Bool)
  | batches (found : Option (List QString))
  | snapshots (answer : CacheAnswer)

namespace BatchCall

def cache? : BatchCall → Option CacheKey
  | save k _ | read k => some k
  | snapshots call => call.cache?

def batch? : BatchCall → Option QString
  | save _ objects => some objects
  | _ => none

def run (P : Platform) : BatchCall → StateM Cache BatchAnswer
  | save k objects => .saved <$> MessageCache.save P objects k.logicalName k.secret
  | read k => .batches <$> MessageCache.read P k.logicalName k.secret
  | snapshots call => .snapshots <$> call.run P

/-- The batches saved since the cache `k` was cleared last, unless snapshots have been saved as well. -/
def logged (k : CacheKey) (log : Option (List QString)) : BatchCall → Option (List QString)
  | save k' objects => if k' = k then log.map (fun batches => batches ++ [objects]) else log
  | read _ => log
  | snapshots (.savePage k' _ page) => if k' = k ∧ ¬page < 1 then none else log
  | snapshots (.savePending k' _) => if k' = k then none else log
  | snapshots (.clear k') => if k' = k then some [] else log
  | snapshots _ => log

end BatchCall

def savedSinceClear (k : CacheKey) (calls : List BatchCall) : Option (List QString) :=
  calls.foldl (BatchCall.logged k) (some [])

/-- The block that would be allocated next in the store of `k` has a higher number than all of its batches. -/
def NextIsLast (P : Platform) (k : CacheKey) (c : Cache) : Prop :=
  ∀ s c', MessageCache.openStore P (k.file P) c = (.ok s, c') →
    ∀ id ∈ LocalStorage.ids s Storage.MessageCache.kMessageTag, id < (LocalStorage.alloc s).1

lemma nextIsLast_iff {P : Platform} {k : CacheKey} {c : Cache} : NextIsLast P k c ↔
    ∀ s ∈ (MessageCache.openStore P (k.file P) c).1.toOption,
      ∀ id ∈ LocalStorage.ids s Storage.MessageCache.kMessageTag, id < (LocalStorage.alloc s).1 := by
  rw [NextIsLast]
  rcases MessageCache.openStore P (k.file P) c with ⟨e | s, c'⟩
  · constructor
    · rintro - s' hs'
      cases hs'
    · rintro - s' c'' he
      cases he
  · constructor
    · rintro h s' hs'
      exact h s' c' (congrArg (·, c') (congrArg Except.ok (Option.some.inj hs')))
    · rintro h s' c'' he
      exact h s' (congrArg some (Except.ok.inj (Prod.mk.inj he).1))

instance (P : Platform) (k : CacheKey) (c : Cache) : Decidable (NextIsLast P k c) :=
  decidable_of_iff _ nextIsLast_iff.symm

/-- Each batch that has been saved in `k` since it was cleared got the highest number. -/
def SavedInOrder (P : Platform) (k : CacheKey) (calls : List BatchCall) (c : Cache) : Prop :=
  ∀ before objects later, calls = before ++ .save k objects :: later → .snapshots (.clear k) ∉ later →
    NextIsLast P k (final (BatchCall.run P) before c)

/-! ### The file of the cache -/

section

variable {P : Platform} {path : Bytes} {k : CacheKey} {c c' : Cache} {a : Store} {log : Option (List QString)}
  {order : Prop} {objects : QString}

/-- The file holds the messages of the store `a`. -/
structure HoldsStore (P : Platform) (path : Bytes) (a : Store) (c : Cache) : Prop where
  holds : HoldsBy P (Keeping P (· = a)) path c
  names : RootNames a
  messages : a.OnlyMessages

lemma RootNames.ofFile (h : RootNames a) : OfFile P (Keeping P (· = a)) := keeping_ofFile (fun _ hb => hb ▸ h)

lemma HoldsStore.ofFile (h : HoldsStore P path a c) : OfFile P (Keeping P (· = a)) := h.names.ofFile

lemma HoldsStore.elsewhere {q : Bytes} (h : HoldsStore P path a c) (he : Elsewhere q c c') (hq : path ≠ q) :
    HoldsStore P path a c' := ⟨h.holds.elsewhere h.ofFile he hq, h.names, h.messages⟩

lemma HoldsStore.initial (draws : ℕ) : HoldsStore P path .empty { draws := draws } :=
  ⟨.newFile List.nodup_nil rfl (fun _ hs => absurd hs List.not_mem_nil) rfl, shows_empty.2.2, .empty⟩

lemma HoldsStore.guarded {α : Type} (h : HoldsStore P path a c) {p : Action α} (fallback : α) {R : α → Store → Prop}
    (hp : ∀ s c₁ cont, MessageCache.openStore P path c = (.ok s, c₁) →
      Related P.crypto P.appSecretKey (c₁.world path s) a cont →
      (∃ r b w' cont', p (c₁.world path s) = (.ok r, w') ∧ R r b ∧ RootNames b ∧ b.OnlyMessages ∧
        Related P.crypto P.appSecretKey w' b cont') ∨
        ∃ e w', p (c₁.world path s) = (.error e, w') ∧ IsIoFailure e) :
    Failed (MessageCache.guarded path fallback
        (MessageCache.openStore P path >>= fun s => MessageCache.use path s p) c).2 ∨
      ∃ r b c', MessageCache.guarded path fallback
        (MessageCache.openStore P path >>= fun s => MessageCache.use path s p) c = (r, c') ∧
        R r b ∧ HoldsStore P path b c' := by
  have hcases : ∀ s c₁, MessageCache.openStore P path c = (.ok s, c₁) → Keeping P (· = a) (c₁.world path s) →
      (∃ r b w', p (c₁.world path s) = (.ok r, w') ∧ (R r b ∧ RootNames b ∧ b.OnlyMessages) ∧ Keeping P (· = b) w') ∨
        ∃ e w', p (c₁.world path s) = (.error e, w') ∧ IsIoFailure e := by
    rintro s c₁ ho ⟨a', cont, hr, rfl⟩
    refine (hp s c₁ cont ho hr).imp_left ?_
    rintro ⟨r, b, w', cont', hw', hR, hnames, hmessages, hr'⟩
    exact ⟨r, b, w', hw', ⟨hR, hnames, hmessages⟩, b, cont', hr', rfl⟩
  obtain ⟨r, b, c', hc', -, -, ⟨hR, hnames, hmessages⟩, hh⟩ | ⟨e, c', hc', he⟩ :=
    h.holds.useCases h.ofFile (fun _ b hb => RootNames.ofFile hb.2.1) hcases
  · exact Or.inr ⟨r, b, c', guarded_ok fallback hc', hR, hh, hnames, hmessages⟩
  · rw [guarded_error fallback hc']
    exact Or.inl ⟨_, List.mem_cons_self, he⟩

lemma HoldsStore.save (h : HoldsStore P (k.file P) a c) (objects : QString) :
    Failed (MessageCache.save P objects k.logicalName k.secret c).2 ∨
      ∃ id c', MessageCache.save P objects k.logicalName k.secret c = (true, c') ∧ a.record id = none ∧
        (NextIsLast P k c ↔ ∀ i data, a.record i = some (Storage.MessageCache.kMessageTag, data) → i < id) ∧
        HoldsStore P (k.file P) (a.put id (Storage.MessageCache.kMessageTag, P.toUtf8 objects)) c' := by
  let R : Bool → Store → Prop := fun ok b => ok = true ∧ ∃ id, a.record id = none ∧
    (NextIsLast P k c ↔ ∀ i data, a.record i = some (Storage.MessageCache.kMessageTag, data) → i < id) ∧
    b = a.put id (Storage.MessageCache.kMessageTag, P.toUtf8 objects)
  refine (h.guarded false (R := R) ?_).imp_right ?_
  · intro s c₁ cont ho hr
    obtain ⟨w', cont', hw', hnew, hr'⟩ | hfail := hr.save (P.toUtf8 objects)
    · refine Or.inl ⟨true, _, w', cont', hw', ⟨rfl, _, hnew, ?_, rfl⟩, h.names, h.messages.put _ _, hr'⟩
      obtain ⟨-, hmem⟩ := hr.agrees.ids Storage.MessageCache.kMessageTag
      constructor
      · exact fun hlast i data hi => hlast s c₁ ho i ((hmem i).mpr ⟨data, hi⟩)
      · intro habove s' c' ho' i hi
        obtain ⟨hs, rfl⟩ := Prod.mk.inj (ho'.symm.trans ho)
        obtain rfl := Except.ok.inj hs
        obtain ⟨data, hd⟩ := (hmem i).mp hi
        exact habove i data hd
    · exact Or.inr hfail
  · rintro ⟨ok, b, c', hc', ⟨rfl, id, hnew, hlast, rfl⟩, hh⟩
    exact ⟨id, c', hc', hnew, hlast, hh⟩

lemma HoldsStore.saveSnapshot {root : Bytes} (h : HoldsStore P (k.file P) a c) (hroot : IsRoot root) (objects : QString) :
    Failed (MessageCache.saveSnapshot P objects k.logicalName k.secret root c).2 ∨
      ∃ b c', MessageCache.saveSnapshot P objects k.logicalName k.secret root c = (true, c') ∧
        HoldsStore P (k.file P) b c' := by
  refine (h.guarded false (R := fun ok _ => ok = true) ?_).imp_right ?_
  · intro s c₁ cont _ hr
    refine (hr.saveSnapshot (P.toUtf8 objects) root).imp_left ?_
    rintro ⟨w', b, cont', hw', hs, hr'⟩
    exact ⟨true, b, w', cont', hw', rfl, h.names.saved hs hroot, hs.onlyMessages h.messages, hr'⟩
  · rintro ⟨ok, b, c', hc', rfl, hh⟩
    exact ⟨b, c', hc', hh⟩

lemma HoldsStore.readSnapshot (h : HoldsStore P (k.file P) a c) (root : Bytes) :
    HoldsStore P (k.file P) a (MessageCache.readSnapshot P k.logicalName k.secret root c).2 := by
  have hread : ∀ w, Keeping P (· = a) w →
      Storage.MessageCache.readSnapshot P.crypto root w = .ok (a.page root) := by
    rintro w ⟨b, cont, hr, rfl⟩
    exact hr.agrees.readSnapshot hr.live root
  obtain ⟨c', hc', hh, -⟩ := h.holds.readSnapshot h.ofFile hread
  rw [hc']
  exact ⟨hh, h.names, h.messages⟩

lemma HoldsStore.clear (h : HoldsStore P (k.file P) a c) :
    Failed (MessageCache.clear P k.logicalName k.secret c).2 ∨
      ∃ c', MessageCache.clear P k.logicalName k.secret c = (true, c') ∧ HoldsStore P (k.file P) .empty c' := by
  have hclear := HoldsBy.clear (Q := (· = a)) (fun b hb => hb ▸ ⟨h.names, h.messages⟩) h.holds
  obtain ⟨c', hc', hh⟩ | ⟨e, c', hc', he, hio⟩ := hclear
  · exact Or.inr ⟨c', hc', hh, shows_empty.2.2, .empty⟩
  · rw [hc']
    exact Or.inl ⟨_, he, hio⟩

lemma HoldsStore.read (h : HoldsStore P (k.file P) a c) :
    ∃ ps c', MessageCache.read P k.logicalName k.secret c = (some (ps.map (fun e => P.fromUtf8 e.2)), c') ∧
      a.Batched ps ∧ Ascending ps ∧ HoldsStore P (k.file P) a c' := by
  cases hf : c.files (k.file P) with
  | none =>
    have hfile : (c.world (k.file P) { opt := {} }).file = [] := by simp only [Cache.world, hf, Option.getD_none]
    obtain ⟨w, hw, b, cont, hr, rfl⟩ := h.holds.missing hf _ hfile rfl
    obtain ⟨w', hw', b', cont', hr', rfl⟩ := construct_newFile P hfile rfl
    obtain rfl : w = w' := congrArg Prod.snd (hw.symm.trans hw')
    have hnone : ∀ id, b.record id = none := by
      intro id
      apply Option.not_isSome_iff_eq_none.mp
      rw [← hr.agrees.live, hr'.agrees.live]
      exact Bool.false_ne_true
    refine ⟨[], c, ?_, ⟨List.nodup_nil, fun e => iff_of_false List.not_mem_nil ?_⟩, List.Pairwise.nil, h⟩
    · apply guarded_ok
      have hf' : c.files (FileNameHelper.hexName P k.logicalName k.secret) = none := hf
      rw [get_bind_apply, hf']
      rfl
    · rw [hnone]
      exact Option.not_mem_none _
  | some bytes =>
    have hread : ∀ s c₁, MessageCache.openStore P (k.file P) c = (.ok s, c₁) → Keeping P (· = a) (c₁.world (k.file P) s) →
        (∃ r, ∃ _ : Unit, ∃ w', Prog.read (Storage.MessageCache.read P.crypto) (c₁.world (k.file P) s) = (.ok r, w') ∧
          (∃ ps, r = some (ps.map Prod.snd) ∧ a.Batched ps ∧ Ascending ps) ∧ Keeping P (· = a) w') ∨
          ∃ e w', Prog.read (Storage.MessageCache.read P.crypto) (c₁.world (k.file P) s) = (.error e, w') ∧ False := by
      rintro s c₁ - ⟨b, cont, hr, rfl⟩
      obtain ⟨ps, hps, hbatched, hasc⟩ := hr.agrees.readBatches
      refine Or.inl ⟨_, (), _, ?_, ⟨ps, rfl, hbatched, hasc⟩, b, cont, hr, rfl⟩
      rw [read_apply, hps]
    obtain ⟨r, -, c', hc', -, -, ⟨ps, rfl, hbatched, hasc⟩, hh⟩ | ⟨e, c', -, he⟩ :=
      h.holds.useCases (J := fun _ => Keeping P (· = a)) h.ofFile (fun _ _ _ => h.ofFile) hread
    · refine ⟨ps, c', ?_, hbatched, hasc, hh, h.names, h.messages⟩
      apply guarded_ok
      have hf' : c.files (FileNameHelper.hexName P k.logicalName k.secret) = some bytes := hf
      rw [get_bind_apply, hf']
      dsimp only
      rw [← bind_assoc]
      refine (bind_ok hc').trans ?_
      rw [pure_apply, Option.map_some, List.map_map]
      rfl
    · exact he.elim

end

/-! ### One call -/

/-- The file of the cache has the batches of the log, and `order` says whether their numbers ascend. -/
def Logs (P : Platform) (k : CacheKey) (log : Option (List QString)) (order : Prop) (c : Cache) : Prop :=
  ∃ a, HoldsStore P (k.file P) a c ∧ ∀ batches ∈ log, ∃ es, a.Batched es ∧ Ascending es = order ∧
    es.map (fun e => P.fromUtf8 e.2) = batches

/-- Whether the numbers ascend after a call in the state `c`. -/
def orderAfter (P : Platform) (k : CacheKey) (c : Cache) (order : Prop) : BatchCall → Prop
  | .save k' _ => if k' = k then order ∧ NextIsLast P k c else order
  | .snapshots (.clear k') => if k' = k then True else order
  | _ => order

section

variable {P : Platform} {k : CacheKey} {c c' : Cache} {log : Option (List QString)} {order : Prop}

lemma Logs.elsewhere {q : Bytes} (h : Logs P k log order c) (he : Elsewhere q c c') (hq : k.file P ≠ q) :
    Logs P k log order c' := by
  obtain ⟨a, hh, hlog⟩ := h
  exact ⟨a, hh.elsewhere he hq, hlog⟩

lemma Logs.save (h : Logs P k log order c) {objects : QString} (hutf8 : P.fromUtf8 (P.toUtf8 objects) = objects) :
    Failed (MessageCache.save P objects k.logicalName k.secret c).2 ∨
      Logs P k (log.map (fun batches => batches ++ [objects])) (order ∧ NextIsLast P k c)
        (MessageCache.save P objects k.logicalName k.secret c).2 := by
  obtain ⟨a, hh, hlog⟩ := h
  refine (hh.save objects).imp_right ?_
  rintro ⟨id, c', hc', hnew, hlast, hh'⟩
  rw [hc']
  refine ⟨_, hh', fun batches hb => ?_⟩
  obtain ⟨texts, ht, rfl⟩ := Option.map_eq_some_iff.mp hb
  obtain ⟨es, hes, rfl, rfl⟩ := hlog texts ht
  refine ⟨es ++ [(id, P.toUtf8 objects)], hes.put hnew, ?_, ?_⟩
  · rw [ascending_concat, hlast]
    apply propext
    refine and_congr_right (fun _ => ?_)
    constructor
    · exact fun habove i data hi => habove (i, data) ((hes.2 _).mpr hi)
    · exact fun habove e he => habove e.1 e.2 ((hes.2 e).mp he)
  · rw [List.map_append, List.map_singleton, hutf8]

lemma Logs.clear (h : Logs P k log order c) :
    Failed (MessageCache.clear P k.logicalName k.secret c).2 ∨
      Logs P k (some []) True (MessageCache.clear P k.logicalName k.secret c).2 := by
  obtain ⟨a, hh, -⟩ := h
  refine hh.clear.imp_right ?_
  rintro ⟨c', hc', hh'⟩
  rw [hc']
  exact ⟨_, hh', fun _ hb => ⟨[], .empty, eq_true List.Pairwise.nil, Option.some.inj hb⟩⟩

lemma Logs.read (h : Logs P k log order c) : Logs P k log order (MessageCache.read P k.logicalName k.secret c).2 := by
  obtain ⟨a, hh, hlog⟩ := h
  obtain ⟨ps, c', hc', -, -, hh'⟩ := hh.read
  rw [hc']
  exact ⟨a, hh', hlog⟩

lemma Logs.saveSnapshot {root : Bytes} (h : Logs P k log order c) (hroot : IsRoot root) (objects : QString) :
    Failed ((k.snapshots P).save root objects c).2 ∨ Logs P k none order ((k.snapshots P).save root objects c).2 := by
  obtain ⟨a, hh, -⟩ := h
  refine (hh.saveSnapshot hroot objects).imp_right ?_
  rintro ⟨b, c', hc', hh'⟩
  have hsaved : (k.snapshots P).save root objects c = (true, c') := hc'
  rw [hsaved]
  exact ⟨b, hh', nofun⟩

lemma Logs.readSnapshot (h : Logs P k log order c) (root : Bytes) :
    Logs P k log order ((k.snapshots P).read root c).2 := by
  obtain ⟨a, hh, hlog⟩ := h
  exact ⟨a, hh.readSnapshot root, hlog⟩

lemma Logs.closeAll (h : Logs P k log order c) : Logs P k log order (MessageCache.closeAll c).2 := by
  obtain ⟨a, hh, hlog⟩ := h
  exact ⟨a, ⟨hh.holds.closeAll, hh.names, hh.messages⟩, hlog⟩

lemma Logs.run_own (h : Logs P k log order c) {call : BatchCall} (hown : ∀ k' ∈ call.cache?, k' = k)
    (hutf8 : ∀ objects ∈ call.batch?, P.fromUtf8 (P.toUtf8 objects) = objects) :
    Failed (call.run P c).2 ∨ Logs P k (call.logged k log) (orderAfter P k c order call) (call.run P c).2 := by
  cases call with
  | save k' objects =>
    obtain rfl := hown k' rfl
    rw [BatchCall.logged, if_pos rfl, orderAfter, if_pos rfl]
    exact h.save (hutf8 objects rfl)
  | read k' =>
    obtain rfl := hown k' rfl
    exact Or.inr h.read
  | snapshots call =>
    cases call with
    | savePage k' objects page =>
      obtain rfl := hown k' rfl
      by_cases hp : page < 1
      · rw [BatchCall.logged, if_neg (fun hand => hand.2 hp), BatchCall.run, CacheCall.run, MessageCache.savePage, if_pos hp]
        exact Or.inr h
      · rw [BatchCall.logged, if_pos ⟨rfl, hp⟩, BatchCall.run, CacheCall.run, MessageCache.savePage, if_neg hp]
        exact h.saveSnapshot (Or.inr ⟨page, rfl⟩) objects
    | savePending k' objects =>
      obtain rfl := hown k' rfl
      rw [BatchCall.logged, if_pos rfl]
      exact h.saveSnapshot (Or.inl rfl) objects
    | readPage k' page =>
      obtain rfl := hown k' rfl
      by_cases hp : page < 1
      · rw [BatchCall.run, CacheCall.run, MessageCache.readPage, if_pos hp]
        exact Or.inr h
      · rw [BatchCall.run, CacheCall.run, MessageCache.readPage, if_neg hp]
        exact Or.inr (h.readSnapshot _)
    | readPending k' =>
      obtain rfl := hown k' rfl
      exact Or.inr (h.readSnapshot _)
    | clear k' =>
      obtain rfl := hown k' rfl
      rw [BatchCall.logged, if_pos rfl, orderAfter, if_pos rfl]
      exact h.clear
    | closeAll => exact Or.inr h.closeAll

/-! ### The other caches -/

variable (P k c) in
lemma read_snd : (MessageCache.read P k.logicalName k.secret c).2 = c ∨
    (MessageCache.read P k.logicalName k.secret c).2 =
      (MessageCache.guarded (k.file P) none (MessageCache.openStore P (k.file P) >>= fun s =>
        MessageCache.use (k.file P) s (Prog.read (Storage.MessageCache.read P.crypto))) c).2 :=
  reading_snd P (k.file P) c (Prog.read (Storage.MessageCache.read P.crypto))
    (fun records => records.map (fun batches : List Bytes => batches.map P.fromUtf8)) (some []) none none

lemma save_elsewhere (hc : Once c) (objects : QString) :
    Elsewhere (k.file P) c (MessageCache.save P objects k.logicalName k.secret c).2 :=
  guarded_elsewhere (opened_elsewhere P _ hc _)

lemma read_elsewhere (hc : Once c) : Elsewhere (k.file P) c (MessageCache.read P k.logicalName k.secret c).2 := by
  obtain he | he := read_snd P k c
  · rw [he]
    exact .refl hc
  · rw [he]
    exact guarded_elsewhere (opened_elsewhere P _ hc _)

lemma BatchCall.run_elsewhere (hc : Once c) {call : BatchCall} (hk : call.cache? = some k) :
    Elsewhere (k.file P) c (call.run P c).2 := by
  cases call with
  | save k' objects =>
    obtain rfl := Option.some.inj hk
    exact save_elsewhere hc objects
  | read k' =>
    obtain rfl := Option.some.inj hk
    exact read_elsewhere hc
  | snapshots call =>
    cases call with
    | savePage k' objects page =>
      obtain rfl := Option.some.inj hk
      by_cases hp : page < 1
      · rw [BatchCall.run, CacheCall.run, MessageCache.savePage, if_pos hp]
        exact .refl hc
      · rw [BatchCall.run, CacheCall.run, MessageCache.savePage, if_neg hp]
        exact saveSnapshot_elsewhere hc objects _
    | savePending k' objects =>
      obtain rfl := Option.some.inj hk
      exact saveSnapshot_elsewhere hc objects _
    | readPage k' page =>
      obtain rfl := Option.some.inj hk
      by_cases hp : page < 1
      · rw [BatchCall.run, CacheCall.run, MessageCache.readPage, if_pos hp]
        exact .refl hc
      · rw [BatchCall.run, CacheCall.run, MessageCache.readPage, if_neg hp]
        exact readSnapshot_elsewhere hc _
    | readPending k' =>
      obtain rfl := Option.some.inj hk
      exact readSnapshot_elsewhere hc _
    | clear k' =>
      obtain rfl := Option.some.inj hk
      exact clear_elsewhere hc
    | closeAll => cases hk

/-! ### What has been caught stays known -/

lemma CacheCall.run_caught (call : CacheCall) (c : Cache) : c.caught <:+ (call.run P c).2.caught := by
  cases call with
  | savePage k objects page =>
    by_cases hp : page < 1
    · rw [CacheCall.run, MessageCache.savePage, if_pos hp]
      exact List.suffix_rfl
    · rw [CacheCall.run, MessageCache.savePage, if_neg hp]
      exact saveSnapshot_caught P c _ _ objects _
  | savePending k objects => exact saveSnapshot_caught P c _ _ objects _
  | readPage k page =>
    by_cases hp : page < 1
    · rw [CacheCall.run, MessageCache.readPage, if_pos hp]
      exact List.suffix_rfl
    · rw [CacheCall.run, MessageCache.readPage, if_neg hp]
      exact readSnapshot_caught P c _ _ _
  | readPending k => exact readSnapshot_caught P c _ _ _
  | clear k => exact clear_caught P c _ _
  | closeAll => exact List.suffix_rfl

lemma BatchCall.run_caught (call : BatchCall) (c : Cache) : c.caught <:+ (call.run P c).2.caught := by
  cases call with
  | save k objects => exact guarded_caught (opened_caught P _ c _)
  | read k =>
    change c.caught <:+ (MessageCache.read P _ _ c).2.caught
    obtain he | he := read_snd P k c
    · rw [he]
    · rw [he]
      exact guarded_caught (opened_caught P _ c _)
  | snapshots call => exact call.run_caught c

/-! ### A run of calls -/

variable {calls : List BatchCall} {call : BatchCall}

lemma concat_eq_append_cons {α : Type} {l before later : List α} {x y : α} :
    l ++ [x] = before ++ y :: later ↔
      (later = [] ∧ l = before ∧ x = y) ∨ ∃ later', later = later' ++ [x] ∧ l = before ++ y :: later' := by
  constructor
  · intro h
    obtain rfl | ⟨later', z, rfl⟩ := List.eq_nil_or_concat later
    · obtain ⟨rfl, hxy⟩ := List.append_inj' h rfl
      exact Or.inl ⟨rfl, rfl, List.singleton_inj.mp hxy⟩
    · rw [List.concat_eq_append, ← List.cons_append, ← List.append_assoc] at h
      rw [List.concat_eq_append]
      obtain ⟨rfl, hxz⟩ := List.append_inj' h rfl
      rw [List.singleton_inj.mp hxz]
      exact Or.inr ⟨later', rfl, rfl⟩
  · rintro (⟨rfl, rfl, rfl⟩ | ⟨later', rfl, rfl⟩)
    · rfl
    · rw [List.append_assoc, List.cons_append]

lemma savedInOrder_concat_iff : SavedInOrder P k (calls ++ [call]) c ↔
    (∀ objects, call = .save k objects → NextIsLast P k (final (BatchCall.run P) calls c)) ∧
      (call ≠ .snapshots (.clear k) → SavedInOrder P k calls c) := by
  constructor
  · intro h
    constructor
    · rintro objects rfl
      exact h calls objects [] rfl List.not_mem_nil
    · rintro hclear before objects later rfl hlater
      apply h before objects (later ++ [call])
      · rw [List.append_assoc, List.cons_append]
      · rw [List.mem_append, List.mem_singleton]
        exact fun hmem => hmem.elim hlater (fun he => hclear he.symm)
  · rintro ⟨hlast, hbefore⟩ before objects later he hlater
    obtain ⟨-, rfl, rfl⟩ | ⟨later', rfl, rfl⟩ := concat_eq_append_cons.mp he
    · exact hlast objects rfl
    · rw [List.mem_append, List.mem_singleton, not_or] at hlater
      exact hbefore (fun hcall => hlater.2 hcall.symm) before objects later' rfl hlater.1

lemma savedInOrder_concat : SavedInOrder P k (calls ++ [call]) c =
    orderAfter P k (final (BatchCall.run P) calls c) (SavedInOrder P k calls c) call := by
  apply propext
  rw [savedInOrder_concat_iff]
  cases call with
  | save k' objects =>
    rw [orderAfter]
    split_ifs with hk
    · rw [hk]
      exact ⟨fun h => ⟨h.2 nofun, h.1 objects rfl⟩, fun h => ⟨fun _ _ => h.2, fun _ => h.1⟩⟩
    · refine ⟨fun h => h.2 nofun, fun h => ⟨fun _ he => ?_, fun _ => h⟩⟩
      injection he with he
      exact absurd he hk
  | read k' => exact ⟨fun h => h.2 nofun, fun h => ⟨nofun, fun _ => h⟩⟩
  | snapshots call =>
    cases call with
    | clear k' =>
      rw [orderAfter]
      split_ifs with hk
      · rw [hk]
        exact iff_of_true ⟨nofun, fun h => absurd rfl h⟩ trivial
      · refine ⟨fun h => h.2 (fun he => ?_), fun h => ⟨nofun, fun _ => h⟩⟩
        injection he with he
        injection he with he
        exact hk he
    | _ => exact ⟨fun h => h.2 nofun, fun h => ⟨nofun, fun _ => h⟩⟩

lemma logged_other {k' : CacheKey} (hk : call.cache? = some k') (hne : k' ≠ k) : call.logged k log = log := by
  cases call with
  | save => exact if_neg (Option.some.inj hk ▸ hne)
  | read => rfl
  | snapshots call =>
    cases call with
    | savePage => exact if_neg (fun h => hne (Option.some.inj hk ▸ h.1))
    | savePending => exact if_neg (Option.some.inj hk ▸ hne)
    | clear => exact if_neg (Option.some.inj hk ▸ hne)
    | _ => rfl

lemma orderAfter_other {k' : CacheKey} (hk : call.cache? = some k') (hne : k' ≠ k) :
    orderAfter P k c order call = order := by
  cases call with
  | save => exact if_neg (Option.some.inj hk ▸ hne)
  | read => rfl
  | snapshots call =>
    cases call with
    | clear => exact if_neg (Option.some.inj hk ▸ hne)
    | _ => rfl

lemma Logs.once (h : Logs P k log order c) : Once c := by
  obtain ⟨a, hh, -⟩ := h
  exact hh.holds.once

lemma Logs.step (h : Logs P k log order c) (hnames : ∀ k' ∈ call.cache?, k'.file P = k.file P → k' = k)
    (hutf8 : ∀ objects ∈ call.batch?, P.fromUtf8 (P.toUtf8 objects) = objects) :
    Failed (call.run P c).2 ∨ Logs P k (call.logged k log) (orderAfter P k c order call) (call.run P c).2 := by
  by_cases hother : ∃ k', call.cache? = some k' ∧ k' ≠ k
  · obtain ⟨k', hk, hne⟩ := hother
    rw [logged_other hk hne, orderAfter_other hk hne]
    exact Or.inr (h.elsewhere (BatchCall.run_elsewhere h.once hk) (fun he => hne (hnames k' hk he.symm)))
  · exact h.run_own (fun k' hk => not_not.mp (fun hne => hother ⟨k', hk, hne⟩)) hutf8

lemma Logs.run (hnames : ∀ call ∈ calls, ∀ k' ∈ call.cache?, k'.file P = k.file P → k' = k)
    (hutf8 : ∀ call ∈ calls, ∀ objects ∈ call.batch?, P.fromUtf8 (P.toUtf8 objects) = objects)
    (hio : ¬Failed (final (BatchCall.run P) calls c)) (h : Logs P k (some []) True c) :
    Logs P k (savedSinceClear k calls) (SavedInOrder P k calls c) (final (BatchCall.run P) calls c) := by
  induction calls using List.reverseRecOn with
  | nil =>
    have horder : SavedInOrder P k [] c = True := by
      apply eq_true
      intro before objects later he
      simp at he
    rw [horder]
    exact h
  | append_singleton calls call ih =>
    have hmem : call ∈ calls ++ [call] := List.mem_append_right _ List.mem_cons_self
    rw [final_concat] at hio ⊢
    have hlog := ih (fun x hx => hnames x (List.mem_append_left _ hx))
      (fun x hx => hutf8 x (List.mem_append_left _ hx)) (fun hf => hio (hf.suffix (call.run_caught _)))
    rw [savedInOrder_concat, savedSinceClear, List.foldl_append]
    exact (hlog.step (hnames call hmem) (hutf8 call hmem)).resolve_left hio

lemma Logs.initial (draws : ℕ) : Logs P k (some []) True { draws := draws } :=
  ⟨.empty, .initial draws, fun _ hb => ⟨[], .empty, eq_true List.Pairwise.nil, Option.some.inj hb⟩⟩

lemma Logs.read_iff {batches : List QString} (h : Logs P k (some batches) order c) :
    (order → (MessageCache.read P k.logicalName k.secret c).1 = some batches) ∧
      (batches.Nodup → (MessageCache.read P k.logicalName k.secret c).1 = some batches → order) := by
  obtain ⟨a, hh, hlogs⟩ := h
  obtain ⟨es, hes, rfl, rfl⟩ := hlogs batches rfl
  obtain ⟨ps, c', hc', hps, hasc, -⟩ := hh.read
  rw [hc']
  constructor
  · intro hin
    rw [(hes.eq_iff hps hasc).mpr hin]
  · intro hdistinct hread
    exact (hes.map_eq_iff hps hasc hdistinct).mp (Option.some.inj hread)

/-- The batches saved since a cache was cleared are read in their order if each of them was put behind the
others; when no two are the same, only then. -/
theorem read_in_order {draws : ℕ} {batches : List QString}
    (hnames : ∀ call ∈ calls, ∀ k' ∈ call.cache?, k'.file P = k.file P → k' = k)
    (hutf8 : ∀ call ∈ calls, ∀ objects ∈ call.batch?, P.fromUtf8 (P.toUtf8 objects) = objects)
    (hio : ∀ x ∈ (final (BatchCall.run P) calls { draws := draws }).caught, ¬IsIoFailure x.2)
    (hlog : savedSinceClear k calls = some batches) :
    (SavedInOrder P k calls { draws := draws } →
      (MessageCache.read P k.logicalName k.secret (final (BatchCall.run P) calls { draws := draws })).1 = some batches) ∧
    (batches.Nodup →
      (MessageCache.read P k.logicalName k.secret (final (BatchCall.run P) calls { draws := draws })).1 = some batches →
      SavedInOrder P k calls { draws := draws }) := by
  have hfailed : ¬Failed (final (BatchCall.run P) calls { draws := draws }) := fun ⟨x, hx, he⟩ => hio x hx he
  have hlogs := Logs.run hnames hutf8 hfailed (.initial draws)
  rw [hlog] at hlogs
  exact hlogs.read_iff

end

/-! ### Two batches after the cache has been cleared -/

def cleared (before : List String) : List BatchCall :=
  before.map (fun name => .save (plainCache "a") (key name)) ++ [.snapshots (.clear (plainCache "a"))]

def clearedAfter (before : List String) : List BatchCall :=
  cleared before ++ [.save (plainCache "a") (key "y")] ++ [.save (plainCache "a") (key "z")]

lemma savedSinceClear_clearedAfter (before : List String) :
    savedSinceClear (plainCache "a") (clearedAfter before) = some [key "y", key "z"] := by
  rw [savedSinceClear, clearedAfter, cleared, List.foldl_append, List.foldl_append, List.foldl_append]
  rfl

lemma savedInOrder_clearedAfter {P : Platform} {before : List String} {c : Cache} :
    SavedInOrder P (plainCache "a") (clearedAfter before) c ↔
      NextIsLast P (plainCache "a") (final (BatchCall.run P) (cleared before) c) ∧
      NextIsLast P (plainCache "a") (final (BatchCall.run P) (cleared before ++ [.save (plainCache "a") (key "y")]) c) := by
  rw [clearedAfter, savedInOrder_concat, savedInOrder_concat, cleared, savedInOrder_concat, orderAfter, if_pos rfl,
    orderAfter, if_pos rfl, orderAfter, if_pos rfl, true_and]

section

variable {before : List String}

lemma clearedAfter_names : ∀ call ∈ clearedAfter before, ∀ k ∈ call.cache?,
    k.file plainPlatform = (plainCache "a").file plainPlatform → k = plainCache "a" := by
  intro call hc k hk _
  simp only [clearedAfter, cleared, List.mem_append, List.mem_map, List.mem_singleton] at hc
  obtain ((⟨name, -, rfl⟩ | rfl) | rfl) | rfl := hc
  all_goals exact (Option.some.inj hk).symm

end

set_option maxRecDepth 100000 in
lemma clearedOne : (final (BatchCall.run plainPlatform) (clearedAfter ["x"]) { draws := 0 }).caught = [] ∧
    SavedInOrder plainPlatform (plainCache "a") (clearedAfter ["x"]) { draws := 0 } := by
  rw [savedInOrder_clearedAfter]
  decide +kernel

theorem read_in_order_sample : (MessageCache.read plainPlatform (plainCache "a").logicalName (plainCache "a").secret
    (final (BatchCall.run plainPlatform) (clearedAfter ["x"]) { draws := 0 })).1 = some [key "y", key "z"] :=
  (read_in_order clearedAfter_names (by decide) (fun x hx => absurd (clearedOne.1 ▸ hx) List.not_mem_nil)
    (savedSinceClear_clearedAfter _)).1 clearedOne.2

set_option maxRecDepth 100000 in
lemma clearedTwo : (final (BatchCall.run plainPlatform) (clearedAfter ["w", "x"]) { draws := 0 }).caught = [] ∧
    ¬SavedInOrder plainPlatform (plainCache "a") (clearedAfter ["w", "x"]) { draws := 0 } := by
  rw [savedInOrder_clearedAfter]
  decide +kernel

theorem read_out_of_order : ¬∀ (P : Platform) (k : CacheKey) (calls : List BatchCall) (draws : ℕ) (batches : List QString),
    (∀ call ∈ calls, ∀ k' ∈ call.cache?, k'.file P = k.file P → k' = k) →
    (∀ call ∈ calls, ∀ objects ∈ call.batch?, P.fromUtf8 (P.toUtf8 objects) = objects) →
    (∀ x ∈ (final (BatchCall.run P) calls { draws := draws }).caught, ¬IsIoFailure x.2) →
    savedSinceClear k calls = some batches →
    (MessageCache.read P k.logicalName k.secret (final (BatchCall.run P) calls { draws := draws })).1 = some batches := by
  intro h
  have hutf8 : ∀ call ∈ clearedAfter ["w", "x"], ∀ objects ∈ call.batch?,
      plainPlatform.fromUtf8 (plainPlatform.toUtf8 objects) = objects := by decide
  have hio : ∀ x ∈ (final (BatchCall.run plainPlatform) (clearedAfter ["w", "x"]) { draws := 0 }).caught,
      ¬IsIoFailure x.2 := fun x hx => absurd (clearedTwo.1 ▸ hx) List.not_mem_nil
  have hread := h plainPlatform (plainCache "a") _ 0 _ clearedAfter_names hutf8 hio (savedSinceClear_clearedAfter _)
  have hlogs := Logs.run clearedAfter_names hutf8 (fun ⟨x, hx, he⟩ => hio x hx he) (.initial 0)
  rw [savedSinceClear_clearedAfter] at hlogs
  exact clearedTwo.2 (hlogs.read_iff.2 (by decide) hread)

end ChatDesktop.Chat
