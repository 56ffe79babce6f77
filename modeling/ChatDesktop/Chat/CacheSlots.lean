import ChatDesktop.Chat.HistoryOrder

namespace ChatDesktop.Chat

open Library Library.Program Library.Simulation Storage

structure CacheKey where
  logicalName : QString
  secret : QString
  deriving DecidableEq

namespace CacheKey

variable (P : Platform) (k : CacheKey)

def file : Bytes := FileNameHelper.hexName P k.logicalName k.secret

def snapshots : Snapshots Cache where
  read := MessageCache.readSnapshot P k.logicalName k.secret
  save root objects := MessageCache.saveSnapshot P objects k.logicalName k.secret root

end CacheKey

inductive CacheCall
  | savePage (cache : CacheKey) (objects : QString) (page : Int32)
  | savePending (cache : CacheKey) (objects : QString)
  | readPage (cache : CacheKey) (page : Int32)
  | readPending (cache : CacheKey)
  | clear (cache : CacheKey)
  | closeAll

inductive CacheAnswer
  | done (ok : Bool)
  | found (objects : Option QString)
  | closed
  deriving DecidableEq

inductive Slot
  | page (number : Int32)
  | pending
  deriving DecidableEq

abbrev Slots := CacheKey → Slot → Option QString

namespace Slots

def read (k : CacheKey) (slot : Slot) : StateM Slots (Option QString) := fun v => (v k slot, v)

def save (k : CacheKey) (slot : Slot) (objects : QString) : StateM Slots Bool := fun v =>
  (true, Function.update v k (Function.update (v k) slot (some objects)))

def clear (k : CacheKey) : StateM Slots Bool := fun v => (true, Function.update v k (fun _ => none))

end Slots

namespace CacheCall

def cache? : CacheCall → Option CacheKey
  | savePage k _ _ | savePending k _ | readPage k _ | readPending k | clear k => some k
  | closeAll => none

def objects? : CacheCall → Option QString
  | savePage _ objects _ | savePending _ objects => some objects
  | _ => none

def run (P : Platform) : CacheCall → StateM Cache CacheAnswer
  | savePage k objects page => .done <$> MessageCache.savePage (k.snapshots P) objects page
  | savePending k objects => .done <$> MessageCache.savePending (k.snapshots P) objects
  | readPage k page => .found <$> MessageCache.readPage (k.snapshots P) page
  | readPending k => .found <$> MessageCache.readPending (k.snapshots P)
  | clear k => .done <$> MessageCache.clear P k.logicalName k.secret
  | closeAll => (fun _ => .closed) <$> MessageCache.closeAll

def specified : CacheCall → StateM Slots CacheAnswer
  | savePage k objects page => .done <$> if page < 1 then pure false else Slots.save k (.page page) objects
  | savePending k objects => .done <$> Slots.save k .pending objects
  | readPage k page => .found <$> if page < 1 then pure none else Slots.read k (.page page)
  | readPending k => .found <$> Slots.read k .pending
  | clear k => .done <$> Slots.clear k
  | closeAll => pure .closed

end CacheCall

/-! ### Slots and roots -/

namespace Slot

def root : Slot → Bytes
  | page number => MessageCache.pageRoot number
  | pending => MessageCache.pendingRoot

def Exists : Slot → Prop
  | page number => 1 ≤ number
  | pending => True

lemma isRoot (slot : Slot) : IsRoot slot.root := by
  cases slot with
  | page number => exact Or.inr ⟨number, rfl⟩
  | pending => exact Or.inl rfl

lemma root_injective {s t : Slot} (hs : s.Exists) (ht : t.Exists) (h : s.root = t.root) : s = t := by
  cases s with
  | page m =>
    cases t with
    | page n => exact congrArg page (pageRoot_injective hs ht h)
    | pending => exact absurd h (pageRoot_ne_pendingRoot m)
  | pending =>
    cases t with
    | page n => exact absurd h.symm (pageRoot_ne_pendingRoot n)
    | pending => rfl

end Slot

def Slotted (P : Platform) (pages : Bytes → Option Bytes) (v : Slot → Option QString) : Prop :=
  ∀ slot : Slot, slot.Exists → (pages slot.root).map P.fromUtf8 = v slot

section

variable {P : Platform} {pages : Bytes → Option Bytes} {v : Slot → Option QString} {slot : Slot} {objects : QString}

lemma Slotted.empty : Slotted P (fun _ => none) (fun _ => none) := fun _ _ => rfl

lemma Slotted.save (h : Slotted P pages v) (hslot : slot.Exists) (hutf8 : P.fromUtf8 (P.toUtf8 objects) = objects) :
    Slotted P (Function.update pages slot.root (some (P.toUtf8 objects)))
      (Function.update v slot (some objects)) := by
  intro other hother
  by_cases he : other = slot
  · rw [he, Function.update_self, Function.update_self, Option.map_some, hutf8]
  · rw [Function.update_of_ne (fun hroot => he (Slot.root_injective hother hslot hroot)), Function.update_of_ne he]
    exact h other hother

end

/-! ### The file of a cache -/

def MessagesAt (pages : Bytes → Option Bytes) (a : Store) : Prop := Shows pages a ∧ a.OnlyMessages

lemma MessagesAt.empty : MessagesAt (fun _ => none) .empty := ⟨shows_empty, .empty⟩

lemma messagesAt_ofFile {P : Platform} (pages : Bytes → Option Bytes) : OfFile P (Keeping P (MessagesAt pages)) :=
  keeping_ofFile (fun _ ha => ha.1.2.2)

def Serves (P : Platform) (k : CacheKey) (c : Cache) (v : Slot → Option QString) : Prop :=
  ∃ pages, HoldsBy P (Keeping P (MessagesAt pages)) (k.file P) c ∧ Slotted P pages v

def Refines (P : Platform) (keys : Set CacheKey) (c : Cache) (v : Slots) : Prop := ∀ k ∈ keys, Serves P k c (v k)

def Failed (c : Cache) : Prop := ∃ x ∈ c.caught, IsIoFailure x.2

section

variable {P : Platform} {k : CacheKey} {c c' : Cache} {v : Slot → Option QString} {slot : Slot} {objects : QString}

lemma Failed.suffix (h : Failed c) (hs : c.caught <:+ c'.caught) : Failed c' := by
  obtain ⟨x, hx, he⟩ := h
  exact ⟨x, hs.subset hx, he⟩

lemma Serves.initial (draws : ℕ) : Serves P k { draws := draws } (fun _ => none) :=
  ⟨_, .newFile List.nodup_nil rfl (fun _ hs => absurd hs List.not_mem_nil) .empty, .empty⟩

lemma Serves.elsewhere {path : Bytes} (h : Serves P k c v) (he : Elsewhere path c c') (hk : k.file P ≠ path) :
    Serves P k c' v := by
  obtain ⟨pages, hh, hs⟩ := h
  exact ⟨pages, hh.elsewhere (messagesAt_ofFile pages) he hk, hs⟩

lemma Serves.once (h : Serves P k c v) : Once c := by
  obtain ⟨pages, hh, -⟩ := h
  exact hh.once

lemma Serves.read (h : Serves P k c v) (hslot : slot.Exists) :
    ∃ c', (k.snapshots P).read slot.root c = (v slot, c') ∧ Serves P k c' v := by
  obtain ⟨pages, hh, hs⟩ := h
  have hread : ∀ w, Keeping P (MessagesAt pages) w →
      Storage.MessageCache.readSnapshot P.crypto slot.root w = .ok (pages slot.root) := by
    rintro w ⟨a, cont, hr, ha⟩
    rw [hr.agrees.readSnapshot hr.live, ha.1.2.1]
  obtain ⟨c', hc', hh', -⟩ := hh.readSnapshot (messagesAt_ofFile pages) hread
  rw [hs slot hslot] at hc'
  exact ⟨c', hc', pages, hh', hs⟩

lemma Serves.save (h : Serves P k c v) (hslot : slot.Exists) (hutf8 : P.fromUtf8 (P.toUtf8 objects) = objects) :
    Failed ((k.snapshots P).save slot.root objects c).2 ∨
      ∃ c', (k.snapshots P).save slot.root objects c = (true, c') ∧
        Serves P k c' (Function.update v slot (some objects)) := by
  obtain ⟨pages, hh, hs⟩ := h
  have hsave : ∀ a b, MessagesAt pages a → a.RootsLive → Store.Saved slot.root (P.toUtf8 objects) a b →
      MessagesAt (Function.update pages slot.root (some (P.toUtf8 objects))) b :=
    fun a b ha hl hab => ⟨Shows.saved ha.1 hl hab slot.isRoot, hab.onlyMessages ha.2⟩
  obtain ⟨c', hc', -, hh'⟩ | ⟨e, c', hc', he, hio⟩ := hh.guarded (messagesAt_ofFile pages)
    (messagesAt_ofFile _) false (fun w hw _ => Keeping.saveSnapshot hw hsave)
  · exact Or.inr ⟨c', hc', _, hh', hs.save hslot hutf8⟩
  · have hresult : (k.snapshots P).save slot.root objects c = (false, c') := hc'
    rw [hresult]
    exact Or.inl ⟨_, he, hio⟩

lemma Serves.clear (h : Serves P k c v) :
    Failed (MessageCache.clear P k.logicalName k.secret c).2 ∨
      ∃ c', MessageCache.clear P k.logicalName k.secret c = (true, c') ∧ Serves P k c' (fun _ => none) := by
  obtain ⟨pages, hh, -⟩ := h
  obtain ⟨c', hc', hh'⟩ | ⟨e, c', hc', he, hio⟩ :=
    HoldsBy.clear (Q := MessagesAt pages) (fun _ ha => ⟨ha.1.2.2, ha.2⟩) hh
  · exact Or.inr ⟨c', hc', _, hh'.imp (fun w hw => hw.imp (fun a ha => ha ▸ .empty)), .empty⟩
  · rw [hc']
    exact Or.inl ⟨_, he, hio⟩

end

/-! ### Calls -/

def caches (calls : List CacheCall) : Set CacheKey := fun k => ∃ call ∈ calls, call.cache? = some k

section

variable {P : Platform} {keys : Set CacheKey} {k : CacheKey} {c c' : Cache} {v : Slots} {objects : QString}
  {w : Slot → Option QString} {calls : List CacheCall}

lemma Refines.once (h : Refines P keys c v) (hk : k ∈ keys) : Once c := Serves.once (h k hk)

lemma Refines.update (h : Refines P keys c v) (hnames : keys.InjOn (CacheKey.file P)) (hk : k ∈ keys)
    (he : Elsewhere (k.file P) c c') (hs : Serves P k c' w) : Refines P keys c' (Function.update v k w) := by
  intro other hother
  by_cases hsame : other = k
  · rw [hsame, Function.update_self]
    exact hs
  · rw [Function.update_of_ne hsame]
    exact Serves.elsewhere (h other hother) he (fun hfile => hsame (hnames hother hk hfile))

lemma follows_read (hnames : keys.InjOn (CacheKey.file P)) (hk : k ∈ keys) (slot : Slot) (hslot : slot.Exists) :
    Follows (Refines P keys) Failed ((k.snapshots P).read slot.root) (Slots.read k slot) := by
  refine ⟨fun c hc => hc.suffix (readSnapshot_caught P c _ _ _), fun c v h => Or.inr ?_⟩
  have he : Elsewhere (k.file P) c ((k.snapshots P).read slot.root c).2 := readSnapshot_elsewhere (h.once hk) _
  obtain ⟨c', hc', hs⟩ := Serves.read (h k hk) hslot
  rw [hc'] at he ⊢
  have hr := h.update hnames hk he hs
  rw [Function.update_eq_self] at hr
  exact ⟨rfl, hr⟩

lemma follows_save (hnames : keys.InjOn (CacheKey.file P)) (hk : k ∈ keys) (slot : Slot) (hslot : slot.Exists)
    (hutf8 : P.fromUtf8 (P.toUtf8 objects) = objects) :
    Follows (Refines P keys) Failed ((k.snapshots P).save slot.root objects) (Slots.save k slot objects) := by
  refine ⟨fun c hc => hc.suffix (saveSnapshot_caught P c _ _ _ _), fun c v h => ?_⟩
  have he : Elsewhere (k.file P) c ((k.snapshots P).save slot.root objects c).2 :=
    saveSnapshot_elsewhere (h.once hk) _ _
  refine (Serves.save (h k hk) hslot hutf8).imp_right (fun ⟨c', hc', hs⟩ => ?_)
  rw [hc'] at he ⊢
  exact ⟨rfl, h.update hnames hk he hs⟩

lemma follows_clear (hnames : keys.InjOn (CacheKey.file P)) (hk : k ∈ keys) :
    Follows (Refines P keys) Failed (MessageCache.clear P k.logicalName k.secret) (Slots.clear k) := by
  refine ⟨fun c hc => hc.suffix (clear_caught P c _ _), fun c v h => ?_⟩
  have he : Elsewhere (k.file P) c (MessageCache.clear P k.logicalName k.secret c).2 := clear_elsewhere (h.once hk)
  refine (Serves.clear (h k hk)).imp_right (fun ⟨c', hc', hs⟩ => ?_)
  rw [hc'] at he ⊢
  exact ⟨rfl, h.update hnames hk he hs⟩

lemma follows_closeAll : Follows (Refines P keys) Failed MessageCache.closeAll (pure () : StateM Slots Unit) := by
  refine ⟨fun _ hc => hc, fun c v h => Or.inr ⟨rfl, fun k hk => ?_⟩⟩
  obtain ⟨pages, hh, hs⟩ := h k hk
  exact ⟨pages, hh.closeAll, hs⟩

lemma follows_run (hnames : keys.InjOn (CacheKey.file P)) {call : CacheCall} (hkey : ∀ k ∈ call.cache?, k ∈ keys)
    (hutf8 : ∀ objects ∈ call.objects?, P.fromUtf8 (P.toUtf8 objects) = objects) :
    Follows (Refines P keys) Failed (call.run P) call.specified := by
  cases call with
  | savePage k objects page =>
    have hsave := fun hp : ¬page < 1 =>
      follows_save hnames (hkey k rfl) (.page page) (Int32.not_lt.mp hp) (hutf8 objects rfl)
    exact (Follows.ite (fun _ => .pure _) hsave).map _
  | savePending k objects => exact (follows_save hnames (hkey k rfl) .pending trivial (hutf8 objects rfl)).map _
  | readPage k page =>
    have hread := fun hp : ¬page < 1 => follows_read hnames (hkey k rfl) (.page page) (Int32.not_lt.mp hp)
    exact (Follows.ite (fun _ => .pure _) hread).map _
  | readPending k => exact (follows_read hnames (hkey k rfl) .pending trivial).map _
  | clear k => exact (follows_clear hnames (hkey k rfl)).map _
  | closeAll => exact follows_closeAll.map _

/-- Whatever is called, the answers are those of the slots: no store that is closed, left out of the pool or
opened again can be told from one that stays open. -/
theorem slots_refined {draws : ℕ} (hnames : (caches calls).InjOn (CacheKey.file P))
    (hutf8 : ∀ call ∈ calls, ∀ objects ∈ call.objects?, P.fromUtf8 (P.toUtf8 objects) = objects)
    (hio : ∀ x ∈ (final (CacheCall.run P) calls { draws := draws }).caught, ¬IsIoFailure x.2) :
    trace (CacheCall.run P) calls { draws := draws } = trace CacheCall.specified calls (fun _ _ => none) := by
  have hfollows : ∀ call ∈ calls, Follows (Refines P (caches calls)) Failed (call.run P) call.specified :=
    fun call hc => follows_run hnames (fun k hk => ⟨call, hc, hk⟩) (hutf8 call hc)
  have hstart : Refines P (caches calls) { draws := draws } (fun _ _ => none) := fun k _ => Serves.initial draws
  refine ((trace_follows hfollows hstart).resolve_left ?_).1
  rintro ⟨x, hx, he⟩
  exact hio x hx he

end

/-! ### Calls that find room -/

namespace CacheCall

def spend (P : Platform) : CacheCall → Spending → Spending
  | savePage _ objects _ | savePending _ objects => fun x => x.add (P.toUtf8 objects).length
  | clear _ => fun x => x.add 0
  | _ => id

def spent (P : Platform) (calls : List CacheCall) (x : Spending) : Spending :=
  calls.foldl (fun x call => call.spend P x) x

end CacheCall

section

variable {P : Platform} {c : Cache} {x : Spending}

lemma blocks_le_spendCall (P : Platform) (call : CacheCall) (x : Spending) : x.blocks ≤ (call.spend P x).blocks := by
  cases call with
  | savePage k objects page => exact x.blocks_le_add _
  | savePending k objects => exact x.blocks_le_add _
  | clear k => exact x.blocks_le_add _
  | _ => exact le_rfl

lemma blocks_le_spentCalls (P : Platform) (calls : List CacheCall) (x : Spending) :
    x.blocks ≤ (CacheCall.spent P calls x).blocks := by
  induction calls generalizing x with
  | nil => exact le_rfl
  | cons call calls ih => exact (blocks_le_spendCall P call x).trans (ih _)

lemma Room.run (h : Room P x c) (call : CacheCall) (hfit : (call.spend P x).Fits) :
    (call.run P c).2.caught = c.caught ∧ Room P (call.spend P x) (call.run P c).2 := by
  cases call with
  | savePage k objects page =>
    change (MessageCache.savePage (k.snapshots P) objects page c).2.caught = c.caught ∧
      Room P _ (MessageCache.savePage (k.snapshots P) objects page c).2
    rw [MessageCache.savePage]
    split_ifs with hp
    · exact ⟨rfl, fun path => (h path).imp (fun w hw => hw.add _)⟩
    · obtain ⟨c', hc', hcaught, hroom⟩ :=
        h.save k.logicalName k.secret (Or.inr ⟨page, rfl⟩) hfit
      rw [show (k.snapshots P).save (MessageCache.pageRoot page) objects c = (true, c') from hc']
      exact ⟨hcaught, hroom⟩
  | savePending k objects =>
    obtain ⟨c', hc', hcaught, hroom⟩ := h.save k.logicalName k.secret (Or.inl rfl) hfit
    change (MessageCache.saveSnapshot P objects k.logicalName k.secret MessageCache.pendingRoot c).2.caught = _ ∧
      Room P _ (MessageCache.saveSnapshot P objects k.logicalName k.secret MessageCache.pendingRoot c).2
    rw [hc']
    exact ⟨hcaught, hroom⟩
  | readPage k page =>
    change (MessageCache.readPage (k.snapshots P) page c).2.caught = c.caught ∧
      Room P x (MessageCache.readPage (k.snapshots P) page c).2
    rw [MessageCache.readPage]
    split_ifs with hp
    · exact ⟨rfl, h⟩
    · exact h.read k.logicalName k.secret (MessageCache.pageRoot page)
  | readPending k => exact h.read k.logicalName k.secret MessageCache.pendingRoot
  | clear k => exact h.clear hfit
  | closeAll => exact ⟨rfl, h.closeAll⟩

lemma Room.final_caught (h : Room P x c) {calls : List CacheCall} (hfit : (CacheCall.spent P calls x).Fits) :
    (final (CacheCall.run P) calls c).caught = c.caught := by
  induction calls generalizing c x with
  | nil => rfl
  | cons call calls ih =>
    obtain ⟨hcaught, hroom⟩ := h.run call ((blocks_le_spentCalls P calls _).trans hfit)
    exact (ih hroom hfit).trans hcaught

end

/-! ### The calls for two caches -/

def plainCache (name : String) : CacheKey := ⟨key name, key "s"⟩

def twoCaches : List CacheCall :=
  [.savePage (plainCache "a") (key "x") 1, .savePending (plainCache "b") (key "y"), .closeAll,
    .readPage (plainCache "a") 1, .clear (plainCache "a"), .readPage (plainCache "a") 1, .readPending (plainCache "b")]

lemma caches_twoCaches {k : CacheKey} (hk : k ∈ caches twoCaches) : k = plainCache "a" ∨ k = plainCache "b" := by
  obtain ⟨call, hc, hk⟩ := hk
  have hkeys : ∀ call ∈ twoCaches, ∀ k ∈ call.cache?, k = plainCache "a" ∨ k = plainCache "b" := by decide
  exact hkeys call hc k hk

lemma injOn_twoCaches : (caches twoCaches).InjOn (CacheKey.file plainPlatform) := by
  intro k hk k' hk' he
  obtain rfl | rfl := caches_twoCaches hk <;> obtain rfl | rfl := caches_twoCaches hk'
  · rfl
  · exact absurd he (by decide)
  · exact absurd he (by decide)
  · rfl

lemma utf8_twoCaches : ∀ call ∈ twoCaches, ∀ objects ∈ call.objects?,
    plainPlatform.fromUtf8 (plainPlatform.toUtf8 objects) = objects := by decide

lemma twoCaches_ok : ∀ x ∈ (final (CacheCall.run plainPlatform) twoCaches { draws := 0 }).caught, ¬IsIoFailure x.2 := by
  have hfit : (CacheCall.spent plainPlatform twoCaches {}).Fits := by decide
  rw [(Room.initial plainPlatform {} 0).final_caught hfit]
  exact fun x hx => absurd hx List.not_mem_nil

theorem slots_refined_sample : trace (CacheCall.run plainPlatform) twoCaches { draws := 0 } =
    trace CacheCall.specified twoCaches (fun _ _ => none) :=
  slots_refined injOn_twoCaches utf8_twoCaches twoCaches_ok

end ChatDesktop.Chat
