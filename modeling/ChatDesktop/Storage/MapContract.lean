import ChatDesktop.Storage.Recovery
import ChatDesktop.Storage.Refinement

namespace ChatDesktop.Storage

open Library Library.Program Library.Transition Library.LinkedChain LocalStorage

/-- Every observation of the open store is that of the abstract one. -/
structure Agrees (C : Crypto) (w : World) (a : Store) : Prop where
  live : ∀ id, hasRecord w.storage id = (a.record id).isSome
  get : ∀ id tag data, a.record id = some (tag, data) → LocalStorage.get C w id = .ok (some data)
  ids : ∀ tag, (ids w.storage tag).Pairwise (· < ·) ∧
    ∀ id, id ∈ ids w.storage tag ↔ ∃ data, a.record id = some (tag, data)
  root : ∀ name, root w.storage name = a.root name

/-- The blocks of the chain with head `id`, as the links on disk give them. -/
def IsChain (d : Disk) (id : ℕ) (is : List ℕ) : Prop :=
  ∃ b, d id = some b ∧ b.type = 1 ∧ Linked (contNext d) 0 b.next is

/-- Every block is in exactly one chain, once, or free, once. -/
structure Partitioned (d : Disk) (s : LocalStorage) (cont : ℕ → List ℕ) : Prop where
  chain : ∀ id ∈ s.head.keys, IsChain d id (cont id)
  acyclic : ∀ id ∈ s.head.keys, (id :: cont id).Nodup
  disjoint : ∀ id ∈ s.head.keys, ∀ id' ∈ s.head.keys, id' ≠ id →
    (id :: cont id).Disjoint (id' :: cont id')
  freeNodup : s.free.Nodup
  freeDisjoint : ∀ id ∈ s.head.keys, (id :: cont id).Disjoint s.free
  covers : ∀ i, ((∃ id ∈ s.head.keys, i ∈ id :: cont id) ∨ i ∈ s.free) ↔ 1 ≤ i ∧ i ≤ s.nblocks

def target : Op → Outcome → Option ℕ
  | .insert _ _, .inserted id => some id
  | .update id _, _ => some id
  | .remove id, _ => some id
  | _, _ => none

/-- An operation changes its target and the roots it is about, and nothing else. -/
structure Framed (C : Crypto) (w : World) (op : Op) (out : Outcome) (w' : World) : Prop where
  live : ∀ id, target op out ≠ some id → hasRecord w'.storage id = hasRecord w.storage id
  get : ∀ id, target op out ≠ some id → hasRecord w.storage id = true →
    LocalStorage.get C w' id = LocalStorage.get C w id
  tag : ∀ id, target op out ≠ some id → ∀ tag, id ∈ ids w'.storage tag ↔ id ∈ ids w.storage tag
  root : ∀ n, root w'.storage n = match op with
    | .remove id => if root w.storage n = some id then none else root w.storage n
    | .setRoot m id => if n = m ∧ out = .named then some id else root w.storage n
    | .removeRoot m => if n = m then none else root w.storage n
    | _ => root w.storage n

section

variable {C : Crypto} {pw : Bytes} {w w' : World} {a b : Store} {cont cont' : ℕ → List ℕ} {op : Op}
  {out : Outcome}

lemma Layout.partitioned {d : Disk} {s : LocalStorage} (hl : Layout d s.head s.free s.nblocks cont) :
    Partitioned d s cont where
  chain id hid := by
    obtain ⟨hi, hh⟩ := SortedMap.mem_keys.mp hid
    obtain ⟨b, hb, ht, -, hn⟩ := hl.head id hi hh
    exact ⟨b, hb, ht, hn ▸ hl.linked id hi hh⟩
  acyclic _ := hl.chain_nodup
  disjoint _ hid _ hid' hne := hl.chain_disjoint hid hid' hne
  freeNodup := hl.free_nodup
  freeDisjoint id hid i hi := hl.chain_not_free (mem_chainBlocks.mpr ⟨id, hid, by simpa using hi⟩)
  covers i := by
    refine Iff.trans ?_ hl.mem_iff
    rw [mem_chainBlocks]
    simp only [List.mem_cons]

lemma ids_eq (s : LocalStorage) {tag : UInt32} (htag : tag ≠ kDirTag) :
    ids s tag = (tagged s.byTag tag).keys := by
  rw [ids, if_neg htag, tagged]
  cases s.byTag.find? tag <;> rfl

lemma mem_ids (h : Wf C pw w cont) {tag : UInt32} {id : ℕ} :
    id ∈ ids w.storage tag ↔ ∃ data, (abstraction C w cont).record id = some (tag, data) := by
  by_cases htag : tag = kDirTag
  · rw [ids, if_pos htag]
    refine iff_of_false List.not_mem_nil ?_
    rintro ⟨data, hu⟩
    obtain ⟨-, -, -, hne, -⟩ := h.user_tag hu
    exact hne htag
  · rw [ids_eq _ htag, h.tags.mem]
    constructor
    · rintro ⟨hi, hh, rfl⟩
      have hid : id ≠ w.storage.dirId := fun he => htag ((h.directory.tag_iff id hi hh).mpr he)
      exact ⟨_, (users_of_ne hid).trans (by rw [records, hh, Option.map_some])⟩
    · rintro ⟨data, hu⟩
      obtain ⟨hi, hh, ht, -⟩ := h.user_tag hu
      exact ⟨hi, hh, ht⟩

lemma ids_sorted (s : LocalStorage) (tag : UInt32) : (ids s tag).Pairwise (· < ·) := by
  rw [ids]
  split_ifs
  · exact .nil
  · cases s.byTag.find? tag with
    | none => exact .nil
    | some ts => exact ts.keys_sorted

lemma Wf.agrees (h : Wf C pw w cont) : Agrees C w (abstraction C w cont) := by
  refine ⟨fun id => Bool.eq_iff_iff.mpr users_isSome.symm, fun id tag data hu => ?_,
    fun tag => ⟨ids_sorted _ _, fun id => mem_ids h⟩, fun _ => rfl⟩
  obtain ⟨hi, hh, -, -, -, hc⟩ := h.user_tag hu
  rw [LocalStorage.get, getLocked_ok h.layout (SortedMap.mem_keys_of_find? hh), hc]

lemma Related.agrees (h : Related C pw w a cont) : Agrees C w a := h.abs ▸ h.wf.agrees

lemma Store.Step.record_frame (hs : Store.Step a (op, out) b) {id : ℕ} (hid : target op out ≠ some id) :
    b.record id = a.record id := by
  cases hs <;> first | rfl | exact Function.update_of_ne (fun he => hid (congrArg some he.symm)) _ _

lemma Store.Step.root_frame (ha : a.RootsLive) (hs : Store.Step a (op, out) b) (n : Bytes) :
    b.root n = match op with
      | .remove id => if a.root n = some id then none else a.root n
      | .setRoot m id => if n = m ∧ out = .named then some id else a.root n
      | .removeRoot m => if n = m then none else a.root n
      | _ => a.root n := by
  cases hs with
  | removeMissing id hid =>
    refine (if_neg (fun hn => ?_)).symm
    have := ha n id hn
    simp [hid] at this
  | setRoot m id _ =>
    by_cases hn : n = m
    · simp [Store.name, hn]
    · simp [Store.name, hn]
  | setRootMissing m id _ => simp
  | removeRoot m _ =>
    by_cases hn : n = m
    · simp [Store.name, hn]
    · simp [Store.name, hn]
  | removeRootMissing m hm =>
    by_cases hn : n = m
    · simp [hn, hm]
    · simp [hn]
  | _ => rfl

lemma Agrees.framed (h : Agrees C w a) (h' : Agrees C w' b) (ha : a.RootsLive)
    (hs : Store.Step a (op, out) b) : Framed C w op out w' := by
  refine ⟨fun id hid => ?_, fun id hid hlive => ?_, fun id hid tag => ?_, fun n => ?_⟩
  · rw [h'.live, h.live, hs.record_frame hid]
  · rw [h.live] at hlive
    obtain ⟨⟨tag, data⟩, hr⟩ := Option.isSome_iff_exists.mp hlive
    rw [h.get id tag data hr, h'.get id tag data ((hs.record_frame hid).trans hr)]
  · rw [(h'.ids tag).2, (h.ids tag).2, hs.record_frame hid]
  · rw [h'.root, hs.root_frame ha]
    cases op <;> simp only [h.root]

lemma related_new {opt : Options} {w₀ : World} (hlo : 128 ≤ opt.blockSize) (hhi : opt.blockSize ≤ 2 ^ 20)
    (hfile : w₀.file = []) (hf : w₀.faults = none) (hnew : construct C opt pw w₀ = (.ok (), w)) :
    Related C pw w .empty (fun _ => []) := by
  obtain ⟨w', hw', hwf, hhead, hdir, hroots, -⟩ := construct_new (C := C) pw hlo hhi hfile hf
  rw [hw'] at hnew
  obtain rfl := (Prod.mk.inj hnew).2
  refine ⟨hwf, ⟨fun _ => hroots, fun h0 => absurd hdir h0⟩, ?_, .empty⟩
  simp only [abstraction, Store.empty, hhead, hdir, hroots]
  congr 1
  funext id
  simp [users, records]

/-- Whatever is done to a new store without a failing file operation, it refines the abstract map,
its blocks stay shared out, and no operation reaches beyond what it is about. -/
theorem localStorage_refines_store {opt : Options} {w₀ w₁ : World} {ls : List (Op × Outcome)}
    (hlo : 128 ≤ opt.blockSize) (hhi : opt.blockSize ≤ 2 ^ 20) (hfile : w₀.file = [])
    (hf : w₀.faults = none) (hnew : construct C opt pw w₀ = (.ok (), w₁))
    (hrun : Run (Steps C) w₁ ls w) (hok : ∀ l ∈ ls, ¬IoFailed l.2) :
    (∃ a, Run Store.Step .empty ls a ∧ Agrees C w a) ∧
      (∃ cont, Partitioned (blocks C w) w.storage cont) ∧
      ∀ op out w', Steps C w (op, out) w' → ¬IoFailed out → Framed C w op out w' := by
  obtain ⟨a, hr, cont, h⟩ := (related_new hlo hhi hfile hf hnew).run hrun hok
  refine ⟨⟨a, hr, h.agrees⟩, ⟨cont, h.wf.layout.partitioned⟩, fun op out w' hs hok' => ?_⟩
  obtain ⟨b, hst, cont', h'⟩ := h.step hs hok'
  exact h.agrees.framed h'.agrees h.live hst

end

/-! ### A run of a store with blocks of 128 bytes -/

def smallOptions : Options := { blockSize := 128 }

def emptyWorld : World := { storage := { opt := smallOptions } }

def smallStore : World := (construct .transparent smallOptions [] emptyWorld).2

set_option maxRecDepth 10000 in
lemma construct_smallStore : construct .transparent smallOptions [] emptyWorld = (.ok (), smallStore) :=
  Prod.ext (by decide) rfl

def runOps (C : Crypto) (w : World) (ops : List Op) : World := ops.foldl (fun w op => (step C op w).2) w

def insertedStore : World := runOps .transparent smallStore [.insert [] 1]

set_option maxRecDepth 10000 in
lemma step_insertedStore : step .transparent (.insert [] 1) smallStore = (.inserted 1, insertedStore) :=
  Prod.ext (by decide) rfl

def traceOps (C : Crypto) : World → List Op → List (Op × Outcome)
  | _, [] => []
  | w, op :: ops => (op, (step C op w).1) :: traceOps C (step C op w).2 ops

lemma run_traceOps (C : Crypto) (w : World) (ops : List Op) :
    Run (Steps C) w (traceOps C w ops) (runOps C w ops) := by
  induction ops generalizing w with
  | nil => exact .nil w
  | cons op ops ih => exact .cons rfl (ih _)

instance : DecidablePred IoFailed := fun o =>
  match o with
  | .failed e => decidable_of_iff (IsIoFailure e) ⟨fun h => ⟨e, rfl, h⟩, fun ⟨_, he, h⟩ => Outcome.failed.inj he ▸ h⟩
  | .inserted _ => isFalse (fun ⟨_, he, _⟩ => by cases he)
  | .answered _ => isFalse (fun ⟨_, he, _⟩ => by cases he)
  | .named => isFalse (fun ⟨_, he, _⟩ => by cases he)

def sampleOps : List Op :=
  [.insert (List.replicate 200 5) 7, .insert [1] 7, .setRoot [9] 1, .update 1 [2, 3], .remove 3, .remove 1]

set_option maxRecDepth 10000 in
theorem localStorage_refines_store_sample :
    (∃ a, Run Store.Step .empty (traceOps .transparent smallStore sampleOps) a ∧
      Agrees .transparent (runOps .transparent smallStore sampleOps) a) ∧
    (∃ cont, Partitioned (blocks .transparent (runOps .transparent smallStore sampleOps))
      (runOps .transparent smallStore sampleOps).storage cont) ∧
    ∀ op out w', Steps .transparent (runOps .transparent smallStore sampleOps) (op, out) w' →
      ¬IoFailed out → Framed .transparent (runOps .transparent smallStore sampleOps) op out w' := by
  exact localStorage_refines_store (by decide) (by decide) rfl rfl construct_smallStore
    (run_traceOps _ _ _) (by decide)

end ChatDesktop.Storage
