import ChatDesktop.Storage.Snapshot

namespace ChatDesktop.Storage

open Library Library.Program LocalStorage

namespace MessageCache

variable (C : Crypto)

def save (objects : Bytes) : Action Bool := do
  let _ ← LocalStorage.insert C objects kMessageTag
  LocalStorage.sync
  pure true

def getAll (w : World) : List ℕ → Except Error (Option (List Bytes))
  | [] => .ok (some [])
  | id :: ids =>
    match LocalStorage.get C w id with
    | .error e => .error e
    | .ok none => .ok none
    | .ok (some record) =>
      match getAll w ids with
      | .error e => .error e
      | .ok batches => .ok (batches.map (record :: ·))

def read (w : World) : Except Error (Option (List Bytes)) := getAll C w (ids w.storage kMessageTag)

end MessageCache

def Ascending (es : List (ℕ × Bytes)) : Prop := es.Pairwise (fun e f => e.1 < f.1)

lemma ascending_concat {es : List (ℕ × Bytes)} {e : ℕ × Bytes} :
    Ascending (es ++ [e]) ↔ Ascending es ∧ ∀ f ∈ es, f.1 < e.1 := by
  rw [Ascending, List.pairwise_append]
  constructor
  · rintro ⟨hes, -, hlast⟩
    exact ⟨hes, fun f hf => hlast f hf e List.mem_cons_self⟩
  · rintro ⟨hes, hlast⟩
    refine ⟨hes, List.pairwise_singleton _ _, fun f hf e' he => ?_⟩
    obtain rfl := List.mem_singleton.mp he
    exact hlast f hf

namespace Store

variable {a : Store} {es ps : List (ℕ × Bytes)} {id : ℕ} {data : Bytes}

def Batched (es : List (ℕ × Bytes)) (a : Store) : Prop :=
  es.Nodup ∧ ∀ e, e ∈ es ↔ a.record e.1 = some (MessageCache.kMessageTag, e.2)

lemma Batched.empty : Batched [] .empty := ⟨List.nodup_nil, fun _ => iff_of_false List.not_mem_nil nofun⟩

lemma Batched.perm (h : a.Batched es) (h' : a.Batched ps) : ps.Perm es :=
  (List.perm_ext_iff_of_nodup h'.1 h.1).mpr (fun e => (h'.2 e).trans (h.2 e).symm)

lemma Batched.put (h : a.Batched es) (hnew : a.record id = none) :
    (a.put id (MessageCache.kMessageTag, data)).Batched (es ++ [(id, data)]) := by
  have hid : ∀ e ∈ es, e.1 ≠ id := by
    rintro e he rfl
    rw [(h.2 e).mp he] at hnew
    cases hnew
  constructor
  · apply List.nodup_append.mpr
    refine ⟨h.1, List.nodup_singleton _, fun e he f hf => ?_⟩
    obtain rfl := List.mem_singleton.mp hf
    exact fun heq => hid e he (congrArg Prod.fst heq)
  · rintro ⟨i, d⟩
    rw [List.mem_append, List.mem_singleton]
    change _ ↔ Function.update a.record id _ i = _
    by_cases hi : i = id
    · subst hi
      rw [Function.update_self]
      constructor
      · rintro (he | he)
        · exact absurd rfl (hid _ he)
        · rw [(Prod.mk.inj he).2]
      · intro he
        rw [(Prod.mk.inj (Option.some.inj he)).2]
        exact Or.inr rfl
    · rw [Function.update_of_ne hi, ← h.2 (i, d)]
      constructor
      · exact fun he => he.resolve_right (fun heq => hi (Prod.mk.inj heq).1)
      · exact Or.inl

lemma OnlyMessages.put (h : a.OnlyMessages) (id : ℕ) (data : Bytes) :
    (a.put id (MessageCache.kMessageTag, data)).OnlyMessages := by
  intro i r hr
  change Function.update a.record id _ i = _ at hr
  by_cases hi : i = id
  · rw [hi, Function.update_self] at hr
    rw [← Option.some.inj hr]
  · rw [Function.update_of_ne hi] at hr
    exact h i r hr

lemma Batched.eq_iff (h : a.Batched es) (hp : a.Batched ps) (hasc : Ascending ps) : ps = es ↔ Ascending es := by
  constructor
  · rintro rfl
    exact hasc
  · intro hes
    apply List.Perm.eq_of_pairwise _ hasc hes (h.perm hp)
    intro e f _ _ hef hfe
    exact absurd hfe (lt_asymm hef)

lemma Batched.map_eq_iff {α : Type} {f : Bytes → α} (h : a.Batched es) (hp : a.Batched ps) (hasc : Ascending ps)
    (hdistinct : (es.map (fun e => f e.2)).Nodup) :
    ps.map (fun e => f e.2) = es.map (fun e => f e.2) ↔ Ascending es := by
  rw [← h.eq_iff hp hasc]
  constructor
  · intro hmap
    have hinj := List.inj_on_of_nodup_map hdistinct
    have hperm := h.perm hp
    apply List.ext_getElem hperm.length_eq
    intro i hi hi'
    apply hinj (hperm.subset (List.getElem_mem hi)) (List.getElem_mem hi')
    have hget := congrArg (fun l => l[i]?) hmap
    simpa [List.getElem?_map, List.getElem?_eq_getElem, hi, hi'] using hget
  · rintro rfl
    rfl

end Store

section

variable {C : Crypto} {pw : Bytes} {w w' : World} {a : Store} {cont : ℕ → List ℕ} {id : ℕ} {data : Bytes}
  {tag : UInt32}

lemma allocMany_head {n : ℕ} (hn : 0 < n) (s : LocalStorage) : (allocMany n s).1.getD 0 0 = (alloc s).1 := by
  obtain ⟨n, rfl⟩ := Nat.exists_eq_succ_of_ne_zero hn.ne'
  rfl

lemma insert_number (h : LocalStorage.insert C data tag w = (.ok id, w')) : id = (alloc w.storage).1 := by
  rw [LocalStorage.insert, get_bind_apply] at h
  split_ifs at h
  · cases (Prod.mk.inj h).1
  · cases (Prod.mk.inj h).1
  · rw [insertLocked_apply] at h
    rcases hp : perform C (insertEvents w.storage data tag) (w.put (insertStart w.storage data)) with ⟨e | u, v⟩
    · rw [hp] at h
      cases (Prod.mk.inj h).1
    · rw [hp] at h
      rw [← Except.ok.inj (Prod.mk.inj h).1]
      exact allocMany_head (chunks_pos _ _) _

lemma Related.save (h : Related C pw w a cont) (objects : Bytes) :
    (∃ w' cont', MessageCache.save C objects w = (.ok true, w') ∧ a.record (alloc w.storage).1 = none ∧
      Related C pw w' (a.put (alloc w.storage).1 (MessageCache.kMessageTag, objects)) cont') ∨
      ∃ e w', MessageCache.save C objects w = (.error e, w') ∧ IsIoFailure e := by
  have htag : MessageCache.kMessageTag ≠ kDirTag := by decide
  rw [MessageCache.save]
  obtain ⟨id, w₁, cont₁, hw₁, hnew, h₁⟩ | ⟨e, w₁, hw₁, he⟩ := h.insert_spec objects htag
  · obtain rfl := insert_number hw₁
    rw [bind_ok hw₁]
    obtain ⟨w₂, hw₂, h₂⟩ | ⟨e, w₂, hw₂, he⟩ := h₁.sync_spec
    · exact Or.inl ⟨w₂, cont₁, by rw [bind_ok hw₂, pure_apply], hnew, h₂⟩
    · exact Or.inr ⟨e, w₂, bind_error hw₂, he⟩
  · exact Or.inr ⟨e, w₁, bind_error hw₁, he⟩

lemma getAll_ok {record : ℕ → Bytes} {is : List ℕ} (h : ∀ id ∈ is, LocalStorage.get C w id = .ok (some (record id))) :
    MessageCache.getAll C w is = .ok (some (is.map record)) := by
  induction is with
  | nil => rfl
  | cons id is ih =>
    rw [MessageCache.getAll, h id List.mem_cons_self, ih (fun i hi => h i (List.mem_cons_of_mem id hi))]
    rfl

lemma Agrees.readBatches (h : Agrees C w a) :
    ∃ ps, MessageCache.read C w = .ok (some (ps.map Prod.snd)) ∧ a.Batched ps ∧ Ascending ps := by
  obtain ⟨hsorted, hmem⟩ := h.ids MessageCache.kMessageTag
  let record : ℕ → Bytes := fun id => ((a.record id).map Prod.snd).getD []
  have hrecord : ∀ id data, a.record id = some (MessageCache.kMessageTag, data) → record id = data := by
    intro id data hd
    simp only [record, hd, Option.map_some, Option.getD_some]
  refine ⟨(LocalStorage.ids w.storage MessageCache.kMessageTag).map (fun id => (id, record id)), ?_, ⟨?_, ?_⟩, ?_⟩
  · rw [MessageCache.read, List.map_map]
    apply getAll_ok
    intro id hid
    obtain ⟨data, hd⟩ := (hmem id).mp hid
    rw [Function.comp_apply, hrecord id data hd]
    exact h.get id _ data hd
  · apply (hsorted.imp ne_of_lt).map
    exact fun i j hij he => hij (Prod.mk.inj he).1
  · rintro ⟨id, data⟩
    constructor
    · intro he
      obtain ⟨i, hi, heq⟩ := List.mem_map.mp he
      obtain ⟨rfl, rfl⟩ := Prod.mk.inj heq
      obtain ⟨data, hd⟩ := (hmem i).mp hi
      rw [hrecord i data hd]
      exact hd
    · intro hd
      exact List.mem_map.mpr ⟨id, (hmem id).mpr ⟨data, hd⟩, congrArg (Prod.mk id) (hrecord id data hd)⟩
  · apply hsorted.map
    exact fun _ _ hij => hij

end

end ChatDesktop.Storage
