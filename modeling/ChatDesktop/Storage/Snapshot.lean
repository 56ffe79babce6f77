import ChatDesktop.Storage.MapContract

namespace ChatDesktop.Storage

open Library Library.Program LocalStorage

namespace MessageCache

def kMessageTag : UInt32 := 2

variable (C : Crypto)

def saveSnapshot (objects root : Bytes) : Action Bool := do
  let w ← Prog.get
  match LocalStorage.root w.storage root with
  | none =>
    let id ← LocalStorage.insert C objects kMessageTag
    LocalStorage.setRoot C root id
    LocalStorage.sync
    pure true
  | some id =>
    let found ← LocalStorage.update C id objects
    if found then
      LocalStorage.sync
      pure true
    else pure false

def readSnapshot (root : Bytes) (w : World) : Except Error (Option Bytes) :=
  match LocalStorage.root w.storage root with
  | none => .ok none
  | some id => LocalStorage.get C w id

def removeAll : List ℕ → Action Bool
  | [] => pure true
  | id :: ids => do
    let removed ← LocalStorage.remove C id
    if removed then removeAll ids else pure false

def clear : Action Bool := do
  let w ← Prog.get
  let removed ← removeAll C (ids w.storage kMessageTag)
  if removed then
    LocalStorage.sync
    pure true
  else pure false

end MessageCache

namespace Store

def page (a : Store) (r : Bytes) : Option Bytes := (a.root r).bind (fun id => (a.record id).map Prod.snd)

def RootsApart (a : Store) : Prop := ∀ n m id, a.root n = some id → a.root m = some id → n = m

def OnlyMessages (a : Store) : Prop := ∀ id r, a.record id = some r → r.1 = MessageCache.kMessageTag

inductive Saved (r data : Bytes) : Store → Store → Prop
  | new {a : Store} {id : ℕ} (hr : a.root r = none) (hnew : a.record id = none) :
      Saved r data a ((a.put id (MessageCache.kMessageTag, data)).name r (some id))
  | old {a : Store} {id : ℕ} {tag : UInt32} {old : Bytes} (hr : a.root r = some id)
      (hold : a.record id = some (tag, old)) : Saved r data a (a.put id (tag, data))

variable {a b : Store} {r n data : Bytes}

lemma RootsApart.empty : RootsApart empty := fun _ _ _ h => by cases h

lemma Saved.page_self (h : Saved r data a b) : b.page r = some data := by
  cases h with
  | new => simp [page, name, put]
  | old hr => simp [page, put, hr]

lemma Saved.page_other (h : Saved r data a b) (hl : a.RootsLive) (ha : a.RootsApart) (hn : n ≠ r) :
    b.page n = a.page n := by
  cases h with
  | @new id hr hnew =>
    simp only [page, name, put, Function.update_of_ne hn]
    cases hroot : a.root n with
    | none => rfl
    | some i =>
      have hi : i ≠ id := by
        rintro rfl
        have := hl n i hroot
        rw [hnew] at this
        cases this
      simp only [Option.bind_some, Function.update_of_ne hi]
  | @old id tag _ hr hold =>
    simp only [page, put]
    cases hroot : a.root n with
    | none => rfl
    | some i =>
      have hi : i ≠ id := by
        rintro rfl
        exact hn (ha n r i hroot hr)
      simp only [Option.bind_some, Function.update_of_ne hi]

lemma OnlyMessages.empty : OnlyMessages empty := fun _ _ h => by cases h

lemma Saved.onlyMessages (h : Saved r data a b) (ha : a.OnlyMessages) : b.OnlyMessages := by
  intro i s hs
  cases h with
  | @new id hr hnew =>
    by_cases hi : i = id
    · simp only [name, put, hi, Function.update_self, Option.some.injEq] at hs
      rw [← hs]
    · simp only [name, put, Function.update_of_ne hi] at hs
      exact ha i s hs
  | @old id tag _ hr hold =>
    by_cases hi : i = id
    · simp only [put, hi, Function.update_self, Option.some.injEq] at hs
      rw [← hs]
      have htag := ha id _ hold
      exact htag
    · simp only [put, Function.update_of_ne hi] at hs
      exact ha i s hs

lemma Saved.apart (h : Saved r data a b) (hl : a.RootsLive) (ha : a.RootsApart) : b.RootsApart := by
  cases h with
  | @new id hr hnew =>
    have hfree : ∀ m, a.root m ≠ some id := by
      intro m hm
      have := hl m id hm
      rw [hnew] at this
      cases this
    intro n m i hn hm
    simp only [name, put] at hn hm
    by_cases h1 : n = r <;> by_cases h2 : m = r
    · rw [h1, h2]
    · rw [h1, Function.update_self] at hn
      rw [Function.update_of_ne h2, ← Option.some.inj hn] at hm
      exact absurd hm (hfree m)
    · rw [h2, Function.update_self] at hm
      rw [Function.update_of_ne h1, ← Option.some.inj hm] at hn
      exact absurd hn (hfree n)
    · rw [Function.update_of_ne h1] at hn
      rw [Function.update_of_ne h2] at hm
      exact ha n m i hn hm
  | old => exact ha

lemma record_foldl_delete (is : List ℕ) (a : Store) (id : ℕ) :
    (is.foldl delete a).record id = if id ∈ is then none else a.record id := by
  induction is generalizing a with
  | nil => rfl
  | cons i is ih =>
    rw [List.foldl_cons, ih]
    by_cases hi : id = i
    · simp [hi, delete]
    · simp [hi, delete]

lemma RootsLive.foldl_delete (h : RootsLive a) (is : List ℕ) : RootsLive (is.foldl Store.delete a) := by
  induction is generalizing a with
  | nil => exact h
  | cons i is ih => exact ih h.delete

lemma eq_empty (h : RootsLive a) (hnone : ∀ id, a.record id = none) : a = empty := by
  obtain ⟨record, root⟩ := a
  obtain rfl : record = fun _ => none := funext hnone
  have hroot : root = fun _ => none := by
    funext n
    cases hn : root n with
    | none => rfl
    | some id =>
      have := h n id hn
      cases this
  rw [hroot, empty]

end Store

section

variable {C : Crypto} {pw : Bytes} {w w' : World} {a b : Store} {cont : ℕ → List ℕ} {id : ℕ} {e : Error}
  {data root : Bytes} {tag : UInt32}

lemma Agrees.readSnapshot (h : Agrees C w a) (hl : a.RootsLive) (r : Bytes) :
    MessageCache.readSnapshot C r w = .ok (a.page r) := by
  rw [MessageCache.readSnapshot, h.root, Store.page]
  cases hr : a.root r with
  | none => rfl
  | some id =>
    obtain ⟨⟨tag, data⟩, hrec⟩ := Option.isSome_iff_exists.mp (hl r id hr)
    simp only [Option.bind_some, hrec, Option.map_some]
    exact h.get id tag data hrec

lemma Related.failed {op : Op} (h : Related C pw w a cont) (hs : Steps C w (op, .failed e) w') :
    IsIoFailure e ∨ ∃ b, Store.Step a (op, .failed e) b := by
  by_cases hio : IoFailed (.failed e)
  · obtain ⟨e', he, hf⟩ := hio
    exact Or.inl (Outcome.failed.inj he ▸ hf)
  · obtain ⟨b, hst, -⟩ := h.step hs hio
    exact Or.inr ⟨b, hst⟩

lemma Related.insert_spec (h : Related C pw w a cont) (data : Bytes) (htag : tag ≠ kDirTag) :
    (∃ id w' cont', LocalStorage.insert C data tag w = (.ok id, w') ∧ a.record id = none ∧
      Related C pw w' (a.put id (tag, data)) cont') ∨
      ∃ e w', LocalStorage.insert C data tag w = (.error e, w') ∧ IsIoFailure e := by
  rcases hw : LocalStorage.insert C data tag w with ⟨e | id, w'⟩
  · refine Or.inr ⟨e, w', rfl, ?_⟩
    have hs : Steps C w (.insert data tag, .failed e) w' := by rw [Steps, Storage.step, hw]; rfl
    refine (h.failed hs).resolve_right ?_
    rintro ⟨b, hst⟩
    cases hst
    exact htag rfl
  · have hs : Steps C w (.insert data tag, .inserted id) w' := by rw [Steps, Storage.step, hw]; rfl
    obtain ⟨b, hst, cont', hr⟩ := h.step hs (by rintro ⟨e', he, -⟩; cases he)
    cases hst with
    | insert _ _ _ _ _ hnew => exact Or.inl ⟨id, w', cont', rfl, hnew, hr⟩

lemma Related.update_spec {old : Bytes} (h : Related C pw w a cont) (data : Bytes)
    (hrec : a.record id = some (tag, old)) :
    (∃ w' cont', LocalStorage.update C id data w = (.ok true, w') ∧ Related C pw w' (a.put id (tag, data)) cont') ∨
      ∃ e w', LocalStorage.update C id data w = (.error e, w') ∧ IsIoFailure e := by
  rcases hw : LocalStorage.update C id data w with ⟨e | found, w'⟩
  · refine Or.inr ⟨e, w', rfl, ?_⟩
    have hs : Steps C w (.update id data, .failed e) w' := by rw [Steps, Storage.step, hw]; rfl
    refine (h.failed hs).resolve_right ?_
    rintro ⟨b, hst⟩
    cases hst
  · have hs : Steps C w (.update id data, .answered found) w' := by rw [Steps, Storage.step, hw]; rfl
    obtain ⟨b, hst, cont', hr⟩ := h.step hs (by rintro ⟨e', he, -⟩; cases he)
    cases hst with
    | update _ tag' _ _ hold =>
      obtain ⟨rfl, -⟩ := Prod.mk.inj (Option.some.inj (hrec.symm.trans hold))
      exact Or.inl ⟨w', cont', rfl, hr⟩
    | updateMissing _ _ hnone => simp [hrec] at hnone

lemma Related.setRoot_spec (h : Related C pw w a cont) (root : Bytes)
    (hlive : (a.record id).isSome = true) :
    (∃ w' cont', LocalStorage.setRoot C root id w = (.ok (), w') ∧
      Related C pw w' (a.name root (some id)) cont') ∨
      ∃ e w', LocalStorage.setRoot C root id w = (.error e, w') ∧ IsIoFailure e := by
  rcases hw : LocalStorage.setRoot C root id w with ⟨e | u, w'⟩
  · refine Or.inr ⟨e, w', rfl, ?_⟩
    have hs : Steps C w (.setRoot root id, .failed e) w' := by rw [Steps, Storage.step, hw]; rfl
    refine (h.failed hs).resolve_right ?_
    rintro ⟨b, hst⟩
    cases hst with
    | setRootMissing _ _ hnone => simp [hnone] at hlive
  · have hs : Steps C w (.setRoot root id, .named) w' := by rw [Steps, Storage.step, hw]; rfl
    obtain ⟨b, hst, cont', hr⟩ := h.step hs (by rintro ⟨e', he, -⟩; cases he)
    cases hst
    exact Or.inl ⟨w', cont', rfl, hr⟩

lemma Related.sync_spec (h : Related C pw w a cont) :
    (∃ w', LocalStorage.sync w = (.ok (), w') ∧ Related C pw w' a cont) ∨
      ∃ e w', LocalStorage.sync w = (.error e, w') ∧ IsIoFailure e := by
  rw [LocalStorage.sync, get_bind_apply, h.wf.opened, Bool.not_true, if_neg (by decide), synceFd, fileOp]
  rcases hf : w.faults with _ | _ | k
  · exact Or.inl ⟨_, rfl, hf ▸ h⟩
  · exact Or.inr ⟨_, _, rfl, Or.inr (Or.inl rfl)⟩
  · exact Or.inl ⟨_, rfl, h.faulted (some k)⟩

lemma Related.saveSnapshot (h : Related C pw w a cont) (objects root : Bytes) :
    (∃ w' b cont', MessageCache.saveSnapshot C objects root w = (.ok true, w') ∧ Store.Saved root objects a b ∧
      Related C pw w' b cont') ∨
      ∃ e w', MessageCache.saveSnapshot C objects root w = (.error e, w') ∧ IsIoFailure e := by
  rw [MessageCache.saveSnapshot, get_bind_apply, h.agrees.root]
  cases hr : a.root root with
  | none =>
    have htag : MessageCache.kMessageTag ≠ kDirTag := by decide
    rcases h.insert_spec objects htag with
      ⟨id, w₁, cont₁, hw₁, hnew, h₁⟩ | ⟨e, w₁, hw₁, he⟩
    · have hput : ((a.put id (MessageCache.kMessageTag, objects)).record id).isSome = true := by simp [Store.put]
      rcases h₁.setRoot_spec root hput with
        ⟨w₂, cont₂, hw₂, h₂⟩ | ⟨e, w₂, hw₂, he⟩
      · rcases h₂.sync_spec with ⟨w₃, hw₃, h₃⟩ | ⟨e, w₃, hw₃, he⟩
        · refine Or.inl ⟨w₃, _, cont₂, ?_, .new hr hnew, h₃⟩
          simp only [bind_ok hw₁, bind_ok hw₂, bind_ok hw₃, pure_apply]
        · refine Or.inr ⟨e, w₃, ?_, he⟩
          simp only [bind_ok hw₁, bind_ok hw₂, bind_error hw₃]
      · refine Or.inr ⟨e, w₂, ?_, he⟩
        simp only [bind_ok hw₁, bind_error hw₂]
    · exact Or.inr ⟨e, w₁, bind_error hw₁, he⟩
  | some id =>
    obtain ⟨⟨tag, old⟩, hrec⟩ := Option.isSome_iff_exists.mp (h.live root id hr)
    rcases h.update_spec objects hrec with ⟨w₁, cont₁, hw₁, h₁⟩ | ⟨e, w₁, hw₁, he⟩
    · rcases h₁.sync_spec with ⟨w₂, hw₂, h₂⟩ | ⟨e, w₂, hw₂, he⟩
      · refine Or.inl ⟨w₂, _, cont₁, ?_, .old hr hrec, h₂⟩
        simp only [bind_ok hw₁, if_true, bind_ok hw₂, pure_apply]
      · refine Or.inr ⟨e, w₂, ?_, he⟩
        simp only [bind_ok hw₁, if_true, bind_error hw₂]
    · exact Or.inr ⟨e, w₁, bind_error hw₁, he⟩

lemma Related.remove_spec (h : Related C pw w a cont) (hlive : (a.record id).isSome = true) :
    (∃ w' cont', LocalStorage.remove C id w = (.ok true, w') ∧ Related C pw w' (a.delete id) cont') ∨
      ∃ e w', LocalStorage.remove C id w = (.error e, w') ∧ IsIoFailure e := by
  rcases hw : LocalStorage.remove C id w with ⟨e | found, w'⟩
  · refine Or.inr ⟨e, w', rfl, ?_⟩
    have hs : Steps C w (.remove id, .failed e) w' := by rw [Steps, Storage.step, hw]; rfl
    refine (h.failed hs).resolve_right ?_
    rintro ⟨b, hst⟩
    cases hst
  · have hs : Steps C w (.remove id, .answered found) w' := by rw [Steps, Storage.step, hw]; rfl
    obtain ⟨b, hst, cont', hr⟩ := h.step hs (by rintro ⟨e', he, -⟩; cases he)
    cases hst with
    | remove => exact Or.inl ⟨w', cont', rfl, hr⟩
    | removeMissing _ hnone => simp [hnone] at hlive

lemma Related.removeAll {is : List ℕ} (h : Related C pw w a cont) (hlive : ∀ id ∈ is, (a.record id).isSome = true)
    (hnodup : is.Nodup) :
    (∃ w' cont', MessageCache.removeAll C is w = (.ok true, w') ∧ Related C pw w' (is.foldl Store.delete a) cont') ∨
      ∃ e w', MessageCache.removeAll C is w = (.error e, w') ∧ IsIoFailure e := by
  induction is generalizing w a cont with
  | nil => exact Or.inl ⟨w, cont, rfl, h⟩
  | cons id is ih =>
    rw [MessageCache.removeAll]
    obtain ⟨w₁, cont₁, hw₁, h₁⟩ | ⟨e, w₁, hw₁, he⟩ := h.remove_spec (hlive id List.mem_cons_self)
    · rw [bind_ok hw₁, if_pos rfl]
      refine ih h₁ (fun i hi => ?_) (List.nodup_cons.mp hnodup).2
      have hne : i ≠ id := fun he => (List.nodup_cons.mp hnodup).1 (he ▸ hi)
      change (Function.update a.record id none i).isSome = true
      rw [Function.update_of_ne hne]
      exact hlive i (List.mem_cons_of_mem _ hi)
    · exact Or.inr ⟨e, w₁, bind_error hw₁, he⟩

lemma Related.clear (h : Related C pw w a cont) (ha : a.OnlyMessages) :
    (∃ w' cont', MessageCache.clear C w = (.ok true, w') ∧ Related C pw w' .empty cont') ∨
      ∃ e w', MessageCache.clear C w = (.error e, w') ∧ IsIoFailure e := by
  obtain ⟨hsorted, hmem⟩ := h.agrees.ids MessageCache.kMessageTag
  rw [MessageCache.clear, get_bind_apply]
  generalize ids w.storage MessageCache.kMessageTag = is at hsorted hmem
  have hlive : ∀ id ∈ is, (a.record id).isSome = true := fun id hi => by
    obtain ⟨data, hd⟩ := (hmem id).mp hi
    rw [hd]
    rfl
  obtain ⟨w₁, cont₁, hw₁, h₁⟩ | ⟨e, w₁, hw₁, he⟩ := h.removeAll hlive (hsorted.imp ne_of_lt)
  · have hempty : is.foldl Store.delete a = .empty := by
      refine Store.eq_empty (h.live.foldl_delete is) (fun id => ?_)
      rw [Store.record_foldl_delete]
      split_ifs with hi
      · rfl
      · cases hr : a.record id with
        | none => rfl
        | some r => exact absurd ((hmem id).mpr ⟨r.2, hr.trans (by rw [← ha id r hr])⟩) hi
    rw [hempty] at h₁
    rw [bind_ok hw₁, if_pos rfl]
    obtain ⟨w₂, hw₂, h₂⟩ | ⟨e, w₂, hw₂, he⟩ := h₁.sync_spec
    · exact Or.inl ⟨w₂, cont₁, by rw [bind_ok hw₂, pure_apply], h₂⟩
    · exact Or.inr ⟨e, w₂, bind_error hw₂, he⟩
  · exact Or.inr ⟨e, w₁, bind_error hw₁, he⟩

end

end ChatDesktop.Storage
