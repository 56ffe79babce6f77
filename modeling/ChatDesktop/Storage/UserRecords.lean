import ChatDesktop.Storage.NamedRoots
import Mathlib.Data.Set.Card

namespace ChatDesktop.Storage

open Library Library.Program LocalStorage

def Gets (C : Crypto) (w : World) (id : ℕ) : Prop := ∃ data, LocalStorage.get C w id = .ok (some data)

def Listed (s : LocalStorage) (id : ℕ) : Prop := ∃! tag, tag ≠ kDirTag ∧ id ∈ ids s tag

def Answers {α : Type} (r : Except Error α × World) (a : α) : Prop :=
  r.1 = .ok a ∨ ∃ e, r.1 = .error e ∧ IsIoFailure e

/-- All entry points say the same of `id`; `exists` is `hasRecord`. -/
structure AgreesOn (C : Crypto) (w : World) (id : ℕ) : Prop where
  gets : Gets C w id ↔ hasRecord w.storage id = true
  listed : Listed w.storage id ↔ hasRecord w.storage id = true
  updates : (∀ data, Answers (LocalStorage.update C id data w) true) ↔ hasRecord w.storage id = true
  removes : Answers (LocalStorage.remove C id w) true ↔ hasRecord w.storage id = true
  names : (∀ name, Answers (LocalStorage.setRoot C name id w) ()) ↔ hasRecord w.storage id = true

section

variable {C : Crypto} {pw : Bytes} {w w' : World} {cont : ℕ → List ℕ} {id : ℕ}

lemma Wf.answers {α : Type} {r : Except Error α × World} {a : α} (h : Wf C pw w cont) (op : Op)
    (f : α → Outcome) (hr : step C op w = outcome f r) (hskip : ∀ out, ¬Skipped w op out)
    (hdone : ∀ b w', Success C pw w cont op (f b) w' → b = a)
    (hthrow : ∀ e w', ¬Success C pw w cont op (.failed e) w') (hf : ∀ b e, f b ≠ .failed e) : Answers r a := by
  obtain ⟨_ | b, w'⟩ := r
  · rcases h.step_ends hr with ⟨hs, -⟩ | hs | ⟨e, he, hfail⟩
    · exact (hskip _ hs).elim
    · exact (hthrow _ _ hs).elim
    · obtain rfl := Outcome.failed.inj he
      exact .inr ⟨_, rfl, hfail.isIoFailure⟩
  · rcases h.step_ends hr with ⟨hs, -⟩ | hs | ⟨e, he, -⟩
    · exact (hskip _ hs).elim
    · exact .inl (congrArg Except.ok (hdone b _ hs))
    · exact (hf b e he).elim

lemma Wf.update_answers (h : Wf C pw w cont) (hb : hasRecord w.storage id = true) (data : Bytes) :
    Answers (LocalStorage.update C id data w) true := by
  refine h.answers (.update id data) .answered rfl (fun out hs => ?_) (fun b w' hs => ?_)
    (fun e w' hs => ?_) (fun _ _ => nofun)
  · cases hs with
    | update _ _ hb' => simp [hb] at hb'
  · cases hs
    rfl
  · cases hs

lemma Wf.remove_answers (h : Wf C pw w cont) (hb : hasRecord w.storage id = true) :
    Answers (LocalStorage.remove C id w) true := by
  refine h.answers (.remove id) .answered rfl (fun out hs => ?_) (fun b w' hs => ?_)
    (fun e w' hs => ?_) (fun _ _ => nofun)
  · cases hs with
    | remove _ hb' => simp [hb] at hb'
  · cases hs <;> rfl
  · cases hs

lemma Wf.setRoot_answers (h : Wf C pw w cont) (hb : hasRecord w.storage id = true) (name : Bytes) :
    Answers (LocalStorage.setRoot C name id w) () := by
  refine h.answers (.setRoot name id) (fun _ => .named) rfl (fun out hs => ?_)
    (fun _ _ _ => rfl) (fun e w' hs => ?_) (fun _ _ => nofun)
  · cases hs with
    | setRoot _ _ hb' => simp [hb] at hb'
  · cases hs

lemma refused (hb : hasRecord w.storage id = false) :
    (∀ data, ¬Answers (LocalStorage.update C id data w) true) ∧ ¬Answers (LocalStorage.remove C id w) true ∧
      ∀ name, ¬Answers (LocalStorage.setRoot C name id w) () := by
  refine ⟨fun data => ?_, ?_, fun name => ?_⟩
  · have hr : LocalStorage.update C id data w = (.ok false, w) := by
      rw [LocalStorage.update, get_bind_apply, hb]
      rfl
    rw [hr]
    rintro (he | ⟨e, he, -⟩) <;> cases he
  · have hr : LocalStorage.remove C id w = (.ok false, w) := by
      rw [LocalStorage.remove, get_bind_apply, hb]
      rfl
    rw [hr]
    rintro (he | ⟨e, he, -⟩) <;> cases he
  · have hr : LocalStorage.setRoot C name id w = (.error Store.noSuchRecord, w) := by
      rw [LocalStorage.setRoot, get_bind_apply, hb]
      rfl
    rw [hr]
    rintro (he | ⟨e, he, hio⟩)
    · cases he
    · obtain rfl := Except.error.inj he
      exact absurd hio (by decide)

lemma Wf.listed_iff (h : Wf C pw w cont) : Listed w.storage id ↔ hasRecord w.storage id = true := by
  have hsome : ((abstraction C w cont).record id).isSome = true ↔ hasRecord w.storage id = true := users_isSome
  rw [← hsome]
  constructor
  · rintro ⟨tag, ⟨-, hid⟩, -⟩
    obtain ⟨data, hrecord⟩ := (mem_ids h).mp hid
    rw [hrecord]
    rfl
  · intro hlive
    obtain ⟨⟨tag, data⟩, hrecord⟩ := Option.isSome_iff_exists.mp hlive
    obtain ⟨-, -, -, htag, -⟩ := h.user_tag hrecord
    refine ⟨tag, ⟨htag, (mem_ids h).mpr ⟨data, hrecord⟩⟩, ?_⟩
    rintro tag' ⟨-, hid⟩
    obtain ⟨data', hrecord'⟩ := (mem_ids h).mp hid
    rw [hrecord] at hrecord'
    cases hrecord'
    rfl

lemma Wf.gets_iff (h : Wf C pw w cont) : Gets C w id ↔ id ∈ w.storage.head.keys := by
  constructor
  · rintro ⟨data, hget⟩
    by_contra hid
    rw [LocalStorage.get, getLocked_none hid] at hget
    cases hget
  · intro hid
    exact ⟨_, getLocked_ok h.layout hid⟩

lemma Wf.agreesOn_iff (h : Wf C pw w cont) : AgreesOn C w id ↔ (id = w.storage.dirId → id = 0) := by
  constructor
  · rintro hagrees rfl
    by_contra h0
    have hget := h.gets_iff.mpr (h.directory.mem h0)
    exact (hasRecord_iff.mp (hagrees.gets.mp hget)).1 rfl
  · intro hdir
    have hgets : Gets C w id ↔ hasRecord w.storage id = true := by
      rw [h.gets_iff, hasRecord_iff]
      constructor
      · intro hid
        refine ⟨fun he => h.layout.zero_not_mem ?_, hid⟩
        rwa [hdir he] at hid
      · exact And.right
    cases hb : hasRecord w.storage id with
    | true =>
      rw [hb] at hgets
      refine ⟨by rwa [hb], h.listed_iff, ?_, ?_, ?_⟩
      · exact iff_of_true (h.update_answers hb) hb
      · exact iff_of_true (h.remove_answers hb) hb
      · exact iff_of_true (h.setRoot_answers hb) hb
    | false =>
      obtain ⟨hupdate, hremove, hroot⟩ := refused (C := C) hb
      rw [hb] at hgets
      have hno : ¬hasRecord w.storage id = true := by rw [hb]; decide
      refine ⟨by rwa [hb], h.listed_iff, ?_, ?_, ?_⟩
      · exact iff_of_false (fun hall => hupdate [] (hall [])) hno
      · exact iff_of_false hremove hno
      · exact iff_of_false (fun hall => hroot [] (hall [])) hno

lemma Wf.recordCount_ncard (h : Wf C pw w cont) :
    recordCount w.storage = {id | hasRecord w.storage id = true}.ncard := by
  have hset : {id | hasRecord w.storage id = true} = ((userIds w.storage).toFinset : Set ℕ) := by
    ext id
    rw [Set.mem_ofPred_eq, Finset.mem_coe, List.mem_toFinset, mem_userIds]
  have hnodup : (userIds w.storage).Nodup := (SortedMap.keys_nodup _).filter _
  rw [hset, Set.ncard_coe_finset, List.toFinset_card_of_nodup hnodup, h.recordCount_eq]

/-- All entry points agree on every number but that of the directory, which `get` takes for a record;
the count is that of the others. -/
theorem reachable_agrees (h : Reachable C pw w) :
    (∀ id, AgreesOn C w id ↔ (id = w.storage.dirId → id = 0)) ∧
      recordCount w.storage = {id | hasRecord w.storage id = true}.ncard := by
  obtain ⟨cont, hwf, -⟩ := h.wf
  exact ⟨fun _ => hwf.agreesOn_iff, hwf.recordCount_ncard⟩

end

lemma namedStore_reachable : Reachable .transparent [] namedStore := by
  apply Reachable.step _ step_namedStore (by decide)
  apply Reachable.step _ step_insertedStore (by decide)
  exact .create (by decide) (by decide) rfl rfl construct_smallStore

set_option maxRecDepth 10000 in
/-- The name of record 1 is kept in block 2, and `get` gives it out. -/
theorem directory_is_read :
    ¬∀ w, Reachable .transparent [] w → ∀ id, AgreesOn .transparent w id := by
  intro h
  have hget : LocalStorage.get .transparent namedStore 2 = .ok (some (directoryBytes namedStore.storage.roots)) := by
    decide +kernel
  have hrecord := (h namedStore namedStore_reachable 2).gets.mp ⟨_, hget⟩
  exact absurd hrecord (by decide +kernel)

theorem reachable_agrees_sample :
    AgreesOn .transparent namedStore 1 ∧ recordCount namedStore.storage = 1 := by
  obtain ⟨hagrees, -⟩ := reachable_agrees namedStore_reachable
  refine ⟨(hagrees 1).mpr fun hdir => absurd hdir (by decide +kernel), by decide +kernel⟩

end ChatDesktop.Storage
