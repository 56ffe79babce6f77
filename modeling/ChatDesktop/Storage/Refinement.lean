import ChatDesktop.Storage.Operations
import ChatDesktop.Storage.Store

namespace ChatDesktop.Storage

open Library Library.Program Library.Transition LocalStorage

def outcome {α : Type} (f : α → Outcome) : Except Error α × World → Outcome × World
  | (.ok a, w) => (f a, w)
  | (.error e, w) => (.failed e, w)

def step (C : Crypto) : Op → World → Outcome × World
  | .insert data tag, w => outcome .inserted (LocalStorage.insert C data tag w)
  | .update id data, w => outcome .answered (LocalStorage.update C id data w)
  | .remove id, w => outcome .answered (LocalStorage.remove C id w)
  | .setRoot name id, w => outcome (fun _ => .named) (LocalStorage.setRoot C name id w)
  | .removeRoot name, w => outcome .answered (LocalStorage.removeRoot C name w)

def Steps (C : Crypto) (w : World) (l : Op × Outcome) (w' : World) : Prop := step C l.1 w = (l.2, w')

def IoFailed (o : Outcome) : Prop := ∃ e, o = .failed e ∧ IsIoFailure e

def abstraction (C : Crypto) (w : World) (cont : ℕ → List ℕ) : Store where
  record := users (blocks C w) w.storage.head cont w.storage.dirId
  root name := w.storage.roots.find? name

structure Recorded (C : Crypto) (w : World) (cont : ℕ → List ℕ) : Prop where
  empty : w.storage.dirId = 0 → w.storage.roots = .empty
  written : w.storage.dirId ≠ 0 → directoryOf (blocks C w) cont w.storage.dirId =
    parseDirectory (directoryBytes w.storage.roots)

section

variable {C : Crypto} {pw : Bytes} {w w' : World} {cont cont' : ℕ → List ℕ} {id : ℕ} {data name : Bytes}
  {tag : UInt32} {out : Outcome}

lemma users_isSome : (users (blocks C w) w.storage.head cont w.storage.dirId id).isSome = true ↔
    hasRecord w.storage id = true := by
  rw [hasRecord_iff]
  by_cases hid : id = w.storage.dirId
  · rw [hid, users_self]
    simp
  · rw [users_of_ne hid, records_isSome, and_iff_right hid]

lemma users_eq_none : users (blocks C w) w.storage.head cont w.storage.dirId id = none ↔
    hasRecord w.storage id = false := by
  rw [← Option.not_isSome_iff_eq_none, users_isSome, Bool.not_eq_true]

lemma Wf.user_tag (h : Wf C pw w cont)
    (hu : users (blocks C w) w.storage.head cont w.storage.dirId id = some (tag, data)) :
    ∃ hi, w.storage.head.find? id = some hi ∧ hi.tag = tag ∧ tag ≠ kDirTag ∧ id ≠ w.storage.dirId ∧
      content (blocks C w) (id :: cont id) = data := by
  by_cases hid : id = w.storage.dirId
  · rw [hid, users_self] at hu
    cases hu
  · rw [users_of_ne hid, records, Option.map_eq_some_iff] at hu
    obtain ⟨hi, hh, he⟩ := hu
    obtain ⟨rfl, rfl⟩ := Prod.mk.inj he
    exact ⟨hi, hh, rfl, fun ht => hid ((h.directory.tag_iff id hi hh).mp ht), hid, rfl⟩

def withRoots (s : LocalStorage) (roots : Roots) : LocalStorage := { s with roots := roots }

lemma blocks_withRoots (w : World) (roots : Roots) :
    blocks C (w.put (withRoots w.storage roots)) = blocks C w := blocks_congr rfl rfl rfl rfl rfl

lemma Wf.with_roots (h : Wf C pw w cont) (roots : Roots) :
    Wf C pw (w.put (withRoots w.storage roots)) cont := by
  have hb := blocks_withRoots (C := C) w roots
  exact ⟨⟨h.opened, h.formatted.congr rfl rfl rfl rfl rfl, h.inRange, by rw [hb]; exact h.dense,
    by rw [hb]; exact h.layout, h.tags⟩, h.directory, h.clean⟩

lemma Wf.congr (h : Wf C pw w cont) (hs : w'.storage = w.storage) (hf : w'.file = w.file) : Wf C pw w' cont := by
  obtain ⟨s', f', d', k'⟩ := w'
  obtain rfl : s' = w.storage := hs
  obtain rfl : f' = w.file := hf
  have hb : blocks C ⟨w.storage, w.file, d', k'⟩ = blocks C w := blocks_congr rfl rfl rfl rfl rfl
  exact ⟨⟨h.opened, h.formatted.congr rfl rfl rfl rfl rfl, h.inRange, hb ▸ h.dense, hb ▸ h.layout, h.tags⟩,
    h.directory, h.clean⟩

lemma Wf.faulted (h : Wf C pw w cont) (f : Option ℕ) : Wf C pw { w with faults := f } cont := h.congr rfl rfl

lemma Recorded.congr (h : Recorded C w cont) (hs : w'.storage = w.storage) (hf : w'.file = w.file) :
    Recorded C w' cont := by
  obtain ⟨s', f', d', k'⟩ := w'
  obtain rfl : s' = w.storage := hs
  obtain rfl : f' = w.file := hf
  exact ⟨h.empty, h.written⟩

lemma Recorded.faulted (h : Recorded C w cont) (f : Option ℕ) : Recorded C { w with faults := f } cont :=
  h.congr rfl rfl

lemma DirectorySaved.abstraction_eq {roots : Roots}
    (h : DirectorySaved C pw (w.put (withRoots w.storage roots)) w' cont cont') :
    abstraction C w' cont' = ⟨(abstraction C w cont).record, fun n => roots.find? n⟩ := by
  have hu := h.users
  have hr : w'.storage.roots = roots := h.roots
  rw [blocks_withRoots] at hu
  simp only [abstraction, hr]
  exact congrArg (fun f => Store.mk f _) hu

lemma DirectorySaved.recorded (h : DirectorySaved C pw w w' cont cont') : Recorded C w' cont' :=
  ⟨fun h0 => absurd h0 h.named, fun _ => by rw [h.directory, h.roots]⟩

lemma Recorded.frame (h : Recorded C w cont) (hw : Wf C pw w cont)
    (hid : w'.storage.dirId = w.storage.dirId) (hroots : w'.storage.roots = w.storage.roots)
    (hrec : records (blocks C w') w'.storage.head cont' w.storage.dirId =
      records (blocks C w) w.storage.head cont w.storage.dirId) : Recorded C w' cont' := by
  refine ⟨fun h0 => hroots.trans (h.empty (hid ▸ h0)), fun h0 => ?_⟩
  rw [hid] at h0 ⊢
  obtain ⟨hi, hh⟩ := SortedMap.mem_keys.mp (hw.directory.mem h0)
  have hold : records (blocks C w) w.storage.head cont w.storage.dirId =
      some (hi.tag, content (blocks C w) (w.storage.dirId :: cont w.storage.dirId)) := by
    rw [records, hh, Option.map_some]
  rw [hroots, ← h.written h0, directoryOf_of_records h0 (hrec.trans hold), directoryOf_of_records h0 hold]

lemma users_update {d d' : Disk} {heads heads' : Heads} {dirId : ℕ} {r : Option (UInt32 × Bytes)}
    (hid : id ≠ dirId) (hrec : records d' heads' cont' = Function.update (records d heads cont) id r) :
    users d' heads' cont' dirId = Function.update (users d heads cont dirId) id r := by
  funext i
  by_cases hi : i = dirId
  · rw [hi, users_self, Function.update_of_ne (Ne.symm hid), users_self]
  · rw [users_of_ne hi, hrec]
    by_cases hii : i = id
    · rw [hii, Function.update_self, Function.update_self]
    · rw [Function.update_of_ne hii, Function.update_of_ne hii, users_of_ne hi]

/-! ### One operation at a time -/

def Refined (C : Crypto) (pw : Bytes) (w : World) (cont : ℕ → List ℕ) (op : Op) (out : Outcome)
    (w' : World) : Prop :=
  ∃ cont', Wf C pw w' cont' ∧
    Store.Step (abstraction C w cont) (op, out) (abstraction C w' cont') ∧
    (Recorded C w cont → Recorded C w' cont')

lemma Wf.refl_step {op : Op} (h : Wf C pw w cont)
    (hs : Store.Step (abstraction C w cont) (op, out) (abstraction C w cont)) :
    Refined C pw w cont op out w := ⟨cont, h, hs, id⟩

lemma IsDirectory.insert_user {heads : Heads} {dirId : ℕ} {hi : HeadInfo} (h : IsDirectory heads dirId)
    (hid : id ≠ dirId) (htag : hi.tag ≠ kDirTag) : IsDirectory (heads.insert id hi) dirId := by
  refine ⟨fun k hk hfind => ?_, fun h0 => SortedMap.mem_keys_insert.mpr (Or.inr (h.mem h0))⟩
  rw [SortedMap.find?_insert] at hfind
  split_ifs at hfind with he
  · rw [← Option.some.inj hfind, ← he]
    exact iff_of_false htag hid
  · exact h.tag_iff k hk hfind

lemma Wf.insert_ready (h : Wf C pw w cont) (data : Bytes) :
    (insertIds w.storage data).getD 0 0 ∉ w.storage.head.keys ∧
      0 < (insertIds w.storage data).getD 0 0 ∧
      (insertIds w.storage data).getD 0 0 ≠ w.storage.dirId := by
  have hlay := h.insert_layout data
  have hmem := getD_mem (insertIds_pos w.storage data)
  have hnot : (insertIds w.storage data).getD 0 0 ∉ w.storage.head.keys := fun hk =>
    hlay.chain_not_free (head_mem_chainBlocks hk) (List.mem_append_left _ hmem)
  have hrange := hlay.free_range (List.mem_append_left _ hmem)
  refine ⟨hnot, hrange.1, fun he => ?_⟩
  exact hnot (he ▸ h.directory.mem (by omega))

lemma Wf.insert_refined (h : Wf C pw w cont) (htag : tag ≠ kDirTag)
    (hp : Performed C pw (w.put (insertStart w.storage data)) w.storage.nblocks
      (insertEvents w.storage data tag) w')
    (hr : InRange w.storage.bs (insertEvents w.storage data tag)) :
    Refined C pw w cont (.insert data tag) (.inserted ((insertIds w.storage data).getD 0 0))
      (w'.put (inserted w.storage data tag)) := by
  obtain ⟨hsound, hrec⟩ := h.insert_done hp hr
  obtain ⟨hnew, hpos, hdir⟩ := h.insert_ready data
  obtain ⟨id, hid⟩ : ∃ id, id = (insertIds w.storage data).getD 0 0 := ⟨_, rfl⟩
  have hstart := insertStart_eq w.storage data
  have hdirId : (inserted w.storage data tag).dirId = w.storage.dirId := by simp only [inserted, hstart]
  have hroots : (inserted w.storage data tag).roots = w.storage.roots := by simp only [inserted, hstart]
  have hclean : (inserted w.storage data tag).dirDirty = w.storage.dirDirty := by
    simp only [inserted, hstart]
  have hhead : (inserted w.storage data tag).head =
      w.storage.head.insert id ⟨tag, (insertIds w.storage data).getD 1 0⟩ := by rw [hid]; rfl
  rw [← hid] at hsound hrec hnew hpos hdir ⊢
  refine ⟨_, ⟨hsound, ?_, ?_⟩, ?_, fun hrec' => hrec'.frame h hdirId hroots ?_⟩
  · rw [World.put_storage, hhead, hdirId]
    exact h.directory.insert_user hdir htag
  · rw [World.put_storage, hclean, h.clean]
  · have hold : (abstraction C w cont).record id = none := by
      rw [← Option.not_isSome_iff_eq_none]
      exact fun hs => hnew (hasRecord_iff.mp (users_isSome.mp hs)).2
    have ha : abstraction C (w'.put (inserted w.storage data tag))
        (Function.update cont id ((insertIds w.storage data).drop 1)) =
        (abstraction C w cont).put id (tag, data) := by
      simp only [abstraction, Store.put, World.put_storage, hroots, hdirId]
      rw [users_update hdir hrec]
    rw [ha]
    exact .insert _ data tag id htag hpos hold
  · exact (congrFun hrec _).trans (Function.update_of_ne (Ne.symm hdir) _ _)

lemma Wf.update_refined (h : Wf C pw w cont) {hi : HeadInfo} (hh : w.storage.head.find? id = some hi)
    (hid : id ≠ w.storage.dirId)
    (hp : Performed C pw (w.put (updateStart w.storage data)) w.storage.nblocks
      (updateEvents w.storage id data hi.tag) w')
    (hr : InRange w.storage.bs (updateEvents w.storage id data hi.tag)) :
    Refined C pw w cont (.update id data) (.answered true)
      (w'.put (updated w.storage id data hi.tag (cont id))) := by
  obtain ⟨hsound, hrec⟩ := h.update_done hh hp hr
  have hstart := updateStart_eq w.storage data
  have hdirId : (updated w.storage id data hi.tag (cont id)).dirId = w.storage.dirId := by
    simp only [updated, hstart]
  have hroots : (updated w.storage id data hi.tag (cont id)).roots = w.storage.roots := by
    simp only [updated, hstart]
  have hclean : (updated w.storage id data hi.tag (cont id)).dirDirty = w.storage.dirDirty := by
    simp only [updated, hstart]
  refine ⟨_, ⟨hsound, ?_, ?_⟩, ?_, fun hrec' => hrec'.frame h hdirId hroots ?_⟩
  · rw [World.put_storage, hdirId]
    exact h.directory.relink hh rfl
  · rw [World.put_storage, hclean, h.clean]
  · have hold : (abstraction C w cont).record id =
        some (hi.tag, content (blocks C w) (id :: cont id)) := by
      simp only [abstraction]
      rw [users_of_ne hid, records, hh, Option.map_some]
    have ha : abstraction C (w'.put (updated w.storage id data hi.tag (cont id)))
        (Function.update cont id (updateFresh w.storage data)) =
        (abstraction C w cont).put id (hi.tag, data) := by
      simp only [abstraction, Store.put, World.put_storage, hroots, hdirId]
      rw [users_update hid hrec]
    rw [ha]
    exact .update _ id hi.tag _ data hold
  · exact (congrFun hrec _).trans (Function.update_of_ne (Ne.symm hid) _ _)

lemma find?_filter_ne (roots : Roots) (n : Bytes) :
    (roots.filter (fun _ r => !decide (r = id))).find? n =
      if roots.find? n = some id then none else roots.find? n := by
  rw [SortedMap.find?_filter]
  cases roots.find? n with
  | none => simp
  | some r =>
    by_cases hr : r = id
    · simp [hr, Option.filter]
    · simp [hr, Option.filter]

lemma Wf.free_abstraction (h : Wf C pw w cont) {hi : HeadInfo}
    (hh : w.storage.head.find? id = some hi) (hid : id ≠ w.storage.dirId)
    (hp : Performed C pw w w.storage.nblocks (freeEvents w.storage id) w') :
    Wf C pw (w'.put (removed w.storage id hi.tag (cont id))) cont ∧
    abstraction C (w'.put (removed w.storage id hi.tag (cont id))) cont =
      (abstraction C w cont).delete id ∧
    (rooted w.storage id = false → Recorded C w cont →
      Recorded C (w'.put (removed w.storage id hi.tag (cont id))) cont) := by
  obtain ⟨hwf, hrec⟩ := h.free_done hh hid hp
  refine ⟨hwf, ?_, fun hno hrec' => hrec'.frame h rfl ?_ ?_⟩
  · have hu := users_update hid hrec
    have hroots : (fun n => (removed w.storage id hi.tag (cont id)).roots.find? n) =
        fun n => if w.storage.roots.find? n = some id then none else w.storage.roots.find? n :=
      funext (find?_filter_ne w.storage.roots)
    simp only [abstraction, Store.delete, World.put_storage, hroots]
    exact congrArg (fun f => Store.mk f _) hu
  · ext1 n
    refine (find?_filter_ne w.storage.roots n).trans (if_neg (fun hn => ?_))
    rw [rooted_iff.mpr ⟨n, hn⟩] at hno
    cases hno
  · exact (congrFun hrec _).trans (Function.update_of_ne (Ne.symm hid) _ _)

lemma hasRecord_find? (hb : hasRecord w.storage id = true) :
    id ≠ w.storage.dirId ∧ ∃ hi, w.storage.head.find? id = some hi :=
  ⟨(hasRecord_iff.mp hb).1, SortedMap.mem_keys.mp (hasRecord_iff.mp hb).2⟩

inductive Skipped (w : World) : Op → Outcome → Prop
  | insert (data : Bytes) : Skipped w (.insert data kDirTag) (.failed Store.reservedTag)
  | update (id : ℕ) (data : Bytes) (hb : hasRecord w.storage id = false) :
      Skipped w (.update id data) (.answered false)
  | remove (id : ℕ) (hb : hasRecord w.storage id = false) : Skipped w (.remove id) (.answered false)
  | setRoot (name : Bytes) (id : ℕ) (hb : hasRecord w.storage id = false) :
      Skipped w (.setRoot name id) (.failed Store.noSuchRecord)
  | removeRoot (name : Bytes) (hb : w.storage.roots.contains name = false) :
      Skipped w (.removeRoot name) (.answered false)

inductive Success (C : Crypto) (pw : Bytes) (w : World) (cont : ℕ → List ℕ) : Op → Outcome → World → Prop
  | insert {data : Bytes} {tag : UInt32} {w₁ : World} (htag : tag ≠ kDirTag)
      (h : Finished C pw (w.put (insertStart w.storage data)) w.storage.nblocks
        (insertEvents w.storage data tag) w₁) :
      Success C pw w cont (.insert data tag) (.inserted ((insertIds w.storage data).getD 0 0))
        (w₁.put (inserted w.storage data tag))
  | update {id : ℕ} {data : Bytes} {hi : HeadInfo} {w₁ : World} (hid : id ≠ w.storage.dirId)
      (hh : w.storage.head.find? id = some hi)
      (h : Finished C pw (w.put (updateStart w.storage data)) w.storage.nblocks
        (updateEvents w.storage id data hi.tag) w₁) :
      Success C pw w cont (.update id data) (.answered true)
        (w₁.put (updated w.storage id data hi.tag (cont id)))
  | free {id : ℕ} {hi : HeadInfo} {w₁ : World} (hid : id ≠ w.storage.dirId)
      (hh : w.storage.head.find? id = some hi) (hroot : rooted w.storage id = false)
      (h : Finished C pw w w.storage.nblocks (freeEvents w.storage id) w₁) :
      Success C pw w cont (.remove id) (.answered true) (w₁.put (removed w.storage id hi.tag (cont id)))
  | unname {id : ℕ} {hi : HeadInfo} {w₁ w₂ : World} {s : LocalStorage} {cont' : ℕ → List ℕ}
      (hid : id ≠ w.storage.dirId) (hh : w.storage.head.find? id = some hi)
      (hroot : rooted w.storage id = true)
      (h : Finished C pw w w.storage.nblocks (freeEvents w.storage id) w₁)
      (h' : Finished C pw ((w₁.put (removed w.storage id hi.tag (cont id))).put
        (directoryStart (removed w.storage id hi.tag (cont id)))) w.storage.nblocks
        (directoryEvents (removed w.storage id hi.tag (cont id))) w₂)
      (hs : DirectorySaved C pw (w₁.put (removed w.storage id hi.tag (cont id))) (w₂.put s) cont cont') :
      Success C pw w cont (.remove id) (.answered true) (w₂.put s)
  | setRoot {name : Bytes} {id : ℕ} {w₁ : World} {s : LocalStorage} {cont' : ℕ → List ℕ}
      (hb : hasRecord w.storage id = true)
      (h : Finished C pw ((w.put (withRoots w.storage (w.storage.roots.insert name id))).put
        (directoryStart (withRoots w.storage (w.storage.roots.insert name id)))) w.storage.nblocks
        (directoryEvents (withRoots w.storage (w.storage.roots.insert name id))) w₁)
      (hs : DirectorySaved C pw (w.put (withRoots w.storage (w.storage.roots.insert name id))) (w₁.put s)
        cont cont') :
      Success C pw w cont (.setRoot name id) .named (w₁.put s)
  | removeRoot {name : Bytes} {w₁ : World} {s : LocalStorage} {cont' : ℕ → List ℕ}
      (hb : w.storage.roots.contains name = true)
      (h : Finished C pw ((w.put (withRoots w.storage (w.storage.roots.erase name))).put
        (directoryStart (withRoots w.storage (w.storage.roots.erase name)))) w.storage.nblocks
        (directoryEvents (withRoots w.storage (w.storage.roots.erase name))) w₁)
      (hs : DirectorySaved C pw (w.put (withRoots w.storage (w.storage.roots.erase name))) (w₁.put s)
        cont cont') :
      Success C pw w cont (.removeRoot name) (.answered true) (w₁.put s)

inductive Failure (C : Crypto) (pw : Bytes) (w : World) (cont : ℕ → List ℕ) (e : Error) (w' : World) :
    Op → Prop
  | insert {data : Bytes} {tag : UInt32} {k : ℕ} (htag : tag ≠ kDirTag)
      (h : Halted C pw (w.put (insertStart w.storage data)) w.storage.nblocks
        (insertEvents w.storage data tag) e k w') : Failure C pw w cont e w' (.insert data tag)
  | update {id : ℕ} {data : Bytes} {hi : HeadInfo} {k : ℕ} (hid : id ≠ w.storage.dirId)
      (hh : w.storage.head.find? id = some hi)
      (h : Halted C pw (w.put (updateStart w.storage data)) w.storage.nblocks
        (updateEvents w.storage id data hi.tag) e k w') : Failure C pw w cont e w' (.update id data)
  | free {id : ℕ} {hi : HeadInfo} {k : ℕ} (hid : id ≠ w.storage.dirId)
      (hh : w.storage.head.find? id = some hi)
      (h : Halted C pw w w.storage.nblocks (freeEvents w.storage id) e k w') :
      Failure C pw w cont e w' (.remove id)
  | unname {id : ℕ} {hi : HeadInfo} {w₁ : World} {k : ℕ} (hid : id ≠ w.storage.dirId)
      (hh : w.storage.head.find? id = some hi) (hroot : rooted w.storage id = true)
      (h : Finished C pw w w.storage.nblocks (freeEvents w.storage id) w₁)
      (h' : Halted C pw ((w₁.put (removed w.storage id hi.tag (cont id))).put
        (directoryStart (removed w.storage id hi.tag (cont id)))) w.storage.nblocks
        (directoryEvents (removed w.storage id hi.tag (cont id))) e k w') :
      Failure C pw w cont e w' (.remove id)
  | setRoot {name : Bytes} {id k : ℕ} (hb : hasRecord w.storage id = true)
      (h : Halted C pw ((w.put (withRoots w.storage (w.storage.roots.insert name id))).put
        (directoryStart (withRoots w.storage (w.storage.roots.insert name id)))) w.storage.nblocks
        (directoryEvents (withRoots w.storage (w.storage.roots.insert name id))) e k w') :
      Failure C pw w cont e w' (.setRoot name id)
  | removeRoot {name : Bytes} {k : ℕ} (hb : w.storage.roots.contains name = true)
      (h : Halted C pw ((w.put (withRoots w.storage (w.storage.roots.erase name))).put
        (directoryStart (withRoots w.storage (w.storage.roots.erase name)))) w.storage.nblocks
        (directoryEvents (withRoots w.storage (w.storage.roots.erase name))) e k w') :
      Failure C pw w cont e w' (.removeRoot name)

lemma Failure.isIoFailure {e : Error} {op : Op} (h : Failure C pw w cont e w' op) : IsIoFailure e := by
  cases h <;> rename_i h <;> exact h.failure

def Ends (C : Crypto) (pw : Bytes) (w : World) (cont : ℕ → List ℕ) (op : Op) (out : Outcome)
    (w' : World) : Prop :=
  (Skipped w op out ∧ w' = w) ∨ Success C pw w cont op out w' ∨
    ∃ e, out = .failed e ∧ Failure C pw w cont e w' op

lemma Wf.step_insert (h : Wf C pw w cont) (hs : step C (.insert data tag) w = (out, w')) :
    Ends C pw w cont (.insert data tag) out w' := by
  simp only [step, LocalStorage.insert, get_bind_apply, h.opened, Bool.not_true] at hs
  by_cases htag : tag = kDirTag
  · rw [if_pos htag] at hs
    obtain ⟨rfl, rfl⟩ := Prod.mk.inj hs
    subst htag
    exact Or.inl ⟨.insert data, rfl⟩
  · rw [if_neg htag] at hs
    simp only [Bool.false_eq_true, if_false] at hs
    rcases h.insertLocked_spec data tag with ⟨w₁, hw, hd⟩ | ⟨e, k, w₁, hw, hd⟩
    · rw [hw] at hs
      obtain ⟨rfl, rfl⟩ := Prod.mk.inj hs
      exact Or.inr (Or.inl (.insert htag hd))
    · rw [hw] at hs
      obtain ⟨rfl, rfl⟩ := Prod.mk.inj hs
      exact Or.inr (Or.inr ⟨e, rfl, .insert htag hd⟩)

lemma Wf.step_update (h : Wf C pw w cont) (hs : step C (.update id data) w = (out, w')) :
    Ends C pw w cont (.update id data) out w' := by
  simp only [step, LocalStorage.update, get_bind_apply] at hs
  cases hb : hasRecord w.storage id with
  | false =>
    rw [hb] at hs
    obtain ⟨rfl, rfl⟩ := Prod.mk.inj hs
    exact Or.inl ⟨.update id data hb, rfl⟩
  | true =>
    rw [hb, if_pos rfl] at hs
    obtain ⟨hid, hi, hh⟩ := hasRecord_find? hb
    rcases h.updateLocked_spec hh data with ⟨w₁, hw, hd⟩ | ⟨e, k, w₁, hw, hd⟩
    · rw [bind_ok hw] at hs
      obtain ⟨rfl, rfl⟩ := Prod.mk.inj hs
      exact Or.inr (Or.inl (.update hid hh hd))
    · rw [bind_error hw] at hs
      obtain ⟨rfl, rfl⟩ := Prod.mk.inj hs
      exact Or.inr (Or.inr ⟨e, rfl, .update hid hh hd⟩)

lemma Wf.step_remove (h : Wf C pw w cont) (hs : step C (.remove id) w = (out, w')) :
    Ends C pw w cont (.remove id) out w' := by
  simp only [step, LocalStorage.remove, get_bind_apply] at hs
  cases hb : hasRecord w.storage id with
  | false =>
    rw [hb] at hs
    obtain ⟨rfl, rfl⟩ := Prod.mk.inj hs
    exact Or.inl ⟨.remove id hb, rfl⟩
  | true =>
    rw [hb, if_pos rfl] at hs
    obtain ⟨hid, hi, hh⟩ := hasRecord_find? hb
    rcases h.removeLocked_spec hh with ⟨w₁, hd, hw⟩ | ⟨e, k, w₁, hw, hd⟩
    · cases hroot : rooted w.storage id with
      | false =>
        rw [hroot, when_neg (by simp)] at hw
        rw [bind_ok hw] at hs
        obtain ⟨rfl, rfl⟩ := Prod.mk.inj hs
        exact Or.inr (Or.inl (.free hid hh hroot hd))
      | true =>
        rw [hroot, when_pos rfl] at hw
        have hwf := (h.free_done hh hid hd.toPerformed).1
        rcases hwf.saveDirectoryLocked_spec with ⟨w₂, s, cont', hs', hd', hds⟩ | ⟨e, k, w₂, hs', hd'⟩
        · rw [bind_ok (hw.trans hs')] at hs
          obtain ⟨rfl, rfl⟩ := Prod.mk.inj hs
          exact Or.inr (Or.inl (.unname hid hh hroot hd hd' hds))
        · rw [bind_error (hw.trans hs')] at hs
          obtain ⟨rfl, rfl⟩ := Prod.mk.inj hs
          exact Or.inr (Or.inr ⟨e, rfl, .unname hid hh hroot hd hd'⟩)
    · rw [bind_error hw] at hs
      obtain ⟨rfl, rfl⟩ := Prod.mk.inj hs
      exact Or.inr (Or.inr ⟨e, rfl, .free hid hh hd⟩)

lemma Wf.step_setRoot (h : Wf C pw w cont) (hs : step C (.setRoot name id) w = (out, w')) :
    Ends C pw w cont (.setRoot name id) out w' := by
  simp only [step, LocalStorage.setRoot, get_bind_apply] at hs
  cases hb : hasRecord w.storage id with
  | false =>
    rw [hb] at hs
    obtain ⟨rfl, rfl⟩ := Prod.mk.inj hs
    exact Or.inl ⟨.setRoot name id hb, rfl⟩
  | true =>
    rw [hb, if_pos rfl, LocalStorage.set, modify_bind_apply] at hs
    have hwf := h.with_roots (w.storage.roots.insert name id)
    rcases hwf.saveDirectoryLocked_spec with ⟨w₁, s, cont', hw, hd, hds⟩ | ⟨e, k, w₁, hw, hd⟩
    · rw [show saveDirectoryLocked C (w.put { w.storage with roots := w.storage.roots.insert name id }) =
        (.ok (), w₁.put s) from hw] at hs
      obtain ⟨rfl, rfl⟩ := Prod.mk.inj hs
      exact Or.inr (Or.inl (.setRoot hb hd hds))
    · rw [show saveDirectoryLocked C (w.put { w.storage with roots := w.storage.roots.insert name id }) =
        (.error e, w₁) from hw] at hs
      obtain ⟨rfl, rfl⟩ := Prod.mk.inj hs
      exact Or.inr (Or.inr ⟨e, rfl, .setRoot hb hd⟩)

lemma Wf.step_removeRoot (h : Wf C pw w cont) (hs : step C (.removeRoot name) w = (out, w')) :
    Ends C pw w cont (.removeRoot name) out w' := by
  simp only [step, LocalStorage.removeRoot, get_bind_apply] at hs
  cases hb : w.storage.roots.contains name with
  | false =>
    rw [hb] at hs
    obtain ⟨rfl, rfl⟩ := Prod.mk.inj hs
    exact Or.inl ⟨.removeRoot name hb, rfl⟩
  | true =>
    rw [hb, if_pos rfl, LocalStorage.set, modify_bind_apply] at hs
    have hwf := h.with_roots (w.storage.roots.erase name)
    rcases hwf.saveDirectoryLocked_spec with ⟨w₁, s, cont', hw, hd, hds⟩ | ⟨e, k, w₁, hw, hd⟩
    · rw [bind_ok (show saveDirectoryLocked C (w.put { w.storage with roots := w.storage.roots.erase name }) =
        (.ok (), w₁.put s) from hw)] at hs
      obtain ⟨rfl, rfl⟩ := Prod.mk.inj hs
      exact Or.inr (Or.inl (.removeRoot hb hd hds))
    · rw [bind_error (show saveDirectoryLocked C (w.put { w.storage with roots := w.storage.roots.erase name }) =
        (.error e, w₁) from hw)] at hs
      obtain ⟨rfl, rfl⟩ := Prod.mk.inj hs
      exact Or.inr (Or.inr ⟨e, rfl, .removeRoot hb hd⟩)

lemma Wf.step_ends (h : Wf C pw w cont) {op : Op} (hs : step C op w = (out, w')) :
    Ends C pw w cont op out w' := by
  cases op with
  | insert data tag => exact h.step_insert hs
  | update id data => exact h.step_update hs
  | remove id => exact h.step_remove hs
  | setRoot name id => exact h.step_setRoot hs
  | removeRoot name => exact h.step_removeRoot hs

lemma Wf.skipped_refined (h : Wf C pw w cont) {op : Op} (hs : Skipped w op out) :
    Refined C pw w cont op out w := by
  cases hs with
  | insert data => exact h.refl_step (.insertReserved _ data)
  | update id data hb => exact h.refl_step (.updateMissing _ id data (users_eq_none.mpr hb))
  | remove id hb => exact h.refl_step (.removeMissing _ id (users_eq_none.mpr hb))
  | setRoot name id hb => exact h.refl_step (.setRootMissing _ name id (users_eq_none.mpr hb))
  | removeRoot name hb =>
    exact h.refl_step (.removeRootMissing _ name (by simpa [SortedMap.contains, abstraction] using hb))

lemma Wf.free_refined (h : Wf C pw w cont) {hi : HeadInfo} (hh : w.storage.head.find? id = some hi)
    (hid : id ≠ w.storage.dirId) (hroot : rooted w.storage id = false)
    (hp : Performed C pw w w.storage.nblocks (freeEvents w.storage id) w') :
    Refined C pw w cont (.remove id) (.answered true) (w'.put (removed w.storage id hi.tag (cont id))) := by
  obtain ⟨hwf, ha, hrec⟩ := h.free_abstraction hh hid hp
  refine ⟨cont, hwf, ?_, hrec hroot⟩
  rw [ha]
  exact .remove _ id (users_isSome.mpr (hasRecord_iff.mpr ⟨hid, SortedMap.mem_keys_of_find? hh⟩))

lemma Wf.unname_refined (h : Wf C pw w cont) {hi : HeadInfo} {w₁ : World}
    (hh : w.storage.head.find? id = some hi) (hid : id ≠ w.storage.dirId)
    (hp : Performed C pw w w.storage.nblocks (freeEvents w.storage id) w₁)
    (hds : DirectorySaved C pw (w₁.put (removed w.storage id hi.tag (cont id))) w' cont cont') :
    Refined C pw w cont (.remove id) (.answered true) w' := by
  obtain ⟨-, ha, -⟩ := h.free_abstraction hh hid hp
  refine ⟨cont', hds.wf, ?_, fun _ => hds.recorded⟩
  have hab : abstraction C w' cont' = (abstraction C w cont).delete id := by
    rw [← ha]
    simp only [abstraction, hds.users, hds.roots]
  rw [hab]
  exact .remove _ id (users_isSome.mpr (hasRecord_iff.mpr ⟨hid, SortedMap.mem_keys_of_find? hh⟩))

lemma Wf.setRoot_refined (hb : hasRecord w.storage id = true)
    (hds : DirectorySaved C pw (w.put (withRoots w.storage (w.storage.roots.insert name id))) w'
      cont cont') : Refined C pw w cont (.setRoot name id) .named w' := by
  refine ⟨cont', hds.wf, ?_, fun _ => hds.recorded⟩
  have ha : abstraction C w' cont' = (abstraction C w cont).name name (some id) := by
    rw [hds.abstraction_eq]
    simp only [Store.name, abstraction]
    congr 1
    funext n
    rw [SortedMap.find?_insert]
    by_cases hn : n = name
    · rw [if_pos hn.symm, hn, Function.update_self]
    · rw [if_neg (Ne.symm hn), Function.update_of_ne hn]
  rw [ha]
  exact .setRoot _ name id (users_isSome.mpr hb)

lemma Wf.removeRoot_refined (hb : w.storage.roots.contains name = true)
    (hds : DirectorySaved C pw (w.put (withRoots w.storage (w.storage.roots.erase name))) w'
      cont cont') : Refined C pw w cont (.removeRoot name) (.answered true) w' := by
  refine ⟨cont', hds.wf, ?_, fun _ => hds.recorded⟩
  have ha : abstraction C w' cont' = (abstraction C w cont).name name none := by
    rw [hds.abstraction_eq]
    simp only [Store.name, abstraction]
    congr 1
    funext n
    rw [SortedMap.find?_erase]
    by_cases hn : n = name
    · rw [if_pos hn, hn, Function.update_self]
    · rw [if_neg hn, Function.update_of_ne hn]
  rw [ha]
  exact .removeRoot _ name hb

lemma Wf.success_refined (h : Wf C pw w cont) {op : Op} (hs : Success C pw w cont op out w') :
    Refined C pw w cont op out w' := by
  cases hs with
  | insert htag hd =>
    have hr := hd.inRange
    rw [World.put_storage, insertStart_bs] at hr
    exact h.insert_refined htag hd.toPerformed hr
  | update hid hh hd =>
    have hr := hd.inRange
    rw [World.put_storage, updateStart_bs] at hr
    exact h.update_refined hh hid hd.toPerformed hr
  | free hid hh hroot hd => exact h.free_refined hh hid hroot hd.toPerformed
  | unname hid hh _ hd _ hds => exact h.unname_refined hh hid hd.toPerformed hds
  | setRoot hb _ hds => exact Wf.setRoot_refined hb hds
  | removeRoot hb _ hds => exact Wf.removeRoot_refined hb hds

lemma Wf.step_spec (h : Wf C pw w cont) {op : Op} (hs : step C op w = (out, w')) :
    Refined C pw w cont op out w' ∨ IoFailed out := by
  rcases h.step_ends hs with ⟨hsk, rfl⟩ | hsu | ⟨e, he, hf⟩
  · exact Or.inl (h.skipped_refined hsk)
  · exact Or.inl (h.success_refined hsu)
  · exact Or.inr ⟨e, he, hf.isIoFailure⟩

/-! ### Runs -/

/-- The open store `w` stands for the abstract store `a`. -/
structure Related (C : Crypto) (pw : Bytes) (w : World) (a : Store) (cont : ℕ → List ℕ) : Prop where
  wf : Wf C pw w cont
  recorded : Recorded C w cont
  abs : abstraction C w cont = a
  live : a.RootsLive

lemma Related.refined {a : Store} {op : Op} (h : Related C pw w a cont) (hr : Refined C pw w cont op out w') :
    ∃ b cont', Store.Step a (op, out) b ∧ Related C pw w' b cont' := by
  obtain ⟨cont', hwf, hst, hrec⟩ := hr
  rw [h.abs] at hst
  exact ⟨_, cont', hst, hwf, hrec h.recorded, rfl, h.live.step hst⟩

lemma Related.step {a : Store} {l : Op × Outcome} (h : Related C pw w a cont) (hs : Steps C w l w')
    (hok : ¬IoFailed l.2) : ∃ b, Store.Step a l b ∧ ∃ cont', Related C pw w' b cont' := by
  rcases h.wf.step_spec hs with hr | hfail
  · obtain ⟨b, cont', hst, hb⟩ := h.refined hr
    exact ⟨b, hst, cont', hb⟩
  · exact absurd hfail hok

lemma Related.congr {a : Store} (h : Related C pw w a cont) (hs : w'.storage = w.storage) (hf : w'.file = w.file) :
    Related C pw w' a cont := by
  refine ⟨h.wf.congr hs hf, h.recorded.congr hs hf, ?_, h.live⟩
  obtain ⟨s', f', d', k'⟩ := w'
  obtain rfl : s' = w.storage := hs
  obtain rfl : f' = w.file := hf
  exact h.abs

lemma Related.faulted {a : Store} (h : Related C pw w a cont) (f : Option ℕ) :
    Related C pw { w with faults := f } a cont := h.congr rfl rfl

lemma Related.run {a : Store} {ls : List (Op × Outcome)} (h : Related C pw w a cont)
    (hr : Run (Steps C) w ls w') (hok : ∀ l ∈ ls, ¬IoFailed l.2) :
    ∃ b, Run Store.Step a ls b ∧ ∃ cont', Related C pw w' b cont' :=
  hr.simulation (R := fun w a => ∃ cont, Related C pw w a cont) ⟨cont, h⟩
    (fun _ _ _ _ hl hR hs => hR.elim (fun _ hrel => hrel.step hs (hok _ hl)))

end

end ChatDesktop.Storage
