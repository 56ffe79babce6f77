import ChatDesktop.Storage.Client

namespace ChatDesktop.Storage

open Library Library.Program Library.Transition LocalStorage

structure SameContents (C : Crypto) (w w' : World) : Prop where
  live : ∀ id, hasRecord w'.storage id = hasRecord w.storage id
  get : ∀ id, hasRecord w.storage id = true → LocalStorage.get C w' id = LocalStorage.get C w id
  ids : ∀ tag, ids w'.storage tag = ids w.storage tag
  roots : w'.storage.roots = w.storage.roots

structure Trimmed (C : Crypto) (w w' : World) (cont : ℕ → List ℕ) : Prop where
  partitioned : Partitioned (blocks C w') w'.storage cont
  free : w'.storage.free = (List.range' 1 w'.storage.nblocks).filter
    (fun i => decide (i ∉ chainBlocks w'.storage.head cont))
  le : w'.storage.nblocks ≤ w.storage.nblocks
  cut : ∀ i, w'.storage.nblocks < i → i ≤ w.storage.nblocks → i ∈ w.storage.free
  last : w'.storage.nblocks ∉ w'.storage.free
  file : w'.file = w.file.take (w.storage.bs + w'.storage.nblocks * w.storage.bs)

/-- The file of `w` opens to a store that nobody can tell from `w`. -/
def ReopensAlike (C : Crypto) (pw : Bytes) (opt : Options) (w : World) : Prop :=
  ∃ w', reopen C pw opt w = (.ok (), w') ∧ SameContents C w w' ∧ (∃ cont, Trimmed C w w' cont) ∧
    ∀ rs, (∀ v ∈ session C rs (userIds w.storage) w, ¬IoFailed v.1) →
      (∀ v ∈ session C rs (userIds w.storage) w', ¬IoFailed v.1) →
      session C rs (userIds w.storage) w = session C rs (userIds w.storage) w'

structure NamesFit (roots : Roots) : Prop where
  size : roots.size < 2 ^ 32
  name : ∀ n id, roots.find? n = some id → n.length < 2 ^ 32

section

variable {C : Crypto} {pw : Bytes} {opt : Options} {w w' : World} {a b : Store} {heads : Heads}
  {free : List ℕ} {cont cont' : ℕ → List ℕ} {m : ℕ}

lemma Reopened.records_eq (hr : Reopened C pw opt w w' m heads cont)
    (hl : Layout (Storage.blocks C w) heads free m cont) :
    records (Storage.blocks C w') w'.storage.head cont = records (Storage.blocks C w) heads cont := by
  rw [hr.head]
  refine records_frame (fun i hi => hr.blocks i ?_)
  by_contra hlt
  exact hr.trailing i (by omega) (hl.chain_range hi).2 hi

lemma Reopened.users_eq (hr : Reopened C pw opt w w' m heads cont)
    (hl : Layout (Storage.blocks C w) heads free m cont) :
    users (Storage.blocks C w') w'.storage.head cont w'.storage.dirId =
      users (Storage.blocks C w) heads cont w'.storage.dirId := by
  funext id
  rw [Storage.users, Storage.users, hr.records_eq hl]

lemma Reopened.recorded (hr : Reopened C pw opt w w' m heads cont) : Recorded C w' cont := by
  have hs := hr.saved
  rw [Saved] at hs
  refine ⟨fun h0 => ?_, fun h0 => ?_⟩
  · rw [directoryOf, if_pos h0] at hs
    exact (Except.ok.inj hs).symm
  · have hp := hs
    rw [directoryOf, if_neg h0] at hp
    rw [hs, parseDirectory_directoryBytes (parseDirectory_storable hp)]

lemma Recorded.directoryOf_iff (h : Recorded C w cont) :
    directoryOf (blocks C w) cont w.storage.dirId = .ok w.storage.roots ↔ Storable w.storage.roots := by
  by_cases h0 : w.storage.dirId = 0
  · rw [directoryOf, if_pos h0, h.empty h0]
    exact iff_of_true rfl .empty
  · rw [h.written h0, parseDirectory_iff]

lemma SameContents.of_agrees (h : Agrees C w a) (h' : Agrees C w' a) : SameContents C w w' where
  live id := by rw [h.live, h'.live]
  get id hid := by
    rw [h.live] at hid
    obtain ⟨⟨tag, data⟩, hr⟩ := Option.isSome_iff_exists.mp hid
    rw [h.get id tag data hr, h'.get id tag data hr]
  ids tag := by
    obtain ⟨hs, hm⟩ := h.ids tag
    obtain ⟨hs', hm'⟩ := h'.ids tag
    refine List.Perm.eq_of_pairwise (fun x y _ _ hxy hyx => absurd hyx (lt_asymm hxy)) hs' hs ?_
    refine (List.perm_ext_iff_of_nodup (hs'.imp ne_of_lt) (hs.imp ne_of_lt)).mpr (fun id => ?_)
    rw [hm, hm']
  roots := SortedMap.ext (fun n => (h'.root n).trans (h.root n).symm)

lemma Reopened.trimmed (hr : Reopened C pw opt w w' w.storage.nblocks w.storage.head cont)
    (h : Wf C pw w cont) : Trimmed C w w' cont where
  partitioned := hr.wf.layout.partitioned
  free := by rw [hr.free, hr.head]
  le := hr.le
  cut i hi hle := (h.layout.mem_iff.mpr ⟨by omega, hle⟩).resolve_left (hr.trailing i hi hle)
  last hf := by
    rcases hr.last with h0 | hc
    · exact absurd (hr.wf.layout.free_range hf).1 (by omega)
    · exact hr.wf.layout.chain_not_free (hr.head ▸ hc) hf
  file := by
    have hle : w'.storage.nblocks * w.storage.bs ≤ w.storage.nblocks * w.storage.bs :=
      Nat.mul_le_mul_right _ hr.le
    rw [hr.file, World.cut, ByteFile.resize, h.formatted.size,
      show w.storage.bs + w'.storage.nblocks * w.storage.bs -
        (w.storage.bs + w.storage.nblocks * w.storage.bs) = 0 by omega]
    simp

lemma Related.reopened (h : Related C pw w a cont)
    (hr : Reopened C pw opt w w' w.storage.nblocks w.storage.head cont)
    (hid : w'.storage.dirId = w.storage.dirId) (hroots : w'.storage.roots = w.storage.roots) :
    Related C pw w' a cont := by
  refine ⟨hr.wf, hr.recorded, ?_, h.live⟩
  have hu := hr.users_eq h.wf.layout
  rw [hid] at hu
  rw [← h.abs]
  simp only [abstraction, hroots, hid, hu]

lemma Related.reopen (h : Related C pw w a cont) (hs : Storable w.storage.roots) (opt : Options) :
    ∃ w', reopen C pw opt w = (.ok (), w') ∧ Related C pw w' a cont ∧
      Reopened C pw opt w w' w.storage.nblocks w.storage.head cont := by
  obtain ⟨w', hw', hr, hid, hroots⟩ := reopen_ok h.wf.formatted h.wf.inRange h.wf.dense
    h.wf.layout h.wf.directory (h.recorded.directoryOf_iff.mpr hs)
  exact ⟨w', hw', h.reopened hr hid hroots, hr⟩

lemma Related.storable_iff (h : Related C pw w a cont) :
    Storable w.storage.roots ↔ NamesFit w.storage.roots := by
  refine ⟨fun hs => ⟨hs.size, fun n id hn => (hs.entry n id hn).1⟩,
    fun hs => ⟨hs.size, fun n id hn => ⟨hs.name n id hn, ?_⟩⟩⟩
  have hroot : a.root n = some id := (h.agrees.root n).symm.trans hn
  have hlive := h.live n id hroot
  rw [← h.agrees.live, hasRecord_iff] at hlive
  have hle := (h.wf.layout.chain_range (head_mem_chainBlocks hlive.2)).2
  have hrange := h.wf.inRange
  have hge := h.wf.formatted.geometry.bs_ge
  have hmul : w.storage.nblocks * 1 ≤ w.storage.nblocks * w.storage.bs := Nat.mul_le_mul_left _ (by omega)
  simp only [maxOffset] at hrange
  omega

lemma Related.reopensAlike_iff (h : Related C pw w a cont) :
    ReopensAlike C pw opt w ↔ NamesFit w.storage.roots := by
  rw [← h.storable_iff]
  constructor
  · rintro ⟨w', hw', hsame, -⟩
    cases hread : directoryOf (blocks C w) cont w.storage.dirId with
    | error e =>
      obtain ⟨w'', hw''⟩ := reopen_bad_directory h.wf.formatted h.wf.inRange h.wf.dense
        h.wf.layout h.wf.directory hread
      rw [hw'] at hw''
      cases (Prod.mk.inj hw'').1
    | ok roots =>
      obtain ⟨w'', hw'', -, -, hroots⟩ := reopen_ok h.wf.formatted h.wf.inRange h.wf.dense
        h.wf.layout h.wf.directory hread
      obtain rfl := (Prod.mk.inj (hw'.symm.trans hw'')).2
      rw [← h.recorded.directoryOf_iff, hread, ← hroots, hsame.roots]
  · intro hs
    obtain ⟨w', hw', h', hr⟩ := h.reopen hs opt
    exact ⟨w', hw', .of_agrees h.agrees h'.agrees, ⟨cont, hr.trimmed h.wf⟩,
      fun rs hok hok' => h.twins_self.session_eq h h' rs hok hok'⟩

/-- Whatever is done to a new store without a failing file operation, its file opens again to a store
nobody can tell from it, exactly when the names of its roots and their number have 32-bit lengths. -/
theorem reopensAlike_iff_namesFit {opt opt' : Options} {w₀ w₁ : World} {ls : List (Op × Outcome)}
    (hlo : 128 ≤ opt.blockSize) (hhi : opt.blockSize ≤ 2 ^ 20) (hfile : w₀.file = [])
    (hf : w₀.faults = none) (hnew : construct C opt pw w₀ = (.ok (), w₁))
    (hrun : Run (Steps C) w₁ ls w) (hok : ∀ l ∈ ls, ¬IoFailed l.2) :
    ReopensAlike C pw opt' w ↔ NamesFit w.storage.roots := by
  obtain ⟨a, -, cont, h⟩ := (related_new hlo hhi hfile hf hnew).run hrun hok
  exact h.reopensAlike_iff

end

/-! ### A name of 2^32 bytes -/

lemma length_directoryBytes (roots : Roots) :
    (directoryBytes roots).length = 4 + (roots.entries.map (fun e => e.1.length + 12)).sum := by
  rw [directoryBytes, List.length_append, length_w32, List.length_flatMap]
  congr 2
  refine List.map_congr_left (fun e _ => ?_)
  rw [entryBytes, List.length_append, List.length_append, length_w32, length_w64]
  omega

lemma Wf.setRoot_named {C : Crypto} {pw : Bytes} {w : World} {cont : ℕ → List ℕ} {name : Bytes} {id : ℕ}
    (h : Wf C pw w cont) (hf : w.faults = none) (hb : hasRecord w.storage id = true)
    (hr : (directoryStart (withRoots w.storage (w.storage.roots.insert name id))).nblocks * w.storage.bs +
      w.storage.bs ≤ maxOffset) : (step C (.setRoot name id) w).1 = .named := by
  obtain ⟨⟨out, w'⟩, hs⟩ : ∃ r, step C (.setRoot name id) w = r := ⟨_, rfl⟩
  rw [hs]
  rcases h.step_ends hs with ⟨hsk, -⟩ | hsu | ⟨e, -, hfail⟩
  · cases hsk with
    | setRoot _ _ hb' => simp [hb] at hb'
  · cases hsu
    rfl
  · cases hfail with
    | setRoot _ hd =>
      refine absurd ((h.with_roots _).directory_inRange hr) ?_
      have hn := hd.not_inRange hf
      rwa [World.put_storage, directoryStart_bs] at hn

def longNameOps (name : Bytes) : List Op := [.insert [] 1, .setRoot name 1]

set_option maxRecDepth 10000 in
lemma longName_lost (name : Bytes) (hlen : name.length = 2 ^ 32) :
    (∀ l ∈ traceOps .transparent smallStore (longNameOps name), ¬IoFailed l.2) ∧
      ¬ReopensAlike .transparent [] smallOptions (runOps .transparent smallStore (longNameOps name)) := by
  obtain ⟨w, hw⟩ : ∃ w, w = (step .transparent (.insert [] 1) smallStore).2 := ⟨_, rfl⟩
  have hins : (step .transparent (.insert [] 1) smallStore).1 = .inserted 1 := by decide
  have hbs : w.storage.bs = 128 := by rw [hw]; decide
  have hcap : w.storage.cap = 71 := by rw [hw]; decide
  have hdir : w.storage.dirId = 0 := by rw [hw]; decide
  have hblocks : w.storage.nblocks = 1 := by rw [hw]; decide
  have hrec : hasRecord w.storage 1 = true := by rw [hw]; decide
  have hfaults : w.faults = none := by rw [hw]; decide
  have hok : ¬IoFailed (.inserted 1) := by rintro ⟨e, he, -⟩; cases he
  have hok' : ¬IoFailed .named := by rintro ⟨e, he, -⟩; cases he
  obtain ⟨a, -, cont, h⟩ := (related_new (by decide) (by decide) rfl rfl construct_smallStore).step
    (l := (.insert [] 1, .inserted 1)) (Prod.ext hins hw.symm) hok
  have hroots := h.recorded.empty hdir
  -- the directory grows to some 60 million blocks, far from the largest offset
  have hsize : (directoryBytes (w.storage.roots.insert name 1)).length = 2 ^ 32 + 16 := by
    rw [length_directoryBytes, hroots]
    change 4 + ([(name, 1)].map (fun e : Bytes × ℕ => e.1.length + 12)).sum = _
    simp only [List.map_cons, List.map_nil, List.sum_cons, List.sum_nil, hlen]
    norm_num
  have hroom : (directoryStart (withRoots w.storage (w.storage.roots.insert name 1))).nblocks * w.storage.bs +
      w.storage.bs ≤ maxOffset := by
    have h0 : (withRoots w.storage (w.storage.roots.insert name 1)).dirId = 0 := hdir
    rw [directoryStart, if_pos h0, insertStart_eq]
    change (w.storage.nblocks + (chunks w.storage (directoryBytes (w.storage.roots.insert name 1)).length -
      w.storage.free.length)) * _ + _ ≤ _
    rw [hsize, chunks, hcap, hbs, hblocks, maxOffset]
    omega
  have hnamed := h.wf.setRoot_named hfaults hrec hroom
  obtain ⟨b, hstep, cont', h'⟩ := h.step (l := (.setRoot name 1, .named)) (Prod.ext hnamed rfl) hok'
  refine ⟨?_, ?_⟩
  · simp only [longNameOps, traceOps, List.mem_cons, List.not_mem_nil, or_false, forall_eq_or_imp,
      forall_eq, hins, ← hw, hnamed]
    exact ⟨hok, hok'⟩
  · have hrun : runOps .transparent smallStore (longNameOps name) = (step .transparent (.setRoot name 1) w).2 := by
      rw [hw]
      rfl
    rw [hrun, h'.reopensAlike_iff]
    intro hfit
    have hroot : b.root name = some 1 := by
      cases hstep with
      | setRoot => exact Function.update_self _ _ _
    have := hfit.name name 1 ((h'.agrees.root name).trans hroot)
    omega

theorem reopensAlike_fails_long_name :
    (∀ l ∈ traceOps .transparent smallStore (longNameOps (List.replicate (2 ^ 32) 0)), ¬IoFailed l.2) ∧
      ¬ReopensAlike .transparent [] smallOptions
        (runOps .transparent smallStore (longNameOps (List.replicate (2 ^ 32) 0))) :=
  longName_lost _ List.length_replicate

set_option maxRecDepth 10000 in
theorem reopensAlike_iff_namesFit_sample :
    ReopensAlike .transparent [] smallOptions (runOps .transparent smallStore sampleOps) ↔
      NamesFit (runOps .transparent smallStore sampleOps).storage.roots := by
  exact reopensAlike_iff_namesFit (by decide) (by decide) rfl rfl construct_smallStore
    (run_traceOps _ _ _) (by decide)

end ChatDesktop.Storage
