import ChatDesktop.Storage.Reopening

namespace ChatDesktop.Storage

open Library Library.Program Library.LinkedChain LocalStorage

/-- A sequence stopped after its first `j` events, when `k` are allowed. -/
structure Stopped (C : Crypto) (pw : Bytes) (w : World) (m : ℕ) (es : List FileEvent) (k j : ℕ)
    (v : World) : Prop extends Performed C pw w m (es.take j) v where
  inRange : InRange w.storage.bs (es.take j)
  index : InRange w.storage.bs (es.take k) → j = min k es.length

def HasHole (C : Crypto) (pw : Bytes) (v : World) : Prop :=
  ∃ m i, Formatted C pw v m ∧ 0 < i ∧ i ≤ m ∧ blocks C v i = none

def Holds (C : Crypto) (pw : Bytes) (v : World) (heads : Heads) (cont : ℕ → List ℕ) : Prop :=
  ∃ m free, Formatted C pw v m ∧ m * v.storage.bs + v.storage.bs ≤ maxOffset ∧
    Dense (blocks C v) m ∧ Layout (blocks C v) heads free m cont

/-- The file holds these records of the user, and its directory reads as `dir`. -/
def Held (C : Crypto) (pw : Bytes) (v : World) (rec : ℕ → Option (UInt32 × Bytes))
    (dir : Except Error Roots) : Prop :=
  ∃ heads cont dirId, Holds C pw v heads cont ∧ IsDirectory heads dirId ∧
    users (blocks C v) heads cont dirId = rec ∧ directoryOf (blocks C v) cont dirId = dir

def Room (s : LocalStorage) (n : ℕ) : Prop :=
  (s.nblocks + (n - s.free.length)) * s.bs + s.bs ≤ maxOffset

/-- Two of `n` more blocks or more are taken from past the end of the file. -/
def Gap (s : LocalStorage) (n : ℕ) : Prop := Room s n ∧ 1 < n - s.free.length

section

variable {C : Crypto} {pw : Bytes} {opt : Options} {w v : World} {m k j n : ℕ} {es : List FileEvent}
  {e : Error} {cont : ℕ → List ℕ} {heads : Heads} {rec : ℕ → Option (UInt32 × Bytes)}
  {dir : Except Error Roots} {roots : Roots} {known : List ℕ} {data : Bytes} {tag : UInt32}

lemma Finished.stopped (hd : Finished C pw w m es v) (hf : w.faults = some k) :
    Stopped C pw w m es k es.length v where
  toPerformed := by
    rw [List.take_length]
    exact hd.toPerformed
  inRange := by
    rw [List.take_length]
    exact hd.inRange
  index _ := by rw [min_eq_right (hd.faultsAfter k hf)]

lemma Halted.stopped (hd : Halted C pw w m es e j v) (hf : w.faults = some k) :
    Stopped C pw w m es k j v where
  toPerformed := hd.toPerformed
  inRange := hd.inRange
  index hr := by
    have := hd.index_eq hf hr
    have := hd.lt
    omega

/-! ### Opening what was left -/

lemma reopen_put (s : LocalStorage) : reopen C pw opt (v.put s) = reopen C pw opt v := rfl

lemma HasHole.fails (h : HasHole C pw v) (opt : Options) : ∃ e w', reopen C pw opt v = (.error e, w') := by
  obtain ⟨m, i, hf, h0, hi, hb⟩ := h
  exact reopen_hole hf h0 hi hb

lemma hole_of_not_dense (hf : Formatted C pw v m) (hd : ¬Dense (blocks C v) m) : HasHole C pw v := by
  simp only [Dense, not_forall, not_exists] at hd
  obtain ⟨i, h0, hi, hb⟩ := hd
  exact ⟨m, i, hf, h0, hi, Option.eq_none_iff_forall_ne_some.mpr hb⟩

lemma Held.congr {v' : World} (h : Held C pw v rec dir) (hbs : v'.storage.bs = v.storage.bs)
    (hplain : v'.storage.plain = v.storage.plain) (hcap : v'.storage.cap = v.storage.cap)
    (hkey : v'.storage.key = v.storage.key) (hfile : v'.file = v.file) : Held C pw v' rec dir := by
  obtain ⟨heads, cont, dirId, ⟨m, free, hf, hin, hd, hl⟩, hdir, hu, ho⟩ := h
  have hb : blocks C v' = blocks C v := blocks_congr hbs hplain hcap hkey hfile
  exact ⟨heads, cont, dirId, ⟨m, free, hf.congr hbs hplain hcap hkey hfile, hbs ▸ hin, hb ▸ hd, hb ▸ hl⟩,
    hdir, hb ▸ hu, hb ▸ ho⟩

lemma Held.opens (h : Held C pw v rec (.ok roots)) (opt : Options) :
    ∃ w' cont, reopen C pw opt v = (.ok (), w') ∧ Wf C pw w' cont ∧ Recorded C w' cont ∧
      abstraction C w' cont = ⟨rec, fun n => roots.find? n⟩ ∧ w'.storage.roots = roots ∧
      w'.faults = none := by
  obtain ⟨heads, cont, dirId, ⟨m, free, hf, hin, hd, hl⟩, hdir, hu, ho⟩ := h
  obtain ⟨w', hw', hr, hid, hroots⟩ := reopen_ok hf hin hd hl hdir ho
  refine ⟨w', cont, hw', hr.wf, hr.recorded, ?_, hroots, hr.faults⟩
  have hu' := hr.users_eq hl
  rw [hid] at hu'
  simp only [abstraction, hroots, hid, hu', hu]

lemma Held.fails (h : Held C pw v rec (.error e)) (opt : Options) :
    ∃ w', reopen C pw opt v = (.error e, w') := by
  obtain ⟨heads, cont, dirId, ⟨m, free, hf, hin, hd, hl⟩, hdir, hu, ho⟩ := h
  exact reopen_bad_directory hf hin hd hl hdir ho

lemma Recorded.directoryOf_eq (h : Recorded C w cont) :
    directoryOf (blocks C w) cont w.storage.dirId = parseDirectory (directoryBytes w.storage.roots) := by
  by_cases h0 : w.storage.dirId = 0
  · rw [directoryOf, if_pos h0, h.empty h0, parseDirectory_directoryBytes .empty]
  · exact h.written h0

lemma Wf.held (h : Wf C pw w cont) :
    Held C pw w (abstraction C w cont).record (directoryOf (blocks C w) cont w.storage.dirId) :=
  ⟨_, cont, _, ⟨_, _, h.formatted, h.inRange, h.dense, h.layout⟩, h.directory, rfl, rfl⟩

lemma Recorded.held (hr : Recorded C w cont) (h : Wf C pw w cont) :
    Held C pw w (abstraction C w cont).record (parseDirectory (directoryBytes w.storage.roots)) := by
  rw [← hr.directoryOf_eq]
  exact h.held

/-! ### The first events of a chain -/

lemma extentAfter_cases (es : List FileEvent) (m : ℕ) :
    extentAfter es m = m ∨ ∃ b, .write (extentAfter es m) b ∈ es := by
  induction es generalizing m with
  | nil => exact Or.inl rfl
  | cons e es ih =>
    cases e with
    | sync => exact (ih m).imp_right (fun ⟨b, hb⟩ => ⟨b, List.mem_cons_of_mem _ hb⟩)
    | write id b =>
      rcases ih (max m id) with h | ⟨c, hc⟩
      · rw [extentAfter, h]
        rcases le_total m id with hle | hle
        · exact Or.inr ⟨b, by rw [max_eq_right hle]; exact List.mem_cons_self⟩
        · exact Or.inl (max_eq_left hle)
      · exact Or.inr ⟨c, List.mem_cons_of_mem _ hc⟩

lemma applyEvents_of_mem {id : ℕ} {b : Blk} (d : Disk) (h : .write id b ∈ es) :
    ∃ c, applyEvents es d id = some c := by
  induction es generalizing d with
  | nil => exact absurd h List.not_mem_nil
  | cons e es ih =>
    cases e with
    | sync =>
      rcases List.mem_cons.mp h with he | hm
      · cases he
      · exact ih d hm
    | write i c =>
      rcases List.mem_cons.mp h with he | hm
      · obtain ⟨rfl, rfl⟩ := FileEvent.write.inj he
        rw [applyEvents]
        rcases applyEvents_cases es (Function.update d id (some b)) id with hh | ⟨c, -, hh⟩
        · exact ⟨b, by rw [hh, Function.update_self]⟩
        · exact ⟨c, hh⟩
      · exact ih _ hm

lemma mem_chainEvents_before {s : LocalStorage} {id : ℕ} {b : Blk} (hj : j ≤ headIndex s known data tag)
    (hm : .write id b ∈ (chainEvents s known data tag).take j) : id ∈ known.drop 1 := by
  obtain ⟨es, hlen, he, hes⟩ := chainEvents_split s known data tag
  rw [he, List.take_append_of_le_length (by omega)] at hm
  exact (hes id b (List.mem_of_mem_take hm)).1

lemma mem_take_chainEvents {s : LocalStorage} {id : ℕ} {b : Blk} (hj : headIndex s known data tag < j)
    (hm : .write id b ∈ chainEvents s known data tag) : .write id b ∈ (chainEvents s known data tag).take j := by
  obtain ⟨es, hlen, he, -⟩ := chainEvents_split s known data tag
  obtain ⟨i, rfl⟩ : ∃ i, j = es.length + (i + 1) := ⟨j - es.length - 1, by omega⟩
  rw [he, List.take_length_add_append, headEvents, List.take_succ_cons]
  rw [he, headEvents] at hm
  rcases List.mem_append.mp hm with hm | hm
  · exact List.mem_append_left _ hm
  · rcases List.mem_cons.mp hm with he | hm
    · exact List.mem_append_right _ (he ▸ List.mem_cons_self)
    · split_ifs at hm <;> simp at hm

lemma take_chainEvents {s : LocalStorage} (hlen : 0 < known.length) :
    (chainEvents s known data tag).take 1 =
      [.write (known.getD (known.length - 1) 0) (chainBlk s known data tag (known.length - 1))] := by
  rcases Nat.lt_or_ge 1 known.length with h1 | h1
  · obtain ⟨i, hi⟩ : ∃ i, known.length = i + 2 := ⟨known.length - 2, by omega⟩
    rw [chainEvents, hi, contEvents, List.cons_append, List.take_succ_cons, List.take_zero]
    rfl
  · have hi : known.length = 1 := by omega
    rw [chainEvents, hi, contEvents, if_neg (by simp), List.nil_append, List.nil_append, headEvents,
      List.take_succ_cons, List.take_zero]

lemma alloc_last {s : LocalStorage} (hn : s.free.length < n) :
    (allocMany n s).1.getD (n - 1) 0 = s.nblocks + (n - s.free.length) := by
  rw [allocMany_eq, List.getD_append_right _ _ _ _ (by rw [List.length_take]; omega),
    List.getD_eq_getElem _ _ (by rw [List.length_range', List.length_take]; omega), List.getElem_range',
    List.length_take]
  omega

lemma Stopped.complete {s : LocalStorage} (hs : Stopped C pw w m (chainEvents s known data tag) k j v)
    (hj : headIndex s known data tag < j) :
    Performed C pw w m (chainEvents s known data tag) v ∧ InRange w.storage.bs (chainEvents s known data tag) := by
  obtain ⟨ha, he⟩ := chainEvents_after (d := blocks C w) hj m
  exact ⟨⟨hs.storage, hs.blocks.trans ha, he ▸ hs.formatted, hs.faults⟩,
    fun id b hm => hs.inRange id b (mem_take_chainEvents hj hm)⟩

section Chain

variable (h : Sound C pw w cont)
  (hp : Performed C pw (w.put (allocMany n w.storage).2) w.storage.nblocks
    ((chainEvents (allocMany n w.storage).2 known data tag).take j) v)
  (hsub : ∀ i ∈ known.drop 1, i ∈ (allocMany n w.storage).1)
  (hlen : 0 < known.length)
  (hlast : w.storage.free.length < n →
    known.getD (known.length - 1) 0 = w.storage.nblocks + (n - w.storage.free.length))
  (hr : InRange w.storage.bs ((chainEvents (allocMany n w.storage).2 known data tag).take j))
  (hj : j ≤ headIndex (allocMany n w.storage).2 known data tag)

include h hp

lemma Sound.chain_dense (hsub : ∀ i ∈ known.drop 1, i ∈ (allocMany n w.storage).1)
    (hj : j ≤ headIndex (allocMany n w.storage).2 known data tag) (hfresh : n - w.storage.free.length ≤ 1) :
    Dense (blocks C v) (extentAfter ((chainEvents (allocMany n w.storage).2 known data tag).take j)
      w.storage.nblocks) := by
  intro i h0 hi
  have hlay := h.layout.alloc n
  have hb := hp.blocks
  rw [blocks_alloc] at hb
  rw [hb]
  have hle : extentAfter ((chainEvents (allocMany n w.storage).2 known data tag).take j) w.storage.nblocks ≤
      w.storage.nblocks + 1 := by
    refine extentAfter_le (fun id b hmem => ?_) (Nat.le_succ _)
    have := (hlay.free_range (List.mem_append_left _ (hsub id (mem_chainEvents_before hj hmem)))).2
    rw [allocMany_eq] at this
    simp only at this
    omega
  by_cases hin : i ≤ w.storage.nblocks
  · obtain ⟨b, hold⟩ := h.dense i h0 hin
    rcases applyEvents_cases ((chainEvents (allocMany n w.storage).2 known data tag).take j)
      (blocks C w) i with he | ⟨c, -, he⟩
    · exact ⟨b, he.trans hold⟩
    · exact ⟨c, he⟩
  · -- the file has grown, by the block that was written
    have hi' : i = extentAfter ((chainEvents (allocMany n w.storage).2 known data tag).take j)
      w.storage.nblocks := by omega
    rcases extentAfter_cases ((chainEvents (allocMany n w.storage).2 known data tag).take j)
      w.storage.nblocks with he | ⟨b, hmem⟩
    · omega
    · rw [hi']
      exact applyEvents_of_mem (blocks C w) hmem

lemma Sound.chain_hole (hj : j = 1) (hlen : 0 < known.length)
    (hlast : known.getD (known.length - 1) 0 = w.storage.nblocks + (n - w.storage.free.length))
    (hgap : Gap w.storage n) : HasHole C pw v := by
  have hfresh := hgap.2
  have hb := hp.blocks
  have hf := hp.formatted
  rw [hj, take_chainEvents hlen, hlast] at hb hf
  rw [blocks_alloc] at hb
  refine ⟨_, w.storage.nblocks + 1, hf, Nat.succ_pos _, ?_, ?_⟩
  · simp only [extentAfter]
    omega
  · rw [hb, applyEvents, applyEvents, Function.update_of_ne (by omega)]
    exact h.layout.outside _ (Or.inr (Nat.lt_succ_self _))

include hsub hlen hlast hr hj

lemma Sound.chain_holds :
    (HasHole C pw v ∧ Gap w.storage n) ∨ Holds C pw v w.storage.head cont ∧
      records (blocks C v) w.storage.head cont = records (blocks C w) w.storage.head cont := by
  by_cases hd : Dense (blocks C v) (extentAfter
    ((chainEvents (allocMany n w.storage).2 known data tag).take j) w.storage.nblocks)
  · have hlay := h.layout.alloc n
    have hb := hp.blocks
    rw [blocks_alloc] at hb
    obtain ⟨hlay', hrec⟩ := hlay.chain_before hsub hj
    rw [← hb] at hlay' hrec
    have hbs : v.storage.bs = w.storage.bs := by rw [hp.storage, World.put_storage, allocMany_eq]
    refine Or.inr ⟨⟨_, _, hp.formatted, ?_, hd, hlay'.restrict ?_ (fun i hi => hp.formatted.blocks_end hi)⟩,
      hrec⟩
    · rw [hbs]
      rcases extentAfter_cases ((chainEvents (allocMany n w.storage).2 known data tag).take j)
        w.storage.nblocks with he | ⟨b, hm⟩
      · rw [he]
        exact h.inRange
      · exact hr _ b hm
    · refine extentAfter_le (fun id b hm => ?_) (nblocks_le_alloc n _)
      exact (hlay.free_range (List.mem_append_left _ (hsub id (mem_chainEvents_before hj hm)))).2
  · refine Or.inl ⟨hole_of_not_dense hp.formatted hd, ?_⟩
    by_contra hgap
    refine hd ?_
    by_cases hroom : Room w.storage n
    · refine h.chain_dense hp hsub hj ?_
      by_contra hlt
      exact hgap ⟨hroom, by omega⟩
    · -- the first write is out of range, so nothing has been written
      have hfresh : w.storage.free.length < n := by
        by_contra hle
        refine hroom ?_
        rw [Room, show n - w.storage.free.length = 0 by omega]
        exact h.inRange
      have hzero : j = 0 := by
        by_contra hne
        have hmem : FileEvent.write (known.getD (known.length - 1) 0)
            (chainBlk (allocMany n w.storage).2 known data tag (known.length - 1)) ∈
            (chainEvents (allocMany n w.storage).2 known data tag).take j := by
          refine List.take_subset_take_left _ (show 1 ≤ j by omega) ?_
          rw [take_chainEvents hlen]
          exact List.mem_singleton_self _
        have := hr _ _ hmem
        rw [hlast hfresh] at this
        exact hroom this
      have hb := hp.blocks
      rw [blocks_alloc] at hb
      rw [hb, hzero]
      exact h.dense

omit hp hsub hlen hlast hr hj in
lemma Sound.chain_room {s : LocalStorage} (hlen : 0 < known.length)
    (hlast : w.storage.free.length < n →
      known.getD (known.length - 1) 0 = w.storage.nblocks + (n - w.storage.free.length))
    (hr : InRange w.storage.bs (chainEvents s known data tag)) : Room w.storage n := by
  by_cases hfresh : w.storage.free.length < n
  · have := hr _ _ (mem_chainEvents_of_lt (show known.length - 1 < known.length by omega))
    rwa [hlast hfresh] at this
  · rw [Room, show n - w.storage.free.length = 0 by omega]
    exact h.inRange

end Chain

end

/-! ### Operations cut off -/

section

variable {C : Crypto} {pw : Bytes} {w v : World} {k j : ℕ} {cont cont' : ℕ → List ℕ} {data : Bytes}
  {tag : UInt32} {id : ℕ} {hi : HeadInfo}

lemma directoryOf_records {d d' : Disk} {heads heads' : Heads} {dirId : ℕ} (hm : dirId ≠ 0 → dirId ∈ heads.keys)
    (hr : records d' heads' cont' dirId = records d heads cont dirId) :
    directoryOf d' cont' dirId = directoryOf d cont dirId := by
  by_cases h0 : dirId = 0
  · rw [directoryOf, directoryOf, if_pos h0, if_pos h0]
  · obtain ⟨hi, hh⟩ := SortedMap.mem_keys.mp (hm h0)
    have hold : records d heads cont dirId = some (hi.tag, content d (dirId :: cont dirId)) := by
      rw [records, hh, Option.map_some]
    rw [directoryOf_of_records h0 (hr.trans hold), directoryOf_of_records h0 hold]

lemma Wf.held_before (h : Wf C pw w cont) (hh : Holds C pw v w.storage.head cont)
    (hr : records (blocks C v) w.storage.head cont = records (blocks C w) w.storage.head cont) :
    Held C pw v (abstraction C w cont).record (directoryOf (blocks C w) cont w.storage.dirId) := by
  refine ⟨_, cont, _, hh, h.directory, ?_, directoryOf_records h.directory.mem (congrFun hr _)⟩
  funext i
  rw [users, hr]
  rfl

lemma insert_drop {s : LocalStorage} (i : ℕ) (hi : i ∈ (insertIds s data).drop 1) :
    i ∈ (allocMany (chunks s data.length) s).1 := List.mem_of_mem_drop hi

lemma update_drop {s : LocalStorage} (i : ℕ) (hi : i ∈ (id :: updateFresh s data).drop 1) :
    i ∈ (allocMany (chunks s data.length - 1) s).1 := hi

lemma insert_last {s : LocalStorage} (hn : s.free.length < chunks s data.length) :
    (insertIds s data).getD ((insertIds s data).length - 1) 0 =
      s.nblocks + (chunks s data.length - s.free.length) := by
  rw [length_insertIds]
  exact alloc_last hn

lemma update_last {s : LocalStorage} (hn : s.free.length < chunks s data.length - 1) :
    (id :: updateFresh s data).getD ((id :: updateFresh s data).length - 1) 0 =
      s.nblocks + (chunks s data.length - 1 - s.free.length) := by
  rw [length_updateChain, show chunks s data.length - 1 = chunks s data.length - 1 - 1 + 1 by omega,
    List.getD_cons_succ, Nat.sub_add_cancel (by omega)]
  exact alloc_last hn

lemma Wf.insert_stopped (h : Wf C pw w cont)
    (hs : Stopped C pw (w.put (insertStart w.storage data)) w.storage.nblocks
      (insertEvents w.storage data tag) k j v)
    (hj : j ≤ headIndex (insertStart w.storage data) (insertIds w.storage data) data tag) :
    (HasHole C pw v ∧ Gap w.storage (chunks w.storage data.length)) ∨
      Held C pw v (abstraction C w cont).record (directoryOf (blocks C w) cont w.storage.dirId) := by
  have hr := hs.inRange
  rw [World.put_storage, insertStart_bs] at hr
  exact (h.chain_holds hs.toPerformed insert_drop (insertIds_pos _ _) insert_last hr hj).imp_right
    (fun hh => h.held_before hh.1 hh.2)

lemma Wf.update_stopped (h : Wf C pw w cont)
    (hs : Stopped C pw (w.put (updateStart w.storage data)) w.storage.nblocks
      (updateEvents w.storage id data tag) k j v)
    (hj : j ≤ headIndex (updateStart w.storage data) (id :: updateFresh w.storage data) data tag) :
    (HasHole C pw v ∧ Gap w.storage (chunks w.storage data.length - 1)) ∨
      Held C pw v (abstraction C w cont).record (directoryOf (blocks C w) cont w.storage.dirId) := by
  have hr := hs.inRange
  rw [World.put_storage, updateStart_bs] at hr
  exact (h.chain_holds hs.toPerformed update_drop (Nat.succ_pos _) update_last hr hj).imp_right
    (fun hh => h.held_before hh.1 hh.2)

def directoryIndex (s : LocalStorage) : ℕ :=
  if s.dirId = 0 then
    headIndex (directoryStart s) (insertIds s (directoryBytes s.roots)) (directoryBytes s.roots) kDirTag
  else
    headIndex (directoryStart s) (s.dirId :: updateFresh s (directoryBytes s.roots)) (directoryBytes s.roots)
      kDirTag

def directoryNeed (s : LocalStorage) : ℕ :=
  if s.dirId = 0 then chunks s (directoryBytes s.roots).length
  else chunks s (directoryBytes s.roots).length - 1

lemma Wf.directory_stopped (h : Wf C pw w cont)
    (hs : Stopped C pw (w.put (directoryStart w.storage)) w.storage.nblocks (directoryEvents w.storage) k j v)
    (hj : j ≤ directoryIndex w.storage) :
    (HasHole C pw v ∧ Gap w.storage (directoryNeed w.storage)) ∨
      Held C pw v (abstraction C w cont).record (directoryOf (blocks C w) cont w.storage.dirId) := by
  rw [directoryIndex, directoryStart] at hj
  rw [directoryStart, directoryEvents] at hs
  rw [directoryNeed]
  split_ifs at hs hj ⊢
  · exact h.insert_stopped hs hj
  · exact h.update_stopped hs hj

lemma Wf.directory_complete (h : Wf C pw w cont)
    (hs : Stopped C pw (w.put (directoryStart w.storage)) w.storage.nblocks (directoryEvents w.storage) k j v)
    (hj : directoryIndex w.storage < j) :
    (∃ s cont', DirectorySaved C pw w (v.put s) cont cont') ∧ Room w.storage (directoryNeed w.storage) := by
  have hbs := directoryStart_bs w.storage
  have hc : Performed C pw (w.put (directoryStart w.storage)) w.storage.nblocks (directoryEvents w.storage) v ∧
      InRange w.storage.bs (directoryEvents w.storage) := by
    rw [← hbs]
    rw [directoryIndex] at hj
    rw [directoryEvents] at hs ⊢
    split_ifs at hs hj ⊢ with h0
    · rw [directoryStart, if_pos h0] at hs hj ⊢
      exact hs.complete hj
    · rw [directoryStart, if_neg h0] at hs hj ⊢
      exact hs.complete hj
  refine ⟨h.directory_done hc.1 hc.2, ?_⟩
  have hr := hc.2
  rw [directoryEvents] at hr
  rw [directoryNeed]
  split_ifs at hr ⊢
  · exact h.chain_room (insertIds_pos _ _) insert_last hr
  · have hpos : 0 < (w.storage.dirId :: updateFresh w.storage (directoryBytes w.storage.roots)).length :=
      Nat.succ_pos _
    exact h.chain_room hpos update_last hr

lemma Wf.held_freed (h : Wf C pw w cont) (hh : w.storage.head.find? id = some hi)
    (hid : id ≠ w.storage.dirId) (hp : Performed C pw w w.storage.nblocks (freeEvents w.storage id) v) :
    Held C pw v ((abstraction C w cont).delete id).record
      (directoryOf (blocks C w) cont w.storage.dirId) := by
  obtain ⟨hwf, ha, -⟩ := h.free_abstraction hh hid hp
  have hrec := (h.free_done hh hid hp).2
  have hdir : directoryOf (blocks C (v.put (removed w.storage id hi.tag (cont id)))) cont w.storage.dirId =
      directoryOf (blocks C w) cont w.storage.dirId :=
    directoryOf_records h.directory.mem ((congrFun hrec _).trans (Function.update_of_ne (Ne.symm hid) _ _))
  have hheld := hwf.held
  rw [ha] at hheld
  have hheld' : Held C pw (v.put (removed w.storage id hi.tag (cont id)))
      ((abstraction C w cont).delete id).record (directoryOf (blocks C w) cont w.storage.dirId) := hdir ▸ hheld
  refine hheld'.congr ?_ ?_ ?_ ?_ rfl <;> rw [hp.storage] <;> rfl

lemma Stopped.freed {s : LocalStorage} {m : ℕ} (hs : Stopped C pw w m (freeEvents s id) k j v) (hj : 0 < j) :
    Performed C pw w m (freeEvents s id) v := by
  obtain ⟨i, rfl⟩ : ∃ i, j = i + 1 := ⟨j - 1, by omega⟩
  have hp := hs.toPerformed
  have ht : applyEvents ((freeEvents s id).take (i + 1)) (blocks C w) = applyEvents (freeEvents s id) (blocks C w) ∧
      extentAfter ((freeEvents s id).take (i + 1)) m = extentAfter (freeEvents s id) m := by
    rw [freeEvents, List.take_succ_cons]
    simp only [applyEvents, extentAfter]
    split_ifs
    · rcases i with _ | i <;> simp [applyEvents, extentAfter]
    · rw [List.take_nil]
      exact ⟨rfl, rfl⟩
  exact ⟨hp.storage, hp.blocks.trans ht.1, ht.2 ▸ hp.formatted, hp.faults⟩

lemma Wf.held_unchanged {es : List FileEvent} (h : Wf C pw w cont)
    (hs : Stopped C pw w w.storage.nblocks es k 0 v) :
    Held C pw v (abstraction C w cont).record (directoryOf (blocks C w) cont w.storage.dirId) := by
  have hb : blocks C v = blocks C w := hs.blocks
  have hf : Formatted C pw v w.storage.nblocks := hs.formatted
  refine h.held_before ⟨_, _, hf, ?_, hb ▸ h.dense, hb ▸ h.layout⟩ (by rw [hb])
  rw [hs.storage]
  exact h.inRange

/-- A call cut off with `k` file events allowed, and the file it leaves. -/
inductive Cut (C : Crypto) (pw : Bytes) (w : World) (cont : ℕ → List ℕ) (k : ℕ) : Op → World → Prop
  | skipped {op : Op} {out : Outcome} (h : Skipped w op out) : Cut C pw w cont k op w
  | insert {data : Bytes} {tag : UInt32} {j : ℕ} {v : World} (htag : tag ≠ kDirTag)
      (h : Stopped C pw (w.put (insertStart w.storage data)) w.storage.nblocks
        (insertEvents w.storage data tag) k j v) : Cut C pw w cont k (.insert data tag) v
  | update {id : ℕ} {data : Bytes} {hi : HeadInfo} {j : ℕ} {v : World} (hid : id ≠ w.storage.dirId)
      (hh : w.storage.head.find? id = some hi)
      (h : Stopped C pw (w.put (updateStart w.storage data)) w.storage.nblocks
        (updateEvents w.storage id data hi.tag) k j v) : Cut C pw w cont k (.update id data) v
  | free {id : ℕ} {hi : HeadInfo} {j : ℕ} {v : World} (hid : id ≠ w.storage.dirId)
      (hh : w.storage.head.find? id = some hi)
      (h : Stopped C pw w w.storage.nblocks (freeEvents w.storage id) k j v)
      (hpart : rooted w.storage id = true → j < (freeEvents w.storage id).length) :
      Cut C pw w cont k (.remove id) v
  | unname {id : ℕ} {hi : HeadInfo} {w₁ v : World} {j : ℕ} (hid : id ≠ w.storage.dirId)
      (hh : w.storage.head.find? id = some hi) (hroot : rooted w.storage id = true)
      (h : Finished C pw w w.storage.nblocks (freeEvents w.storage id) w₁)
      (hk : (freeEvents w.storage id).length ≤ k)
      (h' : Stopped C pw ((w₁.put (removed w.storage id hi.tag (cont id))).put
        (directoryStart (removed w.storage id hi.tag (cont id)))) w.storage.nblocks
        (directoryEvents (removed w.storage id hi.tag (cont id)))
        (k - (freeEvents w.storage id).length) j v) : Cut C pw w cont k (.remove id) v
  | setRoot {name : Bytes} {id j : ℕ} {v : World} (hb : hasRecord w.storage id = true)
      (h : Stopped C pw ((w.put (withRoots w.storage (w.storage.roots.insert name id))).put
        (directoryStart (withRoots w.storage (w.storage.roots.insert name id)))) w.storage.nblocks
        (directoryEvents (withRoots w.storage (w.storage.roots.insert name id))) k j v) :
      Cut C pw w cont k (.setRoot name id) v
  | removeRoot {name : Bytes} {j : ℕ} {v : World} (hb : w.storage.roots.contains name = true)
      (h : Stopped C pw ((w.put (withRoots w.storage (w.storage.roots.erase name))).put
        (directoryStart (withRoots w.storage (w.storage.roots.erase name)))) w.storage.nblocks
        (directoryEvents (withRoots w.storage (w.storage.roots.erase name))) k j v) :
      Cut C pw w cont k (.removeRoot name) v

lemma Success.cut {op : Op} {out : Outcome} (hf : w.faults = some k) (hs : Success C pw w cont op out v) :
    ∃ u s, v = u.put s ∧ Cut C pw w cont k op u := by
  cases hs with
  | insert htag hd => exact ⟨_, _, rfl, .insert htag (hd.stopped hf)⟩
  | update hid hh hd => exact ⟨_, _, rfl, .update hid hh (hd.stopped hf)⟩
  | free hid hh hroot hd =>
    exact ⟨_, _, rfl, .free hid hh (hd.stopped hf) (fun hr => by rw [hroot] at hr; cases hr)⟩
  | unname hid hh hroot hd hd' _ =>
    refine ⟨_, _, rfl, .unname hid hh hroot hd (hd.faultsAfter k hf) (hd'.stopped ?_)⟩
    rw [World.put, World.put, hd.faultsRest, hf]
    rfl
  | setRoot hb hd _ => exact ⟨_, _, rfl, .setRoot hb (hd.stopped hf)⟩
  | removeRoot hb hd _ => exact ⟨_, _, rfl, .removeRoot hb (hd.stopped hf)⟩

lemma Failure.cut {op : Op} {e : Error} (hf : w.faults = some k) (hs : Failure C pw w cont e v op) :
    Cut C pw w cont k op v := by
  cases hs with
  | insert htag hd => exact .insert htag (hd.stopped hf)
  | update hid hh hd => exact .update hid hh (hd.stopped hf)
  | free hid hh hd => exact .free hid hh (hd.stopped hf) (fun _ => hd.lt)
  | unname hid hh hroot hd hd' =>
    refine .unname hid hh hroot hd (hd.faultsAfter k hf) (hd'.stopped ?_)
    rw [World.put, World.put, hd.faultsRest, hf]
    rfl
  | setRoot hb hd => exact .setRoot hb (hd.stopped hf)
  | removeRoot hb hd => exact .removeRoot hb (hd.stopped hf)

/-- The world before the call, ready to stop after `k` file events. -/
def World.arm (w : World) (k : ℕ) : World := { w with faults := some k }

def crashed (C : Crypto) (op : Op) (k : ℕ) (w : World) : World := (step C op (w.arm k)).2

lemma Wf.arm (h : Wf C pw w cont) (k : ℕ) : Wf C pw (w.arm k) cont := h.faulted (some k)

lemma Wf.crashed_cut (h : Wf C pw w cont) (op : Op) (k : ℕ) :
    ∃ v s, crashed C op k w = v.put s ∧ Cut C pw (w.arm k) cont k op v := by
  rcases (h.arm k).step_ends rfl with ⟨hsk, hw⟩ | hsu | ⟨e, -, hfail⟩
  · exact ⟨w.arm k, (w.arm k).storage, hw, .skipped hsk⟩
  · exact hsu.cut rfl
  · exact ⟨_, (crashed C op k w).storage, rfl, hfail.cut rfl⟩

/-! ### What the file holds then -/

def dropped (C : Crypto) (w : World) (id : ℕ) : LocalStorage :=
  match w.storage.head.find? id with
  | none => w.storage
  | some hi => removed w.storage id hi.tag ((oldContinuations C w hi).toOption.getD [])

lemma Wf.dropped_eq (h : Wf C pw w cont) (hh : w.storage.head.find? id = some hi) :
    dropped C w id = removed w.storage id hi.tag (cont id) := by
  rw [dropped, hh]
  simp only [oldContinuations_ok h.layout hh]
  rfl

/-- The call writes a chain, and the chain leaves a gap. -/
def Gapped (C : Crypto) (w : World) : Op → Prop
  | .insert data tag => tag ≠ kDirTag ∧ Gap w.storage (chunks w.storage data.length)
  | .update id data => hasRecord w.storage id = true ∧ Gap w.storage (chunks w.storage data.length - 1)
  | .remove id => hasRecord w.storage id = true ∧ rooted w.storage id = true ∧
    Gap (dropped C w id) (directoryNeed (dropped C w id))
  | .setRoot name id => hasRecord w.storage id = true ∧
    Gap (withRoots w.storage (w.storage.roots.insert name id))
      (directoryNeed (withRoots w.storage (w.storage.roots.insert name id)))
  | .removeRoot name => w.storage.roots.contains name = true ∧
    Gap (withRoots w.storage (w.storage.roots.erase name))
      (directoryNeed (withRoots w.storage (w.storage.roots.erase name)))

/-- The records and names from before or after the call, the names of a record already removed, or
a hole. -/
inductive Image (C : Crypto) (pw : Bytes) (w : World) (cont : ℕ → List ℕ) : Op → World → Prop
  | hole {op : Op} {v : World} (h : HasHole C pw v) (hgap : Gapped C w op) : Image C pw w cont op v
  | before {op : Op} {v : World}
      (h : Held C pw v (abstraction C w cont).record (directoryOf (blocks C w) cont w.storage.dirId)) :
      Image C pw w cont op v
  | between {id : ℕ} {v : World} (hroot : rooted w.storage id = true)
      (hlive : ((abstraction C w cont).record id).isSome = true)
      (h : Held C pw v ((abstraction C w cont).delete id).record
        (directoryOf (blocks C w) cont w.storage.dirId)) : Image C pw w cont (.remove id) v
  | after {op : Op} {v : World} {out : Outcome} {s : LocalStorage} (h : Refined C pw w cont op out (v.put s))
      (hroom : ∀ id, op = .remove id → rooted w.storage id = true →
        Room (dropped C w id) (directoryNeed (dropped C w id))) : Image C pw w cont op v

lemma users_isSome_of_find? (hid : id ≠ w.storage.dirId) (hh : w.storage.head.find? id = some hi) :
    ((abstraction C w cont).record id).isSome = true :=
  users_isSome.mpr (hasRecord_iff.mpr ⟨hid, SortedMap.mem_keys_of_find? hh⟩)

lemma hasRecord_of_find? (hid : id ≠ w.storage.dirId) (hh : w.storage.head.find? id = some hi) :
    hasRecord w.storage id = true := hasRecord_iff.mpr ⟨hid, SortedMap.mem_keys_of_find? hh⟩

lemma image_of_or {op : Op} (h : (HasHole C pw v ∧ Gapped C w op) ∨
    Held C pw v (abstraction C w cont).record (directoryOf (blocks C w) cont w.storage.dirId)) :
    Image C pw w cont op v := h.elim (fun hh => .hole hh.1 hh.2) .before

lemma Wf.unname_image (h : Wf C pw w cont) (hh : w.storage.head.find? id = some hi)
    (hid : id ≠ w.storage.dirId) (hroot : rooted w.storage id = true) {w₁ : World}
    (hp : Performed C pw w w.storage.nblocks (freeEvents w.storage id) w₁)
    (hs : Stopped C pw ((w₁.put (removed w.storage id hi.tag (cont id))).put
      (directoryStart (removed w.storage id hi.tag (cont id)))) w.storage.nblocks
      (directoryEvents (removed w.storage id hi.tag (cont id))) k j v) : Image C pw w cont (.remove id) v := by
  obtain ⟨hwf, ha, -⟩ := h.free_abstraction hh hid hp
  have hrec := (h.free_done hh hid hp).2
  have hdrop := h.dropped_eq hh
  have hdir : directoryOf (blocks C (w₁.put (removed w.storage id hi.tag (cont id)))) cont w.storage.dirId =
      directoryOf (blocks C w) cont w.storage.dirId :=
    directoryOf_records h.directory.mem ((congrFun hrec _).trans (Function.update_of_ne (Ne.symm hid) _ _))
  by_cases hj : j ≤ directoryIndex (removed w.storage id hi.tag (cont id))
  · have hst := hwf.directory_stopped hs hj
    rw [ha] at hst
    rcases hst with ⟨hhole, hgap⟩ | hheld
    · refine .hole hhole ⟨hasRecord_of_find? hid hh, hroot, ?_⟩
      rw [hdrop]
      exact hgap
    · exact .between hroot (users_isSome_of_find? hid hh) (hdir ▸ hheld)
  · obtain ⟨⟨s, cont', hds⟩, hroom⟩ := hwf.directory_complete hs (not_le.mp hj)
    refine .after (h.unname_refined hh hid hp hds) (fun i he _ => ?_)
    obtain rfl := Op.remove.inj he
    rw [hdrop]
    exact hroom

lemma Wf.roots_image (h : Wf C pw w cont) {roots : Roots}
    (hs : Stopped C pw ((w.put (withRoots w.storage roots)).put (directoryStart (withRoots w.storage roots)))
      w.storage.nblocks (directoryEvents (withRoots w.storage roots)) k j v) :
    ((HasHole C pw v ∧ Gap (withRoots w.storage roots) (directoryNeed (withRoots w.storage roots))) ∨
      Held C pw v (abstraction C w cont).record (directoryOf (blocks C w) cont w.storage.dirId)) ∨
    ∃ s cont', DirectorySaved C pw (w.put (withRoots w.storage roots)) (v.put s) cont cont' := by
  have hwf := h.with_roots roots
  by_cases hj : j ≤ directoryIndex (withRoots w.storage roots)
  · refine Or.inl ?_
    have hst := hwf.directory_stopped hs hj
    simp only [abstraction, blocks_withRoots] at hst ⊢
    exact hst
  · exact Or.inr (hwf.directory_complete hs (not_le.mp hj)).1

lemma Cut.image {op : Op} (h : Wf C pw w cont) (hc : Cut C pw w cont k op v) : Image C pw w cont op v := by
  cases hc with
  | skipped => exact .before h.held
  | @insert data tag j _ htag hs =>
    by_cases hj : j ≤ headIndex (insertStart w.storage data) (insertIds w.storage data) data tag
    · exact image_of_or ((h.insert_stopped hs hj).imp_left (fun hh => ⟨hh.1, htag, hh.2⟩))
    · obtain ⟨hp, hr⟩ := hs.complete (not_le.mp hj)
      rw [World.put_storage, insertStart_bs] at hr
      exact .after (h.insert_refined htag hp hr) (fun _ he => by cases he)
  | @update id data hi j _ hid hh hs =>
    by_cases hj : j ≤ headIndex (updateStart w.storage data) (id :: updateFresh w.storage data) data hi.tag
    · exact image_of_or ((h.update_stopped hs hj).imp_left
        (fun hh' => ⟨hh'.1, hasRecord_of_find? hid hh, hh'.2⟩))
    · obtain ⟨hp, hr⟩ := hs.complete (not_le.mp hj)
      rw [World.put_storage, updateStart_bs] at hr
      exact .after (h.update_refined hh hid hp hr) (fun _ he => by cases he)
  | @free id hi j _ hid hh hs _ =>
    rcases Nat.eq_zero_or_pos j with rfl | hj
    · exact .before (h.held_unchanged hs)
    · have hp := hs.freed hj
      cases hroot : rooted w.storage id with
      | true => exact .between hroot (users_isSome_of_find? hid hh) (h.held_freed hh hid hp)
      | false =>
        refine .after (h.free_refined hh hid hroot hp) (fun i he hr => ?_)
        obtain rfl := Op.remove.inj he
        rw [hroot] at hr
        cases hr
  | unname hid hh hroot hd _ hs => exact h.unname_image hh hid hroot hd.toPerformed hs
  | setRoot hb hs =>
    rcases h.roots_image hs with hst | ⟨s, cont', hds⟩
    · exact image_of_or (hst.imp_left (fun hh => ⟨hh.1, hb, hh.2⟩))
    · exact .after (Wf.setRoot_refined hb hds) (fun _ he => by cases he)
  | removeRoot hb hs =>
    rcases h.roots_image hs with hst | ⟨s, cont', hds⟩
    · exact image_of_or (hst.imp_left (fun hh => ⟨hh.1, hb, hh.2⟩))
    · exact .after (Wf.removeRoot_refined hb hds) (fun _ he => by cases he)

end

end ChatDesktop.Storage
