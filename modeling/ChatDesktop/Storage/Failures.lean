import ChatDesktop.Storage.Reopening

namespace ChatDesktop.Storage

open Library Library.Program Library.Transition Library.LinkedChain LocalStorage

/-- A call, or a call whose file operation number `k` throws. -/
inductive Trial
  | call (op : Op)
  | fail (op : Op) (k : ℕ)

inductive Attempt (C : Crypto) : World → Trial → World → Prop
  | call {w w' : World} {op : Op} {out : Outcome} (hs : Steps C w (op, out) w') (hok : ¬IoFailed out) :
      Attempt C w (.call op) w'
  | fail {w w' : World} {op : Op} {k : ℕ} {e : Error} (hs : Steps C { w with faults := some k } (op, .failed e) w')
      (he : IsIoFailure e) : Attempt C w (.fail op k) w'

def SingleBlock (s : LocalStorage) (id : ℕ) : Prop := ∃ hi, s.head.find? id = some hi ∧ hi.next = 0

/-- What the failure of file operation number `k` does not harm: a call that takes no new block, stopped
before its first write, or after its last one with no old block left to free. -/
def Harmless (s : LocalStorage) (k : ℕ) : Op → Prop
  | .insert _ _ => False
  | .update id data => chunks s data.length = 1 ∧ (k = 0 ∨ SingleBlock s id)
  | .remove id => k = 0 ∨ k = 3 ∧ rooted s id = true ∧ SingleBlock s s.dirId ∧
      chunks s (directoryBytes (s.roots.filter (fun _ r => !decide (r = id)))).length = 1
  | .setRoot n id => s.dirId ≠ 0 ∧ chunks s (directoryBytes (s.roots.insert n id)).length = 1 ∧
      (k = 0 ∧ s.roots.find? n = some id ∨ k = 1 ∧ SingleBlock s s.dirId)
  | .removeRoot n => k = 1 ∧ SingleBlock s s.dirId ∧ chunks s (directoryBytes (s.roots.erase n)).length = 1

/-- The call of `op` that failed on the way from `w` to `w'` did nothing or all it had to do; no block is
lost, and the store goes on, also when its file is opened again. -/
def Unharmed (C : Crypto) (pw : Bytes) (opt : Options) (w : World) (op : Op) (w' : World) : Prop :=
  ∃ a a', Agrees C w a ∧ Agrees C w' a' ∧ (a' = a ∨ ∃ out, Store.Step a (op, out) a') ∧
    (∃ cont, Partitioned (blocks C w') w'.storage cont) ∧
    ∀ ls w'', Run (Steps C) w' ls w'' → (∀ l ∈ ls, ¬IoFailed l.2) → NamesFit w''.storage.roots →
      ∃ b w₃, Run Store.Step a' ls b ∧ Agrees C w'' b ∧ reopen C pw opt w'' = (.ok (), w₃) ∧ Agrees C w₃ b

section

variable {C : Crypto} {pw : Bytes} {opt : Options} {w w' : World} {k j m id : ℕ} {op : Op} {out : Outcome}
  {a : Store} {cont : ℕ → List ℕ} {b : Blk} {e : Error} {es : List FileEvent} {data : Bytes} {hi : HeadInfo}
  {p : Prop}

/-! ### One block written -/

lemma Performed.append_sync (h : Performed C pw w m es w') : Performed C pw w m (es ++ [.sync]) w' := by
  refine ⟨h.storage, ?_, ?_, h.faults⟩
  · rw [applyEvents_append, h.blocks]
    rfl
  · rw [extentAfter_append]
    exact h.formatted

lemma Halted.single [Decidable p] (h : Halted C pw w m (.write id b :: if p then [.sync] else []) e k w') :
    (k = 0 ∧ Performed C pw w m [] w') ∨
      (k = 1 ∧ p ∧ Performed C pw w m (.write id b :: if p then [.sync] else []) w') := by
  have hp := h.toPerformed
  have hlt := h.lt
  rcases Nat.eq_zero_or_pos k with rfl | hk
  · exact Or.inl ⟨rfl, hp⟩
  · by_cases hd : p
    · rw [if_pos hd] at hp hlt ⊢
      obtain rfl : k = 1 := by
        simp only [List.length_cons, List.length_nil] at hlt
        omega
      exact Or.inr ⟨rfl, hd, hp.append_sync⟩
    · rw [if_neg hd] at hlt
      simp only [List.length_cons, List.length_nil] at hlt
      omega

lemma Related.unwritten (h : Related C pw w a cont) (hp : Performed C pw w w.storage.nblocks [] w') :
    Related C pw w' a cont := by
  have hb : blocks C w' = blocks C w := hp.blocks
  have hs := hp.storage
  have hf : Formatted C pw w' w.storage.nblocks := hp.formatted
  refine ⟨⟨⟨?_, ?_, ?_, ?_, ?_, ?_⟩, ?_, ?_⟩, ⟨?_, ?_⟩, ?_, h.live⟩ <;>
    simp only [abstraction, hs, hb]
  · exact h.wf.opened
  · exact hf
  · exact h.wf.inRange
  · exact h.wf.dense
  · exact h.wf.layout
  · exact h.wf.tags
  · exact h.wf.directory
  · exact h.wf.clean
  · exact h.recorded.empty
  · exact h.recorded.written
  · exact h.abs

lemma updateFresh_single {s : LocalStorage} (h1 : chunks s data.length = 1) : updateFresh s data = [] := by
  rw [updateFresh, h1]
  rfl

lemma updateStart_single {s : LocalStorage} (h1 : chunks s data.length = 1) : updateStart s data = s := by
  rw [updateStart, h1]
  rfl

lemma updateEvents_single {s : LocalStorage} {tag : UInt32} (h1 : chunks s data.length = 1) :
    updateEvents s id data tag = .write id (chainBlk s [id] data tag 0) ::
      if s.opt.durable then [.sync] else [] := by
  rw [updateEvents, updateFresh_single h1, updateStart_single h1]
  simp [chainEvents, contEvents, headEvents]

lemma Layout.cont_single {s : LocalStorage} {d : Disk} (h : Layout d s.head s.free s.nblocks cont)
    (hs : SingleBlock s id) : cont id = [] := by
  obtain ⟨hi, hh, h0⟩ := hs
  have hl := h.linked id hi hh
  rw [h0] at hl
  exact hl.unique .nil

lemma updated_single {s : LocalStorage} {tag : UInt32} (h1 : chunks s data.length = 1)
    (hh : s.head.find? id = some ⟨tag, 0⟩) : updated s id data tag [] = s := by
  have hhead : s.head.insert id ⟨tag, 0⟩ = s.head := SortedMap.insert_of_find? hh
  simp only [updated, updateFresh_single h1, updateStart_single h1, List.headD_nil, hhead, List.reverse_nil,
    List.nil_append]

/-! ### The harmless failures -/

lemma Wf.update_single (h : Wf C pw w cont) (hh : w.storage.head.find? id = some hi)
    (h1 : chunks w.storage data.length = 1) (hf : w.faults = some k)
    (hd : Halted C pw (w.put (updateStart w.storage data)) w.storage.nblocks
      (updateEvents w.storage id data hi.tag) e j w') :
    InRange w.storage.bs (updateEvents w.storage id data hi.tag) ∧
    ((k = 0 ∧ Performed C pw w w.storage.nblocks [] w') ∨
      (k = 1 ∧ Performed C pw (w.put (updateStart w.storage data)) w.storage.nblocks
        (updateEvents w.storage id data hi.tag) w')) := by
  have hk := SortedMap.mem_keys_of_find? hh
  have hin := h.update_inRange hk data hi.tag (by rw [updateStart_single h1]; exact h.inRange)
  obtain rfl : j = k := hd.index_eq hf (fun i b hm => by
    rw [World.put_storage, updateStart_bs]
    exact hin i b (List.mem_of_mem_take hm))
  refine ⟨hin, ?_⟩
  rw [updateEvents_single h1] at hd ⊢
  rcases hd.single with ⟨rfl, hp⟩ | ⟨rfl, -, hp⟩
  · rw [updateStart_single h1] at hp
    exact Or.inl ⟨rfl, hp⟩
  · exact Or.inr ⟨rfl, hp⟩

lemma Related.update_fails (h : Related C pw w a cont) (hid : id ≠ w.storage.dirId)
    (hh : w.storage.head.find? id = some hi) (hf : w.faults = some k) (hm : Harmless w.storage k (.update id data))
    (hd : Halted C pw (w.put (updateStart w.storage data)) w.storage.nblocks
      (updateEvents w.storage id data hi.tag) e j w') :
    ∃ b cont', Related C pw w' b cont' ∧ (b = a ∨ ∃ out, Store.Step a (.update id data, out) b) := by
  obtain ⟨h1, h0⟩ := hm
  obtain ⟨hin, ⟨rfl, hp⟩ | ⟨rfl, hp⟩⟩ := h.wf.update_single hh h1 hf hd
  · exact ⟨a, cont, h.unwritten hp, Or.inl rfl⟩
  · have hs : SingleBlock w.storage id := h0.resolve_left one_ne_zero
    have hc := h.wf.layout.cont_single hs
    have hr := h.wf.update_refined hh hid hp hin
    obtain ⟨hi', hh', hn⟩ := hs
    obtain rfl := Option.some.inj (hh.symm.trans hh')
    rw [hc, updated_single h1 (hn ▸ hh)] at hr
    have hw : w'.put w.storage = w' := by
      rw [← updateStart_single h1, ← World.put_storage w (updateStart w.storage data), ← hp.storage]
      rfl
    rw [hw] at hr
    obtain ⟨b, cont', hst, hb⟩ := h.refined hr
    exact ⟨b, cont', hb, Or.inr ⟨_, hst⟩⟩

lemma Wf.directory_single (h : Wf C pw w cont) (h0 : w.storage.dirId ≠ 0)
    (h1 : chunks w.storage (directoryBytes w.storage.roots).length = 1) (hf : w.faults = some k)
    (hd : Halted C pw (w.put (directoryStart w.storage)) w.storage.nblocks (directoryEvents w.storage) e j w') :
    (k = 0 ∧ Performed C pw w w.storage.nblocks [] w') ∨
      (k = 1 ∧ (SingleBlock w.storage w.storage.dirId → ∃ cont', DirectorySaved C pw w w' cont cont')) := by
  obtain ⟨hi, hh⟩ := SortedMap.mem_keys.mp (h.directory.mem h0)
  have htag : hi.tag = kDirTag := (h.directory.tag_iff _ hi hh).mpr rfl
  rw [directoryStart, directoryEvents, if_neg h0, if_neg h0, ← htag] at hd
  obtain ⟨hin, ⟨rfl, hp⟩ | ⟨rfl, hp⟩⟩ := h.update_single hh h1 hf hd
  · exact Or.inl ⟨rfl, hp⟩
  · refine Or.inr ⟨rfl, fun hs => ?_⟩
    have hc := h.layout.cont_single hs
    have hds := h.directory_updated h0 rfl (htag ▸ hp) (htag ▸ hin)
    obtain ⟨hi', hh', hn⟩ := hs
    obtain rfl := Option.some.inj (hh.symm.trans hh')
    rw [hc, updated_single h1 (by rw [hh, ← htag, ← hn])] at hds
    have hw : w'.put w.storage = w' := by
      rw [← updateStart_single h1, ← World.put_storage w (updateStart w.storage _), ← hp.storage]
      rfl
    rw [hw] at hds
    exact ⟨_, hds⟩

lemma Related.named (h : Related C pw w a cont) {n : Bytes} (hn : w.storage.roots.find? n = some id) :
    w.storage.dirId ≠ 0 := by
  intro h0
  rw [h.recorded.empty h0] at hn
  cases hn

lemma Related.free_fails (h : Related C pw w a cont) (hh : w.storage.head.find? id = some hi)
    (hf : w.faults = some k) (hm : Harmless w.storage k (.remove id))
    (hd : Halted C pw w w.storage.nblocks (freeEvents w.storage id) e j w') : Related C pw w' a cont := by
  have hin := h.wf.free_inRange hh
  obtain rfl : j = k := hd.index_eq hf (fun i b hm => hin i b (List.mem_of_mem_take hm))
  rcases hd.single with ⟨-, hp⟩ | ⟨rfl, -⟩
  · exact h.unwritten hp
  · rcases hm with h0 | ⟨h3, -⟩ <;> omega

lemma Related.unname_fails {w₁ : World} (h : Related C pw w a cont) (hid : id ≠ w.storage.dirId)
    (hh : w.storage.head.find? id = some hi) (hroot : rooted w.storage id = true) (hf : w.faults = some k)
    (hm : Harmless w.storage k (.remove id)) (hfin : Finished C pw w w.storage.nblocks (freeEvents w.storage id) w₁)
    (hd : Halted C pw ((w₁.put (removed w.storage id hi.tag (cont id))).put
      (directoryStart (removed w.storage id hi.tag (cont id)))) w.storage.nblocks
      (directoryEvents (removed w.storage id hi.tag (cont id))) e j w') :
    ∃ b cont', Related C pw w' b cont' ∧ ∃ out, Store.Step a (.remove id, out) b := by
  have hpos : 0 < (freeEvents w.storage id).length := Nat.succ_pos _
  have hlen : (freeEvents w.storage id).length ≤ 2 := by
    rw [freeEvents]
    split_ifs <;> simp
  have hle := hfin.faultsAfter k hf
  obtain ⟨rfl, -, hs, h1⟩ := hm.resolve_left (by omega)
  obtain ⟨n, hn⟩ := rooted_iff.mp hroot
  have hwf := (h.wf.free_done hh hid hfin.toPerformed).1
  have hf₁ : (w₁.put (removed w.storage id hi.tag (cont id))).faults = some (3 - (freeEvents w.storage id).length) := by
    rw [World.put, hfin.faultsRest, hf]
    rfl
  rcases hwf.directory_single (h.named hn) h1 hf₁ hd with ⟨h0, -⟩ | ⟨-, hds⟩
  · omega
  · have hs' : SingleBlock (removed w.storage id hi.tag (cont id)) w.storage.dirId := by
      obtain ⟨hi', hh', h0⟩ := hs
      exact ⟨hi', (SortedMap.find?_erase ..).trans ((if_neg hid.symm).trans hh'), h0⟩
    obtain ⟨cont', hds⟩ := hds hs'
    obtain ⟨b, cont₁, hst, hb⟩ := h.refined (h.wf.unname_refined hh hid hfin.toPerformed hds)
    exact ⟨b, cont₁, hb, _, hst⟩

lemma Related.failure (h : Related C pw w a cont) (hf : w.faults = some k) (hm : Harmless w.storage k op)
    (hfail : Failure C pw w cont e w' op) :
    ∃ b cont', Related C pw w' b cont' ∧ (b = a ∨ ∃ out, Store.Step a (op, out) b) := by
  cases hfail with
  | insert => exact hm.elim
  | update hid hh hd => exact h.update_fails hid hh hf hm hd
  | free _ hh hd => exact ⟨a, cont, h.free_fails hh hf hm hd, Or.inl rfl⟩
  | unname hid hh hroot hfin hd =>
    obtain ⟨b, cont', hb, hst⟩ := h.unname_fails hid hh hroot hf hm hfin hd
    exact ⟨b, cont', hb, Or.inr hst⟩
  | @setRoot n id _ hb hd =>
    obtain ⟨h0, h1, hk⟩ := hm
    have hwf := h.wf.with_roots (w.storage.roots.insert n id)
    rcases hwf.directory_single h0 h1 hf hd with ⟨rfl, hp⟩ | ⟨rfl, hds⟩
    · obtain ⟨-, hn⟩ := hk.resolve_right (by omega)
      rw [SortedMap.insert_of_find? hn] at hp
      exact ⟨a, cont, h.unwritten hp, Or.inl rfl⟩
    · obtain ⟨-, hs⟩ := hk.resolve_left (by omega)
      obtain ⟨cont', hds⟩ := hds hs
      obtain ⟨b, cont₁, hst, hb'⟩ := h.refined (Wf.setRoot_refined hb hds)
      exact ⟨b, cont₁, hb', Or.inr ⟨_, hst⟩⟩
  | @removeRoot n _ hb hd =>
    obtain ⟨rfl, hs, h1⟩ := hm
    obtain ⟨id, hn⟩ := Option.isSome_iff_exists.mp hb
    have hwf := h.wf.with_roots (w.storage.roots.erase n)
    rcases hwf.directory_single (h.named hn) h1 hf hd with ⟨h0, -⟩ | ⟨-, hds⟩
    · omega
    · obtain ⟨cont', hds⟩ := hds hs
      obtain ⟨b, cont₁, hst, hb'⟩ := h.refined (Wf.removeRoot_refined hb hds)
      exact ⟨b, cont₁, hb', Or.inr ⟨_, hst⟩⟩

lemma Related.fails (h : Related C pw w a cont) (hm : Harmless w.storage k op)
    (hs : Steps C { w with faults := some k } (op, .failed e) w') (he : IsIoFailure e) :
    ∃ b cont', Related C pw w' b cont' ∧ (b = a ∨ ∃ out, Store.Step a (op, out) b) := by
  have h' := h.faulted (some k)
  rcases h'.wf.step_ends hs with ⟨hsk, -⟩ | hsu | ⟨e', -, hfail⟩
  · cases hsk <;> exact absurd he (by decide)
  · cases hsu
  · exact h'.failure rfl hm hfail

/-! ### Runs -/

def Tolerable (C : Crypto) (w : World) (t : Trial) (w' : World) : Prop :=
  Attempt C w t w' ∧ match t with
    | .call _ => True
    | .fail op k => Harmless w.storage k op

lemma Related.run_tolerable {ts : List Trial} (h : Related C pw w a cont) (hr : Run (Tolerable C) w ts w') :
    ∃ b cont', Related C pw w' b cont' := by
  refine hr.invariant (P := fun w => ∃ a cont, Related C pw w a cont) ⟨a, cont, h⟩ ?_
  rintro w t w' - ⟨a, cont, h⟩ ⟨hs, hm⟩
  cases hs with
  | call hs hok =>
    obtain ⟨b, -, hb⟩ := h.step hs hok
    exact ⟨b, hb⟩
  | fail hs he =>
    obtain ⟨b, cont', hb, -⟩ := h.fails hm hs he
    exact ⟨b, cont', hb⟩

/-- While only harmless file operations fail, a failed call is a call that did nothing or everything, and
the store goes on as if it had not failed. -/
theorem failures_unharmed {w₀ w₁ : World} {ts : List Trial} (hlo : 128 ≤ opt.blockSize)
    (hhi : opt.blockSize ≤ 2 ^ 20) (hfile : w₀.file = []) (hf : w₀.faults = none)
    (hnew : construct C opt pw w₀ = (.ok (), w₁)) (hrun : Run (Tolerable C) w₁ ts w) :
    ∀ op k w', Attempt C w (.fail op k) w' → Harmless w.storage k op → Unharmed C pw opt w op w' := by
  intro op k w' hs hm
  obtain ⟨a, cont, h⟩ := (related_new hlo hhi hfile hf hnew).run_tolerable hrun
  cases hs with
  | fail hs he =>
    obtain ⟨a', cont', h', hst⟩ := h.fails hm hs he
    refine ⟨a, a', h.agrees, h'.agrees, hst, ⟨cont', h'.wf.layout.partitioned⟩, fun ls w'' hls hok hfit => ?_⟩
    obtain ⟨b, hb, cont'', h''⟩ := h'.run hls hok
    obtain ⟨w₃, hw₃, h₃, -⟩ := h''.reopen (h''.storable_iff.mpr hfit) opt
    exact ⟨b, w₃, hb, h''.agrees, hw₃, h₃.agrees⟩

end

/-! ### The first block of a new store -/

def failedStore : World := (step .transparent (.insert [] 1) { smallStore with faults := some 0 }).2

set_option maxRecDepth 10000 in
/-- The number of the block stays taken though nothing uses the block. -/
theorem failures_lose_block :
    Attempt .transparent smallStore (.fail (.insert [] 1) 0) failedStore ∧
      ¬Unharmed .transparent [] smallOptions smallStore (.insert [] 1) failedStore := by
  refine ⟨.fail (e := writeFailed) (Prod.ext (by decide) rfl) (Or.inl rfl), ?_⟩
  rintro ⟨-, -, -, -, -, ⟨cont, hp⟩, -⟩
  have hkeys : failedStore.storage.head.keys = [] := by decide
  have hfree : failedStore.storage.free = [] := by decide
  have hcount : failedStore.storage.nblocks = 1 := by decide
  have hcovers := hp.covers 1
  rw [hkeys, hfree, hcount] at hcovers
  simp at hcovers

set_option maxRecDepth 10000 in
theorem failures_unharmed_sample :
    Unharmed .transparent [] smallOptions (runOps .transparent smallStore [.insert [] 1]) (.update 1 [5])
      (step .transparent (.update 1 [5]) { runOps .transparent smallStore [.insert [] 1] with faults := some 0 }).2 :=
  failures_unharmed (by decide) (by decide) rfl rfl construct_smallStore
    (.single ⟨.call step_insertedStore (by decide), trivial⟩) (.update 1 [5]) 0 _
    (.fail (e := writeFailed) (Prod.ext (by decide) rfl) (Or.inl rfl)) ⟨by decide, Or.inl rfl⟩

end ChatDesktop.Storage
