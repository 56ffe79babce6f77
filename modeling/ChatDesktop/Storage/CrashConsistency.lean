import ChatDesktop.Storage.Images

namespace ChatDesktop.Storage

open Library Library.Program LocalStorage

/-- Stores in use: new ones, after calls that met no failing file operation, and opened again after a
stop anywhere in a call. -/
inductive Reachable (C : Crypto) (pw : Bytes) : World → Prop
  | create {opt : Options} {w₀ w : World} (hlo : 128 ≤ opt.blockSize) (hhi : opt.blockSize ≤ 2 ^ 20)
      (hfile : w₀.file = []) (hf : w₀.faults = none) (hnew : construct C opt pw w₀ = (.ok (), w)) :
      Reachable C pw w
  | step {w w' : World} {op : Op} {out : Outcome} (h : Reachable C pw w) (hs : Steps C w (op, out) w')
      (hok : ¬IoFailed out) : Reachable C pw w'
  | restart {w w' : World} {op : Op} {k : ℕ} {opt : Options} (h : Reachable C pw w)
      (hw : reopen C pw opt (crashed C op k w) = (.ok (), w')) : Reachable C pw w'

/-- Wherever the call is cut off, the file opens again, with the records from before the call or the
records from after it. -/
def CrashSafe (C : Crypto) (pw : Bytes) (opt : Options) (w : World) (op : Op) : Prop :=
  ∀ k, ∃ w' a a', reopen C pw opt (crashed C op k w) = (.ok (), w') ∧ Agrees C w a ∧ Agrees C w' a' ∧
    (a'.record = a.record ∨ ∃ out b, Store.Step a (op, out) b ∧ a'.record = b.record)

def Readable (roots : Roots) : Prop := ∃ r, parseDirectory (directoryBytes roots) = .ok r

/-- The directory a removal saves can be read, if there is room to save it. -/
def RewriteReadable (C : Crypto) (w : World) : Op → Prop
  | .remove id => hasRecord w.storage id = true → rooted w.storage id = true →
    Room (dropped C w id) (directoryNeed (dropped C w id)) → Readable (dropped C w id).roots
  | _ => True

/-- Insert, update and remove; the others leave the records alone. -/
def OnRecord : Op → Prop
  | .insert _ _ | .update _ _ | .remove _ => True
  | _ => False

section

variable {C : Crypto} {pw : Bytes} {opt : Options} {w v w' : World} {k j : ℕ} {op : Op} {out : Outcome}
  {cont : ℕ → List ℕ} {rec : ℕ → Option (UInt32 × Bytes)} {dir : Except Error Roots}

lemma Held.of_ok (h : Held C pw v rec dir) (hw : reopen C pw opt v = (.ok (), w')) :
    ∃ roots cont, dir = .ok roots ∧ Wf C pw w' cont ∧ Recorded C w' cont ∧
      abstraction C w' cont = ⟨rec, fun n => roots.find? n⟩ := by
  cases dir with
  | error e =>
    obtain ⟨w'', hw''⟩ := h.fails opt
    rw [hw] at hw''
    cases (Prod.mk.inj hw'').1
  | ok roots =>
    obtain ⟨w'', cont, hw'', hwf, hrec, ha, -⟩ := h.opens opt
    obtain rfl := (Prod.mk.inj (hw.symm.trans hw'')).2
    exact ⟨roots, cont, rfl, hwf, hrec, ha⟩

lemma Image.restart (h : Recorded C w cont) (hi : Image C pw w cont op v)
    (hw : reopen C pw opt v = (.ok (), w')) : ∃ cont, Wf C pw w' cont ∧ Recorded C w' cont := by
  cases hi with
  | hole hh _ =>
    obtain ⟨e, w'', hw''⟩ := hh.fails opt
    rw [hw] at hw''
    cases (Prod.mk.inj hw'').1
  | before hh =>
    obtain ⟨-, cont, -, hwf, hrec, -⟩ := hh.of_ok hw
    exact ⟨cont, hwf, hrec⟩
  | between _ _ hh =>
    obtain ⟨-, cont, -, hwf, hrec, -⟩ := hh.of_ok hw
    exact ⟨cont, hwf, hrec⟩
  | after hr _ =>
    obtain ⟨cont', hwf', -, hrec'⟩ := hr
    obtain ⟨-, cont, -, hwf, hrec, -⟩ := ((hrec' h).held hwf').of_ok hw
    exact ⟨cont, hwf, hrec⟩

lemma Recorded.arm (h : Recorded C w cont) (k : ℕ) : Recorded C (w.arm k) cont := h.faulted (some k)

lemma Reachable.wf (h : Reachable C pw w) : ∃ cont, Wf C pw w cont ∧ Recorded C w cont := by
  induction h with
  | create hlo hhi hfile hf hnew =>
    have hrel := related_new hlo hhi hfile hf hnew
    exact ⟨_, hrel.wf, hrel.recorded⟩
  | step _ hs hok ih =>
    obtain ⟨cont, hwf, hrec⟩ := ih
    rcases hwf.step_spec hs with ⟨cont', hwf', -, hrec'⟩ | hfail
    · exact ⟨cont', hwf', hrec' hrec⟩
    · exact absurd hfail hok
  | @restart w w' op k opt _ hw ih =>
    obtain ⟨cont, hwf, hrec⟩ := ih
    obtain ⟨v, s, hv, hcut⟩ := hwf.crashed_cut op k
    rw [hv, reopen_put] at hw
    exact (hcut.image (hwf.arm k)).restart (hrec.arm k) hw

/-! ### Where it goes right -/

lemma Wf.dropped_arm (h : Wf C pw w cont) (k id : ℕ) : dropped C (w.arm k) id = dropped C w id := by
  cases hh : w.storage.head.find? id with
  | none =>
    have hh' : (w.arm k).storage.head.find? id = none := hh
    rw [dropped, dropped, hh, hh']
    rfl
  | some hi => exact ((h.arm k).dropped_eq hh).trans (h.dropped_eq hh).symm

lemma Wf.gapped_arm (h : Wf C pw w cont) (k : ℕ) : Gapped C (w.arm k) op ↔ Gapped C w op := by
  cases op with
  | remove id =>
    rw [Gapped, Gapped, h.dropped_arm]
    rfl
  | _ => rfl

lemma Wf.rewriteReadable_arm (h : Wf C pw w cont) (k : ℕ) :
    RewriteReadable C (w.arm k) op ↔ RewriteReadable C w op := by
  cases op with
  | remove id =>
    rw [RewriteReadable, RewriteReadable, h.dropped_arm]
    rfl
  | _ => rfl

lemma Refined.readable {s : LocalStorage} (hr : Refined C pw w cont op out (v.put s)) (hwf : Wf C pw w cont)
    (hop : OnRecord op) (hread : Readable w.storage.roots) (hrew : RewriteReadable C w op)
    (hroom : ∀ id, op = .remove id → rooted w.storage id = true →
      Room (dropped C w id) (directoryNeed (dropped C w id))) : Readable (v.put s).storage.roots := by
  obtain ⟨cont', -, hs, -⟩ := hr
  have hsame : (∀ n, (v.put s).storage.roots.find? n = w.storage.roots.find? n) →
      Readable (v.put s).storage.roots := fun he => (SortedMap.ext he) ▸ hread
  generalize ha : abstraction C w cont = a at hs
  generalize hb : abstraction C (v.put s) cont' = b at hs
  have hroots : ∀ n, (v.put s).storage.roots.find? n = b.root n := fun n => hb ▸ rfl
  have hroots' : ∀ n, w.storage.roots.find? n = a.root n := fun n => ha ▸ rfl
  cases hs with
  | setRoot => exact hop.elim
  | setRootMissing => exact hop.elim
  | removeRoot => exact hop.elim
  | removeRootMissing => exact hop.elim
  | remove id hlive =>
    have hrecord : hasRecord w.storage id = true := by
      rw [← ha] at hlive
      exact users_isSome.mp hlive
    obtain ⟨hid, hi, hh⟩ := hasRecord_find? hrecord
    have hdrop : ∀ n, (v.put s).storage.roots.find? n = (dropped C w id).roots.find? n := by
      intro n
      rw [hroots, hwf.dropped_eq hh, removed, find?_filter_ne, hroots']
      rfl
    cases hroot : rooted w.storage id with
    | true =>
      rw [SortedMap.ext hdrop]
      exact hrew hrecord hroot (hroom id rfl hroot)
    | false =>
      refine hsame (fun n => ?_)
      rw [hroots, hroots']
      refine if_neg (fun hn => ?_)
      rw [rooted_iff.mpr ⟨n, (hroots' n).trans hn⟩] at hroot
      cases hroot
  | _ => exact hsame (fun n => (hroots n).trans (hroots' n).symm)

lemma Wf.crashSafe (h : Wf C pw w cont) (hrec : Recorded C w cont) (hop : OnRecord op)
    (hread : Readable w.storage.roots) (hgap : ¬Gapped C w op) (hrew : RewriteReadable C w op) :
    CrashSafe C pw opt w op := by
  intro k
  obtain ⟨v, s, hv, hcut⟩ := h.crashed_cut op k
  rw [hv, reopen_put]
  have hdir := (hrec.arm k).directoryOf_eq
  obtain ⟨r, hr⟩ := hread
  rw [show (w.arm k).storage.roots = w.storage.roots from rfl, hr] at hdir
  have ha : Agrees C w (abstraction C w cont) := h.agrees
  cases hcut.image (h.arm k) with
  | hole _ hg => exact absurd ((h.gapped_arm k).mp hg) hgap
  | before hh =>
    rw [hdir] at hh
    obtain ⟨w', cont', hw', hwf', -, hab, -⟩ := hh.opens opt
    exact ⟨w', _, _, hw', ha, hwf'.agrees, Or.inl (by rw [hab]; rfl)⟩
  | between _ hlive hh =>
    rw [hdir] at hh
    obtain ⟨w', cont', hw', hwf', -, hab, -⟩ := hh.opens opt
    exact ⟨w', _, _, hw', ha, hwf'.agrees, Or.inr ⟨_, _, .remove _ _ hlive, by rw [hab]; rfl⟩⟩
  | @after _ _ out s' href hroom =>
    obtain ⟨r', hr'⟩ := href.readable (h.arm k) hop ⟨r, hr⟩ ((h.rewriteReadable_arm k).mpr hrew) hroom
    obtain ⟨cont₁, hwf₁, hs₁, hrec₁⟩ := href
    have hh := (hrec₁ (hrec.arm k)).held hwf₁
    rw [hr'] at hh
    obtain ⟨w', cont', hw', hwf', -, hab, -⟩ := hh.opens opt
    exact ⟨w', _, _, hw', ha, hwf'.agrees, Or.inr ⟨out, _, hs₁, by rw [hab]⟩⟩

/-! ### Where it goes wrong -/

lemma Stopped.eq_zero {m : ℕ} {es : List FileEvent} (hs : Stopped C pw w m es 0 j v) : j = 0 := by
  have := hs.index (fun _ _ hm => absurd hm List.not_mem_nil)
  omega

lemma headIndex_lt (s : LocalStorage) (known : List ℕ) (data : Bytes) (tag : UInt32) :
    headIndex s known data tag < (chainEvents s known data tag).length := by
  obtain ⟨es, hlen, he, -⟩ := chainEvents_split s known data tag
  rw [he, List.length_append, hlen, headEvents, List.length_cons]
  omega

lemma directoryIndex_lt (s : LocalStorage) : directoryIndex s < (directoryEvents s).length := by
  rw [directoryIndex, directoryEvents, directoryStart]
  split_ifs
  · exact headIndex_lt _ _ _ _
  · exact headIndex_lt _ _ _ _

lemma directoryStart_nblocks (s : LocalStorage) :
    (directoryStart s).nblocks = s.nblocks + (directoryNeed s - s.free.length) := by
  rw [directoryStart, directoryNeed]
  split_ifs
  · rw [insertStart_eq]
  · rw [updateStart_eq]

lemma Cut.zero (h : Wf C pw w cont) (hop : OnRecord op) (hc : Cut C pw w cont 0 op v) :
    HasHole C pw v ∨
      Held C pw v (abstraction C w cont).record (directoryOf (blocks C w) cont w.storage.dirId) := by
  cases hc with
  | skipped => exact Or.inr h.held
  | insert _ hs =>
    obtain rfl := hs.eq_zero
    exact (h.insert_stopped hs (Nat.zero_le _)).imp_left And.left
  | update _ _ hs =>
    obtain rfl := hs.eq_zero
    exact (h.update_stopped hs (Nat.zero_le _)).imp_left And.left
  | free _ _ hs _ =>
    obtain rfl := hs.eq_zero
    exact Or.inr (h.held_unchanged hs)
  | unname _ _ _ _ hk _ => exact absurd hk (by simp [freeEvents])
  | setRoot => exact hop.elim
  | removeRoot => exact hop.elim

lemma Sound.stopped_hole {n : ℕ} {known : List ℕ} {data : Bytes} {tag : UInt32} (h : Sound C pw w cont)
    (hs : Stopped C pw (w.put (allocMany n w.storage).2) w.storage.nblocks
      (chainEvents (allocMany n w.storage).2 known data tag) 1 j v) (hlen : 0 < known.length)
    (hlast : w.storage.free.length < n →
      known.getD (known.length - 1) 0 = w.storage.nblocks + (n - w.storage.free.length))
    (hgap : Gap w.storage n) : HasHole C pw v := by
  have hlast' := hlast (by have := hgap.2; omega)
  have hbs : (w.put (allocMany n w.storage).2).storage.bs = w.storage.bs := by
    rw [World.put_storage, allocMany_eq]
  have hj : j = 1 := by
    have hlt := headIndex_lt (allocMany n w.storage).2 known data tag
    have := hs.index (fun id b hm => ?_)
    · omega
    · rw [take_chainEvents hlen, List.mem_singleton] at hm
      obtain ⟨rfl, -⟩ := FileEvent.write.inj hm
      rw [hlast', hbs]
      exact hgap.1
  exact h.chain_hole hs.toPerformed hj hlen hlast' hgap

lemma Wf.directory_hole (h : Wf C pw w cont)
    (hs : Stopped C pw (w.put (directoryStart w.storage)) w.storage.nblocks (directoryEvents w.storage) 1 j v)
    (hgap : Gap w.storage (directoryNeed w.storage)) : HasHole C pw v := by
  rw [directoryNeed] at hgap
  rw [directoryStart, directoryEvents] at hs
  split_ifs at hs hgap
  · exact h.stopped_hole hs (insertIds_pos _ _) insert_last hgap
  · have hpos : 0 < (w.storage.dirId :: updateFresh w.storage (directoryBytes w.storage.roots)).length :=
      Nat.succ_pos _
    exact h.stopped_hole hs hpos update_last hgap

lemma Cut.unnamed {id : ℕ} (h : Wf C pw w cont) (hlive : hasRecord w.storage id = true)
    (hroot : rooted w.storage id = true) (hk : (freeEvents w.storage id).length ≤ k)
    (hc : Cut C pw w cont k (.remove id) v) :
    ∃ (w₁ : World) (j : ℕ), Wf C pw (w₁.put (dropped C w id)) cont ∧ Stopped C pw ((w₁.put (dropped C w id)).put
      (directoryStart (dropped C w id))) (dropped C w id).nblocks (directoryEvents (dropped C w id))
      (k - (freeEvents w.storage id).length) j v := by
  cases hc with
  | skipped hsk =>
    cases hsk with
    | remove _ hb => simp [hlive] at hb
  | free hid hh hs hpart =>
    have hr := h.free_inRange hh
    have hj := hs.index (fun i b hm => hr i b (List.mem_of_mem_take hm))
    have := hpart hroot
    omega
  | unname hid hh _ hd _ hs =>
    rw [h.dropped_eq hh]
    exact ⟨_, _, (h.free_done hh hid hd.toPerformed).1, hs⟩

lemma CrashSafe.not_fails (h : CrashSafe C pw opt w op) {s : LocalStorage} (hv : crashed C op k w = v.put s)
    (hf : ∃ e w', reopen C pw opt v = (.error e, w')) : False := by
  obtain ⟨w', -, -, hw', -⟩ := h k
  obtain ⟨e, w'', hw''⟩ := hf
  rw [hv, reopen_put, hw''] at hw'
  cases (Prod.mk.inj hw').1

lemma CrashSafe.readable (h : Wf C pw w cont) (hrec : Recorded C w cont) (hop : OnRecord op)
    (hs : CrashSafe C pw opt w op) : Readable w.storage.roots := by
  cases hd : parseDirectory (directoryBytes w.storage.roots) with
  | ok r => exact ⟨r, hd⟩
  | error e =>
    obtain ⟨v, s, hv, hcut⟩ := h.crashed_cut op 0
    have hdir : directoryOf (blocks C (w.arm 0)) cont (w.arm 0).storage.dirId = .error e :=
      (hrec.arm 0).directoryOf_eq.trans hd
    refine (hs.not_fails hv ?_).elim
    rcases hcut.zero (h.arm 0) hop with hh | hh
    · exact hh.fails opt
    · rw [hdir] at hh
      exact ⟨e, hh.fails opt⟩

lemma CrashSafe.not_gapped (h : Wf C pw w cont) (hop : OnRecord op) (hs : CrashSafe C pw opt w op) :
    ¬Gapped C w op := by
  intro hgap
  cases op with
  | insert data tag =>
    obtain ⟨v, s, hv, hcut⟩ := h.crashed_cut (.insert data tag) 1
    refine hs.not_fails hv (HasHole.fails ?_ opt)
    cases hcut with
    | skipped hsk =>
      cases hsk
      exact absurd rfl hgap.1
    | insert _ hst => exact (h.arm 1).stopped_hole hst (insertIds_pos _ _) insert_last hgap.2
  | update id data =>
    obtain ⟨v, s, hv, hcut⟩ := h.crashed_cut (.update id data) 1
    refine hs.not_fails hv (HasHole.fails ?_ opt)
    cases hcut with
    | skipped hsk =>
      cases hsk with
      | update _ _ hb =>
        rw [show hasRecord (w.arm 1).storage id = true from hgap.1] at hb
        cases hb
    | update _ _ hst =>
      have hpos : 0 < (id :: updateFresh w.storage data).length := Nat.succ_pos _
      exact (h.arm 1).stopped_hole hst hpos update_last hgap.2
  | remove id =>
    obtain ⟨hlive, hroot, hg⟩ := hgap
    obtain ⟨v, s, hv, hcut⟩ := h.crashed_cut (.remove id) ((freeEvents w.storage id).length + 1)
    refine hs.not_fails hv (HasHole.fails ?_ opt)
    obtain ⟨w₁, j, hwf, hst⟩ := hcut.unnamed (h.arm _) hlive hroot (Nat.le_succ _)
    rw [h.dropped_arm] at hwf hst
    rw [Nat.succ_eq_add_one, Nat.add_sub_cancel_left] at hst
    exact hwf.directory_hole hst hg
  | setRoot => exact hop
  | removeRoot => exact hop

lemma CrashSafe.rewriteReadable (h : Wf C pw w cont) (hs : CrashSafe C pw opt w op) :
    RewriteReadable C w op := by
  cases op with
  | remove id =>
    intro hlive hroot hroom
    cases hd : parseDirectory (directoryBytes (dropped C w id).roots) with
    | ok r => exact ⟨r, hd⟩
    | error e =>
      obtain ⟨v, s, hv, hcut⟩ := h.crashed_cut (.remove id)
        ((freeEvents w.storage id).length + (directoryEvents (dropped C w id)).length)
      refine (hs.not_fails hv ?_).elim
      obtain ⟨w₁, j, hwf, hst⟩ := hcut.unnamed (h.arm _) hlive hroot (Nat.le_add_right _ _)
      rw [h.dropped_arm] at hwf hst
      have hr := hwf.directory_inRange (by
        rw [World.put_storage, directoryStart_nblocks]
        exact hroom)
      -- all events were allowed and are in range, so the new directory is complete
      have hj : j = (directoryEvents (dropped C w id)).length := by
        have := hst.index (fun i b hm => by
          rw [World.put_storage, directoryStart_bs]
          exact hr i b (List.mem_of_mem_take hm))
        have hlen : (freeEvents (w.arm ((freeEvents w.storage id).length +
            (directoryEvents (dropped C w id)).length)).storage id).length =
            (freeEvents w.storage id).length := rfl
        omega
      obtain ⟨⟨s', cont', hds⟩, -⟩ := hwf.directory_complete hst (hj ▸ directoryIndex_lt _)
      have hheld := hds.wf.held
      rw [hds.directory, World.put_storage, hd] at hheld
      exact ⟨e, hheld.fails opt⟩
  | _ => trivial

lemma Reachable.crashSafe (h : Reachable C pw w) (hop : OnRecord op) :
    CrashSafe C pw opt w op ↔
      Readable w.storage.roots ∧ ¬Gapped C w op ∧ RewriteReadable C w op := by
  obtain ⟨cont, hwf, hrec⟩ := h.wf
  exact ⟨fun hs => ⟨hs.readable hwf hrec hop, hs.not_gapped hwf hop, hs.rewriteReadable hwf⟩,
    fun ⟨hread, hgap, hrew⟩ => hwf.crashSafe hrec hop hread hgap hrew⟩

end

/-! ### Creating a store -/

section Creation

variable {C : Crypto} {pw : Bytes} {opt : Options} {w w' : World} {k : ℕ}

/-- What the creation of a store leaves when it is cut off with `k` file events allowed. -/
def creation (C : Crypto) (pw : Bytes) (opt : Options) (k : ℕ) (w : World) : World :=
  (construct C opt pw (w.arm k)).2

lemma scan_empty (h : w.file.length = w.storage.bs) :
    scan C w = (.ok (), w.put { w.storage with head := .empty, byTag := .empty, nblocks := 0, free := [] }) := by
  have hn : (w.file.length - w.storage.bs) / w.storage.bs = 0 := by
    rw [h, Nat.sub_self, Nat.zero_div]
  have hlt : ¬w.file.length < w.storage.bs := by omega
  have hsize : ¬w.file.length ≠ w.storage.bs + 0 * w.storage.bs := by omega
  have hinfo : readInfo C w 0 = .ok [] := rfl
  simp only [scan, bind_apply, get_apply, read_apply, if_neg hlt, hn, hinfo, List.range'_zero, scanHeads,
    trim, when_neg hsize, pure_apply, LocalStorage.set, modify_apply]
  rfl

lemma loadDirectory_none (h : w.storage.byTag = .empty) : loadDirectory C w = (.ok (), w) := by
  rw [loadDirectory, get_bind_apply, h]
  rfl

lemma construct_empty (hfile : w.file = []) :
    construct C opt pw w = (createHeader C pw >>= fun _ => scan C >>= fun _ => loadDirectory C)
      (w.put { opt := opt, opened := true }) := by
  simp only [construct, LocalStorage.set, modify_bind_apply, get_bind_apply]
  rw [if_pos (by simp [World.put, hfile])]

def World.headed (C : Crypto) (pw : Bytes) (opt : Options) (w : World) (faults : Option ℕ) : World :=
  ⟨Storage.created C pw opt w.draws, newHeader C pw opt w.draws, w.draws + 2, faults⟩

lemma writeAt_newHeader : ByteFile.writeAt 0 [] 0 (newHeader C pw opt w.draws) = newHeader C pw opt w.draws := by
  simp [ByteFile.writeAt]

variable (C pw) in
lemma createHeader_cut (hlo : 128 ≤ opt.blockSize) (hhi : opt.blockSize ≤ 2 ^ 20) (hfile : w.file = []) (k : ℕ) :
    createHeader C pw ((w.arm k).put { opt := opt, opened := true }) = match k with
      | 0 => (.error writeFailed, ⟨created C pw opt w.draws, [], w.draws + 2, none⟩)
      | 1 => (.error ftruncateFailed, w.headed C pw opt none)
      | 2 => (.error fsyncFailed, { w.created C pw opt with faults := none })
      | k + 3 => (.ok (), { w.created C pw opt with faults := some k }) := by
  have hlt : ¬maxOffset < 0 + kHdr := by decide
  have happ := createHeader_apply (C := C) pw hlo hhi (w.arm k)
  rw [show (w.arm k).draws = w.draws from rfl] at happ
  rw [happ, World.created, writeAt_newHeader, World.headed]
  rcases k with _ | _ | _ | k <;>
  · simp only [bind_apply, pwriteFull, length_newHeader, if_neg hlt, fileOp, World.put, World.arm, ftruncate,
      synceFd, id, hfile, writeAt_newHeader]

variable (pw opt w) in
lemma scan_created : ∃ s, s.byTag = .empty ∧ ∀ f, (scan C >>= fun _ => loadDirectory C)
    { w.created C pw opt with faults := f } = (.ok (), { w.created C pw opt with faults := f }.put s) := by
  have hlen : (w.created C pw opt).file.length = opt.blockSize := by rw [World.created, ByteFile.length_resize]
  refine ⟨{ (w.created C pw opt).storage with head := .empty, byTag := .empty, nblocks := 0, free := [] }, rfl,
    fun f => ?_⟩
  rw [bind_ok (scan_empty (w := { w.created C pw opt with faults := f }) hlen), loadDirectory_none rfl]

section

variable (hlo : 128 ≤ opt.blockSize) (hhi : opt.blockSize ≤ 2 ^ 20) (hfile : w.file = [])

include hlo hhi hfile

lemma creation_zero : (creation C pw opt 0 w).file = [] := by
  rw [creation, construct_empty (w := w.arm 0) hfile, bind_error (createHeader_cut C pw hlo hhi hfile 0)]

variable (pw) in
lemma creation_one : ∃ f, creation C pw opt 1 w = w.headed C pw opt f := by
  rw [creation, construct_empty (w := w.arm 1) hfile, bind_error (createHeader_cut C pw hlo hhi hfile 1)]
  exact ⟨none, rfl⟩

variable (pw) in
lemma creation_add_two (k : ℕ) : ∃ s f, creation C pw opt (k + 2) w = { w.created C pw opt with faults := f }.put s := by
  rw [creation, construct_empty (w := w.arm (k + 2)) hfile]
  cases k with
  | zero =>
    rw [bind_error (createHeader_cut C pw hlo hhi hfile 2)]
    exact ⟨(w.created C pw opt).storage, none, rfl⟩
  | succ k =>
    obtain ⟨s, -, hs⟩ := scan_created (C := C) pw opt w
    rw [bind_ok (createHeader_cut C pw hlo hhi hfile (k + 3)), hs]
    exact ⟨_, _, rfl⟩

end

variable (pw) in
lemma headed_fails (hlo : 128 ≤ opt.blockSize) (hhi : opt.blockSize ≤ 2 ^ 20) (f : Option ℕ) :
    ∃ e w', reopen C pw opt (w.headed C pw opt f) = (.error e, w') := by
  have hg : Geometry (w.headed C pw opt none).storage := ⟨hlo, hhi, rfl, rfl⟩
  have hh : Header C pw (w.headed C pw opt none).storage (w.headed C pw opt none).file := by
    refine ⟨C.random w.draws kSalt, C.random (w.draws + 1) kNonce, C.length_random _ _, C.length_random _ _, rfl, ?_⟩
    have hr := ByteFile.readAt_writeAt_self 0 [] 0 (newHeader C pw opt w.draws)
    rw [length_newHeader, writeAt_newHeader] at hr
    exact hr
  have hlen : (newHeader C pw opt w.draws).length = kHdr := length_newHeader _ _ _ _
  have hload := loadHeader_ok hg hh opt
  have hne : ¬(newHeader C pw opt w.draws).length = 0 := by rw [hlen]; decide
  have hscan : scan C ((w.headed C pw opt none).put (loaded opt (w.headed C pw opt none).storage)) =
      (.error (.runtimeError "file shorter than its header block"),
        (w.headed C pw opt none).put (loaded opt (w.headed C pw opt none).storage)) := by
    have hlt : (newHeader C pw opt w.draws).length < opt.blockSize := by
      rw [hlen]
      simp only [kHdr, kHdrAad, kSalt, kNonce, kTag]
      omega
    rw [scan, get_bind_apply]
    exact if_pos hlt ▸ rfl
  have hc : reopen C pw opt (w.headed C pw opt f) = (loadHeader C pw >>= fun _ => scan C >>= fun _ => loadDirectory C)
      ((w.headed C pw opt none).put { opt := opt, opened := true }) := by
    simp only [reopen, construct, LocalStorage.set, modify_bind_apply, get_bind_apply, World.put]
    rw [if_neg (by exact hne)]
    rfl
  exact ⟨_, _, (hc.trans (bind_ok hload)).trans (bind_error hscan)⟩

lemma creation_opens_iff (hlo : 128 ≤ opt.blockSize) (hhi : opt.blockSize ≤ 2 ^ 20) (hfile : w.file = [])
    (k : ℕ) : (∃ w', reopen C pw opt (creation C pw opt k w) = (.ok (), w') ∧ Agrees C w' .empty) ↔ k ≠ 1 := by
  rcases k with _ | _ | k
  · refine iff_of_true ?_ (by simp)
    have hempty : { creation C pw opt 0 w with faults := none }.file = [] := creation_zero hlo hhi hfile
    obtain ⟨w', hw', -⟩ := construct_new (C := C) pw hlo hhi hempty rfl
    exact ⟨w', hw', (related_new hlo hhi hempty rfl hw').agrees⟩
  · refine iff_of_false ?_ (by simp)
    rintro ⟨w', hw', -⟩
    obtain ⟨f, hf⟩ := creation_one (C := C) pw hlo hhi hfile
    obtain ⟨e, w'', hw''⟩ := headed_fails (C := C) pw (w := w) hlo hhi f
    rw [zero_add, hf, hw''] at hw'
    cases (Prod.mk.inj hw').1
  · refine iff_of_true ?_ (by simp)
    obtain ⟨s, f, hc⟩ := creation_add_two (C := C) pw hlo hhi hfile k
    have hfmt := World.created_formatted (C := C) pw w hlo hhi
    have hnone : ∀ i, blocks C (w.created C pw opt) i = none := fun i =>
      (Nat.eq_zero_or_pos i).elim (fun h0 => h0 ▸ rfl) hfmt.blocks_end
    have hheld : Held C pw (w.created C pw opt) (fun _ => none) (.ok .empty) := by
      refine ⟨.empty, fun _ => [], 0, ⟨0, [], hfmt, ?_, fun i h0 hi => by omega, .nothing _ hnone⟩, .empty, ?_, rfl⟩
      · have := hfmt.geometry.bs_le
        simp only [maxOffset]
        omega
      · funext id
        simp [users, records]
    have hheld' : Held C pw { w.created C pw opt with faults := f } (fun _ => none) (.ok .empty) :=
      hheld.congr rfl rfl rfl rfl rfl
    obtain ⟨w', cont, hw', hwf, -, ha, -⟩ := hheld'.opens opt
    refine ⟨w', by rw [hc, reopen_put, hw'], ?_⟩
    have := hwf.agrees
    rw [ha] at this
    exact this

lemma related_created (hlo : 128 ≤ opt.blockSize) (hhi : opt.blockSize ≤ 2 ^ 20) (hfile : w.file = [])
    (h : construct C opt pw w = (.ok (), w')) : Related C pw w' .empty (fun _ => []) := by
  cases hf : w.faults with
  | none => exact related_new hlo hhi hfile hf h
  | some k =>
    have harm : w = w.arm k := by rw [World.arm, ← hf]
    have hcut := createHeader_cut C pw hlo hhi hfile k
    rw [harm, construct_empty (w := w.arm k) hfile] at h
    rcases k with _ | _ | _ | k
    · rw [bind_error hcut] at h
      cases h
    · rw [bind_error hcut] at h
      cases h
    · rw [bind_error hcut] at h
      cases h
    · obtain ⟨s, -, hs⟩ := scan_created (C := C) pw opt w
      rw [bind_ok hcut, hs] at h
      obtain rfl := (Prod.mk.inj h).2
      have hnew : construct C opt pw { w with faults := none } =
          (.ok (), { w.created C pw opt with faults := none }.put s) := by
        have hok : createHeader C pw (World.put { w with faults := none } { opt := opt, opened := true }) =
            (.ok (), World.created C pw opt { w with faults := none }) := createHeader_ok pw hlo hhi hfile rfl
        rw [construct_empty (w := { w with faults := none }) hfile, bind_ok hok]
        exact hs none
      have hr := related_new hlo hhi (show ({ w with faults := none } : World).file = [] from hfile) rfl hnew
      exact hr.faulted (some k)

end Creation

/-- A call on a record is crash safe exactly when it takes at most one block from past the end of the
file, and the directory on disk can be read, before and after; the creation of a store is safe only when
it is not stopped between its two writes. -/
theorem crashSafe_iff (C : Crypto) (pw : Bytes) (opt : Options) :
    (∀ w op, Reachable C pw w → OnRecord op → (CrashSafe C pw opt w op ↔
      Readable w.storage.roots ∧ ¬Gapped C w op ∧ RewriteReadable C w op)) ∧
    ∀ w k, 128 ≤ opt.blockSize → opt.blockSize ≤ 2 ^ 20 → w.file = [] →
      ((∃ w', reopen C pw opt (creation C pw opt k w) = (.ok (), w') ∧ Agrees C w' .empty) ↔ k ≠ 1) :=
  ⟨fun _ _ h hop => h.crashSafe hop, fun _ k hlo hhi hfile => creation_opens_iff hlo hhi hfile k⟩

set_option maxRecDepth 10000 in
/-- A record of 100 bytes takes two blocks of a new store; the second is written first. -/
theorem crashSafe_fails_two_blocks :
    Reachable .transparent [] smallStore ∧
      ¬CrashSafe .transparent [] smallOptions smallStore (.insert (List.replicate 100 5) 1) := by
  refine ⟨.create (by decide) (by decide) rfl rfl construct_smallStore, fun hs => ?_⟩
  obtain ⟨w', -, -, hw', -⟩ := hs 1
  have hfail : (reopen .transparent [] smallOptions
      (crashed .transparent (.insert (List.replicate 100 5) 1) 1 smallStore)).1 ≠ .ok () := by decide
  exact hfail (congrArg Prod.fst hw')

theorem crashSafe_iff_sample :
    (CrashSafe .transparent [] smallOptions smallStore (.insert [5] 1) ↔
      Readable smallStore.storage.roots ∧ ¬Gapped .transparent smallStore (.insert [5] 1) ∧
        RewriteReadable .transparent smallStore (.insert [5] 1)) ∧
    ((∃ w', reopen .transparent [] smallOptions (creation .transparent [] smallOptions 1 emptyWorld) =
      (.ok (), w') ∧ Agrees .transparent w' .empty) ↔ (1 : ℕ) ≠ 1) :=
  ⟨(crashSafe_iff .transparent [] smallOptions).1 _ _
      (.create (by decide) (by decide) rfl rfl construct_smallStore) trivial,
    (crashSafe_iff .transparent [] smallOptions).2 emptyWorld 1 (by decide) (by decide) rfl⟩

end ChatDesktop.Storage
