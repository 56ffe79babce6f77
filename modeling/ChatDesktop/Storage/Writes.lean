import ChatDesktop.Storage.Blocks

namespace ChatDesktop.Storage

open Library Library.Program LocalStorage

inductive FileEvent
  | write (id : ℕ) (b : Blk)
  | sync

def perform (C : Crypto) : List FileEvent → Action Unit
  | [] => pure ()
  | .write id b :: es => do
    writeBlock C id b
    perform C es
  | .sync :: es => do
    synceFd
    perform C es

def applyEvents : List FileEvent → Disk → Disk
  | [], d => d
  | .write id b :: es, d => applyEvents es (Function.update d id (some b))
  | .sync :: es, d => applyEvents es d

def extentAfter : List FileEvent → ℕ → ℕ
  | [], m => m
  | .write id _ :: es, m => extentAfter es (max m id)
  | .sync :: es, m => extentAfter es m

def Valid (cap : ℕ) : (ℕ → Prop) → List FileEvent → Prop
  | _, [] => True
  | known, .write id b :: es =>
    0 < id ∧ b.type ≤ 2 ∧ b.data.length ≤ cap ∧ known b.next ∧ Valid cap (fun i => i = id ∨ known i) es
  | known, .sync :: es => Valid cap known es

def InRange (bs : ℕ) (es : List FileEvent) : Prop :=
  ∀ id b, .write id b ∈ es → id * bs + bs ≤ maxOffset

def IsIoFailure (e : Error) : Prop := e = writeFailed ∨ e = fsyncFailed ∨ e = ftruncateFailed

instance (e : Error) : Decidable (IsIoFailure e) := by unfold IsIoFailure; infer_instance

/-- `w'` is `w` after the events `es` have reached the file. -/
structure Performed (C : Crypto) (pw : Bytes) (w : World) (m : ℕ) (es : List FileEvent)
    (w' : World) : Prop where
  storage : w'.storage = w.storage
  blocks : blocks C w' = applyEvents es (blocks C w)
  formatted : Formatted C pw w' (extentAfter es m)
  faults : w.faults = none → w'.faults = none

section

variable {C : Crypto} {pw : Bytes} {w w' w'' : World} {m id : ℕ} {b : Blk}
  {es : List FileEvent} {known : ℕ → Prop}

lemma applyEvents_append (es fs : List FileEvent) (d : Disk) :
    applyEvents (es ++ fs) d = applyEvents fs (applyEvents es d) := by
  induction es generalizing d with
  | nil => rfl
  | cons e es ih => cases e <;> exact ih _

lemma extentAfter_append (es fs : List FileEvent) (m : ℕ) :
    extentAfter (es ++ fs) m = extentAfter fs (extentAfter es m) := by
  induction es generalizing m with
  | nil => rfl
  | cons e es ih => cases e <;> exact ih _

lemma perform_append (es fs : List FileEvent) :
    perform C (es ++ fs) = (perform C es >>= fun _ => perform C fs) := by
  induction es with
  | nil => rfl
  | cons e es ih => cases e <;> simp only [List.cons_append, perform, ih, bind_assoc]

lemma applyEvents_of_not_mem {es : List FileEvent} {d : Disk} {i : ℕ}
    (h : ∀ id b, .write id b ∈ es → id ≠ i) : applyEvents es d i = d i := by
  induction es generalizing d with
  | nil => rfl
  | cons e es ih =>
    have ht := fun id b hm => h id b (List.mem_cons_of_mem e hm)
    cases e with
    | write id b =>
      rw [applyEvents, ih ht, Function.update_of_ne (h id b List.mem_cons_self).symm]
    | sync => exact ih ht

lemma extentAfter_le {N : ℕ} (h : ∀ id b, .write id b ∈ es → id ≤ N) (hm : m ≤ N) :
    extentAfter es m ≤ N := by
  induction es generalizing m with
  | nil => exact hm
  | cons e es ih =>
    have ht := fun id b hm => h id b (List.mem_cons_of_mem e hm)
    cases e with
    | write id b => exact ih ht (max_le hm (h id b List.mem_cons_self))
    | sync => exact ih ht hm

lemma le_extentAfter (es : List FileEvent) (m : ℕ) : m ≤ extentAfter es m := by
  induction es generalizing m with
  | nil => exact le_rfl
  | cons e es ih =>
    cases e with
    | write id b => exact (le_max_left m id).trans (ih _)
    | sync => exact ih m

lemma applyEvents_cases (es : List FileEvent) (d : Disk) (i : ℕ) :
    applyEvents es d i = d i ∨ ∃ b, .write i b ∈ es ∧ applyEvents es d i = some b := by
  induction es generalizing d with
  | nil => exact Or.inl rfl
  | cons e es ih =>
    cases e with
    | sync =>
      rcases ih d with h | ⟨b, hm, h⟩
      · exact Or.inl h
      · exact Or.inr ⟨b, List.mem_cons_of_mem _ hm, h⟩
    | write id b =>
      rw [applyEvents]
      rcases ih (Function.update d id (some b)) with h | ⟨c, hm, h⟩
      · by_cases hi : i = id
        · subst hi
          exact Or.inr ⟨b, List.mem_cons_self, by rw [h, Function.update_self]⟩
        · exact Or.inl (by rw [h, Function.update_of_ne hi])
      · exact Or.inr ⟨c, List.mem_cons_of_mem _ hm, h⟩

lemma Performed.refl (h : Formatted C pw w m) : Performed C pw w m [] w := ⟨rfl, rfl, h, id⟩

lemma Performed.cons_write {faults : Option ℕ} (h : Formatted C pw w m) (hid : 0 < id)
    (hb : Fits w.storage.cap b) (hf : w.faults = none → faults = none)
    (hp : Performed C pw (w.written C id b faults) (max m id) es w') :
    Performed C pw w m (.write id b :: es) w' where
  storage := hp.storage
  blocks := by rw [hp.blocks, blocks_written h hid hb, applyEvents]
  formatted := hp.formatted
  faults hn := hp.faults (hf hn)

lemma blocks_with (draws : ℕ) (faults : Option ℕ) :
    blocks C { w with draws := draws, faults := faults } = blocks C w :=
  blocks_congr rfl rfl rfl rfl rfl

lemma Performed.cons_sync {faults : Option ℕ} (hf : w.faults = none → faults = none)
    (hp : Performed C pw { w with faults := faults } m es w') :
    Performed C pw w m (.sync :: es) w' where
  storage := hp.storage
  blocks := by rw [hp.blocks, applyEvents]; rfl
  formatted := hp.formatted
  faults hn := hp.faults (hf hn)

lemma writeBlock_apply (h : Formatted C pw w m) (hid : 0 < id) (hb : Fits w.storage.cap b) :
    writeBlock C id b w =
      if maxOffset < id * w.storage.bs + w.storage.bs then
        (.error writeFailed, { w with draws := w.draws + 1 })
      else if w.faults = some 0 then
        (.error writeFailed, { w with draws := w.draws + 1, faults := none })
      else (.ok (), w.written C id b (w.faults.map Nat.pred)) := by
  have hlen := length_sealBlock (C := C) h.geometry hb (C.length_random w.draws kNonce) id
  simp only [writeBlock, bind_apply, randBytes, get_apply, pwriteFull]
  rw [← sealBlock, hlen, blockOffset_pos _ hid]
  split_ifs with hr hf
  · rfl
  · simp only [fileOp, hf]
  · simp only [fileOp, World.written, blockOffset_pos _ hid]
    rcases hk : w.faults with _ | _ | k
    · rfl
    · exact absurd hk hf
    · rfl

lemma synceFd_apply (w : World) :
    synceFd w = if w.faults = some 0 then (.error fsyncFailed, { w with faults := none })
      else (.ok (), { w with faults := w.faults.map Nat.pred }) := by
  simp only [synceFd, fileOp, id]
  split_ifs with hf
  · simp only [hf]
  · rcases hk : w.faults with _ | _ | k
    · rfl
    · exact absurd hk hf
    · rfl

/-- Why a sequence stops before its event number `k`: the operation fails, or the block would lie
past the largest offset. -/
def Stops (w : World) (es : List FileEvent) (k : ℕ) : Prop :=
  w.faults = some k ∨
    ∃ id b, es[k]? = some (.write id b) ∧ maxOffset < id * w.storage.bs + w.storage.bs

lemma InRange.cons_write {bs : ℕ} (h : id * bs + bs ≤ maxOffset) (he : InRange bs es) :
    InRange bs (.write id b :: es) := by
  intro i c hm
  rcases List.mem_cons.mp hm with heq | hm
  · obtain ⟨rfl, -⟩ := FileEvent.write.inj heq
    exact h
  · exact he i c hm

lemma InRange.cons_sync {bs : ℕ} (he : InRange bs es) : InRange bs (.sync :: es) := by
  intro i c hm
  rcases List.mem_cons.mp hm with heq | hm
  · cases heq
  · exact he i c hm

lemma InRange.nil {bs : ℕ} : InRange bs [] := fun _ _ h => absurd h List.not_mem_nil

structure Finished (C : Crypto) (pw : Bytes) (w : World) (m : ℕ) (es : List FileEvent)
    (w' : World) : Prop extends Performed C pw w m es w' where
  inRange : InRange w.storage.bs es
  faultsAfter : ∀ j, w.faults = some j → es.length ≤ j
  faultsRest : w'.faults = w.faults.map (fun j => j - es.length)

/-- A sequence has failed with `e` at its event number `k`. -/
structure Halted (C : Crypto) (pw : Bytes) (w : World) (m : ℕ) (es : List FileEvent) (e : Error)
    (k : ℕ) (w' : World) : Prop extends Performed C pw w m (es.take k) w' where
  failure : IsIoFailure e
  lt : k < es.length
  inRange : InRange w.storage.bs (es.take k)
  stops : Stops w es k
  faultsAfter : ∀ j, w.faults = some j → k ≤ j

lemma Finished.nil (h : Formatted C pw w m) : Finished C pw w m [] w :=
  ⟨.refl h, .nil, fun _ _ => Nat.zero_le _, by cases w.faults <;> rfl⟩

lemma faults_rest (f : Option ℕ) (n : ℕ) :
    (f.map Nat.pred).map (fun j => j - n) = f.map (fun j => j - (n + 1)) := by
  cases f with
  | none => rfl
  | some j => simp only [Option.map_some, Nat.pred_eq_sub_one, Nat.sub_sub, Nat.add_comm]

lemma faults_pred {f : Option ℕ} {j k : ℕ} (h0 : f ≠ some 0)
    (h : ∀ i, f.map Nat.pred = some i → k ≤ i) (hj : f = some j) : k + 1 ≤ j := by
  subst hj
  have hpos : j ≠ 0 := fun he => h0 (he ▸ rfl)
  have := h (j - 1) rfl
  omega

lemma faults_succ {f : Option ℕ} {k : ℕ} (h0 : f ≠ some 0) (h : f.map Nat.pred = some k) :
    f = some (k + 1) := by
  cases f with
  | none => cases h
  | some j =>
    have hpos : j ≠ 0 := fun he => h0 (he ▸ rfl)
    simp only [Option.map_some, Option.some.injEq, Nat.pred_eq_sub_one] at h
    rw [show j = k + 1 by omega]

section Cons

variable {e : Error} {k : ℕ}

lemma Finished.cons_write (h : Formatted C pw w m) (hid : 0 < id) (hb : Fits w.storage.cap b)
    (hr : id * w.storage.bs + w.storage.bs ≤ maxOffset) (h0 : w.faults ≠ some 0)
    (hd : Finished C pw (w.written C id b (w.faults.map Nat.pred)) (max m id) es w') :
    Finished C pw w m (.write id b :: es) w' where
  toPerformed := hd.toPerformed.cons_write h hid hb (fun hn => by rw [hn]; rfl)
  inRange := hd.inRange.cons_write hr
  faultsAfter _ := faults_pred h0 hd.faultsAfter
  faultsRest := hd.faultsRest.trans (faults_rest _ _)

lemma Finished.cons_sync (h0 : w.faults ≠ some 0)
    (hd : Finished C pw { w with faults := w.faults.map Nat.pred } m es w') :
    Finished C pw w m (.sync :: es) w' where
  toPerformed := hd.toPerformed.cons_sync (fun hn => by rw [hn]; rfl)
  inRange := hd.inRange.cons_sync
  faultsAfter _ := faults_pred h0 hd.faultsAfter
  faultsRest := hd.faultsRest.trans (faults_rest _ _)

lemma Stops.cons {ev : FileEvent} (hs : Stops w' es k) (hbs : w'.storage.bs = w.storage.bs)
    (hf : w'.faults = w.faults.map Nat.pred) (h0 : w.faults ≠ some 0) :
    Stops w (ev :: es) (k + 1) := by
  rcases hs with hs | ⟨id, b, hm, hlt⟩
  · exact Or.inl (faults_succ h0 (hf ▸ hs))
  · exact Or.inr ⟨id, b, hm, hbs ▸ hlt⟩

lemma Halted.cons_write (h : Formatted C pw w m) (hid : 0 < id) (hb : Fits w.storage.cap b)
    (hr : id * w.storage.bs + w.storage.bs ≤ maxOffset) (h0 : w.faults ≠ some 0)
    (hd : Halted C pw (w.written C id b (w.faults.map Nat.pred)) (max m id) es e k w') :
    Halted C pw w m (.write id b :: es) e (k + 1) w' where
  toPerformed := hd.toPerformed.cons_write h hid hb (fun hn => by rw [hn]; rfl)
  failure := hd.failure
  lt := Nat.succ_lt_succ hd.lt
  inRange := hd.inRange.cons_write hr
  stops := hd.stops.cons rfl rfl h0
  faultsAfter _ := faults_pred h0 hd.faultsAfter

lemma Halted.cons_sync (h0 : w.faults ≠ some 0)
    (hd : Halted C pw { w with faults := w.faults.map Nat.pred } m es e k w') :
    Halted C pw w m (.sync :: es) e (k + 1) w' where
  toPerformed := hd.toPerformed.cons_sync (fun hn => by rw [hn]; rfl)
  failure := hd.failure
  lt := Nat.succ_lt_succ hd.lt
  inRange := hd.inRange.cons_sync
  stops := hd.stops.cons rfl rfl h0
  faultsAfter _ := faults_pred h0 hd.faultsAfter

lemma Halted.start {ev : FileEvent} {draws : ℕ} {faults : Option ℕ} (h : Formatted C pw w m)
    (he : IsIoFailure e) (hs : Stops w (ev :: es) 0) (hf : w.faults = none → faults = none) :
    Halted C pw w m (ev :: es) e 0 { w with draws := draws, faults := faults } where
  storage := rfl
  blocks := blocks_with _ _
  formatted := h.congr rfl rfl rfl rfl rfl
  faults := hf
  failure := he
  lt := Nat.succ_pos _
  inRange := .nil
  stops := hs
  faultsAfter _ _ := Nat.zero_le _

end Cons

lemma perform_spec (h : Formatted C pw w m) (hk : ∀ i, known i → i < 2 ^ 64)
    (hv : Valid w.storage.cap known es) :
    (∃ w', perform C es w = (.ok (), w') ∧ Finished C pw w m es w') ∨
    ∃ e k w', perform C es w = (.error e, w') ∧ Halted C pw w m es e k w' := by
  induction es generalizing w m known with
  | nil => exact Or.inl ⟨w, rfl, .nil h⟩
  | cons e es ih =>
    cases e with
    | write id b =>
      obtain ⟨hid, ht, hl, hn, hv⟩ := hv
      have hb : Fits w.storage.cap b := ⟨ht, hk _ hn, hl⟩
      have hw := writeBlock_apply h hid hb
      by_cases hr : maxOffset < id * w.storage.bs + w.storage.bs
      · rw [if_pos hr] at hw
        exact Or.inr ⟨_, 0, _, bind_error hw,
          .start h (Or.inl rfl) (Or.inr ⟨id, b, rfl, hr⟩) (fun hf => hf)⟩
      rw [if_neg hr] at hw
      by_cases h0 : w.faults = some 0
      · rw [if_pos h0] at hw
        exact Or.inr ⟨_, 0, _, bind_error hw, .start h (Or.inl rfl) (Or.inl h0) (fun _ => rfl)⟩
      rw [if_neg h0] at hw
      have hlt : id < 2 ^ 64 := by
        have hge := h.geometry.bs_ge
        have : id * 1 ≤ id * w.storage.bs := Nat.mul_le_mul_left _ (by omega)
        simp only [maxOffset] at hr
        omega
      have hk' : ∀ i, (i = id ∨ known i) → i < 2 ^ 64 := fun i hi =>
        hi.elim (fun he => he ▸ hlt) (hk i)
      rcases ih (formatted_written h hid hb _) hk' hv with ⟨w', hp, hd⟩ | ⟨e, k, w', hp, hd⟩
      · exact Or.inl ⟨w', (bind_ok hw).trans hp, hd.cons_write h hid hb (not_lt.mp hr) h0⟩
      · exact Or.inr ⟨e, k + 1, w', (bind_ok hw).trans hp, hd.cons_write h hid hb (not_lt.mp hr) h0⟩
    | sync =>
      have hw := synceFd_apply w
      by_cases h0 : w.faults = some 0
      · rw [if_pos h0] at hw
        exact Or.inr ⟨_, 0, _, bind_error hw,
          .start h (Or.inr (Or.inl rfl)) (Or.inl h0) (fun _ => rfl)⟩
      rw [if_neg h0] at hw
      have h' : Formatted C pw { w with faults := w.faults.map Nat.pred } m := h.congr rfl rfl rfl rfl rfl
      rcases ih h' hk hv with ⟨w', hp, hd⟩ | ⟨e, k, w', hp, hd⟩
      · exact Or.inl ⟨w', (bind_ok hw).trans hp, hd.cons_sync h0⟩
      · exact Or.inr ⟨e, k + 1, w', (bind_ok hw).trans hp, hd.cons_sync h0⟩

lemma Halted.not_inRange {e : Error} {k : ℕ} (hd : Halted C pw w m es e k w') (hf : w.faults = none) :
    ¬InRange w.storage.bs es := by
  intro hr
  rcases hd.stops with hs | ⟨id, b, hb, hlt⟩
  · simp [hf] at hs
  · exact absurd (hr id b (List.mem_of_getElem? hb)) (by omega)

lemma Halted.index_eq {e : Error} {j k : ℕ} (hd : Halted C pw w m es e k w') (hf : w.faults = some j)
    (hr : InRange w.storage.bs (es.take j)) : k = j := by
  have hle := hd.faultsAfter j hf
  rcases hd.stops with hs | ⟨id, b, hb, hlt⟩
  · rw [hf] at hs
    exact (Option.some.inj hs).symm
  · by_contra hne
    have hb' : (es.take j)[k]? = some (.write id b) := by
      rw [List.getElem?_take_of_lt (by omega), hb]
    exact absurd (hr id b (List.mem_of_getElem? hb')) (by omega)

end

end ChatDesktop.Storage
