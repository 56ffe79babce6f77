import ChatDesktop.Storage.CrashConsistency

namespace ChatDesktop.Storage

open Library Library.Program LocalStorage

/-! ### Steps that leave the file alone -/

/-- The program only sets the object, to what `f` makes of the object and the file. -/
def Computes (p : Action Unit) (f : LocalStorage → Bytes → Except Error LocalStorage) : Prop :=
  ∀ w : World, match f w.storage w.file with
    | .ok s => p w = (.ok (), w.put s)
    | .error e => ∃ s, p w = (.error e, w.put s)

def headerPlan (C : Crypto) (pw : Bytes) (s : LocalStorage) (file : Bytes) : Except Error LocalStorage := do
  let h ← preadFull file kHdr 0
  if h.take 8 ≠ kMagic then .error (.runtimeError "not a LocalStorage file")
  else
    let bs := r32 (h.drop (8 + kSalt))
    if bs < 128 ∨ 2 ^ 20 < bs then .error (.runtimeError "corrupt header (block size)")
    else
      let key := C.deriveKey pw ((h.drop 8).take kSalt)
      match C.aeadDecrypt key ((h.drop kHdrAad).take kNonce) (h.take kHdrAad) (h.drop (kHdrAad + kNonce)) with
      | none => .error (.runtimeError "wrong password or corrupted header")
      | some _ => .ok { setGeometry s bs with key := key }

def scanPlan (C : Crypto) (s : LocalStorage) (file : Bytes) : Except Error LocalStorage := do
  if file.length < s.bs then .error (.runtimeError "file shorter than its header block")
  else
    let n := (file.length - s.bs) / s.bs
    let info ← readInfo C { storage := s, file := file } n
    let a ← scanHeads (infoAt info) n (List.range' 1 n) {}
    let free := isFree (infoAt info) a.seen
    .ok { s with
      head := a.head
      byTag := a.byTag
      nblocks := trim free n
      free := (List.range' 1 (trim free n)).filter free }

def directoryPlan (C : Crypto) (s : LocalStorage) (file : Bytes) : Except Error LocalStorage :=
  match (s.byTag.find? kDirTag).bind (fun ts => ts.keys.head?) with
  | none => .ok s
  | some id => do
    match ← getLocked C { storage := { s with dirId := id }, file := file } id with
    | none => .error (.runtimeError "directory record missing")
    | some raw =>
      let roots ← parseDirectory raw
      .ok { s with dirId := id, roots := roots }

section

variable {C : Crypto} {pw : Bytes} {w : World} {s t : LocalStorage} {file : Bytes}

lemma readChain_world (w : World) (id fuel current : ℕ) :
    readChain C w id fuel current = readChain C { storage := w.storage, file := w.file } id fuel current := by
  induction fuel generalizing current with
  | zero => rfl
  | succ fuel ih =>
    have hread : readBlock C w current = readBlock C { storage := w.storage, file := w.file } current := rfl
    simp only [readChain, hread, ih]

lemma getLocked_world (w : World) (id : ℕ) :
    getLocked C w id = getLocked C { storage := w.storage, file := w.file } id := by
  simp only [getLocked, readChain_world w]

lemma loadHeader_computes (C : Crypto) (pw : Bytes) : Computes (loadHeader C pw) (headerPlan C pw) := by
  intro w
  rw [headerPlan]
  cases hh : preadFull w.file kHdr 0 with
  | error e =>
    refine ⟨w.storage, ?_⟩
    have hread : (Prog.read (fun w => preadFull w.file kHdr 0) : Action Bytes) w = (.error e, w) := by
      rw [read_apply, hh]
    rw [loadHeader, get_bind_apply]
    exact bind_error hread
  | ok h =>
    have hload : ∀ p : Bytes → Action Unit, (Prog.read (fun w => preadFull w.file kHdr 0) >>= p) w = p h w :=
      fun p => by simp only [bind_apply, read_apply, hh]
    simp only [bind, Except.bind]
    by_cases hm : h.take 8 ≠ kMagic
    · rw [if_pos hm]
      refine ⟨w.storage, ?_⟩
      rw [loadHeader, get_bind_apply, hload, if_pos hm]
      rfl
    · rw [if_neg hm]
      by_cases hb : r32 (h.drop (8 + kSalt)) < 128 ∨ 2 ^ 20 < r32 (h.drop (8 + kSalt))
      · rw [if_pos hb]
        refine ⟨w.storage, ?_⟩
        rw [loadHeader, get_bind_apply, hload, if_neg hm]
        simp only [if_pos hb]
        rfl
      · rw [if_neg hb]
        cases hd : C.aeadDecrypt (C.deriveKey pw ((h.drop 8).take kSalt)) ((h.drop kHdrAad).take kNonce)
          (h.take kHdrAad) (h.drop (kHdrAad + kNonce)) with
        | none =>
          refine ⟨{ setGeometry w.storage (r32 (h.drop (8 + kSalt))) with
            key := C.deriveKey pw ((h.drop 8).take kSalt) }, ?_⟩
          rw [loadHeader, get_bind_apply, hload, if_neg hm]
          simp only [if_neg hb, LocalStorage.set, modify_bind_apply, hd]
          rfl
        | some p =>
          dsimp only
          rw [loadHeader, get_bind_apply, hload, if_neg hm]
          simp only [if_neg hb, LocalStorage.set, modify_bind_apply, hd]
          rfl

lemma loadDirectory_computes (C : Crypto) : Computes (loadDirectory C) (directoryPlan C) := by
  intro w
  rw [directoryPlan, loadDirectory]
  cases hid : (w.storage.byTag.find? kDirTag).bind (fun ts => ts.keys.head?) with
  | none =>
    dsimp only
    rw [get_bind_apply, hid]
    rfl
  | some id =>
    dsimp only
    rw [get_bind_apply, hid]
    have hget : getLocked C (w.put { w.storage with dirId := id }) id =
        getLocked C { storage := { w.storage with dirId := id }, file := w.file } id := getLocked_world _ id
    simp only [LocalStorage.set, modify_bind_apply]
    rw [← hget]
    cases hraw : getLocked C (w.put { w.storage with dirId := id }) id with
    | error e =>
      refine ⟨{ w.storage with dirId := id }, ?_⟩
      simp only [bind_apply, read_apply, hraw]
    | ok raw =>
      cases raw with
      | none =>
        refine ⟨{ w.storage with dirId := id }, ?_⟩
        simp only [bind_apply, read_apply, hraw, throw_apply]
      | some raw =>
        simp only [bind, Except.bind]
        cases hp : parseDirectory raw with
        | error e =>
          refine ⟨{ w.storage with dirId := id }, ?_⟩
          simp only [read_apply, hraw, hp]
        | ok roots =>
          simp only [read_apply, hraw, hp, modify_apply]
          rfl

end

/-! ### Fewer blocks to scan -/

section

variable {info info' : ℕ → Blk} {n m : ℕ}

lemma mapM_take {α β : Type} {f g : α → Except Error β} {xs : List α} {ys : List β} (h : xs.mapM f = .ok ys) (k : ℕ)
    (hg : ∀ x ∈ xs.take k, g x = f x) : (xs.take k).mapM g = .ok (ys.take k) := by
  induction xs generalizing ys k with
  | nil =>
    obtain rfl : ys = [] := (Except.ok.inj h).symm
    rw [List.take_nil, List.take_nil]
    rfl
  | cons x xs ih =>
    rw [List.mapM_cons] at h
    cases k with
    | zero => rfl
    | succ k =>
      cases hx : f x with
      | error e => simp [hx, bind, Except.bind] at h
      | ok y =>
        cases hxs : xs.mapM f with
        | error e => simp [hx, hxs, bind, Except.bind] at h
        | ok zs =>
          simp only [hx, hxs, bind, Except.bind, pure, Except.pure, Except.ok.injEq] at h
          rw [List.take_succ_cons] at hg ⊢
          rw [← h, List.take_succ_cons, List.mapM_cons, hg x List.mem_cons_self, hx,
            ih hxs k (fun y hy => hg y (List.mem_cons_of_mem x hy))]
          rfl

lemma walkChain_seen {fuel c : ℕ} {seen s : List ℕ} (h : walkChain info n fuel c seen = some s) :
    seen ⊆ s ∧ ∀ i ∈ s, i ∈ seen ∨ 0 < i ∧ i ≤ n ∧ (info i).type = 2 := by
  induction fuel generalizing c seen with
  | zero =>
    rw [walkChain] at h
    split_ifs at h
    obtain rfl := Option.some.inj h
    exact ⟨List.Subset.refl _, fun i hi => Or.inl hi⟩
  | succ fuel ih =>
    rw [walkChain] at h
    split_ifs at h with h0 hbad
    · obtain rfl := Option.some.inj h
      exact ⟨List.Subset.refl _, fun i hi => Or.inl hi⟩
    · push Not at hbad
      obtain ⟨hsub, hs⟩ := ih h
      refine ⟨fun i hi => hsub (List.mem_cons_of_mem c hi), fun i hi => ?_⟩
      obtain hc | hnew := hs i hi
      · obtain rfl | hc := List.mem_cons.mp hc
        · exact Or.inr ⟨Nat.pos_of_ne_zero h0, hbad.1, hbad.2.1⟩
        · exact Or.inl hc
      · exact Or.inr hnew

lemma length_le_of_nodup {is : List ℕ} (hd : is.Nodup) (h : ∀ i ∈ is, 0 < i ∧ i ≤ m) : is.length ≤ m := by
  have hsub : is ⊆ List.range' 1 m := fun i hi => by
    have := h i hi
    rw [List.mem_range'_1]
    omega
  exact (hd.length_le_of_subset hsub).trans_eq (List.length_range' ..)

lemma walkChain_fewer (hinfo : ∀ i, 0 < i → i ≤ m → info' i = info i) {fuel fuel' c : ℕ} {seen s : List ℕ}
    (h : walkChain info n fuel c seen = some s) (hs : ∀ i ∈ s, 0 < i ∧ i ≤ m) (hd : seen.Nodup)
    (hfuel : m - seen.length ≤ fuel') : walkChain info' m fuel' c seen = some s ∧ s.Nodup := by
  induction fuel generalizing c seen fuel' with
  | zero =>
    rw [walkChain] at h
    split_ifs at h with h0
    obtain rfl := Option.some.inj h
    refine ⟨?_, hd⟩
    cases fuel' <;> simp [walkChain, h0]
  | succ fuel ih =>
    have hc := h
    rw [walkChain] at h
    split_ifs at h with h0 hbad
    · obtain rfl := Option.some.inj h
      refine ⟨?_, hd⟩
      cases fuel' <;> simp [walkChain, h0]
    · push Not at hbad
      obtain ⟨-, htype, hnew⟩ := hbad
      have hsub := (walkChain_seen h).1
      obtain ⟨hpos, hle⟩ := hs c (hsub List.mem_cons_self)
      have hd' : (c :: seen).Nodup := List.nodup_cons.mpr ⟨hnew, hd⟩
      have hlen := length_le_of_nodup hd' (fun i hi => hs i (hsub hi))
      rw [List.length_cons] at hlen
      cases fuel' with
      | zero => omega
      | succ fuel' =>
        rw [walkChain, if_neg h0, hinfo c hpos hle, if_neg (by push Not; exact ⟨hle, htype, hnew⟩)]
        exact ih h hd' (by rw [List.length_cons]; omega)

lemma scanHeads_seen {ids : List ℕ} {a b : Scan} (h : scanHeads info n ids a = .ok b) :
    a.seen ⊆ b.seen ∧ ∀ i ∈ b.seen, i ∈ a.seen ∨ 0 < i ∧ i ≤ n ∧ (info i).type = 2 := by
  induction ids generalizing a with
  | nil =>
    obtain rfl := Except.ok.inj h
    exact ⟨List.Subset.refl _, fun i hi => Or.inl hi⟩
  | cons id ids ih =>
    rw [scanHeads] at h
    split_ifs at h with ht
    · exact ih h
    · cases hw : walkChain info n n (info id).next a.seen with
      | none => simp [hw] at h
      | some seen =>
        rw [hw] at h
        obtain ⟨hsub, hs⟩ := ih h
        obtain ⟨hsub', hs'⟩ := walkChain_seen hw
        exact ⟨fun i hi => hsub (hsub' hi), fun i hi => (hs i hi).elim (hs' i) Or.inr⟩

lemma scanHeads_fewer (hinfo : ∀ i, 0 < i → i ≤ m → info' i = info i) {ids : List ℕ} {a b : Scan}
    (h : scanHeads info n ids a = .ok b) (hids : ∀ id ∈ ids, 0 < id ∧ id ≤ m) (hb : ∀ i ∈ b.seen, 0 < i ∧ i ≤ m)
    (hd : a.seen.Nodup) : scanHeads info' m ids a = .ok b := by
  induction ids generalizing a with
  | nil => exact h
  | cons id ids ih =>
    have hrest := fun i hi => hids i (List.mem_cons_of_mem id hi)
    obtain ⟨hpos, hle⟩ := hids id List.mem_cons_self
    rw [scanHeads, hinfo id hpos hle]
    rw [scanHeads] at h
    by_cases ht : (info id).type ≠ 1
    · rw [if_pos ht] at h ⊢
      exact ih h hrest hd
    · rw [if_neg ht] at h ⊢
      cases hw : walkChain info n n (info id).next a.seen with
      | none => simp [hw] at h
      | some seen =>
        rw [hw] at h
        have hseen := (scanHeads_seen h).1
        obtain ⟨hw', hd'⟩ := walkChain_fewer hinfo hw (fun i hi => hb i (hseen hi)) hd (Nat.sub_le m _)
        rw [hw']
        exact ih h hrest hd'

lemma scanHeads_append (xs ys : List ℕ) (a : Scan) :
    scanHeads info n (xs ++ ys) a = (scanHeads info n xs a >>= scanHeads info n ys) := by
  induction xs generalizing a with
  | nil => rfl
  | cons x xs ih =>
    rw [List.cons_append, scanHeads, scanHeads]
    split_ifs
    · exact ih a
    · cases walkChain info n n (info x).next a.seen with
      | none => rfl
      | some seen => exact ih _

lemma scanHeads_none {ids : List ℕ} (h : ∀ id ∈ ids, (info id).type ≠ 1) (a : Scan) :
    scanHeads info n ids a = .ok a := by
  induction ids with
  | nil => rfl
  | cons id ids ih =>
    rw [scanHeads, if_pos (h id List.mem_cons_self)]
    exact ih (fun i hi => h i (List.mem_cons_of_mem id hi))

lemma trim_congr {p q : ℕ → Bool} (h : ∀ i, 0 < i → i ≤ n → p i = q i) : trim p n = trim q n := by
  induction n with
  | zero => rfl
  | succ n ih => rw [trim, trim, h (n + 1) n.succ_pos le_rfl, ih (fun i hi hn => h i hi (Nat.le_succ_of_le hn))]

lemma trim_trim (p : ℕ → Bool) (n : ℕ) : trim p (trim p n) = trim p n := by
  obtain h | h := trim_stop p n
  · rw [h]
    rfl
  · cases hm : trim p n with
    | zero => rfl
    | succ k =>
      rw [hm] at h
      rw [trim, h]
      rfl

lemma scanHeads_trimmed {a : Scan} (h : scanHeads info n (List.range' 1 n) {} = .ok a)
    (hm : m = trim (isFree info a.seen) n) (hinfo : ∀ i, 0 < i → i ≤ m → info' i = info i) :
    scanHeads info' m (List.range' 1 m) {} = .ok a := by
  have hle : m ≤ n := hm ▸ trim_le _ n
  have hfree : ∀ i, m < i → i ≤ n → isFree info a.seen i = true := fun i hi hn => trim_free _ (hm ▸ hi) hn
  have hseen : ∀ i ∈ a.seen, 0 < i ∧ i ≤ m := by
    intro i hi
    obtain hnil | ⟨hpos, hn, htype⟩ := (scanHeads_seen h).2 i hi
    · cases hnil
    · refine ⟨hpos, Nat.le_of_not_lt (fun hlt => ?_)⟩
      have hf := hfree i hlt hn
      rw [isFree, htype, decide_eq_true hi] at hf
      exact absurd hf (by decide)
  have hsplit : List.range' 1 n = List.range' 1 m ++ List.range' (1 + m) (n - m) := by
    rw [List.range'_append_1, Nat.add_sub_cancel' hle]
  have hlast : ∀ id ∈ List.range' (1 + m) (n - m), (info id).type ≠ 1 := by
    intro id hid htype
    rw [List.mem_range'_1] at hid
    have hf := hfree id (by omega) (by omega)
    rw [isFree, htype] at hf
    simp at hf
  rw [hsplit, scanHeads_append] at h
  cases hfirst : scanHeads info n (List.range' 1 m) {} with
  | error e =>
    rw [hfirst] at h
    cases h
  | ok b =>
    rw [hfirst] at h
    obtain rfl : b = a := Except.ok.inj ((scanHeads_none hlast b).symm.trans h)
    refine scanHeads_fewer hinfo hfirst (fun i hi => ?_) hseen List.nodup_nil
    rw [List.mem_range'_1] at hi
    omega

end

/-! ### Opening -/

def trimmed (s : LocalStorage) (m : ℕ) (file : Bytes) : Bytes := ByteFile.resize 0 file (s.bs + m * s.bs)

section

variable {C : Crypto} {pw : Bytes} {opt : Options} {w : World} {s t : LocalStorage} {file : Bytes} {n m i : ℕ}

lemma readBlock_trimmed (hlen : s.bs + m * s.bs ≤ file.length) (h0 : 0 < i) (hm : i ≤ m) :
    readBlock C { storage := s, file := trimmed s m file } i = readBlock C { storage := s, file := file } i := by
  have hoff : blockOffset s i + s.bs ≤ s.bs + m * s.bs := by
    obtain ⟨k, rfl⟩ := Nat.exists_eq_add_of_le' h0
    have hk := Nat.mul_le_mul_right s.bs hm
    rw [blockOffset, Nat.add_sub_cancel]
    rw [Nat.add_mul, Nat.one_mul] at hk
    omega
  exact readBlock_congr rfl (ByteFile.readAt_resize 0 (hoff.trans hlen) hoff)

lemma readInfo_trimmed {info : List Blk} (h : readInfo C { storage := s, file := file } n = .ok info)
    (hlen : s.bs + m * s.bs ≤ file.length) (hm : m ≤ n) :
    readInfo C { storage := s, file := trimmed s m file } m = .ok (info.take m) := by
  have htake : (List.range' 1 n).take m = List.range' 1 m := List.take_range'_of_length_ge hm
  rw [readInfo, ← htake]
  refine mapM_take h m (fun i hi => ?_)
  rw [htake, List.mem_range'_1] at hi
  exact readBlock_trimmed hlen (by omega) (by omega)

lemma infoAt_take (info : List Blk) (h0 : 0 < i) (hm : i ≤ m) : infoAt (info.take m) i = infoAt info i := by
  rw [infoAt, infoAt, List.getD_eq_getElem?_getD, List.getD_eq_getElem?_getD, List.getElem?_take_of_lt (by omega)]

lemma scanPlan_eq_ok (h : scanPlan C s file = .ok t) : s.bs ≤ file.length ∧ ∃ n info a,
    (file.length - s.bs) / s.bs = n ∧ readInfo C { storage := s, file := file } n = .ok info ∧
      scanHeads (infoAt info) n (List.range' 1 n) {} = .ok a ∧
      { s with
        head := a.head
        byTag := a.byTag
        nblocks := trim (isFree (infoAt info) a.seen) n
        free := (List.range' 1 (trim (isFree (infoAt info) a.seen) n)).filter (isFree (infoAt info) a.seen) } = t := by
  rw [scanPlan] at h
  split_ifs at h with hshort
  generalize hn : (file.length - s.bs) / s.bs = n at h
  cases hinfo : readInfo C { storage := s, file := file } n with
  | error e => simp [hinfo, bind, Except.bind] at h
  | ok info =>
    cases ha : scanHeads (infoAt info) n (List.range' 1 n) {} with
    | error e => simp [hinfo, ha, bind, Except.bind] at h
    | ok a =>
      simp only [hinfo, ha, bind, Except.bind, Except.ok.injEq] at h
      exact ⟨Nat.le_of_not_lt hshort, n, info, a, rfl, hinfo, ha, h⟩

lemma scanPlan_trimmed (hbs : 0 < s.bs) (h : scanPlan C s file = .ok t) :
    s.bs + t.nblocks * s.bs ≤ file.length ∧ scanPlan C s (trimmed s t.nblocks file) = .ok t := by
  obtain ⟨hshort, n, info, a, hn, hinfo, ha, h⟩ := scanPlan_eq_ok h
  generalize hm : trim (isFree (infoAt info) a.seen) n = m at h
  have hle : m ≤ n := hm ▸ trim_le _ n
  have hlen : s.bs + m * s.bs ≤ file.length := by
    have hdiv := Nat.div_mul_le_self (file.length - s.bs) s.bs
    have hmul := Nat.mul_le_mul_right s.bs hle
    rw [hn] at hdiv
    omega
  have hsame : ∀ i, 0 < i → i ≤ m → infoAt (info.take m) i = infoAt info i := fun i h0 hi => infoAt_take info h0 hi
  have hfree : ∀ i, 0 < i → i ≤ m → isFree (infoAt (info.take m)) a.seen i = isFree (infoAt info) a.seen i :=
    fun i h0 hi => by rw [isFree, isFree, hsame i h0 hi]
  have htrim : trim (isFree (infoAt (info.take m)) a.seen) m = m := by
    rw [trim_congr hfree, ← hm, trim_trim]
  have hfilter : (List.range' 1 m).filter (isFree (infoAt (info.take m)) a.seen) =
      (List.range' 1 m).filter (isFree (infoAt info) a.seen) := by
    refine List.filter_congr (fun i hi => ?_)
    rw [List.mem_range'_1] at hi
    exact hfree i (by omega) (by omega)
  have hblocks : ((trimmed s m file).length - s.bs) / s.bs = m := by
    rw [trimmed, ByteFile.length_resize, Nat.add_sub_cancel_left, Nat.mul_div_cancel _ hbs]
  have hlong : ¬(trimmed s m file).length < s.bs := by
    rw [trimmed, ByteFile.length_resize]
    omega
  subst h
  refine ⟨hlen, ?_⟩
  rw [scanPlan, if_neg hlong, hblocks]
  simp only [readInfo_trimmed hinfo hlen hle, scanHeads_trimmed ha hm.symm hsame, bind, Except.bind, htrim, hfilter]

lemma trimmed_trimmed (s : LocalStorage) (m : ℕ) (file : Bytes) : trimmed s m (trimmed s m file) = trimmed s m file := by
  have hlen : (trimmed s m file).length = s.bs + m * s.bs := ByteFile.length_resize ..
  rw [trimmed, ← hlen, ByteFile.resize_self]

def openPlan (C : Crypto) (opt : Options) (pw : Bytes) (file : Bytes) : Except Error LocalStorage × Bytes :=
  match headerPlan C pw { opt := opt, opened := true } file with
  | .error e => (.error e, file)
  | .ok s =>
    match scanPlan C s file with
    | .error e => (.error e, file)
    | .ok t => (directoryPlan C t (trimmed s t.nblocks file), trimmed s t.nblocks file)

lemma headerPlan_ok (h : headerPlan C pw s file = .ok t) : 128 ≤ t.bs ∧ kHdr ≤ file.length := by
  rw [headerPlan] at h
  cases hh : preadFull file kHdr 0 with
  | error e => simp [hh, bind, Except.bind] at h
  | ok bytes =>
    have hlen : kHdr ≤ file.length := by
      by_contra hshort
      rw [preadFull, ByteFile.readAt_isNone (by omega)] at hh
      cases hh
    refine ⟨?_, hlen⟩
    simp only [hh, bind, Except.bind] at h
    split_ifs at h with hm hb
    push Not at hb
    cases hd : C.aeadDecrypt (C.deriveKey pw ((bytes.drop 8).take kSalt)) ((bytes.drop kHdrAad).take kNonce)
      (bytes.take kHdrAad) (bytes.drop (kHdrAad + kNonce)) with
    | none => simp [hd] at h
    | some p =>
      simp only [hd, Except.ok.injEq] at h
      rw [← h]
      exact hb.1

lemma headerPlan_trimmed {u : LocalStorage} (h : headerPlan C pw s file = .ok u) (hu : 128 ≤ t.bs) (m : ℕ) :
    headerPlan C pw s (trimmed t m file) = .ok u := by
  have hlen := (headerPlan_ok h).2
  have hread : preadFull (trimmed t m file) kHdr 0 = preadFull file kHdr 0 := by
    have hle : 0 + kHdr ≤ t.bs + m * t.bs := by
      have hhdr : kHdr ≤ 128 := by decide
      omega
    rw [preadFull, preadFull, trimmed, ByteFile.readAt_resize 0 (by omega) hle]
  rw [← h, headerPlan, headerPlan, hread]

theorem openPlan_again (C : Crypto) (opt : Options) (pw file : Bytes) :
    openPlan C opt pw (openPlan C opt pw file).2 = openPlan C opt pw file := by
  cases hh : headerPlan C pw { opt := opt, opened := true } file with
  | error e => simp only [openPlan, hh]
  | ok s =>
    cases hs : scanPlan C s file with
    | error e => simp only [openPlan, hh, hs]
    | ok t =>
      have hbs := (headerPlan_ok hh).1
      have hh' := headerPlan_trimmed hh hbs t.nblocks
      have hs' := (scanPlan_trimmed (by omega) hs).2
      simp only [openPlan, hh, hs, hh', hs', trimmed_trimmed]

lemma openPlan_ne_nil (hfile : file ≠ []) : (openPlan C opt pw file).2 ≠ [] := by
  cases hh : headerPlan C pw { opt := opt, opened := true } file with
  | error e => simpa only [openPlan, hh] using hfile
  | ok s =>
    cases hs : scanPlan C s file with
    | error e => simpa only [openPlan, hh, hs] using hfile
    | ok t =>
      have hbs := (headerPlan_ok hh).1
      have hlen : (trimmed s t.nblocks file).length = s.bs + t.nblocks * s.bs := ByteFile.length_resize ..
      simp only [openPlan, hh, hs]
      intro hnil
      rw [hnil, List.length_nil] at hlen
      omega

def CutOff (C : Crypto) (opt : Options) (pw file file' : Bytes) : Prop :=
  ∃ s t, headerPlan C pw { opt := opt, opened := true } file = .ok s ∧ scanPlan C s file = .ok t ∧
    file' = file.take (s.bs + t.nblocks * s.bs)

lemma scan_eq (C : Crypto) (w : World) : match scanPlan C w.storage w.file with
    | .error e => scan C w = (.error e, w)
    | .ok t => scan C w = (Prog.when (w.file.length ≠ w.storage.bs + t.nblocks * w.storage.bs)
        (ftruncate (w.storage.bs + t.nblocks * w.storage.bs)) >>= fun _ => LocalStorage.set t) w := by
  have hworld : readInfo C { storage := w.storage, file := w.file } = readInfo C w := rfl
  rw [scanPlan, scan, get_bind_apply]
  dsimp only
  by_cases hshort : w.file.length < w.storage.bs
  · rw [if_pos hshort, if_pos hshort]
    rfl
  · rw [if_neg hshort, if_neg hshort, hworld]
    cases hinfo : readInfo C w ((w.file.length - w.storage.bs) / w.storage.bs) with
    | error e =>
      dsimp only [bind, Except.bind]
      simp only [hinfo, Prog.read]
    | ok info =>
      cases ha : scanHeads (infoAt info) ((w.file.length - w.storage.bs) / w.storage.bs)
          (List.range' 1 ((w.file.length - w.storage.bs) / w.storage.bs)) {} with
      | error e => simp only [bind, Except.bind, hinfo, ha, Prog.read]
      | ok a => simp only [bind, Except.bind, hinfo, ha, Prog.read]

lemma scan_plan (h : scanPlan C w.storage w.file = .ok t) :
    (∃ f, scan C w = (.ok (), ⟨t, trimmed w.storage t.nblocks w.file, w.draws, f⟩) ∧ (w.faults = none → f = none)) ∨
    w.faults = some 0 ∧ ∃ s, scan C w = (.error ftruncateFailed, ⟨s, w.file, w.draws, none⟩) := by
  have hscan := scan_eq C w
  rw [h] at hscan
  dsimp only at hscan
  by_cases hlen : w.file.length = w.storage.bs + t.nblocks * w.storage.bs
  · have htrim : trimmed w.storage t.nblocks w.file = w.file := by rw [trimmed, ← hlen, ByteFile.resize_self]
    rw [when_neg (by simpa using hlen)] at hscan
    rw [htrim]
    exact Or.inl ⟨w.faults, hscan, id⟩
  · rw [when_pos (by simpa using hlen)] at hscan
    rcases hf : w.faults with _ | _ | k
    · have hcut : ftruncate (w.storage.bs + t.nblocks * w.storage.bs) w =
          (.ok (), ⟨w.storage, trimmed w.storage t.nblocks w.file, w.draws, none⟩) := by
        simp only [ftruncate, fileOp, hf, trimmed]
      rw [bind_ok hcut] at hscan
      exact Or.inl ⟨none, hscan, fun _ => rfl⟩
    · have hcut : ftruncate (w.storage.bs + t.nblocks * w.storage.bs) w =
          (.error ftruncateFailed, ⟨w.storage, w.file, w.draws, none⟩) := by
        simp only [ftruncate, fileOp, hf]
      exact Or.inr ⟨rfl, w.storage, hscan.trans (bind_error hcut)⟩
    · have hcut : ftruncate (w.storage.bs + t.nblocks * w.storage.bs) w =
          (.ok (), ⟨w.storage, trimmed w.storage t.nblocks w.file, w.draws, some k⟩) := by
        simp only [ftruncate, fileOp, hf, trimmed]
      rw [bind_ok hcut] at hscan
      exact Or.inl ⟨some k, hscan, (fun hnone => by cases hnone)⟩

variable (C pw opt) in
lemma construct_there (hfile : w.file ≠ []) :
    (∃ s f, construct C opt pw w =
      ((openPlan C opt pw w.file).1.map (fun _ => ()), ⟨s, (openPlan C opt pw w.file).2, w.draws, f⟩) ∧
      (∀ t, (openPlan C opt pw w.file).1 = .ok t → s = t) ∧ (w.faults = none → f = none)) ∨
    w.faults = some 0 ∧ ∃ s, construct C opt pw w = (.error ftruncateFailed, ⟨s, w.file, w.draws, none⟩) := by
  have hstart : construct C opt pw w = (loadHeader C pw >>= fun _ => scan C >>= fun _ => loadDirectory C)
      (w.put { opt := opt, opened := true }) := by
    have hne : ¬(w.put { opt := opt, opened := true }).file.length = 0 :=
      fun h => hfile (List.length_eq_zero_iff.mp h)
    rw [construct, LocalStorage.set, modify_bind_apply, get_bind_apply, if_neg hne]
  have hheader : match headerPlan C pw { opt := opt, opened := true } w.file with
      | .ok s => loadHeader C pw (w.put { opt := opt, opened := true }) = (.ok (), w.put s)
      | .error e => ∃ s, loadHeader C pw (w.put { opt := opt, opened := true }) = (.error e, w.put s) :=
    loadHeader_computes C pw (w.put { opt := opt, opened := true })
  rw [hstart, openPlan]
  cases hh : headerPlan C pw { opt := opt, opened := true } w.file with
  | error e =>
    rw [hh] at hheader
    obtain ⟨s, hs⟩ := hheader
    exact Or.inl ⟨s, w.faults, bind_error hs, (fun _ ht => by cases ht), id⟩
  | ok s =>
    rw [hh] at hheader
    rw [bind_ok hheader]
    dsimp only
    cases hp : scanPlan C s w.file with
    | error e =>
      have hscan := scan_eq C (w.put s)
      rw [show scanPlan C (w.put s).storage (w.put s).file = .error e from hp] at hscan
      exact Or.inl ⟨s, w.faults, bind_error hscan, (fun _ ht => by cases ht), id⟩
    | ok t =>
      obtain ⟨f, hok, hf⟩ | ⟨hf, s', hfail⟩ := scan_plan (w := w.put s) hp
      · rw [bind_ok hok]
        have hdir := loadDirectory_computes C ⟨t, trimmed s t.nblocks w.file, w.draws, f⟩
        dsimp only at hdir ⊢
        cases hd : directoryPlan C t (trimmed s t.nblocks w.file) with
        | error e =>
          rw [hd] at hdir
          obtain ⟨s', hs'⟩ := hdir
          exact Or.inl ⟨s', f, hs', (fun _ hu => by cases hu), hf⟩
        | ok u =>
          rw [hd] at hdir
          exact Or.inl ⟨u, f, hdir, fun _ hu => Except.ok.inj hu, hf⟩
      · exact Or.inr ⟨hf, s', bind_error hfail⟩

end

end ChatDesktop.Storage
