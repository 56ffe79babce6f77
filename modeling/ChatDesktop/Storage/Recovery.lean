import ChatDesktop.Storage.Records

namespace ChatDesktop.Storage

open Library Library.Program Library.LinkedChain LocalStorage

/-! ### Reading every block -/

section Read

variable {C : Crypto} {pw : Bytes} {w : World} {m : ℕ}

lemma blocks_type_le {i : ℕ} {b : Blk} (h : blocks C w i = some b) : b.type ≤ 2 := by
  have hr := readBlock_eq h
  simp only [readBlock, bind, Except.bind] at hr
  split at hr
  · cases hr
  · split at hr
    · cases hr
    · split at hr
      · cases hr
      · rename_i hle
        rw [← Except.ok.inj hr]
        exact not_lt.mp (not_or.mp hle).1

lemma mapM_ok {α β : Type} {f : α → Except Error β} {xs : List α} (h : ∀ x ∈ xs, ∃ y, f x = .ok y) :
    ∃ ys : List β, xs.mapM f = .ok ys ∧
      ∀ (i : ℕ) (x : α), xs[i]? = some x → ∃ y, ys[i]? = some y ∧ f x = .ok y := by
  induction xs with
  | nil => exact ⟨[], rfl, fun i x hx => by simp at hx⟩
  | cons x xs ih =>
    obtain ⟨y, hy⟩ := h x List.mem_cons_self
    obtain ⟨ys, hys, hget⟩ := ih (fun z hz => h z (List.mem_cons_of_mem _ hz))
    refine ⟨y :: ys, by simp only [List.mapM_cons, hy, hys]; rfl, fun i z hz => ?_⟩
    cases i with
    | zero =>
      obtain rfl : x = z := by simpa using hz
      exact ⟨y, rfl, hy⟩
    | succ i => exact hget i z (by simpa using hz)

lemma mapM_error {α β : Type} {f : α → Except Error β} {xs : List α} {x : α} {e : Error}
    (hx : x ∈ xs) (hf : f x = .error e) : ∃ e, xs.mapM f = .error e := by
  induction xs with
  | nil => simp at hx
  | cons z xs ih =>
    rw [List.mapM_cons]
    cases hz : f z with
    | error e' => exact ⟨e', rfl⟩
    | ok y =>
      rcases List.mem_cons.mp hx with rfl | hx
      · rw [hf] at hz
        cases hz
      · obtain ⟨e', he'⟩ := ih hx
        exact ⟨e', by rw [he']; rfl⟩

lemma readInfo_ok (hd : Dense (blocks C w) m) :
    ∃ info, readInfo C w m = .ok info ∧
      ∀ i, 0 < i → i ≤ m → blocks C w i = some (infoAt info i) := by
  have hread : ∀ i ∈ List.range' 1 m, ∃ b, readBlock C w i = .ok b := by
    intro i hi
    rw [List.mem_range'_1] at hi
    obtain ⟨b, hb⟩ := hd i (by omega) (by omega)
    exact ⟨b, readBlock_eq hb⟩
  obtain ⟨info, hi, hget⟩ := mapM_ok hread
  refine ⟨info, hi, fun i h0 hm => ?_⟩
  obtain ⟨b, hb, hr⟩ := hget (i - 1) i (by rw [List.getElem?_range' (by omega)]; congr 1; omega)
  rw [blocks, if_neg (by omega), hr, infoAt, List.getD_eq_getElem?_getD, hb]
  rfl

lemma readInfo_error {i : ℕ} (h0 : 0 < i) (hm : i ≤ m) (hb : blocks C w i = none) :
    ∃ e, readInfo C w m = .error e := by
  have hr : ∃ e, readBlock C w i = .error e := by
    rw [blocks, if_neg (by omega)] at hb
    cases hr : readBlock C w i with
    | error e => exact ⟨e, rfl⟩
    | ok b => simp [hr, Except.toOption] at hb
  obtain ⟨e, he⟩ := hr
  exact mapM_error (x := i) (by rw [List.mem_range'_1]; omega) he

end Read

/-! ### Finding the heads -/

section Heads

variable {d : Disk} {heads : Heads} {free : List ℕ} {cont : ℕ → List ℕ} {info : ℕ → Blk}
  {n j : ℕ}

lemma walkChain_ok {is seen : List ℕ} {c fuel : ℕ} (hinfo : ∀ i ∈ is, d i = some (info i))
    (hl : Linked (contNext d) 0 c is) (hn : ∀ i ∈ is, i ≤ n) (hs : ∀ i ∈ is, i ∉ seen)
    (hf : is.length ≤ fuel) : walkChain info n fuel c seen = some (is.reverse ++ seen) := by
  induction is generalizing c seen fuel with
  | nil =>
    obtain rfl : c = 0 := hl
    cases fuel <;> rfl
  | cons i is ih =>
    have hnd := hl.nodup
    obtain ⟨rfl, hc, x, hx, hl⟩ := hl
    obtain ⟨b, hb, ht, rfl⟩ := contNext_eq_some.mp hx
    obtain rfl : b = info c := Option.some.inj (hb.symm.trans (hinfo c List.mem_cons_self))
    cases fuel with
    | zero => simp at hf
    | succ fuel =>
      have hno : ¬(n < c ∨ (info c).type ≠ 2 ∨ c ∈ seen) := by
        have h1 := hn c List.mem_cons_self
        have h2 := hs c List.mem_cons_self
        simp only [ht, ne_eq, not_true_eq_false, h2, or_false]
        omega
      rw [walkChain, if_neg hc, if_neg hno]
      have hnd' := List.nodup_cons.mp hnd
      rw [ih (fun i hi => hinfo i (List.mem_cons_of_mem _ hi)) hl
        (fun i hi => hn i (List.mem_cons_of_mem _ hi)) (fun i hi => ?_) (by simpa using hf)]
      · simp
      · have hne : i ≠ c := fun he => hnd'.1 (he ▸ hi)
        simp only [List.mem_cons, hne, false_or]
        exact hs i (List.mem_cons_of_mem _ hi)

/-- What the scan knows before it looks at block `j`. -/
structure Scanned (heads : Heads) (cont : ℕ → List ℕ) (j : ℕ) (a : Scan) : Prop where
  head : ∀ k, a.head.find? k = if k < j then heads.find? k else none
  tags : TagIndexed a.byTag a.head
  seen : ∀ i, i ∈ a.seen ↔ ∃ h ∈ heads.keys, h < j ∧ i ∈ cont h

lemma Scanned.start (h0 : 0 ∉ heads.keys) : Scanned heads cont 1 {} := by
  refine ⟨fun k => ?_, .empty, fun i => ?_⟩
  · by_cases hk : k < 1
    · obtain rfl : k = 0 := by omega
      rw [if_pos hk, SortedMap.not_mem_keys.mp h0]
      rfl
    · rw [if_neg hk]
      rfl
  · constructor
    · intro h
      cases h
    · rintro ⟨h, hh, hlt, -⟩
      obtain rfl : h = 0 := by omega
      exact absurd hh h0

lemma Scanned.skip {a : Scan} (hs : Scanned heads cont j a) (hj : j ∉ heads.keys) :
    Scanned heads cont (j + 1) a := by
  refine ⟨fun k => ?_, hs.tags, fun i => ?_⟩
  · rw [hs.head]
    by_cases hk : k = j
    · subst hk
      rw [if_neg (by omega), if_pos (by omega), SortedMap.not_mem_keys.mp hj]
    · by_cases hlt : k < j
      · rw [if_pos hlt, if_pos (by omega)]
      · rw [if_neg hlt, if_neg (by omega)]
  · rw [hs.seen]
    constructor
    · rintro ⟨h, hh, hlt, hi⟩
      exact ⟨h, hh, by omega, hi⟩
    · rintro ⟨h, hh, hlt, hi⟩
      have hne : h ≠ j := fun he => hj (he ▸ hh)
      exact ⟨h, hh, by omega, hi⟩

lemma Scanned.take {a : Scan} {hi : HeadInfo} (hs : Scanned heads cont j a)
    (hj : heads.find? j = some hi) :
    Scanned heads cont (j + 1) ⟨a.head.insert j hi, addTag a.byTag hi.tag j, (cont j).reverse ++ a.seen⟩ := by
  refine ⟨fun k => ?_, hs.tags.add ?_ rfl, fun i => ?_⟩
  · rw [SortedMap.find?_insert, hs.head]
    by_cases hk : j = k
    · subst hk
      rw [if_pos rfl, if_pos (by omega), hj]
    · rw [if_neg hk]
      by_cases hlt : k < j
      · rw [if_pos hlt, if_pos (by omega)]
      · rw [if_neg hlt, if_neg (by omega)]
  · rw [SortedMap.not_mem_keys, hs.head, if_neg (lt_irrefl j)]
  · rw [List.mem_append, List.mem_reverse, hs.seen]
    constructor
    · rintro (hi | ⟨h, hh, hlt, hi⟩)
      · exact ⟨j, SortedMap.mem_keys_of_find? hj, by omega, hi⟩
      · exact ⟨h, hh, by omega, hi⟩
    · rintro ⟨h, hh, hlt, hi⟩
      by_cases he : h = j
      · exact Or.inl (he ▸ hi)
      · exact Or.inr ⟨h, hh, by omega, hi⟩

lemma scanHeads_cons {a : Scan} {ids : List ℕ} (hl : Layout d heads free n cont)
    (hinfo : ∀ i, 0 < i → i ≤ n → d i = some (info i)) (h0 : 0 < j) (hjn : j ≤ n)
    (hs : Scanned heads cont j a) :
    ∃ a', Scanned heads cont (j + 1) a' ∧
      scanHeads info n (j :: ids) a = scanHeads info n ids a' := by
  have hdj := hinfo j h0 hjn
  by_cases ht : (info j).type = 1
  · obtain ⟨hi, hj⟩ := SortedMap.mem_keys.mp ((hl.type_one_iff hdj).mp ht)
    have hjk := SortedMap.mem_keys_of_find? hj
    obtain ⟨b, hb, -, htag, hnext⟩ := hl.head j hi hj
    obtain rfl : b = info j := Option.some.inj (hb.symm.trans hdj)
    have hrange : ∀ i ∈ cont j, 0 < i ∧ i ≤ n := fun i hi =>
      hl.chain_range (cont_mem_chainBlocks hjk hi)
    have hwalk : walkChain info n n (info j).next a.seen = some ((cont j).reverse ++ a.seen) := by
      refine walkChain_ok (fun i hi => hinfo i (hrange i hi).1 (hrange i hi).2)
        (hnext ▸ hl.linked j hi hj) (fun i hi => (hrange i hi).2) (fun i hi hm => ?_)
        (hl.length_cont hjk)
      obtain ⟨h, hh, hlt, hih⟩ := (hs.seen i).mp hm
      exact hl.chain_disjoint hjk hh (by omega) (List.mem_cons_of_mem _ hi) (List.mem_cons_of_mem _ hih)
    refine ⟨_, hs.take hj, ?_⟩
    rw [scanHeads, if_neg (by simpa using ht), hwalk]
    simp only [htag, hnext]
  · have hjk : j ∉ heads.keys := fun hk => ht ((hl.type_one_iff hdj).mpr hk)
    exact ⟨a, hs.skip hjk, by rw [scanHeads, if_pos ht]⟩

lemma scanHeads_ok (hl : Layout d heads free n cont)
    (hinfo : ∀ i, 0 < i → i ≤ n → d i = some (info i)) :
    ∃ a, scanHeads info n (List.range' 1 n) {} = .ok a ∧ a.head = heads ∧ TagIndexed a.byTag heads ∧
      ∀ i, i ∈ a.seen ↔ ∃ h ∈ heads.keys, i ∈ cont h := by
  have hrange : ∀ h ∈ heads.keys, 0 < h ∧ h ≤ n := fun h hh => hl.chain_range (head_mem_chainBlocks hh)
  have hrun : ∀ k j a, j + k = n + 1 → 0 < j → Scanned heads cont j a →
      ∃ a', Scanned heads cont (n + 1) a' ∧ scanHeads info n (List.range' j k) a = .ok a' := by
    intro k
    induction k with
    | zero =>
      intro j a hj _ hs
      obtain rfl : j = n + 1 := by omega
      exact ⟨a, hs, rfl⟩
    | succ k ih =>
      intro j a hj h0 hs
      obtain ⟨a', hs', he⟩ := scanHeads_cons hl hinfo h0 (by omega) hs
      obtain ⟨a'', hs'', he'⟩ := ih (j + 1) a' (by omega) (by omega) hs'
      exact ⟨a'', hs'', by rw [List.range'_succ, he, he']⟩
  have h0 : 0 ∉ heads.keys := fun h => absurd (hrange 0 h).1 (lt_irrefl 0)
  obtain ⟨a, hs, he⟩ := hrun n 1 {} (by omega) (by omega) (.start h0)
  have hhead : a.head = heads := by
    ext1 k
    rw [hs.head]
    split_ifs with hk
    · rfl
    · refine (SortedMap.not_mem_keys.mp (fun hh => ?_)).symm
      have := hrange k hh
      omega
  refine ⟨a, he, hhead, hhead ▸ hs.tags, fun i => (hs.seen i).trans ?_⟩
  constructor
  · rintro ⟨h, hh, -, hi⟩
    exact ⟨h, hh, hi⟩
  · rintro ⟨h, hh, hi⟩
    have := hrange h hh
    exact ⟨h, hh, by omega, hi⟩

lemma isFree_iff {seen : List ℕ} {i : ℕ} (hl : Layout d heads free n cont)
    (hinfo : ∀ i, 0 < i → i ≤ n → d i = some (info i)) (htype : ∀ i b, d i = some b → b.type ≤ 2)
    (hseen : ∀ i, i ∈ seen ↔ ∃ h ∈ heads.keys, i ∈ cont h) (h0 : 0 < i) (hn : i ≤ n) :
    isFree info seen i = true ↔ i ∈ free := by
  have hdi := hinfo i h0 hn
  have hns : i ∈ free → i ∉ seen := by
    intro hf hs
    obtain ⟨h, hh, hi⟩ := (hseen i).mp hs
    exact hl.chain_not_free (cont_mem_chainBlocks hh hi) hf
  simp only [isFree, Bool.or_eq_true, Bool.and_eq_true, decide_eq_true_eq, Bool.not_eq_true',
    decide_eq_false_iff_not]
  constructor
  · rintro (ht | ⟨ht, hs⟩)
    · rcases hl.mem_iff.mpr ⟨h0, hn⟩ with hc | hf
      · exfalso
        obtain ⟨h, hh, rfl | hi⟩ := mem_chainBlocks.mp hc
        · have := (hl.type_one_iff hdi).mpr hh
          simp [ht] at this
        · obtain ⟨hinfo', hki⟩ := SortedMap.mem_keys.mp hh
          obtain ⟨b, hb, htb⟩ := hl.cont_type hki hi
          rw [hdi] at hb
          simp [Option.some.inj hb, htb] at ht
      · exact hf
    · rcases hl.mem_iff.mpr ⟨h0, hn⟩ with hc | hf
      · exfalso
        obtain ⟨h, hh, rfl | hi⟩ := mem_chainBlocks.mp hc
        · have := (hl.type_one_iff hdi).mpr hh
          simp [ht] at this
        · exact hs ((hseen i).mpr ⟨h, hh, hi⟩)
      · exact hf
  · intro hf
    have h1 := hl.free_type i hf _ hdi
    have h2 := htype i _ hdi
    have h3 : (info i).type = 0 ∨ (info i).type = 2 := by
      rw [UInt8.le_iff_toNat_le] at h2
      rw [ne_eq, ← UInt8.toNat_inj] at h1
      rw [← UInt8.toNat_inj, ← UInt8.toNat_inj]
      simp only [UInt8.reduceToNat] at *
      omega
    exact h3.imp_right (fun ht => ⟨ht, hns hf⟩)

lemma trim_le (p : ℕ → Bool) (n : ℕ) : trim p n ≤ n := by
  induction n with
  | zero => exact le_rfl
  | succ n ih =>
    rw [trim]
    split_ifs
    · omega
    · exact le_rfl

lemma trim_free (p : ℕ → Bool) {n i : ℕ} (h : trim p n < i) (hn : i ≤ n) : p i = true := by
  induction n with
  | zero => omega
  | succ n ih =>
    rw [trim] at h
    split_ifs at h with hp
    · by_cases hi : i = n + 1
      · exact hi ▸ hp
      · exact ih h (by omega)
    · omega

lemma trim_stop (p : ℕ → Bool) (n : ℕ) : trim p n = 0 ∨ p (trim p n) = false := by
  induction n with
  | zero => exact Or.inl rfl
  | succ n ih =>
    rw [trim]
    split_ifs with hp
    · exact ih
    · exact Or.inr (by simpa using hp)

end Heads

/-! ### The header -/

section Header

variable {C : Crypto} {pw : Bytes} {w : World} {m : ℕ}

def loaded (opt : Options) (s : LocalStorage) : LocalStorage :=
  { setGeometry { opt := opt, opened := true } s.bs with key := s.key }

lemma blocks_loaded (hg : Geometry w.storage) (opt : Options) :
    blocks C (w.put (loaded opt w.storage)) = blocks C w :=
  blocks_congr rfl hg.plain_eq.symm hg.cap_eq.symm rfl rfl

lemma Formatted.loaded (h : Formatted C pw w m) (opt : Options) :
    Formatted C pw (w.put (loaded opt w.storage)) m :=
  h.congr rfl h.geometry.plain_eq.symm h.geometry.cap_eq.symm rfl rfl

lemma headerAad_append (salt rest : Bytes) (bs : ℕ) :
    headerAad salt bs ++ rest = kMagic ++ (salt ++ (w32 bs ++ rest)) := by
  simp only [headerAad, List.append_assoc]

lemma length_headerAad {salt : Bytes} (hs : salt.length = kSalt) (bs : ℕ) :
    (headerAad salt bs).length = kHdrAad := by
  simp only [headerAad, List.length_append, hs, length_w32]
  rfl

lemma loadHeader_ok (hg : Geometry w.storage) (hh : Header C pw w.storage w.file) (opt : Options) :
    loadHeader C pw (w.put { opt := opt, opened := true }) = (.ok (), w.put (loaded opt w.storage)) := by
  obtain ⟨salt, nonce, hs, hn, hk, hr⟩ := hh
  have hge := hg.bs_ge
  have hle := hg.bs_le
  have haad := length_headerAad hs w.storage.bs
  have hsalt : ((kMagic ++ (salt ++ (w32 w.storage.bs ++ (nonce ++
      C.aeadEncrypt w.storage.key nonce (headerAad salt w.storage.bs) kCheck)))).drop 8).take kSalt = salt := by
    rw [List.drop_left' (show kMagic.length = 8 from rfl), List.take_left' hs]
  have hbs : r32 ((kMagic ++ (salt ++ (w32 w.storage.bs ++ (nonce ++
      C.aeadEncrypt w.storage.key nonce (headerAad salt w.storage.bs) kCheck)))).drop (8 + kSalt)) =
      w.storage.bs := by
    rw [drop_append_of_length (show kMagic.length = 8 from rfl), List.drop_left' hs, r32_w32_append,
      Nat.mod_eq_of_lt (by omega)]
  have hhead : (headerAad salt w.storage.bs ++ (nonce ++
      C.aeadEncrypt w.storage.key nonce (headerAad salt w.storage.bs) kCheck)).take kHdrAad =
      headerAad salt w.storage.bs := List.take_left' haad
  have hnonce : (headerAad salt w.storage.bs ++ (nonce ++
      C.aeadEncrypt w.storage.key nonce (headerAad salt w.storage.bs) kCheck)).drop kHdrAad =
      nonce ++ C.aeadEncrypt w.storage.key nonce (headerAad salt w.storage.bs) kCheck :=
    List.drop_left' haad
  have hbody : (headerAad salt w.storage.bs ++ (nonce ++
      C.aeadEncrypt w.storage.key nonce (headerAad salt w.storage.bs) kCheck)).drop (kHdrAad + kNonce) =
      C.aeadEncrypt w.storage.key nonce (headerAad salt w.storage.bs) kCheck := by
    rw [drop_append_of_length haad, List.drop_left' hn]
  rw [headerAad_append] at hr hhead hnonce hbody
  have hbad : ¬(w.storage.bs < 128 ∨ 2 ^ 20 < w.storage.bs) := by omega
  have hmagic : (kMagic ++ (salt ++ (w32 w.storage.bs ++ (nonce ++
      C.aeadEncrypt w.storage.key nonce (headerAad salt w.storage.bs) kCheck)))).take 8 = kMagic :=
    List.take_left' rfl
  simp only [loadHeader, bind_apply, get_apply, read_apply, World.put, preadFull, hr, hmagic,
    ne_eq, not_true_eq_false, if_false, hbs, if_neg hbad, hsalt, LocalStorage.set, modify_apply,
    ← hk, hnonce, List.take_left' hn, hhead, hbody, C.decrypt_encrypt, pure_apply]
  rfl

end Header

/-! ### Opening -/

section Open

variable {C : Crypto} {pw : Bytes} {w : World} {heads : Heads} {free : List ℕ} {cont : ℕ → List ℕ}
  {m m' : ℕ}

def World.cut (w : World) (m : ℕ) : World :=
  { w with file := ByteFile.resize 0 w.file (w.storage.bs + m * w.storage.bs) }

lemma Formatted.cut (h : Formatted C pw w m) (m' : ℕ) : Formatted C pw (w.cut m') m' := by
  have hge := h.geometry.bs_ge
  refine ⟨h.geometry, ?_, by simp [World.cut]⟩
  obtain ⟨salt, nonce, hs, hn, hk, hr⟩ := h.header
  refine ⟨salt, nonce, hs, hn, hk, ?_⟩
  rw [World.cut, ByteFile.readAt_resize 0 (ByteFile.readAt_eq_some.mp hr).1]
  · exact hr
  · simp only [kHdr, kHdrAad, kSalt, kNonce, kTag]
    omega

lemma blocks_cut (h : Formatted C pw w m) (hm : m' ≤ m) :
    blocks C (w.cut m') = fun i => if i ≤ m' then blocks C w i else none := by
  funext i
  by_cases hi : i ≤ m'
  · rw [if_pos hi]
    by_cases h0 : i = 0
    · rw [h0]
      rfl
    have hmul : i * w.storage.bs ≤ m' * w.storage.bs := Nat.mul_le_mul_right _ hi
    have hmul' : m' * w.storage.bs ≤ m * w.storage.bs := Nat.mul_le_mul_right _ hm
    have hoff := blockOffset_pos w.storage (Nat.pos_of_ne_zero h0)
    have hr : readBlock C (w.cut m') i = readBlock C w i := by
      refine readBlock_congr rfl (ByteFile.readAt_resize 0 ?_ ?_)
      · rw [hoff, h.size]
        omega
      · rw [hoff]
        omega
    rw [blocks, blocks, if_neg h0, if_neg h0, hr]
  · rw [if_neg hi, (h.cut m').blocks_end (by omega)]

lemma ftruncate_ok (hf : w.faults = none) :
    ftruncate (w.storage.bs + m * w.storage.bs) w = (.ok (), w.cut m) := by
  simp only [ftruncate, fileOp, hf, World.cut]

lemma when_ftruncate_ok (hf : w.faults = none) (m' : ℕ) :
    Prog.when (w.file.length ≠ w.storage.bs + m' * w.storage.bs)
      (ftruncate (w.storage.bs + m' * w.storage.bs)) w = (.ok (), w.cut m') := by
  by_cases he : w.file.length = w.storage.bs + m' * w.storage.bs
  · rw [when_neg (by simpa using he), pure_apply, World.cut, ← he, ByteFile.resize_self]
  · rw [when_pos (by simpa using he), ftruncate_ok hf]

def scanned (s : LocalStorage) (heads : Heads) (byTag : TagIndex) (free : List ℕ) (m : ℕ) :
    LocalStorage :=
  { s with head := heads, byTag := byTag, nblocks := m,
           free := (List.range' 1 m).filter (fun i => decide (i ∈ free)) }

lemma scan_ok (hf : Formatted C pw w m) (hnf : w.faults = none) (hd : Dense (blocks C w) m)
    (hl : Layout (blocks C w) heads free m cont) :
    ∃ m' byTag, m' ≤ m ∧ (∀ i, m' < i → i ≤ m → i ∈ free) ∧ (m' = 0 ∨ m' ∉ free) ∧
      TagIndexed byTag heads ∧
      scan C w = (.ok (), (w.cut m').put (scanned w.storage heads byTag free m')) := by
  obtain ⟨info, hinfo, hget⟩ := readInfo_ok hd
  obtain ⟨a, ha, hhead, htags, hseen⟩ := scanHeads_ok hl hget
  have hfree : ∀ i, 0 < i → i ≤ m → (isFree (infoAt info) a.seen i = true ↔ i ∈ free) := fun i =>
    isFree_iff hl hget (fun i b => blocks_type_le) hseen
  have hle := trim_le (isFree (infoAt info) a.seen) m
  refine ⟨trim (isFree (infoAt info) a.seen) m, a.byTag, hle, fun i hi hm => ?_, ?_, htags, ?_⟩
  · exact (hfree i (by omega) hm).mp (trim_free _ hi hm)
  · rcases trim_stop (isFree (infoAt info) a.seen) m with h0 | hp
    · exact Or.inl h0
    · refine (Nat.eq_zero_or_pos _).imp_right (fun h0 hm => ?_)
      rw [(hfree _ h0 hle).mpr hm] at hp
      cases hp
  · have hpos : 0 < w.storage.bs := by have := hf.geometry.bs_ge; omega
    have hn : (w.file.length - w.storage.bs) / w.storage.bs = m := by
      rw [hf.size, Nat.add_sub_cancel_left, Nat.mul_div_cancel _ hpos]
    have hlt : ¬w.file.length < w.storage.bs := by rw [hf.size]; omega
    have hfilter : ∀ k ≤ m, (List.range' 1 k).filter (isFree (infoAt info) a.seen) =
        (List.range' 1 k).filter (fun i => decide (i ∈ free)) := by
      intro k hk
      refine List.filter_congr (fun i hi => ?_)
      rw [List.mem_range'_1] at hi
      rw [Bool.eq_iff_iff, decide_eq_true_eq]
      exact hfree i (by omega) (by omega)
    simp only [scan, bind_apply, get_apply, read_apply, if_neg hlt, hn, hinfo, ha,
      when_ftruncate_ok hnf, LocalStorage.set, modify_apply, hhead, hfilter _ hle]
    rfl

lemma scan_error {i : ℕ} (hf : Formatted C pw w m) (h0 : 0 < i) (hm : i ≤ m)
    (hb : blocks C w i = none) : ∃ e, scan C w = (.error e, w) := by
  have hpos : 0 < w.storage.bs := by have := hf.geometry.bs_ge; omega
  have hn : (w.file.length - w.storage.bs) / w.storage.bs = m := by
    rw [hf.size, Nat.add_sub_cancel_left, Nat.mul_div_cancel _ hpos]
  have hlt : ¬w.file.length < w.storage.bs := by rw [hf.size]; omega
  obtain ⟨e, he⟩ := readInfo_error h0 hm hb
  refine ⟨e, ?_⟩
  simp only [scan, bind_apply, get_apply, read_apply, if_neg hlt, hn, he]

lemma directory_keys {byTag : TagIndex} {dirId : ℕ} (ht : TagIndexed byTag heads)
    (hdir : IsDirectory heads dirId) (h0 : 0 ∉ heads.keys) :
    (byTag.find? kDirTag).bind (fun ts => ts.keys.head?) = if dirId = 0 then none else some dirId := by
  have hmem : ∀ id, id ∈ (tagged byTag kDirTag).keys ↔ id = dirId ∧ dirId ≠ 0 := by
    intro id
    rw [ht.mem]
    constructor
    · rintro ⟨hi, hfind, htag⟩
      obtain rfl := (hdir.tag_iff id hi hfind).mp htag
      exact ⟨rfl, fun he => h0 (he ▸ SortedMap.mem_keys_of_find? hfind)⟩
    · rintro ⟨rfl, hne⟩
      obtain ⟨hi, hfind⟩ := SortedMap.mem_keys.mp (hdir.mem hne)
      exact ⟨hi, hfind, (hdir.tag_iff id hi hfind).mpr rfl⟩
  cases hfind : byTag.find? kDirTag with
  | none =>
    have hz : dirId = 0 := by
      by_contra hne
      have := (hmem dirId).mpr ⟨rfl, hne⟩
      simp [tagged, hfind] at this
    simp [hz]
  | some ts =>
    have hts : tagged byTag kDirTag = ts := by rw [tagged, hfind]; rfl
    rw [hts] at hmem
    have hne := ht.nonempty _ _ hfind
    cases hk : ts.keys with
    | nil =>
      refine absurd (SortedMap.eq_empty_iff.mpr (fun k => SortedMap.not_mem_keys.mp ?_)) hne
      rw [hk]
      exact List.not_mem_nil
    | cons k ks =>
      obtain ⟨rfl, hz⟩ := (hmem k).mp (hk ▸ List.mem_cons_self)
      simp [hk, hz]

def directed (s : LocalStorage) (dirId : ℕ) (roots : Roots) : LocalStorage :=
  { s with dirId := dirId, roots := roots }

lemma loadDirectory_apply {dirId : ℕ}
    (hl : Layout (blocks C w) w.storage.head w.storage.free w.storage.nblocks cont)
    (ht : TagIndexed w.storage.byTag w.storage.head) (hdir : IsDirectory w.storage.head dirId)
    (hd0 : w.storage.dirId = 0) (hroots : w.storage.roots = .empty) :
    loadDirectory C w = match directoryOf (blocks C w) cont dirId with
      | .ok roots => (.ok (), w.put (directed w.storage dirId roots))
      | .error e => (.error e, w.put { w.storage with dirId := dirId }) := by
  rw [loadDirectory, get_bind_apply, directory_keys ht hdir hl.zero_not_mem]
  by_cases h0 : dirId = 0
  · rw [if_pos h0, directoryOf, if_pos h0, h0, ← hroots, ← hd0]
    rfl
  · rw [if_neg h0, directoryOf, if_neg h0]
    have hb : blocks C (w.put { w.storage with dirId := dirId }) = blocks C w :=
      blocks_congr rfl rfl rfl rfl rfl
    have hget := getLocked_ok (C := C) (w := w.put { w.storage with dirId := dirId })
      (by rw [hb]; exact hl) (hdir.mem h0)
    rw [hb] at hget
    simp only [LocalStorage.set, modify_apply, bind_apply, read_apply, hget]
    cases parseDirectory (content (blocks C w) (dirId :: cont dirId)) <;> rfl

def reopen (C : Crypto) (pw : Bytes) (opt : Options) (w : World) : Except Error Unit × World :=
  construct C opt pw { w with faults := none }

/-- How the reopened store relates to a file with `m` blocks, shared out among `heads`. -/
structure Reopened (C : Crypto) (pw : Bytes) (opt : Options) (w w' : World) (m : ℕ) (heads : Heads)
    (cont : ℕ → List ℕ) : Prop where
  wf : Wf C pw w' cont
  head : w'.storage.head = heads
  saved : Saved C w' cont
  le : w'.storage.nblocks ≤ m
  trailing : ∀ i, w'.storage.nblocks < i → i ≤ m → i ∉ chainBlocks heads cont
  last : w'.storage.nblocks = 0 ∨ w'.storage.nblocks ∈ chainBlocks heads cont
  free : w'.storage.free =
    (List.range' 1 w'.storage.nblocks).filter (fun i => decide (i ∉ chainBlocks heads cont))
  blocks : ∀ i ≤ w'.storage.nblocks, blocks C w' i = blocks C w i
  file : w'.file = (w.cut w'.storage.nblocks).file
  opt : w'.storage.opt = opt
  bs : w'.storage.bs = w.storage.bs
  faults : w'.faults = none

lemma directoryOf_congr {d d' : Disk} {dirId : ℕ} (hdir : IsDirectory heads dirId)
    (hd : ∀ i ∈ chainBlocks heads cont, d' i = d i) :
    directoryOf d' cont dirId = directoryOf d cont dirId := by
  unfold directoryOf
  split_ifs with h0
  · rfl
  · rw [content_of_chain (hdir.mem h0) hd]

lemma openBlocks {dirId : ℕ} (hf : Formatted C pw w m) (hnf : w.faults = none)
    (hin : m * w.storage.bs + w.storage.bs ≤ maxOffset) (ho : w.storage.opened = true)
    (hc : w.storage.dirDirty = false) (hd0 : w.storage.dirId = 0) (hr0 : w.storage.roots = .empty)
    (hd : Dense (blocks C w) m) (hl : Layout (blocks C w) heads free m cont)
    (hdir : IsDirectory heads dirId) :
    match directoryOf (blocks C w) cont dirId with
    | .ok roots => ∃ w', (scan C >>= fun _ => loadDirectory C) w = (.ok (), w') ∧
        Reopened C pw w.storage.opt w w' m heads cont ∧
        w'.storage.dirId = dirId ∧ w'.storage.roots = roots
    | .error e => ∃ w', (scan C >>= fun _ => loadDirectory C) w = (.error e, w') := by
  obtain ⟨m', byTag, hle, hcut, hlast, htags, hscan⟩ := scan_ok hf hnf hd hl
  rw [bind_ok hscan]
  have hchain : ∀ i ∈ chainBlocks heads cont, i ≤ m' := fun i hi =>
    Nat.le_of_not_lt (fun hlt => hl.chain_not_free hi (hcut i hlt (hl.chain_range hi).2))
  have hb : blocks C ((w.cut m').put (scanned w.storage heads byTag free m')) =
      fun i => if i ≤ m' then blocks C w i else none := by
    rw [← blocks_cut hf hle]
    exact blocks_congr rfl rfl rfl rfl rfl
  have hl' := hl.truncate hle hcut
  rw [← hb] at hl'
  have hsame : ∀ i ∈ chainBlocks heads cont,
      blocks C ((w.cut m').put (scanned w.storage heads byTag free m')) i = blocks C w i := by
    intro i hi
    rw [hb]
    exact if_pos (hchain i hi)
  have hdo := directoryOf_congr hdir hsame
  have hld := loadDirectory_apply (C := C) (w := (w.cut m').put (scanned w.storage heads byTag free m'))
    hl' htags hdir hd0 hr0
  rw [hdo] at hld
  cases hread : directoryOf (blocks C w) cont dirId with
  | error e =>
    rw [hread] at hld
    exact ⟨_, hld⟩
  | ok roots =>
    rw [hread, World.put_storage] at hld
    refine ⟨_, hld, ?_, rfl, rfl⟩
    have hb' : blocks C (((w.cut m').put (scanned w.storage heads byTag free m')).put
        (directed (scanned w.storage heads byTag free m') dirId roots)) =
        fun i => if i ≤ m' then blocks C w i else none := by
      rw [← hb]
      exact blocks_congr rfl rfl rfl rfl rfl
    have hmul : m' * w.storage.bs ≤ m * w.storage.bs := Nat.mul_le_mul_right _ hle
    exact
      { wf :=
          { opened := ho
            formatted := (hf.cut m').congr rfl rfl rfl rfl rfl
            inRange := by
              change m' * w.storage.bs + w.storage.bs ≤ maxOffset
              omega
            dense := fun i h0 hi => by
              obtain ⟨b, hbi⟩ := hd i h0 (le_trans hi hle)
              exact ⟨b, by rw [hb']; exact (if_pos hi).trans hbi⟩
            layout := by
              rw [hb']
              exact hl.truncate hle hcut
            tags := htags
            directory := hdir
            clean := hc }
        head := rfl
        saved := by
          refine Eq.trans (directoryOf_congr hdir (fun i hi => ?_)) hread
          rw [hb']
          exact if_pos (hchain i hi)
        le := hle
        trailing := fun i hi hm hc => hl.chain_not_free hc (hcut i hi hm)
        last := by
          refine (Nat.eq_zero_or_pos m').imp_right (fun h0 => ?_)
          exact (hl.mem_iff.mpr ⟨h0, hle⟩).resolve_right (hlast.resolve_left (by omega))
        free := by
          refine List.filter_congr (fun i hi => ?_)
          rw [List.mem_range'_1] at hi
          have hm := hl.mem_iff (i := i)
          have hx := hl.chain_not_free (i := i)
          have hi' : 0 < i ∧ i ≤ m := by omega
          rw [Bool.eq_iff_iff, decide_eq_true_eq, decide_eq_true_eq]
          exact ⟨fun hf hc => hx hc hf, fun hc => (hm.mpr hi').resolve_left hc⟩
        blocks := fun i hi => by
          rw [hb']
          exact if_pos hi
        file := rfl
        opt := rfl
        bs := rfl
        faults := hnf }

section Reopen

variable {opt : Options} {dirId : ℕ}

lemma construct_existing (hf : Formatted C pw w m) (opt : Options) :
    construct C opt pw w = (scan C >>= fun _ => loadDirectory C) (w.put (loaded opt w.storage)) := by
  have hne : ¬w.file.length = 0 := by
    have := hf.geometry.bs_ge
    rw [hf.size]
    omega
  have hh := loadHeader_ok hf.geometry hf.header opt
  simp only [construct, LocalStorage.set, modify_bind_apply, get_bind_apply, World.put] at hh ⊢
  rw [if_neg hne, bind_ok hh]

lemma blocks_reloaded (hf : Formatted C pw w m) (opt : Options) :
    blocks C ({ w with faults := none }.put (loaded opt w.storage)) = blocks C w :=
  (blocks_loaded (w := { w with faults := none }) hf.geometry opt).trans (blocks_congr rfl rfl rfl rfl rfl)

lemma reopen_ok {roots : Roots} (hf : Formatted C pw w m)
    (hin : m * w.storage.bs + w.storage.bs ≤ maxOffset) (hd : Dense (blocks C w) m)
    (hl : Layout (blocks C w) heads free m cont) (hdir : IsDirectory heads dirId)
    (hread : directoryOf (blocks C w) cont dirId = .ok roots) :
    ∃ w', reopen C pw opt w = (.ok (), w') ∧ Reopened C pw opt w w' m heads cont ∧
      w'.storage.dirId = dirId ∧ w'.storage.roots = roots := by
  have hb := blocks_reloaded hf opt
  have hf' : Formatted C pw { w with faults := none } m := hf.congr rfl rfl rfl rfl rfl
  have ho := openBlocks (w := { w with faults := none }.put (loaded opt w.storage)) (hf'.loaded opt) rfl hin
    rfl rfl rfl rfl (by rwa [hb]) (by rw [hb]; exact hl) hdir
  rw [hb, hread] at ho
  obtain ⟨w', hw', hr, hid, hro⟩ := ho
  refine ⟨w', ?_, ?_, hid, hro⟩
  · rw [reopen, construct_existing hf' opt, hw']
  · exact { hr with blocks := fun i hi => by rw [hr.blocks i hi, hb] }

lemma reopen_bad_directory {e : Error} (hf : Formatted C pw w m)
    (hin : m * w.storage.bs + w.storage.bs ≤ maxOffset) (hd : Dense (blocks C w) m)
    (hl : Layout (blocks C w) heads free m cont) (hdir : IsDirectory heads dirId)
    (hread : directoryOf (blocks C w) cont dirId = .error e) :
    ∃ w', reopen C pw opt w = (.error e, w') := by
  have hb := blocks_reloaded hf opt
  have hf' : Formatted C pw { w with faults := none } m := hf.congr rfl rfl rfl rfl rfl
  have ho := openBlocks (w := { w with faults := none }.put (loaded opt w.storage)) (hf'.loaded opt) rfl hin
    rfl rfl rfl rfl (by rwa [hb]) (by rw [hb]; exact hl) hdir
  rw [hb, hread] at ho
  obtain ⟨w', hw'⟩ := ho
  exact ⟨w', by rw [reopen, construct_existing hf' opt, hw']⟩

lemma reopen_hole {i : ℕ} (hf : Formatted C pw w m) (h0 : 0 < i) (hm : i ≤ m)
    (hb : blocks C w i = none) : ∃ e w', reopen C pw opt w = (.error e, w') := by
  have hf' : Formatted C pw { w with faults := none } m := hf.congr rfl rfl rfl rfl rfl
  have hb' := blocks_reloaded hf opt
  obtain ⟨e, he⟩ := scan_error (C := C) (w := { w with faults := none }.put (loaded opt w.storage))
    (hf'.loaded opt) h0 hm (by rw [hb', hb])
  exact ⟨e, _, by rw [reopen, construct_existing hf' opt, bind_error he]⟩

end Reopen

end Open

/-! ### Creating -/

section Create

variable {C : Crypto} {pw : Bytes} {w : World} {opt : Options}

def newHeader (C : Crypto) (pw : Bytes) (opt : Options) (draws : ℕ) : Bytes :=
  headerAad (C.random draws kSalt) opt.blockSize ++ (C.random (draws + 1) kNonce ++
    C.aeadEncrypt (C.deriveKey pw (C.random draws kSalt)) (C.random (draws + 1) kNonce)
      (headerAad (C.random draws kSalt) opt.blockSize) kCheck)

def created (C : Crypto) (pw : Bytes) (opt : Options) (draws : ℕ) : LocalStorage :=
  { setGeometry { opt := opt, opened := true } opt.blockSize with
    key := C.deriveKey pw (C.random draws kSalt) }

lemma length_newHeader (C : Crypto) (pw : Bytes) (opt : Options) (draws : ℕ) :
    (newHeader C pw opt draws).length = kHdr := by
  simp only [newHeader, List.length_append, length_headerAad (C.length_random _ _), C.length_random,
    C.length_encrypt]
  rfl

variable (pw) in
lemma createHeader_apply (hlo : 128 ≤ opt.blockSize) (hhi : opt.blockSize ≤ 2 ^ 20) (w : World) :
    createHeader C pw (w.put { opt := opt, opened := true }) =
      (do
        pwriteFull (newHeader C pw opt w.draws) 0
        ftruncate opt.blockSize
        synceFd : Action Unit)
      { (w.put (created C pw opt w.draws)) with draws := w.draws + 2 } := by
  have hok : ¬(opt.blockSize < 128 ∨ 2 ^ 20 < opt.blockSize) := by omega
  rw [createHeader, get_bind_apply]
  change (if opt.blockSize < 128 ∨ 2 ^ 20 < opt.blockSize then _ else _ : Action Unit) _ = _
  rw [if_neg hok]
  rfl

def World.created (C : Crypto) (pw : Bytes) (opt : Options) (w : World) : World :=
  { storage := Storage.created C pw opt w.draws
    file := ByteFile.resize 0 (ByteFile.writeAt 0 [] 0 (newHeader C pw opt w.draws)) opt.blockSize
    draws := w.draws + 2
    faults := w.faults }

variable (pw w) in
lemma World.created_formatted (hlo : 128 ≤ opt.blockSize) (hhi : opt.blockSize ≤ 2 ^ 20) :
    Formatted C pw (w.created C pw opt) 0 := by
  refine ⟨⟨hlo, hhi, rfl, rfl⟩, ⟨C.random w.draws kSalt, C.random (w.draws + 1) kNonce,
    C.length_random _ _, C.length_random _ _, rfl, ?_⟩, ?_⟩
  · have hr := ByteFile.readAt_writeAt_self 0 [] 0 (newHeader C pw opt w.draws)
    rw [length_newHeader] at hr
    have hle : 0 + kHdr ≤ opt.blockSize := by
      simp only [kHdr, kHdrAad, kSalt, kNonce, kTag]
      omega
    rw [World.created, ByteFile.readAt_resize 0 (ByteFile.readAt_eq_some.mp hr).1 hle, hr]
    rfl
  · rw [World.created, ByteFile.length_resize]
    simp [Storage.created, setGeometry]

variable (pw) in
lemma createHeader_ok (hlo : 128 ≤ opt.blockSize) (hhi : opt.blockSize ≤ 2 ^ 20) (hfile : w.file = [])
    (hf : w.faults = none) :
    createHeader C pw (w.put { opt := opt, opened := true }) = (.ok (), w.created C pw opt) := by
  have hlt : ¬maxOffset < 0 + kHdr := by decide
  rw [createHeader_apply pw hlo hhi]
  simp only [bind_apply, pwriteFull, length_newHeader, if_neg hlt, fileOp, World.put, hf, hfile,
    ftruncate, synceFd, id]
  rw [World.created, hf]

lemma Layout.nothing (d : Disk) (hd : ∀ i, d i = none) : Layout d .empty [] 0 (fun _ => []) where
  head _ _ h := by simp at h
  linked _ _ h := by simp at h
  partition := .refl _
  free_type _ h := absurd h List.not_mem_nil
  outside i _ := hd i

variable (pw) in
lemma construct_new (hlo : 128 ≤ opt.blockSize) (hhi : opt.blockSize ≤ 2 ^ 20) (hfile : w.file = [])
    (hf : w.faults = none) :
    ∃ w', construct C opt pw w = (.ok (), w') ∧ Wf C pw w' (fun _ => []) ∧ w'.storage.head = .empty ∧
      w'.storage.dirId = 0 ∧ w'.storage.roots = .empty ∧ w'.faults = none ∧ w'.storage.opt = opt ∧
      w'.storage.nblocks = 0 ∧ w'.storage.bs = opt.blockSize := by
  have hfmt := World.created_formatted (C := C) pw w hlo hhi
  have hnone : ∀ i, blocks C (w.created C pw opt) i = none := by
    intro i
    rcases Nat.eq_zero_or_pos i with rfl | hi
    · rfl
    · exact hfmt.blocks_end hi
  have hin : 0 * (w.created C pw opt).storage.bs + (w.created C pw opt).storage.bs ≤ maxOffset := by
    have := hfmt.geometry.bs_le
    simp only [maxOffset]
    omega
  have hopen := openBlocks hfmt hf hin rfl rfl rfl rfl (fun i h0 hi => by omega)
    (.nothing _ hnone) .empty
  have hd : directoryOf (blocks C (w.created C pw opt)) (fun _ => []) 0 = .ok .empty := rfl
  rw [hd] at hopen
  obtain ⟨w', hw', hr, hid, hroots⟩ := hopen
  refine ⟨w', ?_, hr.wf, hr.head, hid, hroots, hr.faults, hr.opt, Nat.le_zero.mp hr.le, hr.bs⟩
  have hc := createHeader_ok (C := C) pw hlo hhi hfile hf
  simp only [construct, LocalStorage.set, modify_bind_apply, get_bind_apply]
  rw [if_pos (by simp [World.put, hfile]), bind_ok hc, hw']

end Create

end ChatDesktop.Storage
