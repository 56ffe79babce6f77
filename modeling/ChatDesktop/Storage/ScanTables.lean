import ChatDesktop.Storage.ScanLayout

namespace ChatDesktop.Storage

open Library Library.Program Library.LinkedChain LocalStorage

namespace ScanTables

inductive Stop
  | thrown (e : Error)
  | outside
  | endless
  deriving DecidableEq

structure Info where
  type : UInt8
  tag : UInt32
  next : ℕ
  deriving DecidableEq

def Info.ofBlk (b : Blk) : Info := ⟨b.type, b.tag, b.next⟩

@[simp] lemma Info.ofBlk_type (b : Blk) : (Info.ofBlk b).type = b.type := rfl

@[simp] lemma Info.ofBlk_tag (b : Blk) : (Info.ofBlk b).tag = b.tag := rfl

@[simp] lemma Info.ofBlk_next (b : Blk) : (Info.ofBlk b).next = b.next := rfl

def lookup {α : Type} (xs : List α) (i : ℕ) : Except Stop α :=
  match xs[i]? with
  | some x => .ok x
  | none => .error .outside

def assign {α : Type} (xs : List α) (i : ℕ) (x : α) : Except Stop (List α) :=
  if i < xs.length then .ok (xs.set i x) else .error .outside

def brokenChain (id : ℕ) : Stop := .thrown (.runtimeError ("broken block chain at record " ++ toString id))

def fillLoop (C : Crypto) (w : World) : List ℕ → List Info → Except Stop (List Info)
  | [], info => .ok info
  | id :: ids, info => do
    let b ← (readBlock C w id).mapError .thrown
    let info ← assign info id (.ofBlk b)
    fillLoop C w ids info

/-- The walk over the continuations of the head `id`, for a number of rounds. -/
def chainLoop (info : List Info) (n id : ℕ) : ℕ → ℕ → List Bool → Except Stop (List Bool)
  | 0, c, seen => if c = 0 then .ok seen else .error .endless
  | rounds + 1, c, seen =>
    if c = 0 then .ok seen
    else if n < c then .error (brokenChain id)
    else do
      let i ← lookup info c
      if i.type ≠ 2 then .error (brokenChain id)
      else
        let marked ← lookup seen c
        if marked then .error (brokenChain id)
        else
          let seen ← assign seen c true
          chainLoop info n id rounds i.next seen

structure Tables where
  head : SortedMap ℕ HeadInfo := .empty
  byTag : TagIndex := .empty
  seen : List Bool

def headsLoop (info : List Info) (n : ℕ) : List ℕ → Tables → Except Stop Tables
  | [], t => .ok t
  | id :: ids, t => do
    let i ← lookup info id
    if i.type ≠ 1 then headsLoop info n ids t
    else
      let seen ← chainLoop info n id (n + 1) i.next t.seen
      headsLoop info n ids ⟨t.head.insert id ⟨i.tag, i.next⟩, addTag t.byTag i.tag id, seen⟩

/-- The condition of the loop over `is_free`; `seen[id]` is looked at only for a continuation. -/
def freeEntry (info : List Info) (seen : List Bool) (id : ℕ) : Except Stop Bool := do
  let i ← lookup info id
  if i.type = 0 then .ok true
  else if i.type = 2 then
    let marked ← lookup seen id
    .ok (!marked)
  else .ok false

def freeLoop (info : List Info) (seen : List Bool) : List ℕ → List Bool → Except Stop (List Bool)
  | [], isFree => .ok isFree
  | id :: ids, isFree => do
    let free ← freeEntry info seen id
    let isFree ← if free then assign isFree id true else .ok isFree
    freeLoop info seen ids isFree

def trimLoop (isFree : List Bool) : ℕ → Except Stop ℕ
  | 0 => .ok 0
  | n + 1 => do
    let free ← lookup isFree (n + 1)
    if free then trimLoop isFree n else .ok (n + 1)

def pushLoop (isFree : List Bool) : ℕ → List ℕ → Except Stop (List ℕ)
  | 0, stack => .ok stack
  | id + 1, stack => do
    let free ← lookup isFree (id + 1)
    pushLoop isFree id (if free then (id + 1) :: stack else stack)

def scanTables (C : Crypto) (w : World) : Except Stop LocalStorage := do
  let s := w.storage
  if w.file.length < s.bs then .error (.thrown (.runtimeError "file shorter than its header block"))
  else
    let n := (w.file.length - s.bs) / s.bs
    let info ← fillLoop C w (List.range' 1 n) (List.replicate (n + 1) ⟨0, 0, 0⟩)
    let t ← headsLoop info n (List.range' 1 n) { seen := List.replicate (n + 1) false }
    let isFree ← freeLoop info t.seen (List.range' 1 n) (List.replicate (n + 1) false)
    let n' ← trimLoop isFree n
    let free ← pushLoop isFree n' []
    .ok { s with head := t.head, byTag := t.byTag, nblocks := n', free := free }

/-- The table has an entry for every number up to `n`. -/
structure Tabulates {α : Type} (n : ℕ) (xs : List α) (f : ℕ → α) : Prop where
  length : xs.length = n + 1
  get : ∀ i, 0 < i → i ≤ n → xs[i]? = some (f i)

/-- The marks are those of the blocks in `ids`. -/
structure Marks (n : ℕ) (seen : List Bool) (ids : List ℕ) : Prop
    extends Tabulates n seen (fun i => decide (i ∈ ids)) where
  nodup : ids.Nodup
  range : ∀ i ∈ ids, 0 < i ∧ i ≤ n

section

variable {C : Crypto} {w : World} {n c i id : ℕ} {info : List Info} {f : ℕ → Blk} {seen : List Bool} {ids : List ℕ}

lemma Tabulates.lookup {α : Type} {xs : List α} {f : ℕ → α} (h : Tabulates n xs f) (h0 : 0 < i) (hi : i ≤ n) :
    lookup xs i = .ok (f i) := by
  rw [ScanTables.lookup, h.get i h0 hi]

lemma Tabulates.assign {α : Type} {xs : List α} {f : ℕ → α} (h : Tabulates n xs f) (hi : i ≤ n) (x : α) :
    ∃ ys, assign xs i x = .ok ys ∧ Tabulates n ys (Function.update f i x) := by
  have hlt : i < xs.length := by
    rw [h.length]
    omega
  refine ⟨xs.set i x, if_pos hlt, (List.length_set ..).trans h.length, fun j h0 hj => ?_⟩
  by_cases he : i = j
  · subst he
    rw [List.getElem?_set_self hlt, Function.update_self]
  · rw [List.getElem?_set_ne he, h.get j h0 hj, Function.update_of_ne (Ne.symm he)]

lemma Tabulates.congr {α : Type} {xs : List α} {f g : ℕ → α} (h : Tabulates n xs f)
    (hfg : ∀ i, 0 < i → i ≤ n → g i = f i) : Tabulates n xs g :=
  ⟨h.length, fun i h0 hi => (h.get i h0 hi).trans (congrArg some (hfg i h0 hi).symm)⟩

lemma Tabulates.replicate {α : Type} (n : ℕ) (x : α) : Tabulates n (List.replicate (n + 1) x) (fun _ => x) :=
  ⟨List.length_replicate, fun i _ hi => by rw [List.getElem?_replicate, if_pos (by omega)]⟩

lemma Marks.start (n : ℕ) : Marks n (List.replicate (n + 1) false) [] :=
  ⟨(Tabulates.replicate n false).congr (fun _ _ _ => rfl), .nil, fun _ h => by cases h⟩

lemma Marks.mark (h : Marks n seen ids) (h0 : 0 < i) (hi : i ≤ n) (hnew : i ∉ ids) :
    ∃ seen', assign seen i true = .ok seen' ∧ Marks n seen' (i :: ids) := by
  obtain ⟨seen', hs, ht⟩ := h.toTabulates.assign hi true
  refine ⟨seen', hs, ht.congr (fun j _ _ => ?_), List.nodup_cons.mpr ⟨hnew, h.nodup⟩, fun j hj => ?_⟩
  · by_cases he : j = i
    · rw [he, Function.update_self]
      simp
    · rw [Function.update_of_ne he]
      simp [he]
  · rcases List.mem_cons.mp hj with rfl | hj
    · exact ⟨h0, hi⟩
    · exact h.range j hj

lemma Marks.full (h : Marks n seen ids) (hlen : n ≤ ids.length) (h0 : 0 < i) (hi : i ≤ n) : i ∈ ids := by
  by_contra hnew
  have hle := length_le_of_nodup (List.nodup_cons.mpr ⟨hnew, h.nodup⟩) (m := n) (fun j hj => by
    rcases List.mem_cons.mp hj with rfl | hj
    · exact ⟨h0, hi⟩
    · exact h.range j hj)
  rw [List.length_cons] at hle
  omega

lemma chainLoop_eq (hi : Tabulates n info (fun i => .ofBlk (f i))) (hm : Marks n seen ids) {fuel : ℕ}
    (hfuel : n - ids.length ≤ fuel) :
    match walkChain f n fuel c ids with
    | none => chainLoop info n id (fuel + 1) c seen = .error (brokenChain id)
    | some js => ∃ seen', chainLoop info n id (fuel + 1) c seen = .ok seen' ∧ Marks n seen' js := by
  induction fuel generalizing c seen ids with
  | zero =>
    rw [walkChain, chainLoop]
    by_cases h0 : c = 0
    · rw [if_pos h0, if_pos h0]
      exact ⟨seen, rfl, hm⟩
    · rw [if_neg h0, if_neg h0]
      dsimp only
      by_cases hn : n < c
      · rw [if_pos hn]
      · have hpos := Nat.pos_of_ne_zero h0
        have hfull : c ∈ ids := hm.full (by omega) hpos (by omega)
        rw [if_neg hn, hi.lookup hpos (by omega), hm.toTabulates.lookup hpos (by omega), decide_eq_true hfull]
        simp only [bind, Except.bind, if_true]
        split_ifs <;> rfl
  | succ fuel ih =>
    rw [walkChain, chainLoop]
    by_cases h0 : c = 0
    · rw [if_pos h0, if_pos h0]
      exact ⟨seen, rfl, hm⟩
    · rw [if_neg h0, if_neg h0]
      have hpos := Nat.pos_of_ne_zero h0
      by_cases hn : n < c
      · rw [if_pos hn, if_pos (.inl hn)]
      · rw [if_neg hn, hi.lookup hpos (by omega), hm.toTabulates.lookup hpos (by omega)]
        simp only [bind, Except.bind]
        by_cases ht : (Info.ofBlk (f c)).type ≠ 2
        · rw [if_pos ht, if_pos (.inr (.inl ht))]
        · rw [if_neg ht]
          by_cases hs : c ∈ ids
          · rw [if_pos (.inr (.inr hs)), decide_eq_true hs]
            rfl
          · obtain ⟨seen', hseen, hm'⟩ := hm.mark hpos (by omega) hs
            have hbad : ¬(n < c ∨ (f c).type ≠ 2 ∨ c ∈ ids) := by tauto
            rw [if_neg hbad, decide_eq_false hs, hseen]
            simp only [Bool.false_eq_true, if_false]
            exact ih hm' (by rw [List.length_cons]; omega)

lemma headsLoop_eq (hi : Tabulates n info (fun i => .ofBlk (f i))) {a : Scan} (hm : Marks n seen a.seen)
    (hids : ∀ i ∈ ids, 0 < i ∧ i ≤ n) :
    match scanHeads f n ids a with
    | .error e => headsLoop info n ids ⟨a.head, a.byTag, seen⟩ = .error (.thrown e)
    | .ok b => ∃ seen', headsLoop info n ids ⟨a.head, a.byTag, seen⟩ = .ok ⟨b.head, b.byTag, seen'⟩ ∧
        Marks n seen' b.seen := by
  induction ids generalizing a seen with
  | nil => exact ⟨seen, rfl, hm⟩
  | cons id ids ih =>
    obtain ⟨h0, hn⟩ := hids id List.mem_cons_self
    have hids' := fun i hi => hids i (List.mem_cons_of_mem id hi)
    rw [scanHeads, headsLoop, hi.lookup h0 hn]
    simp only [bind, Except.bind]
    by_cases ht : (f id).type ≠ 1
    · have ht' : (Info.ofBlk (f id)).type ≠ 1 := ht
      rw [if_pos ht, if_pos ht']
      exact ih hm hids'
    · have ht' : ¬(Info.ofBlk (f id)).type ≠ 1 := ht
      rw [if_neg ht, if_neg ht', Info.ofBlk_next, Info.ofBlk_tag]
      have hwalk := @chainLoop_eq n (f id).next id _ f _ _ hi hm n (Nat.sub_le n _)
      cases hw : walkChain f n n (f id).next a.seen with
      | none =>
        rw [hw] at hwalk
        rw [hwalk]
        rfl
      | some js =>
        rw [hw] at hwalk
        obtain ⟨seen', hs, hm'⟩ := hwalk
        rw [hs]
        exact ih (a := ⟨a.head.insert id ⟨(f id).tag, (f id).next⟩, addTag a.byTag (f id).tag id, js⟩) hm' hids'

lemma freeEntry_eq (hi : Tabulates n info (fun i => .ofBlk (f i))) {js : List ℕ} (hm : Marks n seen js)
    (h0 : 0 < id) (hn : id ≤ n) : freeEntry info seen id = .ok (isFree f js id) := by
  rw [freeEntry, hi.lookup h0 hn, hm.toTabulates.lookup h0 hn]
  simp only [bind, Except.bind, isFree]
  by_cases h1 : (Info.ofBlk (f id)).type = 0
  · have h1' : (f id).type = 0 := h1
    rw [if_pos h1, decide_eq_true h1']
    rfl
  · have h1' : ¬(f id).type = 0 := h1
    rw [if_neg h1, decide_eq_false h1']
    by_cases h2 : (Info.ofBlk (f id)).type = 2
    · have h2' : (f id).type = 2 := h2
      rw [if_pos h2, decide_eq_true h2']
      rfl
    · have h2' : ¬(f id).type = 2 := h2
      rw [if_neg h2, decide_eq_false h2']
      rfl

lemma freeLoop_eq (hi : Tabulates n info (fun i => .ofBlk (f i))) {js : List ℕ} (hm : Marks n seen js)
    {table : List Bool} {p : ℕ → Bool} (ht : Tabulates n table p) (hids : ∀ i ∈ ids, 0 < i ∧ i ≤ n) :
    ∃ table', freeLoop info seen ids table = .ok table' ∧
      Tabulates n table' (fun i => p i || (decide (i ∈ ids) && isFree f js i)) := by
  induction ids generalizing table p with
  | nil => exact ⟨table, rfl, ht.congr (fun i _ _ => by simp)⟩
  | cons id ids ih =>
    obtain ⟨h0, hn⟩ := hids id List.mem_cons_self
    have hids' := fun i hi => hids i (List.mem_cons_of_mem id hi)
    rw [freeLoop, freeEntry_eq hi hm h0 hn]
    simp only [bind, Except.bind]
    cases hfree : isFree f js id with
    | false =>
      obtain ⟨table', htable, ht'⟩ := ih ht hids'
      refine ⟨table', htable, ht'.congr (fun i _ _ => ?_)⟩
      by_cases he : i = id
      · rw [he, hfree]
        simp
      · simp [he]
    | true =>
      obtain ⟨table₁, htable₁, ht₁⟩ := ht.assign hn true
      obtain ⟨table', htable, ht'⟩ := ih ht₁ hids'
      rw [if_pos rfl, htable₁]
      refine ⟨table', htable, ht'.congr (fun i _ _ => ?_)⟩
      by_cases he : i = id
      · rw [he, hfree, Function.update_self]
        simp
      · rw [Function.update_of_ne he]
        simp [he]

lemma trimLoop_eq {table : List Bool} {p : ℕ → Bool} (ht : Tabulates n table p) {m : ℕ} (hm : m ≤ n) :
    trimLoop table m = .ok (trim p m) := by
  induction m with
  | zero => rfl
  | succ m ih =>
    rw [trimLoop, ht.lookup m.succ_pos hm, trim]
    simp only [bind, Except.bind]
    split_ifs
    · exact ih (by omega)
    · rfl

lemma pushLoop_eq {table : List Bool} {p : ℕ → Bool} (ht : Tabulates n table p) {m : ℕ} (hm : m ≤ n)
    (stack : List ℕ) : pushLoop table m stack = .ok ((List.range' 1 m).filter p ++ stack) := by
  induction m generalizing stack with
  | zero => rfl
  | succ m ih =>
    rw [pushLoop, ht.lookup m.succ_pos hm, List.range'_1_concat, List.filter_append, Nat.add_comm 1 m]
    simp only [bind, Except.bind]
    rw [ih (by omega), List.append_assoc, List.filter_singleton]
    cases p (m + 1) <;> rfl

lemma fillLoop_ok {ids : List ℕ} (hids : ∀ i ∈ ids, i < info.length) (hread : ∀ i ∈ ids, readBlock C w i = .ok (f i)) :
    ∃ info', fillLoop C w ids info = .ok info' ∧ info'.length = info.length ∧
      (∀ i, i ∉ ids → info'[i]? = info[i]?) ∧ ∀ i ∈ ids, info'[i]? = some (.ofBlk (f i)) := by
  induction ids generalizing info with
  | nil => exact ⟨info, rfl, rfl, fun _ _ => rfl, fun _ h => by cases h⟩
  | cons id ids ih =>
    have hlt := hids id List.mem_cons_self
    have hlt' : ∀ i ∈ ids, i < (info.set id (.ofBlk (f id))).length := fun i hi => by
      rw [List.length_set]
      exact hids i (List.mem_cons_of_mem id hi)
    obtain ⟨info', hfill, hlen, hother, hget⟩ := ih hlt' (fun i hi => hread i (List.mem_cons_of_mem id hi))
    refine ⟨info', ?_, hlen.trans (List.length_set ..), fun i hi => ?_, fun i hi => ?_⟩
    · rw [fillLoop, hread id List.mem_cons_self]
      simp only [Except.mapError, bind, Except.bind, assign, if_pos hlt]
      exact hfill
    · rw [List.mem_cons, not_or] at hi
      rw [hother i hi.2, List.getElem?_set_ne (Ne.symm hi.1)]
    · by_cases hm : i ∈ ids
      · exact hget i hm
      · obtain rfl := (List.mem_cons.mp hi).resolve_right hm
        rw [hother i hm, List.getElem?_set_self hlt]

lemma fillLoop_error {ids : List ℕ} {e : Error} (hids : ∀ i ∈ ids, i < info.length)
    (h : ids.mapM (readBlock C w) = .error e) : fillLoop C w ids info = .error (.thrown e) := by
  induction ids generalizing info with
  | nil => cases h
  | cons id ids ih =>
    have hlt := hids id List.mem_cons_self
    rw [List.mapM_cons] at h
    rw [fillLoop]
    cases hr : readBlock C w id with
    | error e' =>
      simp only [hr, bind, Except.bind, Except.error.injEq] at h
      rw [← h]
      rfl
    | ok b =>
      cases hm : ids.mapM (readBlock C w) with
      | ok bs => simp [hr, hm, bind, Except.bind, pure, Except.pure] at h
      | error e' =>
        simp only [hr, hm, bind, Except.bind, Except.error.injEq] at h
        simp only [Except.mapError, bind, Except.bind, assign, if_pos hlt]
        refine ih (fun i hi => ?_) (h ▸ hm)
        rw [List.length_set]
        exact hids i (List.mem_cons_of_mem id hi)

lemma scanTables_eq (C : Crypto) (w : World) :
    scanTables C w = (scanPlan C w.storage w.file).mapError .thrown := by
  rw [scanTables, scanPlan]
  dsimp only
  split_ifs with hshort
  · rfl
  · generalize (w.file.length - w.storage.bs) / w.storage.bs = n
    have hr : ∀ i ∈ List.range' 1 n, 0 < i ∧ i ≤ n := by
      intro i hi
      rw [List.mem_range'_1] at hi
      omega
    have hlen : ∀ i ∈ List.range' 1 n, i < (List.replicate (n + 1) (⟨0, 0, 0⟩ : Info)).length := by
      intro i hi
      have := hr i hi
      rw [List.length_replicate]
      omega
    have hworld : readInfo C { storage := w.storage, file := w.file } n = readInfo C w n := rfl
    rw [hworld]
    cases hinfo : readInfo C w n with
    | error e =>
      rw [fillLoop_error hlen hinfo]
      rfl
    | ok info =>
      have hread : ∀ i ∈ List.range' 1 n, readBlock C w i = .ok (infoAt info i) := fun i hi =>
        readBlock_eq (readInfo_blocks hinfo i (hr i hi).1 (hr i hi).2)
      obtain ⟨table, htable, hl, -, hget⟩ := fillLoop_ok hlen hread
      have ht : Tabulates n table (fun i => .ofBlk (infoAt info i)) :=
        ⟨hl.trans List.length_replicate, fun i h0 hn => hget i (by rw [List.mem_range'_1]; omega)⟩
      have hheads := headsLoop_eq ht (a := {}) (Marks.start n) hr
      rw [htable]
      simp only [bind, Except.bind]
      cases ha : scanHeads (infoAt info) n (List.range' 1 n) {} with
      | error e =>
        rw [ha] at hheads
        rw [hheads]
        rfl
      | ok a =>
        rw [ha] at hheads
        obtain ⟨seen, hseen, hm⟩ := hheads
        obtain ⟨frees, hfrees, hf⟩ := freeLoop_eq ht hm (Tabulates.replicate n false) hr
        have hf' : Tabulates n frees (isFree (infoAt info) a.seen) := hf.congr (fun i h0 hn => by
          have hi : i ∈ List.range' 1 n := by
            rw [List.mem_range'_1]
            omega
          simp [hi])
        rw [hseen]
        simp only [hfrees, trimLoop_eq hf' le_rfl, pushLoop_eq hf' (trim_le _ n), List.append_nil]
        rfl

end

end ScanTables

open ScanTables

/-- Whatever the blocks of a file say, the scan ends, stays within its tables, and throws or leaves
disjoint chains and the free list as their complement, over which the later walks succeed. -/
theorem scan_safe (C : Crypto) (w : World) (hbs : 0 < w.storage.bs) :
    scanTables C w ≠ .error .outside ∧ scanTables C w ≠ .error .endless ∧
      ∀ w', scan C w = (.ok (), w') → scanTables C w = .ok w'.storage ∧
        (∃ cont, Partitioned (blocks C w') w'.storage cont) ∧
        ∀ id hi, w'.storage.head.find? id = some hi →
          (∃ data, getLocked C w' id = .ok (some data)) ∧ ∃ old, oldContinuations C w' hi = .ok old := by
  have htables := scanTables_eq C w
  have hscan := scan_eq C w
  cases hp : scanPlan C w.storage w.file with
  | error e =>
    rw [hp] at htables hscan
    rw [htables]
    refine ⟨nofun, nofun, fun w' hw' => ?_⟩
    cases hscan.symm.trans hw'
  | ok t =>
    rw [hp] at htables
    rw [htables]
    refine ⟨nofun, nofun, fun w' hw' => ?_⟩
    obtain ⟨f, hok, -⟩ | ⟨-, s, hfail⟩ := scan_plan hp
    · obtain rfl := (Prod.mk.inj (hok.symm.trans hw')).2
      obtain ⟨cont, hlayout, -⟩ := scanPlan_layout hbs hp
      have hblocks : blocks C ⟨t, trimmed w.storage t.nblocks w.file, w.draws, f⟩ =
          blocks C { storage := t, file := trimmed w.storage t.nblocks w.file } := blocks_congr rfl rfl rfl rfl rfl
      rw [← hblocks] at hlayout
      exact ⟨rfl, ⟨cont, hlayout.partitioned⟩, fun id hi hh =>
        ⟨⟨_, getLocked_ok hlayout (SortedMap.mem_keys_of_find? hh)⟩, _, oldContinuations_ok hlayout hh⟩⟩
    · cases hfail.symm.trans hw'

def mixedStore : World := runOps .transparent smallStore
  [.insert (List.replicate 90 7) 1, .insert [] 1, .insert [] 1, .insert [] 1, .remove 3, .remove 5]

set_option maxRecDepth 20000 in
theorem scan_safe_sample : mixedStore.storage.nblocks = 5 ∧ (scan .transparent mixedStore).2.storage.nblocks = 4 ∧
    (scan .transparent mixedStore).2.storage.free = [3] ∧
    ∃ cont, Partitioned (blocks .transparent (scan .transparent mixedStore).2)
      (scan .transparent mixedStore).2.storage cont :=
  ⟨by decide +kernel, by decide +kernel, by decide +kernel,
    ((scan_safe .transparent mixedStore (by decide +kernel)).2.2 _ (Prod.ext (by decide +kernel) rfl)).2.1⟩

end ChatDesktop.Storage
