import ChatDesktop.Chat.CacheStorage
import ChatDesktop.Chat.HistoryOrder

namespace ChatDesktop.Storage

open Library Library.Program LocalStorage

namespace Store

def Latest (a : Store) (tag : UInt32) : Option Bytes → Prop
  | none => ∀ id data, a.record id ≠ some (tag, data)
  | some data => ∃ id, a.record id = some (tag, data) ∧ ∀ i d, a.record i = some (tag, d) → i ≤ id

def Only (a : Store) (tag : UInt32) (data : Bytes) : Prop := ∃ id, ∀ i d, a.record i = some (tag, d) ↔ i = id ∧ d = data

def Unnamed (a : Store) : Prop := ∀ n, a.root n = none

variable {a : Store} {tag : UInt32} {data : Bytes} {id : ℕ}

lemma Only.latest (h : a.Only tag data) : a.Latest tag (some data) := by
  obtain ⟨id, hid⟩ := h
  exact ⟨id, (hid id data).mpr ⟨rfl, rfl⟩, fun i d hi => ((hid i d).mp hi).1.le⟩

lemma Latest.unique {x y : Option Bytes} (hx : a.Latest tag x) (hy : a.Latest tag y) : x = y := by
  cases x with
  | none =>
    cases y with
    | none => rfl
    | some d =>
      obtain ⟨id, hid, -⟩ := hy
      exact absurd hid (hx id d)
  | some d =>
    obtain ⟨id, hid, hmax⟩ := hx
    cases y with
    | none => exact absurd hid (hy id d)
    | some d' =>
      obtain ⟨id', hid', hmax'⟩ := hy
      obtain rfl : id = id' := le_antisymm (hmax' id d hid) (hmax id' d' hid')
      rw [hid] at hid'
      exact congrArg some (Prod.mk.inj (Option.some.inj hid')).2

lemma Unnamed.empty : Unnamed empty := fun _ => rfl

lemma Unnamed.put (h : Unnamed a) (r : UInt32 × Bytes) : Unnamed (a.put id r) := h

lemma Unnamed.delete (h : Unnamed a) : Unnamed (a.delete id) := by
  intro n
  change (if a.root n = some id then none else a.root n) = none
  rw [h n, ite_self]

lemma Unnamed.foldl_delete (h : Unnamed a) (is : List ℕ) : Unnamed (is.foldl Store.delete a) := by
  induction is generalizing a with
  | nil => exact h
  | cons i is ih => exact ih h.delete

end Store

variable {C : Crypto} {pw : Bytes} {w : World} {a b : Store} {tag : UInt32} {data : Bytes}

lemma Agrees.unique (ha : Agrees C w a) (hb : Agrees C w b) : a = b := by
  have hsub {a b : Store} (ha : Agrees C w a) (hb : Agrees C w b) {id : ℕ} {r : UInt32 × Bytes}
      (hr : a.record id = some r) : b.record id = some r := by
    obtain ⟨tag, data⟩ := r
    obtain ⟨data', hr'⟩ := ((hb.ids tag).2 id).mp (((ha.ids tag).2 id).mpr ⟨data, hr⟩)
    have hget := (ha.get id tag data hr).symm.trans (hb.get id tag data' hr')
    rw [hr', Option.some.inj (Except.ok.inj hget)]
  have hrecord : a.record = b.record := by
    funext id
    cases hr : a.record id with
    | some r => exact (hsub ha hb hr).symm
    | none =>
      cases hr' : b.record id with
      | none => rfl
      | some r => rw [hsub hb ha hr'] at hr; cases hr
  have hroot : a.root = b.root := funext (fun n => (ha.root n).symm.trans (hb.root n))
  cases a
  cases b
  exact congrArg₂ Store.mk hrecord hroot

lemma Agrees.lastRecord (h : Agrees C w a) (tag : UInt32) :
    ∃ latest, a.Latest tag latest ∧ lastRecord C tag w = .ok latest := by
  obtain ⟨hsorted, hmem⟩ := h.ids tag
  rw [Storage.lastRecord]
  cases hlast : (LocalStorage.ids w.storage tag).getLast? with
  | none =>
    rw [List.getLast?_eq_none_iff] at hlast
    refine ⟨none, fun id data hr => ?_, rfl⟩
    have hid := (hmem id).mpr ⟨data, hr⟩
    rw [hlast] at hid
    cases hid
  | some id =>
    obtain ⟨is, his⟩ := List.getLast?_eq_some_iff.mp hlast
    rw [his] at hsorted hmem
    obtain ⟨data, hr⟩ := (hmem id).mp (List.mem_append_right _ (List.mem_singleton_self id))
    refine ⟨some data, ⟨id, hr, fun i d hi => ?_⟩, h.get id tag data hr⟩
    obtain hi | hi := List.mem_append.mp ((hmem i).mpr ⟨d, hi⟩)
    · exact ((List.pairwise_append.mp hsorted).2.2 i hi id (List.mem_singleton_self id)).le
    · exact (List.mem_singleton.mp hi).le

lemma Agrees.ids_of_only (h : Agrees C w a) (ha : a.Only tag data) :
    ∃ id, LocalStorage.ids w.storage tag = [id] ∧ LocalStorage.get C w id = .ok (some data) := by
  obtain ⟨id, hid⟩ := ha
  obtain ⟨hsorted, hmem⟩ := h.ids tag
  refine ⟨id, eq_singleton hsorted (fun i => ?_), h.get id tag data ((hid id data).mpr ⟨rfl, rfl⟩)⟩
  rw [hmem]
  exact ⟨fun ⟨d, hd⟩ => ((hid i d).mp hd).1, fun hi => ⟨data, (hid i data).mpr ⟨hi, rfl⟩⟩⟩

end ChatDesktop.Storage

namespace ChatDesktop.Chat.CacheStorage

open Library Library.Program Storage LocalStorage

variable {C : Crypto} {pw : Bytes} {w w' : World} {a b : Store} {cont : ℕ → List ℕ} {last : ℕ} {value : Bytes}

/-! ### One file -/

lemma removeOthers_spec {is : List ℕ} (h : Related C pw w a cont)
    (hlive : ∀ id ∈ is, id ≠ last → (a.record id).isSome = true) (hnodup : is.Nodup) :
    (∃ w' cont', removeOthers C last is w = (.ok (), w') ∧
      Related C pw w' ((is.filter (fun id => !decide (id = last))).foldl Store.delete a) cont') ∨
      ∃ e w', removeOthers C last is w = (.error e, w') ∧ IsIoFailure e := by
  induction is generalizing w a cont with
  | nil => exact Or.inl ⟨w, cont, rfl, h⟩
  | cons id is ih =>
    obtain ⟨hid, hnodup⟩ := List.nodup_cons.mp hnodup
    rw [removeOthers]
    by_cases hlast : id = last
    · rw [if_pos hlast, List.filter_cons_of_neg (by simp [hlast])]
      exact ih h (fun i hi => hlive i (List.mem_cons_of_mem _ hi)) hnodup
    · rw [if_neg hlast, List.filter_cons_of_pos (by simp [hlast])]
      obtain ⟨w₁, cont₁, hw₁, h₁⟩ | ⟨e, w₁, hw₁, he⟩ := h.remove_spec (hlive id List.mem_cons_self hlast)
      · rw [bind_ok hw₁]
        refine ih h₁ (fun i hi hne => ?_) hnodup
        have hother : i ≠ id := fun he => hid (he ▸ hi)
        change (Function.update a.record id none i).isSome = true
        rw [Function.update_of_ne hother]
        exact hlive i (List.mem_cons_of_mem _ hi) hne
      · exact Or.inr ⟨e, w₁, bind_error hw₁, he⟩

lemma only_of_removed {is : List ℕ} {old : Bytes} (hmem : ∀ id, id ∈ is ↔ ∃ d, a.record id = some (USER, d))
    (hlast : a.record last = some (USER, old)) :
    ((is.filter (fun id => !decide (id = last))).foldl Store.delete (a.put last (USER, value))).Only USER value := by
  refine ⟨last, fun i d => ?_⟩
  rw [Store.record_foldl_delete]
  by_cases hi : i = last
  · subst hi
    rw [if_neg (by simp)]
    change Function.update a.record i (some (USER, value)) i = _ ↔ _
    rw [Function.update_self]
    exact ⟨fun h => ⟨rfl, (Prod.mk.inj (Option.some.inj h)).2.symm⟩, fun h => by rw [h.2]⟩
  · refine iff_of_false (fun h => ?_) (fun h => hi h.1)
    split_ifs at h with hmemi
    change Function.update a.record last (some (USER, value)) i = _ at h
    rw [Function.update_of_ne hi] at h
    exact hmemi (List.mem_filter.mpr ⟨(hmem i).mpr ⟨d, h⟩, by simp [hi]⟩)

lemma saveRecord_spec (h : Related C pw w a cont) (hroots : a.Unnamed) (value : Bytes) :
    (∃ w' b cont', saveRecord C value w = (.ok true, w') ∧ Related C pw w' b cont' ∧ b.Only USER value ∧ b.Unnamed) ∨
      ∃ e w', saveRecord C value w = (.error e, w') ∧ IsIoFailure e := by
  obtain ⟨hsorted, hmem⟩ := h.agrees.ids USER
  rw [saveRecord, get_bind_apply]
  generalize ids w.storage USER = records at hsorted hmem
  cases hlast : records.getLast? with
  | none =>
    rw [List.getLast?_eq_none_iff] at hlast
    obtain ⟨id, w₁, cont₁, hw₁, -, h₁⟩ | ⟨e, w₁, hw₁, he⟩ := h.insert_spec value (show USER ≠ kDirTag by decide)
    · have honly : (a.put id (USER, value)).Only USER value := by
        refine ⟨id, fun i d => ?_⟩
        change Function.update a.record id (some (USER, value)) i = _ ↔ _
        by_cases hi : i = id
        · subst hi
          rw [Function.update_self]
          exact ⟨fun hd => ⟨rfl, (Prod.mk.inj (Option.some.inj hd)).2.symm⟩, fun hd => by rw [hd.2]⟩
        · rw [Function.update_of_ne hi]
          refine iff_of_false (fun hd => ?_) (fun hd => hi hd.1)
          have hid := (hmem i).mpr ⟨d, hd⟩
          rw [hlast] at hid
          cases hid
      obtain ⟨w₂, hw₂, h₂⟩ | ⟨e, w₂, hw₂, he⟩ := h₁.sync_spec
      · exact Or.inl ⟨w₂, _, cont₁, by simp only [bind_ok hw₁, bind_ok hw₂, pure_apply], h₂, honly, hroots.put _⟩
      · exact Or.inr ⟨e, w₂, by simp only [bind_ok hw₁, bind_error hw₂], he⟩
    · exact Or.inr ⟨e, w₁, by simp only [bind_error hw₁], he⟩
  | some last =>
    obtain ⟨old, hold⟩ := (hmem last).mp (List.mem_of_getLast? hlast)
    obtain ⟨w₁, cont₁, hw₁, h₁⟩ | ⟨e, w₁, hw₁, he⟩ := h.update_spec value hold
    · have hlive : ∀ id ∈ records, id ≠ last → ((a.put last (USER, value)).record id).isSome = true := by
        intro id hid hne
        obtain ⟨d, hd⟩ := (hmem id).mp hid
        change (Function.update a.record last (some (USER, value)) id).isSome = true
        rw [Function.update_of_ne hne, hd]
        rfl
      obtain ⟨w₂, cont₂, hw₂, h₂⟩ | ⟨e, w₂, hw₂, he⟩ := removeOthers_spec h₁ hlive (hsorted.imp ne_of_lt)
      · obtain ⟨w₃, hw₃, h₃⟩ | ⟨e, w₃, hw₃, he⟩ := h₂.sync_spec
        · refine Or.inl ⟨w₃, _, cont₂, ?_, h₃, only_of_removed hmem hold, (hroots.put _).foldl_delete _⟩
          simp only [bind_ok hw₁, if_true, bind_ok hw₂, bind_ok hw₃, pure_apply]
        · exact Or.inr ⟨e, w₃, by simp only [bind_ok hw₁, if_true, bind_ok hw₂, bind_error hw₃], he⟩
      · exact Or.inr ⟨e, w₂, by simp only [bind_ok hw₁, if_true, bind_error hw₂], he⟩
    · exact Or.inr ⟨e, w₁, by simp only [bind_error hw₁], he⟩

lemma saveRecord_opt {opt : Options} (value : Bytes) : KeepsOpt opt (saveRecord C value) := by
  have hothers (last : ℕ) (is : List ℕ) : KeepsOpt opt (removeOthers C last is) := by
    induction is with
    | nil => exact .pure ()
    | cons id is ih => exact .ite ih (.bind (.remove _) (fun _ => ih))
  refine .get (fun w _ => ?_)
  cases (ids w.storage USER).getLast? with
  | none => exact .bind (.insert _ _) (fun _ => .bind .sync (fun _ => .pure _))
  | some last =>
    exact .bind (.update _ _) (fun _ => .ite (.bind (hothers _ _) (fun _ => .bind .sync (fun _ => .pure _))) (.pure _))

/-! ### All files -/

variable {P : Platform} {c : Stores} {A : Bytes → Store} {k : UserKey} {call : Call} {calls : List Call}

/-- Each file holds what `A` says, and no record has a name. -/
def HoldsUnnamed (P : Platform) (c : Stores) (A : Bytes → Store) : Prop :=
  HoldsAll P.crypto P.appSecretKey c A ∧ ∀ path, (A path).Unnamed

lemma save_spec (h : HoldsUnnamed P c A) (value : QString) (k : UserKey) :
    (∃ c' b, save P value k c = (.ok true, c') ∧ HoldsUnnamed P c' (Function.update A (fileName P k) b) ∧
      b.Only USER (P.toUtf8 value) ∧ ∀ path ≠ fileName P k, c'.files path = c.files path) ∨
      ∃ e c', save P value k c = (.error e, c') ∧ IsIoFailure e := by
  obtain ⟨c₁, hset, h₁, hfd, hother⟩ := h.1.setPath (fileName P k)
  obtain ⟨-, cont, hr⟩ := h₁.opened _ hfd
  rw [save, bind_ok hset, use, hfd]
  dsimp only
  obtain ⟨w, b, cont', hw, hb, honly, hroots⟩ | ⟨e, w, hw, he⟩ := saveRecord_spec hr (h.2 _) (P.toUtf8 value)
  · rw [hw]
    have hopt : w.storage.opt = c₁.storage.opt := by
      have hk := saveRecord_opt (C := P.crypto) (P.toUtf8 value) (c₁.world (fileName P k) c₁.storage none) rfl
      rwa [hw] at hk
    have h₂ := h₁.update (fileName P k) hb (hb.namesFit hroots) rfl hopt
    refine Or.inl ⟨_, b, rfl, ⟨?_, fun path => ?_⟩, honly, fun path hpath => ?_⟩
    · rw [Stores.becomes]
      rwa [← hfd] at h₂
    · by_cases hpath : path = fileName P k
      · rwa [hpath, Function.update_self]
      · rw [Function.update_of_ne hpath]
        exact h.2 path
    · exact (c₁.keep_other w hpath).trans (hother path hpath)
  · rw [hw]
    exact Or.inr ⟨e, _, rfl, he⟩

lemma lookup_spec (h : HoldsUnnamed P c A) (k : UserKey) :
    ∃ c' latest, (A (fileName P k)).Latest USER latest ∧
      lookup P k c = (.ok ((latest.map P.fromUtf8).getD []), c') ∧ HoldsUnnamed P c' A := by
  rw [lookup, get_bind_apply]
  cases hfile : c.files (fileName P k) with
  | none =>
    have hempty : A (fileName P k) = .empty := by
      obtain ⟨-, he⟩ | ⟨w, cont, -, -, hsome⟩ := h.1.files (fileName P k)
      · exact he
      · cases hfile.symm.trans hsome
    refine ⟨c, none, ?_, rfl, h⟩
    rw [hempty]
    exact fun id data hr => nomatch hr
  | some file =>
    obtain ⟨c₁, hset, h₁, hfd, -⟩ := h.1.setPath (fileName P k)
    obtain ⟨-, cont, hr⟩ := h₁.opened _ hfd
    obtain ⟨latest, hlatest, hread⟩ := hr.agrees.lastRecord USER
    have huse : use none (Prog.read (lastRecord P.crypto USER)) c₁ =
        (.ok latest, c₁.becomes (fileName P k) (c₁.world (fileName P k) c₁.storage none)) := by
      rw [use, hfd]
      dsimp only
      rw [read_apply, hread]
    refine ⟨_, latest, hlatest, (bind_ok hset).trans (bind_ok huse), ?_, h.2⟩
    have hfit := hr.namesFit (h.2 (fileName P k))
    have h₂ := h₁.update (fileName P k) hr hfit rfl rfl
    rw [Function.update_eq_self, ← hfd] at h₂
    exact h₂

def Tracked (P : Platform) (older : Bytes → Store) (keys : UserKey → Prop) (calls : List Call) (A : Bytes → Store) :
    Prop :=
  ∀ k, keys k → match lastSaved k calls with
    | none => A (fileName P k) = older (fileName P k)
    | some value => (A (fileName P k)).Only USER (P.toUtf8 value)

lemma lastSaved_concat (k : UserKey) (calls : List Call) (call : Call) :
    lastSaved k (calls ++ [call]) = (savedFor k call).or (lastSaved k calls) := by
  rw [lastSaved, lastSaved, List.filterMap_append, List.getLast?_append]
  cases h : savedFor k call with
  | none => rw [List.filterMap_cons_none h]; rfl
  | some value => rw [List.filterMap_cons_some h]; rfl

lemma Tracked.next {older : Bytes → Store} {keys : UserKey → Prop} (ht : Tracked P older keys calls A)
    (h : HoldsUnnamed P c A) (hkeys : ∀ k k', keys k → keys k' → fileName P k = fileName P k' → k = k')
    (hk : keys call.key) (hio : ∀ e, (perform P call c).1 = .error e → ¬IsIoFailure e) :
    ∃ A', HoldsUnnamed P (next P c call) A' ∧ Tracked P older keys (calls ++ [call]) A' := by
  have hlooked (hnone : ∀ k, savedFor k call = none) : Tracked P older keys (calls ++ [call]) A := by
    intro k hk
    rw [lastSaved_concat, hnone k, Option.none_or]
    exact ht k hk
  cases call with
  | save value k =>
    rw [CacheStorage.next, perform] at *
    obtain ⟨c', b, hs, h', honly, -⟩ | ⟨e, c', hs, he⟩ := save_spec h value k
    · refine ⟨_, by rw [bind_ok hs]; exact h', fun k' hk' => ?_⟩
      rw [lastSaved_concat, savedFor]
      by_cases hkk : k = k'
      · subst hkk
        rw [if_pos rfl, Option.some_or, Function.update_self]
        exact honly
      · rw [if_neg hkk, Option.none_or, Function.update_of_ne (fun hf => hkk (hkeys _ _ hk hk' hf.symm))]
        exact ht k' hk'
    · exact absurd he (hio e (by rw [bind_error hs]))
  | read k =>
    obtain ⟨c', latest, -, hl, h'⟩ := lookup_spec h k
    exact ⟨A, by rw [CacheStorage.next, perform, read, bind_ok hl]; exact h', hlooked (fun _ => rfl)⟩
  | getUser k =>
    obtain ⟨c', latest, -, hl, h'⟩ := lookup_spec h k
    exact ⟨A, by rw [CacheStorage.next, perform, getUser, bind_ok hl]; exact h', hlooked (fun _ => rfl)⟩

lemma NoIoFailure.split (h : NoIoFailure P c (calls ++ [call])) : NoIoFailure P c calls ∧
    ∀ e, (perform P call (calls.foldl (CacheStorage.next P) c)).1 = .error e → ¬IsIoFailure e := by
  induction calls generalizing c with
  | nil => exact ⟨trivial, h.1⟩
  | cons call' calls ih => exact ⟨⟨h.1, (ih h.2).1⟩, (ih h.2).2⟩

lemma tracked_run {older : Bytes → Store} (keys : UserKey → Prop)
    (hkeys : ∀ k k', keys k → keys k' → fileName P k = fileName P k' → k = k') (h : HoldsUnnamed P c older)
    (hcalls : ∀ call ∈ calls, keys call.key) (hio : NoIoFailure P c calls) :
    ∃ A, HoldsUnnamed P (calls.foldl (CacheStorage.next P) c) A ∧ Tracked P older keys calls A := by
  induction calls using List.reverseRecOn with
  | nil => exact ⟨older, h, fun _ _ => rfl⟩
  | append_singleton calls call ih =>
    obtain ⟨hio, hlast⟩ := hio.split
    obtain ⟨A, hA, ht⟩ := ih (fun call hc => hcalls call (List.mem_append_left _ hc)) hio
    rw [List.foldl_concat]
    exact ht.next hA hkeys (hcalls call (List.mem_append_right _ (List.mem_singleton_self call))) hlast

lemma holding_of_holds {file : Option Bytes} (h : FileHolds P.crypto P.appSecretKey file a)
    (ha : a.Only USER value) : holding P file = .ok [some value] := by
  obtain ⟨w, cont, hc, hr, -⟩ := h.opens { opt := {} } 0 (show 128 ≤ ({} : Options).blockSize by decide) (by decide)
  obtain ⟨id, hids, hget⟩ := hr.agrees.ids_of_only ha
  rw [holding, inspect, bind_ok hc, read_apply, userRecords, hids]
  simp only [List.mapM_cons, List.mapM_nil, hget]
  rfl

lemma LeftBehind.holds {file : Option Bytes} (h : LeftBehind P file a) :
    FileHolds P.crypto P.appSecretKey file a ∧ a.Unnamed := by
  obtain ⟨hfile, rfl⟩ | ⟨w, hreach, hroots, hagrees, rfl⟩ := h
  · exact ⟨.inl ⟨hfile, rfl⟩, .empty⟩
  · obtain ⟨cont, hwf, hrec⟩ := hreach.wf
    have hroot : a.Unnamed := fun n => (hagrees.root n).symm.trans (hroots n)
    have habs : abstraction P.crypto w cont = a := hwf.agrees.unique hagrees
    have hr : Related P.crypto P.appSecretKey w a cont := by
      refine ⟨hwf, hrec, habs, fun n id hn => ?_⟩
      rw [hroot n] at hn
      cases hn
    exact ⟨.inr ⟨w, cont, hr, hr.namesFit hroot, rfl⟩, hroot⟩

lemma LeftBehind.latest {file : Option Bytes} (h : LeftBehind P file a) : ∃ latest, a.Latest USER latest := by
  obtain ⟨-, rfl⟩ | ⟨w, -, -, hagrees, -⟩ := h
  · exact ⟨none, fun id data hr => nomatch hr⟩
  · obtain ⟨latest, hlatest, -⟩ := hagrees.lastRecord USER
    exact ⟨latest, hlatest⟩

lemma saved_of_lastSaved {value : QString} (h : lastSaved k calls = some value) : .save value k ∈ calls := by
  obtain ⟨call, hcall, hsaved⟩ := List.mem_filterMap.mp (List.mem_of_getLast? h)
  cases call with
  | save value' k' =>
    rw [savedFor] at hsaved
    split_ifs at hsaved with hk
    rwa [← hk, ← Option.some.inj hsaved]
  | read k' => cases hsaved
  | getUser k' => cases hsaved

lemma Tracked.lookup {older : Bytes → Store} {keys : UserKey → Prop} (ht : Tracked P older keys calls A)
    (h : HoldsUnnamed P c A) (hk : keys k) {file : Option Bytes} (hleft : LeftBehind P file (older (fileName P k)))
    (hunicode : ∀ value k, .save value k ∈ calls → P.fromUtf8 (P.toUtf8 value) = value) :
    ∃ latest c', (older (fileName P k)).Latest USER latest ∧
      CacheStorage.lookup P k c = (.ok ((lastSaved k calls).getD ((latest.map P.fromUtf8).getD [])), c') := by
  obtain ⟨c', found, hfound, hl, -⟩ := lookup_spec h k
  have hkey := ht k hk
  rw [hl]
  cases hs : lastSaved k calls with
  | none =>
    rw [hs] at hkey
    exact ⟨found, c', hkey ▸ hfound, rfl⟩
  | some value =>
    rw [hs] at hkey
    obtain ⟨latest, hlatest⟩ := hleft.latest
    obtain rfl := hfound.unique hkey.latest
    refine ⟨latest, c', hlatest, ?_⟩
    rw [Option.map_some, Option.getD_some, hunicode value k (saved_of_lastSaved hs)]
    rfl

/-- The last value saved is read, or else the last of the records that were left, and a save leaves one record and
all other files alone. -/
theorem last_write_wins {files : Bytes → Option Bytes} {older : Bytes → Store}
    (hleft : ∀ path, LeftBehind P (files path) (older path))
    (hkeys : ∀ c ∈ calls ++ [call], ∀ c' ∈ calls ++ [call], fileName P c.key = fileName P c'.key → c.key = c'.key)
    (hunicode : ∀ value k, .save value k ∈ calls → P.fromUtf8 (P.toUtf8 value) = value)
    (hio : NoIoFailure P { files := files } (calls ++ [call])) :
    let c := calls.foldl (CacheStorage.next P) { files := files }
    let result := perform P call c
    match call with
    | .save value k =>
      result.1 = .ok (.accepted true) ∧ holding P (result.2.files (fileName P k)) = .ok [some (P.toUtf8 value)] ∧
        ∀ path ≠ fileName P k, result.2.files path = c.files path
    | .read k | .getUser k =>
      ∃ latest, (older (fileName P k)).Latest USER latest ∧
        result.1 = .ok (.answered ((lastSaved k calls).getD ((latest.map P.fromUtf8).getD []))) := by
  intro c result
  have hlo : 128 ≤ ({} : Options).blockSize := by decide
  have hhi : ({} : Options).blockSize ≤ 2 ^ 20 := by decide
  have hstart : HoldsUnnamed P { files := files } older :=
    ⟨⟨fun path => (hleft path).holds.1, (fun path h => by cases h), hlo, hhi⟩, fun path => (hleft path).holds.2⟩
  obtain ⟨hbefore, hcall⟩ := hio.split
  have hlast : call ∈ calls ++ [call] := List.mem_append_right _ (List.mem_singleton_self call)
  obtain ⟨A, hA, ht⟩ := tracked_run (fun k => ∃ c ∈ calls ++ [call], c.key = k)
    (by rintro _ _ ⟨c, hc, rfl⟩ ⟨c', hc', rfl⟩; exact hkeys c hc c' hc') hstart
    (fun c hc => ⟨c, List.mem_append_left _ hc, rfl⟩) hbefore
  cases call with
  | save value k =>
    obtain ⟨c', b, hs, h', honly, hother⟩ | ⟨e, c', hs, he⟩ := save_spec hA value k
    · have hresult : result = (.ok (.accepted true), c') := bind_ok hs
      have hfile := h'.1.files (fileName P k)
      rw [Function.update_self] at hfile
      rw [hresult]
      exact ⟨rfl, holding_of_holds hfile honly, hother⟩
    · exact absurd he (hcall e (congrArg Prod.fst (bind_error hs)))
  | read k =>
    obtain ⟨latest, c', hlatest, hl⟩ := ht.lookup hA ⟨_, hlast, rfl⟩ (hleft _) hunicode
    exact ⟨latest, hlatest, congrArg Prod.fst (bind_ok hl)⟩
  | getUser k =>
    obtain ⟨latest, c', hlatest, hl⟩ := ht.lookup hA ⟨_, hlast, rfl⟩ (hleft _) hunicode
    exact ⟨latest, hlatest, congrArg Prod.fst (bind_ok hl)⟩

/-! ### A file with two records -/

def leftStore : World := (step .transparent (.insert [0x62] USER) insertedStore).2

set_option maxRecDepth 10000 in
lemma step_leftStore : step .transparent (.insert [0x62] USER) insertedStore = (.inserted 2, leftStore) :=
  Prod.ext (by decide +kernel) rfl

def sampleKey : UserKey := ⟨key "a", key "b"⟩

def leftFiles : Bytes → Option Bytes :=
  Function.update (fun _ => none) (fileName plainPlatform sampleKey) (some leftStore.file)

lemma leftStore_reachable : Reachable .transparent [] leftStore := by
  apply Reachable.step _ step_leftStore (by decide)
  apply Reachable.step _ step_insertedStore (by decide)
  exact .create (by decide) (by decide) rfl rfl construct_smallStore

set_option maxRecDepth 10000 in
lemma leftStore_unnamed (n : Bytes) : LocalStorage.root leftStore.storage n = none := by
  have hentries : leftStore.storage.roots.entries = [] := by decide +kernel
  have hempty : leftStore.storage.roots = .empty := by
    cases hr : leftStore.storage.roots
    rw [hr] at hentries
    subst hentries
    rfl
  rw [LocalStorage.root, hempty]
  rfl

lemma leftBehind_sample : ∃ older : Bytes → Store, ∀ path, LeftBehind plainPlatform (leftFiles path) (older path) := by
  obtain ⟨cont, hwf, -⟩ := leftStore_reachable.wf
  refine ⟨Function.update (fun _ => .empty) (fileName plainPlatform sampleKey)
    (abstraction .transparent leftStore cont), fun path => ?_⟩
  by_cases hpath : path = fileName plainPlatform sampleKey
  · subst hpath
    rw [leftFiles, Function.update_self, Function.update_self]
    exact .inr ⟨leftStore, leftStore_reachable, leftStore_unnamed, hwf.agrees, rfl⟩
  · rw [leftFiles, Function.update_of_ne hpath, Function.update_of_ne hpath]
    exact .inl ⟨rfl, rfl⟩

set_option maxRecDepth 10000 in
lemma noIoFailure_sample :
    NoIoFailure plainPlatform { files := leftFiles } ([.save (key "c") sampleKey] ++ [.read sampleKey]) := by
  have hsave : (perform plainPlatform (.save (key "c") sampleKey) { files := leftFiles }).1 = .ok (.accepted true) := by
    decide +kernel
  have hread : (perform plainPlatform (.read sampleKey)
      (next plainPlatform { files := leftFiles } (.save (key "c") sampleKey))).1 = .ok (.answered (key "c")) := by
    decide +kernel
  refine ⟨fun e he => ?_, fun e he => ?_, trivial⟩
  · cases hsave.symm.trans he
  · cases hread.symm.trans he

theorem last_write_wins_sample :
    (perform plainPlatform (.read sampleKey)
      (next plainPlatform { files := leftFiles } (.save (key "c") sampleKey))).1 = .ok (.answered (key "c")) := by
  obtain ⟨older, hleft⟩ := leftBehind_sample
  have hkeys : ∀ c ∈ [Call.save (key "c") sampleKey] ++ [.read sampleKey],
      ∀ c' ∈ [Call.save (key "c") sampleKey] ++ [.read sampleKey],
        fileName plainPlatform c.key = fileName plainPlatform c'.key → c.key = c'.key := by
    intro c hc c' hc' _
    have hsame : ∀ c ∈ [Call.save (key "c") sampleKey, .read sampleKey], c.key = sampleKey := by simp [Call.key]
    rw [hsame c hc, hsame c' hc']
  have hunicode : ∀ value k, .save value k ∈ [Call.save (key "c") sampleKey] →
      plainPlatform.fromUtf8 (plainPlatform.toUtf8 value) = value := by
    intro value k h
    obtain ⟨rfl, -⟩ := Call.save.inj (List.mem_singleton.mp h)
    decide
  obtain ⟨latest, -, h⟩ := last_write_wins hleft hkeys hunicode noIoFailure_sample
  exact h

end ChatDesktop.Chat.CacheStorage
