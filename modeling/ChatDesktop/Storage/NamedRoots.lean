import ChatDesktop.Storage.CrashConsistency
import ChatDesktop.Storage.Snapshot

namespace ChatDesktop.Storage

open Library Library.Program Library.Transition LocalStorage

structure Ledger where
  clock : ℕ := 0
  born : ℕ → ℕ := fun _ => 0
  named : Bytes → Option ℕ := fun _ => none

def Ledger.next (L : Ledger) (live : ℕ → Bool) (op : Op) (root : Bytes → Option ℕ) : Ledger where
  clock := L.clock + 1
  born id := if live id then L.born id else L.clock
  named n := match op with
    | .setRoot m id => if n = m ∧ live id ∧ root n = some id then some (L.born id) else L.named n
    | _ => L.named n

inductive Event
  | call (op : Op)
  | stop (op : Op) (k : ℕ)

def Event.op : Event → Op
  | .call op => op
  | .stop op _ => op

/-- A completed call, or a stop after `k` file events of it and a successful opening of the file. -/
inductive Advance (C : Crypto) (pw : Bytes) : World × Ledger → Event → World × Ledger → Prop
  | call {w w' : World} {L : Ledger} {op : Op} {out : Outcome} (hs : Steps C w (op, out) w')
      (hok : ¬IoFailed out) :
      Advance C pw (w, L) (.call op) (w', L.next (hasRecord w.storage) op (root w'.storage))
  | stop {w w' : World} {L : Ledger} {op : Op} {k : ℕ} {opt : Options}
      (hw : reopen C pw opt (crashed C op k w) = (.ok (), w')) :
      Advance C pw (w, L) (.stop op k) (w', L.next (hasRecord w.storage) op (root w'.storage))

/-- Every name stands for a live record, the one it was last given to. -/
def Honest (L : Ledger) (s : LocalStorage) : Prop :=
  ∀ n id, root s n = some id → hasRecord s id = true ∧ L.named n = some (L.born id)

def removeIndex (C : Crypto) (w : World) (id : ℕ) : ℕ :=
  (freeEvents w.storage id).length + directoryIndex (dropped C w id)

def Tame (C : Crypto) (w : World) : Event → Prop
  | .call (.setRoot n id) | .stop (.setRoot n id) _ => NamesFit (w.storage.roots.insert n id)
  | .stop (.remove id) k => hasRecord w.storage id = true → rooted w.storage id = true →
    k = 0 ∨ removeIndex C w id < k ∧ Room (dropped C w id) (directoryNeed (dropped C w id))
  | _ => True

def Unshared (w : World) : Op → Prop
  | .setRoot n id => ∀ m, root w.storage m = some id → m = n
  | _ => True

section

variable {C : Crypto} {pw : Bytes} {opt : Options} {w w' v : World} {k j : ℕ} {op : Op} {out : Outcome}
  {a b : Store} {cont : ℕ → List ℕ} {L : Ledger} {e : Event} {roots : Roots}

/-! ### The abstract store -/

def Store.Honest (L : Ledger) (a : Store) : Prop := ∀ n id, a.root n = some id → L.named n = some (L.born id)

lemma Store.Honest.same (h : a.Honest L) (hl : a.RootsLive) (op : Op) :
    a.Honest (L.next (fun id => (a.record id).isSome) op a.root) := by
  intro n id hn
  have hborn : (L.next (fun id => (a.record id).isSome) op a.root).born id = L.born id := if_pos (hl n id hn)
  rw [hborn]
  cases op with
  | setRoot m i =>
    simp only [Ledger.next]
    split_ifs with hm
    · rw [Option.some.inj (hn.symm.trans hm.2.2)]
    · exact h n id hn
  | _ => exact h n id hn

lemma Store.Step.honest (hs : Store.Step a (op, out) b) (h : a.Honest L) (hl : a.RootsLive) :
    b.Honest (L.next (fun id => (a.record id).isSome) op b.root) := by
  have hborn : ∀ n id, a.root n = some id →
      (L.next (fun id => (a.record id).isSome) op b.root).born id = L.born id := fun n id hn => if_pos (hl n id hn)
  cases hs with
  | insertReserved => exact h.same hl _
  | updateMissing => exact h.same hl _
  | removeMissing => exact h.same hl _
  | setRootMissing => exact h.same hl _
  | removeRootMissing => exact h.same hl _
  | insert => intro n id hn; rw [hborn n id hn]; exact h n id hn
  | update => intro n id hn; rw [hborn n id hn]; exact h n id hn
  | remove i _ =>
    intro n id hn
    simp only [Store.delete] at hn
    split_ifs at hn
    rw [hborn n id hn]
    exact h n id hn
  | setRoot m i hi =>
    intro n id hn
    by_cases hm : n = m
    · subst hm
      have hself : (a.name n (some i)).root n = some i := by simp only [Store.name, Function.update_self]
      rw [hself] at hn
      obtain rfl := Option.some.inj hn
      simp only [Ledger.next, hself, hi, and_self, if_true]
    · have hold : a.root n = some id := (Function.update_of_ne hm _ _).symm.trans hn
      rw [hborn n id hold]
      simp only [Ledger.next, hm, false_and, if_false]
      exact h n id hold
  | removeRoot m _ =>
    intro n id hn
    have hm : n ≠ m := by
      rintro rfl
      simp [Store.name] at hn
    have hold : a.root n = some id := (Function.update_of_ne hm _ _).symm.trans hn
    rw [hborn n id hold]
    exact h n id hold

lemma NamesFit.filter (h : NamesFit roots) (p : Bytes → ℕ → Bool) : NamesFit (roots.filter p) := by
  refine ⟨lt_of_le_of_lt (List.length_filter_le _ _) h.size, fun n id hn => ?_⟩
  rw [SortedMap.find?_filter, Option.filter_eq_some_iff] at hn
  exact h.name n id hn.1

lemma Store.Step.namesFit {roots' : Roots} (hs : Store.Step a (op, out) b) (ha : ∀ n, roots.find? n = a.root n)
    (hb : ∀ n, roots'.find? n = b.root n) (h : NamesFit roots)
    (hset : ∀ n id, op = .setRoot n id → NamesFit (roots.insert n id)) : NamesFit roots' := by
  have hsame : (∀ n, b.root n = a.root n) → NamesFit roots' := fun he =>
    (SortedMap.ext (fun n => (ha n).trans ((he n).symm.trans (hb n).symm)) : roots = roots') ▸ h
  cases hs with
  | remove id _ =>
    have he : roots' = roots.filter (fun _ r => !decide (r = id)) := by
      ext1 n
      rw [hb, find?_filter_ne, ha]
      rfl
    rw [he]
    exact h.filter _
  | setRoot m id _ =>
    have he : roots' = roots.insert m id := by
      ext1 n
      rw [hb, SortedMap.find?_insert, ha]
      by_cases hn : m = n
      · rw [if_pos hn, ← hn]
        exact Function.update_self _ _ _
      · rw [if_neg hn]
        exact Function.update_of_ne (Ne.symm hn) _ _
    rw [he]
    exact hset m id rfl
  | removeRoot m _ =>
    have he : roots' = roots.erase m := by
      ext1 n
      rw [hb, SortedMap.find?_erase, ha]
      by_cases hn : n = m
      · rw [if_pos hn, hn]
        exact Function.update_self _ _ _
      · rw [if_neg hn]
        exact Function.update_of_ne hn _ _
    rw [he]
    exact h.filter _
  | _ => exact hsame (fun _ => rfl)

lemma Store.Step.apart (hs : Store.Step a (op, out) b) (h : a.RootsApart)
    (hset : ∀ n id, op = .setRoot n id → ∀ m, a.root m = some id → m = n) : b.RootsApart := by
  cases hs with
  | remove i _ =>
    intro n m id hn hm
    simp only [Store.delete] at hn hm
    split_ifs at hn hm
    exact h n m id hn hm
  | setRoot x i _ =>
    intro n m id hn hm
    have hx := hset x i rfl
    simp only [Store.name] at hn hm
    by_cases h1 : n = x <;> by_cases h2 : m = x
    · rw [h1, h2]
    · rw [h1, Function.update_self] at hn
      rw [Function.update_of_ne h2, ← Option.some.inj hn] at hm
      exact absurd (hx m hm) h2
    · rw [h2, Function.update_self] at hm
      rw [Function.update_of_ne h1, ← Option.some.inj hm] at hn
      exact absurd (hx n hn) h1
    · rw [Function.update_of_ne h1] at hn
      rw [Function.update_of_ne h2] at hm
      exact h n m id hn hm
  | removeRoot x _ =>
    intro n m id hn hm
    simp only [Store.name] at hn hm
    have h1 : n ≠ x := by
      rintro rfl
      simp at hn
    have h2 : m ≠ x := by
      rintro rfl
      simp at hm
    rw [Function.update_of_ne h1] at hn
    rw [Function.update_of_ne h2] at hm
    exact h n m id hn hm
  | _ => exact h

/-! ### Runs -/

structure Steady (C : Crypto) (pw : Bytes) (w : World) (L : Ledger) (a : Store) (cont : ℕ → List ℕ) : Prop
    extends Related C pw w a cont where
  fit : NamesFit w.storage.roots
  honest : a.Honest L

lemma Steady.honest_storage (h : Steady C pw w L a cont) : Honest L w.storage := by
  intro n id hn
  have hr : a.root n = some id := (h.agrees.root n).symm.trans hn
  rw [h.agrees.live]
  exact ⟨h.live n id hr, h.honest n id hr⟩

lemma Tame.fits (h : Tame C w e) : ∀ n id, e.op = .setRoot n id → NamesFit (w.storage.roots.insert n id) := by
  intro n id he
  cases e with
  | call op =>
    obtain rfl : op = .setRoot n id := he
    exact h
  | stop op k =>
    obtain rfl : op = .setRoot n id := he
    exact h

def Leads (C : Crypto) (pw : Bytes) (a : Store) (op : Op) (w' : World) : Prop :=
  (∃ cont', Related C pw w' a cont' ∧ ∀ n, w'.storage.roots.find? n = a.root n) ∨
    ∃ out b cont', Store.Step a (op, out) b ∧ Related C pw w' b cont'

lemma Steady.next (h : Steady C pw w L a cont) (hl : Leads C pw a op w')
    (hset : ∀ n id, op = .setRoot n id → NamesFit (w.storage.roots.insert n id)) :
    ∃ b cont', Steady C pw w' (L.next (hasRecord w.storage) op (root w'.storage)) b cont' ∧
      (b = a ∨ ∃ out, Store.Step a (op, out) b) := by
  have hlive : hasRecord w.storage = fun id => (a.record id).isSome := funext h.agrees.live
  rcases hl with ⟨cont', hr, hroots⟩ | ⟨out, b, cont', hs, hr⟩
  · have hroot : root w'.storage = a.root := funext hroots
    have he : w'.storage.roots = w.storage.roots := SortedMap.ext (fun n => (hroots n).trans (h.agrees.root n).symm)
    rw [hlive, hroot]
    exact ⟨a, cont', ⟨hr, he ▸ h.fit, h.honest.same h.live op⟩, Or.inl rfl⟩
  · have hroot : root w'.storage = b.root := funext hr.agrees.root
    rw [hlive, hroot]
    exact ⟨b, cont', ⟨hr, hs.namesFit h.agrees.root hr.agrees.root h.fit hset, hs.honest h.honest h.live⟩,
      Or.inr ⟨out, hs⟩⟩

lemma Held.related (hh : Held C pw v a.record (.ok roots)) (hroots : ∀ n, roots.find? n = a.root n)
    (hl : a.RootsLive) (hw : reopen C pw opt v = (.ok (), w')) : ∃ cont', Related C pw w' a cont' := by
  obtain ⟨roots', cont', he, hwf, hrec, hab⟩ := hh.of_ok hw
  obtain rfl := Except.ok.inj he
  exact ⟨cont', hwf, hrec, by rw [hab, funext hroots], hl⟩

lemma Cut.tame_remove {id : ℕ} (h : Wf C pw w cont) (hlive : hasRecord w.storage id = true)
    (hroot : rooted w.storage id = true) (hc : Cut C pw w cont k (.remove id) v)
    (hk : k = 0 ∨ removeIndex C w id < k ∧ Room (dropped C w id) (directoryNeed (dropped C w id))) :
    HasHole C pw v ∨
      Held C pw v (abstraction C w cont).record (directoryOf (blocks C w) cont w.storage.dirId) ∨
      ∃ s, Refined C pw w cont (.remove id) (.answered true) (v.put s) := by
  rcases hk with rfl | ⟨hk, hroom⟩
  · exact (hc.zero h (show OnRecord (.remove id) from trivial)).imp_right Or.inl
  rw [removeIndex] at hk
  cases hc with
  | skipped hsk =>
    cases hsk with
    | remove _ hb => simp [hlive] at hb
  | free hid hh hs hpart =>
    have hr := h.free_inRange hh
    have hj := hs.index (fun i b hm => hr i b (List.mem_of_mem_take hm))
    have := hpart hroot
    omega
  | @unname id hi w₁ _ j hid hh _ hd _ hs =>
    rw [h.dropped_eq hh] at hk hroom
    have hwf := (h.free_done hh hid hd.toPerformed).1
    have hr := hwf.directory_inRange (by
      rw [World.put_storage, directoryStart_nblocks]
      exact hroom)
    have hj := hs.index (fun i b hm => by
      rw [World.put_storage, directoryStart_bs]
      exact hr i b (List.mem_of_mem_take hm))
    have hlt := directoryIndex_lt (removed w.storage id hi.tag (cont id))
    obtain ⟨⟨s, cont', hds⟩, -⟩ := hwf.directory_complete hs (by
      rw [World.put_storage]
      omega)
    exact Or.inr (Or.inr ⟨s, h.unname_refined hh hid hd.toPerformed hds⟩)

lemma Cut.tame (h : Wf C pw w cont) (hc : Cut C pw w cont k op v) (ht : Tame C w (.stop op k)) :
    HasHole C pw v ∨
      Held C pw v (abstraction C w cont).record (directoryOf (blocks C w) cont w.storage.dirId) ∨
      ∃ out s, Refined C pw w cont op out (v.put s) := by
  cases hi : hc.image h with
  | hole hh _ => exact Or.inl hh
  | before hh => exact Or.inr (Or.inl hh)
  | after hr _ => exact Or.inr (Or.inr ⟨_, _, hr⟩)
  | between hroot hlive _ =>
    have hlive' := users_isSome.mp hlive
    rcases hc.tame_remove h hlive' hroot (ht hlive' hroot) with hh | hh | ⟨s, hs⟩
    · exact Or.inl hh
    · exact Or.inr (Or.inl hh)
    · exact Or.inr (Or.inr ⟨_, s, hs⟩)

lemma Tame.arm (h : Wf C pw w cont) (ht : Tame C w (.stop op k)) : Tame C (w.arm k) (.stop op k) := by
  cases op with
  | remove id =>
    intro hlive hroot
    rw [removeIndex, h.dropped_arm]
    exact ht hlive hroot
  | _ => exact ht

lemma Steady.leads_stop (h : Steady C pw w L a cont) (ht : Tame C w (.stop op k))
    (hw : reopen C pw opt (crashed C op k w) = (.ok (), w')) : Leads C pw a op w' := by
  obtain ⟨v, s, hv, hcut⟩ := h.wf.crashed_cut op k
  rw [hv, reopen_put] at hw
  have habs : abstraction C (w.arm k) cont = a := h.abs
  have hdir : directoryOf (blocks C (w.arm k)) cont (w.arm k).storage.dirId = .ok w.storage.roots :=
    (h.recorded.arm k).directoryOf_iff.mpr (h.toRelated.storable_iff.mpr h.fit)
  rcases hcut.tame (h.wf.arm k) (ht.arm h.wf) with hh | hh | ⟨out, s', cont₁, hwf₁, hs, hrec⟩
  · obtain ⟨e, w'', hw''⟩ := hh.fails opt
    rw [hw] at hw''
    cases (Prod.mk.inj hw'').1
  · rw [habs, hdir] at hh
    obtain ⟨cont', hr⟩ := hh.related h.agrees.root h.live hw
    exact Or.inl ⟨cont', hr, hr.agrees.root⟩
  · rw [habs] at hs
    obtain ⟨b, hb⟩ : ∃ b, b = abstraction C (v.put s') cont₁ := ⟨_, rfl⟩
    rw [← hb] at hs
    have hrel : Related C pw (v.put s') b cont₁ := ⟨hwf₁, hrec (h.recorded.arm k), hb.symm, h.live.step hs⟩
    have hfit : NamesFit (v.put s').storage.roots :=
      hs.namesFit h.agrees.root hrel.agrees.root h.fit ht.fits
    have hheld := hrel.recorded.held hwf₁
    rw [parseDirectory_directoryBytes (hrel.storable_iff.mpr hfit), ← hb] at hheld
    obtain ⟨cont', hr⟩ := hheld.related hrel.agrees.root hrel.live hw
    exact Or.inr ⟨out, b, cont', hs, hr⟩

lemma Steady.advance {t : World × Ledger} (h : Steady C pw w L a cont) (hs : Advance C pw (w, L) e t)
    (ht : Tame C w e) : ∃ b cont', Steady C pw t.1 t.2 b cont' ∧ (b = a ∨ ∃ out, Store.Step a (e.op, out) b) := by
  have hfits := ht.fits
  cases hs with
  | call hs hok =>
    obtain ⟨b, hst, cont', hr⟩ := h.toRelated.step hs hok
    exact h.next (Or.inr ⟨_, b, cont', hst, hr⟩) hfits
  | stop hw => exact h.next (h.leads_stop ht hw) hfits

/-- A step that is not stopped between the halves of a removal. -/
def Tamed (C : Crypto) (pw : Bytes) (s : World × Ledger) (e : Event) (t : World × Ledger) : Prop :=
  Advance C pw s e t ∧ Tame C s.1 e

/-- Such a step that gives no record a second name. -/
def TamedApart (C : Crypto) (pw : Bytes) (s : World × Ledger) (e : Event) (t : World × Ledger) : Prop :=
  Tamed C pw s e t ∧ Unshared s.1 e.op

lemma Steady.run {s t : World × Ledger} {es : List Event} (h : Steady C pw s.1 s.2 a cont)
    (hr : Run (Tamed C pw) s es t) : ∃ b cont', Steady C pw t.1 t.2 b cont' :=
  hr.invariant (P := fun s => ∃ a cont, Steady C pw s.1 s.2 a cont) ⟨a, cont, h⟩
    (fun _ _ _ _ ⟨_, _, hs⟩ hst => (hs.advance hst.1 hst.2).imp (fun _ ⟨cont', hb, _⟩ => ⟨cont', hb⟩))

lemma Steady.run_apart {s t : World × Ledger} {es : List Event} (h : Steady C pw s.1 s.2 a cont)
    (ha : a.RootsApart) (hr : Run (TamedApart C pw) s es t) :
    ∃ b cont', Steady C pw t.1 t.2 b cont' ∧ b.RootsApart := by
  refine hr.invariant (P := fun s => ∃ a cont, Steady C pw s.1 s.2 a cont ∧ a.RootsApart) ⟨a, cont, h, ha⟩ ?_
  rintro s e t - ⟨a, cont, hs, ha⟩ ⟨⟨hst, ht⟩, hu⟩
  obtain ⟨b, cont', hb, rfl | ⟨out, hab⟩⟩ := hs.advance hst ht
  · exact ⟨b, cont', hb, ha⟩
  · refine ⟨b, cont', hb, hab.apart ha (fun n id he m hm => ?_)⟩
    rw [he] at hu
    exact hu m ((hs.agrees.root m).trans hm)

lemma Steady.new {opt : Options} {w₀ : World} (hlo : 128 ≤ opt.blockSize) (hhi : opt.blockSize ≤ 2 ^ 20)
    (hfile : w₀.file = []) (hf : w₀.faults = none) (hnew : construct C opt pw w₀ = (.ok (), w)) :
    Steady C pw w {} .empty (fun _ => []) := by
  have hrel := related_new hlo hhi hfile hf hnew
  have hroots : w.storage.roots = .empty := SortedMap.ext (fun n => hrel.agrees.root n)
  refine ⟨hrel, ?_, fun _ _ hn => by cases hn⟩
  rw [hroots]
  exact ⟨by decide, fun _ _ hn => by cases hn⟩

/-- While no removal is stopped between freeing the record and saving the directory, and names fit their
length field, every name stands for the live record it was last given to; saving a snapshot never finds a
name without a record, and as long as no record has two names it changes no other page. -/
theorem namedRoots_honest {opt : Options} {w₀ w₁ : World} {es : List Event} (hlo : 128 ≤ opt.blockSize)
    (hhi : opt.blockSize ≤ 2 ^ 20) (hfile : w₀.file = []) (hf : w₀.faults = none)
    (hnew : construct C opt pw w₀ = (.ok (), w₁)) (hrun : Run (Tamed C pw) (w₁, {}) es (w, L)) :
    Honest L w.storage ∧
      (∀ objects page, ∃ w', MessageCache.saveSnapshot C objects page w = (.ok true, w') ∨
        ∃ e, MessageCache.saveSnapshot C objects page w = (.error e, w') ∧ IsIoFailure e) ∧
      (Run (TamedApart C pw) (w₁, {}) es (w, L) → ∀ objects page w',
        MessageCache.saveSnapshot C objects page w = (.ok true, w') →
          MessageCache.readSnapshot C page w' = .ok (some objects) ∧
            ∀ r ≠ page, MessageCache.readSnapshot C r w' = MessageCache.readSnapshot C r w) := by
  have hst := Steady.new hlo hhi hfile hf hnew
  obtain ⟨a, cont, h⟩ := hst.run (s := (w₁, {})) hrun
  refine ⟨h.honest_storage, fun objects page => ?_, fun hapart objects page w' hsave => ?_⟩
  · rcases h.saveSnapshot objects page with ⟨w', -, -, hs, -⟩ | ⟨e, w', hs, he⟩
    · exact ⟨w', Or.inl hs⟩
    · exact ⟨w', Or.inr ⟨e, hs, he⟩⟩
  · obtain ⟨a, cont, h, ha⟩ := hst.run_apart (s := (w₁, {})) .empty hapart
    rcases h.saveSnapshot objects page with ⟨w'', b, cont', hs, hsaved, h'⟩ | ⟨e, w'', hs, -⟩
    · obtain rfl := (Prod.mk.inj (hsave.symm.trans hs)).2
      refine ⟨?_, fun r hr => ?_⟩
      · rw [h'.agrees.readSnapshot h'.live, hsaved.page_self]
      · rw [h'.agrees.readSnapshot h'.live, h.agrees.readSnapshot h.live, hsaved.page_other h.live ha hr]
    · rw [hsave] at hs
      cases (Prod.mk.inj hs).1

end

/-! ### A removal stopped between its halves -/

def namedStore : World := runOps .transparent smallStore [.insert [] 1, .setRoot [] 1]

set_option maxRecDepth 10000 in
lemma step_namedStore : step .transparent (.setRoot [] 1) insertedStore = (.named, namedStore) :=
  Prod.ext (by decide) rfl

/-- The store opened again after the removal of its named record has been stopped after `k` file events. -/
def stoppedStore (k : ℕ) : World := (reopen .transparent [] smallOptions (crashed .transparent (.remove 1) k namedStore)).2

set_option maxRecDepth 10000 in
lemma stoppedStore_opens : reopen .transparent [] smallOptions (crashed .transparent (.remove 1) 1 namedStore) =
    (.ok (), stoppedStore 1) := Prod.ext (by decide) rfl

set_option maxRecDepth 10000 in
lemma stoppedStore_reopens : reopen .transparent [] smallOptions
    (crashed .transparent (.remove 1) 0 namedStore) = (.ok (), stoppedStore 0) :=
  Prod.ext (by decide) rfl

set_option maxRecDepth 10000 in
/-- The record is gone and its name is not; saving a snapshot under the name is refused from then on. -/
theorem namedRoots_dangle :
    ∃ es w L, Run (Advance .transparent []) (smallStore, {}) es (w, L) ∧ ¬Honest L w.storage ∧
      (MessageCache.saveSnapshot .transparent [] [] w).1 = .ok false := by
  refine ⟨[.call (.insert [] 1), .call (.setRoot [] 1), .stop (.remove 1) 1], stoppedStore 1, _,
    .cons (.call step_insertedStore (by decide))
      (.cons (.call step_namedStore (by decide))
        (.cons (.stop stoppedStore_opens) (.nil _))), fun hh => ?_, by decide⟩
  have hroot : root (stoppedStore 1).storage [] = some 1 := by decide
  have hgone : hasRecord (stoppedStore 1).storage 1 = false := by decide
  rw [(hh [] 1 hroot).1] at hgone
  cases hgone

def keptEvents : List Event := [.call (.insert [] 1), .call (.setRoot [] 1), .stop (.remove 1) 0]

set_option maxRecDepth 10000 in
lemma insertedStore_roots (n : Bytes) : insertedStore.storage.roots.find? n = none := by
  have he : insertedStore.storage.roots.entries = [] := by decide
  rw [SortedMap.find?, he]
  rfl

set_option maxRecDepth 10000 in
lemma keptEvents_run :
    ∃ L, Run (TamedApart .transparent []) (smallStore, {}) keptEvents (stoppedStore 0, L) := by
  have hfit : NamesFit (insertedStore.storage.roots.insert [] 1) := by
    refine ⟨by decide, fun n id hn => ?_⟩
    rw [SortedMap.find?_insert, insertedStore_roots] at hn
    split_ifs at hn with he
    rw [← he]
    decide
  exact ⟨_, .cons ⟨⟨.call step_insertedStore (by decide), trivial⟩, trivial⟩
    (.cons ⟨⟨.call step_namedStore (by decide), hfit⟩,
      fun m hm => by cases (insertedStore_roots m).symm.trans hm⟩
    (.cons ⟨⟨.stop stoppedStore_reopens, fun _ _ => Or.inl rfl⟩, trivial⟩ (.nil _)))⟩

def savedStore : World := (MessageCache.saveSnapshot .transparent [7] [] (stoppedStore 0)).2

set_option maxRecDepth 10000 in
lemma saveSnapshot_stoppedStore :
    MessageCache.saveSnapshot .transparent [7] [] (stoppedStore 0) = (.ok true, savedStore) := by
  refine Prod.ext (by decide +kernel) ?_
  rw [savedStore]

theorem namedRoots_honest_sample :
    ∃ L, Run (TamedApart .transparent []) (smallStore, {}) keptEvents (stoppedStore 0, L) ∧
      Honest L (stoppedStore 0).storage ∧
      MessageCache.readSnapshot .transparent [] savedStore = .ok (some [7]) := by
  obtain ⟨L, hrun⟩ := keptEvents_run
  have hh := namedRoots_honest (by decide) (by decide) rfl rfl construct_smallStore (hrun.mono fun _ _ _ h => h.1)
  exact ⟨L, hrun, hh.1, (hh.2.2 hrun _ _ _ saveSnapshot_stoppedStore).1⟩

end ChatDesktop.Storage
