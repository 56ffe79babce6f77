import ChatDesktop.Library.LinkedChain
import ChatDesktop.Storage.Writes
import Mathlib.Data.List.GetD

namespace ChatDesktop.Storage

open Library Library.Program Library.LinkedChain LocalStorage

def contNext (d : Disk) (i : ℕ) : Option ℕ :=
  (d i).bind (fun b => if b.type = 2 then some b.next else none)

def payload (d : Disk) (i : ℕ) : Bytes := ((d i).map Blk.data).getD []

def content (d : Disk) (is : List ℕ) : Bytes := is.flatMap (payload d)

lemma contNext_eq_some {d : Disk} {i c : ℕ} :
    contNext d i = some c ↔ ∃ b, d i = some b ∧ b.type = 2 ∧ b.next = c := by
  unfold contNext
  cases d i with
  | none => simp
  | some b =>
    by_cases hb : b.type = 2
    · simp [hb]
    · simp [hb]

lemma content_congr {d d' : Disk} {is : List ℕ} (h : ∀ i ∈ is, d' i = d i) :
    content d' is = content d is := by
  refine List.flatMap_congr (fun i hi => ?_)
  rw [payload, payload, h i hi]

section Read

variable {C : Crypto} {w : World} {is : List ℕ} {c id fuel : ℕ}

lemma readChain_cont (h : Linked (contNext (blocks C w)) 0 c is) (hid : id ∉ is)
    (hf : is.length ≤ fuel) : readChain C w id fuel c = .ok (content (blocks C w) is) := by
  induction is generalizing c fuel with
  | nil =>
    obtain rfl : c = 0 := h
    cases fuel <;> rfl
  | cons i is ih =>
    obtain ⟨rfl, hc, n, hn, hl⟩ := h
    obtain ⟨b, hb, ht, rfl⟩ := contNext_eq_some.mp hn
    simp only [List.mem_cons, not_or] at hid
    cases fuel with
    | zero => simp at hf
    | succ fuel =>
      have hr := ih hl hid.2 (by simpa using hf)
      have hne : ¬(b.type ≠ if c = id then 1 else 2) := by simp [ht, Ne.symm hid.1]
      rw [readChain, if_neg hc]
      simp only [readBlock_eq hb, bind, Except.bind, if_neg hne, hr]
      simp [content, payload, hb]

lemma readChain_head {b : Blk} (hb : blocks C w id = some b) (ht : b.type = 1)
    (h : Linked (contNext (blocks C w)) 0 b.next is) (hid : id ∉ is) (hf : is.length ≤ fuel) :
    readChain C w id (fuel + 1) id = .ok (content (blocks C w) (id :: is)) := by
  have h0 : id ≠ 0 := by
    rintro rfl
    simp [blocks_zero] at hb
  rw [readChain, if_neg h0]
  simp only [readBlock_eq hb, bind, Except.bind, ht, if_true, ne_eq, not_true_eq_false, if_false,
    readChain_cont h hid hf]
  simp [content, payload, hb]

lemma followChain_cont (h : Linked (contNext (blocks C w)) 0 c is) (hf : is.length ≤ fuel) :
    followChain C w fuel c = .ok is := by
  induction is generalizing c fuel with
  | nil =>
    obtain rfl : c = 0 := h
    cases fuel <;> rfl
  | cons i is ih =>
    obtain ⟨rfl, hc, n, hn, hl⟩ := h
    obtain ⟨b, hb, ht, rfl⟩ := contNext_eq_some.mp hn
    cases fuel with
    | zero => simp at hf
    | succ fuel =>
      rw [followChain, if_neg hc]
      simp only [readBlock_eq hb, bind, Except.bind, ih hl (by simpa using hf)]

end Read

/-! ### Splitting data into payloads -/

section Chunks

variable (s : LocalStorage) (data : Bytes)

lemma chunks_pos (n : ℕ) : 0 < chunks s n := by simp [chunks]

lemma chunks_mul (h : 0 < s.cap) (n : ℕ) : n ≤ chunks s n * s.cap := by
  have hd := Nat.div_add_mod (n + s.cap - 1) s.cap
  have hm := Nat.mod_lt (n + s.cap - 1) h
  have hc : (n + s.cap - 1) / s.cap ≤ chunks s n := le_max_right _ _
  have hle : s.cap * ((n + s.cap - 1) / s.cap) ≤ chunks s n * s.cap := by
    rw [Nat.mul_comm]
    exact Nat.mul_le_mul_right _ hc
  omega

lemma length_chunk (i : ℕ) : (chunk s data i).length ≤ s.cap := by
  rw [chunk, List.length_take]
  exact min_le_left _ _

lemma flatMap_chunk (n : ℕ) :
    (List.range n).flatMap (chunk s data) = data.take (n * s.cap) := by
  induction n with
  | zero => simp
  | succ n ih =>
    rw [List.range_succ, List.flatMap_append, ih, Nat.add_mul, Nat.one_mul, List.take_add]
    simp [chunk]

lemma flatMap_chunks (h : 0 < s.cap) :
    (List.range (chunks s data.length)).flatMap (chunk s data) = data := by
  rw [flatMap_chunk, List.take_of_length_le (chunks_mul s h _)]

end Chunks

/-! ### Writing a chain -/

def chainBlk (s : LocalStorage) (ids : List ℕ) (data : Bytes) (tag : UInt32) (j : ℕ) : Blk :=
  ⟨if j = 0 then 1 else 2, if j = 0 then tag else 0, ids.getD (j + 1) 0, chunk s data j⟩

def contEvents (s : LocalStorage) (ids : List ℕ) (data : Bytes) (tag : UInt32) : ℕ → List FileEvent
  | 0 | 1 => []
  | i + 2 => .write (ids.getD (i + 1) 0) (chainBlk s ids data tag (i + 1)) ::
      contEvents s ids data tag (i + 1)

def headEvents (s : LocalStorage) (ids : List ℕ) (data : Bytes) (tag : UInt32) : List FileEvent :=
  .write (ids.getD 0 0) (chainBlk s ids data tag 0) :: if s.opt.durable then [.sync] else []

def chainEvents (s : LocalStorage) (ids : List ℕ) (data : Bytes) (tag : UInt32) : List FileEvent :=
  contEvents s ids data tag ids.length ++
    ((if s.opt.durable ∧ 1 < ids.length then [.sync] else []) ++ headEvents s ids data tag)

section Events

variable {C : Crypto} {pw : Bytes} {w w' : World} {s : LocalStorage} {ids : List ℕ} {data : Bytes}
  {tag : UInt32} {m k j : ℕ} {d : Disk}

lemma ite_getD (ids : List ℕ) (j : ℕ) :
    (if j < ids.length then ids.getD j 0 else 0) = ids.getD j 0 := by
  split_ifs with h
  · rfl
  · rw [List.getD_eq_default _ _ (by omega)]

lemma writeContinuations_eq (tag : UInt32) (k : ℕ) :
    writeContinuations C s ids data k = perform C (contEvents s ids data tag k) := by
  induction k using contEvents.induct with
  | case1 => rfl
  | case2 => rfl
  | case3 i ih => simp only [writeContinuations, contEvents, perform, ih, ite_getD, chainBlk, Nat.succ_ne_zero, if_false]

lemma perform_singleton_sync : perform C [.sync] = synceFd := by
  funext w
  simp only [perform, bind_apply]
  rcases synceFd w with ⟨_ | _, _⟩ <;> rfl

lemma writeChain_eq (w : World) (ids : List ℕ) (data : Bytes) (tag : UInt32) :
    writeChain C ids data tag w = perform C (chainEvents w.storage ids data tag) w := by
  have hsync : ∀ p : Prop, [Decidable p] →
      Prog.when p synceFd = perform C (if p then [.sync] else []) := by
    intro p _
    by_cases hp : p
    · rw [when_pos hp, if_pos hp, perform_singleton_sync]
    · rw [when_neg hp, if_neg hp]
      rfl
  simp only [writeChain, get_bind_apply, hsync, writeContinuations_eq tag, chainEvents, headEvents,
    perform_append, perform, ite_getD, chainBlk, if_true]

lemma mem_contEvents {id : ℕ} {b : Blk} (h : .write id b ∈ contEvents s ids data tag k) :
    ∃ j, 1 ≤ j ∧ j < k ∧ id = ids.getD j 0 ∧ b = chainBlk s ids data tag j := by
  induction k using contEvents.induct with
  | case1 => simp [contEvents] at h
  | case2 => simp [contEvents] at h
  | case3 i ih =>
    rw [contEvents, List.mem_cons] at h
    rcases h with h | h
    · obtain ⟨rfl, rfl⟩ := FileEvent.write.inj h
      exact ⟨i + 1, by omega, by omega, rfl, rfl⟩
    · obtain ⟨j, h1, h2, h3⟩ := ih h
      exact ⟨j, h1, by omega, h3⟩

lemma mem_chainEvents {id : ℕ} {b : Blk} (hn : 0 < ids.length)
    (h : .write id b ∈ chainEvents s ids data tag) :
    ∃ j, j < ids.length ∧ id = ids.getD j 0 ∧ b = chainBlk s ids data tag j := by
  simp only [chainEvents, headEvents, List.mem_append, List.mem_cons] at h
  rcases h with h | h | h | h
  · obtain ⟨j, -, hj, hh⟩ := mem_contEvents h
    exact ⟨j, hj, hh⟩
  · split_ifs at h <;> simp at h
  · obtain ⟨rfl, rfl⟩ := FileEvent.write.inj h
    exact ⟨0, hn, rfl, rfl⟩
  · split_ifs at h <;> simp at h

lemma mem_contEvents_of_lt (h1 : 1 ≤ j) (hj : j < k) :
    .write (ids.getD j 0) (chainBlk s ids data tag j) ∈ contEvents s ids data tag k := by
  induction k using contEvents.induct with
  | case1 => omega
  | case2 => omega
  | case3 i ih =>
    rw [contEvents]
    by_cases hji : j = i + 1
    · exact hji ▸ List.mem_cons_self
    · exact List.mem_cons_of_mem _ (ih (by omega))

lemma mem_chainEvents_of_lt (hj : j < ids.length) :
    .write (ids.getD j 0) (chainBlk s ids data tag j) ∈ chainEvents s ids data tag := by
  rw [chainEvents, List.mem_append, List.mem_append]
  by_cases h0 : j = 0
  · rw [h0]
    exact Or.inr (Or.inr List.mem_cons_self)
  · exact Or.inl (mem_contEvents_of_lt (by omega) hj)

lemma getD_mem (hj : j < ids.length) : ids.getD j 0 ∈ ids := by
  rw [List.getD_eq_getElem _ _ hj]
  exact List.getElem_mem hj

lemma getD_inj (hn : ids.Nodup) {i j : ℕ} (hi : i < ids.length) (hj : j < ids.length)
    (h : ids.getD i 0 = ids.getD j 0) : i = j := by
  rw [List.getD_eq_getElem _ _ hi, List.getD_eq_getElem _ _ hj] at h
  exact (hn.getElem_inj_iff).mp h

lemma contEvents_apply (hn : ids.Nodup) (hk : k ≤ ids.length) (h1 : 1 ≤ j) (hj : j < k) :
    applyEvents (contEvents s ids data tag k) d (ids.getD j 0) = some (chainBlk s ids data tag j) := by
  induction k using contEvents.induct generalizing d with
  | case1 => omega
  | case2 => omega
  | case3 i ih =>
    rw [contEvents, applyEvents]
    by_cases hji : j = i + 1
    · subst hji
      rw [applyEvents_of_not_mem, Function.update_self]
      intro id b hm he
      obtain ⟨j', h1', hj', rfl, -⟩ := mem_contEvents hm
      have := getD_inj hn (by omega) (by omega) he
      omega
    · exact ih (by omega) (by omega)

lemma chainEvents_apply (hn : ids.Nodup) (hj : j < ids.length) :
    applyEvents (chainEvents s ids data tag) d (ids.getD j 0) = some (chainBlk s ids data tag j) := by
  have hsync : ∀ (p : Prop) [Decidable p] (d : Disk),
      applyEvents (if p then [.sync] else []) d = d := by
    intro p _ d
    split_ifs <;> rfl
  rw [chainEvents, applyEvents_append, applyEvents_append, headEvents, applyEvents, hsync, hsync]
  by_cases h0 : j = 0
  · rw [h0, Function.update_self]
  · rw [Function.update_of_ne (fun he => h0 (getD_inj hn hj (by omega) he))]
    exact contEvents_apply hn le_rfl (by omega) hj

lemma chainEvents_frame (hn : 0 < ids.length) {i : ℕ} (hi : i ∉ ids) {es : List FileEvent}
    (hs : ∀ e ∈ es, e ∈ chainEvents s ids data tag) : applyEvents es d i = d i := by
  refine applyEvents_of_not_mem (fun id b hm he => hi ?_)
  obtain ⟨j, hj, rfl, -⟩ := mem_chainEvents hn (hs _ hm)
  exact he ▸ getD_mem hj

lemma Valid.mono {cap : ℕ} {known known' : ℕ → Prop} {es : List FileEvent}
    (h : ∀ i, known i → known' i) (hv : Valid cap known es) : Valid cap known' es := by
  induction es generalizing known known' with
  | nil => trivial
  | cons e es ih =>
    cases e with
    | write id b =>
      obtain ⟨h1, h2, h3, h4, h5⟩ := hv
      exact ⟨h1, h2, h3, h _ h4, ih (fun i hi => hi.imp_right (h i)) h5⟩
    | sync => exact ih h hv

lemma chainBlk_type (j : ℕ) : (chainBlk s ids data tag j).type ≤ 2 := by
  by_cases h : j = 0 <;> simp only [chainBlk, h, if_true, if_false] <;> decide

lemma contEvents_valid {known : ℕ → Prop} {fs : List FileEvent} (hpos : ∀ i ∈ ids, 0 < i)
    (hk : k ≤ ids.length) (hnext : known (ids.getD k 0))
    (hfs : Valid s.cap (fun i => (∃ j, 1 ≤ j ∧ j < k ∧ i = ids.getD j 0) ∨ known i) fs) :
    Valid s.cap known (contEvents s ids data tag k ++ fs) := by
  induction k using contEvents.induct generalizing known with
  | case1 => exact hfs.mono (fun i hi => hi.resolve_left (by rintro ⟨j, h1, h2, -⟩; omega))
  | case2 => exact hfs.mono (fun i hi => hi.resolve_left (by rintro ⟨j, h1, h2, -⟩; omega))
  | case3 i ih =>
    refine ⟨hpos _ (getD_mem (by omega)), chainBlk_type _, length_chunk _ _ _, hnext, ?_⟩
    refine ih (by omega) (Or.inl rfl) (hfs.mono (fun c hc => ?_))
    rcases hc with ⟨j, h1, h2, rfl⟩ | hc
    · by_cases hj : j = i + 1
      · exact Or.inr (Or.inl (by rw [hj]))
      · exact Or.inl ⟨j, h1, by omega, rfl⟩
    · exact Or.inr (Or.inr hc)

lemma chainEvents_valid (hn : 0 < ids.length) (hpos : ∀ i ∈ ids, 0 < i) :
    Valid s.cap (· = 0) (chainEvents s ids data tag) := by
  refine contEvents_valid hpos le_rfl (List.getD_eq_default _ _ le_rfl) ?_
  have hh : Valid s.cap (fun i => (∃ j, 1 ≤ j ∧ j < ids.length ∧ i = ids.getD j 0) ∨ i = 0)
      (headEvents s ids data tag) := by
    refine ⟨hpos _ (getD_mem hn), chainBlk_type _, length_chunk _ _ _, ?_, ?_⟩
    · by_cases h1 : 1 < ids.length
      · exact Or.inl ⟨1, le_rfl, h1, rfl⟩
      · exact Or.inr (List.getD_eq_default _ _ (by simpa using h1))
    · split_ifs <;> trivial
  split_ifs
  · exact hh
  · exact hh

lemma linked_drop (hpos : ∀ i ∈ ids, 0 < i)
    (hd : ∀ j, j < ids.length → d (ids.getD j 0) = some (chainBlk s ids data tag j)) (j : ℕ)
    (h1 : 1 ≤ j) :
    Linked (contNext d) 0 (ids.getD j 0) (ids.drop j) := by
  by_cases hj : j < ids.length
  · rw [List.drop_eq_getElem_cons hj, List.getD_eq_getElem _ _ hj]
    refine ⟨rfl, by have := hpos _ (List.getElem_mem hj); omega, ids.getD (j + 1) 0, ?_,
      linked_drop hpos hd (j + 1) (by omega)⟩
    refine contNext_eq_some.mpr ⟨chainBlk s ids data tag j, ?_, ?_, rfl⟩
    · rw [← List.getD_eq_getElem _ 0 hj, hd j hj]
    · simp [chainBlk, show j ≠ 0 by omega]
  · rw [List.drop_eq_nil_of_le (by omega), List.getD_eq_default _ _ (by omega)]
    exact Linked.nil
termination_by ids.length - j

lemma content_chain (hcap : 0 < s.cap) (hlen : ids.length = chunks s data.length)
    (hd : ∀ j, j < ids.length → d (ids.getD j 0) = some (chainBlk s ids data tag j)) :
    content d ids = data := by
  have hm : ids.map (payload d) = (List.range ids.length).map (chunk s data) := by
    refine List.ext_getElem (by simp) (fun j h1 _ => ?_)
    have hj : j < ids.length := by simpa using h1
    rw [List.getElem_map, List.getElem_map, List.getElem_range, payload,
      ← List.getD_eq_getElem _ 0 hj, hd j hj]
    rfl
  rw [content, List.flatMap_def, hm, ← List.flatMap_def, hlen, flatMap_chunks s data hcap]

end Events

end ChatDesktop.Storage
