import ChatDesktop.Chat.History
import ChatDesktop.Storage.FileRoom

namespace ChatDesktop.Chat

open Library Library.Program Storage MessageHistoryCache

structure Spending where
  calls : ℕ := 0
  bytes : ℕ := 0

namespace Spending

def add (x : Spending) (bytes : ℕ) : Spending := ⟨x.calls + 1, x.bytes + bytes⟩

/-- The most blocks that a call takes besides its bytes: it may remove every record, each with a new directory. -/
def overhead (n : ℕ) : ℕ := n * (directorySize 16 n + 1) + 1

def blocks (x : Spending) : ℕ := x.bytes + x.calls * overhead x.calls

def Fits (x : Spending) : Prop := x.blocks ≤ maxBlocks

instance (x : Spending) : Decidable x.Fits := inferInstanceAs (Decidable (_ ≤ _))

variable (x : Spending)

lemma overhead_mono {m n : ℕ} (h : m ≤ n) : overhead m ≤ overhead n := by
  have hdir : directorySize 16 m ≤ directorySize 16 n := Nat.add_le_add_left (Nat.mul_le_mul_right _ h) 4
  exact Nat.succ_le_succ (Nat.mul_le_mul h (Nat.succ_le_succ hdir))

lemma blocks_add (bytes : ℕ) : x.blocks + bytes + overhead (x.calls + 1) ≤ (x.add bytes).blocks := by
  have hmul := Nat.mul_le_mul_left x.calls (overhead_mono (Nat.le_add_right x.calls 1))
  simp only [blocks, add, Nat.add_mul, Nat.one_mul]
  omega

lemma blocks_le_add (bytes : ℕ) : x.blocks ≤ (x.add bytes).blocks := by
  have h := x.blocks_add bytes
  omega

lemma Fits.of_add {x : Spending} {bytes : ℕ} (h : (x.add bytes).Fits) : x.Fits := (x.blocks_le_add bytes).trans h

lemma save_le (bytes : ℕ) : x.blocks + bytes + directorySize 16 (x.calls + 1) + 2 ≤ (x.add bytes).blocks := by
  have h := x.blocks_add bytes
  have hpos : 1 * (directorySize 16 (x.calls + 1) + 1) ≤ (x.calls + 1) * (directorySize 16 (x.calls + 1) + 1) :=
    Nat.mul_le_mul_right _ (Nat.le_add_left 1 x.calls)
  rw [overhead] at h
  omega

lemma clear_le : x.blocks + x.calls * (directorySize 16 x.calls + 1) ≤ (x.add 0).blocks := by
  have h := x.blocks_add 0
  have hmono := overhead_mono (Nat.le_add_right x.calls 1)
  rw [overhead] at hmono
  omega

end Spending

/-! ### One file -/

def Within (P : Platform) (x : Spending) (w : World) : Prop :=
  ∃ a cont, Related P.crypto P.appSecretKey w a cont ∧ a.OnlyMessages ∧ RootNames a ∧ a.Small 16 x.calls ∧
    w.storage.nblocks ≤ x.blocks

section

variable {P : Platform} {x : Spending} {w : World} {root data : Bytes}

lemma Within.add (h : Within P x w) (bytes : ℕ) : Within P (x.add bytes) w := by
  obtain ⟨a, cont, hr, hmsg, hroots, hsmall, hle⟩ := h
  exact ⟨a, cont, hr, hmsg, hroots, hsmall.mono x.calls.le_succ, hle.trans (x.blocks_le_add bytes)⟩

lemma within_ofFile (P : Platform) (x : Spending) : OfFile P (Within P x) := by
  constructor
  · rintro w w' ⟨a, cont, hr, hmsg, hroots, hsmall, hle⟩ hs hf
    exact ⟨a, cont, hr.congr hs hf, hmsg, hroots, hsmall, hs ▸ hle⟩
  · rintro w s ⟨a, cont, hr, hmsg, hroots, hsmall, hle⟩ hf
    obtain ⟨w', hw', hr', hopen⟩ := hr.reopen (hr.storable_iff.mpr (namesFit_of_rootNames hr hroots)) {}
    refine ⟨w', ?_, a, cont, hr', hmsg, hroots, hsmall, hopen.le.trans hle⟩
    have hw : { w with faults := none } = w := by rw [← hf]
    rw [construct_put, ← hw]
    exact hw'

lemma within_newFile (P : Platform) (x : Spending) (hfile : w.file = []) (hf : w.faults = none) :
    ∃ w', LocalStorage.construct P.crypto {} P.appSecretKey w = (.ok (), w') ∧ Within P x w' := by
  have hlo : 128 ≤ ({} : Options).blockSize := by decide
  have hhi : ({} : Options).blockSize ≤ 2 ^ 20 := by decide
  obtain ⟨w', hw', -, -, -, -, -, -, hn, -⟩ := construct_new (C := P.crypto) P.appSecretKey hlo hhi hfile hf
  refine ⟨w', hw', .empty, _, related_new hlo hhi hfile hf hw', .empty, shows_empty.2.2,
    Store.Small.empty.mono (Nat.zero_le _), ?_⟩
  rw [hn]
  exact Nat.zero_le _

lemma Within.saveSnapshot (h : Within P x w) (hf : w.faults = none) (hroot : IsRoot root)
    (hfit : (x.add data.length).Fits) :
    ∃ w', Storage.MessageCache.saveSnapshot P.crypto data root w = (.ok true, w') ∧ Within P (x.add data.length) w' := by
  obtain ⟨a, cont, hr, hmsg, hroots, hsmall, hle⟩ := h
  have hsave := x.save_le data.length
  obtain ⟨w', b, cont', hw', hs, hr', hroom⟩ :=
    hr.saveSnapshot_fits ⟨hf, hle⟩ hsmall data hroot.length_le (hsave.trans hfit)
  exact ⟨w', hw', b, cont', hr', hs.onlyMessages hmsg, hroots.saved hs hroot, hs.small hsmall hroot.length_le,
    hroom.nblocks.trans hsave⟩

lemma Within.clear (h : Within P x w) (hf : w.faults = none) (hfit : (x.add 0).Fits) :
    ∃ w', Storage.MessageCache.clear P.crypto w = (.ok true, w') ∧ Within P (x.add 0) w' := by
  obtain ⟨a, cont, hr, hmsg, hroots, hsmall, hle⟩ := h
  obtain ⟨w', cont', hw', hr', hroom⟩ := hr.clear_fits ⟨hf, hle⟩ hsmall hmsg (x.clear_le.trans hfit)
  exact ⟨w', hw', .empty, cont', hr', .empty, shows_empty.2.2, Store.Small.empty.mono (Nat.zero_le _),
    hroom.nblocks.trans x.clear_le⟩

end

/-! ### The files of the cache -/

def Room (P : Platform) (x : Spending) (c : Cache) : Prop := ∀ path, HoldsBy P (Within P x) path c

section

variable {P : Platform} {x y : Spending} {c c' : Cache} {root : Bytes} {logicalName secret objects : QString}

lemma Room.initial (P : Platform) (x : Spending) (draws : ℕ) : Room P x { draws := draws } := fun _ =>
  ⟨List.nodup_nil, fun _ _ hfile hf => within_newFile P x hfile hf, fun _ _ hs => absurd hs List.not_mem_nil,
    fun h => by cases h⟩

lemma Room.once (h : Room P x c) : Once c := (h []).once

lemma Room.guarded {α : Type} {R : α → Prop} (h : Room P x c) (hxy : ∀ w, Within P x w → Within P y w)
    (path : Bytes) {p : Action α} (fallback : α)
    (hp : ∀ w, Within P x w → w.faults = none → ∃ a w', p w = (.ok a, w') ∧ R a ∧ Within P y w') :
    ∃ a c', MessageCache.guarded path fallback
      (MessageCache.openStore P path >>= fun s => MessageCache.use path s p) c = (a, c') ∧ R a ∧
      c'.caught = c.caught ∧ Room P y c' := by
  have hcases : ∀ s c', MessageCache.openStore P path c = (.ok s, c') → Within P x (c'.world path s) →
      (∃ a, ∃ _ : Unit, ∃ w', p (c'.world path s) = (.ok a, w') ∧ R a ∧ Within P y w') ∨
        ∃ e w', p (c'.world path s) = (.error e, w') ∧ False := by
    intro s c' _ hs
    obtain ⟨a, w', hw', ha, hy⟩ := hp _ hs rfl
    exact Or.inl ⟨a, (), w', hw', ha, hy⟩
  obtain ⟨a, -, c', hc', hcaught, -, ha, hh⟩ | ⟨e, c', -, he⟩ := (h path).useCases (J := fun _ => Within P y)
    (R := fun a _ => R a) (E := fun _ => False) (within_ofFile P x) (fun _ _ _ => within_ofFile P y) hcases
  · have helse := opened_elsewhere P path h.once p
    rw [hc'] at helse
    refine ⟨a, c', guarded_ok fallback hc', ha, hcaught, fun q => ?_⟩
    by_cases hq : q = path
    · exact hq ▸ hh
    · exact ((h q).elsewhere (within_ofFile P x) helse hq).imp hxy
  · exact he.elim

lemma Room.save (h : Room P x c) (logicalName secret : QString) (hroot : IsRoot root)
    (hfit : (x.add (P.toUtf8 objects).length).Fits) :
    ∃ c', MessageCache.saveSnapshot P objects logicalName secret root c = (true, c') ∧ c'.caught = c.caught ∧
      Room P (x.add (P.toUtf8 objects).length) c' := by
  obtain ⟨ok, c', hc', rfl, hcaught, hroom⟩ := h.guarded (R := fun ok => ok = true)
    (p := Storage.MessageCache.saveSnapshot P.crypto (P.toUtf8 objects) root) (fun w hw => hw.add _)
    (FileNameHelper.hexName P logicalName secret) false (fun w hw hf => by
      obtain ⟨w', hw', hy⟩ := hw.saveSnapshot hf hroot hfit
      exact ⟨true, w', hw', rfl, hy⟩)
  exact ⟨c', hc', hcaught, hroom⟩

lemma Room.read (h : Room P x c) (logicalName secret : QString) (root : Bytes) :
    (MessageCache.readSnapshot P logicalName secret root c).2.caught = c.caught ∧
      Room P x (MessageCache.readSnapshot P logicalName secret root c).2 := by
  obtain he | he := readSnapshot_snd P c logicalName secret root
  · rw [he]
    exact ⟨rfl, h⟩
  · obtain ⟨record, c', hc', -, hcaught, hroom⟩ := h.guarded (R := fun _ => True)
      (p := Prog.read (Storage.MessageCache.readSnapshot P.crypto root)) (fun _ hw => hw)
      (FileNameHelper.hexName P logicalName secret) none (fun w hw _ => by
        obtain ⟨a, cont, hr, hrest⟩ := hw
        exact ⟨a.page root, w, by rw [read_apply, hr.agrees.readSnapshot hr.live], trivial, a, cont, hr, hrest⟩)
    rw [he, hc']
    exact ⟨hcaught, hroom⟩

lemma Room.clear (h : Room P x c) (hfit : (x.add 0).Fits) :
    (MessageCache.clear P logicalName secret c).2.caught = c.caught ∧
      Room P (x.add 0) (MessageCache.clear P logicalName secret c).2 := by
  obtain he | he := clear_snd P c logicalName secret
  · rw [he]
    exact ⟨rfl, fun path => (h path).imp (fun w hw => hw.add 0)⟩
  · obtain ⟨ok, c', hc', -, hcaught, hroom⟩ := h.guarded (R := fun ok => ok = true)
      (p := Storage.MessageCache.clear P.crypto) (fun w hw => hw.add 0)
      (FileNameHelper.hexName P logicalName secret) false (fun w hw hf => by
        obtain ⟨w', hw', hy⟩ := hw.clear hf hfit
        exact ⟨true, w', hw', rfl, hy⟩)
    rw [he, hc']
    exact ⟨hcaught, hroom⟩

lemma Room.closeAll (h : Room P x c) : Room P x (MessageCache.closeAll c).2 := fun path => (h path).closeAll

end

/-! ### Histories -/

namespace History

variable (P : Platform) (h : History)

def spendPage (r : MessageDto) (x : Spending) : Spending :=
  (x.add (document P r).length).add
    (document P { noMessages 1 with messages := h.live.filter (fun message => !contains r message) }).length

def spendMessage (m : MessageItemDto) (x : Spending) : Spending :=
  x.add (document P { noMessages 1 with messages := putMessage m h.live }).length

end History

section

variable {P : Platform} {conv : Conversation} {c c' : Cache} {h : History} {x : Spending}

lemma Room.readPage (hroom : Room P x c) (conv : Conversation) {page : Int32} (hp : 1 ≤ page) :
    Room P x (readSnapshot P (snapshots P conv) page false c).2 := by
  have hrun : (readSnapshot P (snapshots P conv) page false c).2 =
      (MessageCache.readPage (snapshots P conv) page c).2 := rfl
  rw [hrun, MessageCache.readPage, if_neg (Int32.not_lt.mpr hp)]
  exact (hroom.read _ _ _).2

lemma Room.readLive (hroom : Room P x c) (conv : Conversation) :
    Room P x (readSnapshot P (snapshots P conv) 1 true c).2 := (hroom.read _ _ _).2

lemma Room.writePage (hroom : Room P x c) (hblank : conv.blank = false) {r : MessageDto} (hpage : 1 ≤ r.page)
    (hfit : (x.add (document P r).length).Fits) :
    ∃ c', writeSnapshot P (snapshots P conv) conv r false c = (true, c') ∧ c'.caught = c.caught ∧
      Room P (x.add (document P r).length) c' := by
  rw [writeSnapshot, hblank, if_neg Bool.false_ne_true, if_neg Bool.false_ne_true, MessageCache.savePage,
    if_neg (Int32.not_lt.mpr hpage)]
  exact hroom.save _ _ (Or.inr ⟨r.page, rfl⟩) hfit

lemma Room.writeLive (hroom : Room P x c) (hblank : conv.blank = false) {live : MessageDto}
    (hfit : (x.add (document P live).length).Fits) :
    ∃ c', writeSnapshot P (snapshots P conv) conv live true c = (true, c') ∧ c'.caught = c.caught ∧
      Room P (x.add (document P live).length) c' := by
  rw [writeSnapshot, hblank, if_neg Bool.false_ne_true, if_pos rfl, MessageCache.savePending]
  exact hroom.save _ _ (Or.inl rfl) hfit

lemma Stands.savePage_fits (hs : Stands P conv c h) (hroom : Room P x c) (hP : P.ReadsBack)
    (hblank : conv.blank = false) {r : MessageDto} (hpage : 1 ≤ r.page) (hfit : (h.spendPage P r x).Fits) :
    ∃ c', MessageHistoryCache.savePage P (snapshots P conv) conv r c = (true, c') ∧ c'.caught = c.caught ∧
      Stands P conv c' (h.savePage r) ∧ Room P (h.spendPage P r x) c' := by
  have hrun : ∃ c', MessageHistoryCache.savePage P (snapshots P conv) conv r c = (true, c') ∧
      c'.caught = c.caught ∧ Room P (h.spendPage P r x) c' := by
    obtain ⟨c₁, hc₁, hcaught₁, hroom₁⟩ := hroom.writePage hblank hpage hfit.of_add
    obtain ⟨saved, c₁', hc₁', hsaved, -⟩ := hs.writePage hP r
    obtain ⟨rfl, rfl⟩ := Prod.mk.inj (hc₁'.symm.trans hc₁)
    obtain ⟨c₂, hc₂, -, hcaught₂⟩ := (hsaved rfl).2.2.readLive
    have hroom₂ := hroom₁.readLive conv
    rw [hc₂] at hroom₂
    rw [MessageHistoryCache.savePage, Library.Simulation.bind_eq hc₁, if_pos rfl, Library.Simulation.bind_eq hc₂]
    split_ifs
    · exact ⟨c₂, rfl, hcaught₂.trans hcaught₁, fun path => (hroom₂ path).imp (fun w hw => hw.add _)⟩
    · obtain ⟨c₃, hc₃, hcaught₃, hroom₃⟩ := hroom₂.writeLive hblank hfit
      exact ⟨c₃, hc₃, hcaught₃.trans (hcaught₂.trans hcaught₁), hroom₃⟩
  obtain ⟨c', hc', hcaught, hroom'⟩ := hrun
  obtain ⟨ok, c'', hc'', hok, -⟩ := hs.savePage hP r
  obtain ⟨rfl, rfl⟩ := Prod.mk.inj (hc''.symm.trans hc')
  exact ⟨c'', hc'', hcaught, (hok rfl).2, hroom'⟩

lemma Stands.saveMessage_fits (hs : Stands P conv c h) (hroom : Room P x c) (hP : P.ReadsBack)
    (hblank : conv.blank = false) {m : MessageItemDto} (hfit : (h.spendMessage P m x).Fits) :
    ∃ c', MessageHistoryCache.saveMessage P (snapshots P conv) conv m c = (true, c') ∧ c'.caught = c.caught ∧
      Stands P conv c' (h.saveMessage m) ∧ Room P (h.spendMessage P m x) c' := by
  have hrun : ∃ c', MessageHistoryCache.saveMessage P (snapshots P conv) conv m c = (true, c') ∧
      c'.caught = c.caught ∧ Room P (h.spendMessage P m x) c' := by
    obtain ⟨c₁, hc₁, -, hcaught₁⟩ := hs.readLive
    have hroom₁ := hroom.readLive conv
    rw [hc₁] at hroom₁
    rw [MessageHistoryCache.saveMessage, Library.Simulation.bind_eq hc₁]
    obtain ⟨c₂, hc₂, hcaught₂, hroom₂⟩ := hroom₁.writeLive hblank hfit
    exact ⟨c₂, hc₂, hcaught₂.trans hcaught₁, hroom₂⟩
  obtain ⟨c', hc', hcaught, hroom'⟩ := hrun
  obtain ⟨ok, c'', hc'', hok, -⟩ := hs.saveMessage hP m
  obtain ⟨rfl, rfl⟩ := Prod.mk.inj (hc''.symm.trans hc')
  exact ⟨c'', hc'', hcaught, (hok rfl).2, hroom'⟩

lemma Room.readHistory (hroom : Room P x c) (conv : Conversation) {page : Int32} (hp : 1 ≤ page) :
    Room P x (MessageHistoryCache.read P (snapshots P conv) page c).2 := by
  have hpage := hroom.readPage conv hp
  have hrun : ∀ r c₁, readSnapshot P (snapshots P conv) page false c = (r, c₁) →
      (MessageHistoryCache.read P (snapshots P conv) page c).2 =
        if page = 1 then (readSnapshot P (snapshots P conv) 1 true c₁).2 else c₁ := by
    intro r c₁ hc₁
    rw [MessageHistoryCache.read, Library.Simulation.bind_eq hc₁]
    split_ifs <;> rfl
  rw [hrun _ _ rfl]
  split_ifs
  · exact hpage.readLive conv
  · exact hpage

end

end ChatDesktop.Chat
