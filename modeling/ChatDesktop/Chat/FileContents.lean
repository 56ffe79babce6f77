import ChatDesktop.Chat.HistoryCache
import Mathlib.Data.Finset.Card
import Mathlib.Data.Nat.Digits.Defs

namespace ChatDesktop.Chat

open Library Library.Program Storage

/-! ### The roots of a file fit its directory -/

def IsRoot (n : Bytes) : Prop := n = MessageCache.pendingRoot ∨ ∃ page : Int32, n = MessageCache.pageRoot page

lemma toNat_toInt_lt (page : Int32) : page.toInt.toNat < 2 ^ 31 := by
  have := page.toInt_lt
  omega

lemma IsRoot.length_le {n : Bytes} (h : IsRoot n) : n.length ≤ 16 := by
  obtain rfl | ⟨page, rfl⟩ := h
  · exact le_of_eq rfl
  · rw [MessageCache.pageRoot, List.length_map]
    have hlt : page.toInt.toNat < 10 ^ 10 := (toNat_toInt_lt page).trans (by norm_num)
    exact (Nat.toDigits_length 10 _ 10 (by norm_num) hlt).trans (by norm_num)

lemma length_le_of_isRoot {ns : List Bytes} (hnodup : ns.Nodup) (h : ∀ n ∈ ns, IsRoot n) :
    ns.length ≤ 2 ^ 31 + 1 := by
  let digits : ℕ → Bytes := fun k => (Nat.toDigits 10 k).map (fun c => UInt8.ofNat c.toNat)
  have hsub : ns.toFinset ⊆ insert MessageCache.pendingRoot ((Finset.range (2 ^ 31)).image digits) := by
    intro n hn
    rw [Finset.mem_insert, Finset.mem_image]
    obtain rfl | ⟨page, rfl⟩ := h n (List.mem_toFinset.mp hn)
    · exact Or.inl rfl
    · exact Or.inr ⟨page.toInt.toNat, Finset.mem_range.mpr (toNat_toInt_lt page), rfl⟩
  have hcard := (Finset.card_le_card hsub).trans (Finset.card_insert_le _ _)
  have himage : ((Finset.range (2 ^ 31)).image digits).card ≤ 2 ^ 31 :=
    Finset.card_image_le.trans (le_of_eq (Finset.card_range _))
  rw [List.toFinset_card_of_nodup hnodup] at hcard
  exact hcard.trans (Nat.add_le_add_right himage 1)

/-! ### One open store -/

section

variable {P : Platform} {w w' : World} {pages : Bytes → Option Bytes} {root : Bytes}

def Keeping (P : Platform) (Q : Store → Prop) (w : World) : Prop :=
  ∃ a cont, Related P.crypto P.appSecretKey w a cont ∧ Q a

def RootNames (a : Store) : Prop := ∀ n, (a.root n).isSome = true → IsRoot n

def Contents (P : Platform) (w : World) (pages : Bytes → Option Bytes) : Prop :=
  ∃ a cont, Related P.crypto P.appSecretKey w a cont ∧ a.RootsApart ∧ a.page = pages ∧
    ∀ n, (a.root n).isSome = true → IsRoot n

lemma Contents.readSnapshot (h : Contents P w pages) (root : Bytes) :
    Storage.MessageCache.readSnapshot P.crypto root w = .ok (pages root) := by
  obtain ⟨a, cont, hr, -, rfl, -⟩ := h
  exact hr.agrees.readSnapshot hr.live root

section

variable {Q : Store → Prop}

lemma Keeping.congr (h : Keeping P Q w) (hs : w'.storage = w.storage) (hf : w'.file = w.file) : Keeping P Q w' := by
  obtain ⟨a, cont, hr, ha⟩ := h
  exact ⟨a, cont, hr.congr hs hf, ha⟩

lemma namesFit_of_rootNames {a : Store} {cont : ℕ → List ℕ} (hr : Related P.crypto P.appSecretKey w a cont)
    (hroots : RootNames a) : NamesFit w.storage.roots := by
  have hname : ∀ n id, w.storage.roots.find? n = some id → IsRoot n := by
    intro n id hn
    have hroot : a.root n = some id := (hr.agrees.root n).symm.trans hn
    exact hroots n (by rw [hroot]; rfl)
  refine ⟨?_, fun n id hn => (hname n id hn).length_le.trans_lt (by norm_num)⟩
  have hlen := length_le_of_isRoot (SortedMap.keys_nodup w.storage.roots) (fun n hn => by
    obtain ⟨id, hid⟩ := SortedMap.mem_keys.mp hn
    exact hname n id hid)
  rw [SortedMap.length_keys] at hlen
  exact hlen.trans_lt (by norm_num)

lemma construct_put (C : Crypto) (opt : Options) (pw : Bytes) (w : World) (s : LocalStorage) :
    LocalStorage.construct C opt pw (w.put s) = LocalStorage.construct C opt pw w := rfl

lemma Keeping.construct (hQ : ∀ a, Q a → RootNames a) (h : Keeping P Q w) (s : LocalStorage) (hf : w.faults = none) :
    ∃ w', LocalStorage.construct P.crypto {} P.appSecretKey (w.put s) = (.ok (), w') ∧ Keeping P Q w' := by
  obtain ⟨a, cont, hr, ha⟩ := h
  have hfit := namesFit_of_rootNames hr (hQ a ha)
  obtain ⟨w', hw', hr', -⟩ := hr.reopen (hr.storable_iff.mpr hfit) {}
  refine ⟨w', ?_, a, cont, hr', ha⟩
  have hw : { w with faults := none } = w := by rw [← hf]
  rw [construct_put, ← hw]
  exact hw'

lemma construct_newFile (P : Platform) (hfile : w.file = []) (hf : w.faults = none) :
    ∃ w', LocalStorage.construct P.crypto {} P.appSecretKey w = (.ok (), w') ∧ Keeping P (· = .empty) w' := by
  obtain ⟨w', hw', -⟩ := construct_new (C := P.crypto) P.appSecretKey
    (show 128 ≤ ({} : Options).blockSize by decide) (by decide) hfile hf
  exact ⟨w', hw', .empty, _, related_new (by decide) (by decide) hfile hf hw', rfl⟩

lemma Keeping.imp {Q' : Store → Prop} (h : Keeping P Q w) (hQ : ∀ a, Q a → Q' a) : Keeping P Q' w := by
  obtain ⟨a, cont, hr, ha⟩ := h
  exact ⟨a, cont, hr, hQ a ha⟩

end

def Shows (pages : Bytes → Option Bytes) (a : Store) : Prop := a.RootsApart ∧ a.page = pages ∧ RootNames a

lemma contents_iff : Contents P w pages ↔ Keeping P (Shows pages) w := Iff.rfl

lemma shows_empty : Shows (fun _ => none) .empty := ⟨.empty, rfl, fun n hn => by cases hn⟩

lemma RootNames.saved {a b : Store} {objects : Bytes} (h : RootNames a) (hs : Store.Saved root objects a b)
    (hroot : IsRoot root) : RootNames b := by
  intro n hn
  by_cases he : n = root
  · exact he ▸ hroot
  · refine h n ?_
    cases hs with
    | new => simpa only [Store.name, Store.put, Function.update_of_ne he] using hn
    | old => exact hn

lemma Shows.saved {a b : Store} {objects : Bytes} (h : Shows pages a) (hl : a.RootsLive)
    (hs : Store.Saved root objects a b) (hroot : IsRoot root) : Shows (Function.update pages root (some objects)) b := by
  obtain ⟨hapart, rfl, hroots⟩ := h
  refine ⟨hs.apart hl hapart, ?_, hroots.saved hs hroot⟩
  funext n
  by_cases hn : n = root
  · rw [hn, Function.update_self, hs.page_self]
  · rw [Function.update_of_ne hn, hs.page_other hl hapart hn]

lemma Keeping.saveSnapshot {Q Q' : Store → Prop} {objects : Bytes} (h : Keeping P Q w)
    (hQ : ∀ a b, Q a → a.RootsLive → Store.Saved root objects a b → Q' b) :
    (∃ w', Storage.MessageCache.saveSnapshot P.crypto objects root w = (.ok true, w') ∧ Keeping P Q' w') ∨
      ∃ e w', Storage.MessageCache.saveSnapshot P.crypto objects root w = (.error e, w') ∧ IsIoFailure e := by
  obtain ⟨a, cont, hr, ha⟩ := h
  obtain ⟨w', b, cont', hw', hs, hr'⟩ | hfail := hr.saveSnapshot objects root
  · exact Or.inl ⟨w', hw', b, cont', hr', hQ a b ha hr.live hs⟩
  · exact Or.inr hfail

lemma Contents.saveSnapshot (h : Contents P w pages) (hroot : IsRoot root) (objects : Bytes) :
    (∃ w', Storage.MessageCache.saveSnapshot P.crypto objects root w = (.ok true, w') ∧
      Contents P w' (Function.update pages root (some objects))) ∨
      ∃ e w', Storage.MessageCache.saveSnapshot P.crypto objects root w = (.error e, w') ∧ IsIoFailure e :=
  (contents_iff.mp h).saveSnapshot (fun _ _ ha hl hs => ha.saved hl hs hroot)

lemma Keeping.clear {Q : Store → Prop} (h : Keeping P Q w) (hQ : ∀ a, Q a → a.OnlyMessages) :
    (∃ w', Storage.MessageCache.clear P.crypto w = (.ok true, w') ∧ Keeping P (· = .empty) w') ∨
      ∃ e w', Storage.MessageCache.clear P.crypto w = (.error e, w') ∧ IsIoFailure e := by
  obtain ⟨a, cont, hr, ha⟩ := h
  obtain ⟨w', cont', hw', hr'⟩ | hfail := hr.clear (hQ a ha)
  · exact Or.inl ⟨w', hw', .empty, cont', hr', rfl⟩
  · exact Or.inr hfail

end

/-! ### The cache -/

section

variable {P : Platform} {path q : Bytes} {c c' : Cache} {pages : Bytes → Option Bytes} {s : LocalStorage}
  {rest : List (Bytes × LocalStorage)}

def Once (c : Cache) : Prop := (c.openStores.map Prod.fst).Nodup

/-- The file of `path` has these snapshots, in the store that is open for it or in the one closed last. -/
structure Holds (P : Platform) (path : Bytes) (c : Cache) (pages : Bytes → Option Bytes) : Prop where
  once : Once c
  missing : c.files path = none → pages = fun _ => none
  closed : c.files path = none → ∀ s, (path, s) ∉ c.openStores
  kept : (c.files path).isSome = true →
    ∃ s, Contents P (c.world path s) pages ∧ ∀ s', (path, s') ∈ c.openStores → s' = s

/-- Where the file of `path` aside, nothing has changed; some stores may have been closed. -/
structure Elsewhere (path : Bytes) (c c' : Cache) : Prop where
  once : Once c'
  files : ∀ q, q ≠ path → c'.files q = c.files q
  stores : ∀ q s, q ≠ path → (q, s) ∈ c'.openStores → (q, s) ∈ c.openStores

lemma Elsewhere.refl (hc : Once c) : Elsewhere path c c := ⟨hc, fun _ _ => rfl, fun _ _ _ hs => hs⟩

structure OfFile (P : Platform) (I : World → Prop) : Prop where
  congr : ∀ w w', I w → w'.storage = w.storage → w'.file = w.file → I w'
  reopen : ∀ w s, I w → w.faults = none →
    ∃ w', LocalStorage.construct P.crypto {} P.appSecretKey (w.put s) = (.ok (), w') ∧ I w'

/-- The file of `path` has the property, in the store that is open for it or in the one closed last; so has
a new one. -/
structure HoldsBy (P : Platform) (I : World → Prop) (path : Bytes) (c : Cache) : Prop where
  once : Once c
  missing : c.files path = none → ∀ w : World, w.file = [] → w.faults = none →
    ∃ w', LocalStorage.construct P.crypto {} P.appSecretKey w = (.ok (), w') ∧ I w'
  closed : c.files path = none → ∀ s, (path, s) ∉ c.openStores
  kept : (c.files path).isSome = true →
    ∃ s, I (c.world path s) ∧ ∀ s', (path, s') ∈ c.openStores → s' = s

lemma HoldsBy.elsewhere {I : World → Prop} (hI : OfFile P I) (h : HoldsBy P I q c) (he : Elsewhere path c c')
    (hq : q ≠ path) : HoldsBy P I q c' := by
  refine ⟨he.once, fun hf => h.missing ((he.files q hq).symm.trans hf),
    fun hf s hs => h.closed ((he.files q hq).symm.trans hf) s (he.stores q s hq hs), fun hf => ?_⟩
  rw [he.files q hq] at hf
  obtain ⟨s, hc, hs⟩ := h.kept hf
  refine ⟨s, hI.congr _ _ hc rfl ?_, fun s' hs' => hs s' (he.stores q s' hq hs')⟩
  simp only [Cache.world, he.files q hq]

lemma keeping_ofFile {Q : Store → Prop} (hQ : ∀ a, Q a → RootNames a) : OfFile P (Keeping P Q) :=
  ⟨fun _ _ h hs hf => h.congr hs hf, fun _ s h hf => h.construct hQ s hf⟩

lemma HoldsBy.imp {I J : World → Prop} (h : HoldsBy P I path c) (hIJ : ∀ w, I w → J w) : HoldsBy P J path c := by
  refine ⟨h.once, fun hf w hfile hfaults => ?_, h.closed, fun hf => ?_⟩
  · obtain ⟨w', hw', hI⟩ := h.missing hf w hfile hfaults
    exact ⟨w', hw', hIJ w' hI⟩
  · obtain ⟨s, hs, hone⟩ := h.kept hf
    exact ⟨s, hIJ _ hs, hone⟩

lemma contents_ofFile (P : Platform) (pages : Bytes → Option Bytes) : OfFile P (fun w => Contents P w pages) :=
  keeping_ofFile (fun _ ha => ha.2.2)

lemma HoldsBy.newFile {Q : Store → Prop} (honce : Once c) (hf : c.files path = none)
    (hclosed : ∀ s, (path, s) ∉ c.openStores) (hempty : Q .empty) : HoldsBy P (Keeping P Q) path c := by
  refine ⟨honce, fun _ w hfile hfaults => ?_, fun _ => hclosed, fun h => ?_⟩
  · obtain ⟨w', hw', hk⟩ := construct_newFile P hfile hfaults
    exact ⟨w', hw', hk.imp (fun a ha => ha ▸ hempty)⟩
  · rw [hf] at h
    cases h

lemma Holds.holdsBy (h : Holds P path c pages) : HoldsBy P (fun w => Contents P w pages) path c := by
  refine ⟨h.once, fun hf w hfile hfaults => ?_, h.closed, h.kept⟩
  rw [h.missing hf]
  obtain ⟨w', hw', hk⟩ := construct_newFile P hfile hfaults
  exact ⟨w', hw', contents_iff.mpr (hk.imp (fun a ha => ha ▸ shows_empty))⟩

lemma HoldsBy.missing_none {I : World → Prop} {root : Bytes} {record : Option Bytes} (h : HoldsBy P I path c)
    (hf : c.files path = none)
    (hread : ∀ w, I w → Storage.MessageCache.readSnapshot P.crypto root w = .ok record) : record = none := by
  have hfile : (c.world path { opt := {} }).file = [] := by simp only [Cache.world, hf, Option.getD_none]
  obtain ⟨w, hw, hI⟩ := h.missing hf _ hfile rfl
  obtain ⟨w', hw', a, cont, hr, rfl⟩ := construct_newFile P hfile rfl
  obtain rfl : w = w' := congrArg Prod.snd (hw.symm.trans hw')
  exact Except.ok.inj ((hread w hI).symm.trans (hr.agrees.readSnapshot hr.live root))

lemma HoldsBy.holds (h : HoldsBy P (fun w => Contents P w pages) path c) : Holds P path c pages :=
  ⟨h.once, fun hf => funext fun root => h.missing_none hf (fun _ hw => hw.readSnapshot root), h.closed, h.kept⟩

lemma Holds.elsewhere (h : Holds P q c pages) (he : Elsewhere path c c') (hq : q ≠ path) : Holds P q c' pages :=
  (h.holdsBy.elsewhere (contents_ofFile P pages) he hq).holds

/-- Open stores that remain when that of `path` is taken out. -/
structure Others (path : Bytes) (c : Cache) (rest : List (Bytes × LocalStorage)) : Prop where
  sub : List.Sublist rest c.openStores
  apart : ∀ s, (path, s) ∉ rest

lemma Others.once (h : Others path c rest) (hc : Once c) (s : LocalStorage) :
    (((path, s) :: rest).map Prod.fst).Nodup := by
  rw [List.map_cons, List.nodup_cons]
  refine ⟨fun hm => ?_, List.Nodup.sublist (h.sub.map _) hc⟩
  obtain ⟨⟨_, s'⟩, hs', rfl⟩ := List.mem_map.mp hm
  exact h.apart s' hs'

lemma Others.dropLast (h : Others path c rest) : Others path c rest.dropLast :=
  ⟨(List.dropLast_sublist rest).trans h.sub, fun s hs => h.apart s (List.mem_of_mem_dropLast hs)⟩

/-- The store of `path` is the first of the open ones. -/
structure Front (path : Bytes) (s : LocalStorage) (c c' : Cache) : Prop where
  stores : ∃ rest, c'.openStores = (path, s) :: rest ∧ Others path c rest
  files : ∀ q, q ≠ path → c'.files q = c.files q
  caught : c'.caught = c.caught

lemma Front.elsewhere (h : Front path s c c') (hc : Once c) : Elsewhere path c c' := by
  obtain ⟨rest, hst, ho⟩ := h.stores
  refine ⟨by rw [Once, hst]; exact ho.once hc s, h.files, fun q s' hq hs' => ?_⟩
  rw [hst] at hs'
  obtain he | hm := List.mem_cons.mp hs'
  · exact absurd (Prod.mk.inj he).1 hq
  · exact ho.sub.subset hm

lemma openNew_elsewhere (ho : Others path c rest) (hc : Once c) : ∀ r c', MessageCache.openNew P path rest c = (r, c') →
    (∃ s, r = .ok s ∧ Front path s c c') ∨ ∃ e, r = .error e ∧ Elsewhere path c c' := by
  intro r c' hr
  rw [MessageCache.openNew] at hr
  rcases hw : LocalStorage.construct P.crypto {} P.appSecretKey (c.world path { opt := {} }) with ⟨e | u, w⟩
  · rw [hw] at hr
    obtain ⟨rfl, rfl⟩ := Prod.mk.inj hr
    exact Or.inr ⟨e, rfl, List.Nodup.sublist (ho.sub.map _) hc, fun q hq => Function.update_of_ne hq _ _,
      fun q s _ hs => ho.sub.subset hs⟩
  · rw [hw] at hr
    obtain ⟨rfl, rfl⟩ := Prod.mk.inj hr
    refine Or.inl ⟨w.storage, rfl, ⟨_, rfl, ?_⟩, fun q hq => Function.update_of_ne hq _ _, rfl⟩
    split_ifs
    · exact ho.dropLast
    · exact ho

variable (P path) in
lemma openStore_cases (hc : Once c) :
    (∃ s rest, MessageCache.openStore P path c = (.ok s, { c with openStores := (path, s) :: rest }) ∧
      Others path c rest ∧ (path, s) ∈ c.openStores ∧ (c.files path).isSome = true) ∨
    ∃ rest, MessageCache.openStore P path c = MessageCache.openNew P path rest c ∧ Others path c rest := by
  have hfound : ∀ o, c.openStores.find? (fun o => decide (o.1 = path)) = some o → o ∈ c.openStores ∧ o.1 = path :=
    fun o ho => ⟨List.mem_of_find?_eq_some ho, by simpa using List.find?_some ho⟩
  rw [MessageCache.openStore]
  cases hf : c.openStores.find? (fun o => decide (o.1 = path)) with
  | none =>
    refine Or.inr ⟨c.openStores, rfl, List.Sublist.refl _, fun s hs => ?_⟩
    simpa using List.find?_eq_none.mp hf (path, s) hs
  | some o =>
    obtain ⟨ho, rfl⟩ := hfound o hf
    have hothers : Others o.1 c (c.openStores.eraseP (fun o' => decide (o'.1 = o.1))) := by
      refine ⟨List.eraseP_sublist, fun s hs => ?_⟩
      obtain ⟨a, l₁, l₂, hbefore, ha, hl, he⟩ :=
        List.exists_of_eraseP (p := fun o' : Bytes × LocalStorage => decide (o'.1 = o.1)) ho (decide_eq_true rfl)
      rw [he, List.mem_append] at hs
      have hnd : (c.openStores.map Prod.fst).Nodup := hc
      rw [hl, List.map_append, List.map_cons, of_decide_eq_true ha] at hnd
      rcases hs with hs | hs
      · exact hbefore _ hs (decide_eq_true rfl)
      · exact (List.nodup_cons.mp (List.nodup_append.mp hnd).2.1).1 (List.mem_map.mpr ⟨_, hs, rfl⟩)
    by_cases hfile : (c.files o.1).isSome = true
    · exact Or.inl ⟨o.2, _, if_pos hfile, hothers, ho, hfile⟩
    · exact Or.inr ⟨_, if_neg hfile, hothers⟩

lemma openStore_elsewhere (hc : Once c) : ∀ r c', MessageCache.openStore P path c = (r, c') →
    (∃ s, r = .ok s ∧ Front path s c c') ∨ ∃ e, r = .error e ∧ Elsewhere path c c' := by
  intro r c' hr
  obtain ⟨s, rest, h, ho, -, -⟩ | ⟨rest, h, ho⟩ := openStore_cases P path hc
  · rw [h] at hr
    obtain ⟨rfl, rfl⟩ := Prod.mk.inj hr
    exact Or.inl ⟨s, rfl, ⟨rest, rfl, ho⟩, fun _ _ => rfl, rfl⟩
  · exact openNew_elsewhere ho hc r c' (h ▸ hr)

lemma Front.use {α : Type} (h : Front path s c c') (p : Action α) :
    Front path (p (c'.world path s)).2.storage c (MessageCache.use path s p c').2 := by
  obtain ⟨rest, hst, ho⟩ := h.stores
  refine ⟨⟨rest, ?_, ho⟩, fun q hq => ?_, h.caught⟩
  · simp only [MessageCache.use, Cache.put, hst, List.tail_cons]
  · exact (Function.update_of_ne hq _ _).trans (h.files q hq)

/-! ### Opening and using the store of a file -/

section

variable {I : World → Prop}

lemma Front.holdsBy (h : Front path s c c') (hc : Once c) (hf : (c'.files path).isSome = true)
    (hs : I (c'.world path s)) : HoldsBy P I path c' := by
  have hne : c'.files path ≠ none := fun hn => by
    rw [hn] at hf
    cases hf
  refine ⟨(h.elsewhere hc).once, fun hn => absurd hn hne, fun hn => absurd hn hne, fun _ => ⟨s, hs, fun s' hs' => ?_⟩⟩
  obtain ⟨rest, hst, ho⟩ := h.stores
  rw [hst] at hs'
  obtain he | hm := List.mem_cons.mp hs'
  · exact (Prod.mk.inj he).2
  · exact absurd hm (ho.apart s')

lemma HoldsBy.openNew (hI : OfFile P I) (h : HoldsBy P I path c) (rest : List (Bytes × LocalStorage)) :
    ∃ s c', MessageCache.openNew P path rest c = (.ok s, c') ∧ (c'.files path).isSome = true ∧
      I (c'.world path s) := by
  have hopen : ∃ w', LocalStorage.construct P.crypto {} P.appSecretKey (c.world path { opt := {} }) = (.ok (), w') ∧
      I w' := by
    cases hf : c.files path with
    | none => exact h.missing hf _ (by simp only [Cache.world, hf, Option.getD_none]) rfl
    | some bytes =>
      obtain ⟨s, hs, -⟩ := h.kept (by rw [hf]; rfl)
      exact hI.reopen _ { opt := {} } hs rfl
  obtain ⟨w', hw', hw⟩ := hopen
  refine ⟨w'.storage, _, by rw [MessageCache.openNew, hw'], ?_, hI.congr _ _ hw rfl ?_⟩
  · simp only [Cache.put, Function.update_self, Option.isSome_some]
  · simp only [Cache.world, Cache.put, Function.update_self, Option.getD_some]

lemma HoldsBy.openStore (hI : OfFile P I) (h : HoldsBy P I path c) :
    ∃ s c', MessageCache.openStore P path c = (.ok s, c') ∧ Front path s c c' ∧ (c'.files path).isSome = true ∧
      I (c'.world path s) := by
  obtain ⟨s, rest, he, ho, hm, hf⟩ | ⟨rest, he, ho⟩ := openStore_cases P path h.once
  · obtain ⟨s', hs, hs'⟩ := h.kept hf
    obtain rfl := hs' s hm
    exact ⟨s, _, he, ⟨⟨rest, rfl, ho⟩, fun _ _ => rfl, rfl⟩, hf, hI.congr _ _ hs rfl rfl⟩
  · obtain ⟨s, c', hnew, hf, hs⟩ := h.openNew hI rest
    obtain ⟨s', hok, hfront⟩ | ⟨e, herr, -⟩ := openNew_elsewhere ho h.once _ _ hnew
    · obtain rfl := Except.ok.inj hok
      exact ⟨s, c', he.trans hnew, hfront, hf, hs⟩
    · cases herr

lemma HoldsBy.useCases {α ι : Type} {J : ι → World → Prop} {R : α → ι → Prop} (hI : OfFile P I)
    (hJ : ∀ a i, R a i → OfFile P (J i)) (h : HoldsBy P I path c) {p : Action α} {E : Error → Prop}
    (hp : ∀ s c', MessageCache.openStore P path c = (.ok s, c') → I (c'.world path s) →
      (∃ a i w', p (c'.world path s) = (.ok a, w') ∧ R a i ∧ J i w') ∨
        ∃ e w', p (c'.world path s) = (.error e, w') ∧ E e) :
    (∃ a i c', (MessageCache.openStore P path >>= fun s => MessageCache.use path s p) c = (.ok a, c') ∧
      c'.caught = c.caught ∧ (c'.files path).isSome = true ∧ R a i ∧ HoldsBy P (J i) path c') ∨
      ∃ e c', (MessageCache.openStore P path >>= fun s => MessageCache.use path s p) c = (.error e, c') ∧ E e := by
  obtain ⟨s, c₁, ho, hfront, -, hs⟩ := h.openStore hI
  rw [bind_ok ho]
  obtain ⟨a, i, w', hw', hr, hj⟩ | ⟨e, w', hw', he⟩ := hp s c₁ ho hs
  · have huse : MessageCache.use path s p c₁ = (.ok a, c₁.put path w' c₁.openStores.tail) := by
      rw [MessageCache.use, hw']
    have hfront' := hfront.use p
    rw [huse, hw'] at hfront'
    have hfile : ((c₁.put path w' c₁.openStores.tail).files path).isSome = true := by
      simp only [Cache.put, Function.update_self, Option.isSome_some]
    refine Or.inl ⟨a, i, _, huse, hfront'.caught, hfile, hr,
      hfront'.holdsBy h.once hfile ((hJ a i hr).congr _ _ hj rfl ?_)⟩
    simp only [Cache.world, Cache.put, Function.update_self, Option.getD_some]
  · refine Or.inr ⟨e, c₁.put path w' c₁.openStores.tail, ?_, he⟩
    rw [MessageCache.use, hw']

lemma HoldsBy.use {α : Type} {J : World → Prop} (hI : OfFile P I) (hJ : OfFile P J) (h : HoldsBy P I path c)
    {p : Action α} {a : α} {E : Error → Prop}
    (hp : ∀ w, I w → w.faults = none → (∃ w', p w = (.ok a, w') ∧ J w') ∨ ∃ e w', p w = (.error e, w') ∧ E e) :
    (∃ c', (MessageCache.openStore P path >>= fun s => MessageCache.use path s p) c = (.ok a, c') ∧
      c'.caught = c.caught ∧ (c'.files path).isSome = true ∧ HoldsBy P J path c') ∨
      ∃ e c', (MessageCache.openStore P path >>= fun s => MessageCache.use path s p) c = (.error e, c') ∧ E e := by
  have hcases : ∀ s c', MessageCache.openStore P path c = (.ok s, c') → I (c'.world path s) →
      (∃ b, ∃ _ : Unit, ∃ w', p (c'.world path s) = (.ok b, w') ∧ b = a ∧ J w') ∨
        ∃ e w', p (c'.world path s) = (.error e, w') ∧ E e := by
    intro s c' _ hs
    exact (hp _ hs rfl).imp_left (fun ⟨w', hw', hj⟩ => ⟨a, (), w', hw', rfl, hj⟩)
  obtain ⟨b, -, c', hc', hcaught, hf, rfl, hh⟩ | hfail :=
    h.useCases (J := fun _ => J) (R := fun b _ => b = a) hI (fun _ _ _ => hJ) hcases
  · exact Or.inl ⟨c', hc', hcaught, hf, hh⟩
  · exact Or.inr hfail

lemma guarded_ok {α : Type} {p : CacheAction α} {a : α} (fallback : α) (h : p c = (.ok a, c')) :
    MessageCache.guarded path fallback p c = (a, c') := by rw [MessageCache.guarded, h]

lemma guarded_error {α : Type} {p : CacheAction α} {e : Error} (fallback : α) (h : p c = (.error e, c')) :
    MessageCache.guarded path fallback p c = (fallback, { c' with openStores := [], caught := (path, e) :: c'.caught }) := by
  rw [MessageCache.guarded, h]

lemma HoldsBy.guarded {α : Type} {J : World → Prop} (hI : OfFile P I) (hJ : OfFile P J) (h : HoldsBy P I path c)
    {p : Action α} {a : α} {E : Error → Prop} (fallback : α)
    (hp : ∀ w, I w → w.faults = none → (∃ w', p w = (.ok a, w') ∧ J w') ∨ ∃ e w', p w = (.error e, w') ∧ E e) :
    (∃ c', MessageCache.guarded path fallback (MessageCache.openStore P path >>= fun s => MessageCache.use path s p) c =
      (a, c') ∧ c'.caught = c.caught ∧ HoldsBy P J path c') ∨
      ∃ e c', MessageCache.guarded path fallback
        (MessageCache.openStore P path >>= fun s => MessageCache.use path s p) c = (fallback, c') ∧
        (path, e) ∈ c'.caught ∧ E e := by
  obtain ⟨c', hc', hcaught, -, hh⟩ | ⟨e, c', hc', he⟩ := h.use hI hJ hp
  · exact Or.inl ⟨c', guarded_ok fallback hc', hcaught, hh⟩
  · exact Or.inr ⟨e, _, guarded_error fallback hc', List.mem_cons_self, he⟩

end

/-! ### Reading and saving -/

variable {logicalName secret objects : QString} {root : Bytes}

lemma guarded_elsewhere {α : Type} {fallback : α} {p : CacheAction α} (h : Elsewhere path c (p c).2) :
    Elsewhere path c (MessageCache.guarded path fallback p c).2 := by
  rw [MessageCache.guarded]
  rcases hp : p c with ⟨e | a, c'⟩
  · rw [hp] at h
    exact ⟨List.nodup_nil, h.files, fun q s _ hs => absurd hs List.not_mem_nil⟩
  · rw [hp] at h
    exact h

variable (P path) in
lemma opened_elsewhere {α : Type} (hc : Once c) (p : Action α) :
    Elsewhere path c ((MessageCache.openStore P path >>= fun s => MessageCache.use path s p) c).2 := by
  rcases ho : MessageCache.openStore P path c with ⟨r, c'⟩
  obtain ⟨s, rfl, hfront⟩ | ⟨e, rfl, he⟩ := openStore_elsewhere hc r c' ho
  · rw [bind_ok ho]
    exact (hfront.use p).elsewhere hc
  · rw [bind_error ho]
    exact he

lemma saveSnapshot_elsewhere (hc : Once c) (objects : QString) (root : Bytes) :
    Elsewhere (FileNameHelper.hexName P logicalName secret) c
      (MessageCache.saveSnapshot P objects logicalName secret root c).2 :=
  guarded_elsewhere (opened_elsewhere P _ hc _)

variable (P path c) in
lemma reading_snd {α β : Type} (p : Action α) (f : α → β) (missing fallback : β) (fallback' : α) :
    (MessageCache.guarded path fallback (do
      let c ← Prog.get
      match c.files path with
      | none => pure missing
      | some _ =>
        let s ← MessageCache.openStore P path
        let record ← MessageCache.use path s p
        pure (f record)) c).2 = c ∨
    (MessageCache.guarded path fallback (do
      let c ← Prog.get
      match c.files path with
      | none => pure missing
      | some _ =>
        let s ← MessageCache.openStore P path
        let record ← MessageCache.use path s p
        pure (f record)) c).2 =
      (MessageCache.guarded path fallback' (MessageCache.openStore P path >>= fun s => MessageCache.use path s p) c).2 := by
  rw [MessageCache.guarded, MessageCache.guarded, get_bind_apply]
  cases c.files path with
  | none => exact Or.inl rfl
  | some bytes =>
    refine Or.inr ?_
    dsimp only
    rw [← bind_assoc, bind_apply]
    rcases (MessageCache.openStore P path >>= fun s => MessageCache.use path s p) c with ⟨e | a, c'⟩ <;> rfl

variable (P logicalName secret root c) in
lemma readSnapshot_snd : (MessageCache.readSnapshot P logicalName secret root c).2 = c ∨
    (MessageCache.readSnapshot P logicalName secret root c).2 =
      (MessageCache.guarded (FileNameHelper.hexName P logicalName secret) none
        (MessageCache.openStore P (FileNameHelper.hexName P logicalName secret) >>= fun s =>
          MessageCache.use (FileNameHelper.hexName P logicalName secret) s
            (Prog.read (Storage.MessageCache.readSnapshot P.crypto root))) c).2 :=
  reading_snd P (FileNameHelper.hexName P logicalName secret) c
    (Prog.read (Storage.MessageCache.readSnapshot P.crypto root)) (fun record => record.map P.fromUtf8) none none none

variable (P logicalName secret c) in
lemma clear_snd : (MessageCache.clear P logicalName secret c).2 = c ∨
    (MessageCache.clear P logicalName secret c).2 =
      (MessageCache.guarded (FileNameHelper.hexName P logicalName secret) false
        (MessageCache.openStore P (FileNameHelper.hexName P logicalName secret) >>= fun s =>
          MessageCache.use (FileNameHelper.hexName P logicalName secret) s
            (Storage.MessageCache.clear P.crypto)) c).2 := by
  generalize hpath : FileNameHelper.hexName P logicalName secret = path
  rw [MessageCache.clear, hpath, MessageCache.guarded, MessageCache.guarded, get_bind_apply]
  cases c.files path with
  | none => exact Or.inl rfl
  | some bytes => exact Or.inr rfl

lemma readSnapshot_elsewhere (hc : Once c) (root : Bytes) :
    Elsewhere (FileNameHelper.hexName P logicalName secret) c
      (MessageCache.readSnapshot P logicalName secret root c).2 := by
  obtain he | he := readSnapshot_snd P c logicalName secret root
  · rw [he]
    exact .refl hc
  · rw [he]
    exact guarded_elsewhere (opened_elsewhere P _ hc _)

lemma clear_elsewhere (hc : Once c) : Elsewhere (FileNameHelper.hexName P logicalName secret) c
    (MessageCache.clear P logicalName secret c).2 := by
  obtain he | he := clear_snd P c logicalName secret
  · rw [he]
    exact .refl hc
  · rw [he]
    exact guarded_elsewhere (opened_elsewhere P _ hc _)

lemma HoldsBy.closeAll {I : World → Prop} (h : HoldsBy P I path c) : HoldsBy P I path (MessageCache.closeAll c).2 := by
  refine ⟨List.nodup_nil, h.missing, fun _ s hs => absurd hs List.not_mem_nil, fun hf => ?_⟩
  obtain ⟨s, hs, -⟩ := h.kept hf
  exact ⟨s, hs, fun s' hs' => absurd hs' List.not_mem_nil⟩

lemma HoldsBy.readSnapshot {I : World → Prop} (hI : OfFile P I) {record : Option Bytes}
    (h : HoldsBy P I (FileNameHelper.hexName P logicalName secret) c)
    (hread : ∀ w, I w → Storage.MessageCache.readSnapshot P.crypto root w = .ok record) :
    ∃ c', MessageCache.readSnapshot P logicalName secret root c = (record.map P.fromUtf8, c') ∧
      HoldsBy P I (FileNameHelper.hexName P logicalName secret) c' ∧ c'.caught = c.caught := by
  generalize hpath : FileNameHelper.hexName P logicalName secret = path at h ⊢
  rw [MessageCache.readSnapshot, hpath, MessageCache.guarded, get_bind_apply]
  cases hf : c.files path with
  | none =>
    refine ⟨c, ?_, h, rfl⟩
    rw [h.missing_none hf hread]
    rfl
  | some bytes =>
    obtain ⟨c', hc', hcaught, -, hh⟩ | ⟨e, c', -, he⟩ := h.use (E := fun _ => False) hI hI
      (p := Prog.read (Storage.MessageCache.readSnapshot P.crypto root)) (a := record)
      (fun w hw _ => Or.inl ⟨w, by rw [read_apply, hread w hw], hw⟩)
    · dsimp only
      rw [← bind_assoc, bind_ok hc', pure_apply]
      exact ⟨c', rfl, hh, hcaught⟩
    · exact he.elim

lemma Holds.readSnapshot (h : Holds P (FileNameHelper.hexName P logicalName secret) c pages) (root : Bytes) :
    ∃ c', MessageCache.readSnapshot P logicalName secret root c = ((pages root).map P.fromUtf8, c') ∧
      Holds P (FileNameHelper.hexName P logicalName secret) c' pages ∧ c'.caught = c.caught := by
  obtain ⟨c', hc', hh, hcaught⟩ := h.holdsBy.readSnapshot (contents_ofFile P pages) (fun _ hw => hw.readSnapshot root)
  exact ⟨c', hc', hh.holds, hcaught⟩

lemma HoldsBy.clear {Q : Store → Prop} (hQ : ∀ a, Q a → RootNames a ∧ a.OnlyMessages)
    (h : HoldsBy P (Keeping P Q) (FileNameHelper.hexName P logicalName secret) c) :
    (∃ c', MessageCache.clear P logicalName secret c = (true, c') ∧
      HoldsBy P (Keeping P (· = .empty)) (FileNameHelper.hexName P logicalName secret) c') ∨
      ∃ e c', MessageCache.clear P logicalName secret c = (false, c') ∧
        (FileNameHelper.hexName P logicalName secret, e) ∈ c'.caught ∧ IsIoFailure e := by
  generalize hpath : FileNameHelper.hexName P logicalName secret = path at h ⊢
  have hnames : ∀ a : Store, a = .empty → RootNames a := fun a ha => ha ▸ shows_empty.2.2
  rw [MessageCache.clear, hpath]
  cases hf : c.files path with
  | none =>
    refine Or.inl ⟨c, ?_, .newFile h.once hf (h.closed hf) rfl⟩
    rw [MessageCache.guarded, get_bind_apply, hf]
    rfl
  | some bytes =>
    have hopened := h.guarded (keeping_ofFile (fun a ha => (hQ a ha).1)) (keeping_ofFile hnames) false
      (fun w hw _ => Keeping.clear hw (fun a ha => (hQ a ha).2))
    rw [MessageCache.guarded] at hopened ⊢
    rw [get_bind_apply, hf]
    exact hopened.imp_left (fun ⟨c', hc', _, hh⟩ => ⟨c', hc', hh⟩)

lemma Holds.saveSnapshot (h : Holds P (FileNameHelper.hexName P logicalName secret) c pages) (hroot : IsRoot root)
    (objects : QString) :
    ∃ ok c', MessageCache.saveSnapshot P objects logicalName secret root c = (ok, c') ∧
      (ok = true → c'.caught = c.caught ∧ Holds P (FileNameHelper.hexName P logicalName secret) c'
        (Function.update pages root (some (P.toUtf8 objects)))) ∧ (ok = false → c'.caught ≠ []) := by
  rw [MessageCache.saveSnapshot]
  obtain ⟨c', hc', hcaught, hh⟩ | ⟨e, c', hc', he, -⟩ := h.holdsBy.guarded (E := fun _ => True)
    (contents_ofFile P pages) (contents_ofFile P _) false
    (fun w hw _ => (hw.saveSnapshot hroot (P.toUtf8 objects)).imp_right
      (fun ⟨e, w', hw', _⟩ => ⟨e, w', hw', trivial⟩))
  · exact ⟨true, c', hc', fun _ => ⟨hcaught, hh.holds⟩, fun hn => Bool.noConfusion hn⟩
  · exact ⟨false, c', hc', fun hn => Bool.noConfusion hn, fun _ => List.ne_nil_of_mem he⟩

/-! ### What has been caught stays known -/

lemma openNew_caught (others : List (Bytes × LocalStorage)) :
    (MessageCache.openNew P path others c).2.caught = c.caught := by
  rw [MessageCache.openNew]
  rcases LocalStorage.construct P.crypto {} P.appSecretKey (c.world path { opt := {} }) with ⟨e | u, w⟩ <;> rfl

variable (P path c) in
lemma openStore_caught : (MessageCache.openStore P path c).2.caught = c.caught := by
  rw [MessageCache.openStore]
  cases c.openStores.find? (fun o => decide (o.1 = path)) with
  | none => exact openNew_caught _
  | some o =>
    dsimp only
    split_ifs
    · rfl
    · exact openNew_caught _

variable (P path c) in
lemma opened_caught {α : Type} (p : Action α) :
    ((MessageCache.openStore P path >>= fun s => MessageCache.use path s p) c).2.caught = c.caught := by
  have h := openStore_caught P path c
  rw [bind_apply]
  rcases ho : MessageCache.openStore P path c with ⟨e | s, c'⟩
  · rw [ho] at h
    exact h
  · rw [ho] at h
    exact h

lemma guarded_caught {α : Type} {fallback : α} {p : CacheAction α} (h : (p c).2.caught = c.caught) :
    c.caught <:+ (MessageCache.guarded path fallback p c).2.caught := by
  rw [MessageCache.guarded]
  rcases hp : p c with ⟨e | a, c'⟩
  · rw [hp] at h
    exact h ▸ List.suffix_cons _ _
  · rw [hp] at h
    exact h ▸ List.suffix_rfl

variable (P logicalName secret c) in
lemma saveSnapshot_caught (objects : QString) (root : Bytes) :
    c.caught <:+ (MessageCache.saveSnapshot P objects logicalName secret root c).2.caught :=
  guarded_caught (opened_caught P _ c _)

variable (P logicalName secret c) in
lemma readSnapshot_caught (root : Bytes) :
    c.caught <:+ (MessageCache.readSnapshot P logicalName secret root c).2.caught := by
  obtain he | he := readSnapshot_snd P c logicalName secret root
  · rw [he]
  · rw [he]
    exact guarded_caught (opened_caught P _ c _)

variable (P logicalName secret c) in
lemma clear_caught : c.caught <:+ (MessageCache.clear P logicalName secret c).2.caught := by
  obtain he | he := clear_snd P c logicalName secret
  · rw [he]
  · rw [he]
    exact guarded_caught (opened_caught P _ c _)

end

end ChatDesktop.Chat
