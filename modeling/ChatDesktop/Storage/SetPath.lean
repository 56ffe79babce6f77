import ChatDesktop.Storage.StoreFiles

namespace ChatDesktop.Storage

open Library Library.Program LocalStorage

/-- An object and the files it can be set to; it has `fd` open. -/
structure Stores where
  files : Bytes → Option Bytes := fun _ => none
  fd : Option Bytes := none
  storage : LocalStorage := { opt := {} }
  draws : ℕ := 0

abbrev StoresAction := Prog Stores Error

/-- What comes between an object and a file: the file is locked or cannot be opened, or an operation on it fails. -/
structure Opening where
  refused : Option Error := none
  faults : Option ℕ := none

namespace Stores

def world (c : Stores) (path : Bytes) (s : LocalStorage) (faults : Option ℕ) : World :=
  { storage := s, file := (c.files path).getD [], draws := c.draws, faults := faults }

def keep (c : Stores) (path : Bytes) (w : World) : Stores :=
  { c with files := Function.update c.files path (some w.file), draws := w.draws }

def setTo (c : Stores) (path : Bytes) (w : World) : Stores :=
  { c.keep path w with fd := some path, storage := { w.storage with opt := c.storage.opt } }

def becomes (c : Stores) (path : Bytes) (w : World) : Stores := { c.keep path w with storage := w.storage }

end Stores

section

variable (C : Crypto)

def replacement (opt : Options) (pw : Bytes) (opened : Bool) : Action Unit := do
  construct C opt pw
  Prog.when opened synceFd

def setPath (o : Opening) (path pw : Bytes) : StoresAction Unit := fun c =>
  if c.fd = some path ∧ (c.files path).isSome then
    ((loadHeader C pw (c.world path { opt := {}, opened := true } o.faults)).1, c)
  else
    match o.refused with
    | some e => (.error e, c)
    | none =>
      match replacement C c.storage.opt pw c.fd.isSome (c.world path { opt := c.storage.opt } o.faults) with
      | (.error e, w) => (.error e, c.keep path w)
      | (.ok _, w) => (.ok (), c.setTo path w)

end

def use {α : Type} (faults : Option ℕ) (p : Action α) : StoresAction α := fun c =>
  match c.fd with
  | none =>
    match p { storage := c.storage, draws := c.draws, faults := faults } with
    | (r, w) => (r, { c with storage := w.storage, draws := w.draws })
  | some path =>
    match p (c.world path c.storage faults) with
    | (r, w) => (r, c.becomes path w)

/-! ### The options of an object -/

section

variable {C : Crypto} {α β : Type} {opt : Options} {w : World}

def KeepsOpt (opt : Options) (p : Action α) : Prop := ∀ w, w.storage.opt = opt → (p w).2.storage.opt = opt

namespace KeepsOpt

lemma pure (a : α) : KeepsOpt opt (pure a : Action α) := fun _ h => h

lemma throw (e : Error) : KeepsOpt opt (Prog.throw e : Action α) := fun _ h => h

lemma read (f : World → Except Error α) : KeepsOpt opt (Prog.read f) := fun _ h => h

lemma bind {p : Action α} {f : α → Action β} (hp : KeepsOpt opt p) (hf : ∀ a, KeepsOpt opt (f a)) :
    KeepsOpt opt (p >>= f) := by
  intro w h
  have hw := hp w h
  rw [bind_apply]
  rcases hpw : p w with ⟨e | a, w'⟩
  · rwa [hpw] at hw
  · rw [hpw] at hw
    exact hf a w' hw

lemma get {f : World → Action α} (hf : ∀ w, w.storage.opt = opt → KeepsOpt opt (f w)) :
    KeepsOpt opt (Prog.get >>= f) := fun w h => hf w h w h

lemma set {s : LocalStorage} (h : s.opt = opt) : KeepsOpt opt (LocalStorage.set s) := fun _ _ => h

lemma ite {c : Prop} [Decidable c] {p q : Action α} (hp : KeepsOpt opt p) (hq : KeepsOpt opt q) :
    KeepsOpt opt (if c then p else q) := by
  split_ifs
  · exact hp
  · exact hq

lemma when {c : Prop} [Decidable c] {p : Action Unit} (hp : KeepsOpt opt p) : KeepsOpt opt (Prog.when c p) :=
  ite hp (pure ())

lemma fileOp (e : Error) (f : Bytes → Bytes) : KeepsOpt opt (LocalStorage.fileOp e f) := by
  intro w h
  rw [LocalStorage.fileOp]
  rcases w.faults with _ | _ | k
  · exact h
  · exact h
  · exact h

lemma pwriteFull (buf : Bytes) (off : ℕ) : KeepsOpt opt (LocalStorage.pwriteFull buf off) :=
  ite (throw _) (fileOp _ _)

lemma writeBlock (id : ℕ) (b : Blk) : KeepsOpt opt (LocalStorage.writeBlock C id b) :=
  bind (fun _ h => h) (fun _ => get (fun _ _ => pwriteFull _ _))

lemma writeContinuations (s : LocalStorage) (ids : List ℕ) (data : Bytes) (i : ℕ) :
    KeepsOpt opt (LocalStorage.writeContinuations C s ids data i) := by
  induction i with
  | zero => exact pure ()
  | succ i ih =>
    cases i with
    | zero => exact pure ()
    | succ i => exact bind (writeBlock _ _) (fun _ => ih)

lemma writeChain (ids : List ℕ) (data : Bytes) (tag : UInt32) : KeepsOpt opt (LocalStorage.writeChain C ids data tag) :=
  get (fun _ _ => bind (writeContinuations _ _ _ _) (fun _ => bind (when (fileOp _ _)) (fun _ =>
    bind (writeBlock _ _) (fun _ => when (fileOp _ _)))))

lemma allocMany (k : ℕ) (s : LocalStorage) : (LocalStorage.allocMany k s).2.opt = s.opt := by rw [allocMany_eq]

lemma insertLocked (data : Bytes) (tag : UInt32) : KeepsOpt opt (LocalStorage.insertLocked C data tag) := by
  refine get (fun w h => ?_)
  have hs := (allocMany (chunks w.storage data.length) w.storage).trans h
  exact bind (set hs) (fun _ => bind (writeChain _ _ _) (fun _ => bind (set hs) (fun _ => pure _)))

lemma updateLocked (id : ℕ) (data : Bytes) : KeepsOpt opt (LocalStorage.updateLocked C id data) := by
  refine get (fun w h => bind (set h) (fun _ => bind (read _) (fun old => get (fun w h => ?_))))
  have hs := (allocMany (chunks w.storage data.length - 1) w.storage).trans h
  exact bind (set hs) (fun _ => bind (writeChain _ _ _) (fun _ => set hs))

lemma saveDirectoryLocked : KeepsOpt opt (LocalStorage.saveDirectoryLocked C) := by
  refine get (fun w _ => ite (bind (insertLocked _ _) (fun id => fun _ h => h)) (updateLocked _ _))

lemma removeLocked (id : ℕ) : KeepsOpt opt (LocalStorage.removeLocked C id) := by
  refine get (fun w h => ?_)
  cases w.storage.head.find? id with
  | none => exact pure ()
  | some hi =>
    exact bind (read _) (fun _ => bind (writeBlock _ _) (fun _ => bind (when (fileOp _ _)) (fun _ =>
      bind (set h) (fun _ => when saveDirectoryLocked))))

lemma insert (data : Bytes) (tag : UInt32) : KeepsOpt opt (LocalStorage.insert C data tag) :=
  get (fun _ _ => ite (throw _) (ite (throw _) (insertLocked _ _)))

lemma update (id : ℕ) (data : Bytes) : KeepsOpt opt (LocalStorage.update C id data) :=
  get (fun _ _ => ite (bind (updateLocked _ _) (fun _ => pure _)) (pure _))

lemma remove (id : ℕ) : KeepsOpt opt (LocalStorage.remove C id) :=
  get (fun _ _ => ite (bind (removeLocked _) (fun _ => pure _)) (pure _))

lemma setRoot (name : Bytes) (id : ℕ) : KeepsOpt opt (LocalStorage.setRoot C name id) :=
  get (fun _ h => ite (bind (set h) (fun _ => saveDirectoryLocked)) (throw _))

lemma removeRoot (name : Bytes) : KeepsOpt opt (LocalStorage.removeRoot C name) :=
  get (fun _ h => ite (bind (set h) (fun _ => bind saveDirectoryLocked (fun _ => pure _))) (pure _))

lemma sync : KeepsOpt opt LocalStorage.sync := get (fun _ _ => ite (throw _) (fileOp _ _))

lemma step (op : Op) (h : w.storage.opt = opt) : (Storage.step C op w).2.storage.opt = opt := by
  have houtcome : ∀ {α : Type} (f : α → Outcome) (r : Except Error α × World), (outcome f r).2 = r.2 := by
    rintro α f ⟨_ | _, _⟩ <;> rfl
  cases op with
  | insert data tag => exact (houtcome _ _).symm ▸ insert data tag w h
  | update id data => exact (houtcome _ _).symm ▸ update id data w h
  | remove id => exact (houtcome _ _).symm ▸ remove id w h
  | setRoot name id => exact (houtcome _ _).symm ▸ setRoot name id w h
  | removeRoot name => exact (houtcome _ _).symm ▸ removeRoot name w h

lemma createHeader (pw : Bytes) : KeepsOpt opt (LocalStorage.createHeader C pw) :=
  get (fun _ h => ite (throw _) (bind (fun _ h => h) (fun _ => bind (fun _ h => h) (fun _ =>
    bind (set h) (fun _ => bind (pwriteFull _ _) (fun _ => bind (fileOp _ _) (fun _ => fileOp _ _)))))))

lemma loadHeader (pw : Bytes) : KeepsOpt opt (LocalStorage.loadHeader C pw) := by
  refine get (fun w h => bind (read _) (fun head => ite (throw _) (ite (throw _) (bind (set h) (fun _ => ?_)))))
  split
  · exact throw _
  · exact pure _

lemma scan : KeepsOpt opt (LocalStorage.scan C) :=
  get (fun _ h => ite (throw _) (bind (read _) (fun _ => bind (read _) (fun _ =>
    bind (when (fileOp _ _)) (fun _ => set h)))))

lemma loadDirectory : KeepsOpt opt (LocalStorage.loadDirectory C) := by
  refine get (fun w h => ?_)
  split
  · exact pure _
  · refine bind (set h) (fun _ => bind (read _) (fun raw => ?_))
    cases raw with
    | none => exact throw _
    | some raw => exact bind (read _) (fun _ => set h)

end KeepsOpt

lemma construct_opt (C : Crypto) (opt : Options) (pw : Bytes) (w : World) :
    (construct C opt pw w).2.storage.opt = opt := by
  have hrest : KeepsOpt opt (do
      let w ← Prog.get
      (if w.file.length = 0 then createHeader C pw else loadHeader C pw : Action Unit)
      scan C
      loadDirectory C) :=
    .get (fun _ _ => .bind (.ite (.createHeader pw) (.loadHeader pw)) (fun _ => .bind .scan (fun _ => .loadDirectory)))
  exact hrest (w.put { opt := opt, opened := true }) rfl

end

/-! ### Files that hold what they should -/

section

variable {C : Crypto} {pw : Bytes} {file : Option Bytes} {a b : Store} {c : Stores} {A : Bytes → Store} {path : Bytes}

def FileHolds (C : Crypto) (pw : Bytes) (file : Option Bytes) (a : Store) : Prop :=
  (file.getD [] = [] ∧ a = .empty) ∨ ∃ w cont, Related C pw w a cont ∧ NamesFit w.storage.roots ∧ file = some w.file

lemma FileHolds.opens (h : FileHolds C pw file a) (s : LocalStorage) (draws : ℕ) {opt : Options}
    (hlo : 128 ≤ opt.blockSize) (hhi : opt.blockSize ≤ 2 ^ 20) :
    ∃ w cont, construct C opt pw { storage := s, file := file.getD [], draws := draws } = (.ok (), w) ∧
      Related C pw w a cont ∧ NamesFit w.storage.roots ∧ w.storage.opt = opt ∧ w.faults = none := by
  obtain ⟨hfile, rfl⟩ | ⟨w, cont, hr, hfit, rfl⟩ := h
  · obtain ⟨w', hw', -, -, -, hroots, hf, hopt, -⟩ := construct_new (C := C) pw hlo hhi
      (w := { storage := s, file := file.getD [], draws := draws }) hfile rfl
    refine ⟨w', _, hw', related_new hlo hhi hfile rfl hw', ?_, hopt, hf⟩
    rw [hroots]
    exact ⟨by decide, fun n i hn => by simp at hn⟩
  · have hr₁ : Related C pw { w with draws := draws } a cont := hr.congr rfl rfl
    obtain ⟨w', hw', hr', hro⟩ := hr₁.reopen (hr₁.storable_iff.mpr hfit) opt
    refine ⟨w', cont, hw', hr', ?_, hro.opt, hro.faults⟩
    have hroots : w'.storage.roots = w.storage.roots :=
      SortedMap.ext (fun n => (hr'.agrees.root n).trans (hr.agrees.root n).symm)
    rwa [hroots]

/-- Each file holds what `A` says, also the one that is open. -/
structure HoldsAll (C : Crypto) (pw : Bytes) (c : Stores) (A : Bytes → Store) : Prop where
  files : ∀ path, FileHolds C pw (c.files path) (A path)
  opened : ∀ path, c.fd = some path →
    (c.files path).isSome = true ∧ ∃ cont, Related C pw (c.world path c.storage none) (A path) cont
  atLeast : 128 ≤ c.storage.opt.blockSize
  atMost : c.storage.opt.blockSize ≤ 2 ^ 20

lemma replacement_ok {w w' : World} {opt : Options} {opened : Bool} (h : construct C opt pw w = (.ok (), w'))
    (hf : w'.faults = none) : replacement C opt pw opened w = (.ok (), w') := by
  rw [replacement, bind_ok h, Prog.when]
  split_ifs
  · obtain ⟨s, file, draws, faults⟩ := w'
    obtain rfl : faults = none := hf
    rfl
  · rfl

lemma Stores.keep_other (c : Stores) (w : World) {q : Bytes} (hq : q ≠ path) : (c.keep path w).files q = c.files q :=
  Function.update_of_ne hq _ _

lemma Stores.keep_self (c : Stores) (w : World) : (c.keep path w).files path = some w.file := Function.update_self ..

lemma HoldsAll.update {w : World} {cont : ℕ → List ℕ} (h : HoldsAll C pw c A) (path : Bytes)
    (hr : Related C pw w b cont) (hfit : NamesFit w.storage.roots) {s : LocalStorage} (hs : s = w.storage)
    (hopt : s.opt = c.storage.opt) :
    HoldsAll C pw { c.keep path w with fd := some path, storage := s } (Function.update A path b) := by
  subst hs
  refine ⟨fun q => ?_, fun q hq => ?_, hopt ▸ h.atLeast, hopt ▸ h.atMost⟩
  · by_cases hq : q = path
    · subst hq
      refine .inr ⟨w, cont, ?_, hfit, Function.update_self ..⟩
      rwa [Function.update_self]
    · rw [Function.update_of_ne hq]
      exact (c.keep_other w hq).symm ▸ h.files q
  · obtain rfl := Option.some.inj hq
    refine ⟨by rw [Stores.keep_self]; rfl, cont, ?_⟩
    rw [Function.update_self]
    refine hr.congr rfl ?_
    exact congrArg (Option.getD · []) (c.keep_self w)

lemma HoldsAll.setPath (h : HoldsAll C pw c A) (path : Bytes) :
    ∃ c', setPath C {} path pw c = (.ok (), c') ∧ HoldsAll C pw c' A ∧ c'.fd = some path ∧
      ∀ q ≠ path, c'.files q = c.files q := by
  rw [Storage.setPath]
  split_ifs with hsame
  · obtain ⟨-, cont, hr⟩ := h.opened path hsame.1
    have hload : (loadHeader C pw (c.world path { opt := {}, opened := true } none)).1 = .ok () :=
      congrArg Prod.fst (loadHeader_ok hr.wf.formatted.geometry hr.wf.formatted.header {})
    exact ⟨c, Prod.ext hload rfl, h, hsame.1, fun _ _ => rfl⟩
  · obtain ⟨w, cont, hc, hr, hfit, hopt, hf⟩ :=
      (h.files path).opens { opt := c.storage.opt } c.draws h.atLeast h.atMost
    have hrep : replacement C c.storage.opt pw c.fd.isSome (c.world path { opt := c.storage.opt } none) = (.ok (), w) :=
      replacement_ok hc hf
    dsimp only
    rw [hrep]
    refine ⟨_, rfl, ?_, rfl, fun q hq => c.keep_other w hq⟩
    have hs : { w.storage with opt := c.storage.opt } = w.storage := by rw [← hopt]
    have hk := h.update path hr hfit hs rfl
    rwa [Function.update_eq_self] at hk

end

end ChatDesktop.Storage
