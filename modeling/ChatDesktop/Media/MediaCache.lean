import ChatDesktop.Session.AuthDirectory

namespace ChatDesktop.Media

open Library Library.Program Storage.LocalStorage
open Storage hiding Outcome
open Session.AuthFiles (Outcome Halt Directory FileAction StoreUse step steps discard guarded isHex bytesOf)

/-- What a `QFileInfo` says of a path, which names the file whatever the process does. -/
structure MediaPath where
  absolutePath : Bytes
  fileName : Bytes
  deriving DecidableEq

/-- The folder of the cache, and what there is in it besides files. -/
structure MediaFolder where
  basePath : Bytes
  isSymLink : Bytes → Bool := fun _ => false
  isFolder : Bytes → Bool := fun _ => false

namespace MediaCache

def mediaTag : UInt32 := 3

def hashedName (name : Bytes) : Bool :=
  let name := if (bytesOf ".media").isSuffixOf name then name.take (name.length - 6) else name
  decide (name.length = 64) && name.all isHex

section

variable (P : Chat.Platform) (F : MediaFolder)

def isCachePath (path : MediaPath) : Bool :=
  decide (path.absolutePath = F.basePath) && hashedName path.fileName && !F.isSymLink path.fileName

def orMiss : Except Error (Option Bytes) → Bytes
  | .ok (some bytes) => bytes
  | _ => []

def content (file : Bytes) : Bytes := inside P.crypto {} P.appSecretKey (lastRecord P.crypto mediaTag) orMiss file

/-! ### Operations -/

def read (o : StoreUse) (path : MediaPath) : FileAction Bytes := do
  if isCachePath F path then
    let d ← Prog.get
    match if F.isFolder path.fileName then none else d.files path.fileName with
    | none => pure []
    | some file =>
      let bytes ← guarded none
        (o.run (inspect P.crypto {} P.appSecretKey (lastRecord P.crypto mediaTag)) file
          (fun file d => d.put path.fileName file))
      pure (bytes.getD [])
  else pure []

def existsAt (o : StoreUse) (path : MediaPath) : FileAction Bool := do
  let bytes ← read P F o path
  pure (!bytes.isEmpty)

def remove (o : Outcome) (path : MediaPath) : FileAction Bool := do
  if isCachePath F path then
    if F.isFolder path.fileName then
      let _ ← step o id
      pure false
    else
      let d ← Prog.get
      if d.files path.fileName = none then pure true else step o (fun d => d.remove path.fileName)
  else pure false

structure Saving where
  directory : Outcome := .done
  created : Outcome := .done
  store : StoreUse := {}
  renamed : Outcome := .done
  /-- the removal of a temporary file that has not been renamed -/
  removed : Outcome := .done

def replace (o : Saving) (path : MediaPath) (bytes : Bytes) : FileAction Bool := do
  o.store.run (build P.crypto {} P.appSecretKey bytes mediaTag) [] (fun file d => d.fill file)
  if F.isFolder path.fileName then
    let _ ← step o.renamed id
    pure false
  else step o.renamed (fun d => d.rename path.fileName)

def save (o : Saving) (path : MediaPath) (bytes : Bytes) : FileAction Bool := do
  if bytes.isEmpty || !isCachePath F path then pure false
  else if ← steps [o.directory] then
    if ← step o.created Directory.push then
      if ← guarded false (replace P F o path bytes) then pure true
      else do
        discard o.removed
        pure false
    else pure false
  else pure false

end

variable {P : Chat.Platform} {F : MediaFolder} {d s : Directory} {path other : MediaPath} {bytes : Bytes}

/-! ### Reading -/

lemma inspection (P : Chat.Platform) : Inspection P.crypto (lastRecord P.crypto mediaTag) orMiss [] := by
  refine ⟨lastRecord_world, fun _ => rfl, fun w ha => ?_⟩
  rw [lastRecord, ids_of_agrees_empty ha]
  rfl

lemma run_done {α : Type} (p : Storage.Action α) (file : Bytes) (put : Bytes → Directory → Directory) (d : Directory) :
    ({} : StoreUse).run p file put d =
      match p { storage := { opt := {} }, file := file, draws := d.draws } with
      | (.ok a, w) => (.ok a, { put w.file d with draws := w.draws })
      | (.error _, w) => (.error .thrown, { put w.file d with draws := w.draws }) := rfl

lemma content_of_build {w w' : World} (hfile : w.file = [])
    (h : build P.crypto {} P.appSecretKey bytes mediaTag w = (.ok (), w')) : content P w'.file = bytes := by
  obtain ⟨id, cont, hr⟩ := related_of_build (by decide) (by decide) (show mediaTag ≠ kDirTag by decide) hfile h
  obtain ⟨w₁, ha, hi⟩ := (inspection P).inside_of_related hr (fun _ => rfl)
  obtain ⟨hids, hget⟩ := ids_of_agrees_put ha
  rw [content, hi, lastRecord, hids]
  simp only [List.getLast?_singleton, hget]
  rfl

def contents (P : Chat.Platform) (F : MediaFolder) (d : Directory) (path : MediaPath) : Bytes :=
  if isCachePath F path then
    match if F.isFolder path.fileName then none else d.files path.fileName with
    | none => []
    | some file => content P file
  else []

lemma read_eq (d : Directory) (path : MediaPath) : (read P F {} path d).1 = .ok (contents P F d path) := by
  rw [read, contents]
  by_cases hpath : isCachePath F path = true
  · rw [if_pos hpath, if_pos hpath, get_bind_apply]
    cases if F.isFolder path.fileName then none else d.files path.fileName with
    | none => rfl
    | some file =>
      have hseen := (inspection P).seen (w := { storage := { opt := {} }, file := file, draws := d.draws })
        {} P.appSecretKey rfl
      dsimp only
      rw [content, ← hseen, bind_apply, guarded, run_done]
      rcases inspect P.crypto {} P.appSecretKey (lastRecord P.crypto mediaTag)
        { storage := { opt := {} }, file := file, draws := d.draws } with ⟨e | _ | b, w⟩
      · rfl
      · rfl
      · rfl
  · rw [if_neg hpath, if_neg hpath]
    rfl

/-! ### Replacing -/

def Kept (d s : Directory) : Prop := s.files = d.files ∧ s.written = d.written

structure Replaced (P : Chat.Platform) (F : MediaFolder) (path : MediaPath) (bytes : Bytes) (d s : Directory) :
    Prop where
  cached : isCachePath F path = true
  noFolder : F.isFolder path.fileName ≠ true
  written : s.written = path.fileName :: d.written
  file : ∃ file, content P file = bytes ∧ s.files = Function.update d.files path.fileName (some file)

lemma step_kept {o : Outcome} {f : Directory → Directory} (h : ∀ s, Kept d s → Kept d (f s)) :
    Triple (Kept d) (step o f) (fun _ => Kept d) (fun _ => Kept d) := by
  intro s hs
  cases o with
  | done => exact h s hs
  | fails => exact hs
  | stops => exact hs
  | stopsAfter => exact h s hs

lemma steps_kept (os : List Outcome) : Triple (Kept d) (steps os) (fun _ => Kept d) (fun _ => Kept d) := by
  induction os with
  | nil => exact Triple.pure _ (fun _ hs => hs)
  | cons o os ih =>
    refine (step_kept (fun _ hs => hs)).bind (fun b => ?_)
    split_ifs
    · exact ih
    · exact Triple.pure _ (fun _ hs => hs)

lemma discard_kept (o : Outcome) : Triple (Kept d) (discard o) (fun _ => Kept d) (fun _ => Kept d) := by
  refine (step_kept (f := Directory.pop) (fun _ hs => hs)).bind (fun removed s hs => ?_)
  cases removed with
  | true => exact hs
  | false => exact hs

lemma build_kept (o : StoreUse) (bytes : Bytes) :
    Triple (Kept d) (o.run (build P.crypto {} P.appSecretKey bytes mediaTag) [] (fun file d => d.fill file))
      (fun _ s => Kept d s ∧ content P (s.temporaries.headD []) = bytes) (fun _ => Kept d) := by
  refine (step_kept (f := id) (fun _ hs => hs)).bind (fun opened => Triple.ite (fun _ s hs => ?_) (fun _ => ?_))
  · dsimp only
    cases hb : build P.crypto {} P.appSecretKey bytes mediaTag
      { storage := { opt := {} }, file := [], draws := s.draws, faults := o.fault.map Prod.fst } with
    | mk r w =>
      cases r with
      | error e => exact hs
      | ok u => exact ⟨hs, content_of_build rfl hb⟩
  · exact Triple.throw _ (fun _ hs => hs)

lemma replace_spec (o : Saving) (bytes : Bytes) (hpath : isCachePath F path = true) :
    Triple (Kept d) (replace P F o path bytes)
      (fun b s => if b = true then Replaced P F path bytes d s else Kept d s)
      (fun e s => Kept d s ∨ e = .stopped ∧ Replaced P F path bytes d s) := by
  refine ((build_kept o.store bytes).conseq (fun _ hs => hs) (fun _ _ hs => hs) (fun _ _ hs => .inl hs)).bind
    (fun _ => ?_)
  split_ifs with hfolder
  · refine Triple.bind (Q := fun _ => Kept d) ?_ (fun _ => Triple.pure false (fun _ hs => hs))
    exact (step_kept (fun _ hs => hs)).conseq (fun _ hs => hs.1) (fun _ _ hs => hs) (fun _ _ hs => .inl hs)
  · rintro s ⟨hs, hbytes⟩
    have hrenamed : Replaced P F path bytes d (s.rename path.fileName) :=
      ⟨hpath, hfolder, congrArg (path.fileName :: ·) hs.2, _, hbytes, congrArg (Function.update · _ _) hs.1⟩
    cases ho : o.renamed with
    | done => exact hrenamed
    | fails => exact hs
    | stops => exact .inl hs
    | stopsAfter => exact .inr ⟨rfl, hrenamed⟩

lemma save_spec (o : Saving) (path : MediaPath) (bytes : Bytes) :
    Triple (Kept d) (save P F o path bytes)
      (fun b s => if b = true then Replaced P F path bytes d s else Kept d s)
      (fun _ s => Kept d s ∨ Replaced P F path bytes d s) := by
  have hfalse : Triple (Kept d) (pure false : FileAction Bool)
      (fun b s => if b = true then Replaced P F path bytes d s else Kept d s)
      (fun _ s => Kept d s ∨ Replaced P F path bytes d s) := Triple.pure false (fun _ hs => hs)
  have hstops {α : Type} {p : FileAction α} (h : Triple (Kept d) p (fun _ => Kept d) (fun _ => Kept d)) :
      Triple (Kept d) p (fun _ => Kept d) (fun _ s => Kept d s ∨ Replaced P F path bytes d s) :=
    h.conseq (fun _ hs => hs) (fun _ _ hs => hs) (fun _ _ hs => .inl hs)
  refine Triple.ite (fun _ => hfalse) (fun hvalid => (hstops (steps_kept _)).bind (fun made => ?_))
  have hpath : isCachePath F path = true := by
    rw [Bool.or_eq_true, not_or, Bool.not_eq_true', Bool.not_eq_false] at hvalid
    exact hvalid.2
  refine Triple.ite (fun _ => ?_) (fun _ => hfalse)
  refine (hstops (step_kept (f := Directory.push) (fun _ hs => hs))).bind (fun created => ?_)
  refine Triple.ite (fun _ => ?_) (fun _ => hfalse)
  have hreplace : Triple (Kept d) (guarded false (replace P F o path bytes))
      (fun b s => if b = true then Replaced P F path bytes d s else Kept d s)
      (fun _ s => Kept d s ∨ Replaced P F path bytes d s) := by
    intro s hs
    have h := replace_spec (P := P) o bytes hpath s hs
    rw [guarded]
    rcases hr : replace P F o path bytes s with ⟨e | b, t⟩
    · rw [hr] at h
      cases e with
      | thrown =>
        obtain hk | ⟨he, -⟩ := h
        · exact hk
        · cases he
      | stopped => exact h.imp_right And.right
    · rw [hr] at h
      exact h
  refine hreplace.bind (fun replaced => ?_)
  cases replaced with
  | true => exact Triple.pure true (fun _ hs => hs)
  | false => exact (hstops (discard_kept _)).bind (fun _ => hfalse)

lemma save_ends (o : Saving) (path : MediaPath) (bytes : Bytes) (d : Directory) :
    Kept d (save P F o path bytes d).2 ∧ (save P F o path bytes d).1 ≠ .ok true ∨
      Replaced P F path bytes d (save P F o path bytes d).2 ∧ (save P F o path bytes d).1 ≠ .ok false := by
  have hspec := save_spec (P := P) (F := F) o path bytes d ⟨rfl, rfl⟩
  rcases hs : save P F o path bytes d with ⟨e | b, s⟩
  · rw [hs] at hspec
    exact hspec.imp (fun h => ⟨h, nofun⟩) (fun h => ⟨h, nofun⟩)
  · rw [hs] at hspec
    cases b with
    | true => exact .inr ⟨hspec, nofun⟩
    | false => exact .inl ⟨hspec, nofun⟩

/-! ### Other files -/

lemma Kept.contents (h : Kept d s) (path : MediaPath) : contents P F s path = contents P F d path := by
  rw [MediaCache.contents, MediaCache.contents, h.1]

lemma Replaced.contents_same (h : Replaced P F path bytes d s) : contents P F s path = bytes := by
  obtain ⟨file, hbytes, hfiles⟩ := h.file
  rw [MediaCache.contents, if_pos h.cached, if_neg h.noFolder, hfiles, Function.update_self]
  exact hbytes

lemma Replaced.files_other (h : Replaced P F path bytes d s) (hcache : isCachePath F other = true)
    (hother : other ≠ path) : s.files other.fileName = d.files other.fileName := by
  obtain ⟨file, -, hfiles⟩ := h.file
  rw [hfiles, Function.update_of_ne]
  intro hname
  have hfolder {path : MediaPath} (hpath : isCachePath F path = true) : path.absolutePath = F.basePath := by
    rw [isCachePath, Bool.and_eq_true, Bool.and_eq_true, decide_eq_true_eq] at hpath
    exact hpath.1.1
  have hsame : other.absolutePath = path.absolutePath := (hfolder hcache).trans (hfolder h.cached).symm
  cases other
  cases path
  exact hother (congrArg₂ MediaPath.mk hsame hname)

lemma same_answers (h : isCachePath F other = true → s.files other.fileName = d.files other.fileName) :
    (read P F {} other s).1 = (read P F {} other d).1 ∧ (existsAt P F {} other s).1 = (existsAt P F {} other d).1 ∧
      ∀ o, (remove F o other s).1 = (remove F o other d).1 := by
  have hcontents : contents P F s other = contents P F d other := by
    rw [contents, contents]
    split_ifs with hcache
    · rfl
    · rw [h hcache]
    · rfl
  have hread : (read P F {} other s).1 = (read P F {} other d).1 := by rw [read_eq, read_eq, hcontents]
  refine ⟨hread, ?_, fun o => ?_⟩
  · rw [existsAt, bind_apply, bind_apply]
    rcases hs : read P F {} other s with ⟨rs, s'⟩
    rcases hd : read P F {} other d with ⟨rd, d'⟩
    rw [hs, hd] at hread
    dsimp only at hread
    rw [hread]
    cases rd <;> rfl
  · rw [remove]
    split_ifs with hcache
    · cases o <;> rfl
    · rw [get_bind_apply, get_bind_apply, h hcache]
      split_ifs
      · rfl
      · cases o <;> rfl
    · rfl

lemma existsAt_missing (u : StoreUse) (hfile : d.files path.fileName = none) :
    (existsAt P F u path d).1 = .ok false := by
  have hread : read P F u path d = (.ok [], d) := by
    rw [read]
    split_ifs
    · rfl
    · rw [get_bind_apply, hfile]
      rfl
    · rfl
  rw [existsAt, bind_ok hread]
  rfl

lemma files_removed (o : Outcome) (h : (remove F o path d).1 = .ok true) :
    (remove F o path d).2.files path.fileName = none := by
  rw [remove] at h ⊢
  split_ifs at h ⊢ with hcache hfolder
  · cases o <;> cases h
  · rw [get_bind_apply] at h ⊢
    split_ifs at h ⊢ with hfile
    · exact hfile
    · cases o with
      | done => exact Function.update_self ..
      | fails => cases h
      | stops => cases h
      | stopsAfter => cases h
  · cases h

/-- Whatever fails, and wherever the process stops, a file that is saved is replaced as a whole. -/
theorem save_atomic (P : Chat.Platform) (F : MediaFolder) (o : Saving) (path : MediaPath) (bytes : Bytes)
    (d : Directory) :
    let saved := save P F o path bytes d
    (saved.1 = .ok true → saved.2.written = path.fileName :: d.written ∧ (read P F {} path saved.2).1 = .ok bytes) ∧
      (saved.1 ≠ .ok true →
        saved.2.written = d.written ∧ (read P F {} path saved.2).1 = (read P F {} path d).1 ∨
          saved.2.written = path.fileName :: d.written ∧ (read P F {} path saved.2).1 = .ok bytes) ∧
      (∀ other ≠ path, (read P F {} other saved.2).1 = (read P F {} other d).1 ∧
        (existsAt P F {} other saved.2).1 = (existsAt P F {} other d).1 ∧
        ∀ o, (remove F o other saved.2).1 = (remove F o other d).1) ∧
      ∀ o, (remove F o path d).1 = .ok true → ∀ u, (existsAt P F u path (remove F o path d).2).1 = .ok false := by
  intro saved
  have hkept (h : Kept d saved.2) :
      saved.2.written = d.written ∧ (read P F {} path saved.2).1 = (read P F {} path d).1 :=
    ⟨h.2, by rw [read_eq, read_eq, h.contents]⟩
  have hreplaced (h : Replaced P F path bytes d saved.2) :
      saved.2.written = path.fileName :: d.written ∧ (read P F {} path saved.2).1 = .ok bytes :=
    ⟨h.written, by rw [read_eq, h.contents_same]⟩
  have hends := save_ends (P := P) (F := F) o path bytes d
  refine ⟨fun htrue => ?_, fun _ => ?_, fun other hother => same_answers (fun hcache => ?_), fun o h u => ?_⟩
  · obtain ⟨-, hne⟩ | ⟨h, -⟩ := hends
    · exact absurd htrue hne
    · exact hreplaced h
  · exact hends.imp (fun h => hkept h.1) (fun h => hreplaced h.1)
  · obtain ⟨h, -⟩ | ⟨h, -⟩ := hends
    · rw [h.1]
    · exact h.files_other hcache hother
  · exact existsAt_missing u (files_removed o h)

end MediaCache

end ChatDesktop.Media
