import ChatDesktop.Session.AuthSnapshot

/-! The directory of the sessions: an index with the name of the active account's file, a file for each account
and, from earlier versions, files with fixed names. A step on the file system may fail, and the process may
stop before or after it. -/

namespace ChatDesktop.Session.AuthFiles

open Library Library.Program Storage

inductive Outcome
  | done
  | fails
  | stops
  | stopsAfter
  deriving DecidableEq

/-- A `std::exception`, or the end of the process. -/
inductive Halt
  | thrown
  | stopped
  deriving DecidableEq

/-- `temporaries` has the files with random names: those in use, the last one first, and then the ones that have
been left behind. `written` lists the paths that sessions have been written to. -/
structure Directory where
  files : Bytes → Option Bytes := fun _ => none
  temporaries : List Bytes := []
  draws : ℕ := 0
  written : List Bytes := []

abbrev FileAction := Prog Directory Halt

/-! ### Steps -/

def step (o : Outcome) (f : Directory → Directory) : FileAction Bool := fun d =>
  match o with
  | .done => (.ok true, f d)
  | .fails => (.ok false, d)
  | .stops => (.error .stopped, d)
  | .stopsAfter => (.error .stopped, f d)

def steps : List Outcome → FileAction Bool
  | [] => pure true
  | o :: os => do
    if ← step o id then steps os else pure false

namespace Directory

def put (d : Directory) (path bytes : Bytes) : Directory :=
  { d with files := Function.update d.files path (some bytes) }

def remove (d : Directory) (path : Bytes) : Directory := { d with files := Function.update d.files path none }

def push (d : Directory) : Directory := { d with temporaries := [] :: d.temporaries }

def fill (d : Directory) (bytes : Bytes) : Directory := { d with temporaries := bytes :: d.temporaries.tail }

def pop (d : Directory) : Directory := { d with temporaries := d.temporaries.tail }

def leave (d : Directory) : Directory := { d with temporaries := d.temporaries.tail ++ d.temporaries.take 1 }

def rename (d : Directory) (path : Bytes) : Directory :=
  { d.pop with
    files := Function.update d.files path (some (d.temporaries.headD []))
    written := path :: d.written }

end Directory

def remove (o : Outcome) (path : Bytes) : FileAction Unit := do
  let _ ← step o (fun d => d.remove path)

def removeAll (o : Bytes → Outcome) : List Bytes → FileAction Unit
  | [] => pure ()
  | path :: paths => do
    remove (o path) path
    removeAll o paths

def discard (o : Outcome) : FileAction Unit := do
  let removed ← step o Directory.pop
  Prog.when (removed = false) (Prog.modify Directory.leave)

def closing {α : Type} (o : Outcome) (p : FileAction α) : FileAction α := fun d =>
  match p d with
  | (.error .stopped, d) => (.error .stopped, d)
  | (r, d) =>
    match discard o d with
    | (.ok _, d) => (r, d)
    | (.error e, d) => (.error e, d)

def guarded {α : Type} (fallback : α) (p : FileAction α) : FileAction α := fun d =>
  match p d with
  | (.error .thrown, d) => (.ok fallback, d)
  | (r, d) => (r, d)

/-- How a store is used: whether it is opened, and which of its file operations throws, or is the one before
which the process stops. -/
structure StoreUse where
  opened : Outcome := .done
  fault : Option (ℕ × Bool) := none

def StoreUse.halt (o : StoreUse) (w : World) : Halt :=
  match o.fault with
  | some (_, true) => if w.faults = none then .stopped else .thrown
  | _ => .thrown

/-- A program of a new object on the file that `get` finds; `put` keeps what becomes of the file. -/
def StoreUse.run {α : Type} (o : StoreUse) (p : Action α) (bytes : Bytes) (put : Bytes → Directory → Directory) :
    FileAction α := do
  if ← step o.opened id then
    fun d =>
      match p { storage := { opt := {} }, file := bytes, draws := d.draws, faults := o.fault.map Prod.fst } with
      | (.ok a, w) => (.ok a, { put w.file d with draws := w.draws })
      | (.error _, w) => (.error (o.halt w), { put w.file d with draws := w.draws })
  else Prog.throw .thrown

/-! ### Names -/

section

variable (P : Chat.Platform)

def bytesOf (name : String) : Bytes := name.toList.map (fun c => UInt8.ofNat c.toNat)

def indexPath : Bytes := Chat.FileNameHelper.hexName P (key "active_auth") []

def accountFileName (object : Json.Object) : Option Bytes :=
  let user := (object.value (key "user")).toObject
  let username := (user.value (key "username")).toText
  let userId := (user.value (key "id")).toText
  if username.isEmpty || userId.isEmpty then none
  else some (Chat.FileNameHelper.hexName P username (Text.ofLatin1 (base64 (P.toUtf8 (userId ++ username)))))

def legacyPaths : List Bytes :=
  [Chat.FileNameHelper.hexName P (key "auth") [], bytesOf "auth.store", bytesOf "cache"]

def isHex (b : UInt8) : Bool := (0x30 ≤ b && b ≤ 0x39) || (0x61 ≤ b && b ≤ 0x66)

def indexValid (name : Bytes) : Bool := name.isEmpty || (decide (name.length = 32) && name.all isHex)

/-! ### The index -/

structure IndexReading where
  opened : Outcome := .done
  read : Outcome := .done

def readActiveName (o : IndexReading) : FileAction (Option Bytes) := do
  let d ← Prog.get
  match d.files (indexPath P) with
  | none => pure none
  | some bytes =>
    if ← step o.opened id then
      let read ← step o.read id
      let name := if read then bytes.take 33 else []
      if indexValid name then pure (some name) else Prog.throw .thrown
    else Prog.throw .thrown

structure IndexWriting where
  directory : Outcome := .done
  opened : Outcome := .done
  permissions : Outcome := .done
  write : Outcome := .done
  commit : Outcome := .done

def writeActiveName (o : IndexWriting) (name : Bytes) : FileAction Bool := do
  if ← steps [o.directory, o.opened, o.permissions, o.write] then step o.commit (fun d => d.put (indexPath P) name)
  else pure false

/-! ### Snapshots -/

def readSnapshot (o : StoreUse) (path : Bytes) : FileAction (Option Json.Object) := do
  let d ← Prog.get
  match d.files path with
  | none => pure none
  | some bytes => do
    let object ← o.run (loadSnapshot P) bytes (fun bytes d => d.put path bytes)
    pure (some object)

structure SnapshotWriting where
  directory : Outcome := .done
  created : Outcome := .done
  store : StoreUse := {}
  source : Outcome := .done
  destination : Outcome := .done
  permissions : Outcome := .done
  copy : Outcome := .done
  commit : Outcome := .done
  /-- the removal of a destination that has not been committed -/
  discarded : Outcome := .done
  /-- the removal of the temporary file -/
  removed : Outcome := .done

def copySnapshot (o : SnapshotWriting) (path bytes : Bytes) : FileAction Bool := do
  if ← steps [o.permissions] then
    if ← step o.copy (fun d => d.fill bytes) then step o.commit (fun d => d.rename path) else pure false
  else pure false

def replaceSnapshot (o : SnapshotWriting) (path : Bytes) : FileAction Bool := do
  let d ← Prog.get
  let bytes := d.temporaries.headD []
  if ← steps [o.source] then
    if ← step o.destination Directory.push then
      if ← copySnapshot o path bytes then pure true
      else do
        discard o.discarded
        pure false
    else pure false
  else pure false

def writeSnapshot (o : SnapshotWriting) (path : Bytes) (object : Json.Object) : FileAction Bool := do
  if ← steps [o.directory] then
    if ← step o.created Directory.push then
      closing o.removed do
        o.store.run (buildSnapshot P object) [] (fun bytes d => d.fill bytes)
        replaceSnapshot o path
    else pure false
  else pure false

/-! ### Sessions -/

structure SessionWriting where
  name : IndexReading := {}
  snapshot : SnapshotWriting := {}
  index : IndexWriting := {}
  orphan : Outcome := .done
  previous : Outcome := .done
  legacy : Bytes → Outcome := fun _ => .done

def removeNamed (o : Outcome) (kept : Bytes) : Option Bytes → FileAction Unit
  | none => pure ()
  | some name => if name ≠ [] ∧ name ≠ kept then remove o name else pure ()

def writeSession (o : SessionWriting) (object : Json.Object) : FileAction Bool := do
  match accountFileName P object with
  | none => Prog.throw .thrown
  | some name =>
    -- a corrupt index does not keep a login from being saved
    let previous ← guarded none (readActiveName P o.name)
    if ← writeSnapshot P o.snapshot name object then
      let named ← if previous = some name then pure true else writeActiveName P o.index name
      if named then
        removeNamed o.previous name previous
        removeAll o.legacy ((legacyPaths P).filter (fun legacy => !decide (legacy = name)))
        pure true
      else
        remove o.orphan name
        pure false
    else pure false

structure SessionReading where
  name : IndexReading := {}
  snapshot : Bytes → StoreUse := fun _ => {}
  migration : SessionWriting := {}

def migrate (o : SessionReading) : List Bytes → FileAction (Option Json.Object)
  | [] => pure none
  | legacy :: rest => do
    match ← readSnapshot P (o.snapshot legacy) legacy with
    | some object => if ← writeSession P o.migration object then pure (some object) else Prog.throw .thrown
    | none => migrate o rest

def readSession (o : SessionReading) : FileAction (Option Json.Object) := do
  match ← readActiveName P o.name with
  | some name =>
    if name = [] then pure none
    else
      match ← readSnapshot P (o.snapshot name) name with
      | some object => if accountFileName P object = some name then pure (some object) else Prog.throw .thrown
      | none => pure none
  | none => migrate P o (legacyPaths P)

/-! ### `AuthStorage` -/

def save (o : SessionWriting) (object : Json.Object) : FileAction Bool := guarded false (writeSession P o object)

def read (o : SessionReading) : FileAction (Option Json.Object) := guarded none (readSession P o)

structure Clearing where
  name : IndexReading := {}
  index : IndexWriting := {}
  active : Outcome := .done
  legacy : Bytes → Outcome := fun _ => .done

def clearSession (o : Clearing) : FileAction Bool := do
  let name ← readActiveName P o.name
  if ← writeActiveName P o.index [] then
    removeNamed o.active [] name
    removeAll o.legacy (legacyPaths P)
    pure true
  else pure false

def clear (o : Clearing) : FileAction Bool := guarded false (clearSession P o)

structure Updating where
  reading : SessionReading := {}
  writing : SessionWriting := {}

def updateSession (o : Updating) (modify : Json.Object → Option Json.Object) : FileAction Bool := do
  match ← readSession P o.reading with
  | none => pure false
  | some object =>
    match modify object with
    | none => pure false
    | some object => writeSession P o.writing object

def update (o : Updating) (modify : Json.Object → Option Json.Object) : FileAction Bool :=
  guarded false (updateSession P o modify)

/-! ### Calls -/

inductive Call
  | save (o : SessionWriting) (object : Json.Object)
  | read (o : SessionReading)
  | clear (o : Clearing)
  | update (o : Updating) (modify : Json.Object → Option Json.Object)

inductive Answer
  | accepted (b : Bool)
  | answered (object : Option Json.Object)
  | stopped

def answering {α : Type} (f : α → Answer) (p : FileAction α) : StateM Directory Answer := fun d =>
  match p d with
  | (.ok a, d) => (f a, d)
  | (.error _, d) => (.stopped, d)

def perform : Call → StateM Directory Answer
  | .save o object => answering .accepted (save P o object)
  | .read o => answering .answered (read P o)
  | .clear o => answering .accepted (clear P o)
  | .update o modify => answering .accepted (update P o modify)

def next (d : Directory) (c : Call) : Directory := (perform P c d).2

end

end ChatDesktop.Session.AuthFiles
