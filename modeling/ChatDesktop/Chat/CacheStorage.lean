import ChatDesktop.Chat.MessageCache
import ChatDesktop.Storage.SetPath

/-! Values under a name and a secret: a file for each pair, in it one record, and one object that is set to the file
of the pair before every operation. Older versions have left files with several records. -/

namespace ChatDesktop.Chat

open Library Library.Program Storage

structure UserKey where
  logicalName : QString
  secretKey : QString
  deriving DecidableEq

namespace CacheStorage

def USER : UInt32 := 1

section

variable (C : Crypto)

def removeOthers (last : ℕ) : List ℕ → Action Unit
  | [] => pure ()
  | id :: records => do
    if id = last then removeOthers last records
    else
      let _ ← LocalStorage.remove C id
      removeOthers last records

def saveRecord (value : Bytes) : Action Bool := do
  let w ← Prog.get
  match (LocalStorage.ids w.storage USER).getLast? with
  | none =>
    let _ ← LocalStorage.insert C value USER
    LocalStorage.sync
    pure true
  | some last =>
    let found ← LocalStorage.update C last value
    if found then
      removeOthers C last (LocalStorage.ids w.storage USER)
      LocalStorage.sync
      pure true
    else pure false

def userRecords (w : World) : Except Error (List (Option Bytes)) :=
  (LocalStorage.ids w.storage USER).mapM (LocalStorage.get C w)

end

section

variable (P : Platform)

def fileName (k : UserKey) : Bytes := FileNameHelper.hexName P k.logicalName k.secretKey

def save (value : QString) (k : UserKey) : StoresAction Bool := do
  setPath P.crypto {} (fileName P k) P.appSecretKey
  use none (saveRecord P.crypto (P.toUtf8 value))

def lookup (k : UserKey) : StoresAction QString := do
  let c ← Prog.get
  match c.files (fileName P k) with
  | none => pure []
  | some _ =>
    setPath P.crypto {} (fileName P k) P.appSecretKey
    let value ← use none (Prog.read (lastRecord P.crypto USER))
    pure ((value.map P.fromUtf8).getD [])

def getUser (k : UserKey) : StoresAction QString := lookup P k

def read (k : UserKey) : StoresAction QString := lookup P k

/-! ### Calls -/

inductive Call
  | save (value : QString) (k : UserKey)
  | read (k : UserKey)
  | getUser (k : UserKey)

def Call.key : Call → UserKey
  | .save _ k | .read k | .getUser k => k

inductive Answer
  | accepted (b : Bool)
  | answered (value : QString)
  deriving DecidableEq

def perform : Call → StoresAction Answer
  | .save value k => do
    let b ← save P value k
    pure (.accepted b)
  | .read k => do
    let value ← read P k
    pure (.answered value)
  | .getUser k => do
    let value ← getUser P k
    pure (.answered value)

def next (c : Stores) (call : Call) : Stores := (perform P call c).2

def holding (file : Option Bytes) : Except Error (List (Option Bytes)) :=
  (inspect P.crypto {} P.appSecretKey (userRecords P.crypto) { storage := { opt := {} }, file := file.getD [] }).1

def NoIoFailure : Stores → List Call → Prop
  | _, [] => True
  | c, call :: calls => (∀ e, (perform P call c).1 = .error e → ¬IsIoFailure e) ∧ NoIoFailure (next P c call) calls

/-- What an older version has left of a file: nothing, or a store in which no record has a name. -/
def LeftBehind (file : Option Bytes) (a : Store) : Prop :=
  (file.getD [] = [] ∧ a = .empty) ∨ ∃ w, Reachable P.crypto P.appSecretKey w ∧
    (∀ n, LocalStorage.root w.storage n = none) ∧ Agrees P.crypto w a ∧ file = some w.file

end

def savedFor (k : UserKey) : Call → Option QString
  | .save value k' => if k' = k then some value else none
  | _ => none

def lastSaved (k : UserKey) (calls : List Call) : Option QString := (calls.filterMap (savedFor k)).getLast?

end CacheStorage

end ChatDesktop.Chat
