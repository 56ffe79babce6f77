import ChatDesktop.Chat.Dto
import ChatDesktop.Storage.Reopening
import ChatDesktop.Storage.Snapshot

/-! The message cache: a file for each conversation, and the stores of the files used last kept open. -/

namespace ChatDesktop.Chat

open Library Library.Program Storage

/-- What the cache takes from the platform: encryption, HMAC-SHA256, strings as UTF-8 and objects as JSON
text; what `++` makes of an `int`, of the largest anything; and the program's own password for its files. -/
structure Platform where
  crypto : Crypto
  hmac : Bytes → Bytes → Bytes
  toUtf8 : QString → Bytes
  fromUtf8 : Bytes → QString
  json : JsonText
  increment : Int32 → Int32 := fun n => n + 1
  appSecretKey : Bytes

/-! ### File names -/

namespace FileNameHelper

/-- The key and the message that `hexName` has hashed: of each string, as many bytes as it has code units. -/
def macInput (logicalName secret : QString) : Bytes × Bytes :=
  let key := Text.ofAscii "storage/cache/" ++ secret
  ((Text.memory key).take key.length, (Text.memory logicalName).take logicalName.length)

def hexName (P : Platform) (logicalName secret : QString) : Bytes :=
  let input := macInput logicalName secret
  hex ((P.hmac input.1 input.2).take 16)

end FileNameHelper

/-! ### Open stores -/

/-- The directory of the cache and the open stores, the one used last first; `caught` lists the exceptions
that have been caught and warned about, with the file they are about. -/
structure Cache where
  files : Bytes → Option Bytes := fun _ => none
  openStores : List (Bytes × LocalStorage) := []
  draws : ℕ := 0
  caught : List (Bytes × Error) := []

abbrev CacheAction := Prog Cache Error

def Cache.world (c : Cache) (path : Bytes) (s : LocalStorage) : World :=
  { storage := s, file := (c.files path).getD [], draws := c.draws }

def Cache.put (c : Cache) (path : Bytes) (w : World) (rest : List (Bytes × LocalStorage)) : Cache :=
  { c with
    files := Function.update c.files path (some w.file)
    openStores := (path, w.storage) :: rest
    draws := w.draws }

namespace MessageCache

def kMaxOpenStores : ℕ := 8

variable (P : Platform)

/-- A new store for `path`; the one used least recently gives way. -/
def openNew (path : Bytes) (others : List (Bytes × LocalStorage)) : CacheAction LocalStorage := fun c =>
  match LocalStorage.construct P.crypto {} P.appSecretKey (c.world path { opt := {} }) with
  | (.ok _, w) =>
    (.ok w.storage, c.put path w (if kMaxOpenStores ≤ others.length then others.dropLast else others))
  | (.error e, w) =>
    (.error e, { c with
      files := Function.update c.files path (some w.file)
      openStores := others
      draws := w.draws })

def openStore (path : Bytes) : CacheAction LocalStorage := fun c =>
  let others := c.openStores.eraseP (fun o => decide (o.1 = path))
  match c.openStores.find? (fun o => decide (o.1 = path)) with
  | some o =>
    if (c.files path).isSome then (.ok o.2, { c with openStores := o :: others })
    else openNew P path others c
  | none => openNew P path c.openStores c

def use {α : Type} (path : Bytes) (s : LocalStorage) (p : Action α) : CacheAction α := fun c =>
  match p (c.world path s) with
  | (r, w) => (r, c.put path w c.openStores.tail)

/-- An exception is caught: all stores are closed, and `fallback` is the answer. -/
def guarded {α : Type} (path : Bytes) (fallback : α) (p : CacheAction α) : StateM Cache α := fun c =>
  match p c with
  | (.ok a, c') => (a, c')
  | (.error e, c') => (fallback, { c' with openStores := [], caught := (path, e) :: c'.caught })

def saveSnapshot (objects logicalName secret : QString) (root : Bytes) : StateM Cache Bool :=
  let file := FileNameHelper.hexName P logicalName secret
  guarded file false do
    let s ← openStore P file
    use file s (Storage.MessageCache.saveSnapshot P.crypto (P.toUtf8 objects) root)

def readSnapshot (logicalName secret : QString) (root : Bytes) : StateM Cache (Option QString) := fun c =>
  let file := FileNameHelper.hexName P logicalName secret
  guarded file none (do
    let c ← Prog.get
    match c.files file with
    | none => pure none
    | some _ =>
      let s ← openStore P file
      let record ← use file s (Prog.read (Storage.MessageCache.readSnapshot P.crypto root))
      pure (record.map P.fromUtf8)) c

def clear (logicalName secret : QString) : StateM Cache Bool := fun c =>
  let file := FileNameHelper.hexName P logicalName secret
  guarded file false (do
    let c ← Prog.get
    match c.files file with
    | none => pure true
    | some _ =>
      let s ← openStore P file
      use file s (Storage.MessageCache.clear P.crypto)) c

def closeAll : StateM Cache Unit := fun c => ((), { c with openStores := [] })

end MessageCache

end ChatDesktop.Chat
