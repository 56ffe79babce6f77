import ChatDesktop.Library.Reactive
import ChatDesktop.Library.Text
import Mathlib.Data.Int.Notation

/-! The URLs of images that have been read from the media cache. An image is looked up, read and kept in three
sections of `imageUrl` under a lock, and other calls may come between them. -/

namespace ChatDesktop.Media

open Library Library.Text Library.Reactive

/-- A path of the media cache; nothing makes or removes a link there. -/
structure CachePath where
  hashedName : Bool := true
  isSymLink : Bool := false

def CachePath.isCachePath (path : CachePath) : Bool := path.hashedName && !path.isSymLink

/-- `bytes` is what is read from the file, which is nothing if it is no store. A store that `save` has put there stays
as it is when it is read; any other file may be cut off. -/
structure CacheFile where
  bytes : List UInt8
  modified : ℤ
  size : ℕ
  saved : Bool := false

/-- What a `QFileInfo` says once it is asked. -/
structure FileInfo where
  isFile : Bool := false
  isSymLink : Bool := false
  modified : Option ℤ := none
  size : ℕ := 0

structure CachedImage where
  modified : Option ℤ
  size : ℕ
  url : Text

/-- A call of `imageUrl` before each of its sections. The `QFileInfo` has been asked if there was an entry. -/
inductive ImageCall
  | begun
  | missed (info : Option FileInfo)
  | read (info : Option FileInfo) (bytes : List UInt8)

/-- One path, its entry in `imageSources`, and the calls of `imageUrl` that have not returned. -/
structure ImageSources where
  path : CachePath := {}
  file : Option CacheFile := none
  cached : Option CachedImage := none
  calls : List ImageCall := []

def dataUrl (bytes : List UInt8) : Text := ofAscii "data:image/jpeg;base64," ++ ofLatin1 (base64 bytes)

namespace ImageSources

def fileInfo (s : ImageSources) : FileInfo :=
  match s.file with
  | none => { isSymLink := s.path.isSymLink }
  | some file =>
    { isFile := true, isSymLink := s.path.isSymLink, modified := some file.modified, size := file.size }

def readBytes (s : ImageSources) : List UInt8 :=
  if s.path.isCachePath then (s.file.map CacheFile.bytes).getD [] else []

/-! ### The sections -/

def isCurrent (cached : CachedImage) (info : FileInfo) : Bool :=
  info.isFile && !info.isSymLink && decide (cached.modified = info.modified) && decide (cached.size = info.size)

def lookup (s : ImageSources) : (Text ⊕ Option FileInfo) × ImageSources :=
  match s.cached with
  | none => (.inr none, s)
  | some cached =>
    if isCurrent cached s.fileInfo then (.inl cached.url, s)
    else (.inr (some s.fileInfo), { s with cached := none })

def cost (bytes : List UInt8) : ℕ := (bytes.length * 3 + 1023) / 1024

def keep (info : Option FileInfo) (bytes : List UInt8) (s : ImageSources) : ImageSources :=
  if cost bytes ≤ 32 * 1024 then
    let info := info.getD s.fileInfo
    { s with cached := some { modified := info.modified, size := info.size, url := dataUrl bytes } }
  else s

def imageUrl (s : ImageSources) : Text × ImageSources :=
  match s.lookup with
  | (.inl url, s) => (url, s)
  | (.inr info, s) =>
    let bytes := s.readBytes
    if bytes.isEmpty then ([], s) else (dataUrl bytes, s.keep info bytes)

/-- `renamed` is the time and the size of the store that takes the place of the file, unless something fails before. -/
def save (bytes : List UInt8) (renamed : Option (ℤ × ℕ)) (s : ImageSources) : ImageSources :=
  if bytes.isEmpty || !s.path.isCachePath then s
  else
    let s := { s with cached := none }
    match renamed with
    | none => s
    | some (modified, size) =>
      { s with file := some { bytes := bytes, modified := modified, size := size, saved := true } }

def remove (removes : Bool) (s : ImageSources) : ImageSources :=
  let s := { s with cached := none }
  if s.path.isCachePath && removes then { s with file := none } else s

end ImageSources

/-- `touched` is the new time and size of a file that is cut off when it is read. -/
inductive ImageEvent
  | imageUrl
  | lookup (call : ℕ)
  | read (call : ℕ) (touched : Option (ℤ × ℕ))
  | keep (call : ℕ)
  | save (bytes : List UInt8) (renamed : Option (ℤ × ℕ))
  | remove (removes : Bool)
  | evict

namespace ImageSources

def touch (touched : Option (ℤ × ℕ)) (s : ImageSources) : ImageSources :=
  match s.file, touched with
  | some file, some (modified, size) =>
    if file.saved then s else { s with file := some { file with modified := modified, size := size } }
  | _, _ => s

def returns (call : ℕ) (s : ImageSources) : ImageSources := { s with calls := s.calls.eraseIdx call }

def becomes (call : ℕ) (c : ImageCall) (s : ImageSources) : ImageSources := { s with calls := s.calls.set call c }

def step (s : ImageSources) : ImageEvent → ImageSources
  | .imageUrl => { s with calls := s.calls ++ [.begun] }
  | .lookup call =>
    match s.calls[call]? with
    | some .begun =>
      match s.lookup with
      | (.inl _, s) => s.returns call
      | (.inr info, s) => s.becomes call (.missed info)
    | _ => s
  | .read call touched =>
    match s.calls[call]? with
    | some (.missed info) =>
      if s.readBytes.isEmpty then (s.touch touched).returns call
      else (s.touch touched).becomes call (.read info s.readBytes)
    | _ => s
  | .keep call =>
    match s.calls[call]? with
    | some (.read info bytes) => (s.keep info bytes).returns call
    | _ => s
  | .save bytes renamed => s.save bytes renamed
  | .remove removes => s.remove removes
  | .evict => { s with cached := none }

def expected (s : ImageSources) : Text := if s.readBytes.isEmpty then [] else dataUrl s.readBytes

/-- `imageUrl` gives the URL of what is in the file now. -/
def Right (s : ImageSources) : Prop := s.imageUrl.1 = s.expected

def Meets (s : ImageSources) : ImageEvent → Prop
  | .keep call => ∀ info bytes file, s.calls[call]? = some (.read info bytes) → s.file = some file →
      cost bytes ≤ 32 * 1024 → (info.getD s.fileInfo).modified = some file.modified →
      (info.getD s.fileInfo).size = file.size → bytes = file.bytes
  | _ => True

end ImageSources

end ChatDesktop.Media
