import ChatDesktop.Library.ByteFile
import ChatDesktop.Library.Program
import ChatDesktop.Library.SortedMap
import ChatDesktop.Storage.Crypto
import Mathlib.Data.List.Lex

/-! The encrypted block store. A store lives in one file: a header block, then numbered blocks,
each sealed under its number. A record is a chain of blocks: a head and its continuations. -/

namespace ChatDesktop.Storage

open Library Library.Program

def kDirTag : UInt32 := 0xFFFFFFFF
def kSalt : ℕ := 16
def kHdrAad : ℕ := 8 + kSalt + 4
def kHdr : ℕ := kHdrAad + kNonce + 16 + kTag
def kBlkHdr : ℕ := 17

def kMagic : Bytes := [0x45, 0x53, 0x42, 0x53, 0x30, 0x30, 0x30, 0x31]

def kCheck : Bytes :=
  [0x45, 0x53, 0x42, 0x53, 0x2D, 0x43, 0x48, 0x45, 0x43, 0x4B, 0x2D, 0x4F, 0x4B, 0x21, 0x21, 0x21]

/-- The largest file offset, `off_t` being a signed 64-bit integer. -/
def maxOffset : ℕ := 2 ^ 63 - 1

def w32 (v : ℕ) : Bytes := LittleEndian.bytes 4 v
def w64 (v : ℕ) : Bytes := LittleEndian.bytes 8 v
def r32 (p : Bytes) : ℕ := LittleEndian.value (p.take 4)
def r64 (p : Bytes) : ℕ := LittleEndian.value (p.take 8)

inductive Error
  | runtimeError (what : String)
  | invalidArgument (what : String)
  | logicError (what : String)
  deriving DecidableEq, Repr

structure Options where
  blockSize : ℕ := 4096
  durable : Bool := false
  deriving DecidableEq

/-- A block as read back; `data` is the used part of its payload. Types: 0 free, 1 record head,
2 continuation. -/
structure Blk where
  type : UInt8 := 0
  tag : UInt32 := 0
  next : ℕ := 0
  data : Bytes := []
  deriving DecidableEq

structure HeadInfo where
  tag : UInt32
  next : ℕ
  deriving DecidableEq

abbrev TagIndex := SortedMap UInt32 (SortedMap ℕ Unit)
abbrev Roots := SortedMap Bytes ℕ

structure LocalStorage where
  opt : Options
  opened : Bool := false
  bs : ℕ := 0
  plain : ℕ := 0
  cap : ℕ := 0
  /-- Data blocks are numbered from 1 to `nblocks`. -/
  nblocks : ℕ := 0
  dirId : ℕ := 0
  dirDirty : Bool := false
  key : Bytes := []
  /-- The stack of free blocks; its top, the back of the source's vector, comes first. -/
  free : List ℕ := []
  head : SortedMap ℕ HeadInfo := .empty
  byTag : TagIndex := .empty
  roots : Roots := .empty

/-- The object, its file, the number of random draws so far and, when a file operation is going
to fail, how many succeed before. -/
structure World where
  storage : LocalStorage
  file : Bytes := []
  draws : ℕ := 0
  faults : Option ℕ := none

abbrev Action := Prog World Error

def World.put (w : World) (s : LocalStorage) : World := { w with storage := s }

namespace LocalStorage

def writeFailed : Error := .runtimeError "write failed"
def fsyncFailed : Error := .runtimeError "fsync failed"
def ftruncateFailed : Error := .runtimeError "ftruncate failed"

def set (s : LocalStorage) : Action Unit := Prog.modify (fun w => w.put s)

def fileOp (e : Error) (f : Bytes → Bytes) : Action Unit := fun w =>
  match w.faults with
  | some 0 => (.error e, { w with faults := none })
  | some (k + 1) => (.ok (), { w with file := f w.file, faults := some k })
  | none => (.ok (), { w with file := f w.file })

def pwriteFull (buf : Bytes) (off : ℕ) : Action Unit :=
  if maxOffset < off + buf.length then Prog.throw writeFailed
  else fileOp writeFailed (fun f => ByteFile.writeAt 0 f off buf)

def ftruncate (n : ℕ) : Action Unit := fileOp ftruncateFailed (fun f => ByteFile.resize 0 f n)

def synceFd : Action Unit := fileOp fsyncFailed id

def preadFull (f : Bytes) (n off : ℕ) : Except Error Bytes :=
  match ByteFile.readAt f off n with
  | some buf => .ok buf
  | none => .error (.runtimeError "read failed / unexspected EOF")

variable (C : Crypto)

def randBytes (n : ℕ) : Action Bytes :=
  fun w => (.ok (C.random w.draws n), { w with draws := w.draws + 1 })

def blockOffset (s : LocalStorage) (id : ℕ) : ℕ := s.bs + (id - 1) * s.bs

def setGeometry (s : LocalStorage) (bs : ℕ) : LocalStorage :=
  { s with bs := bs, plain := bs - kNonce - kTag, cap := bs - kNonce - kTag - kBlkHdr }

/-! ### Header -/

def headerAad (salt : Bytes) (bs : ℕ) : Bytes := kMagic ++ (salt ++ w32 bs)

def createHeader (pw : Bytes) : Action Unit := do
  let w ← Prog.get
  let bs := w.storage.opt.blockSize
  if bs < 128 ∨ 2 ^ 20 < bs then
    Prog.throw (.invalidArgument "block_size must be between 128 and 1048576")
  else
    let salt ← randBytes C kSalt
    let key := C.deriveKey pw salt
    let nonce ← randBytes C kNonce
    set { setGeometry w.storage bs with key := key }
    pwriteFull (headerAad salt bs ++ (nonce ++ C.aeadEncrypt key nonce (headerAad salt bs) kCheck)) 0
    ftruncate bs
    synceFd

def loadHeader (pw : Bytes) : Action Unit := do
  let w ← Prog.get
  let h ← Prog.read (fun w => preadFull w.file kHdr 0)
  if h.take 8 ≠ kMagic then Prog.throw (.runtimeError "not a LocalStorage file")
  else
    let bs := r32 (h.drop (8 + kSalt))
    if bs < 128 ∨ 2 ^ 20 < bs then
      Prog.throw (.runtimeError "corrupt header (block size)")
    else
      let key := C.deriveKey pw ((h.drop 8).take kSalt)
      set { setGeometry w.storage bs with key := key }
      match C.aeadDecrypt key ((h.drop kHdrAad).take kNonce) (h.take kHdrAad)
          (h.drop (kHdrAad + kNonce)) with
      | none => Prog.throw (.runtimeError "wrong password or corrupted header")
      | some _ => pure ()

/-! ### Blocks -/

def plainBlock (size : ℕ) (b : Blk) : Bytes :=
  [b.type] ++ (w32 b.tag.toNat ++ (w64 b.next ++ (w32 b.data.length ++
    (b.data ++ List.replicate (size - kBlkHdr - b.data.length) 0))))

def parseBlock (p : Bytes) : Blk where
  type := p.headD 0
  tag := UInt32.ofNat (r32 (p.drop 1))
  next := r64 (p.drop 5)
  data := (p.drop kBlkHdr).take (r32 (p.drop 13))

def writeBlock (id : ℕ) (b : Blk) : Action Unit := do
  let nonce ← randBytes C kNonce
  let w ← Prog.get
  let s := w.storage
  pwriteFull (nonce ++ C.aeadEncrypt s.key nonce (w64 id) (plainBlock s.plain b)) (blockOffset s id)

def readBlock (w : World) (id : ℕ) : Except Error Blk := do
  let s := w.storage
  let raw ← preadFull w.file s.bs (blockOffset s id)
  match C.aeadDecrypt s.key (raw.take kNonce) (w64 id) ((raw.drop kNonce).take (s.plain + kTag)) with
  | none => .error (.runtimeError
      ("block " ++ toString id ++ " falied authentication (corrupt, tampered or moved"))
  | some p =>
    if 2 < (parseBlock p).type ∨ s.cap < r32 (p.drop 13) then
      .error (.runtimeError ("block " ++ toString id ++ " is malformed"))
    else .ok (parseBlock p)

def alloc (s : LocalStorage) : ℕ × LocalStorage :=
  match s.free with
  | id :: rest => (id, { s with free := rest })
  | [] => (s.nblocks + 1, { s with nblocks := s.nblocks + 1 })

def allocMany : ℕ → LocalStorage → List ℕ × LocalStorage
  | 0, s => ([], s)
  | n + 1, s =>
    let (id, s) := alloc s
    let (ids, s) := allocMany n s
    (id :: ids, s)

/-! ### Tag index -/

def addTag (m : TagIndex) (tag : UInt32) (id : ℕ) : TagIndex :=
  m.insert tag (((m.find? tag).getD .empty).insert id ())

def removeTag (m : TagIndex) (tag : UInt32) (id : ℕ) : TagIndex :=
  match m.find? tag with
  | none => m
  | some ts => if (ts.erase id).isEmpty then m.erase tag else m.insert tag (ts.erase id)

/-! ### Opening -/

/-- The walk over the continuations of one head. Each step marks a block not seen before, so a
walk over `n` blocks has at most `n` steps. -/
def walkChain (info : ℕ → Blk) (n : ℕ) : ℕ → ℕ → List ℕ → Option (List ℕ)
  | 0, c, seen => if c = 0 then some seen else none
  | fuel + 1, c, seen =>
    if c = 0 then some seen
    else if n < c ∨ (info c).type ≠ 2 ∨ c ∈ seen then none
    else walkChain info n fuel (info c).next (c :: seen)

structure Scan where
  head : SortedMap ℕ HeadInfo := .empty
  byTag : TagIndex := .empty
  seen : List ℕ := []

def scanHeads (info : ℕ → Blk) (n : ℕ) : List ℕ → Scan → Except Error Scan
  | [], a => .ok a
  | id :: ids, a =>
    if (info id).type ≠ 1 then scanHeads info n ids a
    else match walkChain info n n (info id).next a.seen with
      | none => .error (.runtimeError ("broken block chain at record " ++ toString id))
      | some seen => scanHeads info n ids
          { head := a.head.insert id ⟨(info id).tag, (info id).next⟩
            byTag := addTag a.byTag (info id).tag id
            seen := seen }

def trim (isFree : ℕ → Bool) : ℕ → ℕ
  | 0 => 0
  | n + 1 => if isFree (n + 1) then trim isFree n else n + 1

def readInfo (w : World) (n : ℕ) : Except Error (List Blk) := (List.range' 1 n).mapM (readBlock C w)

def infoAt (info : List Blk) (id : ℕ) : Blk := info.getD (id - 1) {}

def isFree (info : ℕ → Blk) (seen : List ℕ) (id : ℕ) : Bool :=
  (info id).type = 0 || ((info id).type = 2 && !decide (id ∈ seen))

def scan : Action Unit := do
  let w ← Prog.get
  let bs := w.storage.bs
  let fsize := w.file.length
  if fsize < bs then Prog.throw (.runtimeError "file shorter than its header block")
  else
    let n := (fsize - bs) / bs
    let info ← Prog.read (fun w => readInfo C w n)
    let a ← Prog.read (fun _ => scanHeads (infoAt info) n (List.range' 1 n) {})
    let free := isFree (infoAt info) a.seen
    let n' := trim free n
    Prog.when (fsize ≠ bs + n' * bs) (ftruncate (bs + n' * bs))
    set { w.storage with
      head := a.head
      byTag := a.byTag
      nblocks := n'
      free := (List.range' 1 n').filter free }

/-! ### Records -/

def chunks (s : LocalStorage) (bytes : ℕ) : ℕ := max 1 ((bytes + s.cap - 1) / s.cap)

def chunk (s : LocalStorage) (data : Bytes) (i : ℕ) : Bytes := (data.drop (i * s.cap)).take s.cap

def writeContinuations (s : LocalStorage) (ids : List ℕ) (data : Bytes) : ℕ → Action Unit
  | 0 | 1 => pure ()
  | i + 2 => do
    writeBlock C (ids.getD (i + 1) 0)
      ⟨2, 0, if i + 2 < ids.length then ids.getD (i + 2) 0 else 0, chunk s data (i + 1)⟩
    writeContinuations s ids data (i + 1)

def writeChain (ids : List ℕ) (data : Bytes) (tag : UInt32) : Action Unit := do
  let w ← Prog.get
  let s := w.storage
  writeContinuations C s ids data ids.length
  Prog.when (s.opt.durable ∧ 1 < ids.length) synceFd
  writeBlock C (ids.getD 0 0) ⟨1, tag, if 1 < ids.length then ids.getD 1 0 else 0, chunk s data 0⟩
  Prog.when s.opt.durable synceFd

def insertLocked (data : Bytes) (tag : UInt32) : Action ℕ := do
  let w ← Prog.get
  let (ids, s) := allocMany (chunks w.storage data.length) w.storage
  set s
  writeChain C ids data tag
  set { s with
    head := s.head.insert (ids.getD 0 0) ⟨tag, if 1 < ids.length then ids.getD 1 0 else 0⟩
    byTag := addTag s.byTag tag (ids.getD 0 0) }
  pure (ids.getD 0 0)

/-- The blocks from `current` on; the fuel is the guard against loops. -/
def readChain (w : World) (id : ℕ) : ℕ → ℕ → Except Error Bytes
  | 0, current => if current = 0 then .ok [] else .error (.runtimeError "block chain loop")
  | fuel + 1, current =>
    if current = 0 then .ok []
    else do
      let b ← readBlock C w current
      if b.type ≠ (if current = id then 1 else 2) then
        .error (.runtimeError "unexpected block type in chain")
      else
        let rest ← readChain w id fuel b.next
        .ok (b.data ++ rest)

def getLocked (w : World) (id : ℕ) : Except Error (Option Bytes) :=
  match w.storage.head.find? id with
  | none => .ok none
  | some _ => do
    let out ← readChain C w id (w.storage.nblocks + 1) id
    .ok (some out)

def followChain (w : World) : ℕ → ℕ → Except Error (List ℕ)
  | 0, current => if current = 0 then .ok [] else .error (.runtimeError "block chain loop")
  | fuel + 1, current =>
    if current = 0 then .ok []
    else do
      let b ← readBlock C w current
      let rest ← followChain w fuel b.next
      .ok (current :: rest)

def oldContinuations (w : World) (hi : HeadInfo) : Except Error (List ℕ) :=
  followChain C w (w.storage.nblocks + 1) hi.next

def updateLocked (id : ℕ) (data : Bytes) : Action Unit := do
  let w ← Prog.get
  -- `m_head[id]` creates a missing entry; both callers know the entry is there.
  let hi := (w.storage.head.find? id).getD ⟨0, 0⟩
  set { w.storage with head := w.storage.head.insert id hi }
  let old ← Prog.read (fun w => oldContinuations C w hi)
  let w ← Prog.get
  let (fresh, s) := allocMany (chunks w.storage data.length - 1) w.storage
  set s
  writeChain C (id :: fresh) data hi.tag
  set { s with
    head := s.head.insert id ⟨hi.tag, fresh.headD 0⟩
    free := old.reverse ++ s.free }

/-! ### Directory of named roots -/

def entryBytes (e : Bytes × ℕ) : Bytes := w32 e.1.length ++ (e.1 ++ w64 e.2)

def directoryBytes (roots : Roots) : Bytes := w32 roots.size ++ roots.entries.flatMap entryBytes

def corruptDirectory : Error := .runtimeError "corrupt directory"

def parseEntries : ℕ → Bytes → Roots → Except Error Roots
  | 0, _, m => .ok m
  | n + 1, p, m =>
    if p.length < 4 then .error corruptDirectory
    else
      let len := r32 p
      let p := p.drop 4
      if p.length < len + 8 then .error corruptDirectory
      else parseEntries n (p.drop (len + 8)) (m.insert (p.take len) (r64 (p.drop len)))

def parseDirectory (p : Bytes) : Except Error Roots :=
  if p.length < 4 then .error corruptDirectory
  else parseEntries (r32 p) (p.drop 4) .empty

def loadDirectory : Action Unit := do
  let w ← Prog.get
  match (w.storage.byTag.find? kDirTag).bind (fun ts => ts.keys.head?) with
  | none => pure ()
  | some id =>
    set { w.storage with dirId := id }
    let raw ← Prog.read (fun w => getLocked C w id)
    match raw with
    | none => Prog.throw (.runtimeError "directory record missing")
    | some raw =>
      let roots ← Prog.read (fun _ => parseDirectory raw)
      set { w.storage with dirId := id, roots := roots }

def saveDirectoryLocked : Action Unit := do
  let w ← Prog.get
  let out := directoryBytes w.storage.roots
  if w.storage.dirId = 0 then
    let id ← insertLocked C out kDirTag
    Prog.modify (fun w => w.put { w.storage with dirId := id })
  else updateLocked C w.storage.dirId out

def removeLocked (id : ℕ) : Action Unit := do
  let w ← Prog.get
  match w.storage.head.find? id with
  | none => pure ()
  | some hi =>
    let old ← Prog.read (fun w => oldContinuations C w hi)
    writeBlock C id {}
    Prog.when w.storage.opt.durable synceFd
    let s := w.storage
    let dirty := s.dirDirty || s.roots.entries.any (fun e => e.2 = id)
    set { s with
      byTag := removeTag s.byTag hi.tag id
      head := s.head.erase id
      free := old.reverse ++ id :: s.free
      roots := s.roots.filter (fun _ r => !decide (r = id))
      dirDirty := false }
    Prog.when dirty (saveDirectoryLocked C)

/-! ### Public operations -/

def construct (opt : Options) (pw : Bytes) : Action Unit := do
  set { opt := opt, opened := true }
  let w ← Prog.get
  (if w.file.length = 0 then createHeader C pw else loadHeader C pw : Action Unit)
  scan C
  loadDirectory C

def insert (data : Bytes) (tag : UInt32) : Action ℕ := do
  let w ← Prog.get
  if tag = kDirTag then Prog.throw (.invalidArgument "tag tag 0xFFFFFFFF is reserved ")
  else if !w.storage.opened then Prog.throw (.logicError "Call setPath before inserting records")
  else insertLocked C data tag

def get (w : World) (id : ℕ) : Except Error (Option Bytes) := getLocked C w id

def hasRecord (s : LocalStorage) (id : ℕ) : Bool := !decide (id = s.dirId) && s.head.contains id

def update (id : ℕ) (data : Bytes) : Action Bool := do
  let w ← Prog.get
  if hasRecord w.storage id then
    updateLocked C id data
    pure true
  else pure false

def remove (id : ℕ) : Action Bool := do
  let w ← Prog.get
  if hasRecord w.storage id then
    removeLocked C id
    pure true
  else pure false

def ids (s : LocalStorage) (tag : UInt32) : List ℕ :=
  if tag = kDirTag then []
  else match s.byTag.find? tag with
    | none => []
    | some ts => ts.keys

def setRoot (name : Bytes) (id : ℕ) : Action Unit := do
  let w ← Prog.get
  if hasRecord w.storage id then
    set { w.storage with roots := w.storage.roots.insert name id }
    saveDirectoryLocked C
  else Prog.throw (.invalidArgument "no such record")

def root (s : LocalStorage) (name : Bytes) : Option ℕ := s.roots.find? name

def removeRoot (name : Bytes) : Action Bool := do
  let w ← Prog.get
  if w.storage.roots.contains name then
    set { w.storage with roots := w.storage.roots.erase name }
    saveDirectoryLocked C
    pure true
  else pure false

def sync : Action Unit := do
  let w ← Prog.get
  if !w.storage.opened then Prog.throw (.logicError "Call setPath before syncing storage")
  else synceFd

def recordCount (s : LocalStorage) : ℕ := s.head.size - (if s.dirId = 0 then 0 else 1)

end LocalStorage

end ChatDesktop.Storage
