import CatalogBench.Library.FileSystem

/-!
# Archives of volumes

Putting a directory into an archive, and taking it out into an empty directory.
-/

set_option linter.all false

namespace VolumeArchive

open FileSystem
open SlashPath (Name Normal here up slash isAbs elements clean join dir abs text WorkingDirectory)

-- ════════════════════════════════
-- Archives
-- ════════════════════════════════

/-- A header as it is written, and as the archive's reader gives it back. -/
structure Header where
  name : List UInt8
  typeflag : UInt8
  mode : BitVec 64
  uid : BitVec 64
  gid : BitVec 64
  size : ℕ

def typeReg : UInt8 := 0x30
def typeSymlink : UInt8 := 0x32
def typeChar : UInt8 := 0x33
def typeBlock : UInt8 := 0x34
def typeDir : UInt8 := 0x35
def typeFifo : UInt8 := 0x36

/-- What the reader of an archive finds: entries, each with the bytes that can be read of it, and
then the end or something it cannot read. -/
inductive Archive
  | entry (header : Header) (body : List UInt8) (rest : Archive)
  | eof
  | malformed (failure : Failure)

def say (text : String) : Failure := .message text []

-- ════════════════════════════════
-- Backup
-- ════════════════════════════════

/-- What a directory holds, in the order in which a walk finds it. -/
inductive Listing
  | nil
  | file (name : Name) (attributes : Attributes) (content : Content) (rest : Listing)
  | directory (name : Name) (attributes : Attributes) (children rest : Listing)
  deriving DecidableEq

namespace Listing

/-- The names in a directory itself. -/
def names : Listing → List Name
  | nil => []
  | file name _ _ rest => name :: rest.names
  | directory name _ _ rest => name :: rest.names

/-- Every name stands once in its directory. -/
def Valid : Listing → Prop
  | nil => True
  | file name _ _ rest => Normal name ∧ name ∉ rest.names ∧ rest.Valid
  | directory name _ children rest =>
    Normal name ∧ name ∉ rest.names ∧ children.Valid ∧ rest.Valid

end Listing

/-- The directory that is put into an archive. -/
structure Volume where
  attributes : Attributes
  listing : Listing
  valid : listing.Valid

def fileInfoHeader (name : List UInt8) (attributes : Attributes) (kind : Kind) :
    Except Failure Header :=
  let header (typeflag : UInt8) (size : ℕ) : Header :=
    { name := name, typeflag := typeflag, mode := attributes.mode.setWidth 64
      uid := attributes.uid.setWidth 64, gid := attributes.gid.setWidth 64, size := size }
  match kind with
  | .directory => .ok (header typeDir 0)
  | .file (.regular bytes) => .ok (header typeReg bytes.length)
  | .file (.symlink _) => .ok (header typeSymlink 0)
  | .file .charDevice => .ok (header typeChar 0)
  | .file .blockDevice => .ok (header typeBlock 0)
  | .file .fifo => .ok (header typeFifo 0)
  | .file .socket => .error (say "archive/tar: sockets not supported")

/-- What is written for one thing below the directory. -/
def archiveEntry (user : User) (above : List Name) (name : Name) (attributes : Attributes)
    (kind : Kind) : Except Failure (Header × List UInt8) :=
  match kind with
  | .file (.symlink _) => .error (.message "refusing symbolic link: " name)
  | _ => do
    let header ← fileInfoHeader (text false (above ++ [name])) attributes kind
    match kind with
    | .file (.regular bytes) =>
      if user.may .read attributes then return (header, bytes) else .error (.system .denied)
    | _ => return (header, [])

/-- Reading a directory, and looking at what is in it. -/
def readDirectory (user : User) (attributes : Attributes) (children : Listing) :
    Except Failure Unit :=
  if user.may .read attributes && (children = .nil || user.may .search attributes) then .ok ()
  else .error (.system .denied)

def walkDir (user : User) (above : List Name) : Listing → Except Failure (List (Header × List UInt8))
  | .nil => .ok []
  | .file name attributes content rest => do
    let first ← archiveEntry user above name attributes (.file content)
    let later ← walkDir user above rest
    return first :: later
  | .directory name attributes children rest => do
    let first ← archiveEntry user above name attributes .directory
    readDirectory user attributes children
    let inner ← walkDir user (above ++ [name]) children
    let later ← walkDir user above rest
    return first :: inner ++ later

def assemble (entries : List (Header × List UInt8)) : Archive :=
  entries.foldr (fun entry rest => .entry entry.1 entry.2 rest) .eof

def backup (user : User) (volume : Volume) : Except Failure Archive := do
  readDirectory user volume.attributes volume.listing
  let entries ← walkDir user [] volume.listing
  return assemble entries

-- ════════════════════════════════
-- Restoring
-- ════════════════════════════════

/-- One call of `MkdirAll`, with what makes the parent directory. -/
def ensureDirectory (kernel : Kernel) (names ending : List Name) (mode : Mode) (parent : Act Unit) :
    Act Unit := do
  match ← attempt (kernel.stat (names ++ ending)) with
  | .ok node =>
    if node.kind = .directory then return () else throw (.system .notDirectory)
  | .error _ =>
    parent
    match ← attempt (kernel.mkdir names mode) with
    | .ok _ => return ()
    | .error failure =>
      match ← attempt (kernel.lstat (names ++ ending)) with
      | .ok node => if node.kind = .directory then return () else throw failure
      | .error _ => throw failure

/-- `MkdirAll` of an absolute path, its names from the last to the first. What it is called with for
a parent ends in a slash. -/
def mkdirAllBelow (kernel : Kernel) (mode : Mode) : List Name → List Name → Act Unit
  | [], ending => ensureDirectory kernel [] ending mode (return ())
  | name :: above, ending =>
    ensureDirectory kernel (name :: above).reverse ending mode
      (mkdirAllBelow kernel mode above (if above.isEmpty then [] else [here]))

def mkdirAll (kernel : Kernel) (path : List UInt8) (mode : Mode) : Act Unit :=
  mkdirAllBelow kernel mode (elements path).reverse []

/-- Nothing to write is no call. -/
def writeAll (kernel : Kernel) (output : Place) (bytes : List UInt8) : Act Unit :=
  if bytes = [] then return () else kernel.write output bytes

/-- `CopyN` to an open file. -/
def copyN (kernel : Kernel) (output : Place) (body : List UInt8) (size : ℕ) : Act Unit := do
  writeAll kernel output (body.take size)
  if body.length < size then throw (say "unexpected EOF") else return ()

def permissions (mode : BitVec 64) : Mode := mode.setWidth 12 &&& 0o777

def restoreFile (kernel : Kernel) (path : List UInt8) (header : Header) (body : List UInt8) :
    Act Unit := do
  let output ← kernel.createExclusive (Kernel.pathNames path) (permissions header.mode)
  let copied ← attempt (copyN kernel output body header.size)
  let closed ← attempt kernel.close
  liftExcept copied
  liftExcept closed

def chown (kernel : Kernel) (path : List UInt8) (header : Header) : Act Unit := do
  let _ ← kernel.chown (Kernel.pathNames path) (header.uid.setWidth 32) (header.gid.setWidth 32)

def isUnsafe (path : List UInt8) : Bool :=
  path = here || isAbs path || path = up || (up ++ [slash]).isPrefixOf path

def restoreEntry (kernel : Kernel) (root : List UInt8) (header : Header) (body : List UInt8) :
    Act Unit :=
  if isUnsafe (clean header.name) then throw (say "archive contains unsafe path")
  else
    let target := join root (clean header.name)
    if header.typeflag = typeDir then do
      mkdirAll kernel target (permissions header.mode)
      chown kernel target header
    else if header.typeflag = typeReg then do
      mkdirAll kernel (dir target) 0o700
      restoreFile kernel target header body
      chown kernel target header
    else throw (say "archive contains unsupported entry type")

def extract (kernel : Kernel) (root : List UInt8) : Archive → Act Unit
  | .entry header body rest => do
    restoreEntry kernel root header body
    extract kernel root rest
  | .eof => return ()
  | .malformed failure => throw failure

def restoreInto (kernel : Kernel) (root : List UInt8) (archive : Archive) : Act Unit := do
  let entries ← kernel.readDir (Kernel.pathNames root)
  if entries = [] then extract kernel root archive
  else throw (say "restore directory must be empty")

/-- An archive that cannot be opened is a failure in its place. -/
def restore (kernel : Kernel) (working : Option WorkingDirectory) (directory : List UInt8)
    (archive : Except Failure Archive) : Act Unit :=
  match archive with
  | .error failure => throw failure
  | .ok archive =>
    match abs working directory with
    | none => throw (.system .absent)
    | some root => restoreInto kernel root archive

end VolumeArchive
