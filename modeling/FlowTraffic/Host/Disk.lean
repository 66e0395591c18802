import FlowTraffic.Store.File

/-!
# The disk

A tree of folders with files and databases in it. A path is walked one name after the other, and
every name but the last has to lead to a folder. Names and paths have largest sizes in bytes.
-/

namespace FlowTraffic

/-- What stands under a name. Of two entries of one name in a folder the first counts. -/
inductive DiskEntry
  | folder (entries : List (String × DiskEntry))
  | file (text : String)
  | database (content : Database)

/-! ## Paths -/

/-- The names of a path between its slashes, which are empty at its ends and between two slashes. -/
abbrev Path := List String

namespace Path

def maxSize : Nat := 4095

def maxNameSize : Nat := 255

def ofText (text : String) : Path := (text.toList.splitOn '/').map String.ofList

/-- The names of a text that may be a path. -/
def parse (text : String) : Except Fault Path :=
  if '\x00' ∈ text.toList then .error .nulInName
  else if text.isEmpty then .error (.os .noSuchFile)
  else if maxSize < text.utf8ByteSize then .error (.os .nameTooLong)
  else .ok (ofText text)

def trimmed (p : Path) : Path := (p.reverse.dropWhile (· = "")).reverse

/-- The paths to the folders above, the innermost first. Empty names and single dots do not count
as steps. -/
def above (p : Path) : List Path :=
  let steps := p.filter fun name => name ≠ "" && name ≠ "."
  (List.range steps.length).reverse.map fun n => steps.take n

end Path

/-! ## Walking -/

/-- A place on the disk. -/
structure Spot where
  /-- What stands there. -/
  entry : Option DiskEntry
  /-- The folders around it, the innermost first, each with the name that leads on from it. -/
  around : List (List (String × DiskEntry) × String) := []

namespace Spot

/-- Goes on from a folder with some entries. -/
def enter (s : Spot) (entries : List (String × DiskEntry)) (name : String) : Spot :=
  if name = "" || name = "." then s
  else if name = ".." then
    match s.around with
    | [] => s
    | (outer, _) :: around => ⟨some (.folder outer), around⟩
  else ⟨entries.lookup name, (entries, name) :: s.around⟩

/-- Goes on from a place, which has to be a folder. -/
def step (s : Spot) (name : String) : Except OsError Spot :=
  match s.entry with
  | some (.folder entries) =>
    if Path.maxNameSize < name.utf8ByteSize then .error .nameTooLong else .ok (s.enter entries name)
  | some _ => .error .notDirectory
  | none => .error .noSuchFile

/-- Goes on from a place, where an empty folder is thought if no folder is there. -/
def pass (s : Spot) (name : String) : Spot :=
  match s.entry with
  | some (.folder entries) => s.enter entries name
  | _ => s.enter [] name

/-- The root of the disk with another entry in the place. -/
def replace (s : Spot) (entry : DiskEntry) : DiskEntry :=
  s.around.foldl (fun inner (entries, name) => .folder ((name, inner) :: entries)) entry

end Spot

/-- Everything on the disk that a program may meet. Every path starts at the root. -/
structure Disk where
  root : DiskEntry := .folder []

namespace Disk

/-- Where a path leads. Nothing need stand there. -/
def walk (d : Disk) (p : Path) : Except OsError Spot := p.foldlM Spot.step ⟨some d.root, []⟩

def find? (d : Disk) (path : String) : Except Fault (Option DiskEntry) := do
  let spot ← (d.walk (← Path.parse path)).mapError .os
  return spot.entry

/-- The text of a file. A database is no text. -/
def read (d : Disk) (path : String) : Except Fault String := do
  match ← d.find? path with
  | some (.file text) => return text
  | some (.database _) => throw .notUtf8
  | some (.folder _) => throw (.os .isDirectory)
  | none => throw (.os .noSuchFile)

/-- The disk with another entry where a path leads, and with the folders on the way. -/
def put (d : Disk) (path : String) (entry : DiskEntry) : Disk :=
  ⟨((Path.ofText path).foldl Spot.pass ⟨some d.root, []⟩).replace entry⟩

/-- Writes a file in a folder that is there. -/
def write (d : Disk) (path text : String) : Except Fault Disk := do
  let spot ← (d.walk (← Path.parse path)).mapError .os
  match spot.entry with
  | some (.folder _) => throw (.os .isDirectory)
  | _ => return ⟨spot.replace (.file text)⟩

/-! ## Making folders -/

/-- Makes a folder in a folder that is there. -/
def makeFolder (d : Disk) (p : Path) : Except OsError Disk := do
  let spot ← d.walk p.trimmed
  if spot.entry.isSome then throw .fileExists
  return ⟨spot.replace (.folder [])⟩

def isFolder (d : Disk) (p : Path) : Bool :=
  match d.walk p with
  | .ok ⟨some (.folder _), _⟩ => true
  | _ => false

/-- Sees to it that a folder is there, where the folders around it are. -/
def ensureFolder (d : Disk) (p : Path) : Except OsError Disk :=
  match d.makeFolder p with
  | .ok d => .ok d
  | .error why => if d.isFolder p then .ok d else .error why

/-- Sees to it that the first of the paths leads to a folder. Each of the others leads to the folder
around the one before, which is made if it is missing. -/
def ensureFolders (d : Disk) : List Path → Except OsError Disk
  | [] => .ok d
  | p :: above =>
    match d.ensureFolder p with
    | .error .noSuchFile => do (← d.ensureFolders above).ensureFolder p
    | result => result

/-! ## Stores -/

/-- Makes the directory of a store, if it is missing, and looks for the database in it. An empty
file is as good as none. -/
def directory (d : Disk) (path : String) : Directory × Disk :=
  match Path.parse path >>= fun p => (d.ensureFolders (p :: p.above)).mapError .os with
  | .error why => (.unusable why, d)
  | .ok d =>
    match d.find? (FileStore.join path FileStore.fileName) with
    | .ok none | .ok (some (.file "")) => (.empty, d)
    | .ok (some (.database content)) => (.closed content, d)
    | .ok (some (.file _)) => (.refused (.io .invalidData), d)
    | .ok (some (.folder _)) => (.refused (.io (.os .isDirectory)), d)
    | .error why => (.refused (.io why), d)

def closeStore (d : Disk) (s : FileStore) : Disk := d.put s.path (.database s.close)

/-- Opens the store in a directory. The database is on the disk from then on. -/
def openStore (d : Disk) (path : String) : Except StoreError FileStore × Disk :=
  let (found, d) := d.directory path
  match FileStore.openAt path found with
  | .ok s => (.ok s, d.closeStore s)
  | .error e => (.error e, d)

end Disk

end FlowTraffic
