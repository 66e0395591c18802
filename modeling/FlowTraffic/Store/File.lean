import FlowTraffic.Store.Interface
import FlowTraffic.Text.Quoted

/-!
# Stores in a directory

The table lies in a database file. Every put is a transaction of its own. Most transactions are
only committed; every 1024th is also made durable, and with it all before it. A crash takes the
table back to the last durable one.
-/

namespace FlowTraffic

/-- The calls of a transaction. Each of them can fail. -/
inductive DatabaseCall
  | begin
  | openTable
  | insert
  | count
  | commit
  deriving DecidableEq, Repr

/-- Which calls fail, and how. -/
abbrev Trouble := DatabaseCall → Option DatabaseError

/-- What is under way in a database: the table as it will be, and whether the commit is to be durable. -/
structure Transaction where
  table : Table
  isDurable : Bool := true
  deriving DecidableEq

/-- A database: the table as committed, and as it would be after a crash. -/
structure Database where
  committed : Table := .empty
  durable : Table := .empty
  deriving DecidableEq

/-- The database after a transaction. A durable commit makes durable all commits before it. -/
def Database.commit (d : Database) (t : Transaction) : Database :=
  ⟨t.table, if t.isDurable then t.table else d.durable⟩

/-- A store in a directory, opened. -/
structure FileStore where
  /-- The path of the database file. -/
  path : String
  database : Database
  /-- How many entries the table had after the latest put. -/
  length : Nat
  /-- How many puts were committed since the last durable commit. -/
  unsynced : Nat := 0
  deriving DecidableEq

/-- What is found in a directory that is to be opened: no database yet, one that is closed, or one
that cannot be opened. The directory itself may be unusable. -/
inductive Directory
  | empty
  | closed (database : Database)
  | refused (why : DatabaseError)
  | unusable (why : Fault)

namespace FileStore

def fileName : String := "flows.redb"

/-- Puts between durable commits. -/
def syncEvery : Nat := 1024

def join (dir file : String) : String :=
  if dir.isEmpty || dir.endsWith "/" then dir ++ file else dir ++ "/" ++ file

/-- Opens the store in a directory. This takes a transaction, which changes nothing and is durable. -/
def openAt (dir : String) : Directory → Except StoreError FileStore
  | .empty => .ok { path := join dir fileName, database := {}, length := 0 }
  | .closed d => .ok {
      path := join dir fileName
      database := d.commit { table := d.committed }
      length := d.committed.size }
  | .refused why => .error (.database why)
  | .unusable why => .error (.io dir why)

/-- What a store leaves behind when it is closed: everything committed is durable. -/
def close (s : FileStore) : Database := ⟨s.database.committed, s.database.committed⟩

/-! ## Transactions -/

/-- Work on an opened store that can fail on the way. -/
abbrev Work := ExceptT StoreError (StateM FileStore)

def call (trouble : Trouble) (c : DatabaseCall) : Work Unit :=
  match trouble c with
  | some e => throw (.database e)
  | none => return ()

/-- Begins the transaction of a put. Its commit is durable only if `syncEvery` puts have come together. -/
def beginPut (trouble : Trouble) : Work Transaction := do
  call trouble .begin
  let s ← get
  return { table := s.database.committed, isDurable := !decide (s.unsynced + 1 < syncEvery) }

def commit (trouble : Trouble) (t : Transaction) : Work Unit := do
  call trouble .commit
  modify fun s => { s with database := s.database.commit t }

/-- Counts a put that was committed, or starts again after a durable commit. -/
def countCommit (isDurable : Bool) : Work Unit :=
  modify fun s => { s with unsynced := if isDurable then 0 else s.unsynced + 1 }

/-- Puts one entry in a transaction of its own. -/
def putWith (trouble : Trouble) (key value : Bytes) : Work Unit := do
  let isDurable := decide (syncEvery ≤ (← get).unsynced + 1)
  let t ← beginPut trouble
  call trouble .openTable
  call trouble .insert
  let t := { t with table := t.table.put key value }
  call trouble .count
  commit trouble t
  countCommit isDurable
  modify fun s => { s with length := t.table.size }

/-- Makes every commit durable. There is nothing to do if the last one was. -/
def flushWith (trouble : Trouble) : Work Unit := do
  let s ← get
  if s.unsynced = 0 then return ()
  call trouble .begin
  commit trouble { table := s.database.committed }
  countCommit true

instance : Store FileStore where
  put s key value := (putWith (fun _ => none) key value).run s
  contents s := .ok s.database.committed
  size s := s.length
  flush s := (flushWith fun _ => none).run s

/-- The store as a person debugging sees it. -/
def debugText (s : FileStore) : String :=
  "FileStore \x7b path: " ++ Text.quoted s.path ++
    s!", len: {s.length}, unsynced: {s.unsynced}, .. " ++ "\x7d"

end FileStore

end FlowTraffic
