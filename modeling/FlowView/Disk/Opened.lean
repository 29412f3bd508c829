import FlowView.Disk.Tree
import FlowView.Location.Target
/-!
# Opened files

The engine finds the file of a target, or makes it. A database that has no file is kept in memory.
-/

namespace FlowView

/-- A database that was opened, and the place of its file if it is not in memory. -/
structure Opened where
  target : Target
  readOnly : Bool := target.readOnly
  place : Option Place := none

namespace Disk

/-! ## Places of databases -/

/-- The most bytes that the path of a database may have, with the ending of its journal. -/
def pathLimit : Nat := 512

/-- The most bytes that the name of a database may have that an interface keeps in memory, with the
ending of its journal. -/
def memoryPathLimit : Nat := 1024

/-- How many bytes longer than a file's name its journal's is. -/
def journalEnding : Nat := 8

/-- May there be something at a place, whether it is there or not? -/
def isReachable (d : Disk) (place : Place) : Bool :=
  match d.walk [] place with
  | .ok _ | .error .missing => true
  | .error _ => false

/-- The place of a database's file: dots are taken away by name alone, but each name that is gone
through has to be possible. -/
def databasePlace? (d : Disk) (bytes : List Nat) : Option Place := do
  let place ← (Path.names bytes).foldlM
    (fun place name =>
      if name = [] ∨ name = FileName.self then some place
      else if name = FileName.up then some place.dropLast
      else
        let next := place ++ [name]
        if Path.size next < pathLimit ∧ d.isReachable next then some next else none)
    (d.startOf bytes)
  if place.isEmpty ∨ pathLimit < Path.size place + journalEnding then none else some place

/-! ## Opening -/

/-- The fault number of a file that cannot be read. -/
def readFailed : Nat := 266

/-- The fault number of a file whose rights cannot be found out. -/
def statusFailed : Nat := 1802

/-- Opens a file at a place, making it if it is missing and may be made. -/
def openFile (d : Disk) (t : Target) (place : Place) : Except StoreFault (Opened × Disk) :=
  match d.node? place with
  | some .directory => .error (if t.access = .readOnly then .disk readFailed else .cannotOpen)
  | some _ => .ok ({ target := t, place }, d)
  | none =>
    if t.access = .create ∧ d.isDirectory place.dropLast then
      .ok ({ target := t, place }, d.put place (.file .nothing))
    else .error .cannotOpen

/-- Is the file there whose rights a new file gets? -/
def rightsFound (d : Disk) (t : Target) : Bool :=
  match t.rightsOf with
  | none => true
  | some bytes =>
    match d.walk (d.startOf bytes) (Path.names bytes) with
    | .ok place => !bytes.isEmpty && (d.node? place).isSome
    | .error _ => false

/-- Opens what the engine is told to open. A database without a name is in memory. -/
def openTarget (d : Disk) (t : Target) : Except StoreFault (Opened × Disk) :=
  if t.inMemory ∨ t.name = [] ∨ t.name = Text.utf8Bytes ":memory:" then
    .ok ({ target := t, readOnly := t.access = .readOnly }, d)
  else if t.interface = "memdb" then
    if memoryPathLimit < t.name.length + journalEnding then .error .cannotOpen
    else .ok ({ target := t }, d)
  else
    match d.databasePlace? t.name with
    | none => .error .cannotOpen
    | some place => if d.rightsFound t then d.openFile t place else .error (.disk statusFailed)

/-- Opens the database of a location. -/
def openLocation (d : Disk) (l : Location) : Except StoreFault (Opened × Disk) := do
  d.openTarget (← l.target)

end Disk
end FlowView
