import FlowView.Disk.Path
import FlowView.Store
/-!
# The tree of files

The directories of the disk and the files that databases are kept in. A path leads through the tree name
by name, and stops where a name is missing or no directory.
-/

namespace FlowView

/-- What a file holds. -/
inductive FileContent
  | nothing
  | tables (store : Store)
  /-- The changes of a database; with them it holds `store`. -/
  | log (store : Store)
  /-- Bytes that are no database. -/
  | other

/-- What stands at a place of the tree. -/
inductive DiskNode
  | directory
  | device
  | file (content : FileContent)

/-- A tree by the names on the way to each place, and the working directory. -/
structure Disk where
  nodes : List (Place × DiskNode)
  workDir : Place

namespace Disk

/-- What the system has on the disk, by the names on the way to it. -/
def systemNodes : List (List String × DiskNode) :=
  let top := ["bin", "dev", "etc", "home", "lib", "proc", "root", "run", "sys", "tmp", "usr", "var"]
  ([], .directory) :: top.map (fun name => ([name], .directory))
    ++ [(["dev", "shm"], .directory), (["dev", "null"], .device), (["dev", "zero"], .device),
      (["etc", "hosts"], .file .other), (["etc", "passwd"], .file .other)]

/-- A working directory with nothing in it, among those for passing use, beside the system's own files. -/
def fresh : Disk :=
  let place (names : List String) : Place := names.map Text.utf8Bytes
  let workDir := place ["tmp", ".tmp000000"]
  { nodes := (workDir, .directory) :: systemNodes.map fun (names, n) => (place names, n)
    workDir }

def node? (d : Disk) (place : Place) : Option DiskNode := d.nodes.lookup place

def isDirectory (d : Disk) (place : Place) : Bool :=
  match d.node? place with
  | some .directory => true
  | _ => false

def put (d : Disk) (place : Place) (n : DiskNode) : Disk :=
  { d with nodes := (place, n) :: d.nodes.filter (·.1 ≠ place) }

/-- Takes away the file at a place; anything else stays. -/
def removeFile (d : Disk) (place : Place) : Disk :=
  match d.node? place with
  | some (.file _) => { d with nodes := d.nodes.filter (·.1 ≠ place) }
  | _ => d

/-! ## Ways through the tree -/

/-- Goes one name on from a place. -/
def enter (d : Disk) (place : Place) (name : FileName) : Except PathFault Place :=
  match d.node? place with
  | none => .error .missing
  | some .directory =>
    if name = [] ∨ name = FileName.self then .ok place
    else if name = FileName.up then .ok place.dropLast
    else if FileName.limit < name.length then .error .tooLong
    else .ok (place ++ [name])
  | some _ => .error .notDirectory

/-- Goes along some names. -/
def walk (d : Disk) (place : Place) : List FileName → Except PathFault Place
  | [] => .ok place
  | name :: rest => do walk d (← d.enter place name) rest

/-- Where the names of a path begin. -/
def startOf (d : Disk) (bytes : List Nat) : Place := if Path.isAbsolute bytes then [] else d.workDir

/-- The place that a path names, whether anything is there or not. -/
def locate (d : Disk) (path : String) : Except PathFault Place :=
  let bytes := Text.utf8Bytes path
  if 0 ∈ bytes then .error .zeroByte
  else if Path.limit ≤ bytes.length then .error .tooLong
  else d.walk (d.startOf bytes) (Path.names bytes)

/-- Is there something at a path? -/
def pathExists (d : Disk) (path : String) : Bool :=
  match d.locate path with
  | .ok place => (d.node? place).isSome
  | .error _ => false

/-- Is there a directory at a path? -/
def directoryAt (d : Disk) (path : String) : Bool :=
  match d.locate path with
  | .ok place => d.isDirectory place
  | .error _ => false

/-- Is there a file at a path? -/
def fileAt (d : Disk) (path : String) : Bool :=
  match d.locate path with
  | .ok place =>
    match d.node? place with
    | some (.file _) => true
    | _ => false
  | .error _ => false

/-! ## Directories -/

/-- Makes one directory, in one that is there. -/
def makeDirectory (d : Disk) (path : String) : Except PathFault Disk := do
  let place ← d.locate path
  if (d.node? place).isSome then .error .exists
  if !d.isDirectory place.dropLast then .error .missing
  return d.put place .directory

/-- Makes a directory and those on the way to it; `fuel` bounds their number. What was made stays, if
a later one cannot be made. -/
def makeDirectories : (fuel : Nat) → Disk → String → Except PathFault Unit × Disk
  | 0, d, _ => (.error .missing, d)
  | fuel + 1, d, path =>
    match d.makeDirectory path with
    | .ok d' => (.ok (), d')
    | .error .missing =>
      match Path.parent? path with
      | none => (.error .missing, d)
      | some up =>
        match if up = "" then (.ok (), d) else makeDirectories fuel d up with
        | (.error e, d') => (.error e, d')
        | (.ok (), d') =>
          match d'.makeDirectory path with
          | .ok d'' => (.ok (), d'')
          | .error e => if d'.directoryAt path then (.ok (), d') else (.error e, d')
    | .error e => if d.directoryAt path then (.ok (), d) else (.error e, d)

end Disk
end FlowView
