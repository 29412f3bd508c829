import FlowView.Disk.Tree
/-!
# Companions

The engine keeps files of its own beside that of a database. They are known by the endings of their
names alone, so that the file of another database can stand where a companion is looked for.
-/

namespace FlowView

/-- The files beside that of a database. -/
inductive Companion
  /-- What undoes a change that was not finished. -/
  | journal
  /-- Changes that are not in the database's own file yet. -/
  | log
  | index
  | lock
  deriving DecidableEq, Repr

namespace Companion

/-- What the name of a companion has behind that of the database. -/
def ending : Companion → String
  | .journal => "-journal"
  | .log => "-wal"
  | .index => "-shm"
  | .lock => ".lock"

/-- The place of a companion, unless its name is too long for one. -/
def place? (c : Companion) (place : Place) : Option Place :=
  let name := place.getLast?.getD [] ++ Text.utf8Bytes c.ending
  if FileName.limit < name.length then none else some (place.dropLast ++ [name])

end Companion

namespace Disk

/-- What stands at the place of a companion. -/
def companion? (d : Disk) (c : Companion) (place : Place) : Option DiskNode :=
  (c.place? place).bind d.node?

/-- What stands at the place of a companion, unless it is a file that holds nothing. -/
def filled? (d : Disk) (c : Companion) (place : Place) : Option DiskNode :=
  match d.companion? c place with
  | some (.file .nothing) => none
  | n => n

/-- Writes a companion. -/
def putBeside (d : Disk) (c : Companion) (place : Place) (content : FileContent) : Disk :=
  match c.place? place with
  | some beside => d.put beside (.file content)
  | none => d

/-- Takes away what stands at the place of a companion, if it is a file. -/
def removeBeside (d : Disk) (c : Companion) (place : Place) : Disk :=
  match c.place? place with
  | some beside => d.removeFile beside
  | none => d

end Disk
end FlowView
