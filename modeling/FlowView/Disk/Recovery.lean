import FlowView.Batch
import FlowView.Disk.Companion
import FlowView.Disk.Opened
/-!
# Recovery

Before a database is read, what was left beside its file is put in order: a journal is taken back, and
a log is joined to the database, which then writes to the log and no longer to the file. Then the
tables are brought up to date, or made if there are none.
-/

namespace FlowView

/-- A database that batches can be consumed by, and how it was opened. -/
structure Connection where
  database : Database
  opened : Opened
  /-- Do changes go to a log? -/
  logged : Bool := false

namespace Disk

/-- The fault number of a file that cannot be taken away. -/
def removeFailed : Nat := 2570

/-- The fault number of a change that cannot be made safe. -/
def syncFailed : Nat := 1034

/-- The fault number of a lock that cannot be made. -/
def lockFailed : Nat := 3850

/-- Is there nothing at a place that a database could be read from? -/
def isBlank (d : Disk) (place : Place) : Bool :=
  match d.node? place with
  | some (.file .nothing) | some .device => true
  | _ => false

/-- What the database at a place holds, with its log or as its file has it. -/
def stored? (d : Disk) (place : Place) (logged : Bool) : Option Store :=
  match d.node? place with
  | some (.file (.tables store)) =>
    match logged, d.companion? .log place with
    | true, some (.file (.log changed)) => some changed
    | _, _ => some store
  | _ => none

/-! ## Putting in order -/

/-- Takes the lock of a file, if that is a directory beside it. -/
def lock (d : Disk) (t : Target) (place : Place) : Except StoreFault Unit :=
  if !t.locksBeside then .ok ()
  else if (Companion.lock.place? place).isNone then .error (.disk lockFailed)
  else if (d.companion? .lock place).isSome then .error .locked
  else .ok ()

/-- Is a journal taken for one that somebody is writing now? A lock beside the file always looks like
somebody else's. -/
def passesJournal (d : Disk) (t : Target) (place : Place) : Bool :=
  t.locksBeside || (t.interface = "unix-dotfile" && (d.companion? .lock place).isSome)

/-- Takes a journal back. Beside a file that holds nothing there is nothing to undo. -/
def rollBack (d : Disk) (t : Target) (place : Place) : Except StoreFault Disk :=
  match d.filled? .journal place with
  | none => .ok d
  | some n =>
    if d.passesJournal t place then .ok d
    else if d.isBlank place then
      .ok (if t.locksInside ∧ t.access = .readOnly then d else d.removeBeside .journal place)
    else
      match n with
      | .file _ => if t.readOnly then .error .unfinished else .ok (d.removeBeside .journal place)
      | _ => .error (.disk readFailed)

/-- Joins a log to its database, and says whether there is one. A log beside a file that holds nothing
is taken away. -/
def joinLog (d : Disk) (t : Target) (place : Place) : Except StoreFault (Bool × Disk) :=
  match d.filled? .log place with
  | none => .ok (false, d)
  | some n =>
    if d.isBlank place then
      match n with
      | .file _ => .ok (false, d.removeBeside .log place)
      | _ => .error (.disk removeFailed)
    else
      match n with
      | .file _ =>
        if !t.locksInside then .error .cannotOpen
        else if !t.indexesBeside then .ok (true, d)
        else
          match d.companion? .index place with
          | some .directory => .error .noIndex
          | _ => .ok (true, d.putBeside .index place .other)
      | _ => .error .cannotOpen

/-! ## Tables -/

/-- Makes the tables in a file that holds nothing. That takes a journal. -/
def makeTables (d : Disk) (o : Opened) (place : Place) : Except StoreFault Disk :=
  if o.readOnly then .error .readOnly
  else
    match d.node? place with
    | some .device => .error (.disk syncFailed)
    | _ =>
      if (Companion.journal.place? place).isNone ∨ d.companion? .journal place matches some .directory
      then .error .cannotOpen
      else .ok ((d.put place (.file (.tables {}))).removeBeside .journal place)

/-- The connection to a database whose companions are in order. Where no journal can be written, nothing
can be changed. -/
def read (d : Disk) (o : Opened) (place : Place) (logged : Bool) : Except StoreFault (Connection × Disk) :=
  match d.stored? place logged with
  | some store =>
    let readOnly := o.readOnly || d.companion? .journal place matches some .directory
    .ok (⟨{ store, readOnly }, o, logged⟩, d)
  | none =>
    if d.isBlank place then (d.makeTables o place).map fun d' => (⟨{}, o, logged⟩, d')
    else .error .notDatabase

/-! ## Leaving -/

/-- Leaves a database that is joined to a log: a log without changes is taken away, with its index, if
the system gives the lock for it. -/
def closeLog (d : Disk) (t : Target) (place : Place) : Disk :=
  match t.readOnly, d.companion? .log place with
  | true, _ | _, some (.file (.log _)) => d
  | _, _ =>
    let d' := d.removeBeside .log place
    if t.indexesBeside then d'.removeBeside .index place else d'

/-- Leaves a database that holds `store` in the end. -/
def leave (d : Disk) (c : Connection) (store : Store) : Disk :=
  match c.opened.place with
  | none => d
  | some place =>
    if c.logged then
      (if store = c.database.store then d else d.putBeside .log place (.log store)).closeLog
        c.opened.target place
    else if store = c.database.store then d
    else (d.put place (.file (.tables store))).removeBeside .journal place

/-! ## Beginning -/

/-- Puts in order what stands beside a file, and says whether there is a log. A file that nobody changes
is in order. -/
def settle (d : Disk) (t : Target) (place : Place) : Except StoreFault Bool × Disk :=
  if t.immutable then (.ok false, d)
  else
    match d.lock t place *> d.rollBack t place with
    | .error fault => (.error fault, d)
    | .ok d' =>
      match d'.joinLog t place with
      | .error fault => (.error fault, d')
      | .ok (logged, d'') => (.ok logged, d'')

/-- Begins to work with the database in a file. What was put in order stays so, if that fails. -/
def beginAt (d : Disk) (o : Opened) (place : Place) : Except StoreFault Connection × Disk :=
  match d.settle o.target place with
  | (.error fault, d') => (.error fault, d')
  | (.ok logged, d') =>
    match d'.read o place logged with
    | .ok (c, d'') => (.ok c, d'')
    | .error fault => (.error fault, if logged then d'.closeLog o.target place else d')

/-- Begins to work with a database that was opened. -/
def begin (d : Disk) (o : Opened) : Except Failure Connection × Disk :=
  let (found, d') := match o.place with
    | some place => d.beginAt o place
    | none => (if o.readOnly then .error .readOnly else .ok ⟨{}, o, false⟩, d)
  (found.mapError fun fault => .database "migrate" (.migrating fault), d')

end Disk
end FlowView
