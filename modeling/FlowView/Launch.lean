import FlowView.Disk
import FlowView.Intake
import FlowView.Settings
/-!
# Launch

One run of the program: it takes its settings from the environment, connects to the database, and
consumes the batches of its input one after the other. A batch that fails is reported and left out.
-/

namespace FlowView

/-- What a run reports of its input. -/
inductive Notice
  | projected (n : Counts)
  | rejected (f : Failure) (events : Nat)
  | unparseable (line : Nat)

/-- How a run ends. -/
inductive Ending
  | finished
  /-- The run could not begin. -/
  | refused (message : String)
  /-- More bytes were asked for than there can be. -/
  | noRoom
  /-- More bytes were asked for than the machine gives, which ends the run at once. -/
  | killed

/-- How a run went: what it reported of its input, and how it ended. -/
structure Report where
  notices : List Notice := []
  ending : Ending := .finished

namespace Report

/-- The status that the run exits with, if it comes to that. -/
def exitCode? (r : Report) : Option Nat :=
  match r.ending with
  | .finished => some 0
  | .refused _ => some 1
  | .noRoom => some 101
  | .killed => none

end Report

/-- The machine that a run is on, which may always give what it is asked for. -/
structure Machine where
  /-- Does it have room for a pool of so many connections? -/
  pools : Nat → Bool := fun _ => true
  /-- Does it give so many bytes at once? -/
  gives : Nat → Bool := fun _ => true

namespace Launch

/-- Consumes what the input holds, one batch after the other. -/
def consumeAll (g : Registry) : Database → List Intake → List Notice × Database
  | d, [] => ([], d)
  | d, .unparseable n :: rest =>
    let (notices, d') := consumeAll g d rest
    (.unparseable n :: notices, d')
  | d, .batch es :: rest =>
    let (r, d') := d.consume g es
    let notice := match r with
      | .ok n => Notice.projected n
      | .error f => Notice.rejected f es.length
    let (notices, d'') := consumeAll g d' rest
    (notice :: notices, d'')

/-- The most bytes that can be asked for at once. -/
def maxRequest : Nat := Int64.maxValue.toInt.toNat

/-- How many bytes are set aside for each event of a batch before the first event is read: thirteen texts take
24 each, the entity 32, and the timestamp and the version 8 each. -/
def eventSize : Nat := 360

/-- How a run ends that sets aside bytes it cannot have. -/
def shortage? (m : Machine) (size : Nat) : Option Ending :=
  if maxRequest < size then some .noRoom
  else if m.gives size then none
  else some .killed

/-- Consumes an input into a database that was connected to. -/
def consumeText (m : Machine) (batchSize : Nat) (input : String) (c : Connection) (d : Disk) : Report × Disk :=
  match shortage? m (batchSize * eventSize) with
  | some .killed => ({ ending := .killed }, d)
  | some ending => ({ ending }, d.leave c c.database.store)
  | none =>
    let (notices, database) :=
      consumeAll Registry.full c.database (Intake.ofText batchSize input)
    ({ notices }, d.leave c database.store)

/-- Runs on an environment, an input and a disk. -/
def run (env : String → Option String) (input : String) (d : Disk) (m : Machine := {}) : Report × Disk :=
  match Settings.ofEnv env with
  | .error fault => ({ ending := .refused fault.message }, d)
  | .ok settings =>
    match d.find settings.server settings.url with
    | (.error f, d') => ({ ending := .refused f.message }, d')
    | (.ok whereabouts, d') =>
      if m.pools settings.maxConnections then
        match d'.connect whereabouts with
        | (.error f, d'') => ({ ending := .refused f.message }, d'')
        | (.ok c, d'') => consumeText m settings.batchSize input c d''
      else ({ ending := .killed }, d')

end Launch
end FlowView
