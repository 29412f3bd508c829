import FlowView.Launch
/-!
# The program

Reads events from standard input, one or a list of them on a line, projects them into the read model,
and reports each batch on standard error. The read model is kept in memory for the time of the run.
-/

namespace FlowView

/-- A notice in one line. -/
def Notice.display : Notice → String
  | .projected n => s!"Batch projected handled={n.handled} skipped={n.skipped}"
  | .rejected f events =>
    "Batch rejected error=" ++ f.message ++ " code=" ++ f.root.code ++ s!" events={events}"
  | .unparseable line => s!"Skipping unparseable line line={line}"

/-- Reads a stream to its end. -/
partial def readAll (stream : IO.FS.Stream) (done : String) : IO String := do
  let line ← stream.getLine
  if line.isEmpty then return done else readAll stream (done ++ line)

/-- The environment's variables of some names. -/
def environment (names : List String) : IO (String → Option String) := do
  let found ← names.mapM fun name => return (name, ← IO.getEnv name)
  return fun name => (found.lookup name).join

end FlowView

def main : IO UInt32 := do
  let env ← FlowView.environment FlowView.Settings.variableNames
  let input ← FlowView.readAll (← IO.getStdin) ""
  let (report, _) := FlowView.Launch.run env input FlowView.Disk.fresh
  let err ← IO.getStderr
  for notice in report.notices do
    err.putStrLn notice.display
  match report.ending with
  | .finished => pure ()
  | .refused message => err.putStrLn ("Error: " ++ message)
  | .noRoom => err.putStrLn "capacity overflow"
  | .killed => err.putStrLn "out of memory"
  return UInt32.ofNat (report.exitCode?.getD 134)
