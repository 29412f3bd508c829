import FlowView.Location.Server
/-!
# Settings

What the environment says: the database, how many connections it may have, how many single events
make a batch, and where a server is if the database's URL does not say it.
-/

namespace FlowView

/-- Why the environment cannot be used. -/
inductive SettingsFault
  | missing (name : String)
  | invalid (name reason : String)
  deriving DecidableEq, Repr

def SettingsFault.message : SettingsFault → String
  | .missing name => "missing required environment variable: " ++ name
  | .invalid name reason => "invalid value for " ++ name ++ ": " ++ reason

structure Settings where
  url : String
  engine : Engine
  /-- What the URL of a server need not say. -/
  server : Server
  maxConnections : Nat
  batchSize : Nat
  deriving DecidableEq, Repr

namespace Settings

def urlVariable : String := "BPM_QUERY_DATABASE_URL"

def connectionsVariable : String := "BPM_QUERY_MAX_CONNECTIONS"

def batchVariable : String := "BPM_QUERY_BATCH_SIZE"

/-- The names of all variables that are asked for. -/
def variableNames : List String :=
  [urlVariable, connectionsVariable, batchVariable, Server.addressVariable, Server.hostVariable,
    Server.portVariable]

/-- The number from one to below a bound in a variable. -/
def number (env : String → Option String) (name default : String) (bound : Nat) :
    Except SettingsFault Nat :=
  match Numeral.read bound ((env name).getD default).toList with
  | .ok (n + 1) => .ok (n + 1)
  | _ => .error (.invalid name "must be a positive integer")

/-- The settings of an environment. -/
def ofEnv (env : String → Option String) : Except SettingsFault Settings := do
  let url ← match env urlVariable with
    | some url => .ok url
    | none => .error (.missing urlVariable)
  let engine ← match Location.engine? url with
    | some engine => .ok engine
    | none =>
      .error (.invalid urlVariable "must start with sqlite:, postgres:// or postgresql://")
  let maxConnections ← number env connectionsVariable "10" UInt32.size
  let batchSize ← number env batchVariable "100" UInt64.size
  return { url, engine, server := .ofEnv env, maxConnections, batchSize }

end Settings
end FlowView
