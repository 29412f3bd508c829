/-!
# Statuses

The states that process instances, tasks, activities and integration calls go through. A table holds
the name of a status; `Status.ofName?` reads it back.
-/

namespace FlowView

/-- A type of statuses: all of them, each with its name, and the words that messages use for one. -/
class Status (α : Type) where
  title : String
  all : List α
  name : α → String

/-- The status of a name. -/
def Status.ofName? {α : Type} [Status α] (text : String) : Option α :=
  (Status.all (α := α)).find? fun s => Status.name s = text

/-- The message for a name that no status has. -/
def Status.unknownMessage (α : Type) [Status α] (text : String) : String :=
  "unknown " ++ Status.title α ++ " '" ++ text ++ "'"

inductive InstanceStatus
  | created
  | running
  | suspended
  | completed
  | cancelled
  deriving DecidableEq, Repr

instance : Status InstanceStatus where
  title := "process instance status"
  all := [.created, .running, .suspended, .completed, .cancelled]
  name
    | .created => "CREATED"
    | .running => "RUNNING"
    | .suspended => "SUSPENDED"
    | .completed => "COMPLETED"
    | .cancelled => "CANCELLED"

/-- Has the instance ended? -/
def InstanceStatus.isFinal : InstanceStatus → Bool
  | .completed | .cancelled => true
  | _ => false

inductive TaskStatus
  | created
  | assigned
  | suspended
  | completed
  | cancelled
  deriving DecidableEq, Repr

instance : Status TaskStatus where
  title := "task status"
  all := [.created, .assigned, .suspended, .completed, .cancelled]
  name
    | .created => "CREATED"
    | .assigned => "ASSIGNED"
    | .suspended => "SUSPENDED"
    | .completed => "COMPLETED"
    | .cancelled => "CANCELLED"

/-- Has the task ended? -/
def TaskStatus.isFinal : TaskStatus → Bool
  | .completed | .cancelled => true
  | _ => false

inductive ActivityStatus
  | started
  | completed
  | cancelled
  | error
  deriving DecidableEq, Repr

instance : Status ActivityStatus where
  title := "activity status"
  all := [.started, .completed, .cancelled, .error]
  name
    | .started => "STARTED"
    | .completed => "COMPLETED"
    | .cancelled => "CANCELLED"
    | .error => "ERROR"

inductive IntegrationStatus
  | requested
  | resultReceived
  | errorReceived
  deriving DecidableEq, Repr

instance : Status IntegrationStatus where
  title := "integration context status"
  all := [.requested, .resultReceived, .errorReceived]
  name
    | .requested => "INTEGRATION_REQUESTED"
    | .resultReceived => "INTEGRATION_RESULT_RECEIVED"
    | .errorReceived => "INTEGRATION_ERROR_RECEIVED"

end FlowView
