import FlowView.Schema
/-!
# Kinds of events

The event types that the read model knows, each by the name it has on the wire, in families of one
subject. Events of other types may arrive and are passed over.
-/

namespace FlowView

/-- What a kind of event is about. -/
inductive Family
  | deployment
  | process
  | task
  | candidate
  | variable
  | activity
  | sequenceFlow
  | integration
  deriving DecidableEq, Repr

/-- A kind of event. -/
inductive EventKind
  | processDeployed | applicationDeployed
  | processCreated | processStarted | processUpdated | processSuspended | processResumed
  | processCompleted | processCancelled | processDeleted
  | taskCreated | taskAssigned | taskActivated | taskSuspended | taskUpdated | taskCompleted
  | taskCancelled
  | taskCandidateUserAdded | taskCandidateUserRemoved | taskCandidateGroupAdded
  | taskCandidateGroupRemoved | processCandidateStarterUserAdded
  | processCandidateStarterUserRemoved | processCandidateStarterGroupAdded
  | processCandidateStarterGroupRemoved
  | variableCreated | variableUpdated | variableDeleted
  | activityStarted | activityCompleted | activityCancelled
  | sequenceFlowTaken
  | integrationRequested | integrationResultReceived | integrationErrorReceived
  deriving DecidableEq, Repr

def Family.name : Family → String
  | .deployment => "Deployment"
  | .process => "Process"
  | .task => "Task"
  | .candidate => "Candidate"
  | .variable => "Variable"
  | .activity => "Activity"
  | .sequenceFlow => "SequenceFlow"
  | .integration => "Integration"

namespace EventKind

/-- All kinds, in the order in which they are listed and registered. -/
def all : List EventKind := [
  .processDeployed, .applicationDeployed, .processCreated, .processStarted, .processUpdated,
  .processSuspended, .processResumed, .processCompleted, .processCancelled, .processDeleted,
  .taskCreated, .taskAssigned, .taskActivated, .taskSuspended, .taskUpdated, .taskCompleted,
  .taskCancelled, .taskCandidateUserAdded, .taskCandidateUserRemoved, .taskCandidateGroupAdded,
  .taskCandidateGroupRemoved, .processCandidateStarterUserAdded,
  .processCandidateStarterUserRemoved, .processCandidateStarterGroupAdded,
  .processCandidateStarterGroupRemoved, .variableCreated, .variableUpdated, .variableDeleted,
  .activityStarted, .activityCompleted, .activityCancelled, .sequenceFlowTaken,
  .integrationRequested, .integrationResultReceived, .integrationErrorReceived]

/-- The name on the wire. -/
def name : EventKind → String
  | .processDeployed => "PROCESS_DEPLOYED"
  | .applicationDeployed => "APPLICATION_DEPLOYED"
  | .processCreated => "PROCESS_CREATED"
  | .processStarted => "PROCESS_STARTED"
  | .processUpdated => "PROCESS_UPDATED"
  | .processSuspended => "PROCESS_SUSPENDED"
  | .processResumed => "PROCESS_RESUMED"
  | .processCompleted => "PROCESS_COMPLETED"
  | .processCancelled => "PROCESS_CANCELLED"
  | .processDeleted => "PROCESS_DELETED"
  | .taskCreated => "TASK_CREATED"
  | .taskAssigned => "TASK_ASSIGNED"
  | .taskActivated => "TASK_ACTIVATED"
  | .taskSuspended => "TASK_SUSPENDED"
  | .taskUpdated => "TASK_UPDATED"
  | .taskCompleted => "TASK_COMPLETED"
  | .taskCancelled => "TASK_CANCELLED"
  | .taskCandidateUserAdded => "TASK_CANDIDATE_USER_ADDED"
  | .taskCandidateUserRemoved => "TASK_CANDIDATE_USER_REMOVED"
  | .taskCandidateGroupAdded => "TASK_CANDIDATE_GROUP_ADDED"
  | .taskCandidateGroupRemoved => "TASK_CANDIDATE_GROUP_REMOVED"
  | .processCandidateStarterUserAdded => "PROCESS_CANDIDATE_STARTER_USER_ADDED"
  | .processCandidateStarterUserRemoved => "PROCESS_CANDIDATE_STARTER_USER_REMOVED"
  | .processCandidateStarterGroupAdded => "PROCESS_CANDIDATE_STARTER_GROUP_ADDED"
  | .processCandidateStarterGroupRemoved => "PROCESS_CANDIDATE_STARTER_GROUP_REMOVED"
  | .variableCreated => "VARIABLE_CREATED"
  | .variableUpdated => "VARIABLE_UPDATED"
  | .variableDeleted => "VARIABLE_DELETED"
  | .activityStarted => "ACTIVITY_STARTED"
  | .activityCompleted => "ACTIVITY_COMPLETED"
  | .activityCancelled => "ACTIVITY_CANCELLED"
  | .sequenceFlowTaken => "SEQUENCE_FLOW_TAKEN"
  | .integrationRequested => "INTEGRATION_REQUESTED"
  | .integrationResultReceived => "INTEGRATION_RESULT_RECEIVED"
  | .integrationErrorReceived => "INTEGRATION_ERROR_RECEIVED"

def family : EventKind → Family
  | .processDeployed | .applicationDeployed => .deployment
  | .processCreated | .processStarted | .processUpdated | .processSuspended | .processResumed
  | .processCompleted | .processCancelled | .processDeleted => .process
  | .taskCreated | .taskAssigned | .taskActivated | .taskSuspended | .taskUpdated | .taskCompleted
  | .taskCancelled => .task
  | .taskCandidateUserAdded | .taskCandidateUserRemoved | .taskCandidateGroupAdded
  | .taskCandidateGroupRemoved | .processCandidateStarterUserAdded
  | .processCandidateStarterUserRemoved | .processCandidateStarterGroupAdded
  | .processCandidateStarterGroupRemoved => .candidate
  | .variableCreated | .variableUpdated | .variableDeleted => .variable
  | .activityStarted | .activityCompleted | .activityCancelled => .activity
  | .sequenceFlowTaken => .sequenceFlow
  | .integrationRequested | .integrationResultReceived | .integrationErrorReceived => .integration

/-- The kind of a name on the wire. -/
def ofName? (name : String) : Option EventKind := all.find? (·.name = name)

def index (k : EventKind) : Nat := all.idxOf k

/-- Reads a kind by itself: its name, or an object of one key that is the name and holds null. -/
def decode (d : Document) : Except DecodeFault EventKind :=
  let named (name : String) : Except DecodeFault EventKind :=
    match ofName? name with
    | some k => .ok k
    | none => .error (.unknownName name (all.map EventKind.name))
  match d with
  | .str s => named s
  | .obj [(key, v)] => do
    let k ← named key
    match v with
    | .null => return k
    | v => .error (v.fault "unit")
  | .obj _ => .error .notOneKey
  | d => .error (d.fault "string or map")

end EventKind
end FlowView
