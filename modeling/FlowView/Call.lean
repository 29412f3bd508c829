import FlowView.Store
/-!
# Calls on a store

What one asks of a store within a transaction: a `Call` asks about or changes the rows of one key or one
owner, a `Lookup` asks for the rows of many keys at once. A `Backend` answers both from some state. The
store itself is one backend; others are built over it.
-/

namespace FlowView

/-- A question or a change. -/
inductive Call
  | findInstance (id : String)
  | saveInstance (r : ProcessInstance)
  | deleteInstance (id : String)
  | findTask (id : String)
  | listTasks (instanceId : String)
  | saveTask (r : UserTask)
  | deleteTask (id : String)
  | findVariable (instanceId name : String)
  | listVariables (instanceId : String)
  | saveVariable (r : ProcessVariable)
  | deleteVariable (id : String)
  | findTaskVariable (taskId name : String)
  | listTaskVariables (taskId : String)
  | saveTaskVariable (r : TaskVariable)
  | deleteTaskVariable (id : String)
  | link (taskId variableId : String)
  | unlink (taskId variableId : String)
  | listLinked (taskId : String)
  | unlinkTask (taskId : String)
  | unlinkVariable (variableId : String)
  | isCandidate (c : Candidate)
  | addCandidate (c : Candidate)
  | removeCandidate (c : Candidate)
  | listCandidates (role : Role) (owner : String)
  | clearCandidates (taskId : String)
  | findActivity (id : String)
  | listActivities (instanceId : String)
  | saveActivity (r : Activity)
  | deleteActivities (instanceId : String)
  | flowRecorded (eventId : String)
  | recordFlow (r : SequenceFlow)
  | listFlows (instanceId : String)
  | deleteFlows (instanceId : String)
  | findIntegration (id : String)
  | listIntegrations (instanceId : String)
  | saveIntegration (r : IntegrationCall)
  | deleteIntegrations (instanceId : String)
  | findDefinition (id : String)
  | saveDefinition (r : ProcessDefinition)
  | findModel (definitionId : String)
  | saveModel (r : ProcessModel)
  | findApplication (id : String)
  | saveApplication (r : Application)
  | freshId
  deriving DecidableEq, Repr

/-- What a call is answered with. -/
abbrev Call.Answer : Call → Type
  | .findInstance _ => Option ProcessInstance
  | .findTask _ => Option UserTask
  | .listTasks _ => List UserTask
  | .findVariable _ _ => Option ProcessVariable
  | .listVariables _ | .listLinked _ => List ProcessVariable
  | .findTaskVariable _ _ => Option TaskVariable
  | .listTaskVariables _ => List TaskVariable
  | .isCandidate _ | .flowRecorded _ => Bool
  | .listCandidates _ _ => List Candidate
  | .findActivity _ => Option Activity
  | .listActivities _ => List Activity
  | .listFlows _ => List SequenceFlow
  | .findIntegration _ => Option IntegrationCall
  | .listIntegrations _ => List IntegrationCall
  | .findDefinition _ => Option ProcessDefinition
  | .findModel _ => Option ProcessModel
  | .findApplication _ => Option Application
  | .freshId => String
  | .saveInstance _ | .deleteInstance _ | .saveTask _ | .deleteTask _ | .saveVariable _
  | .deleteVariable _ | .saveTaskVariable _ | .deleteTaskVariable _ | .link _ _ | .unlink _ _
  | .unlinkTask _ | .unlinkVariable _ | .addCandidate _ | .removeCandidate _ | .clearCandidates _
  | .saveActivity _ | .deleteActivities _ | .recordFlow _ | .deleteFlows _ | .saveIntegration _
  | .deleteIntegrations _ | .saveDefinition _ | .saveModel _ | .saveApplication _ => Unit

/-- Does a call change tables? -/
def Call.writes : Call → Bool
  | .saveInstance _ | .deleteInstance _ | .saveTask _ | .deleteTask _ | .saveVariable _
  | .deleteVariable _ | .saveTaskVariable _ | .deleteTaskVariable _ | .link _ _ | .unlink _ _
  | .unlinkTask _ | .unlinkVariable _ | .addCandidate _ | .removeCandidate _ | .clearCandidates _
  | .saveActivity _ | .deleteActivities _ | .recordFlow _ | .deleteFlows _ | .saveIntegration _
  | .deleteIntegrations _ | .saveDefinition _ | .saveModel _ | .saveApplication _ => true
  | _ => false

/-- A question about the rows of many keys. -/
inductive Lookup
  | tasks (ids : List String)
  | processVariables (instanceId : String) (names : List String)
  | activities (ids : List String)
  deriving DecidableEq, Repr

/-- What a lookup is answered with. -/
abbrev Lookup.Answer : Lookup → Type
  | .tasks _ => List UserTask
  | .processVariables _ _ => List ProcessVariable
  | .activities _ => List Activity

/-- What comes of a step: an answer or a failure, and the state either way. -/
abbrev Outcome (α σ : Type) := Except Failure α × σ

/-- Answers calls and lookups from a state. -/
structure Backend (σ : Type) where
  answer : (c : Call) → σ → Outcome c.Answer σ
  look : (l : Lookup) → σ → Outcome l.Answer σ

namespace Store

/-- An answer that leaves the tables as they are. -/
def replied {α : Type} (s : Store) (a : α) : Outcome α Store := (.ok a, s)

/-- An answer that reading may fail to give. -/
def read {α : Type} (s : Store) (a : Except Failure α) : Outcome α Store := (a, s)

def changed (s : Store) : Outcome Unit Store := (.ok (), s)

/-- A change that may be refused; then the tables stay as they are. -/
def change (s : Store) (s' : Except Failure Store) : Outcome Unit Store :=
  match s' with
  | .ok s' => (.ok (), s')
  | .error e => (.error e, s)

/-- The store's answer to a call. -/
def answer : (c : Call) → (s : Store) → Outcome c.Answer Store
  | .findInstance id, s => s.read (s.findInstance id)
  | .saveInstance r, s => (s.saveInstance r).changed
  | .deleteInstance id, s => s.change (s.deleteInstance id)
  | .findTask id, s => s.read (s.findTask id)
  | .listTasks instanceId, s => s.read (s.listTasks instanceId)
  | .saveTask r, s => (s.saveTask r).changed
  | .deleteTask id, s => s.change (s.deleteTask id)
  | .findVariable instanceId name, s => s.replied (s.findVariable instanceId name)
  | .listVariables instanceId, s => s.replied (s.listVariables instanceId)
  | .saveVariable r, s => s.change (s.saveVariable r)
  | .deleteVariable id, s => s.change (s.deleteVariable id)
  | .findTaskVariable taskId name, s => s.replied (s.findTaskVariable taskId name)
  | .listTaskVariables taskId, s => s.replied (s.listTaskVariables taskId)
  | .saveTaskVariable r, s => s.change (s.saveTaskVariable r)
  | .deleteTaskVariable id, s => (s.deleteTaskVariable id).changed
  | .link taskId variableId, s => s.change (s.link taskId variableId)
  | .unlink taskId variableId, s => (s.unlink taskId variableId).changed
  | .listLinked taskId, s => s.replied (s.listLinked taskId)
  | .unlinkTask taskId, s => (s.unlinkTask taskId).changed
  | .unlinkVariable variableId, s => (s.unlinkVariable variableId).changed
  | .isCandidate c, s => s.replied (s.isCandidate c)
  | .addCandidate c, s => s.change (s.addCandidate c)
  | .removeCandidate c, s => (s.removeCandidate c).changed
  | .listCandidates role owner, s => s.replied (s.listCandidates role owner)
  | .clearCandidates taskId, s => (s.clearCandidates taskId).changed
  | .findActivity id, s => s.read (s.findActivity id)
  | .listActivities instanceId, s => s.read (s.listActivities instanceId)
  | .saveActivity r, s => (s.saveActivity r).changed
  | .deleteActivities instanceId, s => (s.deleteActivities instanceId).changed
  | .flowRecorded eventId, s => s.replied (s.flowRecorded eventId)
  | .recordFlow r, s => s.change (s.recordFlow r)
  | .listFlows instanceId, s => s.replied (s.listFlows instanceId)
  | .deleteFlows instanceId, s => (s.deleteFlows instanceId).changed
  | .findIntegration id, s => s.read (s.findIntegration id)
  | .listIntegrations instanceId, s => s.read (s.listIntegrations instanceId)
  | .saveIntegration r, s => (s.saveIntegration r).changed
  | .deleteIntegrations instanceId, s => (s.deleteIntegrations instanceId).changed
  | .findDefinition id, s => s.replied (s.findDefinition id)
  | .saveDefinition r, s => (s.saveDefinition r).changed
  | .findModel definitionId, s => s.replied (s.findModel definitionId)
  | .saveModel r, s => (s.saveModel r).changed
  | .findApplication id, s => s.replied (s.findApplication id)
  | .saveApplication r, s => (s.saveApplication r).changed
  | .freshId, s => (.ok s.freshId.1, s.freshId.2)

/-- The rows of many keys. No key at all needs no statement. -/
def look : (l : Lookup) → (s : Store) → Outcome l.Answer Store
  | .tasks ids, s => s.read (s.findTasks ids)
  | .processVariables instanceId names, s => s.replied (s.findVariables instanceId names)
  | .activities ids, s => s.read (s.findActivities ids)

/-- The store as a backend. -/
def backend : Backend Store := ⟨Store.answer, Store.look⟩

end Store

/-- A backend that refuses every change. -/
def Backend.readOnly {σ : Type} (b : Backend σ) : Backend σ where
  answer c s := if c.writes then (.error (.query .readOnly), s) else b.answer c s
  look := b.look

end FlowView
