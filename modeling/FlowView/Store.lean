import FlowView.Failure
import FlowView.Record
import FlowView.Store.Table
/-!
# The store

The tables of the read model and the statements on them. A statement either changes the tables or is
refused; what refuses it are the unique columns and the references between tables. A status column can
also be written from outside, with any text: then every statement that reads the row fails until the
row is saved again. What an engine itself limits, such as the number of values in one statement, is left
out.
-/

namespace FlowView

/-- The tables with a status column. -/
inductive StatusTable
  | instances
  | tasks
  | activities
  | integrations
  deriving DecidableEq, Repr

/-- A status text that names no status, and the row it stands in. -/
structure ForeignStatus where
  table : StatusTable
  id : String
  text : String
  deriving DecidableEq, Repr

/-- The tables of the read model. Candidates of all roles share one table. -/
structure Store where
  instances : List ProcessInstance := []
  tasks : List UserTask := []
  processVariables : List ProcessVariable := []
  taskVariables : List TaskVariable := []
  links : List VariableLink := []
  candidates : List Candidate := []
  activities : List Activity := []
  flows : List SequenceFlow := []
  integrations : List IntegrationCall := []
  definitions : List ProcessDefinition := []
  models : List ProcessModel := []
  applications : List Application := []
  /-- Status texts that were written from outside and name none. -/
  foreignStatuses : List ForeignStatus := []
  /-- How many ids were tried so far. -/
  issued : Nat := 0
  deriving DecidableEq, Repr

namespace Store

variable (s : Store)

/-! ## Statuses from outside -/

/-- The foreign text in a row's status column. -/
def foreignStatus? (table : StatusTable) (id : String) : Option String :=
  (s.foreignStatuses.find? fun f => f.table = table ∧ f.id = id).map ForeignStatus.text

/-- The rows that a statement reads, unless one of them holds no status. -/
def readable {α : Type} (table : StatusTable) (id : α → String) (rows : List α) :
    Except Failure (List α) :=
  if rows.any fun r => (s.foreignStatus? table (id r)).isSome then .error (.query .unknownStatus)
  else .ok rows

/-- The row that a statement reads. -/
def readable? {α : Type} (table : StatusTable) (id : α → String) (row : Option α) :
    Except Failure (Option α) :=
  (s.readable table id row.toList).map List.head?

/-- Forgets the foreign texts of rows that are saved or deleted. -/
def settle (table : StatusTable) (picked : String → Bool) : List ForeignStatus :=
  s.foreignStatuses.filter fun f => !(f.table = table ∧ picked f.id)

/-- Writes a text into the status column of the row of an id: the rows and the foreign texts after it,
and how many rows have the id. -/
def overwrite {α τ : Type} [Status τ] (table : StatusTable) (key : α → String) (set : α → τ → α)
    (id text : String) (rows : List α) : List α × List ForeignStatus × Nat :=
  let n := rows.countP fun r => key r = id
  let settled := s.settle table (· = id)
  match (Status.ofName? text : Option τ) with
  | some status => (rows.map fun r => if key r = id then set r status else r, settled, n)
  | none => (rows, if n = 0 then settled else ⟨table, id, text⟩ :: settled, n)

/-- Sets the status column of a row to any text, and counts the rows that have the id. -/
def forceStatus (table : StatusTable) (id text : String) : Store × Nat :=
  match table with
  | .instances =>
    let (instances, foreignStatuses, n) :=
      s.overwrite table ProcessInstance.id (fun r status => { r with status }) id text s.instances
    ({ s with instances, foreignStatuses }, n)
  | .tasks =>
    let (tasks, foreignStatuses, n) :=
      s.overwrite table UserTask.id (fun r status => { r with status }) id text s.tasks
    ({ s with tasks, foreignStatuses }, n)
  | .activities =>
    let (activities, foreignStatuses, n) :=
      s.overwrite table Activity.id (fun r status => { r with status }) id text s.activities
    ({ s with activities, foreignStatuses }, n)
  | .integrations =>
    let (integrations, foreignStatuses, n) :=
      s.overwrite table IntegrationCall.id (fun r status => { r with status }) id text s.integrations
    ({ s with integrations, foreignStatuses }, n)

/-! ## Generated ids -/

/-- The id of a number, in the form of a random identifier. -/
def idText (n : Nat) : String :=
  let ds := Nat.toDigits 16 n
  "f10a71e5-0b5e-4c1d-9a2e-" ++ String.ofList (List.replicate (12 - ds.length) '0' ++ ds)

/-- The ids that generated ones must differ from. -/
def usedIds : List String :=
  s.processVariables.map ProcessVariable.id ++ s.taskVariables.map TaskVariable.id
    ++ s.flows.map SequenceFlow.id

/-- The first number from `n` on whose id is not used, looking at `fuel` of them. -/
def firstUnused (used : List String) : (fuel n : Nat) → Nat
  | 0, n => n
  | fuel + 1, n => if idText n ∈ used then firstUnused used fuel (n + 1) else n

/-- A new id. One of the first numbers is free, for there is one more of them than used ids. -/
def freshId : String × Store :=
  let n := firstUnused s.usedIds (s.usedIds.length + 1) s.issued
  (idText n, { s with issued := n + 1 })

/-! ## Process instances -/

def findInstance (id : String) : Except Failure (Option ProcessInstance) :=
  s.readable? .instances ProcessInstance.id (Table.lookup ProcessInstance.id id s.instances)

def saveInstance (r : ProcessInstance) : Store :=
  { s with
    instances := Table.upsert ProcessInstance.id (fun _ new => new) r s.instances
    foreignStatuses := s.settle .instances (· = r.id) }

/-- An instance that variables belong to cannot be deleted. -/
def deleteInstance (id : String) : Except Failure Store :=
  if Table.has ProcessInstance.id id s.instances ∧ s.processVariables.any (·.instanceId = id) then
    .error (.query .foreignKey)
  else .ok { s with
    instances := Table.remove (·.id = id) s.instances
    foreignStatuses := s.settle .instances (· = id) }

/-! ## Tasks -/

def findTask (id : String) : Except Failure (Option UserTask) :=
  s.readable? .tasks UserTask.id (Table.lookup UserTask.id id s.tasks)

def findTasks (ids : List String) : Except Failure (List UserTask) :=
  s.readable .tasks UserTask.id (s.tasks.filter (·.id ∈ ids))

/-- The tasks of an instance, the oldest first. -/
def listTasks (instanceId : String) : Except Failure (List UserTask) :=
  s.readable .tasks UserTask.id
    (Table.sort (Table.dated (·.createdDate.map Instant.text) UserTask.id)
      (s.tasks.filter (·.instanceId = some instanceId)))

def saveTask (r : UserTask) : Store :=
  { s with
    tasks := Table.upsert UserTask.id (fun _ new => new) r s.tasks
    foreignStatuses := s.settle .tasks (· = r.id) }

/-- Does anything belong to the task? -/
def taskInUse (id : String) : Bool :=
  s.taskVariables.any (·.taskId = id) ∨ s.links.any (·.taskId = id)
    ∨ s.candidates.any fun c => c.role.ofTask ∧ c.owner = id

def deleteTask (id : String) : Except Failure Store :=
  if Table.has UserTask.id id s.tasks ∧ s.taskInUse id then .error (.query .foreignKey)
  else .ok { s with
    tasks := Table.remove (·.id = id) s.tasks
    foreignStatuses := s.settle .tasks (· = id) }

/-! ## Process variables -/

def findVariable (instanceId name : String) : Option ProcessVariable :=
  s.processVariables.find? fun v => v.instanceId = instanceId ∧ v.name = name

def findVariables (instanceId : String) (names : List String) : List ProcessVariable :=
  s.processVariables.filter fun v => v.instanceId = instanceId ∧ v.name ∈ names

/-- The variables of an instance by name. -/
def listVariables (instanceId : String) : List ProcessVariable :=
  Table.sort (Table.before ProcessVariable.name ProcessVariable.id)
    (s.processVariables.filter (·.instanceId = instanceId))

/-- What saving a variable over an old one changes: owner, name and creation stay. -/
def reviseVariable (old new : ProcessVariable) : ProcessVariable :=
  { old with
    type := new.type, value := new.value, lastUpdatedTime := new.lastUpdatedTime,
    service := new.service }

/-- A new variable needs a name that its instance does not use, and the instance. -/
def saveVariable (r : ProcessVariable) : Except Failure Store :=
  let saved := { s with
    processVariables := Table.upsert ProcessVariable.id reviseVariable r s.processVariables }
  if Table.has ProcessVariable.id r.id s.processVariables then .ok saved
  else if (s.findVariable r.instanceId r.name).isSome then
    .error (.query (.notUnique ["process_variables.process_instance_id", "process_variables.name"]))
  else if Table.has ProcessInstance.id r.instanceId s.instances then .ok saved
  else .error (.query .foreignKey)

/-- A variable that tasks show cannot be deleted. -/
def deleteVariable (id : String) : Except Failure Store :=
  if Table.has ProcessVariable.id id s.processVariables ∧ s.links.any (·.variableId = id) then
    .error (.query .foreignKey)
  else .ok { s with processVariables := Table.remove (·.id = id) s.processVariables }

/-! ## Task variables -/

def findTaskVariable (taskId name : String) : Option TaskVariable :=
  s.taskVariables.find? fun v => v.taskId = taskId ∧ v.name = name

/-- The variables of a task by name. -/
def listTaskVariables (taskId : String) : List TaskVariable :=
  Table.sort (Table.before TaskVariable.name TaskVariable.id)
    (s.taskVariables.filter (·.taskId = taskId))

/-- What saving a variable over an old one changes: owner, name and creation stay. -/
def reviseTaskVariable (old new : TaskVariable) : TaskVariable :=
  { old with
    type := new.type, value := new.value, lastUpdatedTime := new.lastUpdatedTime,
    service := new.service }

/-- A new variable needs a name that its task does not use, and the task. -/
def saveTaskVariable (r : TaskVariable) : Except Failure Store :=
  let saved := { s with
    taskVariables := Table.upsert TaskVariable.id reviseTaskVariable r s.taskVariables }
  if Table.has TaskVariable.id r.id s.taskVariables then .ok saved
  else if (s.findTaskVariable r.taskId r.name).isSome then
    .error (.query (.notUnique ["task_variables.task_id", "task_variables.name"]))
  else if Table.has UserTask.id r.taskId s.tasks then .ok saved
  else .error (.query .foreignKey)

def deleteTaskVariable (id : String) : Store :=
  { s with taskVariables := Table.remove (·.id = id) s.taskVariables }

/-! ## Process variables that tasks show -/

/-- A link needs its task and its variable, unless it is there already. -/
def link (taskId variableId : String) : Except Failure Store :=
  let l : VariableLink := ⟨taskId, variableId⟩
  if l ∈ s.links then .ok s
  else if Table.has UserTask.id taskId s.tasks
      ∧ Table.has ProcessVariable.id variableId s.processVariables then
    .ok { s with links := s.links ++ [l] }
  else .error (.query .foreignKey)

def unlink (taskId variableId : String) : Store :=
  { s with links := Table.remove (· = ⟨taskId, variableId⟩) s.links }

/-- The variables that a task shows, by name. -/
def listLinked (taskId : String) : List ProcessVariable :=
  Table.sort (Table.before ProcessVariable.name ProcessVariable.instanceId)
    (s.processVariables.filter fun v => ⟨taskId, v.id⟩ ∈ s.links)

def unlinkTask (taskId : String) : Store :=
  { s with links := Table.remove (·.taskId = taskId) s.links }

def unlinkVariable (variableId : String) : Store :=
  { s with links := Table.remove (·.variableId = variableId) s.links }

/-! ## Candidates -/

def isCandidate (c : Candidate) : Bool := c ∈ s.candidates

/-- A candidate for a task needs the task, unless it is there already. -/
def addCandidate (c : Candidate) : Except Failure Store :=
  if c ∈ s.candidates then .ok s
  else if c.role.ofTask ∧ ¬Table.has UserTask.id c.owner s.tasks then .error (.query .foreignKey)
  else .ok { s with candidates := s.candidates ++ [c] }

def removeCandidate (c : Candidate) : Store :=
  { s with candidates := Table.remove (· = c) s.candidates }

/-- The candidates of an owner in a role, by their ids. -/
def listCandidates (role : Role) (owner : String) : List Candidate :=
  Table.sort (fun a b => a.candidate ≤ b.candidate)
    (s.candidates.filter fun c => c.role = role ∧ c.owner = owner)

/-- Removes the candidate users and groups of a task. -/
def clearCandidates (taskId : String) : Store :=
  { s with candidates := Table.remove (fun c => c.role.ofTask ∧ c.owner = taskId) s.candidates }

/-! ## Activities -/

def findActivity (id : String) : Except Failure (Option Activity) :=
  s.readable? .activities Activity.id (Table.lookup Activity.id id s.activities)

def findActivities (ids : List String) : Except Failure (List Activity) :=
  s.readable .activities Activity.id (s.activities.filter (·.id ∈ ids))

/-- The activities of an instance, the oldest first. -/
def listActivities (instanceId : String) : Except Failure (List Activity) :=
  s.readable .activities Activity.id
    (Table.sort (Table.dated (·.startedDate.map Instant.text) Activity.id)
      (s.activities.filter (·.instanceId = instanceId)))

/-- What saving an activity over an old one changes: element and instance stay. -/
def reviseActivity (old new : Activity) : Activity :=
  { new with elementId := old.elementId, instanceId := old.instanceId }

def saveActivity (r : Activity) : Store :=
  { s with
    activities := Table.upsert Activity.id reviseActivity r s.activities
    foreignStatuses := s.settle .activities (· = r.id) }

def deleteActivities (instanceId : String) : Store :=
  let gone := (s.activities.filter (·.instanceId = instanceId)).map Activity.id
  { s with
    activities := Table.remove (·.instanceId = instanceId) s.activities
    foreignStatuses := s.settle .activities (· ∈ gone) }

/-! ## Sequence flows -/

def flowRecorded (eventId : String) : Bool := s.flows.any (·.eventId = some eventId)

/-- A flow is only ever added. Its event may be missing, but no two flows have the same one. -/
def recordFlow (r : SequenceFlow) : Except Failure Store :=
  if r.eventId.any s.flowRecorded then
    .error (.query (.notUnique ["bpmn_sequence_flows.event_id"]))
  else if Table.has SequenceFlow.id r.id s.flows then
    .error (.query (.keyTaken "bpmn_sequence_flows.id"))
  else .ok { s with flows := s.flows ++ [r] }

/-- The flows of an instance, the oldest first. -/
def listFlows (instanceId : String) : List SequenceFlow :=
  Table.sort (Table.dated (·.date.map Instant.text) SequenceFlow.id)
    (s.flows.filter (·.instanceId = instanceId))

def deleteFlows (instanceId : String) : Store :=
  { s with flows := Table.remove (·.instanceId = instanceId) s.flows }

/-! ## Integration calls -/

def findIntegration (id : String) : Except Failure (Option IntegrationCall) :=
  s.readable? .integrations IntegrationCall.id (Table.lookup IntegrationCall.id id s.integrations)

/-- The calls of an instance, the oldest request first. -/
def listIntegrations (instanceId : String) : Except Failure (List IntegrationCall) :=
  s.readable .integrations IntegrationCall.id
    (Table.sort (Table.dated (·.requestDate.map Instant.text) IntegrationCall.id)
      (s.integrations.filter (·.instanceId = instanceId)))

/-- What saving a call over an old one changes: instance and client stay. -/
def reviseIntegration (old new : IntegrationCall) : IntegrationCall :=
  { new with instanceId := old.instanceId, clientId := old.clientId }

def saveIntegration (r : IntegrationCall) : Store :=
  { s with
    integrations := Table.upsert IntegrationCall.id reviseIntegration r s.integrations
    foreignStatuses := s.settle .integrations (· = r.id) }

def deleteIntegrations (instanceId : String) : Store :=
  let gone := (s.integrations.filter (·.instanceId = instanceId)).map IntegrationCall.id
  { s with
    integrations := Table.remove (·.instanceId = instanceId) s.integrations
    foreignStatuses := s.settle .integrations (· ∈ gone) }

/-! ## Deployments -/

def findDefinition (id : String) : Option ProcessDefinition :=
  Table.lookup ProcessDefinition.id id s.definitions

def saveDefinition (r : ProcessDefinition) : Store :=
  { s with definitions := Table.upsert ProcessDefinition.id (fun _ new => new) r s.definitions }

def findModel (definitionId : String) : Option ProcessModel :=
  Table.lookup ProcessModel.definitionId definitionId s.models

def saveModel (r : ProcessModel) : Store :=
  { s with models := Table.upsert ProcessModel.definitionId (fun _ new => new) r s.models }

def findApplication (id : String) : Option Application := Table.lookup Application.id id s.applications

def saveApplication (r : Application) : Store :=
  { s with applications := Table.upsert Application.id (fun _ new => new) r s.applications }

end Store
end FlowView
