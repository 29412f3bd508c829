import FlowView.Event
/-!
# Payloads

The records that an event's entity may be, one for each subject. Which one it should be follows from
the event's type; a payload that does not fit is a fault of the event.
-/

namespace FlowView

/-- Why an event cannot be used. -/
inductive EventFault
  | unknownType (name : String)
  | malformed (typeName : String) (fault : DecodeFault)
  deriving DecidableEq, Repr

def EventFault.message : EventFault → String
  | .unknownType name => s!"unknown event type '{name}'"
  | .malformed typeName fault => s!"malformed {typeName} payload: " ++ fault.message

/-- A record that an entity may be. -/
class Payload (α : Type) where
  schema : Schema
  ofRow : Row schema.fields → α
  toRow : α → Row schema.fields

namespace Payload
variable {α : Type} [Payload α]

/-- The payload that a value is. -/
def ofJson (v : Json) : Except DecodeFault α := ((schema α).decode (.ofValue v)).map ofRow

def toJson (p : α) : Json := (schema α).encode (toRow p)

end Payload

/-- The entity as the payload that is wanted. -/
def Event.payload {α : Type} [Payload α] (e : Event) : Except EventFault α :=
  match Payload.ofJson e.entity with
  | .ok p => .ok p
  | .error fault => .error (.malformed e.typeName fault)

/-- The key of an executed element: three parts with colons between, the last of them optional. -/
def activityKey (instanceId elementId : String) (executionId : Option String) : String :=
  instanceId ++ ":" ++ elementId ++ ":" ++ executionId.getD ""

/-- An element at one end of a sequence flow. -/
structure FlowEnd where
  elementId : Option String := none
  name : Option String := none
  type : Option String := none
  deriving DecidableEq, Repr, Inhabited

/-- A process instance, in events about processes. -/
structure InstancePayload where
  id : String
  name : Option String := none
  definition : DefinitionRef := {}
  definitionName : Option String := none
  initiator : Option String := none
  businessKey : Option String := none
  status : Option String := none
  parentId : Option String := none
  startDate : Option Instant := none
  completedDate : Option Instant := none

instance : Payload InstancePayload where
  schema := ⟨"ProcessInstancePayload", [
    ⟨"id", .text⟩, ⟨"name", .optText⟩, ⟨"processDefinitionId", .optText⟩,
    ⟨"processDefinitionKey", .optText⟩, ⟨"processDefinitionVersion", .optInt32⟩,
    ⟨"processDefinitionName", .optText⟩, ⟨"initiator", .optText⟩, ⟨"businessKey", .optText⟩,
    ⟨"status", .optText⟩, ⟨"parentId", .optText⟩, ⟨"startDate", .date⟩, ⟨"completedDate", .date⟩]⟩
  ofRow := fun (id, name, definitionId, definitionKey, definitionVersion, definitionName, initiator,
      businessKey, status, parentId, startDate, completedDate, ()) =>
    { id, name, definition := ⟨definitionId, definitionKey, definitionVersion⟩, definitionName,
      initiator, businessKey, status, parentId, startDate, completedDate }
  toRow p := (p.id, p.name, p.definition.id, p.definition.key, p.definition.version,
    p.definitionName, p.initiator, p.businessKey, p.status, p.parentId, p.startDate,
    p.completedDate, ())

/-- A user task, in events about tasks. -/
structure TaskPayload where
  id : String
  name : Option String := none
  description : Option String := none
  assignee : Option String := none
  owner : Option String := none
  priority : Option Int := none
  status : Option String := none
  createdDate : Option Instant := none
  dueDate : Option Instant := none
  claimedDate : Option Instant := none
  completedDate : Option Instant := none
  completedBy : Option String := none
  instanceId : Option String := none
  definitionId : Option String := none
  definitionVersion : Option Int := none
  businessKey : Option String := none
  taskDefinitionKey : Option String := none
  parentTaskId : Option String := none
  formKey : Option String := none

instance : Payload TaskPayload where
  schema := ⟨"TaskPayload", [
    ⟨"id", .text⟩, ⟨"name", .optText⟩, ⟨"description", .optText⟩, ⟨"assignee", .optText⟩,
    ⟨"owner", .optText⟩, ⟨"priority", .optInt32⟩, ⟨"status", .optText⟩, ⟨"createdDate", .date⟩,
    ⟨"dueDate", .date⟩, ⟨"claimedDate", .date⟩, ⟨"completedDate", .date⟩, ⟨"completedBy", .optText⟩,
    ⟨"processInstanceId", .optText⟩, ⟨"processDefinitionId", .optText⟩,
    ⟨"processDefinitionVersion", .optInt32⟩, ⟨"businessKey", .optText⟩,
    ⟨"taskDefinitionKey", .optText⟩, ⟨"parentTaskId", .optText⟩, ⟨"formKey", .optText⟩]⟩
  ofRow := fun (id, name, description, assignee, owner, priority, status, createdDate, dueDate,
      claimedDate, completedDate, completedBy, instanceId, definitionId, definitionVersion,
      businessKey, taskDefinitionKey, parentTaskId, formKey, ()) =>
    { id, name, description, assignee, owner, priority, status, createdDate, dueDate, claimedDate,
      completedDate, completedBy, instanceId, definitionId, definitionVersion, businessKey,
      taskDefinitionKey, parentTaskId, formKey }
  toRow p := (p.id, p.name, p.description, p.assignee, p.owner, p.priority, p.status, p.createdDate,
    p.dueDate, p.claimedDate, p.completedDate, p.completedBy, p.instanceId, p.definitionId,
    p.definitionVersion, p.businessKey, p.taskDefinitionKey, p.parentTaskId, p.formKey, ())

/-- A variable of a process instance or of a task. -/
structure VariablePayload where
  name : String
  type : Option String := none
  value : Json := .null
  instanceId : Option String := none
  taskId : Option String := none
  taskVariable : Bool := false

instance : Payload VariablePayload where
  schema := ⟨"VariablePayload", [
    ⟨"name", .text⟩, ⟨"type", .optText⟩, ⟨"value", .any⟩, ⟨"processInstanceId", .optText⟩,
    ⟨"taskId", .optText⟩, ⟨"taskVariable", .flag⟩]⟩
  ofRow := fun (name, type, value, instanceId, taskId, taskVariable, ()) =>
    { name, type, value, instanceId, taskId, taskVariable }
  toRow p := (p.name, p.type, p.value, p.instanceId, p.taskId, p.taskVariable, ())

/-- An element of a process as it is executed. -/
structure ActivityPayload where
  elementId : String
  instanceId : String
  executionId : Option String := none
  activityName : Option String := none
  activityType : Option String := none
  definitionId : Option String := none

instance : Payload ActivityPayload where
  schema := ⟨"BpmnActivityPayload", [
    ⟨"elementId", .text⟩, ⟨"processInstanceId", .text⟩, ⟨"executionId", .optText⟩,
    ⟨"activityName", .optText⟩, ⟨"activityType", .optText⟩, ⟨"processDefinitionId", .optText⟩]⟩
  ofRow := fun (elementId, instanceId, executionId, activityName, activityType, definitionId, ()) =>
    { elementId, instanceId, executionId, activityName, activityType, definitionId }
  toRow p := (p.elementId, p.instanceId, p.executionId, p.activityName, p.activityType,
    p.definitionId, ())

/-- A sequence flow that was taken, with the elements at its ends. -/
structure FlowPayload where
  elementId : Option String := none
  instanceId : String
  definitionId : Option String := none
  source : FlowEnd := {}
  target : FlowEnd := {}

instance : Payload FlowPayload where
  schema := ⟨"SequenceFlowPayload", [
    ⟨"elementId", .optText⟩, ⟨"processInstanceId", .text⟩, ⟨"processDefinitionId", .optText⟩,
    ⟨"sourceActivityElementId", .optText⟩, ⟨"sourceActivityName", .optText⟩,
    ⟨"sourceActivityType", .optText⟩, ⟨"targetActivityElementId", .optText⟩,
    ⟨"targetActivityName", .optText⟩, ⟨"targetActivityType", .optText⟩]⟩
  ofRow := fun (elementId, instanceId, definitionId, sourceElement, sourceName, sourceType,
      targetElement, targetName, targetType, ()) =>
    { elementId, instanceId, definitionId, source := ⟨sourceElement, sourceName, sourceType⟩,
      target := ⟨targetElement, targetName, targetType⟩ }
  toRow p := (p.elementId, p.instanceId, p.definitionId, p.source.elementId, p.source.name,
    p.source.type, p.target.elementId, p.target.name, p.target.type, ())

/-- A call to an outside service. -/
structure IntegrationPayload where
  id : Option String := none
  instanceId : String
  rootInstanceId : Option String := none
  parentInstanceId : Option String := none
  executionId : Option String := none
  definition : DefinitionRef := {}
  businessKey : Option String := none
  clientId : String
  clientName : Option String := none
  clientType : Option String := none
  connectorType : Option String := none
  inbound : List (String × Json) := []
  outbound : List (String × Json) := []
  errorCode : Option String := none
  errorMessage : Option String := none
  errorClassName : Option String := none
  stackTrace : List Json := []

instance : Payload IntegrationPayload where
  schema := ⟨"IntegrationContextPayload", [
    ⟨"id", .optText⟩, ⟨"processInstanceId", .text⟩, ⟨"rootProcessInstanceId", .optText⟩,
    ⟨"parentProcessInstanceId", .optText⟩, ⟨"executionId", .optText⟩,
    ⟨"processDefinitionId", .optText⟩, ⟨"processDefinitionKey", .optText⟩,
    ⟨"processDefinitionVersion", .optInt32⟩, ⟨"businessKey", .optText⟩, ⟨"clientId", .text⟩,
    ⟨"clientName", .optText⟩, ⟨"clientType", .optText⟩, ⟨"connectorType", .optText⟩,
    ⟨"inBoundVariables", .entries⟩, ⟨"outBoundVariables", .entries⟩, ⟨"errorCode", .optText⟩,
    ⟨"errorMessage", .optText⟩, ⟨"errorClassName", .optText⟩, ⟨"stackTraceElements", .items⟩]⟩
  ofRow := fun (id, instanceId, rootInstanceId, parentInstanceId, executionId, definitionId,
      definitionKey, definitionVersion, businessKey, clientId, clientName, clientType,
      connectorType, inbound, outbound, errorCode, errorMessage, errorClassName, stackTrace, ()) =>
    { id, instanceId, rootInstanceId, parentInstanceId, executionId,
      definition := ⟨definitionId, definitionKey, definitionVersion⟩, businessKey, clientId,
      clientName, clientType, connectorType, inbound, outbound, errorCode, errorMessage,
      errorClassName, stackTrace }
  toRow p := (p.id, p.instanceId, p.rootInstanceId, p.parentInstanceId, p.executionId,
    p.definition.id, p.definition.key, p.definition.version, p.businessKey, p.clientId,
    p.clientName, p.clientType, p.connectorType, p.inbound, p.outbound, p.errorCode, p.errorMessage,
    p.errorClassName, p.stackTrace, ())

/-- A process definition as it is deployed. -/
structure DefinitionPayload where
  id : String
  key : Option String := none
  name : Option String := none
  description : Option String := none
  version : Option Int := none
  formKey : Option String := none
  category : Option String := none
  appVersion : Option String := none
  modelContent : Option String := none

instance : Payload DefinitionPayload where
  schema := ⟨"ProcessDefinitionPayload", [
    ⟨"id", .text⟩, ⟨"key", .optText⟩, ⟨"name", .optText⟩, ⟨"description", .optText⟩,
    ⟨"version", .optInt32⟩, ⟨"formKey", .optText⟩, ⟨"category", .optText⟩, ⟨"appVersion", .optText⟩,
    ⟨"processModelContent", .optText⟩]⟩
  ofRow := fun (id, key, name, description, version, formKey, category, appVersion, modelContent, ()) =>
    { id, key, name, description, version, formKey, category, appVersion, modelContent }
  toRow p := (p.id, p.key, p.name, p.description, p.version, p.formKey, p.category, p.appVersion,
    p.modelContent, ())

/-- An application as it is deployed. -/
structure ApplicationPayload where
  id : String
  name : Option String := none
  version : Option String := none

instance : Payload ApplicationPayload where
  schema := ⟨"ApplicationPayload", [
    ⟨"id", .text⟩, ⟨"name", .optText⟩, ⟨"version", .optText⟩]⟩
  ofRow := fun (id, name, version, ()) =>
    { id, name, version }
  toRow p := (p.id, p.name, p.version, ())

namespace VariablePayload

/-- Does the variable belong to a task? -/
def ofTask (p : VariablePayload) : Bool := p.taskVariable ∧ p.taskId.isSome

end VariablePayload

/-- The key of the executed element. -/
def ActivityPayload.key (p : ActivityPayload) : String :=
  activityKey p.instanceId p.elementId p.executionId

namespace IntegrationPayload

/-- The key of the call: three parts with colons between, the last of them optional. -/
def callKey (p : IntegrationPayload) : String :=
  p.instanceId ++ ":" ++ p.clientId ++ ":" ++ p.executionId.getD ""

/-- The key of the service task that makes the call. -/
def elementKey (p : IntegrationPayload) : String := activityKey p.instanceId p.clientId p.executionId

/-- A call has the key of its service task. -/
theorem callKey_eq (p : IntegrationPayload) : p.callKey = p.elementKey := rfl

end IntegrationPayload

/-! ## Candidates -/

/-- What a candidate may do: work on a task, or start instances of a process definition. -/
inductive Role
  | taskUser
  | taskGroup
  | starterUser
  | starterGroup
  deriving DecidableEq, Repr

namespace Role

def payloadName : Role → String
  | .taskUser => "TaskCandidateUserPayload"
  | .taskGroup => "TaskCandidateGroupPayload"
  | .starterUser => "ProcessCandidateStarterUserPayload"
  | .starterGroup => "ProcessCandidateStarterGroupPayload"

/-- Is the owner a task, rather than a process definition? -/
def ofTask : Role → Bool
  | .taskUser | .taskGroup => true
  | .starterUser | .starterGroup => false

/-- Is the candidate a user, rather than a group? -/
def ofUser : Role → Bool
  | .taskUser | .starterUser => true
  | .taskGroup | .starterGroup => false

def schema (r : Role) : Schema := ⟨r.payloadName, [
  ⟨if r.ofTask then "taskId" else "processDefinitionId", .text⟩,
  ⟨if r.ofUser then "userId" else "groupId", .text⟩]⟩

end Role

/-- A user or a group that is a candidate for an owner. -/
structure CandidatePayload (role : Role) where
  owner : String
  candidate : String

instance (role : Role) : Payload (CandidatePayload role) where
  schema := role.schema
  ofRow := fun (owner, candidate, ()) => { owner, candidate }
  toRow p := (p.owner, p.candidate, ())

end FlowView
