import FlowView.Payload
import FlowView.Status
import FlowView.Value
/-!
# Records

The rows of the read model. Every record keeps the service and application of the event that made it.
-/

namespace FlowView

/-- A process instance. -/
structure ProcessInstance where
  id : String
  name : Option String := none
  status : InstanceStatus
  businessKey : Option String := none
  definition : DefinitionRef := {}
  definitionName : Option String := none
  initiator : Option String := none
  parentId : Option String := none
  startDate : Option Instant := none
  completedDate : Option Instant := none
  suspendedDate : Option Instant := none
  lastModified : Option Instant := none
  service : Service := {}
  deriving DecidableEq, Repr

/-- A user task. A task without an instance stands alone; its duration is in milliseconds. -/
structure UserTask where
  id : String
  name : Option String := none
  description : Option String := none
  assignee : Option String := none
  owner : Option String := none
  priority : Option Int := none
  status : TaskStatus
  createdDate : Option Instant := none
  dueDate : Option Instant := none
  claimedDate : Option Instant := none
  completedDate : Option Instant := none
  completedBy : Option String := none
  duration : Option Int := none
  lastModified : Option Instant := none
  instanceId : Option String := none
  definitionId : Option String := none
  definitionVersion : Option Int := none
  businessKey : Option String := none
  taskDefinitionKey : Option String := none
  parentTaskId : Option String := none
  formKey : Option String := none
  service : Service := {}
  deriving DecidableEq, Repr

/-- A variable of a process instance. Its value is JSON text; a null value is left out. -/
structure ProcessVariable where
  id : String
  instanceId : String
  name : String
  type : Option String := none
  value : Option String := none
  createTime : Option Instant := none
  lastUpdatedTime : Option Instant := none
  service : Service := {}
  deriving DecidableEq, Repr

/-- A variable of a task. -/
structure TaskVariable where
  id : String
  taskId : String
  instanceId : Option String := none
  name : String
  type : Option String := none
  value : Option String := none
  createTime : Option Instant := none
  lastUpdatedTime : Option Instant := none
  service : Service := {}
  deriving DecidableEq, Repr

/-- The value of the variable, null if it has none. -/
def ProcessVariable.json? (v : ProcessVariable) : Option Json := Value.decode? v.value

/-- The value of the variable, null if it has none. -/
def TaskVariable.json? (v : TaskVariable) : Option Json := Value.decode? v.value

/-- An element of a process as it was executed. -/
structure Activity where
  id : String
  elementId : String
  name : Option String := none
  type : Option String := none
  instanceId : String
  definition : DefinitionRef := {}
  businessKey : Option String := none
  executionId : Option String := none
  status : ActivityStatus
  startedDate : Option Instant := none
  completedDate : Option Instant := none
  cancelledDate : Option Instant := none
  service : Service := {}
  deriving DecidableEq, Repr

/-- A sequence flow that was taken. -/
structure SequenceFlow where
  id : String
  eventId : Option String := none
  elementId : Option String := none
  instanceId : String
  definition : DefinitionRef := {}
  businessKey : Option String := none
  source : FlowEnd := {}
  target : FlowEnd := {}
  date : Option Instant := none
  service : Service := {}
  deriving DecidableEq, Repr

/-- A call to an outside service. Its variables and its stack trace are JSON text. -/
structure IntegrationCall where
  id : String
  instanceId : String
  rootInstanceId : Option String := none
  parentInstanceId : Option String := none
  executionId : Option String := none
  definition : DefinitionRef := {}
  businessKey : Option String := none
  clientId : String
  clientName : Option String := none
  clientType : Option String := none
  connectorType : Option String := none
  activityId : Option String := none
  status : IntegrationStatus
  requestDate : Option Instant := none
  resultDate : Option Instant := none
  errorDate : Option Instant := none
  errorCode : Option String := none
  errorMessage : Option String := none
  errorClassName : Option String := none
  stackTrace : Option String := none
  inbound : Option String := none
  outbound : Option String := none
  service : Service := {}
  deriving DecidableEq, Repr

/-- A process definition. -/
structure ProcessDefinition where
  id : String
  key : Option String := none
  name : Option String := none
  description : Option String := none
  version : Option Int := none
  formKey : Option String := none
  category : Option String := none
  service : Service := {}
  deriving DecidableEq, Repr

/-- The model of a process definition. -/
structure ProcessModel where
  definitionId : String
  content : String
  deriving DecidableEq, Repr

/-- An application. -/
structure Application where
  id : String
  name : Option String := none
  version : Option String := none
  deriving DecidableEq, Repr

/-- A process variable that a task shows: the instance's variable is linked, not copied. -/
structure VariableLink where
  taskId : String
  variableId : String
  deriving DecidableEq, Repr

/-- A user or a group that is a candidate for a task or a starter of a process definition. -/
structure Candidate where
  role : Role
  owner : String
  candidate : String
  deriving DecidableEq, Repr

end FlowView
