import FlowView.Record
/-!
# Columns

A record as a row of named columns, in the order of its table. A column holds a text, a whole number,
an instant in its stored form, or the name of a status. `Tabular` gives the columns of each record, so
that one writer and one reader serve all of them.
-/

namespace FlowView

/-- What a column holds. -/
inductive ColumnKind
  | text
  | optText
  | optInt
  | optInstant
  | instanceStatus
  | taskStatus
  | activityStatus
  | integrationStatus
  deriving DecidableEq, Repr

abbrev ColumnKind.Value : ColumnKind → Type
  | .text => String
  | .optText => Option String
  | .optInt => Option Int
  | .optInstant => Option Instant
  | .instanceStatus => InstanceStatus
  | .taskStatus => TaskStatus
  | .activityStatus => ActivityStatus
  | .integrationStatus => IntegrationStatus

structure Column where
  name : String
  kind : ColumnKind
  deriving DecidableEq, Repr

/-- The values of a row's columns, in order. -/
abbrev Cells : List Column → Type
  | [] => Unit
  | c :: cs => c.kind.Value × Cells cs

/-- Why a row cannot be read. -/
inductive ColumnFault
  /-- A column holds something else than it should. -/
  | wrongType (column : String)
  /-- A status column holds no status. -/
  | unknownStatus (message : String)
  deriving DecidableEq, Repr

/-- A record that is a row of columns. -/
class Tabular (α : Type) where
  columns : List Column
  ofCells : Cells columns → α
  toCells : α → Cells columns

/-! ## Cells -/

namespace ColumnKind

def readStatus (α : Type) [Status α] (column : String) : Json → Except ColumnFault α
  | .str s =>
    match Status.ofName? s with
    | some status => .ok status
    | none => .error (.unknownStatus (Status.unknownMessage α s))
  | .null => .error (.unknownStatus (Status.unknownMessage α ""))
  | _ => .error (.wrongType column)

/-- Reads a cell. -/
def read (column : String) : (k : ColumnKind) → Json → Except ColumnFault k.Value
  | .text, .str s => .ok s
  | .optText, .str s => .ok (some s)
  | .optText, .null => .ok none
  | .optInt, .int n => .ok (some n)
  | .optInt, .null => .ok none
  | .optInstant, .str s =>
    match Instant.ofText s with
    | .ok t => .ok (some t)
    | .error _ => .error (.wrongType column)
  | .optInstant, .null => .ok none
  | .instanceStatus, v => readStatus InstanceStatus column v
  | .taskStatus, v => readStatus TaskStatus column v
  | .activityStatus, v => readStatus ActivityStatus column v
  | .integrationStatus, v => readStatus IntegrationStatus column v
  | .text, _ | .optText, _ | .optInt, _ | .optInstant, _ => .error (.wrongType column)

/-- Writes a cell. -/
def write : (k : ColumnKind) → k.Value → Json
  | .text, s => .str s
  | .optText, s => Json.ofText? s
  | .optInt, n => Json.ofInt? n
  | .optInstant, t => Json.ofText? (t.map Instant.text)
  | .instanceStatus, s => .str (Status.name s)
  | .taskStatus, s => .str (Status.name s)
  | .activityStatus, s => .str (Status.name s)
  | .integrationStatus, s => .str (Status.name s)

end ColumnKind

namespace Cells

/-- The cells of an object's fields; a field that is missing is null. -/
def read (v : Json) : (cs : List Column) → Except ColumnFault (Cells cs)
  | [] => .ok ()
  | c :: cs => do
    let cell ← c.kind.read c.name ((v.field? c.name).getD .null)
    return (cell, ← read v cs)

/-- The cells that are not null, by column. -/
def write : (cs : List Column) → Cells cs → List (String × Json)
  | [], _ => []
  | c :: cs, (cell, cells) =>
    match c.kind.write cell with
    | .null => write cs cells
    | v => (c.name, v) :: write cs cells

end Cells

namespace Tabular
variable {α : Type} [Tabular α]

/-- The record of an object's fields. -/
def ofJson (v : Json) : Except ColumnFault α := (Cells.read v (columns α)).map ofCells

/-- The record's columns that are not null. -/
def fields (r : α) : List (String × Json) := Cells.write (columns α) (toCells r)

end Tabular

/-! ## The columns of the records -/

instance : Tabular ProcessInstance where
  columns := [
    ⟨"id", .text⟩, ⟨"name", .optText⟩, ⟨"status", .instanceStatus⟩, ⟨"business_key", .optText⟩,
    ⟨"process_definition_id", .optText⟩, ⟨"process_definition_key", .optText⟩,
    ⟨"process_definition_version", .optInt⟩, ⟨"process_definition_name", .optText⟩,
    ⟨"initiator", .optText⟩, ⟨"parent_id", .optText⟩, ⟨"start_date", .optInstant⟩,
    ⟨"completed_date", .optInstant⟩, ⟨"suspended_date", .optInstant⟩,
    ⟨"last_modified", .optInstant⟩, ⟨"service_name", .optText⟩, ⟨"service_full_name", .optText⟩,
    ⟨"service_version", .optText⟩, ⟨"app_name", .optText⟩, ⟨"app_version", .optText⟩]
  ofCells := fun (id, name, status, businessKey, definitionId, definitionKey, definitionVersion,
      definitionName, initiator, parentId, startDate, completedDate, suspendedDate, lastModified,
      serviceName, serviceFullName, serviceVersion, serviceAppName, serviceAppVersion, ()) =>
    { id, name, status, businessKey, definition := ⟨definitionId, definitionKey, definitionVersion⟩,
      definitionName, initiator, parentId, startDate, completedDate, suspendedDate, lastModified,
      service := ⟨serviceName, serviceFullName, serviceVersion, serviceAppName, serviceAppVersion⟩ }
  toCells r := (r.id, r.name, r.status, r.businessKey, r.definition.id, r.definition.key,
    r.definition.version, r.definitionName, r.initiator, r.parentId, r.startDate, r.completedDate,
    r.suspendedDate, r.lastModified, r.service.name, r.service.fullName, r.service.version,
    r.service.appName, r.service.appVersion, ())

instance : Tabular UserTask where
  columns := [
    ⟨"id", .text⟩, ⟨"name", .optText⟩, ⟨"description", .optText⟩, ⟨"assignee", .optText⟩,
    ⟨"owner", .optText⟩, ⟨"priority", .optInt⟩, ⟨"status", .taskStatus⟩,
    ⟨"created_date", .optInstant⟩, ⟨"due_date", .optInstant⟩, ⟨"claimed_date", .optInstant⟩,
    ⟨"completed_date", .optInstant⟩, ⟨"completed_by", .optText⟩, ⟨"duration", .optInt⟩,
    ⟨"last_modified", .optInstant⟩, ⟨"process_instance_id", .optText⟩,
    ⟨"process_definition_id", .optText⟩, ⟨"process_definition_version", .optInt⟩,
    ⟨"business_key", .optText⟩, ⟨"task_definition_key", .optText⟩, ⟨"parent_task_id", .optText⟩,
    ⟨"form_key", .optText⟩, ⟨"service_name", .optText⟩, ⟨"service_full_name", .optText⟩,
    ⟨"service_version", .optText⟩, ⟨"app_name", .optText⟩, ⟨"app_version", .optText⟩]
  ofCells := fun (id, name, description, assignee, owner, priority, status, createdDate, dueDate,
      claimedDate, completedDate, completedBy, duration, lastModified, instanceId, definitionId,
      definitionVersion, businessKey, taskDefinitionKey, parentTaskId, formKey, serviceName,
      serviceFullName, serviceVersion, serviceAppName, serviceAppVersion, ()) =>
    { id, name, description, assignee, owner, priority, status, createdDate, dueDate, claimedDate,
      completedDate, completedBy, duration, lastModified, instanceId, definitionId,
      definitionVersion, businessKey, taskDefinitionKey, parentTaskId, formKey,
      service := ⟨serviceName, serviceFullName, serviceVersion, serviceAppName, serviceAppVersion⟩ }
  toCells r := (r.id, r.name, r.description, r.assignee, r.owner, r.priority, r.status,
    r.createdDate, r.dueDate, r.claimedDate, r.completedDate, r.completedBy, r.duration,
    r.lastModified, r.instanceId, r.definitionId, r.definitionVersion, r.businessKey,
    r.taskDefinitionKey, r.parentTaskId, r.formKey, r.service.name, r.service.fullName,
    r.service.version, r.service.appName, r.service.appVersion, ())

instance : Tabular ProcessVariable where
  columns := [
    ⟨"id", .text⟩, ⟨"process_instance_id", .text⟩, ⟨"name", .text⟩, ⟨"var_type", .optText⟩,
    ⟨"value", .optText⟩, ⟨"create_time", .optInstant⟩, ⟨"last_updated_time", .optInstant⟩,
    ⟨"service_name", .optText⟩, ⟨"service_full_name", .optText⟩, ⟨"service_version", .optText⟩,
    ⟨"app_name", .optText⟩, ⟨"app_version", .optText⟩]
  ofCells := fun (id, instanceId, name, type, value, createTime, lastUpdatedTime, serviceName,
      serviceFullName, serviceVersion, serviceAppName, serviceAppVersion, ()) =>
    { id, instanceId, name, type, value, createTime, lastUpdatedTime,
      service := ⟨serviceName, serviceFullName, serviceVersion, serviceAppName, serviceAppVersion⟩ }
  toCells r := (r.id, r.instanceId, r.name, r.type, r.value, r.createTime, r.lastUpdatedTime,
    r.service.name, r.service.fullName, r.service.version, r.service.appName, r.service.appVersion,
    ())

instance : Tabular TaskVariable where
  columns := [
    ⟨"id", .text⟩, ⟨"task_id", .text⟩, ⟨"process_instance_id", .optText⟩, ⟨"name", .text⟩,
    ⟨"var_type", .optText⟩, ⟨"value", .optText⟩, ⟨"create_time", .optInstant⟩,
    ⟨"last_updated_time", .optInstant⟩, ⟨"service_name", .optText⟩, ⟨"service_full_name", .optText⟩,
    ⟨"service_version", .optText⟩, ⟨"app_name", .optText⟩, ⟨"app_version", .optText⟩]
  ofCells := fun (id, taskId, instanceId, name, type, value, createTime, lastUpdatedTime,
      serviceName, serviceFullName, serviceVersion, serviceAppName, serviceAppVersion, ()) =>
    { id, taskId, instanceId, name, type, value, createTime, lastUpdatedTime,
      service := ⟨serviceName, serviceFullName, serviceVersion, serviceAppName, serviceAppVersion⟩ }
  toCells r := (r.id, r.taskId, r.instanceId, r.name, r.type, r.value, r.createTime,
    r.lastUpdatedTime, r.service.name, r.service.fullName, r.service.version, r.service.appName,
    r.service.appVersion, ())

instance : Tabular Activity where
  columns := [
    ⟨"id", .text⟩, ⟨"element_id", .text⟩, ⟨"activity_name", .optText⟩, ⟨"activity_type", .optText⟩,
    ⟨"process_instance_id", .text⟩, ⟨"process_definition_id", .optText⟩,
    ⟨"process_definition_key", .optText⟩, ⟨"process_definition_version", .optInt⟩,
    ⟨"business_key", .optText⟩, ⟨"execution_id", .optText⟩, ⟨"status", .activityStatus⟩,
    ⟨"started_date", .optInstant⟩, ⟨"completed_date", .optInstant⟩, ⟨"cancelled_date", .optInstant⟩,
    ⟨"service_name", .optText⟩, ⟨"service_full_name", .optText⟩, ⟨"service_version", .optText⟩,
    ⟨"app_name", .optText⟩, ⟨"app_version", .optText⟩]
  ofCells := fun (id, elementId, name, type, instanceId, definitionId, definitionKey,
      definitionVersion, businessKey, executionId, status, startedDate, completedDate,
      cancelledDate, serviceName, serviceFullName, serviceVersion, serviceAppName,
      serviceAppVersion, ()) =>
    { id, elementId, name, type, instanceId,
      definition := ⟨definitionId, definitionKey, definitionVersion⟩, businessKey, executionId,
      status, startedDate, completedDate, cancelledDate,
      service := ⟨serviceName, serviceFullName, serviceVersion, serviceAppName, serviceAppVersion⟩ }
  toCells r := (r.id, r.elementId, r.name, r.type, r.instanceId, r.definition.id, r.definition.key,
    r.definition.version, r.businessKey, r.executionId, r.status, r.startedDate, r.completedDate,
    r.cancelledDate, r.service.name, r.service.fullName, r.service.version, r.service.appName,
    r.service.appVersion, ())

instance : Tabular SequenceFlow where
  columns := [
    ⟨"id", .text⟩, ⟨"event_id", .optText⟩, ⟨"element_id", .optText⟩, ⟨"process_instance_id", .text⟩,
    ⟨"process_definition_id", .optText⟩, ⟨"process_definition_key", .optText⟩,
    ⟨"process_definition_version", .optInt⟩, ⟨"business_key", .optText⟩,
    ⟨"source_activity_element_id", .optText⟩, ⟨"source_activity_name", .optText⟩,
    ⟨"source_activity_type", .optText⟩, ⟨"target_activity_element_id", .optText⟩,
    ⟨"target_activity_name", .optText⟩, ⟨"target_activity_type", .optText⟩, ⟨"date", .optInstant⟩,
    ⟨"service_name", .optText⟩, ⟨"service_full_name", .optText⟩, ⟨"service_version", .optText⟩,
    ⟨"app_name", .optText⟩, ⟨"app_version", .optText⟩]
  ofCells := fun (id, eventId, elementId, instanceId, definitionId, definitionKey,
      definitionVersion, businessKey, sourceElementId, sourceName, sourceType, targetElementId,
      targetName, targetType, date, serviceName, serviceFullName, serviceVersion, serviceAppName,
      serviceAppVersion, ()) =>
    { id, eventId, elementId, instanceId,
      definition := ⟨definitionId, definitionKey, definitionVersion⟩, businessKey,
      source := ⟨sourceElementId, sourceName, sourceType⟩,
      target := ⟨targetElementId, targetName, targetType⟩, date,
      service := ⟨serviceName, serviceFullName, serviceVersion, serviceAppName, serviceAppVersion⟩ }
  toCells r := (r.id, r.eventId, r.elementId, r.instanceId, r.definition.id, r.definition.key,
    r.definition.version, r.businessKey, r.source.elementId, r.source.name, r.source.type,
    r.target.elementId, r.target.name, r.target.type, r.date, r.service.name, r.service.fullName,
    r.service.version, r.service.appName, r.service.appVersion, ())

instance : Tabular IntegrationCall where
  columns := [
    ⟨"id", .text⟩, ⟨"process_instance_id", .text⟩, ⟨"root_process_instance_id", .optText⟩,
    ⟨"parent_process_instance_id", .optText⟩, ⟨"execution_id", .optText⟩,
    ⟨"process_definition_id", .optText⟩, ⟨"process_definition_key", .optText⟩,
    ⟨"process_definition_version", .optInt⟩, ⟨"business_key", .optText⟩, ⟨"client_id", .text⟩,
    ⟨"client_name", .optText⟩, ⟨"client_type", .optText⟩, ⟨"connector_type", .optText⟩,
    ⟨"activity_id", .optText⟩, ⟨"status", .integrationStatus⟩, ⟨"request_date", .optInstant⟩,
    ⟨"result_date", .optInstant⟩, ⟨"error_date", .optInstant⟩, ⟨"error_code", .optText⟩,
    ⟨"error_message", .optText⟩, ⟨"error_class_name", .optText⟩, ⟨"stack_trace_elements", .optText⟩,
    ⟨"in_bound_variables", .optText⟩, ⟨"out_bound_variables", .optText⟩, ⟨"service_name", .optText⟩,
    ⟨"service_full_name", .optText⟩, ⟨"service_version", .optText⟩, ⟨"app_name", .optText⟩,
    ⟨"app_version", .optText⟩]
  ofCells := fun (id, instanceId, rootInstanceId, parentInstanceId, executionId, definitionId,
      definitionKey, definitionVersion, businessKey, clientId, clientName, clientType,
      connectorType, activityId, status, requestDate, resultDate, errorDate, errorCode,
      errorMessage, errorClassName, stackTrace, inbound, outbound, serviceName, serviceFullName,
      serviceVersion, serviceAppName, serviceAppVersion, ()) =>
    { id, instanceId, rootInstanceId, parentInstanceId, executionId,
      definition := ⟨definitionId, definitionKey, definitionVersion⟩, businessKey, clientId,
      clientName, clientType, connectorType, activityId, status, requestDate, resultDate, errorDate,
      errorCode, errorMessage, errorClassName, stackTrace, inbound, outbound,
      service := ⟨serviceName, serviceFullName, serviceVersion, serviceAppName, serviceAppVersion⟩ }
  toCells r := (r.id, r.instanceId, r.rootInstanceId, r.parentInstanceId, r.executionId,
    r.definition.id, r.definition.key, r.definition.version, r.businessKey, r.clientId,
    r.clientName, r.clientType, r.connectorType, r.activityId, r.status, r.requestDate,
    r.resultDate, r.errorDate, r.errorCode, r.errorMessage, r.errorClassName, r.stackTrace,
    r.inbound, r.outbound, r.service.name, r.service.fullName, r.service.version, r.service.appName,
    r.service.appVersion, ())

instance : Tabular ProcessDefinition where
  columns := [
    ⟨"id", .text⟩, ⟨"process_definition_key", .optText⟩, ⟨"name", .optText⟩,
    ⟨"description", .optText⟩, ⟨"version", .optInt⟩, ⟨"form_key", .optText⟩, ⟨"category", .optText⟩,
    ⟨"service_name", .optText⟩, ⟨"service_full_name", .optText⟩, ⟨"service_version", .optText⟩,
    ⟨"app_name", .optText⟩, ⟨"app_version", .optText⟩]
  ofCells := fun (id, key, name, description, version, formKey, category, serviceName,
      serviceFullName, serviceVersion, serviceAppName, serviceAppVersion, ()) =>
    { id, key, name, description, version, formKey, category,
      service := ⟨serviceName, serviceFullName, serviceVersion, serviceAppName, serviceAppVersion⟩ }
  toCells r := (r.id, r.key, r.name, r.description, r.version, r.formKey, r.category,
    r.service.name, r.service.fullName, r.service.version, r.service.appName, r.service.appVersion,
    ())

instance : Tabular ProcessModel where
  columns := [
    ⟨"process_definition_id", .text⟩, ⟨"process_model_content", .text⟩]
  ofCells := fun (definitionId, content, ()) =>
    { definitionId, content }
  toCells r := (r.definitionId, r.content, ())

instance : Tabular Application where
  columns := [
    ⟨"id", .text⟩, ⟨"name", .optText⟩, ⟨"version", .optText⟩]
  ofCells := fun (id, name, version, ()) =>
    { id, name, version }
  toCells r := (r.id, r.name, r.version, ())

/-- The columns of a candidate: its owner and itself. -/
def Candidate.fields (c : Candidate) : List (String × Json) := [
  (if c.role.ofTask then "task_id" else "process_definition_id", .str c.owner),
  (if c.role.ofUser then "user_id" else "group_id", .str c.candidate)]

end FlowView
