import FlowView.Event.Kind
import FlowView.Json.Reader
/-!
# Events

An event is an envelope around an entity: what happened, when, where it comes from, and which process
it belongs to. The entity is any JSON value; what it should be depends on the type
(`FlowView.Payload`).
-/

namespace FlowView

/-- The service and the application that something comes from. -/
structure Service where
  name : Option String := none
  fullName : Option String := none
  version : Option String := none
  appName : Option String := none
  appVersion : Option String := none
  deriving DecidableEq, Repr, Inhabited

/-- The process definition that something belongs to. -/
structure DefinitionRef where
  id : Option String := none
  key : Option String := none
  version : Option Int := none
  deriving DecidableEq, Repr, Inhabited

/-- A runtime event. -/
structure Event where
  id : Option String := none
  /-- The type's name on the wire; it need not be one that is known. -/
  typeName : String
  /-- Milliseconds since 1970. -/
  timestamp : Int := 0
  entityId : Option String := none
  service : Service := {}
  instanceId : Option String := none
  parentInstanceId : Option String := none
  definition : DefinitionRef := {}
  businessKey : Option String := none
  entity : Json := .null

namespace Event

/-- The fields on the wire. -/
def schema : Schema := ⟨"CloudRuntimeEvent", [
  ⟨"id", .optText⟩, ⟨"eventType", .text⟩, ⟨"timestamp", .int64⟩, ⟨"entityId", .optText⟩,
  ⟨"serviceName", .optText⟩, ⟨"serviceFullName", .optText⟩, ⟨"serviceVersion", .optText⟩,
  ⟨"appName", .optText⟩, ⟨"appVersion", .optText⟩, ⟨"processInstanceId", .optText⟩,
  ⟨"parentProcessInstanceId", .optText⟩, ⟨"processDefinitionId", .optText⟩,
  ⟨"processDefinitionKey", .optText⟩, ⟨"processDefinitionVersion", .optInt32⟩,
  ⟨"businessKey", .optText⟩, ⟨"entity", .any⟩]⟩

def ofRow : Row schema.fields → Event
  | (id, typeName, timestamp, entityId, name, fullName, version, appName, appVersion, instanceId,
      parentInstanceId, definitionId, definitionKey, definitionVersion, businessKey, entity, ()) =>
    { id, typeName, timestamp, entityId, service := { name, fullName, version, appName, appVersion },
      instanceId, parentInstanceId,
      definition := { id := definitionId, key := definitionKey, version := definitionVersion },
      businessKey, entity }

def toRow (e : Event) : Row schema.fields :=
  (e.id, e.typeName, e.timestamp, e.entityId, e.service.name, e.service.fullName, e.service.version,
    e.service.appName, e.service.appVersion, e.instanceId, e.parentInstanceId, e.definition.id,
    e.definition.key, e.definition.version, e.businessKey, e.entity, ())

/-! ## Reading and writing -/

/-- The event that a document is. -/
def ofDocument (d : Document) : Except DecodeFault Event := (schema.decode d).map ofRow

/-- The event that a value is. -/
def ofJson (v : Json) : Except DecodeFault Event := ofDocument (.ofValue v)

/-- The event that a text is. Its faults are those of the text up to the first wrong value. -/
def ofText (text : String) : Except DecodeFault Event :=
  let (d, rest) := Document.read (· ∈ schema.names) Document.maxDepth text.toList
  match ofDocument d with
  | .ok e => if Document.ended rest then .ok e else .error .unreadable
  | .error (.tooLong _) => .error .unreadable
  | .error fault => .error fault

/-- The events of a list. -/
def ofJsonList : Json → Except DecodeFault (List Event)
  | .arr vs => vs.mapM ofJson
  | v => .error ((Document.ofValue v).fault "a sequence")

def toJson (e : Event) : Json := schema.encode e.toRow

/-! ## What an event says -/

/-- The kind of the event, if its type is known. -/
def kind? (e : Event) : Option EventKind := EventKind.ofName? e.typeName

/-- When it happened; a timestamp beyond the calendar counts as the start of 1970. -/
def time (e : Event) : Instant := (Instant.ofMillis? e.timestamp).getD .epoch

/-- The process instance that the envelope names, or else the entity. -/
def resolveInstance? (e : Event) : Option String :=
  e.instanceId.orElse fun _ => e.entity.text? "processInstanceId"

/-- The event in one line. -/
def display (e : Event) : String :=
  let shown (s : Option String) : String := s.getD "-"
  e.typeName ++ "[id=" ++ shown e.id ++ ", entityId=" ++ shown e.entityId ++ ", processInstanceId="
    ++ shown e.instanceId ++ ", timestamp=" ++ toString e.timestamp ++ "]"

end Event
end FlowView
