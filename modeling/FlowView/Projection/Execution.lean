import FlowView.Projection.Basic
import FlowView.Value
/-!
# Execution

What happens inside a process: elements that are executed, sequence flows that are taken, and calls to
outside services, each of which is also an executed element. Events may come for an element or a call
that was never seen; then its row is made.
-/

namespace FlowView.Projection

/-! ## Activities -/

/-- What an event says of an executed element, and the id that it has. -/
structure ActivitySeed where
  id : String
  elementId : String
  instanceId : String
  executionId : Option String
  name : Option String
  type : Option String
  definitionId : Option String

def newActivity (e : Event) (s : ActivitySeed) : Activity where
  id := s.id
  elementId := s.elementId
  name := s.name
  type := s.type
  instanceId := s.instanceId
  definition := { e.definition with id := s.definitionId.or e.definition.id }
  businessKey := e.businessKey
  executionId := s.executionId
  status := .started
  startedDate := some e.time
  service := e.service

/-- The activity with the name and the type that the event carries, or a new one. -/
def refresh (e : Event) (s : ActivitySeed) (old : Option Activity) : Activity :=
  match old with
  | some a => { a with name := s.name.or a.name, type := s.type.or a.type }
  | none => newActivity e s

def findOrMakeActivity (e : Event) (s : ActivitySeed) : Program Activity := do
  let old ← Program.ask (.findActivity s.id)
  return refresh e s old

/-- Sets the status and the date that goes with it. -/
def enter (status : ActivityStatus) (time : Instant) (a : Activity) : Activity :=
  match status with
  | .started => { a with status, startedDate := some time }
  | .completed => { a with status, completedDate := some time }
  | .cancelled => { a with status, cancelledDate := some time }
  | .error => { a with status }

def activitySeed (p : ActivityPayload) : ActivitySeed where
  id := p.key
  elementId := p.elementId
  instanceId := p.instanceId
  executionId := p.executionId
  name := p.activityName
  type := p.activityType
  definitionId := p.definitionId

def activityEntered (status : ActivityStatus) (e : Event) : Program Unit := do
  let p : ActivityPayload ← payload e
  let a ← findOrMakeActivity e (activitySeed p)
  Program.ask (.saveActivity (enter status e.time a))

/-! ## Sequence flows -/

def newFlow (e : Event) (p : FlowPayload) (id : String) : SequenceFlow where
  id := id
  eventId := e.id
  elementId := p.elementId
  instanceId := p.instanceId
  definition := { e.definition with id := p.definitionId.or e.definition.id }
  businessKey := e.businessKey
  source := p.source
  target := p.target
  date := some e.time
  service := e.service

/-- An event is recorded once; without an id it cannot be told from another. -/
def flowTaken (e : Event) : Program Unit := do
  let p : FlowPayload ← payload e
  let recorded ← match e.id with
    | some id => Program.ask (.flowRecorded id)
    | none => pure false
  if recorded then return ()
  let id ← Program.ask .freshId
  Program.ask (.recordFlow (newFlow e p id))

/-! ## Integration calls -/

/-- The type of the executed element where the call names none. -/
def serviceTaskType : String := "serviceTask"

def integrationSeed (p : IntegrationPayload) : ActivitySeed where
  id := p.elementKey
  elementId := p.clientId
  instanceId := p.instanceId
  executionId := p.executionId
  name := p.clientName
  type := some (p.clientType.getD serviceTaskType)
  definitionId := p.definition.id

/-- A new call. What the payload leaves out comes from the event. -/
def newIntegration (e : Event) (p : IntegrationPayload) : IntegrationCall where
  id := p.callKey
  instanceId := p.instanceId
  rootInstanceId := p.rootInstanceId
  parentInstanceId := p.parentInstanceId.or e.parentInstanceId
  executionId := p.executionId
  definition := {
    id := p.definition.id.or e.definition.id
    key := p.definition.key.or e.definition.key
    version := p.definition.version.or e.definition.version }
  businessKey := p.businessKey.or e.businessKey
  clientId := p.clientId
  clientName := p.clientName
  clientType := p.clientType
  connectorType := p.connectorType
  status := .requested
  service := e.service

def findOrMakeIntegration (e : Event) (p : IntegrationPayload) : Program IntegrationCall := do
  let old ← Program.ask (.findIntegration p.callKey)
  return old.getD (newIntegration e p)

/-- Saves the executed element after one change and then the call after another. -/
def changeIntegration (element : Instant → Activity → Activity)
    (change : IntegrationPayload → Instant → IntegrationCall → IntegrationCall) (e : Event) :
    Program Unit := do
  let p : IntegrationPayload ← payload e
  let a ← findOrMakeActivity e (integrationSeed p)
  Program.ask (.saveActivity (element e.time a))
  let c ← findOrMakeIntegration e p
  Program.ask (.saveIntegration { change p e.time c with activityId := some a.id })

/-- The variables are written in the order of their names. The program takes them from a map, whose order is
arbitrary, so equality of this text column is equality as JSON. -/
def request (p : IntegrationPayload) (time : Instant) (c : IntegrationCall) : IntegrationCall :=
  { c with
    status := .requested
    requestDate := some time
    inbound := some (Json.obj p.inbound).text }

/-- As with a request, the program's order of the variables is arbitrary, and equality of the text column is
equality as JSON. -/
def receive (p : IntegrationPayload) (time : Instant) (c : IntegrationCall) : IntegrationCall :=
  { c with
    status := .resultReceived
    resultDate := some time
    outbound := some (Json.obj p.outbound).text }

def refuse (p : IntegrationPayload) (time : Instant) (c : IntegrationCall) : IntegrationCall :=
  { c with
    status := .errorReceived
    errorDate := some time
    errorCode := p.errorCode
    errorMessage := p.errorMessage.map Value.shorten
    errorClassName := p.errorClassName
    stackTrace := some (Json.arr p.stackTrace).text }

/-- A request leaves the status of an element that is there already. -/
def integrationRequested : Event → Program Unit := changeIntegration (fun _ a => a) request

def integrationResultReceived : Event → Program Unit :=
  changeIntegration (enter .completed) receive

def integrationErrorReceived : Event → Program Unit := changeIntegration (enter .error) refuse

end FlowView.Projection
