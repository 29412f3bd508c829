import FlowView.Payload
/-!
# Fetch plans

The keys that a batch of events is going to ask for, read off the events before any of them is handled:
the process instance that the batch is about, the variables of that instance, tasks, and activities.
-/

namespace FlowView

/-- The keys that a batch asks for; the lists are sorted and without repeats. -/
structure FetchPlan where
  instanceId : Option String := none
  variableNames : List String := []
  taskIds : List String := []
  activityIds : List String := []
  deriving DecidableEq, Repr

namespace FetchPlan

/-- Puts a key where it belongs, once. -/
def insertKey (k : String) : List String → List String
  | [] => [k]
  | j :: js => if k < j then k :: j :: js else if k = j then j :: js else j :: insertKey k js

/-- Keys in order, each once. -/
def sorted (ks : List String) : List String := ks.foldl (fun js k => insertKey k js) []

def addTask (p : FetchPlan) (id : String) : FetchPlan := { p with taskIds := insertKey id p.taskIds }

def addVariable (p : FetchPlan) (name : String) : FetchPlan :=
  { p with variableNames := insertKey name p.variableNames }

def addActivity (p : FetchPlan) (id : String) : FetchPlan :=
  { p with activityIds := insertKey id p.activityIds }

/-- Adds a variable by what its entity says: to a task's the task, to the instance's its name. -/
def withVariable (p : FetchPlan) (entity : Json) : FetchPlan :=
  match entity.field? "taskVariable", entity.text? "taskId" with
  | some (.bool true), some taskId => p.addTask taskId
  | _, _ =>
    match entity.text? "processInstanceId", entity.text? "name" with
    | some id, some name => if p.instanceId = some id then p.addVariable name else p
    | _, _ => p

/-- Adds the key of a payload, if the entity is one. -/
def withKey {α : Type} [Payload α] (p : FetchPlan) (key : α → String) (e : Event) : FetchPlan :=
  match (e.payload : Except EventFault α) with
  | .ok payload => p.addActivity (key payload)
  | .error _ => p

/-- Adds the keys of an event. -/
def withEvent (p : FetchPlan) (e : Event) : FetchPlan :=
  match e.kind?.map EventKind.family with
  | some .task => ((e.entity.text? "id").map p.addTask).getD p
  | some .candidate => ((e.entity.text? "taskId").map p.addTask).getD p
  | some .variable => p.withVariable e.entity
  | some .activity => p.withKey ActivityPayload.key e
  | some .integration => p.withKey IntegrationPayload.elementKey e
  | some .deployment | some .process | some .sequenceFlow | none => p

/-- The plan of a batch. Its instance is the first that an event names. -/
def ofEvents (events : List Event) : FetchPlan :=
  events.foldl withEvent { instanceId := events.findSome? Event.resolveInstance? }

/-- Is there nothing to load? Variables are loaded with their instance only. -/
def isEmpty (p : FetchPlan) : Bool := p.instanceId.isNone ∧ p.taskIds.isEmpty ∧ p.activityIds.isEmpty

end FetchPlan
end FlowView
