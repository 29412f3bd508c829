import FlowView.Projection.Basic
import FlowView.Projection.Instances
import FlowView.Value
/-!
# Variables

A variable belongs to a task when its event marks it so and names the task, and to a process instance
otherwise. A new process variable is shown to the open tasks of its instance; a task that has ended
keeps what it showed when it ended.
-/

namespace FlowView.Projection

/-- The process instance that a variable belongs to. -/
def owningInstance (e : Event) (p : VariablePayload) : Program String :=
  match p.instanceId.or e.instanceId with
  | some id => return id
  | none => .fail (noOwner e "processInstanceId")

/-- The task that a variable belongs to. -/
def owningTask (e : Event) (p : VariablePayload) : Program String :=
  match p.taskId with
  | some id => return id
  | none => .fail (noOwner e "taskId")

/-- Handles a variable by what it belongs to. -/
def byOwner (ofTask ofInstance : Event → VariablePayload → Program Unit) (e : Event) :
    Program Unit := do
  let p : VariablePayload ← payload e
  if p.ofTask then ofTask e p else ofInstance e p

/-! ## New variables -/

/-- A new variable of a task. It names the task's instance where the payload names none. -/
def newTaskVariable (e : Event) (p : VariablePayload) (t : UserTask) (id taskId : String) :
    TaskVariable where
  id := id
  taskId := taskId
  instanceId := p.instanceId.or t.instanceId
  name := p.name
  type := p.type
  value := Value.encode p.value
  createTime := some e.time
  lastUpdatedTime := some e.time
  service := e.service

/-- A new variable of a process instance. -/
def newVariable (e : Event) (p : VariablePayload) (id instanceId : String) : ProcessVariable where
  id := id
  instanceId := instanceId
  name := p.name
  type := p.type
  value := Value.encode p.value
  createTime := some e.time
  lastUpdatedTime := some e.time
  service := e.service

/-- A variable that is there already stays as it is. -/
def createTaskVariable (e : Event) (p : VariablePayload) : Program Unit := do
  let taskId ← owningTask e p
  let t ← requireTask taskId
  match ← Program.ask (.findTaskVariable taskId p.name) with
  | some _ => return ()
  | none =>
    let id ← Program.ask .freshId
    Program.ask (.saveTaskVariable (newTaskVariable e p t id taskId))

/-- Shows a new variable to a task in place of others of its name. A task that has ended shows it
only in place of another. -/
def showTo (v : ProcessVariable) (t : UserTask) : Program Unit := do
  let shown ← Program.ask (.listLinked t.id)
  let stale := (shown.filter fun w => w.name = v.name ∧ w.id ≠ v.id).map ProcessVariable.id
  if t.status.isFinal ∧ stale.isEmpty then return ()
  Program.each stale fun id => Program.ask (.unlink t.id id)
  Program.ask (.link t.id v.id)

/-- A variable that is there already stays as it is. -/
def createVariable (e : Event) (p : VariablePayload) : Program Unit := do
  let instanceId ← owningInstance e p
  let _ ← requireInstance instanceId
  match ← Program.ask (.findVariable instanceId p.name) with
  | some _ => return ()
  | none =>
    let id ← Program.ask .freshId
    Program.ask (.saveVariable (newVariable e p id instanceId))
    let tasks ← Program.ask (.listTasks instanceId)
    Program.each tasks (showTo (newVariable e p id instanceId))

def variableCreated : Event → Program Unit := byOwner createTaskVariable createVariable

/-! ## New values -/

/-- The variable with the event's value, and its type if the event names one. -/
def revalue (e : Event) (p : VariablePayload) (v : ProcessVariable) : ProcessVariable :=
  { v with
    type := p.type.or v.type
    value := Value.encode p.value
    lastUpdatedTime := some e.time }

/-- The same for a variable of a task. -/
def revalueTask (e : Event) (p : VariablePayload) (v : TaskVariable) : TaskVariable :=
  { v with
    type := p.type.or v.type
    value := Value.encode p.value
    lastUpdatedTime := some e.time }

/-- The variables of an instance that has ended keep their values. -/
def updateVariable (e : Event) (p : VariablePayload) : Program Unit := do
  let instanceId ← owningInstance e p
  let r ← requireInstance instanceId
  if r.status.isFinal then return ()
  match ← Program.ask (.findVariable instanceId p.name) with
  | none => .fail (.notFound "process variable" (instanceId ++ ":" ++ p.name))
  | some v => Program.ask (.saveVariable (revalue e p v))

/-- The variables of a task that has ended keep their values. -/
def updateTaskVariable (e : Event) (p : VariablePayload) : Program Unit := do
  let taskId ← owningTask e p
  let t ← requireTask taskId
  if t.status.isFinal then return ()
  match ← Program.ask (.findTaskVariable taskId p.name) with
  | none => .fail (.notFound "task variable" (taskId ++ ":" ++ p.name))
  | some v => Program.ask (.saveTaskVariable (revalueTask e p v))

def variableUpdated : Event → Program Unit := byOwner updateTaskVariable updateVariable

/-! ## Deletion -/

/-- What is not there need not be deleted; a task that has ended keeps its variables. -/
def dropTaskVariable (e : Event) (p : VariablePayload) : Program Unit := do
  let taskId ← owningTask e p
  match ← Program.ask (.findTask taskId) with
  | none => return ()
  | some t =>
    if t.status.isFinal then return ()
    match ← Program.ask (.findTaskVariable taskId p.name) with
    | none => return ()
    | some v => Program.ask (.deleteTaskVariable v.id)

/-- What is not there need not be deleted; an instance that has ended keeps its variables. -/
def dropVariable (e : Event) (p : VariablePayload) : Program Unit := do
  let instanceId ← owningInstance e p
  match ← Program.ask (.findInstance instanceId) with
  | none => return ()
  | some r =>
    if r.status.isFinal then return ()
    match ← Program.ask (.findVariable instanceId p.name) with
    | none => return ()
    | some v => deleteVariable v.id

def variableDeleted : Event → Program Unit := byOwner dropTaskVariable dropVariable

end FlowView.Projection
