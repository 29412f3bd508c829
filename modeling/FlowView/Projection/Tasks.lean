import FlowView.Projection.Basic
/-!
# Tasks

The life of a user task: created, assigned, suspended, and completed or cancelled. A task shows the
process variables of its instance; those that are there when it is created are linked to it.
-/

namespace FlowView.Projection

/-- A new task. What the payload leaves out comes from the event; a status that is none counts as
left out. -/
def newTask (e : Event) (p : TaskPayload) : UserTask where
  id := p.id
  name := p.name
  description := p.description
  assignee := p.assignee
  owner := p.owner
  priority := p.priority
  status := (p.status.bind Status.ofName?).getD .created
  createdDate := some (p.createdDate.getD e.time)
  dueDate := p.dueDate
  claimedDate := p.claimedDate
  lastModified := some e.time
  instanceId := p.instanceId.or e.instanceId
  definitionId := p.definitionId.or e.definition.id
  definitionVersion := p.definitionVersion.or e.definition.version
  businessKey := p.businessKey.or e.businessKey
  taskDefinitionKey := p.taskDefinitionKey
  parentTaskId := p.parentTaskId
  formKey := p.formKey
  service := e.service

/-- Links variables to a task, passing over names that it shows already. -/
def linkNew (taskId : String) (shown : List String) : List ProcessVariable → Program Unit
  | [] => return ()
  | v :: vs =>
    if v.name ∈ shown then linkNew taskId shown vs
    else do
      Program.ask (.link taskId v.id)
      linkNew taskId (v.name :: shown) vs

/-- Links the variables of the task's instance to it. -/
def showVariables (t : UserTask) : Program Unit := do
  match t.instanceId with
  | none => return ()
  | some instanceId =>
    let shown ← Program.ask (.listLinked t.id)
    let vs ← Program.ask (.listVariables instanceId)
    linkNew t.id (shown.map ProcessVariable.name) vs

/-- A task that is there already stays as it is. -/
def taskCreated (e : Event) : Program Unit := do
  let p : TaskPayload ← payload e
  match ← Program.ask (.findTask p.id) with
  | some _ => return ()
  | none =>
    Program.ask (.saveTask (newTask e p))
    showVariables (newTask e p)

/-- Saves the task that the event names after a change, unless its status lets the event pass. -/
def changeTask (passes : TaskStatus → Bool) (change : TaskPayload → Instant → UserTask → UserTask)
    (e : Event) : Program Unit := do
  let p : TaskPayload ← payload e
  let t ← requireTask p.id
  if passes t.status then return ()
  Program.ask (.saveTask (change p e.time t))

/-- The assignee becomes the payload's, a missing one too. -/
def assign (p : TaskPayload) (time : Instant) (t : UserTask) : UserTask :=
  { t with
    assignee := p.assignee
    status := .assigned
    claimedDate := some (p.claimedDate.getD time)
    lastModified := some time }

/-- A task with an assignee is assigned again, any other is as newly created. -/
def activate (_ : TaskPayload) (time : Instant) (t : UserTask) : UserTask :=
  { t with
    status := if t.assignee.any fun a => !a.isEmpty then .assigned else .created
    lastModified := some time }

def suspendTask (_ : TaskPayload) (time : Instant) (t : UserTask) : UserTask :=
  { t with status := .suspended, lastModified := some time }

/-- What can be edited becomes what the payload says, missing values too. -/
def updateTask (p : TaskPayload) (time : Instant) (t : UserTask) : UserTask :=
  { t with
    name := p.name
    description := p.description
    priority := p.priority
    dueDate := p.dueDate
    formKey := p.formKey
    parentTaskId := p.parentTaskId
    assignee := p.assignee
    lastModified := some time }

/-- A completed task records who completed it and how long it was there. -/
def completeTask (p : TaskPayload) (time : Instant) (t : UserTask) : UserTask :=
  { t with
    status := .completed
    completedDate := some time
    completedBy := p.completedBy.or t.assignee
    duration := t.createdDate.map fun created => time.millisSince created
    lastModified := some time }

def dropTask (_ : TaskPayload) (time : Instant) (t : UserTask) : UserTask :=
  { t with status := .cancelled, lastModified := some time }

def taskAssigned : Event → Program Unit := changeTask TaskStatus.isFinal assign

def taskActivated : Event → Program Unit := changeTask TaskStatus.isFinal activate

def taskSuspended : Event → Program Unit := changeTask TaskStatus.isFinal suspendTask

/-- A task that has ended is updated all the same. -/
def taskUpdated : Event → Program Unit := changeTask (fun _ => false) updateTask

/-- A task that has ended is completed all the same. -/
def taskCompleted : Event → Program Unit := changeTask (fun _ => false) completeTask

def taskCancelled : Event → Program Unit := changeTask TaskStatus.isFinal dropTask

end FlowView.Projection
