import FlowView.Projection.Basic
/-!
# Process instances

The life of a process instance: created, running, suspended, and completed or cancelled. Completion
cancels the tasks that are still open. Deletion, which only an instance that has ended allows, removes
all that belongs to the instance.
-/

namespace FlowView.Projection

/-- A new instance. What the payload leaves out comes from the event. -/
def newInstance (e : Event) (p : InstancePayload) : ProcessInstance where
  id := p.id
  name := p.name
  status := .created
  businessKey := p.businessKey.or e.businessKey
  definition := {
    id := p.definition.id.or e.definition.id
    key := p.definition.key.or e.definition.key
    version := p.definition.version.or e.definition.version }
  definitionName := p.definitionName
  initiator := p.initiator
  parentId := p.parentId.or e.parentInstanceId
  lastModified := some e.time
  service := e.service

/-- An instance that is there already stays as it is. -/
def instanceCreated (e : Event) : Program Unit := do
  let p : InstancePayload ← payload e
  match ← Program.ask (.findInstance p.id) with
  | some _ => return ()
  | none => Program.ask (.saveInstance (newInstance e p))

/-- Saves the instance that the event names after a change, unless its status lets the event pass. -/
def changeInstance (passes : InstanceStatus → Bool)
    (change : InstancePayload → Instant → ProcessInstance → ProcessInstance) (e : Event) :
    Program Unit := do
  let p : InstancePayload ← payload e
  let r ← requireInstance p.id
  if passes r.status then return ()
  Program.ask (.saveInstance (change p e.time r))

def start (p : InstancePayload) (time : Instant) (r : ProcessInstance) : ProcessInstance :=
  { r with
    status := .running
    startDate := some (p.startDate.getD time)
    lastModified := some time
    name := p.name.or r.name
    businessKey := p.businessKey.or r.businessKey }

/-- Name and business key become those of the payload, missing ones too. -/
def update (p : InstancePayload) (time : Instant) (r : ProcessInstance) : ProcessInstance :=
  { r with name := p.name, businessKey := p.businessKey, lastModified := some time }

def suspend (_ : InstancePayload) (time : Instant) (r : ProcessInstance) : ProcessInstance :=
  { r with status := .suspended, suspendedDate := some time, lastModified := some time }

def resume (_ : InstancePayload) (time : Instant) (r : ProcessInstance) : ProcessInstance :=
  { r with status := .running, lastModified := some time }

def complete (p : InstancePayload) (time : Instant) (r : ProcessInstance) : ProcessInstance :=
  { r with
    status := .completed
    completedDate := some (p.completedDate.getD time)
    lastModified := some time }

def cancel (_ : InstancePayload) (time : Instant) (r : ProcessInstance) : ProcessInstance :=
  { r with status := .cancelled, completedDate := some time, lastModified := some time }

def instanceStarted : Event → Program Unit := changeInstance InstanceStatus.isFinal start

/-- An instance that has ended is updated all the same. -/
def instanceUpdated : Event → Program Unit := changeInstance (fun _ => false) update

def instanceSuspended : Event → Program Unit := changeInstance InstanceStatus.isFinal suspend

def instanceResumed : Event → Program Unit := changeInstance InstanceStatus.isFinal resume

/-- A completed instance can still be cancelled. -/
def instanceCancelled : Event → Program Unit := changeInstance (· = .cancelled) cancel

/-- An open task as its instance's completion leaves it. -/
def cancelTask (time : Instant) (t : UserTask) : UserTask :=
  { t with status := .cancelled, lastModified := some time }

/-- Cancels the instance's tasks that are still open. -/
def cancelOpenTasks (instanceId : String) (time : Instant) : Program Unit := do
  let tasks ← Program.ask (.listTasks instanceId)
  Program.each tasks fun t =>
    if t.status.isFinal then return () else Program.ask (.saveTask (cancelTask time t))

def instanceCompleted (e : Event) : Program Unit := do
  let p : InstancePayload ← payload e
  let r ← requireInstance p.id
  if r.status.isFinal then return ()
  Program.ask (.saveInstance (complete p e.time r))
  cancelOpenTasks r.id e.time

/-! ## Deletion -/

/-- Deletes a task with its candidates, its variables and what it shows. -/
def deleteTask (id : String) : Program Unit := do
  Program.ask (.clearCandidates id)
  let vs ← Program.ask (.listTaskVariables id)
  Program.each vs fun v => Program.ask (.deleteTaskVariable v.id)
  Program.ask (.unlinkTask id)
  Program.ask (.deleteTask id)

/-- Deletes a process variable, which no task shows any more then. -/
def deleteVariable (id : String) : Program Unit := do
  Program.ask (.unlinkVariable id)
  Program.ask (.deleteVariable id)

/-- Tasks and variables go before the instance, and before each of them what refers to it. -/
def instanceDeleted (e : Event) : Program Unit := do
  let p : InstancePayload ← payload e
  let r ← requireInstance p.id
  if !r.status.isFinal then
    .fail (.illegalState ("process instance '" ++ r.id ++ "' cannot be deleted in status "
      ++ Status.name r.status))
  let tasks ← Program.ask (.listTasks r.id)
  Program.each tasks fun t => deleteTask t.id
  let vs ← Program.ask (.listVariables r.id)
  Program.each vs fun v => deleteVariable v.id
  Program.ask (.deleteIntegrations r.id)
  Program.ask (.deleteActivities r.id)
  Program.ask (.deleteFlows r.id)
  Program.ask (.deleteInstance r.id)

end FlowView.Projection
