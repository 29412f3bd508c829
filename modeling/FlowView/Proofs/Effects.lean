import FlowView.Proofs.Steps
/-!
# What events do to the tables

`Effect` says once for every kind of event what its projection does when it succeeds: when it leaves the
tables alone and what it writes otherwise. `Refusal` says when it fails and with what. A change to a
projection shows here, and what is proved of the tables is proved from these cases.
-/

namespace FlowView

open Projection

/-! ## Changes of the tables -/

namespace Store

variable (s : Store)

def withLinks (ls : List VariableLink) : Store := { s with links := s.links ++ ls }

def withVariable (v : ProcessVariable) : Store := { s with processVariables := s.processVariables ++ [v] }

def withTaskVariable (v : TaskVariable) : Store := { s with taskVariables := s.taskVariables ++ [v] }

def withFlow (f : SequenceFlow) : Store := { s with flows := s.flows ++ [f] }

def withCandidates (cs : List Candidate) : Store := { s with candidates := cs }

/-- A variable in the place of the one with its id. -/
def replaceVariable (v : ProcessVariable) : Store :=
  { s with processVariables := s.processVariables.map fun w => if w.id = v.id then v else w }

def replaceTaskVariable (v : TaskVariable) : Store :=
  { s with taskVariables := s.taskVariables.map fun w => if w.id = v.id then v else w }

/-- The variables of the instance that a task belongs to. -/
def variablesAround (t : UserTask) : List ProcessVariable :=
  match t.instanceId with
  | none => []
  | some instanceId => s.listVariables instanceId

/-- A new task, showing the variables of its instance. -/
def withTask (t : UserTask) : Store :=
  (s.saveTask t).withLinks ((s.variablesAround t).map fun v => ⟨t.id, v.id⟩)

/-- The tasks of an instance that have not ended. -/
def openTasksOf (instanceId : String) : List UserTask :=
  (s.tasksOf instanceId).filter fun t => !t.status.isFinal

/-- A new variable, shown to the open tasks of its instance. -/
def withShownVariable (v : ProcessVariable) : Store :=
  (s.withVariable v).withLinks ((s.openTasksOf v.instanceId).map fun t => ⟨t.id, v.id⟩)

/-- The open tasks of an instance cancelled. -/
def cancelTasksOf (instanceId : String) (time : Instant) : Store :=
  { s with tasks := s.tasks.map fun t =>
      if t.instanceId = some instanceId ∧ !t.status.isFinal then cancelTask time t else t }

/-- A variable gone, and every task's link to it. -/
def withoutVariable (id : String) : Store :=
  { s with
    processVariables := Table.remove (·.id = id) s.processVariables
    links := Table.remove (·.variableId = id) s.links }

/-- Is the task one of the instance's? -/
def ownsTask (instanceId taskId : String) : Bool :=
  s.tasks.any fun t => t.instanceId = some instanceId ∧ t.id = taskId

/-- Is the variable one of the instance's? -/
def ownsVariable (instanceId variableId : String) : Bool :=
  s.processVariables.any fun v => v.instanceId = instanceId ∧ v.id = variableId

variable {s} in
theorem Sound.ownsTask_of_mem (hs : s.Sound) {t : UserTask} (ht : t ∈ s.tasks) (instanceId : String) :
    s.ownsTask instanceId t.id = true ↔ t.instanceId = some instanceId := by
  simp only [ownsTask, List.any_eq_true, decide_eq_true_eq]
  constructor
  · rintro ⟨t', ht', hi, hid⟩
    rwa [List.inj_on_of_nodup_map hs.taskIds ht ht' hid.symm]
  · exact fun hi => ⟨t, ht, hi, rfl⟩

variable {s} in
theorem Sound.ownsVariable_of_mem (hs : s.Sound) {v : ProcessVariable} (hv : v ∈ s.processVariables)
    (instanceId : String) : s.ownsVariable instanceId v.id = true ↔ v.instanceId = instanceId := by
  simp only [ownsVariable, List.any_eq_true, decide_eq_true_eq]
  constructor
  · rintro ⟨v', hv', hi, hid⟩
    rwa [List.inj_on_of_nodup_map hs.variableIds hv hv' hid.symm]
  · exact fun hi => ⟨v, hv, hi, rfl⟩

/-- An instance gone with all that belongs to it, and nothing else. -/
def withoutInstance (instanceId : String) : Store :=
  { s with
    instances := Table.remove (·.id = instanceId) s.instances
    tasks := Table.remove (·.instanceId = some instanceId) s.tasks
    processVariables := Table.remove (·.instanceId = instanceId) s.processVariables
    taskVariables := Table.remove (fun v => s.ownsTask instanceId v.taskId) s.taskVariables
    links := Table.remove
      (fun l => s.ownsTask instanceId l.taskId ∨ s.ownsVariable instanceId l.variableId) s.links
    candidates := Table.remove (fun c => c.role.ofTask ∧ s.ownsTask instanceId c.owner) s.candidates
    activities := Table.remove (·.instanceId = instanceId) s.activities
    flows := Table.remove (·.instanceId = instanceId) s.flows
    integrations := Table.remove (·.instanceId = instanceId) s.integrations }

/-- A definition deployed, with its model if the payload brings one. -/
def withDefinition (e : Event) (p : DefinitionPayload) : Store :=
  let r := deploy e p (s.findDefinition p.id)
  match p.modelContent with
  | some content => (s.saveDefinition r).saveModel { definitionId := r.id, content }
  | none => s.saveDefinition r

theorem withDefinition_eq (e : Event) (p : DefinitionPayload) :
    ∃ definitions models, s.withDefinition e p = { s with definitions, models } := by
  unfold withDefinition
  cases p.modelContent with
  | none => exact ⟨_, s.models, rfl⟩
  | some content => exact ⟨_, _, rfl⟩

/-- A call recorded, after the element that makes it. -/
def withCall (e : Event) (p : IntegrationPayload) (element : Instant → Activity → Activity)
    (change : IntegrationPayload → Instant → IntegrationCall → IntegrationCall) : Store :=
  let a := refresh e (integrationSeed p) (s.activity? p.elementKey)
  let c := (s.integration? p.callKey).getD (newIntegration e p)
  (s.saveActivity (element e.time a)).saveIntegration { change p e.time c with activityId := some a.id }

end Store

/-! ## Kinds that do alike -/

/-- The kinds that change an instance that is there, unless its status lets them pass. -/
inductive InstanceChange :
    EventKind → (InstanceStatus → Bool) →
      (InstancePayload → Instant → ProcessInstance → ProcessInstance) → Prop
  | started : InstanceChange .processStarted InstanceStatus.isFinal start
  | updated : InstanceChange .processUpdated (fun _ => false) update
  | suspended : InstanceChange .processSuspended InstanceStatus.isFinal suspend
  | resumed : InstanceChange .processResumed InstanceStatus.isFinal resume
  | cancelled : InstanceChange .processCancelled (· = .cancelled) cancel

/-- The kinds that change a task that is there, unless its status lets them pass. -/
inductive TaskChange :
    EventKind → (TaskStatus → Bool) → (TaskPayload → Instant → UserTask → UserTask) → Prop
  | assigned : TaskChange .taskAssigned TaskStatus.isFinal assign
  | activated : TaskChange .taskActivated TaskStatus.isFinal activate
  | suspended : TaskChange .taskSuspended TaskStatus.isFinal suspendTask
  | updated : TaskChange .taskUpdated (fun _ => false) updateTask
  | completed : TaskChange .taskCompleted (fun _ => false) completeTask
  | cancelled : TaskChange .taskCancelled TaskStatus.isFinal dropTask

/-- The kinds that change candidates of a role, and how. -/
inductive CandidateChange : EventKind → Role → (Candidate → List Candidate → List Candidate) → Prop
  | taskUserAdded : CandidateChange .taskCandidateUserAdded .taskUser Table.adjoin
  | taskUserRemoved : CandidateChange .taskCandidateUserRemoved .taskUser fun c => Table.remove (· = c)
  | taskGroupAdded : CandidateChange .taskCandidateGroupAdded .taskGroup Table.adjoin
  | taskGroupRemoved : CandidateChange .taskCandidateGroupRemoved .taskGroup fun c => Table.remove (· = c)
  | starterUserAdded : CandidateChange .processCandidateStarterUserAdded .starterUser Table.adjoin
  | starterUserRemoved :
    CandidateChange .processCandidateStarterUserRemoved .starterUser fun c => Table.remove (· = c)
  | starterGroupAdded : CandidateChange .processCandidateStarterGroupAdded .starterGroup Table.adjoin
  | starterGroupRemoved :
    CandidateChange .processCandidateStarterGroupRemoved .starterGroup fun c => Table.remove (· = c)

/-- The kinds that an executed element enters a status by. -/
inductive ActivityChange : EventKind → ActivityStatus → Prop
  | started : ActivityChange .activityStarted .started
  | completed : ActivityChange .activityCompleted .completed
  | cancelled : ActivityChange .activityCancelled .cancelled

/-- The kinds that change a call and the element that makes it. -/
inductive CallChange : EventKind → (Instant → Activity → Activity) →
    (IntegrationPayload → Instant → IntegrationCall → IntegrationCall) → Prop
  | requested : CallChange .integrationRequested (fun _ a => a) request
  | resultReceived : CallChange .integrationResultReceived (enter .completed) receive
  | errorReceived : CallChange .integrationErrorReceived (enter .error) refuse

/-- The event is about a variable of a task. -/
structure AboutTask (e : Event) (p : VariablePayload) (taskId : String) : Prop where
  payload : e.payload = .ok p
  ofTask : p.ofTask = true
  owner : p.taskId = some taskId

/-- The event is about a variable of a process instance. -/
structure AboutInstance (e : Event) (p : VariablePayload) (instanceId : String) : Prop where
  payload : e.payload = .ok p
  ofInstance : p.ofTask = false
  owner : p.instanceId.or e.instanceId = some instanceId

/-! ## Effects -/

/-- What an event of a kind does to the tables when it is handled. -/
inductive Effect (u : Supply) (e : Event) (s : Store) : EventKind → Store → Prop
  | definitionDeployed {p : DefinitionPayload} (hp : e.payload = .ok p) :
    Effect u e s .processDeployed (s.withDefinition e p)
  | applicationDeployed {p : ApplicationPayload} (hp : e.payload = .ok p) :
    Effect u e s .applicationDeployed (s.saveApplication (deployApplication e p (s.findApplication p.id)))
  | instanceKnown {p : InstancePayload} {r : ProcessInstance} (hp : e.payload = .ok p)
    (hr : s.instance? p.id = some r) : Effect u e s .processCreated s
  | instanceMade {p : InstancePayload} (hp : e.payload = .ok p) (hr : s.instance? p.id = none) :
    Effect u e s .processCreated (s.saveInstance (newInstance e p))
  | instancePassed {k passes change} {p : InstancePayload} {r : ProcessInstance}
    (hk : InstanceChange k passes change) (hp : e.payload = .ok p) (hr : s.instance? p.id = some r)
    (hpass : passes r.status = true) : Effect u e s k s
  | instanceChanged {k passes change} {p : InstancePayload} {r : ProcessInstance}
    (hk : InstanceChange k passes change) (hp : e.payload = .ok p) (hr : s.instance? p.id = some r)
    (hpass : passes r.status = false) : Effect u e s k (s.saveInstance (change p e.time r))
  | completionPassed {p : InstancePayload} {r : ProcessInstance} (hp : e.payload = .ok p)
    (hr : s.instance? p.id = some r) (hfinal : r.status.isFinal = true) : Effect u e s .processCompleted s
  | instanceCompleted {p : InstancePayload} {r : ProcessInstance} (hp : e.payload = .ok p)
    (hr : s.instance? p.id = some r) (hopen : r.status.isFinal = false) :
    Effect u e s .processCompleted ((s.saveInstance (complete p e.time r)).cancelTasksOf r.id e.time)
  | instanceDeleted {p : InstancePayload} {r : ProcessInstance} (hp : e.payload = .ok p)
    (hr : s.instance? p.id = some r) (hfinal : r.status.isFinal = true) :
    Effect u e s .processDeleted (s.withoutInstance r.id)
  | taskKnown {p : TaskPayload} {t : UserTask} (hp : e.payload = .ok p) (ht : s.task? p.id = some t) :
    Effect u e s .taskCreated s
  | taskMade {p : TaskPayload} (hp : e.payload = .ok p) (ht : s.task? p.id = none) :
    Effect u e s .taskCreated (s.withTask (newTask e p))
  | taskPassed {k passes change} {p : TaskPayload} {t : UserTask} (hk : TaskChange k passes change)
    (hp : e.payload = .ok p) (ht : s.task? p.id = some t) (hpass : passes t.status = true) :
    Effect u e s k s
  | taskChanged {k passes change} {p : TaskPayload} {t : UserTask} (hk : TaskChange k passes change)
    (hp : e.payload = .ok p) (ht : s.task? p.id = some t) (hpass : passes t.status = false) :
    Effect u e s k (s.saveTask (change p e.time t))
  | candidatePassed {k role change} {p : CandidatePayload role} {t : UserTask}
    (hk : CandidateChange k role change) (hp : e.payload = .ok p) (hrole : role.ofTask = true)
    (ht : s.task? p.owner = some t) (hfinal : t.status.isFinal = true) : Effect u e s k s
  | taskCandidateChanged {k role change} {p : CandidatePayload role} {t : UserTask}
    (hk : CandidateChange k role change) (hp : e.payload = .ok p) (hrole : role.ofTask = true)
    (ht : s.task? p.owner = some t) (hopen : t.status.isFinal = false) :
    Effect u e s k (s.withCandidates (change ⟨role, p.owner, p.candidate⟩ s.candidates))
  | starterChanged {k role change} {p : CandidatePayload role} (hk : CandidateChange k role change)
    (hp : e.payload = .ok p) (hrole : role.ofTask = false) :
    Effect u e s k (s.withCandidates (change ⟨role, p.owner, p.candidate⟩ s.candidates))
  | taskVariableKnown {p : VariablePayload} {taskId : String} {t : UserTask} {v : TaskVariable}
    (hp : AboutTask e p taskId) (ht : s.task? taskId = some t)
    (hv : s.findTaskVariable taskId p.name = some v) : Effect u e s .variableCreated s
  | taskVariableMade {p : VariablePayload} {taskId : String} {t : UserTask} (hp : AboutTask e p taskId)
    (ht : s.task? taskId = some t) (hv : s.findTaskVariable taskId p.name = none) :
    Effect u e s .variableCreated
      ((u.drawn s).withTaskVariable (newTaskVariable e p t (u.draw s).1 taskId))
  | variableKnown {p : VariablePayload} {instanceId : String} {r : ProcessInstance} {v : ProcessVariable}
    (hp : AboutInstance e p instanceId) (hr : s.instance? instanceId = some r)
    (hv : s.findVariable instanceId p.name = some v) : Effect u e s .variableCreated s
  | variableMade {p : VariablePayload} {instanceId : String} {r : ProcessInstance}
    (hp : AboutInstance e p instanceId) (hr : s.instance? instanceId = some r)
    (hv : s.findVariable instanceId p.name = none) :
    Effect u e s .variableCreated
      ((u.drawn s).withShownVariable (newVariable e p (u.draw s).1 instanceId))
  | taskVariableKept {p : VariablePayload} {taskId : String} {t : UserTask} (hp : AboutTask e p taskId)
    (ht : s.task? taskId = some t) (hfinal : t.status.isFinal = true) : Effect u e s .variableUpdated s
  | taskVariableRevalued {p : VariablePayload} {taskId : String} {t : UserTask} {v : TaskVariable}
    (hp : AboutTask e p taskId) (ht : s.task? taskId = some t) (hopen : t.status.isFinal = false)
    (hv : s.findTaskVariable taskId p.name = some v) :
    Effect u e s .variableUpdated (s.replaceTaskVariable (revalueTask e p v))
  | variableKept {p : VariablePayload} {instanceId : String} {r : ProcessInstance}
    (hp : AboutInstance e p instanceId) (hr : s.instance? instanceId = some r)
    (hfinal : r.status.isFinal = true) : Effect u e s .variableUpdated s
  | variableRevalued {p : VariablePayload} {instanceId : String} {r : ProcessInstance}
    {v : ProcessVariable} (hp : AboutInstance e p instanceId) (hr : s.instance? instanceId = some r)
    (hopen : r.status.isFinal = false) (hv : s.findVariable instanceId p.name = some v) :
    Effect u e s .variableUpdated (s.replaceVariable (revalue e p v))
  | taskVariableSpared {p : VariablePayload} {taskId : String} (hp : AboutTask e p taskId)
    (hspared : ∀ t, s.task? taskId = some t → t.status.isFinal = false →
      s.findTaskVariable taskId p.name = none) : Effect u e s .variableDeleted s
  | taskVariableDropped {p : VariablePayload} {taskId : String} {t : UserTask} {v : TaskVariable}
    (hp : AboutTask e p taskId) (ht : s.task? taskId = some t) (hopen : t.status.isFinal = false)
    (hv : s.findTaskVariable taskId p.name = some v) :
    Effect u e s .variableDeleted (s.deleteTaskVariable v.id)
  | variableSpared {p : VariablePayload} {instanceId : String} (hp : AboutInstance e p instanceId)
    (hspared : ∀ r, s.instance? instanceId = some r → r.status.isFinal = false →
      s.findVariable instanceId p.name = none) : Effect u e s .variableDeleted s
  | variableDropped {p : VariablePayload} {instanceId : String} {r : ProcessInstance}
    {v : ProcessVariable} (hp : AboutInstance e p instanceId) (hr : s.instance? instanceId = some r)
    (hopen : r.status.isFinal = false) (hv : s.findVariable instanceId p.name = some v) :
    Effect u e s .variableDeleted (s.withoutVariable v.id)
  | activityEntered {k status} {p : ActivityPayload} (hk : ActivityChange k status)
    (hp : e.payload = .ok p) :
    Effect u e s k (s.saveActivity (enter status e.time (refresh e (activitySeed p) (s.activity? p.key))))
  | flowKnown {p : FlowPayload} {id : String} (hp : e.payload = .ok p) (hid : e.id = some id)
    (hf : s.flowRecorded id = true) : Effect u e s .sequenceFlowTaken s
  | flowRecorded {p : FlowPayload} (hp : e.payload = .ok p)
    (hf : ∀ id, e.id = some id → s.flowRecorded id = false) :
    Effect u e s .sequenceFlowTaken ((u.drawn s).withFlow (newFlow e p (u.draw s).1))
  | callChanged {k element change} {p : IntegrationPayload} (hk : CallChange k element change)
    (hp : e.payload = .ok p) : Effect u e s k (s.withCall e p element change)

/-! ## Refusals -/

/-- Why the entity is not the payload that is wanted. -/
def Event.fault? (α : Type) [Payload α] (e : Event) : Option EventFault :=
  match (e.payload : Except EventFault α) with
  | .ok _ => none
  | .error fault => some fault

/-- Why the entity is not the payload that a kind of event has. -/
def EventKind.fault? : EventKind → Event → Option EventFault
  | .processDeployed => Event.fault? DefinitionPayload
  | .applicationDeployed => Event.fault? ApplicationPayload
  | .processCreated | .processStarted | .processUpdated | .processSuspended | .processResumed
  | .processCompleted | .processCancelled | .processDeleted => Event.fault? InstancePayload
  | .taskCreated | .taskAssigned | .taskActivated | .taskSuspended | .taskUpdated | .taskCompleted
  | .taskCancelled => Event.fault? TaskPayload
  | .taskCandidateUserAdded | .taskCandidateUserRemoved => Event.fault? (CandidatePayload .taskUser)
  | .taskCandidateGroupAdded | .taskCandidateGroupRemoved => Event.fault? (CandidatePayload .taskGroup)
  | .processCandidateStarterUserAdded | .processCandidateStarterUserRemoved =>
    Event.fault? (CandidatePayload .starterUser)
  | .processCandidateStarterGroupAdded | .processCandidateStarterGroupRemoved =>
    Event.fault? (CandidatePayload .starterGroup)
  | .variableCreated | .variableUpdated | .variableDeleted => Event.fault? VariablePayload
  | .activityStarted | .activityCompleted | .activityCancelled => Event.fault? ActivityPayload
  | .sequenceFlowTaken => Event.fault? FlowPayload
  | .integrationRequested | .integrationResultReceived | .integrationErrorReceived =>
    Event.fault? IntegrationPayload

/-- The kinds that ask for an instance that is there. -/
inductive NeedsInstance : EventKind → Prop
  | change {k passes change} (h : InstanceChange k passes change) : NeedsInstance k
  | completed : NeedsInstance .processCompleted
  | deleted : NeedsInstance .processDeleted

/-- Why an event of a kind is not handled. -/
inductive Refusal (e : Event) (s : Store) : EventKind → Failure → Prop
  | undecoded {k fault} (h : k.fault? e = some fault) : Refusal e s k (.event fault)
  | ownerless {k} {p : VariablePayload} (hk : k.family = .variable) (hp : e.payload = .ok p)
    (hi : p.ofTask = false) (howner : p.instanceId.or e.instanceId = none) :
    Refusal e s k (noOwner e "processInstanceId")
  | noInstance {k} {p : InstancePayload} (hk : NeedsInstance k) (hp : e.payload = .ok p)
    (hr : s.instance? p.id = none) : Refusal e s k (.notFound "process instance" p.id)
  | notEnded {p : InstancePayload} {r : ProcessInstance} (hp : e.payload = .ok p)
    (hr : s.instance? p.id = some r) (hopen : r.status.isFinal = false) :
    Refusal e s .processDeleted (.illegalState ("process instance '" ++ r.id
      ++ "' cannot be deleted in status " ++ Status.name r.status))
  | noTask {k passes change} {p : TaskPayload} (hk : TaskChange k passes change) (hp : e.payload = .ok p)
    (ht : s.task? p.id = none) : Refusal e s k (.notFound "task" p.id)
  | noCandidateTask {k role change} {p : CandidatePayload role} (hk : CandidateChange k role change)
    (hp : e.payload = .ok p) (hrole : role.ofTask = true) (ht : s.task? p.owner = none) :
    Refusal e s k (.notFound "task" p.owner)
  | noVariableInstance {k} {p : VariablePayload} {instanceId : String}
    (hk : k = .variableCreated ∨ k = .variableUpdated) (hp : AboutInstance e p instanceId)
    (hr : s.instance? instanceId = none) : Refusal e s k (.notFound "process instance" instanceId)
  | noVariableTask {k} {p : VariablePayload} {taskId : String}
    (hk : k = .variableCreated ∨ k = .variableUpdated) (hp : AboutTask e p taskId)
    (ht : s.task? taskId = none) : Refusal e s k (.notFound "task" taskId)
  | noVariable {p : VariablePayload} {instanceId : String} {r : ProcessInstance}
    (hp : AboutInstance e p instanceId) (hr : s.instance? instanceId = some r)
    (hopen : r.status.isFinal = false) (hv : s.findVariable instanceId p.name = none) :
    Refusal e s .variableUpdated (.notFound "process variable" (instanceId ++ ":" ++ p.name))
  | noTaskVariable {p : VariablePayload} {taskId : String} {t : UserTask} (hp : AboutTask e p taskId)
    (ht : s.task? taskId = some t) (hopen : t.status.isFinal = false)
    (hv : s.findTaskVariable taskId p.name = none) :
    Refusal e s .variableUpdated (.notFound "task variable" (taskId ++ ":" ++ p.name))

/-- What comes of handling an event: an effect, or a refusal that leaves the tables as they are. -/
inductive Handled (u : Supply) (e : Event) (s : Store) (k : EventKind) : Outcome Unit Store → Prop
  | done {s' : Store} (h : Effect u e s k s') : Handled u e s k (.ok (), s')
  | refused {f : Failure} (h : Refusal e s k f) : Handled u e s k (.error f, s)

end FlowView
