import FlowView.Proofs.Fields
import FlowView.Proofs.Planned
/-!
# What a plan foresees

A plan reads the keys of a batch off the entities' fields, the projections read them off the decoded payloads.
The two agree on an event that the plan sees (`FetchPlan.Sees`): its entity is an object, if fields are read
from it, and names the instance of a process variable itself. Such an event asks for no key that the plan has
not, so once the plan is loaded none of these questions goes to the backend (`plan_foresees`). Of another
event the plan has nothing, though its projection asks all the same (`lookups_unforeseen`).
-/

namespace FlowView

open Projection

variable {plan plan' : FetchPlan} {e : Event} {k : EventKind}

/-! ## Fields of an entity -/

section Entity

variable {fields : List (String × Json)} {name : String}

theorem Field.read_text {s : String} (h : Field.read ⟨name, .text⟩ (Document.ofFields fields) = .ok s) :
    (Json.obj fields).text? name = some s := by
  rw [read, Document.lookup_ofFields] at h
  simp only [Json.text?, Json.field?]
  cases hv : fields.lookup name with
  | none => simp [hv, FieldKind.absent?, FieldKind.default?] at h
  | some v => cases v <;> simp_all [Document.ofValue, FieldKind.decode]

theorem Field.read_optText {s : Option String}
    (h : Field.read ⟨name, .optText⟩ (Document.ofFields fields) = .ok s) : (Json.obj fields).text? name = s := by
  rw [read, Document.lookup_ofFields] at h
  simp only [Json.text?, Json.field?]
  cases hv : fields.lookup name with
  | none => simp_all [FieldKind.absent?]
  | some v => cases v <;> simp_all [Document.ofValue, FieldKind.decode]

theorem Field.read_flag {b : Bool} (h : Field.read ⟨name, .flag⟩ (Document.ofFields fields) = .ok b) :
    (Json.obj fields).field? name = some (.bool true) ↔ b = true := by
  rw [read, Document.lookup_ofFields] at h
  simp only [Json.field?]
  cases hv : fields.lookup name with
  | none => simp_all [FieldKind.absent?, FieldKind.default?]
  | some v => cases v <;> simp_all [Document.ofValue, FieldKind.decode]

/-- An object that is a payload has each of its fields by name. -/
theorem Event.payload_fields {α : Type} [Payload α] {p : α} (hfields : e.entity = .obj fields)
    (hp : e.payload = .ok p) :
    ∃ row, Row.ofEntries (Payload.schema α).fields (Document.ofFields fields) = .ok row ∧ Payload.ofRow row = p := by
  obtain ⟨row, hdecode, rfl⟩ := e.payload_row hp
  rw [hfields, Document.ofValue] at hdecode
  obtain ⟨-, -, hrow⟩ := bind_eq_ok.1 hdecode
  exact ⟨row, hrow, rfl⟩

theorem TaskPayload.id_text {p : TaskPayload} (hfields : e.entity = .obj fields) (hp : e.payload = .ok p) :
    e.entity.text? "id" = some p.id := by
  obtain ⟨row, hrow, rfl⟩ := e.payload_fields hfields hp
  rw [hfields]
  exact Field.read_text (Row.ofEntries_cons.1 hrow).1

theorem CandidatePayload.owner_text {role : Role} {p : CandidatePayload role} (hrole : role.ofTask = true)
    (hfields : e.entity = .obj fields) (hp : e.payload = .ok p) :
    e.entity.text? "taskId" = some p.owner := by
  obtain ⟨row, hrow, rfl⟩ := e.payload_fields hfields hp
  rw [hfields]
  have howner := Field.read_text (Row.ofEntries_cons.1 hrow).1
  rw [if_pos hrole] at howner
  exact howner

/-- What a plan reads of a variable. -/
theorem VariablePayload.texts {p : VariablePayload} (hfields : e.entity = .obj fields) (hp : e.payload = .ok p) :
    e.entity.text? "name" = some p.name ∧ e.entity.text? "processInstanceId" = p.instanceId ∧
      e.entity.text? "taskId" = p.taskId ∧
      (e.entity.field? "taskVariable" = some (.bool true) ↔ p.taskVariable = true) := by
  obtain ⟨⟨name, type, value, instanceId, taskId, taskVariable, ⟨⟩⟩, hrow, rfl⟩ := e.payload_fields hfields hp
  rw [hfields]
  obtain ⟨hname, hrow⟩ := Row.ofEntries_cons.1 hrow
  obtain ⟨-, hrow⟩ := Row.ofEntries_cons.1 hrow
  obtain ⟨-, hrow⟩ := Row.ofEntries_cons.1 hrow
  obtain ⟨hinstance, hrow⟩ := Row.ofEntries_cons.1 hrow
  obtain ⟨htask, hrow⟩ := Row.ofEntries_cons.1 hrow
  obtain ⟨hflag, -⟩ := Row.ofEntries_cons.1 hrow
  exact ⟨Field.read_text hname, Field.read_optText hinstance, Field.read_optText htask, Field.read_flag hflag⟩

end Entity

/-! ## What is planned -/

namespace FetchPlan

/-- The plan sees what the event's projection asks for: where keys are read off fields the entity is an
object, and a process variable that does not name its instance is not one of the plan's instance. -/
structure Sees (p : FetchPlan) (e : Event) : Prop where
  named : ∀ k, e.kind? = some k → k.family = .task ∨ k.family = .candidate ∨ k.family = .variable →
    ∃ fields, e.entity = .obj fields
  placed : ∀ k, e.kind? = some k → k.family = .variable → ∀ v : VariablePayload, e.payload = .ok v →
    v.ofTask = false → v.instanceId = none → ∀ id, e.instanceId = some id → p.instanceId ≠ some id

/-- A plan of the same instance that has all keys of another. -/
structure Includes (p p' : FetchPlan) : Prop where
  instanceId : p'.instanceId = p.instanceId
  variableNames : ∀ name ∈ p.variableNames, name ∈ p'.variableNames
  taskIds : ∀ id ∈ p.taskIds, id ∈ p'.taskIds
  activityIds : ∀ id ∈ p.activityIds, id ∈ p'.activityIds

theorem Includes.refl (p : FetchPlan) : p.Includes p := ⟨rfl, fun _ h => h, fun _ h => h, fun _ h => h⟩

theorem Includes.trans {p p' p'' : FetchPlan} (h : p.Includes p') (h' : p'.Includes p'') : p.Includes p'' where
  instanceId := h'.instanceId.trans h.instanceId
  variableNames name hname := h'.variableNames name (h.variableNames name hname)
  taskIds id hid := h'.taskIds id (h.taskIds id hid)
  activityIds id hid := h'.activityIds id (h.activityIds id hid)

theorem Includes.holds (h : plan.Includes plan') {c : Call} (hc : plan.Holds c) : plan'.Holds c := by
  cases c with
  | findTask id => exact h.taskIds id hc
  | findActivity id => exact h.activityIds id hc
  | findVariable instanceId name =>
    exact fun hinstance => h.variableNames name (hc (h.instanceId ▸ hinstance))
  | _ => trivial

theorem mem_insertKey {j key : String} {keys : List String} : j ∈ insertKey key keys ↔ j = key ∨ j ∈ keys := by
  induction keys with
  | nil => simp [insertKey]
  | cons i keys ih =>
    unfold insertKey
    split
    · simp
    · split
      · rename_i heq
        simp [heq]
      · simp only [List.mem_cons, ih]
        tauto

theorem includes_addTask (p : FetchPlan) (id : String) : p.Includes (p.addTask id) :=
  { Includes.refl p with taskIds := fun _ h => mem_insertKey.2 (.inr h) }

theorem includes_addVariable (p : FetchPlan) (name : String) : p.Includes (p.addVariable name) :=
  { Includes.refl p with variableNames := fun _ h => mem_insertKey.2 (.inr h) }

theorem includes_addActivity (p : FetchPlan) (id : String) : p.Includes (p.addActivity id) :=
  { Includes.refl p with activityIds := fun _ h => mem_insertKey.2 (.inr h) }

theorem includes_withKey {α : Type} [Payload α] (p : FetchPlan) (key : α → String) (e : Event) :
    p.Includes (p.withKey key e) := by
  unfold withKey
  split
  · exact includes_addActivity p _
  · exact .refl p

/-- An event only adds keys to a plan. -/
theorem includes_withEvent (p : FetchPlan) (e : Event) : p.Includes (p.withEvent e) := by
  have htask (id : Option String) : p.Includes ((id.map p.addTask).getD p) := by
    cases id with
    | none => exact .refl p
    | some id => exact includes_addTask p id
  unfold withEvent
  split
  · exact htask _
  · exact htask _
  · unfold withVariable
    repeat' split
    · exact includes_addTask p _
    · exact includes_addVariable p _
    · exact .refl p
    · exact .refl p
  · exact includes_withKey p _ e
  · exact includes_withKey p _ e
  all_goals exact .refl p

/-- The plan of a batch has what any event of it adds to some plan of the same instance. -/
theorem exists_withEvent (before : List Event) (e : Event) (after : List Event) :
    ∃ p : FetchPlan, p.instanceId = (ofEvents (before ++ e :: after)).instanceId ∧
      (p.withEvent e).Includes (ofEvents (before ++ e :: after)) := by
  have hfold (p : FetchPlan) (events : List Event) : p.Includes (events.foldl withEvent p) := by
    induction events generalizing p with
    | nil => exact .refl p
    | cons e events ih => exact (includes_withEvent p e).trans (ih _)
  unfold ofEvents
  rw [List.foldl_append, List.foldl_cons]
  refine ⟨_, ?_, hfold _ after⟩
  exact ((includes_withEvent _ e).trans (hfold _ after)).instanceId.symm

/-! ## What an event adds -/

section Family

variable (p : FetchPlan) (hk : e.kind? = some k)
include hk

theorem withEvent_task (hfamily : k.family = .task) :
    p.withEvent e = ((e.entity.text? "id").map p.addTask).getD p := by
  simp [withEvent, hk, hfamily]

theorem withEvent_candidate (hfamily : k.family = .candidate) :
    p.withEvent e = ((e.entity.text? "taskId").map p.addTask).getD p := by
  simp [withEvent, hk, hfamily]

theorem withEvent_variable (hfamily : k.family = .variable) : p.withEvent e = p.withVariable e.entity := by
  simp [withEvent, hk, hfamily]

theorem withEvent_activity (hfamily : k.family = .activity) :
    p.withEvent e = p.withKey ActivityPayload.key e := by
  simp [withEvent, hk, hfamily]

theorem withEvent_integration (hfamily : k.family = .integration) :
    p.withEvent e = p.withKey IntegrationPayload.elementKey e := by
  simp [withEvent, hk, hfamily]

end Family

/-- What a plan takes from a variable's entity, by the payload. -/
theorem withVariable_eq {fields : List (String × Json)} {v : VariablePayload} (p : FetchPlan)
    (hfields : e.entity = .obj fields) (hv : e.payload = .ok v) :
    p.withVariable e.entity =
      if v.ofTask = true then (v.taskId.map p.addTask).getD p
      else if v.instanceId.isSome = true ∧ p.instanceId = v.instanceId then p.addVariable v.name else p := by
  obtain ⟨hname, hinstance, htask, hflag⟩ := VariablePayload.texts hfields hv
  unfold withVariable
  rw [hname, hinstance, htask]
  cases hid : v.taskId with
  | none =>
    have hother : v.ofTask = false := by simp [VariablePayload.ofTask, hid]
    cases hi : v.instanceId <;> simp [hother]
  | some id =>
    by_cases hmarked : v.taskVariable = true
    · simp [hflag.2 hmarked, VariablePayload.ofTask, hmarked, hid]
    · have hother : v.ofTask = false := by simp [VariablePayload.ofTask, hmarked]
      have hfield : e.entity.field? "taskVariable" ≠ some (.bool true) := fun h => hmarked (hflag.1 h)
      rw [hother]
      split
      · rename_i hmark _
        exact absurd hmark hfield
      · cases hi : v.instanceId <;> simp

theorem Sees.task (h : plan.Sees e) (hk : e.kind? = some k) (hfamily : k.family = .task) (p : TaskPayload)
    (hp : e.payload = .ok p) : p.id ∈ (plan.withEvent e).taskIds := by
  obtain ⟨fields, hfields⟩ := h.named k hk (.inl hfamily)
  rw [plan.withEvent_task hk hfamily, TaskPayload.id_text hfields hp]
  exact mem_insertKey.2 (.inl rfl)

theorem Sees.candidate (h : plan.Sees e) (hk : e.kind? = some k) (hfamily : k.family = .candidate) {role : Role}
    (hrole : role.ofTask = true) (p : CandidatePayload role) (hp : e.payload = .ok p) :
    p.owner ∈ (plan.withEvent e).taskIds := by
  obtain ⟨fields, hfields⟩ := h.named k hk (.inr (.inl hfamily))
  rw [plan.withEvent_candidate hk hfamily, CandidatePayload.owner_text hrole hfields hp]
  exact mem_insertKey.2 (.inl rfl)

theorem Sees.variable (h : plan.Sees e) (hk : e.kind? = some k) (hfamily : k.family = .variable)
    (p : VariablePayload) (hp : e.payload = .ok p) :
    (p.ofTask = true → OwnerPlanned (plan.withEvent e) p) ∧
    (p.ofTask = false → NamePlanned (plan.withEvent e) e p) := by
  obtain ⟨fields, hfields⟩ := h.named k hk (.inr (.inr hfamily))
  have hadds := plan.withVariable_eq hfields hp
  rw [plan.withEvent_variable hk hfamily, hadds]
  refine ⟨fun htask id hid => ?_, fun htask id howner hplan => ?_⟩
  · simp only [htask, if_true, hid]
    exact mem_insertKey.2 (.inl rfl)
  · have hinstance : plan.instanceId = some id :=
      (includes_withEvent plan e).instanceId.symm.trans (by
        rw [plan.withEvent_variable hk hfamily, hadds]
        exact hplan)
    -- The owner is named by the payload, as the envelope names no variable of the plan's instance.
    cases hi : p.instanceId with
    | none =>
      rw [hi] at howner
      exact absurd hinstance (h.placed k hk hfamily p hp htask hi id howner)
    | some i =>
      rw [hi] at howner
      cases howner
      simp only [htask, hinstance, Option.isSome_some, and_self, if_true, Bool.false_eq_true, if_false]
      exact mem_insertKey.2 (.inl rfl)

theorem activity_planned (plan : FetchPlan) (hk : e.kind? = some k) (hfamily : k.family = .activity)
    (p : ActivityPayload) (hp : e.payload = .ok p) : p.key ∈ (plan.withEvent e).activityIds := by
  rw [plan.withEvent_activity hk hfamily, withKey, hp]
  exact mem_insertKey.2 (.inl rfl)

theorem integration_planned (plan : FetchPlan) (hk : e.kind? = some k) (hfamily : k.family = .integration)
    (p : IntegrationPayload) (hp : e.payload = .ok p) : p.elementKey ∈ (plan.withEvent e).activityIds := by
  rw [plan.withEvent_integration hk hfamily, withKey, hp]
  exact mem_insertKey.2 (.inl rfl)

/-- The projection of an event that a plan sees asks for no keys but those of the plan and those that the
event adds. -/
theorem Sees.project_planned (h : plan.Sees e) (hk : e.kind? = some k) : Planned (plan.withEvent e) (k.project e) := by
  cases k with
  | processDeployed => exact planned_definitionDeployed _ e
  | applicationDeployed => exact planned_applicationDeployed _ e
  | processCreated => exact planned_instanceCreated _ e
  | processStarted | processSuspended | processResumed =>
    exact planned_changeInstance _ InstanceStatus.isFinal _ e
  | processUpdated => exact planned_changeInstance _ (fun _ => false) update e
  | processCancelled => exact planned_changeInstance _ (· = .cancelled) cancel e
  | processCompleted => exact planned_instanceCompleted _ e
  | processDeleted => exact planned_instanceDeleted _ e
  | taskCreated => exact planned_taskCreated (h.task hk rfl)
  | taskAssigned | taskActivated | taskSuspended | taskCancelled =>
    exact planned_changeTask (h.task hk rfl) TaskStatus.isFinal _
  | taskUpdated => exact planned_changeTask (h.task hk rfl) (fun _ => false) updateTask
  | taskCompleted => exact planned_changeTask (h.task hk rfl) (fun _ => false) completeTask
  | taskCandidateUserAdded | taskCandidateGroupAdded | processCandidateStarterUserAdded
  | processCandidateStarterGroupAdded =>
    exact planned_changeCandidate (h.candidate hk rfl) (planned_addCandidate _)
  | taskCandidateUserRemoved | taskCandidateGroupRemoved | processCandidateStarterUserRemoved
  | processCandidateStarterGroupRemoved =>
    exact planned_changeCandidate (h.candidate hk rfl) (planned_removeCandidate _)
  | variableCreated =>
    exact planned_byOwner (h.variable hk rfl) (fun _ => planned_createTaskVariable) fun _ => planned_createVariable
  | variableUpdated =>
    exact planned_byOwner (h.variable hk rfl) (fun _ => planned_updateTaskVariable) fun _ => planned_updateVariable
  | variableDeleted =>
    exact planned_byOwner (h.variable hk rfl) (fun _ => planned_dropTaskVariable) fun _ => planned_dropVariable
  | activityStarted | activityCompleted | activityCancelled =>
    exact planned_activityEntered (plan.activity_planned hk rfl) _
  | sequenceFlowTaken => exact planned_flowTaken _ e
  | integrationRequested =>
    exact planned_changeIntegration (plan.integration_planned hk rfl) (fun _ a => a) request
  | integrationResultReceived | integrationErrorReceived =>
    exact planned_changeIntegration (plan.integration_planned hk rfl) (enter _) _

/-- An event that a plan does not see adds nothing to it. -/
theorem withEvent_unseen (h : ¬plan.Sees e) : plan.withEvent e = plan := by
  by_contra hne
  refine h ⟨fun k hk hfamily => ?_, fun k hk hfamily v hv htask hnone _ _ _ => hne ?_⟩
  · cases hentity : e.entity with
    | obj fields => exact ⟨fields, rfl⟩
    | _ =>
      -- No field is read from what is no object.
      refine absurd ?_ hne
      rcases hfamily with hfamily | hfamily | hfamily
      · rw [plan.withEvent_task hk hfamily, hentity]
        rfl
      · rw [plan.withEvent_candidate hk hfamily, hentity]
        rfl
      · rw [plan.withEvent_variable hk hfamily, hentity]
        rfl
  · rw [plan.withEvent_variable hk hfamily]
    cases hentity : e.entity with
    | obj fields => simp [← hentity, plan.withVariable_eq hentity hv, htask, hnone]
    | _ => rfl

end FetchPlan

/-! ## Batches -/

/-- A plan is empty exactly if loading it asks for nothing. Once the plan of a batch is loaded, an event of the
batch that the plan sees asks for no keys but the plan's, and whatever was handled before it, its projection
leaves no question to the backend that the plan spares. An event that the plan does not see adds nothing to
any plan of the same instance. -/
theorem plan_foresees {σ : Type} (b : Backend σ) (s : σ) (events : List Event) :
    let plan := FetchPlan.ofEvents events
    let loaded := Cache.prefetch b.recorded plan ({}, s, [])
    (plan.isEmpty = true ↔ loaded.2.2.2 = []) ∧
    ∀ before e after k, events = before ++ e :: after → e.kind? = some k →
      (plan.Sees e →
        Planned plan (k.project e) ∧
        ∀ (g : Registry) (n : Counts) (ms ms' : Cache × σ × List Use), loaded = (.ok (), ms) →
          g.handle (Cache.backend b.recorded) before ms = (.ok n, ms') →
          ∃ calls : List Call, (∀ c ∈ calls, ¬plan.Spares c) ∧
            ((k.project e).run (Cache.backend b.recorded) ms').2.2.2 = ms'.2.2 ++ calls.map .call) ∧
      (¬plan.Sees e → ∀ p : FetchPlan, p.instanceId = plan.instanceId → p.withEvent e = p) := by
  intro plan loaded
  refine ⟨Cache.prefetch_asks b plan s, fun before e after k hevents hk => ⟨fun hsees => ?_, fun hsees p hp => ?_⟩⟩
  · obtain ⟨p, hinstance, hincludes⟩ := FetchPlan.exists_withEvent before e after
    rw [← hevents] at hinstance hincludes
    have hseen : p.Sees e := ⟨hsees.named, by rw [hinstance]; exact hsees.placed⟩
    have hplanned : Planned plan (k.project e) := (hseen.project_planned hk).mono fun _ => hincludes.holds
    refine ⟨hplanned, fun g n ms ms' hloaded hbefore => ?_⟩
    have hknown : ms.1.Loaded plan := Cache.prefetch_loaded hloaded
    have hgrows := g.handleFrom_grows b.recorded {} before ms.1 ms.2
    rw [show g.handleFrom _ _ before (ms.1, ms.2) = (.ok n, ms') from hbefore] at hgrows
    exact Program.run_spares hplanned (hknown.grow hgrows) ms'.2.1 ms'.2.2
  · refine FetchPlan.withEvent_unseen fun hseen => hsees ⟨hseen.named, ?_⟩
    rw [← hp]
    exact hseen.placed

namespace Sample

/-- A new value and a new candidate for the first order. -/
def changes : List Event := [
  ofVariable "VARIABLE_UPDATED" "approved" "p1",
  event "TASK_CANDIDATE_USER_ADDED" [("taskId", .str "t2"), ("userId", .str "kim")]]

/-- A variable of the first order, which only the envelope names. -/
def unplaced : Event :=
  { event "VARIABLE_CREATED" [("name", .str "note")] with instanceId := some "p1" }

/-- A candidate for a task of the first order, in a list. -/
def unnamed : Event :=
  { event "TASK_CANDIDATE_USER_ADDED" [] with entity := .arr [.str "t1", .str "kim"] }

/-- What a batch asks the backend for when its plan is loaded. -/
def leftover (events : List Event) : List Use :=
  match Cache.prefetch Supply.counting.backend.recorded (FetchPlan.ofEvents events) ({}, store, []) with
  | (.ok (), m, s, _) =>
    (Registry.full.handle (Cache.backend Supply.counting.backend.recorded) events (m, s, [])).2.2.2
  | _ => []

end Sample

/-- The plan has the task that the second event asks for, and once it is loaded and the first event is handled
the second one leaves no question to the backend that the plan spares. -/
theorem plan_foresees_changes :
    let plan := FetchPlan.ofEvents Sample.changes
    let b := Supply.counting.backend.recorded
    let before := Registry.full.handle (Cache.backend b) (Sample.changes.take 1)
      (Cache.prefetch b plan ({}, Sample.store, [])).2
    plan.isEmpty = false ∧ plan.taskIds = ["t2"] ∧ plan.variableNames = ["approved"] ∧
      Planned plan (EventKind.taskCandidateUserAdded.project (Sample.changes.getLast (by decide))) ∧
      ∃ calls : List Call, (∀ c ∈ calls, ¬plan.Spares c) ∧
        ((EventKind.taskCandidateUserAdded.project (Sample.changes.getLast (by decide))).run
          (Cache.backend b) before.2).2.2.2 = before.2.2.2 ++ calls.map .call := by
  intro plan b before
  obtain ⟨-, hevents⟩ := plan_foresees Supply.counting.backend Sample.store Sample.changes
  have hsees : plan.Sees (Sample.changes.getLast (by decide)) :=
    ⟨fun _ _ _ => ⟨_, rfl⟩, fun k hk hfamily => by cases hk; cases hfamily⟩
  obtain ⟨hplanned, hspares⟩ := (hevents (Sample.changes.take 1) _ [] .taskCandidateUserAdded rfl rfl).1 hsees
  exact ⟨by decide +kernel, by decide +kernel, by decide +kernel, hplanned,
    hspares Registry.full { handled := 1 } _ before.2 rfl rfl⟩

/-- Both payloads decode, and both projections ask the backend for a key that the plan of their batch spares:
the name of a variable of the plan's instance, and a task. -/
theorem lookups_unforeseen :
    (∃ p : VariablePayload, Sample.unplaced.payload = .ok p ∧ p.ofTask = false ∧
      p.instanceId.or Sample.unplaced.instanceId = some "p1" ∧ p.name = "note") ∧
    (FetchPlan.ofEvents [Sample.unplaced]).instanceId = some "p1" ∧
    "note" ∉ (FetchPlan.ofEvents [Sample.unplaced]).variableNames ∧
    .call (.findVariable "p1" "note") ∈ Sample.leftover [Sample.unplaced] ∧
    (∃ p : CandidatePayload .taskUser, Sample.unnamed.payload = .ok p ∧ p.owner = "t1") ∧
    "t1" ∉ (FetchPlan.ofEvents [Sample.unnamed]).taskIds ∧
    .call (.findTask "t1") ∈ Sample.leftover [Sample.unnamed] := by
  refine ⟨⟨_, rfl, rfl, rfl, rfl⟩, ?_, ?_, ?_, ⟨_, rfl, rfl⟩, ?_, ?_⟩ <;> decide +kernel

end FlowView
