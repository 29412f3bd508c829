import FlowView.Proofs.Preloading
/-!
# What projections ask for

The keys of tasks, executed elements and variables that a projection asks for are those of its event's payload.
So it asks for none that a plan has not, if the plan has these (`Projection.Planned`).
-/

namespace FlowView

variable {plan : FetchPlan} {e : Event}

/-! ## Programs -/

namespace Program

variable {α β : Type} {allowed allowed' : Call → Prop}

theorem Only.mono {p : Program α} (hp : p.Only allowed) (h : ∀ c, allowed c → allowed' c) : p.Only allowed' := by
  induction p with
  | done | fail => trivial
  | call c next ih => exact ⟨h c hp.1, fun r => ih r (hp.2 r)⟩

/-- What follows the decoding of the payload need be allowed for the event's payload only. -/
theorem Only.payload [Payload α] {f : α → Program β} (h : ∀ p, e.payload = .ok p → (f p).Only allowed) :
    (Projection.payload e >>= f).Only allowed := by
  unfold Projection.payload
  cases hp : (e.payload : Except EventFault α) with
  | error fault => trivial
  | ok p => exact h p hp

theorem Only.requireInstance {id : String} {f : ProcessInstance → Program β} (hid : allowed (.findInstance id))
    (h : ∀ r, (f r).Only allowed) : (Projection.requireInstance id >>= f).Only allowed := by
  refine Only.bind ⟨hid, fun r => ?_⟩ h
  cases r <;> trivial

theorem Only.requireTask {id : String} {f : UserTask → Program β} (hid : allowed (.findTask id))
    (h : ∀ t, (f t).Only allowed) : (Projection.requireTask id >>= f).Only allowed := by
  refine Only.bind ⟨hid, fun t => ?_⟩ h
  cases t <;> trivial

end Program

/-! ## Projections -/

namespace Projection

open Program

/-- The program asks for no keys that the plan has not. -/
abbrev Planned {α : Type} (plan : FetchPlan) (p : Program α) : Prop := p.Only plan.Holds

/-! ### Deployments, instances and sequence flows -/

theorem planned_definitionDeployed (plan : FetchPlan) (e : Event) : Planned plan (definitionDeployed e) :=
  .payload fun p _ => .ask trivial fun old => .ask trivial fun _ => by
    cases p.modelContent with
    | some content => exact .last trivial
    | none => trivial

theorem planned_applicationDeployed (plan : FetchPlan) (e : Event) : Planned plan (applicationDeployed e) :=
  .payload fun _ _ => .ask trivial fun _ => .last trivial

theorem planned_instanceCreated (plan : FetchPlan) (e : Event) : Planned plan (instanceCreated e) :=
  .payload fun p _ => .ask trivial fun r => by
    cases r with
    | some r => trivial
    | none => exact .last trivial

theorem planned_changeInstance (plan : FetchPlan) (passes : InstanceStatus → Bool)
    (change : InstancePayload → Instant → ProcessInstance → ProcessInstance) (e : Event) :
    Planned plan (changeInstance passes change e) :=
  .payload fun p _ => .requireInstance trivial fun r => by
    split
    · trivial
    · exact .last trivial

theorem planned_instanceCompleted (plan : FetchPlan) (e : Event) : Planned plan (instanceCompleted e) :=
  .payload fun p _ => .requireInstance trivial fun r => by
    split
    · trivial
    · refine .ask trivial fun _ => .ask trivial fun ts => .each fun t => ?_
      split
      · trivial
      · exact .last trivial

theorem planned_deleteTask (plan : FetchPlan) (id : String) : Planned plan (deleteTask id) :=
  .ask trivial fun _ => .ask trivial fun _ => Only.bind (.each fun _ => .last trivial) fun _ =>
    .ask trivial fun _ => .last trivial

theorem planned_deleteVariable (plan : FetchPlan) (id : String) : Planned plan (deleteVariable id) :=
  .ask trivial fun _ => .last trivial

theorem planned_instanceDeleted (plan : FetchPlan) (e : Event) : Planned plan (instanceDeleted e) :=
  .payload fun p _ => .requireInstance trivial fun r => by
    dsimp only
    split
    · trivial
    refine .ask trivial fun ts => Only.bind (.each fun t => planned_deleteTask plan t.id) fun _ => ?_
    refine .ask trivial fun vs => Only.bind (.each fun v => planned_deleteVariable plan v.id) fun _ => ?_
    exact .ask trivial fun _ => .ask trivial fun _ => .ask trivial fun _ => .last trivial

theorem planned_flowTaken (plan : FetchPlan) (e : Event) : Planned plan (flowTaken e) :=
  .payload fun p _ => by
    have hrecord (recorded : Bool) : Planned plan (if recorded then (return ()) else do
        let id ← Program.ask .freshId
        Program.ask (.recordFlow (newFlow e p id))) := by
      split
      · trivial
      · exact .ask trivial fun _ => .last trivial
    dsimp only
    split
    · exact .ask trivial hrecord
    · exact hrecord false

/-! ### Tasks and candidates -/

theorem planned_linkNew (plan : FetchPlan) (taskId : String) (shown : List String) (vs : List ProcessVariable) :
    Planned plan (linkNew taskId shown vs) := by
  induction vs generalizing shown with
  | nil => trivial
  | cons v vs ih =>
    unfold linkNew
    split
    · exact ih shown
    · exact .ask trivial fun _ => ih (v.name :: shown)

theorem planned_taskCreated (h : ∀ p : TaskPayload, e.payload = .ok p → p.id ∈ plan.taskIds) :
    Planned plan (taskCreated e) :=
  .payload fun p hp => .ask (h p hp) fun t => by
    cases t with
    | some t => trivial
    | none =>
      refine .ask trivial fun _ => ?_
      unfold showVariables
      split
      · trivial
      · exact .ask trivial fun _ => .ask trivial fun _ => planned_linkNew plan _ _ _

theorem planned_changeTask (h : ∀ p : TaskPayload, e.payload = .ok p → p.id ∈ plan.taskIds)
    (passes : TaskStatus → Bool) (change : TaskPayload → Instant → UserTask → UserTask) :
    Planned plan (changeTask passes change e) :=
  .payload fun p hp => .requireTask (h p hp) fun t => by
    split
    · trivial
    · exact .last trivial

theorem planned_changeCandidate {role : Role}
    (h : role.ofTask = true → ∀ p : CandidatePayload role, e.payload = .ok p → p.owner ∈ plan.taskIds)
    {change : Candidate → Program Unit} (hchange : ∀ c, Planned plan (change c)) :
    Planned plan (changeCandidate role change e) :=
  .payload fun p hp => by
    dsimp only
    split
    · rename_i hrole
      refine .requireTask (h hrole p hp) fun t => ?_
      split
      · trivial
      · exact hchange _
    · exact hchange _

theorem planned_addCandidate (plan : FetchPlan) (c : Candidate) : Planned plan (addCandidate c) :=
  .ask trivial fun r => by
    split
    · trivial
    · exact .last trivial

theorem planned_removeCandidate (plan : FetchPlan) (c : Candidate) : Planned plan (removeCandidate c) :=
  .ask trivial fun r => by
    split
    · exact .last trivial
    · trivial

/-! ### Variables -/

theorem planned_owningInstance {p : VariablePayload} {f : String → Program Unit}
    (h : ∀ id, p.instanceId.or e.instanceId = some id → Planned plan (f id)) :
    Planned plan (owningInstance e p >>= f) := by
  unfold owningInstance
  cases hid : p.instanceId.or e.instanceId with
  | none => trivial
  | some id => exact h id hid

theorem planned_owningTask {p : VariablePayload} {f : String → Program Unit}
    (h : ∀ id, p.taskId = some id → Planned plan (f id)) : Planned plan (owningTask e p >>= f) := by
  unfold owningTask
  cases hid : p.taskId with
  | none => trivial
  | some id => exact h id hid

section Variables

variable {p : VariablePayload}

/-- The plan has the task that a variable of a task belongs to. -/
abbrev OwnerPlanned (plan : FetchPlan) (p : VariablePayload) : Prop := ∀ id, p.taskId = some id → id ∈ plan.taskIds

/-- The plan has the name of a variable, if it belongs to the plan's instance. -/
abbrev NamePlanned (plan : FetchPlan) (e : Event) (p : VariablePayload) : Prop :=
  ∀ id, p.instanceId.or e.instanceId = some id → plan.instanceId = some id → p.name ∈ plan.variableNames

theorem planned_createTaskVariable (h : OwnerPlanned plan p) : Planned plan (createTaskVariable e p) :=
  planned_owningTask fun id hid => .requireTask (h id hid) fun t => .ask trivial fun v => by
    cases v with
    | some v => trivial
    | none => exact .ask trivial fun _ => .last trivial

theorem planned_showTo (plan : FetchPlan) (v : ProcessVariable) (t : UserTask) : Planned plan (showTo v t) :=
  .ask trivial fun shown => by
    dsimp only
    split
    · trivial
    · exact Only.bind (.each fun _ => .last trivial) fun _ => .last trivial

theorem planned_createVariable (h : NamePlanned plan e p) : Planned plan (createVariable e p) :=
  planned_owningInstance fun id hid => .requireInstance trivial fun r => .ask (h id hid) fun v => by
    cases v with
    | some v => trivial
    | none =>
      exact .ask trivial fun _ => .ask trivial fun _ => .ask trivial fun ts => .each fun t => planned_showTo plan _ t

theorem planned_updateTaskVariable (h : OwnerPlanned plan p) : Planned plan (updateTaskVariable e p) :=
  planned_owningTask fun id hid => .requireTask (h id hid) fun t => by
    split
    · trivial
    · refine .ask trivial fun v => ?_
      cases v with
      | none => trivial
      | some v => exact .last trivial

theorem planned_updateVariable (h : NamePlanned plan e p) : Planned plan (updateVariable e p) :=
  planned_owningInstance fun id hid => .requireInstance trivial fun r => by
    split
    · trivial
    · refine .ask (h id hid) fun v => ?_
      cases v with
      | none => trivial
      | some v => exact .last trivial

theorem planned_dropTaskVariable (h : OwnerPlanned plan p) : Planned plan (dropTaskVariable e p) :=
  planned_owningTask fun id hid => .ask (h id hid) fun t => by
    cases t with
    | none => trivial
    | some t =>
      dsimp only
      split
      · trivial
      · refine .ask trivial fun v => ?_
        cases v with
        | none => trivial
        | some v => exact .last trivial

theorem planned_dropVariable (h : NamePlanned plan e p) : Planned plan (dropVariable e p) :=
  planned_owningInstance fun id hid => .ask trivial fun r => by
    cases r with
    | none => trivial
    | some r =>
      dsimp only
      split
      · trivial
      · refine .ask (h id hid) fun v => ?_
        cases v with
        | none => trivial
        | some v => exact planned_deleteVariable plan v.id

end Variables

theorem planned_byOwner {ofTask ofInstance : Event → VariablePayload → Program Unit}
    (h : ∀ p : VariablePayload, e.payload = .ok p →
      (p.ofTask = true → OwnerPlanned plan p) ∧ (p.ofTask = false → NamePlanned plan e p))
    (ht : ∀ p, OwnerPlanned plan p → Planned plan (ofTask e p))
    (hi : ∀ p, NamePlanned plan e p → Planned plan (ofInstance e p)) :
    Planned plan (byOwner ofTask ofInstance e) :=
  .payload fun p hp => by
    split
    · rename_i htask
      exact ht p ((h p hp).1 htask)
    · rename_i htask
      exact hi p ((h p hp).2 (Bool.eq_false_iff.2 htask))

/-! ### Executed elements and calls -/

theorem planned_activityEntered (h : ∀ p : ActivityPayload, e.payload = .ok p → p.key ∈ plan.activityIds)
    (status : ActivityStatus) : Planned plan (activityEntered status e) :=
  .payload fun p hp => .ask (h p hp) fun _ => .last trivial

theorem planned_changeIntegration (h : ∀ p : IntegrationPayload, e.payload = .ok p → p.elementKey ∈ plan.activityIds)
    (element : Instant → Activity → Activity)
    (change : IntegrationPayload → Instant → IntegrationCall → IntegrationCall) :
    Planned plan (changeIntegration element change e) :=
  .payload fun p hp => .ask (h p hp) fun _ => .ask trivial fun _ => .ask trivial fun _ => .last trivial

end Projection

end FlowView
