import FlowView.Proofs.Coherence
import FlowView.Proofs.Steps
/-!
# Every projection saves rows that agree with what is there

Saving a process variable leaves the owner and the name of the old row, saving an executed element its
element and its instance. No projection ever asks for anything else: a new variable has an id that no
other has, and what is saved again was looked up before (`project_faithful`). So every projection runs
over a cache as it runs on the tables.
-/

namespace FlowView.Projection

open Program

variable {s : Store} (u : Supply)

/-! ## Projections that save neither variables nor executed elements -/

/-- Whatever the tables are, no call contradicts them. -/
abbrev Harmless {α : Type} (p : Program α) : Prop := p.Only fun c => ∀ s, c.Faithful s

theorem harmless_payload {α : Type} [Payload α] (e : Event) : Harmless (payload e : Program α) :=
  .ofEvent e.payload

theorem harmless_requireInstance (id : String) : Harmless (requireInstance id) :=
  .ask (fun _ => trivial) fun r => by cases r <;> trivial

theorem harmless_requireTask (id : String) : Harmless (requireTask id) :=
  .ask (fun _ => trivial) fun r => by cases r <;> trivial

theorem harmless_instanceCreated (e : Event) : Harmless (instanceCreated e) :=
  (harmless_payload e).bind fun p => .ask (fun _ => trivial) fun r => by
    cases r with
    | some _ => trivial
    | none => exact .last fun _ => trivial

theorem harmless_changeInstance (passes : InstanceStatus → Bool)
    (change : InstancePayload → Instant → ProcessInstance → ProcessInstance) (e : Event) :
    Harmless (changeInstance passes change e) :=
  (harmless_payload e).bind fun p => (harmless_requireInstance p.id).bind fun r => by
    split
    · trivial
    · exact .last fun _ => trivial

theorem harmless_instanceCompleted (e : Event) : Harmless (instanceCompleted e) :=
  (harmless_payload e).bind fun p => (harmless_requireInstance p.id).bind fun r => by
    split
    · trivial
    · refine .ask (fun _ => trivial) fun _ => .ask (fun _ => trivial) fun ts => .each fun t => ?_
      split
      · trivial
      · exact .last fun _ => trivial

theorem harmless_deleteTask (id : String) : Harmless (deleteTask id) :=
  .ask (fun _ => trivial) fun _ => .ask (fun _ => trivial) fun _ =>
    Only.bind (.each fun _ => .last fun _ => trivial) fun _ =>
      .ask (fun _ => trivial) fun _ => .last fun _ => trivial

theorem harmless_deleteVariable (id : String) : Harmless (deleteVariable id) :=
  .ask (fun _ => trivial) fun _ => .last fun _ => trivial

theorem harmless_instanceDeleted (e : Event) : Harmless (instanceDeleted e) :=
  (harmless_payload e).bind fun p => (harmless_requireInstance p.id).bind fun r => by
    dsimp only
    split
    · trivial
    refine .ask (fun _ => trivial) fun ts => Only.bind (.each fun t => harmless_deleteTask t.id) fun _ => ?_
    refine .ask (fun _ => trivial) fun vs =>
      Only.bind (.each fun v => harmless_deleteVariable v.id) fun _ => ?_
    exact .ask (fun _ => trivial) fun _ => .ask (fun _ => trivial) fun _ =>
      .ask (fun _ => trivial) fun _ => .last fun _ => trivial

theorem harmless_linkNew (taskId : String) (shown : List String) (vs : List ProcessVariable) :
    Harmless (linkNew taskId shown vs) := by
  induction vs generalizing shown with
  | nil => trivial
  | cons v vs ih =>
    unfold linkNew
    split
    · exact ih shown
    · exact .ask (fun _ => trivial) fun _ => ih (v.name :: shown)

theorem harmless_taskCreated (e : Event) : Harmless (taskCreated e) :=
  (harmless_payload e).bind fun p => .ask (fun _ => trivial) fun r => by
    cases r with
    | some _ => trivial
    | none =>
      refine .ask (fun _ => trivial) fun _ => ?_
      unfold showVariables
      split
      · trivial
      · exact .ask (fun _ => trivial) fun _ => .ask (fun _ => trivial) fun _ => harmless_linkNew _ _ _

theorem harmless_changeTask (passes : TaskStatus → Bool)
    (change : TaskPayload → Instant → UserTask → UserTask) (e : Event) :
    Harmless (changeTask passes change e) :=
  (harmless_payload e).bind fun p => (harmless_requireTask p.id).bind fun r => by
    split
    · trivial
    · exact .last fun _ => trivial

theorem harmless_changeCandidate (role : Role) {change : Candidate → Program Unit}
    (hchange : ∀ c, Harmless (change c)) (e : Event) : Harmless (changeCandidate role change e) :=
  (harmless_payload e).bind fun p => by
    dsimp only
    split
    · refine (harmless_requireTask p.owner).bind fun t => ?_
      split
      · trivial
      · exact hchange _
    · exact hchange _

theorem harmless_addCandidate (c : Candidate) : Harmless (addCandidate c) :=
  .ask (fun _ => trivial) fun r => by
    split
    · trivial
    · exact .last fun _ => trivial

theorem harmless_removeCandidate (c : Candidate) : Harmless (removeCandidate c) :=
  .ask (fun _ => trivial) fun r => by
    split
    · exact .last fun _ => trivial
    · trivial

theorem harmless_definitionDeployed (e : Event) : Harmless (definitionDeployed e) :=
  (harmless_payload e).bind fun _ => .ask (fun _ => trivial) fun _ => .ask (fun _ => trivial) fun _ => by
    split
    · exact .last fun _ => trivial
    · trivial

theorem harmless_applicationDeployed (e : Event) : Harmless (applicationDeployed e) :=
  (harmless_payload e).bind fun _ => .ask (fun _ => trivial) fun _ => .last fun _ => trivial

theorem harmless_flowTaken (e : Event) : Harmless (flowTaken e) :=
  (harmless_payload e).bind fun p => by
    have hrecord (recorded : Bool) : Harmless (if recorded then (return ()) else do
        let id ← Program.ask .freshId
        Program.ask (.recordFlow (newFlow e p id))) := by
      split
      · trivial
      · exact .ask (fun _ => trivial) fun _ => .last fun _ => trivial
    dsimp only
    split
    · exact .ask (fun _ => trivial) hrecord
    · exact hrecord false

theorem harmless_owningInstance (e : Event) (p : VariablePayload) : Harmless (owningInstance e p) := by
  unfold owningInstance
  split <;> trivial

theorem harmless_owningTask (e : Event) (p : VariablePayload) : Harmless (owningTask e p) := by
  unfold owningTask
  split <;> trivial

theorem harmless_createTaskVariable (e : Event) (p : VariablePayload) :
    Harmless (createTaskVariable e p) :=
  (harmless_owningTask e p).bind fun taskId => (harmless_requireTask taskId).bind fun t =>
    .ask (fun _ => trivial) fun r => by
      cases r with
      | some _ => trivial
      | none => exact .ask (fun _ => trivial) fun _ => .last fun _ => trivial

theorem harmless_showTo (v : ProcessVariable) (t : UserTask) : Harmless (showTo v t) :=
  .ask (fun _ => trivial) fun shown => by
    dsimp only
    split
    · trivial
    · exact Only.bind (.each fun _ => .last fun _ => trivial) fun _ => .last fun _ => trivial

theorem harmless_updateTaskVariable (e : Event) (p : VariablePayload) :
    Harmless (updateTaskVariable e p) :=
  (harmless_owningTask e p).bind fun taskId => (harmless_requireTask taskId).bind fun t => by
    split
    · trivial
    · refine .ask (fun _ => trivial) fun r => ?_
      cases r with
      | none => trivial
      | some v => exact .last fun _ => trivial

theorem harmless_dropTaskVariable (e : Event) (p : VariablePayload) :
    Harmless (dropTaskVariable e p) :=
  (harmless_owningTask e p).bind fun taskId => .ask (fun _ => trivial) fun t => by
    cases t with
    | none => trivial
    | some t =>
      dsimp only
      split
      · trivial
      · refine .ask (fun _ => trivial) fun r => ?_
        cases r with
        | none => trivial
        | some v => exact .last fun _ => trivial

theorem harmless_dropVariable (e : Event) (p : VariablePayload) : Harmless (dropVariable e p) :=
  (harmless_owningInstance e p).bind fun instanceId => .ask (fun _ => trivial) fun r => by
    cases r with
    | none => trivial
    | some r =>
      dsimp only
      split
      · trivial
      · refine .ask (fun _ => trivial) fun v => ?_
        cases v with
        | none => trivial
        | some v => exact harmless_deleteVariable v.id

/-! ## Variables and executed elements -/

theorem faithful_createVariable (s : Store) (e : Event) (p : VariablePayload) :
    (createVariable e p).Faithful u.backend s := by
  refine faithful_bind ((harmless_owningInstance e p).faithful _ _) fun i s₁ _ => ?_
  refine faithful_bind ((harmless_requireInstance i).faithful _ _) fun r s₂ _ => ?_
  refine faithful_bind ⟨trivial, fun _ _ _ => trivial⟩ fun old s₃ _ => ?_
  cases old with
  | some _ => trivial
  | none =>
    refine ⟨trivial, fun id s₄ hid => ?_⟩
    -- The new id is not used, so nothing is saved over.
    cases hid
    refine ⟨fun w hw hsame => ?_, fun _ _ _ => ?_⟩
    · have hhas : Table.has ProcessVariable.id (u.draw s₃).1 s₃.processVariables = true :=
        Table.has_iff.2 ⟨w, hw, hsame⟩
      exact Bool.noConfusion (hhas.symm.trans (u.draw_variable s₃))
    · have hshow : Harmless (do
          let tasks ← Program.ask (.listTasks i)
          Program.each tasks (showTo (newVariable e p (u.draw s₃).1 i))) :=
        .ask (fun _ => trivial) fun _ => .each fun t => harmless_showTo _ t
      exact hshow.faithful _ _

theorem faithful_updateVariable (hs : s.Sound) (e : Event) (p : VariablePayload) :
    (updateVariable e p).Faithful u.backend s := by
  refine faithful_bind ((harmless_owningInstance e p).faithful _ _) fun i s₁ h₁ => ?_
  refine faithful_bind ((harmless_requireInstance i).faithful _ _) fun r s₂ h₂ => ?_
  have hs₂ := Store.run_sound_of u (Store.run_sound_of u hs h₁) h₂
  split
  · trivial
  refine ⟨trivial, fun old s₃ hold => ?_⟩
  cases hold
  cases hv : s₂.findVariable i p.name with
  | none => trivial
  | some v =>
    refine ⟨fun w hw hsame => ?_, fun _ _ _ => trivial⟩
    have : w = v := List.inj_on_of_nodup_map hs₂.variableIds hw (Store.findVariable_mem hv).1 hsame
    rw [this]
    rfl

theorem reviseActivity_self {old new : Activity} (he : new.elementId = old.elementId)
    (hi : new.instanceId = old.instanceId) : Store.reviseActivity old new = new := by
  rw [Store.reviseActivity, ← he, ← hi]

/-- An element that was looked up can be saved after any change that keeps its element and instance. -/
theorem faithful_saveActivity (hs : s.Sound) (e : Event) (seed : ActivitySeed) {f : Activity → Activity}
    (hf : ∀ a, (f a).id = a.id ∧ (f a).elementId = a.elementId ∧ (f a).instanceId = a.instanceId) :
    Call.Faithful s (.saveActivity (f (refresh e seed (s.activity? seed.id)))) := by
  intro old hold hsame
  rw [(hf _).1, refresh_id] at hsame
  have hfound : s.activity? seed.id = some old :=
    (Table.lookup_eq_some hs.activityIds).2 ⟨hold, hsame⟩
  rw [hfound]
  exact reviseActivity_self (hf _).2.1 (hf _).2.2

theorem enter_keeps (status : ActivityStatus) (time : Instant) (a : Activity) :
    (enter status time a).id = a.id ∧ (enter status time a).elementId = a.elementId
      ∧ (enter status time a).instanceId = a.instanceId := by
  cases status <;> exact ⟨rfl, rfl, rfl⟩

theorem faithful_activityEntered (hs : s.Sound) (status : ActivityStatus) (e : Event) :
    (activityEntered status e).Faithful u.backend s := by
  refine faithful_bind ((harmless_payload e).faithful _ _) fun p s₁ h₁ => ?_
  have hs₁ := Store.run_sound_of u hs h₁
  refine ⟨trivial, fun old s₂ hold => ?_⟩
  cases (Store.answer_findActivity u hs₁ _).symm.trans hold
  exact ⟨faithful_saveActivity hs₁ e (activitySeed p) (enter_keeps status e.time), fun _ _ _ => trivial⟩

theorem faithful_changeIntegration (hs : s.Sound) {element : Instant → Activity → Activity}
    (hkeeps : ∀ time a, (element time a).id = a.id ∧ (element time a).elementId = a.elementId
      ∧ (element time a).instanceId = a.instanceId)
    (change : IntegrationPayload → Instant → IntegrationCall → IntegrationCall) (e : Event) :
    (changeIntegration element change e).Faithful u.backend s := by
  refine faithful_bind ((harmless_payload e).faithful _ _) fun p s₁ h₁ => ?_
  have hs₁ := Store.run_sound_of u hs h₁
  refine ⟨trivial, fun old s₂ hold => ?_⟩
  cases (Store.answer_findActivity u hs₁ _).symm.trans hold
  refine ⟨faithful_saveActivity hs₁ e (integrationSeed p) (hkeeps e.time), fun _ _ _ => ?_⟩
  exact ⟨trivial, fun _ _ _ => ⟨trivial, fun _ _ _ => trivial⟩⟩

/-! ## All projections -/

theorem faithful_byOwner {ofTask ofInstance : Event → VariablePayload → Program Unit} (hs : s.Sound)
    (e : Event) (ht : ∀ p, Harmless (ofTask e p))
    (hi : ∀ p s, s.Sound → (ofInstance e p).Faithful u.backend s) :
    (byOwner ofTask ofInstance e).Faithful u.backend s := by
  refine faithful_bind ((harmless_payload e).faithful _ _) fun p s₁ h₁ => ?_
  split
  · exact (ht p).faithful _ _
  · exact hi p s₁ (Store.run_sound_of u hs h₁)

/-- From sound tables on, whatever an event's projection saves agrees with what it is saved over. -/
theorem project_faithful (hs : s.Sound) (k : EventKind) (e : Event) :
    (k.project e).Faithful u.backend s := by
  cases k with
  | processDeployed => exact (harmless_definitionDeployed e).faithful _ _
  | applicationDeployed => exact (harmless_applicationDeployed e).faithful _ _
  | processCreated => exact (harmless_instanceCreated e).faithful _ _
  | processStarted | processSuspended | processResumed =>
    exact (harmless_changeInstance InstanceStatus.isFinal _ e).faithful _ _
  | processUpdated => exact (harmless_changeInstance (fun _ => false) update e).faithful _ _
  | processCancelled => exact (harmless_changeInstance (· = .cancelled) cancel e).faithful _ _
  | processCompleted => exact (harmless_instanceCompleted e).faithful _ _
  | processDeleted => exact (harmless_instanceDeleted e).faithful _ _
  | taskCreated => exact (harmless_taskCreated e).faithful _ _
  | taskAssigned | taskActivated | taskSuspended | taskCancelled =>
    exact (harmless_changeTask TaskStatus.isFinal _ e).faithful _ _
  | taskUpdated => exact (harmless_changeTask (fun _ => false) updateTask e).faithful _ _
  | taskCompleted => exact (harmless_changeTask (fun _ => false) completeTask e).faithful _ _
  | taskCandidateUserAdded | taskCandidateGroupAdded | processCandidateStarterUserAdded
  | processCandidateStarterGroupAdded =>
    exact (harmless_changeCandidate _ harmless_addCandidate e).faithful _ _
  | taskCandidateUserRemoved | taskCandidateGroupRemoved | processCandidateStarterUserRemoved
  | processCandidateStarterGroupRemoved =>
    exact (harmless_changeCandidate _ harmless_removeCandidate e).faithful _ _
  | variableCreated =>
    exact faithful_byOwner u hs e (harmless_createTaskVariable e) fun p s _ =>
      faithful_createVariable u s e p
  | variableUpdated =>
    exact faithful_byOwner u hs e (harmless_updateTaskVariable e) fun p _ hs =>
      faithful_updateVariable u hs e p
  | variableDeleted =>
    exact faithful_byOwner u hs e (harmless_dropTaskVariable e) fun p _ _ =>
      (harmless_dropVariable e p).faithful _ _
  | activityStarted | activityCompleted | activityCancelled =>
    exact faithful_activityEntered u hs _ e
  | sequenceFlowTaken => exact (harmless_flowTaken e).faithful _ _
  | integrationRequested => exact faithful_changeIntegration u hs (fun _ _ => ⟨rfl, rfl, rfl⟩) _ e
  | integrationResultReceived | integrationErrorReceived =>
    exact faithful_changeIntegration u hs (enter_keeps _) _ e

end FlowView.Projection
