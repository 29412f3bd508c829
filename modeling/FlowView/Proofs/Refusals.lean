import FlowView.Proofs.Transaction
/-!
# Which events are refused

An event is refused for what it says (`Malformed`), for what it asks for and is not there (`Missing`),
or for deleting an instance that has not ended (`Illegal`). The three exclude one another, and nothing
else fails: in particular no constraint of the tables is ever in the way (`fails_iff`).
-/

namespace FlowView

variable {u : Supply} {s s' : Store} {e : Event} {k : EventKind} {f : Failure}

/-! ## Why an event is refused -/

/-- The entity is not what the event's type wants, or it is a variable of nobody. -/
def Malformed (e : Event) (k : EventKind) : Prop :=
  (k.fault? e).isSome = true ∨
  (k.family = .variable ∧ ∃ p : VariablePayload, e.payload = .ok p ∧ p.ofTask = false ∧
    p.instanceId = none ∧ e.instanceId = none)

/-- The instance that the payload names is not there. -/
def InstanceMissing (s : Store) (e : Event) : Prop :=
  ∃ p : InstancePayload, e.payload = .ok p ∧ s.instance? p.id = none

/-- The task that the payload names is not there. -/
def TaskMissing (s : Store) (e : Event) : Prop :=
  ∃ p : TaskPayload, e.payload = .ok p ∧ s.task? p.id = none

/-- The task that a candidate is for is not there. -/
def CandidateTaskMissing (role : Role) (s : Store) (e : Event) : Prop :=
  ∃ p : CandidatePayload role, e.payload = .ok p ∧ s.task? p.owner = none

/-- The owner of a variable is not there. -/
def OwnerMissing (s : Store) (e : Event) : Prop :=
  (∃ p instanceId, AboutInstance e p instanceId ∧ s.instance? instanceId = none) ∨
  (∃ p taskId, AboutTask e p taskId ∧ s.task? taskId = none)

/-- The owner has not ended, and has no variable of the name. -/
def VariableMissing (s : Store) (e : Event) : Prop :=
  (∃ p instanceId r, AboutInstance e p instanceId ∧ s.instance? instanceId = some r ∧
    r.status.isFinal = false ∧ s.findVariable instanceId p.name = none) ∨
  (∃ p taskId t, AboutTask e p taskId ∧ s.task? taskId = some t ∧ t.status.isFinal = false ∧
    s.findTaskVariable taskId p.name = none)

/-- What an event of a kind asks for is not there. -/
def Missing (s : Store) (e : Event) : EventKind → Prop
  | .processStarted | .processUpdated | .processSuspended | .processResumed | .processCompleted
  | .processCancelled | .processDeleted => InstanceMissing s e
  | .taskAssigned | .taskActivated | .taskSuspended | .taskUpdated | .taskCompleted
  | .taskCancelled => TaskMissing s e
  | .taskCandidateUserAdded | .taskCandidateUserRemoved => CandidateTaskMissing .taskUser s e
  | .taskCandidateGroupAdded | .taskCandidateGroupRemoved => CandidateTaskMissing .taskGroup s e
  | .variableCreated => OwnerMissing s e
  | .variableUpdated => OwnerMissing s e ∨ VariableMissing s e
  | _ => False

/-- The instance to be deleted has not ended. -/
def Illegal (s : Store) (e : Event) : EventKind → Prop
  | .processDeleted => ∃ (p : InstancePayload) (r : ProcessInstance), e.payload = .ok p ∧
      s.instance? p.id = some r ∧ r.status.isFinal = false
  | _ => False

/-! ## A payload is read in one way -/

theorem fault?_of_ok {α : Type} [Payload α] {p : α} (hp : e.payload = .ok p) : e.fault? α = none := by
  simp [Event.fault?, hp]

theorem payload_unique {α : Type} [Payload α] {p p' : α} (hp : e.payload = .ok p)
    (hp' : e.payload = .ok p') : p = p' := Except.ok.inj (hp.symm.trans hp')

theorem AboutTask.unique {p p' : VariablePayload} {i i' : String} (h : AboutTask e p i)
    (h' : AboutTask e p' i') : p = p' ∧ i = i' := by
  obtain rfl := payload_unique h.payload h'.payload
  exact ⟨rfl, Option.some.inj (h.owner.symm.trans h'.owner)⟩

theorem AboutInstance.unique {p p' : VariablePayload} {i i' : String} (h : AboutInstance e p i)
    (h' : AboutInstance e p' i') : p = p' ∧ i = i' := by
  obtain rfl := payload_unique h.payload h'.payload
  exact ⟨rfl, Option.some.inj (h.owner.symm.trans h'.owner)⟩

theorem AboutTask.not_aboutInstance {p p' : VariablePayload} {i i' : String} (h : AboutTask e p i)
    (h' : AboutInstance e p' i') : False := by
  obtain rfl := payload_unique h.payload h'.payload
  exact Bool.noConfusion (h.ofTask.symm.trans h'.ofInstance)

/-! ## The kinds of a family -/

theorem InstanceChange.of_family {passes change} (hk : InstanceChange k passes change) (s : Store) (e : Event) :
    k.family = .process ∧ k.fault? e = e.fault? InstancePayload ∧
      Missing s e k = InstanceMissing s e ∧ Illegal s e k = False := by
  cases hk <;> exact ⟨rfl, rfl, rfl, rfl⟩

theorem NeedsInstance.of_family (hk : NeedsInstance k) (s : Store) (e : Event) :
    k.family = .process ∧ k.fault? e = e.fault? InstancePayload ∧ Missing s e k = InstanceMissing s e := by
  cases hk with
  | change hk =>
    obtain ⟨hfamily, hfault, hmissing, -⟩ := hk.of_family s e
    exact ⟨hfamily, hfault, hmissing⟩
  | completed | deleted => exact ⟨rfl, rfl, rfl⟩

theorem TaskChange.of_family {passes change} (hk : TaskChange k passes change) (s : Store) (e : Event) :
    k.family = .task ∧ k.fault? e = e.fault? TaskPayload ∧ Missing s e k = TaskMissing s e ∧
      Illegal s e k = False := by
  cases hk <;> exact ⟨rfl, rfl, rfl, rfl⟩

theorem CandidateChange.of_family {role change} (hk : CandidateChange k role change) (s : Store) (e : Event) :
    k.family = .candidate ∧ k.fault? e = e.fault? (CandidatePayload role) ∧
      (Missing s e k ↔ role.ofTask = true ∧ CandidateTaskMissing role s e) ∧ Illegal s e k = False := by
  cases hk <;> exact ⟨rfl, rfl, by simp [Missing, Role.ofTask], rfl⟩

theorem ActivityChange.of_family {status} (hk : ActivityChange k status) (s : Store) (e : Event) :
    k.family = .activity ∧ k.fault? e = e.fault? ActivityPayload ∧ Missing s e k = False ∧
      Illegal s e k = False := by
  cases hk <;> exact ⟨rfl, rfl, rfl, rfl⟩

theorem CallChange.of_family {element change} (hk : CallChange k element change) (s : Store) (e : Event) :
    k.family = .integration ∧ k.fault? e = e.fault? IntegrationPayload ∧ Missing s e k = False ∧
      Illegal s e k = False := by
  cases hk <;> exact ⟨rfl, rfl, rfl, rfl⟩

/-! ## What is handled is not refused -/

theorem not_malformed {α : Type} [Payload α] {p : α} (hp : e.payload = .ok p)
    (hk : k.fault? e = e.fault? α) (hfamily : k.family ≠ .variable) : ¬Malformed e k := by
  rintro (hfault | ⟨hvariable, -⟩)
  · rw [hk, fault?_of_ok hp] at hfault
    cases hfault
  · exact hfamily hvariable

theorem AboutTask.not_malformed {p : VariablePayload} {taskId : String} (h : AboutTask e p taskId)
    (hk : k.fault? e = e.fault? VariablePayload) : ¬Malformed e k := by
  rintro (hfault | ⟨-, p', hp', hi, -⟩)
  · rw [hk, fault?_of_ok h.payload] at hfault
    cases hfault
  · obtain rfl := payload_unique h.payload hp'
    exact Bool.noConfusion (h.ofTask.symm.trans hi)

theorem AboutInstance.not_malformed {p : VariablePayload} {instanceId : String}
    (h : AboutInstance e p instanceId) (hk : k.fault? e = e.fault? VariablePayload) : ¬Malformed e k := by
  rintro (hfault | ⟨-, p', hp', -, hnone, hnone'⟩)
  · rw [hk, fault?_of_ok h.payload] at hfault
    cases hfault
  · obtain rfl := payload_unique h.payload hp'
    have howner := h.owner
    simp [hnone, hnone'] at howner

theorem Effect.not_malformed (h : Effect u e s k s') : ¬Malformed e k := by
  cases h with
  | definitionDeployed hp | applicationDeployed hp | instanceKnown hp | instanceMade hp
  | completionPassed hp | instanceCompleted hp | instanceDeleted hp | taskKnown hp | taskMade hp
  | flowKnown hp | flowRecorded hp =>
    exact FlowView.not_malformed hp rfl (by decide)
  | instancePassed hk hp | instanceChanged hk hp =>
    obtain ⟨hf, hfault, -⟩ := hk.of_family s e
    exact FlowView.not_malformed hp hfault (by simp [hf])
  | taskPassed hk hp | taskChanged hk hp =>
    obtain ⟨hf, hfault, -⟩ := hk.of_family s e
    exact FlowView.not_malformed hp hfault (by simp [hf])
  | candidatePassed hk hp | taskCandidateChanged hk hp | starterChanged hk hp =>
    obtain ⟨hf, hfault, -⟩ := hk.of_family s e
    exact FlowView.not_malformed hp hfault (by simp [hf])
  | activityEntered hk hp =>
    obtain ⟨hf, hfault, -⟩ := hk.of_family s e
    exact FlowView.not_malformed hp hfault (by simp [hf])
  | callChanged hk hp =>
    obtain ⟨hf, hfault, -⟩ := hk.of_family s e
    exact FlowView.not_malformed hp hfault (by simp [hf])
  | taskVariableKnown hp | taskVariableMade hp | taskVariableKept hp | taskVariableRevalued hp
  | taskVariableSpared hp | taskVariableDropped hp => exact hp.not_malformed rfl
  | variableKnown hp | variableMade hp | variableKept hp | variableRevalued hp | variableSpared hp
  | variableDropped hp => exact hp.not_malformed rfl

theorem not_instanceMissing {p : InstancePayload} {r : ProcessInstance} (hp : e.payload = .ok p)
    (hr : s.instance? p.id = some r) : ¬InstanceMissing s e := by
  rintro ⟨p', hp', hnone⟩
  obtain rfl := payload_unique hp hp'
  cases hr.symm.trans hnone

theorem not_taskMissing {p : TaskPayload} {t : UserTask} (hp : e.payload = .ok p)
    (ht : s.task? p.id = some t) : ¬TaskMissing s e := by
  rintro ⟨p', hp', hnone⟩
  obtain rfl := payload_unique hp hp'
  cases ht.symm.trans hnone

theorem not_candidateTaskMissing {role : Role} {p : CandidatePayload role} {t : UserTask}
    (hp : e.payload = .ok p) (ht : s.task? p.owner = some t) : ¬CandidateTaskMissing role s e := by
  rintro ⟨p', hp', hnone⟩
  obtain rfl := payload_unique hp hp'
  cases ht.symm.trans hnone

theorem AboutTask.not_ownerMissing {p : VariablePayload} {taskId : String} {t : UserTask}
    (h : AboutTask e p taskId) (ht : s.task? taskId = some t) : ¬OwnerMissing s e := by
  rintro (⟨p', i', h', -⟩ | ⟨p', i', h', hnone⟩)
  · exact h.not_aboutInstance h'
  · obtain ⟨rfl, rfl⟩ := h.unique h'
    cases ht.symm.trans hnone

theorem AboutInstance.not_ownerMissing {p : VariablePayload} {instanceId : String} {r : ProcessInstance}
    (h : AboutInstance e p instanceId) (hr : s.instance? instanceId = some r) : ¬OwnerMissing s e := by
  rintro (⟨p', i', h', hnone⟩ | ⟨p', i', h', -⟩)
  · obtain ⟨rfl, rfl⟩ := h.unique h'
    cases hr.symm.trans hnone
  · exact h'.not_aboutInstance h

/-- A task that has ended may lack the variable, an open one has it. -/
theorem AboutTask.not_variableMissing {p : VariablePayload} {taskId : String} {t : UserTask}
    (h : AboutTask e p taskId) (ht : s.task? taskId = some t)
    (hv : t.status.isFinal = true ∨ s.findTaskVariable taskId p.name ≠ none) : ¬VariableMissing s e := by
  rintro (⟨p', i', -, h', -⟩ | ⟨p', i', t', h', ht', hopen, hnone⟩)
  · exact h.not_aboutInstance h'
  · obtain ⟨rfl, rfl⟩ := h.unique h'
    cases ht.symm.trans ht'
    rcases hv with hf | hv
    · exact Bool.noConfusion (hf.symm.trans hopen)
    · exact hv hnone

theorem AboutInstance.not_variableMissing {p : VariablePayload} {instanceId : String}
    {r : ProcessInstance} (h : AboutInstance e p instanceId) (hr : s.instance? instanceId = some r)
    (hv : r.status.isFinal = true ∨ s.findVariable instanceId p.name ≠ none) : ¬VariableMissing s e := by
  rintro (⟨p', i', r', h', hr', hopen, hnone⟩ | ⟨p', i', -, h', -⟩)
  · obtain ⟨rfl, rfl⟩ := h.unique h'
    cases hr.symm.trans hr'
    rcases hv with hf | hv
    · exact Bool.noConfusion (hf.symm.trans hopen)
    · exact hv hnone
  · exact h'.not_aboutInstance h

theorem Effect.not_missing (h : Effect u e s k s') : ¬Missing s e k := by
  cases h with
  | completionPassed hp hr | instanceCompleted hp hr | instanceDeleted hp hr =>
    exact not_instanceMissing hp hr
  | instancePassed hk hp hr | instanceChanged hk hp hr =>
    rw [(hk.of_family s e).2.2.1]
    exact not_instanceMissing hp hr
  | taskPassed hk hp ht | taskChanged hk hp ht =>
    rw [(hk.of_family s e).2.2.1]
    exact not_taskMissing hp ht
  | candidatePassed hk hp _ ht | taskCandidateChanged hk hp _ ht =>
    rw [(hk.of_family s e).2.2.1]
    exact fun h => not_candidateTaskMissing hp ht h.2
  | starterChanged hk hp hrole =>
    rw [(hk.of_family s e).2.2.1, hrole]
    exact fun h => Bool.noConfusion h.1
  | activityEntered hk hp =>
    rw [(hk.of_family s e).2.2.1]
    exact id
  | callChanged hk hp =>
    rw [(hk.of_family s e).2.2.1]
    exact id
  | taskVariableKnown hp ht | taskVariableMade hp ht => exact hp.not_ownerMissing ht
  | variableKnown hp hr | variableMade hp hr => exact hp.not_ownerMissing hr
  | taskVariableKept hp ht hf =>
    exact fun h => h.elim (hp.not_ownerMissing ht) (hp.not_variableMissing ht (.inl hf))
  | taskVariableRevalued hp ht _ hv =>
    exact fun h => h.elim (hp.not_ownerMissing ht) (hp.not_variableMissing ht (.inr (by simp [hv])))
  | variableKept hp hr hf =>
    exact fun h => h.elim (hp.not_ownerMissing hr) (hp.not_variableMissing hr (.inl hf))
  | variableRevalued hp hr _ hv =>
    exact fun h => h.elim (hp.not_ownerMissing hr) (hp.not_variableMissing hr (.inr (by simp [hv])))
  | _ => exact id

theorem Effect.not_illegal (h : Effect u e s k s') : ¬Illegal s e k := by
  cases h with
  | instanceDeleted hp hr hf =>
    rintro ⟨p', r', hp', hr', hopen⟩
    obtain rfl := payload_unique hp hp'
    cases hr.symm.trans hr'
    exact Bool.noConfusion (hf.symm.trans hopen)
  | instancePassed hk | instanceChanged hk => exact (hk.of_family s e).2.2.2 ▸ id
  | taskPassed hk | taskChanged hk => exact (hk.of_family s e).2.2.2 ▸ id
  | candidatePassed hk | taskCandidateChanged hk | starterChanged hk => exact (hk.of_family s e).2.2.2 ▸ id
  | activityEntered hk => exact (hk.of_family s e).2.2.2 ▸ id
  | callChanged hk => exact (hk.of_family s e).2.2.2 ▸ id
  | _ => exact id

/-! ## What is refused has one reason -/

theorem Missing.not_malformed (h : Missing s e k) : ¬Malformed e k := by
  cases k with
  | processStarted | processUpdated | processSuspended | processResumed | processCompleted
  | processCancelled | processDeleted =>
    obtain ⟨p, hp, -⟩ := h
    exact FlowView.not_malformed hp rfl (by decide)
  | taskAssigned | taskActivated | taskSuspended | taskUpdated | taskCompleted | taskCancelled =>
    obtain ⟨p, hp, -⟩ := h
    exact FlowView.not_malformed hp rfl (by decide)
  | taskCandidateUserAdded | taskCandidateUserRemoved | taskCandidateGroupAdded
  | taskCandidateGroupRemoved =>
    obtain ⟨p, hp, -⟩ := h
    exact FlowView.not_malformed hp rfl (by decide)
  | variableCreated =>
    rcases h with ⟨p, i, hp, -⟩ | ⟨p, i, hp, -⟩ <;> exact hp.not_malformed rfl
  | variableUpdated =>
    rcases h with (⟨p, i, hp, -⟩ | ⟨p, i, hp, -⟩) | ⟨p, i, r, hp, -⟩ | ⟨p, i, t, hp, -⟩ <;>
      exact hp.not_malformed rfl
  | _ => exact h.elim

theorem Illegal.not_malformed (h : Illegal s e k) : ¬Malformed e k := by
  cases k with
  | processDeleted =>
    obtain ⟨p, r, hp, -⟩ := h
    exact FlowView.not_malformed hp rfl (by decide)
  | _ => exact h.elim

theorem Illegal.not_missing (h : Illegal s e k) : ¬Missing s e k := by
  cases k with
  | processDeleted =>
    obtain ⟨p, r, hp, hr, -⟩ := h
    exact not_instanceMissing hp hr
  | _ => exact h.elim

/-- A refusal has the code of its reason. -/
theorem Refusal.reason (h : Refusal e s k f) :
    (f.code = "MALFORMED_EVENT" ∧ Malformed e k) ∨ (f.code = "NOT_FOUND" ∧ Missing s e k) ∨
      (f.code = "ILLEGAL_STATE" ∧ Illegal s e k) := by
  cases h with
  | undecoded h => exact .inl ⟨rfl, .inl (by simp [h])⟩
  | ownerless hk hp hi howner =>
    obtain ⟨hnone, hnone'⟩ := Option.or_eq_none_iff.1 howner
    exact .inl ⟨rfl, .inr ⟨hk, _, hp, hi, hnone, hnone'⟩⟩
  | noInstance hk hp hr => exact .inr (.inl ⟨rfl, (hk.of_family s e).2.2 ▸ ⟨_, hp, hr⟩⟩)
  | notEnded hp hr hopen => exact .inr (.inr ⟨rfl, _, _, hp, hr, hopen⟩)
  | noTask hk hp ht => exact .inr (.inl ⟨rfl, (hk.of_family s e).2.2.1 ▸ ⟨_, hp, ht⟩⟩)
  | noCandidateTask hk hp hrole ht =>
    exact .inr (.inl ⟨rfl, (hk.of_family s e).2.2.1.2 ⟨hrole, _, hp, ht⟩⟩)
  | noVariableInstance hk hp hr =>
    have hmissing : OwnerMissing s e := .inl ⟨_, _, hp, hr⟩
    rcases hk with rfl | rfl
    · exact .inr (.inl ⟨rfl, hmissing⟩)
    · exact .inr (.inl ⟨rfl, .inl hmissing⟩)
  | noVariableTask hk hp ht =>
    have hmissing : OwnerMissing s e := .inr ⟨_, _, hp, ht⟩
    rcases hk with rfl | rfl
    · exact .inr (.inl ⟨rfl, hmissing⟩)
    · exact .inr (.inl ⟨rfl, .inl hmissing⟩)
  | noVariable hp hr hopen hv => exact .inr (.inl ⟨rfl, .inr (.inl ⟨_, _, _, hp, hr, hopen, hv⟩)⟩)
  | noTaskVariable hp ht hopen hv => exact .inr (.inl ⟨rfl, .inr (.inr ⟨_, _, _, hp, ht, hopen, hv⟩)⟩)

theorem Refusal.applies (h : Refusal e s k f) : Malformed e k ∨ Missing s e k ∨ Illegal s e k := by
  rcases h.reason with ⟨-, h⟩ | ⟨-, h⟩ | ⟨-, h⟩
  · exact .inl h
  · exact .inr (.inl h)
  · exact .inr (.inr h)

/-- The reasons exclude one another, so that the code tells them apart. -/
theorem Refusal.code_iff (h : Refusal e s k f) :
    (f.code = "MALFORMED_EVENT" ↔ Malformed e k) ∧ (f.code = "NOT_FOUND" ↔ Missing s e k) ∧
      (f.code = "ILLEGAL_STATE" ↔ Illegal s e k) ∧ f.code ≠ "DATABASE_ERROR" ∧ f.code ≠ "JSON_ERROR" := by
  rcases h.reason with ⟨hcode, h⟩ | ⟨hcode, h⟩ | ⟨hcode, h⟩
  · have hmissing : ¬Missing s e k := fun h' => h'.not_malformed h
    have hillegal : ¬Illegal s e k := fun h' => h'.not_malformed h
    simp [hcode, h, hmissing, hillegal]
  · have hillegal : ¬Illegal s e k := fun h' => h'.not_missing h
    simp [hcode, h, h.not_malformed, hillegal]
  · simp [hcode, h, h.not_malformed, h.not_missing]

/-! ## In a batch -/

/-- A batch that was handled came to what its fold comes to, with tables and a cache that are in order. -/
theorem Registry.handle_ok {g : Registry} {events : List Event} {m : Cache} {n : Counts}
    {ms : Cache × Store} (hs : s.Inv) (hm : m.Agrees s)
    (h : g.handle (Cache.backend u.backend) events (m, s) = (.ok n, ms)) :
    g.fold u.backend events s = .ok ms.2 ∧ ms.2.Inv ∧ ms.1.Agrees ms.2 := by
  cases hfold : g.fold u.backend events s with
  | ok s' =>
    obtain ⟨m', hrun, hm'⟩ := handleFrom_ok events hs.toSound hm {} hfold
    cases hrun.symm.trans h
    exact ⟨rfl, fold_inv events hs hfold, hm'⟩
  | error ef =>
    obtain ⟨ms', hrun⟩ := handleFrom_error events hs.toSound hm {} hfold
    cases hrun.symm.trans h

theorem EventKind.mem_full (k : EventKind) : k ∈ Registry.full.kinds := by cases k <;> decide

theorem Registry.handles_full (hk : e.kind? = some k) : full.handles e = true := by
  simp [handles, program?, hk, k.mem_full]

/-- An event alone ends as its effect or its refusal says, over a cache as on the tables. -/
theorem Registry.handle_one {m : Cache} (hs : s.Inv) (hm : m.Agrees s) (hk : e.kind? = some k) :
    (∃ s', Effect u e s k s' ∧ (full.handle (Cache.backend u.backend) [e] (m, s)).1 = .ok ⟨1, 0⟩) ∨
    ∃ f, Refusal e s k f ∧ full.step u.backend s e = .error f ∧
      (full.handle (Cache.backend u.backend) [e] (m, s)).1 = .error (.handling e.display f) := by
  have hhandles := handles_full hk
  rcases step_effect_or_refusal (u := u) hs hhandles hk with ⟨s', hstep, heffect⟩ | ⟨f, hstep, hrefused⟩
  · have hfold : full.fold u.backend [e] s = .ok s' := by
      rw [fold_cons, hstep]
      rfl
    obtain ⟨m', hrun, -⟩ := handleFrom_ok [e] hs.toSound hm {} hfold
    refine .inl ⟨s', heffect, ?_⟩
    rw [handle, hrun]
    simp [hhandles]
  · have hfold : full.fold u.backend [e] s = .error (e, f) := by
      rw [fold_cons, hstep]
    obtain ⟨ms, hrun⟩ := handleFrom_error [e] hs.toSound hm {} hfold
    exact .inr ⟨f, hrefused, hstep, congrArg Prod.fst hrun⟩

/-- A batch fails with the event that is refused after others were handled. -/
theorem Registry.consume_refused {g : Registry} {before after : List Event} {s₀ : Store} {f : Failure}
    (hs : s₀.Sound) (hfold : g.fold u.backend before s₀ = .ok s) (hstep : g.step u.backend s e = .error f) :
    g.consume u.backend (before ++ e :: after) s₀ = (.error (.handling e.display f), s₀) := by
  rw [consume_sound g u _ hs, fold_append, hfold]
  simp only [fold_cons, hstep, outcome]

/-- An event at any place of a batch fails just when it is malformed, asks for what is not there or is
illegal. The batch fails with it, and the code of the failure says which of the three it was. -/
theorem fails_iff (hs : s.Reachable) (u : Supply) (before after : List Event) (e : Event) {k : EventKind}
    (hk : e.kind? = some k) :
    ∃ loaded, Cache.prefetch u.backend (FetchPlan.ofEvents (before ++ e :: after)) ({}, s) = (.ok (), loaded) ∧
    ∀ n ms, Registry.full.handle (Cache.backend u.backend) before loaded = (.ok n, ms) →
      let outcome := (Registry.full.handle (Cache.backend u.backend) [e] ms).1
      ((∃ f, outcome = .error f) ↔ Malformed e k ∨ Missing ms.2 e k ∨ Illegal ms.2 e k) ∧
      ∀ f, outcome = .error f →
        Registry.full.consume u.backend (before ++ e :: after) s = (.error f, s) ∧
        (f.root.code = "MALFORMED_EVENT" ↔ Malformed e k) ∧
        (f.root.code = "NOT_FOUND" ↔ Missing ms.2 e k) ∧
        (f.root.code = "ILLEGAL_STATE" ↔ Illegal ms.2 e k) ∧
        f.root.code ≠ "DATABASE_ERROR" ∧ f.root.code ≠ "JSON_ERROR" := by
  obtain ⟨m₀, hloaded, hm₀⟩ := Cache.prefetch_follows u hs.inv.toSound (Cache.agrees_empty s)
    (FetchPlan.ofEvents (before ++ e :: after))
  refine ⟨_, hloaded, fun n ms hbefore => ?_⟩
  intro outcome
  obtain ⟨hfold, hinv, hm⟩ := Registry.handle_ok hs.inv hm₀ hbefore
  rcases Registry.handle_one (u := u) hinv hm hk with ⟨s', heffect, hok⟩ | ⟨f, hrefused, hstep, herror⟩
  · refine ⟨⟨?_, ?_⟩, ?_⟩
    · rintro ⟨f, hf⟩
      cases hok.symm.trans hf
    · rintro (h | h | h)
      · exact absurd h heffect.not_malformed
      · exact absurd h heffect.not_missing
      · exact absurd h heffect.not_illegal
    · intro f hf
      cases hok.symm.trans hf
  · refine ⟨⟨fun _ => ?_, fun _ => ⟨_, herror⟩⟩, fun f' hf' => ?_⟩
    · exact hrefused.applies
    · cases herror.symm.trans hf'
      refine ⟨Registry.consume_refused hs.inv.toSound hfold hstep, ?_⟩
      rw [Failure.root, hrefused.root_eq]
      exact hrefused.code_iff

/-- An order that was started in the batch cannot be deleted in it, and the batch leaves no trace. -/
theorem fails_iff_running :
    let events := [Sample.ofInstance "PROCESS_STARTED" "p1", Sample.ofInstance "PROCESS_DELETED" "p1"]
    ∃ f, Registry.full.consume Supply.counting.backend events Sample.store = (.error f, Sample.store) ∧
      f.root.code = "ILLEGAL_STATE" := by
  intro events
  obtain ⟨loaded, hload, hfails⟩ := fails_iff Sample.reachable Supply.counting
    [Sample.ofInstance "PROCESS_STARTED" "p1"] [] (Sample.ofInstance "PROCESS_DELETED" "p1")
    (k := .processDeleted) rfl
  cases hload
  obtain ⟨hiff, hcode⟩ := hfails _ _ (Prod.ext rfl rfl)
  obtain ⟨f, hf⟩ := hiff.2 (.inr (.inr ⟨_, _, rfl, rfl, rfl⟩))
  obtain ⟨hconsume, -, -, hillegal, -⟩ := hcode f hf
  exact ⟨f, hconsume, hillegal.2 ⟨_, _, rfl, rfl, rfl⟩⟩

end FlowView
