import FlowView.Proofs.Again
import FlowView.Proofs.Cascade
/-!
# Redelivery

Events may be delivered more than once. Tables tell an event (`Told`) when all that it asks for is so in
them. The effect of an event leads to tables that tell it (`Effect.told`), and in tables that tell it the
event has no further effect (`Told.still`). So a second delivery changes nothing (`redelivered`).
-/

namespace FlowView

open Projection

variable {u : Supply} {g : Registry} {e : Event} {s s' : Store} {k : EventKind}

/-! ## Tables that tell an event -/

/-- The instance is there, and as the change leaves it unless its status lets the event pass. -/
def InstanceTold (passes : InstanceStatus → Bool)
    (change : InstancePayload → Instant → ProcessInstance → ProcessInstance) (e : Event) (s : Store) : Prop :=
  ∃ (p : InstancePayload) (r : ProcessInstance), e.payload = .ok p ∧ s.instance? p.id = some r ∧
    (passes r.status = false → change p e.time r = r)

/-- The task is there, and as the change leaves it unless its status lets the event pass. -/
def TaskTold (passes : TaskStatus → Bool) (change : TaskPayload → Instant → UserTask → UserTask) (e : Event)
    (s : Store) : Prop :=
  ∃ (p : TaskPayload) (t : UserTask), e.payload = .ok p ∧ s.task? p.id = some t ∧
    (passes t.status = false → change p e.time t = t)

/-- The candidates are as the change leaves them, or are those of a task that has ended. -/
def CandidateTold (role : Role) (change : Candidate → List Candidate → List Candidate) (e : Event)
    (s : Store) : Prop :=
  ∃ p : CandidatePayload role, e.payload = .ok p ∧
    (role.ofTask = false → change ⟨role, p.owner, p.candidate⟩ s.candidates = s.candidates) ∧
    (role.ofTask = true → ∃ t, s.task? p.owner = some t ∧
      (t.status.isFinal = false → change ⟨role, p.owner, p.candidate⟩ s.candidates = s.candidates))

/-- The owner is there and has the variable. -/
def VariableThere (e : Event) (s : Store) : Prop :=
  (∃ p instanceId r v, AboutInstance e p instanceId ∧ s.instance? instanceId = some r ∧
    s.findVariable instanceId p.name = some v) ∨
  (∃ p taskId t v, AboutTask e p taskId ∧ s.task? taskId = some t ∧
    s.findTaskVariable taskId p.name = some v)

/-- The owner is there, and has ended or has the variable with the value. -/
def VariableValued (e : Event) (s : Store) : Prop :=
  (∃ p instanceId r, AboutInstance e p instanceId ∧ s.instance? instanceId = some r ∧
    (r.status.isFinal = false → ∃ v, s.findVariable instanceId p.name = some v ∧ revalue e p v = v)) ∨
  (∃ p taskId t, AboutTask e p taskId ∧ s.task? taskId = some t ∧
    (t.status.isFinal = false → ∃ v, s.findTaskVariable taskId p.name = some v ∧ revalueTask e p v = v))

/-- No owner that is open has the variable. -/
def VariableGone (e : Event) (s : Store) : Prop :=
  (∃ p instanceId, AboutInstance e p instanceId ∧ ∀ r, s.instance? instanceId = some r →
    r.status.isFinal = false → s.findVariable instanceId p.name = none) ∨
  (∃ p taskId, AboutTask e p taskId ∧ ∀ t, s.task? taskId = some t →
    t.status.isFinal = false → s.findTaskVariable taskId p.name = none)

/-- The element is as it is when it has entered the status. -/
def ElementTold (status : ActivityStatus) (e : Event) (s : Store) : Prop :=
  ∃ p : ActivityPayload, e.payload = .ok p ∧
    s.saveActivity (enter status e.time (refresh e (activitySeed p) (s.activity? p.key))) = s

/-- The call and its element are as they are after the change. -/
def CallTold (element : Instant → Activity → Activity)
    (change : IntegrationPayload → Instant → IntegrationCall → IntegrationCall) (e : Event) (s : Store) :
    Prop :=
  ∃ p : IntegrationPayload, e.payload = .ok p ∧ s.withCall e p element change = s

/-- All that an event of a kind asks for is so already. -/
def Told (e : Event) (s : Store) : EventKind → Prop
  | .processDeployed => ∃ p : DefinitionPayload, e.payload = .ok p ∧ s.withDefinition e p = s
  | .applicationDeployed => ∃ p : ApplicationPayload, e.payload = .ok p ∧
      s.saveApplication (deployApplication e p (s.findApplication p.id)) = s
  | .processCreated => ∃ (p : InstancePayload) (r : ProcessInstance), e.payload = .ok p ∧
      s.instance? p.id = some r
  | .processStarted => InstanceTold InstanceStatus.isFinal start e s
  | .processUpdated => InstanceTold (fun _ => false) update e s
  | .processSuspended => InstanceTold InstanceStatus.isFinal suspend e s
  | .processResumed => InstanceTold InstanceStatus.isFinal resume e s
  | .processCancelled => InstanceTold (· = .cancelled) cancel e s
  | .processCompleted => ∃ (p : InstancePayload) (r : ProcessInstance), e.payload = .ok p ∧
      s.instance? p.id = some r ∧ r.status.isFinal = true
  | .processDeleted => False
  | .taskCreated => ∃ (p : TaskPayload) (t : UserTask), e.payload = .ok p ∧ s.task? p.id = some t
  | .taskAssigned => TaskTold TaskStatus.isFinal assign e s
  | .taskActivated => TaskTold TaskStatus.isFinal activate e s
  | .taskSuspended => TaskTold TaskStatus.isFinal suspendTask e s
  | .taskUpdated => TaskTold (fun _ => false) updateTask e s
  | .taskCompleted => TaskTold (fun _ => false) completeTask e s
  | .taskCancelled => TaskTold TaskStatus.isFinal dropTask e s
  | .taskCandidateUserAdded => CandidateTold .taskUser Table.adjoin e s
  | .taskCandidateUserRemoved => CandidateTold .taskUser (fun c => Table.remove (· = c)) e s
  | .taskCandidateGroupAdded => CandidateTold .taskGroup Table.adjoin e s
  | .taskCandidateGroupRemoved => CandidateTold .taskGroup (fun c => Table.remove (· = c)) e s
  | .processCandidateStarterUserAdded => CandidateTold .starterUser Table.adjoin e s
  | .processCandidateStarterUserRemoved => CandidateTold .starterUser (fun c => Table.remove (· = c)) e s
  | .processCandidateStarterGroupAdded => CandidateTold .starterGroup Table.adjoin e s
  | .processCandidateStarterGroupRemoved => CandidateTold .starterGroup (fun c => Table.remove (· = c)) e s
  | .variableCreated => VariableThere e s
  | .variableUpdated => VariableValued e s
  | .variableDeleted => VariableGone e s
  | .activityStarted => ElementTold .started e s
  | .activityCompleted => ElementTold .completed e s
  | .activityCancelled => ElementTold .cancelled e s
  | .sequenceFlowTaken => ∃ (p : FlowPayload) (id : String), e.payload = .ok p ∧ e.id = some id ∧
      s.flowRecorded id = true
  | .integrationRequested => CallTold (fun _ a => a) request e s
  | .integrationResultReceived => CallTold (enter .completed) receive e s
  | .integrationErrorReceived => CallTold (enter .error) refuse e s

theorem InstanceChange.told {passes change} (hk : InstanceChange k passes change) (e : Event) (s : Store) :
    Told e s k = InstanceTold passes change e s := by cases hk <;> rfl

theorem TaskChange.told {passes change} (hk : TaskChange k passes change) (e : Event) (s : Store) :
    Told e s k = TaskTold passes change e s := by cases hk <;> rfl

theorem CandidateChange.told {role change} (hk : CandidateChange k role change) (e : Event) (s : Store) :
    Told e s k = CandidateTold role change e s := by cases hk <;> rfl

theorem ActivityChange.told {status} (hk : ActivityChange k status) (e : Event) (s : Store) :
    Told e s k = ElementTold status e s := by cases hk <;> rfl

theorem CallChange.told {element change} (hk : CallChange k element change) (e : Event) (s : Store) :
    Told e s k = CallTold element change e s := by cases hk <;> rfl

/-! ## After the effect of an event the tables tell it -/

theorem Effect.told (hs : s.Inv) (hs' : s'.Inv) (h : Effect u e s k s') (hdel : k ≠ .processDeleted)
    (hid : k = .sequenceFlowTaken → e.id.isSome = true) : Told e s' k := by
  cases h with
  | @definitionDeployed p hp => exact ⟨p, hp, withDefinition_again hs'.toSound⟩
  | @applicationDeployed p hp =>
    have hfound : (s.saveApplication (deployApplication e p (s.findApplication p.id))).findApplication p.id =
        some (deployApplication e p (s.findApplication p.id)) := (Table.lookup_replace _).trans (if_pos rfl)
    refine ⟨p, hp, ?_⟩
    rw [hfound, deployApplication_again]
    exact hs'.saveApplication_self (Table.lookup_mem hfound).1
  | @instanceKnown p r hp hr => exact ⟨p, r, hp, hr⟩
  | @instanceMade p hp hr => exact ⟨p, newInstance e p, hp, by simp [newInstance]⟩
  | @instancePassed k passes change p r hk hp hr hpass =>
    rw [hk.told]
    exact ⟨p, r, hp, hr, fun hopen => Bool.noConfusion (hpass.symm.trans hopen)⟩
  | @instanceChanged k passes change p r hk hp hr hpass =>
    have hkey : (change p e.time r).id = p.id := (hk.keeps p e.time r).trans (Table.lookup_mem hr).2
    rw [hk.told]
    exact ⟨p, change p e.time r, hp, by simp [hkey], fun _ => hk.again p e.time r⟩
  | @completionPassed p r hp hr hfinal => exact ⟨p, r, hp, hr, hfinal⟩
  | @instanceCompleted p r hp hr hopen =>
    have hkey : (complete p e.time r).id = p.id := (Table.lookup_mem hr).2
    exact ⟨p, complete p e.time r, hp, (Store.instance?_saveInstance _ p.id).trans (if_pos hkey), rfl⟩
  | instanceDeleted => exact absurd rfl hdel
  | @taskKnown p t hp ht => exact ⟨p, t, hp, ht⟩
  | @taskMade p hp ht =>
    exact ⟨p, newTask e p, hp, (Store.task?_saveTask _ p.id).trans (if_pos rfl)⟩
  | @taskPassed k passes change p t hk hp ht hpass =>
    rw [hk.told]
    exact ⟨p, t, hp, ht, fun hopen => Bool.noConfusion (hpass.symm.trans hopen)⟩
  | @taskChanged k passes change p t hk hp ht hpass =>
    have hkey : (change p e.time t).id = p.id := (hk.keeps p e.time t).1.trans (Table.lookup_mem ht).2
    rw [hk.told]
    exact ⟨p, change p e.time t, hp, by simp [hkey], fun _ => hk.again p e.time t⟩
  | @candidatePassed k role change p t hk hp hrole ht hfinal =>
    rw [hk.told]
    exact ⟨p, hp, fun h => Bool.noConfusion (hrole.symm.trans h),
      fun _ => ⟨t, ht, fun hopen => Bool.noConfusion (hfinal.symm.trans hopen)⟩⟩
  | @taskCandidateChanged k role change p t hk hp hrole ht hopen =>
    rw [hk.told]
    exact ⟨p, hp, fun _ => hk.again _ _, fun _ => ⟨t, ht, fun _ => hk.again _ _⟩⟩
  | @starterChanged k role change p hk hp hrole =>
    rw [hk.told]
    exact ⟨p, hp, fun _ => hk.again _ _, fun h => Bool.noConfusion (hrole.symm.trans h)⟩
  | @taskVariableKnown p taskId t v hp ht hv => exact .inr ⟨p, taskId, t, v, hp, ht, hv⟩
  | @taskVariableMade p taskId t hp ht hv =>
    exact .inr ⟨p, taskId, t, _, hp, ht, hs'.findTaskVariable_eq_some.2
      ⟨List.mem_append_right _ List.mem_cons_self, rfl, rfl⟩⟩
  | @variableKnown p instanceId r v hp hr hv => exact .inl ⟨p, instanceId, r, v, hp, hr, hv⟩
  | @variableMade p instanceId r hp hr hv =>
    exact .inl ⟨p, instanceId, r, _, hp, hr, hs'.findVariable_eq_some.2
      ⟨List.mem_append_right _ List.mem_cons_self, rfl, rfl⟩⟩
  | @taskVariableKept p taskId t hp ht hfinal =>
    exact .inr ⟨p, taskId, t, hp, ht, fun hopen => Bool.noConfusion (hfinal.symm.trans hopen)⟩
  | @taskVariableRevalued p taskId t v hp ht hopen hv =>
    obtain ⟨hmem, howner, hname⟩ := Store.findTaskVariable_mem hv
    have hthere : revalueTask e p v ∈ (s.replaceTaskVariable (revalueTask e p v)).taskVariables :=
      List.mem_map.2 ⟨v, hmem, if_pos rfl⟩
    exact .inr ⟨p, taskId, t, hp, ht, fun _ =>
      ⟨_, hs'.findTaskVariable_eq_some.2 ⟨hthere, howner, hname⟩, revalueTask_again e p v⟩⟩
  | @variableKept p instanceId r hp hr hfinal =>
    exact .inl ⟨p, instanceId, r, hp, hr, fun hopen => Bool.noConfusion (hfinal.symm.trans hopen)⟩
  | @variableRevalued p instanceId r v hp hr hopen hv =>
    obtain ⟨hmem, howner, hname⟩ := Store.findVariable_mem hv
    have hthere : revalue e p v ∈ (s.replaceVariable (revalue e p v)).processVariables :=
      List.mem_map.2 ⟨v, hmem, if_pos rfl⟩
    exact .inl ⟨p, instanceId, r, hp, hr, fun _ =>
      ⟨_, hs'.findVariable_eq_some.2 ⟨hthere, howner, hname⟩, revalue_again e p v⟩⟩
  | @taskVariableSpared p taskId hp hspared => exact .inr ⟨p, taskId, hp, hspared⟩
  | @taskVariableDropped p taskId t v hp ht hopen hv =>
    have hgone : (s.deleteTaskVariable v.id).findTaskVariable taskId p.name = none := by
      rw [Option.eq_none_iff_forall_ne_some]
      intro w hw
      obtain ⟨hmem, hkey⟩ := Store.findTaskVariable_mem hw
      obtain ⟨hmem, hne⟩ := Table.mem_remove.1 hmem
      cases hv.symm.trans (hs.findTaskVariable_eq_some.2 ⟨hmem, hkey⟩)
      simp at hne
    exact .inr ⟨p, taskId, hp, fun _ _ _ => hgone⟩
  | @variableSpared p instanceId hp hspared => exact .inl ⟨p, instanceId, hp, hspared⟩
  | @variableDropped p instanceId r v hp hr hopen hv =>
    have hgone : (s.withoutVariable v.id).findVariable instanceId p.name = none := by
      rw [Option.eq_none_iff_forall_ne_some]
      intro w hw
      obtain ⟨hmem, hkey⟩ := Store.findVariable_mem hw
      obtain ⟨hmem, hne⟩ := Table.mem_remove.1 hmem
      cases hv.symm.trans (hs.findVariable_eq_some.2 ⟨hmem, hkey⟩)
      simp at hne
    exact .inl ⟨p, instanceId, hp, fun _ _ _ => hgone⟩
  | @activityEntered k status p hk hp =>
    rw [hk.told]
    exact ⟨p, hp, saveActivity_again hs.toSound status e (activitySeed p) hs'.toSound⟩
  | @flowKnown p id hp hknown hf => exact ⟨p, id, hp, hknown, hf⟩
  | @flowRecorded p hp hf =>
    obtain ⟨id, hid⟩ := Option.isSome_iff_exists.1 (hid rfl)
    exact ⟨p, id, hp, hid, by simp [Store.flowRecorded, Store.withFlow, newFlow, hid]⟩
  | @callChanged k element change p hk hp =>
    rw [hk.told]
    exact ⟨p, hp, withCall_again hk e p hs.toSound hs'.toSound⟩

/-! ## Tables that tell an event stay as they are -/

theorem Told.not_missing (h : Told e s k) : ¬Missing s e k := by
  cases k with
  | processStarted | processUpdated | processSuspended | processResumed | processCompleted
  | processCancelled =>
    obtain ⟨p, r, hp, hr, -⟩ := h
    exact not_instanceMissing hp hr
  | taskAssigned | taskActivated | taskSuspended | taskUpdated | taskCompleted | taskCancelled =>
    obtain ⟨p, t, hp, ht, -⟩ := h
    exact not_taskMissing hp ht
  | taskCandidateUserAdded | taskCandidateUserRemoved | taskCandidateGroupAdded
  | taskCandidateGroupRemoved =>
    obtain ⟨p, hp, -, hthere⟩ := h
    obtain ⟨t, ht, -⟩ := hthere rfl
    exact not_candidateTaskMissing hp ht
  | variableCreated =>
    rcases h with ⟨p, i, r, v, hp, hr, -⟩ | ⟨p, i, t, v, hp, ht, -⟩
    · exact hp.not_ownerMissing hr
    · exact hp.not_ownerMissing ht
  | variableUpdated =>
    rcases h with ⟨p, i, r, hp, hr, hv⟩ | ⟨p, i, t, hp, ht, hv⟩
    · rintro (hmissing | hmissing)
      · exact hp.not_ownerMissing hr hmissing
      · refine hp.not_variableMissing hr ?_ hmissing
        cases hopen : r.status.isFinal with
        | true => exact .inl rfl
        | false =>
          obtain ⟨v, hv, -⟩ := hv hopen
          exact .inr (by simp [hv])
    · rintro (hmissing | hmissing)
      · exact hp.not_ownerMissing ht hmissing
      · refine hp.not_variableMissing ht ?_ hmissing
        cases hopen : t.status.isFinal with
        | true => exact .inl rfl
        | false =>
          obtain ⟨v, hv, -⟩ := hv hopen
          exact .inr (by simp [hv])
  | processDeleted => exact h.elim
  | _ => exact id

theorem Told.not_illegal (h : Told e s k) : ¬Illegal s e k := by
  cases k with
  | processDeleted => exact h.elim
  | _ => exact id

/-- An event that the tables tell has no effect on them. -/
theorem Told.still (hs : s.Sound) (hk : Told e s k) (h : Effect u e s k s') : s' = s := by
  cases h with
  | definitionDeployed hp | applicationDeployed hp =>
    obtain ⟨p', hp', hsame⟩ := hk
    obtain rfl := payload_unique hp hp'
    exact hsame
  | @instanceMade p hp hnone =>
    obtain ⟨p', r, hp', hr⟩ := hk
    obtain rfl := payload_unique hp hp'
    cases hnone.symm.trans hr
  | @instanceChanged k passes change p r hchange hp hr hpass =>
    rw [hchange.told] at hk
    obtain ⟨p', r', hp', hr', hsame⟩ := hk
    obtain rfl := payload_unique hp hp'
    cases hr.symm.trans hr'
    rw [hsame hpass]
    exact hs.saveInstance_self (Table.lookup_mem hr).1
  | @instanceCompleted p r hp hr hopen =>
    obtain ⟨p', r', hp', hr', hfinal⟩ := hk
    obtain rfl := payload_unique hp hp'
    cases hr.symm.trans hr'
    exact Bool.noConfusion (hfinal.symm.trans hopen)
  | instanceDeleted => exact hk.elim
  | @taskMade p hp hnone =>
    obtain ⟨p', t, hp', ht⟩ := hk
    obtain rfl := payload_unique hp hp'
    cases hnone.symm.trans ht
  | @taskChanged k passes change p t hchange hp ht hpass =>
    rw [hchange.told] at hk
    obtain ⟨p', t', hp', ht', hsame⟩ := hk
    obtain rfl := payload_unique hp hp'
    cases ht.symm.trans ht'
    rw [hsame hpass]
    exact hs.saveTask_self (Table.lookup_mem ht).1
  | @taskCandidateChanged k role change p t hchange hp hrole ht hopen =>
    rw [hchange.told] at hk
    obtain ⟨p', hp', -, hthere⟩ := hk
    obtain rfl := payload_unique hp hp'
    obtain ⟨t', ht', hsame⟩ := hthere hrole
    cases ht.symm.trans ht'
    rw [hsame hopen]
    rfl
  | @starterChanged k role change p hchange hp hrole =>
    rw [hchange.told] at hk
    obtain ⟨p', hp', hsame, -⟩ := hk
    obtain rfl := payload_unique hp hp'
    rw [hsame hrole]
    rfl
  | @taskVariableMade p taskId t hp ht hnone =>
    rcases hk with ⟨p', i, r, v, hp', -⟩ | ⟨p', i, t', v, hp', -, hv⟩
    · exact (hp.not_aboutInstance hp').elim
    · obtain ⟨rfl, rfl⟩ := hp.unique hp'
      cases hnone.symm.trans hv
  | @variableMade p instanceId r hp hr hnone =>
    rcases hk with ⟨p', i, r', v, hp', -, hv⟩ | ⟨p', i, t, v, hp', -⟩
    · obtain ⟨rfl, rfl⟩ := hp.unique hp'
      cases hnone.symm.trans hv
    · exact (hp'.not_aboutInstance hp).elim
  | @taskVariableRevalued p taskId t v hp ht hopen hv =>
    rcases hk with ⟨p', i, r, hp', -⟩ | ⟨p', i, t', hp', ht', hvalued⟩
    · exact (hp.not_aboutInstance hp').elim
    · obtain ⟨rfl, rfl⟩ := hp.unique hp'
      cases ht.symm.trans ht'
      obtain ⟨v', hv', hsame⟩ := hvalued hopen
      cases hv.symm.trans hv'
      rw [hsame]
      exact hs.replaceTaskVariable_self (Store.findTaskVariable_mem hv).1
  | @variableRevalued p instanceId r v hp hr hopen hv =>
    rcases hk with ⟨p', i, r', hp', hr', hvalued⟩ | ⟨p', i, t, hp', -⟩
    · obtain ⟨rfl, rfl⟩ := hp.unique hp'
      cases hr.symm.trans hr'
      obtain ⟨v', hv', hsame⟩ := hvalued hopen
      cases hv.symm.trans hv'
      rw [hsame]
      exact hs.replaceVariable_self (Store.findVariable_mem hv).1
    · exact (hp'.not_aboutInstance hp).elim
  | @taskVariableDropped p taskId t v hp ht hopen hv =>
    rcases hk with ⟨p', i, hp', -⟩ | ⟨p', i, hp', hgone⟩
    · exact (hp.not_aboutInstance hp').elim
    · obtain ⟨rfl, rfl⟩ := hp.unique hp'
      cases hv.symm.trans (hgone t ht hopen)
  | @variableDropped p instanceId r v hp hr hopen hv =>
    rcases hk with ⟨p', i, hp', hgone⟩ | ⟨p', i, hp', -⟩
    · obtain ⟨rfl, rfl⟩ := hp.unique hp'
      cases hv.symm.trans (hgone r hr hopen)
    · exact (hp'.not_aboutInstance hp).elim
  | @activityEntered k status p hchange hp =>
    rw [hchange.told] at hk
    obtain ⟨p', hp', hsame⟩ := hk
    obtain rfl := payload_unique hp hp'
    exact hsame
  | @flowRecorded p hp hf =>
    obtain ⟨p', id, -, hid, hrecorded⟩ := hk
    cases (hf id hid).symm.trans hrecorded
  | @callChanged k element change p hchange hp =>
    rw [hchange.told] at hk
    obtain ⟨p', hp', hsame⟩ := hk
    obtain rfl := payload_unique hp hp'
    exact hsame
  | _ => rfl

/-! ## A second delivery -/

namespace Registry

theorem fold_single (b : Backend Store) (e : Event) (s : Store) :
    g.fold b [e] s = (g.step b s e).mapError fun f => (e, f) := by
  rw [fold_cons]
  cases g.step b s e <;> rfl

/-- An event that was handled and deletes no instance changes nothing when it is handled again. -/
theorem step_again (u' : Supply) (hs : s.Inv) (h : g.step u.backend s e = .ok s')
    (hdel : ¬(g.handles e = true ∧ e.kind? = some .processDeleted))
    (hid : e.kind? = some .sequenceFlowTaken → e.id.isSome = true) : g.step u'.backend s' e = .ok s' := by
  have hs' : s'.Inv := step_inv hs h
  cases hg : g.handles e with
  | false => exact step_other _ hg
  | true =>
    obtain ⟨k, hk⟩ := kind_of_handles hg
    have heffect : Effect u e s k s' := effect_of_step hs hg hk h
    have htold : Told e s' k := by
      refine heffect.told hs hs' ?_ ?_
      · rintro rfl
        exact hdel ⟨hg, hk⟩
      · rintro rfl
        exact hid hk
    -- What the tables tell is no reason to refuse the event the second time.
    rcases step_effect_or_refusal (u := u') hs' hg hk with ⟨s₂, hstep, heffect'⟩ | ⟨f, -, hrefused⟩
    · rw [hstep, htold.still hs'.toSound heffect']
    · rcases hrefused.applies with hmalformed | hmissing | hillegal
      · exact absurd hmalformed heffect.not_malformed
      · exact absurd hmissing htold.not_missing
      · exact absurd hillegal htold.not_illegal

/-- The instance that was deleted is not there for a second deletion. -/
theorem deletion_again (u' : Supply) (hs : s.Inv) (h : g.step u.backend s e = .ok s') (hg : g.handles e = true)
    (hk : e.kind? = some .processDeleted) :
    ∃ f, g.step u'.backend s' e = .error f ∧ f.root.code = "NOT_FOUND" := by
  have hmissing : Missing s' e .processDeleted := by
    obtain ⟨p, r, hp, hr, -, rfl⟩ := (effect_of_step hs hg hk h).of_processDeleted
    exact ⟨p, hp, (Table.lookup_remove_key hs.instanceIds p.id p.id).trans (if_pos rfl)⟩
  rcases step_effect_or_refusal (u := u') (step_inv hs h) hg hk with ⟨s₂, -, heffect⟩ | ⟨f, hstep, hrefused⟩
  · exact absurd hmissing heffect.not_missing
  · refine ⟨f, hstep, ?_⟩
    rw [hrefused.root_eq]
    exact hrefused.code_iff.2.1.2 hmissing

end Registry

/-- An event that was consumed and is delivered again changes nothing. The second delivery succeeds like
the first one, also in the same batch, except that a deletion is refused the second time, since its
instance is not there any more. A sequence flow is told from another only by the id of its event. -/
theorem redelivered (hs : s.Reachable) (g : Registry) (u u' : Supply) {e : Event} {n : Counts}
    (hid : e.kind? = some .sequenceFlowTaken → e.id.isSome = true)
    (h : g.consume u.backend [e] s = (.ok n, s')) :
    (¬(g.handles e = true ∧ e.kind? = some .processDeleted) →
      g.consume u'.backend [e] s' = (.ok n, s') ∧
      g.consume u.backend [e, e] s = (.ok ⟨n.handled + n.handled, n.skipped + n.skipped⟩, s')) ∧
    (g.handles e = true → e.kind? = some .processDeleted →
      ∃ f, g.consume u'.backend [e] s' = (.error f, s') ∧ f.root.code = "NOT_FOUND") := by
  have hinv := hs.inv
  obtain ⟨hfold, rfl⟩ := (Registry.consume_ok_iff hinv.toSound [e]).1 h
  have hstep : g.step u.backend s e = .ok s' := by
    rw [Registry.fold_single] at hfold
    cases hfirst : g.step u.backend s e with
    | ok s₁ => rw [hfirst] at hfold; cases hfold; rfl
    | error f => rw [hfirst] at hfold; cases hfold
  have hsound : s'.Sound := (Registry.step_inv hinv hstep).toSound
  refine ⟨fun hdel => ⟨?_, ?_⟩, fun hhandled hk => ?_⟩
  · have hagain := Registry.step_again u' hinv hstep hdel hid
    refine (Registry.consume_ok_iff hsound [e]).2 ⟨?_, rfl⟩
    rw [Registry.fold_single, hagain]
    rfl
  · have hagain := Registry.step_again u hinv hstep hdel hid
    refine (Registry.consume_ok_iff hinv.toSound [e, e]).2 ⟨?_, ?_⟩
    · simp only [Registry.fold_cons, hstep, hagain, Registry.fold_nil]
    · simp [List.countP_cons]
  · obtain ⟨f, hagain, hcode⟩ := Registry.deletion_again u' hinv hstep hhandled hk
    refine ⟨.handling e.display f, ?_, hcode⟩
    rw [Registry.consume_sound g u' [e] hsound, Registry.fold_single, hagain]
    rfl

/-- A call of an order and the deletion of one that has ended, each delivered twice. -/
theorem redelivered_callAndDeletion :
    let call := Sample.event "INTEGRATION_REQUESTED" [("processInstanceId", .str "p2"), ("clientId", .str "mail")]
    let deletion := Sample.ofInstance "PROCESS_DELETED" "p1"
    let consume := Registry.full.consume Supply.counting.backend
    (consume [call, call] Sample.store = (.ok ⟨2, 0⟩, (consume [call] Sample.store).2) ∧
      (consume [call] Sample.store).2.integrations.length = 1) ∧
    ∃ f, consume [deletion] (consume [deletion] Sample.ended).2 = (.error f, (consume [deletion] Sample.ended).2) ∧
      f.root.code = "NOT_FOUND" := by
  intro call deletion consume
  obtain ⟨hcall, -⟩ := redelivered (e := call) (n := ⟨1, 0⟩) Sample.reachable Registry.full Supply.counting
    Supply.counting (by decide) (Prod.ext rfl rfl)
  obtain ⟨-, hdeletion⟩ := redelivered (e := deletion) (n := ⟨1, 0⟩) Sample.ended_reachable Registry.full
    Supply.counting Supply.counting (by decide) (Prod.ext rfl rfl)
  exact ⟨⟨(hcall (by decide)).2, rfl⟩, hdeletion rfl rfl⟩

end FlowView
