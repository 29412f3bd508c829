import FlowView.Proofs.Handling
import FlowView.Proofs.Together
/-!
# An event in two stores

An event that mentions ids of one class only does the same in all stores that agree on the class: it is
refused with the same failure, or changes the rows of the class alike (`twin_project`). Each projection is
run in both stores side by side.
-/

namespace FlowView

variable {κ : Type} {side : Key → κ} {c : κ} {s t : Store}

/-- The same comes of an event in both stores. -/
inductive Twin (side : Key → κ) (c : κ) (s t : Store) : Outcome Unit Store → Outcome Unit Store → Prop
  | refused (f : Failure) : Twin side c s t (.error f, s) (.error f, t)
  | done {s' t' : Store} (h : Together side c s s' t t') : Twin side c s t (.ok (), s') (.ok (), t')

/-- Both runs end well, after the same change. -/
theorem Twin.of_eq {s' t' : Store} {r r' : Outcome Unit Store} (hr : r = (.ok (), s')) (hr' : r' = (.ok (), t'))
    (h : Together side c s s' t t') : Twin side c s t r r' := hr ▸ hr' ▸ .done h

theorem Twin.same (s t : Store) : Twin side c s t (.ok (), s) (.ok (), t) := .done (.stay s t)

namespace Projection

open Program

variable {u u' : Supply} {e : Event}

/-! ## Steps that all projections share -/

theorem twin_payload {α : Type} [Payload α] {keys : α → List Key} {f : α → Program Unit}
    (hkeys : ∀ k ∈ e.keysIn keys, side k = c)
    (hf : ∀ p, (∀ k ∈ keys p, side k = c) →
      Twin side c s t ((f p).run u.backend s) ((f p).run u'.backend t)) :
    Twin side c s t ((payload e >>= f).run u.backend s) ((payload e >>= f).run u'.backend t) := by
  rw [run_bind, run_bind, run_payload, run_payload]
  unfold Event.keysIn at hkeys
  cases hp : (e.payload : Except EventFault α) with
  | ok p =>
    rw [hp] at hkeys
    exact hf p hkeys
  | error fault => exact .refused _

/-- A question with the same answer in both goes on with it. -/
theorem twin_ask {q : Call} {f : q.Answer → Program Unit} {r : q.Answer}
    (hs : u.backend.answer q s = (.ok r, s)) (ht : u'.backend.answer q t = (.ok r, t))
    (hf : Twin side c s t ((f r).run u.backend s) ((f r).run u'.backend t)) :
    Twin side c s t ((ask q >>= f).run u.backend s) ((ask q >>= f).run u'.backend t) := by
  rwa [run_ask_ok hs, run_ask_ok ht]

variable [DecidableEq κ] (h : Alike side c s t)
include h

theorem twin_findInstance {id : String} {f : Option ProcessInstance → Program Unit}
    (hid : side (.processInstance id) = c)
    (hf : ∀ r, s.instance? id = r →
      Twin side c s t ((f r).run u.backend s) ((f r).run u'.backend t)) :
    Twin side c s t ((ask (.findInstance id) >>= f).run u.backend s)
      ((ask (.findInstance id) >>= f).run u'.backend t) := by
  have hsame := h.instance?_eq hid
  refine twin_ask (Store.answer_findInstance u h.left.toSound id) ?_ (hf _ rfl)
  rw [hsame]
  exact Store.answer_findInstance u' h.right.toSound id

theorem twin_findTask {id : String} {f : Option UserTask → Program Unit} (hid : side (.task id) = c)
    (hf : ∀ r, s.task? id = r →
      Twin side c s t ((f r).run u.backend s) ((f r).run u'.backend t)) :
    Twin side c s t ((ask (.findTask id) >>= f).run u.backend s)
      ((ask (.findTask id) >>= f).run u'.backend t) := by
  have hsame := h.task?_eq hid
  refine twin_ask (Store.answer_findTask u h.left.toSound id) ?_ (hf _ rfl)
  rw [hsame]
  exact Store.answer_findTask u' h.right.toSound id

theorem twin_requireInstance {id : String} {f : ProcessInstance → Program Unit}
    (hid : side (.processInstance id) = c)
    (hf : ∀ r, s.instance? id = some r →
      Twin side c s t ((f r).run u.backend s) ((f r).run u'.backend t)) :
    Twin side c s t ((requireInstance id >>= f).run u.backend s) ((requireInstance id >>= f).run u'.backend t) := by
  rw [run_bind, run_bind, run_requireInstance u h.left.toSound, run_requireInstance u' h.right.toSound,
    ← h.instance?_eq hid]
  cases hr : s.instance? id with
  | some r => exact hf r hr
  | none => exact .refused _

theorem twin_requireTask {id : String} {f : UserTask → Program Unit} (hid : side (.task id) = c)
    (hf : ∀ r, s.task? id = some r →
      Twin side c s t ((f r).run u.backend s) ((f r).run u'.backend t)) :
    Twin side c s t ((requireTask id >>= f).run u.backend s) ((requireTask id >>= f).run u'.backend t) := by
  rw [run_bind, run_bind, run_requireTask u h.left.toSound, run_requireTask u' h.right.toSound, ← h.task?_eq hid]
  cases hr : s.task? id with
  | some r => exact hf r hr
  | none => exact .refused _

theorem twin_findVariable {id name : String} {f : Option ProcessVariable → Program Unit}
    (hid : side (.processInstance id) = c)
    (hnone : s.findVariable id name = none → t.findVariable id name = none →
      Twin side c s t ((f none).run u.backend s) ((f none).run u'.backend t))
    (hsome : ∀ v ∈ s.processVariables, ∀ w ∈ t.processVariables, side (.processInstance v.instanceId) = c →
      w.anonymous = v.anonymous → Twin side c s t ((f (some v)).run u.backend s) ((f (some w)).run u'.backend t)) :
    Twin side c s t ((ask (.findVariable id name) >>= f).run u.backend s)
      ((ask (.findVariable id name) >>= f).run u'.backend t) := by
  cases hv : s.findVariable id name with
  | none =>
    have hw := h.findVariable_none hid hv
    rw [run_ask_ok (congrArg s.replied hv), run_ask_ok (congrArg t.replied hw)]
    exact hnone hv hw
  | some v =>
    obtain ⟨w, hw, hsame⟩ := h.findVariable hid hv
    rw [run_ask_ok (congrArg s.replied hv), run_ask_ok (congrArg t.replied hw)]
    obtain ⟨hmem, rfl, -⟩ := Store.findVariable_mem hv
    exact hsome v hmem w (Store.findVariable_mem hw).1 hid hsame

theorem twin_findTaskVariable {id name : String} {f : Option TaskVariable → Program Unit}
    (hid : side (.task id) = c)
    (hnone : s.findTaskVariable id name = none → t.findTaskVariable id name = none →
      Twin side c s t ((f none).run u.backend s) ((f none).run u'.backend t))
    (hsome : ∀ v ∈ s.taskVariables, ∀ w ∈ t.taskVariables, side (.task v.taskId) = c →
      w.anonymous = v.anonymous → Twin side c s t ((f (some v)).run u.backend s) ((f (some w)).run u'.backend t)) :
    Twin side c s t ((ask (.findTaskVariable id name) >>= f).run u.backend s)
      ((ask (.findTaskVariable id name) >>= f).run u'.backend t) := by
  cases hv : s.findTaskVariable id name with
  | none =>
    have hw := h.findTaskVariable_none hid hv
    rw [run_ask_ok (congrArg s.replied hv), run_ask_ok (congrArg t.replied hw)]
    exact hnone hv hw
  | some v =>
    obtain ⟨w, hw, hsame⟩ := h.findTaskVariable hid hv
    rw [run_ask_ok (congrArg s.replied hv), run_ask_ok (congrArg t.replied hw)]
    obtain ⟨hmem, rfl, -⟩ := Store.findTaskVariable_mem hv
    exact hsome v hmem w (Store.findTaskVariable_mem hw).1 hid hsame

/-! ## Deployments -/

theorem twin_definitionDeployed
    (hkeys : ∀ k ∈ e.keysIn (fun p : DefinitionPayload => [Key.definition p.id]), side k = c) :
    Twin side c s t ((definitionDeployed e).run u.backend s) ((definitionDeployed e).run u'.backend t) := by
  apply twin_payload hkeys
  intro p hkeys
  have hid : side (.definition p.id) = c := hkeys _ List.mem_cons_self
  exact .of_eq (run_deploy u s e p) (run_deploy u' t e p) (h.withDefinition e hid)

theorem twin_applicationDeployed
    (hkeys : ∀ k ∈ e.keysIn (fun p : ApplicationPayload => [Key.application p.id]), side k = c) :
    Twin side c s t ((applicationDeployed e).run u.backend s) ((applicationDeployed e).run u'.backend t) := by
  apply twin_payload hkeys
  intro p hkeys
  have hid : side (.application p.id) = c := hkeys _ List.mem_cons_self
  refine twin_ask (r := s.findApplication p.id) rfl (congrArg t.replied (h.findApplication_eq hid).symm) ?_
  exact .done (h.saveApplication (r := deployApplication e p (s.findApplication p.id)) hid)

/-! ## Process instances -/

section Instances

variable (hkeys : ∀ k ∈ e.keysIn (fun p : InstancePayload => [Key.processInstance p.id]), side k = c)
include hkeys

theorem twin_instanceCreated :
    Twin side c s t ((instanceCreated e).run u.backend s) ((instanceCreated e).run u'.backend t) := by
  apply twin_payload hkeys
  intro p hkeys
  have hid : side (.processInstance p.id) = c := hkeys _ List.mem_cons_self
  refine twin_findInstance h hid fun r _ => ?_
  cases r with
  | some r => exact .same s t
  | none => exact .done (h.saveInstance (r := newInstance e p) hid)

theorem twin_changeInstance {k : EventKind} {passes : InstanceStatus → Bool}
    {change : InstancePayload → Instant → ProcessInstance → ProcessInstance}
    (hk : InstanceChange k passes change) :
    Twin side c s t ((changeInstance passes change e).run u.backend s)
      ((changeInstance passes change e).run u'.backend t) := by
  apply twin_payload hkeys
  intro p hkeys
  have hid : side (.processInstance p.id) = c := hkeys _ List.mem_cons_self
  refine twin_requireInstance h hid fun r hr => ?_
  have hkept : (change p e.time r).id = p.id := (hk.keeps p e.time r).trans (Table.lookup_mem hr).2
  cases passes r.status with
  | true => exact .same s t
  | false => exact .done (h.saveInstance (r := change p e.time r) (hkept.symm ▸ hid))

theorem twin_instanceCompleted :
    Twin side c s t ((instanceCompleted e).run u.backend s) ((instanceCompleted e).run u'.backend t) := by
  apply twin_payload hkeys
  intro p hkeys
  refine twin_requireInstance h (hkeys _ List.mem_cons_self) fun r hr => ?_
  have hid : side (.processInstance r.id) = c := (Table.lookup_mem hr).2.symm ▸ hkeys _ List.mem_cons_self
  cases r.status.isFinal with
  | true => exact .same s t
  | false =>
    have hsaved := h.saveInstance (r := complete p e.time r) hid
    have hinv {s : Store} (hs : s.Inv) : (s.saveInstance (complete p e.time r)).Inv :=
      hs.of_same (hs.toSound.saveInstance _) rfl rfl rfl
    have hnext := h.next (hinv h.left) (hinv h.right) hsaved
    rw [if_neg Bool.false_ne_true, run_ask_ok rfl, run_ask_ok rfl]
    rw [run_cancelOpenTasks (hinv h.left).toSound, run_cancelOpenTasks (hinv h.right).toSound]
    exact .done (hsaved.trans (hnext.cancelTasksOf hid e.time))

theorem twin_instanceDeleted :
    Twin side c s t ((instanceDeleted e).run u.backend s) ((instanceDeleted e).run u'.backend t) := by
  apply twin_payload hkeys
  intro p hkeys
  refine twin_requireInstance h (hkeys _ List.mem_cons_self) fun r hr => ?_
  have hid : side (.processInstance r.id) = c := (Table.lookup_mem hr).2.symm ▸ hkeys _ List.mem_cons_self
  cases r.status.isFinal with
  | true =>
    exact .of_eq (run_deletion u h.left.toSound r.id) (run_deletion u' h.right.toSound r.id) (h.withoutInstance hid)
  | false => exact .refused _

end Instances

/-! ## Tasks -/

section Tasks

variable (hkeys : ∀ k ∈ e.keysIn (fun p : TaskPayload =>
  Key.task p.id :: (p.instanceId.or e.instanceId).toList.map .processInstance), side k = c)
include hkeys

theorem twin_taskCreated :
    Twin side c s t ((taskCreated e).run u.backend s) ((taskCreated e).run u'.backend t) := by
  apply twin_payload hkeys
  intro p hkeys
  have hid : side (.task p.id) = c := hkeys _ List.mem_cons_self
  refine twin_findTask h hid fun r hr => ?_
  cases r with
  | some r => exact .same s t
  | none =>
    have hr' : t.task? p.id = none := h.task?_eq hid ▸ hr
    rw [run_ask_ok rfl, run_ask_ok rfl]
    rw [run_showVariables h.left.toSound (t := newTask e p) hr,
      run_showVariables h.right.toSound (t := newTask e p) hr']
    exact .done (h.withTask (r := newTask e p) hkeys hr)

theorem twin_changeTask {k : EventKind} {passes : TaskStatus → Bool}
    {change : TaskPayload → Instant → UserTask → UserTask} (hk : TaskChange k passes change) :
    Twin side c s t ((changeTask passes change e).run u.backend s)
      ((changeTask passes change e).run u'.backend t) := by
  apply twin_payload hkeys
  intro p hkeys
  refine twin_requireTask h (hkeys _ List.mem_cons_self) fun r hr => ?_
  -- A change keeps the ids of the task and of its instance.
  obtain ⟨hmem, hid⟩ := Table.lookup_mem hr
  have hold : (Entry.task r).Of side c :=
    h.of_key (x := .task r) hmem List.mem_cons_self (hid ▸ hkeys _ List.mem_cons_self)
  have hnew : (Entry.task (change p e.time r)).Of side c := by
    obtain ⟨hsame, hi⟩ := hk.keeps p e.time r
    simpa [Entry.Of, Entry.keys, hsame, hi] using hold
  cases passes r.status with
  | true => exact .same s t
  | false => exact .done (h.saveTask hnew)

end Tasks

/-! ## Candidates -/

theorem twin_changeCandidate {k : EventKind} {role : Role} {change : Candidate → List Candidate → List Candidate}
    {prog : Candidate → Program Unit} (hk : CandidateChange k role change)
    (hkeys : ∀ k ∈ e.keysIn (fun p : CandidatePayload role =>
      [if role.ofTask then Key.task p.owner else .definition p.owner]), side k = c)
    (hprog : ∀ (u : Supply) (s : Store) (r : Candidate), (r.role.ofTask → Table.has UserTask.id r.owner s.tasks) →
      (prog r).run u.backend s = (.ok (), s.withCandidates (change r s.candidates))) :
    Twin side c s t ((changeCandidate role prog e).run u.backend s)
      ((changeCandidate role prog e).run u'.backend t) := by
  apply twin_payload hkeys
  intro p hkeys
  have hr : (Entry.candidate ⟨role, p.owner, p.candidate⟩).Of side c := hkeys
  have hchange (howner : role.ofTask → Table.has UserTask.id p.owner s.tasks)
      (howner' : role.ofTask → Table.has UserTask.id p.owner t.tasks) :
      Twin side c s t ((prog ⟨role, p.owner, p.candidate⟩).run u.backend s)
        ((prog ⟨role, p.owner, p.candidate⟩).run u'.backend t) := by
    rw [hprog u s _ howner, hprog u' t _ howner']
    cases hk with
    | taskUserAdded | taskGroupAdded | starterUserAdded | starterGroupAdded => exact .done (h.adjoinCandidate hr)
    | taskUserRemoved | taskGroupRemoved | starterUserRemoved | starterGroupRemoved =>
      exact .done (h.removeCandidate hr)
  dsimp only
  cases hrole : role.ofTask with
  | false => exact hchange (by simp [hrole]) (by simp [hrole])
  | true =>
    have hid : side (.task p.owner) = c := by simpa [hrole] using hkeys
    refine twin_requireTask h hid fun r hr => ?_
    cases r.status.isFinal with
    | true => exact .same s t
    | false => exact hchange (fun _ => Table.has_of_lookup hr) fun _ => Table.has_of_lookup (h.task?_eq hid ▸ hr)

/-! ## Executed elements, flows and calls -/

theorem twin_activityEntered (status : ActivityStatus)
    (hkeys : ∀ k ∈ e.keysIn (fun p : ActivityPayload => [Key.processInstance p.instanceId, .element p.key]),
      side k = c) :
    Twin side c s t ((activityEntered status e).run u.backend s) ((activityEntered status e).run u'.backend t) := by
  apply twin_payload hkeys
  intro p hkeys
  have hi : side (.processInstance p.instanceId) = c := hkeys _ List.mem_cons_self
  have hkey : side (.element (activitySeed p).id) = c := hkeys _ (List.mem_cons_of_mem _ List.mem_cons_self)
  rw [run_bind_ok (run_findOrMakeActivity u h.left.toSound e (activitySeed p)),
    run_bind_ok (run_findOrMakeActivity u' h.right.toSound e (activitySeed p)), ← h.activity?_eq hkey]
  exact .done (h.saveActivity (h.of_refresh e (enter_keeps status e.time) hi hkey))

theorem twin_flowTaken (hkeys : ∀ k ∈ e.keysIn (fun p : FlowPayload =>
      Key.processInstance p.instanceId :: e.id.toList.map .flowEvent), side k = c) :
    Twin side c s t ((flowTaken e).run u.backend s) ((flowTaken e).run u'.backend t) := by
  apply twin_payload hkeys
  intro p hkeys
  have hrecord (hf : ∀ id, e.id = some id → s.flowRecorded id = false) :
      Twin side c s t ((do
        let id ← ask .freshId
        ask (.recordFlow (newFlow e p id))).run u.backend s) ((do
        let id ← ask .freshId
        ask (.recordFlow (newFlow e p id))).run u'.backend t) := by
    have hf' : ∀ id, e.id = some id → t.flowRecorded id = false := fun id hid =>
      h.flowRecorded_eq (hkeys (.flowEvent id) (by simp [hid])) ▸ hf id hid
    exact .of_eq (run_newFlow hf) (run_newFlow hf') ((Together.drawn u u' s t).trans (.withFlow hkeys rfl))
  dsimp only
  cases hid : e.id with
  | none => exact hrecord fun id h => by cases hid.symm.trans h
  | some id =>
    have hside : side (.flowEvent id) = c := hkeys _ (by simp [hid])
    refine twin_ask (r := s.flowRecorded id) rfl (congrArg t.replied (h.flowRecorded_eq hside).symm) ?_
    cases hf : s.flowRecorded id with
    | true => exact .same s t
    | false => exact hrecord fun id' h => by cases hid.symm.trans h; exact hf

theorem twin_changeIntegration {k : EventKind} {element : Instant → Activity → Activity}
    {change : IntegrationPayload → Instant → IntegrationCall → IntegrationCall} (hk : CallChange k element change)
    (hkeys : ∀ k ∈ e.keysIn (fun p : IntegrationPayload => [Key.processInstance p.instanceId, .element p.elementKey]),
      side k = c) :
    Twin side c s t ((changeIntegration element change e).run u.backend s)
      ((changeIntegration element change e).run u'.backend t) := by
  apply twin_payload hkeys
  intro p hkeys
  have hi : side (.processInstance p.instanceId) = c := hkeys _ List.mem_cons_self
  have hkey : side (.element p.elementKey) = c := hkeys _ (List.mem_cons_of_mem _ List.mem_cons_self)
  exact .of_eq (run_withCall u h.left.toSound e p element change) (run_withCall u' h.right.toSound e p element change)
    (h.withCall hk e hi hkey)

/-! ## Variables -/

omit [DecidableEq κ] h in
theorem twin_byOwner {ofTask ofInstance : Event → VariablePayload → Program Unit}
    (hkeys : ∀ k ∈ e.keysIn (fun p : VariablePayload => if p.ofTask then p.taskId.toList.map Key.task
      else (p.instanceId.or e.instanceId).toList.map .processInstance), side k = c)
    (ht : ∀ p : VariablePayload, (∀ id, p.taskId = some id → side (.task id) = c) →
      Twin side c s t ((ofTask e p).run u.backend s) ((ofTask e p).run u'.backend t))
    (hi : ∀ p : VariablePayload, (∀ id, p.instanceId.or e.instanceId = some id → side (.processInstance id) = c) →
      Twin side c s t ((ofInstance e p).run u.backend s) ((ofInstance e p).run u'.backend t)) :
    Twin side c s t ((byOwner ofTask ofInstance e).run u.backend s)
      ((byOwner ofTask ofInstance e).run u'.backend t) := by
  apply twin_payload hkeys
  intro p hkeys
  cases hown : p.ofTask with
  | true => exact ht p fun id hid => hkeys _ (by simp [hown, hid])
  | false => exact hi p fun id hid => hkeys _ (by simp [hown, hid])

section TaskVariables

variable {p : VariablePayload} (hkeys : ∀ id, p.taskId = some id → side (.task id) = c)
include hkeys

omit [DecidableEq κ] h in
theorem twin_owningTask {f : String → Program Unit}
    (hf : ∀ id, side (.task id) = c → Twin side c s t ((f id).run u.backend s) ((f id).run u'.backend t)) :
    Twin side c s t ((owningTask e p >>= f).run u.backend s) ((owningTask e p >>= f).run u'.backend t) := by
  rw [run_bind, run_bind, run_owningTask, run_owningTask]
  cases howner : p.taskId with
  | some id => exact hf id (hkeys id howner)
  | none => exact .refused _

theorem twin_createTaskVariable :
    Twin side c s t ((createTaskVariable e p).run u.backend s) ((createTaskVariable e p).run u'.backend t) := by
  refine twin_owningTask hkeys fun taskId hid => ?_
  refine twin_requireTask h hid fun r hr => ?_
  refine twin_findTaskVariable h hid (fun hv hw => ?_) fun _ _ _ _ _ _ => .same s t
  have ht := Table.has_of_lookup hr
  have ht' := Table.has_of_lookup (h.task?_eq hid ▸ hr)
  exact .of_eq (run_newTaskVariable ht hv) (run_newTaskVariable ht' hw)
    ((Together.drawn u u' s t).trans (.withTaskVariable hid rfl))

theorem twin_updateTaskVariable :
    Twin side c s t ((updateTaskVariable e p).run u.backend s) ((updateTaskVariable e p).run u'.backend t) := by
  refine twin_owningTask hkeys fun taskId hid => ?_
  refine twin_requireTask h hid fun r hr => ?_
  cases r.status.isFinal with
  | true => exact .same s t
  | false =>
    refine twin_findTaskVariable h hid (fun _ _ => .refused _) fun v hv w hw hside hsame => ?_
    exact .of_eq (run_revalueTask h.left.toSound hv p) (run_revalueTask h.right.toSound hw p)
      (h.replaceTaskVariable hside hsame hv hw rfl rfl rfl (congrArg (revalueTask e p) hsame))

theorem twin_dropTaskVariable :
    Twin side c s t ((dropTaskVariable e p).run u.backend s) ((dropTaskVariable e p).run u'.backend t) := by
  refine twin_owningTask hkeys fun taskId hid => ?_
  refine twin_findTask h hid fun r hr => ?_
  cases r with
  | none => exact .same s t
  | some r =>
    dsimp only
    cases r.status.isFinal with
    | true => exact .same s t
    | false =>
      exact twin_findTaskVariable h hid (fun _ _ => .same s t) fun v hv w hw hside hsame =>
        .done (h.deleteTaskVariable hside hsame hv hw)

end TaskVariables

section Variables

variable {p : VariablePayload}
  (hkeys : ∀ id, p.instanceId.or e.instanceId = some id → side (.processInstance id) = c)
include hkeys

omit [DecidableEq κ] h in
theorem twin_owningInstance {f : String → Program Unit} (hf : ∀ id, side (.processInstance id) = c →
      Twin side c s t ((f id).run u.backend s) ((f id).run u'.backend t)) :
    Twin side c s t ((owningInstance e p >>= f).run u.backend s)
      ((owningInstance e p >>= f).run u'.backend t) := by
  rw [run_bind, run_bind, run_owningInstance, run_owningInstance]
  cases howner : p.instanceId.or e.instanceId with
  | some id => exact hf id (hkeys id howner)
  | none => exact .refused _

theorem twin_createVariable :
    Twin side c s t ((createVariable e p).run u.backend s) ((createVariable e p).run u'.backend t) := by
  refine twin_owningInstance hkeys fun instanceId hid => ?_
  refine twin_requireInstance h hid fun r hr => ?_
  refine twin_findVariable h hid (fun hv hw => ?_) fun _ _ _ _ _ _ => .same s t
  obtain ⟨hsound, hrun⟩ := run_newVariable (u := u) (e := e) h.left (Table.has_of_lookup hr) hv
  obtain ⟨hsound', hrun'⟩ := run_newVariable (u := u') (e := e) h.right
    (Table.has_of_lookup (h.instance?_eq hid ▸ hr)) hw
  have hdrawn : Alike side c (u.drawn s) (u'.drawn t) :=
    h.next { h.left with } { h.right with } (.drawn u u' s t)
  exact .of_eq hrun hrun' ((Together.drawn u u' s t).trans (hdrawn.withShownVariable hid rfl hsound hsound'))

theorem twin_updateVariable :
    Twin side c s t ((updateVariable e p).run u.backend s) ((updateVariable e p).run u'.backend t) := by
  refine twin_owningInstance hkeys fun instanceId hid => ?_
  refine twin_requireInstance h hid fun r hr => ?_
  cases r.status.isFinal with
  | true => exact .same s t
  | false =>
    refine twin_findVariable h hid (fun _ _ => .refused _) fun v hv w hw hside hsame => ?_
    exact .of_eq (run_revalue h.left.toSound hv p) (run_revalue h.right.toSound hw p)
      (h.replaceVariable hside hsame hv hw rfl rfl rfl rfl (congrArg (revalue e p) hsame))

theorem twin_dropVariable :
    Twin side c s t ((dropVariable e p).run u.backend s) ((dropVariable e p).run u'.backend t) := by
  refine twin_owningInstance hkeys fun instanceId hid => ?_
  refine twin_findInstance h hid fun r hr => ?_
  cases r with
  | none => exact .same s t
  | some r =>
    dsimp only
    cases r.status.isFinal with
    | true => exact .same s t
    | false =>
      exact twin_findVariable h hid (fun _ _ => .same s t) fun v hv w hw hside hsame =>
        .of_eq (run_deleteVariable u v.id s) (run_deleteVariable u' w.id t) (h.withoutVariable hside hsame hv hw)

end Variables

/-! ## All kinds -/

/-- Every event of a kind that mentions ids of one class only does the same in both stores. -/
theorem twin_project (k : EventKind) (hkeys : ∀ key ∈ k.keys e, side key = c) :
    Twin side c s t ((k.project e).run u.backend s) ((k.project e).run u'.backend t) := by
  cases k with
  | processDeployed => exact twin_definitionDeployed h hkeys
  | applicationDeployed => exact twin_applicationDeployed h hkeys
  | processCreated => exact twin_instanceCreated h hkeys
  | processStarted => exact twin_changeInstance h hkeys .started
  | processUpdated => exact twin_changeInstance h hkeys .updated
  | processSuspended => exact twin_changeInstance h hkeys .suspended
  | processResumed => exact twin_changeInstance h hkeys .resumed
  | processCompleted => exact twin_instanceCompleted h hkeys
  | processCancelled => exact twin_changeInstance h hkeys .cancelled
  | processDeleted => exact twin_instanceDeleted h hkeys
  | taskCreated => exact twin_taskCreated h hkeys
  | taskAssigned => exact twin_changeTask h hkeys .assigned
  | taskActivated => exact twin_changeTask h hkeys .activated
  | taskSuspended => exact twin_changeTask h hkeys .suspended
  | taskUpdated => exact twin_changeTask h hkeys .updated
  | taskCompleted => exact twin_changeTask h hkeys .completed
  | taskCancelled => exact twin_changeTask h hkeys .cancelled
  | taskCandidateUserAdded =>
    exact twin_changeCandidate h .taskUserAdded hkeys fun _ _ _ => run_addCandidate
  | taskCandidateUserRemoved =>
    exact twin_changeCandidate h .taskUserRemoved hkeys fun _ _ r _ => run_removeCandidate r
  | taskCandidateGroupAdded =>
    exact twin_changeCandidate h .taskGroupAdded hkeys fun _ _ _ => run_addCandidate
  | taskCandidateGroupRemoved =>
    exact twin_changeCandidate h .taskGroupRemoved hkeys fun _ _ r _ => run_removeCandidate r
  | processCandidateStarterUserAdded =>
    exact twin_changeCandidate h .starterUserAdded hkeys fun _ _ _ => run_addCandidate
  | processCandidateStarterUserRemoved =>
    exact twin_changeCandidate h .starterUserRemoved hkeys fun _ _ r _ => run_removeCandidate r
  | processCandidateStarterGroupAdded =>
    exact twin_changeCandidate h .starterGroupAdded hkeys fun _ _ _ => run_addCandidate
  | processCandidateStarterGroupRemoved =>
    exact twin_changeCandidate h .starterGroupRemoved hkeys fun _ _ r _ => run_removeCandidate r
  | variableCreated =>
    exact twin_byOwner hkeys (fun _ => twin_createTaskVariable h) fun _ => twin_createVariable h
  | variableUpdated =>
    exact twin_byOwner hkeys (fun _ => twin_updateTaskVariable h) fun _ => twin_updateVariable h
  | variableDeleted =>
    exact twin_byOwner hkeys (fun _ => twin_dropTaskVariable h) fun _ => twin_dropVariable h
  | activityStarted => exact twin_activityEntered h .started hkeys
  | activityCompleted => exact twin_activityEntered h .completed hkeys
  | activityCancelled => exact twin_activityEntered h .cancelled hkeys
  | sequenceFlowTaken => exact twin_flowTaken h hkeys
  | integrationRequested => exact twin_changeIntegration h .requested hkeys
  | integrationResultReceived => exact twin_changeIntegration h .resultReceived hkeys
  | integrationErrorReceived => exact twin_changeIntegration h .errorReceived hkeys

end Projection
end FlowView
