import FlowView.Proofs.Snapshot
/-!
# What becomes of a row

An event leaves a row as it was, changes it in one of a few ways, or deletes it. A fate lists these ways
for the rows of one table, each with what the event and the owner of the row must be like for it. What
is proved of rows over time is proved from their fates, without another look at the effects.
-/

namespace FlowView

open Projection

variable {u : Supply} {e : Event} {s s' : Store} {k : EventKind}

namespace Store

/-- The process variable of an id. -/
def processVariable? (s : Store) (id : String) : Option ProcessVariable :=
  Table.lookup ProcessVariable.id id s.processVariables

/-- The task variable of an id. -/
def taskVariable? (s : Store) (id : String) : Option TaskVariable :=
  Table.lookup TaskVariable.id id s.taskVariables

theorem task?_cancelTasksOf (s : Store) (instanceId : String) (time : Instant) (id : String) :
    (s.cancelTasksOf instanceId time).task? id =
      (s.task? id).map fun t =>
        if t.instanceId = some instanceId ∧ !t.status.isFinal then cancelTask time t else t :=
  Table.lookup_map (fun t => by split <;> rfl) id

end Store

/-! ## Tasks -/

/-- What an event can make of a task: the task after it, or none if it is gone. -/
inductive TaskFate (e : Event) (k : EventKind) (t : UserTask) : Option UserTask → Prop
  | kept : TaskFate e k t (some t)
  | changed {passes change} {p : TaskPayload} (hk : TaskChange k passes change) (hp : e.payload = .ok p)
    (hid : p.id = t.id) (hpass : passes t.status = false) : TaskFate e k t (some (change p e.time t))
  | cancelled {p : InstancePayload} (hk : k = .processCompleted) (hp : e.payload = .ok p)
    (hi : t.instanceId = some p.id) (hopen : t.status.isFinal = false) :
    TaskFate e k t (some (cancelTask e.time t))
  | deleted {p : InstancePayload} (hk : k = .processDeleted) (hp : e.payload = .ok p)
    (hi : t.instanceId = some p.id) : TaskFate e k t none

theorem Effect.task_fate (hs : s.Sound) (h : Effect u e s k s') {t : UserTask} (ht : t ∈ s.tasks) :
    TaskFate e k t (s'.task? t.id) := by
  have hfound : s.task? t.id = some t := (Table.lookup_eq_some hs.taskIds).2 ⟨ht, rfl⟩
  have same (htasks : s'.tasks = s.tasks) : TaskFate e k t (s'.task? t.id) := by
    rw [Store.task?, htasks, ← Store.task?, hfound]
    exact .kept
  -- The effects that are not named leave the tasks alone.
  cases h with
  | @definitionDeployed p hp =>
    obtain ⟨ds, ms, heq⟩ := s.withDefinition_eq e p
    exact same (by rw [heq])
  | @instanceCompleted p r hp hr hopen =>
    have hid : r.id = p.id := (Table.lookup_mem hr).2
    have hsaved : (s.saveInstance (complete p e.time r)).task? t.id = some t := hfound
    rw [Store.task?_cancelTasksOf, hsaved, Option.map_some]
    split
    · rename_i hopen
      exact .cancelled rfl hp (hid ▸ hopen.1) (by simpa using hopen.2)
    · exact .kept
  | @instanceDeleted p r hp hr hfinal =>
    have hid : r.id = p.id := (Table.lookup_mem hr).2
    have hremoved : (s.withoutInstance r.id).task? t.id = _ :=
      Table.lookup_remove_found hs.taskIds hfound _
    rw [hremoved]
    split
    · rename_i hi
      exact .deleted rfl hp (hid ▸ of_decide_eq_true hi)
    · exact .kept
  | @taskMade p hp hnone =>
    have hne : (newTask e p).id ≠ t.id := fun h => Table.lookup_eq_none.1 hnone t ht h.symm
    have htask : (s.withTask (newTask e p)).task? t.id = s.task? t.id :=
      (Store.task?_saveTask _ _).trans (if_neg hne)
    rw [htask, hfound]
    exact .kept
  | @taskChanged k passes change p w hk hp hw hpass =>
    obtain ⟨hmem, hid⟩ := Table.lookup_mem hw
    have hreplaced : (s.saveTask (change p e.time w)).task? t.id = _ :=
      Table.lookup_replaced hs.taskIds hmem ht (hk.keeps p e.time w).1
    rw [hreplaced]
    split
    · rename_i heq
      subst heq
      exact .changed hk hp hid.symm hpass
    · exact .kept
  | _ => exact same rfl

/-! ## Process instances -/

/-- What an event can make of a process instance. -/
inductive InstanceFate (e : Event) (k : EventKind) (r : ProcessInstance) : Option ProcessInstance → Prop
  | kept : InstanceFate e k r (some r)
  | changed {passes change} {p : InstancePayload} (hk : InstanceChange k passes change)
    (hp : e.payload = .ok p) (hid : p.id = r.id) (hpass : passes r.status = false) :
    InstanceFate e k r (some (change p e.time r))
  | completed {p : InstancePayload} (hk : k = .processCompleted) (hp : e.payload = .ok p)
    (hid : p.id = r.id) (hopen : r.status.isFinal = false) :
    InstanceFate e k r (some (complete p e.time r))
  | deleted {p : InstancePayload} (hk : k = .processDeleted) (hp : e.payload = .ok p)
    (hid : p.id = r.id) (hfinal : r.status.isFinal = true) : InstanceFate e k r none

theorem InstanceChange.keeps {passes : InstanceStatus → Bool}
    {change : InstancePayload → Instant → ProcessInstance → ProcessInstance}
    (hk : InstanceChange k passes change) (p : InstancePayload) (time : Instant) (r : ProcessInstance) :
    (change p time r).id = r.id := by
  cases hk <;> rfl

theorem Effect.instance_fate (hs : s.Sound) (h : Effect u e s k s') {r : ProcessInstance}
    (hr : r ∈ s.instances) : InstanceFate e k r (s'.instance? r.id) := by
  have hfound : s.instance? r.id = some r := (Table.lookup_eq_some hs.instanceIds).2 ⟨hr, rfl⟩
  have same (hinstances : s'.instances = s.instances) : InstanceFate e k r (s'.instance? r.id) := by
    rw [Store.instance?, hinstances, ← Store.instance?, hfound]
    exact .kept
  cases h with
  | @definitionDeployed p hp =>
    obtain ⟨ds, ms, heq⟩ := s.withDefinition_eq e p
    exact same (by rw [heq])
  | @instanceMade p hp hnone =>
    have hne : (newInstance e p).id ≠ r.id := fun h => Table.lookup_eq_none.1 hnone r hr h.symm
    rw [Store.instance?_saveInstance, if_neg hne, hfound]
    exact .kept
  | @instanceChanged k passes change p w hk hp hw hpass =>
    obtain ⟨hmem, hid⟩ := Table.lookup_mem hw
    have hreplaced : (s.saveInstance (change p e.time w)).instance? r.id = _ :=
      Table.lookup_replaced hs.instanceIds hmem hr (hk.keeps p e.time w)
    rw [hreplaced]
    split
    · rename_i heq
      subst heq
      exact .changed hk hp hid.symm hpass
    · exact .kept
  | @instanceCompleted p w hp hw hopen =>
    obtain ⟨hmem, hid⟩ := Table.lookup_mem hw
    have hreplaced : ((s.saveInstance (complete p e.time w)).cancelTasksOf w.id e.time).instance? r.id = _ :=
      Table.lookup_replaced hs.instanceIds hmem hr rfl
    rw [hreplaced]
    split
    · rename_i heq
      subst heq
      exact .completed rfl hp hid.symm hopen
    · exact .kept
  | @instanceDeleted p w hp hw hfinal =>
    obtain ⟨hmem, hid⟩ := Table.lookup_mem hw
    have hremoved : (s.withoutInstance w.id).instance? r.id = _ :=
      Table.lookup_remove_found hs.instanceIds hfound _
    rw [hremoved]
    split
    · rename_i heq
      obtain rfl := List.inj_on_of_nodup_map hs.instanceIds hr hmem (of_decide_eq_true heq)
      exact .deleted rfl hp hid.symm hfinal
    · exact .kept
  | _ => exact same rfl

/-! ## Variables -/

/-- What an event can make of a process variable that is in some tables. -/
inductive VariableFate (e : Event) (s : Store) (k : EventKind) (v : ProcessVariable) :
    Option ProcessVariable → Prop
  | kept : VariableFate e s k v (some v)
  | revalued {p : VariablePayload} {r : ProcessInstance} (hk : k = .variableUpdated)
    (hp : AboutInstance e p v.instanceId) (hn : p.name = v.name) (hr : s.instance? v.instanceId = some r)
    (hopen : r.status.isFinal = false) : VariableFate e s k v (some (revalue e p v))
  | dropped {p : VariablePayload} {r : ProcessInstance} (hk : k = .variableDeleted)
    (hp : AboutInstance e p v.instanceId) (hn : p.name = v.name) (hr : s.instance? v.instanceId = some r)
    (hopen : r.status.isFinal = false) : VariableFate e s k v none
  | deleted {p : InstancePayload} (hk : k = .processDeleted) (hp : e.payload = .ok p)
    (hi : p.id = v.instanceId) : VariableFate e s k v none

theorem Effect.variable_fate (hs : s.Sound) (h : Effect u e s k s') {v : ProcessVariable}
    (hv : v ∈ s.processVariables) : VariableFate e s k v (s'.processVariable? v.id) := by
  have hfound : s.processVariable? v.id = some v := (Table.lookup_eq_some hs.variableIds).2 ⟨hv, rfl⟩
  have same (hvariables : s'.processVariables = s.processVariables) :
      VariableFate e s k v (s'.processVariable? v.id) := by
    rw [Store.processVariable?, hvariables, ← Store.processVariable?, hfound]
    exact .kept
  cases h with
  | @definitionDeployed p hp =>
    obtain ⟨ds, ms, heq⟩ := s.withDefinition_eq e p
    exact same (by rw [heq])
  | @instanceDeleted p r hp hr hfinal =>
    have hid : r.id = p.id := (Table.lookup_mem hr).2
    have hremoved : (s.withoutInstance r.id).processVariable? v.id = _ :=
      Table.lookup_remove_found hs.variableIds hfound _
    rw [hremoved]
    split
    · rename_i hi
      exact .deleted rfl hp (hid.symm.trans (of_decide_eq_true hi).symm)
    · exact .kept
  | @variableMade p instanceId r hp hr hnone =>
    have happended : ((u.drawn s).withShownVariable (newVariable e p (u.draw s).1 instanceId)).processVariable?
        v.id = some v := Table.lookup_concat hfound
    rw [happended]
    exact .kept
  | @variableRevalued p instanceId r w hp hr hopen hw =>
    obtain ⟨hmem, rfl, hn⟩ := Store.findVariable_mem hw
    have hreplaced : (s.replaceVariable (revalue e p w)).processVariable? v.id =
        (s.processVariable? v.id).map fun v => if v.id = w.id then revalue e p w else v :=
      Table.lookup_map (fun v => by split <;> simp_all [revalue]) _
    rw [hreplaced, hfound, Option.map_some]
    split
    · rename_i heq
      obtain rfl := List.inj_on_of_nodup_map hs.variableIds hv hmem heq
      exact .revalued rfl hp hn.symm hr hopen
    · exact .kept
  | @variableDropped p instanceId r w hp hr hopen hw =>
    obtain ⟨hmem, rfl, hn⟩ := Store.findVariable_mem hw
    have hremoved : (s.withoutVariable w.id).processVariable? v.id = _ :=
      Table.lookup_remove_found hs.variableIds hfound _
    rw [hremoved]
    split
    · rename_i heq
      obtain rfl := List.inj_on_of_nodup_map hs.variableIds hv hmem (of_decide_eq_true heq)
      exact .dropped rfl hp hn.symm hr hopen
    · exact .kept
  | _ => exact same rfl

/-- What an event can make of a task variable that is in some tables. -/
inductive TaskVariableFate (e : Event) (s : Store) (k : EventKind) (v : TaskVariable) :
    Option TaskVariable → Prop
  | kept : TaskVariableFate e s k v (some v)
  | revalued {p : VariablePayload} {t : UserTask} (hk : k = .variableUpdated) (hp : AboutTask e p v.taskId)
    (hn : p.name = v.name) (ht : s.task? v.taskId = some t) (hopen : t.status.isFinal = false) :
    TaskVariableFate e s k v (some (revalueTask e p v))
  | dropped {p : VariablePayload} {t : UserTask} (hk : k = .variableDeleted) (hp : AboutTask e p v.taskId)
    (hn : p.name = v.name) (ht : s.task? v.taskId = some t) (hopen : t.status.isFinal = false) :
    TaskVariableFate e s k v none
  | deleted {p : InstancePayload} {t : UserTask} (hk : k = .processDeleted) (hp : e.payload = .ok p)
    (ht : s.task? v.taskId = some t) (hi : t.instanceId = some p.id) : TaskVariableFate e s k v none

theorem Effect.taskVariable_fate (hs : s.Sound) (h : Effect u e s k s') {v : TaskVariable}
    (hv : v ∈ s.taskVariables) : TaskVariableFate e s k v (s'.taskVariable? v.id) := by
  have hfound : s.taskVariable? v.id = some v := (Table.lookup_eq_some hs.taskVariableIds).2 ⟨hv, rfl⟩
  have same (hvariables : s'.taskVariables = s.taskVariables) :
      TaskVariableFate e s k v (s'.taskVariable? v.id) := by
    rw [Store.taskVariable?, hvariables, ← Store.taskVariable?, hfound]
    exact .kept
  cases h with
  | @definitionDeployed p hp =>
    obtain ⟨ds, ms, heq⟩ := s.withDefinition_eq e p
    exact same (by rw [heq])
  | @instanceDeleted p r hp hr hfinal =>
    have hid : r.id = p.id := (Table.lookup_mem hr).2
    have hremoved : (s.withoutInstance r.id).taskVariable? v.id = _ :=
      Table.lookup_remove_found hs.taskVariableIds hfound _
    rw [hremoved]
    split
    · rename_i howns
      obtain ⟨t, ht, htid⟩ := Table.has_iff.1 (hs.taskVariableOwners v hv)
      have hi : t.instanceId = some r.id := (hs.ownsTask_of_mem ht r.id).1 (htid ▸ howns)
      exact .deleted rfl hp ((Table.lookup_eq_some hs.taskIds).2 ⟨ht, htid⟩) (hid ▸ hi)
    · exact .kept
  | @taskVariableMade p taskId t hp ht hnone =>
    have happended : ((u.drawn s).withTaskVariable (newTaskVariable e p t (u.draw s).1 taskId)).taskVariable?
        v.id = some v := Table.lookup_concat hfound
    rw [happended]
    exact .kept
  | @taskVariableRevalued p taskId t w hp ht hopen hw =>
    obtain ⟨hmem, rfl, hn⟩ := Store.findTaskVariable_mem hw
    have hreplaced : (s.replaceTaskVariable (revalueTask e p w)).taskVariable? v.id =
        (s.taskVariable? v.id).map fun v => if v.id = w.id then revalueTask e p w else v :=
      Table.lookup_map (fun v => by split <;> simp_all [revalueTask]) _
    rw [hreplaced, hfound, Option.map_some]
    split
    · rename_i heq
      obtain rfl := List.inj_on_of_nodup_map hs.taskVariableIds hv hmem heq
      exact .revalued rfl hp hn.symm ht hopen
    · exact .kept
  | @taskVariableDropped p taskId t w hp ht hopen hw =>
    obtain ⟨hmem, rfl, hn⟩ := Store.findTaskVariable_mem hw
    have hremoved : (s.deleteTaskVariable w.id).taskVariable? v.id = _ :=
      Table.lookup_remove_found hs.taskVariableIds hfound _
    rw [hremoved]
    split
    · rename_i heq
      obtain rfl := List.inj_on_of_nodup_map hs.taskVariableIds hv hmem (of_decide_eq_true heq)
      exact .dropped rfl hp hn.symm ht hopen
    · exact .kept
  | _ => exact same rfl

/-! ## Candidates -/

theorem CandidateChange.mem_iff {role : Role} {change : Candidate → List Candidate → List Candidate}
    (hk : CandidateChange k role change) {c d : Candidate} (hne : c ≠ d) (cs : List Candidate) :
    c ∈ change d cs ↔ c ∈ cs := by
  cases hk <;> simp [Table.mem_adjoin, Table.mem_remove, hne]

/-- A candidate for a task comes or goes with an event about an open task, or with the task's instance. -/
theorem Effect.candidate_fate (hs : s.Sound) (h : Effect u e s k s') {t : UserTask} (ht : t ∈ s.tasks)
    {c : Candidate} (hrole : c.role.ofTask = true) (howner : c.owner = t.id) :
    (c ∈ s'.candidates ↔ c ∈ s.candidates) ∨
    (t.status.isFinal = false ∧ k.family = .candidate) ∨
    ∃ p : InstancePayload, k = .processDeleted ∧ e.payload = .ok p ∧ t.instanceId = some p.id := by
  cases h with
  | @definitionDeployed p hp =>
    obtain ⟨ds, ms, heq⟩ := s.withDefinition_eq e p
    rw [heq]
    exact .inl Iff.rfl
  | @instanceDeleted p r hp hr hfinal =>
    have hid : r.id = p.id := (Table.lookup_mem hr).2
    by_cases hi : t.instanceId = some r.id
    · exact .inr (.inr ⟨p, rfl, hp, hid ▸ hi⟩)
    · have hfree : s.ownsTask r.id c.owner = false := by
        rw [howner, ← Bool.not_eq_true, hs.ownsTask_of_mem ht]
        exact hi
      left
      simp [Store.withoutInstance, Table.mem_remove, hfree]
  | @taskCandidateChanged k role change p w hk hp _ hw hopen =>
    obtain ⟨hmem, hid⟩ := Table.lookup_mem hw
    by_cases heq : w = t
    · subst heq
      refine .inr (.inl ⟨hopen, ?_⟩)
      cases hk <;> rfl
    · refine .inl (hk.mem_iff ?_ _)
      rintro rfl
      exact heq (List.inj_on_of_nodup_map hs.taskIds hmem ht (hid.trans howner))
  | @starterChanged k role change p hk hp hstarter =>
    refine .inl (hk.mem_iff ?_ _)
    rintro rfl
    exact Bool.noConfusion (hstarter.symm.trans hrole)
  | _ => exact .inl Iff.rfl

end FlowView
