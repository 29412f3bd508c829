import FlowView.Cache
import FlowView.Program
import FlowView.Proofs.Supply
import FlowView.Proofs.Table
/-!
# The constraints of the tables

`Store.Sound` lists what the tables promise: primary keys and unique columns hold a value once, every
reference leads to a row, and every status column holds a status. No call breaks a promise, whoever
makes it and whether it succeeds or not (`answer_sound`), so no program does (`run_sound`).
-/

namespace FlowView

/-- The primary keys, the unique columns and the references of the tables hold, and all statuses are
known. -/
structure Store.Sound (s : Store) : Prop where
  instanceIds : (s.instances.map ProcessInstance.id).Nodup
  taskIds : (s.tasks.map UserTask.id).Nodup
  variableIds : (s.processVariables.map ProcessVariable.id).Nodup
  variableKeys : (s.processVariables.map Cache.variableKey).Nodup
  variableOwners : ∀ v ∈ s.processVariables, Table.has ProcessInstance.id v.instanceId s.instances
  taskVariableIds : (s.taskVariables.map TaskVariable.id).Nodup
  taskVariableKeys : (s.taskVariables.map fun v => (v.taskId, v.name)).Nodup
  taskVariableOwners : ∀ v ∈ s.taskVariables, Table.has UserTask.id v.taskId s.tasks
  links : s.links.Nodup
  linkTasks : ∀ l ∈ s.links, Table.has UserTask.id l.taskId s.tasks
  linkVariables : ∀ l ∈ s.links, Table.has ProcessVariable.id l.variableId s.processVariables
  candidates : s.candidates.Nodup
  candidateTasks : ∀ c ∈ s.candidates, c.role.ofTask → Table.has UserTask.id c.owner s.tasks
  activityIds : (s.activities.map Activity.id).Nodup
  flowIds : (s.flows.map SequenceFlow.id).Nodup
  flowEvents : (s.flows.filterMap SequenceFlow.eventId).Nodup
  integrationIds : (s.integrations.map IntegrationCall.id).Nodup
  definitionIds : (s.definitions.map ProcessDefinition.id).Nodup
  modelIds : (s.models.map ProcessModel.definitionId).Nodup
  applicationIds : (s.applications.map Application.id).Nodup
  statuses : s.foreignStatuses = []

namespace Store

theorem sound_empty : Sound {} := by constructor <;> simp

variable {s : Store}

namespace Sound

theorem settle (hs : s.Sound) (table : StatusTable) (picked : String → Bool) :
    s.settle table picked = [] := by
  simp [Store.settle, hs.statuses]

theorem readable {α : Type} (hs : s.Sound) (table : StatusTable) (id : α → String) (rows : List α) :
    s.readable table id rows = .ok rows := by
  simp [Store.readable, foreignStatus?, hs.statuses]

theorem readable? {α : Type} (hs : s.Sound) (table : StatusTable) (id : α → String) (row : Option α) :
    s.readable? table id row = .ok row := by
  rw [Store.readable?, hs.readable]
  cases row <;> rfl

/-! ## Each change keeps the constraints -/

theorem saveInstance (hs : s.Sound) (r : ProcessInstance) : (s.saveInstance r).Sound :=
  { hs with
    instanceIds := Table.nodup_upsert (fun _ _ => rfl) hs.instanceIds
    variableOwners := fun v hv => by
      simp [Store.saveInstance, Table.has_upsert, hs.variableOwners v hv]
    statuses := hs.settle .instances (· = r.id) }

theorem saveTask (hs : s.Sound) (t : UserTask) : (s.saveTask t).Sound :=
  { hs with
    taskIds := Table.nodup_upsert (fun _ _ => rfl) hs.taskIds
    taskVariableOwners := fun v hv => by
      simp [Store.saveTask, Table.has_upsert, hs.taskVariableOwners v hv]
    linkTasks := fun l hl => by simp [Store.saveTask, Table.has_upsert, hs.linkTasks l hl]
    candidateTasks := fun c hc h => by
      simp [Store.saveTask, Table.has_upsert, hs.candidateTasks c hc h]
    statuses := hs.settle .tasks (· = t.id) }

theorem saveActivity (hs : s.Sound) (a : Activity) : (s.saveActivity a).Sound :=
  { hs with
    activityIds := Table.nodup_upsert (fun _ _ => rfl) hs.activityIds
    statuses := hs.settle .activities (· = a.id) }

theorem saveIntegration (hs : s.Sound) (c : IntegrationCall) : (s.saveIntegration c).Sound :=
  { hs with
    integrationIds := Table.nodup_upsert (fun _ _ => rfl) hs.integrationIds
    statuses := hs.settle .integrations (· = c.id) }

theorem saveDefinition (hs : s.Sound) (r : ProcessDefinition) : (s.saveDefinition r).Sound :=
  { hs with definitionIds := Table.nodup_upsert (fun _ _ => rfl) hs.definitionIds }

theorem saveModel (hs : s.Sound) (r : ProcessModel) : (s.saveModel r).Sound :=
  { hs with modelIds := Table.nodup_upsert (fun _ _ => rfl) hs.modelIds }

theorem saveApplication (hs : s.Sound) (r : Application) : (s.saveApplication r).Sound :=
  { hs with applicationIds := Table.nodup_upsert (fun _ _ => rfl) hs.applicationIds }

/-- A row that other rows refer to keeps its key in a table whose picked rows nobody refers to. -/
theorem has_remove {α : Type} {key : α → String} {rows : List α} {id k : String} (hne : k ≠ id)
    (h : Table.has key k rows) : Table.has key k (Table.remove (key · = id) rows) := by
  obtain ⟨r, hr, hk⟩ := Table.has_iff.1 h
  exact Table.has_iff.2 ⟨r, Table.mem_remove.2 ⟨hr, by simpa [hk] using hne⟩, hk⟩

theorem deleteInstance (hs : s.Sound) {id : String} {s' : Store} (h : s.deleteInstance id = .ok s') :
    s'.Sound := by
  unfold Store.deleteInstance at h
  split at h
  · cases h
  rename_i hfree
  cases h
  refine { hs with instanceIds := ?_, variableOwners := ?_, statuses := hs.settle .instances (· = id) }
  · exact Table.nodup_remove _ _ hs.instanceIds
  · intro v hv
    have howner := hs.variableOwners v hv
    refine has_remove ?_ howner
    rintro rfl
    exact hfree ⟨howner, List.any_eq_true.2 ⟨v, hv, by simp⟩⟩

theorem deleteTask (hs : s.Sound) {id : String} {s' : Store} (h : s.deleteTask id = .ok s') :
    s'.Sound := by
  unfold Store.deleteTask at h
  split at h
  · cases h
  rename_i hfree
  cases h
  simp only [taskInUse, Bool.decide_or, Bool.or_eq_true, decide_eq_true_eq, not_and, not_or,
    List.any_eq_true, Bool.and_eq_true, Bool.decide_and, not_exists] at hfree
  refine { hs with
    taskIds := Table.nodup_remove _ _ hs.taskIds, taskVariableOwners := ?_, linkTasks := ?_,
    candidateTasks := ?_, statuses := hs.settle .tasks (· = id) }
  · intro v hv
    have howner := hs.taskVariableOwners v hv
    refine has_remove ?_ howner
    rintro rfl
    exact (hfree howner).1 v hv rfl
  · intro l hl
    have howner := hs.linkTasks l hl
    refine has_remove ?_ howner
    rintro rfl
    exact (hfree howner).2.1 l hl rfl
  · intro c hc hrole
    have howner := hs.candidateTasks c hc hrole
    refine has_remove ?_ howner
    rintro rfl
    exact (hfree howner).2.2 c hc hrole rfl

/-! ### Variables -/

theorem variableKey_inj (hs : s.Sound) {v w : ProcessVariable} (hv : v ∈ s.processVariables)
    (hw : w ∈ s.processVariables) (hi : v.instanceId = w.instanceId) (hn : v.name = w.name) : v = w :=
  List.inj_on_of_nodup_map hs.variableKeys hv hw (by simp [Cache.variableKey, hi, hn])

theorem saveVariable (hs : s.Sound) {v : ProcessVariable} {s' : Store}
    (h : s.saveVariable v = .ok s') : s'.Sound := by
  have hrev : ∀ y : ProcessVariable, y.id = v.id → (reviseVariable y v).id = v.id := fun y hy => hy
  -- A row that is saved over another one keeps its owner and its name: only a new one has to be checked.
  have saved (hnew : Table.has ProcessVariable.id v.id s.processVariables = false →
      (∀ w ∈ s.processVariables, Cache.variableKey w ≠ Cache.variableKey v) ∧
        Table.has ProcessInstance.id v.instanceId s.instances) :
      Sound { s with
        processVariables := Table.upsert ProcessVariable.id reviseVariable v s.processVariables } :=
    { hs with
      variableIds := Table.nodup_upsert hrev hs.variableIds
      variableKeys := Table.nodup_map_upsert _ (fun _ _ => rfl) hs.variableKeys fun h => (hnew h).1
      variableOwners := Table.forall_upsert (p := fun i => Table.has ProcessInstance.id i s.instances)
        ProcessVariable.instanceId (fun _ _ => rfl) hs.variableOwners fun h => (hnew h).2
      linkVariables := fun l hl => by
        rw [Table.has_upsert hrev, hs.linkVariables l hl, Bool.or_true] }
  unfold Store.saveVariable at h
  split at h
  · rename_i hhas
    cases h
    exact saved fun hnot => by rw [hhas] at hnot; cases hnot
  · split at h
    · cases h
    rename_i hname
    split at h
    · rename_i howner
      cases h
      refine saved fun _ => ⟨fun w hw hk => hname ?_, howner⟩
      simp only [Cache.variableKey, Prod.mk.injEq] at hk
      exact List.isSome_find?.trans (List.any_eq_true.2 ⟨w, hw, by simpa using hk⟩)
    · cases h

theorem deleteVariable (hs : s.Sound) {id : String} {s' : Store} (h : s.deleteVariable id = .ok s') :
    s'.Sound := by
  unfold Store.deleteVariable at h
  split at h
  · cases h
  rename_i hfree
  cases h
  refine { hs with
    variableIds := Table.nodup_remove _ _ hs.variableIds
    variableKeys := Table.nodup_remove _ _ hs.variableKeys
    variableOwners := fun v hv => hs.variableOwners v (Table.mem_remove.1 hv).1
    linkVariables := ?_ }
  intro l hl
  have howner := hs.linkVariables l hl
  refine has_remove ?_ howner
  rintro rfl
  exact hfree ⟨howner, List.any_eq_true.2 ⟨l, hl, by simp⟩⟩

theorem saveTaskVariable (hs : s.Sound) {v : TaskVariable} {s' : Store}
    (h : s.saveTaskVariable v = .ok s') : s'.Sound := by
  have hrev : ∀ y : TaskVariable, y.id = v.id → (reviseTaskVariable y v).id = v.id := fun y hy => hy
  have saved (hnew : Table.has TaskVariable.id v.id s.taskVariables = false →
      (∀ w ∈ s.taskVariables, (w.taskId, w.name) ≠ (v.taskId, v.name)) ∧
        Table.has UserTask.id v.taskId s.tasks) :
      Sound { s with
        taskVariables := Table.upsert TaskVariable.id reviseTaskVariable v s.taskVariables } :=
    { hs with
      taskVariableIds := Table.nodup_upsert hrev hs.taskVariableIds
      taskVariableKeys := Table.nodup_map_upsert _ (fun _ _ => rfl) hs.taskVariableKeys
        fun h => (hnew h).1
      taskVariableOwners := Table.forall_upsert (p := fun i => Table.has UserTask.id i s.tasks)
        TaskVariable.taskId (fun _ _ => rfl) hs.taskVariableOwners fun h => (hnew h).2 }
  unfold Store.saveTaskVariable at h
  split at h
  · rename_i hhas
    cases h
    exact saved fun hnot => by rw [hhas] at hnot; cases hnot
  · split at h
    · cases h
    rename_i hname
    split at h
    · rename_i howner
      cases h
      refine saved fun _ => ⟨fun w hw hk => hname ?_, howner⟩
      rw [Prod.mk.injEq] at hk
      exact List.isSome_find?.trans (List.any_eq_true.2 ⟨w, hw, by simpa using hk⟩)
    · cases h

theorem deleteTaskVariable (hs : s.Sound) (id : String) : (s.deleteTaskVariable id).Sound :=
  { hs with
    taskVariableIds := Table.nodup_remove _ _ hs.taskVariableIds
    taskVariableKeys := Table.nodup_remove _ _ hs.taskVariableKeys
    taskVariableOwners := fun v hv => hs.taskVariableOwners v (Table.mem_remove.1 hv).1 }

/-! ### Links and candidates -/

theorem nodup_concat {α : Type} {x : α} {xs : List α} (hn : xs.Nodup) (hx : x ∉ xs) :
    (xs ++ [x]).Nodup := by
  rw [List.nodup_append]
  exact ⟨hn, by simp, fun a ha b hb => by rintro rfl; exact hx (List.mem_singleton.1 hb ▸ ha)⟩

theorem link (hs : s.Sound) {taskId variableId : String} {s' : Store}
    (h : s.link taskId variableId = .ok s') : s'.Sound := by
  unfold Store.link at h
  dsimp only at h
  split at h
  · cases h; exact hs
  rename_i hnew
  split at h
  · rename_i hboth
    cases h
    refine { hs with links := nodup_concat hs.links hnew, linkTasks := ?_, linkVariables := ?_ }
    · intro l hl
      rcases List.mem_append.1 hl with hl | hl
      · exact hs.linkTasks l hl
      · rw [List.mem_singleton.1 hl]; exact hboth.1
    · intro l hl
      rcases List.mem_append.1 hl with hl | hl
      · exact hs.linkVariables l hl
      · rw [List.mem_singleton.1 hl]; exact hboth.2
  · cases h

/-- Links can be taken away without breaking anything. -/
theorem unlinked (hs : s.Sound) (picked : VariableLink → Bool) :
    Sound { s with links := Table.remove picked s.links } :=
  { hs with
    links := hs.links.filter _
    linkTasks := fun l hl => hs.linkTasks l (Table.mem_remove.1 hl).1
    linkVariables := fun l hl => hs.linkVariables l (Table.mem_remove.1 hl).1 }

theorem addCandidate (hs : s.Sound) {c : Candidate} {s' : Store} (h : s.addCandidate c = .ok s') :
    s'.Sound := by
  unfold Store.addCandidate at h
  split at h
  · cases h; exact hs
  rename_i hnew
  split at h
  · cases h
  rename_i howner
  cases h
  refine { hs with candidates := nodup_concat hs.candidates hnew, candidateTasks := ?_ }
  intro d hd hrole
  rcases List.mem_append.1 hd with hd | hd
  · exact hs.candidateTasks d hd hrole
  · rw [List.mem_singleton.1 hd] at hrole ⊢
    simpa [hrole] using howner

/-- Candidates can be taken away without breaking anything. -/
theorem withoutCandidates (hs : s.Sound) (picked : Candidate → Bool) :
    Sound { s with candidates := Table.remove picked s.candidates } :=
  { hs with
    candidates := hs.candidates.filter _
    candidateTasks := fun c hc => hs.candidateTasks c (Table.mem_remove.1 hc).1 }

/-! ### Executed elements, flows and calls -/

theorem deleteActivities (hs : s.Sound) (instanceId : String) : (s.deleteActivities instanceId).Sound :=
  { hs with
    activityIds := Table.nodup_remove _ _ hs.activityIds
    statuses := by simp [Store.deleteActivities, hs.settle] }

theorem deleteIntegrations (hs : s.Sound) (instanceId : String) :
    (s.deleteIntegrations instanceId).Sound :=
  { hs with
    integrationIds := Table.nodup_remove _ _ hs.integrationIds
    statuses := by simp [Store.deleteIntegrations, hs.settle] }

theorem recordFlow (hs : s.Sound) {f : SequenceFlow} {s' : Store} (h : s.recordFlow f = .ok s') :
    s'.Sound := by
  unfold Store.recordFlow at h
  split at h
  · cases h
  rename_i hevent
  split at h
  · cases h
  rename_i hid
  cases h
  refine { hs with flowIds := ?_, flowEvents := ?_ }
  · rw [List.map_append]
    refine nodup_concat hs.flowIds fun hm => hid ?_
    obtain ⟨g, hg, hk⟩ := List.mem_map.1 hm
    exact Table.has_iff.2 ⟨g, hg, hk⟩
  · rw [List.filterMap_append]
    cases he : f.eventId with
    | none => simpa [he] using hs.flowEvents
    | some id =>
      have hcons : [f].filterMap SequenceFlow.eventId = [id] := by simp [he]
      rw [hcons]
      refine nodup_concat hs.flowEvents fun hm => hevent ?_
      obtain ⟨g, hg, hk⟩ := List.mem_filterMap.1 hm
      simpa [he, flowRecorded] using ⟨g, hg, hk⟩

theorem deleteFlows (hs : s.Sound) (instanceId : String) : (s.deleteFlows instanceId).Sound :=
  { hs with
    flowIds := Table.nodup_remove _ _ hs.flowIds
    flowEvents := hs.flowEvents.sublist (List.filter_sublist.filterMap _) }

theorem drawn (hs : s.Sound) (u : Supply) : (u.drawn s).Sound := { hs with }

end Sound

/-! ## Calls and programs -/

theorem change_sound (hs : s.Sound) {r : Except Failure Store} (h : ∀ s', r = .ok s' → s'.Sound) :
    (s.change r).2.Sound := by
  cases r with
  | ok s' => exact h s' rfl
  | error _ => exact hs

/-- No call breaks a constraint. -/
theorem answer_sound (hs : s.Sound) (u : Supply) (c : Call) : (u.backend.answer c s).2.Sound := by
  cases c with
  | saveInstance r => exact hs.saveInstance r
  | deleteInstance id => exact change_sound hs fun _ => hs.deleteInstance
  | saveTask t => exact hs.saveTask t
  | deleteTask id => exact change_sound hs fun _ => hs.deleteTask
  | saveVariable v => exact change_sound hs fun _ => hs.saveVariable
  | deleteVariable id => exact change_sound hs fun _ => hs.deleteVariable
  | saveTaskVariable v => exact change_sound hs fun _ => hs.saveTaskVariable
  | deleteTaskVariable id => exact hs.deleteTaskVariable id
  | link taskId variableId => exact change_sound hs fun _ => hs.link
  | unlink taskId variableId => exact hs.unlinked _
  | unlinkTask taskId => exact hs.unlinked _
  | unlinkVariable variableId => exact hs.unlinked _
  | addCandidate c => exact change_sound hs fun _ => hs.addCandidate
  | removeCandidate c => exact hs.withoutCandidates _
  | clearCandidates taskId => exact hs.withoutCandidates _
  | saveActivity a => exact hs.saveActivity a
  | deleteActivities instanceId => exact hs.deleteActivities instanceId
  | recordFlow f => exact change_sound hs fun _ => hs.recordFlow
  | deleteFlows instanceId => exact hs.deleteFlows instanceId
  | saveIntegration c => exact hs.saveIntegration c
  | deleteIntegrations instanceId => exact hs.deleteIntegrations instanceId
  | saveDefinition r => exact hs.saveDefinition r
  | saveModel r => exact hs.saveModel r
  | saveApplication r => exact hs.saveApplication r
  | freshId => exact hs.drawn u
  | _ => exact hs

/-- No program breaks a constraint, also one that fails halfway. -/
theorem run_sound {α : Type} (u : Supply) (p : Program α) (hs : s.Sound) :
    (p.run u.backend s).2.Sound := by
  induction p generalizing s with
  | done a => exact hs
  | fail e => exact hs
  | call c next ih =>
    have hc := answer_sound hs u c
    unfold Program.run
    split
    · rename_i r s' h
      rw [h] at hc
      exact ih r hc
    · rename_i e s' h
      rw [h] at hc
      exact hc

theorem run_sound_of {α : Type} (u : Supply) {p : Program α} {r : Except Failure α} {s' : Store}
    (hs : s.Sound) (h : p.run u.backend s = (r, s')) : s'.Sound := by
  have := run_sound u p hs
  rwa [h] at this

end Store
end FlowView
