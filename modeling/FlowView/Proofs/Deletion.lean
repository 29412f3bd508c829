import FlowView.Proofs.Effects
/-!
# Deletion

Deleting an instance runs through its tasks and what belongs to them, through its variables, and then
through what the engine recorded of it. On sound tables no step is refused, for what refers to a row
is gone before the row, and all steps together are one removal (`run_deletion`).
-/

namespace FlowView

namespace Store

variable (s : Store)

/-- Some tasks gone, with all that refers to them. -/
def withoutTasks (ids : List String) : Store :=
  { s with
    tasks := Table.remove (·.id ∈ ids) s.tasks
    taskVariables := Table.remove (·.taskId ∈ ids) s.taskVariables
    links := Table.remove (·.taskId ∈ ids) s.links
    candidates := Table.remove (fun c => c.role.ofTask ∧ c.owner ∈ ids) s.candidates }

/-- Some variables gone, with the links to them. -/
def withoutVariables (ids : List String) : Store :=
  { s with
    processVariables := Table.remove (·.id ∈ ids) s.processVariables
    links := Table.remove (·.variableId ∈ ids) s.links }

/-! ## What nothing refers to can be deleted -/

variable {s}

theorem deleteVariable_free {id : String} (h : ∀ l ∈ s.links, l.variableId ≠ id) :
    s.deleteVariable id = .ok { s with processVariables := Table.remove (·.id = id) s.processVariables } := by
  have hfree : s.links.any (·.variableId = id) = false := by simpa using h
  simp [deleteVariable, hfree]

theorem deleteTask_free (hs : s.foreignStatuses = []) {id : String} (hv : ∀ v ∈ s.taskVariables, v.taskId ≠ id)
    (hl : ∀ l ∈ s.links, l.taskId ≠ id) (hc : ∀ c ∈ s.candidates, c.role.ofTask → c.owner ≠ id) :
    s.deleteTask id = .ok { s with tasks := Table.remove (·.id = id) s.tasks } := by
  have hfree : s.taskInUse id = false := by
    simpa [taskInUse] using ⟨hv, hl, hc⟩
  simp [deleteTask, hfree, settle, hs]

theorem deleteInstance_free (hs : s.foreignStatuses = []) {id : String}
    (hv : ∀ v ∈ s.processVariables, v.instanceId ≠ id) :
    s.deleteInstance id = .ok { s with instances := Table.remove (·.id = id) s.instances } := by
  have hfree : s.processVariables.any (·.instanceId = id) = false := by simpa using hv
  simp [deleteInstance, hfree, settle, hs]

/-! ## Loops that delete -/

theorem foldl_deleteTaskVariable (s : Store) (vs : List TaskVariable) :
    vs.foldl (fun s v => s.deleteTaskVariable v.id) s =
      { s with taskVariables := Table.remove (·.id ∈ vs.map TaskVariable.id) s.taskVariables } := by
  induction vs generalizing s with
  | nil => simp [Table.remove]
  | cons v vs ih =>
    rw [List.foldl_cons, ih]
    simp [deleteTaskVariable, Table.remove_remove]

theorem foldl_withoutTasks (s : Store) (ts : List UserTask) :
    ts.foldl (fun s t => s.withoutTasks [t.id]) s = s.withoutTasks (ts.map UserTask.id) := by
  induction ts generalizing s with
  | nil => simp [withoutTasks, Table.remove]
  | cons t ts ih =>
    rw [List.foldl_cons, ih]
    simp [withoutTasks, Table.remove_remove, and_or_left]

theorem foldl_withoutVariables (s : Store) (vs : List ProcessVariable) :
    vs.foldl (fun s v => s.withoutVariable v.id) s = s.withoutVariables (vs.map ProcessVariable.id) := by
  induction vs generalizing s with
  | nil => simp [withoutVariables, Table.remove]
  | cons v vs ih =>
    rw [List.foldl_cons, ih]
    simp [withoutVariable, withoutVariables, Table.remove_remove]

end Store

namespace Projection

open Program

variable {s : Store} (u : Supply)

theorem run_deleteVariable (id : String) (s : Store) :
    (deleteVariable id).run u.backend s = (.ok (), s.withoutVariable id) := by
  have hfree : ∀ l ∈ (s.unlinkVariable id).links, l.variableId ≠ id := by
    simp [Store.unlinkVariable, Table.remove]
  have hdelete := Store.deleteVariable_free hfree
  rw [deleteVariable, run_ask_ok rfl, run_ask]
  exact congrArg (s.unlinkVariable id).change hdelete

/-- The variables of a task, listed and deleted one after the other, are all its variables. -/
theorem run_deleteTaskVariables (hs : s.Sound) (id : String) :
    (Program.each (s.listTaskVariables id) fun v => ask (.deleteTaskVariable v.id)).run u.backend s =
      (.ok (), { s with taskVariables := Table.remove (·.taskId = id) s.taskVariables }) := by
  have hstep : ∀ v ∈ s.listTaskVariables id, ∀ s, True →
      (ask (.deleteTaskVariable v.id)).run u.backend s = (.ok (), s.deleteTaskVariable v.id) ∧ True :=
    fun v _ s _ => ⟨run_ask _ _, trivial⟩
  rw [(run_each _ hstep s trivial).1, Store.foldl_deleteTaskVariable, Table.remove_congr]
  intro v hv
  -- An id of the listed ones belongs to the listed one alone.
  have hiff : v.id ∈ (s.listTaskVariables id).map TaskVariable.id ↔ v.taskId = id := by
    rw [List.mem_map]
    constructor
    · rintro ⟨w, hw, hid⟩
      obtain ⟨hw, howner⟩ := Store.mem_listTaskVariables.1 hw
      rwa [← List.inj_on_of_nodup_map hs.taskVariableIds hw hv hid]
    · exact fun h => ⟨v, Store.mem_listTaskVariables.2 ⟨hv, h⟩, rfl⟩
  simp only [hiff]

theorem run_deleteTask (hs : s.Sound) (id : String) :
    (deleteTask id).run u.backend s = (.ok (), s.withoutTasks [id]) := by
  have hs₁ : (s.clearCandidates id).Sound := hs.withoutCandidates _
  rw [deleteTask, run_ask_ok rfl, run_ask_ok rfl]
  rw [run_bind_ok (run_deleteTaskVariables u hs₁ id), run_ask_ok rfl, run_ask]
  let s₂ : Store := Store.unlinkTask
    { s.clearCandidates id with taskVariables := Table.remove (·.taskId = id) s.taskVariables } id
  have hdelete : s₂.deleteTask id = .ok (s.withoutTasks [id]) := by
    rw [Store.deleteTask_free (s := s₂) hs.statuses]
    · simp [s₂, Store.unlinkTask, Store.clearCandidates, Store.withoutTasks]
    · simp [s₂, Store.unlinkTask, Table.remove]
    · simp [s₂, Store.unlinkTask, Table.remove]
    · intro c hc hrole howner
      simpa [hrole, howner] using (Table.mem_remove.1 hc).2
  exact congrArg s₂.change hdelete

/-! ## All that belongs to an instance -/

theorem run_deleteTasks (hs : s.Sound) (ts : List UserTask) :
    (Program.each ts fun t => deleteTask t.id).run u.backend s =
      (.ok (), s.withoutTasks (ts.map UserTask.id)) := by
  have hstep : ∀ t ∈ ts, ∀ s : Store, s.Sound →
      (deleteTask t.id).run u.backend s = (.ok (), s.withoutTasks [t.id]) ∧ (s.withoutTasks [t.id]).Sound :=
    fun t _ s hs => ⟨run_deleteTask u hs t.id, Store.run_sound_of u hs (run_deleteTask u hs t.id)⟩
  rw [(run_each _ hstep s hs).1, Store.foldl_withoutTasks]

theorem run_deleteVariables (vs : List ProcessVariable) (s : Store) :
    (Program.each vs fun v => deleteVariable v.id).run u.backend s =
      (.ok (), s.withoutVariables (vs.map ProcessVariable.id)) := by
  have hstep : ∀ v ∈ vs, ∀ s, True →
      (deleteVariable v.id).run u.backend s = (.ok (), s.withoutVariable v.id) ∧ True :=
    fun v _ s _ => ⟨run_deleteVariable u v.id s, trivial⟩
  rw [(run_each _ hstep s trivial).1, Store.foldl_withoutVariables]

/-- What deletion does to an instance that has ended. -/
def deletion (instanceId : String) : Program Unit := do
  let tasks ← Program.ask (.listTasks instanceId)
  Program.each tasks fun t => deleteTask t.id
  let vs ← Program.ask (.listVariables instanceId)
  Program.each vs fun v => deleteVariable v.id
  Program.ask (.deleteIntegrations instanceId)
  Program.ask (.deleteActivities instanceId)
  Program.ask (.deleteFlows instanceId)
  Program.ask (.deleteInstance instanceId)

theorem mem_map_tasksOf {instanceId taskId : String} :
    taskId ∈ (s.tasksOf instanceId).map UserTask.id ↔ s.ownsTask instanceId taskId = true := by
  simp [Store.ownsTask, Store.mem_tasksOf, and_assoc]

theorem mem_map_listVariables {instanceId variableId : String} :
    variableId ∈ (s.listVariables instanceId).map ProcessVariable.id ↔
      s.ownsVariable instanceId variableId = true := by
  simp [Store.ownsVariable, Store.mem_listVariables, and_assoc]

/-- The tasks and variables of an instance gone, with all that refers to them. -/
theorem withoutTasks_withoutVariables (hs : s.Sound) (instanceId : String) :
    (s.withoutTasks ((s.tasksOf instanceId).map UserTask.id)).withoutVariables
        ((s.listVariables instanceId).map ProcessVariable.id) =
      { s.withoutInstance instanceId with
        instances := s.instances, activities := s.activities, flows := s.flows
        integrations := s.integrations } := by
  -- Rows are removed by the ids that were listed. In sound tables no other row has one of them.
  have htasks : Table.remove (fun t => s.ownsTask instanceId t.id) s.tasks =
      Table.remove (·.instanceId = some instanceId) s.tasks :=
    Table.remove_congr fun t ht => by rw [Bool.eq_iff_iff, hs.ownsTask_of_mem ht, decide_eq_true_iff]
  have hvariables : Table.remove (fun v => s.ownsVariable instanceId v.id) s.processVariables =
      Table.remove (·.instanceId = instanceId) s.processVariables :=
    Table.remove_congr fun v hv => by rw [Bool.eq_iff_iff, hs.ownsVariable_of_mem hv, decide_eq_true_iff]
  simp only [Store.withoutTasks, Store.withoutVariables, Store.withoutInstance, mem_map_tasksOf,
    mem_map_listVariables, Table.remove_remove, Bool.decide_eq_true, htasks, hvariables, Bool.decide_or]

/-- No step of a deletion is refused, and together they remove what belongs to the instance. -/
theorem run_deletion (hs : s.Sound) (instanceId : String) :
    (deletion instanceId).run u.backend s = (.ok (), s.withoutInstance instanceId) := by
  rw [deletion, run_ask_ok (Store.answer_listTasks u hs instanceId)]
  rw [run_bind_ok (run_deleteTasks u hs _), run_ask_ok rfl, run_bind_ok (run_deleteVariables u _ _)]
  rw [run_ask_ok rfl, run_ask_ok rfl, run_ask_ok rfl, run_ask]
  show Store.change _ (Store.deleteInstance (Store.deleteFlows (Store.deleteActivities
    (Store.deleteIntegrations (Store.withoutVariables (s.withoutTasks _)
      ((s.listVariables instanceId).map ProcessVariable.id)) _) _) _) _) = _
  rw [withoutTasks_withoutVariables hs, Store.deleteInstance_free]
  · simp [Store.change, Store.deleteFlows, Store.deleteActivities, Store.deleteIntegrations,
      Store.settle, hs.statuses, Store.withoutInstance]
  · simp [Store.deleteFlows, Store.deleteActivities, Store.deleteIntegrations, Store.settle, hs.statuses,
      Store.withoutInstance]
  · exact fun v hv => by simpa using (Table.mem_remove.1 hv).2

end Projection
end FlowView
