import FlowView.Proofs.Constraints
/-!
# What sound tables answer

On sound tables a question about a key is answered with the row of the key and changes nothing, and a
call that fails leaves the tables as they were. With the rules for running a program this is enough to
follow any projection call by call.
-/

namespace FlowView

namespace Store

variable (s : Store)

/-- The process instance of an id. -/
def instance? (id : String) : Option ProcessInstance := Table.lookup ProcessInstance.id id s.instances

/-- The task of an id. -/
def task? (id : String) : Option UserTask := Table.lookup UserTask.id id s.tasks

/-- The executed element of a key. -/
def activity? (id : String) : Option Activity := Table.lookup Activity.id id s.activities

/-- The call of a key. -/
def integration? (id : String) : Option IntegrationCall :=
  Table.lookup IntegrationCall.id id s.integrations

/-- The tasks of an instance, the oldest first. -/
def tasksOf (instanceId : String) : List UserTask :=
  Table.sort (Table.dated (·.createdDate.map Instant.text) UserTask.id)
    (s.tasks.filter (·.instanceId = some instanceId))

variable {s}

theorem mem_tasksOf {instanceId : String} {t : UserTask} :
    t ∈ s.tasksOf instanceId ↔ t ∈ s.tasks ∧ t.instanceId = some instanceId := by
  simp [tasksOf]

theorem mem_listVariables {instanceId : String} {v : ProcessVariable} :
    v ∈ s.listVariables instanceId ↔ v ∈ s.processVariables ∧ v.instanceId = instanceId := by
  simp [listVariables]

theorem mem_listTaskVariables {taskId : String} {v : TaskVariable} :
    v ∈ s.listTaskVariables taskId ↔ v ∈ s.taskVariables ∧ v.taskId = taskId := by
  simp [listTaskVariables]

theorem mem_listLinked {taskId : String} {v : ProcessVariable} :
    v ∈ s.listLinked taskId ↔ v ∈ s.processVariables ∧ ⟨taskId, v.id⟩ ∈ s.links := by
  simp [listLinked]

theorem Sound.nodup_tasksOf (hs : s.Sound) (instanceId : String) :
    ((s.tasksOf instanceId).map UserTask.id).Nodup := by
  have hperm : (s.tasksOf instanceId).Perm (s.tasks.filter (·.instanceId = some instanceId)) :=
    Table.sort_perm _ _
  exact (hperm.map _).nodup_iff.2 (hs.taskIds.sublist (List.filter_sublist.map _))

theorem Sound.nodup_listVariables (hs : s.Sound) (instanceId : String) :
    ((s.listVariables instanceId).map ProcessVariable.id).Nodup := by
  have hperm : (s.listVariables instanceId).Perm (s.processVariables.filter (·.instanceId = instanceId)) :=
    Table.sort_perm _ _
  exact (hperm.map _).nodup_iff.2 (hs.variableIds.sublist (List.filter_sublist.map _))

/-- The variables of an instance come in strict order of names. -/
theorem Sound.sorted_listVariables (hs : s.Sound) (instanceId : String) :
    (s.listVariables instanceId).Pairwise fun v w => v.name < w.name := by
  refine Table.sort_before _ _ (List.Nodup.map_on (fun v hv w hw hn => ?_) ?_)
  · simp only [List.mem_filter, decide_eq_true_eq] at hv hw
    exact hs.variableKey_inj hv.1 hw.1 (hv.2.trans hw.2.symm) hn
  · exact hs.variableIds.of_map.filter _

theorem findVariable_eq_none {instanceId name : String} :
    s.findVariable instanceId name = none ↔
      ∀ v ∈ s.processVariables, v.instanceId = instanceId → v.name ≠ name := by
  simp [findVariable]

theorem findVariable_mem {instanceId name : String} {v : ProcessVariable}
    (h : s.findVariable instanceId name = some v) :
    v ∈ s.processVariables ∧ v.instanceId = instanceId ∧ v.name = name :=
  ⟨List.mem_of_find?_eq_some h, by simpa using List.find?_some h⟩

theorem findVariable_eq_lookup (key : String × String) :
    s.findVariable key.1 key.2 = Table.lookup Cache.variableKey key s.processVariables := by
  simp [findVariable, Table.lookup, Cache.variableKey, Prod.ext_iff]

theorem Sound.findVariable_eq_some (hs : s.Sound) {instanceId name : String} {v : ProcessVariable} :
    s.findVariable instanceId name = some v ↔
      v ∈ s.processVariables ∧ v.instanceId = instanceId ∧ v.name = name := by
  rw [findVariable_eq_lookup (instanceId, name), Table.lookup_eq_some hs.variableKeys]
  simp [Cache.variableKey]

theorem findTaskVariable_mem {taskId name : String} {v : TaskVariable}
    (h : s.findTaskVariable taskId name = some v) :
    v ∈ s.taskVariables ∧ v.taskId = taskId ∧ v.name = name :=
  ⟨List.mem_of_find?_eq_some h, by simpa using List.find?_some h⟩

/-- A task variable is unique by its task and its name. -/
def taskVariableKey (v : TaskVariable) : String × String := (v.taskId, v.name)

theorem findTaskVariable_eq_lookup (key : String × String) :
    s.findTaskVariable key.1 key.2 = Table.lookup taskVariableKey key s.taskVariables := by
  simp [findTaskVariable, Table.lookup, taskVariableKey, Prod.ext_iff]

theorem Sound.findTaskVariable_eq_some (hs : s.Sound) {taskId name : String} {v : TaskVariable} :
    s.findTaskVariable taskId name = some v ↔ v ∈ s.taskVariables ∧ v.taskId = taskId ∧ v.name = name := by
  have hkeys : (s.taskVariables.map taskVariableKey).Nodup := hs.taskVariableKeys
  rw [findTaskVariable_eq_lookup (taskId, name), Table.lookup_eq_some hkeys, taskVariableKey, Prod.mk.injEq]

/-! ## Rows after a change -/

@[simp] theorem instance?_saveInstance (r : ProcessInstance) (id : String) :
    (s.saveInstance r).instance? id = if r.id = id then some r else s.instance? id :=
  Table.lookup_replace id

@[simp] theorem task?_saveTask (t : UserTask) (id : String) :
    (s.saveTask t).task? id = if t.id = id then some t else s.task? id :=
  Table.lookup_replace id

@[simp] theorem activity?_saveActivity (a : Activity) (id : String) :
    (s.saveActivity a).activity? id =
      if a.id = id then some ((s.activity? a.id).elim a (reviseActivity · a)) else s.activity? id :=
  Table.lookup_upsert (fun _ _ => rfl) id

/-- What deleting an instance leaves. -/
theorem deleteInstance_eq {id : String} {s' : Store} (h : s.deleteInstance id = .ok s') :
    s' = { s with
      instances := Table.remove (·.id = id) s.instances
      foreignStatuses := s.settle .instances (· = id) } := by
  unfold deleteInstance at h
  split at h <;> cases h
  rfl

theorem deleteTask_eq {id : String} {s' : Store} (h : s.deleteTask id = .ok s') :
    s' = { s with
      tasks := Table.remove (·.id = id) s.tasks
      foreignStatuses := s.settle .tasks (· = id) } := by
  unfold deleteTask at h
  split at h <;> cases h
  rfl

theorem Sound.instance?_deleteInstance (hs : s.Sound) {id : String} {s' : Store}
    (h : s.deleteInstance id = .ok s') (k : String) :
    s'.instance? k = if k = id then none else s.instance? k := by
  rw [deleteInstance_eq h]
  exact Table.lookup_remove_key hs.instanceIds k id

theorem Sound.task?_deleteTask (hs : s.Sound) {id : String} {s' : Store} (h : s.deleteTask id = .ok s')
    (k : String) : s'.task? k = if k = id then none else s.task? k := by
  rw [deleteTask_eq h]
  exact Table.lookup_remove_key hs.taskIds k id

theorem Sound.activity?_deleteActivities (hs : s.Sound) (instanceId k : String) :
    (s.deleteActivities instanceId).activity? k =
      (s.activity? k).filter fun a => !decide (a.instanceId = instanceId) :=
  Table.lookup_remove hs.activityIds _ k

/-- What saving a variable leaves of the others. -/
theorem saveVariable_eq {v : ProcessVariable} {s' : Store} (h : s.saveVariable v = .ok s') :
    s' = { s with
      processVariables := Table.upsert ProcessVariable.id reviseVariable v s.processVariables } := by
  unfold saveVariable at h
  repeat' split at h
  all_goals cases h
  all_goals rfl

theorem deleteVariable_eq {id : String} {s' : Store} (h : s.deleteVariable id = .ok s') :
    s' = { s with processVariables := Table.remove (·.id = id) s.processVariables } := by
  unfold deleteVariable at h
  split at h <;> cases h
  rfl

/-- After a variable was saved it is found, and all others as before. -/
theorem Sound.findVariable_saveVariable (hs : s.Sound) {v : ProcessVariable} {s' : Store}
    (h : s.saveVariable v = .ok s')
    (hv : ∀ old ∈ s.processVariables, old.id = v.id → reviseVariable old v = v) (i n : String) :
    s'.findVariable i n = if v.instanceId = i ∧ v.name = n then some v else s.findVariable i n := by
  have hmem (w : ProcessVariable) :
      w ∈ s'.processVariables ↔ w = v ∨ (w ∈ s.processVariables ∧ w.id ≠ v.id) := by
    rw [saveVariable_eq h, Table.mem_upsert (fun y hy => hy) hs.variableIds]
    cases hl : Table.lookup ProcessVariable.id v.id s.processVariables with
    | none => rfl
    | some old =>
      obtain ⟨hold, hid⟩ := Table.lookup_mem hl
      rw [Option.elim_some, hv old hold hid]
  split
  · rename_i hkey
    exact (hs.saveVariable h).findVariable_eq_some.2 ⟨(hmem v).2 (.inl rfl), hkey⟩
  · rename_i hkey
    apply Option.ext
    intro w
    rw [(hs.saveVariable h).findVariable_eq_some, hs.findVariable_eq_some, hmem]
    constructor
    · rintro ⟨rfl | ⟨hw, -⟩, hwkey⟩
      · exact absurd hwkey hkey
      · exact ⟨hw, hwkey⟩
    · rintro ⟨hw, hwkey⟩
      refine ⟨.inr ⟨hw, fun hid => hkey ?_⟩, hwkey⟩
      rw [← hv w hw hid]
      exact hwkey

theorem Sound.findVariable_deleteVariable (hs : s.Sound) {id : String} {s' : Store}
    (h : s.deleteVariable id = .ok s') (i n : String) :
    s'.findVariable i n = (s.findVariable i n).filter fun v => !decide (v.id = id) := by
  rw [deleteVariable_eq h, findVariable_eq_lookup (i, n), findVariable_eq_lookup (i, n)]
  exact Table.lookup_remove hs.variableKeys _ _

/-! ## Questions -/

variable (u : Supply)

theorem answer_findInstance (hs : s.Sound) (id : String) :
    u.backend.answer (.findInstance id) s = (.ok (s.instance? id), s) :=
  congrArg (·, s) (hs.readable? _ _ _)

theorem answer_findTask (hs : s.Sound) (id : String) :
    u.backend.answer (.findTask id) s = (.ok (s.task? id), s) :=
  congrArg (·, s) (hs.readable? _ _ _)

theorem answer_listTasks (hs : s.Sound) (instanceId : String) :
    u.backend.answer (.listTasks instanceId) s = (.ok (s.tasksOf instanceId), s) :=
  congrArg (·, s) (hs.readable _ _ _)

theorem answer_findActivity (hs : s.Sound) (id : String) :
    u.backend.answer (.findActivity id) s = (.ok (s.activity? id), s) :=
  congrArg (·, s) (hs.readable? _ _ _)

theorem answer_findIntegration (hs : s.Sound) (id : String) :
    u.backend.answer (.findIntegration id) s = (.ok (s.integration? id), s) :=
  congrArg (·, s) (hs.readable? _ _ _)

/-! ### Lookups of many keys -/

theorem look_tasks (hs : s.Sound) (ids : List String) :
    u.backend.look (.tasks ids) s = (.ok (s.tasks.filter (·.id ∈ ids)), s) :=
  congrArg (·, s) (hs.readable _ _ _)

theorem look_activities (hs : s.Sound) (ids : List String) :
    u.backend.look (.activities ids) s = (.ok (s.activities.filter (·.id ∈ ids)), s) :=
  congrArg (·, s) (hs.readable _ _ _)

/-! ### Changes -/

theorem change_ok {r : Except Failure Store} {s' : Store} (h : s.change r = (.ok (), s')) :
    r = .ok s' := by
  cases r <;> cases h
  rfl

/-- A call that fails leaves the tables as they were. -/
theorem answer_error {c : Call} {e : Failure} {s' : Store} (h : u.backend.answer c s = (.error e, s')) :
    s' = s := by
  have hchange {r : Except Failure Store} (h : s.change r = (.error e, s')) : s' = s := by
    cases r <;> simp_all [change]
  have hread {α : Type} {a : Except Failure α} (h : s.read a = (.error e, s')) : s' = s :=
    (congrArg Prod.snd h).symm
  have hok {α : Type} {a : α} {s₁ : Store} (h : ((.ok a, s₁) : Outcome α Store) = (.error e, s')) :
      s' = s := by cases h
  cases c
  all_goals first
    | exact hread h
    | exact hchange h
    | exact hok h

end Store

/-! ## Running -/

namespace Program

variable {α β σ : Type} {b : Backend σ}

@[simp] theorem run_pure (a : α) (s : σ) : (pure a : Program α).run b s = (.ok a, s) := rfl

theorem run_call (c : Call) (next : c.Answer → Program α) (s : σ) :
    (call c next).run b s =
      match b.answer c s with
      | (.ok r, s') => (next r).run b s'
      | (.error e, s') => (.error e, s') := by
  cases h : b.answer c s with
  | mk r s' => cases r <;> simp only [run, h]

@[simp] theorem run_ask (c : Call) (s : σ) : (ask c).run b s = b.answer c s := by
  rw [ask, run_call]
  cases b.answer c s with
  | mk r s' => cases r <;> rfl

@[simp] theorem run_bind (p : Program α) (f : α → Program β) (s : σ) :
    (p >>= f).run b s =
      match p.run b s with
      | (.ok a, s') => (f a).run b s'
      | (.error e, s') => (.error e, s') := by
  show (p.bind f).run b s = _
  induction p generalizing s with
  | done a => rfl
  | fail e => rfl
  | call c next ih =>
    rw [run_call, show (call c next).bind f = .call c fun r => (next r).bind f from rfl, run_call]
    cases b.answer c s with
    | mk r s' =>
      cases r with
      | ok r => exact ih r s'
      | error e => rfl

/-- After a call that is answered a program goes on with the answer. -/
theorem run_ask_ok {c : Call} {r : c.Answer} {f : c.Answer → Program β} {s s' : σ}
    (h : b.answer c s = (.ok r, s')) : (ask c >>= f).run b s = (f r).run b s' := by
  rw [run_bind, run_ask, h]

/-- After a part that ends well a program goes on with its value. -/
theorem run_bind_ok {p : Program α} {a : α} {f : α → Program β} {s s' : σ}
    (h : p.run b s = (.ok a, s')) : (p >>= f).run b s = (f a).run b s' := by
  rw [run_bind, h]

@[simp] theorem run_each_nil (f : α → Program Unit) (s : σ) : (each [] f).run b s = (.ok (), s) := rfl

@[simp] theorem run_each_cons (x : α) (xs : List α) (f : α → Program Unit) (s : σ) :
    (each (x :: xs) f).run b s =
      match (f x).run b s with
      | (.ok _, s') => (each xs f).run b s'
      | (.error e, s') => (.error e, s') := by
  refine (run_bind (f x) (fun _ => each xs f) s).trans ?_
  cases (f x).run b s with
  | mk r s' => cases r <;> rfl

/-- If each step of a loop ends well and does `next`, the loop ends well and does all of them. The
steps may count on what `inv` says, which they keep. -/
theorem run_each {xs : List α} {f : α → Program Unit} {next : σ → α → σ} (inv : σ → Prop)
    (hstep : ∀ x ∈ xs, ∀ s, inv s → (f x).run b s = (.ok (), next s x) ∧ inv (next s x)) :
    ∀ s, inv s → (each xs f).run b s = (.ok (), xs.foldl next s) ∧ inv (xs.foldl next s) := by
  induction xs with
  | nil => exact fun s hs => ⟨rfl, hs⟩
  | cons x xs ih =>
    intro s hs
    obtain ⟨hrun, hinv⟩ := hstep x List.mem_cons_self s hs
    rw [run_each_cons, hrun]
    exact ih (fun y hy => hstep y (List.mem_cons_of_mem _ hy)) _ hinv

end Program
end FlowView
