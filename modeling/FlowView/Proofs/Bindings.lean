import FlowView.Proofs.Histories
/-!
# Variables as a map

A variable is known by what it belongs to and its name. `Bindings` maps these to what the events made of
the variable, without ids, tables and caches, and `Bindings.follow` says what each event makes of such a
map. After every history the two variable tables hold exactly the map of its events (`variables_bound`).
-/

namespace FlowView

open Projection

variable {u : Supply} {g : Registry} {e : Event} {s s' : Store} {k : EventKind}

/-! ## The map -/

/-- What a variable belongs to. -/
inductive VariableOwner
  | ofTask (id : String)
  | ofInstance (id : String)
  deriving DecidableEq, Repr

/-- What the events made of a variable: its value and type, when it was made, and when it got its value. -/
structure Binding where
  value : Json
  type : Option String
  created : Instant
  updated : Instant

/-- The variables of all owners by name. -/
abbrev Bindings := VariableOwner → String → Option Binding

/-- A variable belongs to the task that its event names as the owner, and else to the instance that the
payload names, or the envelope if the payload names none. -/
def Event.variableOwner? (e : Event) (p : VariablePayload) : Option VariableOwner :=
  match p.taskVariable, p.taskId with
  | true, some taskId => some (.ofTask taskId)
  | _, _ => (p.instanceId.or e.instanceId).map .ofInstance

/-- Is the owner there, and has it not ended? -/
def Store.isOpen (s : Store) : VariableOwner → Bool
  | .ofTask id => (s.task? id).any fun t => !t.status.isFinal
  | .ofInstance id => (s.instance? id).any fun r => !r.status.isFinal

/-- Is the owner the instance or one of its tasks? -/
def Store.isUnder (s : Store) (instanceId : String) : VariableOwner → Bool
  | .ofTask id => s.ownsTask instanceId id
  | .ofInstance id => id = instanceId

namespace Bindings

def empty : Bindings := fun _ _ => none

/-- The variable that an event names is bound otherwise. -/
def rebind (M : Bindings) (e : Event)
    (f : VariablePayload → VariableOwner → Option Binding → Option Binding) : Bindings :=
  match (e.payload : Except EventFault VariablePayload) with
  | .ok p => fun owner name =>
    if e.variableOwner? p = some owner ∧ p.name = name then f p owner (M owner name) else M owner name
  | .error _ => M

/-- The variables of an instance and of its tasks are bound no more. -/
def unbind (M : Bindings) (s : Store) (e : Event) : Bindings :=
  match (e.payload : Except EventFault InstancePayload) with
  | .ok p => fun owner name => if s.isUnder p.id owner then none else M owner name
  | .error _ => M

/-- What an event makes of the map. The tables before it say which owners are open, and which tasks an
instance has. -/
def step (M : Bindings) (s : Store) (e : Event) : Bindings :=
  match e.kind? with
  | some .variableCreated => M.rebind e fun p _ old => old.or (some ⟨p.value, p.type, e.time, e.time⟩)
  | some .variableUpdated => M.rebind e fun p owner old =>
    if s.isOpen owner then
      old.map fun b => { b with value := p.value, type := p.type.or b.type, updated := e.time }
    else old
  | some .variableDeleted => M.rebind e fun _ owner old => if s.isOpen owner then none else old
  | some .processDeleted => M.unbind s e
  | _ => M

/-- What the events of some moments make of the map, one after the other. -/
def follow (M : Bindings) (s : Store) : List Moment → Bindings
  | [] => M
  | m :: rest => (M.step s m.event).follow m.after rest

end Bindings

/-! ## What rows hold -/

/-- The columns of a variable that can change, and when it was made. -/
structure VariableColumns where
  value : Option String
  type : Option String
  created : Option Instant
  updated : Option Instant
  deriving DecidableEq, Repr

def ProcessVariable.columns (v : ProcessVariable) : VariableColumns :=
  ⟨v.value, v.type, v.createTime, v.lastUpdatedTime⟩

def TaskVariable.columns (v : TaskVariable) : VariableColumns :=
  ⟨v.value, v.type, v.createTime, v.lastUpdatedTime⟩

def Binding.columns (b : Binding) : VariableColumns :=
  ⟨Value.encode b.value, b.type, some b.created, some b.updated⟩

namespace Store

/-- The columns of the variable that an owner has by a name. -/
def columns? (s : Store) : VariableOwner → String → Option VariableColumns
  | .ofTask id, name => (s.findTaskVariable id name).map TaskVariable.columns
  | .ofInstance id, name => (s.findVariable id name).map ProcessVariable.columns

/-- The variables in the tables are those of the map. -/
def Binds (s : Store) (M : Bindings) : Prop :=
  ∀ owner name, s.columns? owner name = (M owner name).map Binding.columns

/-- The variable of an owner by a name has other columns, and all others are as before. -/
def Sets (s : Store) (owner : VariableOwner) (name : String) (columns : Option VariableColumns)
    (s' : Store) : Prop :=
  ∀ o n, s'.columns? o n = if owner = o ∧ name = n then columns else s.columns? o n

/-! ## How changes of the tables show -/

theorem columns?_congr (hprocess : s'.processVariables = s.processVariables)
    (htask : s'.taskVariables = s.taskVariables) : s'.columns? = s.columns? := by
  funext owner name
  cases owner with
  | ofTask id => simp only [columns?, findTaskVariable, htask]
  | ofInstance id => simp only [columns?, findVariable, hprocess]

/-- A change of the task variables that shows at one key sets the variable of that key. -/
theorem sets_of_task {taskId name : String} {v : Option TaskVariable}
    (hprocess : s'.processVariables = s.processVariables)
    (hlookup : ∀ key, Table.lookup taskVariableKey key s'.taskVariables =
      if (taskId, name) = key then v else Table.lookup taskVariableKey key s.taskVariables) :
    s.Sets (.ofTask taskId) name (v.map TaskVariable.columns) s' := by
  intro owner n
  cases owner with
  | ofInstance id => simp [columns?, findVariable, hprocess]
  | ofTask id =>
    simp only [columns?, findTaskVariable_eq_lookup (id, n), hlookup,
      Prod.mk.injEq, VariableOwner.ofTask.injEq]
    split <;> rfl

theorem sets_of_instance {instanceId name : String} {v : Option ProcessVariable}
    (htask : s'.taskVariables = s.taskVariables)
    (hlookup : ∀ key, Table.lookup Cache.variableKey key s'.processVariables =
      if (instanceId, name) = key then v else Table.lookup Cache.variableKey key s.processVariables) :
    s.Sets (.ofInstance instanceId) name (v.map ProcessVariable.columns) s' := by
  intro owner n
  cases owner with
  | ofTask id => simp [columns?, findTaskVariable, htask]
  | ofInstance id =>
    simp only [columns?, findVariable_eq_lookup (id, n), hlookup,
      Prod.mk.injEq, VariableOwner.ofInstance.injEq]
    split <;> rfl

theorem Sets.stay {owner : VariableOwner} {name : String} {c : Option VariableColumns}
    (h : s.columns? owner name = c) : s.Sets owner name c s := by
  intro o n
  split
  · rename_i heq
    rw [← heq.1, ← heq.2, h]
  · rfl

theorem sets_taskVariable (u : Supply) {v : TaskVariable}
    (hnone : s.findTaskVariable v.taskId v.name = none) :
    s.Sets (.ofTask v.taskId) v.name (some v.columns) ((u.drawn s).withTaskVariable v) := by
  rw [findTaskVariable_eq_lookup (v.taskId, v.name)] at hnone
  exact sets_of_task (v := some v) rfl (Table.lookup_append (x := v) hnone)

theorem sets_variable (u : Supply) {v : ProcessVariable}
    (hnone : s.findVariable v.instanceId v.name = none) :
    s.Sets (.ofInstance v.instanceId) v.name (some v.columns) ((u.drawn s).withShownVariable v) := by
  rw [findVariable_eq_lookup (v.instanceId, v.name)] at hnone
  exact sets_of_instance (v := some v) rfl (Table.lookup_append (x := v) hnone)

section Sets

variable (hs : s.Sound)
include hs

theorem sets_replaceTaskVariable {v w : TaskVariable} (hv : v ∈ s.taskVariables) (hid : w.id = v.id)
    (hkey : taskVariableKey w = taskVariableKey v) :
    s.Sets (.ofTask v.taskId) v.name (some w.columns) (s.replaceTaskVariable w) := by
  refine sets_of_task (v := some w) rfl fun key => ?_
  have hreplaced : Table.lookup taskVariableKey key (s.replaceTaskVariable w).taskVariables =
      if taskVariableKey w = key then some w else Table.lookup taskVariableKey key s.taskVariables :=
    Table.lookup_replaced_key hs.taskVariableIds hs.taskVariableKeys hv hid hkey key
  rw [hreplaced, hkey]
  rfl

theorem sets_replaceVariable {v w : ProcessVariable} (hv : v ∈ s.processVariables) (hid : w.id = v.id)
    (hkey : Cache.variableKey w = Cache.variableKey v) :
    s.Sets (.ofInstance v.instanceId) v.name (some w.columns) (s.replaceVariable w) := by
  refine sets_of_instance (v := some w) rfl fun key => ?_
  have hreplaced : Table.lookup Cache.variableKey key (s.replaceVariable w).processVariables =
      if Cache.variableKey w = key then some w else Table.lookup Cache.variableKey key s.processVariables :=
    Table.lookup_replaced_key hs.variableIds hs.variableKeys hv hid hkey key
  rw [hreplaced, hkey]
  rfl

theorem sets_deleteTaskVariable {v : TaskVariable} (hv : v ∈ s.taskVariables) :
    s.Sets (.ofTask v.taskId) v.name none (s.deleteTaskVariable v.id) :=
  sets_of_task (v := none) rfl (Table.lookup_removed_key hs.taskVariableIds hs.taskVariableKeys hv)

theorem sets_withoutVariable {v : ProcessVariable} (hv : v ∈ s.processVariables) :
    s.Sets (.ofInstance v.instanceId) v.name none (s.withoutVariable v.id) :=
  sets_of_instance (v := none) rfl (Table.lookup_removed_key hs.variableIds hs.variableKeys hv)

/-- With an instance go the variables of the instance and of its tasks. -/
theorem columns?_withoutInstance (instanceId : String) (owner : VariableOwner) (name : String) :
    (s.withoutInstance instanceId).columns? owner name =
      if s.isUnder instanceId owner then none else s.columns? owner name := by
  cases owner with
  | ofTask id =>
    have hremoved : (s.withoutInstance instanceId).findTaskVariable id name =
        (s.findTaskVariable id name).filter fun v => !s.ownsTask instanceId v.taskId := by
      rw [findTaskVariable_eq_lookup (id, name), findTaskVariable_eq_lookup (id, name)]
      exact Table.lookup_remove hs.taskVariableKeys _ _
    rw [columns?, columns?, isUnder, hremoved]
    cases hv : s.findTaskVariable id name with
    | none => simp
    | some v =>
      rw [← (findTaskVariable_mem hv).2.1]
      cases howns : s.ownsTask instanceId v.taskId <;> simp [Option.filter, howns]
  | ofInstance id =>
    have hremoved : (s.withoutInstance instanceId).findVariable id name =
        (s.findVariable id name).filter fun v => !decide (v.instanceId = instanceId) := by
      rw [findVariable_eq_lookup (id, name), findVariable_eq_lookup (id, name)]
      exact Table.lookup_remove hs.variableKeys _ _
    rw [columns?, columns?, isUnder, hremoved]
    cases hv : s.findVariable id name with
    | none => simp
    | some v =>
      rw [← (findVariable_mem hv).2.1]
      by_cases hi : v.instanceId = instanceId <;> simp [Option.filter, hi]

end Sets

/-! ## The map follows the tables -/

namespace Binds

variable {M : Bindings} {p : VariablePayload} {owner : VariableOwner} (hM : s.Binds M)
include hM

theorem rebind (hp : e.payload = .ok p) (howner : e.variableOwner? p = some owner)
    {f : VariablePayload → VariableOwner → Option Binding → Option Binding}
    (hset : s.Sets owner p.name ((f p owner (M owner p.name)).map Binding.columns) s') :
    s'.Binds (M.rebind e f) := by
  intro o n
  rw [hset, Bindings.rebind, hp]
  simp only [howner, Option.some.injEq]
  split
  · rename_i heq
    rw [heq.1, heq.2]
  · exact hM o n

section Variables

variable (hp : e.payload = .ok p) (howner : e.variableOwner? p = some owner)
include hp howner

theorem created (hk : e.kind? = some .variableCreated)
    (hset : s.Sets owner p.name
      (some ((s.columns? owner p.name).getD ⟨Value.encode p.value, p.type, some e.time, some e.time⟩)) s') :
    s'.Binds (M.step s e) := by
  rw [Bindings.step, hk]
  refine hM.rebind hp howner ?_
  rw [hM] at hset
  cases hb : M owner p.name <;> simpa [hb, Binding.columns] using hset

theorem updated (hk : e.kind? = some .variableUpdated)
    (hset : s.Sets owner p.name
      (if s.isOpen owner then (s.columns? owner p.name).map fun c =>
          { c with value := Value.encode p.value, type := p.type.or c.type, updated := some e.time }
        else s.columns? owner p.name) s') :
    s'.Binds (M.step s e) := by
  rw [Bindings.step, hk]
  refine hM.rebind hp howner ?_
  rw [hM] at hset
  cases hb : M owner p.name <;> cases hopen : s.isOpen owner <;> simpa [hb, hopen, Binding.columns] using hset

theorem deleted (hk : e.kind? = some .variableDeleted)
    (hset : s.Sets owner p.name (if s.isOpen owner then none else s.columns? owner p.name) s') :
    s'.Binds (M.step s e) := by
  rw [Bindings.step, hk]
  refine hM.rebind hp howner ?_
  rw [hM] at hset
  cases hopen : s.isOpen owner <;> simpa [hopen] using hset

end Variables

end Binds

end Store

theorem Store.isOpen_ofTask {id : String} :
    s.isOpen (.ofTask id) = true ↔ ∃ t, s.task? id = some t ∧ t.status.isFinal = false := by
  simp [isOpen, Option.any_eq_true]

theorem Store.isOpen_ofInstance {id : String} :
    s.isOpen (.ofInstance id) = true ↔ ∃ r, s.instance? id = some r ∧ r.status.isFinal = false := by
  simp [isOpen, Option.any_eq_true]

theorem AboutTask.variableOwner {p : VariablePayload} {taskId : String} (h : AboutTask e p taskId) :
    e.variableOwner? p = some (.ofTask taskId) := by
  have hmarked : p.taskVariable = true := by
    have hof := h.ofTask
    simp only [VariablePayload.ofTask, decide_eq_true_eq] at hof
    exact hof.1
  simp [Event.variableOwner?, hmarked, h.owner]

theorem AboutInstance.variableOwner {p : VariablePayload} {instanceId : String}
    (h : AboutInstance e p instanceId) : e.variableOwner? p = some (.ofInstance instanceId) := by
  have hof := h.ofInstance
  unfold Event.variableOwner?
  split
  · rename_i hmarked htask
    simp [VariablePayload.ofTask, hmarked, htask] at hof
  · rw [h.owner, Option.map_some]

theorem Bindings.step_other (M : Bindings) (hk : e.kind? = some k)
    (hother : k.family ≠ .variable ∧ k ≠ .processDeleted) : M.step s e = M := by
  rw [step, hk]
  cases k with
  | variableCreated | variableUpdated | variableDeleted => exact absurd rfl hother.1
  | processDeleted => exact absurd rfl hother.2
  | _ => rfl

theorem Effect.binds (hs : s.Sound) (hk : e.kind? = some k) (h : Effect u e s k s') {M : Bindings}
    (hM : s.Binds M) : s'.Binds (M.step s e) := by
  have same (hcolumns : s'.columns? = s.columns?) (hother : k.family ≠ .variable ∧ k ≠ .processDeleted) :
      s'.Binds (M.step s e) := by
    intro owner name
    rw [M.step_other hk hother, hcolumns, hM]
  cases h with
  | @definitionDeployed p hp =>
    obtain ⟨ds, ms, heq⟩ := s.withDefinition_eq e p
    exact same (by rw [heq]; rfl) (by decide)
  | @instanceDeleted p r hp hr hfinal =>
    intro owner name
    rw [Store.columns?_withoutInstance hs, (Table.lookup_mem hr).2, hM, Bindings.step, hk]
    simp only [Bindings.unbind, hp]
    split <;> rfl
  | @taskVariableKnown p taskId t v hp ht hv =>
    exact hM.created hp.payload hp.variableOwner hk (.stay (by simp [Store.columns?, hv]))
  | @taskVariableMade p taskId t hp ht hv =>
    have hcolumns : s.columns? (.ofTask taskId) p.name = none := by simp [Store.columns?, hv]
    refine hM.created hp.payload hp.variableOwner hk ?_
    rw [hcolumns]
    exact Store.sets_taskVariable u (v := newTaskVariable e p t (u.draw s).1 taskId) hv
  | @variableKnown p instanceId r v hp hr hv =>
    exact hM.created hp.payload hp.variableOwner hk (.stay (by simp [Store.columns?, hv]))
  | @variableMade p instanceId r hp hr hv =>
    have hcolumns : s.columns? (.ofInstance instanceId) p.name = none := by simp [Store.columns?, hv]
    refine hM.created hp.payload hp.variableOwner hk ?_
    rw [hcolumns]
    exact Store.sets_variable u (v := newVariable e p (u.draw s).1 instanceId) hv
  | @taskVariableKept p taskId t hp ht hfinal =>
    exact hM.updated hp.payload hp.variableOwner hk (.stay (by simp [Store.isOpen, ht, hfinal]))
  | @taskVariableRevalued p taskId t v hp ht hopen hv =>
    have hcolumns : s.columns? (.ofTask taskId) p.name = some v.columns := by simp [Store.columns?, hv]
    refine hM.updated hp.payload hp.variableOwner hk ?_
    rw [Store.isOpen_ofTask.2 ⟨t, ht, hopen⟩, hcolumns]
    obtain ⟨hmem, rfl, hn⟩ := Store.findTaskVariable_mem hv
    exact hn ▸ Store.sets_replaceTaskVariable hs (w := revalueTask e p v) hmem rfl rfl
  | @variableKept p instanceId r hp hr hfinal =>
    exact hM.updated hp.payload hp.variableOwner hk (.stay (by simp [Store.isOpen, hr, hfinal]))
  | @variableRevalued p instanceId r v hp hr hopen hv =>
    have hcolumns : s.columns? (.ofInstance instanceId) p.name = some v.columns := by simp [Store.columns?, hv]
    refine hM.updated hp.payload hp.variableOwner hk ?_
    rw [Store.isOpen_ofInstance.2 ⟨r, hr, hopen⟩, hcolumns]
    obtain ⟨hmem, rfl, hn⟩ := Store.findVariable_mem hv
    exact hn ▸ Store.sets_replaceVariable hs (w := revalue e p v) hmem rfl rfl
  | @taskVariableSpared p taskId hp hspared =>
    refine hM.deleted hp.payload hp.variableOwner hk (.stay ?_)
    split
    · rename_i hopen
      obtain ⟨t, ht, hopen⟩ := Store.isOpen_ofTask.1 hopen
      simp [Store.columns?, hspared t ht hopen]
    · rfl
  | @taskVariableDropped p taskId t v hp ht hopen hv =>
    refine hM.deleted hp.payload hp.variableOwner hk ?_
    rw [Store.isOpen_ofTask.2 ⟨t, ht, hopen⟩]
    obtain ⟨hmem, rfl, hn⟩ := Store.findTaskVariable_mem hv
    exact hn ▸ Store.sets_deleteTaskVariable hs hmem
  | @variableSpared p instanceId hp hspared =>
    refine hM.deleted hp.payload hp.variableOwner hk (.stay ?_)
    split
    · rename_i hopen
      obtain ⟨r, hr, hopen⟩ := Store.isOpen_ofInstance.1 hopen
      simp [Store.columns?, hspared r hr hopen]
    · rfl
  | @variableDropped p instanceId r v hp hr hopen hv =>
    refine hM.deleted hp.payload hp.variableOwner hk ?_
    rw [Store.isOpen_ofInstance.2 ⟨r, hr, hopen⟩]
    obtain ⟨hmem, rfl, hn⟩ := Store.findVariable_mem hv
    exact hn ▸ Store.sets_withoutVariable hs hmem
  | instancePassed hchange | instanceChanged hchange =>
    exact same (Store.columns?_congr rfl rfl) (by cases hchange <;> decide)
  | taskPassed hchange | taskChanged hchange =>
    exact same (Store.columns?_congr rfl rfl) (by cases hchange <;> decide)
  | candidatePassed hchange | taskCandidateChanged hchange | starterChanged hchange =>
    exact same (Store.columns?_congr rfl rfl) (by cases hchange <;> decide)
  | activityEntered hchange =>
    exact same (Store.columns?_congr rfl rfl) (by cases hchange <;> decide)
  | callChanged hchange =>
    exact same (Store.columns?_congr rfl rfl) (by cases hchange <;> decide)
  | _ => exact same (Store.columns?_congr rfl rfl) (by decide)

theorem Course.binds {past : List Moment} (h : Course s past s') (hs : s.Inv) {M : Bindings}
    (hM : s.Binds M) : s'.Binds (M.follow s past) := by
  induction h generalizing M with
  | stay => exact hM
  | @step s s₁ s' rest g u e hg hok _ ih =>
    obtain ⟨k, hk⟩ := Registry.kind_of_handles hg
    have heffect := Registry.effect_of_step hs hg hk hok
    exact ih (Registry.step_inv hs hok) (heffect.binds hs.toSound hk hM)

/-- After every history of batches an owner has a variable of a name exactly if the map that its events
make binds it, and the row holds the value of the map as text, its type and its two dates. -/
theorem variables_bound {past : List Moment} (h : Store.History {} past s) :
    let M := Bindings.empty.follow {} past
    (∀ instanceId name, (s.findVariable instanceId name).map ProcessVariable.columns =
      (M (.ofInstance instanceId) name).map Binding.columns) ∧
    ∀ taskId name, (s.findTaskVariable taskId name).map TaskVariable.columns =
      (M (.ofTask taskId) name).map Binding.columns := by
  intro M
  have hempty : ({} : Store).Binds Bindings.empty := fun owner name => by cases owner <;> rfl
  have hbinds := (h.course Store.inv_empty).binds Store.inv_empty hempty
  exact ⟨fun instanceId name => hbinds (.ofInstance instanceId) name,
    fun taskId name => hbinds (.ofTask taskId) name⟩

namespace Sample

/-- A note at the first task of the first order. -/
def noted (typeName : String) (fields : List (String × Json)) : Event :=
  event typeName ([("name", .str "note"), ("taskId", .str "t1"), ("taskVariable", .bool true)] ++ fields)

/-- An order whose amount gets another value and is then taken back, with a note that outlives its task. -/
def amounts : List Event := [
  ofInstance "PROCESS_CREATED" "p1", ofTask "TASK_CREATED" "t1" "p1",
  event "VARIABLE_CREATED" [("name", .str "amount"), ("type", .str "integer"), ("value", .int 7),
    ("processInstanceId", .str "p1")],
  noted "VARIABLE_CREATED" [("value", .str "check")],
  { ofVariable "VARIABLE_UPDATED" "amount" "p1" with timestamp := 1700000005000 },
  ofVariable "VARIABLE_CREATED" "draft" "p1", ofVariable "VARIABLE_DELETED" "draft" "p1",
  ofTask "TASK_COMPLETED" "t1" "p1", noted "VARIABLE_UPDATED" [], noted "VARIABLE_DELETED" []]

end Sample

/-- The amount loses its value and keeps its type, the draft is gone, and the note stays. -/
theorem variables_bound_amounts :
    let s := (Registry.full.consume Supply.counting.backend Sample.amounts {}).2
    (s.findVariable "p1" "amount").map ProcessVariable.columns =
        some ⟨none, some "integer", Instant.ofMillis? 1700000000000, Instant.ofMillis? 1700000005000⟩ ∧
      (s.findVariable "p1" "draft").map ProcessVariable.columns = none ∧
      ((s.findTaskVariable "t1" "note").map TaskVariable.columns).bind VariableColumns.value =
        some "\"check\"" := by
  intro s
  obtain ⟨hinstances, htasks⟩ := variables_bound
    (.consume (.start {}) Registry.full Supply.counting Sample.amounts)
  rw [hinstances, hinstances, htasks]
  exact ⟨by decide +kernel, by decide +kernel, by decide +kernel⟩

end FlowView
