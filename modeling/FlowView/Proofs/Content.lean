import FlowView.Proofs.Snapshot
import Mathlib.Algebra.Order.Group.Multiset
import Mathlib.Data.Multiset.Filter
import Mathlib.Algebra.BigOperators.Group.List.Basic
import Mathlib.Tactic.Abel
/-!
# The content of the tables

Variables and flows have ids that are generated, and links between tasks and variables name them. What
the tables say otherwise is their content: the rows of all tables without generated ids, in no order. Two
stores of the same content have the same tables up to the choice of generated ids (`SameTables.of_content`).
-/

namespace FlowView

/-! ## Rows without generated ids -/

/-- A variable less its id. -/
def ProcessVariable.anonymous (v : ProcessVariable) : ProcessVariable := { v with id := "" }

/-- A variable of a task less its id. -/
def TaskVariable.anonymous (v : TaskVariable) : TaskVariable := { v with id := "" }

/-- A flow less its id. -/
def SequenceFlow.anonymous (f : SequenceFlow) : SequenceFlow := { f with id := "" }

/-- A row of any table, less an id that was generated for it. A link says which variable the task shows
by the variable's instance and name. -/
inductive Entry
  | processInstance (r : ProcessInstance)
  | task (t : UserTask)
  | processVariable (v : ProcessVariable)
  | taskVariable (v : TaskVariable)
  | shown (taskId instanceId name : String)
  | candidate (c : Candidate)
  | activity (a : Activity)
  | flow (f : SequenceFlow)
  | integration (c : IntegrationCall)
  | definition (r : ProcessDefinition)
  | model (r : ProcessModel)
  | application (r : Application)
  deriving DecidableEq

/-- The flow that a row is. -/
def Entry.flow? : Entry → Option SequenceFlow
  | .flow f => some f
  | _ => none

namespace Store

/-- The variable that a link names. -/
def linked? (s : Store) (l : VariableLink) : Option ProcessVariable :=
  Table.lookup ProcessVariable.id l.variableId s.processVariables

/-- What a link says, if its variable is there. -/
def shown? (s : Store) (l : VariableLink) : Option Entry :=
  (s.linked? l).map fun v => .shown l.taskId v.instanceId v.name

/-- The content of each table. -/
def parts (s : Store) : List (List Entry) := [
  s.instances.map Entry.processInstance,
  s.tasks.map Entry.task,
  s.processVariables.map fun v => Entry.processVariable v.anonymous,
  s.taskVariables.map fun v => Entry.taskVariable v.anonymous,
  s.links.filterMap s.shown?,
  s.candidates.map Entry.candidate,
  s.activities.map Entry.activity,
  s.flows.map fun f => Entry.flow f.anonymous,
  s.integrations.map Entry.integration,
  s.definitions.map Entry.definition,
  s.models.map Entry.model,
  s.applications.map Entry.application]

/-- What the tables say. -/
def content (s : Store) : Multiset Entry := s.parts.flatten

variable {s s' t : Store}

/-- Is this row in the tables? -/
def Holds (s : Store) : Entry → Prop
  | .processInstance r => r ∈ s.instances
  | .task t => t ∈ s.tasks
  | .processVariable v => ∃ w ∈ s.processVariables, w.anonymous = v
  | .taskVariable v => ∃ w ∈ s.taskVariables, w.anonymous = v
  | .shown taskId instanceId name => ∃ v ∈ s.processVariables, v.instanceId = instanceId ∧ v.name = name ∧
      ⟨taskId, v.id⟩ ∈ s.links
  | .candidate c => c ∈ s.candidates
  | .activity a => a ∈ s.activities
  | .flow f => ∃ g ∈ s.flows, g.anonymous = f
  | .integration c => c ∈ s.integrations
  | .definition r => r ∈ s.definitions
  | .model r => r ∈ s.models
  | .application r => r ∈ s.applications

theorem Sound.linked?_eq_some (hs : s.Sound) {l : VariableLink} {v : ProcessVariable} :
    s.linked? l = some v ↔ v ∈ s.processVariables ∧ v.id = l.variableId :=
  Table.lookup_eq_some hs.variableIds

theorem Sound.shown?_eq_some (hs : s.Sound) {l : VariableLink} {x : Entry} :
    s.shown? l = some x ↔
      ∃ v ∈ s.processVariables, v.id = l.variableId ∧ x = .shown l.taskId v.instanceId v.name := by
  simp [shown?, hs.linked?_eq_some, and_assoc, eq_comm]

theorem Sound.mem_content (hs : s.Sound) {x : Entry} : x ∈ s.content ↔ s.Holds x := by
  cases x with
  | shown taskId instanceId name =>
    have hlinks : Entry.shown taskId instanceId name ∈ s.content ↔
        ∃ l ∈ s.links, s.shown? l = some (.shown taskId instanceId name) := by
      simp [content, parts]
    rw [hlinks]
    simp only [hs.shown?_eq_some, Entry.shown.injEq]
    constructor
    · rintro ⟨l, hl, v, hv, hid, rfl, rfl, rfl⟩
      exact ⟨v, hv, rfl, rfl, hid ▸ hl⟩
    · rintro ⟨v, hv, rfl, rfl, hl⟩
      exact ⟨_, hl, v, hv, rfl, rfl, rfl, rfl⟩
  | _ => simp [content, parts, Holds, shown?]

/-- What the tables say when one of them says `T`. -/
theorem content_set {n : Nat} {T : List Entry} (hn : n < s.parts.length) (hs' : s'.parts = s.parts.set n T) :
    s'.content = (s.parts.take n).flatten + T + (s.parts.drop (n + 1)).flatten := by
  rw [content, hs', List.set_eq_take_append_cons_drop, if_pos hn]
  simp [add_assoc, ← Multiset.coe_add]

/-- Where the content of one table is exchanged for another, so is that of all. -/
theorem content_swap (n : Nat) {T T' O N : List Entry} (hs : s.parts[n]? = some T)
    (hs' : s'.parts = s.parts.set n T') (h : (T' ++ O).Perm (T ++ N)) : s'.content + O = s.content + N := by
  obtain ⟨hn, hT⟩ := List.getElem?_eq_some_iff.1 hs
  have hself : s.parts = s.parts.set n T := by rw [← hT, List.set_getElem_self]
  have hcoe : (T' : Multiset Entry) + O = T + N := Multiset.coe_eq_coe.2 h
  rw [content_set hn hs', content_set hn hself]
  calc _ = ((s.parts.take n).flatten + (s.parts.drop (n + 1)).flatten : Multiset Entry) + (T' + O) := by abel
    _ = ((s.parts.take n).flatten + (s.parts.drop (n + 1)).flatten : Multiset Entry) + (T + N) := by rw [hcoe]
    _ = _ := by abel

/-! ## The same tables up to generated ids -/

/-- Renaming the generated ids of variables, of tasks' variables and of flows makes the tables of the one
store those of the other, with their rows in some order. -/
structure Renamed (ofVariable ofTaskVariable ofFlow : String → String) (s t : Store) : Prop where
  instances : s.instances.Perm t.instances
  tasks : s.tasks.Perm t.tasks
  processVariables : (s.processVariables.map fun v => { v with id := ofVariable v.id }).Perm t.processVariables
  taskVariables : (s.taskVariables.map fun v => { v with id := ofTaskVariable v.id }).Perm t.taskVariables
  links : (s.links.map fun l => { l with variableId := ofVariable l.variableId }).Perm t.links
  candidates : s.candidates.Perm t.candidates
  activities : s.activities.Perm t.activities
  flows : (s.flows.map fun f => { f with id := ofFlow f.id }).Perm t.flows
  integrations : s.integrations.Perm t.integrations
  definitions : s.definitions.Perm t.definitions
  models : s.models.Perm t.models
  applications : s.applications.Perm t.applications
  foreignStatuses : s.foreignStatuses = t.foreignStatuses

/-- The same tables up to the choice of generated ids. -/
def SameTables (s t : Store) : Prop :=
  ∃ ofVariable ofTaskVariable ofFlow, Renamed ofVariable ofTaskVariable ofFlow s t

/-- Rows that agree in all but their ids become the same when the ids are renamed. -/
theorem exists_renaming {α : Type} {id : α → String} (rename : α → String → α) {anonymous : α → α}
    (hrename : ∀ x y, anonymous x = anonymous y → rename x (id y) = y) {xs ys : List α}
    (hn : (xs.map id).Nodup) (h : (xs.map anonymous).Perm (ys.map anonymous)) :
    ∃ new : String → String, (xs.map fun x => rename x (new (id x))).Perm ys := by
  have hpairs : List.Forall₂ (fun a y => a = anonymous y) (ys.map anonymous) ys :=
    List.forall₂_map_left_iff.2 (List.forall₂_same.2 fun _ _ => rfl)
  obtain ⟨zs, hzs, hperm⟩ := List.perm_comp_forall₂ h hpairs
  suffices hnew : ∃ new : String → String, (xs.map fun x => rename x (new (id x))) = zs by
    obtain ⟨new, hnew⟩ := hnew
    exact ⟨new, hnew ▸ hperm⟩
  clear hpairs hperm h
  rw [List.forall₂_map_left_iff] at hzs
  induction hzs with
  | nil => exact ⟨fun i => i, rfl⟩
  | @cons x z xs zs hxz _ ih =>
    rw [List.map_cons, List.nodup_cons] at hn
    obtain ⟨new, hnew⟩ := ih hn.2
    refine ⟨fun i => if i = id x then id z else new i, ?_⟩
    have hrest : xs.map (fun y => rename y (if id y = id x then id z else new (id y))) = zs := by
      rw [← hnew]
      refine List.map_congr_left fun y hy => ?_
      have hne : id y ≠ id x := fun heq => hn.1 (heq ▸ List.mem_map_of_mem hy)
      rw [if_neg hne]
    simp [hrest, hrename x z hxz]

/-- Flows may agree in all but their ids, so that what they say has to be counted. -/
theorem filterMap_flow (s : Store) :
    s.parts.flatten.filterMap Entry.flow? = s.flows.map SequenceFlow.anonymous := by
  have hlinks : s.links.filterMap (fun l => (s.shown? l).bind Entry.flow?) = [] := by
    simp [shown?, Entry.flow?]
  simp [parts, List.filterMap_append, List.filterMap_map, Function.comp_def, Entry.flow?,
    List.filterMap_filterMap, hlinks]

theorem Sound.nodup_anonymous (hs : s.Sound) : (s.processVariables.map ProcessVariable.anonymous).Nodup := by
  refine .of_map Cache.variableKey ?_
  rw [List.map_map]
  exact hs.variableKeys

theorem Sound.nodup_taskAnonymous (hs : s.Sound) : (s.taskVariables.map TaskVariable.anonymous).Nodup := by
  refine .of_map (fun v => (v.taskId, v.name)) ?_
  rw [List.map_map]
  exact hs.taskVariableKeys

/-- What a link of sound tables says tells its variable. -/
theorem Sound.link_iff (hs : s.Sound) {taskId : String} {v : ProcessVariable} (hv : v ∈ s.processVariables) :
    s.Holds (.shown taskId v.instanceId v.name) ↔ ⟨taskId, v.id⟩ ∈ s.links := by
  constructor
  · rintro ⟨w, hw, hi, hn, hl⟩
    rwa [hs.variableKey_inj hw hv hi hn] at hl
  · exact fun hl => ⟨v, hv, rfl, rfl, hl⟩

/-- Where variables are renamed, so are the links to them. -/
theorem Sound.perm_links (hs : s.Sound) (ht : t.Sound) (hholds : ∀ x, s.Holds x ↔ t.Holds x) {new : String → String}
    (hnew : (s.processVariables.map fun v => { v with id := new v.id }).Perm t.processVariables) :
    (s.links.map fun l => { l with variableId := new l.variableId }).Perm t.links := by
  have hmoved {v : ProcessVariable} (hv : v ∈ s.processVariables) :
      { v with id := new v.id } ∈ t.processVariables := hnew.mem_iff.1 (List.mem_map_of_mem hv)
  have hlinks (taskId : String) {v : ProcessVariable} (hv : v ∈ s.processVariables) :
      (⟨taskId, new v.id⟩ : VariableLink) ∈ t.links ↔ ⟨taskId, v.id⟩ ∈ s.links :=
    (ht.link_iff (hmoved hv)).symm.trans ((hholds _).symm.trans (hs.link_iff hv))
  have hinj : ∀ l ∈ s.links, ∀ l' ∈ s.links, (⟨l.taskId, new l.variableId⟩ : VariableLink) =
      ⟨l'.taskId, new l'.variableId⟩ → l = l' := by
    rintro ⟨taskId, id⟩ hl ⟨taskId', id'⟩ hl' heq
    obtain ⟨v, hv, rfl⟩ := Table.has_iff.1 (hs.linkVariables _ hl)
    obtain ⟨v', hv', rfl⟩ := Table.has_iff.1 (hs.linkVariables _ hl')
    obtain ⟨rfl, hid⟩ := VariableLink.mk.inj heq
    have hsame := List.inj_on_of_nodup_map ht.variableIds (hmoved hv) (hmoved hv') hid
    obtain ⟨-, hi, hname, -⟩ := ProcessVariable.mk.inj hsame
    rw [hs.variableKey_inj hv hv' hi hname]
  refine (List.perm_ext_iff_of_nodup (hs.links.map_on hinj) ht.links).2 fun ⟨taskId, id⟩ => ?_
  rw [List.mem_map]
  constructor
  · rintro ⟨⟨taskId', id'⟩, hl, heq⟩
    obtain ⟨v, hv, rfl⟩ := Table.has_iff.1 (hs.linkVariables _ hl)
    exact heq ▸ (hlinks taskId' hv).2 hl
  · intro hl
    obtain ⟨w, hw, rfl⟩ := Table.has_iff.1 (ht.linkVariables _ hl)
    obtain ⟨v, hv, rfl⟩ := List.mem_map.1 (hnew.mem_iff.2 hw)
    exact ⟨⟨taskId, v.id⟩, (hlinks taskId hv).1 hl, rfl⟩

theorem SameTables.of_content (hs : s.Sound) (ht : t.Sound) (h : s.content = t.content) : SameTables s t := by
  have hholds (x : Entry) : s.Holds x ↔ t.Holds x := by rw [← hs.mem_content, ← ht.mem_content, h]
  have hvariables : (s.processVariables.map ProcessVariable.anonymous).Perm
      (t.processVariables.map ProcessVariable.anonymous) :=
    (List.perm_ext_iff_of_nodup hs.nodup_anonymous ht.nodup_anonymous).2 fun v => by
      simpa [Holds] using hholds (.processVariable v)
  have htaskVariables : (s.taskVariables.map TaskVariable.anonymous).Perm
      (t.taskVariables.map TaskVariable.anonymous) :=
    (List.perm_ext_iff_of_nodup hs.nodup_taskAnonymous ht.nodup_taskAnonymous).2 fun v => by
      simpa [Holds] using hholds (.taskVariable v)
  have hflows : (s.flows.map SequenceFlow.anonymous).Perm (t.flows.map SequenceFlow.anonymous) := by
    rw [← filterMap_flow, ← filterMap_flow]
    exact (Multiset.coe_eq_coe.1 h).filterMap _
  obtain ⟨ofVariable, hofVariable⟩ := exists_renaming (fun v id => { v with id })
    (fun v w hvw => by cases v; cases w; simpa [ProcessVariable.anonymous] using hvw) hs.variableIds hvariables
  obtain ⟨ofTaskVariable, hofTaskVariable⟩ := exists_renaming (fun v id => { v with id })
    (fun v w hvw => by cases v; cases w; simpa [TaskVariable.anonymous] using hvw) hs.taskVariableIds
    htaskVariables
  obtain ⟨ofFlow, hofFlow⟩ := exists_renaming (fun f id => { f with id })
    (fun f g hfg => by cases f; cases g; simpa [SequenceFlow.anonymous] using hfg) hs.flowIds hflows
  refine ⟨ofVariable, ofTaskVariable, ofFlow, {
    instances := (List.perm_ext_iff_of_nodup hs.instanceIds.of_map ht.instanceIds.of_map).2 fun r =>
      hholds (.processInstance r)
    tasks := (List.perm_ext_iff_of_nodup hs.taskIds.of_map ht.taskIds.of_map).2 fun r => hholds (.task r)
    processVariables := hofVariable
    taskVariables := hofTaskVariable
    links := hs.perm_links ht hholds hofVariable
    candidates := (List.perm_ext_iff_of_nodup hs.candidates ht.candidates).2 fun r => hholds (.candidate r)
    activities := (List.perm_ext_iff_of_nodup hs.activityIds.of_map ht.activityIds.of_map).2 fun r =>
      hholds (.activity r)
    flows := hofFlow
    integrations := (List.perm_ext_iff_of_nodup hs.integrationIds.of_map ht.integrationIds.of_map).2 fun r =>
      hholds (.integration r)
    definitions := (List.perm_ext_iff_of_nodup hs.definitionIds.of_map ht.definitionIds.of_map).2 fun r =>
      hholds (.definition r)
    models := (List.perm_ext_iff_of_nodup hs.modelIds.of_map ht.modelIds.of_map).2 fun r => hholds (.model r)
    applications := (List.perm_ext_iff_of_nodup hs.applicationIds.of_map ht.applicationIds.of_map).2 fun r =>
      hholds (.application r)
    foreignStatuses := hs.statuses.trans ht.statuses.symm }⟩

end Store
end FlowView
