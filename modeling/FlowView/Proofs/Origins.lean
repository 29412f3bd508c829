import FlowView.Proofs.Births
import FlowView.Proofs.Histories
/-!
# Origins

What a row says of where it comes from is written when the row is made. Every save writes a whole row, but
no event makes another origin of it (`TaskFate.origin` and its siblings), so a row keeps its origin as long
as it is there (`origins_kept`).
-/

namespace FlowView

open Projection

variable {u : Supply} {e : Event} {s s' : Store} {k : EventKind} {id : String}

/-! ## Where rows come from -/

def ProcessInstance.origin (r : ProcessInstance) := (r.definition, r.definitionName, r.initiator, r.parentId, r.service)

def UserTask.origin (t : UserTask) :=
  (t.instanceId, t.createdDate, t.owner, t.definitionId, t.definitionVersion, t.businessKey,
    t.taskDefinitionKey, t.service)

def ProcessVariable.origin (v : ProcessVariable) := (v.instanceId, v.name, v.createTime, v.service)

def TaskVariable.origin (v : TaskVariable) := (v.taskId, v.instanceId, v.name, v.createTime, v.service)

def Activity.origin (a : Activity) :=
  (a.elementId, a.instanceId, a.executionId, a.definition, a.businessKey, a.service)

def IntegrationCall.origin (c : IntegrationCall) :=
  (c.instanceId, c.rootInstanceId, c.parentInstanceId, c.executionId, c.clientId, c.clientName, c.clientType,
    c.connectorType, c.definition, c.businessKey, c.service)

/-! ## One event -/

theorem InstanceFate.origin {r r' : ProcessInstance} (h : InstanceFate e k r (some r')) :
    r'.origin = r.origin := by
  cases h with
  | kept => rfl
  | changed hk => cases hk <;> rfl
  | completed => rfl

theorem TaskFate.origin {t t' : UserTask} (h : TaskFate e k t (some t')) : t'.origin = t.origin := by
  cases h with
  | kept => rfl
  | changed hk => cases hk <;> rfl
  | cancelled => rfl

theorem VariableFate.origin {v v' : ProcessVariable} (h : VariableFate e s k v (some v')) :
    v'.origin = v.origin := by
  cases h <;> rfl

theorem TaskVariableFate.origin {v v' : TaskVariable} (h : TaskVariableFate e s k v (some v')) :
    v'.origin = v.origin := by
  cases h <;> rfl

theorem enter_origin (status : ActivityStatus) (time : Instant) (a : Activity) :
    (enter status time a).origin = a.origin := by
  cases status <;> rfl

theorem ActivityFate.origin {a a' : Activity} (h : ActivityFate e k id (some a) (some a')) :
    a'.origin = a.origin := by
  refine h.keeps ?_ (fun _ => rfl) fun status b hb => (enter_origin status e.time b).trans hb
  rintro _ ⟨⟩
  rfl

theorem CallFate.origin {c c' : IntegrationCall} (h : CallFate e k id (some c) (some c')) :
    c'.origin = c.origin := by
  cases h with
  | kept => rfl
  | changed hk => cases hk <;> rfl

section Effects

variable (hs : s.Sound) (h : Effect u e s k s')
include hs h

theorem Effect.instance_origin {r r' : ProcessInstance} (hr : s.instance? id = some r)
    (hr' : s'.instance? id = some r') : r'.origin = r.origin := by
  obtain ⟨hmem, rfl⟩ := Table.lookup_mem hr
  have hfate := h.instance_fate hs hmem
  rw [hr'] at hfate
  exact hfate.origin

theorem Effect.task_origin {t t' : UserTask} (ht : s.task? id = some t) (ht' : s'.task? id = some t') :
    t'.origin = t.origin := by
  obtain ⟨hmem, rfl⟩ := Table.lookup_mem ht
  have hfate := h.task_fate hs hmem
  rw [ht'] at hfate
  exact hfate.origin

theorem Effect.variable_origin {v v' : ProcessVariable} (hv : s.processVariable? id = some v)
    (hv' : s'.processVariable? id = some v') : v'.origin = v.origin := by
  obtain ⟨hmem, rfl⟩ := Table.lookup_mem hv
  have hfate := h.variable_fate hs hmem
  rw [hv'] at hfate
  exact hfate.origin

theorem Effect.taskVariable_origin {v v' : TaskVariable} (hv : s.taskVariable? id = some v)
    (hv' : s'.taskVariable? id = some v') : v'.origin = v.origin := by
  obtain ⟨hmem, rfl⟩ := Table.lookup_mem hv
  have hfate := h.taskVariable_fate hs hmem
  rw [hv'] at hfate
  exact hfate.origin

theorem Effect.activity_origin {a a' : Activity} (ha : s.activity? id = some a)
    (ha' : s'.activity? id = some a') : a'.origin = a.origin := by
  have hfate := h.activity_fate hs id
  rw [ha, ha'] at hfate
  exact hfate.origin

theorem Effect.call_origin {c c' : IntegrationCall} (hc : s.integration? id = some c)
    (hc' : s'.integration? id = some c') : c'.origin = c.origin := by
  have hfate := h.call_fate hs id
  rw [hc, hc'] at hfate
  exact hfate.origin

theorem Effect.flow_same {f f' : SequenceFlow} (hf : s.flow? id = some f) (hf' : s'.flow? id = some f') :
    f' = f := by
  rcases h.flow_fate hs hf with hsame | hnone
  · exact Option.some.inj (hf'.symm.trans hsame)
  · cases hf'.symm.trans hnone

end Effects

/-! ## A history -/

/-- A row that is there keeps its origin over some moments, unless one of them deletes it. -/
def KeepsOrigin {α β : Type} (find : Store → Option α) (origin : α → β) (s : Store) (past : List Moment)
    (s' : Store) : Prop :=
  ∀ r, find s = some r → (∀ m ∈ past, (find m.after).isSome = true) →
    ∃ r', find s' = some r' ∧ origin r' = origin r

/-- An origin that no event changes lasts as long as the row does. -/
theorem Course.keepsOrigin {α β : Type} {find : Store → Option α} {origin : α → β} {past : List Moment}
    (h : Course s past s') (hs : s.Inv)
    (hstep : ∀ {u e k s s' r r'}, s.Sound → Effect u e s k s' → find s = some r → find s' = some r' →
      origin r' = origin r) : KeepsOrigin find origin s past s' := by
  induction h with
  | stay => exact fun r hr _ => ⟨r, hr, rfl⟩
  | @step s s₁ s' rest g u e hg hok hrest ih =>
    intro r hr hpast
    obtain ⟨r₁, hr₁⟩ := Option.isSome_iff_exists.1 (hpast _ List.mem_cons_self)
    obtain ⟨k, hk⟩ := Registry.kind_of_handles hg
    have hsame : origin r₁ = origin r :=
      hstep hs.toSound (Registry.effect_of_step hs hg hk hok) hr hr₁
    obtain ⟨r', hr', hrest'⟩ :=
      ih (Registry.step_inv hs hok) r₁ hr₁ fun m hm => hpast m (List.mem_cons_of_mem _ hm)
    exact ⟨r', hr', hrest'.trans hsame⟩

/-- Over a history of batches every row that is not deleted keeps where it comes from, and a sequence flow
all that it is. -/
theorem origins_kept (hs : s.Reachable) {past : List Moment} (h : s.History past s') (id : String) :
    KeepsOrigin (·.instance? id) ProcessInstance.origin s past s' ∧
    KeepsOrigin (·.task? id) UserTask.origin s past s' ∧
    KeepsOrigin (·.processVariable? id) ProcessVariable.origin s past s' ∧
    KeepsOrigin (·.taskVariable? id) TaskVariable.origin s past s' ∧
    KeepsOrigin (·.activity? id) Activity.origin s past s' ∧
    KeepsOrigin (·.integration? id) IntegrationCall.origin s past s' ∧
    KeepsOrigin (·.flow? id) (fun f => f) s past s' := by
  have hcourse := h.course hs.inv
  refine ⟨?_, ?_, ?_, ?_, ?_, ?_, ?_⟩
  · exact hcourse.keepsOrigin hs.inv fun hs heffect => heffect.instance_origin hs
  · exact hcourse.keepsOrigin hs.inv fun hs heffect => heffect.task_origin hs
  · exact hcourse.keepsOrigin hs.inv fun hs heffect => heffect.variable_origin hs
  · exact hcourse.keepsOrigin hs.inv fun hs heffect => heffect.taskVariable_origin hs
  · exact hcourse.keepsOrigin hs.inv fun hs heffect => heffect.activity_origin hs
  · exact hcourse.keepsOrigin hs.inv fun hs heffect => heffect.call_origin hs
  · exact hcourse.keepsOrigin hs.inv fun hs heffect => heffect.flow_same hs

namespace Sample

/-- Events that name another instance, owner and creation of a task that is there. -/
def claims : List Event :=
  ["TASK_CREATED", "TASK_UPDATED", "TASK_ASSIGNED", "TASK_COMPLETED"].map fun typeName =>
    event typeName [("id", .str "t2"), ("processInstanceId", .str "p2"), ("owner", .str "kim"),
      ("createdDate", .int 0), ("businessKey", .str "other")]

end Sample

/-- All four events are handled, and the task is completed where it comes from. -/
theorem origins_kept_completed :
    let s' := (Registry.full.consume Supply.counting.backend Sample.claims Sample.store).2
    (Registry.full.recorded Supply.counting.backend Sample.claims Sample.store).length = 4 ∧
      ∃ t t', Sample.store.task? "t2" = some t ∧ s'.task? "t2" = some t' ∧
        t.status = .created ∧ t'.status = .completed ∧ t'.origin = t.origin := by
  intro s'
  obtain ⟨t, ht, hcreated⟩ : ∃ t, Sample.store.task? "t2" = some t ∧ t.status = .created := ⟨_, rfl, rfl⟩
  obtain ⟨-, htask, -⟩ := origins_kept Sample.reachable
    (.consume (.start Sample.store) Registry.full Supply.counting Sample.claims) "t2"
  obtain ⟨t', ht', horigin⟩ := htask t ht (by decide +kernel)
  have hcompleted : (s'.task? "t2").map UserTask.status = some .completed := by decide +kernel
  rw [show s'.task? "t2" = some t' from ht', Option.map_some, Option.some.injEq] at hcompleted
  exact ⟨by decide +kernel, t, t', ht, ht', hcreated, hcompleted, horigin⟩

end FlowView
