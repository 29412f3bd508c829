import FlowView.Proofs.Effects
import FlowView.Proofs.Faithful
import FlowView.Proofs.Fates
/-!
# The same change again

A row that is saved as it is there leaves its table as it is, and each change of a row made again leaves
the row as it was made the first time. So a deployment, an element and a call that were saved once leave
the tables as they are when they are saved again.
-/

namespace FlowView

open Projection

variable {e : Event} {s s' : Store} {k : EventKind}

/-! ## Saving what is there -/

namespace Store.Sound

theorem settle_eq (hs : s.Sound) (table : StatusTable) (picked : String → Bool) :
    s.settle table picked = s.foreignStatuses := (hs.settle table picked).trans hs.statuses.symm

theorem saveInstance_self (hs : s.Sound) {r : ProcessInstance} (h : r ∈ s.instances) :
    s.saveInstance r = s := by
  rw [Store.saveInstance, Table.upsert_self hs.instanceIds h rfl, hs.settle_eq]

theorem saveTask_self (hs : s.Sound) {t : UserTask} (h : t ∈ s.tasks) : s.saveTask t = s := by
  rw [Store.saveTask, Table.upsert_self hs.taskIds h rfl, hs.settle_eq]

theorem saveActivity_self (hs : s.Sound) {a : Activity} (h : a ∈ s.activities) : s.saveActivity a = s := by
  rw [Store.saveActivity, Table.upsert_self hs.activityIds h rfl, hs.settle_eq]

theorem saveIntegration_self (hs : s.Sound) {c : IntegrationCall} (h : c ∈ s.integrations) :
    s.saveIntegration c = s := by
  rw [Store.saveIntegration, Table.upsert_self hs.integrationIds h rfl, hs.settle_eq]

theorem saveDefinition_self (hs : s.Sound) {r : ProcessDefinition} (h : r ∈ s.definitions) :
    s.saveDefinition r = s := by
  rw [Store.saveDefinition, Table.upsert_self hs.definitionIds h rfl]

theorem saveModel_self (hs : s.Sound) {r : ProcessModel} (h : r ∈ s.models) : s.saveModel r = s := by
  rw [Store.saveModel, Table.upsert_self hs.modelIds h rfl]

theorem saveApplication_self (hs : s.Sound) {r : Application} (h : r ∈ s.applications) :
    s.saveApplication r = s := by
  rw [Store.saveApplication, Table.upsert_self hs.applicationIds h rfl]

theorem replaceVariable_self (hs : s.Sound) {v : ProcessVariable} (h : v ∈ s.processVariables) :
    s.replaceVariable v = s := by
  rw [Store.replaceVariable, Table.replace_self hs.variableIds h]

theorem replaceTaskVariable_self (hs : s.Sound) {v : TaskVariable} (h : v ∈ s.taskVariables) :
    s.replaceTaskVariable v = s := by
  rw [Store.replaceTaskVariable, Table.replace_self hs.taskVariableIds h]

end Store.Sound

/-! ## The same change again -/

theorem or_again {α : Type} (a b : Option α) : a.or (a.or b) = a.or b := by cases a <;> rfl

theorem InstanceChange.again {passes : InstanceStatus → Bool}
    {change : InstancePayload → Instant → ProcessInstance → ProcessInstance}
    (hk : InstanceChange k passes change) (p : InstancePayload) (time : Instant) (r : ProcessInstance) :
    change p time (change p time r) = change p time r := by
  cases hk with
  | started => simp only [start, or_again]
  | _ => rfl

theorem TaskChange.again {passes : TaskStatus → Bool} {change : TaskPayload → Instant → UserTask → UserTask}
    (hk : TaskChange k passes change) (p : TaskPayload) (time : Instant) (t : UserTask) :
    change p time (change p time t) = change p time t := by
  cases hk <;> rfl

theorem CandidateChange.again {role : Role} {change : Candidate → List Candidate → List Candidate}
    (hk : CandidateChange k role change) (c : Candidate) (cs : List Candidate) :
    change c (change c cs) = change c cs := by
  cases hk <;> simp [Table.adjoin_adjoin, Table.remove_remove]

theorem CallChange.again {element : Instant → Activity → Activity}
    {change : IntegrationPayload → Instant → IntegrationCall → IntegrationCall}
    (hk : CallChange k element change) (p : IntegrationPayload) (time : Instant) (c : IntegrationCall)
    (activityId : Option String) :
    change p time { change p time c with activityId } = { change p time c with activityId } := by
  cases hk <;> rfl

theorem revalue_again (e : Event) (p : VariablePayload) (v : ProcessVariable) :
    revalue e p (revalue e p v) = revalue e p v := by
  simp only [revalue, or_again]

theorem revalueTask_again (e : Event) (p : VariablePayload) (v : TaskVariable) :
    revalueTask e p (revalueTask e p v) = revalueTask e p v := by
  simp only [revalueTask, or_again]

/-! ## The same deployment, element or call again -/

theorem deploy_id (e : Event) (p : DefinitionPayload) : (deploy e p (s.findDefinition p.id)).id = p.id := by
  cases h : s.findDefinition p.id with
  | none => rfl
  | some r => exact (Table.lookup_mem h).2

theorem deploy_again (e : Event) (p : DefinitionPayload) (old : Option ProcessDefinition) :
    deploy e p (some (deploy e p old)) = deploy e p old := by
  simp only [deploy, Option.getD_some, or_again]

theorem withDefinition_again (hs' : (s.withDefinition e p).Sound) :
    (s.withDefinition e p).withDefinition e p = s.withDefinition e p := by
  have hfound : (s.withDefinition e p).findDefinition p.id = some (deploy e p (s.findDefinition p.id)) := by
    have hsaved : (s.saveDefinition (deploy e p (s.findDefinition p.id))).findDefinition p.id =
        some (deploy e p (s.findDefinition p.id)) :=
      (Table.lookup_replace _).trans (if_pos (deploy_id e p))
    unfold Store.withDefinition
    cases p.modelContent <;> exact hsaved
  have hdefinition := hs'.saveDefinition_self (Table.lookup_mem hfound).1
  generalize hr : deploy e p (s.findDefinition p.id) = r at hfound hdefinition
  have hagain : deploy e p (some r) = r := hr ▸ deploy_again e p _
  generalize hs₁ : s.withDefinition e p = s₁ at hs' hfound hdefinition ⊢
  unfold Store.withDefinition at hs₁ ⊢
  simp only [hfound, hagain, hdefinition]
  cases hm : p.modelContent with
  | none => rfl
  | some content =>
    simp only [hm, hr] at hs₁
    have hmodel : s₁.findModel r.id = some { definitionId := r.id, content } := by
      rw [← hs₁]
      exact (Table.lookup_replace _).trans (if_pos rfl)
    exact hs'.saveModel_self (Table.lookup_mem hmodel).1

theorem deployApplication_again (e : Event) (p : ApplicationPayload) (old : Option Application) :
    deployApplication e p (some (deployApplication e p old)) = deployApplication e p old := by
  cases hn : p.name <;> cases hv : p.version <;> simp [deployApplication, hn, hv, Option.or_assoc]

/-- An element that was saved refreshed and changed is found so. -/
theorem activity?_changed (hs : s.Sound) (e : Event) (seed : ActivitySeed) {f : Activity → Activity}
    (hf : ∀ a, (f a).id = a.id ∧ (f a).elementId = a.elementId ∧ (f a).instanceId = a.instanceId) :
    (s.saveActivity (f (refresh e seed (s.activity? seed.id)))).activity? seed.id =
      some (f (refresh e seed (s.activity? seed.id))) := by
  have hid : (f (refresh e seed (s.activity? seed.id))).id = seed.id := (hf _).1.trans (refresh_id e seed)
  have hfaithful := faithful_saveActivity hs e seed hf
  generalize f (refresh e seed (s.activity? seed.id)) = a at hid hfaithful
  rw [Store.activity?_saveActivity, if_pos hid]
  cases hold : s.activity? a.id with
  | none => rfl
  | some old => exact congrArg some (hfaithful old (Table.lookup_mem hold).1 (Table.lookup_mem hold).2)

theorem enter_again (status : ActivityStatus) (time : Instant) (e : Event) (seed : ActivitySeed)
    (old : Option Activity) :
    enter status time (refresh e seed (some (enter status time (refresh e seed old)))) =
      enter status time (refresh e seed old) := by
  cases old <;> cases status <;> simp [refresh, newActivity, enter, or_again]

theorem saveActivity_again (hs : s.Sound) (status : ActivityStatus) (e : Event) (seed : ActivitySeed)
    (hs' : (s.saveActivity (enter status e.time (refresh e seed (s.activity? seed.id)))).Sound) :
    let s' := s.saveActivity (enter status e.time (refresh e seed (s.activity? seed.id)))
    s'.saveActivity (enter status e.time (refresh e seed (s'.activity? seed.id))) = s' := by
  intro s'
  have hfound := activity?_changed hs e seed (enter_keeps status e.time)
  rw [show s'.activity? seed.id = _ from hfound, enter_again]
  exact hs'.saveActivity_self (Table.lookup_mem hfound).1

theorem CallChange.element_keeps {element : Instant → Activity → Activity}
    {change : IntegrationPayload → Instant → IntegrationCall → IntegrationCall}
    (hk : CallChange k element change) (time : Instant) (a : Activity) :
    (element time a).id = a.id ∧ (element time a).elementId = a.elementId ∧
      (element time a).instanceId = a.instanceId := by
  cases hk with
  | requested => exact ⟨rfl, rfl, rfl⟩
  | resultReceived => exact enter_keeps _ time a
  | errorReceived => exact enter_keeps _ time a

theorem CallChange.element_again {element : Instant → Activity → Activity}
    {change : IntegrationPayload → Instant → IntegrationCall → IntegrationCall}
    (hk : CallChange k element change) (time : Instant) (e : Event) (seed : ActivitySeed)
    (old : Option Activity) :
    element time (refresh e seed (some (element time (refresh e seed old)))) =
      element time (refresh e seed old) := by
  cases hk with
  | requested => cases old <;> simp [refresh, newActivity, or_again]
  | resultReceived => exact enter_again _ time e seed old
  | errorReceived => exact enter_again _ time e seed old

theorem CallChange.keeps {element : Instant → Activity → Activity}
    {change : IntegrationPayload → Instant → IntegrationCall → IntegrationCall}
    (hk : CallChange k element change) (p : IntegrationPayload) (time : Instant) (c : IntegrationCall) :
    (change p time c).id = c.id ∧ (change p time c).instanceId = c.instanceId ∧
      (change p time c).clientId = c.clientId := by
  cases hk <;> exact ⟨rfl, rfl, rfl⟩

/-- A call that was saved over what was there, or is new, is found as it was saved. -/
theorem integration?_saved {c c' : IntegrationCall} {key : String} {new : IntegrationCall}
    (hc : c = (s.integration? key).getD new) (hnew : new.id = key)
    (hkeeps : c'.id = c.id ∧ c'.instanceId = c.instanceId ∧ c'.clientId = c.clientId) :
    (s.saveIntegration c').integration? key = some c' := by
  obtain ⟨hid, hi, hclient⟩ := hkeeps
  have hsaved : (s.saveIntegration c').integration? key =
      if c'.id = key then some ((s.integration? c'.id).elim c' (Store.reviseIntegration · c'))
      else s.integration? key := Table.lookup_upsert (fun _ _ => rfl) key
  cases hold : s.integration? key with
  | none =>
    rw [hold] at hc
    have hkey : c'.id = key := hid.trans (hc ▸ hnew)
    rw [hsaved, if_pos hkey, hkey, hold]
    rfl
  | some old =>
    rw [hold] at hc
    obtain rfl : c = old := hc
    have hkey : c'.id = key := hid.trans (Table.lookup_mem hold).2
    rw [hsaved, if_pos hkey, hkey, hold]
    simp [Store.reviseIntegration, ← hi, ← hclient]

section Calls

variable {element : Instant → Activity → Activity}
  {change : IntegrationPayload → Instant → IntegrationCall → IntegrationCall} (hk : CallChange k element change)
  (e : Event) (p : IntegrationPayload)
include hk

/-- The element and the call are found as they were recorded. -/
theorem withCall_found (hs : s.Sound) :
    let a := refresh e (integrationSeed p) (s.activity? p.elementKey)
    let c := (s.integration? p.callKey).getD (newIntegration e p)
    (s.withCall e p element change).activity? p.elementKey = some (element e.time a) ∧
      (s.withCall e p element change).integration? p.callKey =
        some { change p e.time c with activityId := some a.id } := by
  intro a c
  exact ⟨activity?_changed hs e (integrationSeed p) (hk.element_keeps e.time),
    integration?_saved (s := s.saveActivity (element e.time a)) (c := c) rfl rfl (hk.keeps p e.time c)⟩

/-- Under other keys everything is found as before. -/
theorem withCall_other (s : Store) {id : String} :
    (id ≠ p.elementKey → (s.withCall e p element change).activity? id = s.activity? id) ∧
      (id ≠ p.callKey → (s.withCall e p element change).integration? id = s.integration? id) := by
  let a := refresh e (integrationSeed p) (s.activity? p.elementKey)
  let c := (s.integration? p.callKey).getD (newIntegration e p)
  have ha : (element e.time a).id = p.elementKey :=
    (hk.element_keeps e.time a).1.trans (refresh_id e (integrationSeed p))
  have hc : (change p e.time c).id = p.callKey := by
    rw [(hk.keeps p e.time c).1]
    show ((s.integration? p.callKey).getD _).id = p.callKey
    cases hold : s.integration? p.callKey with
    | none => rfl
    | some old => exact (Table.lookup_mem hold).2
  constructor
  · exact fun hne => (Store.activity?_saveActivity _ _).trans (if_neg fun h => hne (h.symm.trans ha))
  · exact fun hne => (Table.lookup_upsert (fun _ _ => rfl) id).trans (if_neg fun h => hne (h.symm.trans hc))

theorem withCall_again (hs : s.Sound) (hs' : (s.withCall e p element change).Sound) :
    (s.withCall e p element change).withCall e p element change = s.withCall e p element change := by
  let a := refresh e (integrationSeed p) (s.activity? p.elementKey)
  let c := (s.integration? p.callKey).getD (newIntegration e p)
  let c' : IntegrationCall := { change p e.time c with activityId := some a.id }
  obtain ⟨helement, hcall⟩ :
      (s.withCall e p element change).activity? p.elementKey = some (element e.time a) ∧
        (s.withCall e p element change).integration? p.callKey = some c' := withCall_found hk e p hs
  generalize hs₁ : s.withCall e p element change = s₁ at hs' helement hcall ⊢
  -- Refreshing and changing what was saved gives what was saved, and that is there already.
  have ha : element e.time (refresh e (integrationSeed p) (s₁.activity? p.elementKey)) = element e.time a := by
    rw [helement]
    exact hk.element_again e.time e (integrationSeed p) _
  have hid : (refresh e (integrationSeed p) (s₁.activity? p.elementKey)).id = a.id := by
    rw [helement]
    exact (hk.element_keeps e.time a).1
  unfold Store.withCall
  simp only [ha, hid, hcall, Option.getD_some]
  rw [hs'.saveActivity_self (Table.lookup_mem helement).1]
  rw [show ({ change p e.time c' with activityId := some a.id } : IntegrationCall) = c' from
    hk.again p e.time c (some a.id) ▸ rfl]
  exact hs'.saveIntegration_self (Table.lookup_mem hcall).1

end Calls

end FlowView
