import FlowView.Proofs.Again
/-!
# Where rows come from

A row that was not there before an event is one that the event made: `Effect.instance_new`,
`Effect.task_new` and `Effect.taskVariable_new` say which, and the fates of executed elements and of calls
begin with none where there is none. So what holds of new rows and what every fate keeps holds of all rows
(`Effect.tasks_all` and its siblings).
-/

namespace FlowView

open Projection

variable {u : Supply} {e : Event} {s s' : Store} {k : EventKind} {id : String}

/-! ## New instances, tasks and task variables -/

theorem Effect.instance_new (h : Effect u e s k s') (hnone : s.instance? id = none) {r : ProcessInstance}
    (hr : s'.instance? id = some r) :
    ∃ p : InstancePayload, k = .processCreated ∧ e.payload = .ok p ∧ r = newInstance e p := by
  have same (hinstances : s'.instances = s.instances) : False := by
    rw [Store.instance?, hinstances, ← Store.instance?, hnone] at hr
    cases hr
  -- A row that takes the place of another is found where the other was.
  have replaced {i : String} {w w' : ProcessInstance} (hw : s.instance? i = some w) (hid : w'.id = w.id)
      (hsaved : (s.saveInstance w').instance? id = some r) : False := by
    rw [Store.instance?_saveInstance, hid, (Table.lookup_mem hw).2] at hsaved
    split at hsaved
    · rename_i heq
      cases (heq ▸ hw).symm.trans hnone
    · cases hsaved.symm.trans hnone
  cases h with
  | @definitionDeployed p hp =>
    obtain ⟨ds, ms, heq⟩ := s.withDefinition_eq e p
    exact (same (by rw [heq])).elim
  | @instanceMade p hp hmissing =>
    rw [Store.instance?_saveInstance] at hr
    split at hr
    · exact ⟨p, rfl, hp, (Option.some.inj hr).symm⟩
    · cases hr.symm.trans hnone
  | @instanceChanged k passes change p w hk hp hw hpass =>
    exact (replaced hw (hk.keeps p e.time w) hr).elim
  | @instanceCompleted p w hp hw hopen =>
    exact (replaced hw (rfl : (complete p e.time w).id = w.id) hr).elim
  | @instanceDeleted p w hp hw hfinal =>
    obtain ⟨hmem, hid⟩ := Table.lookup_mem hr
    exact absurd hid (Table.lookup_eq_none.1 hnone r (Table.mem_remove.1 hmem).1)
  | _ => exact (same rfl).elim

theorem Effect.task_new (h : Effect u e s k s') (hnone : s.task? id = none) {t : UserTask}
    (ht : s'.task? id = some t) :
    ∃ p : TaskPayload, k = .taskCreated ∧ e.payload = .ok p ∧ t = newTask e p := by
  have same (htasks : s'.tasks = s.tasks) : False := by
    rw [Store.task?, htasks, ← Store.task?, hnone] at ht
    cases ht
  cases h with
  | @definitionDeployed p hp =>
    obtain ⟨ds, ms, heq⟩ := s.withDefinition_eq e p
    exact (same (by rw [heq])).elim
  | @instanceCompleted p r hp hr hopen =>
    have hsaved : (s.saveInstance (complete p e.time r)).task? id = none := hnone
    rw [Store.task?_cancelTasksOf, hsaved] at ht
    cases ht
  | @instanceDeleted p r hp hr hfinal =>
    obtain ⟨hmem, hid⟩ := Table.lookup_mem ht
    exact absurd hid (Table.lookup_eq_none.1 hnone t (Table.mem_remove.1 hmem).1)
  | @taskMade p hp hmissing =>
    have hsaved : (s.withTask (newTask e p)).task? id = _ := Store.task?_saveTask (newTask e p) id
    rw [hsaved] at ht
    split at ht
    · exact ⟨p, rfl, hp, (Option.some.inj ht).symm⟩
    · cases ht.symm.trans hnone
  | @taskChanged k passes change p w hk hp hw hpass =>
    rw [Store.task?_saveTask, (hk.keeps p e.time w).1, (Table.lookup_mem hw).2] at ht
    split at ht
    · rename_i heq
      cases (heq ▸ hw).symm.trans hnone
    · cases ht.symm.trans hnone
  | _ => exact (same rfl).elim

theorem Effect.taskVariable_new (h : Effect u e s k s') {v : TaskVariable} (hv : v ∈ s'.taskVariables)
    (hnone : s.taskVariable? v.id = none) :
    ∃ (p : VariablePayload) (t : UserTask), k = .variableCreated ∧ AboutTask e p v.taskId ∧
      s.task? v.taskId = some t ∧ s'.tasks = s.tasks ∧ v = newTaskVariable e p t v.id v.taskId := by
  have old {w : TaskVariable} (hw : w ∈ s.taskVariables) (hid : w.id = v.id) : False :=
    Table.lookup_eq_none.1 hnone w hw hid
  cases h with
  | @definitionDeployed p hp =>
    obtain ⟨ds, ms, heq⟩ := s.withDefinition_eq e p
    rw [heq] at hv
    exact (old hv rfl).elim
  | instanceDeleted => exact (old (Table.mem_remove.1 hv).1 rfl).elim
  | @taskVariableMade p taskId t hp ht hmissing =>
    rcases List.mem_append.1 hv with hv | hv
    · exact (old hv rfl).elim
    · obtain rfl := List.mem_singleton.1 hv
      exact ⟨p, t, rfl, hp, ht, rfl, rfl⟩
  | @taskVariableRevalued p taskId t w hp ht hopen hw =>
    obtain ⟨w', hw', rfl⟩ := List.mem_map.1 hv
    refine (old hw' ?_).elim
    split
    · assumption
    · rfl
  | taskVariableDropped => exact (old (Table.mem_remove.1 hv).1 rfl).elim
  | _ => exact (old hv rfl).elim

/-! ## Executed elements, calls and flows -/

/-- What an event makes of the executed element of a key, whether there is one or not. -/
inductive ActivityFate (e : Event) (k : EventKind) (id : String) : Option Activity → Option Activity → Prop
  | kept (old : Option Activity) : ActivityFate e k id old old
  | entered {status} {p : ActivityPayload} (hk : ActivityChange k status) (hp : e.payload = .ok p)
    (hid : p.key = id) (old : Option Activity) :
    ActivityFate e k id old (some (enter status e.time (refresh e (activitySeed p) old)))
  | called {element change} {p : IntegrationPayload} (hk : CallChange k element change)
    (hp : e.payload = .ok p) (hid : p.elementKey = id) (old : Option Activity) :
    ActivityFate e k id old (some (element e.time (refresh e (integrationSeed p) old)))
  | deleted {p : InstancePayload} {a : Activity} (hk : k = .processDeleted) (hp : e.payload = .ok p)
    (hi : a.instanceId = p.id) : ActivityFate e k id (some a) none

/-- What holds of an executed element that an event refreshes, and what entering a status keeps, holds of what
the event makes of it. -/
theorem ActivityFate.keeps {P : Activity → Prop} {old : Option Activity} {a' : Activity}
    (h : ActivityFate e k id old (some a')) (hold : ∀ a, old = some a → P a)
    (hrefresh : ∀ seed, P (refresh e seed old)) (henter : ∀ status a, P a → P (enter status e.time a)) : P a' := by
  cases h with
  | kept => exact hold a' rfl
  | entered => exact henter _ _ (hrefresh _)
  | called hk =>
    cases hk with
    | requested => exact hrefresh _
    | resultReceived => exact henter _ _ (hrefresh _)
    | errorReceived => exact henter _ _ (hrefresh _)

theorem Effect.activity_fate (hs : s.Sound) (h : Effect u e s k s') (id : String) :
    ActivityFate e k id (s.activity? id) (s'.activity? id) := by
  have same (hactivities : s'.activities = s.activities) :
      ActivityFate e k id (s.activity? id) (s'.activity? id) := by
    rw [Store.activity?, Store.activity?, hactivities]
    exact .kept _
  -- The effects that are not named leave the executed elements alone.
  cases h with
  | @definitionDeployed p hp =>
    obtain ⟨ds, ms, heq⟩ := s.withDefinition_eq e p
    exact same (by rw [heq])
  | @instanceDeleted p r hp hr hfinal =>
    have hremoved : (s.withoutInstance r.id).activity? id = _ := Table.lookup_remove hs.activityIds _ id
    rw [hremoved, ← Store.activity?]
    cases s.activity? id with
    | none => exact .kept none
    | some a =>
      by_cases hi : a.instanceId = r.id
      · simpa [Option.filter, hi] using .deleted rfl hp (hi.trans (Table.lookup_mem hr).2)
      · simpa [Option.filter, hi] using .kept (some a)
  | @activityEntered k status p hk hp =>
    by_cases hid : p.key = id
    · subst hid
      rw [show p.key = (activitySeed p).id from rfl, activity?_changed hs e _ (enter_keeps status e.time)]
      exact .entered hk hp rfl _
    · have hne : (enter status e.time (refresh e (activitySeed p) (s.activity? p.key))).id ≠ id :=
        fun heq => hid ((((enter_keeps status e.time _).1.trans (refresh_id e (activitySeed p))).symm.trans heq))
      rw [Store.activity?_saveActivity, if_neg hne]
      exact .kept _
  | @callChanged k element change p hk hp =>
    by_cases hid : p.elementKey = id
    · subst hid
      rw [(withCall_found hk e p hs).1]
      exact .called hk hp rfl _
    · rw [(withCall_other hk e p s).1 (Ne.symm hid)]
      exact .kept _
  | _ => exact same rfl

/-- What an event makes of the call of a key, whether there is one or not. -/
inductive CallFate (e : Event) (k : EventKind) (id : String) :
    Option IntegrationCall → Option IntegrationCall → Prop
  | kept (old : Option IntegrationCall) : CallFate e k id old old
  | changed {element change} {p : IntegrationPayload} (hk : CallChange k element change)
    (hp : e.payload = .ok p) (hid : p.callKey = id) (old : Option IntegrationCall) :
    CallFate e k id old
      (some { change p e.time (old.getD (newIntegration e p)) with activityId := some id })
  | deleted {p : InstancePayload} {c : IntegrationCall} (hk : k = .processDeleted) (hp : e.payload = .ok p)
    (hi : c.instanceId = p.id) : CallFate e k id (some c) none

theorem Effect.call_fate (hs : s.Sound) (h : Effect u e s k s') (id : String) :
    CallFate e k id (s.integration? id) (s'.integration? id) := by
  have same (hcalls : s'.integrations = s.integrations) :
      CallFate e k id (s.integration? id) (s'.integration? id) := by
    rw [Store.integration?, Store.integration?, hcalls]
    exact .kept _
  cases h with
  | @definitionDeployed p hp =>
    obtain ⟨ds, ms, heq⟩ := s.withDefinition_eq e p
    exact same (by rw [heq])
  | @instanceDeleted p r hp hr hfinal =>
    have hremoved : (s.withoutInstance r.id).integration? id = _ :=
      Table.lookup_remove hs.integrationIds _ id
    rw [hremoved, ← Store.integration?]
    cases s.integration? id with
    | none => exact .kept none
    | some c =>
      by_cases hi : c.instanceId = r.id
      · simpa [Option.filter, hi] using .deleted rfl hp (hi.trans (Table.lookup_mem hr).2)
      · simpa [Option.filter, hi] using .kept (some c)
  | @callChanged k element change p hk hp =>
    by_cases hid : p.callKey = id
    · subst hid
      have hid : (refresh e (integrationSeed p) (s.activity? p.elementKey)).id = p.callKey :=
        (refresh_id e (integrationSeed p)).trans p.callKey_eq.symm
      rw [(withCall_found hk e p hs).2, hid]
      exact .changed hk hp rfl _
    · rw [(withCall_other hk e p s).2 (Ne.symm hid)]
      exact .kept _
  | _ => exact same rfl

/-- The flow of an id. -/
def Store.flow? (s : Store) (id : String) : Option SequenceFlow := Table.lookup SequenceFlow.id id s.flows

/-- A flow that is there stays as it is or goes. -/
theorem Effect.flow_fate (hs : s.Sound) (h : Effect u e s k s') {f : SequenceFlow}
    (hf : s.flow? id = some f) : s'.flow? id = some f ∨ s'.flow? id = none := by
  cases h with
  | @definitionDeployed p hp =>
    obtain ⟨ds, ms, heq⟩ := s.withDefinition_eq e p
    rw [heq]
    exact .inl hf
  | @instanceDeleted p r hp hr hfinal =>
    have hremoved : (s.withoutInstance r.id).flow? id = _ := Table.lookup_remove_found hs.flowIds hf _
    rw [hremoved]
    split
    · exact .inr rfl
    · exact .inl rfl
  | flowRecorded => exact .inl (Table.lookup_concat hf)
  | _ => exact .inl hf

/-! ## All rows of a table -/

section All

variable (hs : s.Sound) (hs' : s'.Sound) (h : Effect u e s k s')
include hs hs' h

theorem Effect.instances_all {P : ProcessInstance → Prop} (hall : ∀ r ∈ s.instances, P r)
    (hnew : ∀ p : InstancePayload, e.payload = .ok p → P (newInstance e p))
    (hfate : ∀ r r', P r → InstanceFate e k r (some r') → P r') : ∀ r ∈ s'.instances, P r := by
  intro r' hr'
  have hfound : s'.instance? r'.id = some r' := (Table.lookup_eq_some hs'.instanceIds).2 ⟨hr', rfl⟩
  cases hold : s.instance? r'.id with
  | none =>
    obtain ⟨p, -, hp, rfl⟩ := h.instance_new hold hfound
    exact hnew p hp
  | some r =>
    obtain ⟨hr, hid⟩ := Table.lookup_mem hold
    have hfate' := h.instance_fate hs hr
    rw [hid, hfound] at hfate'
    exact hfate r r' (hall r hr) hfate'

theorem Effect.tasks_all {P : UserTask → Prop} (hall : ∀ t ∈ s.tasks, P t)
    (hnew : ∀ p : TaskPayload, e.payload = .ok p → P (newTask e p))
    (hfate : ∀ t t', P t → TaskFate e k t (some t') → P t') : ∀ t ∈ s'.tasks, P t := by
  intro t' ht'
  have hfound : s'.task? t'.id = some t' := (Table.lookup_eq_some hs'.taskIds).2 ⟨ht', rfl⟩
  cases hold : s.task? t'.id with
  | none =>
    obtain ⟨p, -, hp, rfl⟩ := h.task_new hold hfound
    exact hnew p hp
  | some t =>
    obtain ⟨ht, hid⟩ := Table.lookup_mem hold
    have hfate' := h.task_fate hs ht
    rw [hid, hfound] at hfate'
    exact hfate t t' (hall t ht) hfate'

theorem Effect.activities_all {P : Activity → Prop} (hall : ∀ a ∈ s.activities, P a)
    (hfate : ∀ id old a', (∀ a, old = some a → P a) → ActivityFate e k id old (some a') → P a') :
    ∀ a ∈ s'.activities, P a := by
  intro a' ha'
  have hfound : s'.activity? a'.id = some a' := (Table.lookup_eq_some hs'.activityIds).2 ⟨ha', rfl⟩
  have hfate' := h.activity_fate hs a'.id
  rw [hfound] at hfate'
  exact hfate a'.id _ a' (fun a ha => hall a (Table.lookup_mem ha).1) hfate'

theorem Effect.calls_all {P : IntegrationCall → Prop} (hall : ∀ c ∈ s.integrations, P c)
    (hfate : ∀ id old c', (∀ c, old = some c → P c) → CallFate e k id old (some c') → P c') :
    ∀ c ∈ s'.integrations, P c := by
  intro c' hc'
  have hfound : s'.integration? c'.id = some c' := (Table.lookup_eq_some hs'.integrationIds).2 ⟨hc', rfl⟩
  have hfate' := h.call_fate hs c'.id
  rw [hfound] at hfate'
  exact hfate c'.id _ c' (fun c hc => hall c (Table.lookup_mem hc).1) hfate'

end All

/-- A flow is there before an event or is the one that the event tells of. -/
theorem Effect.flows_all (h : Effect u e s k s') {P : SequenceFlow → Prop} (hall : ∀ f ∈ s.flows, P f)
    (hnew : ∀ (p : FlowPayload) (id : String), e.payload = .ok p → P (newFlow e p id)) :
    ∀ f ∈ s'.flows, P f := by
  cases h with
  | @definitionDeployed p hp =>
    obtain ⟨ds, ms, heq⟩ := s.withDefinition_eq e p
    rw [heq]
    exact hall
  | instanceDeleted => exact fun f hf => hall f (Table.mem_remove.1 hf).1
  | @flowRecorded p hp hf => exact List.forall_mem_append.2 ⟨hall, List.forall_mem_singleton.2 (hnew p _ hp)⟩
  | _ => exact hall

end FlowView
