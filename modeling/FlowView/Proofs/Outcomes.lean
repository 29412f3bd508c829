import FlowView.Proofs.Executions
import FlowView.Proofs.Refusals
/-!
# Calls and the elements that make them

While no event comes for an element itself, an element is there just when its call is, and the two change
together. The outcome of a call is mirrored on its element. A request is not: when it comes again after an
outcome, the call is requested and its element has ended (`outcomes_part`). That is the one case in which
their statuses differ (`outcomes_agree`).
-/

namespace FlowView

open Projection

variable {u : Supply} {e : Event} {s s' : Store} {k : EventKind}

/-- The status of the element that makes a call. -/
def IntegrationStatus.mirrored : IntegrationStatus → ActivityStatus
  | .requested => .started
  | .resultReceived => .completed
  | .errorReceived => .error

/-- The call was requested again after an outcome. -/
def IntegrationCall.Repeated (c : IntegrationCall) : Prop :=
  c.status = .requested ∧ (c.resultDate ≠ none ∨ c.errorDate ≠ none)

/-- An element and its call. Each outcome that has come has left its date with the call; the status of the
element is that of the last one. -/
structure Mirrors (a : Activity) (c : IntegrationCall) : Prop where
  execution : a.execution = c.execution
  activityId : c.activityId = some a.id
  ended : a.completedDate = c.resultDate
  outcome : c.status ≠ .requested → a.status = c.status.mirrored
  started : a.status = .started ↔ c.resultDate = none ∧ c.errorDate = none
  completed : a.status = .completed → c.resultDate ≠ none
  failed : a.status = .error → c.errorDate ≠ none
  running : a.status ≠ .cancelled

theorem Mirrors.agree_iff {a : Activity} {c : IntegrationCall} (h : Mirrors a c) :
    a.status = c.status.mirrored ↔ ¬c.Repeated := by
  cases hstatus : c.status with
  | requested => simp [IntegrationStatus.mirrored, IntegrationCall.Repeated, h.started, hstatus, not_or]
  | resultReceived => simpa [IntegrationCall.Repeated, hstatus] using h.outcome (by simp [hstatus])
  | errorReceived => simpa [IntegrationCall.Repeated, hstatus] using h.outcome (by simp [hstatus])

/-- Under every key there is an element just when there is a call, and the call is the element's. -/
def Store.Mirrored (s : Store) : Prop := ∀ id, Option.Rel Mirrors (s.activity? id) (s.integration? id)

theorem Store.mirrored_empty : Mirrored {} := fun _ => .none

theorem Store.mirrored_of_same (h : s.Mirrored) (ha : s'.activities = s.activities)
    (hc : s'.integrations = s.integrations) : s'.Mirrored := by
  intro id
  have := h id
  rwa [activity?, integration?, ← ha, ← hc] at this

theorem Store.Mirrored.mem (h : s.Mirrored) (hs : s.Sound) {c : IntegrationCall} (hc : c ∈ s.integrations) :
    ∃ a, s.activity? c.id = some a ∧ Mirrors a c := by
  have hpair := h c.id
  rw [show s.integration? c.id = some c from (Table.lookup_eq_some hs.integrationIds).2 ⟨hc, rfl⟩] at hpair
  cases ha : s.activity? c.id with
  | none =>
    rw [ha] at hpair
    cases hpair
  | some a =>
    rw [ha] at hpair
    cases hpair with
    | some hmirrors => exact ⟨a, rfl, hmirrors⟩

/-! ## What one event does to the pair -/

/-- A new element and a new call match, and so do an element that is refreshed and its call. -/
theorem mirrors_refreshed (e : Event) (p : IntegrationPayload) {old : Option Activity}
    {oldCall : Option IntegrationCall} (hpair : Option.Rel Mirrors old oldCall) :
    let a := refresh e (integrationSeed p) old
    Mirrors a { oldCall.getD (newIntegration e p) with activityId := some a.id } := by
  -- Either both are there or neither is.
  cases hpair with
  | none =>
    exact {
      execution := rfl, activityId := rfl, ended := rfl, outcome := fun h => absurd rfl h
      started := ⟨fun _ => ⟨rfl, rfl⟩, fun _ => rfl⟩
      completed := nofun, failed := nofun, running := nofun }
  | some hold => exact { hold with activityId := rfl }

/-- Whatever stage the element and the call were in, an outcome brings both to its own. A request leaves the
element. -/
theorem CallChange.mirrors {element : Instant → Activity → Activity}
    {change : IntegrationPayload → Instant → IntegrationCall → IntegrationCall} (hk : CallChange k element change)
    (p : IntegrationPayload) (time : Instant) {a : Activity} {c : IntegrationCall} (h : Mirrors a c) :
    Mirrors (element time a) (change p time c) := by
  have hexecution : (element time a).execution = (change p time c).execution := by
    rw [hk.element_execution, hk.execution, h.execution]
  cases hk with
  | requested => exact { h with execution := hexecution, outcome := fun hne => absurd rfl hne }
  | resultReceived =>
    exact {
      execution := hexecution, activityId := h.activityId, ended := rfl, outcome := fun _ => rfl
      started := ⟨nofun, fun hd => nomatch hd.1⟩
      completed := fun _ => nofun, failed := nofun, running := nofun }
  | errorReceived =>
    exact {
      execution := hexecution, activityId := h.activityId, ended := h.ended, outcome := fun _ => rfl
      started := ⟨nofun, fun hd => nomatch hd.2⟩
      completed := nofun, failed := fun _ => nofun, running := nofun }

theorem Effect.mirrored (hs : s.Sound) (h : Effect u e s k s') (hfamily : k.family ≠ .activity)
    (hmirrored : s.Mirrored) : s'.Mirrored := by
  -- The effects that are not named write neither elements nor calls.
  cases h with
  | @definitionDeployed p hp =>
    obtain ⟨ds, ms, heq⟩ := s.withDefinition_eq e p
    exact s.mirrored_of_same hmirrored (by rw [heq]) (by rw [heq])
  | @instanceDeleted p r hp hr hfinal =>
    intro id
    have ha : (s.withoutInstance r.id).activity? id =
        (s.activity? id).filter fun a => !decide (a.instanceId = r.id) := Table.lookup_remove hs.activityIds _ id
    have hc : (s.withoutInstance r.id).integration? id =
        (s.integration? id).filter fun c => !decide (c.instanceId = r.id) :=
      Table.lookup_remove hs.integrationIds _ id
    rw [ha, hc]
    have hpair := hmirrored id
    generalize s.activity? id = a at hpair ⊢
    generalize s.integration? id = c at hpair ⊢
    cases hpair with
    | none => exact .none
    | @some a c hpair =>
      -- The element and the call belong to one instance, and go with it or stay.
      have hinstance : a.instanceId = c.instanceId := congrArg Execution.instanceId hpair.execution
      by_cases hi : c.instanceId = r.id
      · simp [Option.filter, hinstance, hi]
      · simpa [Option.filter, hinstance, hi] using hpair
  | activityEntered hk => exact absurd (hk.of_family s e).1 hfamily
  | @callChanged _ element change p hk hp =>
    intro id
    by_cases hid : id = p.elementKey
    · subst hid
      obtain ⟨ha, hc⟩ := withCall_found hk e p hs
      rw [p.callKey_eq] at hc
      rw [ha, hc]
      refine .some ?_
      have hmirrors := hk.mirrors p e.time (mirrors_refreshed e p (hmirrored p.elementKey))
      cases hk <;> exact hmirrors
    · obtain ⟨ha, hc⟩ := withCall_other hk e p s
      rw [ha hid, hc (p.callKey_eq ▸ hid)]
      exact hmirrored id
  | _ => exact s.mirrored_of_same hmirrored rfl rfl

/-! ## Histories without events of elements -/

/-- The event is about an executed element itself. -/
def Event.OfElement (e : Event) : Prop := e.kind?.map EventKind.family = some .activity

theorem Store.History.mirrored {past : List Moment} (h : Store.History {} past s)
    (hpast : ∀ m ∈ past, ¬m.event.OfElement) : s.Mirrored := by
  refine (h.course Store.inv_empty).keeps Store.Mirrored (fun e => ¬e.OfElement) Store.inv_empty hpast
    Store.mirrored_empty ?_
  intro u e k s s' hs _ hnot hk heffect
  exact heffect.mirrored hs.toSound fun hfamily => hnot (by simp [Event.OfElement, hk, hfamily])

/-- As long as no event of an element itself is handled, each call has its element. Their statuses agree
unless the call was requested again after an outcome; then the element still has the status of an outcome
that the call has received. -/
theorem outcomes_agree {past : List Moment} (h : Store.History {} past s)
    (hpast : ∀ m ∈ past, ¬m.event.OfElement) :
    ∀ c ∈ s.integrations, ∃ a ∈ s.activities, c.activityId = some a.id ∧ a.execution = c.execution ∧
      (a.status = c.status.mirrored ↔ ¬c.Repeated) ∧
      (c.Repeated → (a.status = .completed ∧ c.resultDate ≠ none) ∨ (a.status = .error ∧ c.errorDate ≠ none)) := by
  intro c hc
  have hs := (h.course Store.inv_empty).inv Store.inv_empty
  obtain ⟨a, ha, hmirrors⟩ := (h.mirrored hpast).mem hs.toSound hc
  refine ⟨a, (Table.lookup_mem ha).1, hmirrors.activityId, hmirrors.execution, hmirrors.agree_iff, fun hrepeated => ?_⟩
  cases hstatus : a.status with
  | started =>
    obtain ⟨hresult, herror⟩ := hmirrors.started.1 hstatus
    exact absurd hrepeated.2 (by simp [hresult, herror])
  | completed => exact .inl ⟨rfl, hmirrors.completed hstatus⟩
  | cancelled => exact absurd hstatus hmirrors.running
  | error => exact .inr ⟨rfl, hmirrors.failed hstatus⟩

namespace Sample

/-- Two payments are called for. One is answered and then called for again, the other fails. -/
def answered : List Event := [
  ofCall "INTEGRATION_RESULT_RECEIVED" "pay" "p1", ofCall "INTEGRATION_REQUESTED" "pay" "p1",
  ofCall "INTEGRATION_REQUESTED" "pay" "p2", ofCall "INTEGRATION_ERROR_RECEIVED" "pay" "p2"]

def settled : Store := (Registry.full.consume Supply.counting.backend answered {}).2

theorem settled_history :
    Store.History {} (Registry.full.recorded Supply.counting.backend answered {}) settled :=
  .consume (.start {}) Registry.full Supply.counting answered

theorem answered_calls :
    ∀ m ∈ Registry.full.recorded Supply.counting.backend answered {}, ¬m.event.OfElement := by
  have hkinds : ∀ e ∈ answered, e.kind?.map EventKind.family ≠ some .activity := by decide
  exact fun m hm => hkinds m.event (Registry.mem_recorded hm).1

end Sample

/-- The payment that failed has an element with an error, the one called for again has not started again. -/
theorem outcomes_agree_failedPayment :
    (∃ c ∈ Sample.settled.integrations, c.id = "p2:pay:" ∧
      ∃ a ∈ Sample.settled.activities, c.activityId = some a.id ∧ a.status = .error) ∧
    ∃ c ∈ Sample.settled.integrations, c.id = "p1:pay:" ∧
      ∃ a ∈ Sample.settled.activities, c.activityId = some a.id ∧ a.status ≠ c.status.mirrored := by
  have hagree := outcomes_agree Sample.settled_history Sample.answered_calls
  obtain ⟨c, hc, hfailed⟩ : ∃ c ∈ Sample.settled.integrations,
      c.id = "p2:pay:" ∧ c.status = .errorReceived := by decide +kernel
  obtain ⟨d, hd, hrequested⟩ : ∃ c ∈ Sample.settled.integrations,
      c.id = "p1:pay:" ∧ c.status = .requested ∧ c.resultDate ≠ none := by decide +kernel
  constructor
  · obtain ⟨a, ha, hid, -, hiff, -⟩ := hagree c hc
    have hnew : ¬c.Repeated := fun hrepeated => nomatch hfailed.2.symm.trans hrepeated.1
    exact ⟨c, hc, hfailed.1, a, ha, hid, (hiff.2 hnew).trans (congrArg _ hfailed.2)⟩
  · obtain ⟨a, ha, hid, -, hiff, -⟩ := hagree d hd
    refine ⟨d, hd, hrequested.1, a, ha, hid, fun hsame => ?_⟩
    exact hiff.1 hsame ⟨hrequested.2.1, .inl hrequested.2.2⟩

/-- A request that comes again after the result parts the statuses. -/
theorem outcomes_part :
    ¬∀ (past : List Moment) (s : Store) (_ : Store.History {} past s), (∀ m ∈ past, ¬m.event.OfElement) →
      ∀ c ∈ s.integrations, ∀ a ∈ s.activities, c.activityId = some a.id → a.status = c.status.mirrored := by
  intro hagree
  have hsettled := hagree _ _ Sample.settled_history Sample.answered_calls
  revert hsettled
  decide +kernel

end FlowView
