import FlowView.Proofs.Handling.Basic
/-!
# Executed elements, flows and calls, handled
-/

namespace FlowView.Projection

open Program

variable {u : Supply} {e : Event} {s : Store} {k : EventKind}

theorem handled_activityEntered (hs : s.Sound) {status : ActivityStatus} (hk : ActivityChange k status) :
    Handled u e s k ((activityEntered status e).run u.backend s) := by
  apply handled_payload (by cases hk <;> rfl)
  intro p hp
  rw [run_bind_ok (run_findOrMakeActivity u hs e (activitySeed p))]
  exact .done (.activityEntered hk hp)

theorem recordFlow_new {f : SequenceFlow} (hid : Table.has SequenceFlow.id f.id s.flows = false)
    (hevent : ∀ id, f.eventId = some id → s.flowRecorded id = false) :
    s.recordFlow f = .ok (s.withFlow f) := by
  have hany : f.eventId.any s.flowRecorded = false := by
    cases h : f.eventId with
    | none => rfl
    | some id => exact hevent id h
  simp [Store.recordFlow, hany, hid, Store.withFlow]

/-- A flow that was not recorded is recorded under a new id. -/
theorem run_newFlow {p : FlowPayload} (hf : ∀ id, e.id = some id → s.flowRecorded id = false) :
    (do
      let id ← ask .freshId
      ask (.recordFlow (newFlow e p id))).run u.backend s =
        (.ok (), (u.drawn s).withFlow (newFlow e p (u.draw s).1)) := by
  have hnew := recordFlow_new (s := u.drawn s) (f := newFlow e p (u.draw s).1) (u.draw_flow s) hf
  rw [run_ask_ok (r := (u.draw s).1) rfl, run_ask]
  exact congrArg (u.drawn s).change hnew

theorem handled_flowTaken :
    Handled u e s .sequenceFlowTaken ((flowTaken e).run u.backend s) := by
  apply handled_payload rfl
  intro p hp
  have hrecord (hf : ∀ id, e.id = some id → s.flowRecorded id = false) :
      Handled u e s .sequenceFlowTaken ((do
        let id ← ask .freshId
        ask (.recordFlow (newFlow e p id))).run u.backend s) :=
    run_newFlow hf ▸ .done (.flowRecorded hp hf)
  dsimp only
  cases hid : e.id with
  | none => exact hrecord fun id h => by cases hid.symm.trans h
  | some id =>
    apply handled_ask (r := s.flowRecorded id) rfl
    cases hf : s.flowRecorded id with
    | true => exact .done (.flowKnown hp hid hf)
    | false => exact hrecord fun id' h => by cases hid.symm.trans h; exact hf

/-- The element is saved after one change and then the call after another. -/
theorem run_withCall (u : Supply) (hs : s.Sound) (e : Event) (p : IntegrationPayload)
    (element : Instant → Activity → Activity)
    (change : IntegrationPayload → Instant → IntegrationCall → IntegrationCall) :
    (do
      let a ← findOrMakeActivity e (integrationSeed p)
      ask (.saveActivity (element e.time a))
      let c ← findOrMakeIntegration e p
      ask (.saveIntegration { change p e.time c with activityId := some a.id })).run u.backend s =
        (.ok (), s.withCall e p element change) := by
  rw [run_bind_ok (run_findOrMakeActivity u hs e (integrationSeed p)), run_ask_ok rfl,
    run_bind_ok (run_findOrMakeIntegration u (hs.saveActivity _) e p)]
  rfl

theorem handled_changeIntegration (hs : s.Sound) {element : Instant → Activity → Activity}
    {change : IntegrationPayload → Instant → IntegrationCall → IntegrationCall}
    (hk : CallChange k element change) :
    Handled u e s k ((changeIntegration element change e).run u.backend s) := by
  apply handled_payload (by cases hk <;> rfl)
  intro p hp
  exact run_withCall u hs e p element change ▸ .done (.callChanged hk hp)

end FlowView.Projection
