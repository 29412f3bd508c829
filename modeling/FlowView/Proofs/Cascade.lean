import FlowView.Proofs.Refusals
/-!
# Deleting an instance

A deletion removes an instance that has ended with all that belongs to it, and nothing else
(`consume_deletion`). No reference between the tables is ever in its way, whatever the tables are, as
long as they are sound.
-/

namespace FlowView

variable {u : Supply} {s s' : Store} {e : Event} {f : Failure}

theorem Effect.of_processDeleted (h : Effect u e s .processDeleted s') :
    ∃ (p : InstancePayload) (r : ProcessInstance), e.payload = .ok p ∧ s.instance? p.id = some r ∧
      r.status.isFinal = true ∧ s' = s.withoutInstance p.id := by
  cases h with
  | instanceDeleted hp hr hf =>
    refine ⟨_, _, hp, hr, hf, ?_⟩
    rw [(Table.lookup_mem hr).2]
  | instancePassed hk | instanceChanged hk => cases hk
  | taskPassed hk | taskChanged hk => cases hk
  | candidatePassed hk | taskCandidateChanged hk | starterChanged hk => cases hk
  | activityEntered hk => cases hk
  | callChanged hk => cases hk

/-- Consuming the deletion of an instance. One that has ended is gone with its tasks, its variables, its
executed elements, its flows and its calls, with all that belongs to its tasks, and with every link to
its tasks or its variables; every other row stays. Of an instance that is not there or has not ended
nothing goes. -/
theorem consume_deletion (hs : s.Sound) (u : Supply) {g : Registry} (hg : .processDeleted ∈ g.kinds)
    {e : Event} (hk : e.kind? = some .processDeleted) {p : InstancePayload} (hp : e.payload = .ok p) :
    (∀ r, s.instance? p.id = some r → r.status.isFinal = true →
      g.consume u.backend [e] s = (.ok { handled := 1, skipped := 0 }, s.withoutInstance p.id)) ∧
    ((∀ r, s.instance? p.id = some r → r.status.isFinal = false) →
      ∃ f, g.consume u.backend [e] s = (.error f, s)) := by
  have hprogram : g.program? e = some (EventKind.processDeleted.project e) := by
    simp [Registry.program?, hk, hg]
  have hhandled : Handled u e s .processDeleted ((EventKind.processDeleted.project e).run u.backend s) :=
    Projection.handled_instanceDeleted hs
  rw [Registry.consume_one hs hprogram]
  generalize (EventKind.processDeleted.project e).run u.backend s = outcome at hhandled
  cases hhandled with
  | done h =>
    obtain ⟨p', r, hp', hr, hf, rfl⟩ := h.of_processDeleted
    obtain rfl := payload_unique hp hp'
    exact ⟨fun _ _ _ => rfl, fun hopen => Bool.noConfusion ((hopen r hr).symm.trans hf)⟩
  | refused h =>
    refine ⟨fun r hr hf => ?_, fun _ => ⟨_, rfl⟩⟩
    rcases h.reason with ⟨-, h⟩ | ⟨-, h⟩ | ⟨-, p', r', hp', hr', hopen⟩
    · exact absurd h (not_malformed hp rfl (by decide))
    · exact absurd h (not_instanceMissing hp hr)
    · obtain rfl := payload_unique hp hp'
      cases hr.symm.trans hr'
      exact Bool.noConfusion (hf.symm.trans hopen)

/-- The orders after the first one was completed. -/
def Sample.ended : Store :=
  (Registry.full.consume Supply.counting.backend [ofInstance "PROCESS_COMPLETED" "p1"] store).2

theorem Sample.ended_reachable : ended.Reachable := .consume reachable Registry.full Supply.counting _

theorem Sample.ended_sound : ended.Sound := ended_reachable.inv.toSound

/-- Of the orders the completed one can be deleted, and the other stays; that one cannot be deleted. -/
theorem consume_deletion_endedOnly :
    Registry.full.consume Supply.counting.backend [Sample.ofInstance "PROCESS_DELETED" "p1"] Sample.ended =
      (.ok { handled := 1, skipped := 0 }, Sample.ended.withoutInstance "p1") ∧
    (Sample.ended.withoutInstance "p1").tasks.map UserTask.id = ["t3"] ∧
    (Sample.ended.withoutInstance "p1").links = [] ∧ Sample.ended.links.length = 3 ∧
    ∃ f, Registry.full.consume Supply.counting.backend [Sample.ofInstance "PROCESS_DELETED" "p2"] Sample.ended =
      (.error f, Sample.ended) := by
  have hfirst := consume_deletion Sample.ended_sound Supply.counting (EventKind.mem_full .processDeleted)
    (e := Sample.ofInstance "PROCESS_DELETED" "p1") rfl rfl
  have hsecond := consume_deletion Sample.ended_sound Supply.counting (EventKind.mem_full .processDeleted)
    (e := Sample.ofInstance "PROCESS_DELETED" "p2") rfl rfl
  exact ⟨hfirst.1 _ rfl rfl, rfl, rfl, rfl, hsecond.2 fun r hr => by cases hr; rfl⟩

end FlowView
