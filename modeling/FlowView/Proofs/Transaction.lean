import FlowView.Batch
import FlowView.Proofs.Faithful
import FlowView.Proofs.Handling
/-!
# A batch is a fold

Consuming a batch loads keys ahead and handles the events over a cache. None of that shows: the outcome
is that of the projections run one after the other on the tables alone (`Registry.fold`), all of them or
none (`consume_eq_fold`). The tables that batches lead to are `Store.Reachable`, and `Store.Inv` holds
of them.
-/

namespace FlowView

variable {u : Supply} {s s' : Store} {e : Event} {f : Failure}

namespace Registry

variable (g : Registry)

/-! ## The fold -/

/-- Is the event of a kind that is registered? -/
def handles (e : Event) : Bool := (g.program? e).isSome

/-- What an event does to the tables alone. -/
def step (b : Backend Store) (s : Store) (e : Event) : Except Failure Store :=
  match g.program? e with
  | none => .ok s
  | some p =>
    match p.run b s with
    | (.ok (), s') => .ok s'
    | (.error f, _) => .error f

/-- What events do to the tables alone, one after the other. The first one that fails ends it. -/
def fold (b : Backend Store) (events : List Event) (s : Store) : Except (Event × Failure) Store :=
  events.foldlM (fun s e => (g.step b s e).mapError fun f => (e, f)) s

variable {g}

@[simp] theorem fold_nil (b : Backend Store) (s : Store) : g.fold b [] s = .ok s := rfl

theorem fold_cons (b : Backend Store) (e : Event) (es : List Event) (s : Store) :
    g.fold b (e :: es) s =
      match g.step b s e with
      | .ok s' => g.fold b es s'
      | .error f => .error (e, f) := by
  rw [fold, List.foldlM_cons]
  cases g.step b s e <;> rfl

theorem fold_append (b : Backend Store) (before after : List Event) (s : Store) :
    g.fold b (before ++ after) s =
      match g.fold b before s with
      | .ok s' => g.fold b after s'
      | .error ef => .error ef := by
  unfold fold
  rw [List.foldlM_append]
  cases before.foldlM (fun s e => (g.step b s e).mapError fun f => (e, f)) s <;> rfl

theorem program?_eq_some {p : Program Unit} (h : g.program? e = some p) :
    ∃ k, e.kind? = some k ∧ k ∈ g.kinds ∧ p = k.project e := by
  unfold program? at h
  cases hk : e.kind? with
  | none => simp [hk] at h
  | some k =>
    simp only [hk] at h
    split at h <;> cases h
    rename_i hmem
    exact ⟨k, rfl, hmem, rfl⟩

theorem program?_of_kind {k : EventKind} (hk : e.kind? = some k) (hg : k ∈ g.kinds) :
    g.program? e = some (k.project e) := by
  simp [program?, hk, hg]

theorem mem_of_handles {k : EventKind} (h : g.handles e = true) (hk : e.kind? = some k) : k ∈ g.kinds := by
  obtain ⟨p, hp⟩ := Option.isSome_iff_exists.1 h
  obtain ⟨k', hk', hmem, -⟩ := program?_eq_some hp
  cases hk.symm.trans hk'
  exact hmem

theorem step_other (b : Backend Store) (h : g.handles e = false) : g.step b s e = .ok s := by
  cases hp : g.program? e with
  | none => simp [step, hp]
  | some p => simp [handles, hp] at h

/-- An event that is handled has the effect of its kind or is refused. -/
theorem step_handled (hs : s.Inv) :
    (g.handles e = false ∧ g.step u.backend s e = .ok s) ∨
    ∃ k, e.kind? = some k ∧
      ((∃ s', g.step u.backend s e = .ok s' ∧ Effect u e s k s') ∨
        ∃ f, g.step u.backend s e = .error f ∧ Refusal e s k f) := by
  cases hp : g.program? e with
  | none => exact .inl ⟨by simp [handles, hp], by simp [step, hp]⟩
  | some p =>
    obtain ⟨k, hk, -, rfl⟩ := program?_eq_some hp
    refine .inr ⟨k, hk, ?_⟩
    have hh := Projection.handled_project (u := u) (e := e) hs k
    generalize hr : (k.project e).run u.backend s = r at hh
    cases hh with
    | done h => exact .inl ⟨_, by simp [step, hp, hr], h⟩
    | refused h => exact .inr ⟨_, by simp [step, hp, hr], h⟩

theorem kind_of_handles (h : g.handles e = true) : ∃ k, e.kind? = some k := by
  obtain ⟨p, hp⟩ := Option.isSome_iff_exists.1 h
  obtain ⟨k, hk, -⟩ := program?_eq_some hp
  exact ⟨k, hk⟩

section Handled

variable {k : EventKind} (hs : s.Inv) (hg : g.handles e = true) (hk : e.kind? = some k)
include hs hg hk

theorem step_effect_or_refusal :
    (∃ s', g.step u.backend s e = .ok s' ∧ Effect u e s k s') ∨
      ∃ f, g.step u.backend s e = .error f ∧ Refusal e s k f := by
  rcases step_handled (g := g) (u := u) (e := e) hs with ⟨hnot, -⟩ | ⟨k', hk', h⟩
  · cases hg.symm.trans hnot
  · cases hk.symm.trans hk'
    exact h

theorem effect_of_step (h : g.step u.backend s e = .ok s') : Effect u e s k s' := by
  rcases step_effect_or_refusal (u := u) hs hg hk with ⟨s₁, hstep, heffect⟩ | ⟨f, hstep, -⟩
  all_goals cases hstep.symm.trans h
  exact heffect

end Handled

theorem step_ok (hs : s.Inv) (h : g.step u.backend s e = .ok s') :
    s' = s ∨ ∃ k, e.kind? = some k ∧ Effect u e s k s' := by
  rcases step_handled (g := g) (u := u) (e := e) hs with
    ⟨-, hstep⟩ | ⟨k, hk, ⟨s₁, hstep, heffect⟩ | ⟨f, hstep, -⟩⟩
  all_goals cases hstep.symm.trans h
  · exact .inl rfl
  · exact .inr ⟨k, hk, heffect⟩

theorem step_error (hs : s.Inv) (h : g.step u.backend s e = .error f) :
    ∃ k, e.kind? = some k ∧ Refusal e s k f := by
  rcases step_handled (g := g) (u := u) (e := e) hs with
    ⟨-, hstep⟩ | ⟨k, hk, ⟨s₁, hstep, -⟩ | ⟨f', hstep, hrefused⟩⟩
  all_goals cases hstep.symm.trans h
  exact ⟨k, hk, hrefused⟩

/-! ## Handling over a cache -/

theorem program?_follows (hs : s.Sound) {m : Cache} (hm : m.Agrees s) {p : Program Unit}
    (h : g.program? e = some p) :
    Cache.Follows (p.run (Cache.backend u.backend) (m, s)) (p.run u.backend s) := by
  obtain ⟨k, -, -, rfl⟩ := program?_eq_some h
  exact Program.run_follows u hs hm (Projection.project_faithful u hs k e)

theorem step_sound (hs : s.Sound) (h : g.step u.backend s e = .ok s') : s'.Sound := by
  unfold step at h
  split at h
  · cases h
    exact hs
  · split at h <;> cases h
    rename_i hrun
    exact Store.run_sound_of u hs hrun

/-- Handling events over a cache does what the fold does, and counts on. -/
theorem handleFrom_ok (events : List Event) (hs : s.Sound) {m : Cache} (hm : m.Agrees s) (n : Counts)
    (h : g.fold u.backend events s = .ok s') :
    ∃ m', g.handleFrom (Cache.backend u.backend) n events (m, s) =
        (.ok ⟨n.handled + events.countP g.handles, n.skipped + events.countP fun e => !g.handles e⟩, m', s')
      ∧ m'.Agrees s' := by
  induction events generalizing s m n with
  | nil =>
    cases h
    exact ⟨m, rfl, hm⟩
  | cons e es ih =>
    rw [fold_cons] at h
    cases hp : g.program? e with
    | none =>
      have hother : g.handles e = false := by simp [handles, hp]
      rw [step_other _ hother] at h
      obtain ⟨m', hrun, hm'⟩ := ih hs hm { n with skipped := n.skipped + 1 } h
      refine ⟨m', ?_, hm'⟩
      simp only [handleFrom, hp, hrun, List.countP_cons, hother]
      simp [Nat.add_assoc, Nat.add_comm 1]
    | some p =>
      have hhandled : g.handles e = true := by simp [handles, hp]
      -- Over the cache the program ends as on the tables, with a cache that agrees with them again.
      obtain ⟨m₁, hcached, hm₁⟩ := program?_follows (u := u) hs hm hp
      have hsound := Store.run_sound u p hs
      cases hr : p.run u.backend s with
      | mk r s₁ =>
        cases r with
        | error f => simp [step, hp, hr] at h
        | ok _ =>
          simp only [step, hp, hr] at h
          rw [hr] at hcached hm₁ hsound
          obtain ⟨m', hrun, hm'⟩ := ih hsound hm₁ { n with handled := n.handled + 1 } h
          refine ⟨m', ?_, hm'⟩
          simp only [handleFrom, hp, hcached, hrun, List.countP_cons, hhandled]
          simp [Nat.add_assoc, Nat.add_comm 1]

/-- The first event that fails ends the handling, and its failure is wrapped with it. -/
theorem handleFrom_error (events : List Event) (hs : s.Sound) {m : Cache} (hm : m.Agrees s) (n : Counts)
    (h : g.fold u.backend events s = .error (e, f)) :
    ∃ ms, g.handleFrom (Cache.backend u.backend) n events (m, s) = (.error (.handling e.display f), ms) := by
  induction events generalizing s m n with
  | nil => cases h
  | cons e' es ih =>
    rw [fold_cons] at h
    cases hp : g.program? e' with
    | none =>
      rw [step_other _ (by simp [handles, hp])] at h
      obtain ⟨ms, hrun⟩ := ih hs hm { n with skipped := n.skipped + 1 } h
      exact ⟨ms, by simp only [handleFrom, hp, hrun]⟩
    | some p =>
      obtain ⟨m₁, hcached, hm₁⟩ := program?_follows (u := u) hs hm hp
      have hsound := Store.run_sound u p hs
      cases hr : p.run u.backend s with
      | mk r s₁ =>
        rw [hr] at hcached hm₁ hsound
        simp only [step, hp, hr] at h
        cases r with
        | error f' =>
          cases h
          exact ⟨(m₁, s₁), by simp only [handleFrom, hp, hcached]⟩
        | ok _ =>
          obtain ⟨ms, hrun⟩ := ih hsound hm₁ { n with handled := n.handled + 1 } h
          exact ⟨ms, by simp only [handleFrom, hp, hcached, hrun]⟩

/-! ## Batches -/

/-- What a batch comes to: its events counted and the tables after them, or the tables as they were and
the failure of the first event that failed, wrapped with the event. -/
def outcome (g : Registry) (events : List Event) (s : Store) :
    Except (Event × Failure) Store → Outcome Counts Store
  | .ok s' =>
    (.ok { handled := events.countP g.handles, skipped := events.countP fun e => !g.handles e }, s')
  | .error (e, f) => (.error (.handling e.display f), s)

theorem consume_sound (g : Registry) (u : Supply) (events : List Event) (hs : s.Sound) :
    g.consume u.backend events s = g.outcome events s (g.fold u.backend events s) := by
  unfold consume
  split
  · rename_i hempty
    rw [List.isEmpty_iff.1 hempty]
    rfl
  · obtain ⟨m, hload, hm⟩ :=
      Cache.prefetch_follows u hs (Cache.agrees_empty s) (FetchPlan.ofEvents events)
    -- Loading ahead succeeds and changes nothing, whatever the plan is.
    unfold transact
    rw [hload]
    cases hfold : g.fold u.backend events s with
    | ok s' =>
      obtain ⟨m', hrun, -⟩ := handleFrom_ok events hs hm {} hfold
      simp only [handle, hrun, Nat.zero_add]
      rfl
    | error ef =>
      obtain ⟨ms, hrun⟩ := handleFrom_error events hs hm {} hfold
      simp only [handle, hrun]
      rfl

/-- A batch succeeds if its fold does, with the tables that the fold leads to. -/
theorem consume_ok_iff (hs : s.Sound) (events : List Event) {n : Counts} :
    g.consume u.backend events s = (.ok n, s') ↔
      g.fold u.backend events s = .ok s' ∧
        n = ⟨events.countP g.handles, events.countP fun e => !g.handles e⟩ := by
  rw [consume_sound g u events hs]
  cases g.fold u.backend events s with
  | ok s₁ => simp [outcome, and_comm, eq_comm]
  | error ef => simp [outcome]

/-- A batch of one event that is handled. -/
theorem consume_one {p : Program Unit} (hs : s.Sound) (hp : g.program? e = some p) :
    g.consume u.backend [e] s =
      match p.run u.backend s with
      | (.ok _, s') => (.ok { handled := 1, skipped := 0 }, s')
      | (.error f, _) => (.error (.handling e.display f), s) := by
  have hhandled : g.handles e = true := by simp [handles, hp]
  rw [consume_sound g u [e] hs, fold_cons, step]
  simp only [hp]
  cases p.run u.backend s with
  | mk r s' => cases r <;> simp [outcome, hhandled]

theorem step_inv (hs : s.Inv) (h : g.step u.backend s e = .ok s') : s'.Inv := by
  rcases step_ok hs h with rfl | ⟨k, -, heffect⟩
  · exact hs
  · exact heffect.inv hs (step_sound hs.toSound h)

theorem fold_inv (events : List Event) (hs : s.Inv) (h : g.fold u.backend events s = .ok s') : s'.Inv := by
  induction events generalizing s with
  | nil =>
    cases h
    exact hs
  | cons e es ih =>
    rw [fold_cons] at h
    cases hstep : g.step u.backend s e with
    | error f => simp [hstep] at h
    | ok s₁ =>
      simp only [hstep] at h
      exact ih (step_inv hs hstep) h

theorem consume_inv (g : Registry) (u : Supply) (events : List Event) (hs : s.Inv) :
    (g.consume u.backend events s).2.Inv := by
  rw [consume_sound g u events hs.toSound]
  cases hfold : g.fold u.backend events s with
  | ok s' => exact fold_inv events hs hfold
  | error _ => exact hs

/-- Events that are not handled leave the fold as it is. -/
theorem fold_filter (b : Backend Store) (events : List Event) (s : Store) :
    g.fold b events s = g.fold b (events.filter g.handles) s := by
  induction events generalizing s with
  | nil => rfl
  | cons e es ih =>
    cases h : g.handles e with
    | false =>
      rw [fold_cons, step_other b h, List.filter_cons_of_neg (by simp [h])]
      exact ih s
    | true =>
      rw [fold_cons, List.filter_cons_of_pos h, fold_cons]
      cases g.step b s e with
      | ok s' => exact ih s'
      | error f => rfl

/-- A fold that fails has gone through the events before the one that it names. -/
theorem fold_error {b : Backend Store} (events : List Event) (h : g.fold b events s = .error (e, f)) :
    ∃ before after s', events = before ++ e :: after ∧ g.fold b before s = .ok s' ∧
      g.step b s' e = .error f := by
  induction events generalizing s with
  | nil => cases h
  | cons e' es ih =>
    rw [fold_cons] at h
    cases hstep : g.step b s e' with
    | error f' =>
      simp only [hstep] at h
      cases h
      exact ⟨[], es, s, rfl, rfl, hstep⟩
    | ok s₁ =>
      simp only [hstep] at h
      obtain ⟨before, after, s', rfl, hfold, hfail⟩ := ih h
      exact ⟨e' :: before, after, s', rfl, by rw [fold_cons, hstep]; exact hfold, hfail⟩

end Registry

/-- An open database that takes changes consumes a batch as its tables do, counting its new ids. -/
theorem Database.consume_open {d : Database} (hopen : d.isOpen = true) (hwrite : d.readOnly = false)
    (g : Registry) (events : List Event) :
    d.consume g events =
      ((g.consume Supply.counting.backend events d.store).1,
        { d with store := (g.consume Supply.counting.backend events d.store).2 }) := by
  have hbegin : d.begin? = .ok d.store := if_pos hopen
  have hbackend : d.backend = Supply.counting.backend := by
    rw [Supply.counting_backend, Database.backend, hwrite]
    rfl
  unfold Database.consume
  split
  · rename_i hempty
    rw [List.isEmpty_iff.1 hempty]
    rfl
  · rw [hbegin, hbackend]

/-! ## Tables that batches lead to -/

/-- The tables that batches lead to from empty ones, whatever kinds are registered and whether the
batches succeed or not. -/
inductive Store.Reachable : Store → Prop
  | empty : Reachable {}
  | consume {s : Store} (h : Reachable s) (g : Registry) (u : Supply) (events : List Event) :
    Reachable (g.consume u.backend events s).2

theorem Store.Reachable.inv (h : s.Reachable) : s.Inv := by
  induction h with
  | empty => exact inv_empty
  | consume _ g u events ih => exact Registry.consume_inv g u events ih

/-- A refusal is no wrapped failure. -/
theorem Refusal.root_eq {k : EventKind} (h : Refusal e s k f) : f.root = f := by
  cases h <;> rfl

/-! ## An order that is worked on -/

namespace Sample

/-- An event of a type with the fields of its entity. -/
def event (typeName : String) (fields : List (String × Json)) : Event :=
  { typeName, timestamp := 1700000000000, entity := .obj fields }

def ofInstance (typeName id : String) : Event := event typeName [("id", .str id)]

def ofTask (typeName id instanceId : String) : Event :=
  event typeName [("id", .str id), ("processInstanceId", .str instanceId)]

def ofVariable (typeName name instanceId : String) : Event :=
  event typeName [("name", .str name), ("processInstanceId", .str instanceId)]

/-- Two orders with three tasks, of which the first ends before the second variable comes. -/
def orders : List Event := [
  ofInstance "PROCESS_CREATED" "p1", ofInstance "PROCESS_CREATED" "p2",
  ofTask "TASK_CREATED" "t1" "p1", ofVariable "VARIABLE_CREATED" "approved" "p1",
  event "TASK_CANDIDATE_USER_ADDED" [("taskId", .str "t1"), ("userId", .str "kim")],
  ofTask "TASK_COMPLETED" "t1" "p1", ofVariable "VARIABLE_CREATED" "amount" "p1",
  ofTask "TASK_CREATED" "t2" "p1", ofTask "TASK_CREATED" "t3" "p2", event "HEARTBEAT" []]

/-- The tables after the orders. -/
def store : Store := (Registry.full.consume Supply.counting.backend orders {}).2

theorem reachable : store.Reachable := .consume .empty Registry.full Supply.counting orders

end Sample

/-! ## The refinement -/

/-- Consuming a batch comes to what the projections come to that are run one after the other on the
tables alone. Events that are not handled change nothing. The failure is that of the first event that
fails, wrapped once.

The keys of a plan are bound to one statement for each table. An engine limits how many values it binds; the
limit is left out here, so of an engine this tells the batches whose plans stay within it. -/
theorem consume_eq_fold (g : Registry) (u : Supply) (events : List Event) {s : Store} (hs : s.Reachable) :
    g.consume u.backend events s =
      (match g.fold u.backend events s with
      | .ok s' =>
        (.ok { handled := events.countP g.handles, skipped := events.countP fun e => !g.handles e }, s')
      | .error (e, f) => (.error (.handling e.display f), s)) ∧
    g.fold u.backend events s = g.fold u.backend (events.filter g.handles) s ∧
    ∀ e f, g.fold u.backend events s = .error (e, f) →
      ∃ before after s', events = before ++ e :: after ∧ g.fold u.backend before s = .ok s' ∧
        g.step u.backend s' e = .error f ∧ (Failure.handling e.display f).root = f := by
  refine ⟨?_, Registry.fold_filter _ events s, fun e f h => ?_⟩
  · rw [Registry.consume_sound g u events hs.inv.toSound]
    cases g.fold u.backend events s <;> rfl
  · obtain ⟨before, after, s', hevents, hfold, hfail⟩ := Registry.fold_error events h
    obtain ⟨k, -, hrefused⟩ := Registry.step_error (Registry.fold_inv before hs.inv hfold) hfail
    exact ⟨before, after, s', hevents, hfold, hfail, hrefused.root_eq⟩

/-- An event of an instance that is not there undoes the batch, one of no known type is passed over. -/
theorem consume_eq_fold_undone :
    Registry.full.consume Supply.counting.backend
        [Sample.ofInstance "PROCESS_STARTED" "p1", Sample.ofInstance "PROCESS_STARTED" "p3"] Sample.store =
      (.error (.handling (Sample.ofInstance "PROCESS_STARTED" "p3").display
        (.notFound "process instance" "p3")), Sample.store) ∧
    (Registry.full.consume Supply.counting.backend
        [Sample.event "HEARTBEAT" [], Sample.ofInstance "PROCESS_STARTED" "p1"] Sample.store).1 =
      .ok { handled := 1, skipped := 1 } := by
  rw [(consume_eq_fold Registry.full Supply.counting _ Sample.reachable).1,
    (consume_eq_fold Registry.full Supply.counting _ Sample.reachable).1]
  exact ⟨rfl, rfl⟩

end FlowView
