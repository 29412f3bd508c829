import FlowView.Proofs.Transaction
/-!
# Runs

A run consumes batches one after the other, some of which succeed. `Store.Run` keeps the tables after
every event whose changes stay, so that one can say what holds all the while; what every effect keeps is
kept by a run (`Trail.keeps`).
-/

namespace FlowView

variable {u : Supply} {s s₁ s' : Store}

/-- The tables after each event of a batch, up to the first one that fails. -/
def Registry.trail (g : Registry) (b : Backend Store) : List Event → Store → List Store
  | [], _ => []
  | e :: es, s =>
    match g.step b s e with
    | .ok s' => s' :: g.trail b es s'
    | .error _ => []

/-- The tables after each event of a batch whose changes stay: none if the batch fails. -/
def Registry.kept (g : Registry) (b : Backend Store) (events : List Event) (s : Store) : List Store :=
  match (g.consume b events s).1 with
  | .ok _ => g.trail b events s
  | .error _ => []

/-- Batches are consumed one after the other. The list has the tables after each event that counts. -/
inductive Store.Run : Store → List Store → Store → Prop
  | start (s : Store) : Run s [] s
  | consume {s s₁ : Store} {between : List Store} (h : Run s between s₁) (g : Registry) (u : Supply)
    (events : List Event) : Run s (between ++ g.kept u.backend events s₁) (g.consume u.backend events s₁).2

theorem Store.Run.reachable {between : List Store} (h : s.Run between s') (hs : s.Reachable) :
    s'.Reachable := by
  induction h with
  | start => exact hs
  | consume _ g u events ih => exact ih.consume g u events

/-- Tables each of which an event leads to from the one before. -/
inductive Trail : Store → List Store → Store → Prop
  | stay (s : Store) : Trail s [] s
  | step {s s₁ s' : Store} {rest : List Store} {g : Registry} {u : Supply} {e : Event}
    (h : g.step u.backend s e = .ok s₁) (hrest : Trail s₁ rest s') : Trail s (s₁ :: rest) s'

theorem Trail.append {before after : List Store} (h : Trail s before s₁) (h' : Trail s₁ after s') :
    Trail s (before ++ after) s' := by
  induction h with
  | stay => exact h'
  | step hstep _ ih => exact .step hstep (ih h')

theorem Trail.inv {between : List Store} (h : Trail s between s') (hs : s.Inv) : s'.Inv := by
  induction h with
  | stay => exact hs
  | step hstep _ ih => exact ih (Registry.step_inv hs hstep)

/-- A trail through some tables leads to them and on from them. -/
theorem Trail.split {before after : List Store} {m : Store} (h : Trail s (before ++ m :: after) s') :
    Trail s (before ++ [m]) m ∧ Trail m after s' := by
  induction before generalizing s with
  | nil =>
    cases h with
    | step hstep hrest => exact ⟨.step hstep (.stay m), hrest⟩
  | cons b before ih =>
    cases h with
    | step hstep hrest =>
      obtain ⟨hto, hfrom⟩ := ih hrest
      exact ⟨.step hstep hto, hfrom⟩

/-- What lies between two of the tables of a trail is a trail. -/
theorem Trail.segment {between before middle after : List Store} {m m' : Store} (h : Trail s between s')
    (hs : s.Inv) (hsplit : s :: between = before ++ m :: (middle ++ m' :: after)) :
    m.Inv ∧ Trail m (middle ++ [m']) m' := by
  cases before with
  | nil =>
    cases hsplit
    exact ⟨hs, h.split.1⟩
  | cons b before =>
    cases hsplit
    obtain ⟨hto, hfrom⟩ := h.split
    exact ⟨hto.inv hs, hfrom.split.1⟩

theorem trail_of_fold {g : Registry} (events : List Event) (h : g.fold u.backend events s = .ok s') :
    Trail s (g.trail u.backend events s) s' := by
  induction events generalizing s with
  | nil =>
    cases h
    exact .stay _
  | cons e es ih =>
    rw [Registry.fold_cons] at h
    rw [Registry.trail]
    cases hstep : g.step u.backend s e with
    | error f => simp [hstep] at h
    | ok s₁ =>
      simp only [hstep] at h
      exact .step hstep (ih h)

theorem trail_of_consume (g : Registry) (u : Supply) (events : List Event) (hs : s.Inv) :
    Trail s (g.kept u.backend events s) (g.consume u.backend events s).2 := by
  rw [Registry.kept, Registry.consume_sound g u events hs.toSound]
  cases hfold : g.fold u.backend events s with
  | ok s' => exact trail_of_fold events hfold
  | error ef => exact .stay s

theorem Store.Run.trail {between : List Store} (h : s.Run between s') (hs : s.Reachable) :
    Trail s between s' := by
  induction h with
  | start => exact .stay _
  | consume hrun g u events ih =>
    exact ih.append (trail_of_consume g u events (hrun.reachable hs).inv)

end FlowView
