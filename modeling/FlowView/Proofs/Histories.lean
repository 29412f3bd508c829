import FlowView.Proofs.Transaction
/-!
# Histories

A history of batches keeps the events that were handled and count, one after the other, each with the
tables after it. With it one can say what holds until an event of some kind comes. What the effect of
every allowed event keeps, a history of allowed events keeps (`Course.keeps`), and what the moments say of
the tables so far is carried along with them (`Course.records`).
-/

namespace FlowView

variable {u : Supply} {g : Registry} {s s₁ s' : Store} {e : Event}

/-- An event that was handled, and the tables after it. -/
structure Moment where
  event : Event
  after : Store

/-- The tables that some moments end in. -/
def Store.after (s : Store) (past : List Moment) : Store := past.foldl (fun _ m => m.after) s

/-- The moments of events, up to the first one that fails. -/
def Registry.moments (g : Registry) (b : Backend Store) : List Event → Store → List Moment
  | [], _ => []
  | e :: es, s =>
    match g.step b s e with
    | .ok s' => ⟨e, s'⟩ :: g.moments b es s'
    | .error _ => []

/-- The moments that a batch adds to a history: those of the events that are handled, or none if the
batch fails. -/
def Registry.recorded (g : Registry) (b : Backend Store) (events : List Event) (s : Store) : List Moment :=
  match (g.consume b events s).1 with
  | .ok _ => g.moments b (events.filter g.handles) s
  | .error _ => []

/-- Batches are consumed one after the other, each with its own kinds that are handled and its own supply
of ids. The list has all that counts of them. -/
inductive Store.History : Store → List Moment → Store → Prop
  | start (s : Store) : History s [] s
  | consume {s s₁ : Store} {past : List Moment} (h : History s past s₁) (g : Registry) (u : Supply)
    (events : List Event) :
    History s (past ++ g.recorded u.backend events s₁) (g.consume u.backend events s₁).2

/-- Moments in each of which an event that is handled leads from the tables before to those after. -/
inductive Course : Store → List Moment → Store → Prop
  | stay (s : Store) : Course s [] s
  | step {s s₁ s' : Store} {rest : List Moment} {g : Registry} {u : Supply} {e : Event}
    (hg : g.handles e = true) (h : g.step u.backend s e = .ok s₁) (hrest : Course s₁ rest s') :
    Course s (⟨e, s₁⟩ :: rest) s'

namespace Course

theorem append {before after : List Moment} (h : Course s before s₁) (h' : Course s₁ after s') :
    Course s (before ++ after) s' := by
  induction h with
  | stay => exact h'
  | step hg hstep _ ih => exact .step hg hstep (ih h')

theorem inv {past : List Moment} (h : Course s past s') (hs : s.Inv) : s'.Inv := by
  induction h with
  | stay => exact hs
  | step _ hstep _ ih => exact ih (Registry.step_inv hs hstep)

theorem after_eq {past : List Moment} (h : Course s past s') : s.after past = s' := by
  induction h with
  | stay => rfl
  | step _ _ _ ih => exact ih

/-- The moments before some point lead to the tables there, and those after it lead on. -/
theorem split {before after : List Moment} (h : Course s (before ++ after) s') :
    Course s before (s.after before) ∧ Course (s.after before) after s' := by
  induction before generalizing s with
  | nil => exact ⟨.stay s, h⟩
  | cons m before ih =>
    cases h with
    | step hg hstep hrest =>
      obtain ⟨hto, hfrom⟩ := ih hrest
      exact ⟨.step hg hstep hto, hfrom⟩

/-- What holds of no moments and of the tables at the start, and what every effect of an allowed event
keeps with its moment added, holds of a course of allowed events and of the tables it ends in. -/
theorem records {past : List Moment} (h : Course s past s') (kept : List Moment → Store → Prop)
    (allowed : Event → Prop) (hs : s.Inv) (hpast : ∀ m ∈ past, allowed m.event) (hkept : kept [] s)
    (hstep : ∀ {u e k before m m'}, s.after before = m → m.Inv → m'.Inv → allowed e → e.kind? = some k →
      Effect u e m k m' → kept before m → kept (before ++ [⟨e, m'⟩]) m') : kept past s' := by
  -- What remains of the course starts after moments that are kept already.
  suffices hall : ∀ {m rest}, Course m rest s' → (∀ x ∈ rest, allowed x.event) → m.Inv →
      ∀ before, s.after before = m → kept before m → kept (before ++ rest) s' from
    hall h hpast hs [] rfl hkept
  clear h hpast hkept
  intro m rest hrest
  induction hrest with
  | stay => exact fun _ _ before _ hkept => (List.append_nil before).symm ▸ hkept
  | @step m m₁ s' rest g u e hg hok hrest ih =>
    intro hallowed hm before hbefore hkept
    have hm₁ : m₁.Inv := Registry.step_inv hm hok
    obtain ⟨k, hk⟩ := Registry.kind_of_handles hg
    have hkept₁ := hstep hbefore hm hm₁ (hallowed _ List.mem_cons_self) hk
      (Registry.effect_of_step hm hg hk hok) hkept
    simpa using ih (fun x hx => hallowed x (List.mem_cons_of_mem _ hx)) hm₁ _ (by simp [Store.after]) hkept₁

/-- What every effect of an allowed event keeps holds after a course of allowed events. -/
theorem keeps {past : List Moment} (h : Course s past s') (kept : Store → Prop) (allowed : Event → Prop)
    (hs : s.Inv) (hpast : ∀ m ∈ past, allowed m.event) (hkept : kept s)
    (hstep : ∀ {u e k s s'}, s.Inv → s'.Inv → allowed e → e.kind? = some k → Effect u e s k s' →
      kept s → kept s') : kept s' :=
  h.records (fun _ => kept) allowed hs hpast hkept fun _ => hstep

end Course

theorem filterMap_concat {α β : Type} (f : α → Option β) (xs : List α) (x : α) :
    (xs ++ [x]).filterMap f = xs.filterMap f ++ (f x).toList := by
  rw [List.filterMap_append]
  cases hx : f x <;> simp [hx]

/-! ## Batches and histories run a course -/

theorem Registry.mem_moments (events : List Event) {m : Moment} (h : m ∈ g.moments u.backend events s) :
    m.event ∈ events := by
  induction events generalizing s with
  | nil => cases h
  | cons e es ih =>
    rw [moments] at h
    cases hstep : g.step u.backend s e with
    | error f => simp [hstep] at h
    | ok s₁ =>
      simp only [hstep, List.mem_cons] at h
      rcases h with rfl | h
      · exact List.mem_cons_self
      · exact List.mem_cons_of_mem _ (ih h)

/-- What a batch adds to a history are events of the batch that are handled. -/
theorem Registry.mem_recorded {events : List Event} {m : Moment} (h : m ∈ g.recorded u.backend events s) :
    m.event ∈ events ∧ g.handles m.event = true := by
  unfold recorded at h
  split at h
  · exact List.mem_filter.1 (mem_moments _ h)
  · cases h

theorem course_of_fold (events : List Event) (hg : ∀ e ∈ events, g.handles e = true)
    (h : g.fold u.backend events s = .ok s') : Course s (g.moments u.backend events s) s' := by
  induction events generalizing s with
  | nil =>
    cases h
    exact .stay _
  | cons e es ih =>
    rw [Registry.fold_cons] at h
    rw [Registry.moments]
    cases hstep : g.step u.backend s e with
    | error f => simp [hstep] at h
    | ok s₁ =>
      simp only [hstep] at h
      exact .step (hg e List.mem_cons_self) hstep (ih (fun e he => hg e (List.mem_cons_of_mem _ he)) h)

theorem course_of_consume (g : Registry) (u : Supply) (events : List Event) (hs : s.Inv) :
    Course s (g.recorded u.backend events s) (g.consume u.backend events s).2 := by
  rw [Registry.recorded, Registry.consume_sound g u events hs.toSound]
  cases hfold : g.fold u.backend events s with
  | ok s' =>
    rw [Registry.fold_filter] at hfold
    exact course_of_fold _ (fun e he => (List.mem_filter.1 he).2) hfold
  | error ef => exact .stay s

theorem Store.History.course {past : List Moment} (h : s.History past s') (hs : s.Inv) :
    Course s past s' := by
  induction h with
  | start => exact .stay _
  | consume _ g u events ih => exact ih.append (course_of_consume g u events (ih.inv hs))

/-- What lies between two points of a history is a course. -/
theorem Store.History.segment {before middle after : List Moment} (h : s.History (before ++ middle ++ after) s')
    (hs : s.Inv) : (s.after before).Inv ∧ Course (s.after before) middle (s.after (before ++ middle)) := by
  obtain ⟨hto, -⟩ := (h.course hs).split
  obtain ⟨hbefore, -⟩ := hto.split
  exact ⟨hbefore.inv hs, hto.split.2⟩

/-- What holds of no moments and of empty tables, and what every effect keeps with its moment added, holds of
every history from empty tables. -/
theorem Store.History.records {past : List Moment} (h : Store.History {} past s)
    (kept : List Moment → Store → Prop) (hempty : kept [] {})
    (hstep : ∀ {u e k before m m'}, Store.after {} before = m → m.Inv → m'.Inv → e.kind? = some k →
      Effect u e m k m' → kept before m → kept (before ++ [⟨e, m'⟩]) m') : kept past s :=
  (h.course inv_empty).records kept (fun _ => True) inv_empty (fun _ _ => trivial) hempty
    fun hbefore hm hm' _ => hstep hbefore hm hm'

/-- What holds of empty tables and what every effect keeps holds of all tables that batches lead to. -/
theorem Store.Reachable.keeps (h : s.Reachable) (kept : Store → Prop) (hempty : kept {})
    (hstep : ∀ {u e k s s'}, s.Inv → s'.Inv → e.kind? = some k → Effect u e s k s' → kept s → kept s') :
    kept s := by
  induction h with
  | empty => exact hempty
  | consume h g u events ih =>
    exact (course_of_consume g u events h.inv).keeps kept (fun _ => True) h.inv (fun _ _ => trivial) ih
      fun hs hs' _ hk heffect => hstep hs hs' hk heffect

end FlowView
