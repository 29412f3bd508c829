import FlowView.Proofs.Finished
import FlowView.Proofs.Origins
import Mathlib.Data.List.DropRight
/-!
# The instance of a task variable

A task variable has a column for the instance of its task. The event that makes the row fills it, and no
event changes it after. It is the instance of the task if the event names none (`instance_copied`); an event
that names another one is believed, and then the column can outlive that instance (`instance_parted`).
-/

namespace FlowView

open Projection

variable {u : Supply} {e : Event} {s s' : Store} {k : EventKind} {v v' : TaskVariable} {past : List Moment}

/-- The moments since the row of a task is there. -/
def sinceTask (past : List Moment) (id : String) : List Moment :=
  past.rtakeWhile fun m => (m.after.task? id).isSome

/-- The moment after some others made the row of a task variable for what an event said, and the row is
there ever since. -/
structure TaskVariable.Made (v : TaskVariable) (p : VariablePayload) (before : List Moment) (m : Moment)
    (after : List Moment) : Prop where
  kind : m.event.kind? = some .variableCreated
  about : AboutTask m.event p v.taskId
  name : p.name = v.name
  new : (Store.after {} before).taskVariable? v.id = none
  there : ∀ x ∈ m :: after, (x.after.taskVariable? v.id).isSome = true

/-- The instance of a task variable is the one that was named when it was made, or else that of the task. -/
def TaskVariable.Copied (v : TaskVariable) (t : UserTask) (past : List Moment) : Prop :=
  ∃ p before m after, past = before ++ m :: after ∧ v.Made p before m after ∧
    v.instanceId = p.instanceId.or t.instanceId

/-! ## The instance of the task -/

theorem sinceTask_concat {m : Moment} {id : String} (hthere : (m.after.task? id).isSome = true) :
    sinceTask (past ++ [m]) id = sinceTask past id ++ [m] :=
  List.rtakeWhile_concat_pos _ _ _ hthere

theorem sinceTask_none {id : String} (hnone : (Store.after {} past).task? id = none) :
    sinceTask past id = [] := by
  induction past using List.reverseRecOn with
  | nil => rfl
  | append_singleton before m _ =>
    have hgone : m.after.task? id = none := by simpa [Store.after] using hnone
    exact List.rtakeWhile_concat_neg _ _ _ (by simp [hgone])

/-- The deletion of an instance leaves no task of it. -/
theorem Effect.task_spared (h : Effect u e s k s') (hk : e.kind? = some k) {t : UserTask} (ht : t ∈ s'.tasks)
    {i : String} (hdel : e.Deletes i) : t.instanceId ≠ some i := by
  obtain ⟨hkind, p, hp, rfl⟩ := hdel
  cases hk.symm.trans hkind
  obtain ⟨p', r, hp', hr, hf, rfl⟩ := h.of_processDeleted
  obtain rfl := payload_unique hp hp'
  exact of_decide_eq_false (Table.mem_remove.1 ht).2

/-- While a task is there its instance is not deleted. -/
theorem Store.History.task_spared (h : Store.History {} past s) :
    ∀ t ∈ s.tasks, ∀ x ∈ sinceTask past t.id, ∀ i, x.event.Deletes i → t.instanceId ≠ some i := by
  refine h.records
    (fun past m => ∀ t ∈ m.tasks, ∀ x ∈ sinceTask past t.id, ∀ i, x.event.Deletes i → t.instanceId ≠ some i)
    (by simp) ?_
  intro u e k past m m' hbefore hm hm' hk heffect hall t' ht' x hx i hdel
  have hfound : m'.task? t'.id = some t' := (Table.lookup_eq_some hm'.taskIds).2 ⟨ht', rfl⟩
  rw [sinceTask_concat (by simp [hfound]), List.mem_append, List.mem_singleton] at hx
  rcases hx with hx | rfl
  · cases ht : m.task? t'.id with
    | none =>
      rw [sinceTask_none (hbefore ▸ ht)] at hx
      cases hx
    | some t =>
      obtain ⟨hmem, hid⟩ := Table.lookup_mem ht
      have hsame : t'.instanceId = t.instanceId :=
        congrArg Prod.fst (heffect.task_origin hm.toSound ht hfound)
      exact hsame ▸ hall t hmem x (hid.symm ▸ hx) i hdel
  · exact heffect.task_spared hk ht' hdel

/-! ## The instance of the variable -/

section Effects

variable (hs' : s'.Sound) (h : Effect u e s k s') (hv' : v' ∈ s'.taskVariables)
include hs' h hv'

theorem Effect.copied_new (hk : e.kind? = some k) (hbefore : Store.after {} past = s)
    (hnone : s.taskVariable? v'.id = none) :
    ∃ t, s'.task? v'.taskId = some t ∧ v'.Copied t (past ++ [⟨e, s'⟩]) := by
  obtain ⟨p, t, rfl, hp, ht, htasks, heq⟩ := h.taskVariable_new hv' hnone
  have htask : s'.task? v'.taskId = some t := by rw [Store.task?, htasks, ← Store.task?, ht]
  have hthere : s'.taskVariable? v'.id = some v' := (Table.lookup_eq_some hs'.taskVariableIds).2 ⟨hv', rfl⟩
  have hname : v'.name = p.name := congrArg TaskVariable.name heq
  have hinstance : v'.instanceId = p.instanceId.or t.instanceId := congrArg TaskVariable.instanceId heq
  exact ⟨t, htask, p, past, ⟨e, s'⟩, [], rfl, ⟨hk, hp, hname.symm, hbefore ▸ hnone, by simp [hthere]⟩, hinstance⟩

theorem Effect.copied_kept (hs : s.Sound) (hv : s.taskVariable? v'.id = some v) {t : UserTask}
    (ht : s.task? v.taskId = some t) (hcopied : v.Copied t past) :
    ∃ t', s'.task? v'.taskId = some t' ∧ v'.Copied t' (past ++ [⟨e, s'⟩]) := by
  have hthere : s'.taskVariable? v'.id = some v' := (Table.lookup_eq_some hs'.taskVariableIds).2 ⟨hv', rfl⟩
  have hid : v.id = v'.id := (Table.lookup_mem hv).2
  have horigin := h.taskVariable_origin hs hv hthere
  simp only [TaskVariable.origin, Prod.mk.injEq] at horigin
  obtain ⟨htask, hinstance, hname, -⟩ := horigin
  -- The variable has a task after the event too, and it is in the same instance.
  have hhas := hs'.taskVariableOwners v' hv'
  rw [Table.has_eq_isSome] at hhas
  obtain ⟨t', ht' : s'.task? v'.taskId = some t'⟩ := Option.isSome_iff_exists.1 hhas
  have hsame : t'.instanceId = t.instanceId := congrArg Prod.fst (h.task_origin hs (htask ▸ ht) ht')
  obtain ⟨p, before, m, after, rfl, hmade, hcopied⟩ := hcopied
  refine ⟨t', ht', p, before, m, after ++ [⟨e, s'⟩], by simp, ?_, by rw [hsame, hinstance, hcopied]⟩
  refine ⟨hmade.kind, htask ▸ hmade.about, hname ▸ hmade.name, hid ▸ hmade.new, fun x hx => ?_⟩
  rw [← List.cons_append, List.mem_append, List.mem_singleton] at hx
  rcases hx with hx | rfl
  · exact hid ▸ hmade.there x hx
  · simp [hthere]

end Effects

theorem Store.History.copied (h : Store.History {} past s) :
    ∀ v ∈ s.taskVariables, ∃ t, s.task? v.taskId = some t ∧ v.Copied t past := by
  refine h.records (fun past m => ∀ v ∈ m.taskVariables, ∃ t, m.task? v.taskId = some t ∧ v.Copied t past)
    (by simp) ?_
  intro u e k past m m' hbefore hm hm' hk heffect hall v' hv'
  cases hv : m.taskVariable? v'.id with
  | none => exact heffect.copied_new hm'.toSound hv' hk hbefore hv
  | some v =>
    obtain ⟨t, ht, hcopied⟩ := hall v (Table.lookup_mem hv).1
    exact heffect.copied_kept hm'.toSound hv' hm.toSound hv ht hcopied

/-- Over a history from empty tables every task variable has the instance that was named when it was made, or
else that of its task. The instance of the task is not deleted while the task is there, so a variable names
a deleted one only if it was named. -/
theorem instance_copied (h : Store.History {} past s) : ∀ v ∈ s.taskVariables,
    ∃ t, s.task? v.taskId = some t ∧ v.Copied t past ∧
      ∀ x ∈ sinceTask past v.taskId, ∀ i, x.event.Deletes i → t.instanceId ≠ some i := by
  intro v hv
  obtain ⟨t, ht, hcopied⟩ := h.copied v hv
  obtain ⟨hmem, hid⟩ := Table.lookup_mem ht
  exact ⟨t, ht, hcopied, hid ▸ h.task_spared t hmem⟩

namespace Sample

/-- A task with two variables, of which the second names an order that is deleted. -/
def mislaid : List Event := [
  ofTask "TASK_CREATED" "t1" "p1", ofInstance "PROCESS_CREATED" "p2", note "VARIABLE_CREATED",
  event "VARIABLE_CREATED" [("name", .str "hint"), ("taskId", .str "t1"), ("taskVariable", .bool true),
    ("processInstanceId", .str "p2")],
  ofInstance "PROCESS_COMPLETED" "p2", ofInstance "PROCESS_DELETED" "p2"]

end Sample

/-- The note is in the instance of its task, and the hint in the one that was deleted. -/
theorem instance_copied_mislaid :
    let past := Registry.full.recorded Supply.counting.backend Sample.mislaid {}
    let s := (Registry.full.consume Supply.counting.backend Sample.mislaid {}).2
    s.taskVariables.map (fun v => (v.name, v.instanceId)) = [("note", some "p1"), ("hint", some "p2")] ∧
      s.instance? "p2" = none ∧ (sinceTask past "t1").length = 6 ∧
      ∀ v ∈ s.taskVariables, ∃ t, s.task? v.taskId = some t ∧ v.Copied t past := by
  refine ⟨by decide +kernel, by decide +kernel, by decide +kernel, fun v hv => ?_⟩
  obtain ⟨t, ht, hcopied, -⟩ :=
    instance_copied (.consume (.start {}) Registry.full Supply.counting Sample.mislaid) v hv
  exact ⟨t, ht, hcopied⟩

/-- A task variable can be in another instance than its task. -/
theorem instance_parted :
    ¬∀ s : Store, s.Reachable → ∀ v ∈ s.taskVariables, ∀ t, s.task? v.taskId = some t →
      v.instanceId = t.instanceId := by
  intro hcopied
  let s := (Registry.full.consume Supply.counting.backend Sample.mislaid {}).2
  obtain ⟨v, hv, t, ht, hparted⟩ :
      ∃ v ∈ s.taskVariables, ∃ t ∈ s.task? v.taskId, v.instanceId ≠ t.instanceId := by decide +kernel
  exact hparted (hcopied s (.consume .empty Registry.full Supply.counting Sample.mislaid) v hv t ht)

end FlowView
