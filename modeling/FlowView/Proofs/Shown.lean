import FlowView.Proofs.Runs
import FlowView.View
/-!
# What tasks show

Over any run of batches the links between tasks and process variables lead from task to variable of one
instance, an open task shows all variables of its instance, no task shows two variables of one name,
and a task that has ended shows nothing new (`snapshot`).
-/

namespace FlowView

open Projection

variable {u : Supply} {e : Event} {s s' : Store} {k : EventKind}

/-! ## Lists by name -/

namespace Store

/-- What a task shows has no two variables of one name. -/
theorem Inv.linked_unique (hs : s.Inv) {taskId : String} {v w : ProcessVariable}
    (hv : v ∈ s.listLinked taskId) (hw : w ∈ s.listLinked taskId) (hn : v.name = w.name) : v = w := by
  obtain ⟨hv', hlv⟩ := mem_listLinked.1 hv
  obtain ⟨hw', hlw⟩ := mem_listLinked.1 hw
  obtain ⟨t, ht, rfl⟩ := Table.has_iff.1 (hs.linkTasks _ hlv)
  have hi := (hs.linkInstances t ht v hv' hlv).symm.trans (hs.linkInstances t ht w hw' hlw)
  exact hs.variableKey_inj hv' hw' (Option.some.inj hi) hn

theorem Inv.sorted_listLinked (hs : s.Inv) (taskId : String) :
    (s.listLinked taskId).Pairwise fun v w => v.name < w.name := by
  have hperm : (s.listLinked taskId).Perm (s.processVariables.filter fun v => ⟨taskId, v.id⟩ ∈ s.links) :=
    Table.sort_perm _ _
  refine Table.sort_before _ _ (List.Nodup.map_on (fun v hv w hw hn => ?_) ?_)
  · exact hs.linked_unique (hperm.mem_iff.2 hv) (hperm.mem_iff.2 hw) hn
  · exact hs.variableIds.of_map.filter _

/-- An open task lists the variables of its instance. -/
theorem Inv.listLinked_open (hs : s.Inv) {t : UserTask} (ht : t ∈ s.tasks) (hopen : t.status.isFinal = false)
    {instanceId : String} (hi : t.instanceId = some instanceId) :
    s.listLinked t.id = s.listVariables instanceId := by
  have hirrefl : Std.Irrefl fun v w : ProcessVariable => v.name < w.name := ⟨fun v => lt_irrefl v.name⟩
  apply (hs.sorted_listLinked t.id).eq_of_mem_iff (hs.toSound.sorted_listVariables instanceId)
  intro v
  rw [mem_listLinked, mem_listVariables]
  refine and_congr_right fun hv => ⟨fun hl => ?_, fun hvi => ?_⟩
  · exact (Option.some.inj (hi.symm.trans (hs.linkInstances t ht v hv hl))).symm
  · exact hs.openTasks t ht hopen v hv (hvi ▸ hi)

end Store

/-! ## Tasks that have ended -/

/-- A task that has ended stays so while its row is there, and shows nothing new. -/
def Settled (s s' : Store) : Prop :=
  ∀ t ∈ s.tasks, t.status.isFinal = true →
    (∀ t' ∈ s'.tasks, t'.id = t.id → t'.status.isFinal = true) ∧
    ∀ variableId, ⟨t.id, variableId⟩ ∈ s'.links → (⟨t.id, variableId⟩ : VariableLink) ∈ s.links

theorem Settled.of_same (hs : s.Sound) (ht : s'.tasks = s.tasks) (hl : ∀ l ∈ s'.links, l ∈ s.links) :
    Settled s s' := by
  refine fun t htask hf => ⟨fun t' ht' hid => ?_, fun _ => hl _⟩
  rw [ht] at ht'
  exact List.inj_on_of_nodup_map hs.taskIds ht' htask hid ▸ hf

theorem Settled.saveTask (hs : s.Sound) {t t' : UserTask} (ht : t ∈ s.tasks) (hid : t'.id = t.id)
    (hopen : t'.status.isFinal = false → t.status.isFinal = false) : Settled s (s.saveTask t') := by
  refine fun w hw hf => ⟨fun w' hw' hwid => ?_, fun _ h => h⟩
  rcases (Table.mem_upsert (fun _ _ => rfl) hs.taskIds).1 hw' with rfl | ⟨hw', -⟩
  · have hwt : w = t := by
      apply List.inj_on_of_nodup_map hs.taskIds hw ht
      rw [← hwid]
      cases Table.lookup UserTask.id t'.id s.tasks <;> exact hid
    cases hlook : Table.lookup UserTask.id t'.id s.tasks
    all_goals
      rw [← Bool.not_eq_false]
      exact fun h => Bool.noConfusion ((hwt ▸ hf).symm.trans (hopen h))
  · exact List.inj_on_of_nodup_map hs.taskIds hw' hw hwid ▸ hf

theorem Settled.cancelTasksOf (hs : s.Sound) (instanceId : String) (time : Instant) :
    Settled s (s.cancelTasksOf instanceId time) := by
  refine fun t ht hf => ⟨fun t' ht' hid => ?_, fun _ h => h⟩
  obtain ⟨w, hw, rfl⟩ := List.mem_map.1 ht'
  split at hid
  · rename_i hopen
    rw [if_pos hopen]
    rfl
  · rename_i hsame
    rw [if_neg hsame]
    exact List.inj_on_of_nodup_map hs.taskIds hw ht hid ▸ hf

theorem Settled.withTask (hs : s.Sound) {t : UserTask} (ht : s.task? t.id = none) :
    Settled s (s.withTask t) := by
  have hne : ∀ t' ∈ s.tasks, t'.id ≠ t.id := Table.lookup_eq_none.1 ht
  have htasks : (s.withTask t).tasks = s.tasks ++ [t] := Table.upsert_new ht
  refine fun w hw hf => ⟨fun w' hw' hid => ?_, fun variableId hl => ?_⟩
  · rw [htasks, List.mem_append, List.mem_singleton] at hw'
    rcases hw' with hw' | rfl
    · exact List.inj_on_of_nodup_map hs.taskIds hw' hw hid ▸ hf
    · exact absurd hid.symm (hne w hw)
  · rcases List.mem_append.1 hl with hl | hl
    · exact hl
    · obtain ⟨v, -, heq⟩ := List.mem_map.1 hl
      exact absurd (VariableLink.mk.inj heq).1.symm (hne w hw)

theorem Settled.withShownVariable (hs : s.Sound) (v : ProcessVariable) :
    Settled s (s.withShownVariable v) := by
  refine fun t ht hf => ⟨fun t' ht' hid => ?_, fun variableId hl => ?_⟩
  · exact List.inj_on_of_nodup_map hs.taskIds ht' ht hid ▸ hf
  · rcases List.mem_append.1 hl with hl | hl
    · exact hl
    · obtain ⟨w, hw, heq⟩ := List.mem_map.1 hl
      obtain ⟨hw, hopen⟩ := List.mem_filter.1 hw
      rw [List.inj_on_of_nodup_map hs.taskIds (Store.mem_tasksOf.1 hw).1 ht (VariableLink.mk.inj heq).1,
        hf] at hopen
      cases hopen

/-- No effect touches a task that has ended in this way. -/
theorem Effect.settled (hs : s.Inv) (h : Effect u e s k s') : Settled s s' := by
  have hsound := hs.toSound
  -- The effects that are not named write neither tasks nor links.
  cases h with
  | @definitionDeployed p hp =>
    obtain ⟨ds, ms, heq⟩ := s.withDefinition_eq e p
    rw [heq]
    exact .of_same hsound rfl fun _ h => h
  | instanceCompleted hp hr hopen => exact Settled.cancelTasksOf (hsound.saveInstance _) _ _
  | instanceDeleted hp hr hf =>
    refine fun t ht hf => ⟨fun t' ht' hid => ?_, fun _ hl => (Table.mem_remove.1 hl).1⟩
    exact List.inj_on_of_nodup_map hs.taskIds (Table.mem_remove.1 ht').1 ht hid ▸ hf
  | taskMade hp ht => exact .withTask hsound ht
  | taskChanged hk hp ht hpass =>
    exact .saveTask hsound (Table.lookup_mem ht).1 (hk.keeps _ _ _).1 (hk.opens hpass)
  | variableMade hp hr hv => exact Settled.withShownVariable (hsound.drawn u) _
  | variableDropped hp hr hopen hv => exact .of_same hsound rfl fun l hl => (Table.mem_remove.1 hl).1
  | _ => exact .of_same hsound rfl fun _ h => h

theorem Registry.step_settled {g : Registry} (hs : s.Inv) (h : g.step u.backend s e = .ok s') :
    Settled s s' := by
  rcases step_ok hs h with rfl | ⟨k, -, heffect⟩
  · exact .of_same hs.toSound rfl fun _ h => h
  · exact heffect.settled hs

/-- Along a trail on which its row stays, a task that has ended stays so and shows nothing new. -/
theorem Trail.settled {between : List Store} (h : Trail s between s') (hs : s.Inv) {id : String}
    {t : UserTask} (ht : s.task? id = some t) (hf : t.status.isFinal = true)
    (hrow : ∀ m ∈ between, (m.task? id).isSome = true) :
    (∃ t', s'.task? id = some t' ∧ t'.status.isFinal = true) ∧
    ∀ variableId, ⟨id, variableId⟩ ∈ s'.links → (⟨id, variableId⟩ : VariableLink) ∈ s.links := by
  induction h generalizing t with
  | stay => exact ⟨⟨t, ht, hf⟩, fun _ h => h⟩
  | @step s s₁ s' rest g u e hstep hrest ih =>
    obtain ⟨t₁, ht₁⟩ := Option.isSome_iff_exists.1 (hrow s₁ List.mem_cons_self)
    obtain ⟨hmem, rfl⟩ := Table.lookup_mem ht
    obtain ⟨hmem₁, hid₁⟩ := Table.lookup_mem ht₁
    -- The row of the id after the step has ended as well, so that the rest may start from it.
    obtain ⟨hfinal, hlinks⟩ := Registry.step_settled hs hstep t hmem hf
    obtain ⟨hend, hrest⟩ := ih (Registry.step_inv hs hstep) ht₁ (hfinal t₁ hmem₁ hid₁)
      fun m hm => hrow m (List.mem_cons_of_mem _ hm)
    exact ⟨hend, fun variableId hl => hlinks variableId (hrest variableId hl)⟩

/-! ## Over all runs -/

theorem run_taskWithVariables (hs : s.Sound) (u : Supply) (id : String) :
    (View.taskWithVariables id).run u.backend s =
      (.ok ((s.task? id).map fun t => ⟨t, s.listTaskVariables id, s.listLinked id⟩), s) := by
  rw [View.taskWithVariables, Program.run_ask_ok (Store.answer_findTask u hs id)]
  cases s.task? id <;> rfl

/-- In all tables that batches lead to, links stay within an instance, an open task shows the variables
of its instance, a task lists what it shows in strict order of names, and over any further run a task
that has ended gains no link while its row is there. -/
theorem snapshot (hs : s.Reachable) :
    (∀ l ∈ s.links, ∃ t ∈ s.tasks, ∃ v ∈ s.processVariables, t.id = l.taskId ∧ v.id = l.variableId ∧
      t.instanceId = some v.instanceId) ∧
    (∀ t ∈ s.tasks, t.status.isFinal = false → ∀ instanceId, t.instanceId = some instanceId →
      s.listLinked t.id = s.listVariables instanceId) ∧
    (∀ taskId, ∀ v ∈ s.processVariables, ∀ w ∈ s.processVariables, ⟨taskId, v.id⟩ ∈ s.links →
      ⟨taskId, w.id⟩ ∈ s.links → v.name = w.name → v = w) ∧
    (∀ (u : Supply) (id : String) (t : UserTask), s.task? id = some t →
      ∃ view : TaskView, ((View.taskWithVariables id).run u.backend s).1 = .ok (some view) ∧
        (∀ v, v ∈ view.shown ↔ v ∈ s.processVariables ∧ ⟨id, v.id⟩ ∈ s.links) ∧
        view.shown.Pairwise fun v w => v.name < w.name) ∧
    ∀ between s', s.Run between s' → ∀ before m middle m' after,
      s :: between = before ++ m :: (middle ++ m' :: after) →
        ∀ id t, m.task? id = some t → t.status.isFinal = true →
          (∀ x ∈ middle ++ [m'], (x.task? id).isSome = true) →
            (∃ t', m'.task? id = some t' ∧ t'.status.isFinal = true) ∧
            ∀ variableId, ⟨id, variableId⟩ ∈ m'.links → (⟨id, variableId⟩ : VariableLink) ∈ m.links := by
  have hinv := hs.inv
  refine ⟨fun l hl => ?_, fun t ht hopen _ hi => hinv.listLinked_open ht hopen hi,
    fun taskId v hv w hw hlv hlw hn => ?_, fun u id t ht => ?_, ?_⟩
  · obtain ⟨t, ht, htid⟩ := Table.has_iff.1 (hinv.linkTasks l hl)
    obtain ⟨v, hv, hvid⟩ := Table.has_iff.1 (hinv.linkVariables l hl)
    refine ⟨t, ht, v, hv, htid, hvid, hinv.linkInstances t ht v hv ?_⟩
    rw [htid, hvid]
    exact hl
  · exact hinv.linked_unique (Store.mem_listLinked.2 ⟨hv, hlv⟩) (Store.mem_listLinked.2 ⟨hw, hlw⟩) hn
  · have hview := run_taskWithVariables hinv.toSound u id
    rw [ht, Option.map_some] at hview
    exact ⟨_, congrArg Prod.fst hview, fun v => Store.mem_listLinked, hinv.sorted_listLinked id⟩
  · intro between s' hrun before m middle m' after hsplit id t ht hf hrow
    obtain ⟨hm, htrail⟩ := (hrun.trail hs).segment hinv hsplit
    exact htrail.settled hm ht hf hrow

/-- The open task of an order shows both variables; the one that ended before shows the first, and never
another one. -/
theorem snapshot_openAndEnded :
    (Sample.store.listLinked "t2").map ProcessVariable.name = ["amount", "approved"] ∧
    (Sample.store.listLinked "t1").map ProcessVariable.name = ["approved"] ∧
    let later := [Sample.ofVariable "VARIABLE_CREATED" "note" "p1"]
    let s' := (Registry.full.consume Supply.counting.backend later Sample.store).2
    ∀ variableId, ⟨"t1", variableId⟩ ∈ s'.links →
      (⟨"t1", variableId⟩ : VariableLink) ∈ Sample.store.links := by
  obtain ⟨-, hopen, -, -, hrun⟩ := snapshot Sample.reachable
  refine ⟨?_, rfl, ?_⟩
  · obtain ⟨t, ht, hid, hf, hi⟩ : ∃ t ∈ Sample.store.tasks, t.id = "t2" ∧ t.status.isFinal = false ∧
        t.instanceId = some "p1" := by decide +kernel
    rw [← hid, hopen t ht hf "p1" hi]
    rfl
  · intro later s'
    obtain ⟨t, ht, hf⟩ : ∃ t, Sample.store.task? "t1" = some t ∧ t.status.isFinal = true := ⟨_, rfl, rfl⟩
    have hlater := Store.Run.consume (.start Sample.store) Registry.full Supply.counting later
    exact (hrun _ _ hlater [] _ [] _ [] rfl "t1" t ht hf (by decide +kernel)).2

end FlowView
