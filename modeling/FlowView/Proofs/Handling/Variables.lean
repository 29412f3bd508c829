import FlowView.Proofs.Deletion
import FlowView.Proofs.Handling.Basic
import FlowView.Proofs.Snapshot
/-!
# Variables, handled

A new variable of an instance is shown to the open tasks one after the other. That they show no other
variable of its name is not checked by any reference: it is `Store.Inv.linkInstances`.
-/

namespace FlowView.Projection

open Program

variable {u : Supply} {e : Event} {s : Store} {k : EventKind}

theorem saveVariable_new {v : ProcessVariable} (hid : Table.has ProcessVariable.id v.id s.processVariables = false)
    (hname : s.findVariable v.instanceId v.name = none)
    (howner : Table.has ProcessInstance.id v.instanceId s.instances) :
    s.saveVariable v = .ok (s.withVariable v) := by
  have hnew : Table.lookup ProcessVariable.id v.id s.processVariables = none := by
    simpa [Table.has_eq_isSome] using hid
  simp [Store.saveVariable, hid, hname, howner, Table.upsert_new hnew, Store.withVariable]

theorem saveTaskVariable_new {v : TaskVariable} (hid : Table.has TaskVariable.id v.id s.taskVariables = false)
    (hname : s.findTaskVariable v.taskId v.name = none)
    (howner : Table.has UserTask.id v.taskId s.tasks) :
    s.saveTaskVariable v = .ok (s.withTaskVariable v) := by
  have hnew : Table.lookup TaskVariable.id v.id s.taskVariables = none := by
    simpa [Table.has_eq_isSome] using hid
  simp [Store.saveTaskVariable, hid, hname, howner, Table.upsert_new hnew, Store.withTaskVariable]

theorem saveVariable_known (hs : s.Sound) {v w : ProcessVariable} (hv : v ∈ s.processVariables)
    (hw : Store.reviseVariable v w = w) : s.saveVariable w = .ok (s.replaceVariable w) := by
  have hid : (Store.reviseVariable v w).id = w.id := congrArg ProcessVariable.id hw
  have hhas : Table.has ProcessVariable.id w.id s.processVariables = true := Table.has_iff.2 ⟨v, hv, hid⟩
  simp [Store.saveVariable, hhas, Table.upsert_same hs.variableIds hv hid hw, Store.replaceVariable]

theorem saveTaskVariable_known (hs : s.Sound) {v w : TaskVariable} (hv : v ∈ s.taskVariables)
    (hw : Store.reviseTaskVariable v w = w) : s.saveTaskVariable w = .ok (s.replaceTaskVariable w) := by
  have hid : (Store.reviseTaskVariable v w).id = w.id := congrArg TaskVariable.id hw
  have hhas : Table.has TaskVariable.id w.id s.taskVariables = true := Table.has_iff.2 ⟨v, hv, hid⟩
  simp [Store.saveTaskVariable, hhas, Table.upsert_same hs.taskVariableIds hv hid hw,
    Store.replaceTaskVariable]

theorem handled_owningInstance {p : VariablePayload} {f : String → Program Unit}
    (hk : k.family = .variable) (hp : e.payload = .ok p) (hi : p.ofTask = false)
    (hf : ∀ instanceId, AboutInstance e p instanceId → Handled u e s k ((f instanceId).run u.backend s)) :
    Handled u e s k ((owningInstance e p >>= f).run u.backend s) := by
  rw [run_bind, run_owningInstance]
  cases howner : p.instanceId.or e.instanceId with
  | some instanceId => exact hf instanceId ⟨hp, hi, howner⟩
  | none => exact .refused (.ownerless hk hp hi howner)

/-- A variable of a task names the task. -/
theorem handled_owningTask {p : VariablePayload} {f : String → Program Unit} (hp : e.payload = .ok p)
    (ht : p.ofTask = true)
    (hf : ∀ taskId, AboutTask e p taskId → Handled u e s k ((f taskId).run u.backend s)) :
    Handled u e s k ((owningTask e p >>= f).run u.backend s) := by
  rw [run_bind, run_owningTask]
  cases howner : p.taskId with
  | some taskId => exact hf taskId ⟨hp, ht, howner⟩
  | none => simp [VariablePayload.ofTask, howner] at ht

theorem handled_byOwner {ofTask ofInstance : Event → VariablePayload → Program Unit}
    (hk : k.fault? e = Event.fault? VariablePayload e)
    (ht : ∀ p, e.payload = .ok p → p.ofTask = true → Handled u e s k ((ofTask e p).run u.backend s))
    (hi : ∀ p, e.payload = .ok p → p.ofTask = false → Handled u e s k ((ofInstance e p).run u.backend s)) :
    Handled u e s k ((byOwner ofTask ofInstance e).run u.backend s) := by
  apply handled_payload hk
  intro p hp
  cases h : p.ofTask with
  | true => exact ht p hp h
  | false => exact hi p hp h

/-! ### New variables -/

theorem run_newTaskVariable {p : VariablePayload} {t : UserTask} {taskId : String}
    (ht : Table.has UserTask.id taskId s.tasks) (hv : s.findTaskVariable taskId p.name = none) :
    (do
      let id ← ask .freshId
      ask (.saveTaskVariable (newTaskVariable e p t id taskId))).run u.backend s =
        (.ok (), (u.drawn s).withTaskVariable (newTaskVariable e p t (u.draw s).1 taskId)) := by
  have hsave := saveTaskVariable_new (s := u.drawn s) (v := newTaskVariable e p t (u.draw s).1 taskId)
    (u.draw_taskVariable s) hv ht
  rw [run_ask_ok (r := (u.draw s).1) rfl, run_ask]
  exact congrArg (u.drawn s).change hsave

theorem handled_createTaskVariable (hs : s.Sound) {p : VariablePayload} (hp : e.payload = .ok p)
    (ht : p.ofTask = true) : Handled u e s .variableCreated ((createTaskVariable e p).run u.backend s) := by
  apply handled_owningTask hp ht
  intro taskId habout
  apply handled_requireTask hs (.noVariableTask (.inl rfl) habout)
  intro t ht
  apply handled_ask (r := s.findTaskVariable taskId p.name) rfl
  cases hv : s.findTaskVariable taskId p.name with
  | some v => exact .done (.taskVariableKnown habout ht hv)
  | none =>
    have hrun := run_newTaskVariable (u := u) (e := e) (t := t) (Table.has_of_lookup ht) hv
    exact hrun ▸ .done (.taskVariableMade habout ht hv)

/-- A task that shows no other variable of the name is linked, unless it has ended. -/
theorem run_showTo {v : ProcessVariable} {t : UserTask}
    (hshown : ∀ w ∈ s.listLinked t.id, w.name = v.name → w.id = v.id)
    (ht : Table.has UserTask.id t.id s.tasks) (hv : Table.has ProcessVariable.id v.id s.processVariables) :
    (showTo v t).run u.backend s =
      (.ok (), if t.status.isFinal then s else { s with links := Table.adjoin ⟨t.id, v.id⟩ s.links }) := by
  have hstale : (s.listLinked t.id).filter (fun w => w.name = v.name ∧ w.id ≠ v.id) = [] := by
    rw [List.filter_eq_nil_iff]
    intro w hw
    simpa using hshown w hw
  have hlink : s.link t.id v.id = .ok { s with links := Table.adjoin ⟨t.id, v.id⟩ s.links } := by
    by_cases h : ⟨t.id, v.id⟩ ∈ s.links <;> simp [Store.link, Table.adjoin, h, ht, hv]
  rw [showTo, run_ask_ok (r := s.listLinked t.id) rfl]
  simp only [hstale, List.map_nil, List.isEmpty_nil, and_true]
  cases hf : t.status.isFinal with
  | true => rfl
  | false =>
    rw [if_neg Bool.false_ne_true, if_neg Bool.false_ne_true, run_bind_ok (run_each_nil _ _), run_ask]
    exact congrArg s.change hlink

theorem foldl_show (v : ProcessVariable) (ts : List UserTask) (s : Store) :
    ts.foldl (fun s t =>
        if t.status.isFinal then s else { s with links := Table.adjoin ⟨t.id, v.id⟩ s.links }) s =
      { s with
        links := ((ts.filter fun t => !t.status.isFinal).map fun t => VariableLink.mk t.id v.id).foldl
          (fun ls l => Table.adjoin l ls) s.links } := by
  induction ts generalizing s with
  | nil => rfl
  | cons t ts ih =>
    rw [List.foldl_cons, ih]
    cases hf : t.status.isFinal <;> simp [hf]

/-- A new variable is shown to the open tasks of its instance. -/
theorem run_showToAll (hs : s.Inv) {v : ProcessVariable}
    (hid : Table.has ProcessVariable.id v.id s.processVariables = false)
    (hname : s.findVariable v.instanceId v.name = none) :
    (Program.each (s.tasksOf v.instanceId) (showTo v)).run u.backend (s.withVariable v) =
      (.ok (), s.withShownVariable v) := by
  -- On the way only links to the new variable are added.
  let inv (s' : Store) : Prop := s'.tasks = s.tasks ∧ s'.processVariables = s.processVariables ++ [v]
    ∧ ∀ l ∈ s'.links, l ∈ s.links ∨ l.variableId = v.id
  have hstep : ∀ t ∈ s.tasksOf v.instanceId, ∀ s', inv s' →
      (showTo v t).run u.backend s' = (.ok (), if t.status.isFinal then s' else
        { s' with links := Table.adjoin ⟨t.id, v.id⟩ s'.links }) ∧
      inv (if t.status.isFinal then s' else { s' with links := Table.adjoin ⟨t.id, v.id⟩ s'.links }) := by
    rintro t ht s' ⟨htasks, hvariables, hlinks⟩
    obtain ⟨ht, hti⟩ := Store.mem_tasksOf.1 ht
    refine ⟨run_showTo (fun w hw hn => ?_) ?_ ?_, ?_⟩
    · obtain ⟨hw, hl⟩ := Store.mem_listLinked.1 hw
      rcases hlinks _ hl with hl | hl
      · rw [hvariables, List.mem_append, List.mem_singleton] at hw
        rcases hw with hw | rfl
        · have hi := hs.linkInstances t ht w hw hl
          rw [hti, Option.some.injEq] at hi
          exact absurd hn (Store.findVariable_eq_none.1 hname w hw hi.symm)
        · rfl
      · exact hl
    · exact htasks ▸ Table.has_of_mem ht
    · exact hvariables ▸ Table.has_of_mem (List.mem_append_right _ (List.mem_singleton_self v))
    · split
      · exact ⟨htasks, hvariables, hlinks⟩
      · refine ⟨htasks, hvariables, fun l hl => ?_⟩
        exact (Table.mem_adjoin.1 hl).elim (hlinks l) fun h => .inr (h ▸ rfl)
  have hloop := run_each inv hstep (s.withVariable v) ⟨rfl, rfl, fun l hl => .inl hl⟩
  rw [hloop.1, foldl_show, Table.foldl_adjoin]
  · rfl
  · refine List.nodup_append.2 ⟨hs.links, ?_, ?_⟩
    · refine .of_map VariableLink.taskId ?_
      rw [List.map_map]
      exact (hs.nodup_tasksOf v.instanceId).sublist (List.filter_sublist.map _)
    · intro l hl l' hl' heq
      obtain ⟨t, -, rfl⟩ := List.mem_map.1 hl'
      have hhas := hs.linkVariables l hl
      rw [heq, hid] at hhas
      cases hhas

/-- A new variable is saved under a new id and then shown, on tables that stay sound in between. -/
theorem run_newVariable (hs : s.Inv) {p : VariablePayload} {instanceId : String}
    (hi : Table.has ProcessInstance.id instanceId s.instances) (hv : s.findVariable instanceId p.name = none) :
    ((u.drawn s).withVariable (newVariable e p (u.draw s).1 instanceId)).Sound ∧ (do
      let id ← ask .freshId
      ask (.saveVariable (newVariable e p id instanceId))
      let tasks ← ask (.listTasks instanceId)
      Program.each tasks (showTo (newVariable e p id instanceId))).run u.backend s =
        (.ok (), (u.drawn s).withShownVariable (newVariable e p (u.draw s).1 instanceId)) := by
  have hdrawn : (u.drawn s).Inv := { hs with }
  have hsave := saveVariable_new (s := u.drawn s) (v := newVariable e p (u.draw s).1 instanceId)
    (u.draw_variable s) hv hi
  have hsaved := hdrawn.toSound.saveVariable hsave
  refine ⟨hsaved, ?_⟩
  rw [run_ask_ok (r := (u.draw s).1) rfl, run_ask_ok (congrArg (u.drawn s).change hsave),
    run_ask_ok (Store.answer_listTasks u hsaved instanceId)]
  exact run_showToAll hdrawn (v := newVariable e p (u.draw s).1 instanceId) (u.draw_variable s) hv

theorem handled_createVariable (hs : s.Inv) {p : VariablePayload} (hp : e.payload = .ok p)
    (hi : p.ofTask = false) : Handled u e s .variableCreated ((createVariable e p).run u.backend s) := by
  apply handled_owningInstance rfl hp hi
  intro instanceId habout
  apply handled_requireInstance hs.toSound (.noVariableInstance (.inl rfl) habout)
  intro r hr
  apply handled_ask (r := s.findVariable instanceId p.name) rfl
  cases hv : s.findVariable instanceId p.name with
  | some v => exact .done (.variableKnown habout hr hv)
  | none =>
    have hrun := (run_newVariable (u := u) (e := e) hs (Table.has_of_lookup hr) hv).2
    exact hrun ▸ .done (.variableMade habout hr hv)

/-! ### New values -/

theorem run_revalueTask (hs : s.Sound) {v : TaskVariable} (hv : v ∈ s.taskVariables) (p : VariablePayload) :
    (ask (.saveTaskVariable (revalueTask e p v))).run u.backend s =
      (.ok (), s.replaceTaskVariable (revalueTask e p v)) :=
  (run_ask _ _).trans (congrArg s.change (saveTaskVariable_known hs hv rfl))

theorem run_revalue (hs : s.Sound) {v : ProcessVariable} (hv : v ∈ s.processVariables) (p : VariablePayload) :
    (ask (.saveVariable (revalue e p v))).run u.backend s = (.ok (), s.replaceVariable (revalue e p v)) :=
  (run_ask _ _).trans (congrArg s.change (saveVariable_known hs hv rfl))

theorem handled_updateTaskVariable (hs : s.Sound) {p : VariablePayload} (hp : e.payload = .ok p)
    (ht : p.ofTask = true) : Handled u e s .variableUpdated ((updateTaskVariable e p).run u.backend s) := by
  apply handled_owningTask hp ht
  intro taskId habout
  apply handled_requireTask hs (.noVariableTask (.inr rfl) habout)
  intro t ht
  cases hf : t.status.isFinal with
  | true => exact .done (.taskVariableKept habout ht hf)
  | false =>
    apply handled_ask (r := s.findTaskVariable taskId p.name) rfl
    cases hv : s.findTaskVariable taskId p.name with
    | none => exact .refused (.noTaskVariable habout ht hf hv)
    | some v =>
      have hrun := run_revalueTask (u := u) (e := e) hs (Store.findTaskVariable_mem hv).1 p
      exact hrun ▸ .done (.taskVariableRevalued habout ht hf hv)

theorem handled_updateVariable (hs : s.Sound) {p : VariablePayload} (hp : e.payload = .ok p)
    (hi : p.ofTask = false) : Handled u e s .variableUpdated ((updateVariable e p).run u.backend s) := by
  apply handled_owningInstance rfl hp hi
  intro instanceId habout
  apply handled_requireInstance hs (.noVariableInstance (.inr rfl) habout)
  intro r hr
  cases hf : r.status.isFinal with
  | true => exact .done (.variableKept habout hr hf)
  | false =>
    apply handled_ask (r := s.findVariable instanceId p.name) rfl
    cases hv : s.findVariable instanceId p.name with
    | none => exact .refused (.noVariable habout hr hf hv)
    | some v =>
      have hrun := run_revalue (u := u) (e := e) hs (Store.findVariable_mem hv).1 p
      exact hrun ▸ .done (.variableRevalued habout hr hf hv)

/-! ### Deletion -/

theorem handled_dropTaskVariable (hs : s.Sound) {p : VariablePayload} (hp : e.payload = .ok p)
    (ht : p.ofTask = true) : Handled u e s .variableDeleted ((dropTaskVariable e p).run u.backend s) := by
  apply handled_owningTask hp ht
  intro taskId habout
  apply handled_ask (Store.answer_findTask u hs taskId)
  cases ht : s.task? taskId with
  | none => exact .done (.taskVariableSpared habout fun t h => by cases ht.symm.trans h)
  | some t =>
    dsimp only
    cases hf : t.status.isFinal with
    | true =>
      refine .done (.taskVariableSpared habout fun t' h hopen => ?_)
      cases ht.symm.trans h
      cases hf.symm.trans hopen
    | false =>
      apply handled_ask (r := s.findTaskVariable taskId p.name) rfl
      cases hv : s.findTaskVariable taskId p.name with
      | none => exact .done (.taskVariableSpared habout fun _ _ _ => hv)
      | some v => exact .done (.taskVariableDropped habout ht hf hv)

theorem handled_dropVariable (hs : s.Sound) {p : VariablePayload} (hp : e.payload = .ok p)
    (hi : p.ofTask = false) : Handled u e s .variableDeleted ((dropVariable e p).run u.backend s) := by
  apply handled_owningInstance rfl hp hi
  intro instanceId habout
  apply handled_ask (Store.answer_findInstance u hs instanceId)
  cases hr : s.instance? instanceId with
  | none => exact .done (.variableSpared habout fun t h => by cases hr.symm.trans h)
  | some r =>
    dsimp only
    cases hf : r.status.isFinal with
    | true =>
      refine .done (.variableSpared habout fun r' h hopen => ?_)
      cases hr.symm.trans h
      cases hf.symm.trans hopen
    | false =>
      apply handled_ask (r := s.findVariable instanceId p.name) rfl
      cases hv : s.findVariable instanceId p.name with
      | none => exact .done (.variableSpared habout fun _ _ _ => hv)
      | some v => exact run_deleteVariable u v.id s ▸ .done (.variableDropped habout hr hf hv)

end FlowView.Projection
