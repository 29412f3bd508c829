import FlowView.Proofs.Transaction
/-!
# Completing an instance

The completion of an instance cancels its tasks that are open and touches nothing else (`completion_closes`).
It goes through the tasks one after the other, as the store lists them. What it comes to does not depend on
their order: it is told of a backend that lists tasks in any order (`Backend.arranged`), also within a batch
that has changed some of them before.
-/

namespace FlowView

open Program Projection

variable {α β σ : Type} {u : Supply} {g : Registry} {e : Event} {s s' : Store}
  {order : List UserTask → List UserTask}

/-! ## Tasks listed in another order -/

def Call.listsTasks : Call → Bool
  | .listTasks _ => true
  | _ => false

/-- An answer with the tasks that it lists in another order. -/
def Call.arrange (order : List UserTask → List UserTask) : (c : Call) → c.Answer → c.Answer
  | .listTasks _, tasks => order tasks
  | _, r => r

/-- A backend that lists tasks in another order. -/
def Backend.arranged (order : List UserTask → List UserTask) (b : Backend σ) : Backend σ :=
  { b with answer := fun c s => ((b.answer c s).1.map (c.arrange order), (b.answer c s).2) }

/-- A program that takes the tasks it asks for in another order. -/
def Program.arranged (order : List UserTask → List UserTask) : Program α → Program α
  | .done a => .done a
  | .fail f => .fail f
  | .call c next => .call c fun r => (next (c.arrange order r)).arranged order

theorem Call.arrange_other {c : Call} (hc : c.listsTasks = false) (r : c.Answer) : c.arrange order r = r := by
  cases c <;> first | rfl | cases hc

theorem Backend.arranged_other (order : List UserTask → List UserTask) (b : Backend σ) {c : Call}
    (hc : c.listsTasks = false) : (b.arranged order).answer c = b.answer c := by
  funext s
  have harrange : c.arrange order = id := funext (Call.arrange_other hc)
  simp [arranged, harrange]

/-- A cache takes no part in the listing of tasks. -/
theorem Cache.backend_arranged (b : Backend σ) :
    Cache.backend (b.arranged order) = (Cache.backend b).arranged order := by
  have hanswer (c : Call) : Cache.answer (b.arranged order) c = ((Cache.backend b).arranged order).answer c := by
    cases hc : c.listsTasks with
    | true =>
      cases c <;> cases hc
      funext ms
      obtain ⟨m, s⟩ := ms
      simp only [Cache.answer, Cache.pass, Backend.arranged, Cache.backend]
      cases h : b.answer (.listTasks _) s with
      | mk r s' => cases r <;> rfl
    | false =>
      have hsame := b.arranged_other order hc
      rw [Backend.arranged_other order _ hc]
      funext ms
      cases c <;> simp only [Cache.answer, Cache.backend] <;> rw [hsame]
  exact congrArg (Backend.mk · (Cache.look b)) (funext hanswer)

/-- Nothing is loaded ahead that the order could change. -/
theorem Cache.prefetch_arranged (b : Backend σ) (plan : FetchPlan) (ms : Cache × σ) :
    Cache.prefetch (b.arranged order) plan ms = Cache.prefetch b plan ms := by
  have hfind (id : String) : (b.arranged order).answer (.findInstance id) = b.answer (.findInstance id) :=
    b.arranged_other order rfl
  simp only [prefetch, prefetchInstance, hfind]
  rfl

namespace Program

/-- It does not matter who puts the tasks in another order. -/
theorem run_arranged (b : Backend σ) (p : Program α) (s : σ) :
    p.run (b.arranged order) s = (p.arranged order).run b s := by
  induction p generalizing s with
  | done a => rfl
  | fail f => rfl
  | call c next ih =>
    rw [arranged, run_call, run_call, Backend.arranged]
    dsimp only
    cases h : b.answer c s with
    | mk r s' =>
      cases r with
      | ok r => exact ih _ s'
      | error f => rfl

theorem arranged_bind (p : Program α) (f : α → Program β) :
    (p >>= f).arranged order = p.arranged order >>= fun a => (f a).arranged order := by
  induction p with
  | done a => rfl
  | fail e => rfl
  | call c next ih => exact congrArg (Program.call c) (funext fun r => ih _)

/-- A program that lists no tasks stays the same. -/
theorem Only.arranged_eq {p : Program α} (hp : p.Only fun c => c.listsTasks = false) :
    p.arranged order = p := by
  induction p with
  | done a => rfl
  | fail e => rfl
  | call c next ih =>
    refine congrArg (Program.call c) (funext fun r => ?_)
    rw [Call.arrange_other hp.1, ih r (hp.2 r)]

theorem arranged_same (p : Program α) : p.arranged (fun ts => ts) = p := by
  induction p with
  | done a => rfl
  | fail e => rfl
  | call c next ih =>
    refine congrArg (Program.call c) (funext fun r => ?_)
    rw [ih]
    cases c <;> rfl

theorem Only.arranged {allowed : Call → Prop} {p : Program α} (hp : p.Only allowed)
    (order : List UserTask → List UserTask) : (p.arranged order).Only allowed := by
  induction p with
  | done a => trivial
  | fail e => trivial
  | call c next ih => exact ⟨hp.1, fun r => ih _ (hp.2 _)⟩

end Program

/-! ## The event -/

theorem run_cancelOpenTasks_arranged (horder : ∀ ts, (order ts).Perm ts) (hs : s.Sound) (instanceId : String)
    (time : Instant) :
    ((cancelOpenTasks instanceId time).arranged order).run u.backend s =
      (.ok (), s.cancelTasksOf instanceId time) := by
  have hlist : ((ask (.listTasks instanceId)).arranged order).run u.backend s =
      (.ok (order (s.tasksOf instanceId)), s) := by
    rw [← run_arranged, run_ask, Backend.arranged]
    dsimp only
    rw [Store.answer_listTasks u hs]
    rfl
  have hloop (ts : List UserTask) : (each ts fun t =>
      if t.status.isFinal then return () else ask (.saveTask (cancelTask time t))).Only
        fun c => c.listsTasks = false :=
    .each fun t => by
      split
      · trivial
      · exact .last rfl
  rw [cancelOpenTasks, arranged_bind, run_bind_ok hlist, (hloop _).arranged_eq]
  exact run_cancelEach hs instanceId time fun t => (horder _).mem_iff

/-- The completion of an instance that is there, whatever the order that its tasks are listed in. -/
theorem run_instanceCompleted_arranged (horder : ∀ ts, (order ts).Perm ts) (hs : s.Sound) {p : InstancePayload}
    {r : ProcessInstance} (hp : e.payload = .ok p) (hr : s.instance? p.id = some r) :
    ((instanceCompleted e).arranged order).run u.backend s =
      (.ok (), if r.status.isFinal then s
        else (s.saveInstance (complete p e.time r)).cancelTasksOf p.id e.time) := by
  have hread : (payload e : Program InstancePayload).Only fun c => c.listsTasks = false := .ofEvent e.payload
  have hfind : (requireInstance p.id).Only fun c => c.listsTasks = false :=
    .ask rfl fun r => by cases r <;> trivial
  have hpayload : ((payload e : Program InstancePayload).arranged order).run u.backend s = (.ok p, s) := by
    rw [hread.arranged_eq, run_payload, hp]
    rfl
  have hinstance : ((requireInstance p.id).arranged order).run u.backend s = (.ok r, s) := by
    rw [hfind.arranged_eq, run_requireInstance u hs, hr]
  rw [instanceCompleted, arranged_bind, run_bind_ok hpayload, arranged_bind, run_bind_ok hinstance]
  cases r.status.isFinal with
  | true => rfl
  | false =>
    have hsave : ((ask (.saveInstance (complete p e.time r))).arranged order).run u.backend s =
        (.ok (), s.saveInstance (complete p e.time r)) := rfl
    have hid : r.id = p.id := (Table.lookup_mem hr).2
    rw [if_neg Bool.false_ne_true, if_neg Bool.false_ne_true, arranged_bind, run_bind_ok hsave, hid]
    exact run_cancelOpenTasks_arranged horder (hs.saveInstance _) p.id e.time

/-- What the completion of an instance that has not ended makes of the tables. -/
structure Store.Completes (s : Store) (instanceId : String) (time : Instant) (s' : Store) : Prop where
  closed : ∀ t ∈ s'.tasks, t.instanceId = some instanceId → t.status.isFinal = true
  cancelled : ∀ t ∈ s.tasks, t.instanceId = some instanceId → t.status.isFinal = false →
    { t with status := .cancelled, lastModified := some time } ∈ s'.tasks
  ended : ∀ t ∈ s.tasks, t.instanceId = some instanceId → t.status.isFinal = true → t ∈ s'.tasks
  otherTasks : ∀ t ∈ s.tasks, t.instanceId ≠ some instanceId → t ∈ s'.tasks
  taskIds : s'.tasks.map UserTask.id = s.tasks.map UserTask.id
  completed : ∃ r, s'.instance? instanceId = some r ∧ r.status = .completed
  otherInstances : ∀ r ∈ s.instances, r.id ≠ instanceId → r ∈ s'.instances
  instanceIds : s'.instances.map ProcessInstance.id = s.instances.map ProcessInstance.id
  rest : s' = { s with instances := s'.instances, tasks := s'.tasks }

theorem Store.Sound.completes (hs : s.Sound) {p : InstancePayload} {r : ProcessInstance}
    (hr : s.instance? p.id = some r) (time : Instant) :
    s.Completes p.id time ((s.saveInstance (complete p time r)).cancelTasksOf p.id time) := by
  obtain ⟨hmem, hid⟩ := Table.lookup_mem hr
  have hsaved : (s.saveInstance (complete p time r)).instances =
      s.instances.map fun w => if w.id = r.id then complete p time r else w :=
    Table.upsert_known hs.instanceIds (Table.has_iff.2 ⟨r, hmem, rfl⟩)
  have htask {t : UserTask} (ht : t ∈ s.tasks) :
      (if t.instanceId = some p.id ∧ !t.status.isFinal then cancelTask time t else t) ∈
        ((s.saveInstance (complete p time r)).cancelTasksOf p.id time).tasks :=
    List.mem_map_of_mem ht
  have hinstance {w : ProcessInstance} (hw : w ∈ s.instances) :
      (if w.id = r.id then complete p time r else w) ∈
        ((s.saveInstance (complete p time r)).cancelTasksOf p.id time).instances :=
    hsaved ▸ List.mem_map_of_mem hw
  constructor
  case closed =>
    intro t ht hi
    obtain ⟨w, hw, rfl⟩ := List.mem_map.1 ht
    by_cases hcancel : w.instanceId = some p.id ∧ !w.status.isFinal
    · rw [if_pos hcancel]
      rfl
    · rw [if_neg hcancel] at hi ⊢
      simpa [hi] using hcancel
  case cancelled =>
    intro t ht hi hopen
    have hcancelled := htask ht
    rwa [if_pos ⟨hi, by simp [hopen]⟩] at hcancelled
  case ended =>
    intro t ht hi hended
    simpa [hended] using htask ht
  case otherTasks =>
    intro t ht hi
    simpa [hi] using htask ht
  case taskIds =>
    refine List.map_map.trans (List.map_congr_left fun t _ => ?_)
    dsimp only [Function.comp]
    split <;> rfl
  case completed =>
    have hdone : (complete p time r).id = p.id := hid
    have hfound : (s.saveInstance (complete p time r)).instance? p.id = some (complete p time r) := by
      rw [Store.instance?_saveInstance, if_pos hdone]
    exact ⟨_, hfound, rfl⟩
  case otherInstances =>
    intro w hw hne
    simpa [hid, hne] using hinstance hw
  case instanceIds =>
    have hids : (s.saveInstance (complete p time r)).instances.map ProcessInstance.id =
        s.instances.map ProcessInstance.id := by
      rw [hsaved, List.map_map]
      refine List.map_congr_left fun w _ => ?_
      dsimp only [Function.comp]
      split
      · exact Eq.symm ‹w.id = r.id›
      · rfl
    exact hids
  case rest =>
    simp [Store.saveInstance, Store.cancelTasksOf, Store.settle, hs.statuses]

/-- What a completion comes to on the tables it comes to over every cache that knows them, whatever the order
that the tasks are listed in. -/
theorem Store.Sound.completion_cached (hs : s.Sound)
    (hrun : ((instanceCompleted e).arranged order).run u.backend s = (.ok (), s')) {c : Cache} (hc : c.Agrees s) :
    ∃ c', (EventKind.processCompleted.project e).run (Cache.backend (u.backend.arranged order)) (c, s) =
      (.ok (), c', s') := by
  have hfaithful := ((harmless_instanceCompleted e).arranged order).faithful u.backend s
  obtain ⟨c', hcached, -⟩ := Program.run_follows u hs hc hfaithful
  rw [hrun] at hcached
  rw [Cache.backend_arranged, run_arranged]
  exact ⟨c', hcached⟩

theorem Store.Sound.consume_completion (hs : s.Sound)
    (hprogram : g.program? e = some (EventKind.processCompleted.project e))
    (hrun : ((instanceCompleted e).arranged order).run u.backend s = (.ok (), s')) :
    g.consume (u.backend.arranged order) [e] s = (.ok ⟨1, 0⟩, s') := by
  obtain ⟨c, hload, hc⟩ := Cache.prefetch_follows u hs (Cache.agrees_empty s) (FetchPlan.ofEvents [e])
  obtain ⟨c', hcached⟩ := hs.completion_cached hrun hc
  simp only [Registry.consume, List.isEmpty_cons, Bool.false_eq_true, if_false, Registry.transact,
    Cache.prefetch_arranged, hload, Registry.handle, Registry.handleFrom, hprogram, hcached]

/-- Consuming the completion of an instance, after other events of its batch. Of an instance that has ended
nothing changes. One that has not is completed, its open tasks are cancelled at the time of the event, and
every other row stays as the batch left it. It comes to the same in whatever order the tasks are listed, in a
batch of its own and over any cache that knows what the tables hold. -/
theorem completion_closes (hs : s.Reachable) (u : Supply) {g : Registry} (hg : .processCompleted ∈ g.kinds)
    {before : List Event} {n : Counts} {m : Store} (hbefore : g.consume u.backend before s = (.ok n, m))
    {e : Event} (hk : e.kind? = some .processCompleted) {p : InstancePayload} (hp : e.payload = .ok p)
    {r : ProcessInstance} (hr : m.instance? p.id = some r) :
    ∃ s', g.consume u.backend (before ++ [e]) s = (.ok { n with handled := n.handled + 1 }, s') ∧
      (r.status.isFinal = true → s' = m) ∧
      (r.status.isFinal = false → m.Completes p.id e.time s') ∧
      ∀ order : List UserTask → List UserTask, (∀ ts, (order ts).Perm ts) →
        g.consume (u.backend.arranged order) [e] m = (.ok ⟨1, 0⟩, s') ∧
        ∀ c : Cache, c.Agrees m →
          ∃ c', (EventKind.processCompleted.project e).run (Cache.backend (u.backend.arranged order)) (c, m) =
            (.ok (), c', s') := by
  obtain ⟨hfold, rfl⟩ := (Registry.consume_ok_iff hs.inv.toSound before).1 hbefore
  have hm : m.Inv := Registry.fold_inv before hs.inv hfold
  have hrun (order : List UserTask → List UserTask) (horder : ∀ ts, (order ts).Perm ts) :=
    run_instanceCompleted_arranged (u := u) horder hm.toSound hp hr
  generalize hs' : (if r.status.isFinal then m
    else (m.saveInstance (complete p e.time r)).cancelTasksOf p.id e.time) = s' at hrun
  have hprogram : g.program? e = some (EventKind.processCompleted.project e) :=
    Registry.program?_of_kind hk hg
  have hstep : g.step u.backend m e = .ok s' := by
    have hplain := hrun (fun ts => ts) fun ts => .refl ts
    rw [arranged_same] at hplain
    rw [Registry.step, hprogram]
    dsimp only [EventKind.project]
    rw [hplain]
  refine ⟨s', (Registry.consume_ok_iff hs.inv.toSound _).2 ⟨?_, ?_⟩, fun hfinal => ?_, fun hopen => ?_,
    fun order horder => ⟨?_, fun c hc => hm.toSound.completion_cached (hrun order horder) hc⟩⟩
  · simp only [Registry.fold_append, hfold, Registry.fold_cons, hstep, Registry.fold_nil]
  · have hhandled : g.handles e = true := by simp [Registry.handles, hprogram]
    simp [List.countP_append, hhandled]
  · rw [← hs', if_pos hfinal]
  · rw [← hs', if_neg (by simp [hopen])]
    exact hm.toSound.completes hr e.time
  · exact hm.toSound.consume_completion hprogram (hrun order horder)

namespace Sample

/-- A task of the first order gets a name, and then the order is completed. -/
def rename : Event := event "TASK_UPDATED" [("id", .str "t2"), ("name", .str "check")]

def completion : Event := ofInstance "PROCESS_COMPLETED" "p1"

end Sample

/-- The task that is cancelled keeps the name that it got in the batch, also if the tasks are listed the
other way round. -/
theorem completion_closes_renamed :
    let m := (Registry.full.consume Supply.counting.backend [Sample.rename] Sample.store).2
    ∃ s', Registry.full.consume Supply.counting.backend [Sample.rename, Sample.completion] Sample.store =
        (.ok ⟨2, 0⟩, s') ∧
      m.Completes "p1" Sample.completion.time s' ∧
      s'.tasks.map (fun t => (t.id, t.name, t.status)) =
        [("t1", none, .completed), ("t2", some "check", .cancelled), ("t3", none, .created)] ∧
      Registry.full.consume (Supply.counting.backend.arranged List.reverse) [Sample.completion] m =
        (.ok ⟨1, 0⟩, s') := by
  intro m
  obtain ⟨r, hr, hopen⟩ : ∃ r, m.instance? "p1" = some r ∧ r.status.isFinal = false := ⟨_, rfl, rfl⟩
  have hbefore : Registry.full.consume Supply.counting.backend [Sample.rename] Sample.store =
      (.ok ⟨1, 0⟩, m) := Prod.ext (by decide +kernel) rfl
  obtain ⟨s', hrun, -, hcompletes, horder⟩ := completion_closes Sample.reachable Supply.counting
    (by decide) hbefore (e := Sample.completion) rfl rfl hr
  have hs' : (Registry.full.consume Supply.counting.backend [Sample.rename, Sample.completion] Sample.store).2 =
      s' := congrArg Prod.snd hrun
  refine ⟨s', hrun, hcompletes hopen, ?_, (horder List.reverse List.reverse_perm).1⟩
  rw [← hs']
  decide +kernel

end FlowView
