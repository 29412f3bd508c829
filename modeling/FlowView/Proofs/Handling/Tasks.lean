import FlowView.Proofs.Handling.Basic
/-!
# Tasks and candidates, handled

A new task is linked to the variables of its instance one after the other. It shows none before, so that
none is passed over.
-/

namespace FlowView.Projection

open Program

variable {u : Supply} {e : Event} {s : Store} {k : EventKind}

theorem link_new {taskId variableId : String} (hnew : ⟨taskId, variableId⟩ ∉ s.links)
    (ht : Table.has UserTask.id taskId s.tasks) (hv : Table.has ProcessVariable.id variableId s.processVariables) :
    s.link taskId variableId = .ok (s.withLinks [⟨taskId, variableId⟩]) := by
  simp [Store.link, hnew, ht, hv, Store.withLinks]

/-- Variables of different names are all linked. -/
theorem run_linkNew {taskId : String} {shown : List String} {vs : List ProcessVariable}
    (ht : Table.has UserTask.id taskId s.tasks)
    (hv : ∀ v ∈ vs, Table.has ProcessVariable.id v.id s.processVariables)
    (hnames : (shown ++ vs.map ProcessVariable.name).Nodup)
    (hlinks : (s.links ++ vs.map fun v => VariableLink.mk taskId v.id).Nodup) :
    (linkNew taskId shown vs).run u.backend s =
      (.ok (), s.withLinks (vs.map fun v => ⟨taskId, v.id⟩)) := by
  induction vs generalizing s shown with
  | nil => simp [linkNew, Store.withLinks]
  | cons v vs ih =>
    rw [List.map_cons] at hnames hlinks
    have hname : v.name ∉ shown := fun h =>
      (List.nodup_append.1 hnames).2.2 _ h _ List.mem_cons_self rfl
    have hlink : ⟨taskId, v.id⟩ ∉ s.links := fun h =>
      (List.nodup_append.1 hlinks).2.2 _ h _ List.mem_cons_self rfl
    have hnew := link_new hlink ht (hv v List.mem_cons_self)
    rw [linkNew, if_neg hname, run_ask_ok (congrArg s.change hnew)]
    refine (ih (s := s.withLinks [⟨taskId, v.id⟩]) ht ?_ (List.nodup_middle.1 hnames) ?_).trans ?_
    · exact fun w hw => hv w (List.mem_cons_of_mem _ hw)
    · simpa [Store.withLinks] using hlinks
    · simp [Store.withLinks]

/-- A task that was not there shows nothing, and after its creation all variables of its instance. -/
theorem run_showVariables (hs : s.Sound) {t : UserTask} (ht : s.task? t.id = none) :
    (showVariables t).run u.backend (s.saveTask t) = (.ok (), s.withTask t) := by
  -- A link to the task would lead nowhere.
  have hnone : ∀ l ∈ s.links, l.taskId ≠ t.id := by
    intro l hl hid
    have hhas := hs.linkTasks l hl
    rw [hid, Table.has_eq_isSome, show Table.lookup UserTask.id t.id s.tasks = none from ht] at hhas
    cases hhas
  rw [showVariables, Store.withTask, Store.variablesAround]
  cases t.instanceId with
  | none => simp [Store.withLinks]
  | some instanceId =>
    have hshown : (s.saveTask t).listLinked t.id = [] := by
      rw [List.eq_nil_iff_forall_not_mem]
      exact fun v hv => hnone _ (Store.mem_listLinked.1 hv).2 rfl
    have hanswer : u.backend.answer (.listLinked t.id) (s.saveTask t) = (.ok [], s.saveTask t) :=
      congrArg (s.saveTask t).replied hshown
    rw [run_ask_ok hanswer, run_ask_ok rfl]
    refine run_linkNew ?_ (fun v hv => ?_) ?_ ?_
    · exact Table.has_upsert (fun _ _ => rfl) _ |>.trans (by simp)
    · exact Table.has_of_mem (Store.mem_listVariables.1 hv).1
    · exact List.pairwise_map.2 ((hs.sorted_listVariables instanceId).imp ne_of_lt)
    · refine List.nodup_append.2 ⟨hs.links, ?_, ?_⟩
      · refine .of_map VariableLink.variableId ?_
        rw [List.map_map]
        exact hs.nodup_listVariables instanceId
      · intro l hl l' hl' heq
        obtain ⟨v, -, rfl⟩ := List.mem_map.1 hl'
        exact hnone l hl (heq ▸ rfl)

theorem handled_taskCreated (hs : s.Sound) :
    Handled u e s .taskCreated ((taskCreated e).run u.backend s) := by
  refine handled_payload rfl fun p hp => handled_ask (Store.answer_findTask u hs p.id) ?_
  cases ht : s.task? p.id with
  | some t => exact .done (.taskKnown hp ht)
  | none =>
    rw [run_ask_ok rfl]
    have hrun := run_showVariables (u := u) hs (t := newTask e p) ht
    exact hrun ▸ .done (.taskMade hp ht)

theorem handled_changeTask (hs : s.Sound) {passes : TaskStatus → Bool}
    {change : TaskPayload → Instant → UserTask → UserTask} (hk : TaskChange k passes change) :
    Handled u e s k ((changeTask passes change e).run u.backend s) := by
  apply handled_payload (by cases hk <;> rfl)
  intro p hp
  apply handled_requireTask hs (.noTask hk hp)
  intro t ht
  cases hpass : passes t.status with
  | true => exact .done (.taskPassed hk hp ht hpass)
  | false => exact .done (.taskChanged hk hp ht hpass)

/-! ## Candidates -/

theorem run_addCandidate {c : Candidate} (hc : c.role.ofTask → Table.has UserTask.id c.owner s.tasks) :
    (addCandidate c).run u.backend s = (.ok (), s.withCandidates (Table.adjoin c s.candidates)) := by
  rw [addCandidate, run_ask_ok (r := s.isCandidate c) rfl, Store.isCandidate, Table.adjoin]
  by_cases h : c ∈ s.candidates
  · simp [h, Store.withCandidates]
  · have hadd : s.addCandidate c = .ok (s.withCandidates (s.candidates ++ [c])) := by
      simpa [Store.addCandidate, h, Store.withCandidates] using hc
    simp only [h, decide_false, Bool.false_eq_true, if_false]
    exact (run_ask _ _).trans (congrArg s.change hadd)

theorem run_removeCandidate (c : Candidate) :
    (removeCandidate c).run u.backend s = (.ok (), s.withCandidates (Table.remove (· = c) s.candidates)) := by
  rw [removeCandidate, run_ask_ok (r := s.isCandidate c) rfl, Store.isCandidate]
  by_cases h : c ∈ s.candidates
  · simp only [h, decide_true, if_true]
    rfl
  · have hsame : Table.remove (· = c) s.candidates = s.candidates :=
      List.filter_eq_self.2 fun d hd => by simpa using fun hdc : d = c => h (hdc ▸ hd)
    simp [h, hsame, Store.withCandidates]

theorem handled_changeCandidate (hs : s.Sound) {role : Role}
    {change : Candidate → List Candidate → List Candidate} {prog : Candidate → Program Unit}
    (hk : CandidateChange k role change)
    (hprog : ∀ c : Candidate, (c.role.ofTask → Table.has UserTask.id c.owner s.tasks) →
      (prog c).run u.backend s = (.ok (), s.withCandidates (change c s.candidates))) :
    Handled u e s k ((changeCandidate role prog e).run u.backend s) := by
  apply handled_payload (by cases hk <;> rfl)
  intro p hp
  cases hrole : role.ofTask with
  | false =>
    have hrun := hprog ⟨role, p.owner, p.candidate⟩ (by simp [hrole])
    exact hrun ▸ .done (.starterChanged hk hp hrole)
  | true =>
    apply handled_requireTask hs (.noCandidateTask hk hp hrole)
    intro t ht
    cases hf : t.status.isFinal with
    | true => exact .done (.candidatePassed hk hp hrole ht hf)
    | false =>
      have hrun := hprog ⟨role, p.owner, p.candidate⟩ fun _ => Table.has_of_lookup ht
      exact hrun ▸ .done (.taskCandidateChanged hk hp hrole ht hf)

end FlowView.Projection
