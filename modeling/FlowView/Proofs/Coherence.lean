import FlowView.Proofs.Answers
/-!
# What the cache knows is what the tables hold

A memo agrees with a search if every entry, present or absent, is what the search finds. Over sound
tables the cache answers like the store and goes on agreeing with it (`answer_follows`), as long as no
row is saved over another whose fixed columns it contradicts. A program that keeps to this runs over
the cache as it runs on the store (`run_follows`), and so it does after any plan was loaded ahead
(`prefetch_follows`).
-/

namespace FlowView

/-! ## Memos -/

namespace Memo

variable {κ α : Type} [DecidableEq κ] {m : Memo κ α} {find find' : κ → Option α}

/-- Every entry is what a search for its key finds. -/
def Agrees (m : Memo κ α) (find : κ → Option α) : Prop := ∀ k row, m.get? k = some row → find k = row

theorem agrees_empty : ({} : Memo κ α).Agrees find := by intro k row h; cases h

theorem get?_put (m : Memo κ α) (k j : κ) (row : Option α) :
    (m.put k row).get? j = if j = k then some row else m.get? j := by
  by_cases h : j = k
  · simp [get?, put, h]
  · simp [get?, put, List.lookup_cons, h, beq_eq_false_iff_ne.2 h]

theorem Agrees.put (h : m.Agrees find) {k : κ} {row : Option α} (hk : find' k = row)
    (hj : ∀ j, j ≠ k → find' j = find j) : (m.put k row).Agrees find' := by
  intro j r hr
  rw [get?_put] at hr
  split at hr
  · rename_i hjk
    cases hr
    rw [hjk, hk]
  · rename_i hjk
    rw [hj j hjk, h j r hr]

theorem get?_forget (m : Memo κ α) (picked : α → Bool) (k : κ) :
    (m.forget picked).get? k = (m.get? k).map fun row => row.filter fun r => !picked r := by
  unfold get? forget
  induction m.entries with
  | nil => rfl
  | cons e es ih =>
    obtain ⟨j, row⟩ := e
    simp only [List.map_cons, List.lookup_cons]
    split
    · rfl
    · exact ih

theorem Agrees.forget (h : m.Agrees find) {picked : α → Bool}
    (hp : ∀ k, find' k = (find k).filter fun r => !picked r) : (m.forget picked).Agrees find' := by
  intro k row hrow
  rw [get?_forget] at hrow
  obtain ⟨row', hrow', rfl⟩ := Option.map_eq_some_iff.1 hrow
  rw [hp, h k row' hrow']

theorem get?_absent (m : Memo κ α) (keys : List κ) (k : κ) :
    (keys.foldl (fun m k => m.put k none) m).get? k = if k ∈ keys then some none else m.get? k := by
  induction keys generalizing m with
  | nil => simp
  | cons j js ih =>
    rw [List.foldl_cons, ih, get?_put]
    by_cases hj : k = j <;> by_cases hjs : k ∈ js <;> simp [hj, hjs]

/-- After rows were noted, an entry is one of them or an old entry of a key that none of them has. -/
theorem get?_found (m : Memo κ α) (key : α → κ) (found : List α) {k : κ} {row : Option α}
    (h : (found.foldl (fun m r => m.put (key r) (some r)) m).get? k = some row) :
    (∃ r ∈ found, key r = k ∧ row = some r) ∨ ((∀ r ∈ found, key r ≠ k) ∧ m.get? k = some row) := by
  induction found generalizing m with
  | nil => exact .inr ⟨by simp, h⟩
  | cons x xs ih =>
    rcases ih _ h with ⟨r, hr, hk⟩ | ⟨hne, hget⟩
    · exact .inl ⟨r, List.mem_cons_of_mem _ hr, hk⟩
    · rw [get?_put] at hget
      split at hget
      · rename_i hx
        cases hget
        exact .inl ⟨x, List.mem_cons_self, hx.symm, rfl⟩
      · rename_i hx
        refine .inr ⟨fun r hr => ?_, hget⟩
        rcases List.mem_cons.1 hr with rfl | hr
        · exact fun h => hx h.symm
        · exact hne r hr

/-- Rows that were asked for by keys can be noted, if they are what there is. -/
theorem Agrees.putAll (h : m.Agrees find) {keys : List κ} {key : α → κ} {found : List α}
    (hfound : ∀ r ∈ found, find (key r) = some r)
    (hall : ∀ k ∈ keys, ∀ r, find k = some r → r ∈ found ∧ key r = k) :
    (m.putAll keys key found).Agrees find := by
  intro k row hrow
  rcases get?_found _ key found hrow with ⟨r, hr, rfl, rfl⟩ | ⟨hne, hget⟩
  · exact hfound r hr
  · rw [get?_absent] at hget
    split at hget
    -- The key was asked for and nothing was found, so it is noted as absent.
    · rename_i hk
      cases hget
      cases hf : find k with
      | none => rfl
      | some r => exact absurd (hall k hk r hf).2 (hne r (hall k hk r hf).1)
    · exact h k row hget

end Memo

/-! ## Calls -/

/-- A row that is saved over an old one says the same in the columns that saving leaves. -/
def Call.Faithful (s : Store) : Call → Prop
  | .saveVariable v => ∀ old ∈ s.processVariables, old.id = v.id → Store.reviseVariable old v = v
  | .saveActivity a => ∀ old ∈ s.activities, old.id = a.id → Store.reviseActivity old a = a
  | _ => True

namespace Cache

/-- Everything that the cache knows is what the tables hold. -/
structure Agrees (m : Cache) (s : Store) : Prop where
  instances : m.instances.Agrees s.instance?
  tasks : m.tasks.Agrees s.task?
  processVariables : m.processVariables.Agrees fun key => s.findVariable key.1 key.2
  activities : m.activities.Agrees s.activity?

/-- An outcome over a cache is the one on the tables, and the cache still agrees with them. -/
def Follows {α : Type} (r : Outcome α (Cache × Store)) (o : Outcome α Store) : Prop :=
  ∃ m, r = (o.1, m, o.2) ∧ m.Agrees o.2

variable {α : Type} {m : Cache} {s : Store}

theorem agrees_empty (s : Store) : ({} : Cache).Agrees s :=
  ⟨Memo.agrees_empty, Memo.agrees_empty, Memo.agrees_empty, Memo.agrees_empty⟩

/-- Tables that hold the same instances, tasks, variables and activities. -/
def Alike (s s' : Store) : Prop :=
  s'.instances = s.instances ∧ s'.tasks = s.tasks ∧ s'.processVariables = s.processVariables
    ∧ s'.activities = s.activities

theorem Agrees.of_alike {s' : Store} (hm : m.Agrees s) (h : Alike s s') : m.Agrees s' := by
  obtain ⟨hi, ht, hv, ha⟩ := h
  constructor
  · simpa [Memo.Agrees, Store.instance?, hi] using hm.instances
  · simpa [Memo.Agrees, Store.task?, ht] using hm.tasks
  · simpa [Memo.Agrees, Store.findVariable, hv] using hm.processVariables
  · simpa [Memo.Agrees, Store.activity?, ha] using hm.activities

theorem pass_follows {step : Store → Outcome α Store} {note : α → Cache → Cache} (hm : m.Agrees s)
    (he : ∀ e s', step s = (.error e, s') → s' = s)
    (hnote : ∀ a s', step s = (.ok a, s') → (note a m).Agrees s') :
    Follows (pass step note (m, s)) (step s) := by
  simp only [pass]
  cases h : step s with
  | mk r s' =>
    cases r with
    | ok a => exact ⟨note a m, rfl, hnote a s' h⟩
    | error e => exact ⟨m, rfl, he e s' h ▸ hm⟩

theorem consult_follows {known : Option α} {step : Store → Outcome α Store} {note : α → Cache → Cache}
    (hm : m.Agrees s) (he : ∀ e s', step s = (.error e, s') → s' = s)
    (hknown : ∀ a, known = some a → step s = (.ok a, s))
    (hnote : ∀ a s', step s = (.ok a, s') → (note a m.miss).Agrees s') :
    Follows (consult known step note (m, s)) (step s) := by
  unfold consult
  cases known with
  | some a => exact ⟨m.hit, by rw [hknown a rfl], by rw [hknown a rfl]; exact ⟨hm.1, hm.2, hm.3, hm.4⟩⟩
  | none => exact pass_follows ⟨hm.1, hm.2, hm.3, hm.4⟩ he hnote

/-! ### Calls that the cache has no part in -/

theorem change_alike {r : Except Failure Store} (h : ∀ s', r = .ok s' → Alike s s') :
    Alike s (s.change r).2 := by
  cases r with
  | ok s' => exact h s' rfl
  | error _ => exact ⟨rfl, rfl, rfl, rfl⟩

theorem saveTaskVariable_alike {v : TaskVariable} {s' : Store} (h : s.saveTaskVariable v = .ok s') :
    Alike s s' := by
  unfold Store.saveTaskVariable at h
  repeat' split at h
  all_goals cases h
  all_goals exact ⟨rfl, rfl, rfl, rfl⟩

theorem link_alike {taskId variableId : String} {s' : Store} (h : s.link taskId variableId = .ok s') :
    Alike s s' := by
  unfold Store.link at h
  dsimp only at h
  repeat' split at h
  all_goals cases h
  all_goals exact ⟨rfl, rfl, rfl, rfl⟩

theorem addCandidate_alike {c : Candidate} {s' : Store} (h : s.addCandidate c = .ok s') :
    Alike s s' := by
  unfold Store.addCandidate at h
  repeat' split at h
  all_goals cases h
  all_goals exact ⟨rfl, rfl, rfl, rfl⟩

theorem recordFlow_alike {f : SequenceFlow} {s' : Store} (h : s.recordFlow f = .ok s') :
    Alike s s' := by
  unfold Store.recordFlow at h
  repeat' split at h
  all_goals cases h
  all_goals exact ⟨rfl, rfl, rfl, rfl⟩

theorem passed_follows (u : Supply) (hm : m.Agrees s) {c : Call}
    (hc : answer u.backend c (m, s) = pass (u.backend.answer c) (fun _ m => m) (m, s))
    (h : Alike s (u.backend.answer c s).2) :
    Follows (answer u.backend c (m, s)) (u.backend.answer c s) := by
  rw [hc]
  simp only [pass]
  cases hr : u.backend.answer c s with
  | mk r s' =>
    rw [hr] at h
    cases r with
    | ok a => exact ⟨m, rfl, hm.of_alike h⟩
    | error e => exact ⟨m, rfl, hm.of_alike h⟩

/-! ### All calls -/

/-- The cache answers a call like the store, and goes on agreeing with it. -/
theorem answer_follows (u : Supply) (hs : s.Sound) (hm : m.Agrees s) (c : Call) (hc : c.Faithful s) :
    Follows (answer u.backend c (m, s)) (u.backend.answer c s) := by
  have he (e : Failure) (s' : Store) (h : u.backend.answer c s = (.error e, s')) : s' = s :=
    Store.answer_error u h
  -- A question is answered by what is known or its answer noted. A change is noted under the key of the
  -- row that it changes, or forgets the rows that it removes; elsewhere the search finds what it found.
  cases c with
  | findInstance id =>
    rw [answer]
    refine consult_follows hm he (fun a ha => ?_) fun a s' h => ?_
    · rw [Store.answer_findInstance u hs, hm.instances id a ha]
    · cases (Store.answer_findInstance u hs id).symm.trans h
      exact { hm with instances := hm.instances.put rfl fun _ _ => rfl }
  | saveInstance r =>
    rw [answer]
    apply pass_follows hm he
    intro a s' h
    cases h
    exact { hm with instances := hm.instances.put (by simp) fun j hj => by simp [hj.symm] }
  | deleteInstance id =>
    rw [answer]
    apply pass_follows hm he
    intro a s' h
    have hd := hs.instance?_deleteInstance (Store.change_ok h)
    cases Store.deleteInstance_eq (Store.change_ok h)
    exact { hm with instances := hm.instances.put (by simp [hd]) fun j hj => by simp [hd, hj] }
  | findTask id =>
    rw [answer]
    refine consult_follows hm he (fun a ha => ?_) fun a s' h => ?_
    · rw [Store.answer_findTask u hs, hm.tasks id a ha]
    · cases (Store.answer_findTask u hs id).symm.trans h
      exact { hm with tasks := hm.tasks.put rfl fun _ _ => rfl }
  | saveTask r =>
    rw [answer]
    apply pass_follows hm he
    intro a s' h
    cases h
    exact { hm with tasks := hm.tasks.put (by simp) fun j hj => by simp [hj.symm] }
  | deleteTask id =>
    rw [answer]
    apply pass_follows hm he
    intro a s' h
    have hd := hs.task?_deleteTask (Store.change_ok h)
    cases Store.deleteTask_eq (Store.change_ok h)
    exact { hm with tasks := hm.tasks.put (by simp [hd]) fun j hj => by simp [hd, hj] }
  | findVariable i n =>
    rw [answer]
    refine consult_follows hm he (fun a ha => ?_) fun a s' h => ?_
    · rw [← hm.processVariables (i, n) a ha]
      rfl
    · cases h
      exact { hm with processVariables := hm.processVariables.put rfl fun _ _ => rfl }
  | saveVariable v =>
    rw [answer]
    apply pass_follows hm he
    intro a s' h
    have hd := hs.findVariable_saveVariable (Store.change_ok h) hc
    cases Store.saveVariable_eq (Store.change_ok h)
    refine { hm with processVariables := hm.processVariables.put ?_ fun j hj => ?_ }
    · simp [hd, variableKey]
    · rw [hd, if_neg]
      rintro ⟨hi, hn⟩
      exact hj (Prod.ext hi.symm hn.symm)
  | deleteVariable id =>
    rw [answer]
    apply pass_follows hm he
    intro a s' h
    have hd := hs.findVariable_deleteVariable (Store.change_ok h)
    cases Store.deleteVariable_eq (Store.change_ok h)
    exact { hm with processVariables := hm.processVariables.forget fun k => hd k.1 k.2 }
  | findActivity id =>
    rw [answer]
    refine consult_follows hm he (fun a ha => ?_) fun a s' h => ?_
    · rw [Store.answer_findActivity u hs, hm.activities id a ha]
    · cases (Store.answer_findActivity u hs id).symm.trans h
      exact { hm with activities := hm.activities.put rfl fun _ _ => rfl }
  | saveActivity r =>
    rw [answer]
    apply pass_follows hm he
    intro a s' h
    cases h
    refine { hm with activities := hm.activities.put ?_ fun j hj => by simp [hj.symm] }
    rw [Store.activity?_saveActivity, if_pos rfl]
    cases hold : s.activity? r.id with
    | none => rfl
    | some old => exact congrArg some (hc old (Table.lookup_mem hold).1 (Table.lookup_mem hold).2)
  | deleteActivities i =>
    rw [answer]
    apply pass_follows hm he
    intro a s' h
    cases h
    exact { hm with activities := hm.activities.forget (hs.activity?_deleteActivities i) }
  | saveTaskVariable v => exact passed_follows u hm rfl (change_alike fun _ => saveTaskVariable_alike)
  | link taskId variableId => exact passed_follows u hm rfl (change_alike fun _ => link_alike)
  | addCandidate c => exact passed_follows u hm rfl (change_alike fun _ => addCandidate_alike)
  | recordFlow f => exact passed_follows u hm rfl (change_alike fun _ => recordFlow_alike)
  | _ => exact passed_follows u hm rfl ⟨rfl, rfl, rfl, rfl⟩

/-! ## Loading ahead -/

theorem andThen_follows {r : Outcome Unit (Cache × Store)}
    {next : Cache × Store → Outcome Unit (Cache × Store)} (hr : Follows r (.ok (), s))
    (hnext : ∀ m, m.Agrees s → Follows (next (m, s)) (.ok (), s)) :
    Follows (andThen r next) (.ok (), s) := by
  obtain ⟨m, rfl, hm⟩ := hr
  exact hnext m hm

theorem prefetchInstance_follows (u : Supply) (hs : s.Sound) (hm : m.Agrees s) (id : String) :
    Follows (prefetchInstance u.backend id (m, s)) (.ok (), s) := by
  unfold prefetchInstance
  split
  · exact ⟨m, rfl, hm⟩
  · simp only [pass, Store.answer_findInstance u hs]
    exact ⟨_, rfl, { hm with instances := hm.instances.put rfl fun _ _ => rfl }⟩

theorem prefetchAll_follows {β : Type} {keys : List String} {step : Store → Outcome β Store}
    {note : β → Cache → Cache} {found : β} (hm : m.Agrees s) (hstep : step s = (.ok found, s))
    (hnote : (note found m).Agrees s) : Follows (prefetchAll keys step note (m, s)) (.ok (), s) := by
  unfold prefetchAll
  split
  · exact ⟨m, rfl, hm⟩
  · simp only [pass, hstep]
    exact ⟨_, rfl, hnote⟩

theorem noteTasks_agrees (hs : s.Sound) (hm : m.Agrees s) (ids : List String) :
    (noteTasks ids (s.tasks.filter (·.id ∈ ids)) m).Agrees s := by
  refine { hm with tasks := hm.tasks.putAll (fun t ht => ?_) fun k hk t ht => ?_ }
  · exact (Table.lookup_eq_some hs.taskIds).2 ⟨(List.mem_filter.1 ht).1, rfl⟩
  · obtain ⟨hmem, rfl⟩ := Table.lookup_mem ht
    exact ⟨List.mem_filter.2 ⟨hmem, by simpa using hk⟩, rfl⟩

theorem noteActivities_agrees (hs : s.Sound) (hm : m.Agrees s) (ids : List String) :
    (noteActivities ids (s.activities.filter (·.id ∈ ids)) m).Agrees s := by
  refine { hm with activities := hm.activities.putAll (fun a ha => ?_) fun k hk a ha => ?_ }
  · exact (Table.lookup_eq_some hs.activityIds).2 ⟨(List.mem_filter.1 ha).1, rfl⟩
  · obtain ⟨hmem, rfl⟩ := Table.lookup_mem ha
    exact ⟨List.mem_filter.2 ⟨hmem, by simpa using hk⟩, rfl⟩

theorem noteVariables_agrees (hs : s.Sound) (hm : m.Agrees s) (instanceId : String)
    (names : List String) :
    (noteVariables instanceId names (s.findVariables instanceId names) m).Agrees s := by
  refine { hm with processVariables := hm.processVariables.putAll (fun v hv => ?_) fun k hk v hv => ?_ }
  · exact hs.findVariable_eq_some.2 ⟨(List.mem_filter.1 hv).1, rfl, rfl⟩
  · obtain ⟨name, hname, rfl⟩ := List.mem_map.1 hk
    obtain ⟨hmem, hi, hn⟩ := hs.findVariable_eq_some.1 hv
    exact ⟨List.mem_filter.2 ⟨hmem, by simpa [hi, hn] using hname⟩, Prod.ext hi hn⟩

/-- Loading any plan ahead succeeds, changes nothing and leaves the cache in agreement. -/
theorem prefetch_follows (u : Supply) (hs : s.Sound) (hm : m.Agrees s) (p : FetchPlan) :
    Follows (prefetch u.backend p (m, s)) (.ok (), s) := by
  have htasks := Store.look_tasks u hs p.taskIds
  have hactivities := Store.look_activities u hs p.activityIds
  refine andThen_follows (andThen_follows ?_ fun m hm => ?_) fun m hm => ?_
  · cases p.instanceId with
    | none => exact ⟨m, rfl, hm⟩
    | some id =>
      apply andThen_follows (prefetchInstance_follows u hs hm id)
      intro m hm
      exact prefetchAll_follows hm rfl (noteVariables_agrees hs hm id _)
  · exact prefetchAll_follows hm htasks (noteTasks_agrees hs hm _)
  · exact prefetchAll_follows hm hactivities (noteActivities_agrees hs hm _)

end Cache

/-! ## Programs -/

namespace Program

variable {α β : Type} {s : Store}

/-- Every row that a program saves, from some tables on, agrees with the one it is saved over. -/
def Faithful (b : Backend Store) : Program α → Store → Prop
  | .done _, _ => True
  | .fail _, _ => True
  | .call c next, s => c.Faithful s ∧ ∀ r s', b.answer c s = (.ok r, s') → (next r).Faithful b s'

/-- Over sound tables a program runs over a cache as it runs on the tables. -/
theorem run_follows (u : Supply) {p : Program α} {m : Cache} (hs : s.Sound) (hm : m.Agrees s)
    (hp : p.Faithful u.backend s) :
    Cache.Follows (p.run (Cache.backend u.backend) (m, s)) (p.run u.backend s) := by
  induction p generalizing m s with
  | done a => exact ⟨m, rfl, hm⟩
  | fail f => exact ⟨m, rfl, hm⟩
  | call c next ih =>
    obtain ⟨m', hcached, hm'⟩ := Cache.answer_follows u hs hm c hp.1
    have hsound := Store.answer_sound hs u c
    rw [run_call, run_call, show (Cache.backend u.backend).answer c (m, s) = _ from hcached]
    cases h : u.backend.answer c s with
    | mk r s' =>
      rw [h] at hm' hsound
      cases r with
      | ok r => exact ih r hsound hm' (hp.2 r s' h)
      | error f => exact ⟨m', rfl, hm'⟩

theorem faithful_bind {b : Backend Store} {p : Program α} {f : α → Program β} (hp : p.Faithful b s)
    (hf : ∀ a s', p.run b s = (.ok a, s') → (f a).Faithful b s') : (p >>= f).Faithful b s := by
  show (p.bind f).Faithful b s
  induction p generalizing s with
  | done a => exact hf a s rfl
  | fail e => trivial
  | call c next ih =>
    refine ⟨hp.1, fun r s' h => ih r (hp.2 r s' h) fun a s'' ha => hf a s'' ?_⟩
    rw [run_call, h]
    exact ha

/-- All calls of a program, whatever the answers, are allowed. -/
def Only (allowed : Call → Prop) : Program α → Prop
  | .done _ => True
  | .fail _ => True
  | .call c next => allowed c ∧ ∀ r, (next r).Only allowed

variable {allowed : Call → Prop}

theorem Only.bind {p : Program α} {f : α → Program β} (hp : p.Only allowed)
    (hf : ∀ a, (f a).Only allowed) : (p >>= f).Only allowed := by
  show (p.bind f).Only allowed
  induction p with
  | done a => exact hf a
  | fail e => trivial
  | call c next ih => exact ⟨hp.1, fun r => ih r (hp.2 r)⟩

theorem Only.ask {c : Call} {f : c.Answer → Program β} (hc : allowed c)
    (hf : ∀ r, (f r).Only allowed) : (Program.ask c >>= f).Only allowed := ⟨hc, hf⟩

theorem Only.last {c : Call} (hc : allowed c) : (Program.ask c).Only allowed := ⟨hc, fun _ => trivial⟩

theorem Only.each {xs : List α} {f : α → Program Unit} (hf : ∀ x, (f x).Only allowed) :
    (Program.each xs f).Only allowed := by
  induction xs with
  | nil => trivial
  | cons x xs ih => exact (hf x).bind fun _ => ih

theorem Only.ofEvent (r : Except EventFault α) : (Program.ofEvent r).Only allowed := by
  cases r <;> trivial

theorem Only.faithful {p : Program α} (hp : p.Only fun c => ∀ s, c.Faithful s) (b : Backend Store)
    (s : Store) : p.Faithful b s := by
  induction p generalizing s with
  | done a => trivial
  | fail e => trivial
  | call c next ih => exact ⟨hp.1 s, fun r s' _ => ih r (hp.2 r) s'⟩

end Program
end FlowView
