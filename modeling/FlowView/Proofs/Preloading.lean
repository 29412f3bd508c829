import FlowView.Proofs.Uses
/-!
# What is loaded ahead is not asked again

A backend that records what it is asked shows what a cache leaves to it. A cache forgets no key that it
knows (`Cache.answer_grows`), after a plan was loaded it knows the plan's keys (`Cache.prefetch_loaded`), and
a program that asks for no others leaves to the backend nothing that the plan spares it
(`Program.run_spares`).
-/

namespace FlowView

variable {σ α : Type} {b : Backend σ}

/-- The backend with a record of what it is asked, the last at the end. -/
def Backend.recorded (b : Backend σ) : Backend (σ × List Use) where
  answer c s := ((b.answer c s.1).1, (b.answer c s.1).2, s.2 ++ [.call c])
  look l s := ((b.look l s.1).1, (b.look l s.1).2, s.2 ++ [.look l])

namespace FetchPlan

/-- The plan has the key of a row that a call asks for, if it is to be loaded. -/
def Holds (p : FetchPlan) : Call → Prop
  | .findTask id => id ∈ p.taskIds
  | .findActivity id => id ∈ p.activityIds
  | .findVariable instanceId name => p.instanceId = some instanceId → name ∈ p.variableNames
  | _ => True

/-- A question that need not go to the backend once the plan is loaded: for the plan's instance, a variable of
it, a task or an executed element. -/
def Spares (p : FetchPlan) : Call → Prop
  | .findInstance id => p.instanceId = some id
  | .findTask _ | .findActivity _ => True
  | .findVariable instanceId _ => p.instanceId = some instanceId
  | _ => False

end FetchPlan

/-! ## Keys that are known -/

theorem Memo.knows_forget {κ : Type} [DecidableEq κ] (m : Memo κ α) (picked : α → Bool) (k : κ) :
    (m.forget picked).knows k = m.knows k := by
  simp [knows, get?_forget]

namespace Cache

/-- What a cache knows another one knows too. -/
structure Grows (m m' : Cache) : Prop where
  instances : ∀ k, m.instances.knows k = true → m'.instances.knows k = true
  tasks : ∀ k, m.tasks.knows k = true → m'.tasks.knows k = true
  processVariables : ∀ k, m.processVariables.knows k = true → m'.processVariables.knows k = true
  activities : ∀ k, m.activities.knows k = true → m'.activities.knows k = true

/-- The keys of a plan are known. -/
structure Loaded (m : Cache) (p : FetchPlan) : Prop where
  instances : ∀ id, p.instanceId = some id → m.instances.knows id = true
  tasks : ∀ id ∈ p.taskIds, m.tasks.knows id = true
  processVariables : ∀ id, p.instanceId = some id → ∀ name ∈ p.variableNames,
    m.processVariables.knows (id, name) = true
  activities : ∀ id ∈ p.activityIds, m.activities.knows id = true

variable {m m' m'' : Cache} {p : FetchPlan}

theorem Grows.refl (m : Cache) : m.Grows m := ⟨fun _ h => h, fun _ h => h, fun _ h => h, fun _ h => h⟩

theorem Grows.trans (h : m.Grows m') (h' : m'.Grows m'') : m.Grows m'' where
  instances k hk := h'.instances k (h.instances k hk)
  tasks k hk := h'.tasks k (h.tasks k hk)
  processVariables k hk := h'.processVariables k (h.processVariables k hk)
  activities k hk := h'.activities k (h.activities k hk)

theorem Loaded.grow (h : m.Loaded p) (hm : m.Grows m') : m'.Loaded p where
  instances id hid := hm.instances id (h.instances id hid)
  tasks id hid := hm.tasks id (h.tasks id hid)
  processVariables id hid name hname := hm.processVariables _ (h.processVariables id hid name hname)
  activities id hid := hm.activities id (h.activities id hid)

theorem grows_putInstance (m : Cache) (id : String) (r : Option ProcessInstance) : m.Grows (m.putInstance id r) :=
  { Grows.refl m with instances := fun k hk => by simp [putInstance, Memo.knows_put, hk] }

theorem grows_putTask (m : Cache) (id : String) (r : Option UserTask) : m.Grows (m.putTask id r) :=
  { Grows.refl m with tasks := fun k hk => by simp [putTask, Memo.knows_put, hk] }

theorem grows_putVariable (m : Cache) (key : String × String) (r : Option ProcessVariable) :
    m.Grows (m.putVariable key r) :=
  { Grows.refl m with processVariables := fun k hk => by simp [putVariable, Memo.knows_put, hk] }

theorem grows_putActivity (m : Cache) (id : String) (r : Option Activity) : m.Grows (m.putActivity id r) :=
  { Grows.refl m with activities := fun k hk => by simp [putActivity, Memo.knows_put, hk] }

theorem pass_grows {step : σ → Outcome α σ} {note : α → Cache → Cache} (hnote : ∀ a, m.Grows (note a m))
    (s : σ) : m.Grows (pass step note (m, s)).2.1 := by
  rw [pass]
  rcases step s with ⟨_ | a, s'⟩
  · exact .refl m
  · exact hnote a

theorem consult_grows {known : Option α} {step : σ → Outcome α σ} {note : α → Cache → Cache}
    (hnote : ∀ a (m : Cache), m.Grows (note a m)) (s : σ) : m.Grows (consult known step note (m, s)).2.1 := by
  have hhit : m.Grows m.hit := ⟨fun _ h => h, fun _ h => h, fun _ h => h, fun _ h => h⟩
  have hmiss : m.Grows m.miss := ⟨fun _ h => h, fun _ h => h, fun _ h => h, fun _ h => h⟩
  cases known with
  | some a => exact hhit
  | none => exact hmiss.trans (pass_grows (fun a => hnote a m.miss) s)

/-- Whatever the cache is asked, it forgets no key. Of a row that is deleted it knows that it is gone. -/
theorem answer_grows (b : Backend σ) (c : Call) (m : Cache) (s : σ) : m.Grows (answer b c (m, s)).2.1 := by
  cases c with
  | findInstance id => exact consult_grows (fun r m => grows_putInstance m id r) s
  | saveInstance r => exact pass_grows (fun _ => grows_putInstance m r.id (some r)) s
  | deleteInstance id => exact pass_grows (fun _ => grows_putInstance m id none) s
  | findTask id => exact consult_grows (fun r m => grows_putTask m id r) s
  | saveTask r => exact pass_grows (fun _ => grows_putTask m r.id (some r)) s
  | deleteTask id => exact pass_grows (fun _ => grows_putTask m id none) s
  | findVariable instanceId name => exact consult_grows (fun r m => grows_putVariable m _ r) s
  | saveVariable r => exact pass_grows (fun _ => grows_putVariable m _ (some r)) s
  | deleteVariable id =>
    exact pass_grows
      (fun _ => { Grows.refl m with processVariables := fun k hk => by simp [Memo.knows_forget, hk] }) s
  | findActivity id => exact consult_grows (fun r m => grows_putActivity m id r) s
  | saveActivity r => exact pass_grows (fun _ => grows_putActivity m r.id (some r)) s
  | deleteActivities instanceId =>
    exact pass_grows (fun _ => { Grows.refl m with activities := fun k hk => by simp [Memo.knows_forget, hk] }) s
  | _ => exact pass_grows (fun _ => .refl m) s

/-! ## Loading a plan -/

/-- Where the step before is known to have succeeded, the whole is the step after it. -/
theorem andThen_eq_ok {r : Outcome Unit (Cache × σ)} {next : Cache × σ → Outcome Unit (Cache × σ)}
    {ms : Cache × σ} (h : andThen r next = (.ok (), ms)) : ∃ ms₁, r = (.ok (), ms₁) ∧ next ms₁ = (.ok (), ms) := by
  obtain ⟨_ | _, ms₁⟩ := r
  · cases h
  · exact ⟨ms₁, rfl, h⟩

theorem prefetchInstance_known {id : String} {ms ms' : Cache × σ}
    (h : prefetchInstance b id ms = (.ok (), ms')) :
    ms.1.Grows ms'.1 ∧ ms'.1.instances.knows id = true := by
  unfold prefetchInstance at h
  split at h
  · rename_i hknown
    cases h
    exact ⟨.refl _, hknown⟩
  · obtain ⟨m, s⟩ := ms
    simp only [pass] at h
    rcases hanswer : b.answer (.findInstance id) s with ⟨_ | r, s'⟩
    · simp [hanswer, Except.map] at h
    · simp only [hanswer] at h
      cases h
      exact ⟨grows_putInstance m id r, by simp [putInstance, Memo.knows_put]⟩

theorem prefetchAll_known {β : Type} {keys : List String} {step : σ → Outcome β σ} {note : β → Cache → Cache}
    {ms ms' : Cache × σ} (h : prefetchAll keys step note ms = (.ok (), ms'))
    (hnote : ∀ found, ms.1.Grows (note found ms.1)) (known : String → Cache → Prop)
    (hknown : ∀ found, ∀ k ∈ keys, known k (note found ms.1)) :
    ms.1.Grows ms'.1 ∧ ∀ k ∈ keys, known k ms'.1 := by
  unfold prefetchAll at h
  split at h
  · rename_i hempty
    cases h
    simp [List.isEmpty_iff.1 hempty, Grows.refl]
  · obtain ⟨m, s⟩ := ms
    simp only [pass] at h
    rcases hstep : step s with ⟨_ | found, s'⟩
    · simp [hstep, Except.map] at h
    · simp only [hstep] at h
      cases h
      exact ⟨hnote found, hknown found⟩

theorem grows_noteTasks (m : Cache) (ids : List String) (found : List UserTask) : m.Grows (noteTasks ids found m) :=
  { Grows.refl m with tasks := fun _ hk => Memo.knows_putAll _ _ _ _ (.inl hk) }

theorem grows_noteVariables (m : Cache) (instanceId : String) (names : List String)
    (found : List ProcessVariable) : m.Grows (noteVariables instanceId names found m) :=
  { Grows.refl m with processVariables := fun _ hk => Memo.knows_putAll _ _ _ _ (.inl hk) }

theorem grows_noteActivities (m : Cache) (ids : List String) (found : List Activity) :
    m.Grows (noteActivities ids found m) :=
  { Grows.refl m with activities := fun _ hk => Memo.knows_putAll _ _ _ _ (.inl hk) }

/-- A plan that was loaded is known, whatever was found. -/
theorem prefetch_loaded {ms ms' : Cache × σ} (h : prefetch b p ms = (.ok (), ms')) : ms'.1.Loaded p := by
  obtain ⟨ms₂, h, hactivities⟩ := andThen_eq_ok h
  obtain ⟨ms₁, hinstance, htasks⟩ := andThen_eq_ok h
  have hknown : (∀ id, p.instanceId = some id → ms₁.1.instances.knows id = true) ∧
      ∀ id, p.instanceId = some id → ∀ name ∈ p.variableNames, ms₁.1.processVariables.knows (id, name) = true := by
    cases hid : p.instanceId with
    | none => exact ⟨fun _ => nofun, fun _ => nofun⟩
    | some id =>
      rw [hid] at hinstance
      obtain ⟨ms₀, hinstance, hvariables⟩ := andThen_eq_ok hinstance
      obtain ⟨-, hfound⟩ := prefetchInstance_known hinstance
      obtain ⟨hgrows, hnames⟩ := prefetchAll_known hvariables (grows_noteVariables _ _ _)
        (fun name m => m.processVariables.knows (id, name) = true) fun found name hname =>
          Memo.knows_putAll _ _ _ _ (.inr (List.mem_map_of_mem hname))
      refine ⟨fun id' h' => ?_, fun id' h' => ?_⟩ <;> cases h'
      · exact hgrows.instances id hfound
      · exact hnames
  obtain ⟨hgrows, htasks⟩ := prefetchAll_known htasks (grows_noteTasks _ _)
    (fun id m => m.tasks.knows id = true) fun found id hid => Memo.knows_putAll _ _ _ _ (.inr hid)
  obtain ⟨hgrows', hactivities⟩ := prefetchAll_known hactivities (grows_noteActivities _ _)
    (fun id m => m.activities.knows id = true) fun found id hid => Memo.knows_putAll _ _ _ _ (.inr hid)
  have hall := hgrows.trans hgrows'
  exact ⟨fun id hid => hall.instances id (hknown.1 id hid), fun id hid => hgrows'.tasks id (htasks id hid),
    fun id hid name hname => hall.processVariables _ (hknown.2 id hid name hname), hactivities⟩

/-! ## What the backend is asked -/

theorem consult_known {known : Option α} {step : σ → Outcome α σ} {note : α → Cache → Cache}
    (h : known.isSome = true) (s : σ) : ∃ a, consult known step note (m, s) = (.ok a, m.hit, s) := by
  obtain ⟨a, rfl⟩ := Option.isSome_iff_exists.1 h
  exact ⟨a, rfl⟩

/-- A question that the plan spares is answered by the cache alone, if the plan has its key. -/
theorem answer_spared (b : Backend σ) {c : Call} (hm : m.Loaded p) (hc : p.Holds c) (hspares : p.Spares c)
    (s : σ) : ∃ a, answer b c (m, s) = (.ok a, m.hit, s) := by
  cases c with
  | findInstance id => exact consult_known (hm.instances id hspares) s
  | findTask id => exact consult_known (hm.tasks id hc) s
  | findVariable instanceId name => exact consult_known (hm.processVariables _ hspares name (hc hspares)) s
  | findActivity id => exact consult_known (hm.activities id hc) s
  | _ => cases hspares

variable {s : σ} {asked : List Use}

theorem pass_asks {c : Call} (note : c.Answer → Cache → Cache) :
    (pass (b.recorded.answer c) note (m, s, asked)).2.2.2 = asked ++ [.call c] := by
  simp only [pass, Backend.recorded]
  cases (b.answer c s).1 <;> rfl

theorem consult_asks {c : Call} (known : Option c.Answer) (note : c.Answer → Cache → Cache) :
    (consult known (b.recorded.answer c) note (m, s, asked)).2.2.2 = asked ∨
    (consult known (b.recorded.answer c) note (m, s, asked)).2.2.2 = asked ++ [.call c] := by
  cases known with
  | some a => exact .inl rfl
  | none => exact .inr (pass_asks note)

/-- A call of the cache makes no other call of the backend. -/
theorem answer_asks (b : Backend σ) (m : Cache) (s : σ) (asked : List Use) (c : Call) :
    (answer b.recorded c (m, s, asked)).2.2.2 = asked ∨
    (answer b.recorded c (m, s, asked)).2.2.2 = asked ++ [.call c] := by
  cases c with
  | findInstance | findTask | findVariable | findActivity => exact consult_asks _ _
  | _ => exact .inr (pass_asks _)

end Cache

namespace Program

/-- A program makes a cache forget nothing. -/
theorem run_grows (b : Backend σ) (p : Program α) (m : Cache) (s : σ) :
    m.Grows (p.run (Cache.backend b) (m, s)).2.1 := by
  induction p generalizing m s with
  | done a => exact .refl m
  | fail f => exact .refl m
  | call c next ih =>
    have hm := Cache.answer_grows b c m s
    rw [run_call, show (Cache.backend b).answer c (m, s) = Cache.answer b c (m, s) from rfl]
    rcases hanswer : Cache.answer b c (m, s) with ⟨_ | r, m', s'⟩ <;> rw [hanswer] at hm
    · exact hm
    · exact hm.trans (ih r m' s')

/-- Over a cache that knows a plan, a program that asks only for keys of the plan leaves to the backend no
question that the plan spares. -/
theorem run_spares {plan : FetchPlan} {m : Cache} {p : Program α} (hp : p.Only plan.Holds) (hm : m.Loaded plan)
    (s : σ) (asked : List Use) :
    ∃ calls : List Call, (∀ c ∈ calls, ¬plan.Spares c) ∧
      (p.run (Cache.backend b.recorded) (m, s, asked)).2.2.2 = asked ++ calls.map .call := by
  induction p generalizing m s asked with
  | done a => exact ⟨[], by simp, (List.append_nil asked).symm⟩
  | fail f => exact ⟨[], by simp, (List.append_nil asked).symm⟩
  | call c next ih =>
    have hgrows := Cache.answer_grows b.recorded c m (s, asked)
    -- The call itself is spared and known, or it may be asked.
    have hasks : ∃ calls : List Call, (∀ c ∈ calls, ¬plan.Spares c) ∧
        (Cache.answer b.recorded c (m, s, asked)).2.2.2 = asked ++ calls.map .call := by
      by_cases hspares : plan.Spares c
      · obtain ⟨a, ha⟩ := Cache.answer_spared b.recorded hm hp.1 hspares (s, asked)
        exact ⟨[], by simp, by simp [ha]⟩
      · rcases Cache.answer_asks b m s asked c with h | h
        · exact ⟨[], by simp, by simp [h]⟩
        · exact ⟨[c], by simpa using hspares, by simp [h]⟩
    obtain ⟨calls, hcalls, hasked⟩ := hasks
    rw [run_call, show (Cache.backend b.recorded).answer c (m, s, asked) = Cache.answer b.recorded c (m, s, asked)
      from rfl]
    rcases hanswer : Cache.answer b.recorded c (m, s, asked) with ⟨_ | r, m', s', asked'⟩
    · exact ⟨calls, hcalls, by simpa [hanswer] using hasked⟩
    · simp only [hanswer] at hgrows hasked
      obtain ⟨calls', hcalls', hrest⟩ := ih r (hp.2 r) (hm.grow hgrows) s' asked'
      refine ⟨calls ++ calls', fun c hc => (List.mem_append.1 hc).elim (hcalls c) (hcalls' c), ?_⟩
      simpa [hasked] using hrest

end Program

/-- Handling events makes a cache forget nothing. -/
theorem Registry.handleFrom_grows (g : Registry) (b : Backend σ) (n : Counts) (events : List Event) (m : Cache)
    (s : σ) : m.Grows (g.handleFrom (Cache.backend b) n events (m, s)).2.1 := by
  induction events generalizing n m s with
  | nil => exact .refl m
  | cons e es ih =>
    cases hp : g.program? e with
    | none =>
      simp only [handleFrom, hp]
      exact ih _ m s
    | some p =>
      have hm := p.run_grows b m s
      simp only [handleFrom, hp]
      rcases hrun : p.run (Cache.backend b) (m, s) with ⟨_ | ⟨⟩, m', s'⟩ <;> rw [hrun] at hm
      · exact hm
      · exact hm.trans (ih _ m' s')

/-! ## Nothing to load -/

namespace Cache

variable {r : Outcome Unit (Cache × σ × List Use)} {next : Cache × σ × List Use → Outcome Unit (Cache × σ × List Use)}

theorem prefetchAll_asks {l : Lookup} (keys : List String) (note : l.Answer → Cache → Cache)
    (ms : Cache × σ × List Use) :
    (prefetchAll keys (b.recorded.look l) note ms).2.2.2 =
      if keys.isEmpty then ms.2.2 else ms.2.2 ++ [.look l] := by
  simp only [prefetchAll, pass, Backend.recorded]
  split
  · rfl
  · cases (b.look l ms.2.1).1 <;> rfl

/-- What was asked before stays in the record. -/
theorem andThen_asks (hr : r.2.2.2 ≠ []) (hnext : ∀ ms, ms.2.2 ≠ [] → (next ms).2.2.2 ≠ []) :
    (andThen r next).2.2.2 ≠ [] := by
  obtain ⟨_ | _, ms⟩ := r
  · exact hr
  · exact hnext ms hr

theorem prefetchAll_keeps {l : Lookup} (keys : List String) (note : l.Answer → Cache → Cache)
    (ms : Cache × σ × List Use) (h : ms.2.2 ≠ []) :
    (prefetchAll keys (b.recorded.look l) note ms).2.2.2 ≠ [] := by
  rw [prefetchAll_asks]
  split <;> simp [h]

/-- Loading a plan over an empty cache asks the backend for something exactly if the plan is not empty. -/
theorem prefetch_asks (b : Backend σ) (p : FetchPlan) (s : σ) :
    p.isEmpty = true ↔ (prefetch b.recorded p ({}, s, [])).2.2.2 = [] := by
  cases hid : p.instanceId with
  | some id =>
    have hfirst : (prefetchInstance b.recorded id ({}, s, [])).2.2.2 ≠ [] := by
      simp only [prefetchInstance, pass, Backend.recorded]
      cases (b.answer (.findInstance id) s).1 <;> simp [Memo.knows, Memo.get?]
    have hasks : (prefetch b.recorded p ({}, s, [])).2.2.2 ≠ [] := by
      simp only [prefetch, hid]
      exact andThen_asks (andThen_asks (andThen_asks hfirst (prefetchAll_keeps _ _)) (prefetchAll_keeps _ _))
        (prefetchAll_keeps _ _)
    simp [FetchPlan.isEmpty, hid, hasks]
  | none =>
    by_cases htasks : p.taskIds.isEmpty = true
    · have hasks : (prefetch b.recorded p ({}, s, [])).2.2.2 =
          if p.activityIds.isEmpty then [] else [.look (.activities p.activityIds)] := by
        have hnone : prefetchAll p.taskIds (b.recorded.look (.tasks p.taskIds)) (noteTasks p.taskIds)
            ({}, s, []) = (.ok (), {}, s, []) := if_pos htasks
        simp only [prefetch, hid, andThen, hnone]
        exact prefetchAll_asks _ _ _
      rw [hasks]
      by_cases hactivities : p.activityIds.isEmpty = true <;>
        simp [FetchPlan.isEmpty, hid, htasks, hactivities]
    · have hfirst : (prefetchAll p.taskIds (b.recorded.look (.tasks p.taskIds)) (noteTasks p.taskIds)
          ({}, s, [])).2.2.2 ≠ [] := by
        rw [prefetchAll_asks, if_neg htasks]
        simp
      have hasks : (prefetch b.recorded p ({}, s, [])).2.2.2 ≠ [] := by
        simp only [prefetch, hid]
        exact andThen_asks hfirst (prefetchAll_keeps _ _)
      simp [FetchPlan.isEmpty, htasks, hasks]

end Cache
end FlowView
