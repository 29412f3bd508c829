import FlowView.Proofs.Fates
import FlowView.Proofs.Histories
import Mathlib.Data.List.DropRight
/-!
# Candidates

Who is a candidate is told from the events alone: the last one about a candidate says whether it is one. For a
starter of a process definition all events count. For a candidate for a task those count that found the task
open, since the moment that made its row (`candidates_told`).
-/

namespace FlowView

open Projection

variable {u : Supply} {e : Event} {s s' : Store} {k : EventKind} {c : Candidate}

/-! ## What events say of candidates -/

/-- The role that a kind of event is about, and whether candidates come with it, rather than go. -/
def EventKind.candidacy? : EventKind → Option (Role × Bool)
  | .taskCandidateUserAdded => some (.taskUser, true)
  | .taskCandidateUserRemoved => some (.taskUser, false)
  | .taskCandidateGroupAdded => some (.taskGroup, true)
  | .taskCandidateGroupRemoved => some (.taskGroup, false)
  | .processCandidateStarterUserAdded => some (.starterUser, true)
  | .processCandidateStarterUserRemoved => some (.starterUser, false)
  | .processCandidateStarterGroupAdded => some (.starterGroup, true)
  | .processCandidateStarterGroupRemoved => some (.starterGroup, false)
  | _ => none

/-- What an event says of a candidate: that it comes, that it goes, or nothing. -/
def Event.word? (e : Event) (c : Candidate) : Option Bool :=
  match e.kind?.bind EventKind.candidacy? with
  | none => none
  | some (role, added) =>
    match (e.payload : Except EventFault (CandidatePayload role)) with
    | .ok p => if c = ⟨role, p.owner, p.candidate⟩ then some added else none
    | .error _ => none

/-- Is the owner a process definition, or a task that is there and open? -/
def Store.hears (s : Store) (c : Candidate) : Bool :=
  !c.role.ofTask || (s.task? c.owner).any fun t => !t.status.isFinal

/-- What an event says of a candidate, if it counts. -/
def Store.heard? (s : Store) (e : Event) (c : Candidate) : Option Bool :=
  if s.hears c then e.word? c else none

/-- The moments, each with the tables before it. -/
def Store.turns (s : Store) : List Moment → List (Store × Moment)
  | [] => []
  | m :: past => (s, m) :: m.after.turns past

/-- What moments say of a candidate for a task, as far as it counts: since the task was made, and while it
was open. -/
def taskWords (past : List Moment) (c : Candidate) : List Bool :=
  (List.rtakeWhile (fun turn => (turn.2.after.task? c.owner).isSome) (Store.turns {} past)).filterMap
    fun turn => turn.1.heard? turn.2.event c

/-! ## One event -/

theorem Event.word?_other (hk : e.kind? = some k) (hother : k.candidacy? = none) : e.word? c = none := by
  simp [word?, hk, hother]

section Changes

variable {role : Role} {change : Candidate → List Candidate → List Candidate}
  (hc : CandidateChange k role change) (hk : e.kind? = some k) {p : CandidatePayload role}
  (hp : e.payload = .ok p)
include hc hk hp

/-- An event that changes the candidates speaks of the one that it names alone, and says what becomes of it. -/
theorem CandidateChange.word?_eq : ∃ added,
    (∀ c, e.word? c = if c = ⟨role, p.owner, p.candidate⟩ then some added else none) ∧
    ∀ d cs, d ∈ change d cs ↔ added = true := by
  cases hc with
  | taskUserAdded | taskGroupAdded | starterUserAdded | starterGroupAdded =>
    exact ⟨true, fun c => by simp [Event.word?, hk, EventKind.candidacy?, hp],
      fun d cs => by simp [Table.mem_adjoin]⟩
  | taskUserRemoved | taskGroupRemoved | starterUserRemoved | starterGroupRemoved =>
    exact ⟨false, fun c => by simp [Event.word?, hk, EventKind.candidacy?, hp],
      fun d cs => by simp [Table.mem_remove]⟩

theorem CandidateChange.word?_ne (hne : c ≠ ⟨role, p.owner, p.candidate⟩) : e.word? c = none := by
  obtain ⟨added, hword, -⟩ := hc.word?_eq hk hp
  rw [hword, if_neg hne]

theorem CandidateChange.mem_word (c : Candidate) (cs : List Candidate) :
    c ∈ change ⟨role, p.owner, p.candidate⟩ cs ↔ (e.word? c).getD (c ∈ cs) = true := by
  by_cases heq : c = ⟨role, p.owner, p.candidate⟩
  · obtain ⟨added, hword, hmem⟩ := hc.word?_eq hk hp
    rw [hword, if_pos heq, ← heq, hmem, Option.getD_some]
  · rw [hc.word?_ne hk hp heq, hc.mem_iff heq, Option.getD_none, decide_eq_true_iff]

end Changes

/-- A candidate whose owner is there after an event is what the event says of it if that counts, and else what
it was. -/
theorem Effect.candidate_heard (hs : s.Sound) (h : Effect u e s k s') (hk : e.kind? = some k)
    (hthere : c.role.ofTask = true → (s'.task? c.owner).isSome = true) :
    c ∈ s'.candidates ↔ (s.heard? e c).getD (c ∈ s.candidates) = true := by
  have unheard (hword : e.word? c = none) (hsame : c ∈ s'.candidates ↔ c ∈ s.candidates) :
      c ∈ s'.candidates ↔ (s.heard? e c).getD (c ∈ s.candidates) = true := by
    simp [Store.heard?, hword, hsame]
  have other (hother : k.candidacy? = none) (hsame : s'.candidates = s.candidates) :
      c ∈ s'.candidates ↔ (s.heard? e c).getD (c ∈ s.candidates) = true :=
    unheard (Event.word?_other hk hother) (by rw [hsame])
  cases h with
  | @definitionDeployed p hp =>
    obtain ⟨ds, ms, heq⟩ := s.withDefinition_eq e p
    exact other rfl (by rw [heq])
  | @instanceDeleted p r hp hr hfinal =>
    refine unheard (Event.word?_other hk rfl) ?_
    have hfree (hrole : c.role.ofTask = true) : s.ownsTask r.id c.owner = false := by
      obtain ⟨t, ht⟩ := Option.isSome_iff_exists.1 (hthere hrole)
      obtain ⟨hmem, hid⟩ := Table.lookup_mem ht
      obtain ⟨ht', hspared⟩ := Table.mem_remove.1 hmem
      rw [← Bool.not_eq_true, ← hid, hs.ownsTask_of_mem ht']
      exact of_decide_eq_false hspared
    simpa [Store.withoutInstance, Table.mem_remove] using fun _ => hfree
  | @candidatePassed k role change p t hc hp hrole ht hfinal =>
    by_cases heq : c = ⟨role, p.owner, p.candidate⟩
    · simp [Store.heard?, Store.hears, heq, hrole, ht, hfinal]
    · exact unheard (hc.word?_ne hk hp heq) Iff.rfl
  | @taskCandidateChanged k role change p t hc hp hrole ht hopen =>
    by_cases heq : c = ⟨role, p.owner, p.candidate⟩
    · have hheard : s.heard? e c = e.word? c := by simp [Store.heard?, Store.hears, heq, ht, hopen]
      exact hheard ▸ hc.mem_word hk hp c _
    · exact unheard (hc.word?_ne hk hp heq) (hc.mem_iff heq _)
  | @starterChanged k role change p hc hp hrole =>
    by_cases heq : c = ⟨role, p.owner, p.candidate⟩
    · have hheard : s.heard? e c = e.word? c := by simp [Store.heard?, Store.hears, heq, hrole]
      exact hheard ▸ hc.mem_word hk hp c _
    · exact unheard (hc.word?_ne hk hp heq) (hc.mem_iff heq _)
  | instancePassed hc | instanceChanged hc | taskPassed hc | taskChanged hc | activityEntered hc
  | callChanged hc =>
    exact other (by cases hc <;> rfl) rfl
  | _ => exact other rfl rfl

/-! ## Runs -/

theorem Store.turns_concat (s : Store) (past : List Moment) (m : Moment) :
    s.turns (past ++ [m]) = s.turns past ++ [(s.after past, m)] := by
  induction past generalizing s with
  | nil => rfl
  | cons m' past ih => exact congrArg ((s, m') :: ·) (ih m'.after)

/-- What the words so far say and what one more word leaves of it is what all words say. -/
theorem told_concat {words : List Bool} {word : Option Bool} {before after : Prop} [Decidable before]
    (hbefore : before ↔ words.getLast? = some true) (hafter : after ↔ word.getD before = true) :
    after ↔ (words ++ word.toList).getLast? = some true := by
  cases word with
  | none => simpa [← hbefore] using hafter
  | some added => simpa using hafter

/-- A task that is there after a moment has heard what it heard before, and what counts of the moment. -/
theorem taskWords_concat {past : List Moment} {m : Moment} (hthere : (m.after.task? c.owner).isSome = true) :
    taskWords (past ++ [m]) c = taskWords past c ++ ((Store.after {} past).heard? m.event c).toList := by
  rw [taskWords, Store.turns_concat, List.rtakeWhile_concat, if_pos hthere, filterMap_concat, ← taskWords]

theorem taskWords_gone {past : List Moment} {m : Moment} (hgone : m.after.task? c.owner = none) :
    taskWords (past ++ [m]) c = [] := by
  rw [taskWords, Store.turns_concat, List.rtakeWhile_concat, if_neg (by simp [hgone]), List.filterMap_nil]

/-- The task of a candidate for it is there. -/
theorem Store.Sound.candidate_there (hs : s.Sound) (hc : c ∈ s.candidates) (hrole : c.role.ofTask = true) :
    (s.task? c.owner).isSome = true := by
  rw [Store.task?, ← Table.has_eq_isSome]
  exact hs.candidateTasks c hc hrole

theorem Store.History.starter_told {past : List Moment} (h : Store.History {} past s)
    (hrole : c.role.ofTask = false) :
    c ∈ s.candidates ↔ (past.filterMap fun m => m.event.word? c).getLast? = some true := by
  refine h.records
    (fun past m => c ∈ m.candidates ↔ (past.filterMap fun m => m.event.word? c).getLast? = some true)
    (by simp) ?_
  intro u e k past m m' _ hm _ hk heffect htold
  have hheard := heffect.candidate_heard hm.toSound hk (c := c) (by simp [hrole])
  rw [filterMap_concat]
  exact told_concat htold (by simpa [Store.heard?, Store.hears, hrole] using hheard)

theorem Store.History.taskCandidate_told {past : List Moment} (h : Store.History {} past s)
    (hrole : c.role.ofTask = true) : c ∈ s.candidates ↔ (taskWords past c).getLast? = some true := by
  refine h.records (fun past m => c ∈ m.candidates ↔ (taskWords past c).getLast? = some true)
    (by simp [taskWords, Store.turns]) ?_
  intro u e k past m m' hbefore hm hm' hk heffect htold
  cases htask : m'.task? c.owner with
  | none =>
    -- A task that is gone has no candidates, and what was said of them does not count any more.
    have hnone : c ∉ m'.candidates := fun hc => by
      simpa [htask] using hm'.toSound.candidate_there hc hrole
    simp [taskWords_gone, htask, hnone]
  | some t =>
    have hthere : (m'.task? c.owner).isSome = true := by simp [htask]
    rw [taskWords_concat hthere, hbefore]
    exact told_concat htold (heffect.candidate_heard hm.toSound hk fun _ => hthere)

/-- Over a history from empty tables someone is a starter of a process definition if the last event about
this adds them. Someone is a candidate for a task if the task is there and the last event about this adds
them, of those that found the task open since its row was made. No candidate is there twice. -/
theorem candidates_told {past : List Moment} (h : Store.History {} past s) :
    (∀ c : Candidate, c.role.ofTask = false →
      (c ∈ s.candidates ↔ (past.filterMap fun m => m.event.word? c).getLast? = some true)) ∧
    (∀ c : Candidate, c.role.ofTask = true →
      (c ∈ s.candidates ↔
        (s.task? c.owner).isSome = true ∧ (taskWords past c).getLast? = some true)) ∧
    s.candidates.Nodup := by
  have hs : s.Inv := (h.course Store.inv_empty).inv Store.inv_empty
  refine ⟨fun c hrole => h.starter_told hrole, fun c hrole => ?_, hs.candidates⟩
  rw [← h.taskCandidate_told hrole]
  exact ⟨fun hc => ⟨hs.candidate_there hc hrole, hc⟩, And.right⟩

namespace Sample

def kim : Candidate := ⟨.taskUser, "t1", "kim"⟩

def sales : Candidate := ⟨.starterGroup, "d1", "sales"⟩

/-- An event about a candidate. -/
def about (c : Candidate) (typeName : String) : Event :=
  event typeName [(if c.role.ofTask then "taskId" else "processDefinitionId", .str c.owner),
    (if c.role.ofUser then "userId" else "groupId", .str c.candidate)]

/-- Candidates that come and go, the task's also after its end. -/
def offers : List Event := [
  ofInstance "PROCESS_CREATED" "p1", ofTask "TASK_CREATED" "t1" "p1",
  about kim "TASK_CANDIDATE_USER_ADDED", about sales "PROCESS_CANDIDATE_STARTER_GROUP_ADDED",
  about kim "TASK_CANDIDATE_USER_REMOVED", about kim "TASK_CANDIDATE_USER_ADDED",
  ofTask "TASK_COMPLETED" "t1" "p1", about kim "TASK_CANDIDATE_USER_REMOVED",
  about sales "PROCESS_CANDIDATE_STARTER_GROUP_REMOVED"]

/-- The order is deleted, and another task takes the id of its task. -/
def reopened : List Event :=
  [ofInstance "PROCESS_COMPLETED" "p1", ofInstance "PROCESS_DELETED" "p1", event "TASK_CREATED" [("id", .str "t1")]]

end Sample

/-- What comes after the end of the task does not count, and nothing that was said does for the task that
takes its id. -/
theorem candidates_told_offers :
    let past := Registry.full.recorded Supply.counting.backend Sample.offers {}
    let s := (Registry.full.consume Supply.counting.backend Sample.offers {}).2
    let again := Registry.full.recorded Supply.counting.backend Sample.reopened s
    let s' := (Registry.full.consume Supply.counting.backend Sample.reopened s).2
    taskWords past Sample.kim = [true, false, true] ∧ Sample.kim ∈ s.candidates ∧
      Sample.sales ∉ s.candidates ∧
      (s'.task? "t1").isSome = true ∧ taskWords (past ++ again) Sample.kim = [] ∧ Sample.kim ∉ s'.candidates := by
  intro past s again s'
  have hpast : Store.History {} past s := .consume (.start {}) Registry.full Supply.counting Sample.offers
  obtain ⟨hstarters, htasks, -⟩ := candidates_told hpast
  obtain ⟨-, htasks', -⟩ := candidates_told (hpast.consume Registry.full Supply.counting Sample.reopened)
  have hkim : Sample.kim.role.ofTask = true := rfl
  rw [htasks _ hkim, htasks' _ hkim, hstarters _ (rfl : Sample.sales.role.ofTask = false)]
  decide +kernel

end FlowView
