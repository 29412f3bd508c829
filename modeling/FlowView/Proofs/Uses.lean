import FlowView.Proofs.Coherence
import FlowView.Proofs.Transaction
/-!
# Using a cache at will

Over a cache one may call, look up many keys and load plans ahead in any order, as often as one likes,
and go on after a failure. None of it shows but in the order of the rows that a lookup finds: the tables
and the answers are those of the same uses without a cache, and everything that the cache knows is what
the store would answer (`cached_as_direct`).
-/

namespace FlowView

/-! ## Memos -/

namespace Memo

variable {κ α β : Type} [DecidableEq κ] {find : κ → Option α}

theorem knows_put (m : Memo κ α) (k j : κ) (row : Option α) :
    (m.put k row).knows j = (decide (j = k) || m.knows j) := by
  rw [knows, get?_put]
  by_cases h : j = k <;> simp [h, knows]

/-- After keys were asked for they are known, and what was known is known still. -/
theorem knows_putAll (m : Memo κ α) (keys : List κ) (key : α → κ) (found : List α) {k : κ}
    (h : m.knows k = true ∨ k ∈ keys) : (m.putAll keys key found).knows k = true := by
  have habsent : (keys.foldl (fun m k => m.put k none) m).knows k = true := by
    rw [knows, get?_absent]
    rcases h with h | h
    · split
      · rfl
      · exact h
    · rw [if_pos h]
      rfl
  unfold putAll
  generalize keys.foldl (fun m k => m.put k none) m = m' at habsent
  induction found generalizing m' with
  | nil => exact habsent
  | cons r found ih => exact ih _ (by rw [knows_put, habsent, Bool.or_true])

/-- After those keys of a list that are not known were asked for, if there are any, all are known. -/
theorem knows_rest {m m' : Memo κ α} {xs : List β} {key : β → κ} {keys : List κ} {rowKey : α → κ}
    {found : List α}
    (h : (xs.filter (fun x => !m.knows (key x)) = [] ∧ m' = m) ∨ m' = m.putAll keys rowKey found)
    (hkeys : ∀ x ∈ xs.filter fun x => !m.knows (key x), key x ∈ keys) : ∀ x ∈ xs, m'.knows (key x) = true := by
  intro x hx
  rcases h with ⟨hnone, rfl⟩ | rfl
  · simpa using List.filter_eq_nil_iff.1 hnone x hx
  · apply knows_putAll
    cases hk : m.knows (key x) with
    | true => exact .inl rfl
    | false => exact .inr (hkeys x (List.mem_filter.2 ⟨hx, by simp [hk]⟩))

/-- What is known of a key is what a search for it finds. -/
theorem Agrees.row?_eq {m : Memo κ α} (hm : m.Agrees find) {k : κ} (hk : m.knows k = true) :
    m.row? k = find k := by
  obtain ⟨row, hrow⟩ := Option.isSome_iff_exists.1 hk
  rw [row?, hrow, hm k row hrow]
  rfl

/-- The rows of keys that are all known are those that searches find. -/
theorem Agrees.rows {m : Memo κ α} (hm : m.Agrees find) (key : β → κ) {xs : List β}
    (hknown : ∀ x ∈ xs, m.knows (key x) = true) :
    (xs.filterMap fun x => m.row? (key x)) = xs.filterMap fun x => find (key x) :=
  List.filterMap_congr fun x hx => hm.row?_eq (hknown x hx)

end Memo

/-! ## Uses -/

/-- One use of a unit of work: a call, a lookup of many keys, or a plan loaded ahead. -/
inductive Use
  | call (c : Call)
  | look (l : Lookup)
  | load (p : FetchPlan)
  deriving DecidableEq, Repr

/-- Answers to a lookup that have the same rows. -/
def Lookup.SameRows : (l : Lookup) → l.Answer → l.Answer → Prop
  | .tasks _, rows, rows' => ∀ t, t ∈ rows ↔ t ∈ rows'
  | .processVariables _ _, rows, rows' => ∀ v, v ∈ rows ↔ v ∈ rows'
  | .activities _, rows, rows' => ∀ a, a ∈ rows ↔ a ∈ rows'

namespace Use

/-- What a use is answered with. -/
abbrev Answer : Use → Type
  | .call c => c.Answer
  | .look l => l.Answer
  | .load _ => Unit

/-- The same failure or the same answer, a lookup's as a set of rows. -/
def Same : (x : Use) → Except Failure x.Answer → Except Failure x.Answer → Prop
  | .look l, .ok rows, .ok rows' => l.SameRows rows rows'
  | .look _, .error f, .error f' => f = f'
  | .look _, _, _ => False
  | .call _, r, r' => r = r'
  | .load _, r, r' => r = r'

variable {σ : Type}

/-- A use without a cache, where loading ahead does nothing. -/
def direct (b : Backend σ) : (x : Use) → σ → Outcome x.Answer σ
  | .call c, s => b.answer c s
  | .look l, s => b.look l s
  | .load _, s => (.ok (), s)

/-- A use over a cache. -/
def cached (b : Backend σ) : (x : Use) → Cache × σ → Outcome x.Answer (Cache × σ)
  | .call c, ms => Cache.answer b c ms
  | .look l, ms => Cache.look b l ms
  | .load p, ms => Cache.prefetch b p ms

/-- What uses leave, one after the other, also after one that fails. -/
def afterDirect (b : Backend σ) (uses : List Use) (s : σ) : σ := uses.foldl (fun s x => (x.direct b s).2) s

def afterCached (b : Backend σ) (uses : List Use) (ms : Cache × σ) : Cache × σ :=
  uses.foldl (fun ms x => (x.cached b ms).2) ms

/-- What the use saves agrees with what is there. -/
def Faithful (s : Store) : Use → Prop
  | .call c => c.Faithful s
  | _ => True

/-- What the uses save agrees each time with what is there then. -/
def AllFaithful (b : Backend Store) : List Use → Store → Prop
  | [], _ => True
  | x :: xs, s => x.Faithful s ∧ AllFaithful b xs (x.direct b s).2

end Use

/-- Every entry of the cache, a row or that there is none, is what the store answers for its key. -/
structure Cache.Coherent (b : Backend Store) (m : Cache) (s : Store) : Prop where
  instances : ∀ id row, m.instances.get? id = some row → (b.answer (.findInstance id) s).1 = .ok row
  tasks : ∀ id row, m.tasks.get? id = some row → (b.answer (.findTask id) s).1 = .ok row
  processVariables : ∀ instanceId name row, m.processVariables.get? (instanceId, name) = some row →
    (b.answer (.findVariable instanceId name) s).1 = .ok row
  activities : ∀ id row, m.activities.get? id = some row → (b.answer (.findActivity id) s).1 = .ok row

namespace Cache

variable {α : Type} {s : Store} {m : Cache}

theorem Agrees.coherent (hm : m.Agrees s) (hs : s.Sound) (u : Supply) : m.Coherent u.backend s where
  instances id row h := by rw [Store.answer_findInstance u hs, hm.instances id row h]
  tasks id row h := by rw [Store.answer_findTask u hs, hm.tasks id row h]
  processVariables instanceId name row h := congrArg Except.ok (hm.processVariables (instanceId, name) row h)
  activities id row h := by rw [Store.answer_findActivity u hs, hm.activities id row h]

/-! ### Lookups over a cache -/

/-- A lookup answers from a cache that agrees with the tables, and in which the rest was noted if there
was a rest. -/
theorem fill_follows {β : Type} (unknown : List String) (collect : Cache → α) {step : Store → Outcome β Store}
    {note : β → Cache → Cache} {found : β} (hm : m.Agrees s)
    (hcollect : collect m.hit = collect m) (hstep : step s = (.ok found, s))
    (hnote : (note found m.miss).Agrees s) :
    ∃ m', fill unknown step note collect (m, s) = (.ok (collect m'), m', s) ∧ m'.Agrees s ∧
      ((unknown = [] ∧ m' = m.hit) ∨ m' = note found m.miss) := by
  rw [fill]
  cases hempty : unknown.isEmpty with
  | true => exact ⟨m.hit, by rw [hcollect]; rfl, ⟨hm.1, hm.2, hm.3, hm.4⟩, .inl ⟨List.isEmpty_iff.1 hempty, rfl⟩⟩
  | false =>
    simp only [pass, hstep]
    exact ⟨_, rfl, hnote, .inr rfl⟩

/-- A lookup over a cache finds the rows that it finds in the tables. -/
theorem look_follows (u : Supply) (hs : s.Sound) (hm : m.Agrees s) (l : Lookup) :
    ∃ rows rows' m', look u.backend l (m, s) = (.ok rows, m', s) ∧ u.backend.look l s = (.ok rows', s) ∧
      l.SameRows rows rows' ∧ m'.Agrees s := by
  have hmiss : m.miss.Agrees s := ⟨hm.1, hm.2, hm.3, hm.4⟩
  cases l with
  | tasks ids =>
    obtain ⟨m', hfill, hm', hcases⟩ := fill_follows (ids.filter fun id => !m.tasks.knows id)
      (fun m => ids.filterMap m.tasks.row?) hm rfl (Store.look_tasks u hs _)
      (noteTasks_agrees hs hmiss _)
    refine ⟨_, _, m', hfill, Store.look_tasks u hs ids, fun t => ?_, hm'⟩
    have hrows : ids.filterMap m'.tasks.row? = ids.filterMap s.task? :=
      hm'.tasks.rows id (Memo.knows_rest (hcases.imp
        (fun h => ⟨h.1, by rw [h.2]; rfl⟩) fun heq => by rw [heq]; rfl) fun _ h => h)
    simp only [hrows, List.mem_filterMap, Store.task?, Table.lookup_eq_some hs.taskIds, List.mem_filter,
      decide_eq_true_eq]
    constructor
    · rintro ⟨_, hid, ht, rfl⟩
      exact ⟨ht, hid⟩
    · rintro ⟨ht, hid⟩
      exact ⟨_, hid, ht, rfl⟩
  | processVariables instanceId names =>
    have hstep (unknown : List String) : u.backend.look (.processVariables instanceId unknown) s =
        (.ok (s.findVariables instanceId unknown), s) := rfl
    obtain ⟨m', hfill, hm', hcases⟩ := fill_follows
      (names.filter fun name => !m.processVariables.knows (instanceId, name))
      (fun m => names.filterMap fun name => m.processVariables.row? (instanceId, name)) hm rfl (hstep _)
      (noteVariables_agrees hs hmiss instanceId _)
    refine ⟨_, _, m', hfill, rfl, fun v => ?_, hm'⟩
    have hrows := hm'.processVariables.rows (fun name => (instanceId, name))
      (Memo.knows_rest (hcases.imp (fun h => ⟨h.1, by rw [h.2]; rfl⟩)
        fun heq => by rw [heq]; rfl) fun _ => List.mem_map_of_mem)
    simp only [hrows, List.mem_filterMap, hs.findVariable_eq_some, Store.findVariables, List.mem_filter,
      decide_eq_true_eq]
    constructor
    · rintro ⟨_, hname, hv, hi, rfl⟩
      exact ⟨hv, hi, hname⟩
    · rintro ⟨hv, hi, hname⟩
      exact ⟨_, hname, hv, hi, rfl⟩
  | activities ids =>
    obtain ⟨m', hfill, hm', hcases⟩ := fill_follows (ids.filter fun id => !m.activities.knows id)
      (fun m => ids.filterMap m.activities.row?) hm rfl (Store.look_activities u hs _)
      (noteActivities_agrees hs hmiss _)
    refine ⟨_, _, m', hfill, Store.look_activities u hs ids, fun a => ?_, hm'⟩
    have hrows : ids.filterMap m'.activities.row? = ids.filterMap s.activity? :=
      hm'.activities.rows id (Memo.knows_rest (hcases.imp
        (fun h => ⟨h.1, by rw [h.2]; rfl⟩) fun heq => by rw [heq]; rfl) fun _ h => h)
    simp only [hrows, List.mem_filterMap, Store.activity?, Table.lookup_eq_some hs.activityIds,
      List.mem_filter, decide_eq_true_eq]
    constructor
    · rintro ⟨_, hid, ha, rfl⟩
      exact ⟨ha, hid⟩
    · rintro ⟨ha, hid⟩
      exact ⟨_, hid, ha, rfl⟩

end Cache

/-! ## Uses over a cache -/

namespace Use

variable {s : Store} {m : Cache}

theorem direct_sound (hs : s.Sound) (u : Supply) (x : Use) : (x.direct u.backend s).2.Sound := by
  cases x with
  | call c => exact Store.answer_sound hs u c
  | look l => cases l <;> exact hs
  | load p => exact hs

/-- Over a cache that agrees with the tables a use leaves the tables and is answered as without it, and
the cache agrees with the tables again. -/
theorem cached_follows (u : Supply) (hs : s.Sound) (hm : m.Agrees s) {x : Use} (hx : x.Faithful s) :
    ∃ r m', x.cached u.backend (m, s) = (r, m', (x.direct u.backend s).2) ∧
      x.Same r (x.direct u.backend s).1 ∧ m'.Agrees (x.direct u.backend s).2 := by
  cases x with
  | call c =>
    obtain ⟨m', hcached, hm'⟩ := Cache.answer_follows u hs hm c hx
    exact ⟨_, m', hcached, rfl, hm'⟩
  | look l =>
    obtain ⟨rows, rows', m', hcached, hdirect, hrows, hm'⟩ := Cache.look_follows u hs hm l
    refine ⟨.ok rows, m', ?_, ?_, ?_⟩
    · rw [direct, hdirect]
      exact hcached
    · rw [direct, hdirect]
      exact hrows
    · rw [direct, hdirect]
      exact hm'
  | load p =>
    obtain ⟨m', hcached, hm'⟩ := Cache.prefetch_follows u hs hm p
    exact ⟨_, m', hcached, rfl, hm'⟩

/-- What the store refuses is refused with the same failure, and changes neither the cache nor the
tables. -/
theorem cached_refused (u : Supply) (hs : s.Sound) {x : Use} {f : Failure}
    (h : (x.direct u.backend s).1 = .error f) :
    x.cached u.backend (m, s) = (.error f, m, s) ∧ (x.direct u.backend s).2 = s := by
  cases x with
  | look l =>
    -- Sound tables answer every lookup.
    cases l with
    | tasks ids => cases h.symm.trans (congrArg Prod.fst (Store.look_tasks u hs ids))
    | processVariables => cases h
    | activities ids => cases h.symm.trans (congrArg Prod.fst (Store.look_activities u hs ids))
  | load p => cases h
  | call c =>
    have hsame : (u.backend.answer c s).2 = s := Store.answer_error u (Prod.ext h rfl)
    have hanswer : u.backend.answer c s = (.error f, s) := Prod.ext h hsame
    have hpass (note : c.Answer → Cache → Cache) :
        Cache.pass (u.backend.answer c) note (m, s) = (.error f, m, s) := by
      rw [Cache.pass, hanswer]
    refine ⟨?_, hsame⟩
    cases c with
    | findInstance id => cases h.symm.trans (congrArg Prod.fst (Store.answer_findInstance u hs id))
    | findTask id => cases h.symm.trans (congrArg Prod.fst (Store.answer_findTask u hs id))
    | findVariable => cases h
    | findActivity id => cases h.symm.trans (congrArg Prod.fst (Store.answer_findActivity u hs id))
    | _ => simp only [cached, Cache.answer, hpass]

theorem allFaithful_append {b : Backend Store} (before after : List Use) (s : Store) :
    AllFaithful b (before ++ after) s ↔
      AllFaithful b before s ∧ AllFaithful b after (afterDirect b before s) := by
  induction before generalizing s with
  | nil => simp [AllFaithful, afterDirect]
  | cons x before ih => simp [AllFaithful, ih, afterDirect, and_assoc]

theorem afterDirect_sound (hs : s.Sound) (u : Supply) (uses : List Use) :
    (afterDirect u.backend uses s).Sound := by
  induction uses generalizing s with
  | nil => exact hs
  | cons x uses ih => exact ih (direct_sound hs u x)

/-- Uses over a cache leave the tables as without it, and a cache that agrees with them. -/
theorem afterCached_follows (u : Supply) (hs : s.Sound) (hm : m.Agrees s) {uses : List Use}
    (hf : AllFaithful u.backend uses s) :
    ∃ m', afterCached u.backend uses (m, s) = (m', afterDirect u.backend uses s) ∧
      m'.Agrees (afterDirect u.backend uses s) := by
  induction uses generalizing m s with
  | nil => exact ⟨m, rfl, hm⟩
  | cons x uses ih =>
    obtain ⟨r, m₁, hcached, -, hm₁⟩ := cached_follows u hs hm hf.1
    obtain ⟨m', hrest, hm'⟩ := ih (direct_sound hs u x) hm₁ hf.2
    refine ⟨m', ?_, hm'⟩
    rw [afterCached, List.foldl_cons, hcached]
    exact hrest

end Use

/-- Whatever one does with a cache over sound tables, it leaves the tables that the same uses leave
without it. Before and after each use every entry of the cache is what the store would answer, the use is
answered as without the cache, and what the store refuses is refused with the same failure and changes
neither the cache nor the tables.

Keys that are looked up together are bound to one statement. An engine limits how many values it binds; the
limit is left out here, so of an engine this tells the uses that stay within it. -/
theorem cached_as_direct (u : Supply) {s : Store} (hs : s.Sound) {uses : List Use}
    (hf : Use.AllFaithful u.backend uses s) :
    (Use.afterCached u.backend uses ({}, s)).2 = Use.afterDirect u.backend uses s ∧
    ∀ before x after, uses = before ++ x :: after →
      let ms := Use.afterCached u.backend before ({}, s)
      let s₁ := Use.afterDirect u.backend before s
      let cached := x.cached u.backend ms
      let direct := x.direct u.backend s₁
      ms.2 = s₁ ∧ ms.1.Coherent u.backend s₁ ∧
      x.Same cached.1 direct.1 ∧ cached.2.2 = direct.2 ∧ cached.2.1.Coherent u.backend direct.2 ∧
      ∀ f, direct.1 = .error f → cached = (.error f, ms) ∧ direct.2 = s₁ := by
  obtain ⟨m', hall, -⟩ := Use.afterCached_follows u hs (Cache.agrees_empty s) hf
  refine ⟨congrArg Prod.snd hall, fun before x after huses => ?_⟩
  subst huses
  obtain ⟨hbefore, hx, -⟩ := (Use.allFaithful_append before (x :: after) s).1 hf
  obtain ⟨m, hms, hm⟩ := Use.afterCached_follows u hs (Cache.agrees_empty s) hbefore
  have hs₁ : (Use.afterDirect u.backend before s).Sound := Use.afterDirect_sound hs u before
  obtain ⟨r, m₁, hcached, hsame, hm₁⟩ := Use.cached_follows u hs₁ hm hx
  simp only [hms]
  refine ⟨trivial, hm.coherent hs₁ u, ?_, ?_, ?_, fun f h => Use.cached_refused u hs₁ h⟩
  · rw [hcached]
    exact hsame
  · rw [hcached]
  · rw [hcached]
    exact hm₁.coherent (Use.direct_sound hs₁ u x) u

namespace Sample

/-- A note on the first order. -/
def noteOnOrder : ProcessVariable := { id := "v9", instanceId := "p1", name := "note" }

/-- Keys of the first order are loaded ahead, some of which are not there, looked up, and one of those
made. At last somebody tries to delete the order. -/
def uses : List Use := [
  .load { instanceId := some "p1", variableNames := ["approved", "note"], taskIds := ["t1", "t9"] },
  .look (.tasks ["t3", "t9", "t1"]),
  .call (.saveVariable noteOnOrder),
  .look (.processVariables "p1" ["note", "amount"]),
  .call (.deleteInstance "p1")]

theorem uses_faithful : Use.AllFaithful Supply.counting.backend uses store := by
  refine ⟨trivial, trivial, ?_, trivial, trivial, trivial⟩
  show ∀ old ∈ store.processVariables, old.id = noteOnOrder.id → Store.reviseVariable old noteOnOrder = noteOnOrder
  decide +kernel

end Sample

/-- The note, which was known not to be there, is found once it is saved. Deleting the order is refused,
and nothing changes by it. -/
theorem cached_as_direct_savedNote :
    let before := Sample.uses.take 4
    let ms := Use.afterCached Supply.counting.backend before ({}, Sample.store)
    ms.2 = Use.afterDirect Supply.counting.backend before Sample.store ∧
    ms.1.processVariables.get? ("p1", "note") = some (some Sample.noteOnOrder) ∧
    (Use.call (.deleteInstance "p1")).cached Supply.counting.backend ms = (.error (.query .foreignKey), ms) := by
  intro before ms
  obtain ⟨-, hall⟩ := cached_as_direct Supply.counting Sample.reachable.inv.toSound Sample.uses_faithful
  obtain ⟨htables, -, -, -, -, hrefused⟩ := hall before (.call (.deleteInstance "p1")) [] rfl
  exact ⟨htables, rfl, (hrefused _ rfl).1⟩

end FlowView
