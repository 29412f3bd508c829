import FlowView.Launch
/-!
# Lines as batches

How lines are grouped is said by `Grouping`: a list that is not empty is a batch by itself, and single events
that follow one another make batches of the given size, of which the last one before a list or the end may be
smaller. There is just one such grouping, the intake finds it, and a run consumes its batches one after the
other, on any machine that gives it the room for one batch (`lines_projected`). Where that room is more than
can be asked for at once, the run consumes nothing on any machine (`lines_lost`).
-/

namespace FlowView

namespace InputLine

/-- The events of a line, in order. -/
def events : InputLine → List Event
  | .blank | .unparseable => []
  | .single e => [e]
  | .batch es => es

/-- Does the line hold an event or a list? -/
def parses : InputLine → Bool
  | .blank | .unparseable => false
  | .single _ | .batch _ => true

/-- Lines that do not parse hold no events. -/
theorem flatMap_parses (ls : List InputLine) : (ls.filter parses).flatMap events = ls.flatMap events := by
  induction ls with
  | nil => rfl
  | cons l ls ih => cases l <;> simp [List.filter_cons, parses, events, ih]

/-- An event is an object or a list. -/
theorem ofDocument_shape {d : Document} {e : Event} (h : Event.ofDocument d = .ok e) :
    (∃ fields, d = .obj fields) ∨ ∃ items, d = .arr items := by
  cases d with
  | obj fields => exact .inl ⟨fields, rfl⟩
  | arr items => exact .inr ⟨items, rfl⟩
  | _ => cases h

/-- An event that is a list begins with its id, a text or nothing. -/
theorem ofDocument_head {items : List Document} {e : Event} (h : Event.ofDocument (.arr items) = .ok e) :
    ∃ d ds, items = d :: ds ∧ (d = .null ∨ ∃ id, d = .str id) := by
  cases items with
  | nil => cases h
  | cons d ds =>
    refine ⟨d, ds, rfl, ?_⟩
    cases d with
    | null => exact .inl rfl
    | str id => exact .inr ⟨id, rfl⟩
    | _ => cases h

/-- No document is both a list of events and one event. -/
theorem reads_once {d : Document} {es : List Event} (h : batch? d = some es) (e : Event) :
    Event.ofDocument d ≠ .ok e := by
  intro he
  rcases ofDocument_shape he with ⟨fields, rfl⟩ | ⟨items, rfl⟩
  · cases h
  -- The first item would be an event and an id.
  obtain ⟨d, ds, rfl, hid⟩ := ofDocument_head he
  obtain ⟨first, hfirst⟩ : ∃ first, Event.ofDocument d = .ok first := by
    cases hd : Event.ofDocument d with
    | ok first => exact ⟨first, rfl⟩
    | error fault => simp [batch?, hd, Except.toOption] at h
  rcases ofDocument_shape hfirst with ⟨fields, rfl⟩ | ⟨items, rfl⟩ <;> simp at hid

end InputLine

namespace Intake

/-- The batches among what comes out of the lines. -/
def batches (items : List Intake) : List (List Event) :=
  items.filterMap fun
    | .batch es => some es
    | .unparseable _ => none

end Intake

/-- Lines that parse, grouped with batches of a size. -/
inductive Grouping (size : Nat) : List InputLine → List (List Event) → Prop
  | done : Grouping size [] []
  | empty {ls : List InputLine} {bs : List (List Event)} (rest : Grouping size ls bs) :
    Grouping size (.batch [] :: ls) bs
  | list {es : List Event} {ls : List InputLine} {bs : List (List Event)} (hes : es ≠ [])
    (rest : Grouping size ls bs) : Grouping size (.batch es :: ls) (es :: bs)
  | singles {es : List Event} {ls : List InputLine} {bs : List (List Event)} (hes : es ≠ [])
    (hsize : es.length ≤ size)
    (hfull : es.length = size ∨ ls = [] ∨ ∃ list after, ls = .batch list :: after)
    (rest : Grouping size ls bs) : Grouping size (es.map .single ++ ls) (es :: bs)

namespace Grouping

variable {size : Nat} {ls : List InputLine} {bs bs' : List (List Event)}

/-- No event is lost, doubled or moved. -/
theorem flatten_eq (h : Grouping size ls bs) : bs.flatten = ls.flatMap InputLine.events := by
  induction h with
  | done => rfl
  | empty _ ih => simpa [InputLine.events] using ih
  | list _ _ ih => simp [InputLine.events, ih]
  | singles _ _ _ _ ih => simp [InputLine.events, ih, List.flatMap_map]

theorem ne_nil (h : Grouping size ls bs) : ∀ b ∈ bs, b ≠ [] := by
  induction h with
  | done => simp
  | empty _ ih => exact ih
  | list hes _ ih | singles hes _ _ _ ih => exact List.forall_mem_cons.2 ⟨hes, ih⟩

/-- After single events that end a grouping early there is a list or nothing, so longer ones cannot be
grouped from the same place. -/
theorem length_le {es es' : List Event} {ls ls' : List InputLine}
    (h : es.map InputLine.single ++ ls = es'.map .single ++ ls') (hsize : es'.length ≤ size)
    (hfull : es.length = size ∨ ls = [] ∨ ∃ list after, ls = .batch list :: after) : es'.length ≤ es.length := by
  refine Nat.le_of_not_lt fun hlt => ?_
  -- The line after the shorter ones is still a single event.
  have hnext : ls[0]? = (es'.map InputLine.single)[es.length]? := by
    have hget := congrArg (·[es.length]?) h
    simpa [List.getElem?_append, show es.length < es'.length by omega] using hget
  have hlen : es.length < (es'.map InputLine.single).length := by simpa using hlt
  rcases hfull with hfull | rfl | ⟨list, after, rfl⟩
  · omega
  · simp [List.getElem?_eq_getElem hlen] at hnext
  · simp [List.getElem?_eq_getElem hlen] at hnext

theorem singles_head {es : List Event} (hes : es ≠ []) (ls : List InputLine) :
    ∃ e after, es.map InputLine.single ++ ls = .single e :: after := by
  cases es with
  | nil => exact absurd rfl hes
  | cons e es => exact ⟨e, _, rfl⟩

/-- Lines have one grouping. -/
theorem unique (h : Grouping size ls bs) (h' : Grouping size ls bs') : bs = bs' := by
  induction h generalizing bs' with
  | done =>
    generalize hls : [] = ls' at h'
    cases h' with
    | done => rfl
    | @singles es ls _ hes =>
      obtain ⟨e, after, hhead⟩ := singles_head hes ls
      cases hls.trans hhead
    | _ => cases hls
  | @empty ls _ _ ih =>
    generalize hls : InputLine.batch [] :: ls = ls' at h'
    cases h' with
    | done => cases hls
    | empty rest =>
      cases hls
      exact ih rest
    | list hes rest =>
      cases hls
      exact absurd rfl hes
    | @singles es ls _ hes =>
      obtain ⟨e, after, hhead⟩ := singles_head hes ls
      cases hls.trans hhead
  | @list es ls _ hes _ ih =>
    generalize hls : InputLine.batch es :: ls = ls' at h'
    cases h' with
    | done => cases hls
    | empty rest =>
      cases hls
      exact absurd rfl hes
    | list _ rest =>
      cases hls
      rw [ih rest]
    | @singles es ls _ hes =>
      obtain ⟨e, after, hhead⟩ := singles_head hes ls
      cases hls.trans hhead
  | @singles es ls _ hes hsize hfull _ ih =>
    obtain ⟨e, after, hhead⟩ := singles_head hes ls
    generalize hls : es.map InputLine.single ++ ls = ls' at h'
    cases h' with
    | done => cases hls.symm.trans hhead
    | empty => cases hls.symm.trans hhead
    | list => cases hls.symm.trans hhead
    | @singles es' ls' _ _ hsize' hfull' rest =>
      have hlength : es.length = es'.length := by
        have := length_le hls hsize' hfull
        have := length_le hls.symm hsize hfull'
        omega
      obtain ⟨hsame, rfl⟩ := List.append_inj hls (by simpa using hlength)
      rw [(List.map_inj_right fun _ _ => InputLine.single.inj).1 hsame, ih rest]

end Grouping

namespace Intake

variable {size : Nat}

theorem batches_flush (es : List Event) (rest : List Intake) :
    batches (flush es rest) = if es = [] then batches rest else es :: batches rest := by
  cases es <;> rfl

/-- The intake groups the lines after fewer events than make a batch. -/
theorem group_grouping (n : Nat) (pending : List Event) (ls : List InputLine) (hpending : pending.length < size) :
    Grouping size (pending.map .single ++ ls.filter InputLine.parses) (batches (group size n pending ls)) := by
  have hsize : 0 < size := by omega
  induction ls generalizing n pending with
  | nil =>
    rw [group, batches_flush]
    split
    · rename_i h
      subst h
      exact .done
    · rename_i h
      exact .singles h (Nat.le_of_lt hpending) (.inr (.inl rfl)) .done
  | cons l ls ih =>
    cases l with
    | blank => exact ih (n + 1) pending hpending
    | unparseable => exact ih (n + 1) pending hpending
    | single e =>
      have hlines : pending.map InputLine.single ++ (.single e :: ls).filter InputLine.parses =
          (pending ++ [e]).map .single ++ ls.filter InputLine.parses := by
        rw [List.filter_cons_of_pos rfl]
        simp
      rw [hlines, group]
      split
      · rename_i hfull
        rw [batches_flush, if_neg (by simp)]
        have hlength : (pending ++ [e]).length = size := by simp; omega
        exact .singles (by simp) (Nat.le_of_eq hlength) (.inl hlength) (ih (n + 1) [] hsize)
      · exact ih (n + 1) (pending ++ [e]) (by simp; omega)
    | batch es =>
      have hlist : Grouping size (.batch es :: ls.filter InputLine.parses)
          (batches (flush es (group size (n + 1) [] ls))) := by
        rw [batches_flush]
        split
        · rename_i h
          subst h
          exact .empty (ih (n + 1) [] hsize)
        · rename_i h
          exact .list h (ih (n + 1) [] hsize)
      show Grouping size (pending.map InputLine.single ++ .batch es :: ls.filter InputLine.parses) _
      rw [group, batches_flush]
      split
      · rename_i h
        subst h
        exact hlist
      · rename_i h
        exact .singles h (Nat.le_of_lt hpending) (.inr (.inr ⟨es, _, rfl⟩)) hlist

end Intake

/-! ## Consuming the batches -/

/-- A batch that fails leaves the tables as they were, whatever engine answers. -/
theorem Registry.consume_error {g : Registry} {b : Backend Store} {events : List Event} {s : Store} {f : Failure}
    (h : (g.consume b events s).1 = .error f) : (g.consume b events s).2 = s := by
  unfold consume at h ⊢
  split
  · rfl
  rename_i hne
  rw [if_neg hne] at h
  unfold transact at h ⊢
  rcases hload : Cache.prefetch b (FetchPlan.ofEvents events) ({}, s) with ⟨_ | _, ms⟩
  · rfl
  · rcases hhandle : g.handle (Cache.backend b) events ms with ⟨_ | n, ms'⟩
    · simp [hhandle]
    · simp [hload, hhandle] at h

theorem Database.consume_error {d : Database} {g : Registry} {events : List Event} {f : Failure}
    (h : (d.consume g events).1 = .error f) : (d.consume g events).2 = d := by
  unfold Database.consume at h ⊢
  split
  · rfl
  rename_i hne
  rw [if_neg hne] at h
  cases hbegin : d.begin? with
  | error _ => rfl
  | ok s =>
    simp only [hbegin] at h
    have hs : d.store = s := by
      unfold begin? at hbegin
      split at hbegin <;> cases hbegin
      rfl
    show ({ d with store := (g.consume d.backend events s).2 } : Database) = d
    rw [Registry.consume_error h, ← hs]

/-- A run consumes the batches one after the other, whether they fail or not. -/
theorem Launch.consumeAll_eq (g : Registry) (d : Database) (items : List Intake) :
    (consumeAll g d items).2 = (Intake.batches items).foldl (fun d b => (d.consume g b).2) d := by
  induction items generalizing d with
  | nil => rfl
  | cons item rest ih =>
    cases item with
    | unparseable n => exact ih d
    | batch es => exact ih _

/-- How a run groups its input and what becomes of the batches: all events of the lines that parse are in the
batches, in order; the batches are the one grouping of these lines; and in the end the database is as it is
after the batches, each of which counts only if it does not fail. -/
structure Launch.Projects (m : Machine) (size : Nat) (input : String) (c : Connection) (d : Disk) : Prop where
  events : (Intake.batches (Intake.ofText size input)).flatten =
    ((Intake.lines input.toList).map InputLine.ofChars).flatMap InputLine.events
  grouped : ∀ batches, Grouping size
    (((Intake.lines input.toList).map InputLine.ofChars).filter InputLine.parses) batches ↔
      batches = Intake.batches (Intake.ofText size input)
  store : (Launch.consumeText m size input c d).2 = d.leave c
    ((Intake.batches (Intake.ofText size input)).foldl
      (fun d b => (d.consume Registry.full b).2) c.database).store

/-- What can be asked for, and is given, is not short. -/
theorem Launch.shortage?_eq_none {m : Machine} {n : Nat} (hroom : n ≤ maxRequest) (hgives : m.gives n = true) :
    shortage? m n = none := by
  rw [shortage?, if_neg (Nat.not_lt.2 hroom), if_pos hgives]

/-- A run whose batches have room loses no event, doubles none, and groups them by their lines: no line is
both one event and a list. Batches that fail leave the database to the others as it was. Any size will do
whose room can be asked for at once. -/
theorem lines_projected {size : Nat} (hsize : 1 ≤ size) (hroom : size * Launch.eventSize ≤ Launch.maxRequest)
    {m : Machine} (hgives : m.gives (size * Launch.eventSize) = true) (input : String) (c : Connection)
    (d : Disk) :
    Launch.Projects m size input c d ∧
      (∀ b ∈ Intake.batches (Intake.ofText size input), b ≠ []) ∧
      (∀ doc es e, InputLine.batch? doc = some es → Event.ofDocument doc ≠ .ok e) ∧
      ∀ (d : Database) (b : List Event) (f : Failure), (d.consume Registry.full b).1 = .error f →
        (d.consume Registry.full b).2 = d := by
  have hgrouping := Intake.group_grouping 1 [] ((Intake.lines input.toList).map InputLine.ofChars) hsize
  refine ⟨⟨?_, fun batches => ⟨fun h => h.unique hgrouping, fun h => h ▸ hgrouping⟩, ?_⟩, hgrouping.ne_nil,
    fun _ _ e h => InputLine.reads_once h e, fun _ _ _ => Database.consume_error⟩
  · exact hgrouping.flatten_eq.trans (InputLine.flatMap_parses _)
  · rw [Launch.consumeText, Launch.shortage?_eq_none hroom hgives, ← Launch.consumeAll_eq]

namespace Sample

/-- A file that holds nothing yet, among the files of a fresh disk. -/
def file : Place := Disk.fresh.workDir ++ [Text.utf8Bytes "orders.db"]

/-- A connection to the file, with empty tables. -/
def connection : Connection := { database := {}, opened := { target := { access := .create }, place := some file } }

/-- The line of an event that creates an instance. -/
def created : String := "\x7b\"eventType\":\"PROCESS_CREATED\",\"entity\":\x7b\"id\":\"p1\"\x7d\x7d"

/-- The line of an event of no known type. -/
def unknown : String := "\x7b\"eventType\":\"A\"\x7d"

/-- Three single events, a list of one, a list of none, and a line that is neither. -/
def input : String :=
  unknown ++ "\n" ++ unknown ++ "\n\n" ++ unknown ++ "\n[" ++ unknown ++ "]\n[]\nnope\n"

end Sample

/-- By two, the single events make a full batch and a smaller one before the list. -/
theorem lines_projected_byTwos :
    Launch.Projects {} 2 Sample.input Sample.connection Disk.fresh ∧
      (Intake.batches (Intake.ofText 2 Sample.input)).map List.length = [2, 1, 1] :=
  ⟨(lines_projected (by decide) (by decide) rfl _ _ _).1, by decide +kernel⟩

/-- With a size for whose batches no room can be asked for nothing is consumed, whatever the input holds and
however much the machine would give. -/
theorem lines_lost :
    ¬∀ (m : Machine) (size : Nat) (_ : 1 ≤ size) (_ : m.gives (size * Launch.eventSize) = true)
      (input : String) (c : Connection) (d : Disk), Launch.Projects m size input c d := by
  intro hprojects
  have hstore := (hprojects {} 25620477880152156 (by decide) rfl Sample.created Sample.connection Disk.fresh).store
  have hfile := congrArg (fun d => (d.node? Sample.file).isSome) hstore
  revert hfile
  decide +kernel

end FlowView
