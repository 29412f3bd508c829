import FlowView.Proofs.Fields
/-!
# Events and payloads come back

An event that was decoded is the one that its encoding decodes to. A payload that was decoded comes back with
its dates in whole milliseconds, from the object that it is encoded as and from the list of the object's
values in the order of the fields, and is encoded alike again (`codecs_inverse`).
-/

namespace FlowView

namespace Payload

variable {α : Type} [Payload α]

/-- The payload with every date replaced by the instant of its whole milliseconds. -/
def inMillis? (p : α) : Option α := (Row.inMillis? (schema α).fields (toRow p)).map ofRow

/-- All dates of the payload have whole milliseconds and are no leap seconds. -/
def Whole (p : α) : Prop := Row.Whole (schema α).fields (toRow p)

/-- The encoded values of the payload, in the order of the fields. -/
def values (p : α) : List Json := Row.values (schema α).fields (toRow p)

variable (α) in
/-- Every payload that was decoded comes back with its dates in whole milliseconds, from its object and from
the list of its values, and is encoded alike again. -/
def ComesBack : Prop :=
  ∀ (v : Json) (p : α), ofJson v = .ok p →
    ∃ p' : α, inMillis? p = some p' ∧ ofJson (toJson p) = .ok p' ∧ toJson p' = toJson p ∧
      ofJson (.arr (values p)) = .ok p' ∧ (Whole p → p' = p)

/-- It is enough that no two fields share a name and that a row is that of its payload. -/
theorem comesBack (hn : (schema α).names.Nodup) (hrow : ∀ row, toRow (ofRow row : α) = row) : ComesBack α := by
  intro v p hp
  obtain ⟨row, hdecode, rfl⟩ := exists_row hp
  obtain ⟨row', hmillis, hobject, hlist, hagain⟩ := Schema.decode_encode hn (Schema.decode_held hdecode)
  refine ⟨ofRow row', ?_, ?_, ?_, ?_, fun hwhole => ?_⟩
  · simp [inMillis?, hrow, hmillis]
  · simp [ofJson, toJson, hrow, hobject, Except.map]
  · simp [toJson, hrow, hagain]
  · simp [ofJson, values, hrow, hlist, Except.map]
  · rw [Whole, hrow] at hwhole
    have hsame := hmillis.symm.trans (Row.inMillis?_whole hwhole)
    rw [Option.some.inj hsame]

end Payload

/-- Fields none of which is a date need no milliseconds. -/
theorem Row.whole_of_dateless {fs : List Field} (h : ∀ f ∈ fs, f.kind ≠ .date) (row : Row fs) : Whole fs row := by
  induction fs with
  | nil => trivial
  | cons f fs ih =>
    obtain ⟨v, row⟩ := row
    refine ⟨?_, ih (fun g hg => h g (List.mem_cons_of_mem _ hg)) row⟩
    have hkind := h f List.mem_cons_self
    unfold FieldKind.Whole
    split
    · exact absurd ‹_› hkind
    · trivial

theorem Event.comesBack {v : Json} {e : Event} (h : ofJson v = .ok e) : ofJson e.toJson = .ok e := by
  obtain ⟨row, hdecode, rfl⟩ : ∃ row, schema.decode (.ofValue v) = .ok row ∧ ofRow row = e := by
    unfold ofJson ofDocument at h
    cases hdecode : schema.decode (.ofValue v) with
    | error fault => simp [hdecode, Except.map] at h
    | ok row => exact ⟨row, rfl, by simpa [hdecode, Except.map] using h⟩
  have hrow : (ofRow row).toRow = row := rfl
  obtain ⟨row', hmillis, hobject, -⟩ := Schema.decode_encode (by decide) (Schema.decode_held hdecode)
  have hsame := hmillis.symm.trans (Row.inMillis?_whole (Row.whole_of_dateless (by decide) row))
  cases hsame
  simp [ofJson, ofDocument, toJson, hrow, hobject, Except.map]

/-! ## All records -/

/-- An event that was decoded is the one that its encoding decodes to. Every payload of the twelve types comes
back with its dates in whole milliseconds, from its object and from the list of its values, and is encoded
alike again. A date that has whole milliseconds and is no leap second stays as it is. -/
theorem codecs_inverse :
    (∀ v e, Event.ofJson v = .ok e → Event.ofJson e.toJson = .ok e) ∧
    (Payload.ComesBack InstancePayload ∧ Payload.ComesBack TaskPayload ∧ Payload.ComesBack VariablePayload ∧
      Payload.ComesBack ActivityPayload ∧ Payload.ComesBack FlowPayload ∧
      Payload.ComesBack IntegrationPayload ∧ Payload.ComesBack DefinitionPayload ∧
      Payload.ComesBack ApplicationPayload ∧ ∀ role, Payload.ComesBack (CandidatePayload role)) ∧
    ∀ t : Instant, t.nanos % 1000000 = 0 → t.isLeapSecond = false → t.inMillis? = some t := by
  refine ⟨fun _ _ => Event.comesBack, ⟨?_, ?_, ?_, ?_, ?_, ?_, ?_, ?_, fun role => ?_⟩,
    fun _ => Instant.inMillis?_whole⟩
  -- The names of a candidate's fields depend on the role.
  case refine_9 => exact Payload.comesBack (by cases role <;> decide) fun _ => rfl
  all_goals exact Payload.comesBack (by decide) fun _ => rfl

namespace Sample

/-- A task with a date before 1970 that is not a whole number of milliseconds, and a leap second. -/
def datedTask : Json := .object [("id", .str "t1"), ("priority", .null),
  ("createdDate", .str "1969-12-31T23:59:59.9999999Z"), ("dueDate", .str "2017-01-01T00:59:60.25+01:00"),
  ("claimedDate", .int (-1500))]

/-- The three dates. -/
def taskDates (p : TaskPayload) : List (Option Instant) := [p.createdDate, p.dueDate, p.claimedDate]

/-- A call with a map of variables. -/
def mail : Json := .object [("processInstanceId", .str "p1"), ("clientId", .str "mail"),
  ("inBoundVariables", .object [("to", .arr [.str "kim", .null]), ("size", .int 3)])]

/-- The event of the call, with a field that is not read. -/
def envelope : Json := .object [("eventType", .str "INTEGRATION_REQUESTED"), ("timestamp", .int (-1500)),
  ("processDefinitionVersion", .int 2), ("heading", .bool true), ("entity", mail)]

end Sample

/-- What is cut off of a task's dates goes towards the past, and the leap second becomes the second after it.
An event comes back as it is, and so does its call with the variables. -/
theorem codecs_inverse_taskAndCall :
    (∃ p p' : TaskPayload, Payload.ofJson Sample.datedTask = .ok p ∧ p.dueDate.any Instant.isLeapSecond = true ∧
      Payload.ofJson (Payload.toJson p) = .ok p' ∧ Payload.ofJson (.arr (Payload.values p)) = .ok p' ∧
      Sample.taskDates p' =
        [Instant.ofMillis? (-1), Instant.ofMillis? 1483228800250, Instant.ofMillis? (-1500)]) ∧
    (∃ e, Event.ofJson Sample.envelope = .ok e ∧ e.timestamp = -1500 ∧ e.definition.version = some 2 ∧
      e.entity = Sample.mail ∧ Event.ofJson e.toJson = .ok e) ∧
    ∃ p : IntegrationPayload, Payload.ofJson Sample.mail = .ok p ∧
      p.inbound = [("size", .int 3), ("to", .arr [.str "kim", .null])] ∧
      Payload.ofJson (Payload.toJson p) = .ok p ∧ Payload.ofJson (.arr (Payload.values p)) = .ok p := by
  obtain ⟨hevent, ⟨-, htask, -, -, -, hcall, -⟩, -⟩ := codecs_inverse
  refine ⟨?_, ⟨_, rfl, rfl, rfl, rfl, hevent Sample.envelope _ rfl⟩, ?_⟩
  · obtain ⟨p, hp⟩ : ∃ p : TaskPayload, Payload.ofJson Sample.datedTask = .ok p := ⟨_, rfl⟩
    obtain ⟨p', hmillis, hobject, -, hlist, -⟩ := htask _ p hp
    have hread : ((Payload.ofJson Sample.datedTask : Except DecodeFault TaskPayload).toOption.map fun p =>
        (p.dueDate.any Instant.isLeapSecond, (Payload.inMillis? p).map Sample.taskDates)) =
        some (true, some [Instant.ofMillis? (-1), Instant.ofMillis? 1483228800250, Instant.ofMillis? (-1500)]) := by
      decide +kernel
    simp only [hp, Except.toOption, Option.map_some, hmillis, Option.some.injEq, Prod.mk.injEq] at hread
    exact ⟨p, p', hp, hread.1, hobject, hlist, hread.2⟩
  · obtain ⟨p, hp, hinbound⟩ : ∃ p : IntegrationPayload, Payload.ofJson Sample.mail = .ok p ∧
        p.inbound = [("size", .int 3), ("to", .arr [.str "kim", .null])] := ⟨_, rfl, rfl⟩
    obtain ⟨p', -, hobject, -, hlist, hsame⟩ := hcall _ p hp
    -- A call has no dates.
    cases hsame (Row.whole_of_dateless (by decide) _)
    exact ⟨p, hp, hinbound, hobject, hlist⟩

end FlowView
