import FlowView.Payload
import FlowView.Proofs.Millis
import FlowView.Proofs.Sorted
import FlowView.Proofs.Table
/-!
# Records come back

What a record's fields were decoded from, they can be encoded again, and decoding that gives the same fields
with every date replaced by the instant of its whole milliseconds, from an object and from a list
(`Schema.decode_encode`). It takes that no two fields share a name.
-/

namespace FlowView

/-! ## One field -/

namespace FieldKind

/-- The values that decoding gives. -/
def Held : (k : FieldKind) → k.Value → Prop
  | .optInt32, n => ∀ m, n = some m → Int32.minValue.toInt ≤ m ∧ m ≤ Int32.maxValue.toInt
  | .int64, n => n ≤ Int64.maxValue.toInt
  | .date, t => ∀ t', t = some t' → t'.inMillis?.isSome = true ∧ t'.Regular
  | .any, v => v.Sorted
  | .entries, vs => (Json.obj vs).Sorted
  | .items, vs => (Json.arr vs).Sorted
  | .text, _ | .optText, _ | .flag, _ => True

/-- The value with a date replaced by the instant of its whole milliseconds. -/
def inMillis? : (k : FieldKind) → k.Value → Option k.Value
  | .date, none => some none
  | .date, some t => t.inMillis?.map some
  | _, v => some v

/-- A date has whole milliseconds and is no leap second. -/
def Whole : (k : FieldKind) → k.Value → Prop
  | .date, t => ∀ t', t = some t' → t'.nanos % 1000000 = 0 ∧ t'.isLeapSecond = false
  | _, _ => True

variable {k : FieldKind} {v : k.Value}

theorem decode_held {d : Document} (h : k.decode d = .ok v) : k.Held v := by
  cases k with
  | text | optText | flag => trivial
  | optInt32 =>
    rintro m rfl
    cases d <;> simp [decode, Document.int32?] at h
    split at h <;> simp_all
  | int64 =>
    cases d <;> simp [decode, Document.int64] at h
    split at h <;> simp_all [Held]
  | date =>
    rintro t rfl
    cases d <;> simp [decode, Document.date?] at h
    · repeat' split at h
      all_goals cases h
      rename_i ht
      exact ⟨by simp [Instant.inMillis?_of_ofMillis? ht], Instant.regular_of_ofMillis? ht⟩
    · split at h <;> cases h
      rename_i ht
      exact ⟨Instant.inMillis?_of_ofText ht, Instant.regular_of_ofText ht⟩
  | any =>
    simp only [decode] at h
    split at h <;> cases h
    rename_i hv
    exact Document.value?_sorted hv
  | entries =>
    cases d <;> simp only [decode] at h <;> try cases h
    split at h <;> cases h
    rename_i hvs
    exact Json.sorted_object (Document.fields?_sorted hvs)
  | items =>
    cases d <;> simp only [decode] at h <;> try cases h
    split at h <;> cases h
    rename_i hvs
    exact .arr (Document.items?_sorted hvs)

theorem default?_held (h : k.default? = some v) : k.Held v := by
  cases k <;> cases h
  · have hmax : Int64.maxValue.toInt = 9223372036854775807 := by decide
    simp [Held, hmax]
  · intro t ht
    cases ht
  · exact .null
  · trivial
  · exact .obj .nil nofun
  · exact .arr nofun

theorem absent?_held (h : k.absent? = some v) : k.Held v := by
  cases k with
  | optText => trivial
  | optInt32 =>
    cases h
    exact nofun
  | _ => exact default?_held h

/-- A value that was decoded is encoded so that it comes back, a date as the instant of its milliseconds. -/
theorem decode_encode (h : k.Held v) :
    ∃ v', k.inMillis? v = some v' ∧ k.decode (.ofValue (k.encode v)) = .ok v' ∧ k.encode v' = k.encode v := by
  cases k with
  | text | flag => exact ⟨v, rfl, rfl, rfl⟩
  | optText => cases v <;> exact ⟨_, rfl, rfl, rfl⟩
  | optInt32 =>
    refine ⟨v, rfl, ?_, rfl⟩
    cases v with
    | none => rfl
    | some n => exact if_pos (h n rfl)
  | int64 =>
    refine ⟨v, rfl, ?_, rfl⟩
    have hv : v ≤ Int64.maxValue.toInt := h
    simp [encode, Document.ofValue, decode, Document.int64, hv]
  | date =>
    cases v with
    | none => exact ⟨none, rfl, rfl, rfl⟩
    | some t =>
      obtain ⟨t', ht'⟩ := Option.isSome_iff_exists.1 (h t rfl).1
      have hmillis : Instant.ofMillis? t.millis = some t' := ht'
      refine ⟨some t', by simp [inMillis?, ht'], ?_, ?_⟩
      · simp [encode, Json.ofInt?, Document.ofValue, decode, Document.date?, t.millis_le, hmillis]
      · simp [encode, Instant.millis_inMillis? ht']
  | any =>
    have hv : (Document.ofValue v).value? = some v := Json.Sorted.value?_ofValue h
    exact ⟨v, rfl, by simp [encode, decode, hv], rfl⟩
  | entries =>
    cases h with
    | obj horder hvs =>
      have hfields := Document.fields?_ofFields fun f hf => (hvs f hf).value?_ofValue
      exact ⟨v, rfl, by simp [encode, Document.ofValue, decode, hfields, horder.sortFields], rfl⟩
  | items =>
    cases h with
    | arr hvs =>
      have hitems := Document.items?_ofItems fun w hw => (hvs w hw).value?_ofValue
      exact ⟨v, rfl, by simp [encode, Document.ofValue, decode, hitems], rfl⟩

theorem inMillis?_whole (h : k.Whole v) : k.inMillis? v = some v := by
  cases k with
  | date =>
    cases v with
    | none => rfl
    | some t => simp [inMillis?, Instant.inMillis?_whole (h t rfl).1 (h t rfl).2]
  | _ => rfl

end FieldKind

/-! ## Fields by name and by place -/

/-- Reads the field of its name. -/
def Field.read (f : Field) (entries : List (String × Document)) : Except DecodeFault f.kind.Value :=
  match entries.lookup f.name with
  | some d => f.kind.decode d
  | none =>
    match f.kind.absent? with
    | some v => .ok v
    | none => .error (.missing f.name)

theorem Field.read_held {f : Field} {entries : List (String × Document)} {v : f.kind.Value}
    (h : f.read entries = .ok v) : f.kind.Held v := by
  unfold read at h
  split at h
  · exact FieldKind.decode_held h
  · split at h
    · cases h
      exact FieldKind.absent?_held ‹_›
    · cases h

namespace Row

def Held : (fs : List Field) → Row fs → Prop
  | [], _ => True
  | f :: fs, (v, row) => f.kind.Held v ∧ Held fs row

/-- The fields with every date replaced by the instant of its whole milliseconds. -/
def inMillis? : (fs : List Field) → Row fs → Option (Row fs)
  | [], row => some row
  | f :: fs, (v, row) => do return (← f.kind.inMillis? v, ← inMillis? fs row)

/-- All dates have whole milliseconds and are no leap seconds. -/
def Whole : (fs : List Field) → Row fs → Prop
  | [], _ => True
  | f :: fs, (v, row) => f.kind.Whole v ∧ Whole fs row

variable {f : Field} {fs : List Field}

theorem ofEntries_read (f : Field) (fs : List Field) (entries : List (String × Document)) :
    ofEntries (f :: fs) entries = do return (← f.read entries, ← ofEntries fs entries) := by
  rw [ofEntries, Field.read]
  cases entries.lookup f.name with
  | some d => rfl
  | none => cases f.kind.absent? <;> rfl

theorem ofEntries_cons {entries : List (String × Document)} {v : f.kind.Value} {row : Row fs} :
    ofEntries (f :: fs) entries = .ok (v, row) ↔ f.read entries = .ok v ∧ ofEntries fs entries = .ok row := by
  simp only [ofEntries_read, bind_eq_ok]
  constructor
  · rintro ⟨v', hv, row', hrow, h⟩
    cases h
    exact ⟨hv, hrow⟩
  · exact fun ⟨hv, hrow⟩ => ⟨v, hv, row, hrow, rfl⟩

theorem ofEntries_held {entries : List (String × Document)} {row : Row fs}
    (h : ofEntries fs entries = .ok row) : Held fs row := by
  induction fs with
  | nil => trivial
  | cons f fs ih =>
    obtain ⟨v, row⟩ := row
    obtain ⟨hv, hrow⟩ := ofEntries_cons.1 h
    exact ⟨Field.read_held hv, ih hrow⟩

theorem ofItems_held {s : Schema} {index : Nat} {ds rest : List Document} {row : Row fs}
    (h : ofItems s fs index ds = .ok (row, rest)) : Held fs row := by
  induction fs generalizing index ds with
  | nil => trivial
  | cons f fs ih =>
    cases ds with
    | nil =>
      unfold ofItems at h
      split at h
      · rename_i v hv
        obtain ⟨⟨row', rest'⟩, hrow, h⟩ := bind_eq_ok.1 h
        cases h
        exact ⟨FieldKind.default?_held hv, ih hrow⟩
      · cases h
    | cons d ds =>
      unfold ofItems at h
      obtain ⟨v, hv, h⟩ := bind_eq_ok.1 h
      obtain ⟨⟨row', rest'⟩, hrow, h⟩ := bind_eq_ok.1 h
      cases h
      exact ⟨FieldKind.decode_held hv, ih hrow⟩

/-! ## What was written comes back -/

/-- What comes back when fields are written and read again. -/
structure Back (fs : List Field) (row row' : Row fs) : Prop where
  inMillis : inMillis? fs row = some row'
  again : values fs row' = values fs row
  byName : ∀ entries : List (String × Document),
    (∀ p ∈ fs.zip (values fs row), entries.lookup p.1.name = some (.ofValue p.2)) →
    ofEntries fs entries = .ok row'
  byPlace : ∀ s index rest,
    ofItems s fs index ((values fs row).map .ofValue ++ rest) = .ok (row', rest)

theorem exists_back {row : Row fs} (h : Held fs row) : ∃ row', Back fs row row' := by
  induction fs with
  | nil => exact ⟨row, rfl, rfl, fun _ _ => rfl, fun _ _ _ => rfl⟩
  | cons f fs ih =>
    obtain ⟨v, row⟩ := row
    obtain ⟨v', hmillis, hdecode, hencode⟩ := FieldKind.decode_encode h.1
    obtain ⟨row', hrow⟩ := ih h.2
    refine ⟨(v', row'), ?_, ?_, fun entries hentries => ?_, fun s index rest => ?_⟩
    · simp [inMillis?, hmillis, hrow.inMillis]
    · simp [values, hencode, hrow.again]
    · have hfirst : entries.lookup f.name = some (.ofValue (f.kind.encode v)) :=
        hentries (f, f.kind.encode v) List.mem_cons_self
      refine ofEntries_cons.2 ⟨?_, hrow.byName entries fun p hp => hentries p (List.mem_cons_of_mem _ hp)⟩
      rw [Field.read, hfirst]
      exact hdecode
    · have hrest := hrow.byPlace s (index + 1) rest
      simp [values, ofItems, hdecode, hrest, bind, Except.bind, pure, Except.pure]

theorem inMillis?_whole {row : Row fs} (h : Whole fs row) : inMillis? fs row = some row := by
  induction fs with
  | nil => rfl
  | cons f fs ih => simp [inMillis?, FieldKind.inMillis?_whole h.1, ih h.2]

/-- An object whose fields are known, each of them once, has no fault. -/
theorem check_ok {seen : List String} {entries : List (String × Document)}
    (hn : (entries.map Prod.fst).Nodup) (hseen : ∀ e ∈ entries, e.1 ∉ seen)
    (hknown : ∀ e ∈ entries, ∃ f v, fs.find? (·.name = e.1) = some f ∧ f.kind.decode e.2 = .ok v) :
    check fs seen entries = .ok () := by
  induction entries generalizing seen with
  | nil => rfl
  | cons e entries ih =>
    obtain ⟨name, d⟩ := e
    obtain ⟨hname, hrest⟩ := List.nodup_cons.1 hn
    obtain ⟨f, v, hf, hv⟩ := hknown _ List.mem_cons_self
    have hnew : name ∉ seen := hseen _ List.mem_cons_self
    simp only [check, hf, hnew, if_false, hv]
    refine ih hrest (fun e he => ?_) fun e he => hknown e (List.mem_cons_of_mem _ he)
    have hne : e.1 ≠ name := fun heq => hname (List.mem_map.2 ⟨e, he, heq⟩)
    simp [hne, hseen e (List.mem_cons_of_mem _ he)]

theorem length_values (row : Row fs) : (values fs row).length = fs.length := by
  induction fs with
  | nil => rfl
  | cons f fs ih => simp [values, ih]

theorem of_mem_zip {row : Row fs} {p : Field × Json} (h : Held fs row) (hp : p ∈ fs.zip (values fs row)) :
    p.1 ∈ fs ∧ ∃ v, p.1.kind.Held v ∧ p.2 = p.1.kind.encode v := by
  induction fs with
  | nil => cases hp
  | cons f fs ih =>
    rcases List.mem_cons.1 hp with rfl | hp
    · exact ⟨List.mem_cons_self, row.1, h.1, rfl⟩
    · obtain ⟨hf, hv⟩ := ih h.2 hp
      exact ⟨List.mem_cons_of_mem _ hf, hv⟩

end Row

namespace Schema

variable {s : Schema}

theorem decode_held {d : Document} {row : Row s.fields} (h : s.decode d = .ok row) : Row.Held s.fields row := by
  cases d with
  | obj entries =>
    obtain ⟨-, -, hrow⟩ := bind_eq_ok.1 h
    exact Row.ofEntries_held hrow
  | arr ds =>
    obtain ⟨⟨row', rest⟩, hrow, h⟩ := bind_eq_ok.1 h
    dsimp only at h
    split at h <;> cases h
    exact Row.ofItems_held hrow
  | _ => cases h

/-- A record that was decoded and is encoded comes back with its dates in milliseconds, by name and by place,
and is encoded alike again. -/
theorem decode_encode (hn : s.names.Nodup) {row : Row s.fields} (h : Row.Held s.fields row) :
    ∃ row', Row.inMillis? s.fields row = some row' ∧ s.decode (.ofValue (s.encode row)) = .ok row' ∧
      s.decode (.ofValue (.arr (Row.values s.fields row))) = .ok row' ∧ s.encode row' = s.encode row := by
  obtain ⟨row', hback⟩ := Row.exists_back h
  have hzip : s.names.zip (Row.values s.fields row) =
      (s.fields.zip (Row.values s.fields row)).map fun p => (p.1.name, p.2) := List.zip_map_left
  have hnames : ((s.names.zip (Row.values s.fields row)).map Prod.fst).Nodup := by
    rw [List.map_fst_zip (by simp [names, Row.length_values])]
    exact hn
  refine ⟨row', hback.inMillis, ?_, ?_, ?_⟩
  · have hcheck : Row.check s.fields []
        (Document.ofFields (Json.sortFields (s.names.zip (Row.values s.fields row)))) = .ok () := by
      rw [Document.ofFields_eq]
      refine Row.check_ok ?_ (fun _ _ => List.not_mem_nil) fun e he => ?_
      · rw [List.map_map]
        exact (Json.ascending_sortFields _).nodup
      · obtain ⟨f, hf, rfl⟩ := List.mem_map.1 he
        have hmem := Json.mem_sortFields hf
        rw [hzip] at hmem
        obtain ⟨p, hp, rfl⟩ := List.mem_map.1 hmem
        obtain ⟨hfield, v, hv, hencode⟩ := Row.of_mem_zip h hp
        obtain ⟨v', -, hdecode, -⟩ := FieldKind.decode_encode hv
        refine ⟨p.1, v', (Table.lookup_eq_some hn).2 ⟨hfield, rfl⟩, ?_⟩
        simpa [hencode] using hdecode
    have hentries := hback.byName (Document.ofFields (Json.sortFields (s.names.zip (Row.values s.fields row))))
      fun p hp => by
        have hmem : (p.1.name, p.2) ∈ s.names.zip (Row.values s.fields row) := by
          rw [hzip]
          exact List.mem_map_of_mem hp
        rw [Document.lookup_ofFields, Json.lookup_sortFields hnames, Json.lookup_of_mem hnames hmem]
        rfl
    simp [encode, Json.object, Document.ofValue, decode, hcheck, hentries, bind, Except.bind]
  · have hitems := hback.byPlace s 0 []
    simp only [List.append_nil] at hitems
    simp [Document.ofValue, Document.ofItems_eq, decode, hitems, bind, Except.bind, pure, Except.pure]
  · simp [encode, hback.again]

end Schema

/-! ## Payloads -/

/-- A payload is made of the row that its value was decoded to. -/
theorem Payload.exists_row {α : Type} [Payload α] {v : Json} {p : α} (h : ofJson v = .ok p) :
    ∃ row, (schema α).decode (.ofValue v) = .ok row ∧ ofRow row = p := by
  unfold ofJson at h
  cases hdecode : (schema α).decode (.ofValue v) with
  | error fault => simp [hdecode, Except.map] at h
  | ok row => exact ⟨row, rfl, by simpa [hdecode, Except.map] using h⟩

theorem Event.payload_row {α : Type} [Payload α] {e : Event} {p : α} (h : e.payload = .ok p) :
    ∃ row, (Payload.schema α).decode (.ofValue e.entity) = .ok row ∧ Payload.ofRow row = p := by
  unfold Event.payload at h
  split at h
  · cases h
    exact Payload.exists_row ‹_›
  · cases h

end FlowView
