import FlowView.Instant.Text
import FlowView.Json.Document
import FlowView.Json.Writer
import FlowView.Text.Quoted
/-!
# Record schemas

Events and their payloads are records with a fixed list of fields. A schema lists them, and one reader
and one writer serve every record. A record is read from an object, its fields by name, or from a list,
its fields by place. In an object an optional field may be missing; in a list only a field with a
default may, and nothing may follow the last.
-/

namespace FlowView

/-- What a field holds. -/
inductive FieldKind
  /-- A text that must be there. -/
  | text
  /-- A text or nothing. -/
  | optText
  /-- A whole number of 32 bits or nothing. -/
  | optInt32
  /-- A whole number of 64 bits, zero by default. -/
  | int64
  /-- An instant as milliseconds or as text, or nothing, which is the default. -/
  | date
  /-- Any value, null by default. -/
  | any
  /-- A truth value, false by default. -/
  | flag
  /-- An object, empty by default. -/
  | entries
  /-- A list, empty by default. -/
  | items
  deriving DecidableEq, Repr

/-- The values of a field. -/
abbrev FieldKind.Value : FieldKind → Type
  | .text => String
  | .optText => Option String
  | .optInt32 => Option Int
  | .int64 => Int
  | .date => Option Instant
  | .any => Json
  | .flag => Bool
  | .entries => List (String × Json)
  | .items => List Json

structure Field where
  name : String
  kind : FieldKind
  deriving DecidableEq, Repr

/-- The values of a record's fields, in order. -/
abbrev Row : List Field → Type
  | [] => Unit
  | f :: fs => f.kind.Value × Row fs

/-- A record's name in messages and its fields in order. -/
structure Schema where
  name : String
  fields : List Field

/-! ## Faults -/

/-- What stands where something else was expected. -/
inductive Found
  | null
  | bool (b : Bool)
  | int (n : Int)
  | float (x : Double)
  | str (s : String)
  | list
  | object
  deriving DecidableEq, Repr

/-- Why a document is not a record. -/
inductive DecodeFault
  /-- The text is no JSON. -/
  | unreadable
  | wrongType (found : Found) (expected : String)
  | tooLarge (n : Int) (expected : String)
  | missing (field : String)
  | repeated (field : String)
  /-- A list ends before the field of this index. -/
  | tooShort (index : Nat) (schema : String) (size : Nat)
  /-- A list of this length goes on after the last field. -/
  | tooLong (length : Nat)
  /-- Milliseconds beyond the calendar. -/
  | millisRange (millis : Int)
  | dateText (fault : DateFault)
  /-- Neither milliseconds nor a text. -/
  | noDate
  /-- A name that is not among those expected. -/
  | unknownName (name : String) (expected : List String)
  /-- An object that should have one key. -/
  | notOneKey
  /-- Neither the payload nor its event names the owner. -/
  | noOwner (field : String)
  /-- A fault that is told in words. -/
  | told (message : String)
  deriving DecidableEq, Repr

def Found.message : Found → String
  | .null => "null"
  | .bool true => "boolean `true`"
  | .bool false => "boolean `false`"
  | .int n => s!"integer `{n}`"
  | .float x => "floating point `" ++ String.ofList x.compactText ++ "`"
  | .str s => "string " ++ Text.quoted s
  | .list => "sequence"
  | .object => "map"

/-- Names between backticks, with commas. -/
def listed (names : List String) : String :=
  ", ".intercalate (names.map fun n => "`" ++ n ++ "`")

def DecodeFault.message : DecodeFault → String
  | .unreadable => "expected value"
  | .wrongType found expected => "invalid type: " ++ found.message ++ ", expected " ++ expected
  | .tooLarge n expected => s!"invalid value: integer `{n}`, expected " ++ expected
  | .missing field => s!"missing field `{field}`"
  | .repeated field => s!"duplicate field `{field}`"
  | .tooShort index schema size =>
    s!"invalid length {index}, expected struct {schema} with {size} elements"
  | .tooLong length => s!"invalid length {length}, expected fewer elements in array"
  | .millisRange millis => s!"date out of range: {millis}"
  | .dateText fault => fault.message
  | .noDate => "data did not match any variant of untagged enum Raw"
  | .unknownName name expected => s!"unknown variant `{name}`, expected one of " ++ listed expected
  | .notOneKey => "invalid value: map, expected map with a single key"
  | .noOwner field => s!"missing {field}"
  | .told message => message

/-- What a document is, for a message. A document that stopped was no JSON. -/
def Document.fault (expected : String) : Document → DecodeFault
  | .null => .wrongType .null expected
  | .bool b => .wrongType (.bool b) expected
  | .int n => .wrongType (.int n) expected
  | .float x => .wrongType (.float x) expected
  | .str s => .wrongType (.str s) expected
  | .arr _ => .wrongType .list expected
  | .obj _ => .wrongType .object expected
  | .broken => .unreadable

/-! ## Fields -/

def Document.int32? : Document → Except DecodeFault (Option Int)
  | .null => .ok none
  | .int n =>
    if Int32.minValue.toInt ≤ n ∧ n ≤ Int32.maxValue.toInt then .ok (some n)
    else .error (.tooLarge n "i32")
  | d => .error (d.fault "i32")

def Document.int64 : Document → Except DecodeFault Int
  | .int n => if n ≤ Int64.maxValue.toInt then .ok n else .error (.tooLarge n "i64")
  | d => .error (d.fault "i64")

/-- An instant in either notation. -/
def Document.date? : Document → Except DecodeFault (Option Instant)
  | .null => .ok none
  | .int n =>
    if n ≤ Int64.maxValue.toInt then
      match Instant.ofMillis? n with
      | some t => .ok (some t)
      | none => .error (.millisRange n)
    else .error .noDate
  | .str s =>
    match Instant.ofText s with
    | .ok t => .ok (some t)
    | .error e => .error (.dateText e)
  | .broken => .error .unreadable
  | _ => .error .noDate

namespace FieldKind

/-- Reads one field. The entries of an object stand in the order of their keys. The program reads them into a
map, whose order is arbitrary, so equality of a text that is made of them is equality as JSON. -/
def decode : (k : FieldKind) → Document → Except DecodeFault k.Value
  | .text, .str s => .ok s
  | .text, d => .error (d.fault "a string")
  | .optText, .null => .ok none
  | .optText, .str s => .ok (some s)
  | .optText, d => .error (d.fault "a string")
  | .optInt32, d => d.int32?
  | .int64, d => d.int64
  | .date, d => d.date?
  | .any, d =>
    match d.value? with
    | some v => .ok v
    | none => .error .unreadable
  | .flag, .bool b => .ok b
  | .flag, d => .error (d.fault "a boolean")
  | .entries, .obj fields =>
    match Document.fields? fields with
    | some vs => .ok (Json.sortFields vs)
    | none => .error .unreadable
  | .entries, d => .error (d.fault "a map")
  | .items, .arr ds =>
    match Document.items? ds with
    | some vs => .ok vs
    | none => .error .unreadable
  | .items, d => .error (d.fault "a sequence")

/-- The value of a field with a default that is left out. -/
def default? : (k : FieldKind) → Option k.Value
  | .text => none
  | .optText => none
  | .optInt32 => none
  | .int64 => some (0 : Int)
  | .date => some none
  | .any => some Json.null
  | .flag => some false
  | .entries => some []
  | .items => some []

/-- The value of a field that an object leaves out. -/
def absent? : (k : FieldKind) → Option k.Value
  | .optText => some none
  | .optInt32 => some none
  | k => k.default?

/-- Writes one field: an instant in milliseconds. -/
def encode : (k : FieldKind) → k.Value → Json
  | .text, s => .str s
  | .optText, s => Json.ofText? s
  | .optInt32, n => Json.ofInt? n
  | .int64, n => .int n
  | .date, t => Json.ofInt? (t.map Instant.millis)
  | .any, v => v
  | .flag, b => .bool b
  | .entries, vs => .obj vs
  | .items, vs => .arr vs

end FieldKind

/-! ## Records -/

namespace Row

/-- The first fault of an object's fields in their order. -/
def check (fs : List Field) (seen : List String) : List (String × Document) → Except DecodeFault Unit
  | [] => .ok ()
  | (name, d) :: rest =>
    match fs.find? (·.name = name) with
    | none =>
      match d with
      | .broken => .error .unreadable
      | _ => check fs seen rest
    | some f =>
      if name ∈ seen then .error (.repeated name)
      else
        match f.kind.decode d with
        | .error e => .error e
        | .ok _ => check fs (name :: seen) rest

/-- The fields of a record by name. -/
def ofEntries : (fs : List Field) → List (String × Document) → Except DecodeFault (Row fs)
  | [], _ => .ok ()
  | f :: fs, entries => do
    let v ← match entries.lookup f.name with
      | some d => f.kind.decode d
      | none =>
        match f.kind.absent? with
        | some v => .ok v
        | none => .error (.missing f.name)
    return (v, ← ofEntries fs entries)

/-- The fields of a record by place, and what is left of the list. -/
def ofItems (s : Schema) :
    (fs : List Field) → (index : Nat) → List Document → Except DecodeFault (Row fs × List Document)
  | [], _, ds => .ok ((), ds)
  | f :: fs, index, [] =>
    match f.kind.default? with
    | some v => do
      let (row, rest) ← ofItems s fs (index + 1) []
      return ((v, row), rest)
    | none => .error (.tooShort index s.name s.fields.length)
  | f :: fs, index, d :: ds => do
    let v ← f.kind.decode d
    let (row, rest) ← ofItems s fs (index + 1) ds
    return ((v, row), rest)

/-- The written fields, in order. -/
def values : (fs : List Field) → Row fs → List Json
  | [], _ => []
  | f :: fs, (v, row) => f.kind.encode v :: values fs row

end Row

namespace Schema

def names (s : Schema) : List String := s.fields.map Field.name

/-- Reads a record. -/
def decode (s : Schema) : Document → Except DecodeFault (Row s.fields)
  | .obj entries => do
    Row.check s.fields [] entries
    Row.ofEntries s.fields entries
  | .arr ds => do
    let (row, rest) ← Row.ofItems s s.fields 0 ds
    if rest.isEmpty then return row else .error (.tooLong ds.length)
  | d => .error (d.fault ("struct " ++ s.name))

/-- Writes a record as an object. -/
def encode (s : Schema) (row : Row s.fields) : Json :=
  Json.object (s.names.zip (Row.values s.fields row))

end Schema
end FlowView
