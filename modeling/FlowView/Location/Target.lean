import FlowView.Failure
/-!
# Targets

What the database engine is told to open for a location: the bytes of a file name and what may be done
with the file. A file name that begins with `file:` is a URL of its own. Its percent signs stand for
bytes once more, a zero byte ends each of its parts, and its parameters come after those of the location.
-/

namespace FlowView

/-- What may be done with a file, from little to much. -/
inductive Access
  | readOnly
  | readWrite
  /-- The file is made if it is missing. -/
  | create
  deriving DecidableEq, Repr

namespace Access

def rank : Access → Nat
  | .readOnly => 0
  | .readWrite => 1
  | .create => 2

end Access

/-- A file, or a database in memory, as the engine opens it. -/
structure Target where
  name : FileName := []
  access : Access
  inMemory : Bool := false
  /-- Is the file one that nobody changes? -/
  immutable : Bool := false
  /-- Is the file used without a lock? -/
  unlocked : Bool := false
  /-- The system interface that the file is opened with. -/
  interface : String := "unix"
  /-- A file whose rights a new file gets. -/
  rightsOf : Option FileName := none
  deriving DecidableEq, Repr

namespace Target

/-- The system interfaces that there are. The last keeps files in memory. -/
def interfaces : List String := ["unix", "unix-none", "unix-dotfile", "unix-excl", "memdb"]

/-- May nothing be written? -/
def readOnly (t : Target) : Bool := t.immutable || t.access = .readOnly

/-- Is the lock of the file a directory beside it? One interface makes such locks. -/
def locksBeside (t : Target) : Bool := t.interface = "unix-dotfile" && !t.unlocked

/-- Are locks on the file asked of the system, which gives no lock for writing on a file that was opened
for reading? -/
def locksInside (t : Target) : Bool :=
  (t.interface = "unix" || t.interface = "unix-excl") && !t.unlocked

/-- Is the index of a log a file? One interface keeps it to itself when it may write. -/
def indexesBeside (t : Target) : Bool := t.interface = "unix" || t.access = .readOnly

def known (t : Target) : Except StoreFault Target :=
  if t.interface ∈ interfaces then .ok t else .error (.noInterface t.interface)

/-- The bytes before the first zero byte. -/
def beforeZero (bytes : List Nat) : List Nat := bytes.takeWhile (· ≠ 0)

/-! ## Yes and no -/

/-- The remainder by 256 of the number at the front of a text, in ten digits at most, or in eight of
base sixteen behind `0x`. A greater number than a word of 31 bits counts as none. -/
def leadingByte (cs : List Char) : Nat :=
  let value (base bound : Nat) (digits : List Nat) : Nat :=
    let digits := digits.dropWhile (· = 0)
    let n := digits.foldl (fun n d => n * base + d) 0
    if digits.length ≤ bound ∧ n < 2147483648 then n % 256 else 0
  let decimal := value 10 10 ((cs.takeWhile Char.isDigit).map Text.digitValue)
  match cs with
  | '0' :: x :: rest =>
    let hex := (rest.map Text.hexValue?).takeWhile Option.isSome
    if (x = 'x' ∨ x = 'X') ∧ !hex.isEmpty then value 16 8 hex.reduceOption else decimal
  | _ => decimal

/-- Does the value of a parameter say yes? A word that says neither yes nor no says no. -/
def isYes (value : List Nat) : Bool :=
  let cs := (Text.decodeLossy value).toList
  if (cs.head?.map Char.isDigit) = some true then leadingByte cs ≠ 0
  else String.ofList (cs.map Char.toLower) ∈ ["on", "yes", "true"]

/-! ## File names that are URLs -/

/-- The bytes that a part of a URL stands for. -/
def part (cs : List Char) : List Nat := beforeZero (Text.percentBytes cs)

/-- What a mode in the URL changes. It may not ask for more than may be done, unless the database is in
memory anyway. -/
def withMode (t : Target) (value : List Nat) : Except StoreFault Target :=
  let text := Text.decodeLossy value
  let opened (access : Access) : Except StoreFault Target :=
    if t.inMemory ∨ access.rank ≤ t.access.rank then .ok { t with access, inMemory := false }
    else .error (.modeRefused text)
  match text with
  | "ro" => opened .readOnly
  | "rw" => opened .readWrite
  | "rwc" => opened .create
  | "memory" => .ok { t with access := .create, inMemory := true }
  | _ => .error (.noMode "access" text)

/-- What one parameter of the URL changes. Of two modes or interfaces the last counts. -/
def withParameter (t : Target) : String × List Nat → Except StoreFault Target
  | ("vfs", value) => .ok { t with interface := Text.decodeLossy value }
  | ("mode", value) => t.withMode value
  | ("cache", value) =>
    let text := Text.decodeLossy value
    if text = "shared" ∨ text = "private" then .ok t else .error (.noMode "cache" text)
  | _ => .ok t

/-- The target of a URL behind its `file:`. The host may be this one. A parameter without a name is
none; of two words on one matter the first counts. -/
def ofUri (t : Target) (uri : List Char) : Except StoreFault Target := do
  let rest ← match uri with
    | '/' :: '/' :: cs =>
      let host := String.ofList (cs.takeWhile (· ≠ '/'))
      if host = "" ∨ host = "localhost" then .ok (cs.dropWhile (· ≠ '/'))
      else .error (.foreignHost host)
    | cs => .ok cs
  let (name, query) := Text.cut '?' (rest.takeWhile (· ≠ '#'))
  let given := (Text.parts '&' (query.getD [])).filterMap fun text =>
    let (key, value) := Text.cut '=' text
    let key := Text.decodeLossy (part key)
    if key = "" then none else some (key, part (value.getD []))
  let t ← given.foldlM withParameter { t with name := part name }
  known { t with
    immutable := ((given.lookup "immutable").map isYes).getD false
    unlocked := ((given.lookup "nolock").map isYes).getD false
    rightsOf := given.lookup "modeof" }

end Target

namespace Location

/-- What the engine is told to open. A location with an interface, or with a file that nobody changes,
is told by a URL that stands for each byte of the file name, and where a plus sign stands for a space. -/
def target (l : Location) : Except StoreFault Target :=
  let bytes := Text.utf8Bytes l.path
  let access : Access :=
    if l.readOnly then .readOnly else if l.create then .create else .readWrite
  let t : Target := { access, inMemory := l.inMemory }
  if l.immutable ∨ l.vfs.isSome then
    let vfs := (l.vfs.getD "unix").toList.takeWhile (·.toNat ≠ 0)
    Target.known { t with
      name := Target.beforeZero bytes
      immutable := l.immutable
      interface := String.ofList (vfs.map fun c => if c = ' ' then '+' else c) }
  else if 0 ∈ bytes then .error (.contact .zeroByteInFile)
  else if startsWith l.path "file:" then t.ofUri (l.path.toList.drop 5)
  else .ok { t with name := bytes }

end Location
end FlowView
