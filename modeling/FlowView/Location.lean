import FlowView.Numeral
import FlowView.Text.Percent
import FlowView.Text.Quoted
import FlowView.Text.Split
/-!
# Locations

A URL that names a database: a scheme, a file and parameters. Percent signs stand for bytes of the file
name; parameters say how the file is opened.
-/

namespace FlowView

/-- Why a URL names no database. -/
inductive LocationFault
  | badPort
  | emptyHost
  /-- A character that no host has. -/
  | badHost
  /-- No address stands between the brackets of the host. -/
  | badAddress
  /-- A parameter is no address. -/
  | notAddress
  | notNumber (fault : NumeralFault)
  /-- A parameter has a value that it cannot have. -/
  | unknownValue (parameter value : String)
  /-- A server cannot be reached in this secure or insecure way. -/
  | unknownSecurity (value : String)
  | unknownParameter (name : String)
  /-- A text is no UTF-8 from a byte on; how many bytes are wrong, if the text goes on. -/
  | notUtf8 (start : Nat) (size : Option Nat)
  deriving DecidableEq, Repr

def LocationFault.message : LocationFault → String
  | .badPort => "invalid port number"
  | .emptyHost => "empty host"
  | .badHost => "invalid domain character"
  | .badAddress => "invalid IPv6 address"
  | .notAddress => "invalid IP address syntax"
  | .notNumber fault => fault.message
  | .unknownValue parameter value => "unknown value " ++ Text.quoted value ++ s!" for `{parameter}`"
  | .unknownSecurity value =>
    "error with configuration: unknown value " ++ Text.quoted value ++ " for `ssl_mode`"
  | .unknownParameter name => s!"unknown query parameter `{name}` while parsing connection URL"
  | .notUtf8 start (some size) => s!"invalid utf-8 sequence of {size} bytes from index {start}"
  | .notUtf8 start none => s!"incomplete utf-8 byte sequence from index {start}"

/-- The kind of database that a URL names. -/
inductive Engine
  | file
  | server
  deriving DecidableEq, Repr

/-- A database in a file or in memory, and how it is opened. -/
structure Location where
  path : String := ""
  inMemory : Bool := false
  readOnly : Bool := false
  /-- May the file be made if it is missing? -/
  create : Bool := false
  /-- Is the file one that nobody changes? -/
  immutable : Bool := false
  /-- Another system interface to open the file with. -/
  vfs : Option String := none
  deriving DecidableEq, Repr

namespace Location

/-- Does a text begin with another? -/
def startsWith (text start : String) : Bool := start.toList.isPrefixOf text.toList

/-- The kind of database by the scheme. -/
def engine? (url : String) : Option Engine :=
  if startsWith url "sqlite:" then some .file
  else if startsWith url "postgres://" ∨ startsWith url "postgresql://" then some .server
  else none

/-- Takes a start off as often as it is there; `fuel` bounds how often. -/
def dropStarts (start : List Char) : (fuel : Nat) → List Char → List Char
  | 0, cs => cs
  | fuel + 1, cs =>
    if start.isPrefixOf cs then dropStarts start fuel (cs.drop start.length) else cs

/-- The text of some bytes. -/
def decoded (bytes : List Nat) : Except LocationFault String :=
  match Text.decodeUtf8 bytes with
  | .ok text => .ok text
  | .error (start, size) => .error (.notUtf8 start size)

/-- A name or a value among the parameters, where a plus sign stands for a space. -/
def parameterText (cs : List Char) : String :=
  Text.decodeLossy (Text.percentBytes (cs.map fun c => if c = '+' then ' ' else c))

/-- The names and values of parameters. -/
def parameters (cs : List Char) : List (String × String) :=
  (Text.parts '&' cs).filterMap fun part =>
    if part.isEmpty then none
    else
      let (name, value) := Text.cut '=' part
      some (parameterText name, parameterText (value.getD []))

/-- What one parameter changes. -/
def withParameter (l : Location) : String × String → Except LocationFault Location
  | ("mode", "ro") => .ok { l with readOnly := true }
  | ("mode", "rw") => .ok l
  | ("mode", "rwc") => .ok { l with create := true }
  | ("mode", "memory") => .ok { l with inMemory := true }
  | ("mode", value) => .error (.unknownValue "mode" value)
  | ("cache", value) =>
    if value = "private" ∨ value = "shared" then .ok l else .error (.unknownValue "cache" value)
  | ("immutable", value) =>
    if value = "true" ∨ value = "1" then .ok { l with immutable := true }
    else if value = "false" ∨ value = "0" then .ok { l with immutable := false }
    else .error (.unknownValue "immutable" value)
  | ("vfs", value) => .ok { l with vfs := some value }
  | (name, _) => .error (.unknownParameter name)

/-- The location that a URL names. -/
def ofUrl (url : String) : Except LocationFault Location := do
  let cs := url.toList
  let cs := dropStarts "sqlite://".toList cs.length cs
  let cs := dropStarts "sqlite:".toList cs.length cs
  let (file, params) := Text.cut '?' cs
  let location ←
    if String.ofList file = ":memory:" then .ok { inMemory := true }
    else (decoded (Text.percentBytes file)).map fun path => { path }
  (parameters (params.getD [])).foldlM withParameter location

end Location
end FlowView
