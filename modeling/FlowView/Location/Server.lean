import FlowView.Location
import FlowView.Location.Address
/-!
# Locations of servers

The URL of a database that a server keeps: a user with a password, a host with a port, the database's
name and parameters. The faults are looked for from the front of the URL to its end, and only then in
what its parts say.
-/

namespace FlowView

namespace Location

/-- The characters that end a host and all that belongs to it. -/
def endsHost (c : Char) : Bool := c = '/' || c = '?' || c = '#'

/-- The URL behind its scheme. Tabs and line ends count nowhere, blanks not at the end. -/
def behindScheme (url : String) : List Char :=
  let cs := url.toList.filter fun c => c ≠ '\t' ∧ c ≠ '\n' ∧ c ≠ '\r'
  let cs := (cs.reverse.dropWhile (· ≤ ' ')).reverse
  (cs.dropWhile (· ≠ ':')).drop 3

/-- The host, up to a colon outside of brackets, and the rest. -/
def splitHost : (bracketed : Bool) → List Char → List Char × List Char
  | _, [] => ([], [])
  | bracketed, c :: cs =>
    if endsHost c || (c = ':' && !bracketed) then ([], c :: cs)
    else
      let (host, rest) := splitHost (c = '[' || (bracketed && c ≠ ']')) cs
      (c :: host, rest)

/-- The characters that no host has. -/
def isBarred (c : Char) : Bool :=
  c ∈ [' ', '<', '>', '@', '[', '\\', ']', '^', '|'] || c.toNat = 0

def checkHost (host : List Char) : Except LocationFault Unit :=
  match host with
  | '[' :: inner =>
    if inner.getLast? = some ']' ∧ Address.isLong inner.dropLast then .ok () else .error .badAddress
  | _ => if host.any isBarred then .error .badHost else .ok ()

/-- The port at the front, if its digits are not left out, and what is behind it. -/
def readPort (cs : List Char) : Except LocationFault (Option Nat × List Char) :=
  let (digits, rest) := (cs.takeWhile Char.isDigit, cs.dropWhile Char.isDigit)
  let ended := rest.head?.all fun c => endsHost c || c = '\\'
  let port := Text.ofDigits (digits.map Text.digitValue)
  if ended && port < UInt16.size then .ok (if digits.isEmpty then none else some port, rest)
  else .error .badPort

/-- Does a name in a path stand for the directory itself, or for the one above it? -/
def dots? (name : List Char) : Option Nat :=
  match Text.percentBytes name with
  | [0x2e] => some 1
  | [0x2e, 0x2e] => some 2
  | _ => none

/-- The names of a path when those that go nowhere or back are carried out. -/
def pathNames (names : List (List Char)) : List (List Char) :=
  match names.reverse with
  | [] => []
  | last :: before =>
    let go (done : List (List Char)) (name : List Char) := match dots? name with
      | some 1 => done
      | some _ => done.dropLast
      | none => done ++ [name]
    let kept := (before.reverse ++ [last]).foldl go []
    if (dots? last).isSome then kept ++ [[]] else kept

/-- The database's name in a path. -/
def pathText (path : List Char) : List Char :=
  (['/'].intercalate (pathNames (Text.parts '/' path))).dropWhile (· = '/')

/-- The ways in which the connection may be secured. -/
def securities : List String :=
  ["disable", "allow", "prefer", "require", "verify-ca", "verify-full"]

end Location

/-- A server: its host and port, or the directory of the socket that it has on this machine. -/
structure Server where
  host : String := "localhost"
  port : Nat := 5432
  socket : Option String := none
  deriving DecidableEq, Repr

namespace Server

open Location

/-- What one parameter changes. -/
def withParameter (s : Server) : String × String → Except LocationFault Server
  | (name, value) =>
    let number (bound : Nat) : Except LocationFault Nat :=
      match Numeral.read bound value.toList with
      | .ok n => .ok n
      | .error fault => .error (.notNumber fault)
    if name = "sslmode" ∨ name = "ssl-mode" then
      if String.ofList (value.toList.map Char.toLower) ∈ securities then .ok s
      else .error (.unknownSecurity value)
    else if name = "statement-cache-capacity" then (number UInt64.size).map fun _ => s
    else if name = "host" then
      .ok (if startsWith value "/" then { s with socket := some value } else { s with host := value })
    else if name = "hostaddr" then
      if Address.isShort value.toList ∨ Address.isLong value.toList then .ok { s with host := value }
      else .error .notAddress
    else if name = "port" then (number UInt16.size).map fun port => { s with port }
    else .ok s

/-- The host that a URL names. A name that begins with a slash, written with a percent sign, is the
directory of a socket. -/
def withHost (s : Server) (host : List Char) : Except LocationFault Server :=
  let bytes := Text.percentBytes host
  if bytes.head? = some 0x2f then
    (decoded bytes).map fun path => { s with socket := some path }
  else .ok (if host.isEmpty then s else { s with host := String.ofList host })

/-- The server of a URL. What the URL does not say is as it was. -/
def ofUrl (s : Server) (url : String) : Except LocationFault Server := do
  let all := behindScheme url
  let authority := all.takeWhile fun c => !endsHost c
  let (user, _) := Text.cutLast '@' authority
  let rest := match user with
    | some user => all.drop (user.length + 1)
    | none => all
  let (name, password) := Text.cut ':' (user.getD [])
  let password := password.getD []
  if user = some [] ∧ (rest.head?.map endsHost) = some true then .error .emptyHost
  let (host, rest) := splitHost false rest
  checkHost host
  let (port, rest) ← match rest with
    | ':' :: cs => if host.isEmpty then .error .emptyHost else readPort cs
    | _ => .ok (none, rest)
  if host.isEmpty ∧ ¬(name.isEmpty ∧ password.isEmpty) then .error .emptyHost
  let (path, query) := Text.cut '?' (rest.takeWhile (· ≠ '#'))
  let s ← s.withHost host
  discard (decoded (Text.percentBytes name))
  discard (decoded (Text.percentBytes password))
  discard (decoded (Text.percentBytes (pathText path)))
  (parameters (query.getD [])).foldlM withParameter { s with port := port.getD s.port }

/-! ## What the environment says -/

def addressVariable : String := "PGHOSTADDR"

def hostVariable : String := "PGHOST"

def portVariable : String := "PGPORT"

/-- The server that an environment names for URLs that do not. -/
def ofEnv (env : String → Option String) : Server :=
  let usual : Server := {}
  let port := (env portVariable).bind fun text => (Numeral.read UInt16.size text.toList).toOption
  { host := ((env addressVariable) <|> (env hostVariable)).getD usual.host
    port := port.getD usual.port }

/-! ## Names of hosts -/

/-- The path of the server's socket, if it has one. -/
def socketPath? (s : Server) : Option String :=
  (s.socket <|> if startsWith s.host "/" then some s.host else none).map fun directory =>
    directory ++ s!"/.s.PGSQL.{s.port}"

/-- The host without the brackets around an address. -/
def hostName (s : Server) : List Char :=
  let bracket (c : Char) : Bool := c = '[' || c = ']'
  ((s.host.toList.dropWhile bracket).reverse.dropWhile bracket).reverse

/-- Is this this machine, or an address? -/
def isKnown (host : List Char) : Bool :=
  String.ofList (host.map Char.toLower) = "localhost" || Address.isShort host || Address.isLong host

/-- Can this be the name of a host? Its labels have one to 63 letters, digits, hyphens and underscores,
and a dot may end it. -/
def isName (host : List Char) : Bool :=
  let labels := Text.parts '.' host
  let labels := if labels.getLast? = some [] then labels.dropLast else labels
  let isLabel (cs : List Char) : Bool :=
    !cs.isEmpty && cs.length ≤ 63 && cs.all fun c => c.isAlphanum || c = '-' || c = '_'
  labels.all isLabel && !host.isEmpty && host.head? ≠ some '-' && host.length ≤ 253

end Server
end FlowView
