import FlowView.Text.Split
import FlowView.Text.Utf8
/-!
# Paths

A path is names with slashes between them, taken from the working directory unless it begins with a
slash. On the disk a name is a string of bytes.
-/

namespace FlowView

/-- The bytes of a name on the disk. -/
abbrev FileName := List Nat

/-- The names on the way from the top to a place. -/
abbrev Place := List FileName

/-- Why nothing can be found or made at a path. -/
inductive PathFault
  | missing
  | exists
  | notDirectory
  /-- A name, or the whole path, has too many bytes. -/
  | tooLong
  /-- A zero byte stands in the path. -/
  | zeroByte
  deriving DecidableEq, Repr

def PathFault.message : PathFault → String
  | .missing => "No such file or directory (os error 2)"
  | .exists => "File exists (os error 17)"
  | .notDirectory => "Not a directory (os error 20)"
  | .tooLong => "File name too long (os error 36)"
  | .zeroByte => "file name contained an unexpected NUL byte"

namespace FileName

/-- The name by which a directory names itself. -/
def self : FileName := [0x2e]

/-- The name by which a directory names the one it stands in. -/
def up : FileName := [0x2e, 0x2e]

/-- The most bytes that a name may have. -/
def limit : Nat := 255

end FileName

namespace Path

/-- The most bytes that a path may have, and one more. -/
def limit : Nat := 4096

/-- The names in the bytes of a path. -/
def names (bytes : List Nat) : List FileName := Text.parts 0x2f bytes

def isAbsolute (bytes : List Nat) : Bool := bytes.head? = some 0x2f

/-- Takes names off the end that name nothing further. The first name of a path stays. -/
def trimEnd : List String → List String
  | [] => []
  | first :: rest => first :: (rest.reverse.dropWhile fun s => s = "" ∨ s = ".").reverse

/-- The directory that a path's last name stands in, if the path has a last name. -/
def parent? (path : String) : Option String :=
  if path = "" then none
  else
    match trimEnd ((Text.parts '/' path.toList).map String.ofList) with
    | [] => none
    | [only] => if only = "" then none else some ""
    | all =>
      match trimEnd all.dropLast with
      | [""] => some "/"
      | kept => some ("/".intercalate kept)

/-- The bytes of the path from the top to a place. -/
def size (place : Place) : Nat := place.foldl (fun n name => n + 1 + name.length) 0

end Path
end FlowView
