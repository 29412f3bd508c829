import FlowView.Event
import FlowView.Text.Blank
import FlowView.Text.Split
/-!
# Intake

Lines of input as batches of events. A line is one event or a list of events. A list is a batch by
itself; single events are gathered into batches of a given size, which a list or the end of the input
closes early. Blank lines are nothing, and a line that is neither is noted by its number.
-/

namespace FlowView

/-- What a line of input holds. -/
inductive InputLine
  | blank
  | single (e : Event)
  | batch (es : List Event)
  | unparseable

/-- What comes out of the lines, in order. -/
inductive Intake
  | batch (es : List Event)
  | unparseable (line : Nat)

namespace InputLine

/-- The events of a document that is a list of events. -/
def batch? : Document → Option (List Event)
  | .arr ds => ds.mapM fun d => (Event.ofDocument d).toOption
  | _ => none

/-- Reads a line. A list is a batch if all its items are events, and otherwise may be one event by the
places of its fields. -/
def ofChars (cs : List Char) : InputLine :=
  let text := Text.trim cs
  if text.isEmpty then .blank
  else
    match Document.ofText? (String.ofList text) with
    | none => .unparseable
    | some d =>
      match batch? d with
      | some es => .batch es
      | none =>
        match Event.ofDocument d with
        | .ok e => .single e
        | .error _ => .unparseable

end InputLine

namespace Intake

/-- Puts gathered events before what follows, if there are any. -/
def flush (es : List Event) (rest : List Intake) : List Intake :=
  if es.isEmpty then rest else .batch es :: rest

/-- Groups lines, the first of which has this number, after events that are gathered already. -/
def group (size : Nat) : (number : Nat) → (pending : List Event) → List InputLine → List Intake
  | _, pending, [] => flush pending []
  | n, pending, .blank :: ls => group size (n + 1) pending ls
  | n, pending, .single e :: ls =>
    if size ≤ pending.length + 1 then flush (pending ++ [e]) (group size (n + 1) [] ls)
    else group size (n + 1) (pending ++ [e]) ls
  | n, pending, .batch es :: ls => flush pending (flush es (group size (n + 1) [] ls))
  | n, pending, .unparseable :: ls => .unparseable n :: group size (n + 1) pending ls

/-- The lines of a text; a last line may lack its end. -/
def lines (text : List Char) : List (List Char) :=
  let parts := Text.parts '\n' text
  if parts.getLast? = some [] then parts.dropLast else parts

/-- What comes out of a text. -/
def ofText (size : Nat) (text : String) : List Intake :=
  group size 1 [] ((lines text.toList).map InputLine.ofChars)

end Intake
end FlowView
