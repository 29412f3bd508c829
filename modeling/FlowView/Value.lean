import FlowView.Json.Reader
import FlowView.Json.Writer
/-!
# Stored values

A table holds a JSON value as its text, and null as no text at all.
-/

namespace FlowView.Value

/-- The text that a table holds for a value. -/
def encode (v : Json) : Option String := if v.isNull then none else some v.text

/-- The value that a table holds as a text. -/
def decode? : Option String → Option Json
  | none => some .null
  | some text => Json.read? text

/-- The longest message that is kept of an error, in characters. -/
def messageLimit : Nat := 255

/-- The part of a message that is kept. -/
def shorten (message : String) : String := String.ofList (message.toList.take messageLimit)

end FlowView.Value
