import FlowView.Text.Printable
/-!
# Quoted texts in messages

A message shows a text between quotes, with a backslash before a quote or a backslash, a letter for
the tab, the line ends and the zero character, and the code point in braces for every other character
that has no visible form.
-/

namespace FlowView.Text

/-- How a character stands inside a quoted text. -/
def quotedChar (c : Char) : List Char :=
  if c = '"' then ['\\', '"']
  else if c = '\\' then ['\\', '\\']
  else if c.toNat = 0 then ['\\', '0']
  else if c = '\t' then ['\\', 't']
  else if c = '\n' then ['\\', 'n']
  else if c = '\r' then ['\\', 'r']
  else if isPrintable c then [c]
  else '\\' :: 'u' :: '{' :: (Nat.toDigits 16 c.toNat ++ ['}'])

/-- A text in quotes, all on one line. -/
def quoted (s : String) : String := String.ofList ('"' :: (s.toList.flatMap quotedChar ++ ['"']))

end FlowView.Text
