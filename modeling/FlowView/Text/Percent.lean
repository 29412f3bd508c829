import FlowView.Text.Digits
import FlowView.Text.Utf8
/-!
# Percent signs for bytes

In a URL a percent sign and two digits of base sixteen stand for a byte. A percent sign that no such
digits follow stands for itself.
-/

namespace FlowView.Text

/-- The bytes of a text in which a percent sign and two digits stand for a byte. -/
def percentBytes : List Char → List Nat
  | '%' :: a :: b :: rest =>
    match hexValue? a, hexValue? b with
    | some h, some l => (h * 16 + l) :: percentBytes rest
    | _, _ => 0x25 :: percentBytes (a :: b :: rest)
  | c :: rest => utf8Bytes (String.singleton c) ++ percentBytes rest
  | [] => []

end FlowView.Text
