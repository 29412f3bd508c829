/-!
# Splitting a text

The parts of a text, or of its bytes, between the occurrences of one character. There is always one part
more than there are occurrences, so an empty text has one empty part.
-/

namespace FlowView.Text

variable {α : Type} [DecidableEq α]

/-- The parts of a text between the occurrences of a character. -/
def parts (sep : α) (cs : List α) : List (List α) :=
  cs.foldr
    (fun c found =>
      if c = sep then [] :: found
      else match found with
        | [] => [[c]]
        | part :: rest => (c :: part) :: rest)
    [[]]

/-- The part before the first occurrence of a character, and all behind it if it occurs. -/
def cut (sep : α) (cs : List α) : List α × Option (List α) :=
  match cs.dropWhile (· ≠ sep) with
  | [] => (cs, none)
  | _ :: rest => (cs.takeWhile (· ≠ sep), some rest)

/-- The part before the last occurrence of a character, if it occurs, and all behind it. -/
def cutLast (sep : α) (cs : List α) : Option (List α) × List α :=
  match cut sep cs.reverse with
  | (behind, before) => (before.map List.reverse, behind.reverse)

end FlowView.Text
