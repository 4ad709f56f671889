/-! # A text inside another one

Where a text occurs in another one, and putting something else in its place.  Occurrences are taken
from left to right and do not overlap.  The empty text occurs before every character and at the end.
-/

namespace Collage.Text

def occursIn (part : List Char) : List Char → Bool
  | [] => part.isEmpty
  | c :: text => part.isPrefixOf (c :: text) || occursIn part text

/-- A text with every occurrence of a part replaced; the next `skipped` characters belong to one
that was replaced already. -/
def replaceFrom (part replacement : List Char) (skipped : Nat) : List Char → List Char
  | [] => if part.isEmpty then replacement else []
  | c :: text =>
    match skipped with
    | skipped + 1 => replaceFrom part replacement skipped text
    | 0 =>
      if part.isEmpty then replacement ++ c :: replaceFrom part replacement 0 text
      else if part.isPrefixOf (c :: text) then
        replacement ++ replaceFrom part replacement (part.length - 1) text
      else c :: replaceFrom part replacement 0 text

/-- A text with every occurrence of a part replaced. -/
def replace (part replacement text : String) : String :=
  String.ofList (replaceFrom part.toList replacement.toList 0 text.toList)

end Collage.Text
