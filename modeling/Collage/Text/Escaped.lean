/-! # Text inside HTML

The characters that HTML reads as markup, or that end an attribute, are written as references.
-/

namespace Collage.Text

/-- A character as it stands in HTML text. -/
def markupChar (c : Char) : List Char :=
  if c = '&' then "&amp;".toList
  else if c = '<' then "&lt;".toList
  else if c = '>' then "&gt;".toList
  else if c = '"' then "&quot;".toList
  else if c = '\'' then "&#x27;".toList
  else if c = '/' then "&#x2F;".toList
  else [c]

/-- A text as it stands in HTML. -/
def escaped (text : String) : String := String.ofList (text.toList.flatMap markupChar)

end Collage.Text
