import Collage.Text.Extender
import Collage.Text.Unprintable

/-! # Quoted texts

A text in quotes as diagnostics show it: quotes and backslashes are escaped, and so are characters
that cannot be printed or seen by themselves.
-/

namespace Collage.Text

/-- The hexadecimal digits of a number, without zeros in front. -/
def hexDigits (n : Nat) : String := String.ofList (Nat.toDigits 16 n)

/-- Whether a character is shown by its number: it has no shape, or none without the character
before it.  The sound marks U+FF9E and U+FF9F extend characters but have a width of their own. -/
def isHidden (c : Char) : Bool :=
  isUnprintable c || (isExtender c && c ≠ '\uFF9E' && c ≠ '\uFF9F')

def quoteChar (c : Char) : String :=
  if c = '"' then "\\\""
  else if c = '\\' then "\\\\"
  else if c = '\n' then "\\n"
  else if c = '\r' then "\\r"
  else if c = '\t' then "\\t"
  else if c = '\x00' then "\\0"
  else if isHidden c then "\\u\x7b" ++ hexDigits c.toNat ++ "\x7d"
  else c.toString

def quoted (s : String) : String :=
  "\"" ++ String.join (s.toList.map quoteChar) ++ "\""

def quotedList (texts : List String) : String :=
  "[" ++ ", ".intercalate (texts.map quoted) ++ "]"

end Collage.Text
