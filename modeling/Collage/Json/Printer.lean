import Collage.Json.Basic

/-! # Writing JSON

A value is written on one line without blanks, or with an indentation: then every item and every
field stands on a line of its own, one indentation deeper than the brackets around it.
-/

namespace Collage.Json

inductive Layout where
  | compact
  /-- On lines of their own, with an indentation for each level. -/
  | indented (unit : List Char)
  deriving DecidableEq, Repr

def hexDigit (n : Nat) : Char := Nat.digitChar n

/-- A character inside a string literal: quotes, backslashes and control characters are escaped. -/
def escapeChar (c : Char) : List Char :=
  if c = '"' then ['\\', '"']
  else if c = '\\' then ['\\', '\\']
  else if c = '\x08' then ['\\', 'b']
  else if c = '\x0c' then ['\\', 'f']
  else if c = '\n' then ['\\', 'n']
  else if c = '\r' then ['\\', 'r']
  else if c = '\t' then ['\\', 't']
  else if c.toNat < 0x20 then
    ['\\', 'u', '0', '0', hexDigit (c.toNat / 16), hexDigit (c.toNat % 16)]
  else [c]

def quote (s : List Char) : List Char := '"' :: s.flatMap escapeChar ++ ['"']

/-- The start of a line at a depth. -/
def newLine (layout : Layout) (depth : Nat) : List Char :=
  match layout with
  | .compact => []
  | .indented unit => '\n' :: (List.replicate depth unit).flatten

/-- What stands between a field's name and its value. -/
def colon : Layout → List Char
  | .compact => [':']
  | .indented _ => [':', ' ']

mutual

def write (layout : Layout) (depth : Nat) : Json → List Char
  | null => ['n', 'u', 'l', 'l']
  | bool true => ['t', 'r', 'u', 'e']
  | bool false => ['f', 'a', 'l', 's', 'e']
  | number n => n.text.toList
  | string s => quote s.toList
  | array [] => ['[', ']']
  | array (item :: items) =>
    '[' :: newLine layout (depth + 1) ++ write layout (depth + 1) item ++
      (writeItems layout (depth + 1) items ++ newLine layout depth ++ [']'])
  | object [] => ['{', '}']
  | object ((name, value) :: fields) =>
    '{' :: newLine layout (depth + 1) ++ quote name.toList ++ colon layout ++
      write layout (depth + 1) value ++
      (writeFields layout (depth + 1) fields ++ newLine layout depth ++ ['}'])

/-- The items after the first one. -/
def writeItems (layout : Layout) (depth : Nat) : List Json → List Char
  | [] => []
  | item :: items =>
    ',' :: newLine layout depth ++ write layout depth item ++ writeItems layout depth items

/-- The fields after the first one. -/
def writeFields (layout : Layout) (depth : Nat) : List (String × Json) → List Char
  | [] => []
  | (name, value) :: fields =>
    ',' :: newLine layout depth ++ quote name.toList ++ colon layout ++ write layout depth value ++
      writeFields layout depth fields

end

def print (layout : Layout) (value : Json) : String := String.ofList (write layout 0 value)

def compact (value : Json) : String := print .compact value

end Collage.Json
