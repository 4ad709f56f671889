import Collage.Library.Basic
import Collage.Text.Blank
import Collage.Text.Case
import Collage.Text.Escaped
import Collage.Text.Occurrence

/-! # The filters of the template language

Every template can use these, whatever its library holds; a filter of the library takes the place of
the one of its name.  The filters `safe` and `default` are part of the language's rules for values
and not found here.  `rendered` is the text of a value where it is written into the output.
-/

namespace Collage.Template

mutual

/-- The text a value is written as; no number is written with an exponent. -/
def rendered : Json → String
  | .null => ""
  | .bool b => toString b
  | .number n => n.textIn .expanded
  | .string s => s
  | .array items => "[" ++ ", ".intercalate (renderedItems items) ++ "]"
  | .object _ => "[object]"

def renderedItems : List Json → List String
  | [] => []
  | item :: items => rendered item :: renderedItems items

end

namespace Standard

/-- A filter on texts. -/
def onText (name : String) (f : String → Json) : Filter where
  apply value _ :=
    match value with
    | .string s => .ok (f s)
    | _ => .error (.unsuitable name value "String")

/-- A filter on lists. -/
def onList (name : String) (f : List Json → Json) : Filter where
  apply value _ :=
    match value with
    | .array items => .ok (f items)
    | _ => .error (.unsuitable name value "Vec<Value>")

def length : Filter where
  apply value _ :=
    match value with
    | .array items => .ok (.ofNat items.length)
    | .object fields => .ok (.ofNat fields.length)
    | .string s => .ok (.ofNat s.length)
    | _ => .error .noLength

/-- A text without the blanks at its ends. -/
def trimmed (s : String) : String := String.ofList (Text.trim s.toList)

/-- The separator of a list: line breaks and tabs in it may be written as escapes. -/
def separator (args : Arguments) : Except Refusal String :=
  match args.lookup "sep" with
  | none => .ok ""
  | some (.string s) => .ok (Text.replace "\\t" "\t" (Text.replace "\\n" "\n" s))
  | some other => .error (.unsuitableArgument "truncate" "sep" other "String")

def join : Filter where
  apply value args := do
    match value with
    | .array items => .ok (.string ((← separator args).intercalate (renderedItems items)))
    | _ => .error (.unsuitable "join" value "Vec<Value>")

/-- The text an argument has to be. -/
def replaceArgument (name : String) (args : Arguments) : Except Refusal String :=
  match args.lookup name with
  | some (.string s) => .ok s
  | some other => .error (.unsuitableArgument "replace" name other "String")
  | none => .error (.lacks "replace" name)

/-- A text with one part in place of another one. -/
def replace : Filter where
  apply value args := do
    match value with
    | .string s =>
      let part ← replaceArgument "from" args
      let replacement ← replaceArgument "to" args
      .ok (.string (Text.replace part replacement s))
    | _ => .error (.unsuitable "replace" value "String")

def filters : List (String × Filter) :=
  [("upper", onText "upper" fun s => .string (Text.Case.upper s)),
    ("lower", onText "lower" fun s => .string (Text.Case.lower s)),
    ("trim", onText "trim" fun s => .string (trimmed s)),
    ("length", length),
    ("first", onList "first" fun items => items.head?.getD (.string "")),
    ("last", onList "last" fun items => items.getLast?.getD (.string "")),
    ("join", join),
    ("replace", replace),
    ("escape", onText "escape_html" fun s => .string (Text.escaped s))]

end Standard

/-- The filter a name means in templates with a library. -/
def filter? (l : Library) (name : String) : Option Filter :=
  match l.filters.lookup name with
  | some f => some f
  | none => Standard.filters.lookup name

end Collage.Template
