import Collage.ComposeError
import Collage.Config

/-! # Reports

What a user is told when something fails: the failure with all of its causes, the way to the
template that fails, and what to do about it.
-/

namespace Collage

/-- What can fail for a user. -/
inductive Problem where
  | compose (e : ComposeError)
  | config (e : ConfigError)
  | io (e : IoError)
  | json (fault : Json.ReadError)
  | plain (text : String)

/-- What a user is told. -/
structure Report where
  message : String
  details : Option String
  suggestion : Option String
  deriving DecidableEq, Repr

/-- The texts of a failure of composition and of its causes, outermost first. -/
def ComposeError.causes : ComposeError → List String
  | .io e => [e.text]
  | .merge definition template cause =>
    [(ComposeError.merge definition template cause).text, cause.text]
  | .parse name cause => [(ComposeError.parse name cause).text, cause.text]
  | .execute name cause => [(ComposeError.execute name cause).text, cause.text]
  | .encoding name defect => [(ComposeError.encoding name defect).text, defect.text]
  | .data fault => [(ComposeError.data fault).text, fault.text]
  | .directive kind reference parent cause =>
    (ComposeError.directive kind reference parent cause).text :: cause.causes
  | .recursive name => [(ComposeError.recursive name).text]
  | .duplicateLayout name => [(ComposeError.duplicateLayout name).text]

namespace Problem

/-- The texts of a problem and of its causes, outermost first. -/
def causes : Problem → List String
  | compose e => e.causes
  | config e => [e.text, e.causeText]
  | io e => [e.text]
  | json fault => [fault.text]
  | plain text => [text]

end Problem

namespace Report

/-- A message with one more text, unless it ends with it already. -/
def addCause (message text : String) : String :=
  if text.toList.isSuffixOf message.toList then message
  else if message = "" then text
  else message ++ ": " ++ text

/-- Texts in one message, outermost first; a text that the message ends with is not repeated. -/
def chainMessage (texts : List String) : String := texts.foldl addCause ""

/-- What to do about a failure of reading. -/
def adviceOnIo (e : IoError) : Option String :=
  match e.kind with
  | .notFound =>
    some "Check the template name and the template root (--root or `root` in the config)"
  | .permissionDenied =>
    some "Template names must stay inside the template root and be readable"
  | _ => none

/-- What to do about a failure that is inside all directives. -/
def adviceOnRoot : ComposeError → Option String
  | .io e => adviceOnIo e
  | .recursive name =>
    some ("`" ++ name ++ "` includes or layouts itself; move the shared part into its own template")
  | .duplicateLayout name => some ("Keep a single `layout` directive in `" ++ name ++ "`")
  | .merge definition template _ =>
    some ("Declare `\x7b\x7b define \"" ++ definition ++
      "\" \x7d\x7d...\x7b\x7b end \x7d\x7d` in `" ++ template ++ "`")
  | .parse _ _ => some "Check the template syntax near the reported location"
  | .execute _ _ | .data _ =>
    some "Check that the render data provides every value the template uses"
  | .encoding _ _ => some "Save the template as UTF-8"
  | .directive .. => none

/-- The way to the template that fails, if a directive led there. -/
def pathTo (e : ComposeError) : Option String :=
  match e with
  | .directive .. => some ("resolution path: " ++ " -> ".intercalate e.chain)
  | _ => none

/-- What to do about a configuration. -/
def adviceOnConfig : ConfigError → String
  | .read _ _ => "Check the --config path or unset the TCOMPOSE_CONFIG variable"
  | .parse _ _ | .invalid _ =>
    "Only `root` and `cache = \"enabled\" | \"disabled\"` are recognized"

/-- What to do about a problem. -/
def adviceOn : Problem → Option String
  | .compose e => adviceOnRoot e.root
  | .config e => some (adviceOnConfig e)
  | .io e => adviceOnIo e
  | .json _ | .plain _ => none

/-- The way to what a problem is about. -/
def detailsOf : Problem → Option String
  | .compose e => pathTo e
  | _ => none

/-- The report on a problem that was met while doing something, told by `contexts` outermost
first. -/
def ofProblem (contexts : List String) (p : Problem) : Report :=
  ⟨chainMessage (contexts ++ p.causes), detailsOf p, adviceOn p⟩

def text (r : Report) : String :=
  r.message ++ (r.details.map ("\nDetails: " ++ ·)).getD "" ++
    (r.suggestion.map ("\nSuggestion: " ++ ·)).getD ""

def shown (r : Report) : String :=
  "error: " ++ r.message ++ "\n" ++
    (r.details.map fun d => "details: " ++ d ++ "\n").getD "" ++
    (r.suggestion.map fun s => "suggestion: " ++ s ++ "\n").getD ""

end Report

end Collage
