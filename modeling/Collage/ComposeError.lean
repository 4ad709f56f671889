import Collage.Artifact
import Collage.Directive.Basic
import Collage.IoError
import Collage.Text.Utf8

/-! # Failures of composition

A template fails by itself, or because a template fails that one of its directives refers to.  In
the second case the failure is wrapped once for each directive on the way, so it reads from the
template that was asked for inwards.  `ComposeError.root` is the failure inside all wrappers and
`ComposeError.chain` the templates on the way to it.
-/

namespace Collage

/-- Why a template cannot be composed or rendered. -/
inductive ComposeError where
  | io (e : IoError)
  /-- It refers, directly or through others, to itself. -/
  | recursive (name : String)
  | duplicateLayout (name : String)
  /-- A template it includes does not declare what is taken from it. -/
  | merge (definition template : String) (cause : ArtifactError)
  /-- Its text does not compile. -/
  | parse (name : String) (cause : ArtifactError)
  | execute (name : String) (cause : ArtifactError)
  /-- Its bytes are no text. -/
  | encoding (name : String) (defect : Text.Utf8.Defect)
  | data (fault : Json.ReadError)
  /-- A directive of `parent` refers to a template that fails. -/
  | directive (kind : Directive.Kind) (reference parent : String) (cause : ComposeError)

namespace ComposeError

def text : ComposeError → String
  | io e => e.text
  | recursive name => "cannot resolve `" ++ name ++ "` recursively"
  | duplicateLayout name => "'layout' directive cannot be performed twice in `" ++ name ++ "`"
  | merge definition template cause =>
    "could not attach definition `" ++ definition ++ "` to `" ++ template ++ "`: " ++ cause.text
  | parse name cause => "could not parse `" ++ name ++ "`: " ++ cause.text
  | execute name cause => "could not execute `" ++ name ++ "`: " ++ cause.text
  | encoding name defect => "template `" ++ name ++ "` is not valid UTF-8: " ++ defect.text
  | data fault => "could not serialize render data: " ++ fault.text
  | directive kind reference parent cause =>
    "could not resolve directive `" ++ kind.text ++ "` `" ++ reference ++ "` of `" ++ parent ++
      "`: " ++ cause.text

/-- The failure inside all directives. -/
def root : ComposeError → ComposeError
  | directive _ _ _ cause => cause.root
  | e => e

/-- The name of the template that a failure is about, as far as it tells. -/
def subject? : ComposeError → Option String
  | recursive name | duplicateLayout name | parse name _ | execute name _ | encoding name _ =>
    some name
  | merge _ template _ => some template
  | io _ | data _ | directive .. => none

/-- The names of the templates from the outermost one down to the one that fails. -/
def chain : ComposeError → List String
  | directive _ _ parent cause => parent :: cause.chain
  | e => e.subject?.toList

/-- The failure of reading that is behind it all, if one is. -/
def ioError? (e : ComposeError) : Option IoError :=
  match e.root with
  | io cause => some cause
  | _ => none

def isNotFound (e : ComposeError) : Bool := e.ioError?.any (·.kind = .notFound)

/-- Whether templates refer to one another in a circle. -/
def isRecursive (e : ComposeError) : Bool :=
  match e.root with
  | recursive _ => true
  | _ => false

end ComposeError

end Collage
