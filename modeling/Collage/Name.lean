/-! # Template names

A template is known by a name that looks like a file path.  Many spellings mean the same template:
`Name.normalize` picks one of them.  It works on the text alone and never looks at a file system.

A name is cut at its slashes into segments; `Name.keep` says what each segment does to the ones
kept before it.
-/

namespace Collage.Name

/-- Backslashes separate segments as slashes do. -/
def unify (name : List Char) : List Char :=
  name.map fun c => if c = '\\' then '/' else c

/-- What one segment does to the segments kept so far, the last of them first.  An empty segment
and `.` do nothing.  `..` takes back the segment before it; where there is none to take back it is
kept in a relative name and does nothing at the root. -/
def keep (rooted : Bool) (kept : List (List Char)) (segment : List Char) : List (List Char) :=
  if segment = [] ∨ segment = ['.'] then kept
  else if segment = ['.', '.'] then
    match kept with
    | last :: before =>
      if last ≠ ['.', '.'] then before else if rooted then kept else segment :: kept
    | [] => if rooted then [] else [segment]
  else segment :: kept

/-- The segments of a name's normal form, the first of them first. -/
def segmentsOf (name : List Char) : List (List Char) :=
  let unified := unify name
  let rooted := unified.head? = some '/'
  ((unified.splitOn '/').foldl (keep rooted) []).reverse

def segments (name : String) : List String :=
  (segmentsOf name.toList).map String.ofList

/-- Segments written with a slash between each two, and `.` for no segments. -/
def join (segments : List (List Char)) : List Char :=
  if segments = [] then ['.'] else ['/'].intercalate segments

/-- The one spelling that stands for all spellings of a template's name: no empty segment, no `.`
between others, and `..` only at the front. -/
def normalize (name : String) : String :=
  String.ofList (join (segmentsOf name.toList))

end Collage.Name
