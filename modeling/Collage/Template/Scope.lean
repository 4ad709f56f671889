import Collage.Template.Fault
import Collage.Text.Occurrence
import Collage.Text.Size

/-! # The variables a definition sees

Variables live in frames: one for the template that is rendered, one for each definition embedded
in it and one for each loop.  A name is sought from the innermost frame out and last in the data the
template is rendered with.  A frame's own variables come before the variables of its loop.
-/

namespace Collage.Template

/-! ## Paths -/

/-- What is open where a path is cut into keys. -/
structure Quoting where
  single : Bool
  double : Bool
  escaped : Bool

namespace Quoting

def none : Quoting := ⟨false, false, false⟩

/-- Whether a character parts keys: a mark of either kind does, whatever is open, and a point where
nothing is.  No character does after a backslash. -/
def parts (q : Quoting) (c : Char) : Bool :=
  !q.escaped && (c = '"' || c = '\'' || (c = '.' && !q.single && !q.double))

/-- What is open after a character. -/
def after (q : Quoting) (c : Char) : Quoting :=
  if c = '\\' then { q with escaped := true }
  else
    ⟨q.single != (c = '\'' && !q.escaped), q.double != (c = '"' && !q.escaped), false⟩

end Quoting

/-- The text after the characters at its front that part keys, and what is open there. -/
def skipParting (q : Quoting) : List Char → List Char × Quoting
  | [] => ([], q)
  | c :: text => if q.parts c then skipParting (q.after c) text else (c :: text, q)

/-- The number of characters of a text up to the first one that parts keys, and what is open after
that one. -/
def keyLength? (q : Quoting) : List Char → Option (Nat × Quoting)
  | [] => none
  | c :: text =>
    if q.parts c then some (0, q.after c)
    else (keyLength? (q.after c) text).map fun (n, q) => (n + 1, q)

/-- The keys of a path.  A key ends where a character parts it from the next one, and the last key
at the end.  A key of so many characters is as many bytes long, and the next one begins a byte
later, so that characters of several bytes shorten it.  `fuel` bounds the number of keys. -/
def keysFrom : Nat → Quoting → List Char → List String
  | 0, _, _ => []
  | fuel + 1, q, text =>
    match skipParting q text with
    | ([], _) => []
    | (text, q) =>
      match keyLength? q text with
      | none => [String.ofList text]
      | some (length, q) =>
        match Text.cut? length text with
        | none => [String.ofList text]
        | some (key, rest) =>
          String.ofList key ::
            match Text.cut? 1 rest with
            | some (_, rest) => keysFrom fuel q rest
            | none => []

/-- The characters a key stands for: `~1` stands for a slash. -/
def unmasked (key : String) : String := Text.replace "~0" "~" (Text.replace "~1" "/" key)

def pathKeys (path : List Char) : List String := (keysFrom path.length .none path).map unmasked

/-- The place in a list that a key means: digits without a zero in front. -/
def place? (key : String) : Option Nat :=
  match key.toList with
  | [] => none
  | '0' :: _ :: _ => none
  | digits =>
    if digits.all (·.isDigit) then some (digits.foldl (fun n c => n * 10 + (c.toNat - 48)) 0)
    else none

/-- What a value holds under a key. -/
def child? (value : Json) (key : String) : Option Json :=
  match value with
  | .object fields => fields.lookup key
  | .array items => (place? key).bind (items[·]?)
  | _ => none

/-- What a value holds below some keys. -/
def descend? (value : Json) (keys : List String) : Option Json := keys.foldlM child? value

/-- A path cut at its first point. -/
def cutAtPoint (path : List Char) : List Char × Option (List Char) :=
  match path.dropWhile (· ≠ '.') with
  | _ :: rest => (path.takeWhile (· ≠ '.'), some rest)
  | [] => (path, none)

/-! ## Frames -/

structure Loop where
  key : Option String
  value : String
  entry : String × Json
  index : Nat
  last : Bool

/-- What a frame belongs to. -/
inductive FrameKind where
  | origin
  | embedded
  | loop (l : Loop)

/-- The variables of a template, an embedded definition or a loop. -/
structure Frame where
  kind : FrameKind
  active : String
  values : List (String × Json)

/-- What a loop says about itself. -/
def Loop.ownValue? (l : Loop) (name : String) : Option Json :=
  if name = "index" then some (.ofNat (l.index + 1))
  else if name = "index0" then some (.ofNat l.index)
  else if name = "first" then some (.bool (l.index = 0))
  else if name = "last" then some (.bool l.last)
  else none

/-- The value of a path in a loop.  The word `loop` names the loop itself, and no variable for the
values. -/
def Loop.find? (l : Loop) (path : List Char) : Option Json :=
  if some (String.ofList path) = l.key then some (.string l.entry.1)
  else
    match cutAtPoint path with
    | (head, rest) =>
      if head = "loop".toList then rest.bind fun rest => l.ownValue? (String.ofList rest)
      else if String.ofList head = l.value then
        match rest with
        | none => some l.entry.2
        | some rest => descend? l.entry.2 (pathKeys rest)
      else none

/-- The value of a path among some variables. -/
def findAmong? (values : List (String × Json)) (path : List Char) : Option Json :=
  match cutAtPoint path with
  | (head, none) => values.lookup (String.ofList head)
  | (head, some rest) =>
    (values.lookup (String.ofList head)).bind (descend? · (pathKeys rest))

def Frame.find? (f : Frame) (path : List Char) : Option Json :=
  match findAmong? f.values path, f.kind with
  | some v, _ => some v
  | none, .loop l => l.find? path
  | none, _ => none

/-- The variables a definition sees: its frames, innermost first, and the data. -/
structure Scope where
  frames : List Frame
  data : List (String × Json)

namespace Scope

def active (s : Scope) : String :=
  match s.frames with
  | f :: _ => f.active
  | [] => ""

def origin (s : Scope) : String := (s.frames.getLast?.map (·.active)).getD ""

def isInLoop (s : Scope) : Bool :=
  match s.frames with
  | ⟨.loop _, _, _⟩ :: _ => true
  | _ => false

def find? (s : Scope) (path : List Char) : Option Json :=
  match s.frames.findSome? (·.find? path) with
  | some v => some v
  | none => findAmong? s.data path

/-- Gives a variable a value in the innermost frame. -/
def set (s : Scope) (name : String) (value : Json) : Scope :=
  match s.frames with
  | f :: rest => { s with frames := { f with values := (name, value) :: f.values } :: rest }
  | [] => s

/-- Gives a variable a value in the innermost of some frames that is no loop's. -/
def setOutside (name : String) (value : Json) : List Frame → List Frame
  | [] => []
  | f :: rest =>
    match f.kind with
    | .loop _ => f :: setOutside name value rest
    | _ => { f with values := (name, value) :: f.values } :: rest

/-- Gives a variable a value in the innermost frame that is no loop's. -/
def setGlobal (s : Scope) (name : String) (value : Json) : Scope :=
  { s with frames := setOutside name value s.frames }

def push (s : Scope) (f : Frame) : Scope := { s with frames := f :: s.frames }

def pop (s : Scope) : Scope := { s with frames := s.frames.tail }

end Scope

/-! ## Places in brackets -/

/-- The text up to the bracket that closes at `depth` brackets, and the text after it. -/
def untilClosed (depth : Nat) : List Char → List Char × List Char
  | [] => ([], [])
  | c :: text =>
    if c = ']' ∧ depth = 0 then ([], text)
    else
      let depth := if c = '[' then depth + 1 else if c = ']' then depth - 1 else depth
      let (inside, rest) := untilClosed depth text
      (c :: inside, rest)

/-- Whether what stands in brackets is the number of a place: digits, for a number that fits 64
bits. -/
def isPlaceNumber (inside : List Char) : Bool :=
  inside.all (·.isDigit) &&
    inside.foldl (fun n c => n * 10 + (c.toNat - '0'.toNat)) 0 < unsignedBound

/-- The paths that stand in brackets of a path, other than numbers and quoted texts.  `fuel` bounds
the brackets. -/
def innerPaths : Nat → List Char → List (List Char)
  | 0, _ => []
  | fuel + 1, path =>
    match path.dropWhile (· ≠ '[') with
    | [] => []
    | _ :: '"' :: rest | _ :: '\'' :: rest => innerPaths fuel rest
    | _ :: rest =>
      let (inside, rest) := untilClosed 0 rest
      if isPlaceNumber inside then innerPaths fuel rest else inside :: innerPaths fuel rest

/-- A path with a filling in place of the first occurrence of a bracketed part. -/
def fillPlace (bracketed filling : List Char) : List Char → List Char
  | [] => '.' :: filling
  | c :: path =>
    if bracketed.isPrefixOf (c :: path) then '.' :: filling ++ (c :: path).drop bracketed.length
    else c :: fillPlace bracketed filling path

/-- A path with points in place of brackets; slashes in it are masked. -/
def unbracketed (path : List Char) : List Char :=
  (["/", "['", "[\"", "[", "']", "\"]", "]"].zip ["~1", ".\"", ".\"", ".", "\"", "\"", ""]).foldl
    (fun text (part, replacement) => Text.replaceFrom part.toList replacement.toList 0 text) path

namespace Scope

/-- The text a place in brackets has in a path. -/
def placeText (place path : List Char) : Json → Except Fault (List Char)
  | .string s => .ok ('"' :: s.toList ++ ['"'])
  | .number n => .ok n.text.toList
  | _ => .error (.notPlace (String.ofList place) (String.ofList path))

/-- The value of a path; `depth` bounds how deep its brackets are nested. -/
def valueWithin (s : Scope) : Nat → List Char → Except Fault Json
  | 0, path => .error (.missing (String.ofList path) s.active none)
  | depth + 1, path =>
    if '[' ∈ path then do
      let filled ← (innerPaths path.length path).foldlM
        (fun text inside =>
          match valueWithin s depth inside with
          | .ok v => do .ok (fillPlace ('[' :: inside ++ [']']) (← placeText inside path v) text)
          | .error cause => .error (.placeFailed (String.ofList path) cause))
        path
      let found := unbracketed filled
      match s.find? found with
      | some v => .ok v
      | none => .error (.missing (String.ofList path) s.active (some (String.ofList found)))
    else
      match s.find? path with
      | some v => .ok v
      | none => .error (.missing (String.ofList path) s.active none)

def value (s : Scope) (path : String) : Except Fault Json :=
  s.valueWithin (path.length + 1) path.toList

end Scope

end Collage.Template
