import Collage.Json.Number
import Collage.Template.Expression
import Collage.Template.Marked

/-! # Reading a definition

`Template.read` reads a definition's source into its pieces.  Markup stands between doubled braces
(values), braces with a percent sign (tags) or with a number sign (comments); a dash inside the
braces trims the text on that side.

As many pieces as possible are read in a row; what stops them has to be the tag that the enclosing
piece goes on with, or the end.  `fuel`, the number of characters left, bounds both the pieces in a
row and their nesting.
-/

namespace Collage.Template

/-- Why a source cannot be read. -/
inductive ReadError where
  | syntaxError
  /-- An integer does not fit 64 bits. -/
  | integer (i : Int)
  /-- A block is declared twice. -/
  | duplicateBlock (name : String)
  deriving DecidableEq, Repr

def ReadError.text : ReadError → String
  | syntaxError => "<syntax>"
  | integer i => "Integer out of bounds: `" ++ toString i ++ "`"
  | duplicateBlock name => "Block `" ++ name ++ "` is duplicated"

namespace Reader

open Expression

/-- Where a piece stands, which decides what may stand there. -/
inductive Place where
  /-- In no part of a piece. -/
  | page
  /-- In a block: what the next declaration says may stand here. -/
  | block
  /-- In a loop: it may be left or advanced here, and no block may be declared. -/
  | loop
  /-- In a part that goes through a filter. -/
  | filter
  deriving DecidableEq, Repr

/-- The text after opening markup of two characters, and whether a dash follows it. -/
def opening? (a b : Char) : Phrase Bool := fun text =>
  match Markup.literal? [a, b] text with
  | some ('-' :: rest) => some (true, rest)
  | some rest => some (false, rest)
  | none => none

/-- The text after closing markup of two characters, and whether a dash comes before it. -/
def closing? (a b : Char) : Phrase Bool := fun text =>
  match Markup.literal? ['-', a, b] text with
  | some rest => some (true, rest)
  | none => (Markup.literal? [a, b] text).map (false, ·)

/-- Whether markup begins here. -/
def startsMarkup : List Char → Bool
  | '{' :: c :: _ => c = '{' || c = '%' || c = '#'
  | _ => false

/-- A text up to the first place where `stop` holds, and the text from there on. -/
def splitWhere (stop : List Char → Bool) : List Char → List Char × List Char
  | [] => ([], [])
  | c :: rest =>
    if stop (c :: rest) then ([], c :: rest)
    else
      let (before, after) := splitWhere stop rest
      (c :: before, after)

/-- Text up to the next markup. -/
def text? : Phrase Marked := fun text =>
  match splitWhere startsMarkup text with
  | ([], _) => none
  | (before, rest) => some (.text (String.ofList before), rest)

def comment? : Phrase Marked := fun text => do
  let (before, inside) ← opening? '{' '#' text
  match splitWhere (fun text => (closing? '#' '}' text).isSome) inside with
  | ([], _) => none
  | (_, rest) =>
    let (after, rest) ← closing? '#' '}' rest
    some (.single ⟨before, after⟩ (.text ""), rest)

/-- Markup between two doubled characters: its parts are read after the opening. -/
def markup? {α : Type} (a b c d : Char) (parts : Phrase α) : Phrase (Dashes × α) := fun text => do
  let (before, inside) ← opening? a b text
  let (x, rest) ← parts (skip inside)
  let (after, rest) ← closing? c d (skip rest)
  some ((⟨before, after⟩, x), rest)

def tag? {α : Type} (parts : Phrase α) : Phrase (Dashes × α) := markup? '{' '%' '%' '}' parts

/-- A word of a tag, at least one blank, and the parts after it. -/
def keyword? {α : Type} (w : String) (parts : Phrase α) : Phrase α := fun text => do
  parts (skip (← spaced? w text))

/-- A tag that is a word alone. -/
def bare? (w : String) : Phrase Dashes := fun text =>
  (tag? (fun text => (word? w text).map ((), ·)) text).map fun ((d, _), rest) => (d, rest)

def single? (parts : Phrase Piece) : Phrase Marked := fun text =>
  (tag? parts text).map fun ((d, p), rest) => (.single d p, rest)

def first? {α : Type} : List (Phrase α) → Phrase α
  | [], _ => none
  | p :: ps, text =>
    match p text with
    | some found => some found
    | none => first? ps text

/-- What the next declaration of a block says. -/
def inherited? : Phrase Marked := fun text =>
  (markup? '{' '{' '}' '}' (fun text => (word? "super()" text).map ((), ·)) text).map
    fun (_, rest) => (.inherited, rest)

/-- The tag that ends text without markup. -/
def endRaw? : Phrase Dashes := bare? "endraw"

/-- Text without markup. -/
def raw? : Phrase Marked := fun text => do
  let (opening, rest) ← bare? "raw" text
  let (inside, rest) := splitWhere (fun text => (endRaw? text).isSome) rest
  let (closing, rest) ← endRaw? rest
  some (.raw opening (String.ofList inside) closing, rest)

section

variable (level : Level)

def output? : Phrase Marked := fun text =>
  (markup? '{' '{' '}' '}' (value? level) text).map fun ((d, e), rest) =>
    (.single d (.output e), rest)

/-- A variable that is given a value. -/
def assign? (w : String) (everywhere : Bool) : Phrase Marked :=
  single? <| keyword? w fun text => do
    let (name, rest) ← name? text
    let rest ← word? "=" (skip rest)
    let (e, rest) ← value? level (skip rest)
    some (.assign name everywhere e, rest)

/-- The names of an embedded definition: one, or a list of alternatives. -/
def names? : Phrase (List String) :=
  either (fun text => (string? text).map fun (s, rest) => ([s], rest)) fun text => do
    let rest ← word? "[" text
    let (names, rest) :=
      match commaSeparated string? true level.fuel (skip rest) with
      | some (names, rest) => (names, rest)
      | none => ([], rest)
    let rest ← word? "]" (skip rest)
    some (names, rest)

def embed? : Phrase Marked :=
  single? <| keyword? "include" fun text => do
    let (names, rest) ← names? level text
    match word? "ignore missing" (skip rest) with
    | some rest => some (.embed names true, rest)
    | none => some (.embed names false, rest)

/-- What stands between the word `for` and the end of its tag: the variables and what is gone
through.  A comma follows the first variable directly. -/
def loopHead? : Phrase (Option String × String × Expr) := keyword? "for" fun text => do
  let (first, rest) ← name? text
  let second? : Option (String × List Char) := do name? (skip (← word? "," rest))
  let (key, value, rest) :=
    match second? with
    | some (second, rest) => (some first, second, rest)
    | none => (none, first, rest)
  let rest ← if rest.head?.any isSpace then spaced? "in" (skip rest) else none
  let (e, rest) ← either level.array (basicFilter? level) (skip rest)
  some ((key, value, e), rest)

/-- A condition after a word. -/
def conditionTag? (w : String) : Phrase (Dashes × Expr) := tag? (keyword? w level.logic)

/-- Conditions after `elif`, each with the part it governs. -/
def branches (body : List Char → List Marked × List Char) :
    Nat → List Char → List (Dashes × Expr × List Marked) × List Char
  | 0, text => ([], text)
  | fuel + 1, text =>
    match conditionTag? level "elif" text with
    | some ((d, e), rest) =>
      let (part, rest) := body rest
      let (others, rest) := branches body fuel rest
      ((d, e, part) :: others, rest)
    | none => ([], text)

/-- The parts after `else`, each with its tag; `fuel` bounds their number. -/
def alternatives (body : List Char → List Marked × List Char) :
    Nat → List Char → List (Dashes × List Marked) × List Char
  | 0, text => ([], text)
  | fuel + 1, text =>
    match bare? "else" text with
    | some (d, rest) =>
      let (part, rest) := body rest
      let (others, rest) := alternatives body fuel rest
      ((d, part) :: others, rest)
    | none => ([], text)

mutual

/-- As many pieces as follow one another. -/
def pieces (place : Place) : Nat → List Char → List Marked × List Char
  | 0, text => ([], text)
  | fuel + 1, text =>
    match piece? place fuel text with
    | some (m, rest) =>
      let (others, rest) := pieces place fuel rest
      (m :: others, rest)
    | none => ([], text)

def piece? (place : Place) : Nat → Phrase Marked
  | 0, _ => none
  | fuel + 1, text =>
    let choose : Phrase Marked := fun text => do
      let ((opening, e), rest) ← conditionTag? level "if" text
      let (body, rest) := pieces place fuel rest
      let (others, rest) := branches level (pieces place fuel) fuel rest
      let (last, rest) := alternatives (pieces place fuel) 1 rest
      let (closing, rest) ← bare? "endif" rest
      some (.choose ((opening, e, body) :: others) (last.head?.map (·.1)) (last.flatMap (·.2))
        closing, rest)
    let loop : Phrase Marked := fun text => do
      let ((opening, key, value, e), rest) ← tag? (loopHead? level) text
      let (body, rest) := pieces .loop fuel rest
      let (others, rest) := alternatives (pieces .loop fuel) fuel rest
      let (closing, rest) ← bare? "endfor" rest
      some (.each opening key value e body (others.map (·.2)) closing, rest)
    let filtered : Phrase Marked := fun text => do
      let ((opening, c), rest) ← tag? (keyword? "filter" (callOrName? level)) text
      let (body, rest) := pieces .filter fuel rest
      let (closing, rest) ← bare? "endfilter" rest
      some (.filtered opening c body closing, rest)
    let block : Phrase Marked := fun text => do
      if place = .loop then none
      else
        let ((opening, name), rest) ← tag? (keyword? "block" name?) text
        let (body, rest) := pieces .block fuel rest
        let endTag : Phrase Unit := fun text => do
          let rest ← word? "endblock" text
          match name? (skip rest) with
          | some (_, rest) => some ((), rest)
          | none => some ((), rest)
        let ((closing, _), rest) ← tag? endTag rest
        some (.block opening name body closing, rest)
    let jump (w : String) (p : Piece) : Phrase Marked := fun text =>
      if place = .loop then (bare? w text).map fun (d, rest) => (.single d p, rest) else none
    let next : Phrase Marked := fun text => if place = .block then inherited? text else none
    first? [text?, comment?, next, output? level, raw?, embed? level, assign? level "set" false,
      assign? level "set_global" true, choose, loop, filtered, block, jump "break" .leave,
      jump "continue" .advance] text

end

/-- The template that a definition extends, whether a dash trims the text after the tag, and that
text.  Blanks may stand before the tag. -/
def extends? : Phrase (Bool × String) := fun text =>
  (tag? (keyword? "extends" string?) (skip text)).map fun ((d, name), rest) =>
    ((d.after, name), rest)

/-- The text after the comments it begins with; `fuel` bounds their number. -/
def skipComments : Nat → List Char → List Char
  | 0, text => text
  | fuel + 1, text =>
    match comment? text with
    | some (_, rest) => skipComments fuel rest
    | none => text

end

/-! ## What the grammar does not rule out -/

/-- Whether an integer fits 64 bits with a sign. -/
def fits (i : Int) : Bool := (Whole.ofInt? i).any (·.isSigned)

mutual

/-- The integers of an expression, in order. -/
def exprInts : Expr → List Int
  | .mk term _ filters => termInts term ++ callsInts filters

def termInts : Term → List Int
  | .int i => [i]
  | .call c => callInts c
  | .test _ _ _ args => exprsInts args
  | .array items => exprsInts items
  | .concat parts => termsInts parts
  | .isIn item container _ => exprInts item ++ exprInts container
  | .math _ left right => exprInts left ++ exprInts right
  | .logic _ left right => exprInts left ++ exprInts right
  | .string _ | .float _ | .bool _ | .ident _ => []

def callInts : Call → List Int
  | .mk _ args => argsInts args

def callsInts : List Call → List Int
  | [] => []
  | c :: rest => callInts c ++ callsInts rest

def exprsInts : List Expr → List Int
  | [] => []
  | e :: rest => exprInts e ++ exprsInts rest

def termsInts : List Term → List Int
  | [] => []
  | t :: rest => termInts t ++ termsInts rest

def argsInts : List (String × Expr) → List Int
  | [] => []
  | (_, e) :: rest => exprInts e ++ argsInts rest

end

def singleInts : Piece → List Int
  | .output e => exprInts e
  | .assign _ _ e => exprInts e
  | _ => []

mutual

def pieceInts : Marked → List Int
  | .single _ p => singleInts p
  | .filtered _ c body _ => callInts c ++ piecesInts body
  | .choose branches _ last _ => branchesInts branches ++ piecesInts last
  | .each _ _ _ e body whenEmpty _ => exprInts e ++ piecesInts body ++ partsInts whenEmpty
  | .block _ _ body _ => piecesInts body
  | .text _ | .raw .. | .inherited => []

def piecesInts : List Marked → List Int
  | [] => []
  | m :: rest => pieceInts m ++ piecesInts rest

def partsInts : List (List Marked) → List Int
  | [] => []
  | part :: rest => piecesInts part ++ partsInts rest

def branchesInts : List (Dashes × Expr × List Marked) → List Int
  | [] => []
  | (_, e, body) :: rest => exprInts e ++ piecesInts body ++ branchesInts rest

end

mutual

/-- The blocks among some pieces and inside of those blocks, in order. -/
def blockNames : List Piece → List String
  | [] => []
  | p :: rest => pieceBlocks p ++ blockNames rest

/-- The name of a block and of the blocks inside it. -/
def pieceBlocks : Piece → List String
  | .block name body => name :: blockNames body
  | _ => []

end

/-- The first name that stands in a list twice. -/
def firstRepeat? (seen : List String) : List String → Option String
  | [] => none
  | name :: rest => if name ∈ seen then some name else firstRepeat? (name :: seen) rest

end Reader

/-- The definition that a source stands for.  Comments at its very front are no pieces: their dashes
trim nothing. -/
def read (name : String) (source : String) : Except ReadError Definition :=
  let text := source.toList
  let fuel := 2 * text.length + 2
  let level := Expression.level (text.length + 1) (text.length + 1)
  let text := Reader.skipComments fuel text
  let (parent, trim, text) :=
    match Reader.extends? text with
    | some ((trim, parent), rest) => (some parent, trim, rest)
    | none => (none, false, text)
  match Reader.pieces level .page fuel text with
  | (marked, []) =>
    match (Reader.piecesInts marked).find? fun i => !Reader.fits i with
    | some i => .error (.integer i)
    | none =>
      let body := Marked.pieces trim false marked
      match Reader.firstRepeat? [] (Reader.blockNames body) with
      | some block => .error (.duplicateBlock block)
      | none => .ok ⟨name, body, parent⟩
  | _ => .error .syntaxError

/-- The blocks a template declares. -/
def blocks (t : Definition) : List String := Reader.blockNames t.body

end Collage.Template
