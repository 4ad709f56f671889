import Collage.Template.Syntax
import Collage.Text.Blank

/-! # Definitions as they are marked up

Dashes in the markup of a definition ask for the blanks beside it to be taken off the text.
`Marked` is a piece with the dashes of its markup, and `Marked.pieces` takes the blanks off.

A dash works on the text next to its markup, across the end of a part as well: the text a part ends
with is trimmed by the markup that closes the part.  The part of a loop for the case that there is
nothing to go through is written as it stands, with all its blanks.
-/

namespace Collage.Template

/-- The dashes of some markup: whether the text before it and the text after it are trimmed. -/
structure Dashes where
  before : Bool
  after : Bool
  deriving DecidableEq, Repr

/-- A piece of a definition as it is marked up. -/
inductive Marked where
  | text (s : String)
  | single (dashes : Dashes) (p : Piece)
  /-- Text in which markup means nothing. -/
  | raw (opening : Dashes) (s : String) (closing : Dashes)
  /-- What the next declaration of the block says; its dashes mean nothing. -/
  | inherited
  | filtered (opening : Dashes) (filter : Call) (body : List Marked) (closing : Dashes)
  | block (opening : Dashes) (name : String) (body : List Marked) (closing : Dashes)
  /-- A loop; of the parts for the case that it has no rounds the last one counts. -/
  | each (opening : Dashes) (key : Option String) (value : String) (container : Expr)
      (body : List Marked) (whenEmpty : List (List Marked)) (closing : Dashes)
  /-- A choice: the markup before each part, and the part. -/
  | choose (branches : List (Dashes × Expr × List Marked)) (last : Option Dashes)
      (otherwise : List Marked) (closing : Dashes)

namespace Marked

/-- Whether a piece trims the text before it. -/
def trimsBefore : Marked → Bool
  | text _ | inherited => false
  | single d _ => d.before
  | raw d _ _ | filtered d _ _ _ | block d _ _ _ | each d _ _ _ _ _ _ => d.before
  | choose ((d, _) :: _) _ _ _ => d.before
  | choose [] _ _ d => d.before

/-- Whether the text behind a piece is trimmed, where `trim` tells it of the text before. -/
def trimsAfter (trim : Bool) : Marked → Bool
  | text _ => false
  | inherited => trim
  | single d _ => d.after
  | raw _ _ d | filtered _ _ _ d | block _ _ _ d | each _ _ _ _ _ _ d | choose _ _ _ d => d.after

/-- Whether a text is trimmed by what follows it: a piece, or the end of its part. -/
def trimmedBy (finish : Bool) : List Marked → Bool
  | [] => finish
  | m :: _ => m.trimsBefore

/-- A text trimmed at the sides that ask for it. -/
def trimSides (start finish : Bool) (s : String) : String :=
  let text := if start then Text.trimStart s.toList else s.toList
  String.ofList (if finish then Text.trimEnd text else text)

mutual

/-- The pieces as they stand, with all blanks. -/
def untrimmed : List Marked → List Piece
  | [] => []
  | m :: rest => m.untrimmedPiece :: untrimmed rest

def untrimmedPiece : Marked → Piece
  | .text s => .text s
  | .single _ p => p
  | .raw _ s _ => .text s
  | .inherited => .inherited
  | .filtered _ filter body _ => .filtered filter (untrimmed body)
  | .block _ name body _ => .block name (untrimmed body)
  | .each _ key value container body whenEmpty _ =>
    .each key value container (untrimmed body) (lastUntrimmed whenEmpty)
  | .choose branches _ otherwise _ =>
    .choose (untrimmedBranches branches) (untrimmed otherwise)

def lastUntrimmed : List (List Marked) → List Piece
  | [] => []
  | body :: rest => if rest.isEmpty then untrimmed body else lastUntrimmed rest

def untrimmedBranches : List (Dashes × Expr × List Marked) → List (Expr × List Piece)
  | [] => []
  | (_, e, body) :: rest => (e, untrimmed body) :: untrimmedBranches rest

end

mutual

/-- The pieces of a part, trimmed; `start` and `finish` tell whether the part is trimmed where it
begins and where it ends. -/
def pieces (start finish : Bool) : List Marked → List Piece
  | [] => []
  | m :: rest => m.piece start (trimmedBy finish rest) :: pieces (m.trimsAfter start) finish rest

/-- A piece, trimmed; `start` and `finish` tell whether its neighbours trim it, if it is text. -/
def piece (start finish : Bool) : Marked → Piece
  | .text s => .text (trimSides start finish s)
  | .single _ p => p
  | .raw opening s closing => .text (trimSides opening.after closing.before s)
  | .inherited => .inherited
  | .filtered opening filter body closing =>
    .filtered filter (pieces opening.after closing.before body)
  | .block opening name body closing => .block name (pieces opening.after closing.before body)
  | .each opening key value container body whenEmpty closing =>
    .each key value container (pieces opening.after closing.before body) (lastUntrimmed whenEmpty)
  | .choose branches last otherwise closing =>
    .choose (branchPieces (last.getD closing).before branches)
      (pieces (last.any (·.after)) closing.before otherwise)

/-- The branches of a choice, trimmed; `finish` tells whether the markup behind the last of them
trims. -/
def branchPieces (finish : Bool) :
    List (Dashes × Expr × List Marked) → List (Expr × List Piece)
  | [] => []
  | (d, e, body) :: rest =>
    (e, pieces d.after ((rest.head?.map (·.1.before)).getD finish) body) ::
      branchPieces finish rest

end

end Marked

end Collage.Template
