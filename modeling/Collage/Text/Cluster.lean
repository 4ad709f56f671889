import Collage.Text.Cluster.Class

/-! # Characters as readers see them

A reader takes a letter and the marks on it for one character, and so for a pair of regional
indicators, a joined sequence of pictographs, consonants that are bound together, a syllable and the
line break of two characters.  `clusters` cuts a text between such characters.
-/

namespace Collage.Text

open Cluster

/-- Whether a character belongs to the one before it, whatever that is. -/
def Cluster.Class.trails : Class → Bool
  | .extender | .linker | .joiner | .spacing => true
  | _ => false

/-- Whether two characters in a row belong to one syllable. -/
def Cluster.sharesSyllable : Class → Class → Bool
  | .initial, b => b = .initial || b = .vowel || b = .open || b = .closed
  | .vowel, b | .open, b => b = .vowel || b = .final
  | .final, b | .closed, b => b = .final
  | _, _ => false

/-- Whether a text, given nearest character first, ends in a pictograph and marks on it. -/
def Cluster.endsInPictograph (before : List Char) : Bool :=
  let bare := before.dropWhile fun c => classOf c = .extender || classOf c = .linker
  bare.head?.any fun c => classOf c = .pictograph

/-- Whether a character may stand between two consonants that are bound together: any mark but the
one that keeps them apart. -/
def Cluster.staysBound (c : Char) : Bool :=
  (classOf c = .extender || classOf c = .linker || classOf c = .joiner) && c ≠ '\u200C'

/-- Whether a text, given nearest character first, ends in a consonant that is bound to the next. -/
def Cluster.endsBound (before : List Char) : Bool :=
  (before.takeWhile staysBound).any (fun c => classOf c = .linker) &&
    (before.dropWhile staysBound).head?.any fun c => classOf c = .consonant

/-- Whether a text, given nearest character first, ends in an odd number of regional indicators. -/
def Cluster.endsInHalfFlag (before : List Char) : Bool :=
  (before.takeWhile fun c => classOf c = .regional).length % 2 = 1

/-- Whether the next character belongs to a cluster, given nearest character first. -/
def belongs (cluster : List Char) (next : Char) : Bool :=
  match cluster with
  | [] => true
  | last :: before =>
    if last = '\r' ∧ next = '\n' then true
    else
      match classOf last, classOf next with
      | .control, _ | _, .control => false
      | .leader, _ => true
      | .joiner, .pictograph => endsInPictograph before
      | .regional, .regional => endsInHalfFlag (last :: before)
      | _, .consonant => endsBound (last :: before)
      | a, b => b.trails || sharesSyllable a b

/-- The clusters of a text, after one whose characters so far are given nearest first. -/
def clustersFrom (cluster : List Char) : List Char → List String
  | [] => if cluster = [] then [] else [String.ofList cluster.reverse]
  | c :: text =>
    if belongs cluster c then clustersFrom (c :: cluster) text
    else String.ofList cluster.reverse :: clustersFrom [c] text

/-- The characters of a text as readers see them. -/
def clusters (text : String) : List String := clustersFrom [] text.toList

end Collage.Text
