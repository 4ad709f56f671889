/-! # Reading UTF-8

`Utf8.decode` turns bytes into the text they encode, or tells where the first bad sequence begins
and how many of its bytes are at fault.  A sequence that is only cut off at the end has no such
number.
-/

namespace Collage.Text.Utf8

/-- The first bad sequence of some bytes. -/
structure Defect where
  start : Nat
  /-- The bytes at fault; none when the bytes end in the middle of a character. -/
  length : Option Nat
  deriving DecidableEq, Repr

def Defect.text (d : Defect) : String :=
  match d.length with
  | some n =>
    "invalid utf-8 sequence of " ++ toString n ++ " bytes from index " ++ toString d.start
  | none => "incomplete utf-8 byte sequence from index " ++ toString d.start

def isTail (b : UInt8) : Bool := 0x80 ≤ b && b ≤ 0xBF

/-- Whether `second` may follow `first`, the leading byte of a character of three bytes: no
character has a shorter form, and none is a surrogate. -/
def isSecondOfThree (first second : UInt8) : Bool :=
  if first = 0xE0 then 0xA0 ≤ second && second ≤ 0xBF
  else if first = 0xED then 0x80 ≤ second && second ≤ 0x9F
  else isTail second

/-- Whether `second` may follow `first`, the leading byte of a character of four bytes: no
character has a shorter form, and none lies above U+10FFFF. -/
def isSecondOfFour (first second : UInt8) : Bool :=
  if first = 0xF0 then 0x90 ≤ second && second ≤ 0xBF
  else if first = 0xF4 then 0x80 ≤ second && second ≤ 0x8F
  else isTail second

/-- The code point put together from six bits of each tail byte. -/
def join (lead : Nat) (tails : List UInt8) : Char :=
  Char.ofNat (tails.foldl (fun n b => n * 64 + (b.toNat - 0x80)) lead)

/-- What stands at the front of some bytes: a character with the number of its bytes, or the bytes
at fault. -/
def first? : List UInt8 → Except (Option Nat) (Char × Nat)
  | [] => .error none
  | a :: rest =>
    if a < 0x80 then .ok (Char.ofNat a.toNat, 1)
    else if a < 0xC2 then .error (some 1)
    else if a < 0xE0 then
      match rest with
      | [] => .error none
      | b :: _ => if isTail b then .ok (join (a.toNat - 0xC0) [b], 2) else .error (some 1)
    else if a < 0xF0 then
      match rest with
      | [] => .error none
      | b :: rest =>
        if isSecondOfThree a b then
          match rest with
          | [] => .error none
          | c :: _ => if isTail c then .ok (join (a.toNat - 0xE0) [b, c], 3) else .error (some 2)
        else .error (some 1)
    else if a < 0xF5 then
      match rest with
      | [] => .error none
      | b :: rest =>
        if isSecondOfFour a b then
          match rest with
          | [] => .error none
          | c :: rest =>
            if isTail c then
              match rest with
              | [] => .error none
              | d :: _ =>
                if isTail d then .ok (join (a.toNat - 0xF0) [b, c, d], 4) else .error (some 3)
            else .error (some 2)
        else .error (some 1)
    else .error (some 1)

/-- The characters of some bytes, after `start` bytes; `fuel` bounds their number. -/
def decodeFrom : Nat → Nat → List UInt8 → Except Defect (List Char)
  | 0, _, _ => .ok []
  | _ + 1, _, [] => .ok []
  | fuel + 1, start, bytes =>
    match first? bytes with
    | .ok (c, n) => (decodeFrom fuel (start + n) (bytes.drop n)).map (c :: ·)
    | .error length => .error ⟨start, length⟩

/-- The text that some bytes encode. -/
def decode (bytes : ByteArray) : Except Defect String :=
  (decodeFrom bytes.size 0 bytes.toList).map String.ofList

/-- The characters of some bytes, with U+FFFD for every bad sequence; `fuel` bounds their number. -/
def repairFrom : Nat → List UInt8 → List Char
  | 0, _ => []
  | _ + 1, [] => []
  | fuel + 1, bytes =>
    match first? bytes with
    | .ok (c, n) => c :: repairFrom fuel (bytes.drop n)
    | .error (some n) => '\uFFFD' :: repairFrom fuel (bytes.drop n)
    | .error none => ['\uFFFD']

/-- The text that some bytes encode, with U+FFFD for every bad sequence. -/
def repair (bytes : ByteArray) : String := String.ofList (repairFrom bytes.size bytes.toList)

end Collage.Text.Utf8
