import Collage.Markup

/-! # Define blocks and invocations

A template's source may declare definitions and invoke them:

    {{ define "NAME" }} ... {{ end }}
    {{ template "NAME" . }}

`Lowering.split` parts a source into the text outside of its define blocks and the blocks, and
`Lowering.lowerActions` writes every invocation as an `include` tag of the template language.
`Lowering.lower` does both.
-/

namespace Collage.Lowering

/-- A define block: the name it declares and the text between its markers. -/
structure Block where
  name : List Char
  body : List Char
  deriving DecidableEq, Repr

/-- The marker that opens a define block at the front of a text: the name, and the text after. -/
def opening? (text : List Char) : Option (List Char × List Char) := do
  let inside ← Markup.open? text
  let afterWord ← Markup.literal? "define".toList inside
  let quoted ← Markup.blanks? afterWord
  let (name, afterName) ← Markup.quoted? quoted
  let rest ← Markup.close? afterName
  some (name, rest)

/-- The text after the marker at its front that closes a define block. -/
def ending? (text : List Char) : Option (List Char) := do
  let inside ← Markup.open? text
  let rest ← Markup.literal? "end".toList inside
  Markup.close? rest

/-- The text up to the first closing marker, and the text after the marker. -/
def untilEnding? : List Char → Option (List Char × List Char)
  | [] => none
  | c :: text =>
    match ending? (c :: text) with
    | some rest => some ([], rest)
    | none => (untilEnding? text).map fun (body, rest) => (c :: body, rest)

/-- The define block at the front of a text, and the text after it. -/
def block? (text : List Char) : Option (Block × List Char) := do
  let (name, inside) ← opening? text
  let (body, rest) ← untilEnding? inside
  some (⟨name, body⟩, rest)

/-- The invocation at the front of a text: the name, and the text after it. -/
def action? (text : List Char) : Option (List Char × List Char) := do
  let inside ← Markup.open? text
  let afterWord ← Markup.literal? "template".toList inside
  let quoted ← Markup.blanks? afterWord
  let (name, afterName) ← Markup.quoted? quoted
  let rest ← Markup.finish? afterName
  some (name, rest)

/-! ## Blocks and invocations are more than nothing -/

theorem length_literal? {piece text rest : List Char} (h : Markup.literal? piece text = some rest) :
    rest.length ≤ text.length := by
  rw [Markup.literal?_eq_some] at h
  subst h
  simp

theorem length_opening? {text name rest : List Char} (h : opening? text = some (name, rest)) :
    rest.length < text.length := by
  simp only [opening?, Option.bind_eq_bind, Option.bind_eq_some_iff, Option.some.injEq,
    Prod.mk.injEq, Prod.exists] at h
  obtain ⟨inside, hi, word, hw, quoted, hb, name', after, hq, rest', hc, -, rfl⟩ := h
  have h1 := Markup.length_open? hi
  have h2 := length_literal? hw
  have h3 := Markup.length_blanks? hb
  have h4 := Markup.length_quoted? hq
  have h5 := Markup.length_close? hc
  omega

theorem length_ending? {text rest : List Char} (h : ending? text = some rest) :
    rest.length < text.length := by
  simp only [ending?, Option.bind_eq_bind, Option.bind_eq_some_iff] at h
  obtain ⟨inside, hi, word, hw, hc⟩ := h
  have h1 := Markup.length_open? hi
  have h2 := length_literal? hw
  have h3 := Markup.length_close? hc
  omega

theorem length_untilEnding? {text body rest : List Char}
    (h : untilEnding? text = some (body, rest)) : rest.length < text.length := by
  induction text generalizing body with
  | nil => simp [untilEnding?] at h
  | cons c text ih =>
    simp only [untilEnding?] at h
    split at h
    · next rest' he =>
      simp only [Option.some.injEq, Prod.mk.injEq] at h
      obtain ⟨-, rfl⟩ := h
      exact length_ending? he
    · simp only [Option.map_eq_some_iff, Prod.mk.injEq, Prod.exists] at h
      obtain ⟨body', rest', hu, -, rfl⟩ := h
      have := ih hu
      simp only [List.length_cons]
      omega

theorem length_block? {text rest : List Char} {b : Block} (h : block? text = some (b, rest)) :
    rest.length < text.length := by
  simp only [block?, Option.bind_eq_bind, Option.bind_eq_some_iff, Option.some.injEq,
    Prod.mk.injEq, Prod.exists] at h
  obtain ⟨name, inside, ho, body, rest', hu, -, rfl⟩ := h
  have h1 := length_opening? ho
  have h2 := length_untilEnding? hu
  omega

theorem length_action? {text name rest : List Char} (h : action? text = some (name, rest)) :
    rest.length < text.length := by
  simp only [action?, Option.bind_eq_bind, Option.bind_eq_some_iff, Option.some.injEq,
    Prod.mk.injEq, Prod.exists] at h
  obtain ⟨inside, hi, word, hw, quoted, hb, name', after, hq, rest', hf, -, rfl⟩ := h
  have h1 := Markup.length_open? hi
  have h2 := length_literal? hw
  have h3 := Markup.length_blanks? hb
  have h4 := Markup.length_quoted? hq
  have h5 := Markup.length_finish? hf
  omega

/-! ## Whole texts -/

/-- A text without its define blocks, and the blocks in order. -/
def split (text : List Char) : List Char × List Block :=
  match _found : block? text with
  | some (b, rest) =>
    let (body, blocks) := split rest
    (body, b :: blocks)
  | none =>
    match text with
    | [] => ([], [])
    | c :: rest =>
      let (body, blocks) := split rest
      (c :: body, blocks)
termination_by text.length
decreasing_by
  · exact length_block? _found
  · simp

/-- An invocation in the template language. -/
def includeTag (name : List Char) : List Char :=
  "\x7b% include \"".toList ++ name ++ "\" %\x7d".toList

/-- A text with every invocation written as an `include` tag. -/
def lowerActions (text : List Char) : List Char :=
  match _found : action? text with
  | some (name, rest) => includeTag name ++ lowerActions rest
  | none =>
    match text with
    | [] => []
    | c :: rest => c :: lowerActions rest
termination_by text.length
decreasing_by
  · exact length_action? _found
  · simp

/-- A source's text outside of its define blocks, and its definitions in order, all of it
lowered. -/
def lower (text : String) : String × List (String × String) :=
  let (body, blocks) := split text.toList
  (String.ofList (lowerActions body),
    blocks.map fun b => (String.ofList b.name, String.ofList (lowerActions b.body)))

/-! ## Blank text -/

/-- The text after the end of a comment. -/
def afterComment? : List Char → Option (List Char)
  | '#' :: '}' :: rest => some rest
  | _ :: rest => afterComment? rest
  | [] => none

theorem length_afterComment? {text rest : List Char} (h : afterComment? text = some rest) :
    rest.length < text.length := by
  fun_induction afterComment? text with
  | case1 rest' => simp only [Option.some.injEq] at h; subst h; simp only [List.length_cons]; omega
  | case2 _ rest' _ ih => have := ih h; simp only [List.length_cons]; omega
  | case3 => simp at h

/-- The comment at the front of a text is left out: the text after it. -/
def comment? (text : List Char) : Option (List Char) :=
  (Markup.literal? ['{', '#'] text).bind afterComment?

theorem length_comment? {text rest : List Char} (h : comment? text = some rest) :
    rest.length < text.length := by
  obtain ⟨inside, hi, ha⟩ := Option.bind_eq_some_iff.1 h
  have h1 := length_literal? hi
  have h2 := length_afterComment? ha
  omega

/-- A text without its comments. -/
def withoutComments (text : List Char) : List Char :=
  match _found : comment? text with
  | some rest => withoutComments rest
  | none =>
    match text with
    | [] => []
    | c :: rest => c :: withoutComments rest
termination_by text.length
decreasing_by
  · exact length_comment? _found
  · simp

/-- Whether a text holds nothing but blanks and comments. -/
def isBlank (text : String) : Bool := (withoutComments text.toList).all Text.isBlank

end Collage.Lowering
