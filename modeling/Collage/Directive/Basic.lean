import Collage.Name
import Collage.Markup
import Collage.Text.Size

/-! # Composition directives

A directive ties a template to another one.  It is written as an action whose quoted reference
starts with the marker `@`:

    {{ template "@partials/nav.html" . }}
    {{ layout "@layouts/base.html" }}

`Directive.read?` reads one from the front of a text.
-/

namespace Collage

/-- What a directive asks for. -/
inductive Directive.Kind where
  /-- Take over the definitions of the template it names. -/
  | inclusion
  /-- Put the content of this template into the template it names. -/
  | layout
  deriving DecidableEq, Repr

namespace Directive.Kind

def keyword : Kind → String
  | inclusion => "template"
  | layout => "layout"

def text : Kind → String
  | inclusion => "include"
  | layout => "layout"

end Directive.Kind

/-- A directive in a text: the kind, the quoted reference with its marker, and the bytes of the
text that its markup takes, from `start` up to but not including `stop`. -/
structure Directive where
  kind : Directive.Kind
  reference : String
  start : Nat
  stop : Nat
  deriving DecidableEq, Repr

namespace Directive

/-- The name of the template a reference means: its normal form without the marker. -/
def nameOf (reference : String) : String :=
  Name.normalize (String.ofList (reference.toList.drop 1))

def name (d : Directive) : String := nameOf d.reference

/-- The keyword at the front of a text, and the text after it. -/
def keyword? (text : List Char) : Option (Kind × List Char) :=
  match Markup.literal? Kind.inclusion.keyword.toList text with
  | some rest => some (.inclusion, rest)
  | none => (Markup.literal? Kind.layout.keyword.toList text).map (.layout, ·)

/-- A quoted reference at the front of a text: the marker `@` and at least one more character. -/
def reference? (text : List Char) : Option (List Char × List Char) :=
  match Markup.quoted? text with
  | some ('@' :: c :: more, rest) => some ('@' :: c :: more, rest)
  | _ => none

/-- The directive at the front of a text: its kind, its reference, and the text after it. -/
def read? (text : List Char) : Option (Kind × List Char × List Char) := do
  let inside ← Markup.open? text
  let (kind, afterWord) ← keyword? inside
  let quoted ← Markup.blanks? afterWord
  let (reference, afterReference) ← reference? quoted
  let rest ← Markup.finish? afterReference
  some (kind, reference, rest)

theorem length_keyword? {text rest : List Char} {kind : Kind}
    (h : keyword? text = some (kind, rest)) : rest.length ≤ text.length := by
  unfold keyword? at h
  split at h
  · next rest' hr =>
    simp only [Option.some.injEq, Prod.mk.injEq] at h
    obtain ⟨-, rfl⟩ := h
    rw [Markup.literal?_eq_some] at hr
    subst hr
    simp
  · obtain ⟨rest', hr, he⟩ := Option.map_eq_some_iff.1 h
    simp only [Prod.mk.injEq] at he
    obtain ⟨-, rfl⟩ := he
    rw [Markup.literal?_eq_some] at hr
    subst hr
    simp

theorem reference?_eq_some {text reference rest : List Char}
    (h : reference? text = some (reference, rest)) :
    Markup.quoted? text = some (reference, rest) := by
  unfold reference? at h
  split at h
  · next c more rest' hq =>
    simp only [Option.some.injEq, Prod.mk.injEq] at h
    obtain ⟨rfl, rfl⟩ := h
    exact hq
  · cases h

/-- A directive is more than nothing: less text follows it than it was read from. -/
theorem length_read? {text reference rest : List Char} {kind : Kind}
    (h : read? text = some (kind, reference, rest)) : rest.length < text.length := by
  simp only [read?, Option.bind_eq_bind, Option.bind_eq_some_iff, Option.some.injEq,
    Prod.mk.injEq, Prod.exists] at h
  obtain ⟨inside, hi, kind', word, hw, quoted, hb, ref, afterRef, hr, rest', hf, -, -, rfl⟩ := h
  have h1 := Markup.length_open? hi
  have h2 := length_keyword? hw
  have h3 := Markup.length_blanks? hb
  have h4 := Markup.length_quoted? (reference?_eq_some hr)
  have h5 := Markup.length_finish? hf
  omega

end Directive

end Collage
