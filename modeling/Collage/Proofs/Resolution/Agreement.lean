import Collage.Proofs.Lowering.Parts
import Collage.Proofs.Resolution.Recipe
import Collage.Proofs.Resolution.Strip

/-! # What is included and what is resolved

A text is read twice: resolving it meets its directives, and lowering what is left of it puts a tag
for every invocation.  In a text that is `Lowering.Agreeing` both find the same: a marked name is
invoked exactly if it was resolved as an inclusion (`Session.mem_inclusions_iff`).

It takes some conditions, as the two do not read alike.  A directive is sought in the whole text,
and may be escaped.  An invocation is sought between and inside of the define blocks, once these
were cut out, and cannot be escaped (`Session.invoked_though_escaped`).
-/

namespace Collage

open Directive (scan scanFrom shown met left layout? closedUp request Seamless references)

namespace Lowering

/-- Resolving a text and lowering what is left of it may be expected to find the same. -/
structure Agreeing (text : String) : Prop where
  /-- No directive joins where the layout was. -/
  seamless : Seamless text
  /-- No directive overlaps a marker of a define block. -/
  apart : ∀ d ∈ scan (left text), ∀ m ∈ markers (left text).toList, ¬ d.Overlaps m.first m.last
  /-- No invocation joins where a define block was. -/
  unjoined : ∀ s ∈ invocations [] (split (left text).toList).1,
    ∀ j ∈ joints 0 (gaps (left text).toList), ¬ s.directive.Crosses j
  /-- No marked invocation is escaped or nothing but the marker, and no directive begins inside of
  the invocation of another name. -/
  clear : ∀ p ∈ stretches (left text).toList, Clear p.before p.text

end Lowering

/-! ## Inclusions of what is left -/

namespace Directive

variable {text reference : String}

theorem pulled_eq (gap d : Directive) :
    (pulled gap d).kind = d.kind ∧ (pulled gap d).reference = d.reference := by
  rw [pulled]
  split <;> exact ⟨rfl, rfl⟩

theorem kind_of_mem_closedUp {d : Directive} (member : d ∈ closedUp text) :
    d.kind = .inclusion := by
  obtain ⟨e, inclusion, rfl⟩ := List.mem_map.1 member
  have kind : e.kind = .inclusion := by simpa using (List.mem_filter.1 inclusion).2
  split
  · exact kind
  · exact (pulled_eq _ e).1.trans kind

/-- What is left of a text refers to what the text includes. -/
theorem mem_closedUp_iff :
    (∃ d ∈ closedUp text, d.reference = reference) ↔
      ∃ d ∈ scan text, d.kind = .inclusion ∧ d.reference = reference := by
  simp only [closedUp, List.mem_map, List.mem_filter, decide_eq_true_eq]
  constructor
  · rintro ⟨d, ⟨e, ⟨member, kind⟩, rfl⟩, rfl⟩
    refine ⟨e, member, kind, ?_⟩
    split
    · rfl
    · exact (pulled_eq _ e).2.symm
  · rintro ⟨e, member, kind, rfl⟩
    refine ⟨_, ⟨e, ⟨member, kind⟩, rfl⟩, ?_⟩
    split
    · rfl
    · exact (pulled_eq _ e).2

theorem mem_references_met_iff : reference ∈ references (met text) ↔
    ∃ asked ∈ (met text).map (·.directive.request), asked.1 = .inclusion ∧
      asked.2.1 = reference := by
  simp only [references, List.mem_eraseDups, List.mem_map, List.mem_filter, decide_eq_true_eq]
  constructor
  · rintro ⟨s, ⟨member, kind⟩, rfl⟩
    exact ⟨_, ⟨s, member, rfl⟩, kind, rfl⟩
  · rintro ⟨asked, ⟨s, member, rfl⟩, kind, rfl⟩
    exact ⟨s, ⟨member, kind⟩, rfl⟩

/-- Where nothing joins at the seam of the layout, the references that are met are those that are
left. -/
theorem mem_references_iff (once : Session.asksTwice text = false) (seamless : Seamless text) :
    reference ∈ references (met text) ↔ ∃ d ∈ scan (left text), d.reference = reference := by
  obtain ⟨visited, -, shifted⟩ := Session.met_of_seamless once seamless
  rw [mem_references_met_iff, visited, shifted, mem_closedUp_iff]
  simp only [List.mem_map]
  constructor
  · rintro ⟨asked, ⟨d, member, rfl⟩, kind, rfl⟩
    exact ⟨d, member, kind, rfl⟩
  · rintro ⟨d, member, kind, rfl⟩
    exact ⟨_, ⟨d, member, rfl⟩, kind, rfl⟩

end Directive

/-! ## Both find the same -/

namespace Lowering

variable {text reference : String}

/-- A clear stretch shows the marked names that it invokes. -/
theorem Clear.mem_references_iff {before ahead : List Char} (clear : Clear before ahead)
    (reference : String)
    (inclusions : ∀ d ∈ scanFrom before ahead, d.kind = .inclusion) :
    (∃ d ∈ scanFrom before ahead, d.reference = reference) ↔
      IsMarked reference.toList ∧ reference ∈ called ahead := by
  rw [Directive.scanFrom_eq, List.forall_mem_map] at inclusions
  rw [Directive.scanFrom_eq, sightings_eq_filter clear inclusions,
    ← references_invocations before ahead]
  simp only [List.mem_map, List.mem_filter, decide_eq_true_eq]
  constructor
  · rintro ⟨d, ⟨s, ⟨member, marked⟩, rfl⟩, rfl⟩
    exact ⟨by simpa [Directive.Sighting.directive] using marked, s, member, rfl⟩
  · rintro ⟨marked, s, member, rfl⟩
    exact ⟨_, ⟨s, ⟨member, by simpa using marked⟩, rfl⟩, rfl⟩

/-- The references that are met in an agreeing text are the marked names that what is left of it
invokes. -/
theorem Agreeing.mem_references_iff (agreeing : Agreeing text)
    (once : Session.asksTwice text = false) :
    reference ∈ references (met text) ↔
      IsMarked reference.toList ∧ reference ∈ invoked (left text) := by
  have inclusions : ∀ d ∈ scan (left text), d.kind = .inclusion := by
    intro d member
    rw [(Session.met_of_seamless once agreeing.seamless).2.2] at member
    exact Directive.kind_of_mem_closedUp member
  rw [Directive.mem_references_iff once agreeing.seamless, mem_invoked_iff agreeing.unjoined,
    scan_eq_stretches agreeing.apart]
  rw [scan_eq_stretches agreeing.apart] at inclusions
  simp only [List.mem_flatMap] at inclusions ⊢
  -- What is left shows the directives of its stretches and invokes what these invoke.
  have each := fun p stretch => (agreeing.clear p stretch).mem_references_iff reference
    fun d member => inclusions d ⟨p, stretch, member⟩
  constructor
  · rintro ⟨d, ⟨p, stretch, member⟩, same⟩
    obtain ⟨marked, called⟩ := (each p stretch).1 ⟨d, member, same⟩
    exact ⟨marked, p, stretch, called⟩
  · rintro ⟨marked, p, stretch, called⟩
    obtain ⟨d, member, same⟩ := (each p stretch).2 ⟨marked, called⟩
    exact ⟨d, ⟨p, stretch, member⟩, same⟩

end Lowering

namespace Session

variable {kind : OutputKind} {room : Nat} {parent text : String} {s t : Session} {draft : Draft}
  {rest : List Char}

/-- To resolve the directives of a text leaves the text without its layout, and includes what is
met. -/
theorem of_gather (gathered : gather kind (preprocess kind room) parent [] text.toList .empty s =
    (.ok (draft, rest), t)) :
    String.ofList rest = left text ∧ draft.inclusions.map (·.1) = references (met text) := by
  rw [gather_eq] at gathered
  rcases followed : follow kind (preprocess kind room) parent (met text) .empty s with ⟨halt | d, u⟩
  · have same := followed
    rw [met] at same
    simp only [Draft.empty, Option.isSome_none] at same gathered
    rw [same] at gathered
    cases gathered
  · have same := followed
    rw [met] at same
    simp only [Draft.empty, Option.isSome_none] at same gathered
    rw [same] at gathered
    cases gathered
    have reflects := (follow_gathers followed).reflects Draft.reflects_empty
    exact ⟨rfl, reflects.inclusions⟩

/-- Once the directives of an agreeing text were resolved, lowering what is left puts tags for the
references that were included, and for no other name with the marker. -/
theorem mem_inclusions_iff (kind : OutputKind) (room : Nat) (parent text : String)
    (s t : Session) (draft : Draft) (rest : List Char) (once : asksTwice text = false)
    (agreeing : Lowering.Agreeing text)
    (gathered : gather kind (preprocess kind room) parent [] text.toList .empty s =
      (.ok (draft, rest), t)) (reference : String) :
    reference ∈ draft.inclusions.map (·.1) ↔
      Lowering.IsMarked reference.toList ∧
        reference ∈ Lowering.invoked (String.ofList rest) := by
  obtain ⟨left, inclusions⟩ := of_gather gathered
  rw [left, inclusions]
  exact agreeing.mem_references_iff once

/-- A page with a layout, which includes a part and invokes a definition of the layout in a define
block. -/
theorem mem_inclusions_of_page :
    let text := "\x7b\x7blayout \"@base\"\x7d\x7d\x7b\x7bdefine \"slot\"\x7d\x7d" ++
      "\x7b\x7btemplate \"row\"\x7d\x7d\x7b\x7btemplate \"@part\"\x7d\x7d\x7b\x7bend\x7d\x7d"
    let s := start (.store [
      ("base", "".toUTF8),
      ("part", "\x7b\x7bdefine \"@part\"\x7d\x7d\x7b\x7bend\x7d\x7d".toUTF8)]) .empty .enabled []
    asksTwice text = false ∧ Lowering.Agreeing text ∧
      ∃ draft rest t, gather .text (preprocess .text 1) "page" [] text.toList .empty s =
        (.ok (draft, rest), t) ∧
        ∀ reference, reference ∈ draft.inclusions.map (·.1) ↔
          Lowering.IsMarked reference.toList ∧
            reference ∈ Lowering.invoked (String.ofList rest) := by
  intro text s
  have remains : left text = "\x7b\x7bdefine \"slot\"\x7d\x7d\x7b\x7btemplate \"row\"\x7d\x7d" ++
      "\x7b\x7btemplate \"@part\"\x7d\x7d\x7b\x7bend\x7d\x7d" := by decide +kernel
  have once : asksTwice text = false := by decide +kernel
  have seamless : ∀ lay ∈ layout? (shown text), ∀ d ∈ scan (Directive.withoutLayout text),
      ¬ lay.Joins d := by decide +kernel
  have clear : ∀ p ∈ Lowering.stretches (left text).toList,
      (∀ s ∈ Lowering.invocations p.before p.text, Lowering.IsMarked s.reference →
        Directive.isEscaped s.before = false ∧ s.reference ≠ ['@']) ∧
      ∀ s ∈ Lowering.invocations p.before p.text, ¬ Lowering.IsMarked s.reference →
        ∀ d ∈ Directive.sightings p.before p.text,
          ¬ s.directive.Crosses d.directive.start := by
    rw [remains]
    decide +kernel
  have agreeing : Lowering.Agreeing text :=
    { seamless := seamless
      apart := by
        rw [remains]
        decide +kernel
      unjoined := by
        rw [remains]
        decide +kernel
      clear := fun p stretch => ⟨(clear p stretch).1, (clear p stretch).2⟩ }
  have finished : (gather .text (preprocess .text 1) "page" [] text.toList .empty s).1.toBool =
      true := by decide +kernel
  rcases gathered : gather .text (preprocess .text 1) "page" [] text.toList .empty s with
    ⟨halt | ⟨draft, rest⟩, t⟩
  · rw [gathered] at finished
    cases finished
  · exact ⟨once, agreeing, draft, rest, t, rfl,
      mem_inclusions_iff .text 1 "page" text s t draft rest once agreeing gathered⟩

/-- Of three braces the first one makes the markup behind it literal text, so nothing is included;
but lowering puts a tag there. -/
theorem invoked_though_escaped :
    let text := "\x7b% raw %\x7d\x7b\x7b\x7b template \"@a\" . \x7d\x7d\x7b% endraw %\x7d"
    let s := start (.store [("page", text.toUTF8)]) .empty .enabled []
    (s.resolve .text "page").1.toBool = true ∧ asksTwice text = false ∧
      ∃ draft rest t, gather .text (preprocess .text 2) "page" [] text.toList .empty s =
        (.ok (draft, rest), t) ∧
        draft.inclusions = [] ∧ "@a" ∈ Lowering.invoked (String.ofList rest) ∧
        (Lowering.lower (String.ofList rest)).1 =
          "\x7b% raw %\x7d\x7b\x7b% include \"@a\" %\x7d\x7b% endraw %\x7d" := by
  intro text s
  have plain : Directive.next? [] text.toList = none := by decide +kernel
  refine ⟨by decide +kernel, by decide +kernel, .empty, text.toList, s, ?_, rfl, by decide +kernel,
    by decide +kernel⟩
  rw [gather]
  split
  · rfl
  · next sight found =>
    rw [plain] at found
    cases found

end Session

end Collage
