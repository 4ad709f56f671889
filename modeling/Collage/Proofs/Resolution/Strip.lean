import Collage.Proofs.Directive.Seam
import Collage.Proofs.Resolution.Walk

/-! # Resolving a text that shrinks

The directives of a text are looked for twice: once in the text as it is, to refuse a second layout,
and once while they are resolved, in a text from which the layout was cut out on the way.  A text is
`Session.Undisturbed` if both come to the same.  That is so exactly where no directive joins at the
seam (`Session.undisturbed_iff`).
-/

namespace Collage

open Directive (shown met left scan withoutLayout closedUp request Single Seamless)

variable {kind : OutputKind} {name parent text : String}

/-- No second layout is to come. -/
def Draft.Admits (d : Draft) (sights : List Directive.Sighting) : Prop :=
  Single sights ∧ (d.layout.isSome = true → ∀ s ∈ sights, s.kind = .inclusion)

namespace Draft.Admits

variable {d : Draft} {sight : Directive.Sighting} {rest : List Directive.Sighting}

theorem of_single {sights : List Directive.Sighting} (single : Single sights) :
    empty.Admits sights :=
  ⟨single, by simp [empty]⟩

theorem of_inclusion (admits : d.Admits (sight :: rest)) (inclusion : sight.kind = .inclusion) :
    d.Admits rest :=
  ⟨(Directive.single_cons_of_inclusion inclusion).1 admits.1,
    fun based s member => admits.2 based s (List.mem_cons_of_mem _ member)⟩

theorem not_second (admits : d.Admits (sight :: rest)) (layout : sight.kind = .layout) :
    ¬ d.layout.isSome = true := by
  intro second
  have inclusion := admits.2 second sight List.mem_cons_self
  rw [layout] at inclusion
  cases inclusion

theorem take (admits : d.Admits (sight :: rest)) (node : Node Artifact) :
    (d.take sight node).Admits rest := by
  unfold Draft.take
  cases kindOf : sight.kind with
  | layout =>
    have only := (Directive.single_cons_of_layout kindOf).1 admits.1
    refine ⟨?_, fun _ => only⟩
    rw [Single, List.filter_eq_nil_iff.2 fun s member => by simp [only s member]]
    exact Nat.zero_le 1
  | inclusion => exact admits.of_inclusion kindOf

end Draft.Admits

namespace Session

variable {visit : Visit} {s : Session}

theorem asksTwice_eq_false_iff : asksTwice text = false ↔ Single (shown text) := by
  have kinds : (fun d : Directive => decide (d.kind = .layout)) ∘ (·.directive) =
      fun s : Directive.Sighting => decide (s.kind = .layout) := rfl
  rw [asksTwice, Directive.scan_eq, List.filter_map, List.length_map, kinds, Single,
    decide_eq_false_iff_not, Nat.not_lt]

/-! ## Directives that ask for the same -/

theorem meet_congr {sight sight' : Directive.Sighting}
    (same : sight.directive.request = sight'.directive.request) (d : Draft) (s : Session) :
    meet kind visit parent sight d s = meet kind visit parent sight' d s := by
  simp only [request, Prod.mk.injEq] at same
  obtain ⟨kinds, references, names⟩ := same
  have kinds : sight.kind = sight'.kind := kinds
  simp only [meet, dependency, kinds, references, names]

theorem follow_congr (kind : OutputKind) (visit : Visit) (parent : String)
    {sights sights' : List Directive.Sighting}
    (same : sights.map (·.directive.request) = sights'.map (·.directive.request)) (d : Draft)
    (s : Session) : follow kind visit parent sights d s = follow kind visit parent sights' d s := by
  induction sights generalizing sights' d s with
  | nil =>
    cases sights' with
    | nil => rfl
    | cons sight' rest' => cases same
  | cons sight rest ih =>
    cases sights' with
    | nil => cases same
    | cons sight' rest' =>
      rw [List.map_cons, List.map_cons, List.cons.injEq] at same
      rw [follow, follow, meet_congr same.1]
      rcases meet kind visit parent sight' d s with ⟨halt | d', t⟩
      · rfl
      · exact ih same.2 d' t

/-! ## No second layout -/

theorem follow_of_single (kind : OutputKind) (visit : Visit) (parent : String)
    {sights : List Directive.Sighting} (single : Single sights) (s : Session) :
    Ends (fun _ _ => True) (fun halt _ => halt ≠ .failed (.duplicateLayout parent))
      (follow kind visit parent sights .empty s) := by
  have loop : Loop kind visit parent (fun rest d _ => d.Admits rest)
      (fun halt _ => halt ≠ .failed (.duplicateLayout parent)) :=
    { second := fun admits layout second => absurd second (admits.not_second layout)
      repeated := fun admits inclusion _ => admits.of_inclusion inclusion
      again := fun admits _ node _ => admits.take node
      kept := fun admits _ _ _ node _ => admits.take node
      visited := by
        intro sight rest d s admits _ _ _
        rcases visit sight.directive.name s with ⟨(cause | _) | node, t⟩
        · exact nofun
        · exact nofun
        · exact admits.take node }
  exact (follow_rule loop sights (.of_single single)).imp (fun _ _ _ => trivial) fun _ _ => id

/-! ## Undisturbed texts -/

/-- That the layout is cut out of a text while its directives are resolved makes no difference.
Where the text shows a second layout none of them is resolved. -/
structure Undisturbed (text : String) : Prop where
  /-- The directives that are met are those that the text shows. -/
  visited : asksTwice text = false →
    (met text).map (·.directive.request) = (scan text).map request
  /-- Resolving them in the text that shrinks comes to what resolving those of the text does. -/
  followed : asksTwice text = false → ∀ kind visit name s,
    gather kind visit name [] text.toList .empty s =
      match follow kind visit name (shown text) .empty s with
      | (.error halt, t) => (.error halt, t)
      | (.ok draft, t) => (.ok (draft, (withoutLayout text).toList), t)
  /-- What is left shows the inclusions of the text and nothing else. -/
  shifted : asksTwice text = false → scan (left text) = closedUp text
  /-- A template with the text fails for a second layout if the text shows one. -/
  refused : ∀ kind visit name s, s.source.text? name = some text →
    ((build kind visit name s).1 = .error (.failed (.duplicateLayout name)) ↔
      asksTwice text = true)
  /-- It does so when nothing but the template itself was read. -/
  early : ∀ kind visit name s, s.source.text? name = some text → asksTwice text = true →
    (build kind visit name s).2 = (s.read name).2

theorem build_of_asksTwice (known : s.source.text? name = some text)
    (twice : asksTwice text = true) :
    build kind visit name s = (.error (.failed (.duplicateLayout name)), (s.read name).2) := by
  rw [build_eq, Source.body_of_text? known, if_pos twice]

theorem build_ne_duplicateLayout (known : s.source.text? name = some text)
    (once : asksTwice text = false) (single : Single (met text)) :
    (build kind visit name s).1 ≠ .error (.failed (.duplicateLayout name)) := by
  have followed := follow_of_single kind visit name single (s.read name).2
  rw [build_eq, Source.body_of_text? known, if_neg (by simp [once])]
  simp only
  revert followed
  rcases follow kind visit name (met text) .empty (s.read name).2 with ⟨halt | draft, t⟩
  · intro followed
    simpa [finish, Ends] using followed
  · intro _
    rw [finish]
    cases assembled : draft.assemble kind t.tools name (left text) with
    | error e =>
      rcases Draft.error_of_assemble assembled with ⟨_, _, rfl⟩ | ⟨_, rfl⟩ <;> simp
    | ok artifact => simp

/-- A text without a layout, or with one that leaves no seam, is met as it is shown. -/
theorem met_of_seamless (once : asksTwice text = false) (seamless : Seamless text) :
    (met text).map (·.directive.request) = (scan text).map request ∧ Single (met text) ∧
      scan (left text) = closedUp text := by
  have single := asksTwice_eq_false_iff.1 once
  cases found : Directive.layout? (shown text) with
  | none =>
    have same : met text = shown text :=
      Directive.course_of_inclusions (Directive.layout?_eq_none_iff.1 found)
    rw [Directive.left_eq (same ▸ single), withoutLayout, found, Directive.closedUp_of_none found,
      same, Directive.scan_eq, List.map_map]
    exact ⟨rfl, single, rfl⟩
  | some lay =>
    obtain ⟨shifted, single', visited⟩ :=
      Directive.scan_eq_closedUp found single (seamless lay found)
    rw [Directive.left_eq single']
    exact ⟨visited, single', shifted⟩

theorem single_met_of_requests
    (visited : (met text).map (·.directive.request) = (scan text).map request)
    (single : Single (shown text)) : Single (met text) := by
  have kinds : (met text).map (·.kind) = (shown text).map (·.kind) := by
    have firsts := congrArg (List.map Prod.fst) visited
    rw [Directive.scan_eq, List.map_map, List.map_map, List.map_map] at firsts
    exact firsts
  have count : ∀ sights : List Directive.Sighting,
      (sights.filter (·.kind = .layout)).length =
        ((sights.map (·.kind)).filter (· = .layout)).length := by
    intro sights
    rw [List.filter_map, List.length_map]
    rfl
  rw [Single, count] at single ⊢
  rwa [kinds]

/-- A text is undisturbed exactly where it shows a second layout, so that none is cut out, or no
directive joins at the seam of the one that is. -/
theorem undisturbed_iff (text : String) :
    Undisturbed text ↔ (asksTwice text = false → Seamless text) := by
  constructor
  · intro undisturbed once lay found d member joins
    have single := asksTwice_eq_false_iff.1 once
    -- What is met holds no second layout either, so what is left is the text without its layout.
    have single' := single_met_of_requests (undisturbed.visited once) single
    have shifted := undisturbed.shifted once
    rw [Directive.left_eq single'] at shifted
    exact Directive.not_mem_closedUp found single joins (shifted ▸ member)
  · intro seamless
    refine ⟨?_, ?_, ?_, ?_, ?_⟩
    · exact fun once => (met_of_seamless once (seamless once)).1
    · intro once kind visit name s
      obtain ⟨visited, single, -⟩ := met_of_seamless once (seamless once)
      have same : (met text).map (·.directive.request) =
          (shown text).map (·.directive.request) := by
        rw [visited, Directive.scan_eq, List.map_map]
        rfl
      -- The walk asks for what the text asks for, and ends with the same text.
      have followed := follow_congr kind visit name same .empty s
      have remains : Directive.remainder false [] text.toList = (withoutLayout text).toList := by
        rw [← Directive.left_eq single, left, String.toList_ofList]
      rw [gather_eq]
      simp only [Draft.empty, Option.isSome_none, remains] at followed ⊢
      rw [← followed]
      rfl
    · exact fun once => (met_of_seamless once (seamless once)).2.2
    · intro kind visit name s known
      constructor
      · intro refused
        by_contra once
        rw [Bool.not_eq_true] at once
        exact build_ne_duplicateLayout known once (met_of_seamless once (seamless once)).2.1 refused
      · intro twice
        rw [build_of_asksTwice known twice]
    · intro kind visit name s known twice
      rw [build_of_asksTwice known twice]

/-- Of three braces behind a layout the first one hides a second layout, until the first layout is
gone and a backslash stands before the brace. -/
theorem not_undisturbed_of_three_braces :
    ¬ Undisturbed ("\x7b% raw %\x7d\\\x7b\x7b layout \"@a\" \x7d\x7d" ++
      "\x7b\x7b\x7b layout \"@b\" \x7d\x7d\x7b% endraw %\x7d") := by
  intro undisturbed
  have lengths := congrArg List.length (undisturbed.visited (by decide +kernel))
  rw [List.length_map, List.length_map] at lengths
  exact absurd lengths (by decide +kernel)

end Session

end Collage
