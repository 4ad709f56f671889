import Collage.Proofs.Lowering.Tags
import Collage.Proofs.Resolution.Replay
import Collage.Proofs.Resolution.Termination
import Collage.Proofs.Resolution.Travel

/-! # Where definitions and includes come from

A definition of a node is a define block of a template that went into the node, or the body of one
(`Node.Composed.exists_source`).  So an include in a definition was written in such a template; and
where includes come from directives alone (`Source.Directed`), the template includes the name by
reference (`Node.Composed.exists_asks`).
-/

namespace Collage

open Directive (left met references nameOf)

/-! ## Where includes come from -/

namespace Lowering

variable {text reference : String} {piece : List Char}

/-- The texts that lowering writes the invocations of as tags: what stands outside of the define
blocks, and what stands inside of each. -/
def pieces (text : String) : List (List Char) :=
  (split text.toList).1 :: (split text.toList).2.map (·.body)

theorem mem_invoked_of_piece (member : piece ∈ pieces text) (calls : reference ∈ called piece) :
    reference ∈ invoked text := by
  rw [invoked, List.mem_append, List.mem_flatMap]
  rcases List.mem_cons.1 member with rfl | member
  · exact .inl calls
  · obtain ⟨b, block, rfl⟩ := List.mem_map.1 member
    exact .inr ⟨b, block, calls⟩

/-- What a define block makes of a name is the block's body, lowered. -/
theorem of_lookup_lower {k definition : String}
    (found : (lower text).2.reverse.lookup k = some definition) :
    '"' ∉ k.toList ∧ ∃ piece ∈ pieces text, definition.toList = lowerActions piece := by
  obtain ⟨before, after, eq, -⟩ := List.lookup_eq_some_iff.1 found
  have member : (k, definition) ∈ (lower text).2 := by
    rw [← List.mem_reverse, eq]
    simp
  obtain ⟨b, block, same⟩ := List.mem_map.1 member
  cases same
  refine ⟨by simpa using free_of_mem_split block, b.body, ?_, by simp⟩
  exact List.mem_cons_of_mem _ (List.mem_map_of_mem block)

/-- In what is left of a text includes come from directives alone: what it invokes was met, and it
begins no tags itself. -/
structure Directed (text : String) : Prop where
  invoked : ∀ reference ∈ invoked (left text), reference ∈ references (met text)
  tagless : ∀ piece ∈ pieces (left text), Tagless piece

instance (text : String) : Decidable (Directed text) :=
  decidable_of_iff (_ ∧ _) ⟨fun ⟨invoked, tagless⟩ => ⟨invoked, tagless⟩,
    fun directed => ⟨directed.invoked, directed.tagless⟩⟩

/-- A tag stands for a reference that is met; it is the name in the tag, if there is no quote in
that. -/
theorem Directed.exists_of_includeTag {name : List Char} (directed : Directed text)
    (member : piece ∈ pieces (left text)) (tag : includeTag name <:+: lowerActions piece) :
    ∃ reference ∈ references (met text), reference.toList ++ ['"'] <+: name ++ ['"'] := by
  obtain ⟨s, found, same⟩ := Lowering.exists_of_includeTag [] (directed.tagless piece member) tag
  refine ⟨String.ofList s.reference, directed.invoked _ (mem_invoked_of_piece member ?_), ?_⟩
  · exact List.mem_map_of_mem found
  · simpa using same

end Lowering

namespace Source

variable {source : Source} {name k definition reference : String}

/-- The template of a name declares a definition in a define block; the last one counts. -/
def Defines (source : Source) (name k definition : String) : Prop :=
  ∃ text, source.text? name = some text ∧
    (Lowering.lower (left text)).2.reverse.lookup k = some definition

/-- The template of a name includes a reference. -/
def Asks (source : Source) (name reference : String) : Prop :=
  ∃ text, source.text? name = some text ∧ reference ∈ references (met text)

/-- In the templates of a source includes come from directives alone, and no template is called by a
name with the marker. -/
structure Directed (source : Source) : Prop where
  unmarked : source.Unmarked
  texts : ∀ name text, Name.normalize name = name → source.text? name = some text →
    Lowering.Directed text

/-- The templates of a source may be looked through by their names. -/
theorem directed_of_names (all : ∀ name ∈ source.names, ∀ text ∈ source.text? name,
    name.toList.head? ≠ some '@' ∧ Lowering.Directed text) : source.Directed where
  unmarked := fun name text normal known =>
    (all name (mem_names_of_text? normal known) text known).1
  texts := fun name text normal known => (all name (mem_names_of_text? normal known) text known).2

theorem Asks.head? (asks : source.Asks name reference) : reference.toList.head? = some '@' := by
  obtain ⟨text, -, member⟩ := asks
  exact Directive.head?_of_mem_references member

end Source

/-- The source of a definition includes another definition by its name. -/
def Artifact.Includes (a : Artifact) (k reference : String) : Prop :=
  ∃ definition ∈ a.definition? k,
    Lowering.includeTag reference.toList <:+: definition.toList

instance (a : Artifact) (k reference : String) : Decidable (a.Includes k reference) :=
  inferInstanceAs (Decidable (∃ definition ∈ a.definition? k, _ <:+: definition.toList))

namespace Recipe

variable {r : Recipe} {k definition : String}

/-- The artifacts that go into a template, in the order in which they have the word on a name that
is nobody's own. -/
def sources (r : Recipe) : List Artifact := r.layout.toList ++ r.inclusions.map (·.2)

theorem definition?_cases (found : r.definition? k = some definition) :
    (k = r.root ∧ definition = r.body) ∨ r.own? k = some definition ∨
      (∃ a, r.inclusions.lookup k = some a ∧ a.definition? k = some definition) ∨
        (r.layout.bind (·.definition? k)).or (r.companion? k) = some definition := by
  rw [definition?] at found
  split at found
  · next root =>
    cases found
    exact .inl ⟨root.1, rfl⟩
  · rw [below?] at found
    right
    cases own : r.own? k with
    | some source =>
      rw [own] at found
      exact .inl found
    | none =>
      right
      simp only [own] at found
      cases included : r.inclusions.lookup k with
      | some a =>
        simp only [included] at found
        exact .inl ⟨a, rfl, found⟩
      | none =>
        right
        simp only [included] at found
        cases based : r.layout.bind (·.definition? k) with
        | some source => simpa only [based, Option.some_or] using found
        | none => simpa only [based, Option.none_or] using found

/-- Of a name that is not the root of what is included, the first artifact to declare it has the
definition. -/
theorem findSome?_sources (others : ∀ i ∈ r.inclusions, k ≠ i.2.name) :
    r.sources.findSome? (·.definition? k) =
      (r.layout.bind (·.definition? k)).or (r.companion? k) := by
  have brought : ∀ i ∈ r.inclusions, i.2.companion? k = i.2.definition? k := fun i member => by
    rw [Artifact.companion?, if_neg (others i member)]
  have companions : r.companion? k = (r.inclusions.map (·.2)).findSome? (·.definition? k) :=
    calc r.companion? k = (r.inclusions.map fun i => i.2.companion? k).findSome? id := by
          rw [List.findSome?_map]
          rfl
      _ = (r.inclusions.map fun i => i.2.definition? k).findSome? id := by
          rw [List.map_congr_left brought]
      _ = (r.inclusions.map (·.2)).findSome? (·.definition? k) := by
          rw [List.findSome?_map, List.findSome?_map]
          rfl
  rw [sources, List.findSome?_append, companions]
  cases r.layout with
  | none => rfl
  | some a => simp

end Recipe

/-! ## Where definitions come from -/

namespace Node

variable {source : Source} {tools : Tools} {kind : OutputKind} {n m d e u v : Node Artifact}
  {k reference definition : String}

/-- Nodes that are composed of one source look the same, if they are called the same. -/
theorem Composed.view_eq (composed : n.Composed source tools kind)
    (other : m.Composed source tools kind) (same : n.name = m.name) : n.view = m.view := by
  -- Both are put together again, by one session.
  let s := Session.start source tools .disabled []
  have bare : Session.Bare source tools kind [] { s with flight := .empty } :=
    ⟨by cases kind <;> rfl, rfl, rfl, rfl, rfl⟩
  have again := fun y composed => Session.replay s.room y _ bare composed (by simp)
  have room := Session.resolve_has_room kind n.name s rfl
  cases outcome : (Session.preprocess kind s.room n.name { s with flight := .empty }).1 with
  | error halt => exact absurd ((again n composed).of_error outcome) (room.of_error outcome)
  | ok made =>
    have first := (again n composed).of_ok outcome
    have second := (again m other).of_ok (same ▸ outcome)
    exact first.symm.trans second

/-- What a node is made of: its text, and the nodes that went into it in the order in which they
have the word on a name that is neither defined in the text nor included. -/
structure Made (source : Source) (n : Node Artifact) (text : String)
    (order : List (Node Artifact)) : Prop where
  known : source.text? n.name = some text
  mem_order : ∀ d, d ∈ order ↔ d ∈ n.dependencies
  asked : ∀ reference ∈ references (met text), ∃ d ∈ n.dependencies,
    d.name = nameOf reference ∧ (d.artifact.definition? reference).isSome = true
  found : ∀ k definition, n.artifact.definition? k = some definition →
    (k = n.artifact.name ∧ definition = (Lowering.lower (left text)).1) ∨
      (Lowering.lower (left text)).2.reverse.lookup k = some definition ∨
        (∃ d ∈ n.dependencies, d.name = nameOf k ∧ d.artifact.definition? k = some definition) ∨
          (∃ d ∈ n.dependencies, d.artifact.definition? k = some definition) ∧
            ((∀ d ∈ n.dependencies, k ≠ d.artifact.name) →
              order.findSome? (·.artifact.definition? k) = some definition)

theorem IsComposition.exists_made (composition : n.IsComposition source tools kind) :
    ∃ text order, n.Made source text order := by
  obtain ⟨text, draft, known, used, reflects, built, declared, root, definitions⟩ :=
    composition.recipe
  have entry : ∀ i ∈ draft.inclusions, i.2 ∈ n.dependencies ∧ i.2.name = nameOf i.1 :=
    built ▸ reflects.included
  have based : ∀ l, draft.layout = some l → l ∈ n.dependencies := built ▸ reflects.based
  have sources : (draft.recipe n.name (left text)).sources =
      (draft.layout.toList ++ draft.inclusions.map (·.2)).map (·.artifact) := by
    cases layout : draft.layout <;> simp [Recipe.sources, Draft.recipe, layout]
  refine ⟨text, draft.layout.toList ++ draft.inclusions.map (·.2), known, ?_, ?_, ?_⟩
  · intro d
    rw [List.mem_append, Option.mem_toList, List.mem_map]
    constructor
    · rintro (layout | ⟨i, inside, rfl⟩)
      · exact based d layout
      · exact (entry i inside).1
    · exact fun member => used d (built ▸ member)
  · intro reference member
    rw [← reflects.inclusions] at member
    obtain ⟨i, inside, rfl⟩ := List.mem_map.1 member
    exact ⟨i.2, (entry i inside).1, (entry i inside).2,
      declared (i.1, i.2.artifact) (List.mem_map_of_mem inside)⟩
  · intro k definition found
    rw [definitions] at found
    rcases Recipe.definition?_cases found with ⟨isRoot, body⟩ | own | ⟨a, included, found⟩ | found
    · exact .inl ⟨isRoot.trans root.symm, body⟩
    · exact .inr (.inl own)
    · rw [Draft.recipe, Draft.lookup_artifacts, Option.map_eq_some_iff] at included
      obtain ⟨d, looked, rfl⟩ := included
      obtain ⟨before, after, eq, -⟩ := List.lookup_eq_some_iff.1 looked
      obtain ⟨inside, named⟩ := entry (k, d) (by simp [eq])
      exact .inr (.inr (.inl ⟨d, inside, named, found⟩))
    · refine .inr (.inr (.inr ⟨?_, fun others => ?_⟩))
      · rcases Option.or_eq_some_iff.1 found with found | ⟨-, found⟩
        · obtain ⟨a, layout, found⟩ := Option.bind_eq_some_iff.1 found
          obtain ⟨l, isLayout, rfl⟩ := Option.map_eq_some_iff.1 layout
          exact ⟨l, based l isLayout, found⟩
        · obtain ⟨j, member, found⟩ := List.exists_of_findSome?_eq_some found
          obtain ⟨i, inside, rfl⟩ := List.mem_map.1 member
          rw [Artifact.companion?] at found
          split at found
          · cases found
          · exact ⟨i.2, (entry i inside).1, found⟩
      · rw [← Recipe.findSome?_sources, sources, List.findSome?_map] at found
        · exact found
        · intro j member
          obtain ⟨i, inside, rfl⟩ := List.mem_map.1 member
          exact others i.2 (entry i inside).1

/-- A definition comes from a define block of a template that went into the node, or is the body of
one. -/
theorem Composed.exists_source (composed : n.Composed source tools kind)
    (found : n.artifact.definition? k = some definition) :
    ∃ u text, n.Embeds u ∧ source.text? u.name = some text ∧
      ((Lowering.lower (left text)).2.reverse.lookup k = some definition ∨
        k = u.artifact.name ∧ definition = (Lowering.lower (left text)).1) := by
  induction size : sizeOf n using Nat.strongRecOn generalizing n with
  | ind _ ih =>
    obtain ⟨text, order, made⟩ := (composed n (.refl n)).exists_made
    -- What is not of the node's own template comes from a part of it.
    have below : ∀ d ∈ n.dependencies, d.artifact.definition? k = some definition →
        ∃ u text, n.Embeds u ∧ source.text? u.name = some text ∧
          ((Lowering.lower (left text)).2.reverse.lookup k = some definition ∨
            k = u.artifact.name ∧ definition = (Lowering.lower (left text)).1) := by
      intro d member found
      obtain ⟨u, text, embeds, origin⟩ :=
        ih _ (size ▸ sizeOf_lt_of_mem member) (composed.of_mem member) found rfl
      exact ⟨u, text, .step member embeds, origin⟩
    rcases made.found k definition found with body | own | ⟨d, member, -, found⟩ |
      ⟨⟨d, member, found⟩, -⟩
    · exact ⟨n, text, .refl n, made.known, .inr body⟩
    · exact ⟨n, text, .refl n, made.known, .inl own⟩
    · exact below d member found
    · exact below d member found

/-- An include is brought about by a reference in a template that went into the node; it is the name
that is included, if there is no quote in that. -/
theorem Composed.exists_asks (composed : n.Composed source tools kind)
    (directed : source.Directed) (includes : n.artifact.Includes k reference) :
    ∃ u asked, n.Embeds u ∧ source.Asks u.name asked ∧
      asked.toList ++ ['"'] <+: reference.toList ++ ['"'] := by
  obtain ⟨definition, found, tag⟩ := includes
  obtain ⟨u, text, embeds, known, origin⟩ := composed.exists_source found
  have lowered : ∃ piece ∈ Lowering.pieces (left text),
      definition.toList = Lowering.lowerActions piece := by
    rcases origin with own | ⟨-, rfl⟩
    · exact (Lowering.of_lookup_lower own).2
    · exact ⟨_, List.mem_cons_self, by simp [Lowering.lower]⟩
  obtain ⟨piece, member, eq⟩ := lowered
  rw [eq] at tag
  obtain ⟨asked, met, same⟩ := (directed.texts u.name text (composed u embeds).normal
    known).exists_of_includeTag member tag
  exact ⟨u, asked, embeds, ⟨text, known, met⟩, same⟩

/-- A name with the marker is defined in a define block. -/
theorem Composed.exists_defines (composed : n.Composed source tools kind)
    (unmarked : source.Unmarked) (marked : k.toList.head? = some '@')
    (found : n.artifact.definition? k = some definition) :
    ∃ u, n.Embeds u ∧ source.Defines u.name k definition := by
  obtain ⟨u, text, embeds, known, own | ⟨isRoot, -⟩⟩ := composed.exists_source found
  · exact ⟨u, embeds, text, known, own⟩
  · exact absurd isRoot ((composed.of_embeds embeds).root_ne unmarked marked)

end Node

end Collage
