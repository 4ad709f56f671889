import Collage.Proofs.Resolution.Cycles
import Collage.Proofs.Resolution.Recipe
import Collage.Proofs.Source.Names
import Collage.Template.Engine

/-! # Includes travel with their includer

What a template includes is declared in its artifact.  When it goes into another template itself,
as the layout or as something included, its definitions go along: a layout brings all of them, and
what is included brings all but its root (`Node.IsComposition.carries`).  The root is called after a
template and a reference begins with a marker, so where no template is called so, no include is
left behind (`Node.Composed.declares`, `Session.resolve_carries_includes`).
-/

namespace Collage

/-! ## References and their marker -/

namespace Directive

variable {hasLayout : Bool} {before ahead : List Char} {s : Sighting}

theorem spells_of_mem_course (member : s ∈ course hasLayout before ahead) :
    Spells s.kind s.reference s.markup := by
  fun_induction course hasLayout before ahead with
  | case1 => cases member
  | case2 hasLayout before ahead first found second =>
    obtain ⟨-, -, -, -, spells⟩ := of_next? found
    obtain rfl := List.mem_singleton.1 member
    exact spells
  | case3 hasLayout before ahead first found single ih =>
    obtain ⟨-, -, -, -, spells⟩ := of_next? found
    cases List.mem_cons.1 member with
    | inl same => exact same ▸ spells
    | inr later => exact ih later

/-- Whatever a text includes is referred to with the marker. -/
theorem head?_of_mem_references {text reference : String}
    (member : reference ∈ references (met text)) : reference.toList.head? = some '@' := by
  rw [references, List.mem_eraseDups, List.mem_map] at member
  obtain ⟨s, member, rfl⟩ := member
  obtain ⟨-, -, -, -, -, -, ⟨c, more, marked⟩, -⟩ :=
    spells_of_mem_course (List.mem_filter.1 member).1
  simp [Sighting.directive, marked]

end Directive

/-- No template is called by a name that begins with the marker of references. -/
def Source.Unmarked (source : Source) : Prop :=
  ∀ name text, Name.normalize name = name → source.text? name = some text →
    name.toList.head? ≠ some '@'

/-! ## What goes into a template -/

namespace Recipe

variable {r : Recipe} {a : Artifact} {k reference : String}

/-- A name is declared if something is included under it, or else the layout declares it or one of
the companions does. -/
theorem declares (included : ∀ i ∈ r.inclusions, (i.2.definition? i.1).isSome = true)
    (otherwise : r.inclusions.lookup k = none →
      (r.layout.bind (·.definition? k)).isSome = true ∨ (r.companion? k).isSome = true) :
    (r.definition? k).isSome = true := by
  have below : (r.below? k).isSome = true := by
    rw [below?]
    cases r.own? k with
    | some source => rfl
    | none =>
      cases found : r.inclusions.lookup k with
      | some a =>
        obtain ⟨before, after, eq, -⟩ := List.lookup_eq_some_iff.1 found
        exact included (k, a) (by simp [eq])
      | none =>
        rcases otherwise found with declared | declared
        · obtain ⟨source, known⟩ := Option.isSome_iff_exists.1 declared
          simp [known]
        · cases r.layout.bind (·.definition? k) with
          | some source => rfl
          | none => exact declared
  rw [definition?]
  split
  · rfl
  · exact below

theorem declares_included (included : ∀ i ∈ r.inclusions, (i.2.definition? i.1).isSome = true)
    (member : k ∈ r.inclusions.map (·.1)) : (r.definition? k).isSome = true := by
  exact declares included fun none => absurd member (Sorted.lookup_eq_none_iff.1 none)

/-- What is included brings all its definitions along but its root. -/
theorem companion?_of_mem (member : (reference, a) ∈ r.inclusions) (other : k ≠ a.name)
    (declared : (a.definition? k).isSome = true) : (r.companion? k).isSome = true := by
  rw [companion?, List.findSome?_isSome_iff]
  exact ⟨_, member, by rwa [Artifact.companion?, if_neg other]⟩

end Recipe

namespace Draft

variable {d d' : Draft} {rest : List Directive.Sighting} {kind : OutputKind} {tools : Tools}
  {name text : String}

/-- Each node of a draft is its layout or is included. -/
def Used (d : Draft) : Prop :=
  ∀ n ∈ d.dependencies, d.layout = some n ∨ ∃ i ∈ d.inclusions, i.2 = n

theorem used_empty : empty.Used := by
  simp [Used, empty]

theorem Used.take {sight : Directive.Sighting} (used : d.Used) (wants : d.Wants sight)
    (node : Node Artifact) : (d.take sight node).Used := by
  intro n member
  rw [dependencies_take] at member
  unfold Wants at wants
  unfold Draft.take
  cases kindOf : sight.kind with
  | layout =>
    simp only [kindOf] at wants ⊢
    rcases mem_addUnique member with member | rfl
    · -- There was no layout before, so the node was included.
      rcases used n member with based | included
      · rw [wants] at based
        cases based
      · exact .inr included
    · exact .inl rfl
  | inclusion =>
    rcases mem_addUnique member with member | rfl
    · refine (used n member).imp_right ?_
      rintro ⟨i, inside, rfl⟩
      exact ⟨i, List.mem_append_left _ inside, rfl⟩
    · exact .inr ⟨(sight.directive.reference, n), by simp [withInclusion], rfl⟩

theorem Gathers.used (gathers : d.Gathers rest d') (used : d.Used) : d'.Used := by
  induction gathers with
  | done d => exact used
  | repeated _ _ _ ih => exact ih used
  | taken node wants _ _ _ ih => exact ih (used.take wants node)

/-- An artifact is compiled from its definitions. -/
theorem compiled_assemble {artifact : Artifact}
    (assembled : d.assemble kind tools name text = .ok artifact) :
    ∃ compiled, artifact.compiled = some compiled ∧
      artifact.tools.engine.compile kind.escaping artifact.tools.library artifact.definitions =
        .ok compiled := by
  rw [assemble] at assembled
  cases merged : mergeAll (d.base name tools) d.inclusions with
  | error e => simp [merged] at assembled
  | ok a =>
    cases parsed : a.parse kind.escaping text with
    | error cause => simp [merged, parsed] at assembled
    | ok b =>
      simp only [merged, parsed, Except.ok.injEq] at assembled
      obtain ⟨compiled, made, rfl⟩ := Artifact.of_parse parsed
      exact assembled ▸ ⟨compiled, rfl, made⟩

end Draft

/-! ## Trees of nodes -/

namespace Node

variable {source : Source} {tools : Tools} {kind : OutputKind} {n d : Node Artifact}
  {k : String}

/-- What a node is made of, as the recipe that its definitions come from. -/
theorem IsComposition.recipe (composition : n.IsComposition source tools kind) :
    ∃ (text : String) (draft : Draft), source.text? n.name = some text ∧ draft.Used ∧
      draft.Reflects (Directive.met text) ∧ draft.dependencies = n.dependencies ∧
      let recipe := draft.recipe n.name (Directive.left text)
      (∀ i ∈ recipe.inclusions, (i.2.definition? i.1).isSome = true) ∧
        n.artifact.name = recipe.root ∧ ∀ k, n.artifact.definition? k = recipe.definition? k := by
  obtain ⟨-, text, draft, body, gathers, built, assembled⟩ := composition
  obtain ⟨reflects, declared, root, definitions⟩ := gathers.recipe assembled
  exact ⟨text, draft, Source.text?_of_body body, gathers.used Draft.used_empty, reflects, built,
    List.forall_mem_map.2 declared, root, definitions⟩

/-- A node declares what the nodes that it was built from declare, but for their roots. -/
theorem IsComposition.carries (composition : n.IsComposition source tools kind)
    (member : d ∈ n.dependencies) (other : k ≠ d.artifact.name)
    (declared : (d.artifact.definition? k).isSome = true) :
    (n.artifact.definition? k).isSome = true := by
  obtain ⟨text, draft, -, used, -, built, included, -, definitions⟩ := composition.recipe
  rw [definitions]
  refine Recipe.declares included fun _ => ?_
  rcases used d (built ▸ member) with based | ⟨i, inside, rfl⟩
  · exact .inl (by simpa [Draft.recipe, based] using declared)
  · exact .inr (Recipe.companion?_of_mem (List.mem_map_of_mem inside) other declared)

/-- The root of a node is called after it or after a node that went into it. -/
theorem Composed.exists_root (composed : n.Composed source tools kind) :
    ∃ m, n.Embeds m ∧ n.artifact.name = m.name := by
  -- The layout is a part of the node, so the way from layout to layout comes to an end.
  induction size : sizeOf n using Nat.strongRecOn generalizing n with
  | ind _ ih =>
    obtain ⟨text, draft, -, -, reflects, built, -, root, -⟩ := (composed n (.refl n)).recipe
    rw [Recipe.root, Draft.recipe] at root
    cases based : draft.layout with
    | none =>
      rw [based] at root
      exact ⟨n, .refl n, root⟩
    | some layout =>
      rw [based] at root
      have member : layout ∈ n.dependencies := built ▸ reflects.based layout based
      obtain ⟨m, embeds, named⟩ := ih (sizeOf layout) (size ▸ sizeOf_lt_of_mem member)
        (composed.of_mem member) rfl
      exact ⟨m, .step member embeds, root.trans named⟩

theorem Composed.root_ne (composed : n.Composed source tools kind) (unmarked : source.Unmarked)
    (marked : k.toList.head? = some '@') : k ≠ n.artifact.name := by
  rintro rfl
  obtain ⟨m, embeds, named⟩ := composed.exists_root
  have composition := composed m embeds
  obtain ⟨text, -, known, -⟩ := composition.recipe
  exact unmarked m.name text composition.normal known (named ▸ marked)

/-- A node declares whatever is included anywhere below it. -/
theorem Composed.declares (composed : n.Composed source tools kind) (unmarked : source.Unmarked)
    {u : Node Artifact} (embeds : n.Embeds u) :
    ∃ text, source.text? u.name = some text ∧
      ∀ reference ∈ Directive.references (Directive.met text),
        (n.artifact.definition? reference).isSome = true := by
  induction embeds with
  | refl n =>
    obtain ⟨text, draft, known, -, reflects, -, included, -, definitions⟩ :=
      (composed n (.refl n)).recipe
    refine ⟨text, known, fun reference member => ?_⟩
    rw [definitions]
    refine Recipe.declares_included included ?_
    rw [← reflects.inclusions] at member
    simpa [Draft.recipe] using member
  | @step n d u built _ ih =>
    obtain ⟨text, known, declared⟩ := ih (composed.of_mem built)
    refine ⟨text, known, fun reference member => ?_⟩
    have other :=
      (composed.of_mem built).root_ne unmarked (Directive.head?_of_mem_references member)
    exact (composed n (.refl n)).carries built other (declared reference member)

end Node

/-! ## Resolutions -/

namespace Session

/-- Over a source that nobody changes and in which no name begins with the marker, whatever is kept:
a template that is resolved declares, and has compiled, whatever it or any template below it
includes. -/
theorem resolve_carries_includes (source : Source) (tools : Tools) (mode : CacheMode)
    (steps : List Step) (kind : OutputKind) (spelling : String) (node : Node Artifact)
    (unmarked : source.Unmarked) (keeps : ∀ step ∈ steps, step.keepsSource = true)
    (found : (((start source tools mode []).run steps).resolve kind spelling).1 = .ok node) :
    (∃ compiled, node.artifact.compiled = some compiled ∧
      compiled.names = Sorted.keys node.artifact.definitions ∧
      node.artifact.tools.engine.compile kind.escaping node.artifact.tools.library
        node.artifact.definitions = .ok compiled) ∧
    ∀ u, node.Embeds u → ∃ text, source.text? u.name = some text ∧
      ∀ reference ∈ Directive.references (Directive.met text),
        (node.artifact.definition? reference).isSome = true := by
  have truthful := run_truthful source tools mode keeps kind
  obtain ⟨-, composed⟩ := truthful.of_resolve found
  obtain ⟨-, text, draft, -, -, -, assembled⟩ := composed node (.refl node)
  obtain ⟨compiled, held, made⟩ := Draft.compiled_assemble assembled
  exact ⟨⟨compiled, held, node.artifact.tools.engine.names_compile made, made⟩,
    fun u embeds => composed.declares unmarked embeds⟩

/-- A page that includes a part, which includes another one itself and was kept before. -/
theorem resolve_carries_includes_of_page :
    let source := Source.store [
      ("leaf", "\x7b\x7b define \"@leaf\" \x7d\x7dx\x7b\x7b end \x7d\x7d".toUTF8),
      ("page", "\x7b\x7b template \"@part\" . \x7d\x7d".toUTF8),
      ("part", ("\x7b\x7b define \"@part\" \x7d\x7d\x7b\x7b template \"@leaf\" . \x7d\x7d" ++
        "\x7b\x7b end \x7d\x7d").toUTF8)]
    let steps : List Step := [.change (.clear .text), .prepare .text "part"]
    let s := (start source .empty .enabled []).run steps
    source.Unmarked ∧ (∀ step ∈ steps, step.keepsSource = true) ∧
      ∃ node, (s.resolve .text "./page").1 = .ok node ∧
        ∀ u, node.Embeds u → ∃ text, source.text? u.name = some text ∧
          ∀ reference ∈ Directive.references (Directive.met text),
            (node.artifact.definition? reference).isSome = true := by
  intro source steps s
  have unmarked : source.Unmarked := by
    intro name text normal known
    have key := Source.mem_keys_of_text? known
    rw [normal] at key
    simp only [Sorted.keys, List.map_cons, List.map_nil, List.mem_cons, List.not_mem_nil,
      or_false] at key
    rcases key with rfl | rfl | rfl <;> decide
  have keeps : ∀ step ∈ steps, step.keepsSource = true := by
    simp [steps, Step.keepsSource, Change.keepsSource]
  have finished : (s.resolve .text "./page").1.toBool = true := by decide +kernel
  cases found : (s.resolve .text "./page").1 with
  | error e =>
    rw [found] at finished
    cases finished
  | ok node =>
    exact ⟨unmarked, keeps, node, rfl, (resolve_carries_includes source .empty .enabled steps .text
      "./page" node unmarked keeps found).2⟩

end Session

end Collage
