import Collage.Proofs.Artifact.Definitions
import Collage.Proofs.Directive.Sightings
import Collage.Proofs.Distinct
import Collage.Proofs.Resolution.Composition
import Collage.Template.Engine

/-! # What a template is put together from

A `Recipe` is what goes into a template: its name, its text without the layout directive, the
artifact of its layout and the artifacts of what it includes.  `Recipe.definition?` says which of
these has the word on a name.  Every template that is put together has the definitions of its recipe
(`Session.build_recipe`), and its recipe is made of the directives that are met and of the nodes
that it was built from.
-/

namespace Collage

/-- What goes into a template. -/
structure Recipe where
  name : String
  /-- The text without its layout directive. -/
  text : String
  layout : Option Artifact
  /-- The included references, in the order of their first occurrences. -/
  inclusions : List (String × Artifact)

namespace Recipe

/-- The name of the root definition: a template takes over the root of its layout. -/
def root (r : Recipe) : String :=
  match r.layout with
  | some artifact => artifact.name
  | none => r.name

/-- The text outside of the define blocks. -/
def body (r : Recipe) : String := (Lowering.lower r.text).1

/-- The last definition of a name in the text. -/
def own? (r : Recipe) (name : String) : Option String :=
  (Lowering.lower r.text).2.reverse.lookup name

/-- The first definition of a name that comes along with something included; roots do not. -/
def companion? (r : Recipe) (name : String) : Option String :=
  r.inclusions.findSome? fun i => i.2.companion? name

/-- The definition of a name without regard to the body: what the text declares, or else what is
included under the name, or else the layout's, or else that of a companion. -/
def below? (r : Recipe) (name : String) : Option String :=
  match r.own? name with
  | some source => some source
  | none =>
    match r.inclusions.lookup name with
    | some artifact => artifact.definition? name
    | none =>
      match r.layout.bind (·.definition? name) with
      | some source => some source
      | none => r.companion? name

/-- The definition of a name.  The root is the body, unless that is blank and there is another
definition of the root. -/
def definition? (r : Recipe) (name : String) : Option String :=
  if name = r.root ∧ (Lowering.isBlank r.body = false ∨ r.below? name = none) then some r.body
  else r.below? name

end Recipe

/-! ## The directives that count -/

namespace Directive

/-- The references that are included by directives, in the order of their first occurrences. -/
def references (sights : List Sighting) : List String :=
  ((sights.filter (·.kind = .inclusion)).map (·.directive.reference)).eraseDups

/-- The names that directives refer to, in the order of their first occurrences. -/
def referents (sights : List Sighting) : List String :=
  (sights.map (·.directive.name)).eraseDups

end Directive

namespace Draft

variable {d d' : Draft} {sight : Directive.Sighting} {passed rest : List Directive.Sighting}
  {node : Node Artifact} {kind : OutputKind} {tools : Tools} {name text : String}

/-! ## From a draft to its artifact -/

/-- What goes into a template with a draft of its directives. -/
def recipe (d : Draft) (name text : String) : Recipe where
  name := name
  text := text
  layout := d.layout.map (·.artifact)
  inclusions := d.inclusions.map fun i => (i.1, i.2.artifact)

theorem lookup_artifacts (inclusions : List (String × Node Artifact)) (name : String) :
    (inclusions.map fun i => (i.1, i.2.artifact)).lookup name =
      (inclusions.lookup name).map (·.artifact) := by
  induction inclusions with
  | nil => rfl
  | cons first rest ih =>
    obtain ⟨reference, node⟩ := first
    rw [List.map_cons, Sorted.lookup_cons_ite, Sorted.lookup_cons_ite, ih]
    split <;> rfl

theorem name_base (d : Draft) (name text : String) (tools : Tools) :
    (d.base name tools).name = (d.recipe name text).root := by
  rw [base, Recipe.root, recipe]
  cases d.layout <;> rfl

theorem definition?_base (d : Draft) (name k : String) (tools : Tools) :
    (d.base name tools).definition? k =
      (d.layout.map (·.artifact)).bind (·.definition? k) := by
  rw [base]
  cases d.layout <;> rfl

/-- The artifact of a draft has the definitions of its recipe. -/
theorem definition?_assemble {artifact : Artifact} (distinct : (d.inclusions.map (·.1)).Nodup)
    (assembled : d.assemble kind tools name text = .ok artifact) :
    artifact.name = (d.recipe name text).root ∧
      (∀ i ∈ d.inclusions, (i.2.artifact.definition? i.1).isSome = true) ∧
      ∀ k, artifact.definition? k = (d.recipe name text).definition? k := by
  rw [assemble] at assembled
  cases merged : mergeAll (d.base name tools) d.inclusions with
  | error e =>
    rw [merged] at assembled
    cases assembled
  | ok a =>
    rw [merged] at assembled
    simp only at assembled
    cases parsed : a.parse kind.escaping text with
    | error cause =>
      rw [parsed] at assembled
      cases assembled
    | ok b =>
      rw [parsed] at assembled
      cases assembled
      obtain ⟨named, declared, merge⟩ := definition?_mergeAll distinct merged
      obtain ⟨same, parse⟩ := Artifact.definition?_parse parsed
      have root : a.name = (d.recipe name text).root := named.trans (d.name_base name text tools)
      -- Beneath the body stands what the merges came to, with the define blocks laid over it.
      have below : ∀ k, a.overlaid? text k = (d.recipe name text).below? k := by
        intro k
        rw [Artifact.overlaid?, merge, Recipe.below?, definition?_base, recipe, lookup_artifacts,
          Recipe.own?]
        cases (Lowering.lower text).2.reverse.lookup k with
        | some source => rfl
        | none =>
          cases d.inclusions.lookup k with
          | some node => rfl
          | none =>
            simp only [Option.none_or, Option.map_none, Recipe.companion?, List.findSome?_map]
            cases (d.layout.map (·.artifact)).bind (·.definition? k) <;> rfl
      refine ⟨same.trans root, declared, ?_⟩
      intro k
      rw [parse, Artifact.definition?_define, Recipe.definition?, root, below, below]
      by_cases isRoot : k = (d.recipe name text).root
      · subst isRoot
        rfl
      · simp [isRoot]

/-! ## From directives to a draft -/

/-- The draft holds, for the directives passed so far, the node of the layout and those of the
included references; each is the one node of its name. -/
structure Reflects (passed : List Directive.Sighting) (d : Draft) : Prop where
  layout : d.layout.map (·.name) = (Directive.layout? passed).map (·.directive.name)
  inclusions : d.inclusions.map (·.1) = Directive.references passed
  names : d.dependencies.map (·.name) = Directive.referents passed
  based : ∀ n, d.layout = some n → n ∈ d.dependencies
  included : ∀ i ∈ d.inclusions, i.2 ∈ d.dependencies ∧ i.2.name = Directive.nameOf i.1

theorem reflects_empty : empty.Reflects [] :=
  ⟨rfl, rfl, rfl, by simp [empty], by simp [empty]⟩

theorem Reflects.includes_iff (reflects : d.Reflects passed) (reference : String) :
    d.includes reference = true ↔ reference ∈ Directive.references passed := by
  rw [← reflects.inclusions, includes, List.any_eq_true]
  simp

theorem Reflects.repeated (reflects : d.Reflects passed) (inclusion : sight.kind = .inclusion)
    (again : d.includes sight.directive.reference = true) : d.Reflects (passed ++ [sight]) where
  layout := by
    rw [reflects.layout, Directive.layout?, Directive.layout?, List.find?_append]
    simp [inclusion]
  inclusions := by
    have known := (reflects.includes_iff _).1 again
    rw [Directive.references, List.mem_eraseDups] at known
    rw [reflects.inclusions, Directive.references, Directive.references, List.filter_append,
      List.filter_cons_of_pos (by simpa using inclusion), List.map_append]
    exact (eraseDups_concat_of_mem known).symm
  names := by
    -- The reference was passed before, and its name with it.
    have known := (reflects.includes_iff _).1 again
    rw [Directive.references, List.mem_eraseDups, List.mem_map] at known
    obtain ⟨other, member, same⟩ := known
    have named : sight.directive.name ∈ passed.map (·.directive.name) :=
      List.mem_map.2 ⟨other, (List.mem_filter.1 member).1, congrArg Directive.nameOf same⟩
    rw [reflects.names, Directive.referents, Directive.referents, List.map_append]
    exact (eraseDups_concat_of_mem named).symm
  based := reflects.based
  included := reflects.included

/-- A node that is taken in is the one node of its name from then on. -/
theorem mem_take (same : ∀ known, d.resolved? node.name = some known → known = node)
    (sight : Directive.Sighting) : node ∈ (d.take sight node).dependencies := by
  cases found : d.resolved? node.name with
  | none => exact mem_take_of_new found sight
  | some known =>
    obtain rfl := same known found
    rw [dependencies_take]
    exact mem_addUnique_of_mem (mem_of_resolved? found).1

theorem names_addUnique (nodes : List (Node Artifact)) (node : Node Artifact) :
    (addUnique nodes node).map (·.name) =
      if node.name ∈ nodes.map (·.name) then nodes.map (·.name)
      else nodes.map (·.name) ++ [node.name] := by
  have known : nodes.any (·.name == node.name) = true ↔ node.name ∈ nodes.map (·.name) := by
    simp
  unfold addUnique
  by_cases member : node.name ∈ nodes.map (·.name)
  · rw [if_pos (known.2 member), if_pos member]
  · rw [if_neg (fun any => member (known.1 any)), if_neg member, List.map_append]
    rfl

theorem Reflects.names_take (reflects : d.Reflects passed)
    (named : node.name = sight.directive.name) :
    (d.take sight node).dependencies.map (·.name) = Directive.referents (passed ++ [sight]) := by
  have names := reflects.names
  rw [Directive.referents] at names
  rw [dependencies_take, names_addUnique, Directive.referents, List.map_append, names, named]
  split
  · next known => exact (eraseDups_concat_of_mem (List.mem_eraseDups.1 known)).symm
  · next new => exact (eraseDups_concat_of_not_mem (mt List.mem_eraseDups.2 new)).symm

theorem Reflects.take (reflects : d.Reflects passed) (wants : d.Wants sight)
    (named : node.name = sight.directive.name)
    (same : ∀ known, d.resolved? sight.directive.name = some known → known = node) :
    (d.take sight node).Reflects (passed ++ [sight]) := by
  have held : node ∈ (d.take sight node).dependencies := mem_take (named ▸ same) sight
  have kept : ∀ n ∈ d.dependencies, n ∈ (d.take sight node).dependencies := fun n member =>
    dependencies_take .. ▸ mem_addUnique_of_mem member
  have names : (d.take sight node).dependencies.map (·.name) =
      Directive.referents (passed ++ [sight]) := reflects.names_take named
  unfold Wants at wants
  cases kindOf : sight.kind with
  | layout =>
    simp only [kindOf] at wants
    have first : Directive.layout? passed = none := by
      have none := reflects.layout
      rw [wants] at none
      simpa using none.symm
    have taken : d.take sight node = d.withLayout node := by
      simp only [Draft.take, kindOf]
    rw [taken] at held kept names ⊢
    refine ⟨?_, ?_, names, ?_, ?_⟩
    · rw [Directive.layout?] at first
      rw [Directive.layout?, List.find?_append, first]
      simp [kindOf, withLayout, named]
    · rw [withLayout, reflects.inclusions, Directive.references, Directive.references,
        List.filter_append]
      simp [kindOf]
    · intro n isLayout
      cases isLayout
      exact held
    · intro i member
      obtain ⟨inside, eq⟩ := reflects.included i member
      exact ⟨kept _ inside, eq⟩
  | inclusion =>
    simp only [kindOf] at wants
    have taken : d.take sight node = d.withInclusion sight.directive.reference node := by
      simp only [Draft.take, kindOf]
    have new : sight.directive.reference ∉
        (passed.filter (·.kind = .inclusion)).map (·.directive.reference) := by
      intro member
      have again := (reflects.includes_iff _).2 (List.mem_eraseDups.2 member)
      rw [wants] at again
      cases again
    rw [taken] at held kept names ⊢
    refine ⟨?_, ?_, names, ?_, ?_⟩
    · rw [withInclusion, reflects.layout, Directive.layout?, Directive.layout?, List.find?_append]
      simp [kindOf]
    · rw [withInclusion, List.map_append, reflects.inclusions, Directive.references,
        Directive.references, List.filter_append, List.filter_cons_of_pos (by simpa using kindOf),
        List.map_append]
      exact (eraseDups_concat_of_not_mem new).symm
    · intro n isLayout
      exact kept n (reflects.based n isLayout)
    · intro i member
      cases List.mem_append.1 member with
      | inl member =>
        obtain ⟨inside, eq⟩ := reflects.included i member
        exact ⟨kept _ inside, eq⟩
      | inr member =>
        obtain rfl := List.mem_singleton.1 member
        exact ⟨held, named⟩

theorem Gathers.reflects (gathers : d.Gathers rest d') (reflects : d.Reflects passed) :
    d'.Reflects (passed ++ rest) := by
  induction gathers generalizing passed with
  | done d => simpa using reflects
  | repeated inclusion again _ ih => simpa using ih (reflects.repeated inclusion again)
  | taken node wants named same _ ih => simpa using ih (reflects.take wants named same)

/-- Directives that are all taken in hold no second layout. -/
theorem Gathers.single (gathers : d.Gathers rest d') :
    (d.layout.isSome = true → ∀ s ∈ rest, s.kind = .inclusion) ∧ Directive.Single rest := by
  induction gathers with
  | done d => exact ⟨fun _ => by simp, by simp [Directive.Single]⟩
  | repeated inclusion _ _ ih =>
    refine ⟨fun based => ?_, (Directive.single_cons_of_inclusion inclusion).2 ih.2⟩
    exact List.forall_mem_cons.2 ⟨inclusion, ih.1 based⟩
  | @taken d d' sight rest node wants named _ _ ih =>
    unfold Wants at wants
    unfold take at ih
    cases kindOf : sight.kind with
    | layout =>
      simp only [kindOf] at wants ih
      refine ⟨fun based => ?_, (Directive.single_cons_of_layout kindOf).2 (ih.1 rfl)⟩
      rw [wants] at based
      cases based
    | inclusion =>
      simp only [kindOf] at wants ih
      refine ⟨fun based => ?_, (Directive.single_cons_of_inclusion kindOf).2 ih.2⟩
      exact List.forall_mem_cons.2 ⟨kindOf, ih.1 based⟩

/-- A draft of a whole text makes the definitions of its recipe. -/
theorem Gathers.recipe {artifact : Artifact} (gathers : empty.Gathers (Directive.met text) d)
    (assembled : d.assemble kind tools name (Directive.left text) = .ok artifact) :
    d.Reflects (Directive.met text) ∧
      (∀ i ∈ d.inclusions, (i.2.artifact.definition? i.1).isSome = true) ∧
      let recipe := d.recipe name (Directive.left text)
      artifact.name = recipe.root ∧ ∀ k, artifact.definition? k = recipe.definition? k := by
  have reflects := gathers.reflects reflects_empty
  rw [List.nil_append] at reflects
  -- The included references are distinct.
  have distinct : (d.inclusions.map (·.1)).Nodup := by
    rw [reflects.inclusions]
    exact nodup_eraseDups _
  obtain ⟨root, declared, definitions⟩ := definition?_assemble distinct assembled
  exact ⟨reflects, declared, root, definitions⟩

end Draft

/-! ## Templates that are put together -/

namespace Session

variable {kind : OutputKind} {room : Nat} {name : String} {s t : Session} {node : Node Artifact}

/-- A node that is put together has an artifact that some draft was assembled to. -/
theorem preprocess_assembled (kind : OutputKind) (room : Nat) (name : String) (s : Session) :
    Ends (fun n _ => n.name = name ∧ ∃ (draft : Draft) (tools : Tools) (text : String),
        draft.assemble kind tools name text = .ok n.artifact)
      (fun _ _ => True) (preprocess kind room name s) := by
  cases room with
  | zero => exact trivial
  | succ room =>
    refine preprocess_rule (fun _ => trivial) fun _ => ?_
    refine build_rule (fun _ _ => trivial) fun text _ => ?_
    refine (ends_snd_iff (P := fun _ => True) |>.2 trivial).imp (fun draft t _ => ?_)
      fun _ _ _ => trivial
    split
    · exact trivial
    · next artifact assembled => exact ⟨rfl, draft, t.tools, _, assembled⟩

/-- A node is called what was asked for. -/
theorem preprocess_name (kind : OutputKind) (room : Nat) (name : String) (s : Session) :
    Ends (fun n _ => n.name = name) (fun _ _ => True) (preprocess kind room name s) :=
  (preprocess_assembled kind room name s).imp (fun _ _ made => made.1) fun _ _ _ => trivial

/-- The loop through the directives of a text gathers a node for each of them. -/
theorem follow_gathers {sights : List Directive.Sighting} {d d' : Draft} {parent : String}
    (ended : follow kind (preprocess kind room) parent sights d s = (.ok d', t)) :
    d.Gathers sights d' := by
  -- What is left to gather gives, after what was gathered so far, the draft of all directives.
  have loop : Loop kind (preprocess kind room) parent
      (fun rest e _ => ∀ e', e.Gathers rest e' → d.Gathers sights e') (fun _ _ => True) :=
    { second := fun _ _ _ => trivial
      repeated := fun gathers inclusion again e' more =>
        gathers e' (.repeated inclusion again more)
      again := by
        intro sight rest e u gathers wants node found e' more
        refine gathers e' (.taken node wants (Draft.mem_of_resolved? found).2 ?_ more)
        intro known found'
        exact Option.some.inj (found'.symm.trans found)
      kept := by
        intro sight rest e u gathers wants new _ node found e' more
        exact gathers e' (.taken node wants (Cache.mem_of_get? found).2 (by simp [new]) more)
      visited := by
        intro sight rest e u gathers wants new _
        refine (preprocess_name kind room sight.directive.name u).imp ?_ fun _ _ _ => trivial
        intro node v named e' more
        exact gathers e' (.taken node wants named (by simp [new]) more) }
  have ends := follow_rule loop sights (d := d) (s := s) fun _ => id
  rw [ended] at ends
  exact ends d' (.done d')

/-- Every template that is put together has a draft of the directives that its text meets, and the
artifact of that draft. -/
theorem build_draft (built : build kind (preprocess kind room) name s = (.ok node, t)) :
    ∃ text draft tools, s.source.body name = .ok text ∧
      Draft.empty.Gathers (Directive.met text) draft ∧ node.name = name ∧
      node.dependencies = draft.dependencies ∧
      draft.assemble kind tools name (Directive.left text) = .ok node.artifact := by
  rw [build_eq] at built
  cases known : s.source.body name with
  | error e =>
    rw [known] at built
    cases built
  | ok text =>
    rw [known] at built
    simp only at built
    rcases followed : follow kind (preprocess kind room) name (Directive.met text) .empty
      (s.read name).2 with ⟨halt | draft, u⟩
    · rw [followed] at built
      cases built
    · rw [followed, finish] at built
      cases assembled : draft.assemble kind u.tools name (Directive.left text) with
      | error e =>
        rw [assembled] at built
        cases built
      | ok artifact =>
        rw [assembled] at built
        cases built
        exact ⟨text, draft, u.tools, rfl, follow_gathers followed, rfl, rfl, assembled⟩

/-- A template that is put together has the definitions of its recipe: that of its text without the
layout, with the nodes of the directives that are met. -/
theorem build_recipe (kind : OutputKind) (room : Nat) (name : String) (s t : Session)
    (node : Node Artifact) (built : build kind (preprocess kind room) name s = (.ok node, t)) :
    ∃ (text : String) (draft : Draft), s.source.text? name = some text ∧
      draft.Reflects (Directive.met text) ∧
      (∀ i ∈ draft.inclusions, (i.2.artifact.definition? i.1).isSome = true) ∧
      node.name = name ∧ node.dependencies = draft.dependencies ∧
      let recipe := draft.recipe name (Directive.withoutLayout text)
      node.artifact.name = recipe.root ∧
        ∀ k, node.artifact.definition? k = recipe.definition? k := by
  obtain ⟨text, draft, tools, body, gathers, named, built, assembled⟩ := build_draft built
  have reflects := gathers.reflects Draft.reflects_empty
  rw [List.nil_append] at reflects
  -- The included references are distinct, and no second layout was met.
  have distinct : (draft.inclusions.map (·.1)).Nodup := by
    rw [reflects.inclusions]
    exact nodup_eraseDups _
  rw [Directive.left_eq gathers.single.2] at assembled
  obtain ⟨root, declared, definitions⟩ := Draft.definition?_assemble distinct assembled
  exact ⟨text, draft, Source.text?_of_body body, reflects, declared, named, built, root,
    definitions⟩

/-- A page that fills a slot of its layout and includes a part. -/
theorem build_recipe_of_page :
    let s := start (.store [("base", "<\x7b\x7b template \"slot\" . \x7d\x7d>".toUTF8),
      ("page", ("\x7b\x7b layout \"@base\" \x7d\x7d\x7b\x7b define \"slot\" \x7d\x7d" ++
        "\x7b\x7b template \"@part\" . \x7d\x7d\x7b\x7b end \x7d\x7d").toUTF8),
      ("part", "\x7b\x7b define \"@part\" \x7d\x7dx\x7b\x7b end \x7d\x7d".toUTF8)]) .empty
      .enabled []
    ∃ node t, build .text (preprocess .text 2) "page" s = (.ok node, t) ∧
      ∃ (text : String) (draft : Draft), s.source.text? "page" = some text ∧
        draft.Reflects (Directive.met text) ∧
        ∀ k, node.artifact.definition? k =
          (draft.recipe "page" (Directive.withoutLayout text)).definition? k := by
  intro s
  have finished : (build .text (preprocess .text 2) "page" s).1.toBool = true := by decide +kernel
  rcases built : build .text (preprocess .text 2) "page" s with ⟨halt | node, t⟩
  · rw [built] at finished
    cases finished
  · obtain ⟨text, draft, known, reflects, -, -, -, -, definitions⟩ :=
      build_recipe .text 2 "page" s t node built
    exact ⟨node, t, rfl, text, draft, known, reflects, definitions⟩

end Session

end Collage
