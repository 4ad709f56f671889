import Collage.Proofs.Resolution.Travel
import Collage.Proofs.Session.Dating

/-! # The root of a template

The root of a template is the text outside of its define blocks, and where this is blank, the root
of its layout.  But what is included may get in between (`Recipe.intruder?`): a definition that is
included under the name of the root, and where there is no layout, one of that name that comes along
with something included.  `Session.build_root` says what the root is in every case, and when a
template without a body of its own is refused as incomplete.

A layout always has a root: every artifact that is put together has one (`Draft.rooted_assemble`),
so every node has one that is kept in a run or given by a resolution.  Sessions are recorded at all
times of a run, also in the middle of a resolution (`Session.Recorded.run`,
`Session.preprocess_dated`).
-/

namespace Collage

/-! ## Artifacts have roots -/

namespace Artifact

variable {a : Artifact} {compiled : Compiled}

/-- The root definition is there. -/
def Rooted (a : Artifact) : Prop := (a.definition? a.name).isSome = true

theorem rooted_of_parse {b : Artifact} {escaping : Escaping} {text : String}
    (parsed : a.parse escaping text = .ok b) : b.Rooted := by
  obtain ⟨named, definitions⟩ := definition?_parse parsed
  rw [Rooted, named, definitions]
  exact isSome_root_define a text

/-- An artifact that was compiled is not called incomplete when it is executed. -/
theorem execute_ne_incomplete (made : a.compiled = some compiled) (data : Json) (name : String) :
    (a.execute data).2 ≠ some (.incomplete name) := by
  rw [execute, made]
  simp only
  cases fields : fieldsOf data with
  | error e =>
    unfold fieldsOf at fields
    split at fields
    · cases fields
    · cases fields
    · cases fields
      simp
  | ok entries => cases (compiled.render a.name entries).2 <;> simp

end Artifact

theorem Draft.rooted_assemble {d : Draft} {kind : OutputKind} {tools : Tools}
    {name text : String} {artifact : Artifact}
    (assembled : d.assemble kind tools name text = .ok artifact) : artifact.Rooted := by
  rw [assemble] at assembled
  cases merged : mergeAll (d.base name tools) d.inclusions with
  | error e => simp [merged] at assembled
  | ok a =>
    cases parsed : a.parse kind.escaping text with
    | error cause => simp [merged, parsed] at assembled
    | ok b =>
      simp only [merged, parsed, Except.ok.injEq] at assembled
      exact assembled ▸ Artifact.rooted_of_parse parsed

/-! ## What gets in the place of the root -/

namespace Recipe

variable {r : Recipe} {root : String}

/-- What is included in the place of the root: the definition that is included under its name, or
else, where there is no layout, the first one of its name that comes along. -/
def intruder? (r : Recipe) : Option String :=
  match r.inclusions.lookup r.root with
  | some artifact => artifact.definition? r.root
  | none => if r.layout.isSome then none else r.companion? r.root

/-- Nothing gets in the place of the root if it is not included under its name and, where there is
no layout, nothing that is included has a definition of that name beside its own root. -/
theorem intruder?_eq_none_iff
    (included : ∀ i ∈ r.inclusions, (i.2.definition? i.1).isSome = true) :
    r.intruder? = none ↔ r.root ∉ r.inclusions.map (·.1) ∧
      (r.layout = none → ∀ i ∈ r.inclusions, i.2.name ≠ r.root →
        i.2.definition? r.root = none) := by
  rw [intruder?]
  cases found : r.inclusions.lookup r.root with
  | some artifact =>
    obtain ⟨before, after, eq, -⟩ := List.lookup_eq_some_iff.1 found
    have member : (r.root, artifact) ∈ r.inclusions := by simp [eq]
    have declared := Option.isSome_iff_ne_none.1 (included _ member)
    refine iff_of_false declared fun free => free.1 ?_
    exact List.mem_map_of_mem (f := Prod.fst) member
  | none =>
    rw [and_iff_right (Sorted.lookup_eq_none_iff.1 found)]
    cases r.layout with
    | some layout => simp
    | none =>
      simp only [Option.isSome_none, Bool.false_eq_true, if_false, companion?,
        List.findSome?_eq_none_iff, Artifact.companion?, true_imp_iff, ite_eq_left_iff]
      exact forall₂_congr fun i _ => imp_congr_left ne_comm

/-- A body that is not blank becomes the root. -/
theorem definition?_root_of_body (body : Lowering.isBlank r.body = false) :
    r.definition? r.root = some r.body := by
  rw [definition?, if_pos ⟨rfl, .inl body⟩]

/-- Under a blank body the root is what got in its place, or else that of the layout. -/
theorem definition?_root_of_layout {layout : Artifact} (own : r.own? r.root = none)
    (blank : Lowering.isBlank r.body = true) (based : r.layout = some layout)
    (included : ∀ i ∈ r.inclusions, (i.2.definition? i.1).isSome = true)
    (known : layout.definition? r.root = some root) :
    r.definition? r.root = some (r.intruder?.getD root) := by
  have below : r.below? r.root = some (r.intruder?.getD root) := by
    rw [below?, own, intruder?]
    cases found : r.inclusions.lookup r.root with
    | some artifact =>
      obtain ⟨before, after, eq, -⟩ := List.lookup_eq_some_iff.1 found
      obtain ⟨source, declared⟩ :=
        Option.isSome_iff_exists.1 (included (r.root, artifact) (by simp [eq]))
      simp only at declared
      simp [declared]
    | none => simp [based, known]
  rw [definition?, below]
  simp [blank]

/-- Where there is no layout, the root under a blank body is what got in its place, or else the
body. -/
theorem definition?_root_of_bare (own : r.own? r.root = none)
    (blank : Lowering.isBlank r.body = true) (bare : r.layout = none) :
    r.definition? r.root = some (r.intruder?.getD r.body) := by
  have below : r.below? r.root = r.intruder? := by
    rw [below?, own, intruder?, bare]
    rfl
  rw [definition?, below]
  cases r.intruder? <;> simp [blank]

end Recipe

/-! ## Nodes that are kept and nodes that are given -/

namespace Session

variable {source : Source} {tools : Tools} {kind : OutputKind} {history : List Event}
  {s t : Session} {node : Node Artifact} {name spelling : String} {data : Json}

theorem Recorded.rooted (recorded : s.Recorded source tools history)
    (kept : node ∈ (s.shelf kind).cache.nodes) : node.artifact.Rooted := by
  obtain ⟨-, -, -, -, -, -, -, ⟨-, text, draft, -, -, -, assembled⟩, -⟩ :=
    recorded.dated kind node kept
  exact Draft.rooted_assemble assembled

theorem preprocess_rooted (kind : OutputKind) (room : Nat) (name : String) (s : Session) :
    Ends (fun n _ => n.artifact.Rooted) (fun _ _ => True) (preprocess kind room name s) := by
  refine (preprocess_assembled kind room name s).imp ?_ fun _ _ _ => trivial
  rintro n t ⟨-, draft, tools, text, assembled⟩
  exact Draft.rooted_assemble assembled

/-- The loop keeps its session recorded and takes in only nodes that have a root. -/
theorem rooting_loop (room : Nat) (parent : String) :
    Loop kind (preprocess kind room) parent
      (fun _ d t => (∃ history, t.Recorded source tools history) ∧
        ∀ n ∈ d.dependencies, n.artifact.Rooted)
      (fun _ _ => True) where
  second := fun _ _ _ => trivial
  repeated := fun holds _ _ => holds
  again := by
    rintro sight rest d t ⟨recorded, rooted⟩ - node found
    exact ⟨recorded, Draft.forall_take rooted (rooted node (Draft.mem_of_resolved? found).1) sight⟩
  kept := by
    rintro sight rest d t ⟨⟨history, recorded⟩, rooted⟩ - - - node found
    have root := recorded.rooted (Cache.mem_of_get? found).1
    exact ⟨⟨history, recorded⟩, Draft.forall_take rooted root sight⟩
  visited := by
    rintro sight rest d t ⟨⟨history, recorded⟩, rooted⟩ - - -
    obtain ⟨events, -, -, later⟩ :=
      preprocess_dated room sight.directive.name t history sight.directive.normalize_name recorded
    refine ((preprocess_rooted kind room sight.directive.name t).and_snd later).imp ?_
      fun _ _ _ => trivial
    exact fun node u ⟨root, later⟩ => ⟨⟨_, later⟩, Draft.forall_take rooted root sight⟩

/-- What a template is put together from has a root. -/
theorem build_rooted {room : Nat} (recorded : s.Recorded source tools history)
    (built : build kind (preprocess kind room) name s = (.ok node, t)) :
    ∀ n ∈ node.dependencies, n.artifact.Rooted := by
  have ends : Ends (fun n _ => ∀ d ∈ n.dependencies, d.artifact.Rooted) (fun _ _ => True)
      (build kind (preprocess kind room) name s) := by
    refine build_rule (fun _ _ => trivial) fun text _ => ?_
    refine (follow_rule (rooting_loop room name) (Directive.met text) (d := .empty)
      ⟨⟨_, recorded.read name⟩, by simp [Draft.empty]⟩).imp (fun draft u holds => ?_)
      fun _ _ _ => trivial
    split
    · exact trivial
    · exact holds.2
  rw [built] at ends
  exact ends

/-! ## The root -/

theorem fst_render (found : (s.resolve kind spelling).1 = .ok node) :
    (s.render kind spelling data).1 = execute node data := by
  unfold render
  rcases resolved : s.resolve kind spelling with ⟨e | other, t⟩
  · rw [resolved] at found
    cases found
  · rw [resolved] at found
    cases found
    rfl

/-- A node that was compiled is refused as incomplete if its root is blank, and only then. -/
theorem execute_eq_incomplete_iff {compiled : Compiled}
    (made : node.artifact.compiled = some compiled) :
    execute node data = ("", some (.execute node.name (.incomplete node.name))) ↔
      node.artifact.isEmpty = true := by
  rw [execute]
  cases node.artifact.isEmpty with
  | true => simp
  | false =>
    have other := Artifact.execute_ne_incomplete made data node.name
    simp only [Bool.false_eq_true, if_false, Prod.mk.injEq, iff_false, not_and]
    rintro - stopped
    obtain ⟨cause, known, same⟩ := Option.map_eq_some_iff.1 stopped
    cases same
    exact other known

/-- The root of a template whose text has no define block of that name: its own body if that is not
blank, or else what got in its place, or else the root of its layout, or else its blank body.  A
template without a layout and with a blank body is refused as incomplete if nothing but blank text
got in the place of its root. -/
theorem build_root (source : Source) (tools : Tools) (history : List Event) (kind : OutputKind)
    (room : Nat) (name : String) (s t : Session) (node : Node Artifact)
    (recorded : s.Recorded source tools history)
    (built : build kind (preprocess kind room) name s = (.ok node, t)) :
    ∃ (text : String) (draft : Draft), s.source.text? name = some text ∧
      draft.Reflects (Directive.met text) ∧ node.dependencies = draft.dependencies ∧
      let recipe := draft.recipe name (Directive.withoutLayout text)
      node.artifact.name = recipe.root ∧
      (recipe.intruder? = none ↔
        recipe.root ∉ Directive.references (Directive.met text) ∧
          (recipe.layout = none → ∀ i ∈ recipe.inclusions, i.2.name ≠ recipe.root →
            i.2.definition? recipe.root = none)) ∧
      (recipe.own? recipe.root = none →
        (Lowering.isBlank recipe.body = false →
          node.artifact.definition? recipe.root = some recipe.body) ∧
        (Lowering.isBlank recipe.body = true → ∀ layout, recipe.layout = some layout →
          ∃ root, layout.definition? layout.name = some root ∧
            node.artifact.definition? recipe.root = some (recipe.intruder?.getD root)) ∧
        (Lowering.isBlank recipe.body = true → recipe.layout = none →
          node.artifact.definition? recipe.root = some (recipe.intruder?.getD recipe.body) ∧
          ∀ (u : Session) (spelling : String) (data : Json),
            (u.resolve kind spelling).1 = .ok node →
              ((u.render kind spelling data).1 =
                  ("", some (.execute name (.incomplete name))) ↔
                recipe.intruder?.all Lowering.isBlank = true))) := by
  obtain ⟨text, draft, tools, body, gathers, named, dependencies, assembled⟩ := build_draft built
  obtain ⟨reflects, declared, root, definitions⟩ := gathers.recipe assembled
  rw [Directive.left_eq gathers.single.2] at root definitions
  refine ⟨text, draft, Source.text?_of_body body, reflects, dependencies, ?_⟩
  intro recipe
  have included : ∀ i ∈ recipe.inclusions, (i.2.definition? i.1).isSome = true :=
    List.forall_mem_map.2 declared
  have references : recipe.inclusions.map (·.1) = Directive.references (Directive.met text) := by
    rw [← reflects.inclusions]
    simp [recipe, Draft.recipe]
  refine ⟨root, references ▸ Recipe.intruder?_eq_none_iff included, fun own => ⟨?_, ?_, ?_⟩⟩
  · intro body
    rw [definitions, Recipe.definition?_root_of_body body]
  · intro blank layout based
    obtain ⟨n, isLayout, rfl⟩ := Option.map_eq_some_iff.1 based
    have member : n ∈ node.dependencies := dependencies ▸ reflects.based n isLayout
    obtain ⟨source, defined⟩ := Option.isSome_iff_exists.1 (build_rooted recorded built n member)
    have same : recipe.root = n.artifact.name := by rw [Recipe.root, based]
    refine ⟨source, defined, ?_⟩
    rw [definitions, Recipe.definition?_root_of_layout own blank based included (same ▸ defined)]
  · intro blank bare
    have rootIs := Recipe.definition?_root_of_bare own blank bare
    refine ⟨(definitions _).trans rootIs, ?_⟩
    intro u spelling data found
    obtain ⟨compiled, made, -⟩ := Draft.compiled_assemble assembled
    rw [fst_render found, ← named, execute_eq_incomplete_iff made, Artifact.isEmpty, root,
      definitions, rootIs]
    cases recipe.intruder? <;> simp [blank]

/-- A page that fills a slot of its layout with a part and has no body: its root is that of the
layout. -/
theorem build_root_of_page :
    let page := "\x7b\x7b layout \"@base\" \x7d\x7d\x7b\x7b define \"slot\" \x7d\x7d" ++
      "\x7b\x7b template \"@part\" . \x7d\x7d\x7b\x7b end \x7d\x7d"
    let source := Source.store [("base", "<\x7b\x7b template \"slot\" . \x7d\x7d>".toUTF8),
      ("page", page.toUTF8),
      ("part", "\x7b\x7b define \"@part\" \x7d\x7dx\x7b\x7b end \x7d\x7d".toUTF8)]
    let s := start source .empty .enabled []
    s.Recorded source .empty [] ∧
      ∃ node t, build .text (preprocess .text 2) "page" s = (.ok node, t) ∧
        ∃ layout root, layout ∈ node.dependencies ∧ layout.name = "base" ∧
          layout.artifact.definition? layout.artifact.name = some root ∧
          node.artifact.definition? node.artifact.name = some root := by
  intro page source s
  have recorded : s.Recorded source .empty [] := recorded_start source .empty .enabled []
  have finished : (build .text (preprocess .text 2) "page" s).1.toOption.map (·.artifact.name) =
      some "base" := by decide +kernel
  rcases built : build .text (preprocess .text 2) "page" s with ⟨halt | node, t⟩
  · rw [built] at finished
    cases finished
  · rw [built] at finished
    have called : node.artifact.name = "base" := Option.some.inj finished
    obtain ⟨text, draft, known, reflects, dependencies, root, intruder, rooted⟩ :=
      build_root source .empty [] .text 2 "page" s t node recorded built
    have text_eq : s.source.text? "page" = some page := by decide +kernel
    obtain rfl : page = text := Option.some.inj (text_eq.symm.trans known)
    have layout := reflects.layout
    rw [show (Directive.layout? (Directive.met page)).map (·.directive.name) = some "base" by
      decide +kernel] at layout
    obtain ⟨n, isLayout, named⟩ := Option.map_eq_some_iff.1 layout
    rw [← root, called] at intruder rooted
    have own : (Lowering.lower (Directive.withoutLayout page)).2.reverse.lookup "base" = none := by
      decide +kernel
    have blank : Lowering.isBlank (Lowering.lower (Directive.withoutLayout page)).1 = true := by
      decide +kernel
    have free : "base" ∉ Directive.references (Directive.met page) := by decide +kernel
    have based : (draft.recipe "page" (Directive.withoutLayout page)).layout = some n.artifact := by
      rw [Draft.recipe, isLayout, Option.map_some]
    obtain ⟨root, defined, same⟩ := (rooted own).2.1 blank n.artifact based
    rw [intruder.2 ⟨free, by simp [based]⟩] at same
    exact ⟨recorded, node, t, rfl, n, root, dependencies ▸ reflects.based n isLayout, named,
      defined, called.symm ▸ same⟩

/-- A page that has neither a layout nor a body is not refused: a part that it includes brings a
definition of the page's own name along, and that is what is rendered. -/
theorem not_incomplete_of_namesake :
    let page := "\x7b\x7b define \"x\" \x7d\x7d\x7b\x7b template \"@part\" . \x7d\x7d" ++
      "\x7b\x7b end \x7d\x7d"
    let part := "\x7b\x7b define \"@part\" \x7d\x7dP\x7b\x7b end \x7d\x7d" ++
      "\x7b\x7b define \"page\" \x7d\x7dtaken\x7b\x7b end \x7d\x7d"
    let s := start (.store [("page", page.toUTF8), ("part", part.toUTF8)]) .empty .enabled []
    Directive.layout? (Directive.met page) = none ∧
      Lowering.lower page = ("", [("x", "\x7b% include \"@part\" %\x7d")]) ∧
      (s.render .text "page" .null).1.1 = "taken" ∧
      (s.render .text "page" .null).1.2.isNone = true := by
  decide +kernel

end Session

end Collage
