import Mathlib.Data.List.Chain
import Collage.Proofs.Resolution.Origin

/-! # Definitions that include themselves

A template that refers to itself is not resolved, but what is rendered are definitions, which
include one another by their names.  Where includes come from directives alone, definitions that
include one another around go through an override: some template has a define block for a name that
it, or something it was built from, includes (`Node.Overrides`, `Session.resolve_not_around`).

Otherwise a part of the node would have all definitions on the way around, and a part of this part
again, and so on (`Node.Circuit.descend`).
-/

namespace Collage

open Directive (left met references nameOf)

/-! ## Going around -/

section

open Relation

variable {α β : Type} {r : α → α → Prop} {a x : α} {l : List α} {f : α → Option β} {p : α → Bool}
  {b : β}

/-- On a way from `a` back to `a`. -/
def Around (r : α → α → Prop) (a x : α) : Prop := ReflTransGen r a x ∧ ReflTransGen r x a

theorem Around.exists_prev (around : Around r a x) (cycle : TransGen r a a) :
    ∃ y, Around r a y ∧ r y x := by
  obtain ⟨y, path, step⟩ := TransGen.tail'_iff.1 (cycle.trans_left around.1)
  exact ⟨y, ⟨path, .head step around.2⟩, step⟩

theorem Around.exists_next (around : Around r a x) (cycle : TransGen r a a) :
    ∃ y, Around r a y ∧ r x y := by
  obtain ⟨y, step, path⟩ := TransGen.head'_iff.1 (TransGen.trans_right around.2 cycle)
  exact ⟨y, ⟨around.1.tail step, path⟩, step⟩

/-- What is passed on around holds all around. -/
theorem Around.pass {P : α → Prop} (around : Around r a x) (start : P x)
    (step : ∀ y z, Around r a y → Around r a z → r y z → P y → P z) :
    ∀ z, Around r a z → P z := by
  intro z other
  have path : ReflTransGen r x z := around.2.trans other.1
  induction path with
  | refl => exact start
  | @tail y z path edge ih =>
    have between : Around r a y := ⟨around.1.trans path, .head edge other.2⟩
    exact step y z between other edge (ih between)

/-- The first one with a property has the first word, if whoever has that word has the property. -/
theorem eq_of_findSome? (first : l.find? p = some a) (word : l.findSome? f = some b)
    (has : ∀ x ∈ l, f x = some b → p x = true) (speaks : (f a).isSome = true) : f a = some b := by
  induction l with
  | nil => cases first
  | cons x l ih =>
    rw [List.find?_cons] at first
    rw [List.findSome?_cons] at word
    cases said : f x with
    | some y =>
      simp only [said, Option.some.injEq] at word
      subst word
      rw [has x List.mem_cons_self said] at first
      cases first
      exact said
    | none =>
      simp only [said] at word
      cases chosen : p x with
      | true =>
        rw [chosen] at first
        cases first
        rw [said] at speaks
        cases speaks
      | false =>
        rw [chosen] at first
        exact ih first word fun z member => has z (List.mem_cons_of_mem _ member)

end

/-! ## Names that include one another around -/

namespace Node

variable {source : Source} {tools : Tools} {kind : OutputKind} {n d e u v : Node Artifact}
  {k definition : String}

/-- Something that went into a node decides what the node has under a name, in a define block,
although it, or something that it was built from, includes the name. -/
def Overrides (source : Source) (n : Node Artifact) (k : String) : Prop :=
  ∃ u, n.Embeds u ∧ (∃ definition ∈ n.artifact.definition? k, source.Defines u.name k definition) ∧
    ∃ v, u.Embeds v ∧ source.Asks v.name k

/-- An include in a definition that is no override. -/
def Calls (source : Source) (n : Node Artifact) (j k : String) : Prop :=
  n.artifact.Includes j k ∧ ¬ n.Overrides source j

/-- Something has the definition that a node has under a name: it declares it, or a part of it that
the name refers to does. -/
def Holds (n d : Node Artifact) (k : String) : Prop :=
  ∃ v, d.Embeds v ∧ (v = d ∨ v.name = nameOf k) ∧
    v.artifact.definition? k = n.artifact.definition? k

theorem eq_of_prefix {asked : String} (free : '"' ∉ k.toList)
    (begins : asked.toList ++ ['"'] <+: k.toList ++ ['"']) : asked = k := by
  rcases List.prefix_concat_iff.1 begins with same | shorter
  · exact String.toList_inj.1 (List.append_cancel_right same)
  · exact absurd (shorter.subset (by simp)) free

theorem head?_of_prefix {asked : String} (marked : asked.toList.head? = some '@')
    (begins : asked.toList ++ ['"'] <+: k.toList ++ ['"']) : k.toList.head? = some '@' := by
  obtain ⟨rest, eq⟩ := begins
  have heads := congrArg List.head? eq
  simp only [List.head?_append, marked, Option.some_or] at heads
  cases first : k.toList.head? with
  | none =>
    rw [first] at heads
    cases heads
  | some c =>
    rw [first] at heads
    exact heads.symm

/-- What holds a definition that includes a name includes it by reference somewhere. -/
theorem Holds.exists_asks {j : String} (holds : n.Holds d j)
    (composed : d.Composed source tools kind) (directed : source.Directed)
    (includes : n.artifact.Includes j k) (free : '"' ∉ k.toList) :
    ∃ u, d.Embeds u ∧ source.Asks u.name k := by
  obtain ⟨v, embeds, -, same⟩ := holds
  obtain ⟨definition, found, tag⟩ := includes
  obtain ⟨u, asked, embeds', asks, begins⟩ :=
    (composed.of_embeds embeds).exists_asks directed ⟨definition, same.trans found, tag⟩
  exact ⟨u, embeds.trans embeds', eq_of_prefix free begins ▸ asks⟩

/-- A node that was built from something that includes a name holds the name, if a node that is
called as the name says has the definition. -/
theorem Composed.holds_of_asks {e : Node Artifact} (composed : e.Composed source tools kind)
    (other : v.Composed source tools kind) (below : e.Embeds u) (asks : source.Asks u.name k)
    (named : v.name = nameOf k) (same : v.artifact.definition? k = n.artifact.definition? k) :
    n.Holds e k := by
  obtain ⟨text, order, made⟩ := (composed u below).exists_made
  obtain ⟨text', known, member⟩ := asks
  obtain rfl := Option.some.inj (made.known.symm.trans known)
  obtain ⟨w, built, called, -⟩ := made.asked k member
  have embeds : e.Embeds w := below.trans (.of_mem built)
  have alike := (composed.of_embeds embeds).view_eq other (called.trans named.symm)
  exact ⟨w, embeds, .inr called, by rw [artifact_eq_of_view alike, same]⟩

open Relation

/-- A way around through the definitions of a node, on which none is an override. -/
structure Circuit (source : Source) (tools : Tools) (kind : OutputKind) (n : Node Artifact)
    (a : String) : Prop where
  composed : n.Composed source tools kind
  directed : source.Directed
  cycle : TransGen (n.Calls source) a a

namespace Circuit

variable {a : String} {text : String} {order : List (Node Artifact)} {chosen : Node Artifact → Bool}

/-- The names on a way around are references, which the node declares. -/
theorem names (circuit : Circuit source tools kind n a)
    (on : Around (n.Calls source) a k) :
    k.toList.head? = some '@' ∧ '"' ∉ k.toList ∧
      ∃ definition, n.artifact.definition? k = some definition := by
  obtain ⟨j, -, includes, -⟩ := on.exists_prev circuit.cycle
  obtain ⟨i, -, ⟨definition, found, -⟩, -⟩ := on.exists_next circuit.cycle
  obtain ⟨u, asked, -, asks, begins⟩ := circuit.composed.exists_asks circuit.directed includes
  have marked := head?_of_prefix asks.head? begins
  obtain ⟨u, -, text, -, own⟩ :=
    circuit.composed.exists_defines circuit.directed.unmarked marked found
  exact ⟨marked, (Lowering.of_lookup_lower own).1, definition, found⟩

/-- What holds a name on the way includes the next one by reference somewhere. -/
theorem exists_asks {j : String} (circuit : Circuit source tools kind n a) (embeds : n.Embeds d)
    (calls : n.Calls source j k) (on : Around (n.Calls source) a k) (holds : n.Holds d j) :
    ∃ u, d.Embeds u ∧ source.Asks u.name k :=
  holds.exists_asks (circuit.composed.of_embeds embeds) circuit.directed calls.1
    (circuit.names on).2.1

/-- Something that was built from what includes a name on the way, and declares the name as the node
does, has the definition from one of its parts. -/
theorem inherits (circuit : Circuit source tools kind n a) (embeds : n.Embeds d)
    (made : d.Made source text order) (on : Around (n.Calls source) a k) (below : d.Embeds u)
    (asks : source.Asks u.name k) (known : n.artifact.definition? k = some definition)
    (same : d.artifact.definition? k = some definition) :
    (∃ e ∈ d.dependencies, e.name = nameOf k ∧ e.artifact.definition? k = some definition) ∨
      order.findSome? (·.artifact.definition? k) = some definition := by
  have composed := circuit.composed.of_embeds embeds
  have ne : ∀ e, d.Embeds e → k ≠ e.artifact.name := fun e inside =>
    (composed.of_embeds inside).root_ne circuit.directed.unmarked (circuit.names on).1
  obtain ⟨-, -, -, kept⟩ := on.exists_next circuit.cycle
  rcases made.found k definition same with ⟨isRoot, -⟩ | own | included | ⟨-, first⟩
  · exact absurd isRoot (ne d (.refl d))
  · -- Its own define block would be an override.
    exact absurd ⟨d, embeds, ⟨definition, known, text, made.known, own⟩, u, below, asks⟩ kept
  · exact .inl included
  · exact .inr (first fun e member => ne e (.of_mem member))

/-- One of the parts holds a name on the way, if all of them are held. -/
theorem exists_part (circuit : Circuit source tools kind n a) (embeds : n.Embeds d)
    (made : d.Made source text order)
    (holds : ∀ k, Around (n.Calls source) a k → n.Holds d k) :
    ∃ e ∈ order, ∃ k, Around (n.Calls source) a k ∧ n.Holds e k := by
  have on : Around (n.Calls source) a a := ⟨.refl, .refl⟩
  obtain ⟨-, -, definition, known⟩ := circuit.names on
  have declares : ∀ e, e.artifact.definition? a = some definition → n.Holds e a := fun e found =>
    ⟨e, .refl e, .inl rfl, found.trans known.symm⟩
  obtain ⟨v, inside, which, same⟩ := holds a on
  by_cases here : v = d
  · subst here
    obtain ⟨j, before, calls⟩ := on.exists_prev circuit.cycle
    obtain ⟨u, below, asks⟩ := circuit.exists_asks embeds calls on (holds j before)
    rcases circuit.inherits embeds made on below asks known (same.trans known) with
      ⟨e, member, -, found⟩ | word
    · exact ⟨e, (made.mem_order e).2 member, a, on, declares e found⟩
    · obtain ⟨e, member, found⟩ := List.exists_of_findSome?_eq_some word
      exact ⟨e, member, a, on, declares e found⟩
  · rcases inside.cases_head with rfl | ⟨e, member, inside⟩
    · exact absurd rfl here
    · exact ⟨e, (made.mem_order e).2 member, a, on, v, inside, .inr (which.resolve_left here), same⟩

/-- The first part to hold a name on the way holds what the definition of the name includes, too. -/
theorem pass (circuit : Circuit source tools kind n a) (embeds : n.Embeds d)
    (made : d.Made source text order)
    (first : order.find? chosen = some e)
    (choice : ∀ e k, Around (n.Calls source) a k → n.Holds e k → chosen e = true)
    {j : String} (on : Around (n.Calls source) a k) (calls : n.Calls source j k)
    (held : n.Holds e j) (holds : n.Holds d k) : n.Holds e k := by
  have composed := circuit.composed.of_embeds embeds
  have member : e ∈ d.dependencies := (made.mem_order e).1 (List.mem_of_find?_eq_some first)
  obtain ⟨u, below, asks⟩ := circuit.exists_asks (embeds.trans (.of_mem member)) calls on held
  obtain ⟨-, -, definition, known⟩ := circuit.names on
  obtain ⟨v, inside, rfl | named, same⟩ := holds
  · rcases circuit.inherits embeds made on (.step member below) asks known (same.trans known) with
      ⟨w, built, named, found⟩ | word
    · exact (composed.of_mem member).holds_of_asks (composed.of_mem built) below asks named
        (found.trans known.symm)
    · -- The first part to declare the name is this one, as others would have been chosen before.
      obtain ⟨text', known', met⟩ := asks
      obtain ⟨text'', same'', brought⟩ :=
        (composed.of_mem member).declares circuit.directed.unmarked below
      obtain rfl := Option.some.inj (known'.symm.trans same'')
      have found := eq_of_findSome? first word
        (fun x _ found => choice x k on ⟨x, .refl x, .inl rfl, found.trans known.symm⟩)
        (brought k met)
      exact ⟨e, .refl e, .inl rfl, found.trans known.symm⟩
  · exact (composed.of_mem member).holds_of_asks (composed.of_embeds inside) below asks named same

/-- If something that went into the node holds all names on the way, then so does something that it
was built from. -/
theorem descend (circuit : Circuit source tools kind n a) (embeds : n.Embeds d)
    (holds : ∀ k, Around (n.Calls source) a k → n.Holds d k) :
    ∃ e ∈ d.dependencies, ∀ k, Around (n.Calls source) a k → n.Holds e k := by
  classical
  obtain ⟨text, order, made⟩ := (circuit.composed d embeds).exists_made
  let chosen : Node Artifact → Bool := fun e =>
    decide (∃ k, Around (n.Calls source) a k ∧ n.Holds e k)
  obtain ⟨part, inside, some⟩ := circuit.exists_part embeds made holds
  have found : (order.find? chosen).isSome = true :=
    List.find?_isSome.2 ⟨part, inside, decide_eq_true some⟩
  obtain ⟨e, first⟩ := Option.isSome_iff_exists.1 found
  have picked : chosen e = true := List.find?_some first
  obtain ⟨k, on, start⟩ := of_decide_eq_true picked
  refine ⟨e, (made.mem_order e).1 (List.mem_of_find?_eq_some first), on.pass start ?_⟩
  intro j k _ on calls held
  exact circuit.pass embeds made first (fun e k on held => decide_eq_true ⟨k, on, held⟩) on calls
    held (holds k on)

end Circuit

/-- The definitions of a node include one another around only through overrides. -/
theorem Composed.not_calls_around (composed : n.Composed source tools kind)
    (directed : source.Directed) (a : String) : ¬ TransGen (n.Calls source) a a := by
  intro cycle
  have circuit : Circuit source tools kind n a := ⟨composed, directed, cycle⟩
  -- All names on the way would be held further and further below.
  have never : ∀ d, n.Embeds d → ¬ ∀ k, Around (n.Calls source) a k → n.Holds d k := by
    intro d embeds holds
    induction size : sizeOf d using Nat.strongRecOn generalizing d with
    | ind _ ih =>
      obtain ⟨e, member, holds⟩ := circuit.descend embeds holds
      exact ih _ (size ▸ sizeOf_lt_of_mem member) e (embeds.trans (.of_mem member)) holds rfl
  exact never n (.refl n) fun k _ => ⟨n, .refl n, .inl rfl, rfl⟩

end Node

/-! ## Resolutions -/

namespace Session

open Relation

/-- Over a source that nobody changes and in whose templates includes come from directives alone,
whatever is kept: the definitions of a template that is resolved include one another around only
through overrides. -/
theorem resolve_not_around (source : Source) (tools : Tools) (mode : CacheMode)
    (steps : List Step) (kind : OutputKind) (spelling : String) (node : Node Artifact)
    (directed : source.Directed) (keeps : ∀ step ∈ steps, step.keepsSource = true)
    (found : (((start source tools mode []).run steps).resolve kind spelling).1 = .ok node)
    (k : String) :
    ¬ TransGen (fun i j => node.artifact.Includes i j ∧ ¬ node.Overrides source i) k k := by
  have truthful := run_truthful source tools mode keeps kind
  exact (truthful.of_resolve found).2.not_calls_around directed k

theorem of_toOption {ε α : Type} {outcome : Except ε α} {a : α} (given : a ∈ outcome.toOption) :
    outcome = .ok a := by
  cases outcome with
  | error e => cases given
  | ok b =>
    cases given
    rfl

/-- A page that overrides what its layout includes, by something that includes a part. -/
theorem resolve_not_around_of_page :
    let source := Source.store [
      ("base", "\x7b\x7btemplate \"@slot\"\x7d\x7d".toUTF8),
      ("page", ("\x7b\x7blayout \"@base\"\x7d\x7d\x7b\x7bdefine \"@slot\"\x7d\x7d" ++
        "\x7b\x7btemplate \"@part\"\x7d\x7d\x7b\x7bend\x7d\x7d").toUTF8),
      ("part", "\x7b\x7bdefine \"@part\"\x7d\x7dx\x7b\x7bend\x7d\x7d".toUTF8),
      ("slot", "\x7b\x7bdefine \"@slot\"\x7d\x7d\x7b\x7bend\x7d\x7d".toUTF8)]
    let steps : List Step := [.prepare .text "base"]
    source.Directed ∧ (∀ step ∈ steps, step.keepsSource = true) ∧
      ∃ node, (((start source .empty .enabled []).run steps).resolve .text "page").1 = .ok node ∧
        node.artifact.Includes "@slot" "@part" ∧
        ∀ k, ¬ TransGen (fun i j => node.artifact.Includes i j ∧ ¬ node.Overrides source i)
          k k := by
  intro source steps
  have directed : source.Directed := Source.directed_of_names (by decide +kernel)
  have keeps : ∀ step ∈ steps, step.keepsSource = true := by simp [steps, Step.keepsSource]
  have finished : ∃ node ∈ (((start source .empty .enabled []).run steps).resolve .text
      "page").1.toOption, node.artifact.Includes "@slot" "@part" := by decide +kernel
  obtain ⟨node, given, includes⟩ := finished
  have found := of_toOption given
  exact ⟨directed, keeps, node, found, includes, resolve_not_around source .empty .enabled steps
    .text "page" node directed keeps found⟩

/-- A template is resolved to definitions that include one another around, though all names that
templates invoke begin with the marker. -/
def Recurs (source : Source) (name k : String) : Prop :=
  (∀ other ∈ source.names, ∀ text ∈ source.text? other, ∀ invoked ∈ Lowering.invoked text,
    Lowering.IsMarked invoked.toList) ∧
  ∃ node, ((start source .empty .enabled []).resolve .text name).1 = .ok node ∧
    TransGen node.artifact.Includes k k

theorem recurs_of_chain {source : Source} {name k : String} (path : List String)
    (marked : ∀ other ∈ source.names, ∀ text ∈ source.text? other,
      ∀ invoked ∈ Lowering.invoked text, Lowering.IsMarked invoked.toList)
    (around : ∃ node ∈ ((start source .empty .enabled []).resolve .text name).1.toOption,
      (k :: (path ++ [k])).IsChain node.artifact.Includes) : Recurs source name k := by
  obtain ⟨node, given, chain⟩ := around
  refine ⟨marked, node, of_toOption given, ?_⟩
  cases path with
  | nil => exact .single (List.isChain_cons_cons.1 chain).1
  | cons j path =>
    obtain ⟨step, rest⟩ := List.isChain_cons_cons.1 chain
    exact .head' step (List.relationReflTransGen_of_exists_isChain_cons _ rest (by simp))

/-- Definitions include themselves where a template overrides what it includes, where an include tag
is written by hand, where templates are called by names with the marker, and where nothing stands
behind the marker. -/
theorem recursive_though_resolved :
    Recurs (.store [
      ("a", "\x7b\x7b define \"@a\" \x7d\x7dx\x7b\x7b end \x7d\x7d".toUTF8),
      ("page", ("\x7b\x7b define \"@a\" \x7d\x7d\x7b\x7b template \"@a\" . \x7d\x7d" ++
        "\x7b\x7b end \x7d\x7d").toUTF8)]) "page" "@a" ∧
    Recurs (.store [
      ("page", ("\x7b\x7b define \"x\" \x7d\x7d\x7b% include \"x\" %\x7d" ++
        "\x7b\x7b end \x7d\x7d").toUTF8)]) "page" "x" ∧
    Recurs (.store [
      ("@x", "".toUTF8),
      ("g", ("\x7b\x7bdefine \"@g\"\x7d\x7d\x7b\x7bend\x7d\x7d\x7b\x7bdefine \"@x\"\x7d\x7d" ++
        "\x7b\x7btemplate \"@q\"\x7d\x7d\x7b\x7bend\x7d\x7d").toUTF8),
      ("h", ("\x7b\x7blayout \"@@x\"\x7d\x7d\x7b\x7bdefine \"@h\"\x7d\x7d" ++
        "\x7b\x7btemplate \"@x\"\x7d\x7d\x7b\x7bend\x7d\x7d").toUTF8),
      ("page", "\x7b\x7btemplate \"@u\"\x7d\x7d\x7b\x7btemplate \"@g\"\x7d\x7d".toUTF8),
      ("q", "\x7b\x7bdefine \"@q\"\x7d\x7d\x7b\x7bend\x7d\x7d".toUTF8),
      ("u", ("\x7b\x7bdefine \"@u\"\x7d\x7d\x7b\x7bend\x7d\x7d\x7b\x7bdefine \"@q\"\x7d\x7d" ++
        "\x7b\x7btemplate \"@h\"\x7d\x7d\x7b\x7bend\x7d\x7d").toUTF8),
      ("x", "\x7b\x7bdefine \"@x\"\x7d\x7d\x7b\x7bend\x7d\x7d".toUTF8)]) "page" "@q" ∧
    Recurs (.store [
      ("page", ("\x7b\x7b define \"@\" \x7d\x7d\x7b\x7b template \"@\" . \x7d\x7d" ++
        "\x7b\x7b end \x7d\x7d").toUTF8)]) "page" "@" := by
  refine ⟨recurs_of_chain [] ?_ ?_, recurs_of_chain [] ?_ ?_, recurs_of_chain ["@h", "@x"] ?_ ?_,
    recurs_of_chain [] ?_ ?_⟩ <;> decide +kernel

end Session

end Collage
