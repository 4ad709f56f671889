import Collage.Proofs.Resolution.Calm

/-! # What a node is made of

A node that was put together is determined by the source, the tools and the nodes it was built
from: `Node.IsComposition` says how, and leaves out the session in which it happened.  A resolution
gives nodes that are compositions all the way down, if those that were kept before are.

The nodes that a draft ends with are described by `Draft.Gathers`, their names by `Draft.Spans`.
-/

namespace Collage

namespace Draft

variable {d d' : Draft} {sight : Directive.Sighting} {passed rest : List Directive.Sighting}
  {node n : Node Artifact}

/-- The names of the nodes in a draft are those that the directives passed so far refer to. -/
structure Spans (passed : List Directive.Sighting) (d : Draft) : Prop where
  included : ∀ reference, d.includes reference = true →
    Directive.nameOf reference ∈ d.dependencies.map (·.name)
  names : ∀ name, name ∈ d.dependencies.map (·.name) ↔
    ∃ sight ∈ passed, sight.directive.name = name

theorem spans_empty : empty.Spans [] :=
  ⟨by simp [empty, includes], by simp [empty]⟩

theorem Spans.repeated (spans : d.Spans passed)
    (again : d.includes sight.directive.reference = true) : d.Spans (passed ++ [sight]) where
  included := spans.included
  names := by
    intro name
    rw [spans.names]
    constructor
    · rintro ⟨other, member, named⟩
      exact ⟨other, List.mem_append_left _ member, named⟩
    · rintro ⟨other, member, named⟩
      cases List.mem_append.1 member with
      | inl member => exact ⟨other, member, named⟩
      | inr member =>
        -- The reference was passed before, so its name is one of those already.
        obtain rfl := List.mem_singleton.1 member
        exact (spans.names name).1 (named ▸ spans.included _ again)

theorem includes_take {reference : String}
    (included : (d.take sight node).includes reference = true) :
    d.includes reference = true ∨ reference = sight.directive.reference := by
  unfold take at included
  cases kindOf : sight.kind with
  | layout => exact .inl (by simpa [kindOf, includes, withLayout] using included)
  | inclusion =>
    simp only [kindOf, includes, withInclusion, List.any_append, List.any_cons, List.any_nil,
      Bool.or_false, Bool.or_eq_true, beq_iff_eq] at included
    exact included.imp_right Eq.symm

theorem Spans.take (spans : d.Spans passed) (named : node.name = sight.directive.name) :
    (d.take sight node).Spans (passed ++ [sight]) where
  included := by
    intro reference included
    rw [dependencies_take, mem_names_addUnique]
    cases includes_take included with
    | inl before => exact .inl (spans.included reference before)
    | inr same =>
      obtain rfl := same
      exact .inr named.symm
  names := by
    intro name
    rw [dependencies_take, mem_names_addUnique, spans.names, named]
    constructor
    · rintro (⟨other, member, rfl⟩ | rfl)
      · exact ⟨other, List.mem_append_left _ member, rfl⟩
      · exact ⟨sight, by simp, rfl⟩
    · rintro ⟨other, member, rfl⟩
      cases List.mem_append.1 member with
      | inl member => exact .inl ⟨other, member, rfl⟩
      | inr member => exact .inr (by rw [List.mem_singleton.1 member])

/-- `d.Gathers sights d'`: with a node for each directive that is wanted, the draft `d` becomes
`d'`.  Directives of one name are resolved to one node. -/
inductive Gathers : Draft → List Directive.Sighting → Draft → Prop where
  | done (d : Draft) : Gathers d [] d
  | repeated {d d' : Draft} {sight : Directive.Sighting} {rest : List Directive.Sighting} :
      sight.kind = .inclusion → d.includes sight.directive.reference = true → Gathers d rest d' →
      Gathers d (sight :: rest) d'
  | taken {d d' : Draft} {sight : Directive.Sighting} {rest : List Directive.Sighting}
      (node : Node Artifact) : d.Wants sight → node.name = sight.directive.name →
      (∀ known, d.resolved? sight.directive.name = some known → known = node) →
      Gathers (d.take sight node) rest d' → Gathers d (sight :: rest) d'

/-- A draft with a layout does not get past a second one. -/
theorem Gathers.not_second (gathers : d.Gathers (sight :: rest) d') (layout : sight.kind = .layout) :
    d.layout.isSome = false := by
  cases gathers with
  | repeated inclusion => simp [layout] at inclusion
  | taken node wants =>
    simp only [Wants, layout] at wants
    simp [wants]

theorem Gathers.of_repeated (gathers : d.Gathers (sight :: rest) d')
    (inclusion : sight.kind = .inclusion)
    (again : d.includes sight.directive.reference = true) : d.Gathers rest d' := by
  cases gathers with
  | repeated _ _ gathers => exact gathers
  | taken node wants => simp [Wants, inclusion, again] at wants

theorem Gathers.of_wants (gathers : d.Gathers (sight :: rest) d') (wants : d.Wants sight) :
    ∃ node, node.name = sight.directive.name ∧
      (∀ known, d.resolved? sight.directive.name = some known → known = node) ∧
      (d.take sight node).Gathers rest d' := by
  cases gathers with
  | repeated inclusion again => simp [Wants, inclusion, again] at wants
  | taken node _ named same gathers => exact ⟨node, named, same, gathers⟩

theorem Gathers.spans (gathers : d.Gathers rest d') (spans : d.Spans passed) :
    d'.Spans (passed ++ rest) := by
  induction gathers generalizing passed with
  | done d => simpa using spans
  | repeated _ again _ ih => simpa using ih (spans.repeated again)
  | taken node _ named _ _ ih => simpa using ih (spans.take named)

theorem Gathers.mem (gathers : d.Gathers rest d') (member : n ∈ d.dependencies) :
    n ∈ d'.dependencies := by
  induction gathers with
  | done d => exact member
  | repeated _ _ _ ih => exact ih member
  | taken node _ _ _ _ ih => exact ih (dependencies_take .. ▸ mem_addUnique_of_mem member)

end Draft

/-! ## Compositions -/

section

variable (source : Source) (tools : Tools) (kind : OutputKind)

/-- A node is what the source makes of its name on the nodes it was built from. -/
structure Node.IsComposition (n : Node Artifact) : Prop where
  normal : Name.normalize n.name = n.name
  derived : ∃ text draft, source.body n.name = .ok text ∧
    Draft.empty.Gathers (Directive.met text) draft ∧ draft.dependencies = n.dependencies ∧
    draft.assemble kind tools n.name (Directive.left text) = .ok n.artifact

/-- A node and everything that went into it are compositions. -/
def Node.Composed (n : Node Artifact) : Prop :=
  ∀ m, n.Embeds m → m.IsComposition source tools kind

end

/-- The template of one name has a directive that refers to another one. -/
def Source.Refers (source : Source) (parent child : String) : Prop :=
  ∃ text, source.text? parent = some text ∧
    ∃ sight ∈ Directive.met text, sight.directive.name = child

variable {source : Source} {tools : Tools} {kind : OutputKind} {n d : Node Artifact}

/-- A composition was built from what its template refers to. -/
theorem Node.IsComposition.refers_iff (composition : n.IsComposition source tools kind)
    (child : String) : source.Refers n.name child ↔ child ∈ n.dependencyNames := by
  obtain ⟨-, text, draft, known, gathers, built, -⟩ := composition
  have names := (gathers.spans Draft.spans_empty).names child
  rw [built, List.nil_append] at names
  have same := Source.text?_of_body known
  constructor
  · rintro ⟨other, given, refers⟩
    obtain rfl := Option.some.inj (same.symm.trans given)
    exact names.2 refers
  · intro member
    exact ⟨text, same, names.1 member⟩

theorem Node.Composed.of_mem (composed : n.Composed source tools kind)
    (member : d ∈ n.dependencies) : d.Composed source tools kind :=
  fun m embeds => composed m (.step member embeds)

theorem Node.Composed.of_embeds {m : Node Artifact} (composed : n.Composed source tools kind)
    (embeds : n.Embeds m) : m.Composed source tools kind :=
  fun k inside => composed k (embeds.trans inside)

theorem Node.composed_iff : n.Composed source tools kind ↔
    n.IsComposition source tools kind ∧ ∀ d ∈ n.dependencies, d.Composed source tools kind := by
  constructor
  · intro composed
    exact ⟨composed n (.refl n), fun d member => composed.of_mem member⟩
  · rintro ⟨composition, below⟩ m embeds
    rcases embeds.cases_head with rfl | ⟨d, member, embeds⟩
    · exact composition
    · exact below d member m embeds

/-! ## Resolutions give compositions -/

namespace Session

variable {s : Session}

/-- The session works with a source and tools that nothing changes, and all that it keeps for an
output kind is composed of that source. -/
structure Truthful (source : Source) (tools : Tools) (kind : OutputKind) (s : Session) :
    Prop where
  source_eq : s.source = source
  tools_eq : s.tools = tools
  calm : s.disturbances = []
  kept : ∀ n ∈ (s.shelf kind).cache.nodes, n.Composed source tools kind

theorem Truthful.of_still {t : Session} (truthful : Truthful source tools kind s)
    (still : Still kind s t) (kept : ∀ n ∈ (t.shelf kind).cache.nodes,
      n ∈ (s.shelf kind).cache.nodes ∨ n.Composed source tools kind) :
    Truthful source tools kind t where
  source_eq := still.source.trans truthful.source_eq
  tools_eq := still.tools.trans truthful.tools_eq
  calm := still.calm
  kept := fun n member => (kept n member).elim (truthful.kept n) id

theorem Truthful.read (truthful : Truthful source tools kind s) (name : String) :
    Truthful source tools kind (s.read name).2 := by
  refine truthful.of_still (still_read truthful.calm name) ?_
  rw [s.read_of_undisturbed name truthful.calm]
  exact fun n member => .inl (by simpa using member)

theorem Truthful.commit (truthful : Truthful source tools kind s) {name : String}
    {artifact : Artifact} {dependencies : List (Node Artifact)}
    (composed : (⟨s.made, name, artifact, dependencies⟩ : Node Artifact).Composed source tools
      kind) : Truthful source tools kind (s.commit kind name artifact dependencies).2 := by
  refine truthful.of_still (still_commit truthful.calm name artifact dependencies) ?_
  intro n member
  rw [shelf_commit, if_pos rfl] at member
  cases Shelf.of_mem_put member with
  | inl same =>
    obtain rfl := same
    exact .inr composed
  | inr member => exact .inl member

theorem Truthful.with_flight (truthful : Truthful source tools kind s) (flight : Flight) :
    Truthful source tools kind { s with flight } :=
  ⟨truthful.source_eq, truthful.tools_eq, truthful.calm, by simpa using truthful.kept⟩

/-- What is known while the directives of a text are resolved: what is left to gather gives, after
what was gathered so far, the draft of the whole text. -/
structure Gathering (source : Source) (tools : Tools) (kind : OutputKind) (text : String)
    (rest : List Directive.Sighting) (d : Draft) (s : Session) : Prop where
  truthful : Truthful source tools kind s
  composed : ∀ n ∈ d.dependencies, n.Composed source tools kind
  gathers : ∀ d', d.Gathers rest d' → Draft.empty.Gathers (Directive.met text) d'

theorem Gathering.take {text : String} {sight : Directive.Sighting}
    {rest : List Directive.Sighting} {d : Draft} {node : Node Artifact} {t : Session}
    (gathering : Gathering source tools kind text (sight :: rest) d s) (wants : d.Wants sight)
    (named : node.name = sight.directive.name)
    (known : ∀ other, d.resolved? sight.directive.name = some other → other = node)
    (composed : node.Composed source tools kind)
    (truthful : Truthful source tools kind t) :
    Gathering source tools kind text rest (d.take sight node) t where
  truthful := truthful
  composed := Draft.forall_take gathering.composed composed sight
  gathers := fun d' gathers => gathering.gathers d' (.taken node wants named known gathers)

/-- What it takes for a resolution to give compositions. -/
def GivesComposed (source : Source) (tools : Tools) (kind : OutputKind) (visit : Visit) : Prop :=
  ∀ name s, Name.normalize name = name → Truthful source tools kind s →
    Ends (fun n t => n.name = name ∧ n.Composed source tools kind ∧
        Truthful source tools kind t)
      (fun _ t => Truthful source tools kind t) (visit name s)

theorem gathering_loop {visit : Visit} (inside : GivesComposed source tools kind visit)
    (parent text : String) :
    Loop kind visit parent (Gathering source tools kind text)
      (fun _ t => Truthful source tools kind t) where
  second := fun gathering _ _ => gathering.truthful
  repeated := by
    intro sight rest d t gathering inclusion again
    exact ⟨gathering.truthful, gathering.composed, fun d' gathers =>
      gathering.gathers d' (.repeated inclusion again gathers)⟩
  again := by
    intro sight rest d t gathering wants node found
    -- The same node is taken once more, as directives of one name are resolved to one node.
    obtain ⟨member, named⟩ := Draft.mem_of_resolved? found
    refine gathering.take wants named ?_ (gathering.composed node member) gathering.truthful
    intro other found'
    exact Option.some.inj (found'.symm.trans found)
  kept := by
    intro sight rest d t gathering wants new _ node found
    obtain ⟨member, named⟩ := Cache.mem_of_get? found
    exact gathering.take wants named (by simp [new]) (gathering.truthful.kept node member)
      gathering.truthful
  visited := by
    intro sight rest d t gathering wants new _
    refine (inside sight.directive.name t sight.directive.normalize_name gathering.truthful).imp
      ?_ fun _ _ truthful => truthful
    rintro node u ⟨named, composed, truthful⟩
    exact gathering.take wants named (by simp [new]) composed truthful

/-- What is put together under a normal name is composed of the source, and so is all that is kept
afterwards. -/
theorem preprocess_truthful (room : Nat) :
    GivesComposed source tools kind (preprocess kind room) := by
  induction room with
  | zero => exact fun _ _ _ truthful => truthful
  | succ room ih =>
    intro name s normal truthful
    refine preprocess_rule (fun _ => truthful) fun _ => ?_
    have read := (truthful.with_flight ⟨s.flight.path ++ [name]⟩).read name
    refine build_rule (fun _ _ => read.with_flight _) ?_
    intro text known
    have source_eq : (s.entering name).source = source := truthful.source_eq
    rw [source_eq] at known
    have start : Gathering source tools kind text (Directive.met text) .empty
        ((s.entering name).read name).2 := ⟨read, by simp [Draft.empty], fun _ => id⟩
    refine (follow_rule (gathering_loop ih name text) (Directive.met text) start).imp ?_
      fun _ _ truthful => truthful.with_flight _
    -- Nothing is left to gather, so the draft is that of the whole text.
    intro draft t gathering
    split
    · exact gathering.truthful.with_flight _
    · next artifact assembled =>
      rw [gathering.truthful.tools_eq] at assembled
      have composed : (⟨t.made, name, artifact, draft.dependencies⟩ : Node Artifact).Composed
          source tools kind :=
        Node.composed_iff.2 ⟨⟨normal, text, draft, known, gathering.gathers draft (.done draft), rfl,
          assembled⟩, gathering.composed⟩
      exact ⟨rfl, composed, (gathering.truthful.commit composed).with_flight _⟩

/-- Whatever is asked for, in whatever spelling, all that is kept stays composed of the source. -/
theorem Truthful.resolve (truthful : ∀ other, Truthful source tools other s) (kind : OutputKind)
    (spelling : String) (other : OutputKind) :
    Truthful source tools other (s.resolve kind spelling).2 := by
  obtain ⟨node, -, eq⟩ | ⟨-, eq⟩ := s.resolve_cases kind spelling
  · rw [eq]
    exact truthful other
  · by_cases same : other = kind
    · subst same
      rw [eq]
      refine ends_snd_iff.1 ((preprocess_truthful s.room (Name.normalize spelling) _
        (Name.normalize_normalize spelling) ((truthful other).with_flight .empty)).imp ?_ ?_)
      · exact fun _ _ good => good.2.2
      · exact fun _ _ truthful => truthful
    · have still := still_resolve kind spelling (truthful kind).calm
      refine ⟨still.source.trans (truthful other).source_eq,
        still.tools.trans (truthful other).tools_eq, still.calm, ?_⟩
      rw [still.others other same]
      exact (truthful other).kept

/-- A node that is given, kept or not, is composed of the source. -/
theorem Truthful.of_resolve (truthful : Truthful source tools kind s) {spelling : String}
    {node : Node Artifact} (found : (s.resolve kind spelling).1 = .ok node) :
    node.name = Name.normalize spelling ∧ node.Composed source tools kind := by
  cases resolve_ok found with
  | inl kept =>
    obtain ⟨member, named⟩ := Cache.mem_of_get? kept
    exact ⟨named, truthful.kept node member⟩
  | inr made =>
    have good := (preprocess_truthful s.room (Name.normalize spelling) _
      (Name.normalize_normalize spelling) (truthful.with_flight .empty)).of_ok made
    exact ⟨good.1, good.2.1⟩

end Session

end Collage
