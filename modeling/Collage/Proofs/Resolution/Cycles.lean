import Collage.Proofs.Resolution.Termination

/-! # Templates that refer to one another in a circle

A resolution that fails because of a circle names a template on one, and a resolution that succeeds
has no circle below it.

* Each name in flight refers, directly or through others, to the template that is visited
  (`Session.preprocess_circle`), so a name that comes up again while it is in flight is on a circle.
* What a node was built from is what its template refers to, and a node is a finite tree, so no
  circle is below a node that is composed of the source (`Node.Composed.acyclic`).
-/

namespace Collage

open Relation

variable {source : Source} {tools : Tools} {kind : OutputKind}

/-! ## Below a node -/

namespace Node.Composed

variable {n : Node Artifact}

/-- Whatever the template of a node refers to, directly or through others, went into the node. -/
theorem embeds_of_reaches (composed : n.Composed source tools kind) {child : String}
    (reaches : ReflTransGen source.Refers n.name child) : ∃ m, n.Embeds m ∧ m.name = child := by
  induction reaches with
  | refl => exact ⟨n, .refl n, rfl⟩
  | tail _ refers ih =>
    obtain ⟨m, embeds, rfl⟩ := ih
    obtain ⟨d, built, rfl⟩ := List.mem_map.1 (((composed m embeds).refers_iff _).1 refers)
    exact ⟨d, embeds.trans (.of_mem built), rfl⟩

theorem reaches_of_embeds {n m : Node Artifact} (composed : n.Composed source tools kind)
    (embeds : n.Embeds m) : ReflTransGen source.Refers n.name m.name := by
  induction embeds with
  | refl n => exact .refl
  | step built _ ih =>
    refine .head ?_ (ih (composed.of_mem built))
    exact ((composed _ (.refl _)).refers_iff _).2 (List.mem_map_of_mem built)

/-- The template of a node is not on a circle.  Otherwise a smaller node inside of it would have its
name. -/
theorem acyclic {n : Node Artifact} (composed : n.Composed source tools kind) :
    ¬ TransGen source.Refers n.name n.name := by
  intro circle
  obtain ⟨child, refers, back⟩ := TransGen.head'_iff.1 circle
  obtain ⟨d, built, rfl⟩ := List.mem_map.1 (((composed n (.refl n)).refers_iff child).1 refers)
  obtain ⟨m, embeds, named⟩ := (composed.of_mem built).embeds_of_reaches back
  -- The circle leads to a node that went into this one, and it goes around from there too.
  have smaller : sizeOf m < sizeOf n :=
    Nat.lt_of_le_of_lt embeds.sizeOf_le (sizeOf_lt_of_mem built)
  exact ((composed.of_mem built).of_embeds embeds).acyclic (named ▸ circle)
termination_by sizeOf n

/-- Nothing that a node was built from has the name of the node inside of it. -/
theorem name_ne_of_embeds (composed : n.Composed source tools kind) {d m : Node Artifact}
    (built : d ∈ n.dependencies) (embeds : d.Embeds m) : m.name ≠ n.name := by
  intro same
  refine composed.acyclic (.head' ?_ (same ▸ (composed.of_mem built).reaches_of_embeds embeds))
  exact ((composed n (.refl n)).refers_iff d.name).2 (List.mem_map_of_mem built)

end Node.Composed

namespace Session

/-! ## Failures about a circle -/

variable {room : Nat} {name : String} {s t : Session}

/-- If a resolution stops because of a circle, it names a template on one, which the visited
template refers to. -/
def BlamesCircle (source : Source) (name : String) (halt : Halt) : Prop :=
  ∀ e c, halt = .failed e → e.root = .recursive c →
    ReflTransGen source.Refers name c ∧ TransGen source.Refers c c

/-- What is blamed below a directive is blamed by its parent. -/
theorem BlamesCircle.within {sight : Directive.Sighting} {halt : Halt}
    (blames : BlamesCircle source sight.directive.name halt)
    (refers : source.Refers name sight.directive.name) :
    BlamesCircle source name (halt.within name sight) := by
  intro e c failed about
  cases halt with
  | outOfRoom => cases failed
  | failed cause =>
    cases failed
    obtain ⟨reaches, back⟩ := blames cause c rfl about
    exact ⟨.head refers reaches, back⟩

/-- Every name in flight refers, directly or through others, to the template that is visited. -/
def Chained (source : Source) (path : List String) (name : String) : Prop :=
  ∀ x ∈ path, TransGen source.Refers x name

theorem Chained.enter {path : List String} (chained : Chained source path name) {child : String}
    (refers : source.Refers name child) : Chained source (path ++ [name]) child := by
  intro x member
  cases List.mem_append.1 member with
  | inl member => exact (chained x member).tail refers
  | inr member =>
    obtain rfl := List.mem_singleton.1 member
    exact .single refers

/-- If every name in flight refers to the one that is visited, then a failure about a circle blames
one. -/
theorem preprocess_circle (kind : OutputKind) (room : Nat) (name : String) (s : Session)
    (calm : s.disturbances = []) (chained : Chained s.source s.flight.path name) :
    Ends (fun _ _ => True) (fun halt _ => BlamesCircle s.source name halt)
      (preprocess kind room name s) := by
  induction room generalizing name s with
  | zero =>
    intro e c failed
    cases failed
  | succ room ih =>
    have walk : Walk kind room name s (fun _ => True) (fun _ _ => True)
        (fun halt _ => BlamesCircle s.source name halt) :=
      { active := by
          intro active e c failed about
          cases failed
          cases about
          exact ⟨.refl, chained name (by simpa [Flight.isActive] using active)⟩
        entered := fun _ => trivial
        own := by
          intro e t other _ e' c failed about
          cases failed
          exact absurd about (other c)
        visited := by
          intro text passed sight rest t _ body met known _ _ _
          have path : t.flight.path = s.flight.path ++ [name] := congrArg Flight.path known.flight
          have source : t.source = s.source := known.still.source
          have refers : s.source.Refers name sight.directive.name :=
            ⟨text, Source.text?_of_body body, sight, by simp [met], rfl⟩
          have ends := ih sight.directive.name t known.calm
            (source.symm ▸ path.symm ▸ chained.enter refers)
          rw [source] at ends
          exact ends.imp (fun _ _ _ => trivial) fun _ _ blames => blames.within refers
        done := fun _ _ _ _ => trivial }
    exact walk_rule walk calm

/-! ## Runs over one source -/

end Session

/-- Whether a change leaves the source alone. -/
def Change.keepsSource : Change → Bool
  | .store .. | .erase _ | .become _ => false
  | .evict .. | .invalidate .. | .clear _ => true

namespace Session

variable {s : Session}

/-- Whether a step leaves the source alone. -/
def Step.keepsSource : Step → Bool
  | .render .. | .prepare .. => true
  | .change c => c.keepsSource

theorem Truthful.with_shelf (truthful : Truthful source tools kind s) {other : OutputKind}
    {shelf : Shelf Artifact}
    (less : ∀ n ∈ shelf.cache.nodes, n ∈ (s.shelf other).cache.nodes) :
    Truthful source tools kind (s.withShelf other shelf) where
  source_eq := by simpa using truthful.source_eq
  tools_eq := by simpa using truthful.tools_eq
  calm := by simpa using truthful.calm
  kept := by
    intro n member
    rw [shelf_withShelf] at member
    split at member
    · next same => exact truthful.kept n (same ▸ less n member)
    · exact truthful.kept n member

theorem Truthful.apply (truthful : Truthful source tools kind s) {c : Change}
    (keeps : c.keepsSource = true) : Truthful source tools kind (s.apply c) := by
  cases c with
  | store name bytes => cases keeps
  | erase name => cases keeps
  | become source => cases keeps
  | evict other name => exact truthful.with_shelf fun n => Shelf.mem_of_mem_invalidate
  | invalidate other name => exact truthful.with_shelf fun n => Shelf.mem_of_mem_invalidate
  | clear other => exact truthful.with_shelf (by simp [Cache.empty])

theorem run_truthful (source : Source) (tools : Tools) (mode : CacheMode) {steps : List Step}
    (keeps : ∀ step ∈ steps, step.keepsSource = true) (kind : OutputKind) :
    Truthful source tools kind ((start source tools mode []).run steps) := by
  have all : ∀ kind, Truthful source tools kind ((start source tools mode []).run steps) := by
    refine run_rule (P := fun s => ∀ kind, Truthful source tools kind s) ?_ ?_ ?_
    · intro s kind name truthful
      exact Truthful.resolve truthful kind name
    · intro s c member truthful kind
      exact (truthful kind).apply (keeps _ member)
    · intro kind
      refine ⟨rfl, rfl, rfl, ?_⟩
      cases kind <;> cases mode <;> simp [start, shelf, Shelf.ofMode, Shelf.cache, Cache.empty]
  exact all kind

/-- Over a store that nobody changes, whatever is kept: a failure about a circle names a template
that the one asked for refers to and that is on a circle, and after a success all that the template
refers to is stored, and none of it is on a circle. -/
theorem resolve_circles (templates : List (String × ByteArray)) (tools : Tools)
    (mode : CacheMode) (steps : List Step) (kind : OutputKind) (spelling : String)
    (keeps : ∀ step ∈ steps, step.keepsSource = true) :
    let source := Source.store templates
    let s := (start source tools mode []).run steps
    (∀ e c, (s.resolve kind spelling).1 = .error e → e.root = .recursive c →
      ReflTransGen source.Refers (Name.normalize spelling) c ∧ TransGen source.Refers c c) ∧
    (∀ node, (s.resolve kind spelling).1 = .ok node →
      ∀ u, ReflTransGen source.Refers (Name.normalize spelling) u →
        source.contains? u = some true ∧ ¬ TransGen source.Refers u u) := by
  intro source s
  have truthful : ∀ kind, Truthful source tools kind s := run_truthful source tools mode keeps
  have calm := (truthful kind).calm
  have same : s.source = source := (truthful kind).source_eq
  constructor
  · intro e c failed about
    -- Nothing is in flight yet, so there is nothing to refer to the name asked for.
    have circle := preprocess_circle kind s.room (Name.normalize spelling)
      { s with flight := .empty } calm (by simp [Chained, Flight.empty])
    have known := circle.of_error (resolve_error calm failed) e c rfl about
    rw [same] at known
    exact known
  · intro node found u reaches
    -- All that is referred to went into the node, so it was there and is composed itself.
    obtain ⟨named, composed⟩ := (truthful kind).of_resolve found
    rw [← named] at reaches
    obtain ⟨m, embeds, rfl⟩ := composed.embeds_of_reaches reaches
    refine ⟨?_, (composed.of_embeds embeds).acyclic⟩
    obtain ⟨-, text, draft, body, -⟩ := composed m embeds
    obtain ⟨bytes, stored⟩ := Source.lookup_of_text? (Source.text?_of_body body)
    simp [source, Source.contains?, stored]

/-- Two templates that refer to each other, one of which was asked for and given up before. -/
theorem resolve_circle_of_two :
    let source := Source.store [("a", "\x7b\x7b layout \"@b\" \x7d\x7d".toUTF8),
      ("b", "\x7b\x7b template \"@a\" . \x7d\x7d".toUTF8)]
    let steps : List Step := [.prepare .html "b", .change (.evict .html "a")]
    let s := (start source .empty .enabled []).run steps
    (∀ step ∈ steps, step.keepsSource = true) ∧
      ∀ e c, (s.resolve .html "./a").1 = .error e → e.root = .recursive c →
        ReflTransGen source.Refers (Name.normalize "./a") c ∧ TransGen source.Refers c c := by
  intro source steps s
  have keeps : ∀ step ∈ steps, step.keepsSource = true := by
    simp [steps, Step.keepsSource, Change.keepsSource]
  exact ⟨keeps, (resolve_circles _ .empty .enabled steps .html "./a" keeps).1⟩

end Session

end Collage
