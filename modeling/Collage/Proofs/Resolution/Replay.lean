import Collage.Proofs.Resolution.Cycles

/-! # Putting a node together again

`Node.View` is what can be told of a node from outside.  It does not show which node it is, and a
draft that holds other nodes of the same views comes to the same artifact (`Draft.Alike.assemble`).
So a node that is composed of a source is put together again, with the same view, by a session that
keeps nothing (`Session.replay`).
-/

namespace Collage

/-- What can be told of a node from outside: its name, what it was compiled to, and the names of
what it was built from. -/
structure Node.View where
  name : String
  artifact : Artifact
  dependencyNames : List String

/-- A node from outside. -/
def Node.view (n : Node Artifact) : Node.View := ⟨n.name, n.artifact, n.dependencyNames⟩

theorem Node.name_eq_of_view {n m : Node Artifact} (same : n.view = m.view) : n.name = m.name :=
  congrArg Node.View.name same

theorem Node.artifact_eq_of_view {n m : Node Artifact} (same : n.view = m.view) :
    n.artifact = m.artifact :=
  congrArg Node.View.artifact same

namespace Draft

/-- Two drafts have the same references with nodes that look the same. -/
structure Alike (d e : Draft) : Prop where
  layout : d.layout.map Node.view = e.layout.map Node.view
  inclusions : d.inclusions.map (Prod.map id Node.view) = e.inclusions.map (Prod.map id Node.view)
  dependencies : d.dependencies.map Node.view = e.dependencies.map Node.view

variable {d e : Draft} {sight : Directive.Sighting} {n m : Node Artifact}

theorem Alike.refl (d : Draft) : d.Alike d := ⟨rfl, rfl, rfl⟩

theorem Alike.symm (alike : d.Alike e) : e.Alike d :=
  ⟨alike.layout.symm, alike.inclusions.symm, alike.dependencies.symm⟩

theorem Alike.isSome_layout (alike : d.Alike e) : d.layout.isSome = e.layout.isSome := by
  have same := congrArg Option.isSome alike.layout
  simpa using same

theorem Alike.includes (alike : d.Alike e) (reference : String) :
    d.includes reference = e.includes reference := by
  have same := congrArg (fun entries => entries.any (·.1 == reference)) alike.inclusions
  simpa [Draft.includes, List.any_map, Function.comp_def] using same

theorem Alike.wants (alike : d.Alike e) (wants : d.Wants sight) : e.Wants sight := by
  unfold Wants at wants ⊢
  cases kindOf : sight.kind with
  | layout =>
    simp only [kindOf] at wants
    have same := alike.layout
    rw [wants] at same
    simpa using same.symm
  | inclusion =>
    simp only [kindOf] at wants
    rw [← alike.includes]
    exact wants

theorem Alike.names (alike : d.Alike e) :
    d.dependencies.map (·.name) = e.dependencies.map (·.name) := by
  have same := congrArg (List.map Node.View.name) alike.dependencies
  simpa [Function.comp_def, Node.view] using same

theorem Alike.resolved? (alike : d.Alike e) (name : String) :
    (d.resolved? name).map Node.view = (e.resolved? name).map Node.view := by
  have same := congrArg (List.find? (·.name == name)) alike.dependencies
  simpa [Draft.resolved?, List.find?_map, Function.comp_def, Node.view] using same

theorem Alike.of_resolved? (alike : d.Alike e) {name : String}
    (found : d.resolved? name = some n) : ∃ m, e.resolved? name = some m ∧ n.view = m.view := by
  have same := alike.resolved? name
  rw [found, Option.map_some, eq_comm, Option.map_eq_some_iff] at same
  obtain ⟨m, found', view⟩ := same
  exact ⟨m, found', view.symm⟩

theorem Alike.new (alike : d.Alike e) {name : String} (new : d.resolved? name = none) :
    e.resolved? name = none := by
  have same := alike.resolved? name
  rw [new] at same
  simpa using same.symm

theorem Alike.addUnique (alike : d.Alike e) (same : n.view = m.view) :
    (addUnique d.dependencies n).map Node.view = (addUnique e.dependencies m).map Node.view := by
  have known : d.dependencies.any (·.name == n.name) = e.dependencies.any (·.name == m.name) := by
    have names := congrArg (List.any · (· == n.name)) alike.names
    rw [← Node.name_eq_of_view same]
    simpa [List.any_map, Function.comp_def] using names
  unfold Draft.addUnique
  rw [known]
  split
  · exact alike.dependencies
  · simp [alike.dependencies, same]

theorem Alike.take (alike : d.Alike e) (same : n.view = m.view) :
    (d.take sight n).Alike (e.take sight m) := by
  unfold Draft.take
  cases sight.kind with
  | layout => exact ⟨by simp [withLayout, same], alike.inclusions, alike.addUnique same⟩
  | inclusion =>
    exact ⟨alike.layout, by simp [withInclusion, alike.inclusions, same], alike.addUnique same⟩

theorem mergeAll_eq {entries others : List (String × Node Artifact)}
    (same : entries.map (Prod.map id Node.view) = others.map (Prod.map id Node.view))
    (a : Artifact) : mergeAll a entries = mergeAll a others := by
  induction entries generalizing others a with
  | nil =>
    cases others with
    | nil => rfl
    | cons other rest => simp at same
  | cons entry rest ih =>
    cases others with
    | nil => simp at same
    | cons other rest' =>
      obtain ⟨reference, node⟩ := entry
      obtain ⟨reference', node'⟩ := other
      simp only [List.map_cons, List.cons.injEq, Prod.map_apply, id_eq, Prod.mk.injEq] at same
      obtain ⟨⟨rfl, view⟩, same⟩ := same
      simp only [mergeAll, Node.artifact_eq_of_view view, Node.name_eq_of_view view]
      cases a.merge node'.artifact reference with
      | ok a' => exact ih same a'
      | error cause => rfl

/-- Drafts that are alike come to the same artifact. -/
theorem Alike.assemble (alike : d.Alike e) (kind : OutputKind) (tools : Tools)
    (name text : String) : d.assemble kind tools name text = e.assemble kind tools name text := by
  have base : d.base name tools = e.base name tools := by
    have same := alike.layout
    unfold Draft.base
    cases first : d.layout with
    | none =>
      cases second : e.layout with
      | none => rfl
      | some m => simp [first, second] at same
    | some n =>
      cases second : e.layout with
      | none => simp [first, second] at same
      | some m =>
        simp only [first, second, Option.map_some, Option.some.injEq] at same
        exact Node.artifact_eq_of_view same
  rw [Draft.assemble, Draft.assemble, base, mergeAll_eq alike.inclusions]

end Draft

namespace Session

variable {source : Source} {tools : Tools} {kind : OutputKind} {path : List String}
  {s t u : Session}

/-- A session that keeps nothing of an output kind, works with a source and tools that nothing
changes, and has the names on a path in flight. -/
structure Bare (source : Source) (tools : Tools) (kind : OutputKind) (path : List String)
    (t : Session) : Prop where
  shelf : t.shelf kind = .discarding
  source_eq : t.source = source
  tools_eq : t.tools = tools
  calm : t.disturbances = []
  flight : t.flight.path = path

theorem Bare.of_still (bare : Bare source tools kind path t) (still : Still kind t u)
    (flight : u.flight = t.flight) : Bare source tools kind path u where
  shelf := still.bare bare.shelf
  source_eq := still.source.trans bare.source_eq
  tools_eq := still.tools.trans bare.tools_eq
  calm := still.calm
  flight := (congrArg Flight.path flight).trans bare.flight

theorem Bare.preprocess (bare : Bare source tools kind path t) (room : Nat) (name : String) :
    Bare source tools kind path (preprocess kind room name t).2 :=
  bare.of_still (still_preprocess room name bare.calm) (flight_preprocess kind room name t)

theorem Bare.enter (bare : Bare source tools kind path t) (name : String) :
    Bare source tools kind (path ++ [name]) ((t.entering name).read name).2 := by
  have entered : Bare source tools kind (path ++ [name]) (t.entering name) :=
    ⟨by rw [entering, shelf_with_flight, bare.shelf], bare.source_eq, bare.tools_eq, bare.calm,
      by rw [entering, bare.flight]⟩
  exact entered.of_still (still_read entered.calm name) ((t.entering name).beside_read name).flight

theorem Bare.missing (bare : Bare source tools kind path t) (name : String) :
    (t.shelf kind).get? name = none := by
  rw [bare.shelf]
  rfl

/-- What is known while a node's draft is gathered again: the draft so far looks like one that the
node's own draft is gathered from. -/
def Retracing (source : Source) (tools : Tools) (kind : OutputKind) (path : List String)
    (draft : Draft) (rest : List Directive.Sighting) (d : Draft) (u : Session) : Prop :=
  Bare source tools kind path u ∧ ∃ e, d.Alike e ∧ e.Gathers rest draft

theorem retracing_loop {draft : Draft} {visit : Visit}
    (inside : ∀ part ∈ draft.dependencies, ∀ u, Bare source tools kind path u →
      Ends (fun n v => n.view = part.view ∧ Bare source tools kind path v)
        (fun halt _ => halt = .outOfRoom) (visit part.name u)) (parent : String) :
    Loop kind visit parent (Retracing source tools kind path draft)
      (fun halt _ => halt = .outOfRoom) where
  second := by
    rintro sight rest d u ⟨-, e, alike, gathers⟩ layout second
    rw [alike.isSome_layout, gathers.not_second layout] at second
    cases second
  repeated := by
    rintro sight rest d u ⟨bare, e, alike, gathers⟩ inclusion again
    rw [alike.includes] at again
    exact ⟨bare, e, alike, gathers.of_repeated inclusion again⟩
  again := by
    rintro sight rest d u ⟨bare, e, alike, gathers⟩ wants node found
    -- The draft of the node takes the node that it has already, too.
    obtain ⟨node', -, resolved, gathers⟩ := gathers.of_wants (alike.wants wants)
    obtain ⟨known, found', view⟩ := alike.of_resolved? found
    obtain rfl := resolved known found'
    exact ⟨bare, _, alike.take view, gathers⟩
  kept := by
    rintro sight rest d u ⟨bare, -⟩ - - - node found
    rw [bare.missing] at found
    cases found
  visited := by
    rintro sight rest d u ⟨bare, e, alike, gathers⟩ wants new -
    -- The part that the node was built from is put together in its place.
    obtain ⟨part, named, -, gathers⟩ := gathers.of_wants (alike.wants wants)
    have member : part ∈ draft.dependencies :=
      gathers.mem (Draft.mem_take_of_new (named ▸ alike.new new) sight)
    have ends := inside part member u bare
    rw [named] at ends
    refine ends.imp ?_ ?_
    · rintro node v ⟨view, bare⟩
      exact ⟨bare, _, alike.take view, gathers⟩
    · rintro halt v rfl
      rfl

/-- A node that is composed of the source is put together again, unless the room does not suffice,
where nothing is kept and nothing that went into it is in flight. -/
theorem replay (room : Nat) (y : Node Artifact) (t : Session)
    (bare : Bare source tools kind path t) (composed : y.Composed source tools kind)
    (outside : ∀ m, y.Embeds m → m.name ∉ path) :
    Ends (fun n _ => n.view = y.view) (fun halt _ => halt = .outOfRoom)
      (preprocess kind room y.name t) := by
  induction room generalizing y t path with
  | zero => rfl
  | succ room ih =>
    obtain ⟨-, text, draft, body, gathers, built, assembled⟩ := composed y (.refl y)
    refine preprocess_rule ?_ fun _ => ?_
    · -- A node whose name is in flight could not be put together.
      intro active
      have inside : y.name ∈ path := by simpa [Flight.isActive, bare.flight] using active
      exact absurd inside (outside y (.refl y))
    · have same : (t.entering y.name).source.body y.name = .ok text := by
        have source_eq : (t.entering y.name).source = source := bare.source_eq
        rw [source_eq, body]
      refine build_rule ?_ ?_
      · intro e unfit
        rw [same] at unfit
        cases unfit
      · intro text' known
        obtain rfl := Except.ok.inj (same.symm.trans known)
        have inside : ∀ part ∈ draft.dependencies, ∀ u,
            Bare source tools kind (path ++ [y.name]) u →
            Ends (fun n v => n.view = part.view ∧ Bare source tools kind (path ++ [y.name]) v)
              (fun halt _ => halt = .outOfRoom) (Session.preprocess kind room part.name u) := by
          intro part member u bare
          rw [built] at member
          have ends := ih part u bare (composed.of_mem member) ?_
          · exact (ends.and_snd (bare.preprocess room part.name)).imp (fun _ _ ends => ends)
              fun _ _ ends => ends.1
          · -- No part has the name of the node, which is in flight by now.
            intro m embeds
            rw [List.mem_append, List.mem_singleton, not_or]
            exact ⟨outside m (.step member embeds), composed.name_ne_of_embeds member embeds⟩
        refine (follow_rule (retracing_loop inside y.name) (Directive.met text)
          ⟨bare.enter y.name, .empty, .refl _, gathers⟩).imp ?_ fun _ _ out => out
        rintro d u ⟨bare, e, alike, gathers⟩
        cases gathers with
        | done =>
          rw [bare.tools_eq, alike.assemble, assembled]
          have names : d.dependencies.map (·.name) = y.dependencyNames := by
            rw [alike.names, built, Node.dependencyNames]
          simp only [commit_fst, Node.view, Node.dependencyNames, names]

end Session

end Collage
