import Collage.Proofs.Resolution.Tower

/-! # The way to a failure

`ComposeError.chain` is to tell the way from the template that was asked for to the one that fails.
The wrappers of a failure do lead along directives, from each parent to the next one
(`Source.Leads.route`), and the chain gives their parents and then the name that the failure inside
is about.  That is the template that fails, except where a definition cannot be merged: then it is
the template that lacks the definition, one directive further on, and the template that asks for it
is left out (`Session.resolve_route`).
-/

namespace Collage

/-- The names of a chain are the parents of the wrappers and what the failure inside is about. -/
theorem ComposeError.chain_eq (e : ComposeError) :
    e.chain = e.wrappers.map (·.parent) ++ e.root.subject?.toList := by
  induction e with
  | directive kind reference parent cause ih => rw [chain, wrappers, root, ih]; rfl
  | _ => rfl

namespace Source

/-- `source.Route first last names`: the names begin with the first one and end with the last one,
and the template of each has a directive that refers to the next. -/
inductive Route (source : Source) : String → String → List String → Prop where
  | here (name : String) : Route source name name [name]
  | step {name next last : String} {names : List String} : source.Refers name next →
      Route source next last names → Route source name last (name :: names)

variable {source : Source} {name first last next failing definition template : String}
  {names : List String} {wrappers : List ComposeError.Wrapper} {cause : ArtifactError}

theorem Route.head? (route : source.Route first last names) : names.head? = some first := by
  cases route with
  | here => rfl
  | step => rfl

theorem Route.concat (route : source.Route first last names) (refers : source.Refers last next) :
    source.Route first next (names ++ [next]) := by
  induction route with
  | here name => exact .step refers (.here next)
  | step before _ ih => exact .step before (ih refers)

/-- The parents of wrappers that lead to a template are a way there. -/
theorem Leads.route (leads : source.Leads name wrappers failing) :
    source.Route name failing (wrappers.map (·.parent) ++ [failing]) := by
  induction wrappers generalizing name with
  | nil =>
    obtain rfl : name = failing := leads
    exact .here name
  | cons w rest ih =>
    obtain ⟨rfl, ⟨text, known, sight, member, -, same⟩, onward⟩ := leads
    refine .step ⟨text, known, sight, member, ?_⟩ (ih onward)
    rw [Directive.name, same]

/-- A template that fails because a definition cannot be merged refers to the one that lacks it. -/
theorem Blames.refers (blames : source.Blames failing (.merge definition template cause)) :
    source.Refers failing template := by
  obtain ⟨rfl, text, known, member⟩ := blames
  rw [Directive.references, List.mem_eraseDups] at member
  obtain ⟨sight, among, rfl⟩ := List.mem_map.1 member
  exact ⟨text, known, sight, (List.mem_filter.1 among).1, rfl⟩

/-- A failure is about the template that fails, unless that cannot be read or a definition cannot be
merged into it. -/
theorem subject?_eq {e : ComposeError}
    (fails : if e.isRecursive then e.root = .recursive failing else source.Blames failing e.root)
    (read : ∀ cause, e.root ≠ .io cause)
    (merged : ∀ definition template cause, e.root ≠ .merge definition template cause) :
    e.root.subject? = some failing := by
  split at fails
  · rw [fails]
    rfl
  · cases inside : e.root with
    | io cause => exact absurd inside (read cause)
    | merge definition template cause => exact absurd inside (merged definition template cause)
    | encoding about defect => exact congrArg some (inside ▸ fails).1
    | duplicateLayout about => exact congrArg some (inside ▸ fails).1
    | parse about cause => exact congrArg some (inside ▸ fails).1
    | _ => exact (inside ▸ fails).elim

end Source

namespace Session

/-- A failure of what is asked for is a tower, if the source does not change meanwhile. -/
theorem resolve_tower {s : Session} {kind : OutputKind} {spelling : String} {e : ComposeError}
    (steady : s.Steady (s.resolve kind spelling).2)
    (failed : (s.resolve kind spelling).1 = .error e) :
    s.source.Tower [] (Name.normalize spelling) e := by
  obtain ⟨halt, stopped, told, after⟩ := exists_halt_of_resolve failed
  have ends := preprocess_tower kind s.room (Name.normalize spelling)
    { s with flight := .empty } (Name.normalize_normalize spelling)
  rw [after] at steady
  obtain ⟨cause, rfl, tower⟩ := ends.of_error stopped steady s.unseen_lt_room
  exact told ▸ tower

/-- While the source does not change, whatever is kept and whatever is given up meanwhile: the
parents of the wrappers, and behind them the template that fails, are a way from the template that
is asked for.  The chain of the failure is this way, with two exceptions.  If the template cannot be
read, the chain ends in front of it.  If a definition cannot be merged, the chain has the template
that lacks the definition in the place of the one that fails, which refers to it. -/
theorem resolve_route (s : Session) (kind : OutputKind) (spelling : String) (e : ComposeError)
    (steady : s.Steady (s.resolve kind spelling).2)
    (failed : (s.resolve kind spelling).1 = .error e) :
    ∃ failing,
      (if e.isRecursive then e.root = .recursive failing else s.source.Blames failing e.root) ∧
      s.source.Route (Name.normalize spelling) failing
        (e.wrappers.map (·.parent) ++ [failing]) ∧
      match e.root with
      | .io _ => e.chain = e.wrappers.map (·.parent)
      | .merge _ template _ =>
        e.chain = e.wrappers.map (·.parent) ++ [template] ∧
          s.source.Route (Name.normalize spelling) template
            (e.wrappers.map (·.parent) ++ [failing] ++ [template])
      | _ => e.chain = e.wrappers.map (·.parent) ++ [failing] := by
  obtain ⟨failing, leads, -, -, -, fails⟩ := (resolve_tower steady failed).points
  have route := leads.route
  refine ⟨failing, fails, route, ?_⟩
  rw [e.chain_eq]
  -- Only these two kinds of failures are about another template, or about none.
  have told := Source.subject?_eq fails
  cases inside : e.root with
  | io cause => simp [ComposeError.subject?]
  | merge definition template cause =>
    have blames : s.source.Blames failing (.merge definition template cause) := by
      simpa [ComposeError.isRecursive, inside] using fails
    exact ⟨rfl, route.concat blames.refers⟩
  | _ =>
    rw [inside] at told
    rw [told (by simp) (by simp)]
    rfl

/-- A page includes a part, which includes one that does not declare what is taken from it. -/
def undeclared : Session :=
  start (.store [("page", "\x7b\x7b template \"@part\" . \x7d\x7d".toUTF8),
    ("part", "\x7b\x7b template \"@icons\" . \x7d\x7d".toUTF8), ("icons", "none".toUTF8)])
    .empty .enabled []

theorem resolve_undeclared : ∃ e, (undeclared.resolve .text "page").1 = .error e ∧
    e.ioError? = none ∧ e.chain = ["page", "icons"] := by
  have fails : (match (undeclared.resolve .text "page").1 with
      | .error e => some (e.ioError?, e.chain)
      | .ok _ => none) = some (none, ["page", "icons"]) := by decide +kernel
  cases failed : (undeclared.resolve .text "page").1 with
  | ok node =>
    rw [failed] at fails
    cases fails
  | error e =>
    rw [failed] at fails
    simp only [Option.some.injEq, Prod.mk.injEq] at fails
    exact ⟨e, rfl, fails⟩

theorem steady_undeclared : undeclared.Steady (undeclared.resolve .text "page").2 := by
  intro d member
  cases member

theorem resolve_route_of_undeclared :
    undeclared.Steady (undeclared.resolve .text "page").2 ∧
    ∃ e, (undeclared.resolve .text "page").1 = .error e ∧ ∃ failing,
      (if e.isRecursive then e.root = .recursive failing
        else undeclared.source.Blames failing e.root) ∧
      undeclared.source.Route (Name.normalize "page") failing
        (e.wrappers.map (·.parent) ++ [failing]) ∧
      match e.root with
      | .io _ => e.chain = e.wrappers.map (·.parent)
      | .merge _ template _ =>
        e.chain = e.wrappers.map (·.parent) ++ [template] ∧
          undeclared.source.Route (Name.normalize "page") template
            (e.wrappers.map (·.parent) ++ [failing] ++ [template])
      | _ => e.chain = e.wrappers.map (·.parent) ++ [failing] := by
  obtain ⟨e, failed, -⟩ := resolve_undeclared
  exact ⟨steady_undeclared, e, failed,
    resolve_route undeclared .text "page" e steady_undeclared failed⟩

/-- The chain leads from the page to what its part includes, and leaves the part out: the page does
not refer to that. -/
theorem not_route_of_undeclared :
    ∃ e, (undeclared.resolve .text "page").1 = .error e ∧ e.ioError? = none ∧
      undeclared.Steady (undeclared.resolve .text "page").2 ∧
      ∀ last, ¬ undeclared.source.Route (Name.normalize "page") last e.chain := by
  obtain ⟨e, failed, read, chain⟩ := resolve_undeclared
  refine ⟨e, failed, read, steady_undeclared, fun last route => ?_⟩
  rw [chain] at route
  have refers : undeclared.source.Refers "page" "icons" := by
    cases route with
    | step refers onward =>
      have first := onward.head?
      cases first
      exact refers
  obtain ⟨text, known, sight, member, named⟩ := refers
  have page : undeclared.source.text? "page" =
      some "\x7b\x7b template \"@part\" . \x7d\x7d" := by decide +kernel
  obtain rfl := Option.some.inj (page.symm.trans known)
  have absent : "icons" ∉ (Directive.met "\x7b\x7b template \"@part\" . \x7d\x7d").map
      (·.directive.name) := by decide +kernel
  exact absent (named ▸ List.mem_map_of_mem member)

end Session

end Collage
