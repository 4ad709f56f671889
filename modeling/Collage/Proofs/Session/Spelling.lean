import Collage.Proofs.Resolution.Freshness
import Collage.Proofs.Session.Dating

/-! # One template, one slot

A template may be asked for under any spelling of its name.  Every way in leads through the normal
form: the names that are asked for are made normal at once, and so are those that directives refer
to.  So every name that a session holds is normal (`Session.Tidy`), and every name that it tells,
and which spelling a step uses makes no difference (`Session.run_spelling`).
-/

namespace Collage

/-! ## Names that are told -/

/-- The template that a failure of an artifact names. -/
def ArtifactError.template? : ArtifactError → Option String
  | missingDefinition _ template | incomplete template => some template
  | parse _ | render _ | invalidData _ => none

/-- The templates that a failure names: the parents of the directives around it, the one that it is
about, and the one that the failure of an artifact inside names. -/
def ComposeError.templates : ComposeError → List String
  | directive _ _ parent cause => parent :: cause.templates
  | merge _ template cause => template :: cause.template?.toList
  | parse name cause | execute name cause => name :: cause.template?.toList
  | recursive name | duplicateLayout name | encoding name _ => [name]
  | io _ | data _ => []

namespace Session

/-- All that a step tells whoever asked for it. -/
inductive Result where
  | rendered (text : String) (stopped : Option ComposeError)
  | prepared (outcome : Except ComposeError (List String))
  | evicted (something : Bool)
  | changed

/-- The templates that a result names. -/
def Result.templates : Result → List String
  | rendered _ stopped => stopped.toList.flatMap (·.templates)
  | prepared (.ok dependencies) => dependencies
  | prepared (.error e) => e.templates
  | evicted _ | changed => []

def result (s : Session) : Step → Result
  | .render kind name data => .rendered (s.render kind name data).1.1 (s.render kind name data).1.2
  | .prepare kind name => .prepared (s.prepare kind name).1
  | .change (.evict kind name) => .evicted (s.evict kind name).1
  | .change _ => .changed

/-- The results of steps, one after the other. -/
def results (s : Session) : List Step → List Result
  | [] => []
  | step :: rest => s.result step :: (s.perform step).results rest

/-- Steps that differ at most in how they spell the name of a template. -/
inductive Step.Respells : Step → Step → Prop where
  | same (step : Step) : Respells step step
  | render {kind : OutputKind} {x y : String} (data : Json) : Name.normalize x = Name.normalize y →
      Respells (.render kind x data) (.render kind y data)
  | prepare {kind : OutputKind} {x y : String} : Name.normalize x = Name.normalize y →
      Respells (.prepare kind x) (.prepare kind y)
  | evict {kind : OutputKind} {x y : String} : Name.normalize x = Name.normalize y →
      Respells (.change (.evict kind x)) (.change (.evict kind y))

end Session

/-! ## Normal names -/

/-- In a node and in all that went into it, the names of the nodes and of their artifacts are
normal. -/
def Node.Tidy (n : Node Artifact) : Prop :=
  ∀ m, n.Embeds m →
    Name.normalize m.name = m.name ∧ Name.normalize m.artifact.name = m.artifact.name

theorem Node.tidy_iff {n : Node Artifact} :
    n.Tidy ↔ (Name.normalize n.name = n.name ∧ Name.normalize n.artifact.name = n.artifact.name) ∧
      ∀ d ∈ n.dependencies, d.Tidy := by
  constructor
  · intro tidy
    exact ⟨tidy n (.refl n), fun d member m embeds => tidy m (.step member embeds)⟩
  · rintro ⟨normal, below⟩ m embeds
    rcases embeds.cases_head with rfl | ⟨d, member, embeds⟩
    · exact normal
    · exact below d member m embeds

/-- A failure names templates by their normal names. -/
def ComposeError.Tidy (e : ComposeError) : Prop :=
  ∀ name ∈ e.templates, Name.normalize name = name

def Halt.Tidy : Halt → Prop
  | .failed e => e.Tidy
  | .outOfRoom => True

theorem Halt.Tidy.within {halt : Halt} (tidy : halt.Tidy) {parent : String}
    (normal : Name.normalize parent = parent) (sight : Directive.Sighting) :
    (halt.within parent sight).Tidy := by
  cases halt with
  | failed cause => exact List.forall_mem_cons.2 ⟨normal, tidy⟩
  | outOfRoom => exact trivial

theorem Source.tidy_of_body {source : Source} {name : String} {e : ComposeError}
    (normal : Name.normalize name = name) (unfit : source.body name = .error e) : e.Tidy := by
  rcases error_of_body unfit with ⟨cause, -, rfl⟩ | ⟨bytes, defect, -, -, rfl⟩ | ⟨-, rfl⟩
  · simp [ComposeError.Tidy, ComposeError.templates]
  · simpa [ComposeError.Tidy, ComposeError.templates] using normal
  · simpa [ComposeError.Tidy, ComposeError.templates] using normal

section

variable {d : Draft} {sights : List Directive.Sighting} {kind : OutputKind} {tools : Tools}
  {name text : String}

theorem Draft.tidy_of_assemble (normal : Name.normalize name = name) (reflects : d.Reflects sights)
    (tidy : ∀ n ∈ d.dependencies, n.Tidy) {e : ComposeError}
    (failed : d.assemble kind tools name text = .error e) : e.Tidy := by
  obtain ⟨i, member, rfl⟩ | ⟨message, rfl⟩ := Draft.error_of_assemble failed
  · have included := (Node.tidy_iff.1 (tidy i.2 (reflects.included i member).1)).1
    simpa [ComposeError.Tidy, ComposeError.templates, ArtifactError.template?] using included
  · simpa [ComposeError.Tidy, ComposeError.templates, ArtifactError.template?] using normal

/-- An artifact is named after its template or takes over the name of the layout's. -/
theorem Draft.normal_of_assemble (normal : Name.normalize name = name)
    (reflects : d.Reflects sights) (tidy : ∀ n ∈ d.dependencies, n.Tidy) {artifact : Artifact}
    (assembled : d.assemble kind tools name text = .ok artifact) :
    Name.normalize artifact.name = artifact.name := by
  have distinct : (d.inclusions.map (·.1)).Nodup := by
    rw [reflects.inclusions]
    exact nodup_eraseDups _
  rw [(Draft.definition?_assemble distinct assembled).1, Recipe.root, Draft.recipe]
  cases based : d.layout with
  | none => exact normal
  | some node => exact (Node.tidy_iff.1 (tidy node (reflects.based node based))).1.2

end

namespace Session

variable {s t : Session} {kind : OutputKind} {name : String}

/-- All names that a session holds are normal: those in flight, those that were read and those that
are kept. -/
structure Tidy (s : Session) : Prop where
  flight : ∀ name ∈ s.flight.path, Name.normalize name = name
  readings : ∀ r ∈ s.readings, Name.normalize r.name = r.name ∧
    ∀ name ∈ r.within, Name.normalize name = name
  kept : ∀ kind, ∀ n ∈ (s.shelf kind).cache.nodes, n.Tidy

theorem tidy_start (source : Source) (tools : Tools) (mode : CacheMode)
    (disturbances : List Disturbance) : (start source tools mode disturbances).Tidy where
  flight := by simp [start, Flight.empty]
  readings := by simp [start]
  kept := by
    intro kind
    cases kind <;> cases mode <;> simp [start, shelf, Shelf.ofMode, Shelf.cache, Cache.empty]

theorem Tidy.with_flight (tidy : s.Tidy) {flight : Flight}
    (normal : ∀ name ∈ flight.path, Name.normalize name = name) :
    ({ s with flight } : Session).Tidy :=
  ⟨normal, tidy.readings, by simpa using tidy.kept⟩

theorem Tidy.apply (tidy : s.Tidy) (c : Change) : (s.apply c).Tidy where
  flight := (s.beside_apply c).flight ▸ tidy.flight
  readings := (s.beside_apply c).readings ▸ tidy.readings
  kept := fun kind n member => tidy.kept kind n (mem_of_mem_apply member)

theorem Tidy.read (tidy : s.Tidy) (normal : Name.normalize name = name) :
    (s.read name).2.Tidy := by
  refine s.read_rule name ⟨tidy.flight, ?_, by simpa using tidy.kept⟩ ?_ ?_
  · exact List.forall_mem_cons.2 ⟨⟨normal, tidy.flight⟩, tidy.readings⟩
  · exact fun t later _ tidy => ⟨tidy.flight, tidy.readings, by simpa using tidy.kept⟩
  · exact fun t c _ tidy => tidy.apply c

theorem Tidy.commit (tidy : s.Tidy) {artifact : Artifact} {dependencies : List (Node Artifact)}
    (node : (⟨s.made, name, artifact, dependencies⟩ : Node Artifact).Tidy) :
    (s.commit kind name artifact dependencies).2.Tidy where
  flight := by simpa using tidy.flight
  readings := by simpa using tidy.readings
  kept := by
    intro other n member
    rw [shelf_commit] at member
    split at member
    · rcases Shelf.of_mem_put member with rfl | member
      · exact node
      · exact tidy.kept kind n member
    · exact tidy.kept other n member

/-! ## Resolutions -/

/-- What it takes for a resolution to keep all names normal. -/
def KeepsTidy (visit : Visit) : Prop :=
  ∀ (name : String) (s : Session), Name.normalize name = name → s.Tidy →
    Ends (fun n t => n.Tidy ∧ t.Tidy) (fun halt t => halt.Tidy ∧ t.Tidy) (visit name s)

theorem tidy_loop (kind : OutputKind) {visit : Visit} (inside : KeepsTidy visit) {parent : String}
    (normal : Name.normalize parent = parent) :
    Loop kind visit parent (fun _ d t => (∀ n ∈ d.dependencies, n.Tidy) ∧ t.Tidy)
      (fun halt t => halt.Tidy ∧ t.Tidy) where
  second := by
    intro sight rest d t holds _ _
    exact ⟨by simpa [Halt.Tidy, ComposeError.Tidy, ComposeError.templates] using normal, holds.2⟩
  repeated := fun holds _ _ => holds
  again := by
    intro sight rest d t holds _ node found
    have known := holds.1 node (Draft.mem_of_resolved? found).1
    exact ⟨Draft.forall_take holds.1 known sight, holds.2⟩
  kept := by
    intro sight rest d t holds _ _ _ node found
    have known := holds.2.kept kind node (Cache.mem_of_get? found).1
    exact ⟨Draft.forall_take holds.1 known sight, holds.2⟩
  visited := by
    intro sight rest d t holds _ _ _
    refine (inside sight.directive.name t sight.directive.normalize_name holds.2).imp ?_ ?_
    · rintro node u ⟨node, tidy⟩
      exact ⟨Draft.forall_take holds.1 node sight, tidy⟩
    · rintro halt u ⟨halted, tidy⟩
      exact ⟨halted.within normal sight, tidy⟩

theorem preprocess_tidy (kind : OutputKind) (room : Nat) : KeepsTidy (preprocess kind room) := by
  induction room with
  | zero => exact fun _ _ _ tidy => ⟨trivial, tidy⟩
  | succ room ih =>
    intro name s normal tidy
    refine preprocess_rule ?_ fun _ => ?_
    · intro _
      exact ⟨by simpa [Halt.Tidy, ComposeError.Tidy, ComposeError.templates] using normal, tidy⟩
    · have entered : (s.entering name).Tidy := tidy.with_flight (by simpa [or_imp, forall_and] using
        ⟨tidy.flight, normal⟩)
      have read := entered.read normal
      refine build_rule ?_ fun text _ => ?_
      · exact fun e unfit => ⟨Source.tidy_of_body normal unfit, read.with_flight tidy.flight⟩
      · have ends := follow_rule (tidy_loop kind ih normal) (Directive.met text)
          (d := .empty) ⟨by simp [Draft.empty], read⟩
        refine (ends.and (ends_gathers ..)).imp ?_ ?_
        · rintro draft t ⟨⟨tidies, later⟩, gathers⟩
          have reflects := gathers.reflects Draft.reflects_empty
          split
          · next e failed =>
            exact ⟨Draft.tidy_of_assemble normal reflects tidies failed,
              later.with_flight tidy.flight⟩
          · next artifact assembled =>
            have named := Draft.normal_of_assemble normal reflects tidies assembled
            have node : (⟨t.made, name, artifact, draft.dependencies⟩ : Node Artifact).Tidy :=
              Node.tidy_iff.2 ⟨⟨normal, named⟩, tidies⟩
            exact ⟨node, (later.commit node).with_flight tidy.flight⟩
        · rintro halt t ⟨⟨halted, later⟩, -⟩
          exact ⟨halted, later.with_flight tidy.flight⟩

/-- Whatever is asked for, all names stay normal, and so are those that are told. -/
theorem Tidy.resolve (tidy : s.Tidy) (kind : OutputKind) (spelling : String) :
    (s.resolve kind spelling).2.Tidy ∧
      (∀ n, (s.resolve kind spelling).1 = .ok n → n.Tidy) ∧
      ∀ e, (s.resolve kind spelling).1 = .error e → e.Tidy := by
  have normal := Name.normalize_normalize spelling
  obtain ⟨node, kept, eq⟩ | ⟨-, eq⟩ := s.resolve_cases kind spelling
  · rw [eq]
    refine ⟨tidy, ?_, ?_⟩
    · intro n same
      cases same
      exact tidy.kept kind node (Cache.mem_of_get? kept).1
    · intro e failed
      cases failed
  · have ends := preprocess_tidy kind s.room (Name.normalize spelling) { s with flight := .empty }
      normal (tidy.with_flight (by simp [Flight.empty]))
    rw [eq]
    revert ends
    rcases preprocess kind s.room (Name.normalize spelling) { s with flight := .empty } with
      ⟨(e | _) | node, t⟩
    · rintro ⟨halted, later⟩
      refine ⟨later, fun n same => (by cases same), fun e' failed => ?_⟩
      cases failed
      exact halted
    · rintro ⟨-, later⟩
      refine ⟨later, fun n same => (by cases same), fun e' failed => ?_⟩
      cases failed
      exact List.forall_mem_singleton.2 normal
    · rintro ⟨node, later⟩
      refine ⟨later, fun n same => ?_, fun e failed => (by cases failed)⟩
      cases same
      exact node

theorem tidy_execute {n : Node Artifact} (tidy : n.Tidy) {data : Json} {e : ComposeError}
    (stopped : (execute n data).2 = some e) : e.Tidy := by
  obtain ⟨⟨name, root⟩, -⟩ := Node.tidy_iff.1 tidy
  simp only [execute] at stopped
  split at stopped
  · cases stopped
    simpa [ComposeError.Tidy, ComposeError.templates, ArtifactError.template?] using name
  · -- What stops the execution names the artifact, if it names anything.
    obtain ⟨cause, why, rfl⟩ := Option.map_eq_some_iff.1 stopped
    refine List.forall_mem_cons.2 ⟨name, ?_⟩
    simp only [Artifact.execute] at why
    split at why
    · cases why
      simpa [ArtifactError.template?] using root
    · split at why
      · next found invalid =>
        cases why
        unfold Artifact.fieldsOf at invalid
        split at invalid <;> cases invalid
        simp [ArtifactError.template?]
      · obtain ⟨fault, -, rfl⟩ := Option.map_eq_some_iff.1 why
        simp [ArtifactError.template?]

theorem Tidy.result (tidy : s.Tidy) (step : Step) :
    ∀ name ∈ (s.result step).templates, Name.normalize name = name := by
  cases step with
  | render kind spelling data =>
    obtain ⟨-, node, failure⟩ := tidy.resolve kind spelling
    intro name member
    obtain ⟨e, stopped, told⟩ := List.mem_flatMap.1 member
    rw [Option.mem_toList] at stopped
    unfold Session.render at stopped
    split at stopped
    · next n _ found => exact tidy_execute (node n (by rw [found])) stopped name told
    · next e' _ found =>
      cases stopped
      exact failure e (by rw [found]) name told
  | prepare kind spelling =>
    obtain ⟨-, node, failure⟩ := tidy.resolve kind spelling
    intro name member
    have told : name ∈ (Result.prepared (s.prepare kind spelling).1).templates := member
    unfold Session.prepare at told
    split at told
    · next n _ found =>
      obtain ⟨d, built, rfl⟩ := List.mem_map.1 told
      exact (node n (by rw [found]) d (.of_mem built)).1
    · next e _ found => exact failure e (by rw [found]) name told
  | change c => cases c <;> simp [Session.result, Result.templates]

theorem Tidy.perform (tidy : s.Tidy) (step : Step) : (s.perform step).Tidy := by
  cases step with
  | render kind spelling data =>
    rw [Session.perform, snd_render]
    exact (tidy.resolve kind spelling).1
  | prepare kind spelling =>
    rw [Session.perform, snd_prepare]
    exact (tidy.resolve kind spelling).1
  | change c => exact tidy.apply c

theorem Tidy.run (tidy : s.Tidy) (steps : List Step) :
    (s.run steps).Tidy ∧
      ∀ result ∈ s.results steps, ∀ name ∈ result.templates, Name.normalize name = name := by
  induction steps generalizing s with
  | nil => exact ⟨tidy, by simp [results]⟩
  | cons step rest ih =>
    obtain ⟨later, told⟩ := ih (tidy.perform step)
    exact ⟨later, List.forall_mem_cons.2 ⟨tidy.result step, told⟩⟩

/-! ## Other spellings -/

theorem resolve_congr {x y : String} (same : Name.normalize x = Name.normalize y) (s : Session)
    (kind : OutputKind) : s.resolve kind x = s.resolve kind y := by
  rw [resolve, resolve, same]

theorem evict_congr {x y : String} (same : Name.normalize x = Name.normalize y) (s : Session)
    (kind : OutputKind) : s.evict kind x = s.evict kind y := by
  rw [evict, evict, same]

theorem Step.Respells.perform_eq {step other : Step} (respells : step.Respells other)
    (s : Session) : s.perform other = s.perform step ∧ s.result other = s.result step := by
  cases respells with
  | same => exact ⟨rfl, rfl⟩
  | render data same =>
    simp only [Session.perform, Session.result, Session.render, resolve_congr same, and_self]
  | prepare same =>
    simp only [Session.perform, Session.result, Session.prepare, resolve_congr same, and_self]
  | evict same =>
    simp only [Session.perform, Session.result, Session.apply, evict_congr same, and_self]

theorem run_respelled {steps others : List Step}
    (respelled : List.Forall₂ Step.Respells steps others) (s : Session) :
    s.run others = s.run steps ∧ s.results others = s.results steps := by
  induction respelled generalizing s with
  | nil => exact ⟨rfl, rfl⟩
  | cons first _ ih =>
    obtain ⟨performed, told⟩ := first.perform_eq s
    obtain ⟨run, results⟩ := ih (s.perform _)
    simp only [Session.run, List.foldl_cons, Session.results, performed, told] at run ⊢
    exact ⟨run, by rw [results]⟩

/-- In every run, under whatever spellings templates are asked for and given up, and whatever is
disturbed meanwhile: all names are normal that are read, that are kept and that are told, and steps
that spell names in another way lead to the same session and tell the same. -/
theorem run_spelling (source : Source) (tools : Tools) (mode : CacheMode)
    (disturbances : List Disturbance) (steps : List Step) :
    let first := start source tools mode disturbances
    let s := first.run steps
    (∀ r ∈ s.readings, Name.normalize r.name = r.name) ∧
      (∀ kind, ∀ n ∈ (s.shelf kind).cache.nodes, ∀ m, n.Embeds m →
        Name.normalize m.name = m.name) ∧
      (∀ kind, ∀ e ∈ (s.shelf kind).cache.edges,
        Name.normalize e.parent = e.parent ∧ Name.normalize e.child = e.child) ∧
      (∀ result ∈ first.results steps, ∀ name ∈ result.templates, Name.normalize name = name) ∧
      ∀ others, List.Forall₂ Step.Respells steps others →
        first.run others = s ∧ first.results others = first.results steps := by
  intro first s
  obtain ⟨tidy, told⟩ := (tidy_start source tools mode disturbances).run steps
  have accounted : Accounted s := (accounted_start source tools mode disturbances).run steps
  refine ⟨fun r member => (tidy.readings r member).1, ?_, ?_, told, ?_⟩
  · intro kind n member m embeds
    exact (tidy.kept kind n member m embeds).1
  · -- An edge leads from a node that is kept to one that this was built from.
    rintro kind ⟨parent, child⟩ edge
    obtain ⟨-, n, member, rfl, tells⟩ := ((accounted.fresh kind).edge_iff parent child).1 edge
    obtain ⟨d, built, rfl⟩ := List.mem_map.1 tells
    have kept := tidy.kept kind n member
    exact ⟨(kept n (.refl n)).1, (kept d (.of_mem built)).1⟩
  · exact fun others respelled => run_respelled respelled first

end Session

end Collage
