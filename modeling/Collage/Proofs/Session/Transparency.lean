import Collage.Proofs.Resolution.Twins
import Collage.Template.Engine

/-! # Keeping nodes changes nothing

A session that keeps its nodes and one that keeps nothing give the same answers, step by step.

Between two resolutions the source may change, as long as every name whose template changed is given
up before the next resolution (`Session.announced`).  Until then the nodes that are kept are
composed of the source but for those names (`Session.Aligned`).
-/

namespace Collage

/-! ## Changes that are announced -/

namespace Change

/-- Whether a change leaves the store in its place. -/
def keepsStore : Change → Bool
  | .become _ => false
  | .store .. | .erase _ | .evict .. | .invalidate .. | .clear _ => true

/-- The names whose templates may be others after a change. -/
def touched : Change → List String
  | .store name _ | .erase name => [Name.normalize name]
  | .become _ | .evict .. | .invalidate .. | .clear _ => []

/-- Whether a change gives up a name for an output kind. -/
def settles (c : Change) (kind : OutputKind) (name : String) : Bool :=
  match c with
  | .evict other spelling => other == kind && name == Name.normalize spelling
  | .invalidate other given => other == kind && name == given
  | .clear other => other == kind
  | .store .. | .erase _ | .become _ => false

/-- The names that still have to be given up for an output kind after a change. -/
def owe (c : Change) (owed : OutputKind → List String) (kind : OutputKind) : List String :=
  c.touched ++ (owed kind).filter fun name => !c.settles kind name

end Change

theorem map_mapError {α β ε δ : Type} (f : α → β) (g : ε → δ) (result : Except ε α) :
    (result.mapError g).map f = (result.map f).mapError g := by
  cases result <;> rfl

namespace Session

/-- Whether steps give up every name whose template has changed, for both output kinds, before the
next template is asked for. -/
def announced (owed : OutputKind → List String) : List Step → Bool
  | [] => true
  | .change c :: rest => c.keepsStore && announced (c.owe owed) rest
  | .render .. :: rest | .prepare .. :: rest =>
    (owed .text).isEmpty && (owed .html).isEmpty && announced owed rest

/-! ## Answers -/

/-- What a step tells: the node that the template was resolved to, and what was written of it. -/
structure Answer where
  resolved : Except ComposeError Node.View
  written : Option (String × Option ComposeError)

/-- The answer of a step that asks for a template. -/
def answer? (s : Session) : Step → Option Answer
  | .render kind name data =>
    some ⟨(s.resolve kind name).1.map Node.view, some (s.render kind name data).1⟩
  | .prepare kind name => some ⟨(s.resolve kind name).1.map Node.view, none⟩
  | .change _ => none

/-- The answers of steps, one after the other. -/
def answers (s : Session) : List Step → List (Option Answer)
  | [] => []
  | step :: rest => s.answer? step :: (s.perform step).answers rest

theorem execute_eq {n m : Node Artifact} (same : n.view = m.view) (data : Json) :
    execute n data = execute m data := by
  simp only [execute, Node.artifact_eq_of_view same, Node.name_eq_of_view same]

/-- What is written depends on what the template is resolved to. -/
theorem render_eq {s t : Session} {kind : OutputKind} {name : String}
    (same : (s.resolve kind name).1.map Node.view = (t.resolve kind name).1.map Node.view)
    (data : Json) : (s.render kind name data).1 = (t.render kind name data).1 := by
  unfold render
  revert same
  rcases s.resolve kind name with ⟨e | n, s'⟩
  all_goals rcases t.resolve kind name with ⟨e' | m, t'⟩
  · intro same
    cases same
    rfl
  · intro same
    cases same
  · intro same
    cases same
  · intro same
    exact execute_eq (Except.ok.inj same) data

/-! ## Twins -/

/-- Twins with nothing in flight resolve a template alike. -/
theorem resolve_eq_of_twins {source : Source} {tools : Tools} {kind : OutputKind} {s t : Session}
    (twins : Twins source tools kind [] { s with flight := .empty } { t with flight := .empty })
    (name : String) :
    (s.resolve kind name).1.map Node.view = (t.resolve kind name).1.map Node.view := by
  have bare : t.shelf kind = .discarding := by simpa using twins.bare.shelf
  have finished := resolve_has_room kind (Name.normalize name) t twins.bare.calm
  obtain ⟨node, kept, -⟩ | ⟨-, remade⟩ := t.resolve_cases kind name
  · rw [bare] at kept
    cases kept
  · rw [remade]
    obtain ⟨node, kept, eq⟩ | ⟨missing, eq⟩ := s.resolve_cases kind name
    · -- The first session has the node, the second one puts it together again.
      rw [eq]
      obtain ⟨member, named⟩ := Cache.mem_of_get? kept
      have again := replay t.room node { t with flight := .empty } twins.bare
        (twins.truthful.kept node (by simpa using member)) (by simp)
      rw [named] at again
      cases outcome : (preprocess kind t.room (Name.normalize name) { t with flight := .empty }).1 with
      | ok other =>
        have view := again.of_ok outcome
        simp [Except.map, Except.mapError, view]
      | error halt => exact absurd (again.of_error outcome) (finished.of_error outcome)
    · -- Neither has it, and both put it together with the same room, which suffices.
      rw [eq]
      have room : s.room = t.room := by
        have calm : s.disturbances = [] := twins.truthful.calm
        have calm' : t.disturbances = [] := twins.bare.calm
        have same : s.source = t.source :=
          twins.truthful.source_eq.trans twins.bare.source_eq.symm
        simp [Session.room, same, calm, calm']
      have tally := preprocess_tally s.room (Name.normalize name) { s with flight := .empty }
        { t with flight := .empty } (Name.normalize_normalize name) twins (.inr (by simpa using missing))
      rw [← room] at finished ⊢
      cases tally with
      | inl out => exact absurd rfl (finished.of_error out)
      | inr same => rw [map_mapError, map_mapError, same]

end Session

/-! ## Texts that a change leaves alone -/

namespace Session

variable {s t : Session} {kind : OutputKind} {name : String} {c : Change}
  {owed : OutputKind → List String}

theorem body_apply {templates : List (String × ByteArray)} (store : s.source = .store templates)
    (keeps : c.keepsStore = true) (normal : Name.normalize name = name)
    (untouched : name ∉ c.touched) : (s.apply c).source.body name = s.source.body name := by
  have read : (s.apply c).source.read name = s.source.read name := by
    cases c with
    | become source => cases keeps
    | evict other spelling => simp [apply, evict_snd, invalidate]
    | invalidate other given => simp [apply, invalidate]
    | clear other => simp [apply, clear]
    | store other bytes =>
      have ne : name ≠ Name.normalize other := by simpa [Change.touched] using untouched
      simp [apply, store, Source.insert, Source.read, normal, ne]
    | erase other =>
      have ne : name ≠ Name.normalize other := by simpa [Change.touched] using untouched
      simp only [apply, store, Source.erase, Source.read, normal, Sorted.lookup_filter, if_neg ne]
  rw [Source.body, Source.body, read]

theorem store_apply (keeps : c.keepsStore = true)
    (store : ∃ templates, s.source = .store templates) :
    ∃ templates, (s.apply c).source = .store templates := by
  obtain ⟨templates, store⟩ := store
  cases c with
  | become source => cases keeps
  | evict other spelling => exact ⟨templates, by simpa [apply, evict_snd, invalidate] using store⟩
  | invalidate other given => exact ⟨templates, by simpa [apply, invalidate] using store⟩
  | clear other => exact ⟨templates, by simpa [apply, clear] using store⟩
  | store other bytes => exact ⟨_, by rw [apply, store, Source.insert]⟩
  | erase other => exact ⟨_, by rw [apply, store, Source.erase]⟩

/-- A change under which a node is kept does not give up a name that is given up with the node by
each invalidation. -/
theorem not_settles_of_kept {n : Node Artifact} (kept : n ∈ ((s.apply c).shelf kind).cache.nodes)
    (invalidated : ∀ given, n ∈ ((s.shelf kind).invalidate given).2.cache.nodes → name ≠ given) :
    c.settles kind name = false := by
  have shelved : ∀ given, n ∈ ((s.invalidate kind given).2.shelf kind).cache.nodes →
      name ≠ given := by
    intro given kept
    rw [invalidate, shelf_withShelf, if_pos rfl] at kept
    exact invalidated given kept
  cases c with
  | store other bytes => rfl
  | erase other => rfl
  | become source => rfl
  | evict other spelling =>
    by_cases same : other = kind
    · subst same
      simpa [Change.settles] using shelved _ kept
    · simp [Change.settles, same]
  | invalidate other given =>
    by_cases same : other = kind
    · subst same
      simpa [Change.settles] using shelved _ kept
    · simp [Change.settles, same]
  | clear other =>
    by_cases same : other = kind
    · subst same
      simp [apply, clear, Cache.empty] at kept
    · simp [Change.settles, same]

/-- What is kept embeds nothing that a change has given up. -/
theorem not_settles_of_apply (fresh : (s.shelf kind).cache.Fresh []) {n m : Node Artifact}
    (kept : n ∈ ((s.apply c).shelf kind).cache.nodes) (embeds : n.Embeds m) :
    c.settles kind m.name = false :=
  not_settles_of_kept kept fun _ kept => Shelf.name_ne_of_embedded fresh kept embeds

/-! ## Sessions that are aligned -/

/-- The second session keeps nothing and has the same source and tools as the first.  What the
first one keeps is composed of the source, but for the names that are owed. -/
structure Aligned (owed : OutputKind → List String) (s t : Session) : Prop where
  store : ∃ templates, s.source = .store templates
  source : t.source = s.source
  tools : t.tools = s.tools
  calm : s.disturbances = []
  calm' : t.disturbances = []
  bare : ∀ kind, t.shelf kind = .discarding
  accounted : Accounted s
  kept : ∀ kind, ∀ n ∈ (s.shelf kind).cache.nodes, ∀ m, n.Embeds m →
    Name.normalize m.name = m.name ∧
      (m.name ∈ owed kind ∨ m.IsComposition s.source s.tools kind)

theorem aligned_start (templates : List (String × ByteArray)) (tools : Tools) :
    Aligned (fun _ => []) (start (.store templates) tools .enabled [])
      (start (.store templates) tools .disabled []) where
  store := ⟨templates, rfl⟩
  source := rfl
  tools := rfl
  calm := rfl
  calm' := rfl
  bare := by
    intro kind
    cases kind <;> rfl
  accounted := accounted_start _ _ _ _
  kept := by
    intro kind n member
    cases kind <;> simp [start, shelf, Shelf.ofMode, Shelf.cache, Cache.empty] at member

theorem Aligned.apply (aligned : Aligned owed s t) (keeps : c.keepsStore = true) :
    Aligned (c.owe owed) (s.apply c) (t.apply c) where
  store := store_apply keeps aligned.store
  source := source_apply_congr aligned.source c
  tools := by rw [(t.beside_apply c).tools, (s.beside_apply c).tools, aligned.tools]
  calm := by rw [disturbances_apply, aligned.calm]
  calm' := by rw [disturbances_apply, aligned.calm']
  bare := fun kind => t.shelf_apply_discarding c (aligned.bare kind)
  accounted := by
    obtain ⟨nodes, ledger⟩ := aligned.accounted
    exact ⟨nodes, ledger.apply c⟩
  kept := by
    intro kind n member m embeds
    obtain ⟨templates, store⟩ := aligned.store
    obtain ⟨normal, known⟩ := aligned.kept kind n (mem_of_mem_apply member) m embeds
    -- What is still kept embeds no name that was given up, so what was owed is owed still.
    have held := not_settles_of_apply (aligned.accounted.fresh kind) member embeds
    refine ⟨normal, ?_⟩
    rw [Change.owe, List.mem_append, List.mem_filter]
    -- A name that is touched is owed; any other has the text that it had.
    by_cases touched : m.name ∈ c.touched
    · exact .inl (.inl touched)
    · cases known with
      | inl owing => exact .inl (.inr ⟨owing, by simp [held]⟩)
      | inr composition =>
        refine .inr ⟨normal, ?_⟩
        rw [body_apply store keeps normal touched, (s.beside_apply c).tools]
        exact composition.derived

section

variable (aligned : Aligned owed s t) (settled : ∀ kind, owed kind = [])

include aligned settled

theorem Aligned.truthful (kind : OutputKind) : Truthful s.source s.tools kind s where
  source_eq := rfl
  tools_eq := rfl
  calm := aligned.calm
  kept := by
    intro n member m embeds
    exact (aligned.kept kind n member m embeds).2.resolve_left (by simp [settled kind])

theorem Aligned.twins (kind : OutputKind) :
    Twins s.source s.tools kind [] { s with flight := .empty } { t with flight := .empty } where
  truthful := (aligned.truthful settled kind).with_flight .empty
  orderly := ((accounted_iff kind).1 aligned.accounted).with_flight .empty
  flight := rfl
  bare := ⟨by rw [shelf_with_flight, aligned.bare], aligned.source, aligned.tools, aligned.calm',
    rfl⟩

/-- Aligned sessions resolve a template alike, when nothing is owed. -/
theorem Aligned.resolve_eq (kind : OutputKind) (name : String) :
    (s.resolve kind name).1.map Node.view = (t.resolve kind name).1.map Node.view :=
  resolve_eq_of_twins (aligned.twins settled kind) name

theorem Aligned.resolve (kind : OutputKind) (name : String) :
    Aligned owed (s.resolve kind name).2 (t.resolve kind name).2 := by
  have still := still_resolve kind name aligned.calm
  have still' := still_resolve kind name aligned.calm'
  refine ⟨?_, ?_, ?_, still.calm, still'.calm, ?_, ?_, ?_⟩
  · obtain ⟨templates, store⟩ := aligned.store
    exact ⟨templates, still.source.trans store⟩
  · rw [still'.source, still.source, aligned.source]
  · rw [still'.tools, still.tools, aligned.tools]
  · intro other
    by_cases same : other = kind
    · subst same
      exact still'.bare (aligned.bare other)
    · rw [still'.others other same, aligned.bare]
  · exact (accounted_iff kind).2 (resolve_orderly ((accounted_iff kind).1 aligned.accounted) name)
  · intro other n member m embeds
    have composition := (Truthful.resolve (aligned.truthful settled) kind name other).kept n member
      m embeds
    refine ⟨composition.normal, .inr ?_⟩
    rwa [still.source, still.tools]

end

theorem owed_eq_nil (settled : ((owed .text).isEmpty && (owed .html).isEmpty) = true)
    (kind : OutputKind) : owed kind = [] := by
  rw [Bool.and_eq_true, List.isEmpty_iff, List.isEmpty_iff] at settled
  cases kind with
  | text => exact settled.1
  | html => exact settled.2

theorem Aligned.answers_eq (aligned : Aligned owed s t) {steps : List Step}
    (settled : announced owed steps = true) : s.answers steps = t.answers steps := by
  -- A step that asks for a template answers alike, and every step keeps the sessions aligned.
  induction steps generalizing owed s t with
  | nil => rfl
  | cons step rest ih =>
    rw [answers, answers]
    cases step with
    | render kind name data =>
      rw [announced, Bool.and_eq_true] at settled
      have same := aligned.resolve_eq (owed_eq_nil settled.1) kind name
      have next := aligned.resolve (owed_eq_nil settled.1) kind name
      rw [answer?, answer?, same, render_eq same data, perform, perform, snd_render, snd_render,
        ih next settled.2]
    | prepare kind name =>
      rw [announced, Bool.and_eq_true] at settled
      have same := aligned.resolve_eq (owed_eq_nil settled.1) kind name
      have next := aligned.resolve (owed_eq_nil settled.1) kind name
      rw [answer?, answer?, same, perform, perform, snd_prepare, snd_prepare, ih next settled.2]
    | change c =>
      rw [announced, Bool.and_eq_true] at settled
      rw [answer?, answer?, perform, perform, ih (aligned.apply settled.1) settled.2]

/-- Whether a session keeps its nodes or not makes no difference to its answers, as long as every
change of a template is announced. -/
theorem answers_enabled_eq_disabled (templates : List (String × ByteArray)) (tools : Tools)
    (steps : List Step) (settled : announced (fun _ => []) steps = true) :
    (start (.store templates) tools .enabled []).answers steps =
      (start (.store templates) tools .disabled []).answers steps :=
  (aligned_start templates tools).answers_eq settled

/-- A page is changed and given up for both output kinds between two readings of it. -/
theorem answers_of_edited_page :
    let templates := [("nav", "\x7b\x7b define \"@nav\" \x7d\x7dN\x7b\x7b end \x7d\x7d".toUTF8),
      ("page", "\x7b\x7b template \"@nav\" . \x7d\x7d".toUTF8)]
    let steps := [.prepare .html "page", .change (.store "./page" "alone".toUTF8),
      .change (.evict .text "page"), .change (.evict .html "page"), .render .html "page" .null]
    announced (fun _ => []) steps = true ∧
      (start (.store templates) .empty .enabled []).answers steps =
        (start (.store templates) .empty .disabled []).answers steps := by
  intro templates steps
  have settled : announced (fun _ => []) steps = true := by decide
  exact ⟨settled, answers_enabled_eq_disabled templates .empty steps settled⟩

end Session

end Collage
