import Collage.Proofs.Resolution.Composition

/-! # Walking through a template

While nothing disturbs a session, the loop through the directives of a template knows a lot about
those it passed: they were not in flight, and all that they refer to is in the source, as far as it
is not kept (`Source.Settled`).  `Session.walk_rule` is the induction step for what is said about
such resolutions; the property that is carried along may rely on what was passed.
-/

namespace Collage

/-- All that the template of a name refers to, directly or through others, is in the source, down
to names that are kept. -/
inductive Source.Settled (source : Source) (kept : String → Prop) : String → Prop where
  | kept {name : String} : kept name → Settled source kept name
  | known {name text : String} : source.text? name = some text →
      (∀ sight ∈ Directive.met text, Settled source kept sight.directive.name) →
      Settled source kept name

theorem Source.Settled.mono {source : Source} {kept more : String → Prop} {name : String}
    (settled : source.Settled kept name) (grown : ∀ name, kept name → more name) :
    source.Settled more name := by
  induction settled with
  | kept known => exact .kept (grown _ known)
  | known given _ ih => exact .known given ih

/-- A failure of a template itself: it is behind no directive, and not about a circle. -/
def ComposeError.IsOwn : ComposeError → Prop
  | .recursive _ | .directive .. => False
  | _ => True

theorem ComposeError.IsOwn.root_ne {e : ComposeError} (own : e.IsOwn) (c : String) :
    e.root ≠ .recursive c := by
  cases e <;> first | exact own.elim | simp [root]

theorem Source.isOwn_of_body {source : Source} {name : String} {e : ComposeError}
    (unfit : source.body name = .error e) : e.IsOwn := by
  rcases Source.error_of_body unfit with ⟨_, -, rfl⟩ | ⟨_, _, -, -, rfl⟩ | ⟨-, rfl⟩
  · exact trivial
  · exact trivial
  · exact trivial

namespace Artifact

/-- A merge fails only for want of the definition that is asked for. -/
theorem error_of_merge {a other : Artifact} {definition : String} {cause : ArtifactError}
    (failed : a.merge other definition = .error cause) :
    cause = .missingDefinition definition other.name := by
  rw [merge] at failed
  split at failed
  · cases failed
    rfl
  · cases failed

theorem error_of_parse {a : Artifact} {escaping : Escaping} {text : String}
    {cause : ArtifactError} (failed : a.parse escaping text = .error cause) :
    ∃ message, cause = .parse message := by
  simp only [parse] at failed
  split at failed
  · cases failed
    exact ⟨_, rfl⟩
  · cases failed

end Artifact

namespace Draft

theorem error_of_mergeAll {a : Artifact} {entries : List (String × Node Artifact)}
    {e : ComposeError} (failed : mergeAll a entries = .error e) :
    ∃ i ∈ entries, e = .merge i.1 i.2.name (.missingDefinition i.1 i.2.artifact.name) := by
  induction entries generalizing a with
  | nil => cases failed
  | cons entry rest ih =>
    obtain ⟨reference, node⟩ := entry
    rw [mergeAll] at failed
    cases merged : a.merge node.artifact reference with
    | ok a' =>
      rw [merged] at failed
      obtain ⟨i, member, rfl⟩ := ih failed
      exact ⟨i, List.mem_cons_of_mem _ member, rfl⟩
    | error cause =>
      rw [merged] at failed
      cases failed
      obtain rfl := Artifact.error_of_merge merged
      exact ⟨(reference, node), List.mem_cons_self, rfl⟩

/-- An artifact cannot be put together because what is included does not declare the definition taken
from it, or because the text does not compile. -/
theorem error_of_assemble {d : Draft} {kind : OutputKind} {tools : Tools} {name text : String}
    {e : ComposeError} (failed : d.assemble kind tools name text = .error e) :
    (∃ i ∈ d.inclusions, e = .merge i.1 i.2.name (.missingDefinition i.1 i.2.artifact.name)) ∨
      ∃ message, e = .parse name (.parse message) := by
  rw [assemble] at failed
  cases merged : mergeAll (d.base name tools) d.inclusions with
  | error e' =>
    rw [merged] at failed
    cases failed
    exact .inl (error_of_mergeAll merged)
  | ok a =>
    rw [merged] at failed
    simp only at failed
    cases parsed : a.parse kind.escaping text with
    | ok a' =>
      rw [parsed] at failed
      cases failed
    | error cause =>
      rw [parsed] at failed
      cases failed
      obtain ⟨message, rfl⟩ := Artifact.error_of_parse parsed
      exact .inr ⟨message, rfl⟩

theorem isOwn_of_assemble {d : Draft} {kind : OutputKind} {tools : Tools} {name text : String}
    {e : ComposeError} (failed : d.assemble kind tools name text = .error e) : e.IsOwn := by
  rcases error_of_assemble failed with ⟨_, _, rfl⟩ | ⟨_, rfl⟩
  · exact trivial
  · exact trivial

end Draft

namespace Session

variable {kind : OutputKind} {room : Nat} {name : String} {s t u : Session}

/-- Something is kept under a name. -/
def Keeps (kind : OutputKind) (s : Session) (name : String) : Prop :=
  (s.shelf kind).cache.contains name = true

/-- What is known of the directives that the loop in the session `s` has passed by the time it comes
to the session `t`. -/
structure Passed (kind : OutputKind) (s : Session) (passed : List Directive.Sighting)
    (t : Session) : Prop where
  still : Still kind s t
  flight : t.flight = s.flight
  settled : ∀ p ∈ passed, s.source.Settled (t.Keeps kind) p.directive.name
  idle : ∀ p ∈ passed, s.flight.isActive p.directive.name = false

variable {passed : List Directive.Sighting} {sight : Directive.Sighting}

theorem Passed.calm (known : Passed kind s passed t) : t.disturbances = [] := known.still.calm

theorem Passed.push (known : Passed kind s passed t) (still : Still kind t u)
    (flight : u.flight = t.flight)
    (settled : s.source.Settled (u.Keeps kind) sight.directive.name)
    (idle : s.flight.isActive sight.directive.name = false) :
    Passed kind s (passed ++ [sight]) u where
  still := known.still.trans still
  flight := flight.trans known.flight
  settled := by
    intro p member
    cases List.mem_append.1 member with
    | inl member => exact (known.settled p member).mono still.grown
    | inr member => rwa [List.mem_singleton.1 member]
  idle := by
    intro p member
    cases List.mem_append.1 member with
    | inl member => exact known.idle p member
    | inr member => rwa [List.mem_singleton.1 member]

theorem Passed.repeat (known : Passed kind s passed t) {p : Directive.Sighting}
    (member : p ∈ passed) (same : p.directive.name = sight.directive.name) :
    Passed kind s (passed ++ [sight]) t :=
  known.push (Still.refl known.calm) rfl (same ▸ known.settled p member)
    (same ▸ known.idle p member)

/-- What is shown of each template to carry a property through a resolution. -/
structure Walk (kind : OutputKind) (room : Nat) (name : String) (s : Session) (inv : Session → Prop)
    (good : Node Artifact → Session → Prop) (bad : Halt → Session → Prop) : Prop where
  /-- A name that is in flight is refused. -/
  active : s.flight.isActive name = true → bad (.failed (.recursive name)) s
  /-- The template is read. -/
  entered : s.flight.isActive name = false → inv ((s.entering name).read name).2
  /-- The template fails by itself. -/
  own : ∀ e t, (∀ c, e.root ≠ .recursive c) → inv t → bad (.failed e) { t with flight := s.flight }
  /-- A directive refers to a template that is put together, when those before it were passed. -/
  visited : ∀ text passed sight rest t, s.flight.isActive name = false →
    s.source.body name = .ok text → Directive.met text = passed ++ sight :: rest →
    Passed kind (s.entering name) passed t →
    (∀ p ∈ passed, p.directive.name ≠ sight.directive.name) →
    t.Needs kind sight.directive.name →
    inv t → Ends (fun _ u => inv u)
      (fun halt u => bad (halt.within name sight) { u with flight := s.flight })
      (preprocess kind room sight.directive.name t)
  /-- The template was put together. -/
  done : ∀ t artifact dependencies, inv t →
    good (t.commit kind name artifact dependencies).1
      { (t.commit kind name artifact dependencies).2 with flight := s.flight }

/-- What a template that was put together is known for: its name was not in flight, and it is
settled. -/
def Sound (kind : OutputKind) (name : String) (s : Session) (n : Node Artifact) (t : Session) :
    Prop :=
  n.name = name ∧ s.source.Settled (t.Keeps kind) name ∧ s.flight.isActive name = false

variable {inv : Session → Prop} {good : Node Artifact → Session → Prop}
  {bad : Halt → Session → Prop}

/-- What is known while the directives of a text are walked through. -/
def Walking (kind : OutputKind) (s : Session) (text : String) (inv : Session → Prop)
    (rest : List Directive.Sighting) (d : Draft) (t : Session) : Prop :=
  ∃ passed, Directive.met text = passed ++ rest ∧ d.Spans passed ∧ Passed kind s passed t ∧ inv t

/-- The loop of a walk, with what is known of the templates that are put together inside. -/
theorem walking_loop {text : String} (walk : Walk kind room name s inv good bad)
    (idle : s.flight.isActive name = false) (body : s.source.body name = .ok text)
    (inside : ∀ name t, t.disturbances = [] →
      Ends (Sound kind name t) (fun _ _ => True) (preprocess kind room name t)) :
    Loop kind (preprocess kind room) name (Walking kind (s.entering name) text inv)
      (fun halt t => bad halt { t with flight := s.flight }) where
  second := by
    rintro sight rest d t ⟨passed, -, -, -, holds⟩ - -
    exact walk.own _ t (by simp [ComposeError.root]) holds
  repeated := by
    rintro sight rest d t ⟨passed, met, spans, known, holds⟩ - again
    -- What is included already was passed under the same name.
    obtain ⟨p, member, same⟩ := (spans.names _).1 (spans.included _ again)
    exact ⟨passed ++ [sight], by simpa using met, spans.repeated again,
      known.repeat member same, holds⟩
  again := by
    rintro sight rest d t ⟨passed, met, spans, known, holds⟩ - node found
    obtain ⟨member, named⟩ := Draft.mem_of_resolved? found
    obtain ⟨p, before, same⟩ := (spans.names _).1 (List.mem_map_of_mem member)
    exact ⟨passed ++ [sight], by simpa using met, spans.take named,
      known.repeat before (same.trans named), holds⟩
  kept := by
    rintro sight rest d t ⟨passed, met, spans, known, holds⟩ - - idle node found
    obtain ⟨member, named⟩ := Cache.mem_of_get? found
    refine ⟨passed ++ [sight], by simpa using met, spans.take named, ?_, holds⟩
    refine known.push (Still.refl known.calm) rfl (.kept ?_) (known.flight ▸ idle)
    exact named ▸ Cache.contains_name member
  visited := by
    rintro sight rest d t ⟨passed, met, spans, known, holds⟩ - new needed
    have fresh : ∀ p ∈ passed, p.directive.name ≠ sight.directive.name := by
      intro p member same
      exact Draft.resolved?_eq_none_iff.1 new ((spans.names _).2 ⟨p, member, same⟩)
    -- Three things are known of what was visited: what the walk shows, that it is sound, and
    -- that it left the rest of the session alone.
    have ends := walk.visited text passed sight rest t idle body met known fresh needed holds
    have still : Still kind t (preprocess kind room sight.directive.name t).2 :=
      still_preprocess room _ known.calm
    have flight := flight_preprocess kind room sight.directive.name t
    refine (((ends.and (inside sight.directive.name t known.calm)).and_snd still).and_snd
      (P := fun u => u.flight = t.flight) flight).imp ?_ fun _ _ ends => ends.1.1.1
    rintro node u ⟨⟨⟨holds, named, settled, idle⟩, still⟩, flight⟩
    refine ⟨passed ++ [sight], by simpa using met, spans.take named, ?_, holds⟩
    rw [known.still.source] at settled
    exact known.push still flight settled (known.flight ▸ idle)

/-- The step of the induction. -/
theorem walk_step (walk : Walk kind room name s inv good bad) (calm : s.disturbances = [])
    (inside : ∀ name t, t.disturbances = [] →
      Ends (Sound kind name t) (fun _ _ => True) (preprocess kind room name t)) :
    Ends (fun n t => good n t ∧ Sound kind name s n t) bad (preprocess kind (room + 1) name s) := by
  refine preprocess_rule walk.active fun idle => ?_
  have entered := walk.entered idle
  refine build_rule ?_ ?_
  · intro e unfit
    exact walk.own e _ (Source.isOwn_of_body unfit).root_ne entered
  · intro text body
    have start : Walking kind (s.entering name) text inv (Directive.met text) .empty
        ((s.entering name).read name).2 := by
      refine ⟨[], rfl, Draft.spans_empty, ⟨?_, ?_, by simp, by simp⟩, entered⟩
      · exact still_read (s := s.entering name) calm name
      · exact ((s.entering name).beside_read name).flight
    refine (follow_rule (walking_loop walk idle body inside) (Directive.met text) start).imp ?_
      fun _ _ ends => ends
    rintro draft t ⟨passed, met, -, known, holds⟩
    split
    · next e failed => exact walk.own e t (Draft.isOwn_of_assemble failed).root_ne holds
    · next artifact _ =>
      refine ⟨walk.done t artifact draft.dependencies holds, rfl, ?_, idle⟩
      have later : Still kind t (t.commit kind name artifact draft.dependencies).2 :=
        still_commit known.calm name artifact draft.dependencies
      -- All directives of the text were passed, so the template is settled.
      refine .known (Source.text?_of_body body) ?_
      intro sight member
      rw [List.append_nil] at met
      refine (known.settled sight (met ▸ member)).mono ?_
      intro other kept
      rw [Keeps, shelf_with_flight]
      exact later.grown other kept

theorem preprocess_sound (room : Nat) (name : String) (s : Session) (calm : s.disturbances = []) :
    Ends (Sound kind name s) (fun _ _ => True) (preprocess kind room name s) := by
  induction room generalizing name s with
  | zero => exact trivial
  | succ room ih =>
    -- The step gives soundness beside what is carried along, so nothing has to be carried.
    have walk : Walk kind room name s (fun _ => True) (fun _ _ => True) (fun _ _ => True) :=
      { active := fun _ => trivial
        entered := fun _ => trivial
        own := fun _ _ _ _ => trivial
        visited := fun _ _ _ _ _ _ _ _ _ _ _ _ => ends_snd_iff.2 trivial
        done := fun _ _ _ _ => trivial }
    exact (walk_step walk calm ih).imp (fun _ _ ends => ends.2) fun _ _ => id

/-- What each template carries on, a resolution that nothing disturbs carries through. -/
theorem walk_rule (walk : Walk kind room name s inv good bad) (calm : s.disturbances = []) :
    Ends good bad (preprocess kind (room + 1) name s) :=
  (walk_step walk calm fun name t => preprocess_sound room name t).imp (fun _ _ ends => ends.1)
    fun _ _ => id

end Session

end Collage
