import Collage.Proofs.Resolution.Freshness
import Collage.Proofs.Resolution.Replay

/-! # Two sessions side by side

A session that keeps nodes which are composed of its source, and one that keeps nothing, meet the
same directives (`Session.follow_abreast`).  Where the first one takes a node that is kept, the
second one puts the template together again, and comes to a node of the same view; everything else
they do alike.
-/

namespace Collage.Session

variable {source : Source} {tools : Tools} {kind : OutputKind} {path : List String}
  {room : Nat} {name : String} {s t : Session}

/-- A session whose nodes are composed of the source, and one that keeps nothing, with the same
names in flight. -/
structure Twins (source : Source) (tools : Tools) (kind : OutputKind) (path : List String)
    (s t : Session) : Prop where
  truthful : Truthful source tools kind s
  orderly : Orderly kind path [] s
  flight : s.flight.path = path
  bare : Bare source tools kind path t

theorem Twins.ahead (twins : Twins source tools kind path s t) (room : Nat) (name : String) :
    Twins source tools kind path s (preprocess kind room name t).2 :=
  ⟨twins.truthful, twins.orderly, twins.flight, twins.bare.preprocess room name⟩

theorem Twins.preprocess (twins : Twins source tools kind path s t) (room : Nat)
    (normal : Name.normalize name = name)
    (needed : s.Needs kind name) :
    Twins source tools kind path (preprocess kind room name s).2
      (preprocess kind room name t).2 where
  truthful := ends_snd_iff.1 ((preprocess_truthful room name s normal twins.truthful).imp
    (fun _ _ good => good.2.2) fun _ _ => id)
  orderly := by
    have ends := preprocess_orderly room name s [] (twins.flight ▸ twins.orderly) needed
    rw [twins.flight] at ends
    exact ends_snd_iff.1 (ends.imp (fun _ _ orderly => orderly.mono (by simp) (by simp))
      fun _ _ => id)
  flight := (congrArg Flight.path (flight_preprocess kind room name s)).trans twins.flight
  bare := twins.bare.preprocess room name

theorem Twins.enter (twins : Twins source tools kind path s t)
    (absent : ¬ (s.shelf kind).cache.contains name = true) :
    Twins source tools kind (path ++ [name]) ((s.entering name).read name).2
      ((t.entering name).read name).2 where
  truthful := (twins.truthful.with_flight ⟨s.flight.path ++ [name]⟩).read name
  orderly := (twins.orderly.enter absent).read name
  flight := by
    rw [((s.entering name).beside_read name).flight, entering, twins.flight]
  bare := twins.bare.enter name

/-- Two outcomes look the same, unless there was no room for the second one. -/
def Tally (first second : Outcome (Node Artifact)) : Prop :=
  second = .error .outOfRoom ∨ first.map Node.view = second.map Node.view

/-- How two walks through the directives of one text end: there was no room for the second one, or
both stopped in the same way, or both came to the end with drafts that are alike. -/
inductive Abreast (source : Source) (tools : Tools) (kind : OutputKind) (path : List String) :
    Outcome Draft × Session → Outcome Draft × Session → Prop where
  | cramped (first : Outcome Draft × Session) (t : Session) :
      Abreast source tools kind path first (.error .outOfRoom, t)
  | stopped (halt : Halt) (s t : Session) :
      Abreast source tools kind path (.error halt, s) (.error halt, t)
  | arrived {d e : Draft} {s t : Session} : d.Alike e → Twins source tools kind path s t →
      Abreast source tools kind path (.ok d, s) (.ok e, t)

/-- Two walks go on abreast from nodes that tally. -/
theorem Abreast.resume {visit : Visit} {parent : String} {sight : Directive.Sighting}
    {rest : List Directive.Sighting} {d e : Draft}
    (first second : Outcome (Node Artifact) × Session) (tally : Tally first.1 second.1)
    (alike : d.Alike e) (twins : Twins source tools kind path first.2 second.2)
    (onward : ∀ {d e s t}, d.Alike e → Twins source tools kind path s t →
      Abreast source tools kind path (follow kind visit parent rest d s)
        (follow kind visit parent rest e t)) :
    Abreast source tools kind path (Session.resume kind visit parent sight rest d first)
      (Session.resume kind visit parent sight rest e second) := by
  obtain ⟨outcome, s⟩ := first
  obtain ⟨outcome', t⟩ := second
  -- Without room for the second one nothing is said; else both stop, or both have a node.
  cases tally with
  | inl cramped =>
    cases cramped
    exact .cramped _ t
  | inr same =>
    cases outcome with
    | error halt =>
      cases outcome' with
      | error halt' =>
        cases same
        exact .stopped _ s t
      | ok node' => cases same
    | ok node =>
      cases outcome' with
      | error halt' => cases same
      | ok node' => exact onward (alike.take (Except.ok.inj same)) twins

/-- A node that is kept tallies with what the second session puts together. -/
theorem Twins.tally_of_kept (twins : Twins source tools kind path s t) {node : Node Artifact}
    (kept : (s.shelf kind).get? name = some node) (room : Nat) :
    Tally (.ok node) (Session.preprocess kind room name t).1 := by
  obtain ⟨member, rfl⟩ := Cache.mem_of_get? kept
  have again := replay room node t twins.bare (twins.truthful.kept node member)
    fun m embeds => twins.orderly.outside member embeds
  cases outcome : (Session.preprocess kind room node.name t).1 with
  | ok other => exact .inr (congrArg Except.ok (again.of_ok outcome).symm)
  | error halt => exact .inl (congrArg Except.error (again.of_error outcome))

/-- The walks stay abreast, if those inside of them tally. -/
theorem follow_abreast
    (inside : ∀ name s t, Name.normalize name = name → Twins source tools kind path s t →
      s.Needs kind name →
      Tally (preprocess kind room name s).1 (preprocess kind room name t).1)
    (parent : String) (sights : List Directive.Sighting) {d e : Draft} (alike : d.Alike e)
    (twins : Twins source tools kind path s t) :
    Abreast source tools kind path
      (follow kind (preprocess kind room) parent sights d s)
      (follow kind (preprocess kind room) parent sights e t) := by
  induction sights generalizing d e s t with
  | nil => exact .arrived alike twins
  | cons sight rest ih =>
    rcases d.wants_cases sight with ⟨layout, second⟩ | ⟨inclusion, again⟩ | wants
    · rw [follow_of_second layout second, follow_of_second layout (alike.isSome_layout ▸ second)]
      exact .stopped _ s t
    · rw [follow_of_repeated inclusion again,
        follow_of_repeated inclusion (alike.includes _ ▸ again)]
      exact ih alike twins
    · have wants' := alike.wants wants
      cases found : d.resolved? sight.directive.name with
      | some node =>
        obtain ⟨node', found', view⟩ := alike.of_resolved? found
        rw [follow_of_resolved wants found, follow_of_resolved wants' found']
        exact ih (alike.take view) twins
      | none =>
        -- The second session has to put the template together in any case.
        rw [follow_of_needed wants' (alike.new found) (.inr (twins.bare.missing _))]
        rcases s.needs_or_kept kind sight.directive.name with needed | ⟨idle, node, kept⟩
        · have normal := sight.directive.normalize_name
          rw [follow_of_needed wants found needed]
          exact .resume _ _ (inside sight.directive.name s t normal twins needed) alike
            (twins.preprocess room normal needed) ih
        · -- The first session reads nothing here, the second one reads all that is below.
          have tally := twins.tally_of_kept kept room
          rw [follow_of_kept wants found idle kept]
          exact .resume (.ok node, s) _ tally alike (twins.ahead room sight.directive.name) ih

theorem Abreast.finish {first second : Outcome Draft × Session}
    (abreast : Abreast source tools kind path first second) (name text : String) :
    Tally (Session.finish kind name text first).1 (Session.finish kind name text second).1 := by
  cases abreast with
  | cramped => exact .inl rfl
  | stopped => exact .inr rfl
  | @arrived d e s t alike twins =>
    right
    simp only [Session.finish, twins.truthful.tools_eq, twins.bare.tools_eq, alike.assemble]
    cases e.assemble kind tools name (Directive.left text) with
    | error cause => rfl
    | ok artifact => simp [Except.map, Node.view, Node.dependencyNames, alike.names]

/-- What two sessions put together side by side tallies. -/
theorem preprocess_tally (room : Nat) (name : String) (s t : Session)
    (normal : Name.normalize name = name) (twins : Twins source tools kind path s t)
    (needed : s.Needs kind name) :
    Tally (preprocess kind room name s).1 (preprocess kind room name t).1 := by
  induction room generalizing name s t path with
  | zero => exact .inl rfl
  | succ room ih =>
    -- Both have the same names in flight, so neither or both refuse the name.
    have same : t.flight.isActive name = s.flight.isActive name := by
      rw [Flight.isActive, Flight.isActive, twins.flight, twins.bare.flight]
    cases active : s.flight.isActive name with
    | true =>
      rw [active] at same
      rw [preprocess_of_active active, preprocess_of_active same]
      exact .inr rfl
    | false =>
      rw [active] at same
      rw [preprocess_of_idle active, preprocess_of_idle same]
      have entered : Twins source tools kind (path ++ [name]) _ _ :=
        twins.enter (by simp [needed.absent active])
      have sources : (s.entering name).source = source ∧ (t.entering name).source = source :=
        ⟨twins.truthful.source_eq, twins.bare.source_eq⟩
      simp only [build_eq, sources]
      cases source.body name with
      | error e => exact .inr rfl
      | ok text =>
        exact (follow_abreast (fun name s t normal twins needed => ih name s t normal twins needed)
          name (Directive.met text) (.refl .empty) entered).finish name text

end Collage.Session
