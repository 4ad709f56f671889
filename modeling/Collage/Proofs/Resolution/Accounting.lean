import Collage.Proofs.Resolution.Freshness
import Collage.Proofs.Resolution.Termination
import Collage.Proofs.Session.Keeping

/-! # What a resolution reads and keeps

A resolution reads each template at most once and none that is kept, and afterwards it keeps what it
read, apart from the templates that were in flight when it failed (`Session.resolve_accounting`).

`Session.Books` is the account of a resolution that may be under way: what was read so far, and
which names of that are unfinished.  The accounts of two stretches add up (`Books.trans`), and a
commit takes the name of its node off the unfinished ones (`Books.commit`).
-/

namespace Collage

/-- The templates that were in flight at a failure: the parents of the directives that it is behind,
and the template that fails itself.  `asked` is the template that was asked for. -/
def ComposeError.inFlight : ComposeError → String → List String
  | directive _ reference parent cause, _ => parent :: cause.inFlight (Directive.nameOf reference)
  | _, asked => [asked]

theorem ComposeError.inFlight_ne_nil (e : ComposeError) (asked : String) :
    e.inFlight asked ≠ [] := by
  cases e <;> simp [inFlight]

theorem ComposeError.IsOwn.inFlight_eq {e : ComposeError} (own : e.IsOwn) (asked : String) :
    e.inFlight asked = [asked] := by
  cases e <;> first | exact own.elim | rfl

namespace Session

variable {kind : OutputKind} {name : String} {s t u : Session} {more later : List Reading}
  {unfinished others : List String}

/-! ## Accounts -/

/-- From `s` to `t` the readings `more` were made, the newest first.  No name was read twice, and
none that was kept or in flight; what is kept is what was kept before, as the same nodes, and what
was read, apart from the names that are `unfinished`. -/
structure Books (kind : OutputKind) (s : Session) (more : List Reading) (unfinished : List String)
    (t : Session) : Prop where
  readings : t.readings = more ++ s.readings
  once : (more.map (·.name)).Nodup
  fresh : ∀ r ∈ more, ¬ s.Keeps kind r.name ∧ r.name ∉ s.flight.path
  keeps_iff : ∀ x, t.Keeps kind x ↔
    s.Keeps kind x ∨ x ∈ more.map (·.name) ∧ x ∉ unfinished
  held : ∀ x n, (s.shelf kind).get? x = some n → (t.shelf kind).get? x = some n

theorem Books.refl (kind : OutputKind) (s : Session) (unfinished : List String) :
    Books kind s [] unfinished s :=
  ⟨rfl, by simp, by simp, by simp, fun _ _ => id⟩

theorem Books.with_flight (books : Books kind s more unfinished t) (flight : Flight) :
    Books kind s more unfinished { t with flight } where
  readings := books.readings
  once := books.once
  fresh := books.fresh
  keeps_iff := by simpa [Keeps] using books.keeps_iff
  held := by simpa using books.held

/-- What is newly kept is what was read and is finished. -/
theorem Books.new_iff (books : Books kind s more unfinished t) (x : String) :
    t.Keeps kind x ∧ ¬ s.Keeps kind x ↔ x ∈ more.map (·.name) ∧ x ∉ unfinished := by
  rw [books.keeps_iff]
  constructor
  · rintro ⟨kept | new, absent⟩
    · exact absurd kept absent
    · exact new
  · rintro ⟨read, done⟩
    obtain ⟨r, member, rfl⟩ := List.mem_map.1 read
    exact ⟨.inr ⟨read, done⟩, (books.fresh r member).1⟩

/-- Where nothing was in flight before, that makes no difference to what is kept. -/
theorem Books.of_idle (books : Books kind { s with flight := .empty } more unfinished t) :
    (∀ r ∈ more, ¬ s.Keeps kind r.name) ∧
      (∀ x n, (s.shelf kind).get? x = some n → (t.shelf kind).get? x = some n) ∧
      ∀ x, t.Keeps kind x ∧ ¬ s.Keeps kind x ↔ x ∈ more.map (·.name) ∧ x ∉ unfinished := by
  have idle : ∀ x, Keeps kind { s with flight := .empty } x ↔ s.Keeps kind x := by
    simp [Keeps]
  refine ⟨fun r member kept => (books.fresh r member).1 ((idle _).2 kept), ?_, ?_⟩
  · simpa using books.held
  · simpa only [idle] using books.new_iff

/-- A name that enters is read at once, and it is unfinished. -/
theorem Books.enter (calm : s.disturbances = []) (absent : ¬ s.Keeps kind name)
    (idle : s.flight.isActive name = false) :
    Books kind s [⟨name, s.flight.path ++ [name]⟩] [name] ((s.entering name).read name).2 := by
  have shelf : ((s.entering name).read name).2.shelf kind = s.shelf kind := by
    rw [(s.entering name).read_of_undisturbed name calm]
    cases kind <;> rfl
  refine ⟨?_, by simp, ?_, ?_, ?_⟩
  · rw [(s.entering name).read_of_undisturbed name calm]
    rfl
  · intro r member
    obtain rfl := List.mem_singleton.1 member
    exact ⟨absent, by simpa [Flight.isActive] using idle⟩
  · intro x
    simp [Keeps, shelf]
  · simp [shelf]

/-- The accounts of two stretches add up.  What is in flight between them is not kept, and there is
nothing unfinished that is not in flight there. -/
theorem Books.trans (first : Books kind s more unfinished t) (second : Books kind t later others u)
    (path : ∀ x ∈ s.flight.path, x ∈ t.flight.path) (active : ∀ x ∈ unfinished, x ∈ t.flight.path)
    (vacant : Vacant kind t.flight.path t)
    (known : ∀ x ∈ others, x ∈ later.map (·.name) ∨ x ∈ t.flight.path) :
    Books kind s (later ++ more) (unfinished ++ others) u where
  readings := by rw [second.readings, first.readings, List.append_assoc]
  once := by
    rw [List.map_append, List.nodup_append']
    refine ⟨second.once, first.once, fun x after before => ?_⟩
    obtain ⟨r, member, rfl⟩ := List.mem_map.1 after
    obtain ⟨absent, outside⟩ := second.fresh r member
    -- What was read before is kept by then, or it is unfinished.
    by_cases pending : r.name ∈ unfinished
    · exact outside (active _ pending)
    · exact absent ((first.keeps_iff _).2 (.inr ⟨before, pending⟩))
  fresh := by
    intro r member
    cases List.mem_append.1 member with
    | inl member =>
      obtain ⟨absent, outside⟩ := second.fresh r member
      exact ⟨fun kept => absent ((first.keeps_iff _).2 (.inl kept)),
        fun inside => outside (path _ inside)⟩
    | inr member => exact first.fresh r member
  keeps_iff := by
    intro x
    rw [second.keeps_iff, first.keeps_iff, List.map_append, List.mem_append, List.mem_append,
      not_or]
    constructor
    · rintro ((kept | ⟨before, done⟩) | ⟨after, done⟩)
      · exact .inl kept
      · -- A name that was finished before is kept, so it is not read again and not in flight.
        have kept := (first.keeps_iff x).2 (.inr ⟨before, done⟩)
        refine .inr ⟨.inr before, done, fun pending => ?_⟩
        cases known x pending with
        | inl after =>
          obtain ⟨r, member, rfl⟩ := List.mem_map.1 after
          exact (second.fresh r member).1 kept
        | inr inside => exact vacant x inside kept
      · obtain ⟨r, member, rfl⟩ := List.mem_map.1 after
        exact .inr ⟨.inl after, fun pending => (second.fresh r member).2 (active _ pending), done⟩
    · rintro (kept | ⟨after | before, done, done'⟩)
      · exact .inl (.inl kept)
      · exact .inr ⟨after, done'⟩
      · exact .inl (.inr ⟨before, done⟩)
  held := fun x n kept => second.held x n (first.held x n kept)

/-- A node whose dependencies are kept is stored, so its name is finished. -/
theorem Books.commit (books : Books kind s more [name] t) (read : name ∈ more.map (·.name))
    (keeping : t.Keeping kind) {artifact : Artifact}
    {dependencies : List (Node Artifact)}
    (current : ∀ n ∈ dependencies, (t.shelf kind).get? n.name = some n) :
    Books kind s more [] (t.commit kind name artifact dependencies).2 ∧
      ((t.commit kind name artifact dependencies).2.shelf kind).get? name =
        some (t.commit kind name artifact dependencies).1 := by
  obtain ⟨c, shelf⟩ := keeping
  have upToDate : c.isCurrent ⟨t.made, name, artifact, dependencies⟩ = true := by
    refine Cache.isCurrent_iff.2 fun d built => ⟨d, ?_, by simp [Node.same]⟩
    have kept := current d built
    rwa [shelf] at kept
  obtain ⟨c', put⟩ : ∃ c', c.put? ⟨t.made, name, artifact, dependencies⟩ = some c' :=
    ⟨_, Cache.put?_of_current upToDate⟩
  have stored : (t.commit kind name artifact dependencies).2.shelf kind = .keeping c' := by
    rw [shelf_commit, if_pos rfl, shelf, Shelf.put, put]
  have absent : ¬ s.Keeps kind name := by
    obtain ⟨r, member, rfl⟩ := List.mem_map.1 read
    exact (books.fresh r member).1
  refine ⟨⟨?_, books.once, books.fresh, ?_, ?_⟩, ?_⟩
  · rw [readings_commit, books.readings]
  · intro x
    have before := books.keeps_iff x
    rw [Keeps, shelf] at before
    rw [Keeps, stored]
    change c'.contains x = true ↔ _
    rw [Cache.contains_put put, show c.contains x = true ↔ _ from before]
    by_cases same : x = name
    · subst same
      simp [read]
    · simp [same]
  · intro x n kept
    have ne : x ≠ name := by
      rintro rfl
      exact absent (by rw [Keeps]; exact Cache.contains_iff.2 ⟨n, Cache.mem_of_get? kept⟩)
    have before := books.held x n kept
    rw [shelf] at before
    rw [stored]
    exact (Cache.get?_put put x).trans ((if_neg ne).trans before)
  · rw [stored]
    exact (Cache.get?_put put name).trans (if_pos rfl)

/-! ## Resolutions under way -/

/-- The session can keep nodes, and nothing disturbs it. -/
structure Ready (kind : OutputKind) (s : Session) : Prop where
  calm : s.disturbances = []
  keeping : s.Keeping kind

theorem Ready.with_flight (ready : Ready kind s) (flight : Flight) :
    Ready kind { s with flight } :=
  ⟨ready.calm, by simpa [Keeping] using ready.keeping⟩

theorem Ready.read (ready : Ready kind s) (name : String) : Ready kind (s.read name).2 := by
  have still : Still kind s (s.read name).2 := still_read ready.calm name
  exact ⟨still.calm, (kept_keeping kind kind).read s name ready.keeping⟩

theorem Ready.preprocess (ready : Ready kind s) (room : Nat) (name : String) :
    Ready kind (preprocess kind room name s).2 :=
  ⟨(still_preprocess room name ready.calm).calm, keeping_preprocess kind room name ready.keeping⟩

/-- The names in flight at a failure were read or in flight before.  They are, with those that were
in flight before, the ones that were in flight at some reading. -/
structure Traced (path : List String) (more : List Reading) (names : List String) : Prop where
  known : ∀ x ∈ names, x ∈ more.map (·.name) ∨ x ∈ path
  within : (∃ r ∈ more, ∀ x, x ∈ r.within ↔ x ∈ path ∨ x ∈ names) ∨
    more = [] ∧ ∀ x ∈ names, x ∈ path

/-- What is known while the directives of a template are resolved: its name is read and unfinished,
and the nodes of the draft are kept. -/
structure Booking (kind : OutputKind) (name : String) (s : Session) (more : List Reading)
    (d : Draft) (t : Session) : Prop where
  books : Books kind s more [name] t
  read : ⟨name, s.flight.path ++ [name]⟩ ∈ more
  path : t.flight.path = s.flight.path ++ [name]
  ready : Ready kind t
  current : ∀ n ∈ d.dependencies, (t.shelf kind).get? n.name = some n

theorem Booking.mem_names {d : Draft} (booking : Booking kind name s more d t) :
    name ∈ more.map (·.name) := List.mem_map_of_mem booking.read

/-- While a template is resolved, nothing in flight is kept. -/
theorem Booking.vacant {d : Draft} (booking : Booking kind name s more d t)
    (vacant : Vacant kind s.flight.path s) : Vacant kind t.flight.path t := by
  intro x inside kept
  rw [booking.path, List.mem_append, List.mem_singleton] at inside
  cases (booking.books.keeps_iff x).1 kept with
  | inl before =>
    cases inside with
    | inl inside => exact vacant x inside before
    | inr same =>
      obtain ⟨r, member, named⟩ := List.mem_map.1 booking.mem_names
      exact (booking.books.fresh r member).1 (named ▸ same ▸ before)
  | inr read =>
    obtain ⟨r, member, rfl⟩ := List.mem_map.1 read.1
    cases inside with
    | inl inside => exact (booking.books.fresh r member).2 inside
    | inr same => exact read.2 (by simp [same])

theorem Booking.take {d : Draft} {node : Node Artifact} (booking : Booking kind name s more d t)
    (kept : (t.shelf kind).get? node.name = some node) (sight : Directive.Sighting) :
    Booking kind name s more (d.take sight node) t :=
  { booking with current := Draft.forall_take booking.current kept sight }

/-- A failure of the template itself leaves its own name unfinished and no other. -/
theorem Booking.fail {d : Draft} {e : ComposeError} (booking : Booking kind name s more d t)
    (own : e.IsOwn) :
    Books kind s more (e.inFlight name) t ∧ Traced s.flight.path more (e.inFlight name) := by
  rw [own.inFlight_eq]
  refine ⟨booking.books, ?_, .inl ⟨_, booking.read, by simp⟩⟩
  intro x member
  obtain rfl := List.mem_singleton.1 member
  exact .inl booking.mem_names

/-- What a resolution is held to: it closes its books, and a failure leaves what was in flight
unfinished. -/
def KeepsBooks (kind : OutputKind) (visit : Visit) : Prop :=
  ∀ name s, Ready kind s → Vacant kind s.flight.path s → s.Needs kind name →
    Ends (fun node t => node.name = name ∧ (t.shelf kind).get? name = some node ∧
        ∃ more, Books kind s more [] t)
      (fun halt t => ∀ e, halt = .failed e → ∃ more, Books kind s more (e.inFlight name) t ∧
        Traced s.flight.path more (e.inFlight name)) (visit name s)

/-- A directive whose template is put together adds its books to those of the parent. -/
theorem Booking.trans {d : Draft} (booking : Booking kind name s more d t)
    (vacant : Vacant kind s.flight.path s) (inside : Books kind t later others u)
    (known : ∀ x ∈ others, x ∈ later.map (·.name) ∨ x ∈ t.flight.path) :
    Books kind s (later ++ more) (name :: others) u := by
  refine booking.books.trans inside ?_ ?_ (booking.vacant vacant) known
  · intro x member
    rw [booking.path]
    exact List.mem_append_left _ member
  · intro x member
    rw [booking.path]
    exact List.mem_append_right _ member

theorem Booking.traced_within {d : Draft} (booking : Booking kind name s more d t)
    (traced : Traced t.flight.path later others) :
    Traced s.flight.path (later ++ more) (name :: others) where
  known := by
    intro x member
    rw [List.map_append, List.mem_append]
    cases List.mem_cons.1 member with
    | inl same => exact .inl (.inr (same ▸ booking.mem_names))
    | inr member =>
      cases traced.known x member with
      | inl read => exact .inl (.inl read)
      | inr inside =>
        rw [booking.path, List.mem_append, List.mem_singleton] at inside
        exact inside.elim .inr fun same => .inl (.inr (same ▸ booking.mem_names))
  within := by
    have path := booking.path
    left
    cases traced.within with
    | inl found =>
      obtain ⟨r, member, same⟩ := found
      refine ⟨r, List.mem_append_left _ member, fun x => ?_⟩
      rw [same, path]
      simp [or_assoc]
    | inr none =>
      -- A circle was noticed before anything was read, so the template itself was read last.
      refine ⟨_, List.mem_append_right _ booking.read, fun x => ?_⟩
      have inside := none.2 x
      rw [path, List.mem_append, List.mem_singleton] at inside
      simp only [List.mem_append, List.mem_cons, List.not_mem_nil, or_false]
      constructor
      · exact Or.imp_right .inl
      · rintro (member | same | member)
        · exact .inl member
        · exact .inr same
        · exact inside member

theorem booking_loop {room : Nat} (inside : KeepsBooks kind (preprocess kind room))
    (vacant : Vacant kind s.flight.path s) :
    Loop kind (preprocess kind room) name (fun _ d t => ∃ more, Booking kind name s more d t)
      (fun halt t => ∀ e, halt = .failed e → ∃ more, Books kind s more (e.inFlight name) t ∧
        Traced s.flight.path more (e.inFlight name)) where
  second := by
    rintro sight rest d t ⟨more, booking⟩ - - e failed
    cases failed
    exact ⟨more, booking.fail trivial⟩
  repeated := fun holds _ _ => holds
  again := by
    rintro sight rest d t ⟨more, booking⟩ - node found
    obtain ⟨member, -⟩ := Draft.mem_of_resolved? found
    exact ⟨more, booking.take (booking.current node member) sight⟩
  kept := by
    rintro sight rest d t ⟨more, booking⟩ - - - node found
    obtain ⟨-, named⟩ := Cache.mem_of_get? found
    exact ⟨more, booking.take (named ▸ found) sight⟩
  visited := by
    rintro sight rest d t ⟨more, booking⟩ - - needed
    have ends := inside sight.directive.name t booking.ready (booking.vacant vacant) needed
    have ready := booking.ready.preprocess room sight.directive.name
    have flight := flight_preprocess kind room sight.directive.name t
    refine ((ends.and_snd ready).and_snd (P := fun u => u.flight = t.flight) flight).imp ?_ ?_
    · rintro node u ⟨⟨⟨named, kept, later, books⟩, ready⟩, flight⟩
      refine ⟨later ++ more, Booking.take ⟨booking.trans vacant books (by simp), ?_, ?_, ready, ?_⟩
        (named ▸ kept) sight⟩
      · exact List.mem_append_right _ booking.read
      · rw [flight, booking.path]
      · exact fun n member => books.held _ n (booking.current n member)
    · rintro halt u ⟨⟨failed, -⟩, -⟩ e within
      cases halt with
      | outOfRoom => cases within
      | failed cause =>
        cases within
        obtain ⟨later, books, traced⟩ := failed cause rfl
        exact ⟨later ++ more, booking.trans vacant books traced.known, booking.traced_within traced⟩

theorem preprocess_books (room : Nat) : KeepsBooks kind (preprocess kind room) := by
  induction room with
  | zero =>
    intro name s _ _ _ e failed
    cases failed
  | succ room ih =>
    intro name s ready vacant needed
    refine preprocess_rule ?_ fun idle => ?_
    · intro active e failed
      cases failed
      have inside : name ∈ s.flight.path := by simpa [Flight.isActive] using active
      exact ⟨[], .refl kind s _, by simp [ComposeError.inFlight, inside],
        .inr ⟨rfl, by simp [ComposeError.inFlight, inside]⟩⟩
    · have absent : ¬ s.Keeps kind name := by
        rw [Keeps, needed.absent idle]
        simp
      have start : Booking kind name s [⟨name, s.flight.path ++ [name]⟩] .empty
          ((s.entering name).read name).2 :=
        { books := .enter ready.calm absent idle
          read := by simp
          path := congrArg Flight.path ((s.entering name).beside_read name).flight
          ready := (ready.with_flight _).read name
          current := by simp [Draft.empty] }
      refine build_rule ?_ ?_
      · intro e unfit e' failed
        cases failed
        obtain ⟨books, traced⟩ := start.fail (Source.isOwn_of_body unfit)
        exact ⟨_, books.with_flight _, traced⟩
      · intro text _
        refine (follow_rule (booking_loop ih vacant) (Directive.met text) ⟨_, start⟩).imp ?_ ?_
        · rintro draft t ⟨more, booking⟩
          split
          · next e unfit =>
            intro e' failed
            cases failed
            obtain ⟨books, traced⟩ := booking.fail (Draft.isOwn_of_assemble unfit)
            exact ⟨more, books.with_flight _, traced⟩
          · obtain ⟨books, kept⟩ := booking.books.commit booking.mem_names booking.ready.keeping
              booking.current
            refine ⟨rfl, ?_, more, books.with_flight _⟩
            rw [shelf_with_flight]
            exact kept
        · intro halt t bad e failed
          obtain ⟨more, books, traced⟩ := bad e failed
          exact ⟨more, books.with_flight _, traced⟩

/-! ## What a resolution comes to -/

theorem resolve_of_kept {node : Node Artifact} {spelling : String}
    (kept : (s.shelf kind).get? (Name.normalize spelling) = some node) :
    s.resolve kind spelling = (.ok node, s) := by
  simp only [resolve, kept]

/-- A template that is not kept is resolved with nothing in flight, so its books are closed. -/
theorem preprocess_closes {spelling : String} (ready : Ready kind s)
    (missing : (s.shelf kind).get? (Name.normalize spelling) = none) :
    Ends (fun node t => node.name = Name.normalize spelling ∧
        (t.shelf kind).get? (Name.normalize spelling) = some node ∧
        ∃ more, Books kind { s with flight := .empty } more [] t)
      (fun halt t => ∀ e, halt = .failed e →
        ∃ more, Books kind { s with flight := .empty } more
            (e.inFlight (Name.normalize spelling)) t ∧
          Traced [] more (e.inFlight (Name.normalize spelling)))
      (preprocess kind s.room (Name.normalize spelling) { s with flight := .empty }) :=
  preprocess_books s.room (Name.normalize spelling) { s with flight := .empty }
    (ready.with_flight .empty) (by simp [Vacant, Flight.empty]) (.inr (by simpa using missing))

/-- A resolution that succeeds leaves nothing unfinished, and keeps the node that it gives. -/
theorem resolve_books_of_ok {spelling : String} {node : Node Artifact} (ready : Ready kind s)
    (given : (s.resolve kind spelling).1 = .ok node) :
    ((s.resolve kind spelling).2.shelf kind).get? (Name.normalize spelling) = some node ∧
      ∃ more, Books kind { s with flight := .empty } more [] (s.resolve kind spelling).2 := by
  obtain ⟨other, kept, eq⟩ | ⟨missing, eq⟩ := s.resolve_cases kind spelling
  · rw [eq] at given ⊢
    cases given
    exact ⟨kept, [], (Books.refl kind { s with flight := .empty } []).with_flight s.flight⟩
  · have made := (resolve_ok given).resolve_left (by simp [missing])
    obtain ⟨-, given, books⟩ := (preprocess_closes ready missing).of_ok made
    rw [eq]
    exact ⟨given, books⟩

/-- A resolution that fails leaves unfinished what was in flight then. -/
theorem resolve_books_of_error {spelling : String} {e : ComposeError} (ready : Ready kind s)
    (failed : (s.resolve kind spelling).1 = .error e) :
    ∃ more, Books kind { s with flight := .empty } more (e.inFlight (Name.normalize spelling))
        (s.resolve kind spelling).2 ∧
      Traced [] more (e.inFlight (Name.normalize spelling)) := by
  obtain ⟨other, kept, eq⟩ | ⟨missing, eq⟩ := s.resolve_cases kind spelling
  · rw [eq] at failed
    cases failed
  · have books := (preprocess_closes ready missing).of_error (resolve_error ready.calm failed) e rfl
    rwa [← congrArg Prod.snd eq] at books

/-- The children of a node that stays kept are what it was built from, before and after. -/
theorem children_resolve {spelling x : String} {n : Node Artifact} (orderly : Orderly kind [] [] s)
    (kept : (s.shelf kind).get? x = some n)
    (kept' : ((s.resolve kind spelling).2.shelf kind).get? x = some n) :
    ((s.resolve kind spelling).2.shelf kind).cache.children x =
      (s.shelf kind).cache.children x := by
  have fresh := ((accounted_iff kind).2 orderly).fresh kind
  have fresh' := ((accounted_iff kind).2 (resolve_orderly orderly spelling)).fresh kind
  rw [fresh.children_eq kept, fresh'.children_eq kept']

/-- When nothing is changed from outside, a resolution reads no name twice and none that is kept,
and all that was kept stays, as the same nodes with the same children.  After a success what was
read is kept too, and the template is there to be given again; after a failure, what was read but
for the templates that were in flight then. -/
theorem resolve_accounting (source : Source) (tools : Tools) (disturbances : List Disturbance)
    (steps : List Step) (kind : OutputKind) (spelling : String) :
    let s : Session :=
      { (start source tools .enabled disturbances).run steps with disturbances := [] }
    let t := (s.resolve kind spelling).2
    ∃ more : List Reading, t.readings = more ++ s.readings ∧ (more.map (·.name)).Nodup ∧
      (∀ r ∈ more, ¬ s.Keeps kind r.name) ∧
      (∀ other, other ≠ kind → t.shelf other = s.shelf other) ∧
      (∀ x n, (s.shelf kind).get? x = some n → (t.shelf kind).get? x = some n ∧
        (t.shelf kind).cache.children x = (s.shelf kind).cache.children x) ∧
      match (s.resolve kind spelling).1 with
      | .ok node =>
        (∀ x, t.Keeps kind x ∧ ¬ s.Keeps kind x ↔ x ∈ more.map (·.name)) ∧
          ∀ again, Name.normalize again = Name.normalize spelling →
            t.resolve kind again = (.ok node, t)
      | .error e =>
        (∀ x, t.Keeps kind x ∧ ¬ s.Keeps kind x ↔
          x ∈ more.map (·.name) ∧ x ∉ e.inFlight (Name.normalize spelling)) ∧
          (∀ x ∈ e.inFlight (Name.normalize spelling), x ∈ more.map (·.name)) ∧
          ∃ r ∈ more, ∀ x, x ∈ r.within ↔ x ∈ e.inFlight (Name.normalize spelling) := by
  intro s t
  have ready : Ready kind s :=
    ⟨rfl, by simpa [Keeping, s] using keeping_run source tools disturbances steps kind⟩
  have orderly : Orderly kind [] [] s := by
    have run := (accounted_start source tools .enabled disturbances).run steps
    exact ((accounted_iff kind).1 run).of_eq (by simp [s]) rfl
  have still : Still kind s t := still_resolve kind spelling ready.calm
  have stays : ∀ {x n}, (s.shelf kind).get? x = some n → (t.shelf kind).get? x = some n →
      (t.shelf kind).get? x = some n ∧
        (t.shelf kind).cache.children x = (s.shelf kind).cache.children x :=
    fun kept kept' => ⟨kept', children_resolve orderly kept kept'⟩
  cases outcome : (s.resolve kind spelling).1 with
  | ok node =>
    obtain ⟨given, more, books⟩ := resolve_books_of_ok ready outcome
    obtain ⟨unkept, held, new⟩ := books.of_idle
    refine ⟨more, books.readings, books.once, unkept, still.others,
      fun x n kept => stays kept (held x n kept), by simpa using new, ?_⟩
    exact fun again spelled => resolve_of_kept (spelled ▸ given)
  | error e =>
    obtain ⟨more, books, traced⟩ := resolve_books_of_error ready outcome
    obtain ⟨unkept, held, new⟩ := books.of_idle
    refine ⟨more, books.readings, books.once, unkept, still.others,
      fun x n kept => stays kept (held x n kept), new, ?_, ?_⟩
    · exact fun x member => (traced.known x member).resolve_right (by simp)
    · cases traced.within with
      | inl found => simpa using found
      | inr none =>
        -- There was something in flight, so something was read.
        obtain ⟨x, member⟩ := List.exists_mem_of_ne_nil _ (e.inFlight_ne_nil _)
        exact absurd (none.2 x member) (by simp)

end Session

end Collage
