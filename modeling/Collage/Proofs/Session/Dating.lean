import Collage.Proofs.Resolution.Recipe
import Collage.Proofs.Session.History
import Collage.Proofs.Session.Transparency

/-! # How old the nodes that are kept are

A request to give a name up may come at any point of a run, also while templates are being put
together.  `Node.Dated` says where in a history the text of a node was read: whatever happened from
then until the node was done happened while its own template was in flight, and nothing asked for
its name to be given up afterwards.  Every node that is kept is dated, and so is all that it embeds
(`Session.run_dated`).

A request that comes while the template itself is in flight finds nothing to give up, and what was
read before it is kept all the same (`Session.not_heeded_in_flight`).
-/

namespace Collage

/-- In a history that begins with some source, a node was put together from what the source had when
its template was read.  From then on first come the events inside of that reading, and after them no
request to give up its name. -/
def Node.Dated (source : Source) (tools : Tools) (kind : OutputKind) (history : List Event)
    (n : Node Artifact) : Prop :=
  ∃ before r during since, history = before ++ .read r :: (during ++ since) ∧ r.name = n.name ∧
    r.within.getLast? = some n.name ∧ n.IsComposition (source.after before) tools kind ∧
    (∀ e ∈ during, e.Inside r.within) ∧
    ∀ within c, .change within c ∈ since → c.settles kind n.name = false

/-- A session at the end of a history: the source is what is left of the first one, and all that is
kept is dated. -/
structure Session.Recorded (source : Source) (tools : Tools) (history : List Event)
    (s : Session) : Prop where
  source_eq : s.source = source.after history
  tools_eq : s.tools = tools
  dated : ∀ kind, ∀ n ∈ (s.shelf kind).cache.nodes, n.Dated source tools kind history

/-- Events inside of what is in flight lead from one session, at the end of a history, to another at
the end of a longer one. -/
def Session.Continues (source : Source) (tools : Tools) (history : List Event)
    (s t : Session) : Prop :=
  ∃ events, s.Passes events t ∧ (∀ e ∈ events, e.Inside s.flight.path) ∧
    t.Recorded source tools (history ++ events)

variable {source : Source} {tools : Tools} {kind : OutputKind} {history : List Event}

theorem Node.Dated.append {n : Node Artifact} (dated : n.Dated source tools kind history)
    {events : List Event}
    (quiet : ∀ within c, .change within c ∈ events → c.settles kind n.name = false) :
    n.Dated source tools kind (history ++ events) := by
  obtain ⟨before, r, during, since, rfl, named, last, composition, inside, settled⟩ := dated
  refine ⟨before, r, during, since ++ events, by simp, named, last, composition, inside, ?_⟩
  intro within c member
  rcases List.mem_append.1 member with earlier | later
  · exact settled within c earlier
  · exact quiet within c later

namespace Session

variable {s t u : Session} {name : String}

/-! ## One event -/

theorem Recorded.of_eq (recorded : s.Recorded source tools history)
    (source_eq : t.source = s.source) (tools_eq : t.tools = s.tools)
    (shelf : ∀ kind, t.shelf kind = s.shelf kind) : t.Recorded source tools history where
  source_eq := source_eq.trans recorded.source_eq
  tools_eq := tools_eq.trans recorded.tools_eq
  dated := by simpa [shelf] using recorded.dated

theorem Recorded.with_flight (recorded : s.Recorded source tools history)
    (flight : Flight) : ({ s with flight } : Session).Recorded source tools history :=
  recorded.of_eq rfl rfl (by simp)

/-- A change gives up what it asks for, so it may follow what is kept. -/
theorem Recorded.apply (recorded : s.Recorded source tools history) (within : List String)
    (c : Change) : (s.apply c).Recorded source tools (history ++ [.change within c]) where
  source_eq := by
    rw [source_apply s within c, recorded.source_eq, Source.after_append]
    rfl
  tools_eq := (s.beside_apply c).tools.trans recorded.tools_eq
  dated := by
    intro kind n kept
    refine (recorded.dated kind n (mem_of_mem_apply kept)).append ?_
    intro within' c' member
    cases List.mem_singleton.1 member
    exact not_settles_of_kept kept fun _ => Shelf.name_ne_of_mem_invalidate

theorem Recorded.foldl_apply (recorded : s.Recorded source tools history)
    (within : List String) (changes : List Change) :
    (changes.foldl Session.apply s).Recorded source tools
      (history ++ changes.map (.change within)) := by
  induction changes generalizing s history with
  | nil => simpa using recorded
  | cons c rest ih => simpa using ih (recorded.apply within c)

theorem Recorded.asked (recorded : s.Recorded source tools history) (name : String) :
    (s.asked name).Recorded source tools (history ++ [.read ⟨name, s.flight.path⟩]) where
  source_eq := by
    rw [Source.after_append]
    exact recorded.source_eq
  tools_eq := recorded.tools_eq
  dated := by
    intro kind n kept
    have kept : n ∈ (s.shelf kind).cache.nodes := by cases kind <;> exact kept
    exact (recorded.dated kind n kept).append (by simp)

theorem Recorded.read (recorded : s.Recorded source tools history) (name : String) :
    (s.read name).2.Recorded source tools
      (history ++ .read ⟨name, s.flight.path⟩ :: (s.due name).map (.change s.flight.path)) := by
  rw [snd_read, List.append_cons]
  exact (recorded.asked name).foldl_apply s.flight.path (s.due name)

theorem Recorded.commit (recorded : s.Recorded source tools history) {artifact : Artifact}
    {dependencies : List (Node Artifact)}
    (dated : (⟨s.made, name, artifact, dependencies⟩ : Node Artifact).Dated source tools kind
      history) : (s.commit kind name artifact dependencies).2.Recorded source tools history where
  source_eq := by simpa using recorded.source_eq
  tools_eq := by simpa using recorded.tools_eq
  dated := by
    intro other n member
    rw [shelf_commit] at member
    split at member
    · next same =>
      subst same
      rcases Shelf.of_mem_put member with rfl | kept
      · exact dated
      · exact recorded.dated other n kept
    · exact recorded.dated other n member

/-! ## Stretches of a history -/

theorem Continues.refl (recorded : s.Recorded source tools history) :
    s.Continues source tools history s :=
  ⟨[], .of_eq rfl rfl, by simp, by simpa using recorded⟩

theorem Continues.trans (first : s.Continues source tools history t)
    (flight : t.flight = s.flight)
    (second : ∀ history, t.Recorded source tools history →
      t.Continues source tools history u) : s.Continues source tools history u := by
  obtain ⟨events, passes, inside, recorded⟩ := first
  obtain ⟨more, passes', inside', recorded'⟩ := second _ recorded
  rw [flight] at inside'
  refine ⟨events ++ more, passes.trans passes', List.forall_mem_append.2 ⟨inside, inside'⟩, ?_⟩
  rwa [← List.append_assoc]

theorem Continues.tools_eq (continues : s.Continues source tools history t) :
    t.tools = tools := by
  obtain ⟨_, _, _, recorded⟩ := continues
  exact recorded.tools_eq

/-- A node that is dated by all that happened may be committed. -/
theorem Continues.commit (continues : s.Continues source tools history t)
    {artifact : Artifact} {dependencies : List (Node Artifact)}
    (dated : ∀ events, (∀ e ∈ events, e.Inside s.flight.path) →
      (⟨t.made, name, artifact, dependencies⟩ : Node Artifact).Dated source tools kind
        (history ++ events)) :
    s.Continues source tools history (t.commit kind name artifact dependencies).2 := by
  obtain ⟨events, passes, inside, recorded⟩ := continues
  refine ⟨events, ?_, inside, recorded.commit (dated events inside)⟩
  simpa using passes.trans (.of_eq (readings_commit ..) (disturbances_commit ..))

/-- How putting a template together begins: it enters and is read, and what is due happens. -/
def opening (s : Session) (name : String) : List Event :=
  .read ⟨name, s.flight.path ++ [name]⟩ ::
    ((s.entering name).due name).map (.change (s.flight.path ++ [name]))

theorem path_opened (s : Session) (name : String) :
    ((s.entering name).read name).2.flight.path = s.flight.path ++ [name] :=
  congrArg Flight.path ((s.entering name).beside_read name).flight

/-- What happens after a template was read happens inside of its reading, and all together happens
around it. -/
theorem Continues.leave
    (continues : ((s.entering name).read name).2.Continues source tools
      (history ++ s.opening name) t) :
    s.Continues source tools history { t with flight := s.flight } := by
  obtain ⟨events, passes, inside, recorded⟩ := continues
  rw [path_opened] at inside
  have opened : s.Passes (s.opening name) ((s.entering name).read name).2 :=
    passes_read (s.entering name) name
  refine ⟨s.opening name ++ events, opened.trans passes, ?_, ?_⟩
  · intro e member
    rcases List.mem_append.1 member with first | later
    · rcases List.mem_cons.1 first with rfl | first
      · exact Event.inside_read s.flight.path name name
      · obtain ⟨c, -, rfl⟩ := List.mem_map.1 first
        exact List.prefix_append s.flight.path [name]
    · exact (inside e later).mono
  · rw [← List.append_assoc]
    exact recorded.with_flight s.flight

/-! ## Resolutions -/

/-- What it takes for a resolution to keep everything dated. -/
def KeepsDates (source : Source) (tools : Tools) (visit : Visit) : Prop :=
  ∀ (name : String) (s : Session) (history : List Event), Name.normalize name = name →
    s.Recorded source tools history → s.Continues source tools history (visit name s).2

/-- From the first directive of a text on, all that happens happens inside. -/
theorem dating_loop {room : Nat} (inside : KeepsDates source tools (preprocess kind room))
    (parent : String) (history : List Event) (s : Session) :
    Loop kind (preprocess kind room) parent
      (fun _ _ t => t.flight = s.flight ∧ s.Continues source tools history t)
      (fun _ t => s.Continues source tools history t) where
  second := fun holds _ _ => holds.2
  repeated := fun holds _ _ => holds
  again := fun holds _ _ _ => holds
  kept := fun holds _ _ _ _ _ => holds
  visited := by
    rintro sight rest d t ⟨flight, continues⟩ - - -
    have later := continues.trans flight fun _ =>
      inside sight.directive.name t _ sight.directive.normalize_name
    have same := (flight_preprocess kind room sight.directive.name t).trans flight
    exact (ends_snd_iff.2 ⟨same, later⟩).imp (fun _ _ holds => holds) fun _ _ holds => holds.2

/-- A composition is dated by its own reading, if nothing happened since but inside. -/
theorem dated_of_opening {n : Node Artifact} {events : List Event}
    (composition : n.IsComposition (source.after history) tools kind)
    (inside : ∀ e ∈ events, e.Inside (s.flight.path ++ [n.name])) :
    n.Dated source tools kind (history ++ s.opening n.name ++ events) := by
  refine ⟨history, ⟨n.name, s.flight.path ++ [n.name]⟩,
    ((s.entering n.name).due n.name).map (.change (s.flight.path ++ [n.name])) ++ events, [],
    by simp [opening], rfl, by simp, composition, ?_, by simp⟩
  refine List.forall_mem_append.2 ⟨?_, inside⟩
  intro e member
  obtain ⟨c, -, rfl⟩ := List.mem_map.1 member
  exact List.prefix_rfl

theorem ends_gathers (kind : OutputKind) (room : Nat) (parent : String)
    (sights : List Directive.Sighting) (s : Session) :
    Ends (fun draft _ => Draft.empty.Gathers sights draft) (fun _ _ => True)
      (follow kind (preprocess kind room) parent sights .empty s) := by
  rcases followed : follow kind (preprocess kind room) parent sights .empty s with ⟨halt | draft, t⟩
  · trivial
  · exact follow_gathers followed

/-- Whatever is put together, and whatever happens meanwhile, all that is kept stays dated. -/
theorem preprocess_dated (room : Nat) :
    KeepsDates source tools (preprocess kind room) := by
  induction room with
  | zero => exact fun _ _ _ _ recorded => .refl recorded
  | succ room ih =>
    intro name s history normal recorded
    have read : ((s.entering name).read name).2.Recorded source tools
        (history ++ s.opening name) := (recorded.with_flight _).read name
    refine ends_snd_iff.1 (preprocess_rule (fun _ => .refl recorded) fun _ => ?_)
    refine build_rule (fun _ _ => (Continues.refl read).leave) fun text known => ?_
    have dated := follow_rule (dating_loop ih name (history ++ s.opening name)
      ((s.entering name).read name).2) (Directive.met text) (d := .empty) ⟨rfl, .refl read⟩
    refine (dated.and (ends_gathers ..)).imp ?_ fun _ _ ended => ended.1.leave
    rintro draft t ⟨⟨-, continues⟩, gathers⟩
    split
    · exact continues.leave
    · next artifact assembled =>
      rw [continues.tools_eq] at assembled
      -- The source was not disturbed before the reading.
      have body : (source.after history).body name = .ok text := recorded.source_eq ▸ known
      have composition : (⟨t.made, name, artifact, draft.dependencies⟩ :
          Node Artifact).IsComposition (source.after history) tools kind :=
        ⟨normal, text, draft, body, gathers, rfl, assembled⟩
      refine (continues.commit fun events inside => ?_).leave
      rw [path_opened] at inside
      exact dated_of_opening composition inside

/-! ## Runs -/

theorem Recorded.resolve (recorded : s.Recorded source tools history) (kind : OutputKind)
    (spelling : String) : (s.resolve kind spelling).2.Recorded source tools
      (history ++ s.eventsUntil (s.resolve kind spelling).2) := by
  obtain ⟨node, -, eq⟩ | ⟨-, eq⟩ := s.resolve_cases kind spelling
  · have passes : s.Passes [] s := .of_eq rfl rfl
    rw [eq, passes.eventsUntil_eq, List.append_nil]
    exact recorded
  · have keeps : KeepsDates source tools (preprocess kind s.room) := preprocess_dated s.room
    obtain ⟨events, passes, -, recorded'⟩ := keeps (Name.normalize spelling) _ history
      (Name.normalize_normalize spelling) (recorded.with_flight .empty)
    rw [eq, passes.of_flight.eventsUntil_eq]
    exact recorded'

theorem Recorded.perform (recorded : s.Recorded source tools history) (step : Step) :
    (s.perform step).Recorded source tools (history ++ s.happens step) := by
  cases step with
  | change c => exact recorded.apply [] c
  | render kind name data =>
    rw [happens, snd_render, Session.perform, snd_render]
    exact recorded.resolve kind name
  | prepare kind name =>
    rw [happens, snd_prepare, Session.perform, snd_prepare]
    exact recorded.resolve kind name

theorem Recorded.run (recorded : s.Recorded source tools history) (steps : List Step) :
    (s.run steps).Recorded source tools (history ++ s.history steps) := by
  induction steps generalizing s history with
  | nil =>
    rw [Session.history, List.append_nil]
    exact recorded
  | cons step rest ih =>
    rw [Session.history, ← List.append_assoc]
    exact ih (recorded.perform step)

theorem recorded_start (source : Source) (tools : Tools) (mode : CacheMode)
    (disturbances : List Disturbance) :
    (start source tools mode disturbances).Recorded source tools [] where
  source_eq := rfl
  tools_eq := rfl
  dated := by
    intro kind
    cases kind <;> cases mode <;> simp [start, shelf, Shelf.ofMode, Shelf.cache, Cache.empty]

/-- After every run, whatever changed or was asked for in the middle of a resolution: each node that
is kept, and each that it embeds, was put together from what was read of its template after the last
request to give up its name, but for requests that came while the template itself was in flight. -/
theorem run_dated (source : Source) (tools : Tools) (disturbances : List Disturbance)
    (steps : List Step) (kind : OutputKind) :
    let first := start source tools .enabled disturbances
    ∀ n ∈ ((first.run steps).shelf kind).cache.nodes, ∀ m, n.Embeds m →
      ∃ before r during since, first.history steps = before ++ .read r :: (during ++ since) ∧
        r.name = m.name ∧ r.within.getLast? = some m.name ∧
        m.IsComposition (source.after before) tools kind ∧
        (∀ e ∈ during, e.Inside r.within) ∧
        ∀ within c, .change within c ∈ since → c.settles kind m.name = false := by
  intro first n member m embeds
  have accounted : Accounted (first.run steps) :=
    (accounted_start source tools .enabled disturbances).run steps
  have kept := (accounted.fresh kind).embedded member embeds
  have recorded := (recorded_start source tools .enabled disturbances).run steps
  rw [List.nil_append] at recorded
  exact recorded.dated kind m kept

/-! ## A request that is not heeded -/

/-- A page that is replaced and given up right after it was read for the first time. -/
def interrupted : Session :=
  start (.store [("page", "one".toUTF8)]) .empty .enabled
    [⟨fun readings => readings.any (·.name == "page"),
      [.store "page" "two".toUTF8, .evict .text "page"]⟩]

/-- The same session once the page was read.  Nothing was kept that could be given up. -/
def interruption : Session :=
  { start (.store [("page", "two".toUTF8)]) .empty .enabled [] with
    flight := ⟨["page"]⟩
    readings := [⟨"page", ["page"]⟩] }

theorem read_interrupted : ((interrupted.entering "page").read "page").2 = interruption := by
  have absent : (Cache.empty : Cache Artifact).invalidate "page" = ([], .empty) := by
    rw [Cache.invalidate, Cache.evict, dif_neg (by decide), Cache.evict]
  have normal : Name.normalize "page" = "page" := by decide +kernel
  simp [read, disturb, interrupted, interruption, entering, start, apply, evict, invalidate, normal,
    shelf, withShelf, Shelf.ofMode, Shelf.invalidate, absent, Source.insert, Sorted.insert,
    Flight.empty]

theorem resolve_interrupted : ∃ artifact : Artifact, artifact.definition? "page" = some "one" ∧
    interrupted.resolve .text "page" = (.ok ⟨0, "page", artifact, []⟩,
      { interruption with
        flight := .empty
        made := 1
        text := .keeping ⟨[⟨0, "page", artifact, []⟩], []⟩ }) := by
  have normal : Name.normalize "page" = "page" := by decide +kernel
  have body : (interrupted.entering "page").source.body "page" = .ok "one" := by
    have known : (interrupted.entering "page").source.text? "page" = some "one" := by decide +kernel
    rw [Source.body_of_text? known, if_neg (by decide +kernel)]
  have plain : Directive.met "one" = [] := by decide +kernel
  have found : (Draft.empty.assemble .text .empty "page" (Directive.left "one")).toOption.bind
      (·.definition? "page") = some "one" := by decide +kernel
  cases assembled : Draft.empty.assemble .text .empty "page" (Directive.left "one") with
  | error e =>
    rw [assembled] at found
    cases found
  | ok artifact =>
    rw [assembled] at found
    refine ⟨artifact, found, ?_⟩
    have room : interrupted.room = 3 + 1 := by rfl
    rcases interrupted.resolve_cases .text "page" with ⟨node, kept, -⟩ | ⟨-, eq⟩
    · cases kept
    · have idle : interrupted.flight.isActive "page" = false := rfl
      have same : ({ interrupted with flight := .empty } : Session) = interrupted := rfl
      rw [eq, same, normal, room, preprocess_of_idle idle, build_eq, body]
      simp only [read_interrupted, plain, follow, finish]
      have tools : interruption.tools = .empty := rfl
      rw [tools, assembled]
      rfl

theorem history_interrupted : interrupted.history [.prepare .text "page"] =
    [.read ⟨"page", ["page"]⟩, .change ["page"] (.store "page" "two".toUTF8),
      .change ["page"] (.evict .text "page")] := by
  obtain ⟨artifact, -, eq⟩ := resolve_interrupted
  rw [history, history, List.append_nil, happens, snd_prepare, eq]
  rfl

/-- The page is given up while it is in flight, and what was read of it before is kept and served
from then on: nothing was read of it afterwards. -/
theorem not_heeded_in_flight :
    let s := interrupted.run [.prepare .text "page"]
    s.source.text? "page" = some "two" ∧
      ∃ n ∈ (s.shelf .text).cache.nodes, (s.resolve .text "page").1 = .ok n ∧
        n.artifact.definition? "page" = some "one" ∧
        ¬ ∃ before r since,
          interrupted.history [.prepare .text "page"] = before ++ .read r :: since ∧
          r.name = n.name ∧
          ∀ within c, .change within c ∈ since → c.settles .text n.name = false := by
  obtain ⟨artifact, definition, eq⟩ := resolve_interrupted
  have run : interrupted.run [.prepare .text "page"] = (interrupted.resolve .text "page").2 := by
    rw [Session.run, List.foldl_cons, List.foldl_nil, perform, snd_prepare]
  have normal : Name.normalize "page" = "page" := by decide +kernel
  intro s
  have after : s = _ := run.trans (congrArg Prod.snd eq)
  have source : s.source = .store [("page", "two".toUTF8)] := by
    rw [after]
    rfl
  refine ⟨by rw [source]; decide +kernel, ⟨0, "page", artifact, []⟩, ?_, ?_, definition, ?_⟩
  · rw [after]
    exact List.mem_singleton_self _
  · rw [after, resolve, normal]
    rfl
  · rintro ⟨before, r, since, split, -, settled⟩
    rw [history_interrupted] at split
    -- There is one reading, and the request comes after it.
    cases before with
    | nil =>
      obtain ⟨-, rfl⟩ := List.cons.inj split
      have heeded := settled ["page"] (.evict .text "page") (by simp)
      rw [Change.settles, normal] at heeded
      cases heeded
    | cons first before =>
      obtain ⟨-, rest⟩ := List.cons.inj (split.trans List.cons_append)
      have member : Event.read r ∈ before ++ .read r :: since :=
        List.mem_append_right _ List.mem_cons_self
      rw [← rest] at member
      simp at member

end Session

end Collage
