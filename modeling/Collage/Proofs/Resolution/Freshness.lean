import Mathlib.Data.Set.Insert
import Collage.Proofs.Cache.Shelf
import Collage.Proofs.Session.Run

/-! # The shelves stay fresh

Whatever is rendered, given up or changed, also in the middle of a resolution, the caches of a
session stay fresh.  Two facts carry this through a resolution.

* Nodes with one serial number are one node.  `Session.Ledger` keeps an account of all nodes that
  were made and are still in use, so the check of a cache that a node is up to date compares the
  nodes themselves.
* What is in flight is not kept.  A name enters only while nothing is kept under it, and while it is
  in flight it is not put together again, so a commit never takes the place of another node.
-/

namespace Collage

namespace Session

variable {s t : Session} {kind : OutputKind} {nodes : Set (Node Artifact)} {name : String}

/-! ## The account of nodes -/

/-- An account of the nodes in use: no two have one serial number, all were made already, what is
kept is among them, and it is fresh. -/
structure Ledger (nodes : Set (Node Artifact)) (s : Session) : Prop where
  identity : ∀ a ∈ nodes, ∀ b ∈ nodes, a.same b = true → a = b
  numbered : ∀ a ∈ nodes, a.serial < s.made
  shelved : ∀ kind, ∀ n ∈ (s.shelf kind).cache.nodes, n ∈ nodes
  fresh : ∀ kind, (s.shelf kind).cache.Fresh []

theorem Ledger.with_shelf (ledger : Ledger nodes s) {shelf : Shelf Artifact}
    (less : ∀ n ∈ shelf.cache.nodes, n ∈ (s.shelf kind).cache.nodes)
    (fresh : shelf.cache.Fresh []) : Ledger nodes (s.withShelf kind shelf) where
  identity := ledger.identity
  numbered := by simpa using ledger.numbered
  shelved := by
    intro other n member
    rw [shelf_withShelf] at member
    split at member
    · exact ledger.shelved kind n (less n member)
    · exact ledger.shelved other n member
  fresh := by
    intro other
    rw [shelf_withShelf]
    split
    · exact fresh
    · exact ledger.fresh other

theorem Ledger.apply (ledger : Ledger nodes s) (c : Change) : Ledger nodes (s.apply c) := by
  obtain ⟨source, eq⟩ | ⟨kind, name, eq | eq⟩ := s.apply_cases c
  · rw [eq]
    exact ⟨ledger.identity, ledger.numbered, by simpa using ledger.shelved,
      by simpa using ledger.fresh⟩
  · rw [eq]
    exact ledger.with_shelf (fun n => Shelf.mem_of_mem_invalidate)
      (Shelf.fresh_invalidate (ledger.fresh kind) name)
  · rw [eq]
    refine ledger.with_shelf ?_ ?_
    · simp [Cache.empty]
    · simpa using Cache.fresh_empty []

/-- A commit of a name that is not kept enters the new node into the account. -/
theorem Ledger.commit (ledger : Ledger nodes s) {artifact : Artifact}
    {dependencies : List (Node Artifact)} (known : ∀ d ∈ dependencies, d ∈ nodes)
    (absent : ¬ (s.shelf kind).cache.contains name = true) :
    Ledger (insert ⟨s.made, name, artifact, dependencies⟩ nodes)
      (s.commit kind name artifact dependencies).2 := by
  -- The new node has a serial number that no node of the account has.
  have unmade : ∀ a ∈ nodes, a.serial ≠ s.made := fun a member =>
    Nat.ne_of_lt (ledger.numbered a member)
  refine ⟨?_, ?_, ?_, ?_⟩
  · rintro a (rfl | first) b (rfl | second) same
    · rfl
    · have serial : s.made = b.serial := by simpa [Node.same] using same
      exact absurd serial.symm (unmade b second)
    · exact absurd (by simpa [Node.same] using same) (unmade a first)
    · exact ledger.identity a first b second same
  · rintro a (rfl | member)
    · simp
    · have := ledger.numbered a member
      simp only [made_commit]
      omega
  · intro other n member
    rw [shelf_commit] at member
    split at member
    · obtain ⟨c, put, eq⟩ | eq := (s.shelf kind).put_cases ⟨s.made, name, artifact, dependencies⟩
      · rw [eq, (ledger.fresh kind).toLinked.mem_put put] at member
        rcases member with rfl | ⟨member, -⟩
        · exact .inl rfl
        · exact .inr (ledger.shelved kind n member)
      · rw [eq] at member
        exact .inr (ledger.shelved kind n member)
    · exact .inr (ledger.shelved other n member)
  · intro other
    rw [shelf_commit]
    split
    · obtain ⟨c, put, eq⟩ | eq := (s.shelf kind).put_cases ⟨s.made, name, artifact, dependencies⟩
      · rw [eq]
        -- All nodes that the check compares are in the account.
        refine (ledger.fresh kind).put put absent ?_
        intro d built m cached same
        exact ledger.identity m (ledger.shelved kind m cached) d (known d built) same
      · rw [eq]
        exact ledger.fresh kind
    · exact ledger.fresh other

/-! ## Sessions in order -/

/-- Nothing is kept under certain names. -/
def Vacant (kind : OutputKind) (names : List String) (s : Session) : Prop :=
  ∀ name ∈ names, ¬ (s.shelf kind).cache.contains name = true

/-- There is an account that has the nodes `held`, and nothing is kept under the names on `path`. -/
def Orderly (kind : OutputKind) (path : List String) (held : List (Node Artifact)) (s : Session) :
    Prop :=
  ∃ nodes, Ledger nodes s ∧ (∀ n ∈ held, n ∈ nodes) ∧ Vacant kind path s

variable {path : List String} {held : List (Node Artifact)}

theorem mem_of_mem_apply {c : Change} {n : Node Artifact}
    (kept : n ∈ ((s.apply c).shelf kind).cache.nodes) : n ∈ (s.shelf kind).cache.nodes := by
  obtain ⟨source, eq⟩ | ⟨other, given, eq | eq⟩ := s.apply_cases c
  · rwa [eq, shelf_with_source] at kept
  · rw [eq, shelf_withShelf] at kept
    split at kept
    · next same => exact same ▸ Shelf.mem_of_mem_invalidate kept
    · exact kept
  · rw [eq, shelf_withShelf] at kept
    split at kept
    · simp [Cache.empty] at kept
    · exact kept

theorem contains_of_apply {c : Change}
    (cached : ((s.apply c).shelf kind).cache.contains name = true) :
    (s.shelf kind).cache.contains name = true := by
  obtain ⟨n, kept, rfl⟩ := Cache.contains_iff.1 cached
  exact Cache.contains_name (mem_of_mem_apply kept)

theorem Orderly.apply (orderly : Orderly kind path held s) (c : Change) :
    Orderly kind path held (s.apply c) := by
  obtain ⟨nodes, ledger, known, vacant⟩ := orderly
  exact ⟨nodes, ledger.apply c, known, fun name member cached =>
    vacant name member (contains_of_apply cached)⟩

theorem Orderly.of_eq (orderly : Orderly kind path held s)
    (shelves : ∀ kind, t.shelf kind = s.shelf kind) (made : t.made = s.made) :
    Orderly kind path held t := by
  obtain ⟨nodes, ledger, known, vacant⟩ := orderly
  refine ⟨nodes, ⟨ledger.identity, ?_, ?_, ?_⟩, known, ?_⟩
  · simpa [made] using ledger.numbered
  · simpa [shelves] using ledger.shelved
  · simpa [shelves] using ledger.fresh
  · simpa [Vacant, shelves] using vacant

theorem Orderly.with_flight (orderly : Orderly kind path held s) (flight : Flight) :
    Orderly kind path held { s with flight } :=
  orderly.of_eq (by simp) rfl

theorem Orderly.read (orderly : Orderly kind path held s) (name : String) :
    Orderly kind path held (s.read name).2 := by
  refine s.read_rule name ?_ ?_ ?_
  · exact orderly.of_eq (by simp) rfl
  · exact fun t later _ orderly => orderly.of_eq (by simp) rfl
  · exact fun t c _ orderly => orderly.apply c

theorem Orderly.mono {fewer : List (Node Artifact)} {shorter : List String}
    (orderly : Orderly kind path held s) (nodes : ∀ n ∈ fewer, n ∈ held)
    (names : ∀ name ∈ shorter, name ∈ path) : Orderly kind shorter fewer s := by
  obtain ⟨all, ledger, known, vacant⟩ := orderly
  exact ⟨all, ledger, fun n member => known n (nodes n member),
    fun name member => vacant name (names name member)⟩

/-- A name that is not kept is vacant when it enters, and stays so until its own commit. -/
theorem Orderly.enter (orderly : Orderly kind path held s)
    (absent : ¬ (s.shelf kind).cache.contains name = true) :
    Orderly kind (path ++ [name]) held (s.entering name) := by
  obtain ⟨nodes, ledger, known, vacant⟩ := orderly.with_flight ⟨s.flight.path ++ [name]⟩
  refine ⟨nodes, ledger, known, ?_⟩
  intro other member
  cases List.mem_append.1 member with
  | inl member => exact vacant other member
  | inr member => simpa [entering, List.mem_singleton.1 member] using absent

/-- What is kept embeds no node of a name in flight. -/
theorem Orderly.outside (orderly : Orderly kind path held s) {n m : Node Artifact}
    (kept : n ∈ (s.shelf kind).cache.nodes) (embeds : n.Embeds m) : m.name ∉ path := by
  obtain ⟨nodes, ledger, -, vacant⟩ := orderly
  intro member
  exact vacant m.name member (Cache.contains_name ((ledger.fresh kind).embedded kept embeds))

theorem Orderly.hold {node : Node Artifact} (orderly : Orderly kind path held s)
    (kept : node ∈ (s.shelf kind).cache.nodes) : Orderly kind path (node :: held) s := by
  obtain ⟨nodes, ledger, known, vacant⟩ := orderly
  refine ⟨nodes, ledger, ?_, vacant⟩
  intro n member
  cases List.mem_cons.1 member with
  | inl same =>
    obtain rfl := same
    exact ledger.shelved kind n kept
  | inr member => exact known n member

theorem Orderly.take {draft : Draft} {node : Node Artifact}
    (orderly : Orderly kind path (node :: (draft.dependencies ++ held)) s)
    (sight : Directive.Sighting) :
    Orderly kind path ((draft.take sight node).dependencies ++ held) s := by
  refine orderly.mono ?_ fun _ member => member
  intro n member
  cases List.mem_append.1 member with
  | inl member => exact Draft.forall_take (by simp +contextual) (by simp) sight n member
  | inr member => simp [member]

/-- After a commit the names on the path are still vacant, but for the one that was committed. -/
theorem Orderly.commit {artifact : Artifact} {dependencies : List (Node Artifact)}
    (orderly : Orderly kind (path ++ [name]) (dependencies ++ held) s) (outside : name ∉ path) :
    Orderly kind path ((s.commit kind name artifact dependencies).1 :: held)
      (s.commit kind name artifact dependencies).2 := by
  obtain ⟨nodes, ledger, known, vacant⟩ := orderly
  have absent := vacant name (by simp)
  -- The account grows by the new node, which is held from now on.
  refine ⟨_, ledger.commit (fun d built => known d (by simp [built])) absent, ?_, ?_⟩
  · intro n member
    cases List.mem_cons.1 member with
    | inl same =>
      obtain rfl := same
      exact .inl rfl
    | inr member => exact .inr (known n (by simp [member]))
  · intro other member cached
    have before := vacant other (by simp [member])
    rw [shelf_commit, if_pos rfl] at cached
    obtain ⟨c, put, eq⟩ | eq := (s.shelf kind).put_cases ⟨s.made, name, artifact, dependencies⟩
    · rw [eq, Cache.contains_put put] at cached
      cases cached with
      | inl same =>
        obtain rfl := same
        exact outside member
      | inr cached => exact before cached
    · rw [eq] at cached
      exact before cached

/-! ## Resolutions -/

/-- What it takes for a resolution to keep order: the node it gives is in use from then on. -/
def KeepsOrder (kind : OutputKind) (visit : Visit) : Prop :=
  ∀ name s held, Orderly kind s.flight.path held s → s.Needs kind name →
    Ends (fun n t => Orderly kind s.flight.path (n :: held) t)
      (fun _ t => Orderly kind s.flight.path held t) (visit name s)

/-- The loop holds the nodes of its draft in use, next to those that are held around it. -/
theorem orderly_loop {room : Nat} (inside : KeepsOrder kind (preprocess kind room))
    (parent : String) (path : List String) (held : List (Node Artifact)) :
    Loop kind (preprocess kind room) parent
      (fun _ d t => t.flight.path = path ∧ Orderly kind path (d.dependencies ++ held) t)
      (fun _ t => Orderly kind path held t) where
  second := fun holds _ _ => holds.2.mono (by simp +contextual) (by simp)
  repeated := fun holds _ _ => holds
  again := by
    intro sight rest d t holds _ node found
    -- A node of the draft is held already, so it may be held once more.
    have known := (Draft.mem_of_resolved? found).1
    refine ⟨holds.1, (holds.2.mono ?_ fun _ member => member).take sight⟩
    intro n member
    cases List.mem_cons.1 member with
    | inl same =>
      obtain rfl := same
      exact List.mem_append_left _ known
    | inr member => exact member
  kept := by
    intro sight rest d t holds _ _ _ node found
    exact ⟨holds.1, (holds.2.hold (Cache.mem_of_get? found).1).take sight⟩
  visited := by
    intro sight rest d t holds _ _ needed
    have ends := inside sight.directive.name t (d.dependencies ++ held)
      (holds.1.symm ▸ holds.2) needed
    have flight := flight_preprocess kind room sight.directive.name t
    rw [holds.1] at ends
    refine (ends.and_snd (P := fun u => u.flight = t.flight) flight).imp ?_ ?_
    · intro node u made
      exact ⟨(congrArg Flight.path made.2).trans holds.1, made.1.take sight⟩
    · exact fun _ _ ends => ends.1.mono (by simp +contextual) (by simp)

/-- A template that is put together is in use from then on, and order is kept. -/
theorem preprocess_orderly (room : Nat) : KeepsOrder kind (preprocess kind room) := by
  induction room with
  | zero => exact fun _ _ _ orderly _ => orderly
  | succ room ih =>
    intro name s held orderly needed
    refine preprocess_rule (fun _ => orderly) fun idle => ?_
    -- The name is neither in flight nor kept, so it is vacant until its own commit.
    have outside : name ∉ s.flight.path := by simpa [Flight.isActive] using idle
    have absent : ¬ (s.shelf kind).cache.contains name = true := by
      simp [Needs.absent needed idle]
    have path : ((s.entering name).read name).2.flight.path = s.flight.path ++ [name] := by
      rw [((s.entering name).beside_read name).flight]
      rfl
    have read : Orderly kind (s.flight.path ++ [name]) held ((s.entering name).read name).2 :=
      (orderly.enter absent).read name
    refine build_rule ?_ ?_
    · intro _ _
      exact (read.mono (by simp) (by simp +contextual)).with_flight _
    · intro text _
      refine (follow_rule (orderly_loop ih name _ held) (Directive.met text) ⟨path, ?_⟩).imp ?_ ?_
      · simpa [Draft.empty] using read
      · intro draft t holds
        split
        · exact (holds.2.mono (by simp +contextual) (by simp +contextual)).with_flight _
        · exact (holds.2.commit outside).with_flight _
      · exact fun _ t holds => (holds.mono (by simp) (by simp +contextual)).with_flight _

theorem resolve_orderly (orderly : Orderly kind [] [] s) (name : String) :
    Orderly kind [] [] (s.resolve kind name).2 := by
  obtain ⟨node, -, eq⟩ | ⟨missing, eq⟩ := s.resolve_cases kind name
  · rw [eq]
    exact orderly
  · rw [eq]
    have ends := preprocess_orderly s.room (Name.normalize name)
      { s with flight := .empty } [] (orderly.of_eq (by simp) rfl) (.inr (by simpa using missing))
    exact ends_snd_iff.1 (ends.imp (fun _ _ ends => ends.mono (by simp) (by simp)) fun _ _ => id)

/-! ## Runs -/

/-- There is an account of the nodes of a session. -/
def Accounted (s : Session) : Prop := ∃ nodes, Ledger nodes s

theorem accounted_iff (kind : OutputKind) : Accounted s ↔ Orderly kind [] [] s := by
  simp [Accounted, Orderly, Vacant]

theorem accounted_start (source : Source) (tools : Tools) (mode : CacheMode)
    (disturbances : List Disturbance) : Accounted (start source tools mode disturbances) := by
  have empty : ∀ kind, ((start source tools mode disturbances).shelf kind).cache = .empty := by
    intro kind
    cases kind <;> cases mode <;> rfl
  refine ⟨∅, by simp, by simp, ?_, ?_⟩
  · intro kind n member
    rw [empty] at member
    simp [Cache.empty] at member
  · intro kind
    rw [empty]
    exact Cache.fresh_empty []

/-- Every run keeps an account of its nodes, whatever it changes or is disturbed by. -/
theorem Accounted.run (accounted : Accounted s) (steps : List Step) : Accounted (s.run steps) := by
  refine run_rule ?_ ?_ accounted
  · intro s kind name accounted
    exact (accounted_iff kind).2 (resolve_orderly ((accounted_iff kind).1 accounted) name)
  · rintro s c - ⟨nodes, ledger⟩
    exact ⟨nodes, ledger.apply c⟩

theorem Accounted.fresh (accounted : Accounted s) (kind : OutputKind) :
    (s.shelf kind).cache.Fresh [] := by
  obtain ⟨nodes, ledger⟩ := accounted
  exact ledger.fresh kind

/-- After every run of a session that keeps its nodes, each cached node is found under its name, and
so is each node it was built from; the edges are what the nodes tell, and there is no circle of
them.  Once a template is given up, under any spelling, no node that is left embeds one of its
name. -/
theorem fresh_run (source : Source) (tools : Tools) (disturbances : List Disturbance)
    (steps : List Step) (kind : OutputKind) (spelling : String) :
    let s := (start source tools .enabled disturbances).run steps
    let c := (s.shelf kind).cache
    (∀ n ∈ c.nodes, c.get? n.name = some n ∧ ∀ d ∈ n.dependencies, c.get? d.name = some d) ∧
      (∀ parent child, c.DependsOn parent child ↔
        ∃ n, c.get? parent = some n ∧ child ∈ n.dependencyNames) ∧
      (∀ name, ¬ Relation.TransGen c.DependsOn name name) ∧
      ∀ n ∈ ((s.evict kind spelling).2.shelf kind).cache.nodes, ∀ m, n.Embeds m →
        m.name ≠ Name.normalize spelling := by
  intro s c
  have accounted : Accounted s := (accounted_start source tools .enabled disturbances).run steps
  have fresh : c.Fresh [] := accounted.fresh kind
  have found : ∀ n ∈ c.nodes, c.get? n.name = some n := fun n member =>
    Cache.get?_of_mem fresh.unique member
  refine ⟨?_, ?_, ?_, ?_⟩
  · intro n member
    exact ⟨found n member, fun d built => found d (fresh.same n member (by simp) d built)⟩
  · -- The edges of a fresh cache are those its nodes tell of, as all of these are covered.
    intro parent child
    constructor
    · intro depends
      obtain ⟨-, n, member, rfl, tells⟩ := (fresh.edge_iff parent child).1 depends
      exact ⟨n, found n member, tells⟩
    · rintro ⟨n, kept, tells⟩
      obtain ⟨member, rfl⟩ := Cache.mem_of_get? kept
      exact (fresh.edge_iff _ child).2 ⟨fresh.covered n member (by simp) child tells, n, member,
        rfl, tells⟩
  · exact fresh.acyclic
  · intro n member m embeds
    rw [evict_snd, invalidate, shelf_withShelf, if_pos rfl] at member
    exact Shelf.name_ne_of_embedded fresh member embeds

end Session

end Collage
