import Collage.Proofs.Cache.Eviction

/-! # Copies within reach

A node embeds a whole tree of nodes, while the edges tell only what it was built from itself, by
name.  Giving a name up reaches a node that embeds one of that name as long as the nodes in between
are still the ones that are cached (`Cache.path_of_embeds`), or else as long as a node that took the
place of another was built from the same names and more (`Cache.Reaching.put`).

A node that takes the place of one that was built from other names leaves behind, in what was built
on the old one, copies that giving up their names does not reach
(`Graph.not_reached_past_replaced`).
-/

namespace Collage

open Relation

namespace Node

variable {α : Type}

/-- `n.Between k m`: in the tree of `n` the node `k` stands below `n` and above `m`. -/
def Between (n k m : Node α) : Prop :=
  ∃ d ∈ n.dependencies, d.Embeds k ∧ ∃ e ∈ k.dependencies, e.Embeds m

end Node

namespace Cache

variable {α : Type} {c c' : Cache α} {n m : Node α} {name x : String}

theorem Linked.dependsOn (linked : c.Linked []) (member : n ∈ c.nodes) {d : Node α}
    (built : d ∈ n.dependencies) : c.DependsOn n.name d.name := by
  have tells : d.name ∈ n.dependencyNames := List.mem_map_of_mem built
  exact (linked.edge_iff _ _).2 ⟨linked.covered n member (by simp) _ tells, n, member, rfl, tells⟩

/-- Edges lead from a cached node to whatever it embeds, if the nodes on the way are cached. -/
theorem path_of_embeds (linked : c.Linked []) (member : n ∈ c.nodes) (embeds : n.Embeds m)
    (between : ∀ k, n.Between k m → k ∈ c.nodes) : ReflTransGen c.DependsOn n.name m.name := by
  induction embeds with
  | refl n => exact .refl
  | @step n d m built below ih =>
    have depends := linked.dependsOn member built
    rcases below.cases_head with rfl | ⟨e, deeper, embeds⟩
    · exact .single depends
    · refine .head depends (ih (between d ⟨d, built, .refl d, e, deeper, embeds⟩) ?_)
      rintro k ⟨f, further, above, rest⟩
      exact between k ⟨d, built, .step further above, rest⟩

/-! ## Paths that last -/

/-- Edges lead from each cached node to whatever it embeds. -/
def Reaching (c : Cache α) : Prop :=
  ∀ n ∈ c.nodes, ∀ m, n.Embeds m → ReflTransGen c.DependsOn n.name m.name

theorem reaching_empty : (empty : Cache α).Reaching := by
  simp [Reaching, empty]

/-- A node that is put in keeps all paths, where nodes with one serial number are one node, if what
it takes the place of was built from nothing else. -/
theorem Reaching.put (reaching : c.Reaching) (linked : c.Linked []) (put : c.put? n = some c')
    (identity : ∀ d ∈ n.dependencies, ∀ k ∈ c.nodes, k.same d = true → k = d)
    (keeps : ∀ old, c.get? n.name = some old → old.dependencyNames ⊆ n.dependencyNames) :
    c'.Reaching := by
  obtain ⟨current, -, edges⟩ := put?_eq_some put
  have lasts : ∀ first last, c.DependsOn first last → c'.DependsOn first last := by
    intro first last depends
    by_cases own : first = n.name
    · obtain ⟨-, old, member, named, tells⟩ := (linked.edge_iff _ _).1 depends
      have found : c.get? n.name = some old :=
        (get?_eq_some_iff linked.unique).2 ⟨member, named.trans own⟩
      exact (edges _ _).2 (.inr ⟨own, keeps old found tells⟩)
    · exact (edges _ _).2 (.inl ⟨depends, own⟩)
  have paths : ∀ k ∈ c.nodes, ∀ m, k.Embeds m → ReflTransGen c'.DependsOn k.name m.name :=
    fun k member m embeds => ReflTransGen.mono lasts _ _ (reaching k member m embeds)
  intro k member m embeds
  rcases (linked.mem_put put).1 member with rfl | ⟨member, -⟩
  · rcases embeds.cases_head with rfl | ⟨d, built, below⟩
    · exact .refl
    · -- What the new node was built from was cached, so the paths below it are there.
      obtain ⟨old, found, same⟩ := isCurrent_iff.1 current d built
      have cached := (mem_of_get? found).1
      obtain rfl := identity d built old cached same
      have depends : c'.DependsOn k.name old.name :=
        (edges _ _).2 (.inr ⟨rfl, List.mem_map_of_mem built⟩)
      exact .head depends (paths old cached m below)
  · exact paths k member m embeds

theorem path_invalidate (anchored : c.Anchored) {first last : String}
    (path : ReflTransGen c.DependsOn first last) (kept : first ∉ (c.invalidate name).1) :
    ReflTransGen (c.invalidate name).2.DependsOn first last := by
  induction path using ReflTransGen.head_induction_on with
  | refl => exact .refl
  | head depends _ ih =>
    exact .head (dependsOn_invalidate anchored depends kept)
      (ih (kept_of_dependsOn anchored depends kept))

theorem Reaching.invalidate (reaching : c.Reaching) (linked : c.Linked []) (name : String) :
    (c.invalidate name).2.Reaching := by
  intro n member m embeds
  refine path_invalidate linked.anchored (reaching n (mem_of_mem_evict member) m embeds) ?_
  rw [Cache.invalidate, evict_snd] at member
  simpa [Cache.invalidate] using (List.mem_filter.1 member).2

/-- What leads to a name goes with it. -/
theorem mem_invalidate_of_path (anchored : c.Anchored) (cached : c.contains x = true)
    (path : ReflTransGen c.DependsOn x name) : x ∈ (c.invalidate name).1 :=
  (mem_evict_iff anchored).2 ⟨cached, name, List.mem_singleton_self name, path⟩

/-! ## Runs -/

/-- Whatever is cached after a run was offered in it. -/
theorem offered_of_mem_run (steps : List (Step α)) (member : n ∈ (c.run steps).nodes) :
    n ∈ c.nodes ∨ .put n ∈ steps := by
  induction steps generalizing c with
  | nil => exact .inl member
  | cons step rest ih =>
    rcases ih member with cached | offered
    · cases step with
      | put k =>
        cases put : c.put? k with
        | none =>
          rw [perform, put, Option.getD_none] at cached
          exact .inl cached
        | some c' =>
          rw [perform, put, Option.getD_some, (put?_eq_some put).2.1] at cached
          rcases of_mem_place cached with rfl | member
          · exact .inr List.mem_cons_self
          · exact .inl member
      | invalidate name => exact .inl (mem_of_mem_evict cached)
      | clear => simp [perform, empty] at cached
    · exact .inr (List.mem_cons_of_mem _ offered)

end Cache

namespace Graph

variable {α : Type}

/-- Among the nodes that are offered and all that they embed, one serial number stands for one node,
as it does when each node is made with a number of its own. -/
def Identified (steps : List (Cache.Step α)) : Prop :=
  ∀ n k, .put n ∈ steps → .put k ∈ steps → ∀ a b, n.Embeds a → k.Embeds b → a.same b = true → a = b

/-- Whenever a node takes the place of another in a run, it was built from the names that the other
one was built from, and maybe from more. -/
def Steadfast (steps : List (Cache.Step α)) : Prop :=
  ∀ before n after, steps = before ++ .put n :: after →
    ∀ old, ((empty : Graph α).run before).get? n.name = some old →
      (((empty : Graph α).run before).put? n).isSome = true →
        old.dependencyNames ⊆ n.dependencyNames

theorem Identified.of_append {steps more : List (Cache.Step α)}
    (identified : Identified (steps ++ more)) : Identified steps :=
  fun n k offered offered' =>
    identified n k (List.mem_append_left _ offered) (List.mem_append_left _ offered')

/-- Nodes with serial numbers of their own are told apart, with all that they are built from. -/
theorem Identified.of_nodup {steps : List (Cache.Step α)} {nodes : List (Node α)}
    (offered : ∀ n, .put n ∈ steps → n ∈ nodes)
    (closed : ∀ n ∈ nodes, ∀ d ∈ n.dependencies, d ∈ nodes)
    (distinct : (nodes.map (·.serial)).Nodup) : Identified steps := by
  have inside : ∀ {n m : Node α}, n.Embeds m → n ∈ nodes → m ∈ nodes := by
    intro n m embeds
    induction embeds with
    | refl => exact id
    | step built _ ih => exact fun member => ih (closed _ member _ built)
  intro n k first second a b embeds embeds' same
  exact List.inj_on_of_nodup_map distinct (inside embeds (offered n first))
    (inside embeds' (offered k second)) (by simpa [Node.same] using same)

theorem Steadfast.of_append {steps more : List (Cache.Step α)}
    (steadfast : Steadfast (steps ++ more)) : Steadfast steps := by
  intro before n after split
  exact steadfast before n (after ++ more) (by rw [split, List.append_assoc, List.cons_append])

theorem steadfast_nil : Steadfast ([] : List (Cache.Step α)) := by
  intro before n after split
  simp at split

/-- One more node is offered that was built from all that the one of its name was built from. -/
theorem Steadfast.put {steps : List (Cache.Step α)} {n : Node α} (steadfast : Steadfast steps)
    (keeps : ∀ old, ((empty : Graph α).run steps).get? n.name = some old →
      old.dependencyNames ⊆ n.dependencyNames) : Steadfast (steps ++ [.put n]) := by
  intro before k after split old found accepted
  rcases after.eq_nil_or_concat with rfl | ⟨rest, last, rfl⟩
  · obtain ⟨rfl, same⟩ := List.append_inj' split rfl
    obtain rfl : n = k := by simpa using same
    exact keeps old found
  · rw [List.concat_eq_append, ← List.cons_append, ← List.append_assoc] at split
    exact steadfast before k rest (List.append_inj' split rfl).1 old found accepted

theorem Steadfast.put_new {steps : List (Cache.Step α)} {n : Node α} (steadfast : Steadfast steps)
    (absent : ((empty : Graph α).run steps).get? n.name = none) :
    Steadfast (steps ++ [.put n]) := by
  refine steadfast.put fun old found => ?_
  rw [absent] at found
  cases found

theorem reaching_run (steps : List (Cache.Step α)) (identified : Identified steps)
    (steadfast : Steadfast steps) : (Cache.empty.run steps : Cache α).Reaching := by
  induction steps using List.reverseRecOn with
  | nil => exact Cache.reaching_empty
  | append_singleton before step ih =>
    have reaching := ih identified.of_append steadfast.of_append
    obtain ⟨sound, linked, label, shows⟩ := shows_run before
    rw [Cache.run, List.foldl_concat]
    change (Cache.perform (Cache.empty.run before) step).Reaching
    cases step with
    | put n =>
      rcases shows.put sound linked.unique n with ⟨-, refused⟩ | ⟨h, c', -, put, put', -⟩
      · rw [Cache.perform, refused]
        exact reaching
      · rw [Cache.perform, put']
        refine reaching.put linked put' ?_ ?_
        · intro d built k cached same
          have offered : .put k ∈ before :=
            (Cache.offered_of_mem_run before cached).resolve_left (by simp [Cache.empty])
          exact identified k n (by simp [offered]) (by simp) k d (.refl k) (.of_mem built) same
        · intro old found
          rw [← shows.get? sound linked.unique] at found
          exact steadfast before n [] rfl old found (by rw [put]; rfl)
    | invalidate name => exact reaching.invalidate linked name
    | clear => exact Cache.reaching_empty

/-- Whatever nodes were offered and whatever was given up before, giving up the name of a node that
a cached one embeds gives up the cached one, unless a node in between in its tree is not the one
cached under its name any more.  If no node ever takes the place of one that was built from other
names than itself, it does so in any case. -/
theorem invalidate_reaches (steps : List (Cache.Step α)) :
    let g := (empty : Graph α).run steps
    (∀ x n m, g.get? x = some n → n.Embeds m →
      x ∈ (g.invalidate m.name).1 ∨ ∃ k, n.Between k m ∧ g.get? k.name ≠ some k) ∧
      (Identified steps → Steadfast steps →
        ∀ x n m, g.get? x = some n → n.Embeds m → x ∈ (g.invalidate m.name).1) := by
  intro g
  obtain ⟨sound, linked, label, shows⟩ := shows_run steps
  have found : ∀ x, g.get? x = (Cache.empty.run steps).get? x := shows.get? sound linked.unique
  have gives : ∀ x n m, g.get? x = some n →
      ReflTransGen (Cache.empty.run steps : Cache α).DependsOn n.name m →
        x ∈ (g.invalidate m).1 := by
    intro x n m held path
    rw [found] at held
    obtain ⟨member, rfl⟩ := Cache.mem_of_get? held
    rw [(shows.invalidate sound m).1]
    exact Cache.mem_invalidate_of_path linked.anchored (Cache.contains_name member) path
  constructor
  · intro x n m held embeds
    by_cases current : ∀ k, n.Between k m → g.get? k.name = some k
    · refine .inl (gives x n m.name held ?_)
      have member := (Cache.mem_of_get? ((found x).symm.trans held)).1
      refine Cache.path_of_embeds linked member embeds fun k between => ?_
      exact (Cache.mem_of_get? ((found k.name).symm.trans (current k between))).1
    · exact .inr (by simpa using current)
  · intro identified steadfast x n m held embeds
    have member := (Cache.mem_of_get? ((found x).symm.trans held)).1
    exact gives x n m.name held (reaching_run steps identified steadfast n member m embeds)

/-! ## A node in the middle -/

def leaf : Node String := ⟨0, "leaf", "leaf", []⟩

def middle : Node String := ⟨1, "middle", "middle with leaf", [leaf]⟩

def top : Node String := ⟨2, "top", "top with middle with leaf", [middle]⟩

/-- Another node of the name in the middle. -/
def newer (dependencies : List (Node String)) : Node String := ⟨3, "middle", "new", dependencies⟩

/-- Three nodes, each built on the one before, and then a newer one in the middle. -/
def renewal (dependencies : List (Node String)) : List (Cache.Step String) :=
  [.put leaf, .put middle, .put top, .put (newer dependencies)]

theorem identified_renewal {dependencies : List (Node String)} (old : dependencies ⊆ [leaf]) :
    Identified (renewal dependencies) := by
  have closed : ∀ n ∈ [leaf, middle, top, newer dependencies], ∀ d ∈ n.dependencies,
      d ∈ [leaf, middle, top, newer dependencies] := by
    simp only [List.forall_mem_cons]
    refine ⟨by simp [leaf], by simp [middle], by simp [top], fun d built => ?_, by simp⟩
    obtain rfl := List.mem_singleton.1 (old built)
    exact List.mem_cons_self
  exact .of_nodup (by simp [renewal]) closed (by simp [leaf, middle, top, newer])

theorem top_embeds_leaf : top.Embeds leaf :=
  .step (List.mem_singleton_self middle) (.of_mem (List.mem_singleton_self leaf))

theorem steadfast_renewal : Steadfast (renewal [leaf]) := by
  have built : Steadfast [.put leaf, .put middle, .put top] :=
    ((steadfast_nil.put_new (n := leaf) (by rfl)).put_new (n := middle) (by rfl)).put_new
      (n := top) (by rfl)
  have cached : ((empty : Graph String).run [.put leaf, .put middle, .put top]).get? "middle" =
    some middle := by rfl
  refine built.put (n := newer [leaf]) fun old found => ?_
  obtain rfl : middle = old := Option.some.inj (cached.symm.trans found)
  exact List.Subset.refl ["leaf"]

/-- The newer node is built from the leaf as the older one was, and the copy of the leaf in what was
built on the older one is within reach. -/
theorem invalidate_reaches_past_renewed :
    Identified (renewal [leaf]) ∧ Steadfast (renewal [leaf]) ∧
      ((empty : Graph String).run (renewal [leaf])).get? "top" = some top ∧ top.Embeds leaf ∧
        "top" ∈ (((empty : Graph String).run (renewal [leaf])).invalidate "leaf").1 := by
  have identified := identified_renewal (List.Subset.refl [leaf])
  have cached : ((empty : Graph String).run (renewal [leaf])).get? "top" = some top := by rfl
  exact ⟨identified, steadfast_renewal, cached, top_embeds_leaf, (invalidate_reaches _).2 identified
    steadfast_renewal "top" top leaf cached top_embeds_leaf⟩

/-- The newer node is built from nothing.  What was built on the older one still embeds the leaf,
but giving up the leaf does not reach it. -/
theorem not_reached_past_replaced :
    let g := (empty : Graph String).run (renewal [])
    Identified (renewal []) ∧ g.get? "top" = some top ∧ top.Embeds leaf ∧
      g.get? "leaf" = some leaf ∧ (g.invalidate "leaf").1 = ["leaf"] := by
  intro g
  refine ⟨identified_renewal (List.nil_subset _), by rfl, top_embeds_leaf, by rfl, ?_⟩
  have walked : g.invalidate "leaf" = g.walk [] [0] := by rfl
  have held : g.node? 0 = some leaf := by rfl
  have bare : g.sources 0 = [] := by rfl
  rw [walked, walk_of_some (by simp) held, bare, List.reverse_nil, List.nil_append, walk]
  rfl

end Graph

end Collage
