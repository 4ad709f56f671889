import Collage.Proofs.Artifact.Definitions
import Collage.Template.Engine

/-! # The order of inclusions

What is included under a reference has the word on it, wherever it stands among the inclusions.  The
order of the inclusions only counts for a name that two of them bring along with different sources,
while nothing is included under it and nothing was there before (`Draft.Contested`): of such a name
the first companion is taken.  All other names have the same definitions in every order
(`Draft.mergeAll_order`).
-/

namespace Collage

/-! ## Entries in another order -/

namespace Sorted

variable {α : Type} {entries others : List (String × α)} {name key : String} {value : α}

theorem lookup_eq_some_iff (distinct : (entries.map (·.1)).Nodup) :
    entries.lookup name = some value ↔ (name, value) ∈ entries := by
  induction entries with
  | nil => simp
  | cons entry rest ih =>
    obtain ⟨key, first⟩ := entry
    obtain ⟨absent, distinct⟩ := List.nodup_cons.1 distinct
    rw [lookup_cons_ite, List.mem_cons, Prod.mk.injEq]
    by_cases same : name = key
    · subst same
      have later : (name, value) ∉ rest := fun member =>
        absent (List.mem_map.2 ⟨(name, value), member, rfl⟩)
      simp [later, eq_comm]
    · simpa [same] using ih distinct

/-- Where no key is repeated, the order of the entries does not matter. -/
theorem lookup_perm (distinct : (entries.map (·.1)).Nodup) (perm : others.Perm entries)
    (name : String) : others.lookup name = entries.lookup name := by
  have distinct' : (others.map (·.1)).Nodup := (perm.map (·.1)).nodup_iff.2 distinct
  refine Option.ext fun value => ?_
  rw [lookup_eq_some_iff distinct', lookup_eq_some_iff distinct, perm.mem_iff]

theorem Ordered.lookup_eq_none (ordered : Ordered ((key, value) :: entries)) (le : name ≤ key) :
    entries.lookup name = none := by
  rw [lookup_eq_none_iff]
  intro member
  exact String.not_lt.2 le ((List.pairwise_cons.1 ordered).1 name member)

/-- The least key of some entries is no more than that of others that have it. -/
theorem Ordered.le_of_lookup {key' : String} {value' : α}
    (ordered : Ordered ((key', value') :: others))
    (found : (((key', value') :: others).lookup key).isSome = true) : key' ≤ key := by
  refine String.not_lt.1 fun before => ?_
  have ne : key ≠ key' := by
    rintro rfl
    exact String.lt_irrefl key before
  rw [lookup_cons_ite, if_neg ne,
    ordered.lookup_eq_none (String.not_lt.1 (String.lt_asymm before))] at found
  cases found

/-- Entries in order are told by what is found in them. -/
theorem Ordered.ext (ordered : Ordered entries) (ordered' : Ordered others)
    (same : ∀ name, entries.lookup name = others.lookup name) : entries = others := by
  induction entries generalizing others with
  | nil =>
    cases others with
    | nil => rfl
    | cons entry rest =>
      obtain ⟨key, value⟩ := entry
      simpa using same key
  | cons entry rest ih =>
    obtain ⟨key, value⟩ := entry
    cases others with
    | nil => simpa using same key
    | cons entry' rest' =>
      obtain ⟨key', value'⟩ := entry'
      have least : key' ≤ key := ordered'.le_of_lookup (by simp [← same])
      have least' : key ≤ key' := ordered.le_of_lookup (by simp [same])
      obtain rfl := String.le_antisymm least least'
      obtain rfl : value = value' := by simpa using same key'
      refine congrArg _ (ih (List.pairwise_cons.1 ordered).2 (List.pairwise_cons.1 ordered').2 ?_)
      intro name
      by_cases here : name = key'
      · subst here
        rw [ordered.lookup_eq_none (String.le_refl _), ordered'.lookup_eq_none (String.le_refl _)]
      · simpa [lookup_cons_ite, here] using same name

end Sorted

/-- Where no two items give different answers, the answer of a list is that of any of its items. -/
theorem findSome?_eq_some_iff_of_agree {α β : Type} {f : α → Option β} {items : List α} {answer : β}
    (agree : ∀ x ∈ items, ∀ y ∈ items, ∀ a ∈ f x, ∀ b ∈ f y, a = b) :
    items.findSome? f = some answer ↔ ∃ x ∈ items, f x = some answer := by
  refine ⟨List.exists_of_findSome?_eq_some, ?_⟩
  rintro ⟨x, member, found⟩
  have some : (items.findSome? f).isSome = true :=
    List.findSome?_isSome_iff.2 ⟨x, member, by rw [found]; rfl⟩
  obtain ⟨other, eq⟩ := Option.isSome_iff_exists.1 some
  obtain ⟨y, member', found'⟩ := List.exists_of_findSome?_eq_some eq
  rw [eq, agree y member' x member other found' answer found]

/-! ## Merges that keep order -/

namespace Artifact

theorem ordered_foldl_addCompanion {definitions companions : List (String × String)}
    (ordered : Sorted.Ordered definitions) :
    Sorted.Ordered (companions.foldl addCompanion definitions) := by
  induction companions generalizing definitions with
  | nil => exact ordered
  | cons entry rest ih =>
    refine ih ?_
    unfold addCompanion
    split
    · exact ordered
    · exact Sorted.ordered_insert ordered

/-- A merge changes the definitions, keeps them in order, and undoes the compilation. -/
theorem of_merge {a b other : Artifact} {reference : String}
    (merged : a.merge other reference = .ok b) :
    b.tools = a.tools ∧ b.compiled = none ∧
      (Sorted.Ordered a.definitions → Sorted.Ordered b.definitions) := by
  unfold merge at merged
  split at merged
  · cases merged
  · cases merged
    exact ⟨rfl, rfl, fun ordered => ordered_foldl_addCompanion (Sorted.ordered_insert ordered)⟩

end Artifact

namespace Draft

variable {a b base : Artifact} {inclusions others : List (String × Node Artifact)} {name : String}

theorem of_mergeAll (merged : mergeAll a inclusions = .ok b) :
    b.tools = a.tools ∧ (inclusions = [] ∧ b = a ∨ inclusions ≠ [] ∧ b.compiled = none) ∧
      (Sorted.Ordered a.definitions → Sorted.Ordered b.definitions) := by
  induction inclusions generalizing a with
  | nil =>
    cases merged
    exact ⟨rfl, .inl ⟨rfl, rfl⟩, id⟩
  | cons first rest ih =>
    obtain ⟨reference, node⟩ := first
    rw [mergeAll] at merged
    cases step : a.merge node.artifact reference with
    | error cause =>
      rw [step] at merged
      cases merged
    | ok a' =>
      rw [step] at merged
      obtain ⟨tools, compiled, ordered⟩ := Artifact.of_merge step
      obtain ⟨tools', compiled', ordered'⟩ := ih merged
      refine ⟨tools'.trans tools, .inr ⟨List.cons_ne_nil _ _, ?_⟩, ordered' ∘ ordered⟩
      rcases compiled' with ⟨-, rfl⟩ | ⟨-, compiled'⟩
      · exact compiled
      · exact compiled'

/-- Inclusions that are declared by what they refer to can all be merged. -/
theorem exists_mergeAll (declared : ∀ i ∈ inclusions, (i.2.artifact.definition? i.1).isSome = true)
    (base : Artifact) : ∃ a, mergeAll base inclusions = .ok a := by
  induction inclusions generalizing base with
  | nil => exact ⟨base, rfl⟩
  | cons first rest ih =>
    obtain ⟨reference, node⟩ := first
    obtain ⟨here, later⟩ := List.forall_mem_cons.1 declared
    obtain ⟨source, found⟩ := Option.isSome_iff_exists.1 here
    simp only [mergeAll, Artifact.merge, found]
    exact ih later _

/-! ## Names that inclusions contend for -/

/-- Two inclusions bring different companions of a name along, nothing is included under it, and
there is no definition of it before. -/
def Contested (base : Artifact) (inclusions : List (String × Node Artifact)) (name : String) :
    Prop :=
  name ∉ inclusions.map (·.1) ∧ base.definition? name = none ∧
    ∃ i ∈ inclusions, ∃ j ∈ inclusions, ∃ source ∈ i.2.artifact.companion? name,
      ∃ other ∈ j.2.artifact.companion? name, source ≠ other

/-- Of a contested name the first companion is taken. -/
theorem definition?_of_contested (distinct : (inclusions.map (·.1)).Nodup)
    (merged : mergeAll base inclusions = .ok a) (contested : Contested base inclusions name) :
    a.definition? name = inclusions.findSome? fun i => i.2.artifact.companion? name := by
  obtain ⟨free, bare, -⟩ := contested
  rw [(definition?_mergeAll distinct merged).2.2, Sorted.lookup_eq_none_iff.2 free, bare,
    Option.none_or]

theorem Contested.perm (contested : Contested base inclusions name)
    (perm : others.Perm inclusions) : Contested base others name := by
  obtain ⟨free, bare, i, first, j, second, differ⟩ := contested
  exact ⟨fun member => free ((perm.map (·.1)).mem_iff.1 member), bare, i, perm.mem_iff.2 first, j,
    perm.mem_iff.2 second, differ⟩

/-- A name that is not contested has the same definition in every order. -/
theorem definition?_perm (distinct : (inclusions.map (·.1)).Nodup) (perm : others.Perm inclusions)
    (merged : mergeAll base inclusions = .ok a) (merged' : mergeAll base others = .ok b)
    (settled : ¬ Contested base inclusions name) : b.definition? name = a.definition? name := by
  have distinct' : (others.map (·.1)).Nodup := (perm.map (·.1)).nodup_iff.2 distinct
  rw [(definition?_mergeAll distinct merged).2.2, (definition?_mergeAll distinct' merged').2.2,
    Sorted.lookup_perm distinct perm]
  cases found : inclusions.lookup name with
  | some node => rfl
  | none =>
    cases known : base.definition? name with
    | some source => rfl
    | none =>
      -- Now only companions have a word, and they agree.
      have agree : ∀ i ∈ inclusions, ∀ j ∈ inclusions, ∀ source ∈ i.2.artifact.companion? name,
          ∀ other ∈ j.2.artifact.companion? name, source = other := by
        intro i first j second source brings other brings'
        exact Decidable.byContradiction fun differ => settled
          ⟨Sorted.lookup_eq_none_iff.1 found, known, i, first, j, second, source, brings, other,
            brings', differ⟩
      refine Option.ext fun source => ?_
      simp only [Option.none_or]
      have agree' := fun i first j second =>
        agree i (perm.mem_iff.1 first) j (perm.mem_iff.1 second)
      rw [findSome?_eq_some_iff_of_agree agree, findSome?_eq_some_iff_of_agree agree']
      simp only [perm.mem_iff]

/-- Where no name is contested, all orders come to one artifact. -/
theorem eq_of_perm (distinct : (inclusions.map (·.1)).Nodup) (perm : others.Perm inclusions)
    (merged : mergeAll base inclusions = .ok a) (merged' : mergeAll base others = .ok b)
    (ordered : Sorted.Ordered base.definitions)
    (settled : ∀ name, ¬ Contested base inclusions name) : b = a := by
  have distinct' : (others.map (·.1)).Nodup := (perm.map (·.1)).nodup_iff.2 distinct
  have name : b.name = a.name :=
    (definition?_mergeAll distinct' merged').1.trans (definition?_mergeAll distinct merged).1.symm
  obtain ⟨tools, compiled, sorted⟩ := of_mergeAll merged
  obtain ⟨tools', compiled', sorted'⟩ := of_mergeAll merged'
  have definitions : b.definitions = a.definitions :=
    (sorted' ordered).ext (sorted ordered) fun name =>
      definition?_perm distinct perm merged merged' (settled name)
  have compilation : b.compiled = a.compiled := by
    rcases compiled with ⟨none, rfl⟩ | ⟨some, compiled⟩
    · rcases compiled' with ⟨-, rfl⟩ | ⟨some, -⟩
      · rfl
      · subst none
        exact absurd (List.perm_nil.1 perm) some
    · rcases compiled' with ⟨none, -⟩ | ⟨-, compiled'⟩
      · subst none
        exact absurd (List.nil_perm.1 perm) some
      · rw [compiled, compiled']
  obtain ⟨_, _, _, _⟩ := a
  obtain ⟨_, _, _, _⟩ := b
  simp only at name definitions tools tools' compilation
  rw [name, definitions, tools', tools, compilation]

/-- For a contested name two orders come to different definitions. -/
theorem Contested.exists_perm (contested : Contested base inclusions name)
    (distinct : (inclusions.map (·.1)).Nodup)
    (declared : ∀ i ∈ inclusions, (i.2.artifact.definition? i.1).isSome = true)
    (given : Option String) :
    ∃ others b, others.Perm inclusions ∧ mergeAll base others = .ok b ∧
      b.definition? name ≠ given := by
  -- An inclusion that is put to the front has the word.
  have front : ∀ i ∈ inclusions, ∀ source ∈ i.2.artifact.companion? name,
      ∃ others b, others.Perm inclusions ∧ mergeAll base others = .ok b ∧
        b.definition? name = some source := by
    intro i member source brings
    obtain ⟨before, after, rfl⟩ := List.append_of_mem member
    have perm : (i :: (before ++ after)).Perm (before ++ i :: after) := List.perm_middle.symm
    have distinct' := (perm.map (·.1)).nodup_iff.2 distinct
    obtain ⟨b, merged⟩ := exists_mergeAll (fun j inside => declared j (perm.mem_iff.1 inside)) base
    refine ⟨_, b, perm, merged, ?_⟩
    rw [definition?_of_contested distinct' merged (contested.perm perm), List.findSome?_cons,
      Option.mem_def.1 brings]
  obtain ⟨-, -, i, first, j, second, source, brings, other, brings', differ⟩ := contested
  by_cases taken : given = some source
  · obtain ⟨others, b, perm, merged, found⟩ := front j second other brings'
    refine ⟨others, b, perm, merged, ?_⟩
    rw [found, taken]
    simpa using Ne.symm differ
  · obtain ⟨others, b, perm, merged, found⟩ := front i first source brings
    exact ⟨others, b, perm, merged, fun same => taken (same ▸ found)⟩

/-- Inclusions under different references, each of which declares its own, can be merged in any
order.  All orders give the same definitions but for the names that are contested; of such a name
each order takes its own first companion, and there are orders in which that differs. -/
theorem mergeAll_order (base : Artifact) (inclusions : List (String × Node Artifact))
    (distinct : (inclusions.map (·.1)).Nodup)
    (declared : ∀ i ∈ inclusions, (i.2.artifact.definition? i.1).isSome = true) :
    ∃ a, mergeAll base inclusions = .ok a ∧
      (∀ others, others.Perm inclusions → ∃ b, mergeAll base others = .ok b ∧
        (∀ name, ¬ Contested base inclusions name → b.definition? name = a.definition? name) ∧
        (∀ name, Contested base inclusions name →
          b.definition? name = others.findSome? fun i => i.2.artifact.companion? name) ∧
        (Sorted.Ordered base.definitions → (∀ name, ¬ Contested base inclusions name) → b = a)) ∧
      ∀ name, Contested base inclusions name → ∃ others b, others.Perm inclusions ∧
        mergeAll base others = .ok b ∧ b.definition? name ≠ a.definition? name := by
  obtain ⟨a, merged⟩ := exists_mergeAll declared base
  refine ⟨a, merged, ?_, fun name contested => contested.exists_perm distinct declared _⟩
  intro others perm
  obtain ⟨b, merged'⟩ := exists_mergeAll (fun i member => declared i (perm.mem_iff.1 member)) base
  exact ⟨b, merged', fun name => definition?_perm distinct perm merged merged',
    fun name contested => definition?_of_contested ((perm.map (·.1)).nodup_iff.2 distinct) merged'
      (contested.perm perm),
    eq_of_perm distinct perm merged merged'⟩

/-- Two parts that each bring an icon of their own: whichever is merged first has its icon taken. -/
theorem mergeAll_order_of_icons :
    let header : Artifact := ⟨"header", [("@header", "H"), ("icon", "h")], .empty, none⟩
    let footer : Artifact := ⟨"footer", [("@footer", "F"), ("icon", "f")], .empty, none⟩
    let inclusions := [("@header", (⟨0, "header", header, []⟩ : Node Artifact)),
      ("@footer", ⟨1, "footer", footer, []⟩)]
    ∃ a, mergeAll (.new "page" .empty) inclusions = .ok a ∧
      ∃ b, mergeAll (.new "page" .empty) inclusions.reverse = .ok b ∧
        ∀ name, ¬ Contested (.new "page" .empty) inclusions name →
          b.definition? name = a.definition? name := by
  intro header footer inclusions
  obtain ⟨a, merged, orders, -⟩ := mergeAll_order (.new "page" .empty) inclusions (by decide)
    (by decide)
  obtain ⟨b, merged', same, -⟩ := orders inclusions.reverse (List.reverse_perm _)
  exact ⟨a, merged, b, merged', same⟩

/-- The icon of a page with such parts is that of the part that is merged first. -/
theorem mergeAll_differs_of_icons :
    ∃ header footer a b : Artifact,
      (Artifact.new "header" .empty).parse OutputKind.text.escaping
        ("\x7b\x7b define \"@header\" \x7d\x7dH\x7b\x7b end \x7d\x7d" ++
          "\x7b\x7b define \"icon\" \x7d\x7dh\x7b\x7b end \x7d\x7d") = .ok header ∧
      (Artifact.new "footer" .empty).parse OutputKind.text.escaping
        ("\x7b\x7b define \"@footer\" \x7d\x7dF\x7b\x7b end \x7d\x7d" ++
          "\x7b\x7b define \"icon\" \x7d\x7df\x7b\x7b end \x7d\x7d") = .ok footer ∧
      let inclusions := [("@header", (⟨0, "header", header, []⟩ : Node Artifact)),
        ("@footer", ⟨1, "footer", footer, []⟩)]
      (∀ i ∈ inclusions, (i.2.artifact.definition? i.1).isSome = true) ∧
        mergeAll (.new "page" .empty) inclusions = .ok a ∧
        mergeAll (.new "page" .empty) inclusions.reverse = .ok b ∧
        a.definition? "icon" = some "h" ∧ b.definition? "icon" = some "f" := by
  have parses : ∀ name text,
      ((Artifact.new name .empty).parse OutputKind.text.escaping text).toBool = true →
      ∃ a, (Artifact.new name .empty).parse OutputKind.text.escaping text = .ok a ∧ a.name = name ∧
        ∀ k, a.definition? k = ((Artifact.new name .empty).define text).lookup k := by
    intro name text finished
    cases parsed : (Artifact.new name .empty).parse OutputKind.text.escaping text with
    | error e =>
      rw [parsed] at finished
      cases finished
    | ok a => exact ⟨a, rfl, Artifact.definition?_parse parsed⟩
  obtain ⟨header, parsed, named, definitions⟩ := parses "header"
    ("\x7b\x7b define \"@header\" \x7d\x7dH\x7b\x7b end \x7d\x7d" ++
      "\x7b\x7b define \"icon\" \x7d\x7dh\x7b\x7b end \x7d\x7d") (by decide +kernel)
  obtain ⟨footer, parsed', named', definitions'⟩ := parses "footer"
    ("\x7b\x7b define \"@footer\" \x7d\x7dF\x7b\x7b end \x7d\x7d" ++
      "\x7b\x7b define \"icon\" \x7d\x7df\x7b\x7b end \x7d\x7d") (by decide +kernel)
  have part : header.definition? "@header" = some "H" := (definitions _).trans (by decide +kernel)
  have part' : footer.definition? "@footer" = some "F" := (definitions' _).trans (by decide +kernel)
  have icon : header.companion? "icon" = some "h" := by
    rw [Artifact.companion?, named, if_neg (by decide), definitions]
    decide +kernel
  have icon' : footer.companion? "icon" = some "f" := by
    rw [Artifact.companion?, named', if_neg (by decide), definitions']
    decide +kernel
  have declared : ∀ i ∈ [("@header", (⟨0, "header", header, []⟩ : Node Artifact)),
      ("@footer", ⟨1, "footer", footer, []⟩)], (i.2.artifact.definition? i.1).isSome = true := by
    simp [part, part']
  obtain ⟨a, merged⟩ := exists_mergeAll declared (.new "page" .empty)
  obtain ⟨b, merged'⟩ := exists_mergeAll (fun i member => declared i (List.mem_reverse.1 member))
    (.new "page" .empty)
  refine ⟨header, footer, a, b, parsed, parsed', declared, merged, merged', ?_, ?_⟩
  · rw [(definition?_mergeAll (by simp) merged).2.2]
    simp [Sorted.lookup_cons_ite, Artifact.definition?, Artifact.new, icon]
  · rw [(definition?_mergeAll (by simp) merged').2.2]
    simp [Sorted.lookup_cons_ite, Artifact.definition?, Artifact.new, icon']

end Draft

end Collage
