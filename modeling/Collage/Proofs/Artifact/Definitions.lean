import Collage.Resolution

/-! # The definitions of an artifact

What each step of putting an artifact together does to the source of a single name.  Definitions of
a text override those that are there (`Artifact.definition?_define`), an included definition
overrides those that came before it and its companions fill what is missing
(`Artifact.definition?_merge`), and so do several of them one after the other
(`Draft.definition?_mergeAll`).
-/

namespace Collage

theorem Sorted.lookup_eq_none_iff {α : Type} {entries : List (String × α)} {name : String} :
    entries.lookup name = none ↔ name ∉ entries.map (·.1) := by
  rw [List.lookup_eq_none_iff]
  constructor
  · intro others member
    obtain ⟨entry, inside, rfl⟩ := List.mem_map.1 member
    simpa using others entry inside
  · intro absent entry inside
    have other : name ≠ entry.1 := fun same => absent (List.mem_map.2 ⟨entry, inside, same.symm⟩)
    simpa using other

namespace Artifact

/-- What an artifact brings along for a name when something else of it is merged: its root stays
behind. -/
def companion? (a : Artifact) (name : String) : Option String :=
  if name = a.name then none else a.definition? name

/-! ## Merging -/

theorem lookup_addCompanion (definitions : List (String × String)) (entry : String × String)
    (name : String) :
    (addCompanion definitions entry).lookup name =
      (definitions.lookup name).or (if name = entry.1 then some entry.2 else none) := by
  unfold addCompanion
  split
  · next known =>
    obtain ⟨source, found⟩ := Option.isSome_iff_exists.1 known
    by_cases same : name = entry.1
    · subst same
      simp [found]
    · simp [same]
  · next missing =>
    have absent : definitions.lookup entry.1 = none := Option.not_isSome_iff_eq_none.1 missing
    rw [Sorted.lookup_insert]
    by_cases same : name = entry.1
    · subst same
      simp [absent]
    · simp [same]

theorem lookup_foldl_addCompanion (definitions companions : List (String × String))
    (name : String) :
    (companions.foldl addCompanion definitions).lookup name =
      (definitions.lookup name).or (companions.lookup name) := by
  induction companions generalizing definitions with
  | nil => simp
  | cons entry rest ih =>
    rw [List.foldl_cons, ih, lookup_addCompanion, Sorted.lookup_cons_ite, Option.or_assoc]
    congr 1
    split <;> simp

/-- A merge puts one definition over what was there and the companions beneath it. -/
theorem definition?_merge {a b other : Artifact} {reference : String}
    (merged : a.merge other reference = .ok b) :
    b.name = a.name ∧ (other.definition? reference).isSome = true ∧
      ∀ name, b.definition? name =
        if name = reference then other.definition? reference
        else (a.definition? name).or (other.companion? name) := by
  unfold merge at merged
  cases found : other.definition? reference with
  | none =>
    rw [found] at merged
    cases merged
  | some source =>
    rw [found] at merged
    cases merged
    refine ⟨rfl, rfl, ?_⟩
    intro name
    simp only [definition?, companion?, lookup_foldl_addCompanion, Sorted.lookup_insert,
      Sorted.lookup_filter]
    split <;> simp

/-! ## Parsing -/

theorem lookup_foldl_insert (definitions blocks : List (String × String)) (name : String) :
    (blocks.foldl (fun ds block => Sorted.insert block.1 block.2 ds) definitions).lookup name =
      (blocks.reverse.lookup name).or (definitions.lookup name) := by
  induction blocks generalizing definitions with
  | nil => simp
  | cons block rest ih =>
    rw [List.foldl_cons, ih, Sorted.lookup_insert, List.reverse_cons, List.lookup_append,
      Option.or_assoc, Sorted.lookup_cons_ite]
    congr 1
    split <;> simp

/-- The definition of a name once the define blocks of a text were put in: the last one counts. -/
def overlaid? (a : Artifact) (text : String) (name : String) : Option String :=
  ((Lowering.lower text).2.reverse.lookup name).or (a.definition? name)

/-- The root becomes the body of the text, unless that is blank and there is a root; the other names
only see the define blocks. -/
theorem definition?_define (a : Artifact) (text name : String) :
    (a.define text).lookup name =
      if name = a.name ∧
          (Lowering.isBlank (Lowering.lower text).1 = false ∨ a.overlaid? text a.name = none) then
        some (Lowering.lower text).1
      else a.overlaid? text name := by
  have overlaid : ∀ other,
      ((Lowering.lower text).2.foldl (fun ds block => Sorted.insert block.1 block.2 ds)
        a.definitions).lookup other = a.overlaid? text other := by
    intro other
    rw [lookup_foldl_insert, overlaid?, definition?]
  simp only [define, overlaid]
  cases blank : Lowering.isBlank (Lowering.lower text).1 with
  | false => simp [Sorted.lookup_insert, overlaid]
  | true =>
    cases root : a.overlaid? text a.name with
    | none => simp [Sorted.lookup_insert, overlaid]
    | some source => simp [overlaid]

/-- Whatever a text holds, after it there is a root. -/
theorem isSome_root_define (a : Artifact) (text : String) :
    ((a.define text).lookup a.name).isSome = true := by
  rw [definition?_define]
  split
  · rfl
  · next kept =>
    rw [Option.isSome_iff_ne_none]
    exact fun missing => kept ⟨rfl, .inr missing⟩

/-- A parse that succeeds has put the definitions in and compiled them. -/
theorem of_parse {a b : Artifact} {escaping : Escaping} {text : String}
    (parsed : a.parse escaping text = .ok b) :
    ∃ compiled,
      a.tools.engine.compile escaping a.tools.library (a.define text) = .ok compiled ∧
        b = { a with definitions := a.define text, compiled := some compiled } := by
  unfold parse at parsed
  cases made : a.tools.engine.compile escaping a.tools.library (a.define text) with
  | error causes =>
    simp only [made] at parsed
    cases parsed
  | ok compiled =>
    simp only [made] at parsed
    cases parsed
    exact ⟨compiled, rfl, rfl⟩

theorem definition?_parse {a b : Artifact} {escaping : Escaping} {text : String}
    (parsed : a.parse escaping text = .ok b) :
    b.name = a.name ∧ ∀ name, b.definition? name = (a.define text).lookup name := by
  obtain ⟨compiled, -, rfl⟩ := of_parse parsed
  exact ⟨rfl, fun _ => rfl⟩

end Artifact

/-! ## Several merges -/

namespace Draft

/-- After several merges an included name has the definition that was asked for under it; any other
name has the one it had, or else that of the first companion. -/
theorem definition?_mergeAll {a b : Artifact} {inclusions : List (String × Node Artifact)}
    (distinct : (inclusions.map (·.1)).Nodup) (merged : mergeAll a inclusions = .ok b) :
    b.name = a.name ∧
      (∀ i ∈ inclusions, (i.2.artifact.definition? i.1).isSome = true) ∧
      ∀ name, b.definition? name =
        match inclusions.lookup name with
        | some node => node.artifact.definition? name
        | none =>
          (a.definition? name).or (inclusions.findSome? fun i => i.2.artifact.companion? name) := by
  induction inclusions generalizing a with
  | nil =>
    cases merged
    simp
  | cons first rest ih =>
    obtain ⟨reference, node⟩ := first
    rw [List.map_cons, List.nodup_cons] at distinct
    rw [mergeAll] at merged
    cases step : a.merge node.artifact reference with
    | error cause =>
      rw [step] at merged
      cases merged
    | ok a' =>
      rw [step] at merged
      obtain ⟨named, declared, first⟩ := Artifact.definition?_merge step
      obtain ⟨named', declared', later⟩ := ih distinct.2 merged
      refine ⟨named'.trans named, ?_, ?_⟩
      · simpa [declared] using declared'
      · intro name
        rw [later, Sorted.lookup_cons_ite, List.findSome?_cons, first]
        by_cases same : name = reference
        · -- Its own definition is found, and no later merge asks for this name again.
          subst same
          have once : rest.lookup name = none := Sorted.lookup_eq_none_iff.2 distinct.1
          obtain ⟨source, found⟩ := Option.isSome_iff_exists.1 declared
          simp [once, found]
        · cases rest.lookup name with
          | some other => simp [same]
          | none =>
            simp only [same, if_false]
            rw [Option.or_assoc]
            cases node.artifact.companion? name <;> simp

end Draft

end Collage
