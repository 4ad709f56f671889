import Collage.Proofs.Artifact.Order
import Collage.Template.Engine
import Collage.Workbench

/-! # Compiled forms

An artifact is changed in place, and its definitions, the mark that it is compiled and what it was
compiled to are changed apart from one another.  A merge in place comes to what `Artifact.merge`
gives (`Artifact.run_absorb`), and made again it changes nothing (`Artifact.merge_again`).  Whatever
is done at a workbench, what an artifact was compiled to are its definitions as they are, and after
a merge there is nothing to execute until the artifact is parsed (`Workbench.run_current`).
-/

namespace Collage

namespace Artifact

variable {a b other : Artifact} {definition : String}

/-! ## Merging in place -/

/-- A change in place goes on from what the one before it left, unless that failed. -/
theorem run_bind {α β : Type} (change : ExceptT ArtifactError (StateM Artifact) α)
    (next : α → ExceptT ArtifactError (StateM Artifact) β) (a : Artifact) :
    (change >>= next).run.run a =
      match change.run.run a with
      | (.ok value, b) => (next value).run.run b
      | (.error e, b) => (.error e, b) := by
  change (StateT.run (ExceptT.run (change >>= next)) a) = _
  rw [ExceptT.run_bind, StateT.run_bind]
  rcases StateT.run (ExceptT.run change) a with ⟨e | value, b⟩ <;> rfl

theorem run_modify (change : Artifact → Artifact) (a : Artifact) :
    (modify change : ExceptT ArtifactError (StateM Artifact) Unit).run.run a = (.ok (), change a) :=
  rfl

theorem run_takeAlong (root : String) (entry : String × String) (a : Artifact) :
    (takeAlong root entry).run.run a =
      (.ok (), { a with
        definitions := if entry.1 ≠ root then addCompanion a.definitions entry
          else a.definitions }) := by
  have opened : (takeAlong root entry).run.run a =
      if entry.1 ≠ root ∧ a.definition? entry.1 = none then
        (.ok (), { a with definitions := Sorted.insert entry.1 entry.2 a.definitions })
      else (.ok (), a) := by
    unfold takeAlong
    rw [run_bind]
    change (ite _ _ _ : ExceptT ArtifactError (StateM Artifact) Unit).run.run a = _
    split <;> rfl
  rw [opened, addCompanion, definition?]
  by_cases isRoot : entry.1 = root
  · simp [isRoot]
  · cases a.definitions.lookup entry.1 <;> simp [isRoot]

/-- The companions of another artifact are added one after the other. -/
theorem run_forM_takeAlong (root : String) (entries : List (String × String)) (a : Artifact) :
    (entries.forM (takeAlong root)).run.run a =
      (.ok (), { a with
        definitions := (entries.filter (·.1 ≠ root)).foldl addCompanion a.definitions }) := by
  induction entries generalizing a with
  | nil => rfl
  | cons entry rest ih =>
    change (takeAlong root entry >>= fun _ => rest.forM (takeAlong root)).run.run a = _
    rw [run_bind, run_takeAlong]
    simp only [ih]
    by_cases isRoot : entry.1 = root
    · simp [isRoot]
    · simp [isRoot]

/-- A merge in place either comes to what `merge` gives, or it fails before anything is changed. -/
theorem run_absorb (a other : Artifact) (definition : String) :
    (absorb other definition).run.run a =
      match a.merge other definition with
      | .ok b => (.ok (), b)
      | .error e => (.error e, a) := by
  unfold absorb merge
  cases found : other.definition? definition with
  | none => rfl
  | some source =>
    simp only [run_bind, run_modify, run_forM_takeAlong]

/-- A merge changes nothing where its definition is there already and no companion is missing. -/
theorem merge_eq_self (declared : (other.definition? definition).isSome = true)
    (there : b.definition? definition = other.definition? definition)
    (companions : ∀ name, (other.companion? name).isSome = true →
      (b.definition? name).isSome = true)
    (bare : b.compiled = none) (ordered : Sorted.Ordered b.definitions) :
    b.merge other definition = .ok b := by
  obtain ⟨source, found⟩ := Option.isSome_iff_exists.1 declared
  obtain ⟨c, merged⟩ : ∃ c, b.merge other definition = .ok c := by simp [merge, found]
  obtain ⟨name, -, lookups⟩ := definition?_merge merged
  obtain ⟨tools, compiled, sorted⟩ := of_merge merged
  have definitions : c.definitions = b.definitions := by
    refine (sorted ordered).ext ordered fun name => (lookups name).trans ?_
    split
    · next same => exact same ▸ there.symm
    · next differs =>
      change (b.definition? name).or (other.companion? name) = b.definition? name
      cases brought : other.companion? name with
      | none => rw [Option.or_none]
      | some source =>
        obtain ⟨known, eq⟩ := Option.isSome_iff_exists.1 (companions name (by rw [brought]; rfl))
        rw [eq, Option.some_or]
  obtain ⟨_, _, _, _⟩ := b
  obtain ⟨_, _, _, _⟩ := c
  simp only at name tools compiled definitions bare
  rw [merged, name, tools, compiled, definitions, bare]

/-- A merge that is made again changes nothing, also if the artifact was merged into itself. -/
theorem merge_again (merged : a.merge other definition = .ok b)
    (ordered : Sorted.Ordered a.definitions) :
    b.merge other definition = .ok b ∧ b.merge b definition = .ok b := by
  obtain ⟨-, declared, lookups⟩ := definition?_merge merged
  obtain ⟨-, compiled, sorted⟩ := of_merge merged
  have there : b.definition? definition = other.definition? definition := by
    rw [lookups, if_pos rfl]
  constructor
  · refine merge_eq_self declared there (fun name brought => ?_) compiled (sorted ordered)
    rw [lookups]
    split
    · exact declared
    · rw [Option.isSome_or, brought, Bool.or_true]
  · refine merge_eq_self (there ▸ declared) rfl (fun name brought => ?_) compiled (sorted ordered)
    unfold companion? at brought
    split at brought
    · cases brought
    · exact brought

/-! ## What an artifact was compiled to -/

/-- What the definitions of the artifact, as they are, compile to: there are templates of their
names, and one of them is the root.  If they make a suite, its templates are read from their
sources. -/
structure CompiledTo (a : Artifact) (compiled : Compiled) : Prop where
  compile_eq : ∃ escaping,
    a.tools.engine.compile escaping a.tools.library a.definitions = .ok compiled
  names : compiled.names = Sorted.keys a.definitions
  root : (a.definition? a.name).isSome = true
  suite : a.tools.engine = Template.engine → ∃ suite : Template.Suite, compiled = suite.compiled ∧
    Template.Suite.compile suite.escaping a.tools.library a.definitions = .ok suite ∧
    ∀ name source, a.definition? name = some source →
      ∃ t, suite.templates.lookup name = some t ∧ Template.read name source = .ok t

/-- Definitions stand in order, and what they were compiled to is not out of date. -/
structure Settled (a : Artifact) : Prop where
  ordered : Sorted.Ordered a.definitions
  current : ∀ compiled, a.compiled = some compiled → a.CompiledTo compiled

theorem settled_new (name : String) (tools : Tools) : (new name tools).Settled :=
  ⟨.nil, fun _ compiled => by cases compiled⟩

theorem Settled.merge (settled : a.Settled) (merged : a.merge other definition = .ok b) :
    b.Settled := by
  obtain ⟨-, bare, sorted⟩ := of_merge merged
  exact ⟨sorted settled.ordered, fun _ compiled => by rw [bare] at compiled; cases compiled⟩

theorem ordered_define (ordered : Sorted.Ordered a.definitions) (text : String) :
    Sorted.Ordered (a.define text) := by
  have blocks : ∀ (blocks definitions : List (String × String)), Sorted.Ordered definitions →
      Sorted.Ordered (blocks.foldl (fun ds block => Sorted.insert block.1 block.2 ds)
        definitions) := by
    intro blocks
    induction blocks with
    | nil => exact fun _ => id
    | cons block rest ih => exact fun _ sorted => ih _ (Sorted.ordered_insert sorted)
  have defined := blocks (Lowering.lower text).2 a.definitions ordered
  unfold define
  simp only
  split
  · exact defined
  · exact Sorted.ordered_insert defined

/-- What the engine of suites compiles is a suite that is read from the sources. -/
theorem exists_suite {escaping : Escaping} {compiled : Compiled}
    (suites : a.tools.engine = Template.engine)
    (made : a.tools.engine.compile escaping a.tools.library a.definitions = .ok compiled) :
    ∃ suite : Template.Suite, compiled = suite.compiled ∧
      Template.Suite.compile suite.escaping a.tools.library a.definitions = .ok suite ∧
      ∀ name source, a.definition? name = some source →
        ∃ t, suite.templates.lookup name = some t ∧ Template.read name source = .ok t := by
  rw [suites] at made
  obtain ⟨suite, given, rfl⟩ := Template.exists_suite made
  obtain ⟨escapes, -, readable⟩ := Template.Suite.of_compile given
  exact ⟨suite, rfl, escapes ▸ given, (Template.Suite.of_readAll readable).2⟩

theorem Settled.parse {escaping : Escaping} {text : String} (settled : a.Settled)
    (parsed : a.parse escaping text = .ok b) : b.Settled := by
  obtain ⟨compiled, made, rfl⟩ := of_parse parsed
  refine ⟨ordered_define settled.ordered text, fun other same => ?_⟩
  obtain rfl : compiled = other := Option.some.inj same
  exact ⟨⟨escaping, made⟩, a.tools.engine.names_compile made, isSome_root_define a text,
    fun suites => exists_suite suites made⟩

/-- Execution finds nothing to execute just in an artifact that is not compiled. -/
theorem execute_eq_incomplete_iff (a : Artifact) (data : Json) :
    (a.execute data).2 = some (.incomplete a.name) ↔ a.compiled = none := by
  unfold execute
  cases a.compiled with
  | none => simp
  | some compiled =>
    unfold fieldsOf
    cases data with
    | null => simp
    | object fields => simp
    | _ => simp

theorem execute_of_bare (bare : a.compiled = none) (data : Json) :
    a.execute data = ("", some (.incomplete a.name)) := by
  simp only [execute, bare]

end Artifact

/-! ## Workbenches -/

namespace Workbench

variable {b : Workbench} {slot origin definition : String} {a other : Artifact}
  {e : ArtifactError} {task : Task}

@[simp] theorem get?_put (b : Workbench) (slot other : String) (a : Artifact) :
    (b.put slot a).get? other = if other = slot then some a else b.get? other :=
  Sorted.lookup_insert slot other a b.slots

/-- What is there already can be put there again. -/
theorem get?_put_same (held : b.get? slot = some a) (other : String) :
    (b.put slot a).get? other = b.get? other := by
  rw [get?_put]
  split
  · next here => rw [here, held]
  · rfl

/-- A merge needs both of its slots, and changes the one as the artifact in it is changed. -/
theorem perform_merge (held : b.get? slot = some a) (held' : b.get? origin = some other) :
    b.perform (.merge slot origin definition) =
      match a.merge other definition with
      | .ok c => (.done, b.put slot c)
      | .error e => (.refused e, b.put slot a) := by
  simp only [perform, held, held', Artifact.run_absorb]
  cases a.merge other definition <;> rfl

/-- A merge is done or refused by the artifacts in its slots, if there are such. -/
theorem merge_cases (b : Workbench) (slot origin definition : String) :
    (∃ a other c, b.get? slot = some a ∧ b.get? origin = some other ∧
      a.merge other definition = .ok c ∧
      b.perform (.merge slot origin definition) = (.done, b.put slot c)) ∨
    (∃ a e, b.get? slot = some a ∧
      b.perform (.merge slot origin definition) = (.refused e, b.put slot a)) ∨
    b.perform (.merge slot origin definition) = (.vacant, b) := by
  cases held : b.get? slot with
  | none => exact .inr (.inr (by simp only [perform, held]))
  | some a =>
    cases held' : b.get? origin with
    | none => exact .inr (.inr (by simp only [perform, held, held']))
    | some other =>
      have merge : b.perform (.merge slot origin definition) = _ := perform_merge held held'
      cases merged : a.merge other definition with
      | ok c => exact .inl ⟨a, other, c, rfl, rfl, merged, by rw [merge, merged]⟩
      | error e => exact .inr (.inl ⟨a, e, rfl, by rw [merge, merged]⟩)

/-- A task puts an artifact in its slot. -/
inductive Puts (b : Workbench) : Task → String → Artifact → Prop where
  | created (slot name : String) (tools : Tools) :
      b.Puts (.create slot name tools) slot (.new name tools)
  | copied {slot origin : String} {a : Artifact} (held : b.get? origin = some a) :
      b.Puts (.copy slot origin) slot a
  | merged {slot origin definition : String} {a other c : Artifact} (held : b.get? slot = some a)
      (merged : a.merge other definition = .ok c) : b.Puts (.merge slot origin definition) slot c
  | parsed {escaping : Escaping} {slot text : String} {a c : Artifact}
      (held : b.get? slot = some a) (parsed : a.parse escaping text = .ok c)
      (done : (b.perform (.parse escaping slot text)).1 = .done) :
      b.Puts (.parse escaping slot text) slot c

/-- A task puts an artifact in one slot, or it changes none. -/
theorem perform_cases (b : Workbench) (task : Task) :
    (∀ slot, (b.perform task).2.get? slot = b.get? slot) ∨
      ∃ slot a, b.Puts task slot a ∧ (b.perform task).2 = b.put slot a := by
  cases task with
  | create slot name tools => exact .inr ⟨slot, _, .created slot name tools, rfl⟩
  | copy slot origin =>
    cases held : b.get? origin with
    | none => exact .inl fun _ => by simp only [perform, held]
    | some a => exact .inr ⟨slot, a, .copied held, by simp only [perform, held]⟩
  | merge slot origin definition =>
    obtain ⟨a, other, c, held, -, merged, eq⟩ | ⟨a, e, held, eq⟩ | eq :=
      merge_cases b slot origin definition
    · exact .inr ⟨slot, c, .merged held merged, by rw [eq]⟩
    · exact .inl fun other => by rw [eq, get?_put_same held]
    · exact .inl fun _ => by rw [eq]
  | parse escaping slot text =>
    cases held : b.get? slot with
    | none => exact .inl fun _ => by simp only [perform, held]
    | some a =>
      cases parsed : a.parse escaping text with
      | error e => exact .inl fun _ => by simp only [perform, held, parsed]
      | ok c =>
        have eq : b.perform (.parse escaping slot text) = (.done, b.put slot c) := by
          simp only [perform, held, parsed]
        exact .inr ⟨slot, c, .parsed held parsed (by rw [eq]), by rw [eq]⟩
  | execute slot data =>
    refine .inl fun _ => ?_
    cases held : b.get? slot with
    | none => simp only [perform, held]
    | some a => simp only [perform, held]

/-! ## Artifacts stay settled -/

/-- All artifacts of a workbench are settled. -/
def Sound (b : Workbench) : Prop := ∀ slot a, b.get? slot = some a → a.Settled

theorem sound_empty : empty.Sound := by
  intro slot a held
  cases held

theorem Sound.put (sound : b.Sound) (settled : a.Settled) : (b.put slot a).Sound := by
  intro other c held
  rw [get?_put] at held
  split at held
  · cases held
    exact settled
  · exact sound other c held

theorem Sound.perform (sound : b.Sound) (task : Task) : (b.perform task).2.Sound := by
  obtain same | ⟨slot, a, puts, eq⟩ := b.perform_cases task
  · exact fun slot a held => sound slot a (same slot ▸ held)
  · rw [eq]
    refine sound.put ?_
    cases puts with
    | created slot name tools => exact Artifact.settled_new name tools
    | copied held => exact sound _ a held
    | merged held merged => exact (sound slot _ held).merge merged
    | parsed held parsed _ => exact (sound slot _ held).parse parsed

theorem Sound.run (sound : b.Sound) (tasks : List Task) : (b.run tasks).Sound := by
  induction tasks generalizing b with
  | nil => exact sound
  | cons task rest ih => exact ih (sound.perform task)

/-! ## Nothing to execute -/

/-- The artifact in a slot is not compiled. -/
def Bare (b : Workbench) (slot : String) : Prop :=
  ∃ a, b.get? slot = some a ∧ a.compiled = none

/-- The task puts a compiled artifact in a slot: it parses the one that is there, with success, or
it copies one that is compiled. -/
def Compiles (b : Workbench) (slot : String) (task : Task) : Prop :=
  (∃ escaping text, task = .parse escaping slot text ∧ (b.perform task).1 = .done) ∨
    ∃ origin a, task = .copy slot origin ∧ b.get? origin = some a ∧ a.isCompiled = true

theorem bare_put (bare : a.compiled = none) : (b.put slot a).Bare slot :=
  ⟨a, by rw [get?_put, if_pos rfl], bare⟩

/-- What is put in other slots does not matter. -/
theorem Bare.put (still : b.Bare slot) (bare : origin = slot → a.compiled = none) :
    (b.put origin a).Bare slot := by
  by_cases same : origin = slot
  · subst same
    exact bare_put (bare rfl)
  · obtain ⟨c, held, free⟩ := still
    exact ⟨c, by rw [get?_put, if_neg (Ne.symm same), held], free⟩

theorem Bare.perform (bare : b.Bare slot) (idle : ¬ b.Compiles slot task) :
    (b.perform task).2.Bare slot := by
  obtain same | ⟨place, a, puts, eq⟩ := b.perform_cases task
  · obtain ⟨a, held, free⟩ := bare
    exact ⟨a, (same slot).trans held, free⟩
  · rw [eq]
    refine bare.put fun here => ?_
    subst here
    cases puts with
    | created slot name tools => rfl
    | @copied slot origin a held =>
      cases compiled : a.compiled with
      | none => rfl
      | some other =>
        have copied : a.isCompiled = true := by rw [Artifact.isCompiled, compiled]; rfl
        exact absurd (.inr ⟨origin, a, rfl, held, copied⟩) idle
    | merged held merged => exact (Artifact.of_merge merged).2.1
    | parsed held parsed done => exact absurd (.inl ⟨_, _, rfl, done⟩) idle

theorem Bare.run {tasks : List Task} (bare : b.Bare slot)
    (idle : ∀ earlier task rest, tasks = earlier ++ task :: rest →
      ¬ (b.run earlier).Compiles slot task) : (b.run tasks).Bare slot := by
  induction tasks generalizing b with
  | nil => exact bare
  | cons task rest ih =>
    refine ih (bare.perform (idle [] task rest rfl)) ?_
    rintro earlier next later rfl
    exact idle (task :: earlier) next later rfl

/-- A parse that is done puts a compiled artifact in its slot. -/
theorem isCompiled_of_parse {escaping : Escaping} {text : String}
    (done : (b.perform (.parse escaping slot text)).1 = .done) :
    ∃ a, (b.perform (.parse escaping slot text)).2.get? slot = some a ∧ a.isCompiled = true := by
  cases held : b.get? slot with
  | none => simp only [perform, held, reduceCtorEq] at done
  | some a =>
    cases parsed : a.parse escaping text with
    | error e => simp only [perform, held, parsed, reduceCtorEq] at done
    | ok c =>
      obtain ⟨_, -, compiled⟩ := Artifact.of_parse parsed
      refine ⟨c, by simp only [perform, held, parsed, get?_put, if_true], ?_⟩
      rw [compiled, Artifact.isCompiled]
      rfl

/-! ## After any tasks -/

/-- After any tasks, what an artifact was compiled to are its definitions as they are, with the root
among them.  It is incomplete to execution just if it is not compiled.

A merge that is refused changes no artifact.  After one that is done its artifact is incomplete
until it is parsed with success, which compiles it, or a compiled one is copied to its slot.  Done
again, the merge changes nothing more. -/
theorem run_current (tasks : List Task) :
    let b := empty.run tasks
    (∀ slot a, b.get? slot = some a →
      (∀ compiled, a.compiled = some compiled → a.CompiledTo compiled) ∧
        ∀ data, ((a.execute data).2 = some (.incomplete a.name) ↔ a.compiled = none)) ∧
    (∀ escaping slot text, (b.perform (.parse escaping slot text)).1 = .done →
      ∃ a, (b.perform (.parse escaping slot text)).2.get? slot = some a ∧ a.isCompiled = true) ∧
    ∀ slot origin definition,
      let merge := b.perform (.merge slot origin definition)
      (∀ e, merge.1 = .refused e → ∀ other, merge.2.get? other = b.get? other) ∧
      (merge.1 = .done →
        (∀ later, (∀ earlier task rest, later = earlier ++ task :: rest →
            ¬ (merge.2.run earlier).Compiles slot task) →
          ∃ a, (merge.2.run later).get? slot = some a ∧ a.isCompiled = false ∧
            ∀ data, ((merge.2.run later).perform (.execute slot data)).1 =
              .written "" (some (.incomplete a.name))) ∧
        (merge.2.perform (.merge slot origin definition)).1 = .done ∧
        ∀ other, (merge.2.perform (.merge slot origin definition)).2.get? other =
          merge.2.get? other) := by
  intro b
  have sound : b.Sound := sound_empty.run tasks
  refine ⟨fun slot a held => ⟨(sound slot a held).current, a.execute_eq_incomplete_iff⟩,
    fun escaping slot text => isCompiled_of_parse, ?_⟩
  intro slot origin definition
  obtain ⟨a, source, c, held, held', merged, eq⟩ | ⟨a, e, held, eq⟩ | eq :=
    merge_cases b slot origin definition
  · simp only [eq]
    refine ⟨nofun, fun _ => ⟨?_, ?_⟩⟩
    · intro later idle
      obtain ⟨d, there, bare⟩ := (bare_put (Artifact.of_merge merged).2.1).run idle
      refine ⟨d, there, by rw [Artifact.isCompiled, bare]; rfl, fun data => ?_⟩
      simp only [perform, there, Artifact.execute_of_bare bare]
    · -- The other artifact is still the one it was, unless it is the one that was changed.
      obtain ⟨again, again'⟩ := Artifact.merge_again merged (sound slot a held).ordered
      have first : (b.put slot c).get? slot = some c := by rw [get?_put, if_pos rfl]
      have repeated : (b.put slot c).perform (.merge slot origin definition) =
          (.done, (b.put slot c).put slot c) := by
        by_cases same : origin = slot
        · rw [same, perform_merge first first, again']
        · have second : (b.put slot c).get? origin = some source := by
            rw [get?_put, if_neg same, held']
          rw [perform_merge first second, again]
      rw [repeated]
      exact ⟨rfl, get?_put_same first⟩
  · simp only [eq]
    exact ⟨fun _ _ => get?_put_same held, nofun⟩
  · simp only [eq]
    exact ⟨nofun, nofun⟩

end Workbench

end Collage
