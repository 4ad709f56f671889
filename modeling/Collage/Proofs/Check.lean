import Collage.Program
import Collage.Proofs.Session.Transparency

/-! # Checking templates one after the other

All templates of a check share one session, which keeps the nodes of those before.  Still each is
listed as if it were the only one (`Program.check_alone`): as long as its source stays as it is, a
session prepares a template as one does that has just been started (`Session.run_prepare`).
-/

namespace Collage

namespace Session

variable {s : Session} {kind : OutputKind} {name : String}

theorem fst_prepare :
    (s.prepare kind name).1 =
      ((s.resolve kind name).1.map Node.view).map Node.View.dependencyNames := by
  unfold prepare
  rcases s.resolve kind name with ⟨e | node, t⟩ <;> rfl

/-- A session that keeps nothing and was just started is a twin of every session that has run over
the same source. -/
theorem run_twins (source : Source) (tools : Tools) (mode : CacheMode) {steps : List Step}
    (keeps : ∀ step ∈ steps, step.keepsSource = true) (kind : OutputKind) :
    Twins source tools kind []
      { (start source tools mode []).run steps with flight := .empty }
      { start source tools .disabled [] with flight := .empty } where
  truthful := (run_truthful source tools mode keeps kind).with_flight .empty
  orderly := by
    have accounted := (accounted_start source tools mode []).run steps
    exact ((accounted_iff kind).1 accounted).with_flight .empty
  flight := rfl
  bare := ⟨by cases kind <;> rfl, rfl, rfl, rfl, rfl⟩

/-- Whatever was asked for before, a template is prepared as by a session that was just started,
which may keep its nodes or not. -/
theorem run_prepare (source : Source) (tools : Tools) (mode mode' : CacheMode)
    {steps : List Step} (keeps : ∀ step ∈ steps, step.keepsSource = true) (kind : OutputKind)
    (name : String) :
    (((start source tools mode []).run steps).prepare kind name).1 =
      ((start source tools mode' []).prepare kind name).1 := by
  have after := resolve_eq_of_twins (run_twins source tools mode keeps kind) name
  have before := resolve_eq_of_twins
    (run_twins source tools mode' (List.forall_mem_nil _) kind) name
  rw [run, List.foldl_nil] at before
  rw [fst_prepare, fst_prepare, after, before]

theorem run_concat (s : Session) (steps : List Step) (step : Step) :
    s.run (steps ++ [step]) = (s.run steps).perform step := by
  simp [run]

end Session

namespace Program

variable {answer : String → Except ComposeError (List String)} {name : String}
  {names dependencies : List String} {e : ComposeError} {r : Run}

def isAnswered (answer : String → Except ComposeError (List String)) (name : String) : Bool :=
  (answer name).isOk

theorem isAnswered_of_ok (told : answer name = .ok dependencies) :
    isAnswered answer name = true := by
  rw [isAnswered, told]
  rfl

theorem isAnswered_of_error (refused : answer name = .error e) :
    isAnswered answer name = false := by
  rw [isAnswered, refused]
  rfl

/-- A run lists names up to the first that is refused when it is asked for, and stops there. -/
structure Lists (answer : String → Except ComposeError (List String)) (names : List String)
    (r : Run) : Prop where
  written : ∃ told : List (String × List String),
    told.map Prod.fst = names.takeWhile (isAnswered answer) ∧
      (∀ line ∈ told, answer line.1 = .ok line.2) ∧
      r.written = String.join (told.map fun line => entry line.1 line.2)
  passed : names.takeWhile (isAnswered answer) = names → r.stop = none
  stopped : ∀ name rest, names.dropWhile (isAnswered answer) = name :: rest →
    ∃ e, answer name = .error e ∧
      r.stop = some ⟨["failed to resolve `" ++ name ++ "`"], .compose e⟩

theorem lists_nil (answer : String → Except ComposeError (List String)) (asked : List String) :
    Lists answer [] ⟨"", none, asked⟩ where
  written := ⟨[], rfl, by simp, rfl⟩
  passed := fun _ => rfl
  stopped := by simp

theorem lists_refused (refused : answer name = .error e) (names asked : List String) :
    Lists answer (name :: names)
      ⟨"", some ⟨["failed to resolve `" ++ name ++ "`"], .compose e⟩, asked⟩ where
  written := ⟨[], by simp [isAnswered_of_error refused], by simp, rfl⟩
  passed := by simp [isAnswered_of_error refused]
  stopped := by
    intro other rest first
    rw [List.dropWhile_cons_of_neg (by simp [isAnswered_of_error refused])] at first
    cases first
    exact ⟨e, refused, rfl⟩

theorem Lists.cons (lists : Lists answer names r) (told : answer name = .ok dependencies) :
    Lists answer (name :: names) { r with written := entry name dependencies ++ r.written } where
  written := by
    obtain ⟨lines, good, known, eq⟩ := lists.written
    refine ⟨(name, dependencies) :: lines, ?_, ?_, ?_⟩
    · simp [good, isAnswered_of_ok told]
    · simpa [told] using known
    · rw [eq, List.map_cons, String.join_cons]
  passed := by
    intro all
    apply lists.passed
    simpa [isAnswered_of_ok told] using all
  stopped := by
    intro other rest first
    apply lists.stopped other rest
    simpa [isAnswered_of_ok told] using first

theorem Lists.exit_eq_zero_iff (lists : Lists answer names r) :
    r.exit = 0 ↔ names.takeWhile (isAnswered answer) = names := by
  constructor
  · intro zero
    cases first : names.dropWhile (isAnswered answer) with
    | nil =>
      have whole := List.takeWhile_append_dropWhile (p := isAnswered answer) (l := names)
      rwa [first, List.append_nil] at whole
    | cons name rest =>
      obtain ⟨e, -, stop⟩ := lists.stopped name rest first
      simp [Run.exit, stop] at zero
  · intro all
    simp [Run.exit, lists.passed all]

/-- What a template refers to, as a session tells that is asked for nothing else. -/
def alone (tools : Tools) (disk : Disk) (root : String) (mode : CacheMode) (kind : OutputKind)
    (name : String) : Except ComposeError (List String) :=
  ((session tools disk root mode).prepare kind name).1

theorem check_lists (tools : Tools) (disk : Disk) (root : String) (mode mode' : CacheMode)
    (kind : OutputKind) (names : List String) {steps : List Session.Step}
    (keeps : ∀ step ∈ steps, step.keepsSource = true) :
    Lists (alone tools disk root mode' kind) names
      (check kind names ((session tools disk root mode).run steps)).1 := by
  -- The session of the next name has run one step more.
  induction names generalizing steps with
  | nil => exact lists_nil _ _
  | cons name names ih =>
    have same : (((session tools disk root mode).run steps).prepare kind name).1 =
        alone tools disk root mode' kind name :=
      Session.run_prepare (.folder disk root) tools mode mode' keeps kind name
    have keeps' : ∀ step ∈ steps ++ [.prepare kind name], step.keepsSource = true := by
      intro step member
      cases List.mem_append.1 member with
      | inl member => exact keeps step member
      | inr member => rw [List.mem_singleton.1 member, Session.Step.keepsSource]
    have next := ih keeps'
    rw [Session.run_concat, Session.perform] at next
    rw [check]
    rcases prepared : ((session tools disk root mode).run steps).prepare kind name with
      ⟨e | dependencies, t⟩
    · rw [prepared] at same
      exact lists_refused same.symm names []
    · rw [prepared] at same next
      exact next.cons same.symm

/-- Each name is listed with what it refers to when it is asked for alone, up to the first that is
refused then, whether nodes are kept or not.  The check fails exactly if there is one. -/
theorem check_alone (tools : Tools) (disk : Disk) (c : Config) (names : List String)
    (kind : OutputKind) (root : Option String) (mode : CacheMode) :
    Lists (alone tools disk (root.getD c.root) mode kind) names
        (perform tools disk c (.check names kind root)) ∧
      ((perform tools disk c (.check names kind root)).exit = 0 ↔
        names.takeWhile (isAnswered (alone tools disk (root.getD c.root) mode kind)) = names) := by
  have lists := check_lists tools disk (root.getD c.root) c.cache mode kind names
    (List.forall_mem_nil _)
  rw [Session.run, List.foldl_nil] at lists
  have performed : Lists (alone tools disk (root.getD c.root) mode kind) names
      (perform tools disk c (.check names kind root)) :=
    ⟨lists.written, lists.passed, lists.stopped⟩
  exact ⟨performed, performed.exit_eq_zero_iff⟩

end Program

end Collage
