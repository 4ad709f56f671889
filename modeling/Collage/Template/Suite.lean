import Collage.Engine
import Collage.Template.Reader

/-! # Suites

A suite is a set of templates that embed and extend one another by name, with the filters and
functions they can call.  `Suite.compile` reads one from the sources of its templates, in the order
of their names, and refuses it when a source cannot be read or an extended template is not there.
-/

namespace Collage.Template

/-- Templates by their names, and what they can call. -/
structure Suite where
  escaping : Escaping
  library : Library
  templates : List (String × Definition)

/-- Why some sources do not make a suite. -/
inductive SuiteError where
  | unreadable (name : String) (fault : ReadError)
  | missingParent (name parent : String)
  | circular (name : String) (line : List String)
  deriving DecidableEq, Repr

def SuiteError.text : SuiteError → String
  | unreadable name fault => "Failed to parse '" ++ name ++ "': " ++ fault.text
  | missingParent name parent =>
    "Template '" ++ name ++ "' is inheriting from '" ++ parent ++
      "', which doesn't exist or isn't loaded."
  | circular name line =>
    "Circular extend detected for template '" ++ name ++ "'. Inheritance chain: `" ++
      Text.quotedList line ++ "`"

namespace Suite

/-- The template of a name and the ones it extends, nearest first; `fuel` bounds their number. -/
def line (s : Suite) : Nat → String → List Definition
  | 0, _ => []
  | fuel + 1, name =>
    match s.templates.lookup name with
    | none => []
    | some t =>
      match t.parent with
      | none => [t]
      | some parent => t :: line s fuel parent

/-- The template of a name and all it extends, nearest first. -/
def lineOf (s : Suite) (name : String) : List Definition := s.line (s.templates.length + 1) name

/-- Follows the template that `t` extends up from `start`; `passed` are the ones in between, and
`fuel` bounds their number. -/
def checkLine (templates : List (String × Definition)) (start : String) :
    Nat → List String → Definition → Except SuiteError Unit
  | 0, passed, _ => .error (.circular start passed)
  | fuel + 1, passed, t =>
    if passed ≠ [] ∧ t.name = start then .error (.circular start passed)
    else
      match t.parent with
      | none => .ok ()
      | some name =>
        match templates.lookup name with
        | none => .error (.missingParent t.name name)
        | some parent => checkLine templates start fuel (passed ++ [name]) parent

def readAll : List (String × String) → Except SuiteError (List (String × Definition))
  | [] => .ok []
  | (name, source) :: rest => do
    match read name source with
    | .error fault => .error (.unreadable name fault)
    | .ok t => .ok ((name, t) :: (← readAll rest))

/-- The suite of some sources. -/
def compile (escaping : Escaping) (library : Library) (sources : List (String × String)) :
    Except SuiteError Suite := do
  let templates ← readAll sources
  for (name, t) in templates do
    checkLine templates name (templates.length + 1) [] t
  .ok ⟨escaping, library, templates⟩

theorem readAll_cons (key source : String) (rest : List (String × String)) :
    readAll ((key, source) :: rest) =
      match Template.read key source with
      | .error fault => .error (.unreadable key fault)
      | .ok t => readAll rest >>= fun later => .ok ((key, t) :: later) := by
  -- Without `id` this would become a rule for definitional rewriting, which opens the reader.
  exact id rfl

theorem of_readAll {sources : List (String × String)} {templates : List (String × Definition)}
    (readable : readAll sources = .ok templates) :
    Sorted.keys templates = Sorted.keys sources ∧
      ∀ name source, sources.lookup name = some source →
        ∃ t, templates.lookup name = some t ∧ Template.read name source = .ok t := by
  induction sources generalizing templates with
  | nil =>
    cases readable
    exact ⟨rfl, by simp⟩
  | cons entry rest ih =>
    obtain ⟨key, source⟩ := entry
    rw [readAll_cons] at readable
    cases first : Template.read key source with
    | error fault =>
      rw [first] at readable
      cases readable
    | ok t =>
      rw [first] at readable
      cases others : readAll rest with
      | error e =>
        rw [others] at readable
        cases readable
      | ok later =>
        rw [others] at readable
        cases readable
        obtain ⟨keys, lookups⟩ := ih others
        refine ⟨by simpa [Sorted.keys] using keys, fun name source' found => ?_⟩
        rw [Sorted.lookup_cons_ite] at found ⊢
        by_cases same : name = key
        · rw [if_pos same] at found ⊢
          cases found
          exact ⟨t, rfl, same ▸ first⟩
        · rw [if_neg same] at found ⊢
          exact lookups name source' found

theorem of_compile {escaping : Escaping} {library : Library} {sources : List (String × String)}
    {suite : Suite} (compiled : compile escaping library sources = .ok suite) :
    suite.escaping = escaping ∧ suite.library = library ∧
      readAll sources = .ok suite.templates := by
  unfold compile at compiled
  cases readable : readAll sources with
  | error e =>
    rw [readable] at compiled
    cases compiled
  | ok templates =>
    rw [readable] at compiled
    simp only [bind, Except.bind] at compiled
    -- The lines of extension are only looked at.
    split at compiled
    · cases compiled
    · cases compiled
      exact ⟨rfl, rfl, rfl⟩

end Suite

end Collage.Template
