import Collage.Engine
import Collage.Library.Stock
import Collage.Template.Rendering

/-! # The engine of suites

Suites as an engine gives them, and the tools that the program works with.
-/

namespace Collage

namespace Template

def Suite.compiled (s : Suite) : Compiled where
  names := Sorted.keys s.templates
  render name data :=
    let (text, fault) := s.render name data
    (text, fault.map (·.headlines))

def compileSuite (escaping : Escaping) (library : Library) (sources : List (String × String)) :
    Except (List String) Compiled :=
  match Suite.compile escaping library sources with
  | .error e => .error [e.text]
  | .ok s => .ok s.compiled

theorem exists_suite {escaping : Escaping} {library : Library} {sources : List (String × String)}
    {compiled : Compiled} (given : compileSuite escaping library sources = .ok compiled) :
    ∃ s, Suite.compile escaping library sources = .ok s ∧ compiled = s.compiled := by
  rw [compileSuite] at given
  cases made : Suite.compile escaping library sources with
  | error e =>
    rw [made] at given
    cases given
  | ok s =>
    rw [made] at given
    cases given
    exact ⟨s, rfl, rfl⟩

def engine : Engine where
  compile := compileSuite
  names_compile given := by
    obtain ⟨s, made, rfl⟩ := exists_suite given
    exact (Suite.of_readAll (Suite.of_compile made).2.2).1

end Template

namespace Tools

def empty : Tools := ⟨.empty, Template.engine⟩

def stock : Tools := ⟨.stock .settled, Template.engine⟩

end Tools

end Collage
