import Collage.Library.Basic

/-! # Engines

An engine compiles templates that embed and extend one another by name, with the library that they
can call, and renders them.  What is known of an engine is that it compiles the templates that it is
given.  The engine of the program is `Template.engine`.
-/

namespace Collage

/-- Whether values are escaped where they are written. -/
inductive Escaping where
  | off
  | html
  deriving DecidableEq, Repr

/-- Templates that were compiled together. -/
structure Compiled where
  /-- Their names, in order. -/
  names : List String
  /-- Writes out a template with some data: the text, and the error that stopped it, before its
  causes. -/
  render : String → List (String × Json) → String × Option (List String)

structure Engine where
  /-- Compiles sources by their names, unless there is an error, which comes before its causes. -/
  compile : Escaping → Library → List (String × String) → Except (List String) Compiled
  names_compile : ∀ {escaping : Escaping} {library : Library} {sources : List (String × String)}
    {compiled : Compiled}, compile escaping library sources = .ok compiled →
      compiled.names = Sorted.keys sources

/-- What templates are made with. -/
structure Tools where
  library : Library
  engine : Engine

end Collage
