import Collage.Sorted

/-! # Values of a TOML document

A document assigns values to keys, in tables that headers open or that dotted keys imply.  A table
is written in one place only: `assign`, `openTable` and `openList` refuse what would write into a
table that is closed, or assign a key twice.

A `Literal` is a value as it is written; `Literal.value` works out what the assignments in its
inline tables make.
-/

namespace Collage.Toml

/-- Why a text is no document. -/
inductive Fault where
  /-- It does not follow the grammar, or something is assigned twice. -/
  | malformed
  /-- A key has too many parts. -/
  | longKey
  deriving DecidableEq, Repr

/-- A value as it is written. -/
inductive Literal where
  | string (s : String)
  /-- A number, a boolean or a date. -/
  | plain (text : String)
  | array (items : List Literal)
  /-- An inline table by its assignments. -/
  | table (assignments : List (List String × Literal))

inductive Value where
  | string (s : String)
  /-- A number, a boolean or a date, by its text. -/
  | plain (text : String)
  | array (items : List Value)
  | table (entries : List (String × Value))

/-- How a table came about. -/
inductive Origin where
  /-- By a header of its own. -/
  | header
  /-- By the header of a table in it. -/
  | implied
  /-- By a dotted key. -/
  | dotted
  deriving DecidableEq, Repr

/-- What a key stands for while a document is read. -/
inductive Item where
  | value (v : Value)
  | table (origin : Origin) (entries : List (String × Item))
  /-- A list of tables, of which the last one is open. -/
  | tables (closed : List Item) (last : List (String × Item))

abbrev Entries := List (String × Item)

/-- Assigns a value to a dotted key in a table. -/
def assign (v : Value) : List String → String → Entries → Option Entries
  | [], key, entries =>
    if (entries.lookup key).isSome then none else some (Sorted.insert key (.value v) entries)
  | part :: path, key, entries =>
    match entries.lookup part with
    | none => do some (Sorted.insert part (.table .dotted (← assign v path key [])) entries)
    | some (.table origin inner) =>
      if origin = .header ∨ (path = [] ∧ origin ≠ .dotted) then none
      else do some (Sorted.insert part (.table origin (← assign v path key inner)) entries)
    | some (.tables closed last) =>
      if path = [] then none
      else do some (Sorted.insert part (.tables closed (← assign v path key last)) entries)
    | some (.value _) => none

/-- Changes the table that a path leads to, adding tables that are missing. -/
def within (change : Entries → Option Entries) : List String → Entries → Option Entries
  | [], entries => change entries
  | part :: path, entries =>
    match entries.lookup part with
    | none => do some (Sorted.insert part (.table .implied (← within change path [])) entries)
    | some (.table origin inner) => do
      some (Sorted.insert part (.table origin (← within change path inner)) entries)
    | some (.tables closed last) => do
      some (Sorted.insert part (.tables closed (← within change path last)) entries)
    | some (.value _) => none

/-- Opens a table by its header. -/
def openTable (key : String) (entries : Entries) : Option Entries :=
  match entries.lookup key with
  | none => some (Sorted.insert key (.table .header []) entries)
  | some (.table .implied inner) => some (Sorted.insert key (.table .header inner) entries)
  | some _ => none

/-- Opens the next table of a list by its header. -/
def openList (key : String) (entries : Entries) : Option Entries :=
  match entries.lookup key with
  | none => some (Sorted.insert key (.tables [] []) entries)
  | some (.tables closed last) =>
    some (Sorted.insert key (.tables (closed ++ [.table .header last]) []) entries)
  | some _ => none

mutual

/-- What an item is when the document is read. -/
def Item.done : Item → Value
  | .value v => v
  | .table _ entries => .table (doneEntries entries)
  | .tables closed last => .array (doneItems closed ++ [.table (doneEntries last)])

def doneItems : List Item → List Value
  | [] => []
  | item :: rest => item.done :: doneItems rest

def doneEntries : List (String × Item) → List (String × Value)
  | [] => []
  | (key, item) :: rest => (key, item.done) :: doneEntries rest

end

/-! ## What is written -/

def keyLimit : Nat := 80

/-- A key, unless it has too many parts. -/
def checkedKey (key : List String) : Except Fault (List String) :=
  if keyLimit < key.length then .error .longKey else .ok key

/-- A change that may not be possible. -/
def possible {α : Type} (change : Option α) : Except Fault α :=
  match change with
  | some a => .ok a
  | none => .error .malformed

def assignTo (key : List String) (v : Value) (entries : Entries) : Option Entries :=
  match key.getLast? with
  | some last => assign v key.dropLast last entries
  | none => none

mutual

/-- The value that is written. -/
def Literal.value : Literal → Except Fault Value
  | .string s => .ok (.string s)
  | .plain text => .ok (.plain text)
  | .array items => do .ok (.array (← itemValues items))
  | .table assignments => do .ok (.table (doneEntries (← assigned assignments [])))

def itemValues : List Literal → Except Fault (List Value)
  | [] => .ok []
  | item :: rest => do .ok ((← item.value) :: (← itemValues rest))

/-- The entries after some assignments. -/
def assigned : List (List String × Literal) → Entries → Except Fault Entries
  | [], entries => .ok entries
  | (key, literal) :: rest, entries => do
    let key ← checkedKey key
    let v ← literal.value
    assigned rest (← possible (assignTo key v entries))

end

end Collage.Toml
