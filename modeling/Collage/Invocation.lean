import Collage.Session

/-! # Invocations

`Invocation.read` takes the words of a command line apart:

    [options] render NAME [--kind KIND] [--data FILE | --data-json JSON] [--root DIR]
    [options] check NAME... [--kind KIND] [--root DIR]

The options `--config FILE`, `--verbose` and `--quiet` may stand before or after the command.

A value that follows its option is looked at when the next word shows that it is complete; so an
unknown word is reported first, and what is wrong before a command after what is wrong behind it.
-/

namespace Collage

/-- Why no invocation is made of a command line. -/
inductive Usage where
  | displayHelp
  | displayVersion
  /-- Nothing was asked for. -/
  | nothingAsked
  | missingCommand
  | unknownCommand
  | unknownArgument
  | missingArgument
  | invalidValue
  | tooManyValues
  | conflict
  deriving DecidableEq, Repr

def Usage.text : Usage → String
  | displayHelp => "usage: tcompose [options] render NAME | check NAME..."
  | displayVersion => "tcompose"
  | nothingAsked => "nothing was asked for"
  | missingCommand => "a command is missing"
  | unknownCommand => "there is no such command"
  | unknownArgument => "there is no such argument"
  | missingArgument => "an argument is missing"
  | invalidValue => "a value is missing or not valid"
  | tooManyValues => "an option has a value that takes none"
  | conflict => "options exclude each other"

def Usage.exit : Usage → Nat
  | displayHelp | displayVersion => 0
  | _ => 2

namespace Invocation

/-- A part of a command line. -/
inductive Level where
  /-- What stands before the command. -/
  | top
  | render
  | check
  deriving DecidableEq, Repr

inductive Opt where
  | config
  | verbose
  | quiet
  | help
  | version
  | kind
  | data
  | dataJson
  | root
  deriving DecidableEq, Repr

def Level.options : Level → List Opt
  | top => [.config, .verbose, .quiet, .help, .version]
  | render => [.config, .verbose, .quiet, .help, .kind, .data, .dataJson, .root]
  | check => [.config, .verbose, .quiet, .help, .kind, .root]

def Opt.long : Opt → String
  | config => "config"
  | verbose => "verbose"
  | quiet => "quiet"
  | help => "help"
  | version => "version"
  | kind => "kind"
  | data => "data"
  | dataJson => "data-json"
  | root => "root"

def Opt.short? : Opt → Option Char
  | config => some 'c'
  | verbose => some 'v'
  | quiet => some 'q'
  | help => some 'h'
  | version => some 'V'
  | kind => some 'k'
  | data => some 'd'
  | dataJson | root => none

def Opt.takesValue : Opt → Bool
  | config | kind | data | dataJson | root => true
  | verbose | quiet | help | version => false

/-- Whether a value is one that an option can have. -/
def Opt.accepts : Opt → String → Bool
  | config, value | data, value | root, value => value ≠ ""
  | kind, value => (OutputKind.ofWord? value).isSome
  | _, _ => true

/-- What was given at a level so far. -/
structure Given where
  values : List (Opt × String)
  names : List String
  /-- An option whose value is not looked at yet, and the value if it is there. -/
  pending : Option (Opt × Option String)

namespace Given

def nothing : Given := ⟨[], [], none⟩

def value? (g : Given) (o : Opt) : Option String := g.values.lookup o

def has (g : Given) (o : Opt) : Bool := (g.value? o).isSome

def take (g : Given) (o : Opt) (value : String) : Except Usage Given :=
  if g.has o then .error .conflict
  else if o.accepts value then .ok { g with values := (o, value) :: g.values }
  else .error .invalidValue

def settle (g : Given) : Except Usage Given :=
  match g.pending with
  | none => .ok g
  | some (_, none) => .error .invalidValue
  | some (o, some value) => { g with pending := none }.take o value

def flag (g : Given) (o : Opt) : Except Usage Given := do
  let g ← g.settle
  match o with
  | .help => .error .displayHelp
  | .version => .error .displayVersion
  | _ => g.take o ""

/-- Takes an option and the value in the same word, if there is one. -/
def option (g : Given) (o : Opt) (attached : Option String) : Except Usage Given := do
  let g ← g.settle
  match attached with
  | some value => g.take o value
  | none => .ok { g with pending := some (o, none) }

def isAwaiting (g : Given) : Bool := g.pending.any (·.2.isNone)

end Given

/-! ## Words -/

/-- What a word looks like. -/
inductive Word where
  /-- The mark after which every word is a name. -/
  | mark
  /-- A long option, and what stands behind an equals sign. -/
  | long (name : String) (attached : Option String)
  /-- Short options in one word. -/
  | short (letters : List Char)
  | other
  deriving DecidableEq, Repr

def Word.of (word : String) : Word :=
  match word.toList with
  | ['-', '-'] => .mark
  | '-' :: '-' :: rest =>
    let name := String.ofList (rest.takeWhile (· ≠ '='))
    match rest.dropWhile (· ≠ '=') with
    | _ :: value => .long name (some (String.ofList value))
    | [] => .long name none
  | '-' :: c :: rest => .short (c :: rest)
  | _ => .other

def takeLong (level : Level) (g : Given) (name : String) (attached : Option String) :
    Except Usage Given :=
  match level.options.find? (·.long = name), attached with
  | none, _ => .error .unknownArgument
  | some o, attached =>
    if o.takesValue then g.option o attached
    else if attached.isSome then .error .tooManyValues
    else g.flag o

/-- Takes the short options of one word; the rest of the word is the value of one that has one. -/
def takeShort (level : Level) (g : Given) : List Char → Except Usage Given
  | [] => .ok g
  | c :: rest =>
    match level.options.find? (·.short? = some c) with
    | none => .error .unknownArgument
    | some o =>
      if o.takesValue then
        match rest with
        | [] => g.option o none
        | '=' :: value => g.option o (some (String.ofList value))
        | value => g.option o (some (String.ofList value))
      else do takeShort level (← g.flag o) rest

def takeName (level : Level) (g : Given) (name : String) (marked : Bool) : Except Usage Given :=
  match level, g.names with
  | .top, _ =>
    if marked ∧ name ∈ ["render", "check", "help"] then .error .unknownArgument
    else .error .unknownCommand
  | .render, _ :: _ => .error .unknownArgument
  | _, names => do .ok { ← g.settle with names := names ++ [name] }

/-- The outcome of asking for help on something. -/
def helpOn (path : List String) : Usage :=
  match path with
  | [] | ["render"] | ["check"] | ["help"] => .displayHelp
  | _ => .unknownCommand

/-- Takes the words of a level: what is given there, and the command that follows with its words. -/
def takeWords (level : Level) (marked : Bool) (g : Given) :
    List String → Except Usage (Given × Option (Level × List String))
  | [] => .ok (g, none)
  | word :: rest =>
    if marked then do takeWords level true (← takeName level g word true) rest
    else if level = .top ∧ !g.isAwaiting ∧ word = "render" then .ok (g, some (.render, rest))
    else if level = .top ∧ !g.isAwaiting ∧ word = "check" then .ok (g, some (.check, rest))
    else if level = .top ∧ !g.isAwaiting ∧ word = "help" then .error (helpOn rest)
    else
      match Word.of word with
      | .mark => takeWords level true g rest
      | .long name attached => do takeWords level false (← takeLong level g name attached) rest
      | .short letters => do takeWords level false (← takeShort level g letters) rest
      | .other =>
        match g.pending with
        | some (o, none) => takeWords level false { g with pending := some (o, some word) } rest
        | _ => do takeWords level false (← takeName level g word false) rest

/-- Refuses options that exclude each other. -/
def checkConflicts (g : Given) : Except Usage Unit :=
  if (g.has .verbose && g.has .quiet) || (g.has .data && g.has .dataJson) then .error .conflict
  else .ok ()

def kindOf (g : Given) : OutputKind := ((g.value? .kind).bind OutputKind.ofWord?).getD .text

/-- Where the data to render with comes from. -/
inductive DataSource where
  | nothing
  | file (path : String)
  | inline (json : String)
  deriving DecidableEq, Repr

def dataOf (g : Given) : DataSource :=
  match g.value? .dataJson, g.value? .data with
  | some json, _ => .inline json
  | none, some path => .file path
  | none, none => .nothing

/-- What is asked for. -/
inductive Command where
  /-- Render a template. -/
  | render (name : String) (kind : OutputKind) (data : DataSource) (root : Option String)
  /-- Resolve templates and list what they refer to. -/
  | check (names : List String) (kind : OutputKind) (root : Option String)
  deriving DecidableEq, Repr

def commandOf (level : Level) (g : Given) : Except Usage Command :=
  match level, g.names with
  | .render, [name] => .ok (.render name (kindOf g) (dataOf g) (g.value? .root))
  | .check, name :: names => .ok (.check (name :: names) (kindOf g) (g.value? .root))
  | _, _ => .error .missingArgument

end Invocation

/-- What a command line asks for. -/
structure Invocation where
  command : Invocation.Command
  config : Option String
  verbose : Bool
  quiet : Bool
  deriving DecidableEq, Repr

namespace Invocation

def read (words : List String) : Except Usage Invocation := do
  match ← takeWords .top false .nothing words with
  | (g, none) =>
    let g ← g.settle
    if g.values.isEmpty then .error .nothingAsked else .error .missingCommand
  | (g, some (level, words)) =>
    let (inner, _) ← takeWords level false .nothing words
    let inner ← inner.settle
    checkConflicts inner
    let command ← commandOf level inner
    let g ← g.settle
    checkConflicts g
    .ok {
      command
      config := (inner.value? .config).orElse fun _ => g.value? .config
      verbose := inner.has .verbose || g.has .verbose
      quiet := inner.has .quiet || g.has .quiet }

/-- The invocation with the configuration file that the environment names, unless the words name
one. -/
def withDefault (i : Invocation) (config : Option String) : Except Usage Invocation :=
  match i.config, config with
  | none, some path =>
    if path = "" then .error .invalidValue else .ok { i with config := some path }
  | _, _ => .ok i

def logFilter (i : Invocation) : Option String :=
  if i.verbose then some "template_compose=debug" else if i.quiet then some "error" else none

end Invocation

end Collage
