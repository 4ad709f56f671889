import Collage.Cache.Shelf
import Collage.FileSystem
import Collage.Path
import Collage.Toml.Reader

/-! # Configuration

A configuration file may set where templates are and whether compiled ones are kept:

    root = "templates"
    cache = "enabled"

Either may be left out.  `Config.load` reads a file, and takes a relative root from the directory
the file is in.
-/

namespace Collage

/-- The settings of a session. -/
structure Config where
  root : String
  cache : CacheMode
  deriving DecidableEq, Repr

/-- What is wrong with the text of a configuration. -/
inductive Config.Fault where
  /-- It is no TOML, or a value is not what it has to be. -/
  | malformed
  /-- A key has too many parts. -/
  | longKey
  | unknownField (name : String)
  | unknownVariant (name : String)
  deriving DecidableEq, Repr

/-- The part of the reason that names something unknown. -/
def Config.Fault.detail? : Config.Fault → Option String
  | malformed | longKey => none
  | unknownField name => some ("unknown field `" ++ name ++ "`, expected `root` or `cache`")
  | unknownVariant name =>
    some ("unknown variant `" ++ name ++ "`, expected `enabled` or `disabled`")

/-- Why there is no configuration. -/
inductive ConfigError where
  | read (path : String) (e : IoError)
  /-- The file is not right. -/
  | parse (path : String) (fault : Config.Fault)
  /-- The text is not right. -/
  | invalid (fault : Config.Fault)
  deriving DecidableEq, Repr

/-- How a fault is told where it is only a part of what is wrong. -/
def Config.Fault.text : Config.Fault → String
  | longKey => "recursion limit\n"
  | _ => "<toml>"

/-- What a failure was caused by, in words. -/
def ConfigError.causeText : ConfigError → String
  | read _ e => e.text
  | parse _ fault => fault.text
  | invalid fault => fault.text

def ConfigError.text : ConfigError → String
  | read path e => "failed to read config file " ++ path ++ ": " ++ e.text
  | parse path fault => "failed to parse config file " ++ path ++ ": " ++ fault.text
  | invalid fault => "invalid config: " ++ fault.text

namespace Config

/-- The settings that hold where nothing is set. -/
def standard : Config := ⟨".", .disabled⟩

def modeOf (word : String) : Except Fault CacheMode :=
  match CacheMode.ofText? word with
  | some mode => .ok mode
  | none => .error (.unknownVariant word)

/-- The mode that a value sets: a word, or a table of which it is the only key and that holds
nothing. -/
def modeOfValue : Toml.Value → Except Fault CacheMode
  | .string word => modeOf word
  | .table [(word, .table [])] | .table [(word, .array [])] => modeOf word
  | .table [(word, _)] => do
    let _ ← modeOf word
    .error .malformed
  | _ => .error .malformed

/-- The settings with one entry of a document. -/
def set (c : Config) : String × Toml.Value → Except Fault Config
  | ("root", .string root) => .ok { c with root }
  | ("root", _) => .error .malformed
  | ("cache", value) => do .ok { c with cache := ← modeOfValue value }
  | (name, _) => .error (.unknownField name)

/-- The settings that a text stands for. -/
def ofText (text : String) : Except Fault Config :=
  match Toml.read text with
  | .error .malformed => .error .malformed
  | .error .longKey => .error .longKey
  | .ok entries => entries.foldlM set standard

def read (text : String) : Except ConfigError Config :=
  match ofText text with
  | .ok c => .ok c
  | .error fault => .error (.invalid fault)

/-- The settings with a relative root taken from the directory of a file. -/
def relativeTo (c : Config) (path : String) : Config :=
  if Path.isAbsolute c.root then c
  else
    match Path.parent? path with
    | some directory => { c with root := Path.push directory c.root }
    | none => c

def load (fs : FileSystem) (path : String) : Except ConfigError Config :=
  match fs.readText path with
  | .error e => .error (.read path e)
  | .ok text =>
    match ofText text with
    | .error fault => .error (.parse path fault)
    | .ok c => .ok (c.relativeTo path)

end Config

end Collage
