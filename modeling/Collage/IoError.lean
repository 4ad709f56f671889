/-! # Failures of reading

A reader that cannot give the bytes it is asked for says what kind of failure it met and describes
it in words.
-/

namespace Collage

inductive IoKind where
  | notFound
  | permissionDenied
  | notADirectory
  | isADirectory
  | invalidData
  | invalidInput
  | invalidFilename
  | timedOut
  | other
  /-- Any kind besides, by its description. -/
  | further (description : String)
  deriving DecidableEq, Repr

def IoKind.text : IoKind → String
  | notFound => "entity not found"
  | permissionDenied => "permission denied"
  | notADirectory => "not a directory"
  | isADirectory => "is a directory"
  | invalidData => "invalid data"
  | invalidInput => "invalid input parameter"
  | invalidFilename => "invalid filename"
  | timedOut => "timed out"
  | other => "other error"
  | further description => description

structure IoError where
  kind : IoKind
  text : String
  deriving DecidableEq, Repr

namespace IoError

def ofKind (kind : IoKind) : IoError := ⟨kind, kind.text⟩

def noSuchFile : IoError := ⟨.notFound, "No such file or directory (os error 2)"⟩

def notDirectory : IoError := ⟨.notADirectory, "Not a directory (os error 20)"⟩

def directory : IoError := ⟨.isADirectory, "Is a directory (os error 21)"⟩

def nameTooLong : IoError := ⟨.invalidFilename, "File name too long (os error 36)"⟩

def nulInPath : IoError := ⟨.invalidInput, "file name contained an unexpected NUL byte"⟩

def notText : IoError := ⟨.invalidData, "stream did not contain valid UTF-8"⟩

end IoError

end Collage
