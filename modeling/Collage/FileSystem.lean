import Collage.IoError
import Collage.Text.Utf8

/-! # File systems

What a program asks of a file system: whether a path leads to a directory, and what a file holds.
-/

namespace Collage

structure FileSystem where
  isDirectory : String → Bool
  read : String → Except IoError ByteArray

def FileSystem.readText (fs : FileSystem) (path : String) : Except IoError String := do
  match Text.Utf8.decode (← fs.read path) with
  | .ok text => .ok text
  | .error _ => .error .notText

end Collage
