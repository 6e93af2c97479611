import PromptLoom.FileTree
import PromptLoom.Ron.Reader
import PromptLoom.Yaml.Reader

/-! # Library files

The extension of a file says which notation it is in.
-/

namespace PromptLoom

/-- Why a library cannot be read. -/
inductive LibraryError where
  | file (cause : FileError)
  /-- The text is no library in object notation. -/
  | ron
  /-- The text is no library in block notation. -/
  | yaml
  /-- The extension of the path belongs to no notation. -/
  | unsupportedFormat (path : Text)
  deriving DecidableEq

def LibraryError.message : LibraryError → Text
  | file cause => "IO error: ".toList ++ cause.message
  | ron => "RON deserialization error:".toList
  | yaml => "YAML deserialization error:".toList
  | unsupportedFormat path => "unsupported library format: ".toList ++ path

/-- A notation for libraries. -/
inductive Format where
  | ron
  | yaml
  deriving DecidableEq

/-- The notation that the extension of a path says. -/
def Format.ofPath? (path : Text) : Option Format :=
  match (Path.extension? path).map String.ofList with
  | some "ron" => some .ron
  | some "yaml" | some "yml" => some .yaml
  | _ => none

namespace Library

/-- Read a library in a notation. -/
def read (format : Format) (t : Text) : Except LibraryError Library :=
  match format with
  | .ron => (Ron.readLibrary? t).elim (.error .ron) .ok
  | .yaml => (Yaml.readLibrary? t).elim (.error .yaml) .ok

/-- Read the library in a file, whatever its extension. -/
def loadAs (reader : FileReader) (format : Format) (path : Text) : Except LibraryError Library :=
  match reader path with
  | .error cause => .error (.file cause)
  | .ok content => read format content

/-- Read the library in a file. -/
def load (reader : FileReader) (path : Text) : Except LibraryError Library :=
  match Format.ofPath? path with
  | none => .error (.unsupportedFormat path)
  | some format => loadAs reader format path

end Library

end PromptLoom
