import PromptLoom.Library.File

/-! # Changes of libraries

A library grows by single pools and by whole libraries, which may come from texts and files. A
change that fails leaves the library as it was.
-/

namespace PromptLoom

/-- A way to change a library. -/
inductive Change where
  | insert (keyword : Text) (pool : Pool)
  | merge (other : Library)
  /-- Merge the library that a text holds. -/
  | read (format : Format) (written : Text)
  /-- Merge the library in a file, in the notation that its extension says. -/
  | load (path : Text)
  /-- Merge the library in a file, whatever its extension. -/
  | loadAs (format : Format) (path : Text)

/-- The library that a change merges, or why the change fails. -/
def Change.merged (reader : FileReader) : Change → Except LibraryError Library
  | .insert keyword pool => .ok (.ofList [(keyword, pool)])
  | .merge other => .ok other
  | .read format written => Library.read format written
  | .load path => Library.load reader path
  | .loadAs format path => Library.loadAs reader format path

namespace Library

/-- The library after a change. -/
def apply (reader : FileReader) (l : Library) (change : Change) : Library :=
  match change.merged reader with
  | .ok other => l.merge other
  | .error _ => l

end Library

end PromptLoom
