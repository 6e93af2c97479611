import PromptLoom.Text.Basic

/-! # Files and paths

A tree of folders and files, and what a path leads to in it. A path is followed name by name, and
only a folder can be followed further, also by a name that leads nowhere else.
-/

namespace PromptLoom

/-- Why a file cannot be read. -/
inductive FileError where
  | noSuchFile
  | notAFolder
  | isAFolder
  | notText
  /-- Any other cause, in the words of the system. -/
  | other (cause : Text)
  deriving DecidableEq

def FileError.message : FileError → Text
  | noSuchFile => "No such file or directory (os error 2)".toList
  | notAFolder => "Not a directory (os error 20)".toList
  | isAFolder => "Is a directory (os error 21)".toList
  | notText => "stream did not contain valid UTF-8".toList
  | other cause => cause

/-- Gives the content of the file at a path. -/
abbrev FileReader : Type := Text → Except FileError Text

/-- A file, or a folder with what it holds. -/
inductive FileTree where
  /-- A file; `none` if its content is no text. -/
  | file (content : Option Text)
  | folder (entries : List (Text × FileTree))

instance : Inhabited FileTree := ⟨.folder []⟩

namespace Path

/-- The names of a path, with slashes between them. -/
def names : Text → List Text
  | [] => [[]]
  | c :: rest =>
    match c, names rest with
    | '/', more => [] :: more
    | c, name :: more => (c :: name) :: more
    | c, [] => [[c]]

/-- Whether a name stays where it is. -/
def staysThere (name : Text) : Bool :=
  name.isEmpty || name = ['.']

/-- The last name of a path that leads further; `none` if that leads up. -/
def fileName? (path : Text) : Option Text :=
  ((names path).filter (!staysThere ·)).getLast?.filter (· ≠ "..".toList)

/-- What follows the last point of the file name, unless that opens the name. -/
def extension? (path : Text) : Option Text := do
  let (after, before) ← Text.cut '.' (← fileName? path).reverse
  if before.isEmpty then none else return after.reverse

/-- The path of a name in the folder at `folder`. -/
def join (folder name : Text) : Text :=
  if folder.isEmpty || folder.getLast? = some '/' then folder ++ name else folder ++ '/' :: name

end Path

namespace FileTree

/-- What a folder holds. -/
def entries : FileTree → List (Text × FileTree)
  | file _ => []
  | folder entries => entries

/-- Follow names from a place below the given folders, the innermost of them first. What lies above
them all holds nothing. -/
def follow (above : List FileTree) (tree : FileTree) : List Text → Except FileError FileTree
  | [] => .ok tree
  | name :: rest =>
    match tree with
    | file _ => .error .notAFolder
    | folder entries =>
      if Path.staysThere name then follow above tree rest
      else if name = "..".toList then follow above.tail (above.head?.getD (folder [])) rest
      else
        match entries.lookup name with
        | some child => follow (tree :: above) child rest
        | none => .error .noSuchFile

/-- What a path leads to. The empty path leads nowhere, and one with a slash in front starts above
the tree. -/
def find (tree : FileTree) (path : Text) : Except FileError FileTree :=
  match path with
  | [] => .error .noSuchFile
  | '/' :: rest => follow [] (folder []) (Path.names rest)
  | _ => follow [] tree (Path.names path)

/-- The content of a file. -/
def content : FileTree → Except FileError Text
  | folder _ => .error .isAFolder
  | file none => .error .notText
  | file (some content) => .ok content

/-- The content of the file at a path. -/
def read (tree : FileTree) : FileReader := fun path => do
  (← tree.find path).content

/-- Write something into a folder under a name, in place of what had it. -/
def put (name : Text) (child : FileTree) : List (Text × FileTree) → List (Text × FileTree)
  | [] => [(name, child)]
  | e :: rest => if e.1 = name then (name, child) :: rest else e :: put name child rest

/-- The tree with something more in it; the folders on the way are made. -/
def insert (new : FileTree) : List Text → FileTree → FileTree
  | [], tree =>
    match new, tree with
    | folder [], folder entries => folder entries
    | new, _ => new
  | name :: rest, tree =>
    let child := (tree.entries.lookup name).getD (folder [])
    folder (put name (insert new rest child) tree.entries)

/-- The tree of files with their paths. -/
def ofList (files : List (Text × FileTree)) : FileTree :=
  files.foldl (fun tree f => insert f.2 (Path.names f.1) tree) (folder [])

end FileTree

end PromptLoom
