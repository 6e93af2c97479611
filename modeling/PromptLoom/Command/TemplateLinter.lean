import PromptLoom.Command.Finished
import PromptLoom.Library.File
import PromptLoom.Lint

/-! # Checking library files

Reads one library file or all those of a folder, and reports what is wrong with the templates.
-/

namespace PromptLoom.Command.TemplateLinter

def usage : Text :=
  line "Usage: template_linter <library_file_or_dir>"

/-- What was read so far, and what was written on the way. -/
structure Loading where
  library : Library := .empty
  out : Text := []
  err : Text := []

namespace Loading

/-- Read one more file. Files of no notation are passed over. -/
def addFile (l : Loading) (path : Text) (content : Except FileError Text) : Loading :=
  if (Format.ofPath? path).isNone then l
  else
    match Library.load (fun _ => content) path with
    | .ok loaded =>
      { l with
        library := l.library.merge loaded
        out := l.out ++ "  Loaded: ".toList ++ path ++ ['\n'] }
    | .error cause =>
      { l with
        err :=
          l.err ++ "  ERROR loading ".toList ++ path ++ ": ".toList ++ cause.message ++ ['\n'] }

mutual

/-- Read a file, or all files in a folder and in those below it. -/
def addTree (l : Loading) (path : Text) : FileTree → Loading
  | .file content => l.addFile path (FileTree.file content).content
  | .folder entries => addEntries l path entries

/-- Read what a folder holds, one after the other. -/
def addEntries (l : Loading) (folder : Text) : List (Text × FileTree) → Loading
  | [] => l
  | (name, tree) :: rest => addEntries (addTree l (Path.join folder name) tree) folder rest

end

end Loading

/-- The report on a library. -/
def reportText (size : Nat) (r : Report) : Text :=
  Text.ofLines
    (["Loaded ".toList ++ Decimal.digits size ++ " keywords".toList, [],
      "=== Template Lint Report ===".toList, []] ++
      (if r.errors.isEmpty && r.warnings.isEmpty then ["All checks passed!".toList] else []) ++
      r.warnings.map (fun w => "WARNING: ".toList ++ w.message) ++
      r.errors.map (fun e => "ERROR: ".toList ++ e.message) ++
      [[], "Summary: ".toList ++ Decimal.digits r.errors.length ++ " errors, ".toList ++
        Decimal.digits r.warnings.length ++ " warnings".toList])

/-- Check what was read; errors in it make the command fail. -/
def finish (l : Loading) : Finished :=
  let report := lint l.library
  { out := l.out ++ reportText l.library.size report
    err := l.err
    exitCode := if report.isClean then 0 else 1 }

def failure (message : Text) : Finished :=
  { err := "ERROR: ".toList ++ message ++ ['\n'], exitCode := 1 }

/-- Check what a path leads to. -/
def check (path : Text) : Except FileError FileTree → Finished
  | .error _ => failure ("Path '".toList ++ path ++ "' does not exist".toList)
  | .ok (.folder entries) => finish (Loading.addEntries {} path entries)
  | .ok (.file content) =>
    match Library.load (fun _ => (FileTree.file content).content) path with
    | .ok library => finish { library }
    | .error cause => failure ("Failed to load library file: ".toList ++ cause.message)

/-- The whole command, with what each path leads to. Arguments after the first one are ignored. -/
def run (find : Text → Except FileError FileTree) (arguments : List Text) : Finished :=
  match asksHelp arguments, arguments with
  | false, path :: _ => check path (find path)
  | _, _ => { out := usage }

end PromptLoom.Command.TemplateLinter
