import PromptLoom.Command.Preview
import PromptLoom.Command.TemplateLinter

/-! # Command line

Runs the two tools on the files and the console of the system. The first argument names the tool.
-/

namespace PromptLoom.Main

open Command

/-- More replacements than any prompt makes at one node. -/
def passes : Nat := 1 <<< 40

/-- The content of a file. -/
def readFile (path : Text) : IO (Except FileError Text) := do
  let place := System.mkFilePath [String.ofList path]
  if ← place.isDir then return .error .isAFolder
  match ← (IO.FS.readBinFile place).toBaseIO with
  | .ok bytes => return (String.fromUTF8? bytes).elim (.error .notText) fun s => .ok s.toList
  | .error (.noFileOrDirectory ..) => return .error .noSuchFile
  | .error (.inappropriateType ..) => return .error .notAFolder
  | .error e => return .error (.other (toString e).toList)

/-- The file or folder at a path, with all that it holds. -/
partial def readTree (path : Text) : IO (Except FileError FileTree) := do
  let place := System.mkFilePath [String.ofList path]
  if ← place.isDir then
    let mut entries := []
    for entry in ← place.readDir do
      let name := entry.fileName.toList
      if let .ok tree ← readTree (Path.join path name) then entries := entries ++ [(name, tree)]
    return .ok (.folder entries)
  else if ← place.pathExists then
    match ← readFile path with
    | .ok content => return .ok (.file (some content))
    | .error _ => return .ok (.file none)
  else return .error .noSuchFile

/-- Write what a command leaves. -/
def finish (f : Finished) : IO UInt32 := do
  (← IO.getStdout).putStr (String.ofList f.out)
  (← IO.getStderr).putStr (String.ofList f.err)
  return UInt32.ofNat f.exitCode

/-- Read up to the end of a line, or of the input, after the bytes that are already read. -/
partial def readLine (input : IO.FS.Stream) (line : ByteArray) : IO ByteArray := do
  let next ← input.read 1
  if next.isEmpty || next.toList = [10] then return line ++ next
  else readLine input (line ++ next)

/-- Answer lines until the shell ends, the input ends or a line is no text. -/
partial def shell (session : Preview.Session) : IO Unit := do
  let output ← IO.getStdout
  output.putStr (String.ofList Preview.Session.promptMark)
  output.flush
  let bytes ← readLine (← IO.getStdin) .empty
  if bytes.isEmpty then return
  match String.fromUTF8? bytes with
  | none => return
  | some line =>
    match session.respond passes line.toList with
    | none => return
    | some reply =>
      output.putStr (String.ofList reply.out)
      output.flush
      if let some next := reply.next then shell next

/-- Run the shell on the library files that the arguments name. -/
def preview (arguments : List Text) : IO UInt32 := do
  let paths := match Preview.Options.read {} arguments with
    | .ok options => options.libraries
    | .error _ => []
  let files ← paths.mapM fun path => return (path, ← readFile path)
  let reader : FileReader := fun path => (files.lookup path).getD (.error .noSuchFile)
  match Preview.start reader arguments with
  | .error finished => finish finished
  | .ok session =>
    (← IO.getStdout).putStr (String.ofList (Preview.greeting session))
    shell session
    return 0

/-- Check the file or folder that the first argument names. -/
def templateLinter (arguments : List Text) : IO UInt32 := do
  let found ← match arguments with
    | [] => pure (.error .noSuchFile)
    | path :: _ => readTree path
  finish (TemplateLinter.run (fun _ => found) arguments)

end PromptLoom.Main

open PromptLoom.Main

def main (arguments : List String) : IO UInt32 := do
  match arguments with
  | "preview" :: rest => preview (rest.map String.toList)
  | "template_linter" :: rest => templateLinter (rest.map String.toList)
  | _ =>
    IO.eprintln "Usage: promptloom preview|template_linter <arguments>"
    return 1
