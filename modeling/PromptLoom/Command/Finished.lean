import PromptLoom.Text.Basic

/-! # What a command leaves

Both command line tools end with two texts and an exit code.
-/

namespace PromptLoom.Command

/-- The output of a command that has ended. -/
structure Finished where
  out : Text := []
  err : Text := []
  exitCode : Nat := 0
  deriving DecidableEq

/-- A line of a fixed text. -/
def line (s : String) : Text :=
  s.toList ++ ['\n']

/-- Whether the arguments ask for help: there are none, or the first one says so. -/
def asksHelp : List Text → Bool
  | [] => true
  | first :: _ => first = "--help".toList || first = "-h".toList

end PromptLoom.Command
