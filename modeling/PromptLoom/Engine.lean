import PromptLoom.Library.File
import PromptLoom.Ron.Record

/-! # Engines

An engine holds a library, its limits and a random source that lives from one prompt to the next.
-/

namespace PromptLoom

/-- Why an engine cannot be built. -/
inductive EngineError where
  | library (cause : LibraryError)
  /-- The file with the settings cannot be read. -/
  | file (cause : FileError)
  /-- The text of that file is no settings. -/
  | ron
  deriving DecidableEq

def EngineError.message : EngineError → Text
  | library cause => "library error: ".toList ++ cause.message
  | file cause => "IO error: ".toList ++ cause.message
  | ron => "RON error:".toList

/-- Read the settings in a file. -/
def Config.load (reader : FileReader) (path : Text) : Except EngineError Config :=
  match reader path with
  | .error cause => .error (.file cause)
  | .ok content => (Ron.readConfig? content).elim (.error .ron) .ok

/-- A library, its limits and a random source. -/
structure Engine where
  library : Library
  limits : Limits
  source : Random.Source

/-- What an engine is built from. -/
structure Setup where
  /-- Takes the place of the seed in the settings. -/
  seed : Option UInt64 := none
  /-- Take the place of the limits in the settings. -/
  limits : Option Limits := none
  config : Option Config := none
  /-- The file with the settings, which takes the place of `config`. -/
  configPath : Option Text := none
  /-- The entries that the files can override. -/
  library : Option Library := none
  /-- Library files that are read after those of the settings. -/
  libraryPaths : List Text := []

namespace Setup

/-- The settings of a setup. -/
def settings (s : Setup) (reader : FileReader) : Except EngineError Config :=
  match s.configPath with
  | some path => Config.load reader path
  | none => .ok (s.config.getD {})

/-- Merge the libraries in files into a library, one after the other, and report each of them. -/
def mergeFiles (reader : FileReader) (library : Library) :
    List Text → List Event × Except LibraryError Library
  | [] => ([], .ok library)
  | path :: rest =>
    match Library.load reader path with
    | .error cause => ([], .error cause)
    | .ok loaded =>
      let (events, result) := mergeFiles reader (library.merge loaded) rest
      (.loaded path loaded.size :: events, result)

/-- Build an engine; without a seed it draws from `entropy`. The events tell which libraries were
read before it was built or failed. -/
def build (s : Setup) (reader : FileReader) (entropy : Random.Source) :
    List Event × Except EngineError Engine :=
  match s.settings reader with
  | .error cause => ([], .error cause)
  | .ok settings =>
    let (events, result) :=
      mergeFiles reader (s.library.getD .empty) (settings.libraries ++ s.libraryPaths)
    match result with
    | .error cause => (events, .error (.library cause))
    | .ok library =>
      let seed := s.seed.or settings.seed
      (events, .ok {
        library
        limits := s.limits.getD settings.limits
        source := seed.elim entropy .seeded })

end Setup

namespace Engine

def expander (e : Engine) : Expander := ⟨e.library, e.limits⟩

/-- The text of a request. -/
def generateMany (e : Engine) (passes : Nat) (request : Request) : Run Text :=
  e.expander.generate passes request

/-- One prompt for a keyword. -/
def generate (e : Engine) (passes : Nat) (keyword : Text) : Run Text :=
  e.generateMany passes { keyword }

/-- Prompts for a keyword, one after the other. -/
def generateVariants (e : Engine) (passes : Nat) (keyword : Text) : Nat → Run (List Text)
  | 0 => pure []
  | count + 1 => do
    let first ← e.generate passes keyword
    return first :: (← generateVariants e passes keyword count)

/-- Run something on the source of an engine; gives also the engine after it. -/
def run {α : Type} (e : Engine) (x : Run α) : Option (Outcome α × Engine) :=
  (x e.source).map fun o => (o, { e with source := o.source })

/-- The engine with a source of the given seed. -/
def reseed (e : Engine) (seed : UInt64) : Engine :=
  { e with source := .seeded seed }

end Engine

end PromptLoom
