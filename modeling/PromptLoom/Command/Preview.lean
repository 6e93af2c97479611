import PromptLoom.Command.Finished
import PromptLoom.Command.Variety
import PromptLoom.Engine
import PromptLoom.Lint
import PromptLoom.Text.Blank
import PromptLoom.Text.Case.Lower

/-! # Trying out libraries

A shell that answers one line at a time with prompts from library files.
-/

namespace PromptLoom.Command.Preview

/-! ## Start -/

def usage : Text :=
  line "Usage: preview --library <path> [--library <path> ...] [--seed <n>]"

/-- What the arguments say. -/
structure Options where
  libraries : List Text := []
  seed : UInt64 := 42

/-- The options with those of further arguments, or the first argument that is none. A seed that is
no number of 64 bits counts as the default one. -/
def Options.read (o : Options) : List Text → Except Text Options
  | [] => .ok o
  | argument :: rest =>
    match String.ofList argument, rest with
    | "--library", path :: rest => read { o with libraries := o.libraries ++ [path] } rest
    | "--seed", n :: rest => read { o with seed := (Decimal.readWord? n).elim 42 UInt64.ofNat } rest
    | _, _ => .error argument

/-- A shell between two lines. -/
structure Session where
  engine : Engine
  /-- The seed that was set last. -/
  seed : UInt64

def writtenSeed (seed : UInt64) : Text :=
  Decimal.digits seed.toNat

def greeting (session : Session) : Text :=
  Text.ofLines
    ["Loaded ".toList ++ Decimal.digits session.engine.library.size ++ " keywords".toList,
     "Seed: ".toList ++ writtenSeed session.seed,
     "Type 'help' for commands.".toList, []]

/-- Read the libraries that the arguments name; the end of the command if that fails. -/
def start (reader : FileReader) (arguments : List Text) : Except Finished Session :=
  if asksHelp arguments then .error { out := usage }
  else
    match Options.read {} arguments with
    | .error argument =>
      .error {
        out := usage
        err := "Unknown argument: ".toList ++ argument ++ ['\n']
        exitCode := 1 }
    | .ok options =>
      let setup : Setup := { seed := some options.seed, libraryPaths := options.libraries }
      match (setup.build reader (.ofWords [])).2 with
      | .error cause =>
        .error { err := "ERROR: ".toList ++ cause.message ++ ['\n'], exitCode := 1 }
      | .ok engine => .ok ⟨engine, options.seed⟩

/-! ## Requests -/

/-- What a line asks for. -/
inductive Wish where
  | nothing
  | quit
  | help
  | prompt (request : Request)
  | bulk (keyword : Text) (count : Nat)
  | keywords
  | lint
  | currentSeed
  | reseed (seed : UInt64)
  /-- The line is answered with the given words. -/
  | refused (answer : Text)
  deriving DecidableEq

namespace Wish

/-- The text without the percent signs at its end. -/
def withoutPercent (word : Text) : Text :=
  (word.reverse.dropWhile (· = '%')).reverse

/-- A positive count of 64 bits. -/
def count? (word : Text) : Option Nat :=
  (Decimal.readWord? word).filter (0 < ·)

def invalidCount (word : Text) : Wish :=
  refused ("Invalid count: ".toList ++ word)

/-- Read what follows the word for one prompt: a keyword, perhaps a count, perhaps percent signs,
which may also stick to the end of a word. -/
def ofPromptWords : List Text → Wish
  | [] => refused "Usage: gen <keyword> [n] [%]".toList
  | keyword :: rest =>
    let repeats := rest.any fun word => word.getLast? = some '%'
    match rest with
    | [] => prompt ⟨keyword, 1, repeats⟩
    | word :: _ =>
      let written := withoutPercent word
      if written.isEmpty then prompt ⟨keyword, 1, repeats⟩
      else
        match count? written with
        | some amount => prompt ⟨keyword, amount, repeats⟩
        | none => invalidCount word

/-- Read what follows the word for many prompts. -/
def ofBulkWords : List Text → Wish
  | keyword :: word :: _ =>
    match count? word with
    | some count => bulk keyword count
    | none => invalidCount word
  | _ => refused "Usage: bulk <keyword> <n>".toList

/-- Read what follows the word for the seed. -/
def ofSeedWords : List Text → Wish
  | [] => currentSeed
  | word :: _ =>
    match Decimal.readWord? word with
    | some n => reseed (UInt64.ofNat n)
    | none => refused ("Invalid seed: ".toList ++ word)

/-- What a line asks for. Its first word counts in any case. -/
def ofLine (t : Text) : Wish :=
  match Text.words t with
  | [] => nothing
  | first :: rest =>
    let command := Text.lower first
    match String.ofList command with
    | "quit" | "exit" | "q" => quit
    | "help" | "h" | "?" => help
    | "gen" | "g" => ofPromptWords rest
    | "bulk" => ofBulkWords rest
    | "keywords" | "k" => keywords
    | "lint" => lint
    | "seed" => ofSeedWords rest
    | _ =>
      refused ("Unknown command: ".toList ++ command ++ ". Type 'help' for commands.".toList)

end Wish

/-! ## Answers -/

def helpText : Text :=
  line "Commands:" ++
  line "  gen <keyword> [n] [%]   Generate n picks; % allows repeats" ++
  line "  bulk <keyword> <n>      Generate n prompts with variety stats" ++
  line "  keywords                List valid keywords" ++
  line "  lint                    Check the loaded library for problems" ++
  line "  seed <n>                Set RNG seed" ++
  line "  help                    Show this help" ++
  line "  quit                    Exit"

/-- The warnings and errors of a report, and their numbers. -/
def reportText (r : Report) : Text :=
  Text.ofLines
    (r.warnings.map (fun w => "WARNING: ".toList ++ w.message) ++
      r.errors.map (fun e => "ERROR: ".toList ++ e.message) ++
      [Decimal.digits r.errors.length ++ " errors, ".toList ++
        Decimal.digits r.warnings.length ++ " warnings".toList])

/-- How many of many prompts are shown. -/
def sampleSize : Nat := 5

/-- The figures about prompts, and the first of them. -/
def varietyText (v : Variety) (prompts : List Text) : Text :=
  Text.ofLines
    ([[], "=== Bulk Generation: ".toList ++ Decimal.digits v.count ++ " prompts ===".toList, [],
      "Unique prompts: ".toList ++ Decimal.digits v.unique ++ " / ".toList ++
        Decimal.digits v.count,
      "Average length: ".toList ++ Decimal.digits v.averageLength ++ " chars".toList,
      "Prompts with fallbacks: ".toList ++ Decimal.digits v.withFallbacks, [],
      "--- Samples ---".toList] ++
      (prompts.take sampleSize).map ("  ".toList ++ ·) ++ [[]])

/-- The text of one prompt, after a note on a keyword that the library does not have. -/
def promptText (library : Library) (keyword prompt : Text) : Text :=
  let note :=
    if library.contains keyword then []
    else "(note: '".toList ++ keyword ++ "' is not a known keyword)\n".toList
  note ++ '\n' :: prompt ++ "\n\n".toList

/-- The answer to a line. -/
structure Reply where
  out : Text
  /-- The shell after it, unless it ends. -/
  next : Option Session

namespace Session

/-- Grant a wish. -/
def grant (s : Session) (passes : Nat) : Wish → Option Reply
  | .nothing => some ⟨[], s⟩
  | .quit => some ⟨line "Goodbye.", none⟩
  | .help => some ⟨helpText, s⟩
  | .prompt request =>
    (s.engine.run (s.engine.generateMany passes request)).map fun (o, engine) =>
      ⟨promptText engine.library request.keyword o.value, some { s with engine }⟩
  | .bulk keyword count =>
    (s.engine.run (s.engine.generateVariants passes keyword count)).map fun (o, engine) =>
      let variety := Variety.ofPrompts engine.library.keywords o.value
      ⟨varietyText variety o.value, some { s with engine }⟩
  | .keywords =>
    let keywords := Text.joined ", ".toList s.engine.library.keywords
    some ⟨"Valid keywords: ".toList ++ keywords ++ ['\n'], s⟩
  | .lint => some ⟨reportText (PromptLoom.lint s.engine.library), s⟩
  | .currentSeed => some ⟨"Current seed: ".toList ++ writtenSeed s.seed ++ ['\n'], s⟩
  | .reseed seed =>
    some ⟨"Seed set to ".toList ++ writtenSeed seed ++ ['\n'], some ⟨s.engine.reseed seed, seed⟩⟩
  | .refused answer => some ⟨answer ++ ['\n'], s⟩

/-- Answer a line. -/
def respond (s : Session) (passes : Nat) (t : Text) : Option Reply :=
  s.grant passes (Wish.ofLine t)

/-- What stands in front of each line that is read. -/
def promptMark : Text :=
  "preview> ".toList

/-- All that is written until the shell ends or no line is left. -/
def transcript (s : Session) (passes : Nat) : List Text → Option Text
  | [] => some promptMark
  | first :: rest => do
    let reply ← s.respond passes first
    match reply.next with
    | none => return promptMark ++ reply.out
    | some next => return promptMark ++ reply.out ++ (← next.transcript passes rest)

end Session

/-- The whole command, with all lines of its input. -/
def run (passes : Nat) (reader : FileReader) (arguments lines : List Text) : Option Finished :=
  match start reader arguments with
  | .error finished => some finished
  | .ok session =>
    (session.transcript passes lines).map fun written => { out := greeting session ++ written }

end PromptLoom.Command.Preview
