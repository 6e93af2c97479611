import PromptLoom.Yaml.Place

/-! # Tokens of block notation

The marks, words and scalars of a document, with the starts and ends of blocks that only the
indentation shows.
-/

namespace PromptLoom.Yaml

inductive Token where
  | versionDirective (major minor : Nat)
  | tagDirective (handle lead : Text)
  | documentStart
  | documentEnd
  | blockSequenceStart
  | blockMappingStart
  | blockEnd
  | flowSequenceStart
  | flowSequenceEnd
  | flowMappingStart
  | flowMappingEnd
  | blockEntry
  | flowEntry
  | key
  | value
  | alias (name : Text)
  | anchor (name : Text)
  | tag (handle suffix : Text)
  /-- A scalar without quotes is plain; only that can be a number or a boolean. -/
  | scalar (plain : Bool) (content : Text)
  deriving DecidableEq

/-- Takes a value off the front of the places. -/
abbrev Scan (α : Type) : Type :=
  Places → Option (α × Places)

end PromptLoom.Yaml
