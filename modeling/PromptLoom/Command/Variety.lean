import PromptLoom.Decimal.Binary64
import PromptLoom.Library
import PromptLoom.Text.Case.Upper

/-! # How much prompts vary

The figures about many prompts for one keyword.
-/

namespace PromptLoom.Command

/-- The figures about a list of prompts. -/
structure Variety where
  /-- How many prompts there are. -/
  count : Nat
  /-- How many of them differ. -/
  unique : Nat
  /-- Their length in bytes on average, a half rounded to the even number. -/
  averageLength : Nat
  /-- How many of them hold a keyword in upper case. -/
  withFallbacks : Nat
  deriving DecidableEq

namespace Variety

/-- Whether a prompt holds one of the keywords in upper case. -/
def showsFallback (keywords : List Text) (prompt : Text) : Bool :=
  keywords.any fun k => Text.holds (Text.upper k) prompt

/-- The figures about prompts that were made with the given keywords. -/
def ofPrompts (keywords prompts : List Text) : Variety where
  count := prompts.length
  unique := (Text.distinct prompts).length
  averageLength := Decimal.roundDiv (Text.byteLength prompts.flatten) prompts.length
  withFallbacks := prompts.countP (showsFallback keywords)

end Variety

end PromptLoom.Command
