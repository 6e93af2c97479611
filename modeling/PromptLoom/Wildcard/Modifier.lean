import PromptLoom.Decimal.Natural
import PromptLoom.Random.Source
import PromptLoom.Text.Blank

/-! # Wildcard bodies

A body is a keyword, optionally followed by a bar and a modifier. The modifier is a count, or two
counts with a minus sign between them for a random count from the first up to but not including the
second; a percent sign at its end allows repeats.
-/

namespace PromptLoom

/-- Why a modifier is refused. -/
inductive ModifierError where
  /-- A count has no characters but white space; the count as written. -/
  | emptyCount (written : Text)
  /-- A count is no 64-bit number; the count without white space around it. -/
  | notANumber (trimmed : Text)
  /-- The range holds no number. -/
  | emptyRange (low high : Nat)
  /-- Something follows the first percent sign; the whole modifier. -/
  | trailingText (modifier : Text)
  deriving DecidableEq

def ModifierError.message : ModifierError → Text
  | .emptyCount written => "empty count in '".toList ++ written ++ ['\'']
  | .notANumber trimmed => '\'' :: trimmed ++ "' is not a valid count".toList
  | .emptyRange low high =>
    "range ".toList ++ Decimal.digits low ++ '-' :: Decimal.digits high ++
      " is empty or inverted".toList
  | .trailingText modifier =>
    "unexpected text after repeat marker in '".toList ++ modifier ++ ['\'']

/-- How many picks a wildcard asks for. -/
inductive Count where
  | exact (n : Nat)
  /-- From `low` up to but not including `high`. -/
  | range (low high : Nat)
  deriving DecidableEq

namespace Count

/-- Read one bound of a count. -/
def readBound (written : Text) : Except ModifierError Nat :=
  let trimmed := Text.trim written
  if trimmed.isEmpty then .error (.emptyCount written)
  else
    match Decimal.readWord? trimmed with
    | some n => .ok n
    | none => .error (.notANumber trimmed)

/-- Read a number, or two numbers with a minus sign between them. What follows a second minus sign
is not looked at. -/
def read (written : Text) : Except ModifierError Count :=
  match Text.cut '-' written with
  | none => (readBound written).map exact
  | some (first, rest) => do
    let low ← readBound first
    let high ← readBound (rest.takeWhile (· ≠ '-'))
    if low < high then .ok (range low high) else .error (.emptyRange low high)

/-- The number of picks; a range is drawn from uniformly. -/
def resolve : Count → Random.Draw Nat
  | exact n => pure n
  | range low high => do return low + (← Random.draw (high - low))

/-- The greatest number of picks that the count allows. -/
def greatest : Count → Nat
  | exact n => n
  | range _ high => high - 1

end Count

/-- A wildcard whose body is well formed. -/
structure Wildcard where
  keyword : Text
  /-- One pick when there is no count. -/
  count : Option Count := none
  repeats : Bool := false
  deriving DecidableEq

namespace Wildcard

/-- Cut the percent sign off a modifier and tell whether there was one. -/
def cutRepeats (modifier : Text) : Except ModifierError (Text × Bool) :=
  match Text.cut '%' modifier with
  | none => .ok (modifier, false)
  | some (count, []) => .ok (count, true)
  | some (_, _ :: _) => .error (.trailingText modifier)

/-- Read the text between the marks of a wildcard. -/
def parse (body : Text) : Except ModifierError Wildcard :=
  match Text.cut '|' body with
  | none => .ok { keyword := body }
  | some (keyword, modifier) => do
    let (count, repeats) ← cutRepeats modifier
    return { keyword, count := some (← Count.read count), repeats }

/-- The part of a body that is its keyword, also when the modifier is refused. -/
def keywordOf (body : Text) : Text :=
  match Text.cut '|' body with
  | none => body
  | some (keyword, _) => keyword

end Wildcard

end PromptLoom
