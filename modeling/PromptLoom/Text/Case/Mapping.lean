import PromptLoom.Text.Basic

/-! # Case mappings

A case mapping of characters is a table of ranges whose members move by one distance, and a list of
characters that become more than one. Every other character stays as it is.
-/

namespace PromptLoom.Text

/-- Every `step`-th code point from `first` to `last` moves by `shift`. -/
structure CaseRange where
  first : Nat
  last : Nat
  step : Nat
  shift : Int

namespace CaseRange

/-- Where the range moves a code point to, if it holds it. -/
def move? (r : CaseRange) (code : Nat) : Option Nat :=
  if r.first ≤ code ∧ code ≤ r.last ∧ (code - r.first) % r.step = 0 then
    some (code + r.shift).toNat
  else none

end CaseRange

/-- A mapping of characters to texts. -/
structure CaseMapping where
  /-- Characters that become one character. -/
  ranges : List CaseRange
  /-- Code points that become several. -/
  expansions : List (Nat × List Nat)

namespace CaseMapping

/-- The text that a character becomes. -/
def mapChar (m : CaseMapping) (c : Char) : Text :=
  match m.expansions.lookup c.toNat with
  | some codes => codes.map Char.ofNat
  | none =>
    match m.ranges.findSome? (·.move? c.toNat) with
    | some code => [Char.ofNat code]
    | none => [c]

/-- Map every character of a text. -/
def map (m : CaseMapping) (t : Text) : Text :=
  t.flatMap m.mapChar

end CaseMapping

end PromptLoom.Text
