import PromptLoom.Random.Source
import PromptLoom.Text.Basic

/-! # Pools and selections

A pool holds the templates of a keyword. A selection draws from it, with or without repeats, and its
picks are joined to a list as in "a, b and c".
-/

namespace PromptLoom

/-- The candidates of a keyword. -/
inductive Pool where
  /-- One value, of which any number of copies can be drawn. -/
  | scalar (value : Text)
  /-- Candidates in the order in which they were written. -/
  | collection (items : List Text)
  deriving DecidableEq

namespace Pool

def items : Pool → List Text
  | scalar value => [value]
  | collection items => items

/-- Whether there is nothing to draw from. -/
def isEmpty : Pool → Bool
  | scalar _ => false
  | collection items => items.isEmpty

/-- The number of different values. -/
def distinctCount (p : Pool) : Nat :=
  (Text.distinct p.items).length

/-- What is drawn from when `amount` picks are asked for: a single value stands there `amount`
times. -/
def candidates (amount : Nat) : Pool → List Text
  | scalar value => List.replicate amount value
  | collection items => items

/-- Draw `amount` times from the candidates. Without repeats every copy of a drawn value is removed
before the next draw; `none` when no candidate is left. -/
def pick (repeats : Bool) : Nat → List Text → Random.Draw (Option (List Text))
  | 0, _ => pure (some [])
  | amount + 1, working => do
    if working.isEmpty then return none
    let choice := working.getD (← Random.draw working.length) []
    let others := if repeats then working else working.filter (· ≠ choice)
    return (← pick repeats amount others).map (choice :: ·)

/-- The picks of a selection. Repeats are allowed, whatever `repeats` says, when the pool has fewer
different values than picks are asked for. `none` for no picks and for a pool with no candidates. -/
def picks (p : Pool) (amount : Nat) (repeats : Bool) : Random.Draw (Option (List Text)) :=
  if amount = 0 ∨ p.isEmpty then pure none
  else pick (repeats || p.distinctCount < amount) amount (p.candidates amount)

end Pool

namespace Text

/-- The items that follow the first one of a list, each with what connects it to the one before. -/
def joinRest : List Text → Text
  | [] => []
  | [last] => " and ".toList ++ last
  | item :: rest => ", ".toList ++ item ++ joinRest rest

/-- Items as a list in a sentence: "a", "a and b", "a, b and c". -/
def joinList : List Text → Text
  | [] => []
  | first :: rest => first ++ joinRest rest

end Text

/-- Draw picks from a pool and join them. -/
def Pool.select (p : Pool) (amount : Nat) (repeats : Bool) : Random.Draw (Option Text) := do
  return (← p.picks amount repeats).map Text.joinList

end PromptLoom
