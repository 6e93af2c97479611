import PromptLoom.Expansion.Run
import PromptLoom.Library
import PromptLoom.Text.Case.Upper
import PromptLoom.Wildcard.Scan

/-! # Expanding a keyword

A node draws templates of its keyword and replaces the leftmost wildcard of the drawn text, again
and again, until no wildcard is left. A wildcard is replaced by the expansion of its own keyword
one level deeper, and the replacement is scanned together with the text around it, so it can take
part in a wildcard that neither held alone. A node that fails is replaced by its keyword in upper
case.

How many replacements a node makes is bounded by a budget, `passes`: a splice can open a wildcard,
and there are libraries for which a node never comes to its end.
-/

namespace PromptLoom

/-- The bounds on one request. -/
structure Limits where
  /-- Deeper nodes fail. -/
  maxDepth : UInt64 := 5
  /-- Numbers of picks are moved into the range from one to this number. -/
  maxAmount : UInt64 := 10
  deriving DecidableEq

instance : Inhabited Limits := ⟨{}⟩

namespace Limits

/-- The number of picks in the allowed range that is nearest to `amount`. -/
def clamp (limits : Limits) (amount : Nat) : Nat :=
  min (max amount 1) (max limits.maxAmount.toNat 1)

/-- Clamp, and report it if it changes the number. -/
def clampAmount (limits : Limits) (amount : Nat) : Run Nat := do
  let clamped := limits.clamp amount
  if clamped ≠ amount then Run.emit (.clamped amount clamped)
  return clamped

end Limits

/-- What a node is asked for. -/
structure Request where
  keyword : Text
  amount : Nat := 1
  repeats : Bool := false
  deriving DecidableEq

/-- The placeholder that a failed node leaves. -/
def fallback (keyword : Text) : Text :=
  Text.upper keyword

namespace Expansion

/-- The text that replaces a wildcard with the given body, where `nested` expands its keyword. A
count of zero drops the wildcard. -/
def replacement (nested : Request → Run Text) (body : Text) : Run Text :=
  match Wildcard.parse body with
  | .error cause => do
    let keyword := Wildcard.keywordOf body
    Run.emit (.malformed keyword cause)
    return fallback keyword
  | .ok wildcard => do
    let amount ← match wildcard.count with
      | none => pure 1
      | some count => Run.ofDraw count.resolve
    if amount = 0 then return []
    nested ⟨wildcard.keyword, amount, wildcard.repeats⟩

/-- Go on with the passes over a text after the given events: nothing is left to do when the last
pass returns, so a node can make any number of them. -/
def substituteAfter (nested : Request → Run Text) (emitted : List Event) : Nat → Text → Run Text
  | passes, text, s =>
    match Wildcard.find? text with
    | none => some ⟨text, s, emitted⟩
    | some found =>
      match passes with
      | 0 => none
      | passes + 1 =>
        match replacement nested found.body s with
        | none => none
        | some spliced =>
          substituteAfter nested (emitted ++ spliced.events) passes
            (found.gap ++ spliced.value ++ found.rest) spliced.source

/-- Replace the leftmost wildcard until none is left. -/
def substitute (nested : Request → Run Text) (passes : Nat) (text : Text) : Run Text :=
  substituteAfter nested [] passes text

/-- Replace a failed node by its keyword in upper case. -/
def recover (depth : Nat) (request : Request) (node : Run (Except ExpansionError Text)) :
    Run Text := do
  match ← node with
  | .ok text => return text
  | .error cause =>
    Run.emit (.fellBack request.keyword depth cause)
    return fallback request.keyword

/-- Expand a node at `depth`, where `levels` more levels lie within the limit on the depth. -/
def expandWithin (library : Library) (limits : Limits) (passes : Nat) :
    Nat → Nat → Request → Run (Except ExpansionError Text)
  | 0, depth, _ => pure (.error (.depthExceeded depth limits.maxDepth.toNat))
  | levels + 1, depth, request =>
    match library.get? request.keyword with
    | none => pure (.error (.unknownKeyword request.keyword))
    | some pool => do
      let amount ← limits.clampAmount request.amount
      match ← Run.ofDraw (pool.select amount request.repeats) with
      | none => return .error (.emptyPool request.keyword)
      | some text =>
        let nested inner :=
          recover (depth + 1) inner
            (expandWithin library limits passes levels (depth + 1) inner)
        return .ok (← substitute nested passes text)

end Expansion

/-- Expands keywords of a library within limits. -/
structure Expander where
  library : Library
  limits : Limits := {}

namespace Expander

/-- Expand a node at the given depth, or say why it fails. -/
def expand (x : Expander) (passes depth : Nat) (request : Request) :
    Run (Except ExpansionError Text) :=
  Expansion.expandWithin x.library x.limits passes (x.limits.maxDepth.toNat + 1 - depth) depth
    request

/-- Expand a node at the given depth; its keyword in upper case if it fails. -/
def expandOrFallback (x : Expander) (passes depth : Nat) (request : Request) : Run Text :=
  Expansion.recover depth request (x.expand passes depth request)

/-- The expansion of a root request, or why it fails. Nested failures are replaced in place. -/
def tryGenerate (x : Expander) (passes : Nat) (request : Request) :
    Run (Except ExpansionError Text) :=
  x.expand passes 0 request

/-- The text of a root request. -/
def generate (x : Expander) (passes : Nat) (request : Request) : Run Text :=
  x.expandOrFallback passes 0 request

end Expander

end PromptLoom
