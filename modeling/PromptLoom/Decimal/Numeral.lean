import PromptLoom.Decimal.Shortest

/-! # Numerals

A numeral with a fraction or an exponent stands for the nearest 64-bit binary value, and its text is
the shortest decimal of that value.
-/

namespace PromptLoom.Decimal

/-- A signed decimal: `mantissa * 10 ^ power`, negated if `negative`. -/
structure Numeral where
  negative : Bool
  mantissa : Nat
  power : Int
  deriving DecidableEq

namespace Numeral

/-- Beyond these powers of ten every value is infinite or zero. -/
def powerBound : Int := 400

/-- The nearest binary value to the numeral without its sign; `none` when it is infinite. -/
def value? (n : Numeral) : Option Binary64 :=
  let magnitude := n.power + (digits n.mantissa).length
  if n.mantissa = 0 ∨ magnitude < -powerBound then some ⟨0, Binary64.leastExponent⟩
  else if powerBound < magnitude then none
  else Binary64.nearest? (n.mantissa * Nat.pow 10 n.power.toNat) (Nat.pow 10 (-n.power).toNat)

/-- Whether the nearest value is finite. -/
def isFinite (n : Numeral) : Bool :=
  n.value?.isSome

/-- The text of the nearest value, with the sign also of a zero. -/
def written (n : Numeral) : Text :=
  let unsigned := match n.value? with
    | none => "inf".toList
    | some x => x.written
  if n.negative then '-' :: unsigned else unsigned

/-- Cut a sign off a text; `true` for a minus sign. -/
def cutSign : Text → Bool × Text
  | '-' :: rest => (true, rest)
  | '+' :: rest => (false, rest)
  | t => (false, t)

/-- Read what follows the mark of an exponent. -/
def readExponent? (t : Text) : Option Int :=
  let (negative, unsigned) := cutSign t
  (read? unsigned).map fun n => if negative then -(n : Int) else n

/-- Read digits with an optional fraction and an optional exponent; there is a digit before or after
the point. -/
def read? (t : Text) : Option Numeral :=
  let (negative, unsigned) := cutSign t
  let lowered := unsigned.map fun c => if c = 'E' then 'e' else c
  let (significant, exponent) := match Text.cut 'e' lowered with
    | none => (unsigned, some 0)
    | some (before, after) => (before, readExponent? after)
  let (whole, fraction) := (Text.cut '.' significant).getD (significant, [])
  match Decimal.read? (whole ++ fraction), exponent with
  | some mantissa, some exponent => some ⟨negative, mantissa, exponent - fraction.length⟩
  | _, _ => none

end Numeral

end PromptLoom.Decimal
