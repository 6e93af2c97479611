/-! # Values with 53 significant bits

The finite values of the 64-bit binary format, as naturals times powers of two, and the one that is
nearest to a quotient of naturals. Of two nearest values the one with the even significand is taken.
-/

namespace PromptLoom.Decimal

/-- A quotient rounded to the nearest natural, a half to the even one. -/
def roundDiv (num den : Nat) : Nat :=
  let quotient := num / den
  let rest := num % den
  if 2 * rest < den ∨ (2 * rest = den ∧ quotient % 2 = 0) then quotient else quotient + 1

/-- `num` over `den`, multiplied by a power of two. -/
def scaleTwo (num den : Nat) (power : Int) : Nat × Nat :=
  (num <<< power.toNat, den <<< (-power).toNat)

/-- The greatest power of two that is not above a positive quotient. -/
def floorLog2 (num den : Nat) : Int :=
  let estimate : Int := num.log2 - den.log2
  let (n, d) := scaleTwo num den (-estimate)
  if d ≤ n then estimate else estimate - 1

/-- `significand * 2 ^ exponent`. A significand has 53 bits, fewer only with the least exponent. -/
structure Binary64 where
  significand : Nat
  exponent : Int
  deriving DecidableEq

namespace Binary64

def leastExponent : Int := -1074

def greatestExponent : Int := 971

/-- The value nearest to a quotient; `none` when that is beyond the greatest finite value. -/
def nearest? (num den : Nat) : Option Binary64 :=
  if num = 0 then some ⟨0, leastExponent⟩
  else
    let exponent := max (floorLog2 num den - 52) leastExponent
    let (n, d) := scaleTwo num den (-exponent)
    let significand := roundDiv n d
    let value : Binary64 :=
      if significand = 1 <<< 53 then ⟨1 <<< 52, exponent + 1⟩ else ⟨significand, exponent⟩
    if value.exponent ≤ greatestExponent then some value else none

/-- Whether the value below is half as far away as the value above. -/
def narrowBelow (x : Binary64) : Bool :=
  x.significand = 1 <<< 52 ∧ leastExponent < x.exponent

/-- Four times the value times `2 ^ scale`, and likewise the ends of the interval of numbers to
which the value is nearest; `scale` makes all three natural. -/
def scale (x : Binary64) : Nat :=
  (-x.exponent).toNat

/-- The lower end of the numbers that round to the value, times `4 * 2 ^ scale`. -/
def lower (x : Binary64) : Nat :=
  (4 * x.significand - if x.narrowBelow then 1 else 2) <<< x.exponent.toNat

/-- The upper end of the numbers that round to the value, times `4 * 2 ^ scale`. -/
def upper (x : Binary64) : Nat :=
  (4 * x.significand + 2) <<< x.exponent.toNat

/-- Whether `mantissa * 10 ^ power` rounds to the value. The ends of the interval do exactly when
the significand is even. -/
def readsBack (x : Binary64) (mantissa : Nat) (power : Int) : Bool :=
  let written := (4 * mantissa * Nat.pow 10 power.toNat) <<< x.scale
  let unit := Nat.pow 10 (-power).toNat
  if x.significand % 2 = 0 then x.lower * unit ≤ written && written ≤ x.upper * unit
  else x.lower * unit < written && written < x.upper * unit

end Binary64

end PromptLoom.Decimal
