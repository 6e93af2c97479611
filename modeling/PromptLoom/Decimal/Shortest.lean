import PromptLoom.Decimal.Binary64
import PromptLoom.Decimal.Natural

/-! # The shortest decimal of a value

A binary value is written with the fewest digits that read back to it; of two such decimals the
nearer one, and the upper one of two that are equally near. The text is positional, whatever the
exponent, and has a point only when there are digits after it.
-/

namespace PromptLoom.Decimal

namespace Binary64

/-- The least power of ten that is above a positive value. -/
def magnitude (x : Binary64) : Int :=
  let estimate := (x.exponent + x.significand.log2) * 30103 / 100000
  let above (k : Int) : Bool :=
    x.significand <<< x.exponent.toNat * Nat.pow 10 (-k).toNat < Nat.pow 10 k.toNat <<< x.scale
  ([estimate, estimate + 1, estimate + 2].find? above).getD (estimate + 3)

/-- The decimal that is a multiple of `10 ^ power`, has the value between itself and a neighbour of
that form, and reads back; the nearer one if both neighbours do. -/
def onGrid? (x : Binary64) (power : Int) : Option Nat :=
  let num := x.significand <<< x.exponent.toNat * Nat.pow 10 (-power).toNat
  let den := Nat.pow 10 power.toNat <<< x.scale
  let below := num / den
  match x.readsBack below power, x.readsBack (below + 1) power with
  | true, true => some (if 2 * (num % den) < den then below else below + 1)
  | true, false => some below
  | false, true => some (below + 1)
  | false, false => none

/-- The digits and the power of ten of the shortest decimal of a positive value. Seventeen digits
are always enough; failing that, the decimal is the exact value. -/
def shortest (x : Binary64) : Nat × Int :=
  let candidate (digits : Nat) : Option (Nat × Int) :=
    let power := x.magnitude - (digits + 1)
    (x.onGrid? power).map fun mantissa => (mantissa, power)
  ((List.range 17).findSome? candidate).getD
    (x.significand <<< x.exponent.toNat * Nat.pow 5 x.scale, -x.scale)

end Binary64

/-- The text without the zeros at its end, and their number. -/
def stripZeros (t : Text) : Text × Nat :=
  let kept := (t.reverse.dropWhile (· = '0')).reverse
  (kept, t.length - kept.length)

/-- `mantissa * 10 ^ power` for a positive mantissa, positional. -/
def positional (mantissa : Nat) (power : Int) : Text :=
  let (kept, zeros) := stripZeros (digits mantissa)
  let exponent := power + zeros
  if 0 ≤ exponent then kept ++ List.replicate exponent.toNat '0'
  else
    let places := (-exponent).toNat
    if places < kept.length then
      kept.take (kept.length - places) ++ '.' :: kept.drop (kept.length - places)
    else '0' :: '.' :: List.replicate (places - kept.length) '0' ++ kept

/-- The text of a value that is not negative. -/
def Binary64.written (x : Binary64) : Text :=
  if x.significand = 0 then ['0']
  else
    let (mantissa, power) := x.shortest
    positional mantissa power

end PromptLoom.Decimal
