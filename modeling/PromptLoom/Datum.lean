import PromptLoom.Decimal.Numeral
import PromptLoom.Pool

/-! # Values of library files

What a file gives for a keyword, as far as pools are concerned. A string, a boolean and a number are
all read as their text.
-/

namespace PromptLoom

/-- A value read from a file. -/
inductive Datum where
  /-- A string, a boolean or a number, as its text. -/
  | scalar (written : Text)
  | list (items : List Datum)
  /-- A value of any other form. -/
  | other

namespace Datum

/-- The text of a scalar. -/
def scalar? : Datum → Option Text
  | scalar written => some written
  | _ => none

def ofBool (b : Bool) : Datum :=
  scalar (if b then "true".toList else "false".toList)

/-- The text of an integer that has 64 bits, signed or unsigned. -/
def integerText? (negative : Bool) (magnitude : Nat) : Option Text :=
  if magnitude = 0 then some ['0']
  else if negative then
    if 2 * magnitude ≤ UInt64.size then some ('-' :: Decimal.digits magnitude) else none
  else if magnitude < UInt64.size then some (Decimal.digits magnitude)
  else none

/-- A number written with digits, or with a fraction or an exponent. Integers keep their digits when
they have 64 bits; every other number is a binary value, as is a zero with a minus sign. -/
def ofNumber? (written : Text) : Option Datum :=
  let (negative, unsigned) := Decimal.Numeral.cutSign written
  let integer := match Decimal.read? unsigned with
    | none => none
    | some 0 => if negative then none else some ['0']
    | some magnitude => integerText? negative magnitude
  match integer with
  | some text => some (scalar text)
  | none => (Decimal.Numeral.read? written).map fun n => scalar n.written

end Datum

/-- The pool that a value stands for: a scalar, or a list of scalars. -/
def Pool.ofDatum? : Datum → Option Pool
  | .scalar written => some (.scalar written)
  | .list items => (items.mapM Datum.scalar?).map .collection
  | .other => none

end PromptLoom
