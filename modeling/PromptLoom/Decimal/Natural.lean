import PromptLoom.Text.Basic

/-! # Naturals in decimal

Writing a natural number with ASCII digits and reading one back. Leading zeros are read and never
written.
-/

namespace PromptLoom.Decimal

/-- The decimal digits of a natural, without leading zeros. -/
def digits (n : Nat) : Text :=
  Nat.toDigits 10 n

/-- The value of an ASCII digit in a base up to sixteen; letters count from ten in either case. -/
def digitValue? (c : Char) : Option Nat :=
  if '0' ≤ c ∧ c ≤ '9' then some (c.toNat - '0'.toNat)
  else if 'a' ≤ c ∧ c ≤ 'f' then some (c.toNat - 'a'.toNat + 10)
  else if 'A' ≤ c ∧ c ≤ 'F' then some (c.toNat - 'A'.toNat + 10)
  else none

/-- Read digits of the given base after a number that is already read. -/
def readFrom (base value : Nat) : Text → Option Nat
  | [] => some value
  | c :: rest =>
    match digitValue? c with
    | some d => if d < base then readFrom base (value * base + d) rest else none
    | none => none

/-- The number that a text of digits of the given base writes; `none` for the empty text and for
any other character. -/
def readBase? (base : Nat) (t : Text) : Option Nat :=
  if t.isEmpty then none else readFrom base 0 t

/-- The number that a text of decimal digits writes. -/
def read? (t : Text) : Option Nat :=
  readBase? 10 t

/-- A decimal number of 64 bits, with at most one `+` in front. -/
def readWord? (t : Text) : Option Nat :=
  let unsigned := match t with
    | '+' :: rest => rest
    | _ => t
  (read? unsigned).filter (· < UInt64.size)

end PromptLoom.Decimal
