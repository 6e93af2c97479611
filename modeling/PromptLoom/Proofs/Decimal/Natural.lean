import PromptLoom.Decimal.Natural

/-! # Digits read back

The digits of a number in a base up to sixteen are read as that number again. Reading goes on after
a number that is already read, which is what the induction over the digits needs.
-/

namespace PromptLoom.Decimal

variable {base n d : Nat}

theorem digitValue?_digitChar (small : d < 16) : digitValue? d.digitChar = some d := by
  have each : ∀ d < 16, digitValue? d.digitChar = some d := by decide
  exact each d small

theorem readFrom_append {value : Nat} {s t : Text} :
    readFrom base value (s ++ t) = (readFrom base value s).bind (readFrom base · t) := by
  induction s generalizing value with
  | nil => rfl
  | cons c s ih =>
      simp only [List.cons_append, readFrom]
      cases digitValue? c with
      | none => rfl
      | some d =>
          simp only
          split
          · exact ih
          · rfl

theorem readFrom_digit {value : Nat} (below : d < base) (small : base ≤ 16) :
    readFrom base value [d.digitChar] = some (value * base + d) := by
  simp [readFrom, digitValue?_digitChar (Nat.lt_of_lt_of_le below small), below]

theorem readFrom_toDigits (binary : 1 < base) (small : base ≤ 16) (n : Nat) :
    readFrom base 0 (Nat.toDigits base n) = some n := by
  induction n using Nat.base_induction base binary with
  | single d below =>
      rw [Nat.toDigits_of_lt_base below, readFrom_digit below small, Nat.zero_mul, Nat.zero_add]
  | digit n d below positive ih =>
      rw [← Nat.toDigits_append_toDigits binary positive below, readFrom_append, ih,
        Nat.toDigits_of_lt_base below, Option.bind_some, readFrom_digit below small, Nat.mul_comm]

theorem readBase?_toDigits (binary : 1 < base) (small : base ≤ 16) (n : Nat) :
    readBase? base (Nat.toDigits base n) = some n := by
  simp [readBase?, readFrom_toDigits binary small]

theorem digits_ne_nil (n : Nat) : digits n ≠ [] :=
  Nat.toDigits_ne_nil

theorem isDigit_of_mem_digits {c : Char} (member : c ∈ digits n) : c.isDigit = true :=
  Nat.isDigit_of_mem_toDigits (by decide) (by decide) member

/-- The digits of a number of 64 bits are read as that number. -/
theorem readWord?_digits (small : n < UInt64.size) : readWord? (digits n) = some n := by
  have read : read? (digits n) = some n := readBase?_toDigits (by decide) (by decide) n
  unfold readWord?
  split
  · rename_i rest signed
    rw [signed] at read
    cases read
  · simp only [read]
    simpa using small

theorem isSome_digitValue?_of_readFrom {value : Nat} {t : Text} {c : Char}
    (read : readFrom base value t = some n) (member : c ∈ t) :
    (digitValue? c).isSome = true := by
  induction t generalizing value with
  | nil => cases member
  | cons d t ih =>
      simp only [readFrom] at read
      split at read
      · rename_i digit valued
        split at read
        · rcases List.mem_cons.mp member with rfl | later
          · rw [valued, Option.isSome_some]
          · exact ih read later
        · cases read
      · cases read

end PromptLoom.Decimal
