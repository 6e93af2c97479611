import Mathlib.Data.Nat.Digits.Defs
import Mathlib.Tactic.Ring
import PromptLoom.Decimal.Natural

/-! # Which texts are numbers

A text is read as a decimal number if and only if it consists of ASCII digits, and then its value is
the one of these digits. A number of 64 bits may have one plus sign in front.
-/

namespace PromptLoom.Decimal

variable {value n : Nat} {t : Text}

/-- The number that decimal digits write, the highest digit first. -/
def valueOf (digits : Text) : Nat :=
  Nat.ofDigits 10 (digits.reverse.map fun c => c.toNat - '0'.toNat)

theorem valueOf_cons (c : Char) (t : Text) :
    valueOf (c :: t) = (c.toNat - '0'.toNat) * 10 ^ t.length + valueOf t := by
  simp [valueOf, Nat.ofDigits_append, Nat.add_comm, Nat.mul_comm]

theorem isDigit_iff {c : Char} : c.isDigit = true ↔ '0' ≤ c ∧ c ≤ '9' := by
  simp [Char.isDigit, Char.le_def]

theorem digitValue?_of_isDigit {c : Char} (digit : c.isDigit = true) :
    digitValue? c = some (c.toNat - '0'.toNat) ∧ c.toNat - '0'.toNat < 10 := by
  obtain ⟨least, greatest⟩ := isDigit_iff.mp digit
  refine ⟨by rw [digitValue?, if_pos ⟨least, greatest⟩], ?_⟩
  have nine : c.toNat ≤ '9'.toNat := greatest
  have values : '0'.toNat = 48 ∧ '9'.toNat = 57 := ⟨rfl, rfl⟩
  omega

/-- The letters that are digits of greater bases count from ten. -/
theorem ten_le_of_digitValue? {c : Char} {d : Nat} (other : ¬ c.isDigit = true)
    (valued : digitValue? c = some d) : 10 ≤ d := by
  rw [digitValue?, if_neg fun within => other (isDigit_iff.mpr within)] at valued
  split at valued
  · simp only [Option.some.injEq] at valued
    omega
  · split at valued
    · simp only [Option.some.injEq] at valued
      omega
    · cases valued

theorem readFrom_eq_some_iff :
    readFrom 10 value t = some n ↔
      (∀ c ∈ t, c.isDigit = true) ∧ value * 10 ^ t.length + valueOf t = n := by
  induction t generalizing value with
  | nil => simp [readFrom, valueOf]
  | cons c t ih =>
      rw [List.forall_mem_cons]
      by_cases digit : c.isDigit = true
      · obtain ⟨valued, small⟩ := digitValue?_of_isDigit digit
        have carried : (value * 10 + (c.toNat - '0'.toNat)) * 10 ^ t.length + valueOf t =
            value * 10 ^ (c :: t).length + valueOf (c :: t) := by
          rw [valueOf_cons, List.length_cons, Nat.pow_succ]
          ring
        simp only [readFrom, valued, small, if_true, ih, digit, true_and, carried]
      · have refused : readFrom 10 value (c :: t) = none := by
          rw [readFrom]
          split
          · rename_i d valued
            exact if_neg (Nat.not_lt.mpr (ten_le_of_digitValue? digit valued))
          · rfl
        simp [refused, digit]

theorem read?_eq_some_iff :
    read? t = some n ↔ t ≠ [] ∧ (∀ c ∈ t, c.isDigit = true) ∧ valueOf t = n := by
  cases t with
  | nil => simp [read?, readBase?]
  | cons c t =>
      have opened : read? (c :: t) = readFrom 10 0 (c :: t) := rfl
      simp [opened, readFrom_eq_some_iff]

/-- A number of 64 bits is one or more digits, perhaps with a plus sign in front. -/
theorem readWord?_eq_some_iff :
    readWord? t = some n ↔
      ∃ sign digits, t = sign ++ digits ∧ (sign = [] ∨ sign = ['+']) ∧ digits ≠ [] ∧
        (∀ c ∈ digits, c.isDigit = true) ∧ valueOf digits = n ∧ n < UInt64.size := by
  constructor
  · intro read
    unfold readWord? at read
    split at read
    · rename_i rest
      simp only [Option.filter_eq_some_iff, read?_eq_some_iff, decide_eq_true_eq] at read
      obtain ⟨⟨nonempty, decimal, valued⟩, small⟩ := read
      exact ⟨['+'], rest, rfl, .inr rfl, nonempty, decimal, valued, small⟩
    · simp only [Option.filter_eq_some_iff, read?_eq_some_iff, decide_eq_true_eq] at read
      obtain ⟨⟨nonempty, decimal, valued⟩, small⟩ := read
      exact ⟨[], t, rfl, .inl rfl, nonempty, decimal, valued, small⟩
  · rintro ⟨sign, digits, rfl, signed, nonempty, decimal, rfl, small⟩
    have read : read? digits = some (valueOf digits) :=
      read?_eq_some_iff.mpr ⟨nonempty, decimal, rfl⟩
    rcases signed with rfl | rfl
    · unfold readWord?
      split
      · rename_i rest plus
        obtain rfl : digits = '+' :: rest := plus
        exact absurd (decimal '+' List.mem_cons_self) (by decide)
      · simpa [read] using small
    · simpa [readWord?, read] using small

end PromptLoom.Decimal
