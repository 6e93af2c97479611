import PromptLoom.Proofs.Decimal.Natural
import PromptLoom.Ron.Printer
import PromptLoom.Ron.Reader

/-! # Quoted texts

Every text can be written in quotes and is read back as itself, with whatever stands behind it left
over. There are three kinds of characters: those with a letter, those that are written by their code
point, and those that stand for themselves. The two with a meaning inside quotes are of the first
kind, so what is not printable never decides whether a text can be read.
-/

namespace PromptLoom.Ron

variable {c l : Char}

theorem charOfCode?_toNat (c : Char) : charOfCode? c.toNat = some c := by
  have valid : c.toNat.isValidChar := c.valid
  rw [charOfCode?, if_pos valid, Char.ofNat_toNat]

theorem escape_letter (letter : letter? c = some l) (rest : Text) :
    escape (l :: rest) = some (c, rest) := by
  unfold letter? at letter
  split at letter <;> cases letter <;> rfl

/-- No code point needs more than six digits. -/
theorem codePoint_toDigits (c : Char) (rest : Text) :
    codePoint (Nat.toDigits 16 c.toNat ++ '}' :: rest) = some (c, rest) := by
  have six : (Nat.toDigits 16 c.toNat).length ≤ 6 := by
    rw [Nat.length_toDigits_le_iff (by decide) (by decide)]
    have valid : c.toNat.isValidChar := c.valid
    rcases valid with low | ⟨-, high⟩ <;> omega
  have hex : (Nat.toDigits 16 c.toNat ++ '}' :: rest).takeWhile
      (fun d => (Decimal.digitValue? d).isSome) = Nat.toDigits 16 c.toNat := by
    have digits : ∀ d ∈ Nat.toDigits 16 c.toNat, (Decimal.digitValue? d).isSome = true :=
      fun d => Decimal.isSome_digitValue?_of_readFrom
        (Decimal.readFrom_toDigits (by decide) (by decide) c.toNat)
    rw [List.takeWhile_append_of_pos digits]
    have brace : (Decimal.digitValue? '}').isSome = false := by decide
    simp [brace]
  rw [codePoint, hex, if_neg (Nat.not_lt.mpr six)]
  simp [Decimal.readBase?_toDigits, charOfCode?_toNat]

theorem quotedRest_backslash {t rest : Text} (escaped : escape t = some (c, rest)) :
    quotedRest ('\\' :: t) = (quotedRest rest).map fun r => (c :: r.1, r.2) := by
  rw [quotedRest]
  split
  · simp_all
  · simp_all

theorem quotedRest_plain (quote : c ≠ '"') (backslash : c ≠ '\\') (rest : Text) :
    quotedRest (c :: rest) = (quotedRest rest).map fun r => (c :: r.1, r.2) := by
  rw [quotedRest]
  · exact quote
  · exact backslash

theorem quotedRest_escaped (c : Char) (rest : Text) :
    quotedRest (escaped c ++ rest) = (quotedRest rest).map fun r => (c :: r.1, r.2) := by
  unfold escaped
  cases letter : letter? c with
  | some l => exact quotedRest_backslash (escape_letter letter rest)
  | none =>
      cases Text.isPrintable c with
      | true =>
          have quote : c ≠ '"' := by rintro rfl; cases letter
          have backslash : c ≠ '\\' := by rintro rfl; cases letter
          exact quotedRest_plain quote backslash rest
      | false =>
          have point : escape ('u' :: '{' :: (Nat.toDigits 16 c.toNat ++ '}' :: rest)) =
              some (c, rest) := codePoint_toDigits c rest
          simpa using quotedRest_backslash point

theorem quotedRest_flatMap_escaped (t rest : Text) :
    quotedRest (t.flatMap escaped ++ '"' :: rest) = some (t, rest) := by
  induction t with
  | nil => rw [List.flatMap_nil, List.nil_append, quotedRest]
  | cons c t ih =>
      rw [List.flatMap_cons, List.append_assoc, quotedRest_escaped, ih, Option.map_some]

theorem string_quoted (t rest : Text) : string (quoted t ++ rest) = some (t, rest) := by
  have read := quotedRest_flatMap_escaped t rest
  simpa [quoted, string] using read

end PromptLoom.Ron
