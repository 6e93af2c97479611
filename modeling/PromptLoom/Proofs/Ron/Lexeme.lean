import PromptLoom.Proofs.Ron.RoundTrip

/-! # Words read back

A name or a number ends where an end follows it, because none of the marks and blanks that can stand
there goes on a word.
-/

namespace PromptLoom.Ron

variable {p : Char → Bool} {s rest : Text}

/-! ## Ends of words -/

theorem Ends.stop (ends : Ends rest)
    (others : [',', ':', ')', ']', '}', ' ', '\t', '\n', '\r'].any p = false) :
    ∀ c ∈ rest.head?, p c = false := by
  intro c first
  have kind := ends c first
  simp only [isMark, isBlank, Bool.or_eq_true, decide_eq_true_eq, or_assoc] at kind
  simpa using List.any_eq_false.mp others c (by simpa using kind)

theorem not_goes_on (stop : ∀ c ∈ rest.head?, p c = false) :
    (rest.head?.map p).getD false = false := by
  cases rest with
  | nil => rfl
  | cons c rest => exact stop c rfl

theorem run_append (all : ∀ c ∈ s, p c = true) (stop : ∀ c ∈ rest.head?, p c = false) :
    run p (s ++ rest) = (s, rest) := by
  have ends : rest.takeWhile p = [] ∧ rest.dropWhile p = rest := by
    cases rest with
    | nil => exact ⟨rfl, rfl⟩
    | cons c rest => simp [stop c rfl]
  rw [run, List.takeWhile_append_of_pos all, List.dropWhile_append_of_pos all, ends.1, ends.2,
    List.append_nil]

theorem opens_of_isIdentChar {c : Char} (word : isIdentChar c = true) : Opens c := by
  have others : [' ', '\t', '\n', '\r', '/', ',', ':', ')', ']', '}'].any isIdentChar = false := rfl
  have apart : ∀ d ∈ [' ', '\t', '\n', '\r', '/', ',', ':', ')', ']', '}'], c ≠ d := by
    rintro d held rfl
    exact List.any_eq_false.mp others c held word
  constructor <;> simp_all [isBlank, isMark]

/-! ## Names -/

/-- A name that could not be the start of a raw one. -/
theorem recovers_identifier {name : Text}
    (start : (name.head?.any fun c => isIdentStart c && c != 'r') = true)
    (word : name.all isIdentChar = true) : Recovers identifier name name := by
  cases name with
  | nil => cases start
  | cons c more =>
      simp only [List.head?_cons, Option.any_some, Bool.and_eq_true, bne_iff_ne] at start
      rw [List.all_eq_true] at word
      refine ⟨⟨c, more, rfl, opens_of_isIdentChar (word c List.mem_cons_self)⟩,
        fun rest ends => ?_⟩
      have taken := run_append word (ends.stop rfl)
      have stop := not_goes_on (ends.stop (p := isRawIdentChar) rfl)
      rw [List.cons_append, identifier, if_pos start.1, plainIdentifier, ← List.cons_append, taken]
      · simp [stop]
      all_goals
        intros
        exact start.2 ‹c = 'r'›

theorem takeWord_append (word rest : Text) : takeWord word (word ++ rest) = some rest := by
  induction word with
  | nil => rfl
  | cons c word ih => rw [List.cons_append, takeWord, expect_self, Option.bind_some, ih]

theorem keyword_append (word : Text) (stop : ∀ c ∈ rest.head?, isIdentChar c = false) :
    keyword word (word ++ rest) = some rest := by
  simp [keyword, takeWord_append, not_goes_on stop]

/-- A word in front of parentheses. -/
theorem keyword_parenthesis (word : Text) {gap : Text} (blanks : Blanks gap) (rest : Text) :
    keyword word (word ++ (gap ++ '(' :: rest)) = some (gap ++ '(' :: rest) := by
  refine keyword_append word fun c first => ?_
  cases gap with
  | nil =>
      rw [← Option.mem_some.mp first]
      rfl
  | cons d gap =>
      have ends : Ends (d :: gap) := by
        simpa using blanks.ends ends_nil
      exact ends.stop rfl c first

/-! ## Numbers -/

theorem cutBase_of_second {t : Text} (plain : ∀ c ∈ t.tail.head?, c ≠ 'x' ∧ c ≠ 'b' ∧ c ≠ 'o') :
    cutBase t = (10, t) := by
  unfold cutBase
  split
  · exact absurd rfl (plain 'x' rfl).1
  · exact absurd rfl (plain 'b' rfl).2.1
  · exact absurd rfl (plain 'o' rfl).2.2
  · rfl

/-- Behind the first digit stands another one or an end, and so not the letter of a base. -/
theorem cutBase_digits (n : Nat) (ends : Ends rest) :
    cutBase (Decimal.digits n ++ rest) = (10, Decimal.digits n ++ rest) := by
  obtain ⟨d, ds, digits⟩ := List.exists_cons_of_ne_nil (Decimal.digits_ne_nil n)
  have later : ∀ c ∈ ds, c.isDigit = true := fun c held =>
    Decimal.isDigit_of_mem_digits (n := n) (digits ▸ List.mem_cons_of_mem d held)
  have apart : ∀ c : Char, c.isDigit = true ∨ (isMark c || isBlank c) = true →
      c ≠ 'x' ∧ c ≠ 'b' ∧ c ≠ 'o' := by
    refine fun c kind => ⟨?_, ?_, ?_⟩ <;> rintro rfl <;> exact absurd kind (by decide)
  refine cutBase_of_second fun c second => apart c ?_
  rw [digits, List.cons_append, List.tail_cons] at second
  cases ds with
  | nil => exact .inr (ends c second)
  | cons e ds => exact .inl (later c (List.mem_of_mem_head? second))

theorem natural_digits (n : Nat) (ends : Ends rest) :
    natural (Decimal.digits n ++ rest) = some (n, rest) := by
  have valued : ∀ c ∈ Decimal.digits n, (Decimal.digitValue? c).isSome = true := fun c =>
    Decimal.isSome_digitValue?_of_readFrom (Decimal.readFrom_toDigits (by decide) (by decide) n)
  have integer : ∀ c ∈ Decimal.digits n, isIntegerChar c = true := fun c held => by
    simp [isIntegerChar, valued c held]
  have plain : '_' ∉ Decimal.digits n := fun held => absurd (valued '_' held) (by decide)
  have first : (Decimal.digits n).head? ≠ some '_' := fun first =>
    plain (List.mem_of_mem_head? first)
  have written : (Decimal.digits n).filter (· ≠ '_') = Decimal.digits n :=
    List.filter_eq_self.mpr fun c held => by
      simp only [decide_eq_true_eq]
      rintro rfl
      exact plain held
  have read : Decimal.readBase? 10 (Decimal.digits n) = some n :=
    Decimal.readBase?_toDigits (by decide) (by decide) n
  have taken := run_append integer (ends.stop rfl)
  rw [natural, cutBase_digits n ends]
  simp only [taken, if_neg first, written, read]
  rfl

theorem recovers_word (n : UInt64) : Recovers word (Decimal.digits n.toNat) n := by
  constructor
  · obtain ⟨d, ds, digits⟩ := List.exists_cons_of_ne_nil (Decimal.digits_ne_nil n.toNat)
    have digit : d.isDigit = true :=
      Decimal.isDigit_of_mem_digits (n := n.toNat) (digits ▸ List.mem_cons_self)
    exact ⟨d, ds, digits, opens_of_isIdentChar (by simp [isIdentChar, Char.isAlphanum, digit])⟩
  · intro rest ends
    have small : n.toNat < UInt64.size := n.toNat_lt_size
    simp [word, natural_digits n.toNat ends, small]

end PromptLoom.Ron
