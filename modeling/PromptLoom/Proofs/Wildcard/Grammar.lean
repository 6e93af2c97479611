import PromptLoom.Proofs.Decimal.Word
import PromptLoom.Proofs.Text.Blank
import PromptLoom.Proofs.Wildcard.Splice
import PromptLoom.Wildcard.Modifier

/-! # The language of bodies

A body is a keyword, or a keyword and a modifier with a bar between them. The modifier is a count,
perhaps with a percent sign behind it, and a count is one number or two ascending numbers with a
minus sign between them. Reading accepts exactly these bodies. Any other body is refused for the first
fault in a fixed order: text behind the percent sign, the first bound, the second one, their order.
-/

namespace PromptLoom

/-- Conditions for the successes and for the failures of a result decide it if one of them always
applies. -/
theorem iff_of_total {ε α : Type} {result : Except ε α} {accepted : α → Prop}
    {refused : ε → Prop} (ok : ∀ a, accepted a → result = .ok a)
    (error : ∀ e, refused e → result = .error e)
    (total : (∃ a, accepted a) ∨ ∃ e, refused e) :
    (∀ a, result = .ok a ↔ accepted a) ∧ ∀ e, result = .error e ↔ refused e := by
  rcases total with ⟨a, accepts⟩ | ⟨e, refuses⟩
  · refine ⟨fun b => ⟨fun same => ?_, ok b⟩, fun e => ⟨fun same => ?_, error e⟩⟩
    · rw [ok a accepts] at same
      exact Except.ok.inj same ▸ accepts
    · rw [ok a accepts] at same
      cases same
  · refine ⟨fun a => ⟨fun same => ?_, ok a⟩, fun f => ⟨fun same => ?_, error f⟩⟩
    · rw [error e refuses] at same
      cases same
    · rw [error e refuses] at same
      exact Except.error.inj same ▸ refuses

namespace Count

/-! ## Bounds -/

/-- One or more digits of a number of 64 bits, perhaps with a plus sign in front, and white space
around. -/
inductive Numeral : Text → Nat → Prop where
  | mk {before sign digits after : Text} (front : before.AllBlank)
    (signed : sign = [] ∨ sign = ['+']) (nonempty : digits ≠ [])
    (decimal : ∀ c ∈ digits, c.isDigit = true) (small : Decimal.valueOf digits < UInt64.size)
    (back : after.AllBlank) :
    Numeral (before ++ (sign ++ digits) ++ after) (Decimal.valueOf digits)

/-- Why a bound is refused: it is white space only, or what stands between white space is no
numeral. -/
inductive Offends : Text → ModifierError → Prop where
  | empty {bound : Text} (blank : bound.AllBlank) : Offends bound (.emptyCount bound)
  | notANumber {before shown after : Text} (front : before.AllBlank) (ends : shown.Trimmed)
    (nonempty : shown ≠ []) (back : after.AllBlank)
    (other : ∀ n, ¬ Numeral (before ++ shown ++ after) n) :
    Offends (before ++ shown ++ after) (.notANumber shown)

theorem isBlank_of_isDigit {c : Char} (digit : c.isDigit = true) : Text.isBlank c = false := by
  obtain ⟨least, greatest⟩ := Decimal.isDigit_iff.mp digit
  have zero : '0'.toNat ≤ c.toNat := least
  have nine : c.toNat ≤ '9'.toNat := greatest
  have values : '0'.toNat = 48 ∧ '9'.toNat = 57 := ⟨rfl, rfl⟩
  simp only [Text.isBlank, Text.inRanges, Text.blankRanges, List.any_cons, List.any_nil,
    Bool.or_false, Bool.or_eq_false_iff, Bool.and_eq_false_iff, decide_eq_false_iff_not]
  omega

theorem trimmed_numeral {sign digits : Text} (signed : sign = [] ∨ sign = ['+'])
    (nonempty : digits ≠ []) (decimal : ∀ c ∈ digits, c.isDigit = true) :
    (sign ++ digits).Trimmed := by
  constructor
  · intro c first
    rcases signed with rfl | rfl
    · exact isBlank_of_isDigit (decimal c (List.mem_of_mem_head? first))
    · obtain rfl : '+' = c := by simpa using first
      decide
  · intro c last
    rw [List.getLast?_append, List.getLast?_eq_some_getLast nonempty] at last
    obtain rfl := Option.some.inj last
    exact isBlank_of_isDigit (decimal _ (List.getLast_mem nonempty))

theorem readBound_of_trim {written shown : Text} (core : Text.trim written = shown)
    (nonempty : shown ≠ []) :
    readBound written = (Decimal.readWord? shown).elim (.error (.notANumber shown)) .ok := by
  subst core
  rw [readBound, if_neg (by simpa using nonempty)]
  cases Decimal.readWord? (Text.trim written) <;> rfl

theorem Numeral.readBound_eq {written : Text} {n : Nat} (number : Numeral written n) :
    readBound written = .ok n := by
  cases number with
  | @mk before sign digits after front signed nonempty decimal small back =>
      have core := Text.trim_of_split front back (trimmed_numeral signed nonempty decimal)
      have read : Decimal.readWord? (sign ++ digits) = some (Decimal.valueOf digits) :=
        Decimal.readWord?_eq_some_iff.mpr ⟨sign, digits, rfl, signed, nonempty, decimal, rfl, small⟩
      rw [readBound_of_trim core (by simp [nonempty]), read]
      rfl

theorem numeral_of_readWord? {before shown after : Text} {n : Nat} (front : before.AllBlank)
    (back : after.AllBlank) (read : Decimal.readWord? shown = some n) :
    Numeral (before ++ shown ++ after) n := by
  obtain ⟨sign, digits, rfl, signed, nonempty, decimal, rfl, small⟩ :=
    Decimal.readWord?_eq_some_iff.mp read
  exact .mk front signed nonempty decimal small back

theorem Offends.readBound_eq {written : Text} {cause : ModifierError}
    (offends : Offends written cause) : readBound written = .error cause := by
  cases offends with
  | empty blank =>
      have nothing := Text.trim_eq_nil_iff.mpr blank
      rw [readBound, nothing]
      rfl
  | @notANumber before shown after front ends nonempty back other =>
      have core := Text.trim_of_split front back ends
      have unread : Decimal.readWord? shown = none := by
        cases read : Decimal.readWord? shown with
        | none => rfl
        | some n => exact absurd (numeral_of_readWord? front back read) (other n)
      rw [readBound_of_trim core nonempty, unread]
      rfl

theorem numeral_or_offends (written : Text) :
    (∃ n, Numeral written n) ∨ ∃ cause, Offends written cause := by
  by_cases number : ∃ n, Numeral written n
  · exact .inl number
  · right
    obtain ⟨before, after, split, front, back⟩ := Text.exists_split_trim written
    by_cases nothing : Text.trim written = []
    · exact ⟨_, .empty (Text.trim_eq_nil_iff.mp nothing)⟩
    · refine ⟨.notANumber (Text.trim written), ?_⟩
      have other := not_exists.mp number
      have ends := Text.trimmed_trim written
      generalize Text.trim written = shown at *
      subst split
      exact .notANumber front ends nothing back other

/-! ## Counts -/

/-- The first two bounds of a count. A minus sign stands between them, and another one may end the
second bound. -/
structure Bounds (written first second : Text) : Prop where
  split : ∃ more, written = first ++ '-' :: (second ++ more) ∧ ∀ c ∈ more.head?, c = '-'
  first_plain : '-' ∉ first
  second_plain : '-' ∉ second

/-- A count is one number, or two ascending numbers with a minus sign between them and anything
behind a further minus sign. -/
inductive Spelled (written : Text) : Count → Prop where
  | exact {n : Nat} (single : '-' ∉ written) (number : Numeral written n) : Spelled written (.exact n)
  | range {first second : Text} {low high : Nat} (bounds : Bounds written first second)
    (lower : Numeral first low) (upper : Numeral second high) (ascend : low < high) :
    Spelled written (.range low high)

/-- Why a count is refused: for its first bound that is refused, or because no number lies in its
range. -/
inductive Refused (written : Text) : ModifierError → Prop where
  | exact {cause : ModifierError} (single : '-' ∉ written) (offends : Offends written cause) :
    Refused written cause
  | lower {first second : Text} {cause : ModifierError} (bounds : Bounds written first second)
    (offends : Offends first cause) : Refused written cause
  | upper {first second : Text} {low : Nat} {cause : ModifierError}
    (bounds : Bounds written first second) (lower : Numeral first low)
    (offends : Offends second cause) : Refused written cause
  | descend {first second : Text} {low high : Nat} (bounds : Bounds written first second)
    (lower : Numeral first low) (upper : Numeral second high) (order : high ≤ low) :
    Refused written (.emptyRange low high)

variable {written first second : Text}

theorem read_of_single (single : '-' ∉ written) : read written = (readBound written).map exact := by
  rw [read, Text.cut_eq_none_iff.mpr single]

theorem Bounds.read_eq (bounds : Bounds written first second) :
    read written = (do
      let low ← readBound first
      let high ← readBound second
      if low < high then .ok (range low high) else .error (.emptyRange low high)) := by
  obtain ⟨⟨more, rfl, ends⟩, firstPlain, secondPlain⟩ := bounds
  have front : ∀ c ∈ second, c ≠ '-' := by
    rintro _ held rfl
    exact secondPlain held
  have stop : more.takeWhile (· ≠ '-') = [] := by
    cases more with
    | nil => rfl
    | cons c more => simp [ends c rfl]
  have taken : (second ++ more).takeWhile (· ≠ '-') = second := by
    rw [List.takeWhile_append_of_pos (by simpa using front), stop, List.append_nil]
  rw [read, Wildcard.cut_append_mark firstPlain]
  simp only [taken]

theorem single_or_bounds (written : Text) :
    '-' ∉ written ∨ ∃ first second, Bounds written first second := by
  by_cases single : '-' ∉ written
  · exact .inl single
  · obtain ⟨first, rest, rfl, plain⟩ := List.eq_append_cons_of_mem (Decidable.not_not.mp single)
    refine .inr ⟨first, rest.takeWhile (· ≠ '-'), ⟨rest.dropWhile (· ≠ '-'), ?_, ?_⟩, plain, ?_⟩
    · rw [List.takeWhile_append_dropWhile]
    · intro c first
      have left := List.head?_dropWhile_not (· ≠ '-') rest
      rw [first] at left
      simpa using left
    · intro held
      simpa using List.mem_takeWhile_imp held

theorem Spelled.read_eq {count : Count} (spelled : Spelled written count) :
    read written = .ok count := by
  cases spelled with
  | exact single number =>
      rw [read_of_single single, number.readBound_eq]
      rfl
  | range bounds lower upper ascend =>
      rw [bounds.read_eq, lower.readBound_eq, upper.readBound_eq]
      exact if_pos ascend

theorem Refused.read_eq {cause : ModifierError} (refused : Refused written cause) :
    read written = .error cause := by
  cases refused with
  | exact single offends =>
      rw [read_of_single single, offends.readBound_eq]
      rfl
  | lower bounds offends =>
      rw [bounds.read_eq, offends.readBound_eq]
      rfl
  | upper bounds lower offends =>
      rw [bounds.read_eq, lower.readBound_eq, offends.readBound_eq]
      rfl
  | descend bounds lower upper order =>
      rw [bounds.read_eq, lower.readBound_eq, upper.readBound_eq]
      exact if_neg (Nat.not_lt.mpr order)

theorem spelled_or_refused (written : Text) :
    (∃ count, Spelled written count) ∨ ∃ cause, Refused written cause := by
  rcases single_or_bounds written with single | ⟨first, second, bounds⟩
  · rcases numeral_or_offends written with ⟨n, number⟩ | ⟨cause, offends⟩
    · exact .inl ⟨_, .exact single number⟩
    · exact .inr ⟨_, .exact single offends⟩
  · rcases numeral_or_offends first with ⟨low, lower⟩ | ⟨cause, offends⟩
    · rcases numeral_or_offends second with ⟨high, upper⟩ | ⟨cause, offends⟩
      · rcases Nat.lt_or_ge low high with ascend | order
        · exact .inl ⟨_, .range bounds lower upper ascend⟩
        · exact .inr ⟨_, .descend bounds lower upper order⟩
      · exact .inr ⟨_, .upper bounds lower offends⟩
    · exact .inr ⟨_, .lower bounds offends⟩

end Count

namespace Wildcard

/-! ## Bodies -/

/-- A body is a keyword, or a keyword and a count with a bar between them, perhaps with a percent
sign at its end. -/
inductive Spelled : Text → Wildcard → Prop where
  | bare {keyword : Text} (plain : '|' ∉ keyword) : Spelled keyword { keyword }
  | counted {keyword written : Text} {count : Count} (plain : '|' ∉ keyword)
    (unmarked : '%' ∉ written) (spelled : Count.Spelled written count) :
    Spelled (keyword ++ '|' :: written) ⟨keyword, count, false⟩
  | repeated {keyword written : Text} {count : Count} (plain : '|' ∉ keyword)
    (unmarked : '%' ∉ written) (spelled : Count.Spelled written count) :
    Spelled (keyword ++ '|' :: (written ++ ['%'])) ⟨keyword, count, true⟩

/-- Why a body is refused: for what stands behind the first percent sign of its modifier, or for its
count. -/
inductive Refused : Text → ModifierError → Prop where
  | trailing {keyword written more : Text} (plain : '|' ∉ keyword) (unmarked : '%' ∉ written)
    (nonempty : more ≠ []) :
    Refused (keyword ++ '|' :: (written ++ '%' :: more)) (.trailingText (written ++ '%' :: more))
  | counted {keyword written : Text} {cause : ModifierError} (plain : '|' ∉ keyword)
    (unmarked : '%' ∉ written) (refused : Count.Refused written cause) :
    Refused (keyword ++ '|' :: written) cause
  | repeated {keyword written : Text} {cause : ModifierError} (plain : '|' ∉ keyword)
    (unmarked : '%' ∉ written) (refused : Count.Refused written cause) :
    Refused (keyword ++ '|' :: (written ++ ['%'])) cause

variable {keyword written : Text}

theorem cutRepeats_unmarked (unmarked : '%' ∉ written) : cutRepeats written = .ok (written, false) := by
  rw [cutRepeats, Text.cut_eq_none_iff.mpr unmarked]

theorem cutRepeats_marked (unmarked : '%' ∉ written) :
    cutRepeats (written ++ ['%']) = .ok (written, true) := by
  rw [cutRepeats, cut_append_mark unmarked]

theorem cutRepeats_trailing {more : Text} (unmarked : '%' ∉ written) (nonempty : more ≠ []) :
    cutRepeats (written ++ '%' :: more) = .error (.trailingText (written ++ '%' :: more)) := by
  obtain ⟨c, more, rfl⟩ := List.exists_cons_of_ne_nil nonempty
  rw [cutRepeats, cut_append_mark unmarked]

theorem parse_append_bar (plain : '|' ∉ keyword) (modifier : Text) :
    parse (keyword ++ '|' :: modifier) = (do
      let (count, repeats) ← cutRepeats modifier
      return ⟨keyword, some (← Count.read count), repeats⟩) := by
  rw [parse, cut_append_mark plain]

theorem Spelled.parse_eq {body : Text} {wildcard : Wildcard} (spelled : Spelled body wildcard) :
    parse body = .ok wildcard := by
  cases spelled with
  | bare plain => rw [parse, Text.cut_eq_none_iff.mpr plain]
  | counted plain unmarked spelled =>
      rw [parse_append_bar plain, cutRepeats_unmarked unmarked]
      simp only [bind, Except.bind, spelled.read_eq]
      rfl
  | repeated plain unmarked spelled =>
      rw [parse_append_bar plain, cutRepeats_marked unmarked]
      simp only [bind, Except.bind, spelled.read_eq]
      rfl

theorem Refused.parse_eq {body : Text} {cause : ModifierError} (refused : Refused body cause) :
    parse body = .error cause := by
  cases refused with
  | trailing plain unmarked nonempty =>
      rw [parse_append_bar plain, cutRepeats_trailing unmarked nonempty]
      rfl
  | counted plain unmarked refused =>
      rw [parse_append_bar plain, cutRepeats_unmarked unmarked]
      simp only [bind, Except.bind, refused.read_eq]
  | repeated plain unmarked refused =>
      rw [parse_append_bar plain, cutRepeats_marked unmarked]
      simp only [bind, Except.bind, refused.read_eq]

theorem spelled_or_refused (body : Text) :
    (∃ wildcard, Spelled body wildcard) ∨ ∃ cause, Refused body cause := by
  by_cases bar : '|' ∈ body
  · obtain ⟨keyword, modifier, rfl, plain⟩ := List.eq_append_cons_of_mem bar
    by_cases mark : '%' ∈ modifier
    · obtain ⟨written, more, rfl, unmarked⟩ := List.eq_append_cons_of_mem mark
      by_cases last : more = []
      · subst last
        rcases Count.spelled_or_refused written with ⟨count, spelled⟩ | ⟨cause, refused⟩
        · exact .inl ⟨_, .repeated plain unmarked spelled⟩
        · exact .inr ⟨_, .repeated plain unmarked refused⟩
      · exact .inr ⟨_, .trailing plain unmarked last⟩
    · rcases Count.spelled_or_refused modifier with ⟨count, spelled⟩ | ⟨cause, refused⟩
      · exact .inl ⟨_, .counted plain mark spelled⟩
      · exact .inr ⟨_, .counted plain mark refused⟩
  · exact .inl ⟨_, .bare bar⟩

/-- Reading gives a wildcard if and only if the body spells it, and a cause if and only if the body is
refused for it. -/
theorem parse_iff_spelled (body : Text) :
    (∀ wildcard, parse body = .ok wildcard ↔ Spelled body wildcard) ∧
      ∀ cause, parse body = .error cause ↔ Refused body cause :=
  iff_of_total (fun _ => Spelled.parse_eq) (fun _ => Refused.parse_eq)
    (spelled_or_refused body)

/-- What follows the second bound may be anything but the percent sign. -/
example : parse "cat|\u3000+02 - 5 -x|y%".toList = .ok ⟨"cat".toList, some (.range 2 5), true⟩ := by
  decide +kernel

end Wildcard

end PromptLoom
