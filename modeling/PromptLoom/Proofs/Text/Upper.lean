import PromptLoom.Proofs.Text.Opening
import PromptLoom.Text.Case.Upper

/-! # Marks in upper case

A case mapping spares a character when it moves nothing onto that character. The
mapping to upper case spares the marks of wildcards, so a text has no new mark in
upper case. It also leaves these marks where they are and maps no character to nothing,
so the leftmost opening mark of a text stays the leftmost one.
-/

namespace PromptLoom.Text

/-- The values of the range stay off the code point. -/
def CaseRange.Avoids (r : CaseRange) (code : Nat) : Prop :=
  (code : Int) < r.first + r.shift ∨ (r.last : Int) + r.shift < code

instance (r : CaseRange) (code : Nat) : Decidable (r.Avoids code) :=
  inferInstanceAs (Decidable (_ ∨ _))

theorem CaseRange.ne_of_move? {r : CaseRange} {code source target : Nat} (avoids : r.Avoids code)
    (moved : r.move? source = some target) (positive : code ≠ 0) : target ≠ code := by
  simp only [CaseRange.move?, Option.ite_none_right_eq_some, Option.some.injEq] at moved
  obtain ⟨⟨above, below, -⟩, rfl⟩ := moved
  unfold CaseRange.Avoids at avoids
  omega

/-- No other character becomes a text that holds `c`. -/
structure CaseMapping.Spares (m : CaseMapping) (c : Char) : Prop where
  ranges : ∀ r ∈ m.ranges, r.Avoids c.toNat
  expansions : ∀ e ∈ m.expansions, ∀ code ∈ e.2, Char.ofNat code ≠ c
  nonzero : c.toNat ≠ 0

theorem toNat_of_ofNat_eq {code : Nat} {c : Char} (same : Char.ofNat code = c)
    (nonzero : c.toNat ≠ 0) : code = c.toNat := by
  subst same
  by_cases valid : code.isValidChar
  · rw [Char.ofNat, dif_pos valid]
    rfl
  · rw [Char.ofNat, dif_neg valid] at nonzero
    exact absurd rfl nonzero

theorem CaseMapping.Spares.of_mem_mapChar {m : CaseMapping} {c source : Char} (spares : m.Spares c)
    (member : c ∈ m.mapChar source) : c = source := by
  unfold CaseMapping.mapChar at member
  split at member
  · rename_i codes expanded
    obtain ⟨code, held, same⟩ := List.mem_map.mp member
    obtain ⟨front, back, split, -⟩ := List.lookup_eq_some_iff.mp expanded
    exact absurd same (spares.expansions (source.toNat, codes) (by simp [split]) code held)
  · split at member
    · rename_i code found
      obtain ⟨r, held, moved⟩ := List.exists_of_findSome?_eq_some found
      have same := toNat_of_ofNat_eq (List.mem_singleton.mp member).symm spares.nonzero
      exact absurd same (r.ne_of_move? (spares.ranges r held) moved spares.nonzero)
    · exact List.mem_singleton.mp member

/-- A spared character stands in the mapped text only if it stood in the text. -/
theorem CaseMapping.Spares.of_mem_map {m : CaseMapping} {c : Char} {t : Text} (spares : m.Spares c)
    (member : c ∈ m.map t) : c ∈ t := by
  obtain ⟨source, held, mapped⟩ := List.mem_flatMap.mp member
  exact spares.of_mem_mapChar mapped ▸ held

/-- The two characters of an opening mark stay as they are and no other character becomes one of
them, so the mapping moves no opening mark. -/
structure CaseMapping.Settles (m : CaseMapping) : Prop where
  question : m.Spares '?'
  brace : m.Spares '{'
  question_fixed : m.mapChar '?' = ['?']
  brace_fixed : m.mapChar '{' = ['{']
  nonempty : ∀ e ∈ m.expansions, e.2 ≠ []

namespace CaseMapping

variable {m : CaseMapping}

theorem map_cons (c : Char) (t : Text) : m.map (c :: t) = m.mapChar c ++ m.map t :=
  List.flatMap_cons

namespace Settles

theorem mapChar_ne_nil (settles : m.Settles) (c : Char) : m.mapChar c ≠ [] := by
  unfold mapChar
  split
  · rename_i codes expanded
    obtain ⟨front, back, split, -⟩ := List.lookup_eq_some_iff.mp expanded
    intro empty
    exact settles.nonempty (c.toNat, codes) (by simp [split]) (List.map_eq_nil_iff.mp empty)
  · split <;> simp

theorem cutOpening_mapChar (settles : m.Settles) (c : Char) : cutOpening (m.mapChar c) = none := by
  by_cases brace : c = '{'
  · rw [brace, settles.brace_fixed]
    rfl
  · apply cutOpening_eq_none_of_not_mem
    intro held
    exact brace (settles.brace.of_mem_mapChar held).symm

/-- The image of a text starts with a brace only if the text does. -/
theorem head_of_map (settles : m.Settles) {t : Text} (first : (m.map t).head? = some '{') :
    t.head? = some '{' := by
  cases t with
  | nil => simp [map] at first
  | cons d t =>
      obtain ⟨c, rest, image⟩ := List.exists_cons_of_ne_nil (settles.mapChar_ne_nil d)
      rw [map_cons, image, List.cons_append, List.head?_cons, Option.some.injEq] at first
      have held : '{' ∈ m.mapChar d := by simp [image, first]
      exact congrArg some (settles.brace.of_mem_mapChar held).symm

/-- Images of texts weld only if the texts do. -/
theorem welds_of_map (settles : m.Settles) {c : Char} {t : Text}
    (welds : Welds (m.mapChar c) (m.map t)) : Welds [c] t := by
  have question : '?' = c := settles.question.of_mem_mapChar (List.mem_of_getLast? welds.1)
  exact ⟨congrArg some question.symm, settles.head_of_map welds.2⟩

/-- The leftmost opening mark of a mapped text is the one of the text. -/
theorem cutOpening_map (settles : m.Settles) (t : Text) :
    cutOpening (m.map t) = (cutOpening t).map fun parts => (m.map parts.1, m.map parts.2) := by
  induction t with
  | nil => rfl
  | cons c t ih =>
      rw [map_cons, cutOpening_cons]
      by_cases border : Welds [c] t
      · obtain ⟨last, first⟩ := id border
        obtain ⟨rest, rfl⟩ := List.head?_eq_some_iff.mp first
        obtain rfl : c = '?' := by simpa using last
        rw [if_pos border, map_cons, settles.question_fixed, settles.brace_fixed]
        simp [cutOpening, map]
      · have apart : ¬ Welds (m.mapChar c) (m.map t) := fun welds =>
          border (settles.welds_of_map welds)
        rw [if_neg border, cutOpening_append_of_none (settles.cutOpening_mapChar c) apart, ih,
          Option.map_map, Option.map_map]
        simp [Function.comp_def, map_cons]

end Settles

end CaseMapping

theorem upperMapping_spares_brace : upperMapping.Spares '{' :=
  ⟨by decide +kernel, by decide +kernel, by decide⟩

theorem upperMapping_spares_closing : upperMapping.Spares closing :=
  ⟨by decide +kernel, by decide +kernel, by decide⟩

theorem upperMapping_settles : upperMapping.Settles where
  question := ⟨by decide +kernel, by decide +kernel, by decide⟩
  brace := upperMapping_spares_brace
  question_fixed := by decide +kernel
  brace_fixed := by decide +kernel
  nonempty := by decide +kernel

/-- In upper case the leftmost opening mark stands where it stood. -/
theorem cutOpening_upper (t : Text) :
    cutOpening (upper t) = (cutOpening t).map fun parts => (upper parts.1, upper parts.2) :=
  upperMapping_settles.cutOpening_map t

theorem not_brace_mem_upper {t : Text} (plain : '{' ∉ t) : '{' ∉ upper t :=
  fun member => plain (upperMapping_spares_brace.of_mem_map member)

theorem not_closing_mem_upper {t : Text} (unclosed : closing ∉ t) : closing ∉ upper t :=
  fun member => unclosed (upperMapping_spares_closing.of_mem_map member)

end PromptLoom.Text
