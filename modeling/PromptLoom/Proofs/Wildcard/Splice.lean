import PromptLoom.Proofs.Text.Opening

/-! # Wildcards of concatenated texts

The leftmost wildcard of a text, in terms of its opening mark, and what becomes of
it when text is put in front or behind. Replacing a wildcard by a finished text
lowers the number of closing braces that a later wildcard can use, unless the
replacement welds a new opening mark at one of its two borders.
-/

namespace PromptLoom.Wildcard

open Text

/-- The first closing mark splits a text in one way only. -/
theorem cut_append_mark {mark : Char} {before : Text} (plain : mark ∉ before) (after : Text) :
    cut mark (before ++ mark :: after) = some (before, after) := by
  induction before with
  | nil => simp [cut]
  | cons c before ih =>
      simp only [List.mem_cons, not_or] at plain
      simp [cut, Ne.symm plain.1, ih plain.2]

theorem find?_eq_some_iff {t : Text} {f : Found} :
    find? t = some f ↔
      cutOpening t = some (f.gap, f.body ++ closing :: f.rest) ∧ closing ∉ f.body := by
  constructor
  · intro h
    unfold find? at h
    split at h
    · simp at h
    · rename_i gap after opened
      split at h
      · simp at h
      · rename_i body rest closed
        cases h
        exact ⟨by rw [opened, eq_append_of_cut closed], not_mem_of_cut closed⟩
  · rintro ⟨opened, plain⟩
    simp [find?, opened, cut_append_mark plain]

theorem find?_eq_none_iff {t : Text} :
    find? t = none ↔ ∀ gap after, cutOpening t = some (gap, after) → closing ∉ after := by
  unfold find?
  cases opened : cutOpening t with
  | none => simp
  | some parts =>
      simp only [Option.some.injEq]
      cases closed : cut closing parts.2 with
      | none =>
          have plain := cut_eq_none_iff.mp closed
          simpa using fun gap after same => by simpa [same] using plain
      | some pieces =>
          have held := eq_append_of_cut closed
          simp only [reduceCtorEq, false_iff]
          exact fun plain => plain parts.1 parts.2 rfl (by simp [held])

theorem find?_eq_none_of_unopened {t : Text} (unopened : cutOpening t = none) :
    find? t = none := by
  simp [find?, unopened]

theorem find?_eq_none_of_unclosed {t : Text} (unclosed : closing ∉ t) : find? t = none := by
  refine find?_eq_none_iff.mpr fun gap after opened held => unclosed ?_
  rw [eq_append_of_cutOpening opened]
  exact List.mem_append_right _ held

theorem gap_unopened {t : Text} {f : Found} (h : find? t = some f) : cutOpening f.gap = none :=
  cutOpening_before (find?_eq_some_iff.mp h).1

theorem body_unclosed {t : Text} {f : Found} (h : find? t = some f) : closing ∉ f.body :=
  (find?_eq_some_iff.mp h).2

theorem find?_append_right {t : Text} {f : Found} (h : find? t = some f) (more : Text) :
    find? (t ++ more) = some { f with rest := f.rest ++ more } := by
  obtain ⟨opened, plain⟩ := find?_eq_some_iff.mp h
  exact find?_eq_some_iff.mpr ⟨by simp [cutOpening_append_of_some more opened], plain⟩

theorem find?_append_left {s t : Text} (unopened : cutOpening s = none)
    (border : ¬ Welds s t) :
    find? (s ++ t) = (find? t).map fun f => { f with gap := s ++ f.gap } := by
  unfold find?
  rw [cutOpening_append_of_none unopened border]
  cases cutOpening t with
  | none => rfl
  | some parts => cases closed : cut closing parts.2 <;> simp [closed]

/-- How many closing marks stand after the first opening mark. -/
def closingsAhead (t : Text) : Nat :=
  match cutOpening t with
  | none => 0
  | some (_, after) => after.count closing

theorem closingsAhead_le_count (t : Text) : closingsAhead t ≤ t.count closing := by
  unfold closingsAhead
  split
  · exact Nat.zero_le _
  · rename_i gap after opened
    rw [eq_append_of_cutOpening opened, List.count_append]
    exact Nat.le_add_left _ _

theorem closingsAhead_append_left {s t : Text} (unopened : cutOpening s = none)
    (border : ¬ Welds s t) : closingsAhead (s ++ t) = closingsAhead t := by
  unfold closingsAhead
  rw [cutOpening_append_of_none unopened border]
  cases cutOpening t <;> rfl

/-- In front of other text, a finished text makes at most the closing marks of that
text available. -/
theorem closingsAhead_append_le {s t : Text} (finished : find? s = none)
    (border : ¬ Welds s t) : closingsAhead (s ++ t) ≤ t.count closing := by
  cases opened : cutOpening s with
  | none =>
      rw [closingsAhead_append_left opened border]
      exact closingsAhead_le_count t
  | some parts =>
      have unclosed := find?_eq_none_iff.mp finished parts.1 parts.2 opened
      simp [closingsAhead, cutOpening_append_of_some t opened, List.count_append,
        List.count_eq_zero_of_not_mem unclosed]

theorem closingsAhead_of_find? {t : Text} {f : Found} (h : find? t = some f) :
    closingsAhead t = f.rest.count closing + 1 := by
  obtain ⟨opened, unclosed⟩ := find?_eq_some_iff.mp h
  simp [closingsAhead, opened, List.count_append, List.count_eq_zero_of_not_mem unclosed]

/-- A replacement of the leftmost wildcard by a finished text uses up a closing mark, if
it welds no opening mark. -/
theorem closingsAhead_splice_lt {t spliced : Text} {f : Found} (h : find? t = some f)
    (finished : find? spliced = none) (left : ¬ Welds f.gap (spliced ++ f.rest))
    (right : ¬ Welds spliced f.rest) :
    closingsAhead (f.gap ++ spliced ++ f.rest) < closingsAhead t := by
  calc
    closingsAhead (f.gap ++ spliced ++ f.rest) = closingsAhead (spliced ++ f.rest) := by
      rw [List.append_assoc, closingsAhead_append_left (gap_unopened h) left]
    _ ≤ f.rest.count closing := closingsAhead_append_le finished right
    _ < closingsAhead t := by
      rw [closingsAhead_of_find? h]
      exact Nat.lt_succ_self _

end PromptLoom.Wildcard
