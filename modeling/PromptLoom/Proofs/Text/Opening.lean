import PromptLoom.Wildcard.Scan

/-! # Opening marks and concatenation

An opening mark of two characters can come about at the border between two texts
of which neither holds one: the first text ends with a question mark and the
second one starts with a brace. Away from such borders, looking for the leftmost
opening mark distributes over concatenation.
-/

namespace PromptLoom.Text

/-- Between the two texts an opening mark comes about that neither of them holds. -/
def Welds (s t : Text) : Prop :=
  s.getLast? = some '?' ∧ t.head? = some '{'

instance (s t : Text) : Decidable (Welds s t) :=
  inferInstanceAs (Decidable (_ ∧ _))

theorem Welds.nonempty_left {s t : Text} (h : Welds s t) : s ≠ [] := by
  rintro rfl
  simp [Welds] at h

theorem Welds.brace_mem {s t : Text} (h : Welds s t) : '{' ∈ t :=
  List.mem_of_mem_head? h.2

/-- What stands in front of the last character has no influence on the border. -/
theorem welds_append_left {s t u : Text} (nonempty : t ≠ []) :
    Welds (s ++ t) u ↔ Welds t u := by
  simp [Welds, List.getLast?_append, List.getLast?_eq_some_getLast nonempty]

/-- One character in front either completes an opening mark at the start of the
text or is put in front of the part before the leftmost opening mark. -/
theorem cutOpening_cons (c : Char) (t : Text) :
    cutOpening (c :: t) =
      if Welds [c] t then some ([], t.tail)
      else (cutOpening t).map fun parts => (c :: parts.1, parts.2) := by
  by_cases border : Welds [c] t
  · obtain ⟨last, head⟩ := border
    obtain ⟨rest, rfl⟩ := List.head?_eq_some_iff.mp head
    simp only [List.getLast?_singleton, Option.some.injEq] at last
    simp [last, cutOpening, Welds]
  · rw [if_neg border, cutOpening]
    rintro rest rfl rfl
    exact border ⟨rfl, rfl⟩

theorem cutOpening_eq_none_of_not_mem {t : Text} (plain : '{' ∉ t) : cutOpening t = none := by
  induction t with
  | nil => rfl
  | cons c t ih =>
      have border : ¬ Welds [c] t := fun h => plain (List.mem_cons_of_mem c h.brace_mem)
      simp only [List.mem_cons, not_or] at plain
      simp [cutOpening_cons, border, ih plain.2]

/-- The leftmost opening mark stays the leftmost one when more text follows. -/
theorem cutOpening_append_of_some {s before after : Text} (t : Text)
    (h : cutOpening s = some (before, after)) :
    cutOpening (s ++ t) = some (before, after ++ t) := by
  induction s generalizing before with
  | nil => simp [cutOpening] at h
  | cons c s ih =>
      rw [cutOpening_cons] at h
      rw [List.cons_append, cutOpening_cons]
      split at h
      · rename_i border
        obtain ⟨rest, rfl⟩ := List.head?_eq_some_iff.mp border.2
        have stays : Welds [c] ('{' :: rest ++ t) := ⟨border.1, rfl⟩
        simp_all
      · rename_i border
        obtain ⟨parts, found, same⟩ := Option.map_eq_some_iff.mp h
        have apart : ¬ Welds [c] (s ++ t) := by
          cases s with
          | nil => simp [cutOpening] at found
          | cons d s => simpa [Welds] using border
        simp only [Prod.mk.injEq] at same
        obtain ⟨rfl, rfl⟩ := same
        simp [apart, ih found]

/-- A text without opening mark is passed over, unless it makes one together with
what follows. -/
theorem cutOpening_append_of_none {s t : Text} (unopened : cutOpening s = none)
    (border : ¬ Welds s t) :
    cutOpening (s ++ t) = (cutOpening t).map fun parts => (s ++ parts.1, parts.2) := by
  induction s with
  | nil => simp
  | cons c s ih =>
      rw [cutOpening_cons] at unopened
      split at unopened
      · simp at unopened
      · rename_i inside
        have apart : ¬ Welds [c] (s ++ t) := by
          cases s with
          | nil => simpa using border
          | cons d s => simpa [Welds] using inside
        have rest : ¬ Welds s t := fun h =>
          border ((welds_append_left (s := [c]) h.nonempty_left).mpr h)
        rw [List.cons_append, cutOpening_cons, if_neg apart,
          ih (Option.map_eq_none_iff.mp unopened) rest]
        simp [Function.comp_def]

theorem cutOpening_append_eq_none {s t : Text} (left : cutOpening s = none)
    (right : cutOpening t = none) (border : ¬ Welds s t) : cutOpening (s ++ t) = none := by
  simp [cutOpening_append_of_none left border, right]

theorem cutOpening_before {t before after : Text} (h : cutOpening t = some (before, after)) :
    cutOpening before = none := by
  cases found : cutOpening before with
  | none => rfl
  | some parts =>
      have earlier := cutOpening_append_of_some (opening ++ after) found
      rw [← List.append_assoc, ← eq_append_of_cutOpening h, h] at earlier
      have shorter := congrArg List.length (eq_append_of_cutOpening found)
      simp only [Option.some.injEq, Prod.mk.injEq] at earlier
      simp only [← earlier.1, List.length_append, opening, List.length_cons] at shorter
      omega

/-- Nothing changes in front of the opening mark that a cut finds. -/
theorem cutOpening_opening {s : Text} (unopened : cutOpening s = none) (t : Text) :
    cutOpening (s ++ opening ++ t) = some (s, t) := by
  have border : ¬ Welds s (opening ++ t) := by simp [Welds, opening]
  rw [List.append_assoc, cutOpening_append_of_none unopened border]
  simp [opening, cutOpening]

end PromptLoom.Text
