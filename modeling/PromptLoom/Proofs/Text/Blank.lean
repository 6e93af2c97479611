import Mathlib.Data.List.TakeWhile
import PromptLoom.Text.Blank

/-! # Texts without white space at their ends

What is left of a text without the white space at its two ends has white space around it in the text
and none at its own ends, and no other part of the text is so.
-/

namespace PromptLoom.Text

variable {t u before after : Text}

/-- White space and nothing else. -/
def AllBlank (t : Text) : Prop :=
  ∀ c ∈ t, isBlank c = true

/-- No white space at either end. -/
structure Trimmed (t : Text) : Prop where
  head : ∀ c ∈ t.head?, isBlank c = false
  last : ∀ c ∈ t.getLast?, isBlank c = false

theorem dropWhile_of_head (plain : ∀ c ∈ t.head?, isBlank c = false) :
    t.dropWhile isBlank = t := by
  cases t with
  | nil => rfl
  | cons c t => exact List.dropWhile_cons_of_neg (by simp [plain c rfl])

theorem head_of_dropWhile : ∀ c ∈ (t.dropWhile isBlank).head?, isBlank c = false := by
  intro c first
  have left := List.head?_dropWhile_not isBlank t
  rw [first] at left
  simpa using left

/-- White space around a text is what a trim takes away. -/
theorem trim_of_split (front : AllBlank before) (back : AllBlank after) (ends : Trimmed u) :
    trim (before ++ u ++ after) = u := by
  unfold trim
  rw [List.append_assoc, List.dropWhile_append_of_pos front]
  cases u with
  | nil =>
      have nothing : after.dropWhile isBlank = [] := List.dropWhile_eq_nil_iff.mpr back
      simp [nothing]
  | cons c u =>
      have starts := dropWhile_of_head (t := c :: u ++ after) ends.head
      have behind : AllBlank after.reverse := fun d held => back d (List.mem_reverse.mp held)
      have stops := dropWhile_of_head (t := (c :: u).reverse) (List.head?_reverse ▸ ends.last)
      rw [starts, List.reverse_append, List.dropWhile_append_of_pos behind, stops,
        List.reverse_reverse]

/-- What a trim takes away from the end, behind what it takes away from the start. -/
theorem trim_append (t : Text) :
    trim t ++ ((t.dropWhile isBlank).reverse.takeWhile isBlank).reverse = t.dropWhile isBlank := by
  rw [trim, ← List.reverse_append, List.takeWhile_append_dropWhile, List.reverse_reverse]

theorem trimmed_trim (t : Text) : Trimmed (trim t) := by
  constructor
  · intro c first
    refine head_of_dropWhile (t := t) c ?_
    rw [← trim_append, List.head?_append, first]
    rfl
  · intro c last
    rw [trim, List.getLast?_reverse] at last
    exact head_of_dropWhile c last

theorem allBlank_takeWhile (t : Text) : AllBlank (t.takeWhile isBlank) :=
  fun _ held => List.mem_takeWhile_imp held

theorem exists_split_trim (t : Text) :
    ∃ before after, t = before ++ trim t ++ after ∧ AllBlank before ∧ AllBlank after := by
  refine ⟨t.takeWhile isBlank, ((t.dropWhile isBlank).reverse.takeWhile isBlank).reverse, ?_,
    allBlank_takeWhile t, fun c held => allBlank_takeWhile _ c (List.mem_reverse.mp held)⟩
  rw [List.append_assoc, trim_append, List.takeWhile_append_dropWhile]

theorem trim_eq_nil_iff : trim t = [] ↔ AllBlank t := by
  constructor
  · intro nothing
    obtain ⟨before, after, split, front, back⟩ := exists_split_trim t
    rw [nothing, List.append_nil] at split
    rw [split]
    exact fun c held => (List.mem_append.mp held).elim (front c) (back c)
  · intro blank
    rw [trim, List.dropWhile_eq_nil_iff.mpr blank]
    rfl

end PromptLoom.Text
