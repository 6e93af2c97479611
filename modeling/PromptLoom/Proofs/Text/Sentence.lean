import PromptLoom.Proofs.Text.Joined

/-! # Lists in sentences taken apart

A list is cut at its last " and ", and what stands in front of that at every comma with a space
behind it. The items come back if none of them holds a comma or the word: then a comma is never part
of an item, and the word stands nowhere but in front of the last one.
-/

namespace PromptLoom.Text

/-! ## Cutting at a mark

A mark has at least one character.
-/

/-- Cut at the last `mark`, which goes into neither part; `none` when the text has no `mark`. -/
def cutLast (mark : Text) : Text → Option (Text × Text)
  | [] => none
  | c :: rest =>
    match cutLast mark rest with
    | some parts => some (c :: parts.1, parts.2)
    | none => if mark <+: c :: rest then some ([], (c :: rest).drop mark.length) else none

/-- Cut at every `mark`, from left to right. -/
def pieces (mark : Text) : Text → List Text
  | [] => [[]]
  | c :: rest =>
    if mark <+: c :: rest then [] :: pieces mark (rest.drop (mark.length - 1))
    else (pieces mark rest).modifyHead (c :: ·)
termination_by t => t.length
decreasing_by
  · simp only [List.length_drop, List.length_cons]
    omega
  · exact Nat.lt_succ_self _

section Marks

variable {mark t before after : Text}

theorem cutLast_eq_none_iff (nonempty : mark ≠ []) : cutLast mark t = none ↔ ¬ mark <:+: t := by
  induction t with
  | nil => simp [cutLast, nonempty]
  | cons c t ih =>
      rw [List.infix_cons_iff, not_or, ← ih, cutLast]
      cases cutLast mark t with
      | some parts => simp
      | none => simp

/-- The mark of the cut stands in the text and no other one starts behind its start. -/
theorem cutLast_eq_some_iff (nonempty : mark ≠ []) :
    cutLast mark t = some (before, after) ↔
      t = before ++ mark ++ after ∧ ¬ mark <:+: (mark ++ after).tail := by
  obtain ⟨m, ms, rfl⟩ := List.exists_cons_of_ne_nil nonempty
  constructor
  · intro cut
    induction t generalizing before with
    | nil => cases cut
    | cons c t ih =>
        rw [cutLast] at cut
        split at cut
        · rename_i parts later
          cases cut
          obtain ⟨split, last⟩ := ih later
          exact ⟨congrArg (c :: ·) split, last⟩
        · rename_i unmarked
          split at cut
          · rename_i first
            cases cut
            have split := List.prefix_iff_eq_append.mp first
            refine ⟨split.symm, ?_⟩
            rw [split]
            exact (cutLast_eq_none_iff nonempty).mp unmarked
          · cases cut
  · rintro ⟨rfl, last⟩
    induction before with
    | nil =>
        have unmarked := (cutLast_eq_none_iff nonempty).mpr last
        simp only [List.cons_append, List.tail_cons] at unmarked
        simp [cutLast, unmarked]
    | cons c before ih => rw [List.cons_append, List.cons_append, cutLast, ih]

/-- A text without the first character of the mark belongs to the piece that it opens. -/
theorem pieces_append {m : Char} {ms : Text} (plain : m ∉ t) (rest : Text) :
    pieces (m :: ms) (t ++ rest) = (pieces (m :: ms) rest).modifyHead (t ++ ·) := by
  induction t with
  | nil => exact (congrFun List.modifyHead_id (pieces (m :: ms) rest)).symm
  | cons c t ih =>
      simp only [List.mem_cons, not_or] at plain
      have other : ¬ m :: ms <+: c :: (t ++ rest) := fun first =>
        plain.1 (List.cons_prefix_cons.mp first).1
      rw [List.cons_append, pieces, if_neg other, ih plain.2, List.modifyHead_modifyHead]
      rfl

theorem pieces_mark (m : Char) (ms rest : Text) :
    pieces (m :: ms) (m :: ms ++ rest) = [] :: pieces (m :: ms) rest := by
  have first : m :: ms <+: m :: (ms ++ rest) := List.prefix_append (m :: ms) rest
  rw [List.cons_append, pieces, if_pos first, List.length_cons, Nat.add_sub_cancel, List.drop_left]

/-- Joined texts are the pieces between the marks that join them. -/
theorem pieces_joined {m : Char} {ms : Text} {ts : List Text} (nonempty : ts ≠ [])
    (plain : ∀ t ∈ ts, m ∉ t) : pieces (m :: ms) (joined (m :: ms) ts) = ts := by
  induction ts with
  | nil => exact absurd rfl nonempty
  | cons t ts ih =>
      have first := plain t List.mem_cons_self
      cases ts with
      | nil =>
          have whole : pieces (m :: ms) (t ++ []) = _ := pieces_append first []
          simpa [joined, pieces] using whole
      | cons u ts =>
          have behind : ∀ v ∈ u :: ts, m ∉ v := fun v held => plain v (List.mem_cons_of_mem t held)
          have others := ih (List.cons_ne_nil u ts) behind
          have split : joined (m :: ms) (t :: u :: ts) =
              t ++ (m :: ms ++ joined (m :: ms) (u :: ts)) := List.append_assoc ..
          rw [split, pieces_append first, pieces_mark, others, List.modifyHead_cons,
            List.append_nil]

end Marks

/-! ## Items of a list -/

/-- The items of a list in a sentence. -/
def splitList (t : Text) : List Text :=
  match cutLast " and ".toList t with
  | some (before, last) => pieces ", ".toList before ++ [last]
  | none => pieces ", ".toList t

theorem joinList_concat_cons (first : Text) (others : List Text) (last : Text) :
    joinList (first :: (others ++ [last])) =
      joined ", ".toList (first :: others) ++ " and ".toList ++ last := by
  induction others generalizing first with
  | nil => simp [joinList, joinRest, joined]
  | cons second others ih =>
      have comma : link (others ++ [last]).length = ", ".toList := by simp [link]
      have behind : second ++ joinRest (others ++ [last]) = _ := ih second
      have split : joined ", ".toList (first :: second :: others) =
          first ++ ", ".toList ++ joined ", ".toList (second :: others) := rfl
      calc
        joinList (first :: (second :: others ++ [last]))
          = first ++ ", ".toList ++ (second ++ joinRest (others ++ [last])) := by
              simp only [joinList, List.cons_append, joinRest_cons, comma, List.append_assoc]
        _ = joined ", ".toList (first :: second :: others) ++ " and ".toList ++ last := by
              rw [behind, split, ← List.append_assoc, ← List.append_assoc]

/-- All items but the last one are joined by commas. -/
theorem joinList_concat {front : List Text} (nonempty : front ≠ []) (last : Text) :
    joinList (front ++ [last]) = joined ", ".toList front ++ " and ".toList ++ last := by
  obtain ⟨first, others, rfl⟩ := List.exists_cons_of_ne_nil nonempty
  exact joinList_concat_cons first others last

theorem and_within : "and".toList <:+: " and ".toList := by decide

/-- The place in front of the last item could be hidden by that item alone. -/
theorem cutLast_and {last : Text} (plain : ¬ "and".toList <:+: last) (before : Text) :
    cutLast " and ".toList (before ++ " and ".toList ++ last) = some (before, last) := by
  refine (cutLast_eq_some_iff (by decide)).mpr ⟨rfl, fun later => plain ?_⟩
  have behind : " and ".toList <:+: ' ' :: last := by
    simpa [List.infix_cons_iff] using later
  rcases List.infix_cons_iff.mp behind with first | inside
  · have start : "and".toList ++ [' '] <+: last := (List.cons_prefix_cons.mp first).2
    exact ((List.prefix_append _ _).trans start).isInfix
  · exact and_within.trans inside

/-- A list of items that hold neither a comma nor the word in front of the last one is taken apart
into these items, also where some of them are empty. -/
theorem splitList_joinList {items : List Text} (nonempty : items ≠ [])
    (plain : ∀ t ∈ items, ',' ∉ t ∧ ¬ "and".toList <:+: t) :
    splitList (joinList items) = items := by
  obtain ⟨front, last, rfl⟩ : ∃ front last, items = front ++ [last] :=
    ⟨_, _, (List.dropLast_concat_getLast nonempty).symm⟩
  obtain ⟨comma, word⟩ := plain last List.mem_concat_self
  cases front with
  | nil =>
      have whole : cutLast " and ".toList last = none :=
        (cutLast_eq_none_iff (by decide)).mpr fun held => word (and_within.trans held)
      have single : joinList [last] = last := List.append_nil last
      rw [List.nil_append, splitList, single, whole]
      exact pieces_joined (m := ',') (List.cons_ne_nil last []) (by simpa using comma)
  | cons first others =>
      have commas : ∀ t ∈ first :: others, ',' ∉ t := fun t held =>
        (plain t (List.mem_append_left [last] held)).1
      have nonempty := List.cons_ne_nil first others
      rw [splitList, joinList_concat nonempty, cutLast_and word]
      exact congrArg (· ++ [last]) (pieces_joined nonempty commas)

/-- Items that are empty or blank and items that end or start like a connector. -/
def murmur : List Text :=
  ["", " an", "d ", " d", " "].map String.toList

theorem splitList_murmur :
    (murmur ≠ [] ∧ ∀ t ∈ murmur, ',' ∉ t ∧ ¬ "and".toList <:+: t) ∧
      joinList murmur = ",  an, d ,  d and  ".toList ∧
      splitList (joinList murmur) = murmur :=
  ⟨by decide, by decide, splitList_joinList (by decide) (by decide)⟩

end PromptLoom.Text
