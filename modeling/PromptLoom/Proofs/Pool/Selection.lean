import PromptLoom.Pool
import PromptLoom.Proofs.Random.Draw

/-! # Selections

A pool that is not empty never runs out of candidates: without repeats each pick takes
away one of the different values, and repeats are allowed when there are too few of
them. So a selection gives as many picks as it is asked for, and all of them are items
of the pool.
-/

namespace PromptLoom

namespace Text

variable {α : Type} [DecidableEq α]

theorem nodup_distinct (xs : List α) : (distinct xs).Nodup := by
  induction xs with
  | nil => exact List.nodup_nil
  | cons x xs ih => exact List.nodup_cons.mpr ⟨by simp, ih.filter _⟩

theorem distinct_filter (keep : α → Bool) (xs : List α) :
    distinct (xs.filter keep) = (distinct xs).filter keep := by
  induction xs with
  | nil => rfl
  | cons x xs ih =>
      by_cases kept : keep x
      · simp [distinct, kept, ih, List.filter_filter, Bool.and_comm]
      · have gone : ∀ y, (keep y && !decide (y = x)) = keep y := by
          intro y
          by_cases same : y = x <;> simp_all
        simp [distinct, kept, ih, List.filter_filter, gone]

/-- Removing all copies of a value takes away one of the different values. -/
theorem length_distinct_remove {x : α} {xs : List α} (member : x ∈ xs) :
    (distinct (xs.filter (· ≠ x))).length + 1 = (distinct xs).length := by
  have held : x ∈ distinct xs := mem_distinct.mpr member
  have removed : (distinct xs).filter (· ≠ x) = (distinct xs).erase x := by
    rw [(nodup_distinct xs).erase_eq_filter]
    exact List.filter_congr fun y _ => by simp [bne, BEq.beq]
  rw [distinct_filter, removed, List.length_erase_of_mem held]
  have := List.length_pos_of_mem held
  omega

end Text

namespace Pool

open PromptLoom.Random

theorem isEmpty_iff {p : Pool} : p.isEmpty = true ↔ p = .collection [] := by
  cases p with
  | scalar value => simp [isEmpty]
  | collection items => simp [isEmpty]

/-- The candidates after a pick. -/
def remaining (repeats : Bool) (choice : Text) (working : List Text) : List Text :=
  if repeats then working else working.filter (· ≠ choice)

theorem pick_succ (repeats : Bool) (amount : Nat) {working : List Text} (nonempty : working ≠ []) :
    pick repeats (amount + 1) working = (do
      let choice := working.getD (← draw working.length) []
      return (← pick repeats amount (remaining repeats choice working)).map (choice :: ·)) := by
  rw [pick, if_neg (by simpa using nonempty)]
  rfl

section Remaining

variable {repeats : Bool} {choice t : Text} {working : List Text} {amount : Nat}

theorem mem_of_mem_remaining (left : t ∈ remaining repeats choice working) : t ∈ working := by
  cases repeats with
  | true => exact left
  | false => exact (List.mem_filter.mp left).1

theorem mem_remaining (candidate : t ∈ working) (other : repeats = false → t ≠ choice) :
    t ∈ remaining repeats choice working := by
  cases repeats with
  | true => exact candidate
  | false => exact List.mem_filter.mpr ⟨candidate, by simpa using other rfl⟩

theorem not_mem_remaining : choice ∉ remaining false choice working := by
  intro again
  have kept := (List.mem_filter.mp again).2
  simp at kept

theorem length_remaining_le : (remaining repeats choice working).length ≤ working.length := by
  unfold remaining
  split
  · exact Nat.le_refl _
  · exact List.length_filter_le _ _

/-- Candidates that are enough for some picks are enough for the others after the first one. -/
theorem remaining_enough (member : choice ∈ working)
    (enough : repeats = true ∧ working ≠ [] ∨ amount + 1 ≤ (Text.distinct working).length) :
    repeats = true ∧ remaining repeats choice working ≠ [] ∨
      amount ≤ (Text.distinct (remaining repeats choice working)).length := by
  cases repeats with
  | true => exact .inl ⟨rfl, List.ne_nil_of_mem member⟩
  | false =>
      have removed := Text.length_distinct_remove member
      simp only [Bool.false_eq_true, false_and, false_or] at enough
      right
      change amount ≤ (Text.distinct (working.filter (· ≠ choice))).length
      omega

end Remaining

/-- Picks that the working candidates can give: with repeats from the same candidates
again and again, without repeats from ever fewer values. -/
theorem pick_spec (repeats : Bool) {amount : Nat} {working : List Text}
    (enough : repeats = true ∧ working ≠ [] ∨ amount ≤ (Text.distinct working).length)
    (s : Source) :
    ∃ picks rest, pick repeats amount working s = (some picks, rest) ∧ picks.length = amount ∧
      (∀ t ∈ picks, t ∈ working) ∧ (repeats = false → picks.Nodup) := by
  induction amount generalizing working s with
  | zero => exact ⟨[], s, rfl, rfl, by simp, by simp⟩
  | succ amount ih =>
      have nonempty : working ≠ [] := by
        rintro rfl
        simp [Text.distinct] at enough
      let drawn := s.below working.length
      let choice := working.getD drawn.1 []
      have inside : drawn.1 < working.length :=
        Source.below_lt (List.length_pos_iff.mpr nonempty) s
      have member : choice ∈ working := by
        simp only [choice, List.getD_eq_getElem?_getD, List.getElem?_eq_getElem inside]
        exact List.getElem_mem inside
      obtain ⟨picks, rest, ran, length, held, apart⟩ := ih (remaining_enough member enough) drawn.2
      have opened : pick repeats (amount + 1) working s = (some (choice :: picks), rest) := by
        rw [pick_succ repeats amount nonempty]
        change ((pick repeats amount (remaining repeats choice working) drawn.2).1.map _, _) = _
        rw [ran]
        rfl
      refine ⟨choice :: picks, rest, opened, by simp [length], ?_, fun strict => ?_⟩
      · intro t chosen
        rcases List.mem_cons.mp chosen with rfl | chosen
        · exact member
        · exact mem_of_mem_remaining (held t chosen)
      · subst strict
        exact List.nodup_cons.mpr ⟨fun again => not_mem_remaining (held choice again), apart rfl⟩

theorem items_ne_nil {p : Pool} (nonempty : p.isEmpty = false) : p.items ≠ [] := by
  cases p with
  | scalar value => simp [items]
  | collection items => simpa [isEmpty, Pool.items] using nonempty

theorem isEmpty_of_mem {p : Pool} {t : Text} (member : t ∈ p.items) : p.isEmpty = false := by
  cases p with
  | scalar value => rfl
  | collection items => exact List.isEmpty_eq_false_iff.mpr (List.ne_nil_of_mem member)

theorem mem_items_of_mem_candidates {p : Pool} {amount : Nat} {t : Text}
    (member : t ∈ p.candidates amount) : t ∈ p.items := by
  cases p with
  | scalar value => exact List.mem_singleton.mpr (List.eq_of_mem_replicate member)
  | collection items => exact member

/-- There are candidates for every number of picks from a pool that is not empty. -/
theorem candidates_enough {p : Pool} {amount : Nat} {repeats : Bool} (positive : amount ≠ 0)
    (nonempty : p.isEmpty = false) :
    (repeats || p.distinctCount < amount) = true ∧ p.candidates amount ≠ [] ∨
      amount ≤ (Text.distinct (p.candidates amount)).length := by
  by_cases few : p.distinctCount < amount
  · refine .inl ⟨by simp [few], ?_⟩
    cases p with
    | scalar value => simpa [candidates] using positive
    | collection items => exact items_ne_nil nonempty
  · right
    cases p with
    | scalar value =>
        obtain rfl : amount = 1 := by
          simp only [distinctCount, items, Text.distinct, List.filter_nil, List.length_singleton]
            at few
          omega
        simp [candidates, Text.distinct]
    | collection items => exact Nat.le_of_not_lt few

/-- A selection from a pool with items gives as many of them as it is asked for, all different
unless repeats are allowed or forced. -/
theorem picks_spec {p : Pool} {amount : Nat} (repeats : Bool) (positive : amount ≠ 0)
    (nonempty : p.isEmpty = false) (s : Source) :
    ∃ picks rest, p.picks amount repeats s = (some picks, rest) ∧ picks.length = amount ∧
      (∀ t ∈ picks, t ∈ p.items) ∧
      ((repeats || p.distinctCount < amount) = false → picks.Nodup) := by
  obtain ⟨picks, rest, ran, length, held, apart⟩ :=
    pick_spec (repeats || p.distinctCount < amount) (candidates_enough positive nonempty) s
  refine ⟨picks, rest, ?_, length, fun t chosen => mem_items_of_mem_candidates (held t chosen),
    apart⟩
  rw [Pool.picks, if_neg (by simp [positive, nonempty]), ran]

theorem picks_of_isEmpty {p : Pool} (empty : p.isEmpty = true) (amount : Nat) (repeats : Bool)
    (s : Source) : p.picks amount repeats s = (none, s) := by
  rw [picks, if_pos (.inr empty)]
  rfl

theorem of_picks {p : Pool} {amount : Nat} {repeats : Bool} {s : Source} {picks : List Text}
    (ran : (p.picks amount repeats s).1 = some picks) :
    picks.length = amount ∧ (∀ t ∈ picks, t ∈ p.items) ∧
      ((repeats || p.distinctCount < amount) = false → picks.Nodup) := by
  by_cases empty : p.isEmpty = true
  · simp [picks_of_isEmpty empty] at ran
  · by_cases zero : amount = 0
    · rw [Pool.picks, if_pos (.inl zero)] at ran
      cases ran
    · obtain ⟨found, rest, drawn, spec⟩ := picks_spec repeats zero (by simpa using empty) s
      rw [drawn, Option.some.injEq] at ran
      exact ran ▸ spec

theorem select_apply (p : Pool) (amount : Nat) (repeats : Bool) (s : Source) :
    p.select amount repeats s =
      ((p.picks amount repeats s).1.map Text.joinList, (p.picks amount repeats s).2) := rfl

theorem select_scalar_one (value : Text) (repeats : Bool) (s : Source) :
    ∃ rest, (scalar value).select 1 repeats s = (some value, rest) := by
  obtain ⟨picks, rest, ran, length, held, -⟩ :=
    picks_spec (p := .scalar value) repeats Nat.one_ne_zero rfl s
  obtain ⟨pick, rfl⟩ := List.length_eq_one_iff.mp length
  obtain rfl := List.mem_singleton.mp (held pick (List.mem_singleton_self pick))
  exact ⟨rest, by simp [select_apply, ran, Text.joinList, Text.joinRest]⟩

/-- Picks from the candidates, without repeats unless they are allowed, are given for some words. -/
theorem exists_pick_reads {repeats : Bool} {picks working : List Text}
    (small : working.length ≤ UInt64.size) (held : ∀ t ∈ picks, t ∈ working)
    (apart : repeats = false → picks.Nodup) :
    ∃ words, Reads (pick repeats picks.length working) words (some picks) := by
  induction picks generalizing working with
  | nil => exact ⟨[], .pure _⟩
  | cons t picks ih =>
      have member := held t List.mem_cons_self
      have later : ∀ u ∈ picks, u ∈ remaining repeats t working := by
        intro u chosen
        refine mem_remaining (held u (List.mem_cons_of_mem t chosen)) ?_
        rintro strict rfl
        exact (List.nodup_cons.mp (apart strict)).1 chosen
      have left : (remaining repeats t working).length ≤ UInt64.size :=
        Nat.le_trans length_remaining_le small
      obtain ⟨rest, picked⟩ := ih left later fun strict => (List.nodup_cons.mp (apart strict)).2
      obtain ⟨i, inside, found⟩ := List.getElem_of_mem member
      obtain ⟨first, drawn⟩ := Reads.draw inside small
      have choice : working.getD i [] = t := by
        rw [List.getD_eq_getElem?_getD, List.getElem?_eq_getElem inside, found]
        rfl
      refine ⟨first ++ (rest ++ []), ?_⟩
      rw [List.length_cons, pick_succ _ _ (List.ne_nil_of_mem member)]
      refine drawn.bind ?_
      simp only [choice]
      exact picked.bind (.pure _)

/-- Each item of a pool is the only pick for some words. -/
theorem picks_one_reads {p : Pool} {t : Text} (member : t ∈ p.items)
    (small : p.items.length ≤ UInt64.size) (repeats : Bool) :
    ∃ words, Reads (p.picks 1 repeats) words (some [t]) := by
  have same : p.candidates 1 = p.items := by cases p <;> rfl
  have alone : ∀ u ∈ [t], u ∈ p.items := by simpa using member
  rw [picks, if_neg (by simp [isEmpty_of_mem member]), same]
  exact exists_pick_reads small alone fun _ => by simp

/-- Some words are enough for every number of picks. -/
theorem pick_reads (repeats : Bool) (amount : Nat) (working : List Text) :
    ∃ words selected, Reads (pick repeats amount working) words selected := by
  induction amount generalizing working with
  | zero => exact ⟨[], some [], .pure _⟩
  | succ amount ih =>
      by_cases empty : working = []
      · exact ⟨[], none, by subst empty; exact .pure _⟩
      · obtain ⟨words, selected, rest⟩ := ih (remaining repeats (working.getD 0 []) working)
        rw [pick_succ _ _ empty]
        exact ⟨_, _, (Reads.draw_zero working.length).bind (rest.bind (.pure _))⟩

theorem picks_reads (p : Pool) (amount : Nat) (repeats : Bool) :
    ∃ words selected, Reads (p.picks amount repeats) words selected := by
  by_cases refused : amount = 0 ∨ p.isEmpty
  · refine ⟨[], none, ?_⟩
    rw [picks, if_pos refused]
    exact .pure _
  · rw [picks, if_neg refused]
    exact pick_reads _ _ _

end Pool

end PromptLoom
