import Mathlib.Data.Finset.Card
import PromptLoom.Proofs.Pool.Selection

/-! # What a selection can give

A selection gives nothing only when it is asked for nothing or has nothing to draw from. Otherwise
each list of as many values of the pool as it is asked for is given for some words, unless repeats
are neither allowed nor forced: then it is each list without repeats.
-/

namespace PromptLoom.Pool

open PromptLoom.Random

variable {p : Pool} {amount : Nat} {repeats : Bool} {picks : List Text} {s : Source}

/-- The picks that a selection can come to. -/
structure Admits (p : Pool) (amount : Nat) (repeats : Bool) (picks : List Text) : Prop where
  length : picks.length = amount
  held : ∀ t ∈ picks, t ∈ p.items
  /-- Repeats are forced where the pool has too few different values. -/
  apart : repeats = false → amount ≤ p.items.toFinset.card → picks.Nodup

theorem distinctCount_eq_card (p : Pool) : p.distinctCount = p.items.toFinset.card := by
  have same : p.items.toFinset = (Text.distinct p.items).toFinset := by
    ext t
    simp [Text.mem_distinct]
  rw [same, List.toFinset_card_of_nodup (Text.nodup_distinct _), distinctCount]

theorem not_nodup_of_distinctCount_lt {p : Pool} {picks : List Text}
    (held : ∀ t ∈ picks, t ∈ p.items) (many : p.distinctCount < picks.length) : ¬ picks.Nodup := by
  intro apart
  have within : picks.toFinset ⊆ p.items.toFinset := by
    intro t chosen
    rw [List.mem_toFinset] at chosen ⊢
    exact held t chosen
  have few := Finset.card_le_card within
  rw [List.toFinset_card_of_nodup apart, ← distinctCount_eq_card] at few
  exact Nat.not_lt.mpr few many

/-- Repeats are kept out of a selection exactly where its picks have to differ. -/
theorem strict_iff : (repeats || p.distinctCount < amount) = false ↔
    repeats = false ∧ amount ≤ p.items.toFinset.card := by
  simp [distinctCount_eq_card]

theorem picks_of_refused (refused : amount = 0 ∨ p = .collection []) (s : Source) :
    (p.picks amount repeats s).1 = none := by
  rw [picks, if_pos (refused.imp_right isEmpty_iff.mpr)]
  rfl

/-- The candidates never run out, whatever the words are. -/
theorem exists_picks (positive : amount ≠ 0) (nonempty : p ≠ .collection []) (s : Source) :
    ∃ picks, p.Admits amount repeats picks ∧
      (pick (repeats || p.distinctCount < amount) amount (p.candidates amount) s).1 = some picks ∧
      (p.picks amount repeats s).1 = some picks := by
  have candidates : p.isEmpty = false := Bool.eq_false_iff.mpr (mt isEmpty_iff.mp nonempty)
  obtain ⟨picks, rest, ran, length, held, apart⟩ := picks_spec repeats positive candidates s
  refine ⟨picks, ⟨length, held, fun strict few => apart (strict_iff.mpr ⟨strict, few⟩)⟩, ?_, ?_⟩
  · rw [Pool.picks, if_neg (by simp [positive, candidates])] at ran
    rw [ran]
  · rw [ran]

theorem mem_candidates (positive : amount ≠ 0) {t : Text} (member : t ∈ p.items) :
    t ∈ p.candidates amount := by
  cases p with
  | scalar value => exact List.mem_replicate.mpr ⟨positive, List.mem_singleton.mp member⟩
  | collection items => exact member

theorem length_candidates_le (p : Pool) (amount : Nat) :
    (p.candidates amount).length ≤ max amount p.items.length := by
  cases p with
  | scalar value => simp [candidates]
  | collection items => exact Nat.le_max_right _ _

/-- All picks that a selection admits are given for some words. -/
theorem Admits.exists_reads (admitted : p.Admits amount repeats picks) (positive : amount ≠ 0)
    (few : amount < UInt64.size) (small : p.items.length < UInt64.size) :
    ∃ words, Reads (p.picks amount repeats) words (some picks) := by
  have candidates : ∀ t ∈ picks, t ∈ p.candidates amount := fun t chosen =>
    mem_candidates positive (admitted.held t chosen)
  have nonempty : p.isEmpty = false := by
    cases picks with
    | nil => exact absurd admitted.length.symm positive
    | cons t picks => exact isEmpty_of_mem (admitted.held t List.mem_cons_self)
  have fits : (p.candidates amount).length ≤ UInt64.size := by
    have bound := length_candidates_le p amount
    omega
  rw [Pool.picks, if_neg (by simp [positive, nonempty]), ← admitted.length]
  rw [← admitted.length] at candidates fits admitted
  exact exists_pick_reads fits candidates fun strict =>
    admitted.apart (strict_iff.mp strict).1 (strict_iff.mp strict).2

theorem Admits.exists_words (admitted : p.Admits amount repeats picks) (positive : amount ≠ 0)
    (few : amount < UInt64.size) (small : p.items.length < UInt64.size) :
    ∃ words, (p.select amount repeats (.ofWords words)).1 = some (Text.joinList picks) := by
  obtain ⟨words, given⟩ := admitted.exists_reads positive few small
  refine ⟨words, ?_⟩
  rw [select_apply, given _ (Source.ofWords_offers words)]
  rfl

/-- A selection gives nothing for some words exactly if it does for all of them, and otherwise its
texts are the lists of the picks that it admits. The drawing of picks never finds its candidates
used up. -/
theorem select_outcomes (p : Pool) (amount : Nat) (repeats : Bool) (few : amount < UInt64.size)
    (small : p.items.length < UInt64.size) :
    ((∃ words, (p.select amount repeats (.ofWords words)).1 = none) ↔
        amount = 0 ∨ p = .collection []) ∧
      (amount = 0 ∨ p = .collection [] → ∀ s, (p.select amount repeats s).1 = none) ∧
      (amount ≠ 0 → p ≠ .collection [] →
        (∀ t, (∃ words, (p.select amount repeats (.ofWords words)).1 = some t) ↔
          ∃ picks, p.Admits amount repeats picks ∧ t = Text.joinList picks) ∧
        ∀ s, (pick (repeats || p.distinctCount < amount) amount (p.candidates amount) s).1 ≠
          none) := by
  have refuses : amount = 0 ∨ p = .collection [] → ∀ s, (p.select amount repeats s).1 = none := by
    intro refused s
    rw [select_apply, picks_of_refused refused]
    rfl
  have gives (positive : amount ≠ 0) (nonempty : p ≠ .collection []) (s : Source) :
      ∃ picks, p.Admits amount repeats picks ∧
        (p.select amount repeats s).1 = some (Text.joinList picks) := by
    obtain ⟨picks, admitted, -, ran⟩ := exists_picks positive nonempty s
    exact ⟨picks, admitted, by rw [select_apply, ran]; rfl⟩
  refine ⟨⟨?_, fun refused => ⟨[], refuses refused _⟩⟩, refuses, fun positive nonempty => ⟨?_, ?_⟩⟩
  · rintro ⟨words, nothing⟩
    by_contra accepted
    rw [not_or] at accepted
    obtain ⟨picks, -, given⟩ := gives accepted.1 accepted.2 (.ofWords words)
    rw [nothing] at given
    cases given
  · intro t
    constructor
    · rintro ⟨words, given⟩
      obtain ⟨picks, admitted, same⟩ := gives positive nonempty (.ofWords words)
      exact ⟨picks, admitted, Option.some.inj (given.symm.trans same)⟩
    · rintro ⟨picks, admitted, rfl⟩
      exact admitted.exists_words positive few small
  · intro s exhausted
    obtain ⟨picks, -, drawn, -⟩ := exists_picks positive nonempty s
    rw [exhausted] at drawn
    cases drawn

/-- Of two values, one of which stands in the pool twice, either can come first, and neither comes
twice. -/
theorem select_twins :
    let twins : Pool := .collection ["a".toList, "b".toList, "a".toList]
    2 < UInt64.size ∧ twins.items.length < UInt64.size ∧
      (∃ words, (twins.select 2 false (.ofWords words)).1 = some "b and a".toList) ∧
      ¬ ∃ words, (twins.select 2 false (.ofWords words)).1 = some "a and a".toList := by
  intro twins
  have few : 2 < UInt64.size := by decide
  have small : twins.items.length < UInt64.size := by decide
  obtain ⟨-, -, outcomes⟩ := select_outcomes twins 2 false few small
  obtain ⟨texts, -⟩ := outcomes (by decide) (by decide)
  refine ⟨few, small, (texts _).mpr ⟨["b".toList, "a".toList], ⟨rfl, by decide, ?_⟩, rfl⟩, ?_⟩
  · exact fun _ _ => by decide
  · rw [texts]
    rintro ⟨picks, ⟨length, held, apart⟩, joined⟩
    obtain ⟨first, second, rfl⟩ := List.length_eq_two.mp length
    have either : ∀ t ∈ twins.items, t = "a".toList ∨ t = "b".toList := by decide
    have one := either first (held _ List.mem_cons_self)
    have two := either second (held _ (List.mem_cons_of_mem _ List.mem_cons_self))
    rcases one with rfl | rfl <;> rcases two with rfl | rfl
    · exact absurd (apart rfl (by decide)) (by decide)
    all_goals exact absurd joined (by decide)

end PromptLoom.Pool
