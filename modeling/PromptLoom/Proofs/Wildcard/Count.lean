import Mathlib.Data.Nat.Basic
import Mathlib.Data.Set.Operations
import Mathlib.Order.Bounds.Defs
import Mathlib.Order.Interval.Set.Defs
import PromptLoom.Proofs.Random.Draw
import PromptLoom.Proofs.Wildcard.Body

/-! # Numbers that counts come to

Reading a count lets no range pass that holds no number, so a draw from a range is never asked for a
number below zero. Every number of the range is drawn for some words, however near the bounds lie to
the greatest number of 64 bits.
-/

namespace PromptLoom

namespace Count

open PromptLoom.Random

variable {count : Count} {n : Nat}

/-- The numbers that the count allows. -/
def values : Count → Set Nat
  | exact n => {n}
  | range low high => Set.Ico low high

theorem resolve_mem_values (bounded : count.Bounded) (s : Source) :
    (count.resolve s).1 ∈ count.values := by
  cases count with
  | exact n => exact rfl
  | range low high =>
      have order : low < high := bounded.1
      have inside := Source.below_lt (Nat.sub_pos_of_lt order) s
      change low ≤ low + (s.below (high - low)).1 ∧ low + (s.below (high - low)).1 < high
      omega

/-- Every number that the count allows is drawn for some words. -/
theorem resolve_reads (bounded : count.Bounded) (allowed : n ∈ count.values) :
    ∃ words, Reads count.resolve words n := by
  cases count with
  | exact m =>
      obtain rfl : n = m := allowed
      exact ⟨[], .pure n⟩
  | range low high =>
      obtain ⟨order, small⟩ := bounded
      obtain ⟨least, below⟩ : low ≤ n ∧ n < high := allowed
      have inside : n - low < high - low := by omega
      obtain ⟨words, drawn⟩ := Reads.draw inside (by omega)
      have whole : low + (n - low) = n := Nat.add_sub_cancel' least
      refine ⟨words ++ [], ?_⟩
      rw [← whole]
      exact drawn.bind (.pure _)

theorem isGreatest_greatest (bounded : count.Bounded) : IsGreatest count.values count.greatest := by
  cases count with
  | exact n => exact ⟨rfl, fun m same => Nat.le_of_eq same⟩
  | range low high =>
      have order : low < high := bounded.1
      constructor
      · change low ≤ high - 1 ∧ high - 1 < high
        omega
      · rintro m ⟨-, below⟩
        exact Nat.le_sub_one_of_lt below

/-- A count that is read from a body comes to the numbers that it allows, and to no other ones. Its
range holds a number, the greatest of which lies one below the upper bound. -/
theorem resolve_values {body : Text} {wildcard : Wildcard}
    (parsed : Wildcard.parse body = .ok wildcard) (counted : wildcard.count = some count) :
    (∀ low high, count = .range low high → low < high ∧ high < UInt64.size ∧
        count.greatest + 1 = high ∧ Source.zone (high - low) =
          ((UInt64.ofNat (high - low) <<< UInt64.ofNat (63 - (high - low).log2)) - 1).toNat) ∧
      Set.range (fun words => (count.resolve (.ofWords words)).1) = count.values ∧
      (∀ s, (count.resolve s).1 ∈ count.values) ∧ IsGreatest count.values count.greatest := by
  have bounded := Wildcard.count_bounded parsed counted
  refine ⟨?_, ?_, resolve_mem_values bounded, isGreatest_greatest bounded⟩
  · rintro low high rfl
    obtain ⟨order, small⟩ := bounded
    have last : high - 1 + 1 = high := Nat.sub_add_cancel (Nat.one_le_of_lt order)
    exact ⟨order, small, last, Source.zone_eq_toNat (Nat.sub_pos_of_lt order) (by omega)⟩
  · ext n
    constructor
    · rintro ⟨words, rfl⟩
      exact resolve_mem_values bounded _
    · intro allowed
      obtain ⟨words, reads⟩ := resolve_reads bounded allowed
      exact ⟨words, congrArg Prod.fst (reads _ (Source.ofWords_offers words))⟩

/-- The widest range comes to every number of 64 bits but the greatest one. -/
theorem resolve_widest :
    Wildcard.parse "die|0-18446744073709551615".toList =
        .ok ⟨"die".toList, some (.range 0 18446744073709551615), false⟩ ∧
      Set.range (fun words => ((range 0 18446744073709551615).resolve (.ofWords words)).1) =
        Set.Ico 0 18446744073709551615 ∧
      IsGreatest (Set.Ico 0 18446744073709551615) 18446744073709551614 := by
  have parsed : Wildcard.parse "die|0-18446744073709551615".toList =
      .ok ⟨"die".toList, some (.range 0 18446744073709551615), false⟩ := by
    decide +kernel
  obtain ⟨-, drawn, -, greatest⟩ := resolve_values parsed rfl
  exact ⟨parsed, drawn, greatest⟩

end Count

end PromptLoom
