import PromptLoom.Proofs.Expansion.Draft
import PromptLoom.Proofs.Expansion.Steering
import PromptLoom.Proofs.Lint.Report
import PromptLoom.Proofs.Pool.Outcomes

/-! # Warnings of forced repeats

A check compares the greatest number of a count with the number of different values in a pool. What it
finds is whether a run can pick a value twice: fewer picks than values stay different, more picks than
values cannot, and there are words for which a count comes to its greatest number.
-/

namespace PromptLoom

open Expansion

namespace Wildcard

/-- The picks that a run draws for a wildcard from the pool of its keyword; none for a count of
zero, and none from a pool without templates. -/
def drawPicks (wildcard : Wildcard) (limits : Limits) (pool : Pool) :
    Random.Draw (Option (List Text)) := do
  let amount ← wildcard.amount
  if amount = 0 then return none
  pool.picks (limits.clamp amount) wildcard.repeats

/-- For some words a value is among the picks twice. -/
def CanRepeat (wildcard : Wildcard) (limits : Limits) (pool : Pool) : Prop :=
  ∃ words picks, (wildcard.drawPicks limits pool (.ofWords words)).1 = some picks ∧ ¬ picks.Nodup

variable {wildcard : Wildcard} {limits : Limits} {pool : Pool} {s rest : Random.Source}
  {amount : Nat}

theorem drawPicks_of_zero (drawn : wildcard.amount s = (0, rest)) :
    wildcard.drawPicks limits pool s = (none, rest) := by
  simp only [drawPicks, bind, StateT.bind, drawn, if_pos]
  rfl

theorem drawPicks_of_positive (drawn : wildcard.amount s = (amount, rest)) (positive : amount ≠ 0) :
    wildcard.drawPicks limits pool s = pool.picks (limits.clamp amount) wildcard.repeats rest := by
  simp only [drawPicks, bind, StateT.bind, drawn, if_neg positive]

theorem amount_le_greatest {count : Count} (bounded : count.Bounded)
    (counted : wildcard.count = some count) (s : Random.Source) :
    (wildcard.amount s).1 ≤ count.greatest := by
  have allowed := Count.resolve_mem_values bounded s
  have bound := (Count.isGreatest_greatest bounded).2 allowed
  rwa [amount, counted]

/-- The greatest number of a count decides whether its picks can repeat a value. -/
theorem canRepeat_iff {body : Text} {count : Count} (parsed : parse body = .ok wildcard)
    (counted : wildcard.count = some count) (strict : wildcard.repeats = false)
    (nonempty : pool.isEmpty = false) (room : count.greatest ≤ limits.maxAmount.toNat) :
    wildcard.CanRepeat limits pool ↔ pool.distinctCount < count.greatest := by
  constructor
  · rintro ⟨words, picks, given, repeated⟩
    have most := amount_le_greatest (count_bounded parsed counted) counted (.ofWords words)
    cases drawn : wildcard.amount (.ofWords words) with
    | mk amount rest =>
    rw [drawn] at most
    by_cases zero : amount = 0
    · subst zero
      rw [drawPicks_of_zero drawn] at given
      cases given
    · -- Repeats are only let in for more picks than values, and no draw gives more than the greatest.
      rw [drawPicks_of_positive drawn zero, Limits.clamp_of_le zero (le_trans most room)] at given
      obtain ⟨-, -, apart⟩ := Pool.of_picks given
      by_contra few
      refine repeated (apart ?_)
      simp only [strict, Bool.false_or, decide_eq_false_iff_not]
      exact fun many => few (Nat.lt_of_lt_of_le many most)
  · intro many
    obtain ⟨words, reads⟩ := amount_reads_greatest parsed counted
    have drawn := reads _ (Random.Source.ofWords_offers words)
    have positive : count.greatest ≠ 0 := Nat.ne_zero_of_lt many
    obtain ⟨picks, rest, given, length, held, -⟩ := Pool.picks_spec wildcard.repeats positive
      nonempty ((Random.Source.ofWords words).skip words.length)
    refine ⟨words, picks, ?_, Pool.not_nodup_of_distinctCount_lt held (by omega)⟩
    rw [drawPicks_of_positive drawn positive, Limits.clamp_of_le positive room, given]

end Wildcard

/-- The picks are those of a run: it joins them and goes on with their wildcards. -/
theorem Expander.replacement_eq_drawPicks {x : Expander} {wildcard : Wildcard} {count : Count}
    {pool : Pool} {body : Text} (parsed : Wildcard.parse body = .ok wildcard)
    (counted : wildcard.count = some count) (known : x.library.get? wildcard.keyword = some pool)
    (nonempty : pool.isEmpty = false) (room : count.greatest ≤ x.limits.maxAmount.toNat)
    {depth : Nat} (shallow : depth ≤ x.limits.maxDepth.toNat) (passes : Nat) :
    replacement (x.expandOrFallback passes depth) body = (do
      match ← Run.ofDraw (wildcard.drawPicks x.limits pool) with
      | none => return []
      | some picks => x.finish passes depth (Text.joinList picks)) := by
  funext s
  rw [replacement_of_parsed parsed, Run.ofDraw_bind_apply, Run.ofDraw_bind_apply]
  have most := Wildcard.amount_le_greatest (Wildcard.count_bounded parsed counted) counted s
  cases drawn : wildcard.amount s with
  | mk amount rest =>
  rw [drawn] at most
  by_cases zero : amount = 0
  · subst zero
    rw [Wildcard.drawPicks_of_zero drawn]
    rfl
  · obtain ⟨picks, source, given, -⟩ := Pool.picks_spec wildcard.repeats
      (Nat.ne_zero_of_lt (x.limits.clamp_pos amount)) nonempty rest
    have unclamped := Limits.clamp_of_le zero (le_trans most room)
    have quiet : x.limits.clampEvents amount = [] := if_neg (not_not_intro unclamped)
    have start : x.Starts depth ⟨wildcard.keyword, amount, wildcard.repeats⟩ rest
        ⟨wildcard.keyword, depth, Text.joinList picks, source⟩ :=
      ⟨shallow, pool, _, source, known, by simp [Pool.select_apply, given], rfl⟩
    rw [Wildcard.drawPicks_of_positive drawn zero, given]
    simp only [if_neg zero, Expander.expandOrFallback_of_starts start, quiet, List.nil_append]
    exact Option.map_id'

namespace Library

variable {l : Library} {keyword body : Text} {wildcard : Wildcard} {count : Count} {pool : Pool}

/-- A template of the keyword holds a wildcard with this body, which asks for different picks from
a pool with templates. -/
structure AsksDistinct (l : Library) (keyword body : Text) (wildcard : Wildcard) (count : Count)
    (pool : Pool) : Prop where
  scanned : ∃ own, l.get? keyword = some own ∧ ∃ t ∈ own.items, body ∈ Wildcard.bodies t
  parsed : Wildcard.parse body = .ok wildcard
  counted : wildcard.count = some count
  strict : wildcard.repeats = false
  known : l.get? wildcard.keyword = some pool
  nonempty : pool.isEmpty = false

/-- What a check warns of where the picks from the pool cannot all be different. -/
def repeatsForced (keyword : Text) (wildcard : Wildcard) (count : Count) (pool : Pool) : Caution :=
  .forcedRepeats keyword count.greatest wildcard.keyword pool.distinctCount

theorem AsksDistinct.warnings_checkBody (asks : l.AsksDistinct keyword body wildcard count pool) :
    (Lint.checkBody l keyword body).warnings =
      if pool.distinctCount < count.greatest then [repeatsForced keyword wildcard count pool]
      else [] := by
  simp only [Lint.checkBody, asks.parsed, asks.known, Lint.countWarning?, asks.counted,
    asks.strict, Bool.not_false, Bool.true_and, decide_eq_true_eq]
  split <;> rfl

theorem AsksDistinct.mem_warnings_lint_iff
    (asks : l.AsksDistinct keyword body wildcard count pool) :
    repeatsForced keyword wildcard count pool ∈ (lint l).warnings ↔
      pool.distinctCount < count.greatest := by
  rw [← (lint l).mem_ofKind_iff, repeatsForced, Caution.kind, l.forcedRepeats_lint,
    List.mem_flatMap]
  constructor
  · rintro ⟨_, -, held⟩
    obtain ⟨other, target, -, -, warned⟩ := Lint.mem_warnings_checkBody_iff.mp held
    obtain ⟨most, -, -, many, same⟩ := Lint.countWarning?_eq_some_iff.mp warned
    obtain ⟨-, greatest, -, different⟩ := Caution.forcedRepeats.inj same
    rwa [greatest, different]
  · intro many
    refine ⟨_, mem_wildcards_iff.mpr asks.scanned, ?_⟩
    rw [asks.warnings_checkBody, if_pos many]
    exact List.mem_singleton_self _

/-- A check warns of a wildcard where a run can pick a value twice for it, and nowhere else. -/
theorem warns_iff_canRepeat (asks : l.AsksDistinct keyword body wildcard count pool)
    (limits : Limits) (room : count.greatest ≤ limits.maxAmount.toNat) :
    (repeatsForced keyword wildcard count pool ∈ (lint l).warnings ↔
        wildcard.CanRepeat limits pool) ∧
      ((lint l).ofKind .forcedRepeats =
        l.wildcards.flatMap fun e => (Lint.checkBody l e.1 e.2).warnings) ∧
      (wildcard.CanRepeat limits pool → (Lint.checkBody l keyword body).warnings =
        [repeatsForced keyword wildcard count pool]) ∧
      (¬ wildcard.CanRepeat limits pool → (Lint.checkBody l keyword body).warnings = []) ∧
      ∀ passes depth, depth ≤ limits.maxDepth.toNat →
        replacement (Expander.expandOrFallback ⟨l, limits⟩ passes depth) body = (do
          match ← Run.ofDraw (wildcard.drawPicks limits pool) with
          | none => return []
          | some picks => Expander.finish ⟨l, limits⟩ passes depth (Text.joinList picks)) := by
  have decided :=
    Wildcard.canRepeat_iff asks.parsed asks.counted asks.strict asks.nonempty room
  refine ⟨asks.mem_warnings_lint_iff.trans decided.symm, l.forcedRepeats_lint, ?_, ?_, ?_⟩
  · intro repeated
    rw [asks.warnings_checkBody, if_pos (decided.mp repeated)]
  · intro never
    rw [asks.warnings_checkBody, if_neg fun many => never (decided.mpr many)]
  · intro passes depth shallow
    exact Expander.replacement_eq_drawPicks (x := ⟨l, limits⟩) asks.parsed asks.counted asks.known
      asks.nonempty room shallow passes

/-- Two values, one of them three times. -/
def siblings : Pool :=
  .collection ["ann".toList, "ben".toList, "ann".toList, "ann".toList]

def nursery : Library :=
  .ofList [("cot".toList, .scalar "?{twin|0-4} ?{twin|2}".toList), ("twin".toList, siblings)]

/-- Three picks of two values repeat one of them; two picks do not. -/
theorem nursery_warned :
    (lint nursery).ofKind .forcedRepeats =
        [.forcedRepeats "cot".toList 3 "twin".toList 2] ∧
      Wildcard.CanRepeat ⟨"twin".toList, some (.range 0 4), false⟩ {} siblings ∧
      ¬ Wildcard.CanRepeat ⟨"twin".toList, some (.exact 2), false⟩ {} siblings := by
  have ranged : nursery.AsksDistinct "cot".toList "twin|0-4".toList
      ⟨"twin".toList, some (.range 0 4), false⟩ (.range 0 4) siblings :=
    ⟨mem_wildcards_iff.mp (by decide +kernel), by decide +kernel, rfl, rfl, by decide +kernel, rfl⟩
  have two : nursery.AsksDistinct "cot".toList "twin|2".toList
      ⟨"twin".toList, some (.exact 2), false⟩ (.exact 2) siblings :=
    ⟨mem_wildcards_iff.mp (by decide +kernel), by decide +kernel, rfl, rfl, by decide +kernel, rfl⟩
  obtain ⟨warned, -⟩ := warns_iff_canRepeat ranged {} (by decide)
  refine ⟨by decide +kernel, warned.mp (by decide +kernel), fun repeated => ?_⟩
  obtain ⟨-, -, alone, -⟩ := warns_iff_canRepeat two {} (by decide)
  exact absurd (alone repeated) (by decide +kernel)

end Library

end PromptLoom
