import PromptLoom.Proofs.Expansion.Budget

/-! # Limits that are not reached

A node that lies too deep and a number of picks that is moved into its range both leave
an event. A run without such an event never reached its limits, so it is the same run
under any wider limits. This holds of all templates, also when a replacement opens a
wildcard, since every nested run has its events in the run around it.
-/

namespace PromptLoom

open Expansion

/-- The node lies deeper than the limit allows. -/
def ExpansionError.TooDeep : ExpansionError → Prop
  | depthExceeded .. => True
  | _ => False

namespace Event

/-- A node fell back because it lies too deep. -/
def TooDeep : Event → Prop
  | fellBack _ _ cause => cause.TooDeep
  | _ => False

/-- A limit was reached: a node lies too deep, or a number of picks was moved into its range. -/
def HitsLimit : Event → Prop
  | clamped .. => True
  | e => e.TooDeep

end Event

namespace Limits

variable {narrow wide : Limits} {amount : Nat}

theorem clamp_eq_of_le (le : narrow.maxAmount ≤ wide.maxAmount)
    (inside : narrow.clamp amount = amount) : wide.clamp amount = amount := by
  have more := UInt64.le_iff_toNat_le.mp le
  unfold clamp at inside ⊢
  omega

theorem clampAmount_keeps (le : narrow.maxAmount ≤ wide.maxAmount) (amount : Nat) :
    (wide.clampAmount amount).Keeps (¬ Event.HitsLimit ·) (narrow.clampAmount amount) := by
  by_cases inside : narrow.clamp amount = amount
  · have same : wide.clampAmount amount = narrow.clampAmount amount := by
      simp [clampAmount, inside, clamp_eq_of_le le inside]
    rw [same]
    exact .refl _
  · unfold clampAmount
    simp only [ne_eq, inside, not_false_eq_true, if_true]
    exact .of_emit (fun free => free trivial) _ _

end Limits

namespace Expansion

/-- Wider limits keep what a node hands back without reaching a limit. -/
theorem recover_expandWithin_keeps {library : Library} {narrow wide : Limits}
    (le : narrow.maxAmount ≤ wide.maxAmount) (passes : Nat) {levels more : Nat}
    (deeper : levels ≤ more) (depth : Nat) (request : Request) :
    (recover depth request (expandWithin library wide passes more depth request)).Keeps
      (¬ Event.HitsLimit ·)
      (recover depth request (expandWithin library narrow passes levels depth request)) := by
  induction levels generalizing more depth request with
  | zero =>
      let cause := ExpansionError.depthExceeded depth narrow.maxDepth.toNat
      have failed : recover depth request (expandWithin library narrow passes 0 depth request) = (do
          Run.emit (.fellBack request.keyword depth cause)
          return fallback request.keyword) := pure_bind _ _
      rw [failed]
      exact .of_emit (fun free => free trivial) _ _
  | succ levels ih =>
      obtain ⟨more, rfl⟩ := Nat.exists_eq_succ_of_ne_zero (Nat.ne_zero_of_lt deeper)
      apply recover_keeps
      rw [expandWithin, expandWithin]
      cases library.get? request.keyword with
      | none => exact .refl _
      | some pool =>
          refine (Limits.clampAmount_keeps le request.amount).bind fun amount => ?_
          refine (Run.Keeps.refl _).bind fun drawn => ?_
          cases drawn with
          | none => exact .refl _
          | some text =>
              have nested (inner : Request) := ih (Nat.le_of_succ_le_succ deeper) (depth + 1) inner
              exact (substitute_keeps nested (Nat.le_refl _) text).bind fun _ => .refl _

end Expansion

namespace Expander

/-- A run that reached no limit has the same outcome under wider limits. -/
theorem generate_of_wider_limits {library : Library} {narrow wide : Limits}
    (deeper : narrow.maxDepth ≤ wide.maxDepth) (more : narrow.maxAmount ≤ wide.maxAmount)
    {request : Request} {passes : Nat} {s : Random.Source} {o : Outcome Text}
    (ran : (Expander.mk library narrow).generate passes request s = some o)
    (free : ∀ e ∈ o.events, ¬ e.HitsLimit) :
    (Expander.mk library wide).generate passes request s = some o := by
  have levels : narrow.maxDepth.toNat + 1 - 0 ≤ wide.maxDepth.toNat + 1 - 0 := by
    have le := UInt64.le_iff_toNat_le.mp deeper
    omega
  exact recover_expandWithin_keeps more passes levels 0 request s o ran free

/-- The question mark of the replacement and the brace behind it open a wildcard for a keyword that
is not there. -/
def tangle : Library :=
  .ofList [("case".toList, .scalar "?{clue|1-3%}{ghost}".toList),
    ("clue".toList, .collection ["a ?{clue|0}?".toList, "b".toList])]

theorem tangle_of_wider_limits :
    ∃ o, (Expander.mk tangle { maxDepth := 1, maxAmount := 2 }).generate 3
        { keyword := "case".toList } (.ofWords [0, 0x8000000000000000]) = some o ∧
      (∀ e ∈ o.events, ¬ e.HitsLimit) ∧
      (Expander.mk tangle {}).generate 3 { keyword := "case".toList }
        (.ofWords [0, 0x8000000000000000]) = some o := by
  have events : ((Expander.mk tangle { maxDepth := 1, maxAmount := 2 }).generate 3
      { keyword := "case".toList } (.ofWords [0, 0x8000000000000000])).map Outcome.events =
        some [.fellBack "ghost".toList 1 (.unknownKeyword "ghost".toList)] := by
    decide +kernel
  obtain ⟨o, ran, emitted⟩ := Option.map_eq_some_iff.mp events
  have free : ∀ e ∈ o.events, ¬ e.HitsLimit := by
    rw [emitted]
    simp [Event.HitsLimit, Event.TooDeep, ExpansionError.TooDeep]
  exact ⟨o, ran, free, generate_of_wider_limits (by decide) (by decide) ran free⟩

end Expander

end PromptLoom
