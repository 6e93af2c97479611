import Mathlib.Order.WellFounded
import PromptLoom.Proofs.Expansion.Draft
import PromptLoom.Proofs.Text.Upper

/-! # When an expansion ends

Every replacement is a finished text, so a pass that welds no opening mark uses up one
of the closing marks that stand after the first opening mark. A node that never comes
to its end therefore welds an opening mark again and again, and this is the only way
in which an expansion can go on forever. It does happen: the replacement of one
wildcard can end with the question mark, and the replacement of the next one start
with the brace, of a wildcard that the second one brings back.
-/

namespace PromptLoom

open Expansion

theorem fallback_unclosed {keyword : Text} (unclosed : Text.closing ∉ keyword) :
    Text.closing ∉ fallback keyword :=
  Text.not_closing_mem_upper unclosed

namespace Expander

variable {x : Expander} {d : Draft}

/-- The passes from the draft on never end, and again and again one of them welds an
opening mark. -/
def WeldsForever (x : Expander) (d : Draft) : Prop :=
  ∃ trail : Nat → Draft, trail 0 = d ∧
    (∀ n, ∃ p, x.Passes (trail n) p ∧ trail (n + 1) = (trail n).after p) ∧
    ∀ n, ∃ m ≥ n, ∃ p, x.Passes (trail m) p ∧ p.Welds

theorem find?_of_finishes {o : Outcome Text} (h : x.Finishes d o) :
    Wildcard.find? o.value = none := by
  induction h with
  | done finished => exact finished
  | pass _ _ ih => exact ih

/-- The text of a node that does not fail has no wildcard left. -/
theorem find?_of_expand {passes depth : Nat} {request : Request} {s rest : Random.Source}
    {text : Text} {events : List Event}
    (run : x.expand passes depth request s = some ⟨.ok text, rest, events⟩) :
    Wildcard.find? text = none := by
  by_cases start : ∃ d, x.Starts depth request s d
  · obtain ⟨d, start⟩ := start
    rw [expand_of_starts start, Option.map_eq_some_iff] at run
    obtain ⟨o, ended, same⟩ := run
    simp only [Outcome.mk.injEq, Except.ok.injEq] at same
    exact same.1 ▸ find?_of_finishes (finishes_iff.mpr ⟨passes, ended⟩)
  · obtain ⟨_, _, _, failed⟩ := expand_of_not_starts (not_exists.mp start)
    simp [failed] at run

/-- Whatever replaces a wildcard of a text has no wildcard itself. -/
theorem find?_of_replacement {passes depth : Nat} {t : Text} {found : Wildcard.Found}
    {s : Random.Source} {o : Outcome Text} (leftmost : Wildcard.find? t = some found)
    (ran : replacement (x.expandOrFallback passes depth) found.body s = some o) :
    Wildcard.find? o.value = none := by
  have unclosed : Text.closing ∉ Wildcard.keywordOf found.body := fun held =>
    Wildcard.body_unclosed leftmost (Wildcard.mem_of_mem_keywordOf held)
  rcases replacement_cases found.body s with
    ⟨cause, -, replaced⟩ | ⟨wildcard, rest, -, -, replaced⟩ |
    ⟨wildcard, amount, rest, parsed, -, -, replaced⟩
  · rw [replaced, Option.some.injEq] at ran
    rw [← ran]
    exact Wildcard.find?_eq_none_of_unclosed (fallback_unclosed unclosed)
  · rw [replaced, Option.some.injEq] at ran
    rw [← ran]
    rfl
  · rw [replaced] at ran
    rcases recover_cases ran with node | ⟨cause, earlier, -, failed, -⟩
    · exact find?_of_expand node
    · rw [failed]
      refine Wildcard.find?_eq_none_of_unclosed (fallback_unclosed ?_)
      rwa [Wildcard.keyword_of_parse parsed]

theorem Passes.finished {p : Splice} (h : x.Passes d p) :
    Wildcard.find? p.outcome.value = none := by
  obtain ⟨leftmost, passes, ran⟩ := h
  exact find?_of_replacement leftmost ran

/-- A pass that welds nothing uses up a closing mark. -/
theorem Passes.closingsAhead_lt {p : Splice} (h : x.Passes d p) (calm : ¬ p.Welds) :
    Wildcard.closingsAhead (d.after p).text < Wildcard.closingsAhead d.text :=
  Wildcard.closingsAhead_splice_lt h.1 h.finished (fun left => calm (.inl left))
    fun right => calm (.inr right)

/-- A node that comes to its end does not weld forever. -/
theorem Finishes.not_weldsForever {o : Outcome Text} (h : x.Finishes d o) :
    ¬ x.WeldsForever d := by
  induction h with
  | done finished =>
      rintro ⟨trail, start, steps, -⟩
      obtain ⟨p, pass, -⟩ := steps 0
      rw [start] at pass
      simp [pass.1] at finished
  | @pass d p o pass _ ih =>
      rintro ⟨trail, start, steps, welds⟩
      obtain ⟨q, first, next⟩ := steps 0
      rw [start] at first next
      rw [first.eq pass] at next
      refine ih ⟨fun n => trail (n + 1), next, fun n => steps (n + 1), fun n => ?_⟩
      obtain ⟨m, later, weld⟩ := welds (n + 1)
      obtain ⟨m, rfl⟩ := Nat.exists_eq_succ_of_ne_zero (Nat.ne_zero_of_lt later)
      exact ⟨m, Nat.le_of_succ_le_succ later, weld⟩

/-- The draft that a pass leads to. -/
def PassesTo (x : Expander) (e d : Draft) : Prop :=
  ∃ p, x.Passes d p ∧ e = d.after p

/-- Without endless welding there are finitely many passes, since from some pass on each
of them would use up a closing mark. -/
theorem acc_of_not_weldsForever (calm : ¬ x.WeldsForever d) : Acc x.PassesTo d := by
  by_contra endless
  obtain ⟨trail, start, steps⟩ := not_acc_iff_exists_descending_chain.mp endless
  refine calm ⟨trail, start, steps, fun n => ?_⟩
  by_contra quiet
  have lower : ∀ k, Wildcard.closingsAhead (trail (n + k)).text + k ≤
      Wildcard.closingsAhead (trail n).text := by
    intro k
    induction k with
    | zero => exact Nat.le_refl _
    | succ k ih =>
        obtain ⟨p, pass, next⟩ := steps (n + k)
        have less := pass.closingsAhead_lt fun welds =>
          quiet ⟨n + k, Nat.le_add_right n k, p, pass, welds⟩
        rw [← next] at less
        change Wildcard.closingsAhead (trail (n + k + 1)).text + (k + 1) ≤ _
        omega
  have beyond := lower (Wildcard.closingsAhead (trail n).text + 1)
  omega

/-- A wildcard can be replaced if the node that it asks for comes to its end. -/
theorem exists_passes {found : Wildcard.Found} (leftmost : Wildcard.find? d.text = some found)
    (nested : ∀ request s inner, d.Asks request s → x.Starts (d.depth + 1) request s inner →
      ∃ o, x.Finishes inner o) : ∃ p, x.Passes d p := by
  rcases replacement_cases found.body d.source with
    ⟨cause, -, replaced⟩ | ⟨wildcard, rest, -, -, replaced⟩ |
    ⟨wildcard, amount, rest, parsed, drawn, positive, replaced⟩
  · exact ⟨⟨found, _⟩, leftmost, 0, replaced _⟩
  · exact ⟨⟨found, _⟩, leftmost, 0, replaced _⟩
  · let request : Request := ⟨wildcard.keyword, amount, wildcard.repeats⟩
    have asks : d.Asks request rest :=
      ⟨found, wildcard, leftmost, parsed, drawn, positive, rfl, rfl⟩
    by_cases start : ∃ inner, x.Starts (d.depth + 1) request rest inner
    · obtain ⟨inner, start⟩ := start
      obtain ⟨o, finishes⟩ := nested request rest inner asks start
      obtain ⟨passes, ended⟩ := finishes_iff.mp finishes
      have node := expand_of_starts start passes
      rw [ended, Option.map_some] at node
      exact ⟨⟨found, _⟩, leftmost, passes, (replaced _).trans (recover_of_ok node)⟩
    · obtain ⟨cause, after, events, failed⟩ := expand_of_not_starts (not_exists.mp start)
      exact ⟨⟨found, _⟩, leftmost, 0, (replaced _).trans (recover_of_error (failed 0))⟩

/-- If nothing that the run of a draft works on welds forever, the draft is finished. -/
theorem exists_finishes
    (calm : ∀ e, Relation.ReflTransGen x.Leads d e → ¬ x.WeldsForever e) :
    ∃ o, x.Finishes d o := by
  -- The outer induction is on the levels below the node, the inner one on its passes.
  induction levels : x.limits.maxDepth.toNat - d.depth using Nat.strongRecOn generalizing d with
  | ind n deeper =>
      have passes := acc_of_not_weldsForever (calm d .refl)
      induction passes with
      | intro d _ ih =>
          cases found : Wildcard.find? d.text with
          | none => exact ⟨_, .done found⟩
          | some leftmost =>
              have nested : ∀ request s inner, d.Asks request s →
                  x.Starts (d.depth + 1) request s inner → ∃ o, x.Finishes inner o := by
                intro request s inner asks start
                obtain ⟨shallow, _, _, _, -, -, rfl⟩ := id start
                refine deeper _ ?_ (fun e reached => calm e (.head (.nest asks start) reached)) rfl
                simp only
                omega
              obtain ⟨p, pass⟩ := exists_passes found nested
              obtain ⟨o, finishes⟩ := ih (d.after p) ⟨p, pass, rfl⟩
                (fun e reached => calm e (.head (.pass pass) reached)) levels
              exact ⟨_, .pass pass finishes⟩

theorem exists_tryGenerate_iff {request : Request} {s : Random.Source} :
    (∃ passes o, x.tryGenerate passes request s = some o) ↔
      ∀ d, x.Starts 0 request s d → ∃ o, x.Finishes d o := by
  constructor
  · rintro ⟨passes, o, run⟩ d start
    rw [tryGenerate, expand_of_starts start, Option.map_eq_some_iff] at run
    obtain ⟨p, ended, -⟩ := run
    exact ⟨p, finishes_iff.mpr ⟨passes, ended⟩⟩
  · intro ends
    by_cases start : ∃ d, x.Starts 0 request s d
    · obtain ⟨d, start⟩ := start
      obtain ⟨o, finishes⟩ := ends d start
      obtain ⟨passes, ended⟩ := finishes_iff.mp finishes
      exact ⟨passes, _, by rw [tryGenerate, expand_of_starts start, ended, Option.map_some]⟩
    · obtain ⟨cause, rest, events, failed⟩ := expand_of_not_starts (not_exists.mp start)
      exact ⟨0, _, failed 0⟩

theorem exists_generate_iff {request : Request} {s : Random.Source} :
    (∃ passes o, x.generate passes request s = some o) ↔
      ∃ passes o, x.tryGenerate passes request s = some o := by
  constructor
  · rintro ⟨passes, o, run⟩
    obtain ⟨first, ran, _⟩ := Run.bind_eq_some_iff.mp run
    exact ⟨passes, first, ran⟩
  · rintro ⟨passes, ⟨value, rest, events⟩, run⟩
    cases value with
    | ok text => exact ⟨passes, _, recover_of_ok run⟩
    | error cause => exact ⟨passes, _, recover_of_error run⟩

/-- A request is answered, with a text or with the cause of its failure, exactly if no
node that its run comes to welds opening marks forever. -/
theorem returns_iff_not_weldsForever (x : Expander) (request : Request) (s : Random.Source) :
    ((∃ passes o, x.tryGenerate passes request s = some o) ↔
      ∀ d, x.ComesTo request s d → ¬ x.WeldsForever d) ∧
    ((∃ passes o, x.generate passes request s = some o) ↔
      ∀ d, x.ComesTo request s d → ¬ x.WeldsForever d) := by
  have answered : (∃ passes o, x.tryGenerate passes request s = some o) ↔
      ∀ d, x.ComesTo request s d → ¬ x.WeldsForever d := by
    rw [exists_tryGenerate_iff]
    constructor
    · rintro ends d ⟨first, start, reached⟩
      obtain ⟨o, finishes⟩ := ends first start
      obtain ⟨p, ended, -⟩ := finishes.of_reaches reached
      exact ended.not_weldsForever
    · intro calm d start
      exact exists_finishes fun e reached => calm e ⟨d, start, reached⟩
  exact ⟨answered, exists_generate_iff.trans answered⟩

/-- Three keywords without any finding of a check: the first replacement brings the
question marks and the second one the braces of ever new wildcards. -/
def endless : Library :=
  .ofList [("r".toList, .scalar "?{a}{b}".toList), ("a".toList, .scalar "??".toList),
    ("b".toList, .scalar "{a}{b}".toList)]

theorem not_finishes_endless {limits : Limits} (shallow : 1 ≤ limits.maxDepth.toNat)
    (root : d.depth = 0) (turn : d.text = "?{a}{b}".toList ∨ d.text = "??{b}".toList)
    (o : Outcome Text) : ¬ (Expander.mk endless limits).Finishes d o := by
  intro finishes
  induction finishes with
  | @done d finished => rcases turn with same | same <;> rw [same] at finished <;> cases finished
  | @pass d p o pass _ ih =>
      rcases turn with same | same
      · obtain ⟨outcome, value, first⟩ := passes_of_scalar (x := ⟨endless, limits⟩) (d := d)
          ⟨[], "a".toList, "{b}".toList⟩ (by rw [same]; decide) rfl rfl
          (show Wildcard.find? "??".toList = none by decide) (by simpa [root] using shallow)
        rw [pass.eq first] at ih
        exact ih root (.inr (by simp [Draft.after, Splice.text, value]))
      · obtain ⟨outcome, value, first⟩ := passes_of_scalar (x := ⟨endless, limits⟩) (d := d)
          ⟨"?".toList, "b".toList, []⟩ (by rw [same]; decide) rfl rfl
          (show Wildcard.find? "{a}{b}".toList = none by decide) (by simpa [root] using shallow)
        rw [pass.eq first] at ih
        exact ih root (.inl (by simp [Draft.after, Splice.text, value]))

/-- The run of the first keyword has no outcome, whatever the budget. -/
theorem endless_never_returns :
    ¬ ∃ passes o, (Expander.mk endless {}).generate passes { keyword := "r".toList } (.ofWords []) =
      some o := by
  rw [exists_generate_iff, exists_tryGenerate_iff]
  intro ends
  obtain ⟨rest, drawn⟩ := Pool.select_scalar_one "?{a}{b}".toList false (.ofWords [])
  obtain ⟨o, finishes⟩ := ends ⟨"r".toList, 0, "?{a}{b}".toList, rest⟩
    ⟨by decide, .scalar "?{a}{b}".toList, _, rest, rfl, drawn, rfl⟩
  exact not_finishes_endless (by decide) rfl (.inl rfl) o finishes

end Expander

end PromptLoom
