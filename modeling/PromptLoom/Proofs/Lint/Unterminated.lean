import PromptLoom.Proofs.Lint.Report
import PromptLoom.Proofs.Wildcard.Brackets

/-! # Warnings of unterminated wildcards

A check looks for an opening mark behind the last wildcard of a template. It finds one exactly if some
opening mark of the template has no closing mark behind it: a wildcard ends with a closing mark, and
no opening mark lies across that end.
-/

namespace PromptLoom

namespace Text

variable {t : Text}

/-- Some opening mark has no closing mark behind it. -/
def Unclosed (t : Text) : Prop :=
  ∃ before after, t = before ++ opening ++ after ∧ closing ∉ after

/-- What stands up to a closing mark does not matter. -/
theorem unclosed_append_closing (front : Text) :
    Unclosed (front ++ closing :: t) ↔ Unclosed t := by
  constructor
  · rintro ⟨before, after, split, plain⟩
    rw [List.append_assoc] at split
    rcases List.append_eq_append_iff.mp split with ⟨between, -, behind⟩ | ⟨inside, -, across⟩
    · cases between with
      | nil => cases behind
      | cons c between =>
          have rest : t = between ++ (opening ++ after) := (List.cons.inj behind).2
          rw [← List.append_assoc] at rest
          exact ⟨between, after, rest, plain⟩
    · have held : closing ∈ opening ++ after := by simp [across]
      rcases List.mem_append.mp held with mark | later
      · exact absurd mark (by decide)
      · exact absurd later plain
  · rintro ⟨before, after, rfl, plain⟩
    exact ⟨front ++ closing :: before, after, by simp, plain⟩

end Text

namespace Wildcard

open Text

/-- The tail of a scan tells of the whole text. -/
theorem unclosed_iff_not_terminated {t : Text} : Unclosed t ↔ ¬ Terminated t := by
  induction t using scan.induct with
  | case1 t finished =>
      rw [terminated_of_finished finished]
      constructor
      · rintro ⟨before, after, rfl, -⟩
        exact cutOpening_ne_none before after
      · intro opened
        obtain ⟨parts, found⟩ := Option.ne_none_iff_exists'.mp opened
        have plain := find?_eq_none_iff.mp finished parts.1 parts.2 found
        exact ⟨parts.1, parts.2, eq_append_of_cutOpening found, plain⟩
  | case2 t f leftmost ih =>
      have split : t = (f.gap ++ opening ++ f.body) ++ closing :: f.rest := by
        rw [eq_whole_of_find? leftmost]
        simp [Found.whole, Found.written]
      rw [terminated_of_found leftmost, ← ih]
      rw [split]
      exact unclosed_append_closing _

instance : DecidablePred Unclosed := fun t =>
  decidable_of_iff (¬ cutOpening (scan t).tail = none) unclosed_iff_not_terminated.symm

end Wildcard

namespace Library

open Text

/-- A check warns once at each template with an opening mark that has no closing mark behind it, and
at no other one. -/
theorem unterminated_warnings (l : Library) : (lint l).ofKind .unterminated =
    l.templates.flatMap fun e => if Unclosed e.2 then [.unterminated e.1 e.2] else [] := by
  have each (keyword t : Text) :
      (Lint.checkTail keyword t (Wildcard.scan t).tail).warnings =
        if Unclosed t then [.unterminated keyword t] else [] := by
    have tail : (cutOpening (Wildcard.scan t).tail).isSome ↔ Unclosed t := by
      rw [Wildcard.unclosed_iff_not_terminated, Wildcard.Terminated, Option.isSome_iff_ne_none]
    rw [Lint.warnings_checkTail]
    simp only [tail]
  simp only [unterminated_lint, each]

/-- The wildcards in front are unknown, malformed or have a further opening mark in the body. -/
example : (lint (.ofList [("cat".toList, .collection [
      "?\x7bdog\x7d?\x7bcat|?\x7b|\x7d?\x7b ?\x7b".toList,
      "?\x7bcat|?\x7b|\x7d\x7d?".toList, "\x7d??\x7b".toList])])).ofKind .unterminated =
    [.unterminated "cat".toList "?\x7bdog\x7d?\x7bcat|?\x7b|\x7d?\x7b ?\x7b".toList,
      .unterminated "cat".toList "\x7d??\x7b".toList] := by
  decide +kernel

end Library

end PromptLoom
