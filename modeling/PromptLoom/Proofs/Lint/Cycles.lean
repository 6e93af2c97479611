import PromptLoom.Proofs.Lint.Reachability

/-! # Warnings of cycles

A check warns of a keyword that can expand into itself exactly if one or more references lead from
the keyword back to it. Leading to a cycle is not enough, and a reference to a keyword that the library
does not have leads nowhere.
-/

namespace PromptLoom.Library

/-- The keywords with a warning for a cycle stand in the report in ascending order and once each. They
are those that references lead back to, in whatever order the search follows the references. -/
theorem cycle_warnings (l : Library) :
    ∃ cyclic : List Text, (lint l).ofKind .selfExpanding = cyclic.map .selfExpanding ∧
      cyclic.Pairwise (· < ·) ∧
      (∀ keyword, keyword ∈ cyclic ↔ Relation.TransGen l.Refers keyword keyword) ∧
      ∀ r : References, r.Rearranges l.references → l.reportAlong r = lint l := by
  refine ⟨l.keywords.filter fun k => l.references.reaches k k, l.selfExpanding_lint, ?_, ?_, ?_⟩
  · exact l.keywords_ascending.filter _
  · intro keyword
    rw [List.mem_filter, reaches_references_iff]
    constructor
    · exact And.right
    · intro cycle
      obtain ⟨_, -, last⟩ := Relation.TransGen.tail'_iff.mp cycle
      exact ⟨last.mem, cycle⟩
  · intro r rearranged
    exact reportAlong_eq_lint rearranged

/-- A keyword that asks for itself, two that ask for each other, one that leads to these two, one
without templates and one for which the library has nothing. -/
def carousel : Library :=
  .ofList [("horse".toList, .collection ["?{horse|0-2} ?{bell}".toList, "?{ghost}".toList]),
    ("lion".toList, .collection ["?{bell}?{tiger}".toList]),
    ("tiger".toList, .scalar "a ?{lion|x} ?{lion} ?{ghost}".toList),
    ("queue".toList, .scalar "?{tiger}?{bell}".toList),
    ("bell".toList, .collection [])]

theorem carousel_turns :
    (lint carousel).ofKind .selfExpanding =
        ["horse".toList, "lion".toList, "tiger".toList].map .selfExpanding ∧
      Relation.TransGen carousel.Refers "lion".toList "lion".toList ∧
      ¬ Relation.TransGen carousel.Refers "queue".toList "queue".toList ∧
      carousel.reportAlong (carousel.references.map fun e => (e.1, e.2.reverse)) =
        lint carousel := by
  obtain ⟨cyclic, warnings, -, exact, orders⟩ := cycle_warnings carousel
  have warned : (lint carousel).ofKind .selfExpanding =
      ["horse".toList, "lion".toList, "tiger".toList].map .selfExpanding := by
    decide +kernel
  obtain rfl : cyclic = ["horse".toList, "lion".toList, "tiger".toList] := by
    refine List.map_injective_iff.mpr ?_ (warnings.symm.trans warned)
    intro first second same
    exact Caution.selfExpanding.inj same
  refine ⟨warned, (exact _).mp (by decide), fun cycle => ?_, ?_⟩
  · exact absurd ((exact _).mpr cycle) (by decide)
  · exact orders _ (References.rearranges_map fun _ _ => List.mem_reverse)

end PromptLoom.Library
