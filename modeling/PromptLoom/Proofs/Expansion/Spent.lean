import PromptLoom.Proofs.Expansion.Termination

/-! # Texts without wildcards

A text is spent when no closing mark stands behind any of its opening marks. That is
what the passes of a node leave, and what a failed node leaves as well: a keyword is cut
out of a body without closing marks, and upper case neither moves nor makes a mark. So
every text that is put in the place of a wildcard is spent, at every depth.
-/

namespace PromptLoom

open Expansion

namespace Text

/-- No closing mark follows an opening mark, however far behind. -/
def Spent (t : Text) : Prop :=
  ∀ before after, t = before ++ opening ++ after → closing ∉ after

theorem spent_iff_cutOpening {t : Text} :
    Spent t ↔ ∀ before after, cutOpening t = some (before, after) → closing ∉ after := by
  constructor
  · intro spent before after leftmost
    exact spent before after (eq_append_of_cutOpening leftmost)
  · intro leftmost before after split held
    -- The rest behind the leftmost opening mark holds the rest behind any other one.
    cases found : cutOpening before with
    | none =>
        have first : cutOpening t = some (before, after) := by rw [split, cutOpening_opening found]
        exact leftmost _ _ first held
    | some parts =>
        have first := cutOpening_append_of_some (opening ++ after) found
        rw [← List.append_assoc, ← split] at first
        refine leftmost _ _ first ?_
        simp [held]

theorem spent_iff_find? {t : Text} : Spent t ↔ Wildcard.find? t = none :=
  spent_iff_cutOpening.trans Wildcard.find?_eq_none_iff.symm

instance : DecidablePred Spent :=
  fun _ => decidable_of_iff _ spent_iff_find?.symm

theorem Spent.upper {t : Text} (spent : Spent t) : Spent (upper t) := by
  rw [spent_iff_cutOpening] at spent ⊢
  intro before after leftmost
  rw [cutOpening_upper, Option.map_eq_some_iff] at leftmost
  obtain ⟨parts, found, same⟩ := leftmost
  obtain ⟨rfl, rfl⟩ := Prod.mk.inj same
  exact not_closing_mem_upper (spent _ _ found)

end Text

namespace Expander

/-- What takes the place of a wildcard is spent, whether it is the expansion of a keyword, a
keyword in upper case or nothing, and so is the answer to a request for a spent keyword. -/
theorem no_wildcard_survives (x : Expander) :
    (∀ passes depth t found s o, Wildcard.find? t = some found →
      replacement (x.expandOrFallback passes depth) found.body s = some o →
        Text.Spent o.value) ∧
    ∀ passes request s o, Text.Spent request.keyword → x.generate passes request s = some o →
      Text.Spent o.value := by
  constructor
  · intro passes depth t found s o leftmost ran
    exact Text.spent_iff_find?.mpr (find?_of_replacement leftmost ran)
  · intro passes request s o spent ran
    rcases recover_cases ran with node | ⟨cause, earlier, -, failed, -⟩
    · exact Text.spent_iff_find?.mpr (find?_of_expand node)
    · rw [failed]
      exact spent.upper

/-- The replacement of the first wildcard opens it again, and then a body with an opening mark of
its own is malformed. -/
def relapse : Library :=
  .ofList [("loop".toList, .scalar "?{k}\x7d ?\x7bmaß?\x7bb|x\x7d".toList),
    ("k".toList, .scalar "?\x7bk".toList)]

theorem relapse_spent :
    (∃ o, replacement ((Expander.mk relapse {}).expandOrFallback 1 1) "k ?\x7bmaß?\x7bb|x".toList
      (.ofWords []) = some o ∧ o.value = "K ?\x7bMASS?\x7bB".toList ∧ Text.Spent o.value) ∧
    ∃ o, (Expander.mk relapse {}).generate 3 { keyword := "loop".toList } (.ofWords []) = some o ∧
      o.value = "K ?\x7bMASS?\x7bB".toList ∧ Text.Spent o.value := by
  obtain ⟨replaced, answered⟩ := no_wildcard_survives ⟨relapse, {}⟩
  constructor
  · have value : (replacement ((Expander.mk relapse {}).expandOrFallback 1 1)
        "k ?\x7bmaß?\x7bb|x".toList (.ofWords [])).map Outcome.value =
          some "K ?\x7bMASS?\x7bB".toList := by
      decide +kernel
    obtain ⟨o, ran, same⟩ := Option.map_eq_some_iff.mp value
    have leftmost : Wildcard.find? "?\x7bk ?\x7bmaß?\x7bb|x\x7d".toList =
        some ⟨[], "k ?\x7bmaß?\x7bb|x".toList, []⟩ := by decide
    exact ⟨o, ran, same, replaced _ _ _ _ _ o leftmost ran⟩
  · have value : ((Expander.mk relapse {}).generate 3 { keyword := "loop".toList }
        (.ofWords [])).map Outcome.value = some "K ?\x7bMASS?\x7bB".toList := by
      decide +kernel
    obtain ⟨o, ran, same⟩ := Option.map_eq_some_iff.mp value
    exact ⟨o, ran, same, answered _ _ _ _ (by decide) ran⟩

end Expander

end PromptLoom
