import PromptLoom.Proofs.Expansion.Headroom
import PromptLoom.Proofs.Expansion.SinglePass
import PromptLoom.Proofs.Lint.Reachability

/-! # How deep references go

Without cycles, the nodes above a node belong to different keywords of the library, so
one level for each keyword is enough. The last node of a chain can be one for a keyword
that the library does not have: it draws nothing, but it needs a level of its own.
-/

namespace PromptLoom

open Expansion

namespace Library

variable {l : Library} {keyword target : Text} {levels : Nat}

/-- References lead no keyword back to itself. -/
def Acyclic (l : Library) : Prop :=
  ∀ keyword ∈ l.keywords, ¬ l.references.reaches keyword keyword

/-- The levels from a node of the keyword on are enough: one for the node itself and, if the library
has the keyword, one for each keyword that it can reach and one for an unknown keyword. -/
structure Room (l : Library) (keyword : Text) (levels : Nat) : Prop where
  positive : 0 < levels
  known : keyword ∈ l.keywords → l.height keyword + 2 ≤ levels

theorem Room.of_size (acyclic : l.Acyclic) (enough : l.size < levels) : l.Room keyword levels where
  positive := Nat.zero_lt_of_lt enough
  known member := by
    have below := height_lt_size member (acyclic keyword member)
    omega

theorem Room.step (room : l.Room keyword (levels + 1)) (acyclic : l.Acyclic)
    (member : keyword ∈ l.keywords) (names : target ∈ l.named keyword) : l.Room target levels := by
  have above := room.known member
  constructor
  · omega
  · intro known
    have lower := (refers_iff.mpr ⟨names, known⟩).height_lt (acyclic target known)
    omega

end Library

namespace Expansion

variable {library : Library} (limits : Limits)

/-- With room enough no node below lies too deep, nor does the node itself. -/
theorem singlePassWithin_yields_of_room (bracketed : library.WellBracketed)
    (acyclic : library.Acyclic) (levels depth : Nat) {request : Request}
    (room : library.Room request.keyword levels) :
    (singlePassWithin library limits levels depth request).Yields (¬ Event.TooDeep ·)
      (Leaves (¬ ExpansionError.TooDeep ·)) := by
  induction levels generalizing depth request with
  | zero =>
      have positive := room.positive
      omega
  | succ levels ih =>
      cases known : library.get? request.keyword with
      | none =>
          rw [singlePassWithin]
          simp only [known]
          exact .pure id
      | some pool =>
          have member := Library.mem_keywords_iff.mpr ⟨pool, known⟩
          refine singlePassWithin_yields known (fun _ => id) (fun _ => id) fun t held => ?_
          refine fill_yields (bracketed.of_get? known held) fun body inside bare => ?_
          refine replacement_yields bare (fun _ _ => id) fun wildcard amount parsed keyword => ?_
          have names : wildcard.keyword ∈ library.named request.keyword :=
            Library.mem_named_iff.mpr ⟨pool, known, t, held, body, inside, wildcard, parsed, rfl⟩
          have below : library.Room wildcard.keyword levels := room.step acyclic member names
          exact recover_yields (ih (depth + 1) below) (fun _ => id)
            (Text.not_brace_mem_upper keyword) fun _ => id

end Expansion

namespace Expander

/-- Over a well-bracketed library without warnings of cycles, no node lies too deep if the limit is at
least the number of keywords. -/
theorem never_tooDeep_of_no_cycle_warning (x : Expander) (bracketed : x.library.WellBracketed)
    (unwarned : ∀ keyword, Caution.selfExpanding keyword ∉ (lint x.library).warnings)
    (deep : x.library.size ≤ x.limits.maxDepth.toNat) (request : Request) (s : Random.Source) :
    (∃ passes o, x.generate passes request s = some o) ∧
      ∀ passes o, x.generate passes request s = some o → ∀ e ∈ o.events, ¬ e.TooDeep := by
  have acyclic : x.library.Acyclic := by
    intro keyword member reached
    exact unwarned keyword (selfExpanding_mem_warnings_lint_iff.mpr ⟨member, reached⟩)
  have room : x.library.Room request.keyword (x.limits.maxDepth.toNat + 1) :=
    .of_size acyclic (Nat.lt_succ_of_le deep)
  have calm : (recover 0 request (x.singlePass request)).Yields (¬ Event.TooDeep ·)
      fun _ => True :=
    recover_yields (singlePassWithin_yields_of_room x.limits bracketed acyclic _ 0 room)
      (fun _ _ => trivial) trivial fun _ => id
  obtain ⟨answered, finished⟩ := generate_yields bracketed calm s
  exact ⟨answered, fun passes o ran => (finished passes o ran).2⟩

/-- Three keywords that each lead to the next one, and the last one to a keyword that is not there. -/
def staircase : Library :=
  .ofList [("cellar".toList, .collection ["?{hall}".toList]),
    ("hall".toList, .collection ["a ?{loft|2} and \x7d".toList, "?{loft|x}".toList]),
    ("loft".toList, .scalar "?{roof}".toList)]

/-- One level less is not enough for the node of the missing keyword. -/
example : ((Expander.mk staircase { maxDepth := 2 }).generate 3 { keyword := "cellar".toList }
    (.ofWords [])).map Outcome.events =
      some (List.replicate 2 (.fellBack "roof".toList 3 (.depthExceeded 3 2))) := by
  decide +kernel

theorem staircase_deep_enough :
    (∀ keyword, Caution.selfExpanding keyword ∉ (lint staircase).warnings) ∧
      ∃ passes o, (Expander.mk staircase { maxDepth := 3 }).generate passes
        { keyword := "cellar".toList } (.ofWords []) = some o ∧ ∀ e ∈ o.events, ¬ e.TooDeep := by
  have unwarned : ∀ keyword, Caution.selfExpanding keyword ∉ (lint staircase).warnings := by
    have warnings : (lint staircase).warnings =
        [.forcedRepeats "hall".toList 2 "loft".toList 1] := by decide +kernel
    intro keyword
    simp [warnings]
  obtain ⟨⟨passes, o, ran⟩, calm⟩ := never_tooDeep_of_no_cycle_warning
    ⟨staircase, { maxDepth := 3 }⟩ (by decide) unwarned (by decide) { keyword := "cellar".toList }
    (.ofWords [])
  exact ⟨unwarned, passes, o, ran, calm passes o ran⟩

end Expander

end PromptLoom
