import PromptLoom.Proofs.Expansion.Draft

/-! # When a node fails

A node fails for a cause that is known before anything is drawn for it: it lies too deep, the library
does not have its keyword, or there is nothing in the pool of the keyword. A selection from any
other pool gives a text, whatever the limits and the number of picks, and what fails below the
node is replaced in place. So there is no further cause, and a node that fails leaves its source
as it was.
-/

namespace PromptLoom

open Expansion

namespace Expander

variable {x : Expander} {depth : Nat} {request : Request} {cause : ExpansionError}
  {s : Random.Source}

/-- The causes for which a node at `depth` fails. -/
inductive Refuses (x : Expander) (depth : Nat) (request : Request) : ExpansionError → Prop where
  | tooDeep (deep : x.limits.maxDepth.toNat < depth) :
    Refuses x depth request (.depthExceeded depth x.limits.maxDepth.toNat)
  | unknown (shallow : depth ≤ x.limits.maxDepth.toNat)
    (absent : x.library.get? request.keyword = none) :
    Refuses x depth request (.unknownKeyword request.keyword)
  | empty (shallow : depth ≤ x.limits.maxDepth.toNat)
    (drained : x.library.get? request.keyword = some (.collection [])) :
    Refuses x depth request (.emptyPool request.keyword)

/-- The cause for which a node at `depth` fails, if there is one. -/
def failure? (x : Expander) (depth : Nat) (request : Request) : Option ExpansionError :=
  if x.limits.maxDepth.toNat < depth then some (.depthExceeded depth x.limits.maxDepth.toNat)
  else
    match x.library.get? request.keyword with
    | none => some (.unknownKeyword request.keyword)
    | some pool => if pool.isEmpty then some (.emptyPool request.keyword) else none

theorem refuses_iff_failure? :
    x.Refuses depth request cause ↔ x.failure? depth request = some cause := by
  constructor
  · intro refuses
    cases refuses with
    | tooDeep deep => rw [failure?, if_pos deep]
    | unknown shallow absent => rw [failure?, if_neg (Nat.not_lt.mpr shallow), absent]
    | empty shallow drained =>
        rw [failure?, if_neg (Nat.not_lt.mpr shallow), drained]
        rfl
  · intro failed
    by_cases deep : x.limits.maxDepth.toNat < depth
    · rw [failure?, if_pos deep, Option.some.injEq] at failed
      exact failed ▸ .tooDeep deep
    · have shallow := Nat.le_of_not_lt deep
      rw [failure?, if_neg deep] at failed
      cases known : x.library.get? request.keyword with
      | none =>
          rw [known, Option.some.injEq] at failed
          exact failed ▸ .unknown shallow known
      | some pool =>
          rw [known, Option.ite_none_right_eq_some, Option.some.injEq] at failed
          obtain ⟨drained, rfl⟩ := failed
          rw [Pool.isEmpty_iff.mp drained] at known
          exact .empty shallow known

instance : Decidable (x.Refuses depth request cause) :=
  decidable_of_iff _ refuses_iff_failure?.symm

-- Of the causes that apply, the depth comes first.
example : (Expander.mk .empty { maxDepth := 0 }).Refuses 1 { keyword := "cat".toList, amount := 0 }
    (.depthExceeded 1 0) := by decide

/-- Whatever the budget, a node that is refused fails and draws nothing. -/
theorem Refuses.expand_eq (refuses : x.Refuses depth request cause) (passes : Nat)
    (s : Random.Source) :
    ∃ events, x.expand passes depth request s = some ⟨.error cause, s, events⟩ := by
  cases refuses with
  | tooDeep deep => exact ⟨[], by rw [expand_of_deep deep, Run.pure_apply]⟩
  | unknown shallow absent =>
      refine ⟨[], ?_⟩
      rw [expand_of_shallow shallow, absent]
      exact Run.pure_apply _ _
  | empty shallow drained =>
      have none : (Pool.collection []).select (x.limits.clamp request.amount) request.repeats s =
          (none, s) := by
        rw [Pool.select_apply, Pool.picks_of_isEmpty rfl]
        rfl
      refine ⟨x.limits.clampEvents request.amount ++ [], ?_⟩
      rw [expand_of_shallow shallow]
      simp only [drained, bind, Run.andThen, Limits.clampAmount_apply, Run.ofDraw_apply, none]
      rfl

/-- A node that is not refused draws a text. -/
theorem refuses_or_starts (x : Expander) (depth : Nat) (request : Request) (s : Random.Source) :
    (∃ cause, x.Refuses depth request cause) ∨ ∃ d, x.Starts depth request s d := by
  by_cases deep : x.limits.maxDepth.toNat < depth
  · exact .inl ⟨_, .tooDeep deep⟩
  · have shallow := Nat.le_of_not_lt deep
    cases known : x.library.get? request.keyword with
    | none => exact .inl ⟨_, .unknown shallow known⟩
    | some pool =>
        by_cases drained : pool.isEmpty = true
        · rw [Pool.isEmpty_iff.mp drained] at known
          exact .inl ⟨_, .empty shallow known⟩
        · exact .inr (exists_starts shallow known (by simpa using drained) s)

theorem expand_error_iff {passes : Nat} {rest : Random.Source} :
    (∃ events, x.expand passes depth request s = some ⟨.error cause, rest, events⟩) ↔
      x.Refuses depth request cause ∧ rest = s := by
  constructor
  · rintro ⟨events, ran⟩
    rcases refuses_or_starts x depth request s with ⟨other, refuses⟩ | ⟨d, start⟩
    · obtain ⟨reported, failed⟩ := refuses.expand_eq passes s
      rw [failed] at ran
      cases ran
      exact ⟨refuses, rfl⟩
    · -- A drawn text is finished or the budget runs out, but the node does not fail any more.
      rw [expand_of_starts start, Option.map_eq_some_iff] at ran
      obtain ⟨o, -, same⟩ := ran
      cases same
  · rintro ⟨refuses, rfl⟩
    exact refuses.expand_eq passes rest

theorem refuses_root_iff :
    x.Refuses 0 request cause ↔
      cause = .unknownKeyword request.keyword ∧ x.library.get? request.keyword = none ∨
        cause = .emptyPool request.keyword ∧
          x.library.get? request.keyword = some (.collection []) := by
  constructor
  · intro refuses
    cases refuses with
    | tooDeep deep => exact absurd deep (Nat.not_lt_zero _)
    | unknown _ absent => exact .inl ⟨rfl, absent⟩
    | empty _ drained => exact .inr ⟨rfl, drained⟩
  · rintro (⟨rfl, absent⟩ | ⟨rfl, drained⟩)
    · exact .unknown (Nat.zero_le _) absent
    · exact .empty (Nat.zero_le _) drained

theorem generate_eq_some_iff {passes : Nat} {o : Outcome Text} :
    x.generate passes request s = some o ↔
      x.tryGenerate passes request s = some ⟨.ok o.value, o.source, o.events⟩ ∨
        ∃ cause earlier, x.tryGenerate passes request s = some ⟨.error cause, o.source, earlier⟩ ∧
          o.value = Text.upper request.keyword ∧
          o.events = earlier ++ [.fellBack request.keyword 0 cause] := by
  constructor
  · exact recover_cases
  · obtain ⟨value, source, events⟩ := o
    rintro (node | ⟨cause, earlier, node, rfl, rfl⟩)
    · exact recover_of_ok node
    · exact recover_of_error node

/-- A node fails for the first of the three causes that applies, without drawing anything, and in no
other case. So a root request fails only because its keyword is unknown or has no templates, and
then, and only then, its keyword in upper case takes the place of its expansion. -/
theorem fails_iff_refuses (x : Expander) :
    (∀ passes depth request s cause rest,
      (∃ events, x.expand passes depth request s = some ⟨.error cause, rest, events⟩) ↔
        x.Refuses depth request cause ∧ rest = s) ∧
    (∀ passes request s cause rest,
      (∃ events, x.tryGenerate passes request s = some ⟨.error cause, rest, events⟩) ↔
        (cause = .unknownKeyword request.keyword ∧ x.library.get? request.keyword = none ∨
          cause = .emptyPool request.keyword ∧
            x.library.get? request.keyword = some (.collection [])) ∧ rest = s) ∧
    ∀ passes request s o, x.generate passes request s = some o ↔
      x.tryGenerate passes request s = some ⟨.ok o.value, o.source, o.events⟩ ∨
        ∃ cause earlier, x.tryGenerate passes request s = some ⟨.error cause, o.source, earlier⟩ ∧
          o.value = Text.upper request.keyword ∧
          o.events = earlier ++ [.fellBack request.keyword 0 cause] := by
  refine ⟨fun _ _ _ _ _ _ => expand_error_iff, fun passes request s cause rest => ?_,
    fun _ _ _ _ => generate_eq_some_iff⟩
  rw [← refuses_root_iff]
  exact expand_error_iff

/-- A keyword without templates, and one with a template that asks for it and for a keyword that is
not there. -/
def hollow : Expander where
  library := .ofList [("haus".toList, .scalar "?{straße} ?{maß}".toList),
    ("straße".toList, .collection [])]
  limits := { maxAmount := 0 }

theorem hollow_falls_back :
    (∃ events, hollow.expand 0 6 { keyword := "haus".toList } (.seeded 7) =
        some ⟨.error (.depthExceeded 6 5), .seeded 7, events⟩) ∧
      (∃ events, hollow.generate 0 { keyword := "maß".toList, amount := 0 } (.seeded 7) =
        some ⟨"MASS".toList, .seeded 7, events⟩) ∧
      (∃ events, hollow.generate 0 { keyword := "straße".toList } (.seeded 7) =
        some ⟨"STRASSE".toList, .seeded 7, events⟩) ∧
      ∃ o, hollow.tryGenerate 2 { keyword := "haus".toList } (.seeded 7) =
          some ⟨.ok o.value, o.source, o.events⟩ ∧
        hollow.generate 2 { keyword := "haus".toList } (.seeded 7) = some o ∧
        o.value = "STRASSE MASS".toList := by
  obtain ⟨nodes, roots, texts⟩ := fails_iff_refuses hollow
  have deep := (nodes 0 6 { keyword := "haus".toList } (.seeded 7) (.depthExceeded 6 5) _).mpr
    ⟨by decide, rfl⟩
  obtain ⟨first, unknown⟩ := (roots 0 { keyword := "maß".toList, amount := 0 } (.seeded 7)
    (.unknownKeyword "maß".toList) _).mpr ⟨.inl ⟨rfl, by decide⟩, rfl⟩
  obtain ⟨second, empty⟩ := (roots 0 { keyword := "straße".toList } (.seeded 7)
    (.emptyPool "straße".toList) _).mpr ⟨.inr ⟨rfl, by decide⟩, rfl⟩
  have mass : Text.upper "maß".toList = "MASS".toList := by decide +kernel
  have strasse : Text.upper "straße".toList = "STRASSE".toList := by decide +kernel
  have drawn : (hollow.tryGenerate 2 { keyword := "haus".toList } (.seeded 7)).bind
      (·.value.toOption) = some "STRASSE MASS".toList := by decide +kernel
  obtain ⟨⟨value, rest, events⟩, ran, text⟩ := Option.bind_eq_some_iff.mp drawn
  cases value with
  | error cause => cases text
  | ok shown =>
      cases text
      exact ⟨deep, ⟨_, (texts _ _ _ _).mpr (.inr ⟨_, first, unknown, mass.symm, rfl⟩)⟩,
        ⟨_, (texts _ _ _ _).mpr (.inr ⟨_, second, empty, strasse.symm, rfl⟩)⟩,
        ⟨_, rest, events⟩, ran, (texts _ _ _ _).mpr (.inl ran), rfl⟩

end Expander

end PromptLoom
