import PromptLoom.Proofs.Expansion.Steering
import PromptLoom.Proofs.Lint.Report

/-! # Errors of a check and failures of runs

A library is well-bracketed and its counts ask for something: then the check reports an
error if and only if for some keyword and some words a node falls back although the
limit on the depth is not reached. No run of a sound library leaves the wildcards that
the check saw, and words can be chosen that lead a run to any other wildcard.
-/

namespace PromptLoom

open Expansion

/-- The event tells of a fallback that no greater limit on the depth avoids. -/
def Event.Breaks : Event → Prop
  | fellBack _ _ (.depthExceeded ..) => False
  | fellBack .. => True
  | malformed .. => True
  | _ => False

/-- Every count in the templates allows a pick. -/
def Library.AsksForPicks (l : Library) : Prop :=
  ∀ body ∈ l.bodies, ∀ wildcard, Wildcard.parse body = .ok wildcard →
    ∀ count, wildcard.count = some count → count.greatest ≠ 0

instance : DecidablePred Library.AsksForPicks := fun l =>
  decidable_of_iff (∀ body ∈ l.bodies, ∀ wildcard ∈ (Wildcard.parse body).toOption,
      ∀ count ∈ wildcard.count, count.greatest ≠ 0) <| by
    refine forall₂_congr fun body _ => forall_congr' fun wildcard => ?_
    cases Wildcard.parse body <;> simp [Except.toOption, eq_comm]

/-- The lengths of the pools are numbers of 64 bits, so there is a word for each of their items. -/
def Library.Countable (l : Library) : Prop :=
  ∀ e ∈ l.entries, e.2.items.length ≤ UInt64.size

instance : DecidablePred Library.Countable :=
  fun l => inferInstanceAs (Decidable (∀ e ∈ l.entries, e.2.items.length ≤ UInt64.size))

namespace Expansion

variable {library : Library} (limits : Limits)

/-- The only failures over a sound library are those of the limit on the depth. -/
theorem singlePassWithin_yields_of_sound (bracketed : library.WellBracketed)
    (sound : library.Sound) (levels depth : Nat) {request : Request} {pool : Pool}
    (known : library.get? request.keyword = some pool) :
    (singlePassWithin library limits levels depth request).Yields (¬ Event.Breaks ·)
      (Leaves fun cause => ∃ depth limit, cause = .depthExceeded depth limit) := by
  induction levels generalizing depth request pool with
  | zero => exact .pure ⟨depth, limits.maxDepth.toNat, rfl⟩
  | succ levels ih =>
      refine singlePassWithin_yields known (fun _ => id) (fun empty => ?_) fun t held => ?_
      · simp [sound.nonempty _ pool known] at empty
      · refine fill_yields (bracketed.of_get? known held) fun body member bare => ?_
        obtain ⟨wildcard, parsed, target, found⟩ := sound.resolves _ pool known t held body member
        refine replacement_yields bare (fun cause malformed => ?_) fun same amount read keyword => ?_
        · simp [parsed] at malformed
        · obtain rfl : wildcard = same := Except.ok.inj (parsed.symm.trans read)
          refine recover_yields (ih _ found) (fun _ => id) (Text.not_brace_mem_upper keyword) ?_
          rintro _ ⟨deep, limit, rfl⟩
          exact id

/-- A wildcard that the check complains about can break a run. -/
theorem replacement_canEmit (levels depth : Nat) {body : Text}
    (unresolved : ¬ library.Resolves body) (positive : ∀ wildcard, Wildcard.parse body = .ok wildcard →
      ∀ count, wildcard.count = some count → count.greatest ≠ 0) :
    (replacement (fun inner => recover depth inner
      (singlePassWithin library limits (levels + 1) depth inner)) body).CanEmit Event.Breaks := by
  cases parsed : Wildcard.parse body with
  | error cause =>
      exact ⟨_, _, ⟨[], fun s _ => replacement_of_malformed parsed s⟩, _, List.mem_cons_self,
        trivial⟩
  | ok wildcard =>
      have unknown : library.get? wildcard.keyword = none := by
        rw [Option.eq_none_iff_forall_ne_some]
        exact fun pool known => unresolved ⟨wildcard, parsed, pool, known⟩
      obtain ⟨words, amount, asked, reads⟩ : ∃ words amount, amount ≠ 0 ∧
          Random.Reads wildcard.amount words amount := by
        cases counted : wildcard.count with
        | none =>
            refine ⟨[], 1, Nat.one_ne_zero, ?_⟩
            rw [Wildcard.amount, counted]
            exact .pure 1
        | some count =>
            obtain ⟨words, reads⟩ := Wildcard.amount_reads_greatest parsed counted
            exact ⟨words, _, positive wildcard parsed count counted, reads⟩
      rw [replacement_of_parsed parsed]
      refine .bind_right (.ofDraw reads) ?_
      rw [if_neg asked, singlePassWithin]
      simp only [unknown, recover, pure_bind]
      exact .bind_left (.emit trivial) fun _ => .pure _

/-- A keyword that the check complains about can break a run. -/
theorem node_canEmit (levels depth : Nat) {keyword : Text} {pool : Pool}
    (known : library.get? keyword = some pool) (asks : library.AsksForPicks)
    (countable : library.Countable) (faulty : library.Faulty pool) :
    (recover depth { keyword }
      (singlePassWithin library limits (levels + 2) depth { keyword })).CanEmit Event.Breaks := by
  rcases faulty with empty | ⟨t, held, body, member, unresolved⟩
  · have drained : Random.Reads (pool.picks (limits.clamp 1) false) [] none :=
      fun s _ => Pool.picks_of_isEmpty empty _ _ s
    have failed : (singlePassWithin library limits (levels + 2) depth { keyword }).Allows
        (.error (.emptyPool keyword)) (limits.clampEvents 1 ++ ([] ++ [])) := by
      rw [singlePassWithin]
      simp only [known]
      exact (limits.clampAmount_allows 1).bind ((Run.Allows.ofDraw drained).bind (.pure _))
    exact .bind_right failed (.bind_left (.emit trivial) fun _ => .pure _)
  · have small := countable _ (Library.get?_eq_some_iff.mp known)
    have inside := (Library.bodies_sublist known held).subset member
    have broken := replacement_canEmit limits levels (depth + 1) unresolved (asks body inside)
    have filled := fill_canEmit (fun inner => recover_readable
      (singlePassWithin_readable (levels + 1) (depth + 1) inner)) member broken
    exact (singlePassWithin_canEmit known held small filled).bind_left recover_continues

end Expansion

namespace Expander

variable {x : Expander} {keyword : Text} {pool : Pool}

theorem not_breaks_of_sound (bracketed : x.library.WellBracketed) (sound : x.library.Sound)
    (known : x.library.get? keyword = some pool) {s : Random.Source} {passes : Nat}
    {o : Outcome Text} (ran : x.generate passes { keyword } s = some o) :
    ∀ e ∈ o.events, ¬ e.Breaks := by
  have calm : (recover 0 { keyword } (x.singlePass { keyword })).Yields (¬ Event.Breaks ·)
      fun _ => True := by
    refine recover_yields (singlePassWithin_yields_of_sound x.limits bracketed sound _ 0 known)
      (fun _ _ => trivial) trivial ?_
    rintro _ ⟨deep, limit, rfl⟩
    exact id
  exact ((generate_yields bracketed calm s).2 passes o ran).2

/-- Some words lead the run of a keyword with faulty templates to the fault. -/
theorem exists_breaks_of_faulty (bracketed : x.library.WellBracketed)
    (asks : x.library.AsksForPicks) (countable : x.library.Countable)
    (nests : 1 ≤ x.limits.maxDepth.toNat) (known : x.library.get? keyword = some pool)
    (faulty : x.library.Faulty pool) :
    ∃ words o, x.generate x.enough { keyword } (.ofWords words) = some o ∧
      ∃ e ∈ o.events, e.Breaks := by
  have levels : x.limits.maxDepth.toNat - 1 + 2 = x.limits.maxDepth.toNat + 1 := by omega
  have node := node_canEmit x.limits (x.limits.maxDepth.toNat - 1) 0 known asks countable faulty
  rw [levels] at node
  change (recover 0 { keyword } (x.singlePass { keyword })).CanEmit Event.Breaks at node
  rw [← generate_eq_recover bracketed (Nat.le_refl _)] at node
  obtain ⟨value, events, ⟨words, ran⟩, broken⟩ := node
  exact ⟨words, _, ran _ (Random.Source.ofWords_offers words), broken⟩

/-- The check of a well-bracketed library reports no error if and only if no words make a node
fall back for another reason than its depth, whatever keyword is asked for. -/
theorem errors_lint_eq_nil_iff_never_breaks (x : Expander) (bracketed : x.library.WellBracketed)
    (asks : x.library.AsksForPicks) (countable : x.library.Countable)
    (nests : 1 ≤ x.limits.maxDepth.toNat) :
    (lint x.library).errors = [] ↔ ∀ keyword ∈ x.library.keywords, ∀ words passes o,
      x.generate passes { keyword } (.ofWords words) = some o → ∀ e ∈ o.events, ¬ e.Breaks := by
  rw [errors_lint_eq_nil_iff]
  constructor
  · intro sound keyword member words passes o ran
    obtain ⟨pool, known⟩ := Library.mem_keywords_iff.mp member
    exact not_breaks_of_sound bracketed sound known ran
  · intro calm
    refine Library.sound_of_not_faulty fun keyword pool known faulty => ?_
    obtain ⟨words, o, ran, e, held, breaks⟩ :=
      exists_breaks_of_faulty bracketed asks countable nests known faulty
    have member := Library.mem_keywords_iff.mpr ⟨pool, known⟩
    exact calm keyword member words _ o ran e held breaks

/-- The check complains about two wildcards of the library, so some run of it breaks. -/
theorem casebook_breaks :
    ∃ keyword ∈ casebook.keywords, ∃ words passes o,
      (Expander.mk casebook {}).generate passes { keyword } (.ofWords words) = some o ∧
        ∃ e ∈ o.events, e.Breaks := by
  have exact := errors_lint_eq_nil_iff_never_breaks ⟨casebook, {}⟩ (by decide) (by decide +kernel)
    (by decide) (by decide)
  have faulty : (lint casebook).errors ≠ [] := by decide +kernel
  refine Classical.byContradiction fun calm => faulty (exact.mpr ?_)
  intro keyword member words passes o ran e held breaks
  exact calm ⟨keyword, member, words, passes, o, ran, e, held, breaks⟩

end Expander

end PromptLoom
