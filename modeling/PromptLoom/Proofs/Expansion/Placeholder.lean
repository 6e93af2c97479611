import PromptLoom.Proofs.Expansion.SinglePass
import PromptLoom.Proofs.Lint.Silence

/-! # Placeholders in sight

A failed node leaves its keyword in upper case. Over a well-bracketed library no pass touches what
an earlier one has put in, so all these keywords stand in the text when the run ends.
-/

namespace PromptLoom

open Expansion

namespace Event

/-- The event tells that the keyword was replaced by itself in upper case. -/
def Replaces : Event → Text → Prop
  | fellBack keyword .., k => keyword = k
  | malformed keyword _, k => keyword = k
  | _, _ => False

theorem isFallback_iff {e : Event} : e.IsFallback ↔ ∃ keyword, e.Replaces keyword := by
  cases e <;> simp [IsFallback, Replaces]

/-- What the event replaced by a keyword in upper case stands in the text. -/
def ShownIn (t : Text) (e : Event) : Prop :=
  ∀ keyword, e.Replaces keyword → Text.upper keyword <:+: t

variable {e : Event} {t u : Text}

theorem ShownIn.mono (shown : e.ShownIn t) (part : t <:+: u) : e.ShownIn u :=
  fun keyword replaces => (shown keyword replaces).trans part

theorem shownIn_of_not_isFallback (calm : ¬ e.IsFallback) (t : Text) : e.ShownIn t :=
  fun keyword replaces => absurd (isFallback_iff.mpr ⟨keyword, replaces⟩) calm

theorem shownIn_fellBack (keyword : Text) (depth : Nat) (cause : ExpansionError) :
    (fellBack keyword depth cause).ShownIn (fallback keyword) := by
  rintro _ rfl
  exact List.infix_rfl

theorem shownIn_malformed (keyword : Text) (cause : ModifierError) :
    (malformed keyword cause).ShownIn (fallback keyword) := by
  rintro _ rfl
  exact List.infix_rfl

end Event

namespace Expansion

/-- The placeholders that the events of the run tell of stand in its text. -/
def Shows (x : Run Text) : Prop :=
  x.Carries (fun _ => False) fun t e => e.ShownIn t

/-- The placeholders of a node stand in its text, and a failed node has none. -/
def Reveals : Except ExpansionError Text → Event → Prop
  | .ok text, e => e.ShownIn text
  | .error _, e => ¬ e.IsFallback

variable {nested : Request → Run Text} {library : Library} {limits : Limits}

theorem shows_pure (t : Text) : Shows (pure t) :=
  .pure fun _ => False.elim

theorem shows_replacement (each : ∀ request, Shows (nested request)) (body : Text) :
    Shows (replacement nested body) := by
  cases parsed : Wildcard.parse body with
  | error cause =>
      intro s o ran e held
      rw [replacement_of_malformed parsed, Option.some.injEq] at ran
      subst ran
      obtain rfl := List.mem_singleton.mp (held.resolve_left id)
      exact Event.shownIn_malformed _ cause
  | ok wildcard =>
      rw [replacement_of_parsed parsed]
      refine Run.Carries.bind (Q := fun _ _ => False) (.ofDraw fun _ _ => id) fun amount => ?_
      split
      · exact shows_pure []
      · exact each _

/-- A text is filled from its pieces, so what one of them shows the text shows. -/
theorem shows_fill (each : ∀ request, Shows (nested request)) (t : Text) :
    Shows (fill nested t) := by
  induction t using Wildcard.scan.induct with
  | case1 t finished =>
      rw [fill_of_finished finished]
      exact shows_pure t
  | case2 t f leftmost ih =>
      rw [fill_of_found leftmost]
      refine (shows_replacement each f.body).bind fun spliced => ?_
      refine ih.frame.bind fun filled => .pure fun e shown => ?_
      rcases shown with early | late
      · exact early.mono (List.infix_append f.gap spliced filled)
      · exact late.mono (List.suffix_append _ filled).isInfix

theorem carries_mapM_fill (each : ∀ request, Shows (nested request)) (picks : List Text) :
    (picks.mapM (fill nested)).Carries (fun _ => False) fun filled e =>
      ∃ t ∈ filled, e.ShownIn t := by
  induction picks with
  | nil => exact .pure fun _ => False.elim
  | cons t picks ih =>
      rw [List.mapM_cons]
      refine (shows_fill each t).bind fun first => ?_
      refine ih.frame.bind fun rest => .pure fun e shown => ?_
      rcases shown with early | ⟨u, member, late⟩
      · exact ⟨first, List.mem_cons_self, early⟩
      · exact ⟨u, List.mem_cons_of_mem first member, late⟩

/-- Whatever a failed node emitted before it failed, its text shows the keyword. -/
theorem shows_recover {depth : Nat} {request : Request} {node : Run (Except ExpansionError Text)}
    (reveals : node.Carries (fun _ => False) Reveals) : Shows (recover depth request node) := by
  refine reveals.bind fun value => ?_
  cases value with
  | ok text => exact .pure fun e shown => shown
  | error cause =>
      have told : (Run.emit (.fellBack request.keyword depth cause)).Carries
          (Reveals (.error cause)) fun _ e => e.ShownIn (fallback request.keyword) :=
        .emit (fun e calm => Event.shownIn_of_not_isFallback calm _)
          (Event.shownIn_fellBack _ depth cause)
      exact told.bind fun _ => .pure fun e shown => shown

theorem carries_clampAmount (amount : Nat) :
    (limits.clampAmount amount).Carries (fun _ => False) fun _ e => ¬ e.IsFallback := by
  intro s o ran e held
  rw [limits.clampAmount_apply, Option.some.injEq] at ran
  subst ran
  exact Limits.not_isFallback_of_mem_clampEvents (held.resolve_left id)

theorem carries_singlePassWithin (levels depth : Nat) (request : Request) :
    (singlePassWithin library limits levels depth request).Carries (fun _ => False) Reveals := by
  induction levels generalizing depth request with
  | zero => exact .pure fun _ => False.elim
  | succ levels ih =>
      rw [singlePassWithin]
      cases library.get? request.keyword with
      | none => exact .pure fun _ => False.elim
      | some pool =>
          refine (carries_clampAmount request.amount).bind fun amount => ?_
          refine Run.Carries.bind (Q := fun _ e => ¬ e.IsFallback)
            (.ofDraw fun _ _ => id) fun picked => ?_
          cases picked with
          | none => exact .pure fun e calm => calm
          | some picks =>
              have each (inner : Request) : Shows (recover (depth + 1) inner
                  (singlePassWithin library limits levels (depth + 1) inner)) :=
                shows_recover (ih (depth + 1) inner)
              refine (carries_mapM_fill each picks).frame.bind fun texts => .pure fun e shown => ?_
              rcases shown with calm | ⟨t, member, shown⟩
              · exact Event.shownIn_of_not_isFallback calm _
              · exact shown.mono (Text.infix_joinList member)

end Expansion

/-- Over a well-bracketed library, each keyword that a run replaced by itself in upper case stands
so in its text. -/
theorem Expander.shownIn_of_generate {x : Expander} (bracketed : x.library.WellBracketed)
    {request : Request} {passes : Nat} {s : Random.Source} {o : Outcome Text}
    (ran : x.generate passes request s = some o) : ∀ e ∈ o.events, e.ShownIn o.value :=
  fun e held => shows_recover (carries_singlePassWithin _ 0 request) s o
    (recover_of_generate bracketed ran) e (.inr held)

end PromptLoom
