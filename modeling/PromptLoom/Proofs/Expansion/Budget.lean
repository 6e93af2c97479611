import PromptLoom.Expansion.Node
import PromptLoom.Proofs.Expansion.Run

/-! # Budgets of an expansion

A larger budget keeps every outcome that a smaller one gives. What a node does is
then said without its count of levels: it fails before anything is drawn for it,
or it draws a text and finishes it one pass after the other.
-/

namespace PromptLoom

open Expansion

/-- The number of picks that a wildcard asks for. -/
def Wildcard.amount (wildcard : Wildcard) : Random.Draw Nat :=
  wildcard.count.elim (pure 1) Count.resolve

namespace Expansion

theorem replacement_of_malformed {nested : Request → Run Text} {body : Text} {cause : ModifierError}
    (malformed : Wildcard.parse body = .error cause) (s : Random.Source) :
    replacement nested body s =
      some ⟨fallback (Wildcard.keywordOf body), s,
        [.malformed (Wildcard.keywordOf body) cause]⟩ := by
  simp only [replacement, malformed]
  rfl

/-- A well-formed wildcard is replaced by nothing or by what its keyword becomes. -/
theorem replacement_of_parsed {nested : Request → Run Text} {body : Text} {wildcard : Wildcard}
    (parsed : Wildcard.parse body = .ok wildcard) :
    replacement nested body = (do
      let amount ← Run.ofDraw wildcard.amount
      if amount = 0 then return []
      nested ⟨wildcard.keyword, amount, wildcard.repeats⟩) := by
  simp only [replacement, parsed, Wildcard.amount]
  cases wildcard.count <;> rfl

theorem replacement_of_zero {nested : Request → Run Text} {body : Text} {wildcard : Wildcard}
    {s rest : Random.Source} (parsed : Wildcard.parse body = .ok wildcard)
    (drawn : wildcard.amount s = (0, rest)) : replacement nested body s = some ⟨[], rest, []⟩ := by
  simp [replacement_of_parsed parsed, Run.ofDraw_bind_apply, drawn]

theorem replacement_of_drawn {nested : Request → Run Text} {body : Text} {wildcard : Wildcard}
    {amount : Nat} {s rest : Random.Source} (parsed : Wildcard.parse body = .ok wildcard)
    (drawn : wildcard.amount s = (amount, rest)) (positive : amount ≠ 0) :
    replacement nested body s = nested ⟨wildcard.keyword, amount, wildcard.repeats⟩ rest := by
  simp [replacement_of_parsed parsed, Run.ofDraw_bind_apply, drawn, positive]

/-- What a wildcard is replaced by, in each of the three ways that there are. -/
theorem replacement_cases (body : Text) (s : Random.Source) :
    (∃ cause, Wildcard.parse body = .error cause ∧ ∀ nested, replacement nested body s =
      some ⟨fallback (Wildcard.keywordOf body), s,
        [.malformed (Wildcard.keywordOf body) cause]⟩) ∨
    (∃ wildcard rest, Wildcard.parse body = .ok wildcard ∧ wildcard.amount s = (0, rest) ∧
      ∀ nested, replacement nested body s = some ⟨[], rest, []⟩) ∨
    (∃ wildcard amount rest, Wildcard.parse body = .ok wildcard ∧
      wildcard.amount s = (amount, rest) ∧ amount ≠ 0 ∧ ∀ nested, replacement nested body s =
        nested ⟨wildcard.keyword, amount, wildcard.repeats⟩ rest) := by
  cases parsed : Wildcard.parse body with
  | error cause => exact .inl ⟨cause, rfl, fun nested => replacement_of_malformed parsed s⟩
  | ok wildcard =>
      cases drawn : wildcard.amount s with | mk amount rest =>
      by_cases zero : amount = 0
      · subst zero
        exact .inr (.inl ⟨wildcard, rest, rfl, drawn, fun nested =>
          replacement_of_zero parsed drawn⟩)
      · exact .inr (.inr ⟨wildcard, amount, rest, rfl, drawn, zero, fun nested =>
          replacement_of_drawn parsed drawn zero⟩)

theorem replacement_keeps {E : Event → Prop} {nested larger : Request → Run Text}
    (h : ∀ request, (larger request).Keeps E (nested request)) (body : Text) :
    (replacement larger body).Keeps E (replacement nested body) := by
  cases parsed : Wildcard.parse body with
  | error cause =>
      intro s o run _
      rwa [replacement_of_malformed parsed] at run ⊢
  | ok wildcard =>
      rw [replacement_of_parsed parsed, replacement_of_parsed parsed]
      refine (Run.Keeps.refl _).bind fun amount => ?_
      split
      · exact Run.Keeps.refl _
      · exact h _

theorem replacement_refines {nested larger : Request → Run Text}
    (h : ∀ request, (larger request).Refines (nested request)) (body : Text) :
    (replacement larger body).Refines (replacement nested body) :=
  Run.refines_iff_keeps.mpr (replacement_keeps (fun inner => Run.refines_iff_keeps.mp (h inner)) body)

theorem substituteAfter_of_finished {nested : Request → Run Text} {passes : Nat} {text : Text}
    (finished : Wildcard.find? text = none) (emitted : List Event) (s : Random.Source) :
    substituteAfter nested emitted passes text s = some ⟨text, s, emitted⟩ := by
  cases passes <;> simp only [substituteAfter, finished]

theorem substituteAfter_of_found {nested : Request → Run Text} {passes : Nat} {text : Text}
    {found : Wildcard.Found} (h : Wildcard.find? text = some found) (emitted : List Event)
    (s : Random.Source) :
    substituteAfter nested emitted (passes + 1) text s =
      (replacement nested found.body s).bind fun spliced =>
        substituteAfter nested (emitted ++ spliced.events) passes
          (found.gap ++ spliced.value ++ found.rest) spliced.source := by
  rw [substituteAfter]
  simp only [h]
  cases replacement nested found.body s <;> rfl

theorem substitute_zero_of_found {nested : Request → Run Text} {text : Text}
    {found : Wildcard.Found} (h : Wildcard.find? text = some found) :
    substitute nested 0 text = Run.unfinished := by
  funext s
  simp only [substitute, substituteAfter, h]
  rfl

/-- What was emitted before the passes only stands in front of their events. -/
theorem substituteAfter_eq (nested : Request → Run Text) (emitted : List Event) (passes : Nat)
    (text : Text) (s : Random.Source) :
    substituteAfter nested emitted passes text s =
      (substitute nested passes text s).map fun o => { o with events := emitted ++ o.events } := by
  induction passes generalizing emitted text s with
  | zero =>
      cases found : Wildcard.find? text with
      | none => simp [substitute, substituteAfter_of_finished found]
      | some leftmost =>
          rw [substitute_zero_of_found found]
          simp only [substituteAfter, found]
          rfl
  | succ passes ih =>
      cases found : Wildcard.find? text with
      | none => simp [substitute, substituteAfter_of_finished found]
      | some leftmost =>
          simp only [substitute, substituteAfter_of_found found, List.nil_append]
          cases replacement nested leftmost.body s with
          | none => rfl
          | some spliced =>
              simp only [Option.bind_some]
              rw [ih (emitted ++ spliced.events), ih spliced.events, Option.map_map]
              simp [Function.comp_def]

theorem substitute_of_finished {nested : Request → Run Text} {passes : Nat} {text : Text}
    (finished : Wildcard.find? text = none) : substitute nested passes text = pure text :=
  funext (substituteAfter_of_finished finished [])

theorem substitute_of_found {nested : Request → Run Text} {passes : Nat} {text : Text}
    {found : Wildcard.Found} (h : Wildcard.find? text = some found) :
    substitute nested (passes + 1) text = (do
      let spliced ← replacement nested found.body
      substitute nested passes (found.gap ++ spliced ++ found.rest)) := by
  funext s
  simp only [substitute, substituteAfter_of_found h, bind, Run.andThen, List.nil_append]
  cases replacement nested found.body s with
  | none => rfl
  | some spliced =>
      simp only [Option.bind_some, substituteAfter_eq nested spliced.events, substitute]
      cases substituteAfter nested [] passes (found.gap ++ spliced.value ++ found.rest)
        spliced.source <;> rfl

theorem substitute_keeps {E : Event → Prop} {nested larger : Request → Run Text}
    (h : ∀ request, (larger request).Keeps E (nested request)) {passes more : Nat}
    (le : passes ≤ more) (text : Text) :
    (substitute larger more text).Keeps E (substitute nested passes text) := by
  induction passes generalizing more text with
  | zero =>
      cases found : Wildcard.find? text with
      | none => simpa only [substitute_of_finished found] using Run.Keeps.refl _
      | some found' =>
          rw [substitute_zero_of_found found]
          exact Run.Keeps.unfinished _
  | succ passes ih =>
      obtain ⟨more, rfl⟩ := Nat.exists_eq_succ_of_ne_zero (Nat.ne_zero_of_lt le)
      cases found : Wildcard.find? text with
      | none => simpa only [substitute_of_finished found] using Run.Keeps.refl _
      | some found' =>
          rw [substitute_of_found found, substitute_of_found found]
          exact (replacement_keeps h _).bind fun spliced => ih (Nat.le_of_succ_le_succ le) _

theorem substitute_refines {nested larger : Request → Run Text}
    (h : ∀ request, (larger request).Refines (nested request)) {passes more : Nat}
    (le : passes ≤ more) (text : Text) :
    (substitute larger more text).Refines (substitute nested passes text) :=
  Run.refines_iff_keeps.mpr
    (substitute_keeps (fun inner => Run.refines_iff_keeps.mp (h inner)) le text)

section Recover

variable {depth : Nat} {request : Request} {node : Run (Except ExpansionError Text)}
  {s rest : Random.Source} {events : List Event}

theorem recover_of_ok {text : Text} (run : node s = some ⟨.ok text, rest, events⟩) :
    recover depth request node s = some ⟨text, rest, events⟩ := by
  simp [recover, bind, Run.andThen, run]

theorem recover_of_error {cause : ExpansionError} (run : node s = some ⟨.error cause, rest, events⟩) :
    recover depth request node s =
      some ⟨fallback request.keyword, rest, events ++ [.fellBack request.keyword depth cause]⟩ := by
  simp [recover, bind, Run.andThen, run]

theorem recover_cases {o : Outcome Text} (run : recover depth request node s = some o) :
    node s = some ⟨.ok o.value, o.source, o.events⟩ ∨
      ∃ cause earlier, node s = some ⟨.error cause, o.source, earlier⟩ ∧
        o.value = fallback request.keyword ∧
        o.events = earlier ++ [.fellBack request.keyword depth cause] := by
  obtain ⟨⟨value, source, earlier⟩, ran, _⟩ := Run.bind_eq_some_iff.mp run
  cases value with
  | ok text =>
      rw [recover_of_ok ran, Option.some.injEq] at run
      subst run
      exact .inl ran
  | error cause =>
      rw [recover_of_error ran, Option.some.injEq] at run
      subst run
      exact .inr ⟨cause, earlier, ran, rfl, rfl⟩

end Recover

theorem recover_keeps {E : Event → Prop} {depth : Nat} {request : Request}
    {node larger : Run (Except ExpansionError Text)} (h : larger.Keeps E node) :
    (recover depth request larger).Keeps E (recover depth request node) :=
  h.bind fun _ => Run.Keeps.refl _

theorem recover_refines {depth : Nat} {request : Request}
    {node larger : Run (Except ExpansionError Text)} (h : larger.Refines node) :
    (recover depth request larger).Refines (recover depth request node) :=
  h.bind fun _ => Run.Refines.refl _

theorem expandWithin_refines {library : Library} {limits : Limits} {passes more : Nat}
    (le : passes ≤ more) (levels depth : Nat) (request : Request) :
    (expandWithin library limits more levels depth request).Refines
      (expandWithin library limits passes levels depth request) := by
  induction levels generalizing depth request with
  | zero => exact Run.Refines.refl _
  | succ levels ih =>
      simp only [expandWithin]
      split
      · exact Run.Refines.refl _
      · refine (Run.Refines.refl _).bind fun amount => (Run.Refines.refl _).bind fun drawn => ?_
        split
        · exact Run.Refines.refl _
        · exact (substitute_refines (fun inner => recover_refines (ih _ inner)) le _).bind
            fun _ => Run.Refines.refl _

end Expansion

namespace Limits

/-- The report of a number of picks that is moved into the allowed range. -/
def clampEvents (limits : Limits) (amount : Nat) : List Event :=
  if limits.clamp amount ≠ amount then [.clamped amount (limits.clamp amount)] else []

theorem clampAmount_apply (limits : Limits) (amount : Nat) (s : Random.Source) :
    limits.clampAmount amount s = some ⟨limits.clamp amount, s, limits.clampEvents amount⟩ := by
  unfold clampAmount clampEvents
  by_cases h : limits.clamp amount = amount
  · simp [h]
  · simp only [ne_eq, h, not_false_eq_true, if_true]
    rfl

theorem clamp_pos (limits : Limits) (amount : Nat) : 0 < limits.clamp amount := by
  unfold clamp
  omega

theorem clamp_of_le {limits : Limits} {amount : Nat} (positive : amount ≠ 0)
    (room : amount ≤ limits.maxAmount.toNat) : limits.clamp amount = amount := by
  unfold clamp
  omega

end Limits

namespace Expander

/-- Replace the wildcards of a text that a node at `depth` has drawn. -/
def finish (x : Expander) (passes depth : Nat) (text : Text) : Run Text :=
  substitute (x.expandOrFallback passes (depth + 1)) passes text

theorem expand_refines (x : Expander) {passes more : Nat} (le : passes ≤ more) (depth : Nat)
    (request : Request) :
    (x.expand more depth request).Refines (x.expand passes depth request) :=
  expandWithin_refines le _ _ _

theorem expandOrFallback_refines (x : Expander) {passes more : Nat} (le : passes ≤ more)
    (depth : Nat) (request : Request) :
    (x.expandOrFallback more depth request).Refines (x.expandOrFallback passes depth request) :=
  recover_refines (x.expand_refines le depth request)

theorem expand_of_deep {x : Expander} {depth : Nat} (deep : x.limits.maxDepth.toNat < depth)
    (passes : Nat) (request : Request) :
    x.expand passes depth request =
      pure (.error (.depthExceeded depth x.limits.maxDepth.toNat)) := by
  rw [expand, show x.limits.maxDepth.toNat + 1 - depth = 0 by omega]
  rfl

/-- What a node does that the limit on the depth allows. -/
theorem expand_of_shallow {x : Expander} {depth : Nat} (shallow : depth ≤ x.limits.maxDepth.toNat)
    (passes : Nat) (request : Request) :
    x.expand passes depth request =
      match x.library.get? request.keyword with
      | none => pure (.error (.unknownKeyword request.keyword))
      | some pool => do
        let amount ← x.limits.clampAmount request.amount
        match ← Run.ofDraw (pool.select amount request.repeats) with
        | none => return .error (.emptyPool request.keyword)
        | some text => return .ok (← x.finish passes depth text) := by
  rw [expand, show x.limits.maxDepth.toNat + 1 - depth =
    (x.limits.maxDepth.toNat + 1 - (depth + 1)) + 1 by omega]
  rfl

end Expander

end PromptLoom
