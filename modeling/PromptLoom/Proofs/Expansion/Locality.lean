import Mathlib.Logic.Relation
import PromptLoom.Proofs.Expansion.SinglePass

/-! # What an expansion looks at

A run over well-bracketed templates looks up the keyword that it is asked for and the
keywords that these templates name, directly or through others, and no other one. The
text of a node stays well bracketed from pass to pass, and its wildcards are among those
of the templates, so two libraries that agree on these keywords give the same runs.
-/

namespace PromptLoom

open Expansion

namespace Text

theorem ClosesFirst.append {s : Text} (closes : ClosesFirst s) (t : Text) :
    ClosesFirst (s ++ t) := by
  obtain ⟨body, rest, rfl, plain⟩ := closes
  exact ⟨body, rest ++ t, by simp, plain⟩

theorem wellBracketed_of_not_mem {t : Text} (plain : '{' ∉ t) : WellBracketed t := by
  rintro before after rfl
  simp at plain

namespace WellBracketed

variable {s t : Text}

theorem append (left : WellBracketed s) (right : WellBracketed t) : WellBracketed (s ++ t) := by
  intro before after split
  rcases List.append_eq_append_iff.mp split with ⟨front, rfl, same⟩ | ⟨back, same, rest⟩
  · obtain ⟨last, closes⟩ := right front after same
    exact ⟨by simp [List.getLast?_append, last], closes⟩
  · cases back with
    | nil =>
        -- The brace would be the first character of the second text.
        refine absurd ?_ right.head_ne
        rw [List.nil_append] at rest
        rw [← rest]
        rfl
    | cons c back =>
        obtain ⟨rfl, rfl⟩ := List.cons.inj rest
        obtain ⟨last, closes⟩ := left before back same
        exact ⟨last, closes.append t⟩

theorem joinRest {ts : List Text} (each : ∀ t ∈ ts, WellBracketed t) :
    WellBracketed (joinRest ts) := by
  induction ts with
  | nil => exact wellBracketed_of_not_mem List.not_mem_nil
  | cons t ts ih =>
      have link := wellBracketed_of_not_mem (not_brace_mem_link ts.length)
      have others := ih fun u held => each u (List.mem_cons_of_mem t held)
      rw [joinRest_cons]
      exact (link.append (each t List.mem_cons_self)).append others

theorem joinList {ts : List Text} (each : ∀ t ∈ ts, WellBracketed t) :
    WellBracketed (joinList ts) := by
  cases ts with
  | nil => exact wellBracketed_of_not_mem List.not_mem_nil
  | cons t ts =>
      have others := joinRest fun u held => each u (List.mem_cons_of_mem t held)
      exact (each t List.mem_cons_self).append others

theorem terminated (bracketed : WellBracketed t) : Wildcard.Terminated t := by
  induction t using Wildcard.scan.induct with
  | case1 t finished =>
      have plain := bracketed.not_mem_of_finished finished
      exact Wildcard.terminated_of_unopened (cutOpening_eq_none_of_not_mem plain)
  | case2 t f leftmost ih =>
      exact (Wildcard.terminated_of_found leftmost).mpr (ih (bracketed.rest leftmost))

/-- A text without braces in front adds no wildcard. -/
theorem bodies_prepend (bracketed : WellBracketed t) (plain : '{' ∉ s) :
    Wildcard.bodies (s ++ t) = Wildcard.bodies t := by
  have border : ¬ Welds s t := fun welds => bracketed.head_ne welds.2
  exact (bracketed.terminated.prepend (cutOpening_eq_none_of_not_mem plain) border).2

end WellBracketed

end Text

namespace Library

variable {l m : Library} {root keyword target : Text}

/-- The keyword is the root, or templates name it that belong to a keyword which the root concerns. -/
def Concerns (l : Library) (root : Text) : Text → Prop :=
  Relation.ReflTransGen (fun source target => target ∈ l.named source) root

theorem named_congr (same : l.get? keyword = m.get? keyword) : l.named keyword = m.named keyword := by
  rw [named, named, same]

/-- Keywords that hold the root and all that they name hold all that the root concerns. -/
theorem Concerns.mem_of_closed {keywords : List Text} (start : root ∈ keywords)
    (closed : ∀ source ∈ keywords, ∀ target ∈ l.named source, target ∈ keywords)
    (concerns : l.Concerns root keyword) : keyword ∈ keywords := by
  induction concerns with
  | refl => exact start
  | tail _ names ih => exact closed _ ih _ names

/-- The entries of the keywords that meet the condition. -/
def restrict (l : Library) (P : Text → Prop) [DecidablePred P] : Library :=
  ⟨l.entries.filter fun e => P e.1, l.sorted.filter _⟩

section restrict

variable {P : Text → Prop} [DecidablePred P]

theorem mem_entries_restrict {e : Text × Pool} :
    e ∈ (l.restrict P).entries ↔ e ∈ l.entries ∧ P e.1 := by
  simp [restrict]

theorem get?_restrict (meets : P keyword) : (l.restrict P).get? keyword = l.get? keyword := by
  ext pool
  rw [get?_eq_some_iff, get?_eq_some_iff, mem_entries_restrict]
  exact and_iff_left meets

theorem named_restrict (meets : P keyword) : (l.restrict P).named keyword = l.named keyword :=
  named_congr (get?_restrict meets)

theorem wellBracketed_restrict
    (bracketed : ∀ keyword, P keyword → ∀ pool, l.get? keyword = some pool →
      ∀ t ∈ pool.items, Text.WellBracketed t) : (l.restrict P).WellBracketed := by
  intro e held t member
  obtain ⟨inside, meets⟩ := mem_entries_restrict.mp held
  exact bracketed e.1 meets e.2 (get?_eq_some_iff.mpr inside) t member

end restrict

end Library

namespace Expansion

variable {nested other : Request → Run Text} {library : Library} {limits : Limits}

theorem replacement_congr {body : Text}
    (same : ∀ wildcard amount, Wildcard.parse body = .ok wildcard →
      nested ⟨wildcard.keyword, amount, wildcard.repeats⟩ =
        other ⟨wildcard.keyword, amount, wildcard.repeats⟩) :
    replacement nested body = replacement other body := by
  cases parsed : Wildcard.parse body with
  | error cause =>
      funext s
      rw [replacement_of_malformed parsed, replacement_of_malformed parsed]
  | ok wildcard =>
      rw [replacement_of_parsed parsed, replacement_of_parsed parsed]
      refine bind_congr fun amount => ?_
      rw [same wildcard amount parsed]

/-- The passes over a well-bracketed text replace its own wildcards only, so it is enough that these
are replaced in the same way and by texts without braces. -/
theorem substitute_congr {t : Text} (bracketed : Text.WellBracketed t)
    (same : ∀ body ∈ Wildcard.bodies t, replacement nested body = replacement other body)
    (plain : ∀ body, '{' ∉ body → ∀ s o, replacement nested body s = some o → '{' ∉ o.value)
    (passes : Nat) : substitute nested passes t = substitute other passes t := by
  induction passes generalizing t with
  | zero =>
      cases found : Wildcard.find? t with
      | none => rw [substitute_of_finished found, substitute_of_finished found]
      | some f => rw [substitute_zero_of_found found, substitute_zero_of_found found]
  | succ passes ih =>
      cases found : Wildcard.find? t with
      | none => rw [substitute_of_finished found, substitute_of_finished found]
      | some f =>
          rw [Wildcard.bodies_of_found found] at same
          rw [substitute_of_found found, substitute_of_found found,
            ← same f.body List.mem_cons_self]
          apply Run.bind_congr
          intro s o ran
          have rest := bracketed.rest found
          have bare : '{' ∉ f.gap ++ o.value := by
            have value := plain f.body (bracketed.not_mem_body found) s o ran
            simp [bracketed.not_mem_gap found, value]
          have spliced : substitute nested passes (f.gap ++ o.value ++ f.rest) =
              substitute other passes (f.gap ++ o.value ++ f.rest) := by
            apply ih ((Text.wellBracketed_of_not_mem bare).append rest)
            rw [rest.bodies_prepend bare]
            exact fun body held => same body (List.mem_cons_of_mem _ held)
          rw [spliced]

/-- Over a well-bracketed library, whatever replaces a body without braces has none. -/
theorem not_brace_mem_of_replacement (bracketed : library.WellBracketed) {passes levels depth : Nat}
    {body : Text} (bare : '{' ∉ body) {s : Random.Source} {o : Outcome Text}
    (ran : replacement (fun inner => recover depth inner
      (expandWithin library limits passes levels depth inner)) body s = some o) :
    '{' ∉ o.value := by
  obtain ⟨budget, more, enough⟩ : ∃ budget, passes ≤ budget ∧
      max limits.maxAmount.toNat 1 * library.bodies.length ≤ budget :=
    ⟨_, Nat.le_max_left _ _, Nat.le_max_right _ _⟩
  have larger : replacement (fun inner => recover depth inner
      (expandWithin library limits budget levels depth inner)) body s = some o := by
    refine replacement_refines (fun inner => recover_refines ?_) body s o ran
    exact expandWithin_refines more levels depth inner
  simp only [expandWithin_eq_singlePassWithin bracketed enough] at larger
  have plain := (plain_singlePassWithin limits bracketed levels depth).2
  obtain ⟨p, ended, value, -⟩ := plain.replacement bare s
  obtain rfl := Option.some.inj (larger.symm.trans ended)
  exact value

/-- Keywords that name only each other in a well-bracketed library are expanded in the same way by
every library that has the same pools for them. -/
theorem expandWithin_congr {l m : Library} (bracketed : l.WellBracketed) {P : Text → Prop}
    (closed : ∀ source, P source → ∀ target ∈ l.named source, P target)
    (agree : ∀ keyword, P keyword → l.get? keyword = m.get? keyword) (passes levels depth : Nat)
    {request : Request} (held : P request.keyword) :
    expandWithin l limits passes levels depth request =
      expandWithin m limits passes levels depth request := by
  induction levels generalizing depth request with
  | zero => rfl
  | succ levels ih =>
      rw [expandWithin, expandWithin, ← agree _ held]
      cases known : l.get? request.keyword with
      | none => rfl
      | some pool =>
          refine bind_congr fun amount => ?_
          apply Run.bind_congr
          intro s o ran
          rw [Run.ofDraw_apply, Option.some.injEq] at ran
          subst ran
          rw [Pool.select_apply]
          cases picked : (pool.picks amount request.repeats s).1 with
          | none => rfl
          | some picks =>
              have chosen := (Pool.of_picks picked).2.1
              have each : ∀ t ∈ picks, Text.WellBracketed t := fun t member =>
                bracketed.of_get? known (chosen t member)
              have found := (Wildcard.terminated_joinList fun t member =>
                (each t member).terminated).2
              simp only [Option.map_some]
              rw [substitute_congr (.joinList each) (fun body member => ?_)
                fun _ bare _ _ => not_brace_mem_of_replacement bracketed bare]
              rw [found, List.mem_flatMap] at member
              obtain ⟨t, picked, inside⟩ := member
              apply replacement_congr
              intro wildcard amount parsed
              have names : wildcard.keyword ∈ l.named request.keyword := Library.mem_named_iff.mpr
                ⟨pool, known, t, chosen t picked, body, inside, wildcard, parsed, rfl⟩
              exact congrArg (recover _ _) (ih (depth + 1) (closed _ held _ names))

end Expansion

namespace Expander

section

variable {l m : Library} {root : Text}

/-- The part of a library that a keyword concerns stands for every library that agrees with it. -/
theorem generate_restrict [DecidablePred (l.Concerns root)]
    (bracketed : (l.restrict (l.Concerns root)).WellBracketed)
    (agree : ∀ keyword, l.Concerns root keyword → l.get? keyword = m.get? keyword)
    (limits : Limits) (passes amount : Nat) (repeats : Bool) :
    (Expander.mk (l.restrict (l.Concerns root)) limits).generate passes ⟨root, amount, repeats⟩ =
      (Expander.mk m limits).generate passes ⟨root, amount, repeats⟩ := by
  have closed : ∀ source, l.Concerns root source →
      ∀ target ∈ (l.restrict (l.Concerns root)).named source, l.Concerns root target := by
    intro source concerns target names
    rw [Library.named_restrict concerns] at names
    exact concerns.tail names
  have same : ∀ keyword, l.Concerns root keyword →
      (l.restrict (l.Concerns root)).get? keyword = m.get? keyword := by
    intro keyword concerns
    rw [Library.get?_restrict concerns, agree keyword concerns]
  exact congrArg (recover _ _) (expandWithin_congr bracketed closed same passes _ 0 .refl)

end

/-- Entries that a keyword does not concern have no influence on what it becomes: two libraries that
agree on the keywords that it concerns, with well-bracketed templates for them, give the same runs
for it, and these runs end. -/
theorem generate_eq_of_agree {l m : Library} {root : Text}
    (bracketed : ∀ keyword, l.Concerns root keyword → ∀ pool, l.get? keyword = some pool →
      ∀ t ∈ pool.items, Text.WellBracketed t)
    (agree : ∀ keyword, l.Concerns root keyword → l.get? keyword = m.get? keyword)
    (limits : Limits) (amount : Nat) (repeats : Bool) :
    (∀ passes, (Expander.mk l limits).generate passes ⟨root, amount, repeats⟩ =
      (Expander.mk m limits).generate passes ⟨root, amount, repeats⟩) ∧
    ∀ s, ∃ passes o, (Expander.mk l limits).generate passes ⟨root, amount, repeats⟩ s = some o := by
  classical
  -- Both libraries are compared with the part of the first one that the root concerns.
  have whole : (l.restrict (l.Concerns root)).WellBracketed :=
    Library.wellBracketed_restrict bracketed
  have itself (passes : Nat) :=
    generate_restrict (m := l) whole (fun _ _ => rfl) limits passes amount repeats
  constructor
  · intro passes
    rw [← itself passes]
    exact generate_restrict whole agree limits passes amount repeats
  · intro s
    obtain ⟨passes, o, ran⟩ := generate_ends ⟨l.restrict (l.Concerns root), limits⟩ whole
      ⟨root, amount, repeats⟩ s
    rw [itself passes] at ran
    exact ⟨passes, o, ran⟩

/-- A library with one entry of the casebook, and templates that are broken elsewhere. -/
def rumours : Library :=
  .ofList [("case".toList, .collection ["?\x7bcase".toList, "\x7d\x7b".toList]),
    ("victim".toList, .scalar "the ?{colonel}".toList)]

theorem generate_rumours :
    (∀ keyword, casebook.Concerns "victim".toList keyword →
      casebook.get? keyword = rumours.get? keyword) ∧
    (∀ passes, (Expander.mk casebook {}).generate passes ⟨"victim".toList, 2, true⟩ =
      (Expander.mk rumours {}).generate passes ⟨"victim".toList, 2, true⟩) ∧
    ∀ s, ∃ passes o, (Expander.mk casebook {}).generate passes ⟨"victim".toList, 2, true⟩ s =
      some o := by
  have concerned : ∀ keyword, casebook.Concerns "victim".toList keyword →
      keyword ∈ ["victim".toList, "colonel".toList] := by
    intro keyword concerns
    exact concerns.mem_of_closed (by decide) (by decide +kernel)
  have agree : ∀ keyword, casebook.Concerns "victim".toList keyword →
      casebook.get? keyword = rumours.get? keyword := by
    intro keyword concerns
    have same : ∀ keyword ∈ ["victim".toList, "colonel".toList],
        casebook.get? keyword = rumours.get? keyword := by decide
    exact same keyword (concerned keyword concerns)
  have bracketed : casebook.WellBracketed := by decide
  exact ⟨agree, generate_eq_of_agree (fun _ _ _ known _ held => bracketed.of_get? known held) agree
    {} 2 true⟩

end Expander

end PromptLoom
