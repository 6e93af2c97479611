import Mathlib.Algebra.GroupWithZero.Nat
import PromptLoom.Proofs.Expansion.Budget
import PromptLoom.Proofs.Pool.Selection
import PromptLoom.Proofs.Text.Upper
import PromptLoom.Proofs.Wildcard.Body
import PromptLoom.Proofs.Wildcard.Brackets
import PromptLoom.Proofs.Wildcard.Cuts

/-! # Expansion in a single pass

A node of a well-bracketed library need not scan a text again after a replacement: the
expansion is the one that cuts each pick once, copies the gaps and replaces the bodies
from left to right. What replaces a body holds no brace, so no splice and no join of two
picks makes an opening mark, and the budget can be read off the library.
-/

namespace PromptLoom

open Expansion

namespace Expansion

/-- Copy the gaps of a cut text and replace each body once, from left to right. -/
def fillPieces (nested : Request → Run Text) (tail : Text) : List (Text × Text) → Run Text
  | [] => return tail
  | (gap, body) :: rest => do
    let spliced ← replacement nested body
    let filled ← fillPieces nested tail rest
    return gap ++ spliced ++ filled

/-- Cut a pick once and fill it. -/
def fill (nested : Request → Run Text) (pick : Text) : Run Text :=
  let cuts := Wildcard.scan pick
  fillPieces nested cuts.tail cuts.pieces

/-- Expand a node at `depth` without scanning any text twice: the picks are filled one after
the other and joined at the end. -/
def singlePassWithin (library : Library) (limits : Limits) :
    Nat → Nat → Request → Run (Except ExpansionError Text)
  | 0, depth, _ => return .error (.depthExceeded depth limits.maxDepth.toNat)
  | levels + 1, depth, request =>
    match library.get? request.keyword with
    | none => return .error (.unknownKeyword request.keyword)
    | some pool => do
      let amount ← limits.clampAmount request.amount
      match ← Run.ofDraw (pool.picks amount request.repeats) with
      | none => return .error (.emptyPool request.keyword)
      | some picks =>
        let nested inner :=
          recover (depth + 1) inner (singlePassWithin library limits levels (depth + 1) inner)
        return .ok (Text.joinList (← picks.mapM (fill nested)))

/-- What a body comes to, where `node` expands keywords at `depth`: a malformed one to its keyword
in upper case, one with a count of zero to nothing, and any other one to what the node gives, or to
its keyword in upper case if the node fails. -/
inductive Becomes (node : Request → Run (Except ExpansionError Text)) (depth : Nat)
    (body : Text) (s : Random.Source) : Outcome Text → Prop where
  | malformed {cause : ModifierError} (refused : Wildcard.parse body = .error cause) :
    Becomes node depth body s ⟨Text.upper (Wildcard.keywordOf body), s,
      [.malformed (Wildcard.keywordOf body) cause]⟩
  | dropped {wildcard : Wildcard} {rest : Random.Source}
    (parsed : Wildcard.parse body = .ok wildcard) (drawn : wildcard.amount s = (0, rest)) :
    Becomes node depth body s ⟨[], rest, []⟩
  | expanded {wildcard : Wildcard} {amount : Nat} {rest last : Random.Source} {text : Text}
    {events : List Event} (parsed : Wildcard.parse body = .ok wildcard)
    (drawn : wildcard.amount s = (amount, rest)) (positive : amount ≠ 0)
    (ran : node ⟨wildcard.keyword, amount, wildcard.repeats⟩ rest =
      some ⟨.ok text, last, events⟩) :
    Becomes node depth body s ⟨text, last, events⟩
  | failed {wildcard : Wildcard} {amount : Nat} {rest last : Random.Source}
    {cause : ExpansionError} {events : List Event} (parsed : Wildcard.parse body = .ok wildcard)
    (drawn : wildcard.amount s = (amount, rest)) (positive : amount ≠ 0)
    (ran : node ⟨wildcard.keyword, amount, wildcard.repeats⟩ rest =
      some ⟨.error cause, last, events⟩) :
    Becomes node depth body s ⟨Text.upper wildcard.keyword, last,
      events ++ [.fellBack wildcard.keyword depth cause]⟩

end Expansion

/-- The expansion of a root request in a single pass, or why it fails. -/
def Expander.singlePass (x : Expander) (request : Request) : Run (Except ExpansionError Text) :=
  singlePassWithin x.library x.limits (x.limits.maxDepth.toNat + 1) 0 request

/-- As many passes as a node of a well-bracketed library can need: each of its picks has at
most all the wildcards of the library. -/
def Expander.enough (x : Expander) : Nat :=
  max x.limits.maxAmount.toNat 1 * x.library.bodies.length

namespace Expansion

variable {nested : Request → Run Text} {E : Event → Prop}

theorem fill_of_finished {t : Text} (finished : Wildcard.find? t = none) :
    fill nested t = pure t := by
  simp [fill, Wildcard.scan_of_finished finished, fillPieces]

theorem fill_of_found {t : Text} {f : Wildcard.Found} (leftmost : Wildcard.find? t = some f) :
    fill nested t = (do
      let spliced ← replacement nested f.body
      let filled ← fill nested f.rest
      return f.gap ++ spliced ++ filled) := by
  simp [fill, Wildcard.scan_of_found leftmost, fillPieces]

theorem replacement_recover_iff {node : Request → Run (Except ExpansionError Text)} {depth : Nat}
    {body : Text} {s : Random.Source} {o : Outcome Text} :
    replacement (fun inner => recover depth inner (node inner)) body s = some o ↔
      Becomes node depth body s o := by
  constructor
  · intro ran
    rcases replacement_cases body s with ⟨cause, refused, replaced⟩ |
      ⟨wildcard, rest, parsed, drawn, replaced⟩ |
      ⟨wildcard, amount, rest, parsed, drawn, positive, replaced⟩
    · rw [replaced, Option.some.injEq] at ran
      exact ran ▸ .malformed refused
    · rw [replaced, Option.some.injEq] at ran
      exact ran ▸ .dropped parsed drawn
    · rw [replaced] at ran
      obtain ⟨value, last, events⟩ := o
      rcases recover_cases ran with node | ⟨cause, earlier, node, rfl, rfl⟩
      · exact .expanded parsed drawn positive node
      · exact .failed parsed drawn positive node
  · intro becomes
    cases becomes with
    | malformed refused => exact replacement_of_malformed refused s
    | dropped parsed drawn => exact replacement_of_zero parsed drawn
    | expanded parsed drawn positive ran =>
        rw [replacement_of_drawn parsed drawn positive]
        exact recover_of_ok ran
    | failed parsed drawn positive ran =>
        rw [replacement_of_drawn parsed drawn positive]
        exact recover_of_error ran

/-- A body without braces is replaced by a text without braces. -/
theorem replacement_yields {body : Text} (plain : '{' ∉ body)
    (malformed : ∀ cause, Wildcard.parse body = .error cause →
      E (.malformed (Wildcard.keywordOf body) cause))
    (asked : ∀ wildcard amount, Wildcard.parse body = .ok wildcard → '{' ∉ wildcard.keyword →
      (nested ⟨wildcard.keyword, amount, wildcard.repeats⟩).Yields E ('{' ∉ ·)) :
    (replacement nested body).Yields E ('{' ∉ ·) := by
  cases parsed : Wildcard.parse body with
  | error cause =>
      intro s
      refine ⟨_, replacement_of_malformed parsed s, ?_, by simpa using malformed cause parsed⟩
      exact Text.not_brace_mem_upper fun held => plain (Wildcard.mem_of_mem_keywordOf held)
  | ok wildcard =>
      rw [replacement_of_parsed parsed]
      refine Run.Yields.bind (V := fun _ => True) (.ofDraw fun _ => trivial) fun amount _ => ?_
      split
      · exact .pure List.not_mem_nil
      · exact asked wildcard amount parsed fun held => plain (Wildcard.mem_of_mem_keyword parsed held)

theorem fill_yields {t : Text} (bracketed : Text.WellBracketed t)
    (each : ∀ body ∈ Wildcard.bodies t, '{' ∉ body →
      (replacement nested body).Yields E ('{' ∉ ·)) : (fill nested t).Yields E ('{' ∉ ·) := by
  induction t using Wildcard.scan.induct with
  | case1 t finished =>
      rw [fill_of_finished finished]
      exact .pure (bracketed.not_mem_of_finished finished)
  | case2 t f leftmost ih =>
      rw [Wildcard.bodies_of_found leftmost] at each
      rw [fill_of_found leftmost]
      have here := each f.body List.mem_cons_self (bracketed.not_mem_body leftmost)
      refine here.bind fun spliced before => ?_
      have later := ih (bracketed.rest leftmost) fun body held =>
        each body (List.mem_cons_of_mem _ held)
      refine later.bind fun filled behind => .pure ?_
      simp [bracketed.not_mem_gap leftmost, before, behind]

theorem mapM_fill_yields {picks : List Text}
    (each : ∀ t ∈ picks, (fill nested t).Yields E ('{' ∉ ·)) :
    (picks.mapM (fill nested)).Yields E fun filled =>
      filled.length = picks.length ∧ ∀ t ∈ filled, '{' ∉ t := by
  induction picks with
  | nil => exact .pure (by simp)
  | cons t picks ih =>
      rw [List.mapM_cons]
      refine (each t List.mem_cons_self).bind fun first plain => ?_
      refine (ih fun u held => each u (List.mem_cons_of_mem t held)).bind fun rest others => ?_
      exact .pure ⟨congrArg (· + 1) others.1, by simpa using ⟨plain, others.2⟩⟩

/-- Filled texts have no braces if what replaces the bodies has none. -/
def Plain (nested : Request → Run Text) : Prop :=
  ∀ request, '{' ∉ request.keyword → (nested request).Yields (fun _ => True) ('{' ∉ ·)

theorem Plain.replacement {body : Text} (plain : Plain nested) (bare : '{' ∉ body) :
    (replacement nested body).Yields (fun _ => True) ('{' ∉ ·) :=
  replacement_yields bare (fun _ _ => trivial) fun _ _ _ keyword => plain _ keyword

theorem Plain.fill {t : Text} (plain : Plain nested) (bracketed : Text.WellBracketed t) :
    (Expansion.fill nested t).Yields (fun _ => True) ('{' ∉ ·) :=
  fill_yields bracketed fun _ _ bare => plain.replacement bare

/-- Behind a text without braces, the passes over a well-bracketed text fill it. -/
theorem substitute_append {t : Text} (plain : Plain nested) (bracketed : Text.WellBracketed t)
    (front : Text) (bare : '{' ∉ front) (passes : Nat) (back : Text) :
    substitute nested ((Wildcard.bodies t).length + passes) (front ++ t ++ back) = (do
      let filled ← fill nested t
      substitute nested passes (front ++ filled ++ back)) := by
  induction t using Wildcard.scan.induct generalizing front with
  | case1 t finished =>
      rw [fill_of_finished finished, Wildcard.bodies_of_finished finished]
      simp
  | case2 t f leftmost ih =>
      have unopened := Text.cutOpening_eq_none_of_not_mem bare
      have apart : ¬ Text.Welds front (t ++ back) := by
        rintro ⟨-, first⟩
        cases t with
        | nil => cases leftmost
        | cons c t => exact bracketed.head_ne first
      have joint : Wildcard.find? (front ++ t ++ back) =
          some ⟨front ++ f.gap, f.body, f.rest ++ back⟩ := by
        rw [List.append_assoc, Wildcard.find?_append_left unopened apart,
          Wildcard.find?_append_right leftmost back]
        rfl
      rw [fill_of_found leftmost, Wildcard.bodies_of_found leftmost, List.length_cons,
        Nat.add_right_comm _ 1 passes, substitute_of_found joint]
      simp only [bind_assoc, pure_bind]
      refine (plain.replacement (bracketed.not_mem_body leftmost)).bind_congr fun spliced none => ?_
      have finished : '{' ∉ front ++ f.gap ++ spliced := by
        simp [bare, none, bracketed.not_mem_gap leftmost]
      have later := ih (bracketed.rest leftmost) _ finished
      simpa only [List.append_assoc] using later

/-- How many wildcards a list of texts has. -/
def wildcards (picks : List Text) : Nat :=
  (picks.map fun t => (Wildcard.bodies t).length).sum

theorem wildcards_cons (t : Text) (picks : List Text) :
    wildcards (t :: picks) = (Wildcard.bodies t).length + wildcards picks := rfl

/-- The passes over the rest of a list of picks fill these picks one after the other. -/
theorem substitute_joinRest {picks : List Text} (plain : Plain nested)
    (bracketed : ∀ t ∈ picks, Text.WellBracketed t) (front : Text) (bare : '{' ∉ front)
    (passes : Nat) :
    substitute nested (wildcards picks + passes) (front ++ Text.joinRest picks) = (do
      let filled ← picks.mapM (fill nested)
      return front ++ Text.joinRest filled) := by
  induction picks generalizing front with
  | nil =>
      have finished := Wildcard.find?_eq_none_of_unopened (Text.cutOpening_eq_none_of_not_mem bare)
      simp [Text.joinRest, substitute_of_finished finished]
  | cons t picks ih =>
      have first := bracketed t List.mem_cons_self
      have others := fun u held => bracketed u (List.mem_cons_of_mem t held)
      have linked : '{' ∉ front ++ Text.link picks.length := by
        simp [bare, Text.not_brace_mem_link]
      have here := substitute_append plain first _ linked (wildcards picks + passes)
        (Text.joinRest picks)
      simp only [List.append_assoc] at here
      rw [wildcards_cons, List.mapM_cons, Text.joinRest_cons, Nat.add_assoc, List.append_assoc,
        here, bind_assoc]
      refine (plain.fill first).bind_congr fun filled none => ?_
      have later := ih others (front ++ Text.link picks.length ++ filled) fun held =>
        (List.mem_append.mp held).elim linked none
      simp only [List.append_assoc] at later
      rw [later, bind_assoc]
      -- As many texts are filled as there are picks, so the same links connect them.
      have rest := mapM_fill_yields fun u held => plain.fill (others u held)
      refine rest.bind_congr fun more same => ?_
      simp [Text.joinRest_cons, same.1]

theorem substitute_joinList {picks : List Text} (plain : Plain nested)
    (bracketed : ∀ t ∈ picks, Text.WellBracketed t) (passes : Nat) :
    substitute nested (wildcards picks + passes) (Text.joinList picks) = (do
      let filled ← picks.mapM (fill nested)
      return Text.joinList filled) := by
  cases picks with
  | nil =>
      have finished : Wildcard.find? [] = none := rfl
      simp [Text.joinList, substitute_of_finished finished]
  | cons t picks =>
      have first := bracketed t List.mem_cons_self
      have others := fun u held => bracketed u (List.mem_cons_of_mem t held)
      have here := substitute_append plain first [] List.not_mem_nil (wildcards picks + passes)
        (Text.joinRest picks)
      simp only [List.nil_append] at here
      rw [wildcards_cons, List.mapM_cons, Text.joinList, Nat.add_assoc, here, bind_assoc]
      refine (plain.fill first).bind_congr fun filled none => ?_
      rw [substitute_joinRest plain others filled none passes, bind_assoc]
      simp [Text.joinList]

theorem wildcards_le {picks : List Text} {most : Nat}
    (each : ∀ t ∈ picks, (Wildcard.bodies t).length ≤ most) :
    wildcards picks ≤ picks.length * most := by
  induction picks with
  | nil => exact Nat.zero_le _
  | cons t picks ih =>
      have here := each t List.mem_cons_self
      have later := ih fun u held => each u (List.mem_cons_of_mem t held)
      rw [wildcards_cons, List.length_cons, Nat.succ_mul]
      omega

end Expansion

namespace Expansion

variable {library : Library} {limits : Limits} {E : Event → Prop} {C : ExpansionError → Prop}

/-- The value of a node is a text without braces or a failure for a cause that meets `C`. -/
def Leaves (C : ExpansionError → Prop) : Except ExpansionError Text → Prop
  | .ok text => '{' ∉ text
  | .error cause => C cause

theorem clampAmount_yields {amount : Nat} (clamped : ∀ n, E (.clamped amount n)) :
    (limits.clampAmount amount).Yields E (0 < ·) := by
  intro s
  refine ⟨_, limits.clampAmount_apply amount s, limits.clamp_pos amount, ?_⟩
  intro e held
  simp only [Limits.clampEvents, ne_eq, ite_not, List.mem_ite_nil_left, List.mem_singleton] at held
  exact held.2 ▸ clamped _

theorem recover_yields {depth : Nat} {request : Request} {V : Text → Prop}
    {node : Run (Except ExpansionError Text)} (leaves : node.Yields E (Leaves C))
    (plain : ∀ text, '{' ∉ text → V text) (failed : V (fallback request.keyword))
    (fellBack : ∀ cause, C cause → E (.fellBack request.keyword depth cause)) :
    (recover depth request node).Yields E V := by
  refine leaves.bind fun value left => ?_
  cases value with
  | ok text => exact .pure (plain text left)
  | error cause => exact Run.Yields.bind (.emit (fellBack cause left)) fun _ _ => .pure failed

/-- What the fillings of its templates yield, a node of a known keyword yields. -/
theorem singlePassWithin_yields {levels depth : Nat} {request : Request} {pool : Pool}
    (known : library.get? request.keyword = some pool)
    (clamped : ∀ n, E (.clamped request.amount n))
    (empty : pool.isEmpty = true → C (.emptyPool request.keyword))
    (each : ∀ t ∈ pool.items, (fill (fun inner => recover (depth + 1) inner
      (singlePassWithin library limits levels (depth + 1) inner)) t).Yields E ('{' ∉ ·)) :
    (singlePassWithin library limits (levels + 1) depth request).Yields E (Leaves C) := by
  rw [singlePassWithin]
  simp only [known]
  refine (clampAmount_yields clamped).bind fun amount positive => ?_
  by_cases drained : pool.isEmpty = true
  · refine Run.Yields.bind (V := (· = none)) (.ofDraw fun s => ?_) fun picked none => ?_
    · rw [Pool.picks_of_isEmpty drained]
    · subst none
      exact .pure (empty drained)
  · refine Run.Yields.bind (V := fun picked => ∃ picks, picked = some picks ∧
      ∀ t ∈ picks, t ∈ pool.items) (.ofDraw fun s => ?_) fun picked some => ?_
    · obtain ⟨picks, rest, ran, -, held, -⟩ := Pool.picks_spec request.repeats
        (Nat.ne_of_gt positive) (by simpa using drained) s
      exact ⟨picks, by rw [ran], held⟩
    · obtain ⟨picks, rfl, held⟩ := some
      refine (mapM_fill_yields fun t chosen => each t (held t chosen)).bind fun filled plain => ?_
      exact .pure (Text.not_brace_mem_joinList plain.2)

theorem plain_singlePassWithin (limits : Limits) (bracketed : library.WellBracketed)
    (levels depth : Nat) :
    (∀ request, (singlePassWithin library limits levels depth request).Yields (fun _ => True)
      (Leaves fun _ => True)) ∧
    Plain fun inner => recover depth inner (singlePassWithin library limits levels depth inner) := by
  have leaves (request : Request) :
      (singlePassWithin library limits levels depth request).Yields (fun _ => True)
        (Leaves fun _ => True) := by
    induction levels generalizing depth request with
    | zero => exact .pure trivial
    | succ levels ih =>
        cases known : library.get? request.keyword with
        | none =>
            rw [singlePassWithin]
            simp only [known]
            exact .pure trivial
        | some pool =>
            refine singlePassWithin_yields known (fun _ => trivial) (fun _ => trivial) ?_
            intro t held
            have plain : Plain fun inner => recover (depth + 1) inner
                (singlePassWithin library limits levels (depth + 1) inner) :=
              fun inner bare => recover_yields (ih (depth + 1) inner) (fun _ => id)
                (Text.not_brace_mem_upper bare) fun _ _ => trivial
            exact plain.fill (bracketed.of_get? known held)
  exact ⟨leaves, fun inner bare => recover_yields (leaves inner) (fun _ => id)
    (Text.not_brace_mem_upper bare) fun _ _ => trivial⟩

theorem expandWithin_eq_singlePassWithin (bracketed : library.WellBracketed) {passes : Nat}
    (enough : max limits.maxAmount.toNat 1 * library.bodies.length ≤ passes)
    (levels depth : Nat) (request : Request) :
    expandWithin library limits passes levels depth request =
      singlePassWithin library limits levels depth request := by
  induction levels generalizing depth request with
  | zero => rfl
  | succ levels ih =>
      rw [expandWithin, singlePassWithin]
      cases known : library.get? request.keyword with
      | none => rfl
      | some pool =>
          simp only [ih]
          refine Run.bind_congr fun s o ran => ?_
          rw [limits.clampAmount_apply, Option.some.injEq] at ran
          subst ran
          rw [Run.ofDraw_bind_apply, Run.ofDraw_bind_apply, Pool.select_apply]
          cases picked : (pool.picks (limits.clamp request.amount) request.repeats s).1 with
          | none => rfl
          | some picks =>
              obtain ⟨length, held, -⟩ := Pool.of_picks picked
              have few : wildcards picks ≤ passes := by
                calc
                  wildcards picks ≤ picks.length * library.bodies.length := wildcards_le
                    fun t chosen => (Library.bodies_sublist known (held t chosen)).length_le
                  _ ≤ max limits.maxAmount.toNat 1 * library.bodies.length := by
                    rw [length]
                    exact Nat.mul_le_mul_right _ (Nat.min_le_right _ _)
                  _ ≤ passes := enough
              obtain ⟨more, rfl⟩ := Nat.exists_eq_add_of_le few
              have joined := substitute_joinList
                (plain_singlePassWithin limits bracketed levels (depth + 1)).2
                (fun t chosen => bracketed.of_get? known (held t chosen)) more
              simp only [Option.map_some, joined, bind_assoc, pure_bind]

end Expansion

namespace Expander

theorem generate_eq_recover {x : Expander} (bracketed : x.library.WellBracketed) {passes : Nat}
    (enough : x.enough ≤ passes) (request : Request) :
    x.generate passes request = recover 0 request (x.singlePass request) := by
  rw [singlePass, ← expandWithin_eq_singlePassWithin bracketed enough]
  rfl

/-- What a finished run comes to, the single pass does too. -/
theorem recover_of_generate {x : Expander} (bracketed : x.library.WellBracketed)
    {request : Request} {passes : Nat} {s : Random.Source} {o : Outcome Text}
    (ran : x.generate passes request s = some o) :
    recover 0 request (x.singlePass request) s = some o := by
  have larger := x.expandOrFallback_refines (Nat.le_max_left passes x.enough) 0 request _ _ ran
  rwa [← generate, generate_eq_recover bracketed (Nat.le_max_right _ _)] at larger

/-- What the single pass yields, every finished run has, and with enough passes runs do finish. -/
theorem generate_yields {x : Expander} (bracketed : x.library.WellBracketed) {request : Request}
    {E : Event → Prop} {V : Text → Prop}
    (yields : (recover 0 request (x.singlePass request)).Yields E V) (s : Random.Source) :
    (∃ passes o, x.generate passes request s = some o) ∧
      ∀ passes o, x.generate passes request s = some o → V o.value ∧ ∀ e ∈ o.events, E e := by
  obtain ⟨o, ended, value, events⟩ := yields s
  constructor
  · refine ⟨x.enough, o, ?_⟩
    rw [generate_eq_recover bracketed (Nat.le_refl _)]
    exact ended
  · intro passes p ran
    obtain rfl := Option.some.inj ((recover_of_generate bracketed ran).symm.trans ended)
    exact ⟨value, events⟩

theorem generate_ends (x : Expander) (bracketed : x.library.WellBracketed) (request : Request)
    (s : Random.Source) : ∃ passes o, x.generate passes request s = some o := by
  have leaves := (plain_singlePassWithin x.limits bracketed (x.limits.maxDepth.toNat + 1) 0).1
  have calm : (recover 0 request (x.singlePass request)).Yields (fun _ => True) fun _ => True :=
    recover_yields (leaves request) (fun _ _ => trivial) trivial fun _ _ => trivial
  exact (generate_yields bracketed calm s).1

/-- With enough passes, scanning again after each replacement comes to the same as a single
pass over the picks: the same text or failure, the same words drawn and the same events. Both
end, and the text has no brace. The single pass makes of each body what the body becomes with the
single pass for the node below. -/
theorem tryGenerate_eq_singlePass (x : Expander) (bracketed : x.library.WellBracketed) :
    (∀ passes ≥ x.enough, ∀ request, x.tryGenerate passes request = x.singlePass request) ∧
      (∀ request s, ∃ o, x.singlePass request s = some o ∧
        ∀ text, o.value = .ok text → '{' ∉ text) ∧
      ∀ levels depth body s o,
        replacement (fun inner => recover depth inner
          (singlePassWithin x.library x.limits levels depth inner)) body s = some o ↔
        Becomes (singlePassWithin x.library x.limits levels depth) depth body s o := by
  refine ⟨fun passes enough request => ?_, fun request s => ?_,
    fun _ _ _ _ _ => replacement_recover_iff⟩
  · exact expandWithin_eq_singlePassWithin bracketed enough _ _ _
  · have leaves := (plain_singlePassWithin x.limits bracketed
      (x.limits.maxDepth.toNat + 1) 0).1 request
    obtain ⟨o, ran, left, -⟩ := leaves s
    refine ⟨o, ran, fun text same => ?_⟩
    rw [same] at left
    exact left

/-- A library with wildcards that ask for several picks, for an unknown keyword and for a count
that is no number. -/
def casebook : Library :=
  .ofList [("case".toList, .collection ["?{victim} and \x7d ?{clue|1-3}".toList]),
    ("clue".toList, .collection ["a letter".toList, "?{victim|x}".toList]),
    ("victim".toList, .scalar "the ?{colonel}".toList)]

theorem tryGenerate_casebook :
    casebook.WellBracketed ∧
      (∀ passes ≥ (Expander.mk casebook {}).enough, ∀ request,
        (Expander.mk casebook {}).tryGenerate passes request =
          (Expander.mk casebook {}).singlePass request) ∧
      (∀ request s, ∃ o, (Expander.mk casebook {}).singlePass request s = some o ∧
        ∀ text, o.value = .ok text → '{' ∉ text) ∧
      (∃ o, (Expander.mk casebook {}).tryGenerate (Expander.mk casebook {}).enough
          { keyword := "case".toList } (.seeded 8) = some o ∧
        o.value = .ok "the COLONEL and \x7d a letter and VICTIM".toList) ∧
      replacement (fun inner => recover 1 inner (singlePassWithin casebook {} 5 1 inner))
        "clue|0".toList (.seeded 8) = some ⟨[], .seeded 8, []⟩ := by
  have bracketed : casebook.WellBracketed := by decide
  obtain ⟨same, ends, becomes⟩ := tryGenerate_eq_singlePass ⟨casebook, {}⟩ bracketed
  have told : ((Expander.mk casebook {}).singlePass { keyword := "case".toList } (.seeded 8)).bind
      (·.value.toOption) = some "the COLONEL and \x7d a letter and VICTIM".toList := by
    decide +kernel
  obtain ⟨⟨value, rest, events⟩, ran, text⟩ := Option.bind_eq_some_iff.mp told
  have parsed : Wildcard.parse "clue|0".toList =
      .ok ⟨"clue".toList, some (.exact 0), false⟩ := rfl
  have dropped := (becomes 5 1 "clue|0".toList (.seeded 8) _).mpr (.dropped parsed rfl)
  have ended := (congrFun (same _ (Nat.le_refl _) _) _).trans ran
  cases value with
  | error cause => cases text
  | ok shown =>
      obtain rfl := Option.some.inj text
      exact ⟨bracketed, same, ends, ⟨_, ended, rfl⟩, dropped⟩

end Expander

end PromptLoom
