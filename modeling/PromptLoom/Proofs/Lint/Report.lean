import PromptLoom.Lint
import PromptLoom.Proofs.Library
import PromptLoom.Proofs.Pool.Selection
import PromptLoom.Proofs.Wildcard.Cuts

/-! # What a report says

A report has no errors if and only if every keyword has templates, and each wildcard of
a template is well formed and asks for a keyword of the library.
-/

namespace PromptLoom

namespace Report

@[simp]
theorem errors_append (r s : Report) : (r.append s).errors = r.errors ++ s.errors := rfl

@[simp]
theorem warnings_append (r s : Report) : (r.append s).warnings = r.warnings ++ s.warnings := rfl

@[simp]
theorem errors_concat (rs : List Report) : (concat rs).errors = rs.flatMap errors := by
  induction rs with
  | nil => rfl
  | cons r rs ih => exact congrArg (r.errors ++ ·) ih

@[simp]
theorem warnings_concat (rs : List Report) : (concat rs).warnings = rs.flatMap warnings := by
  induction rs with
  | nil => rfl
  | cons r rs ih => exact congrArg (r.warnings ++ ·) ih

end Report

namespace Library

/-- The body is well formed and asks for a keyword of the library. -/
def Resolves (l : Library) (body : Text) : Prop :=
  ∃ wildcard, Wildcard.parse body = .ok wildcard ∧ ∃ pool, l.get? wildcard.keyword = some pool

/-- Nothing in the library makes a node fall back, the limit on the depth apart. -/
structure Sound (l : Library) : Prop where
  nonempty : ∀ keyword pool, l.get? keyword = some pool → pool.isEmpty = false
  resolves : ∀ keyword pool, l.get? keyword = some pool → ∀ t ∈ pool.items,
    ∀ body ∈ Wildcard.bodies t, l.Resolves body

/-- The pool has no templates, or one with a wildcard that does not resolve. -/
def Faulty (l : Library) (pool : Pool) : Prop :=
  pool.isEmpty = true ∨ ∃ t ∈ pool.items, ∃ body ∈ Wildcard.bodies t, ¬ l.Resolves body

theorem sound_of_not_faulty {l : Library}
    (clean : ∀ keyword pool, l.get? keyword = some pool → ¬ l.Faulty pool) : l.Sound := by
  constructor
  · intro keyword pool known
    cases empty : pool.isEmpty with
    | false => rfl
    | true => exact absurd (.inl empty) (clean keyword pool known)
  · intro keyword pool known t held body member
    refine Classical.byContradiction fun unresolved => clean keyword pool known ?_
    exact .inr ⟨t, held, body, member, unresolved⟩

end Library

namespace Lint

variable {library : Library} {keyword : Text}

theorem errors_checkBody_eq_nil_iff {body : Text} :
    (checkBody library keyword body).errors = [] ↔ library.Resolves body := by
  unfold checkBody Library.Resolves
  cases parsed : Wildcard.parse body with
  | error cause => simp
  | ok wildcard => cases known : library.get? wildcard.keyword <;> simp [known]

theorem errors_checkTemplate_eq_nil_iff {t : Text} :
    (checkTemplate library keyword t).errors = [] ↔
      ∀ body ∈ Wildcard.bodies t, library.Resolves body := by
  have tail : (checkTail keyword t (Wildcard.scan t).tail).errors = [] := by
    unfold checkTail
    split <;> rfl
  simp only [checkTemplate, Report.errors_append, Report.errors_concat, tail, List.append_nil,
    List.flatMap_map, List.flatMap_eq_nil_iff, errors_checkBody_eq_nil_iff, Wildcard.bodies,
    List.forall_mem_map]

theorem errors_checkEntry_eq_nil_iff {pool : Pool} :
    (checkEntry library keyword pool).errors = [] ↔
      pool.isEmpty = false ∧ ∀ t ∈ pool.items, ∀ body ∈ Wildcard.bodies t,
        library.Resolves body := by
  unfold checkEntry
  cases pool.isEmpty with
  | true => simp
  | false =>
      simp [List.flatMap_map, List.flatMap_eq_nil_iff, errors_checkTemplate_eq_nil_iff]

end Lint

theorem errors_lint_eq_nil_iff {l : Library} : (lint l).errors = [] ↔ l.Sound := by
  have each : (lint l).errors = [] ↔ ∀ keyword pool, l.get? keyword = some pool →
      pool.isEmpty = false ∧ ∀ t ∈ pool.items, ∀ body ∈ Wildcard.bodies t, l.Resolves body := by
    simp [lint, List.flatMap_map, List.flatMap_eq_nil_iff, Lint.errors_checkEntry_eq_nil_iff,
      Library.get?_eq_some_iff]
  rw [each]
  constructor
  · intro h
    exact ⟨fun keyword pool known => (h keyword pool known).1,
      fun keyword pool known => (h keyword pool known).2⟩
  · intro h keyword pool known
    exact ⟨h.nonempty keyword pool known, h.resolves keyword pool known⟩

/-- Without warnings no template leaves an opening mark behind. -/
theorem terminated_of_warnings_lint {l : Library} (silent : (lint l).warnings = [])
    {keyword t : Text} {pool : Pool} (known : l.get? keyword = some pool)
    (held : t ∈ pool.items) : Wildcard.Terminated t := by
  simp only [lint, Report.warnings_append, Report.warnings_concat, List.flatMap_map,
    List.append_eq_nil_iff, List.flatMap_eq_nil_iff] at silent
  have entry := silent.1 _ (Library.get?_eq_some_iff.mp known)
  simp only [Lint.checkEntry, Pool.isEmpty_of_mem held, Bool.false_eq_true, if_false, Report.warnings_concat,
    List.flatMap_map, List.flatMap_eq_nil_iff] at entry
  have template := entry t held
  simp only [Lint.checkTemplate, Report.warnings_append, List.append_eq_nil_iff] at template
  have tail := template.2
  unfold Lint.checkTail at tail
  split at tail
  · simp at tail
  · rename_i unopened
    simpa [Wildcard.Terminated] using unopened

/-! ## Warnings in order -/

/-- What a warning is about. -/
inductive Caution.Kind where
  | forcedRepeats
  | unterminated
  | selfExpanding
  deriving DecidableEq

def Caution.kind : Caution → Caution.Kind
  | .forcedRepeats .. => .forcedRepeats
  | .unterminated .. => .unterminated
  | .selfExpanding _ => .selfExpanding

/-- The warnings of one kind, in the order of the report. -/
def Report.ofKind (r : Report) (kind : Caution.Kind) : List Caution :=
  r.warnings.filter (·.kind = kind)

theorem Report.mem_ofKind_iff (r : Report) {c : Caution} :
    c ∈ r.ofKind c.kind ↔ c ∈ r.warnings := by
  simp [ofKind]

theorem Caution.filter_kind {cautions : List Caution} {own : Caution.Kind}
    (each : ∀ c ∈ cautions, c.kind = own) (kind : Caution.Kind) :
    cautions.filter (·.kind = kind) = if own = kind then cautions else [] := by
  by_cases same : own = kind
  · rw [if_pos same, List.filter_eq_self]
    intro c held
    simpa [same] using each c held
  · rw [if_neg same, List.filter_eq_nil_iff]
    intro c held
    simpa [each c held] using same

namespace Lint

variable {library : Library} {keyword : Text}

theorem countWarning?_eq_some_iff {wildcard : Wildcard} {target : Pool} {c : Caution} :
    countWarning? keyword wildcard target = some c ↔ ∃ count, wildcard.count = some count ∧
      wildcard.repeats = false ∧ target.distinctCount < count.greatest ∧
      c = .forcedRepeats keyword count.greatest wildcard.keyword target.distinctCount := by
  unfold countWarning?
  cases wildcard.count with
  | none => simp
  | some count => simp [and_assoc, eq_comm (a := c)]

/-- What a check warns of at a wildcard is its count. -/
theorem mem_warnings_checkBody_iff {body : Text} {c : Caution} :
    c ∈ (checkBody library keyword body).warnings ↔ ∃ wildcard target,
      Wildcard.parse body = .ok wildcard ∧ library.get? wildcard.keyword = some target ∧
      countWarning? keyword wildcard target = some c := by
  unfold checkBody
  cases parsed : Wildcard.parse body with
  | error cause => simp
  | ok wildcard => cases known : library.get? wildcard.keyword <;> simp [known]

theorem warnings_checkTail {t tail : Text} : (checkTail keyword t tail).warnings =
    if (Text.cutOpening tail).isSome then [.unterminated keyword t] else [] := by
  unfold checkTail
  split <;> rfl

theorem warnings_checkTemplate {t : Text} : (checkTemplate library keyword t).warnings =
    (Wildcard.bodies t).flatMap (fun body => (checkBody library keyword body).warnings) ++
      (checkTail keyword t (Wildcard.scan t).tail).warnings := by
  simp [checkTemplate, Wildcard.bodies, List.flatMap_map]

theorem warnings_checkEntry {pool : Pool} : (checkEntry library keyword pool).warnings =
    pool.items.flatMap fun t => (checkTemplate library keyword t).warnings := by
  unfold checkEntry
  cases empty : pool.isEmpty with
  | false => simp [List.flatMap_map]
  | true =>
      cases pool with
      | scalar value => simp [Pool.isEmpty] at empty
      | collection items =>
          obtain rfl : items = [] := by simpa [Pool.isEmpty] using empty
          rfl

theorem filter_kind_checkBody {body : Text} (kind : Caution.Kind) :
    (checkBody library keyword body).warnings.filter (·.kind = kind) =
      if .forcedRepeats = kind then (checkBody library keyword body).warnings else [] := by
  refine Caution.filter_kind (fun c held => ?_) kind
  obtain ⟨wildcard, target, -, -, warned⟩ := mem_warnings_checkBody_iff.mp held
  obtain ⟨count, -, -, -, rfl⟩ := countWarning?_eq_some_iff.mp warned
  rfl

theorem filter_kind_checkTail {t tail : Text} (kind : Caution.Kind) :
    (checkTail keyword t tail).warnings.filter (·.kind = kind) =
      if .unterminated = kind then (checkTail keyword t tail).warnings else [] := by
  refine Caution.filter_kind (fun c held => ?_) kind
  rw [warnings_checkTail] at held
  split at held
  · rw [List.mem_singleton.mp held]
    rfl
  · cases held

end Lint

namespace Library

variable (l : Library)

/-- The warnings come template by template, and those for cycles behind them. -/
theorem warnings_lint : (lint l).warnings =
    l.templates.flatMap (fun e => (Lint.checkTemplate l e.1 e.2).warnings) ++
      (l.keywords.filter fun k => l.references.reaches k k).map .selfExpanding := by
  simp [lint, templates, List.flatMap_map, List.flatMap_assoc, Lint.warnings_checkEntry]

theorem ofKind_lint (kind : Caution.Kind) : (lint l).ofKind kind =
    l.templates.flatMap (fun e =>
      (Wildcard.bodies e.2).flatMap (fun body =>
        if .forcedRepeats = kind then (Lint.checkBody l e.1 body).warnings else []) ++
      if .unterminated = kind then
        (Lint.checkTail e.1 e.2 (Wildcard.scan e.2).tail).warnings else []) ++
    if .selfExpanding = kind then
      (l.keywords.filter fun k => l.references.reaches k k).map .selfExpanding else [] := by
  have last (cyclic : List Text) : (cyclic.map Caution.selfExpanding).filter (·.kind = kind) =
      if .selfExpanding = kind then cyclic.map Caution.selfExpanding else [] := by
    refine Caution.filter_kind (fun c held => ?_) kind
    obtain ⟨keyword, -, rfl⟩ := List.mem_map.mp held
    rfl
  simp only [Report.ofKind, warnings_lint, List.filter_append, List.filter_flatMap, last,
    Lint.warnings_checkTemplate, Lint.filter_kind_checkBody, Lint.filter_kind_checkTail]

theorem forcedRepeats_lint : (lint l).ofKind .forcedRepeats =
    l.wildcards.flatMap fun e => (Lint.checkBody l e.1 e.2).warnings := by
  simp [ofKind_lint, wildcards, List.flatMap_assoc, List.flatMap_map]

theorem unterminated_lint : (lint l).ofKind .unterminated =
    l.templates.flatMap fun e => (Lint.checkTail e.1 e.2 (Wildcard.scan e.2).tail).warnings := by
  have none (bodies : List Text) : bodies.flatMap (fun _ => ([] : List Caution)) = [] :=
    List.flatMap_eq_nil_iff.mpr fun _ _ => rfl
  simp [ofKind_lint, none]

theorem selfExpanding_lint : (lint l).ofKind .selfExpanding =
    (l.keywords.filter fun k => l.references.reaches k k).map .selfExpanding := by
  simp [ofKind_lint]

end Library

/-- The last warnings are those for the keywords that can be reached from themselves. -/
theorem selfExpanding_mem_warnings_lint_iff {l : Library} {keyword : Text} :
    .selfExpanding keyword ∈ (lint l).warnings ↔
      keyword ∈ l.keywords ∧ l.references.reaches keyword keyword := by
  rw [← (lint l).mem_ofKind_iff, Caution.kind, l.selfExpanding_lint]
  simp

/-- Without warnings no keyword can be reached from itself. -/
theorem not_reaches_of_warnings_lint {l : Library} (silent : (lint l).warnings = [])
    {keyword : Text} (member : keyword ∈ l.keywords) :
    ¬ l.references.reaches keyword keyword := by
  intro reached
  have warned := selfExpanding_mem_warnings_lint_iff.mpr ⟨member, reached⟩
  simp [silent] at warned

end PromptLoom
