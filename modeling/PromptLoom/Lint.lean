import PromptLoom.Library
import PromptLoom.Wildcard.Modifier
import PromptLoom.Wildcard.Scan

/-! # Checking a library

An expansion never stops at a broken template, it only leaves a keyword in upper case behind. The
check finds such templates without drawing anything. Errors come in the order of keywords, templates
and wildcards; warnings likewise, and after them one for each keyword that can expand into itself.
-/

namespace PromptLoom

/-- What makes a node fall back. -/
inductive Fault where
  /-- The keyword has no templates. -/
  | noTemplates (keyword : Text)
  /-- A template of the keyword names a keyword that the library does not have. -/
  | unknownReference (keyword target : Text)
  /-- A template of the keyword has a wildcard with this malformed body. -/
  | malformedWildcard (keyword body : Text) (cause : ModifierError)
  deriving DecidableEq

/-- What is likely not meant. -/
inductive Caution where
  /-- A template of the keyword asks for up to `greatest` picks without repeats from fewer
  templates. -/
  | forcedRepeats (keyword : Text) (greatest : Nat) (target : Text) (distinct : Nat)
  /-- A template of the keyword has an opening mark and no closing mark after it. -/
  | unterminated (keyword template : Text)
  /-- The keyword can expand into itself. -/
  | selfExpanding (keyword : Text)
  deriving DecidableEq

def Fault.message : Fault → Text
  | .noTemplates keyword => "Keyword '".toList ++ keyword ++ "' has no templates".toList
  | .unknownReference keyword target =>
    "Keyword '".toList ++ keyword ++ "' references unknown keyword '".toList ++ target ++ ['\'']
  | .malformedWildcard keyword body cause =>
    "Keyword '".toList ++ keyword ++ "' has malformed wildcard '".toList ++ Text.opening ++ body ++
      Text.closing :: "': ".toList ++ cause.message

def Caution.message : Caution → Text
  | .forcedRepeats keyword greatest target distinct =>
    "Keyword '".toList ++ keyword ++ "' asks for up to ".toList ++ Decimal.digits greatest ++
      " of '".toList ++ target ++ "' which has ".toList ++ Decimal.digits distinct ++
      " distinct templates; repeats will be forced".toList
  | .unterminated keyword template =>
    "Keyword '".toList ++ keyword ++ "' has an unterminated wildcard in '".toList ++ template ++
      ['\'']
  | .selfExpanding keyword =>
    "Keyword '".toList ++ keyword ++
      "' can expand into itself; only the depth limit stops it".toList

/-- The result of a check. -/
structure Report where
  errors : List Fault := []
  warnings : List Caution := []
  deriving DecidableEq

namespace Report

/-- Both reports, one after the other. -/
def append (r s : Report) : Report :=
  ⟨r.errors ++ s.errors, r.warnings ++ s.warnings⟩

def concat (rs : List Report) : Report :=
  rs.foldr append {}

/-- A report without errors, whatever its warnings. -/
def isClean (r : Report) : Bool :=
  r.errors.isEmpty

end Report

namespace Lint

/-- The warning for a count that a pool cannot meet without repeats. -/
def countWarning? (keyword : Text) (wildcard : Wildcard) (target : Pool) : Option Caution :=
  match wildcard.count with
  | none => none
  | some count =>
    if !wildcard.repeats && target.distinctCount < count.greatest then
      some (.forcedRepeats keyword count.greatest wildcard.keyword target.distinctCount)
    else none

/-- Check one wildcard of a template of `keyword`. -/
def checkBody (library : Library) (keyword body : Text) : Report :=
  match Wildcard.parse body with
  | .error cause => { errors := [.malformedWildcard keyword body cause] }
  | .ok wildcard =>
    match library.get? wildcard.keyword with
    | none => { errors := [.unknownReference keyword wildcard.keyword] }
    | some target => { warnings := (countWarning? keyword wildcard target).toList }

/-- Check what follows the last wildcard of a template. -/
def checkTail (keyword template tail : Text) : Report :=
  if (Text.cutOpening tail).isSome then { warnings := [.unterminated keyword template] } else {}

/-- Check one template of `keyword`. -/
def checkTemplate (library : Library) (keyword template : Text) : Report :=
  let cuts := Wildcard.scan template
  (Report.concat (cuts.pieces.map fun piece => checkBody library keyword piece.2)).append
    (checkTail keyword template cuts.tail)

/-- Check the templates of one keyword. -/
def checkEntry (library : Library) (keyword : Text) (pool : Pool) : Report :=
  if pool.isEmpty then { errors := [.noTemplates keyword] }
  else Report.concat (pool.items.map (checkTemplate library keyword))

/-- The keyword that a body refers to, if it is well formed and the library has that keyword. -/
def target? (library : Library) (body : Text) : Option Text :=
  match Wildcard.parse body with
  | .error _ => none
  | .ok wildcard => if library.contains wildcard.keyword then some wildcard.keyword else none

end Lint

/-- Keywords with the keywords that their templates refer to. -/
abbrev References : Type := List (Text × List Text)

/-- The references between the keywords of a library. -/
def Library.references (l : Library) : References :=
  l.entries.map fun e =>
    (e.1, Text.distinct (e.2.items.flatMap fun t =>
      (Wildcard.bodies t).filterMap (Lint.target? l)))

namespace References

/-- What a keyword refers to. -/
def of (r : References) (keyword : Text) : List Text :=
  (r.lookup keyword).getD []

/-- How many references start at keywords that a search has not visited. -/
def unfollowed : References → List Text → Nat
  | [], _ => 0
  | (keyword, targets) :: rest, visited =>
    (if keyword ∈ visited then 0 else targets.length) + unfollowed rest visited

theorem unfollowed_visit_le {r : References} {visited : List Text} (current : Text) :
    r.unfollowed (current :: visited) ≤ r.unfollowed visited := by
  induction r with
  | nil => exact Nat.le_refl _
  | cons e rest ih =>
    obtain ⟨keyword, targets⟩ := e
    have first : (if keyword ∈ current :: visited then 0 else targets.length) ≤
        if keyword ∈ visited then 0 else targets.length := by grind
    exact Nat.add_le_add first ih

/-- A visit takes the references of the keyword from those that are not followed. -/
theorem unfollowed_visit {r : References} {visited : List Text} {current : Text}
    (new : current ∉ visited) :
    (r.of current).length + r.unfollowed (current :: visited) ≤ r.unfollowed visited := by
  induction r with
  | nil => exact Nat.le_refl _
  | cons e rest ih =>
    obtain ⟨keyword, targets⟩ := e
    by_cases same : current = keyword
    · subst same
      have others : unfollowed rest (current :: visited) ≤ unfollowed rest visited :=
        unfollowed_visit_le current
      simp only [unfollowed, of, List.lookup_cons_self, List.mem_cons_self, if_true, if_neg new,
        Option.getD_some]
      omega
    · have still : keyword ∈ current :: visited ↔ keyword ∈ visited := by
        simp [Ne.symm same]
      simp only [unfollowed, of, still, List.lookup_cons, beq_false_of_ne same] at ih ⊢
      omega

/-- Whether a search comes to the target. It takes keywords from its stack, puts on it what a keyword
refers to, and passes over a keyword that it has visited. -/
def search (r : References) (target : Text) (visited : List Text) : List Text → Bool
  | [] => false
  | current :: stack =>
    if current = target then true
    else if current ∈ visited then r.search target visited stack
    else r.search target (current :: visited) (r.of current ++ stack)
termination_by stack => stack.length + r.unfollowed visited
decreasing_by
  · simp
  · rename_i new
    have left := unfollowed_visit (r := r) new
    simp only [List.length_append, List.length_cons]
    omega

/-- Whether the target can be reached from a keyword by one or more references. The search starts
behind the keyword, which it has not visited, so that a cycle leads it back there. -/
def reaches (r : References) (start target : Text) : Bool :=
  r.search target [] (r.of start)

end References

/-- Check every template of a library. -/
def lint (library : Library) : Report :=
  let references := library.references
  let cyclic := library.keywords.filter fun k => references.reaches k k
  (Report.concat (library.entries.map fun e => Lint.checkEntry library e.1 e.2)).append
    { warnings := cyclic.map Caution.selfExpanding }

end PromptLoom
