import Mathlib.Data.Finset.Card
import Mathlib.Data.List.Perm.Subperm
import Mathlib.Logic.Relation
import PromptLoom.Proofs.Lint.Report

/-! # References between keywords

The search for a keyword comes to it if and only if references lead there. Whatever a visited keyword
refers to is visited as well or waits on the stack, so a search that comes to its end has been
everywhere. Without cycles the number of reachable keywords decreases along each reference, which
bounds how deep references go.
-/

namespace PromptLoom

namespace References

variable {r : References} {start target current keyword : Text} {visited stack : List Text}

/-- One reference leads from the first keyword to the second one. -/
def Step (r : References) (keyword next : Text) : Prop :=
  next ∈ r.of keyword

theorem visited_or_waiting_skip (seen : current ∈ visited)
    (held : keyword ∈ visited ∨ keyword ∈ current :: stack) :
    keyword ∈ visited ∨ keyword ∈ stack := by
  rcases held with known | waiting
  · exact .inl known
  · rcases List.mem_cons.mp waiting with rfl | later
    · exact .inl seen
    · exact .inr later

theorem visited_or_waiting_visit (more : List Text)
    (held : keyword ∈ visited ∨ keyword ∈ current :: stack) :
    keyword ∈ current :: visited ∨ keyword ∈ more ++ stack := by
  rcases held with known | waiting
  · exact .inl (List.mem_cons_of_mem _ known)
  · rcases List.mem_cons.mp waiting with rfl | later
    · exact .inl List.mem_cons_self
    · exact .inr (List.mem_append_right _ later)

/-- The target is not visited, and all references of the visited keywords are followed or waiting. -/
structure Pending (r : References) (target : Text) (visited stack : List Text) : Prop where
  missed : target ∉ visited
  followed : ∀ keyword ∈ visited, ∀ next, r.Step keyword next → next ∈ visited ∨ next ∈ stack

namespace Pending

theorem unvisited : r.Pending target [] stack where
  missed := List.not_mem_nil
  followed _ none := absurd none List.not_mem_nil

theorem skip (pending : r.Pending target visited (current :: stack)) (seen : current ∈ visited) :
    r.Pending target visited stack := by
  refine ⟨pending.missed, fun keyword held next refers => ?_⟩
  exact visited_or_waiting_skip seen (pending.followed keyword held next refers)

theorem visit (pending : r.Pending target visited (current :: stack)) (other : current ≠ target) :
    r.Pending target (current :: visited) (r.of current ++ stack) := by
  constructor
  · intro held
    rcases List.mem_cons.mp held with same | earlier
    · exact other same.symm
    · exact pending.missed earlier
  · intro keyword held next refers
    rcases List.mem_cons.mp held with rfl | earlier
    · exact .inr (List.mem_append_left _ refers)
    · exact visited_or_waiting_visit _ (pending.followed keyword earlier next refers)

/-- Once nothing waits, the visited keywords lead to visited keywords only. -/
theorem not_reached (finished : r.Pending target visited [])
    (held : keyword ∈ visited) : ¬ Relation.ReflTransGen r.Step keyword target := by
  intro reached
  induction reached using Relation.ReflTransGen.head_induction_on with
  | refl => exact finished.missed held
  | head refers _ ih =>
      rcases finished.followed _ held _ refers with known | waiting
      · exact ih known
      · cases waiting

end Pending

/-- The search finds what a visited or waiting keyword leads to. -/
theorem search_of_reached (pending : r.Pending target visited stack)
    (held : keyword ∈ visited ∨ keyword ∈ stack)
    (reached : Relation.ReflTransGen r.Step keyword target) :
    r.search target visited stack = true := by
  fun_induction search r target visited stack with
  | case1 visited =>
      have known := held.resolve_right List.not_mem_nil
      exact absurd reached (pending.not_reached known)
  | case2 => rfl
  | case3 visited current stack other seen ih =>
      exact ih (pending.skip seen) (visited_or_waiting_skip seen held)
  | case4 visited current stack other new ih =>
      exact ih (pending.visit other) (visited_or_waiting_visit _ held)

/-- What the search finds, a waiting keyword leads to. -/
theorem exists_reached_of_search (found : r.search target visited stack = true) :
    ∃ keyword ∈ stack, Relation.ReflTransGen r.Step keyword target := by
  fun_induction search r target visited stack with
  | case1 => cases found
  | case2 => exact ⟨_, List.mem_cons_self, .refl⟩
  | case3 visited current stack other seen ih =>
      obtain ⟨keyword, waiting, reached⟩ := ih found
      exact ⟨keyword, List.mem_cons_of_mem _ waiting, reached⟩
  | case4 visited current stack other new ih =>
      obtain ⟨keyword, waiting, reached⟩ := ih found
      rcases List.mem_append.mp waiting with refers | later
      · exact ⟨current, List.mem_cons_self, .head refers reached⟩
      · exact ⟨keyword, List.mem_cons_of_mem _ later, reached⟩

/-- The search finds exactly the keywords at the end of one or more references. -/
theorem reaches_iff : r.reaches start target = true ↔ Relation.TransGen r.Step start target := by
  rw [Relation.TransGen.head'_iff]
  constructor
  · exact exists_reached_of_search
  · rintro ⟨first, refers, reached⟩
    exact search_of_reached .unvisited (.inr refers) reached

/-- The same keywords with the same targets, each listed in any order and any number of times. -/
structure Rearranges (r s : References) : Prop where
  keywords : (r.map (·.1)).Perm (s.map (·.1))
  targets : ∀ keyword target, target ∈ r.of keyword ↔ target ∈ s.of keyword

/-- The targets of each keyword can be listed in any order. -/
theorem rearranges_map {order : List Text → List Text}
    (keeps : ∀ targets target, target ∈ order targets ↔ target ∈ targets) :
    References.Rearranges (r.map fun e => (e.1, order e.2)) r := by
  constructor
  · simp [Function.comp_def]
  · intro keyword target
    induction r with
    | nil => rfl
    | cons e rest ih =>
        obtain ⟨first, targets⟩ := e
        by_cases same : keyword = first
        · subst same
          simpa [of] using keeps targets target
        · simpa only [of, List.map_cons, List.lookup_cons, beq_false_of_ne same] using ih

/-- In whatever order the search comes to keywords, it finds the same ones. -/
theorem Rearranges.reaches_eq {s : References} (rearranged : r.Rearranges s) :
    r.reaches start target = s.reaches start target := by
  have same : r.Step = s.Step := by
    funext keyword next
    exact propext (rearranged.targets keyword next)
  rw [Bool.eq_iff_iff, reaches_iff, reaches_iff, same]

end References

namespace Library

variable {l : Library} {keyword target : Text}

/-- A template of the keyword has a well-formed wildcard that asks for the target, a keyword of
the library. -/
def Refers (l : Library) (keyword target : Text) : Prop :=
  ∃ pool, l.get? keyword = some pool ∧ ∃ t ∈ pool.items, ∃ body ∈ Wildcard.bodies t,
    ∃ wildcard, Wildcard.parse body = .ok wildcard ∧ wildcard.keyword = target ∧
      target ∈ l.keywords

theorem Refers.mem (h : l.Refers keyword target) : target ∈ l.keywords := by
  obtain ⟨_, -, _, -, _, -, _, -, -, member⟩ := h
  exact member

/-- References are what the templates name of the keywords of the library. -/
theorem refers_iff : l.Refers keyword target ↔ target ∈ l.named keyword ∧ target ∈ l.keywords := by
  rw [mem_named_iff, Refers]
  constructor
  · rintro ⟨pool, known, t, held, body, member, wildcard, parsed, same, inside⟩
    exact ⟨⟨pool, known, t, held, body, member, wildcard, parsed, same⟩, inside⟩
  · rintro ⟨⟨pool, known, t, held, body, member, wildcard, parsed, same⟩, inside⟩
    exact ⟨pool, known, t, held, body, member, wildcard, parsed, same, inside⟩

theorem Sound.refers (sound : l.Sound) {pool : Pool} {t body : Text}
    (known : l.get? keyword = some pool) (held : t ∈ pool.items)
    (member : body ∈ Wildcard.bodies t) :
    ∃ wildcard, Wildcard.parse body = .ok wildcard ∧ l.Refers keyword wildcard.keyword := by
  obtain ⟨wildcard, parsed, target, found⟩ := sound.resolves keyword pool known t held body member
  exact ⟨wildcard, parsed, pool, known, t, held, body, member, wildcard, parsed, rfl,
    mem_keywords_iff.mpr ⟨target, found⟩⟩

theorem target?_eq_some_iff {body : Text} :
    Lint.target? l body = some target ↔ ∃ wildcard, Wildcard.parse body = .ok wildcard ∧
      wildcard.keyword = target ∧ target ∈ l.keywords := by
  unfold Lint.target?
  cases parsed : Wildcard.parse body with
  | error cause => simp
  | ok wildcard =>
      simp only [Option.ite_none_right_eq_some, Option.some.injEq, Except.ok.injEq,
        exists_eq_left', contains_iff, mem_keywords_iff]
      constructor
      · rintro ⟨known, rfl⟩
        exact ⟨rfl, known⟩
      · rintro ⟨rfl, known⟩
        exact ⟨known, rfl⟩

theorem references_of :
    l.references.of keyword = ((l.get? keyword).map fun pool => Text.distinct
      (pool.items.flatMap fun t => (Wildcard.bodies t).filterMap (Lint.target? l))).getD [] := by
  unfold References.of references get?
  induction l.entries with
  | nil => rfl
  | cons e entries ih =>
      obtain ⟨first, pool⟩ := e
      by_cases same : keyword = first
      · simp [same]
      · simp only [List.map_cons, List.lookup_cons, beq_false_of_ne same]
        exact ih

theorem mem_references_of : target ∈ l.references.of keyword ↔ l.Refers keyword target := by
  rw [references_of, Refers]
  cases known : l.get? keyword with
  | none => simp
  | some pool => simp [target?_eq_some_iff, Text.mem_distinct]

/-- The search that a check makes finds exactly what a keyword can come to by references. -/
theorem reaches_references_iff :
    l.references.reaches keyword target = true ↔ Relation.TransGen l.Refers keyword target := by
  have same : l.references.Step = l.Refers := by
    funext keyword next
    exact propext mem_references_of
  rw [References.reaches_iff, same]

/-- The report of a check that follows references in the order in which they are given. -/
def reportAlong (l : Library) (r : References) : Report :=
  (Report.concat (l.entries.map fun e => Lint.checkEntry l e.1 e.2)).append
    { warnings := (l.keywords.filter fun k => r.reaches k k).map Caution.selfExpanding }

/-- The order in which references are followed does not show in the report. -/
theorem reportAlong_eq_lint {r : References} (rearranged : r.Rearranges l.references) :
    l.reportAlong r = lint l := by
  have same : (fun k => r.reaches k k) = fun k => l.references.reaches k k := by
    funext k
    exact rearranged.reaches_eq
  rw [reportAlong, same]
  rfl

/-- The keywords that can be reached from a keyword. -/
def reached (l : Library) (keyword : Text) : Finset Text :=
  l.keywords.toFinset.filter fun k => l.references.reaches keyword k

theorem mem_reached_iff : target ∈ l.reached keyword ↔ Relation.TransGen l.Refers keyword target := by
  rw [reached, Finset.mem_filter, List.mem_toFinset, reaches_references_iff]
  constructor
  · exact And.right
  · intro leads
    obtain ⟨_, -, last⟩ := Relation.TransGen.tail'_iff.mp leads
    exact ⟨last.mem, leads⟩

/-- How many keywords can be reached from a keyword. -/
def height (l : Library) (keyword : Text) : Nat :=
  (l.reached keyword).card

/-- Without a cycle fewer keywords can be reached from the target of a reference. -/
theorem Refers.height_lt (refers : l.Refers keyword target)
    (acyclic : ¬ l.references.reaches target target) : l.height target < l.height keyword := by
  rw [reaches_references_iff] at acyclic
  refine Finset.card_lt_card (Finset.ssubset_iff_of_subset ?_ |>.mpr ⟨target, ?_, ?_⟩)
  · intro v leads
    rw [mem_reached_iff] at leads ⊢
    exact .head refers leads
  · rw [mem_reached_iff]
    exact .single refers
  · rwa [mem_reached_iff]

theorem height_lt_size (member : keyword ∈ l.keywords)
    (acyclic : ¬ l.references.reaches keyword keyword) : l.height keyword < l.size := by
  rw [reaches_references_iff] at acyclic
  calc
    l.height keyword < l.keywords.toFinset.card := by
      refine Finset.card_lt_card (Finset.ssubset_iff_of_subset ?_ |>.mpr ⟨keyword, ?_, ?_⟩)
      · exact Finset.filter_subset _ _
      · rwa [List.mem_toFinset]
      · rwa [mem_reached_iff]
    _ ≤ l.size := by
      have le := l.keywords.toFinset_card_le
      rwa [keywords, List.length_map] at le

end Library

end PromptLoom
