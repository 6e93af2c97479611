import PromptLoom.Library
import PromptLoom.Wildcard.Modifier
import PromptLoom.Wildcard.Scan

/-! # Entries of a library

A keyword stands in one entry only, so its pool is found if and only if it is there.
-/

namespace PromptLoom.Library

variable {l : Library} {keyword : Text} {pool : Pool}

theorem keywords_ascending (l : Library) : l.keywords.Pairwise (· < ·) :=
  List.pairwise_map.mpr l.sorted

theorem keywords_nodup (l : Library) : l.keywords.Nodup := by
  refine l.keywords_ascending.imp ?_
  rintro keyword _ less rfl
  exact List.lt_irrefl _ less

/-- Where no keyword stands twice, its pool is found if and only if it is there. -/
theorem lookup_eq_some_iff_mem {entries : List (Text × Pool)}
    (distinct : (entries.map Prod.fst).Nodup) :
    entries.lookup keyword = some pool ↔ (keyword, pool) ∈ entries := by
  constructor
  · intro known
    obtain ⟨front, back, split, -⟩ := List.lookup_eq_some_iff.mp known
    rw [split]
    exact List.mem_append_right _ List.mem_cons_self
  · intro member
    obtain ⟨front, back, split⟩ := List.append_of_mem member
    refine List.lookup_eq_some_iff.mpr ⟨front, back, split, fun e held => ?_⟩
    rw [split, List.map_append, List.nodup_append] at distinct
    exact bne_iff_ne.mpr
      (distinct.2.2 _ (List.mem_map_of_mem held) _ List.mem_cons_self).symm

theorem get?_eq_some_iff : l.get? keyword = some pool ↔ (keyword, pool) ∈ l.entries :=
  lookup_eq_some_iff_mem l.keywords_nodup

theorem contains_iff : l.contains keyword ↔ ∃ pool, l.get? keyword = some pool := by
  rw [contains, Option.isSome_iff_exists]

theorem mem_keywords_iff : keyword ∈ l.keywords ↔ ∃ pool, l.get? keyword = some pool := by
  simp [keywords, get?_eq_some_iff]

theorem isEmpty_iff : l.isEmpty = true ↔ ∀ keyword, l.get? keyword = none := by
  rw [isEmpty, List.isEmpty_iff]
  constructor
  · intro nothing keyword
    rw [get?, nothing]
    rfl
  · intro unknown
    refine List.eq_nil_iff_forall_not_mem.mpr fun e held => ?_
    have known := get?_eq_some_iff.mpr held
    rw [unknown] at known
    cases known

/-- The keywords that the well-formed wildcards in the templates of a keyword ask for, whether the
library has them or not. -/
def named (l : Library) (keyword : Text) : List Text :=
  ((l.get? keyword).elim [] Pool.items).flatMap fun t =>
    (Wildcard.bodies t).filterMap fun body => (Wildcard.parse body).toOption.map Wildcard.keyword

theorem mem_named_iff {target : Text} :
    target ∈ l.named keyword ↔ ∃ pool, l.get? keyword = some pool ∧ ∃ t ∈ pool.items,
      ∃ body ∈ Wildcard.bodies t, ∃ wildcard, Wildcard.parse body = .ok wildcard ∧
        wildcard.keyword = target := by
  have parsed (body : Text) : (Wildcard.parse body).toOption.map Wildcard.keyword = some target ↔
      ∃ wildcard, Wildcard.parse body = .ok wildcard ∧ wildcard.keyword = target := by
    cases Wildcard.parse body <;> simp [Except.toOption]
  cases known : l.get? keyword with
  | none => simp [named, known]
  | some pool => simp [named, known, parsed]

/-- The templates of the library, each with its keyword, in the order of keywords and templates. -/
def templates (l : Library) : List (Text × Text) :=
  l.entries.flatMap fun e => e.2.items.map fun t => (e.1, t)

theorem mem_templates_iff {t : Text} :
    (keyword, t) ∈ l.templates ↔ ∃ pool, l.get? keyword = some pool ∧ t ∈ pool.items := by
  simp only [templates, List.mem_flatMap, List.mem_map, Prod.mk.injEq, Prod.exists,
    get?_eq_some_iff]
  constructor
  · rintro ⟨_, pool, member, _, held, rfl, rfl⟩
    exact ⟨pool, member, held⟩
  · rintro ⟨pool, member, held⟩
    exact ⟨keyword, pool, member, t, held, rfl, rfl⟩

/-- The bodies of the wildcards in the templates, each with the keyword of its template. -/
def wildcards (l : Library) : List (Text × Text) :=
  l.templates.flatMap fun e => (Wildcard.bodies e.2).map fun body => (e.1, body)

theorem mem_wildcards_iff {body : Text} : (keyword, body) ∈ l.wildcards ↔
    ∃ pool, l.get? keyword = some pool ∧ ∃ t ∈ pool.items, body ∈ Wildcard.bodies t := by
  simp only [wildcards, List.mem_flatMap, List.mem_map, Prod.mk.injEq, Prod.exists]
  constructor
  · rintro ⟨_, t, held, _, member, rfl, rfl⟩
    obtain ⟨pool, known, inside⟩ := mem_templates_iff.mp held
    exact ⟨pool, known, t, inside, member⟩
  · rintro ⟨pool, known, t, inside, member⟩
    exact ⟨keyword, t, mem_templates_iff.mpr ⟨pool, known, inside⟩, body, member, rfl, rfl⟩

/-- The bodies of all wildcards in the templates of the library. -/
def bodies (l : Library) : List Text :=
  l.entries.flatMap fun e => e.2.items.flatMap Wildcard.bodies

theorem bodies_sublist {t : Text} (known : l.get? keyword = some pool) (held : t ∈ pool.items) :
    (Wildcard.bodies t).Sublist l.bodies := by
  have template : (Wildcard.bodies t).Sublist (pool.items.flatMap Wildcard.bodies) :=
    List.sublist_flatten_of_mem (List.mem_map_of_mem held)
  have entry : (pool.items.flatMap Wildcard.bodies).Sublist l.bodies :=
    List.sublist_flatten_of_mem (List.mem_map_of_mem (f := fun e => e.2.items.flatMap
      Wildcard.bodies) (get?_eq_some_iff.mp known))
  exact template.trans entry

end PromptLoom.Library
