import Mathlib.Data.List.Nodup
import PromptLoom.Proofs.Library

/-! # Writing into a library

What a keyword has after entries are written one after the other: the pool of its last entry, or, if
it has none, the one that it had before. A library is determined by what its keywords have, so the
same entries in another order make the same library as long as no keyword stands twice.
-/

namespace PromptLoom.Library

variable {l m : Library} {keyword target : Text} {pool : Pool} {entries : List (Text × Pool)}

/-- Libraries with the same pools are equal. -/
theorem eq_of_get? (same : ∀ keyword, l.get? keyword = m.get? keyword) : l = m := by
  have members : ∀ e : Text × Pool, e ∈ l.entries ↔ e ∈ m.entries := by
    rintro ⟨keyword, pool⟩
    rw [← get?_eq_some_iff, ← get?_eq_some_iff, same]
  have nodup (l : Library) : l.entries.Nodup := List.Nodup.of_map Prod.fst l.keywords_nodup
  have permuted : l.entries.Perm m.entries :=
    (List.perm_ext_iff_of_nodup (nodup l) (nodup m)).mpr members
  refine ext' (permuted.eq_of_pairwise ?_ l.sorted m.sorted)
  intro d e _ _ less more
  exact absurd (List.lt_trans less more) (List.lt_irrefl _)

theorem lookup_cons {e : Text × Pool} :
    (e :: entries).lookup keyword = if keyword = e.1 then some e.2 else entries.lookup keyword := by
  grind

theorem lookup_put :
    (put keyword pool entries).lookup target =
      if target = keyword then some pool else entries.lookup target := by
  fun_induction put keyword pool entries with
  | case1 => exact lookup_cons
  | case2 e rest less => exact lookup_cons
  | case3 e rest notLess same =>
      rw [lookup_cons, lookup_cons, ← same]
      split <;> rfl
  | case4 e rest notLess other ih =>
      rw [lookup_cons, lookup_cons, ih]
      grind

theorem get?_insert :
    (l.insert keyword pool).get? target =
      if target = keyword then some pool else l.get? target :=
  lookup_put

/-- Where each step writes a pool for the keyword or leaves it alone, the last pool written counts,
and before all of them what the library had. -/
theorem get?_foldl {α : Type} {step : Library → α → Library} {written? : α → Option Pool}
    (writes : ∀ l a, (step l a).get? keyword = (written? a).or (l.get? keyword)) (steps : List α) :
    (steps.foldl step l).get? keyword =
      (steps.reverse.findSome? written?).or (l.get? keyword) := by
  induction steps generalizing l with
  | nil => rfl
  | cons a steps ih =>
      rw [List.foldl_cons, ih, writes, List.reverse_cons, List.findSome?_append, Option.or_assoc]
      cases written : written? a <;> simp [written]

theorem get?_insertAll :
    (l.insertAll entries).get? keyword = (entries.reverse.lookup keyword).or (l.get? keyword) := by
  rw [List.lookup_eq_findSome?]
  refine get?_foldl (fun l e => ?_) entries
  rw [get?_insert]
  by_cases same : keyword = e.1 <;> simp [same]

theorem get?_ofList : (ofList entries).get? keyword = entries.reverse.lookup keyword := by
  rw [ofList, get?_insertAll]
  exact Option.or_none

/-- The entries of a library, in whatever order, make that library again. -/
theorem ofList_of_perm (order : entries.Perm l.entries) : ofList entries = l := by
  have reversed : entries.reverse.Perm l.entries := entries.reverse_perm.trans order
  have distinct : (entries.reverse.map Prod.fst).Nodup :=
    (reversed.map Prod.fst).nodup_iff.mpr l.keywords_nodup
  refine eq_of_get? fun keyword => Option.ext fun pool => ?_
  rw [get?_ofList, lookup_eq_some_iff_mem distinct, reversed.mem_iff, get?_eq_some_iff]

theorem ofList_entries (l : Library) : ofList l.entries = l :=
  ofList_of_perm (.refl _)

/-- Merging a library of entries is writing the entries. -/
theorem merge_ofList : l.merge (ofList entries) = l.insertAll entries := by
  refine eq_of_get? fun keyword => ?_
  have again :
      (ofList entries).entries.reverse.lookup keyword = entries.reverse.lookup keyword := by
    rw [← get?_ofList, ofList_entries, get?_ofList]
  rw [merge, get?_insertAll, get?_insertAll, again]

/-- A merged library overrides what was there. -/
theorem get?_merge : (l.merge m).get? keyword = (m.get? keyword).or (l.get? keyword) := by
  rw [← ofList_entries m, merge_ofList, get?_insertAll, get?_ofList]

/-- Of libraries that are merged one after the other, the last one that has the keyword counts. -/
theorem get?_foldl_merge {libraries : List Library} :
    (libraries.foldl merge l).get? keyword =
      (libraries.reverse.findSome? (·.get? keyword)).or (l.get? keyword) :=
  get?_foldl (fun l m => get?_merge (l := l) (m := m)) libraries

end PromptLoom.Library
