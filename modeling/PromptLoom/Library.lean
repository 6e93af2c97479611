import PromptLoom.Pool

/-! # Template libraries

A library gives keywords their pools. Its entries are sorted by keyword, in the order of code
points, and no keyword stands twice, so that two libraries with the same pools are equal.
-/

namespace PromptLoom

/-- Pools by keyword. -/
structure Library where
  entries : List (Text × Pool)
  sorted : entries.Pairwise (·.1 < ·.1)
  deriving DecidableEq

namespace Library

theorem ext' {l m : Library} (h : l.entries = m.entries) : l = m := by
  cases l; cases m; simp_all

/-- The library without keywords. -/
def empty : Library := ⟨[], .nil⟩

instance : Inhabited Library := ⟨empty⟩

/-- Write a pool into sorted entries, in place of the pool that the keyword had. -/
def put (keyword : Text) (pool : Pool) : List (Text × Pool) → List (Text × Pool)
  | [] => [(keyword, pool)]
  | e :: rest =>
    if keyword < e.1 then (keyword, pool) :: e :: rest
    else if keyword = e.1 then (keyword, pool) :: rest
    else e :: put keyword pool rest

theorem mem_put {keyword : Text} {pool : Pool} {entries : List (Text × Pool)} {e : Text × Pool}
    (h : e ∈ put keyword pool entries) : e = (keyword, pool) ∨ e ∈ entries := by
  fun_induction put keyword pool entries with
  | case1 => simpa using h
  | case2 => simpa using h
  | case3 => grind
  | case4 f rest _ _ ih => grind

theorem put_sorted {keyword : Text} {pool : Pool} {entries : List (Text × Pool)}
    (h : entries.Pairwise (·.1 < ·.1)) : (put keyword pool entries).Pairwise (·.1 < ·.1) := by
  fun_induction put keyword pool entries with
  | case1 => simp
  | case2 e rest hlt =>
    refine List.pairwise_cons.2 ⟨fun f hf => ?_, h⟩
    rcases List.mem_cons.1 hf with rfl | hf
    · exact hlt
    · exact List.lt_trans hlt ((List.pairwise_cons.1 h).1 f hf)
  | case3 e rest _ heq =>
    obtain ⟨hhead, htail⟩ := List.pairwise_cons.1 h
    exact List.pairwise_cons.2 ⟨fun f hf => heq ▸ hhead f hf, htail⟩
  | case4 e rest hnlt hne ih =>
    obtain ⟨hhead, htail⟩ := List.pairwise_cons.1 h
    refine List.pairwise_cons.2 ⟨fun f hf => ?_, ih htail⟩
    rcases mem_put hf with rfl | hf
    · exact Decidable.byContradiction fun h =>
        hne (List.le_antisymm (List.not_lt.1 h) (List.not_lt.1 hnlt))
    · exact hhead f hf

/-- Give a keyword a pool, in place of the one that it had. -/
def insert (l : Library) (keyword : Text) (pool : Pool) : Library :=
  ⟨put keyword pool l.entries, put_sorted l.sorted⟩

/-- Write entries one after the other: the last one of a keyword stays. -/
def insertAll (l : Library) (entries : List (Text × Pool)) : Library :=
  entries.foldl (fun l e => l.insert e.1 e.2) l

/-- The library of the given entries, of which the last one of a keyword counts. -/
def ofList (entries : List (Text × Pool)) : Library :=
  empty.insertAll entries

/-- The entries of both libraries; where both have a keyword, the pool of `other`. -/
def merge (l other : Library) : Library :=
  l.insertAll other.entries

/-- The pool of a keyword. -/
def get? (l : Library) (keyword : Text) : Option Pool :=
  l.entries.lookup keyword

def contains (l : Library) (keyword : Text) : Bool :=
  (l.get? keyword).isSome

/-- All keywords, in ascending order. -/
def keywords (l : Library) : List Text :=
  l.entries.map (·.1)

/-- The number of keywords. -/
def size (l : Library) : Nat :=
  l.entries.length

def isEmpty (l : Library) : Bool :=
  l.entries.isEmpty

end Library

end PromptLoom
