/-! # Texts

A text is a list of characters: scanning it is recursion on the list, and the pieces of a scan
concatenate back to it. Positions and lengths are counted in bytes of the UTF-8 form.
-/

namespace PromptLoom

/-- Templates, keywords and generated prompts. -/
abbrev Text := List Char

namespace Text

/-- The length of the UTF-8 form. -/
def byteLength : Text → Nat
  | [] => 0
  | c :: rest => c.utf8Size + byteLength rest

@[simp]
theorem byteLength_nil : byteLength [] = 0 := rfl

@[simp]
theorem byteLength_cons (c : Char) (t : Text) :
    byteLength (c :: t) = c.utf8Size + byteLength t := rfl

@[simp]
theorem byteLength_append (s t : Text) : byteLength (s ++ t) = byteLength s + byteLength t := by
  induction s with
  | nil => simp
  | cons c s ih => simp [ih, Nat.add_assoc]

/-- Cut at the first `mark`, which goes into neither part; `none` when the text has no `mark`. -/
def cut (mark : Char) : Text → Option (Text × Text)
  | [] => none
  | c :: rest =>
    if c = mark then some ([], rest)
    else (cut mark rest).map fun parts => (c :: parts.1, parts.2)

theorem eq_append_of_cut {mark : Char} {t before after : Text}
    (h : cut mark t = some (before, after)) : t = before ++ mark :: after := by
  induction t generalizing before with
  | nil => simp [cut] at h
  | cons c rest ih =>
    unfold cut at h
    split at h
    · simp_all
    · obtain ⟨parts, hp, he⟩ := Option.map_eq_some_iff.1 h
      simp only [Prod.mk.injEq] at he
      obtain ⟨rfl, rfl⟩ := he
      simp [ih hp]

/-- The part before a cut holds no mark. -/
theorem not_mem_of_cut {mark : Char} {t before after : Text}
    (h : cut mark t = some (before, after)) : mark ∉ before := by
  induction t generalizing before with
  | nil => simp [cut] at h
  | cons c rest ih =>
    unfold cut at h
    split at h
    · simp_all
    · obtain ⟨parts, hp, he⟩ := Option.map_eq_some_iff.1 h
      simp only [Prod.mk.injEq] at he
      obtain ⟨rfl, rfl⟩ := he
      rename_i hc
      simpa [Ne.symm hc] using ih hp

theorem cut_eq_none_iff {mark : Char} {t : Text} : cut mark t = none ↔ mark ∉ t := by
  induction t with
  | nil => simp [cut]
  | cons c rest ih =>
    unfold cut
    split
    · simp_all
    · rename_i hc
      simp [ih, Ne.symm hc]

/-- The values of a list, each once, in the order of their first occurrence. -/
def distinct {α : Type} [DecidableEq α] : List α → List α
  | [] => []
  | x :: xs => x :: (distinct xs).filter (· ≠ x)

theorem mem_distinct {α : Type} [DecidableEq α] {a : α} {xs : List α} :
    a ∈ distinct xs ↔ a ∈ xs := by
  induction xs with
  | nil => simp [distinct]
  | cons x xs ih => by_cases h : a = x <;> simp [distinct, ih, h]

/-- The items with `separator` between each two. -/
def joined (separator : Text) : List Text → Text
  | [] => []
  | [t] => t
  | t :: rest => t ++ separator ++ joined separator rest

/-- The lines as one text, each with its end. -/
def ofLines (lines : List Text) : Text :=
  lines.flatMap fun line => line ++ ['\n']

/-- Whether a text holds `part` somewhere. -/
def holds (part : Text) : Text → Bool
  | [] => part.isEmpty
  | c :: rest => part.isPrefixOf (c :: rest) || holds part rest

end Text

end PromptLoom
