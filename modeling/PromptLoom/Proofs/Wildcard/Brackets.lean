import PromptLoom.Proofs.Library
import PromptLoom.Proofs.Wildcard.Splice

/-! # Well-bracketed templates

In a well-bracketed text each brace belongs to an opening mark that is closed before
the next brace. A scan cuts such a text so that no piece holds a brace.
-/

namespace PromptLoom

namespace Text

/-- A closing mark comes before any brace. -/
def ClosesFirst (t : Text) : Prop :=
  ∃ body rest, t = body ++ closing :: rest ∧ '{' ∉ body

/-- Each brace directly follows a question mark, and a closing mark follows it before any
further brace. -/
def WellBracketed (t : Text) : Prop :=
  ∀ before after, t = before ++ '{' :: after → before.getLast? = some '?' ∧ ClosesFirst after

theorem closesFirst_cons {c : Char} {t : Text} :
    ClosesFirst (c :: t) ↔ c = closing ∨ c ≠ '{' ∧ ClosesFirst t := by
  constructor
  · rintro ⟨body, rest, same, plain⟩
    cases body with
    | nil => exact .inl (List.cons.inj same).1
    | cons d body =>
        obtain ⟨rfl, rfl⟩ := List.cons.inj same
        simp only [List.mem_cons, not_or] at plain
        exact .inr ⟨Ne.symm plain.1, body, rest, rfl, plain.2⟩
  · rintro (rfl | ⟨other, body, rest, rfl, plain⟩)
    · exact ⟨[], t, rfl, List.not_mem_nil⟩
    · exact ⟨c :: body, rest, rfl, by simp [Ne.symm other, plain]⟩

instance decidableClosesFirst : DecidablePred ClosesFirst
  | [] => isFalse fun ⟨_, _, same, _⟩ => by simp at same
  | c :: t =>
    have := decidableClosesFirst t
    decidable_of_iff (c = closing ∨ c ≠ '{' ∧ ClosesFirst t) closesFirst_cons.symm

/-- Decides whether a text that follows the character `last` is well bracketed there. -/
def bracketed (last : Option Char) : Text → Bool
  | [] => true
  | c :: rest => (c ≠ '{' || (last = some '?' && ClosesFirst rest)) && bracketed (some c) rest

theorem bracketed_iff {last : Option Char} {t : Text} :
    bracketed last t ↔ ∀ before after, t = before ++ '{' :: after →
      before.getLast?.or last = some '?' ∧ ClosesFirst after := by
  induction t generalizing last with
  | nil => simp [bracketed]
  | cons c t ih =>
      simp only [bracketed, Bool.and_eq_true, ih]
      constructor
      · rintro ⟨here, later⟩ before after split
        cases before with
        | nil =>
            obtain ⟨rfl, rfl⟩ := List.cons.inj split
            simpa using here
        | cons d before =>
            obtain ⟨rfl, rfl⟩ := List.cons.inj split
            simpa [List.getLast?_cons] using later before after rfl
      · intro h
        refine ⟨?_, fun before after split => ?_⟩
        · by_cases brace : c = '{'
          · simpa [brace] using h [] t (by simp [brace])
          · simp [brace]
        · simpa [List.getLast?_cons] using h (c :: before) after (by simp [split])

instance : DecidablePred WellBracketed :=
  fun t => decidable_of_iff (bracketed none t) (by simp [bracketed_iff, WellBracketed])

example : WellBracketed "A ?{victim} was \x7d found with ?{clue|2}.".toList := by decide

/-- An opening mark anywhere is seen by a cut. -/
theorem cutOpening_ne_none (before after : Text) :
    cutOpening (before ++ opening ++ after) ≠ none := by
  cases found : cutOpening before with
  | none =>
      rw [cutOpening_opening found]
      simp
  | some parts =>
      rw [List.append_assoc, cutOpening_append_of_some _ found]
      simp

namespace WellBracketed

variable {t : Text}

theorem brace_split (h : WellBracketed t) {before after : Text}
    (split : t = before ++ '{' :: after) :
    ∃ front, before = front ++ ['?'] ∧ t = front ++ opening ++ after := by
  obtain ⟨front, rfl⟩ := List.getLast?_eq_some_iff.mp (h before after split).1
  exact ⟨front, rfl, by simp [split, opening]⟩

theorem head_ne (h : WellBracketed t) : t.head? ≠ some '{' := by
  intro first
  obtain ⟨rest, rfl⟩ := List.head?_eq_some_iff.mp first
  simpa using (h [] rest rfl).1

/-- A well-bracketed text without wildcard has no brace. -/
theorem not_mem_of_finished (h : WellBracketed t) (finished : Wildcard.find? t = none) :
    '{' ∉ t := by
  intro held
  obtain ⟨before, after, split, plain⟩ := List.eq_append_cons_of_mem held
  obtain ⟨front, rfl, same⟩ := h.brace_split split
  have unopened : cutOpening front = none :=
    cutOpening_eq_none_of_not_mem fun member => plain (List.mem_append_left _ member)
  have opened : cutOpening t = some (front, after) := by rw [same, cutOpening_opening unopened]
  obtain ⟨body, rest, rfl, -⟩ := (h _ _ split).2
  exact Wildcard.find?_eq_none_iff.mp finished _ _ opened (by simp)

variable {f : Wildcard.Found}

theorem not_mem_gap (h : WellBracketed t) (leftmost : Wildcard.find? t = some f) :
    '{' ∉ f.gap := by
  intro held
  obtain ⟨before, after, split, -⟩ := List.eq_append_cons_of_mem held
  have whole : t = before ++ '{' :: (after ++ (f.written ++ f.rest)) := by
    rw [Wildcard.eq_whole_of_find? leftmost, Wildcard.Found.whole, split]
    simp
  obtain ⟨front, rfl, -⟩ := h.brace_split whole
  have opened := cutOpening_ne_none front after
  rw [show front ++ opening ++ after = f.gap by simp [split, opening]] at opened
  exact opened (Wildcard.gap_unopened leftmost)

theorem not_mem_body (h : WellBracketed t) (leftmost : Wildcard.find? t = some f) :
    '{' ∉ f.body := by
  have whole : t = (f.gap ++ ['?']) ++ '{' :: (f.body ++ closing :: f.rest) := by
    rw [Wildcard.eq_whole_of_find? leftmost]
    simp [Wildcard.Found.whole, Wildcard.Found.written, opening]
  obtain ⟨body, rest, same, plain⟩ := (h _ _ whole).2
  have unclosed := Wildcard.body_unclosed leftmost
  -- The first closing mark ends both splits, so the body is a part of the other one.
  rcases List.append_eq_append_iff.mp same with ⟨more, rfl, _⟩ | ⟨more, longer, tail⟩
  · exact fun held => plain (List.mem_append_left _ held)
  · cases more with
    | nil => simpa [longer] using plain
    | cons c more =>
        obtain ⟨rfl, -⟩ := List.cons.inj tail
        exact absurd (by simp [longer]) unclosed

theorem rest (h : WellBracketed t) (leftmost : Wildcard.find? t = some f) :
    WellBracketed f.rest := by
  intro before after split
  have whole : t = (f.gap ++ opening ++ f.body ++ closing :: before) ++ '{' :: after := by
    rw [Wildcard.eq_whole_of_find? leftmost]
    simp [Wildcard.Found.whole, Wildcard.Found.written, split]
  obtain ⟨last, closes⟩ := h _ _ whole
  refine ⟨?_, closes⟩
  cases found : before.getLast? with
  | none =>
      obtain rfl := List.getLast?_eq_none_iff.mp found
      simp [closing] at last
  | some c => simpa [List.getLast?_append, List.getLast?_cons, found] using last

end WellBracketed

end Text

/-- All templates of the library are well bracketed. -/
def Library.WellBracketed (l : Library) : Prop :=
  ∀ e ∈ l.entries, ∀ t ∈ e.2.items, Text.WellBracketed t

instance : DecidablePred Library.WellBracketed :=
  fun l => inferInstanceAs (Decidable (∀ e ∈ l.entries, ∀ t ∈ e.2.items, Text.WellBracketed t))

theorem Library.WellBracketed.of_get? {l : Library} {keyword t : Text} {pool : Pool}
    (bracketed : l.WellBracketed) (known : l.get? keyword = some pool) (held : t ∈ pool.items) :
    Text.WellBracketed t :=
  bracketed _ (get?_eq_some_iff.mp known) t held

end PromptLoom
