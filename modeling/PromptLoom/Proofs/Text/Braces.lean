import Mathlib.Data.List.Chain
import PromptLoom.Proofs.Library
import PromptLoom.Proofs.Text.Joined
import PromptLoom.Proofs.Text.Upper
import PromptLoom.Proofs.Wildcard.Body
import PromptLoom.Proofs.Wildcard.Splice

/-! # Texts in which braces only open

Where each brace follows a question mark, no text starts with one, so nothing in front of such a
text can weld an opening mark with it. Lists of such texts, their pieces between the marks of a
wildcard and their upper case are such texts again. Opening marks may stand in the body of a
wildcard or stay unterminated, and closing marks may stand anywhere.
-/

namespace PromptLoom

namespace Text

/-- Each brace directly follows a question mark. -/
structure BracesOpen (t : Text) : Prop where
  head_ne : t.head? ≠ some '{'
  follow : t.IsChain fun c d => d = '{' → c = '?'

instance : DecidablePred BracesOpen := fun t =>
  decidable_of_iff (t.head? ≠ some '{' ∧ t.IsChain fun c d => d = '{' → c = '?')
    ⟨fun h => ⟨h.1, h.2⟩, fun h => ⟨h.head_ne, h.follow⟩⟩

theorem bracesOpen_of_not_mem {t : Text} (plain : '{' ∉ t) : BracesOpen t where
  head_ne := fun first => plain (List.mem_of_mem_head? first)
  follow := by
    induction t with
    | nil => exact .nil
    | cons c t ih =>
        have behind : '{' ∉ t := fun held => plain (List.mem_cons_of_mem c held)
        refine List.isChain_cons.mpr ⟨?_, ih behind⟩
        rintro _ first rfl
        exact absurd (List.mem_of_mem_head? first) behind

namespace BracesOpen

variable {s t : Text} {c : Char}

theorem not_welds (h : BracesOpen t) (s : Text) : ¬ Welds s t :=
  fun welds => h.head_ne welds.2

theorem append (h : BracesOpen s) (k : BracesOpen t) : BracesOpen (s ++ t) := by
  constructor
  · cases s with
    | nil => exact k.head_ne
    | cons c s => exact h.head_ne
  · refine List.isChain_append.mpr ⟨h.follow, k.follow, ?_⟩
    rintro c - d first rfl
    exact absurd first k.head_ne

theorem left (h : BracesOpen (s ++ t)) : BracesOpen s := by
  refine ⟨fun first => h.head_ne ?_, (List.isChain_append.mp h.follow).1⟩
  rw [List.head?_append, first]
  rfl

/-- Behind any character but a question mark another such text starts. -/
theorem right (h : BracesOpen (s ++ c :: t)) (other : c ≠ '?') : BracesOpen t := by
  have behind := (List.isChain_append.mp h.follow).2.1
  rw [List.isChain_cons] at behind
  exact ⟨fun first => other (behind.1 _ first rfl), behind.2⟩

theorem joinRest {ts : List Text} (each : ∀ t ∈ ts, BracesOpen t) :
    BracesOpen (Text.joinRest ts) := by
  induction ts with
  | nil => exact bracesOpen_of_not_mem List.not_mem_nil
  | cons t ts ih =>
      rw [joinRest_cons]
      have link : BracesOpen (link ts.length) := bracesOpen_of_not_mem (not_brace_mem_link _)
      have others := ih fun u held => each u (List.mem_cons_of_mem t held)
      exact (link.append (each t List.mem_cons_self)).append others

theorem joinList {ts : List Text} (each : ∀ t ∈ ts, BracesOpen t) :
    BracesOpen (Text.joinList ts) := by
  cases ts with
  | nil => exact bracesOpen_of_not_mem List.not_mem_nil
  | cons t ts =>
      have others := joinRest fun u held => each u (List.mem_cons_of_mem t held)
      exact (each t List.mem_cons_self).append others

theorem mapChar {m : CaseMapping} (settles : m.Settles) (c : Char) :
    (m.mapChar c).IsChain fun c d => d = '{' → c = '?' := by
  by_cases brace : c = '{'
  · rw [brace, settles.brace_fixed]
    exact .singleton _
  · refine (bracesOpen_of_not_mem fun held => brace ?_).follow
    exact (settles.brace.of_mem_mapChar held).symm

/-- A mapping that leaves the opening marks where they are puts no brace behind another
character. -/
theorem map {m : CaseMapping} (settles : m.Settles) (h : BracesOpen t) : BracesOpen (m.map t) := by
  refine ⟨fun first => h.head_ne (settles.head_of_map first), ?_⟩
  have follow := h.follow
  clear h
  induction t with
  | nil => exact .nil
  | cons c t ih =>
      rw [List.isChain_cons] at follow
      rw [CaseMapping.map_cons, List.isChain_append]
      refine ⟨mapChar settles c, ih follow.2, ?_⟩
      rintro d last _ first rfl
      have question := follow.1 _ (settles.head_of_map first) rfl
      rw [question, settles.question_fixed] at last
      simpa using last.symm

theorem upper (h : BracesOpen t) : BracesOpen (Text.upper t) :=
  h.map upperMapping_settles

variable {f : Wildcard.Found}

theorem gap (h : BracesOpen t) (leftmost : Wildcard.find? t = some f) : BracesOpen f.gap := by
  rw [Wildcard.eq_whole_of_find? leftmost, Wildcard.Found.whole, List.append_assoc] at h
  exact h.left

theorem body (h : BracesOpen t) (leftmost : Wildcard.find? t = some f) : BracesOpen f.body := by
  have whole : t = ((f.gap ++ ['?']) ++ '{' :: f.body) ++ closing :: f.rest := by
    rw [Wildcard.eq_whole_of_find? leftmost]
    simp [Wildcard.Found.whole, Wildcard.Found.written, opening]
  rw [whole] at h
  exact h.left.right (by decide)

theorem rest (h : BracesOpen t) (leftmost : Wildcard.find? t = some f) : BracesOpen f.rest := by
  have whole : t = (f.gap ++ opening ++ f.body) ++ closing :: f.rest := by
    rw [Wildcard.eq_whole_of_find? leftmost]
    simp [Wildcard.Found.whole, Wildcard.Found.written]
  rw [whole] at h
  exact h.right (by decide)

theorem keywordOf (h : BracesOpen t) : BracesOpen (Wildcard.keywordOf t) := by
  unfold Wildcard.keywordOf
  split
  · exact h
  · rename_i keyword modifier cutting
    rw [eq_append_of_cut cutting] at h
    exact h.left

end BracesOpen

end Text

/-- In all templates of the library braces only open. -/
def Library.BracesOpen (l : Library) : Prop :=
  ∀ e ∈ l.entries, ∀ t ∈ e.2.items, Text.BracesOpen t

instance : DecidablePred Library.BracesOpen :=
  fun l => inferInstanceAs (Decidable (∀ e ∈ l.entries, ∀ t ∈ e.2.items, Text.BracesOpen t))

end PromptLoom
