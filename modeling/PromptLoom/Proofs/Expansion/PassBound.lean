import PromptLoom.Proofs.Expansion.Termination
import PromptLoom.Proofs.Text.Braces

/-! # How many passes a node makes

Over a library in whose templates braces only open, everything that a node splices together is a
text of this kind, so no pass can weld an opening mark. Each pass then uses up a closing mark behind
the first opening mark, also where it brings the same wildcard back, and the closing marks of the
drawn text bound the passes of its node.
-/

namespace PromptLoom

open Expansion

namespace Expander

variable {x : Expander} {d e : Draft} {request : Request} {s : Random.Source} {p : Splice}
  {o : Outcome Text}

theorem Starts.bracesOpen (braces : x.library.BracesOpen) {depth : Nat}
    (start : x.Starts depth request s d) : d.text.BracesOpen := by
  obtain ⟨pool, picks, known, held, text⟩ := start.exists_picks
  rw [text]
  refine Text.BracesOpen.joinList fun t chosen => ?_
  exact braces _ (Library.get?_eq_some_iff.mp known) t (held t chosen)

/-- The replacement is cut out of the draft, or it is what a node one level deeper leaves. -/
theorem Passes.bracesOpen_value (pass : x.Passes d p) (opens : d.text.BracesOpen)
    (nested : ∀ request s inner q, d.Asks request s → x.Starts (d.depth + 1) request s inner →
      x.Finishes inner q → q.value.BracesOpen) : p.outcome.value.BracesOpen := by
  rcases pass.value_cases with value | value | ⟨request, s, inner, q, asks, start, finishes, value⟩
  · rw [value]
    exact (opens.body pass.1).keywordOf.upper
  · rw [value]
    exact Text.bracesOpen_of_not_mem List.not_mem_nil
  · rw [value]
    exact nested request s inner q asks start finishes

theorem Passes.bracesOpen (pass : x.Passes d p) (opens : d.text.BracesOpen)
    (value : p.outcome.value.BracesOpen) : (d.after p).text.BracesOpen :=
  ((opens.gap pass.1).append value).append (opens.rest pass.1)

theorem Finishes.bracesOpen (braces : x.library.BracesOpen) (h : x.Finishes d o)
    (opens : d.text.BracesOpen) : o.value.BracesOpen := by
  induction h using Finishes.nested_induction with
  | done d finished => exact opens
  | pass d p o pass rest nested ih =>
      refine ih (pass.bracesOpen opens (pass.bracesOpen_value opens ?_))
      intro request s inner q asks start finishes
      exact nested request s inner q asks start finishes (start.bracesOpen braces)

/-- A pass over a text in which braces only open leaves such a text and welds nothing. -/
theorem Passes.calm (braces : x.library.BracesOpen) (pass : x.Passes d p)
    (opens : d.text.BracesOpen) : (d.after p).text.BracesOpen ∧ ¬ p.Welds := by
  have value : p.outcome.value.BracesOpen := pass.bracesOpen_value opens
    fun _ _ _ _ _ start finishes => finishes.bracesOpen braces (start.bracesOpen braces)
  have rest := opens.rest pass.1
  refine ⟨pass.bracesOpen opens value, fun welds => ?_⟩
  rcases welds with left | right
  · exact (value.append rest).not_welds _ left
  · exact rest.not_welds _ right

theorem bracesOpen_of_reaches (braces : x.library.BracesOpen) (opens : d.text.BracesOpen)
    (reached : Relation.ReflTransGen x.Leads d e) : e.text.BracesOpen := by
  induction reached with
  | refl => exact opens
  | tail _ last ih =>
      cases last with
      | pass pass => exact (pass.calm braces ih).1
      | nest asks start => exact start.bracesOpen braces

theorem bracesOpen_of_comesTo (braces : x.library.BracesOpen) (reached : x.ComesTo request s d) :
    d.text.BracesOpen := by
  obtain ⟨first, start, reached⟩ := reached
  exact bracesOpen_of_reaches braces (start.bracesOpen braces) reached

theorem not_weldsForever_of_bracesOpen (braces : x.library.BracesOpen)
    (opens : d.text.BracesOpen) : ¬ x.WeldsForever d := by
  rintro ⟨trail, start, steps, welds⟩
  have each : ∀ n, (trail n).text.BracesOpen := by
    intro n
    induction n with
    | zero => exact start.symm ▸ opens
    | succ n ih =>
        obtain ⟨p, pass, next⟩ := steps n
        exact next ▸ (pass.calm braces ih).1
  obtain ⟨m, -, p, pass, weld⟩ := welds 0
  exact (pass.calm braces (each m)).2 weld

theorem exists_finishes_of_bracesOpen (braces : x.library.BracesOpen)
    (opens : d.text.BracesOpen) : ∃ o, x.Finishes d o :=
  exists_finishes fun _ reached =>
    not_weldsForever_of_bracesOpen braces (bracesOpen_of_reaches braces opens reached)

/-- As many passes are enough for a text as it has closing marks ahead. -/
theorem Finishes.within_closingsAhead (braces : x.library.BracesOpen) (h : x.Finishes d o)
    (opens : d.text.BracesOpen) {passes : Nat}
    (enough : Wildcard.closingsAhead d.text ≤ passes) :
    ∃ nested, substitute (x.expandOrFallback nested (d.depth + 1)) passes d.text d.source =
      some o := by
  induction h generalizing passes with
  | done finished => exact ⟨0, by rw [substitute_of_finished finished, Run.pure_apply]⟩
  | pass first _ ih =>
      obtain ⟨opened, calm⟩ := first.calm braces opens
      have less := Nat.lt_of_lt_of_le (first.closingsAhead_lt calm) enough
      obtain ⟨passes, rfl⟩ := Nat.exists_eq_succ_of_ne_zero (Nat.ne_zero_of_lt less)
      obtain ⟨nested, follows⟩ := ih opened (Nat.le_of_lt_succ less)
      exact first.exists_substitute follows

/-- At every node of a run each pass uses up closing marks that stand ahead, so the loop over a
drawn text comes to its end within as many passes as there are such marks, and every request is
answered. -/
theorem passes_le_closingsAhead (x : Expander) (braces : x.library.BracesOpen) (request : Request)
    (s : Random.Source) :
    (∀ d, x.ComesTo request s d →
      (∀ p, x.Passes d p →
        Wildcard.closingsAhead (d.after p).text < Wildcard.closingsAhead d.text) ∧
      ∃ nested o, substitute (x.expandOrFallback nested (d.depth + 1))
        (Wildcard.closingsAhead d.text) d.text d.source = some o) ∧
      (∃ passes o, x.tryGenerate passes request s = some o) ∧
      ∃ passes o, x.generate passes request s = some o := by
  have answered : ∃ passes o, x.tryGenerate passes request s = some o :=
    exists_tryGenerate_iff.mpr fun _ start =>
      exists_finishes_of_bracesOpen braces (start.bracesOpen braces)
  refine ⟨fun d reached => ?_, answered, exists_generate_iff.mpr answered⟩
  have opens := bracesOpen_of_comesTo braces reached
  refine ⟨fun p pass => pass.closingsAhead_lt (pass.calm braces opens).2, ?_⟩
  obtain ⟨o, finishes⟩ := exists_finishes_of_bracesOpen braces opens
  obtain ⟨nested, ran⟩ := finishes.within_closingsAhead braces opens (Nat.le_refl _)
  exact ⟨nested, o, ran⟩

/-- Its first wildcard comes back as long as a closing mark follows, and the next one has an opening
mark in its body. -/
def coiled : Text :=
  "?{k}\x7d\x7d ?\x7ba?\x7bb|x\x7d \x7d ?\x7bc".toList

def coil : Library :=
  .ofList [("loop".toList, .scalar coiled), ("k".toList, .scalar "?\x7bk".toList)]

theorem coil_within_five :
    let x : Expander := ⟨coil, {}⟩
    let request : Request := { keyword := "loop".toList }
    coil.BracesOpen ∧ ∃ d, x.ComesTo request (.ofWords []) d ∧
      Wildcard.closingsAhead d.text = 5 ∧
      (∃ nested o, substitute (x.expandOrFallback nested (d.depth + 1)) 5 d.text d.source =
        some o) ∧
      ∃ passes o, x.generate passes request (.ofWords []) = some o := by
  intro x request
  have braces : coil.BracesOpen := by decide
  have five : Wildcard.closingsAhead coiled = 5 := by decide
  obtain ⟨rest, drawn⟩ := Pool.select_scalar_one coiled false (.ofWords [])
  have reached : x.ComesTo request (.ofWords []) ⟨"loop".toList, 0, coiled, rest⟩ :=
    ⟨_, ⟨by decide, .scalar coiled, _, rest, rfl, drawn, rfl⟩, .refl⟩
  obtain ⟨bounded, -, answered⟩ := passes_le_closingsAhead x braces request (.ofWords [])
  obtain ⟨-, ends⟩ := bounded _ reached
  exact ⟨braces, _, reached, five, five ▸ ends, answered⟩

end Expander

end PromptLoom
