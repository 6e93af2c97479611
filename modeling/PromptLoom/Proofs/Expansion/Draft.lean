import Mathlib.Logic.Relation
import PromptLoom.Proofs.Expansion.Budget
import PromptLoom.Proofs.Pool.Selection
import PromptLoom.Proofs.Wildcard.Body
import PromptLoom.Proofs.Wildcard.Splice

/-! # Drafts

A draft is the text of a node between two passes. A pass replaces the leftmost
wildcard of the draft, and a wildcard that asks for a keyword starts a draft one
level deeper. Budgets do not occur here: a pass is there if some budget lets its
replacement end.
-/

namespace PromptLoom

open Expansion

/-- The text that a node works on and the source that its next pass draws from. -/
structure Draft where
  keyword : Text
  depth : Nat
  text : Text
  source : Random.Source

/-- A replacement of the leftmost wildcard. -/
@[ext]
structure Splice where
  found : Wildcard.Found
  outcome : Outcome Text

namespace Splice

def text (p : Splice) : Text :=
  p.found.gap ++ p.outcome.value ++ p.found.rest

/-- At a border of the replacement an opening mark comes about. -/
def Welds (p : Splice) : Prop :=
  Text.Welds p.found.gap (p.outcome.value ++ p.found.rest) ∨
    Text.Welds p.outcome.value p.found.rest

end Splice

namespace Draft

/-- The draft after a pass. -/
def after (d : Draft) (p : Splice) : Draft :=
  { d with text := p.text, source := p.outcome.source }

/-- The leftmost wildcard of the draft asks for `request`; `rest` is the source after
the draw of its count. -/
def Asks (d : Draft) (request : Request) (rest : Random.Source) : Prop :=
  ∃ found wildcard, Wildcard.find? d.text = some found ∧
    Wildcard.parse found.body = .ok wildcard ∧
    wildcard.amount d.source = (request.amount, rest) ∧ request.amount ≠ 0 ∧
    request.keyword = wildcard.keyword ∧ request.repeats = wildcard.repeats

end Draft

namespace Expander

/-- The request makes a node at `depth` draw a text, and the draft is that text. -/
def Starts (x : Expander) (depth : Nat) (request : Request) (s : Random.Source) (d : Draft) :
    Prop :=
  depth ≤ x.limits.maxDepth.toNat ∧ ∃ pool text rest,
    x.library.get? request.keyword = some pool ∧
    pool.select (x.limits.clamp request.amount) request.repeats s = (some text, rest) ∧
    d = ⟨request.keyword, depth, text, rest⟩

/-- The pass replaces the leftmost wildcard of the draft. -/
def Passes (x : Expander) (d : Draft) (p : Splice) : Prop :=
  Wildcard.find? d.text = some p.found ∧ ∃ passes,
    replacement (x.expandOrFallback passes (d.depth + 1)) p.found.body d.source = some p.outcome

/-- A run that works on the first draft works on the second one next. -/
inductive Leads (x : Expander) : Draft → Draft → Prop where
  /-- The same node after a pass. -/
  | pass {d : Draft} {p : Splice} (h : x.Passes d p) : Leads x d (d.after p)
  /-- The node of the leftmost wildcard. -/
  | nest {d inner : Draft} {request : Request} {s : Random.Source} (h : d.Asks request s)
    (start : x.Starts (d.depth + 1) request s inner) : Leads x d inner

/-- The run of a root request works on the draft at some time. -/
def ComesTo (x : Expander) (request : Request) (s : Random.Source) (d : Draft) : Prop :=
  ∃ first, x.Starts 0 request s first ∧ Relation.ReflTransGen x.Leads first d

/-- The passes from the draft on come to an end with the outcome. -/
inductive Finishes (x : Expander) : Draft → Outcome Text → Prop where
  | done {d : Draft} (finished : Wildcard.find? d.text = none) :
    Finishes x d ⟨d.text, d.source, []⟩
  | pass {d : Draft} {p : Splice} {o : Outcome Text} (h : x.Passes d p)
    (rest : Finishes x (d.after p) o) :
    Finishes x d ⟨o.value, o.source, p.outcome.events ++ o.events⟩

end Expander

theorem Draft.Asks.replacement {d : Draft} {request : Request} {rest : Random.Source}
    (asks : d.Asks request rest) {found : Wildcard.Found}
    (leftmost : Wildcard.find? d.text = some found) (nested : Request → Run Text) :
    Expansion.replacement nested found.body d.source = nested request rest := by
  obtain ⟨_, wildcard, same, parsed, drawn, positive, keyword, repeats⟩ := asks
  obtain rfl := Option.some.inj (leftmost.symm.trans same)
  rw [replacement_of_drawn parsed drawn positive, ← keyword, ← repeats]

namespace Expander

variable {x : Expander} {d : Draft}

theorem exists_starts {depth : Nat} {request : Request} {pool : Pool}
    (shallow : depth ≤ x.limits.maxDepth.toNat)
    (known : x.library.get? request.keyword = some pool) (nonempty : pool.isEmpty = false)
    (s : Random.Source) : ∃ d, x.Starts depth request s d := by
  obtain ⟨picks, rest, ran, -, -⟩ := Pool.picks_spec request.repeats
    (Nat.ne_zero_of_lt (x.limits.clamp_pos request.amount)) nonempty s
  exact ⟨⟨request.keyword, depth, Text.joinList picks, rest⟩, shallow, pool, _, rest, known,
    by simp [Pool.select_apply, ran], rfl⟩

theorem Starts.eq {depth : Nat} {request : Request} {s : Random.Source} {e : Draft}
    (start : x.Starts depth request s d) (again : x.Starts depth request s e) : d = e := by
  obtain ⟨-, pool, text, rest, known, drawn, rfl⟩ := start
  obtain ⟨-, other, other', rest', found, selected, rfl⟩ := again
  obtain rfl : pool = other := Option.some.inj (known.symm.trans found)
  cases drawn.symm.trans selected
  rfl

theorem Starts.exists_picks {depth : Nat} {request : Request} {s : Random.Source}
    (start : x.Starts depth request s d) :
    ∃ pool picks, x.library.get? d.keyword = some pool ∧ (∀ t ∈ picks, t ∈ pool.items) ∧
      d.text = Text.joinList picks := by
  obtain ⟨-, pool, text, rest, known, drawn, rfl⟩ := start
  rw [Pool.select_apply, Prod.mk.injEq, Option.map_eq_some_iff] at drawn
  obtain ⟨⟨picks, ran, joined⟩, -⟩ := drawn
  exact ⟨pool, picks, known, (Pool.of_picks ran).2.1, joined.symm⟩

theorem expand_of_starts {depth : Nat} {request : Request} {s : Random.Source}
    (start : x.Starts depth request s d) (passes : Nat) :
    x.expand passes depth request s =
      (x.finish passes d.depth d.text d.source).map fun o =>
        ⟨.ok o.value, o.source, x.limits.clampEvents request.amount ++ o.events⟩ := by
  obtain ⟨shallow, pool, text, rest, known, drawn, rfl⟩ := start
  rw [expand_of_shallow shallow]
  simp only [known, bind, Run.andThen, Limits.clampAmount_apply, Run.ofDraw_apply, drawn]
  cases x.finish passes depth text rest <;> simp

theorem expandOrFallback_of_starts {depth : Nat} {request : Request} {s : Random.Source}
    (start : x.Starts depth request s d) (passes : Nat) :
    x.expandOrFallback passes depth request s =
      (x.finish passes d.depth d.text d.source).map fun o =>
        ⟨o.value, o.source, x.limits.clampEvents request.amount ++ o.events⟩ := by
  have node := expand_of_starts start passes
  cases ended : x.finish passes d.depth d.text d.source with
  | none =>
      rw [ended] at node
      simp [expandOrFallback, recover, bind, Run.andThen, node]
  | some o =>
      rw [ended] at node
      exact recover_of_ok node

/-- A node that draws no text fails, whatever the budget. -/
theorem expand_of_not_starts {depth : Nat} {request : Request} {s : Random.Source}
    (stuck : ∀ d, ¬ x.Starts depth request s d) :
    ∃ cause rest events, ∀ passes,
      x.expand passes depth request s = some ⟨.error cause, rest, events⟩ := by
  by_cases deep : x.limits.maxDepth.toNat < depth
  · exact ⟨_, _, _, fun passes => by rw [expand_of_deep deep, Run.pure_apply]⟩
  · have shallow := Nat.le_of_not_lt deep
    cases known : x.library.get? request.keyword with
    | none =>
        refine ⟨.unknownKeyword request.keyword, s, [], fun passes => ?_⟩
        rw [expand_of_shallow shallow, known]
        exact Run.pure_apply _ _
    | some pool =>
        cases drawn : pool.select (x.limits.clamp request.amount) request.repeats s with
        | mk selected rest =>
        cases selected with
        | some text => exact absurd ⟨shallow, pool, text, rest, known, drawn, rfl⟩ (stuck _)
        | none =>
            refine ⟨.emptyPool request.keyword, rest, x.limits.clampEvents request.amount ++ [],
              fun passes => ?_⟩
            rw [expand_of_shallow shallow]
            simp only [known, bind, Run.andThen, Limits.clampAmount_apply, Run.ofDraw_apply, drawn]
            rfl

theorem Passes.eq {p q : Splice} (h : x.Passes d p) (k : x.Passes d q) : p = q := by
  obtain ⟨leftmost, passes, ran⟩ := h
  obtain ⟨found, more, ended⟩ := k
  have same := Option.some.inj (leftmost.symm.trans found)
  have refined (budget : Nat) (le : budget ≤ max passes more) :=
    replacement_refines (x.expandOrFallback_refines le (d.depth + 1)) q.found.body
  rw [same] at ran
  have ran := refined passes (Nat.le_max_left _ _) _ _ ran
  have ended := refined more (Nat.le_max_right _ _) _ _ ended
  exact Splice.ext same (Option.some.inj (ran.symm.trans ended))

theorem finishes_of_substitute {nested passes : Nat} {o : Outcome Text}
    (run : substitute (x.expandOrFallback nested (d.depth + 1)) passes d.text d.source = some o) :
    x.Finishes d o := by
  induction passes generalizing d o with
  | zero =>
      cases found : Wildcard.find? d.text with
      | none =>
          rw [substitute_of_finished found] at run
          cases run
          exact .done found
      | some leftmost => simp [substitute_zero_of_found found] at run
  | succ passes ih =>
      cases found : Wildcard.find? d.text with
      | none =>
          rw [substitute_of_finished found] at run
          cases run
          exact .done found
      | some leftmost =>
          rw [substitute_of_found found] at run
          obtain ⟨first, ran, last, follows, rfl⟩ := Run.bind_eq_some_iff.mp run
          have pass : x.Passes d ⟨leftmost, first⟩ := ⟨found, nested, ran⟩
          exact .pass pass (ih (d := d.after ⟨leftmost, first⟩) follows)

/-- A pass in front of passes that come to an end: one budget serves the nodes below both. -/
theorem Passes.exists_substitute {p : Splice} {o : Outcome Text} {nested passes : Nat}
    (pass : x.Passes d p)
    (follows : substitute (x.expandOrFallback nested (d.depth + 1)) passes p.text p.outcome.source =
      some o) :
    ∃ nested, substitute (x.expandOrFallback nested (d.depth + 1)) (passes + 1) d.text d.source =
      some ⟨o.value, o.source, p.outcome.events ++ o.events⟩ := by
  obtain ⟨leftmost, inner, ran⟩ := pass
  have wider (smaller : Nat) (le : smaller ≤ max inner nested) :=
    x.expandOrFallback_refines le (d.depth + 1)
  refine ⟨max inner nested, ?_⟩
  rw [substitute_of_found leftmost, Run.bind_eq_some_iff]
  refine ⟨p.outcome, ?_, o, ?_, rfl⟩
  · exact replacement_refines (wider inner (Nat.le_max_left _ _)) _ _ _ ran
  · exact substitute_refines (wider nested (Nat.le_max_right _ _)) (Nat.le_refl _) _ _ _ follows

theorem finish_of_finishes {o : Outcome Text} (h : x.Finishes d o) :
    ∃ passes, x.finish passes d.depth d.text d.source = some o := by
  have substituted : ∃ nested passes,
      substitute (x.expandOrFallback nested (d.depth + 1)) passes d.text d.source = some o := by
    induction h with
    | done finished => exact ⟨0, 0, by rw [substitute_of_finished finished, Run.pure_apply]⟩
    | pass first _ ih =>
        obtain ⟨nested, passes, follows⟩ := ih
        obtain ⟨wider, ran⟩ := first.exists_substitute follows
        exact ⟨wider, passes + 1, ran⟩
  obtain ⟨nested, passes, ran⟩ := substituted
  have wider := x.expandOrFallback_refines (Nat.le_max_left nested passes) (d.depth + 1)
  exact ⟨max nested passes, substitute_refines wider (Nat.le_max_right _ _) _ _ _ ran⟩

theorem finishes_iff {o : Outcome Text} :
    x.Finishes d o ↔ ∃ passes, x.finish passes d.depth d.text d.source = some o :=
  ⟨finish_of_finishes, fun ⟨_, run⟩ => finishes_of_substitute run⟩

theorem Starts.finishes {depth passes : Nat} {request : Request} {s : Random.Source}
    {o : Outcome Text} (start : x.Starts depth request s d)
    (ran : x.expandOrFallback passes depth request s = some o) :
    ∃ ended, x.Finishes d ended ∧
      o = ⟨ended.value, ended.source, x.limits.clampEvents request.amount ++ ended.events⟩ := by
  rw [expandOrFallback_of_starts start, Option.map_eq_some_iff] at ran
  obtain ⟨ended, finished, same⟩ := ran
  exact ⟨ended, finishes_iff.mpr ⟨passes, finished⟩, same.symm⟩

theorem Starts.exists_generate {request : Request} {s : Random.Source} {o : Outcome Text}
    (start : x.Starts 0 request s d) (h : x.Finishes d o) :
    ∃ passes, x.generate passes request s =
      some ⟨o.value, o.source, x.limits.clampEvents request.amount ++ o.events⟩ := by
  obtain ⟨passes, ended⟩ := finishes_iff.mp h
  refine ⟨passes, ?_⟩
  rw [generate, expandOrFallback_of_starts start, ended, Option.map_some]

theorem Passes.of_starts {p : Splice} {request : Request} {s : Random.Source} {inner : Draft}
    (pass : x.Passes d p) (asks : d.Asks request s)
    (start : x.Starts (d.depth + 1) request s inner) :
    ∃ o, x.Finishes inner o ∧ p.outcome =
      ⟨o.value, o.source, x.limits.clampEvents request.amount ++ o.events⟩ := by
  obtain ⟨leftmost, passes, ran⟩ := pass
  rw [asks.replacement leftmost] at ran
  exact start.finishes ran

/-- What takes the place of a wildcard: its keyword in upper case, nothing, or what the node of the
wildcard comes to. -/
theorem Passes.value_cases {p : Splice} (pass : x.Passes d p) :
    p.outcome.value = fallback (Wildcard.keywordOf p.found.body) ∨ p.outcome.value = [] ∨
      ∃ request s inner o, d.Asks request s ∧ x.Starts (d.depth + 1) request s inner ∧
        x.Finishes inner o ∧ p.outcome.value = o.value := by
  obtain ⟨leftmost, passes, ran⟩ := id pass
  rcases replacement_cases p.found.body d.source with
    ⟨cause, -, replaced⟩ | ⟨wildcard, rest, -, -, replaced⟩ |
    ⟨wildcard, amount, rest, parsed, drawn, positive, replaced⟩
  · rw [replaced, Option.some.injEq] at ran
    exact .inl (congrArg Outcome.value ran).symm
  · rw [replaced, Option.some.injEq] at ran
    exact .inr (.inl (congrArg Outcome.value ran).symm)
  · let request : Request := ⟨wildcard.keyword, amount, wildcard.repeats⟩
    have asks : d.Asks request rest := ⟨_, wildcard, leftmost, parsed, drawn, positive, rfl, rfl⟩
    by_cases start : ∃ inner, x.Starts (d.depth + 1) request rest inner
    · obtain ⟨inner, start⟩ := start
      obtain ⟨o, finishes, same⟩ := pass.of_starts asks start
      exact .inr (.inr ⟨request, rest, inner, o, asks, start, finishes, by rw [same]⟩)
    · obtain ⟨cause, after, events, failed⟩ := expand_of_not_starts (not_exists.mp start)
      rw [replaced, expandOrFallback, recover_of_error (failed passes), Option.some.injEq] at ran
      rw [← Wildcard.keyword_of_parse parsed]
      exact .inl (congrArg Outcome.value ran).symm

/-- Drafts that a finished run works on are finished by it, and their events are its events. -/
theorem Finishes.of_leads {inner : Draft} {o : Outcome Text} (h : x.Finishes d o)
    (leads : x.Leads d inner) : ∃ p, x.Finishes inner p ∧ p.events ⊆ o.events := by
  cases leads with
  | pass next =>
      cases h with
      | done finished => simp [next.1] at finished
      | pass this rest =>
          rw [← this.eq next]
          exact ⟨_, rest, List.subset_append_right _ _⟩
  | @nest _ request s asks start =>
      cases h with
      | done finished =>
          obtain ⟨_, _, found, _⟩ := asks
          simp [found] at finished
      | @pass _ p o this rest =>
          obtain ⟨ended, finishes, same⟩ := this.of_starts asks start
          refine ⟨ended, finishes, ?_⟩
          rw [same]
          exact fun e held => List.mem_append_left _ (List.mem_append_right _ held)

theorem Finishes.of_reaches {inner : Draft} {o : Outcome Text} (h : x.Finishes d o)
    (leads : Relation.ReflTransGen x.Leads d inner) :
    ∃ p, x.Finishes inner p ∧ p.events ⊆ o.events := by
  induction leads with
  | refl => exact ⟨o, h, List.Subset.refl _⟩
  | tail _ last ih =>
      obtain ⟨middle, finishes, held⟩ := ih
      obtain ⟨p, ends, within⟩ := finishes.of_leads last
      exact ⟨p, ends, List.Subset.trans within held⟩

theorem Finishes.events_of_passes {p : Splice} {o : Outcome Text} (h : x.Finishes d o)
    (pass : x.Passes d p) : p.outcome.events ⊆ o.events := by
  cases h with
  | done finished => simp [pass.1] at finished
  | pass this rest =>
      rw [this.eq pass]
      exact List.subset_append_left _ _

/-- Induction over the passes of a finished draft, with what is known of the drafts one level
deeper. -/
@[elab_as_elim]
theorem Finishes.nested_induction {motive : ∀ d o, x.Finishes d o → Prop}
    (done : ∀ d finished, motive d ⟨d.text, d.source, []⟩ (.done finished))
    (pass : ∀ d p o (pass : x.Passes d p) (rest : x.Finishes (d.after p) o),
      (∀ request s inner q, d.Asks request s → x.Starts (d.depth + 1) request s inner →
        ∀ finishes : x.Finishes inner q, motive inner q finishes) →
      motive (d.after p) o rest → motive d _ (.pass pass rest))
    {o : Outcome Text} (h : x.Finishes d o) : motive d o h := by
  -- The outer induction is on the levels below the node, the inner one on its passes.
  induction levels : x.limits.maxDepth.toNat - d.depth using Nat.strongRecOn generalizing d o with
  | ind n deeper =>
      induction h with
      | @done d finished => exact done d finished
      | @pass d p o this rest ih =>
          refine pass d p o this rest (fun request s inner q _ start finishes => ?_) (ih levels)
          obtain ⟨shallow, _, _, _, -, -, rfl⟩ := start
          refine deeper _ ?_ finishes rfl
          simp only
          omega

/-- A keyword with a single finished text replaces its wildcard by that text. -/
theorem passes_of_scalar (found : Wildcard.Found) {keyword value : Text}
    (leftmost : Wildcard.find? d.text = some found)
    (parsed : Wildcard.parse found.body = .ok { keyword })
    (known : x.library.get? keyword = some (.scalar value))
    (finished : Wildcard.find? value = none) (shallow : d.depth + 1 ≤ x.limits.maxDepth.toNat) :
    ∃ outcome, outcome.value = value ∧ x.Passes d ⟨found, outcome⟩ := by
  obtain ⟨rest, drawn⟩ := Pool.select_scalar_one value false d.source
  have one : x.limits.clamp 1 = 1 := by
    unfold Limits.clamp
    omega
  have start : x.Starts (d.depth + 1) ⟨keyword, 1, false⟩ d.source
      ⟨keyword, d.depth + 1, value, rest⟩ :=
    ⟨shallow, .scalar value, value, rest, known, by rw [one]; exact drawn, rfl⟩
  have node := expand_of_starts start 0
  rw [finish, substitute_of_finished finished, Run.pure_apply, Option.map_some] at node
  have asks : d.Asks ⟨keyword, 1, false⟩ d.source :=
    ⟨found, { keyword }, leftmost, parsed, rfl, Nat.one_ne_zero, rfl, rfl⟩
  exact ⟨_, rfl, leftmost, 0, (asks.replacement leftmost _).trans (recover_of_ok node)⟩

/-- A keyword that the library does not have stays, in upper case. -/
theorem passes_of_unknown (found : Wildcard.Found) {keyword : Text}
    (leftmost : Wildcard.find? d.text = some found)
    (parsed : Wildcard.parse found.body = .ok { keyword })
    (unknown : x.library.get? keyword = none) (shallow : d.depth + 1 ≤ x.limits.maxDepth.toNat) :
    x.Passes d ⟨found, fallback keyword, d.source,
      [.fellBack keyword (d.depth + 1) (.unknownKeyword keyword)]⟩ := by
  have asks : d.Asks ⟨keyword, 1, false⟩ d.source :=
    ⟨found, { keyword }, leftmost, parsed, rfl, Nat.one_ne_zero, rfl, rfl⟩
  have failed : x.expand 0 (d.depth + 1) ⟨keyword, 1, false⟩ d.source =
      some ⟨.error (.unknownKeyword keyword), d.source, []⟩ := by
    rw [expand_of_shallow shallow]
    simp only [unknown]
    rfl
  exact ⟨leftmost, 0, (asks.replacement leftmost _).trans (recover_of_error failed)⟩

end Expander

end PromptLoom
