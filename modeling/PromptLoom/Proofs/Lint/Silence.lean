import PromptLoom.Proofs.Expansion.Draft
import PromptLoom.Proofs.Lint.Reachability
import PromptLoom.Proofs.Text.Upper

/-! # Expansions of libraries without findings

A check sees the wildcards of the templates. Over a library without findings, a node
that replaces only such wildcards has no failure below it: references are not
circular, so they end above the limit on the depth. What is left is a wildcard that no
template holds, and there is none before a pass welds an opening mark.
-/

namespace PromptLoom

open Expansion

/-- The event tells of a keyword in upper case in the text. -/
def Event.IsFallback : Event → Prop
  | fellBack .. => True
  | malformed .. => True
  | _ => False

theorem Limits.not_isFallback_of_mem_clampEvents {limits : Limits} {amount : Nat} {e : Event}
    (held : e ∈ limits.clampEvents amount) : ¬ e.IsFallback := by
  simp only [clampEvents, ne_eq, ite_not, List.mem_ite_nil_left, List.mem_singleton] at held
  exact held.2 ▸ id

/-- What a check without any finding tells about a library. -/
structure Library.Quiet (l : Library) : Prop extends l.Sound where
  terminated : ∀ keyword pool, l.get? keyword = some pool → ∀ t ∈ pool.items,
    Wildcard.Terminated t
  acyclic : ∀ keyword ∈ l.keywords, ¬ l.references.reaches keyword keyword

theorem quiet_of_lint {l : Library} (silent : lint l = {}) : l.Quiet where
  toSound := errors_lint_eq_nil_iff.mp (by rw [silent])
  terminated _ _ known _ held := terminated_of_warnings_lint (by rw [silent]) known held
  acyclic _ member := not_reaches_of_warnings_lint (by rw [silent]) member

namespace Expander

/-- A template of the draft's keyword holds the wildcard that the pass replaces. -/
def Foresees (x : Expander) (d : Draft) (p : Splice) : Prop :=
  ∃ pool, x.library.get? d.keyword = some pool ∧ ∃ t ∈ pool.items,
    p.found.body ∈ Wildcard.bodies t

/-- There are keywords enough above the draft for all that its keyword can reach. -/
def Within (x : Expander) (d : Draft) : Prop :=
  d.keyword ∈ x.library.keywords ∧ d.depth + x.library.height d.keyword < x.library.size

/-- The wildcards of the draft are wildcards of templates of its keyword. -/
def Settled (x : Expander) (d : Draft) : Prop :=
  Wildcard.Terminated d.text ∧ ∃ pool, x.library.get? d.keyword = some pool ∧
    ∀ body ∈ Wildcard.bodies d.text, ∃ t ∈ pool.items, body ∈ Wildcard.bodies t

variable {x : Expander} {d inner : Draft} {request : Request} {s : Random.Source}

theorem Settled.foresees {p : Splice} (settled : x.Settled d) (pass : x.Passes d p) :
    x.Foresees d p := by
  obtain ⟨-, pool, known, each⟩ := settled
  refine ⟨pool, known, each p.found.body ?_⟩
  rw [Wildcard.bodies_of_found pass.1]
  exact List.mem_cons_self

theorem Starts.settled (quiet : x.library.Quiet) {depth : Nat} (start : x.Starts depth request s d) :
    x.Settled d := by
  obtain ⟨pool, picks, known, held, text⟩ := start.exists_picks
  obtain ⟨terminated, found⟩ := Wildcard.terminated_joinList fun t chosen =>
    quiet.terminated _ pool known t (held t chosen)
  rw [← text] at terminated found
  refine ⟨terminated, pool, known, fun body member => ?_⟩
  rw [found] at member
  obtain ⟨t, chosen, member⟩ := List.mem_flatMap.mp member
  exact ⟨t, held t chosen, member⟩

theorem Starts.within_of_root (quiet : x.library.Quiet) (start : x.Starts 0 request s d) :
    x.Within d := by
  obtain ⟨-, pool, text, rest, known, -, rfl⟩ := start
  have member := Library.mem_keywords_iff.mpr ⟨pool, known⟩
  refine ⟨member, ?_⟩
  rw [Nat.zero_add]
  exact Library.height_lt_size member (quiet.acyclic _ member)

theorem Starts.within (quiet : x.library.Quiet) (above : x.Within d)
    (refers : x.library.Refers d.keyword request.keyword)
    (start : x.Starts (d.depth + 1) request s inner) : x.Within inner := by
  obtain ⟨-, pool, text, rest, known, -, rfl⟩ := start
  have lower := refers.height_lt (quiet.acyclic _ refers.mem)
  have room := above.2
  refine ⟨refers.mem, ?_⟩
  simp only
  omega

theorem Settled.refers (quiet : x.library.Quiet) (settled : x.Settled d)
    (asks : d.Asks request s) : x.library.Refers d.keyword request.keyword := by
  obtain ⟨found, wildcard, leftmost, parsed, -, -, keyword, -⟩ := asks
  obtain ⟨-, pool, known, each⟩ := settled
  rw [Wildcard.bodies_of_found leftmost] at each
  obtain ⟨t, held, member⟩ := each found.body List.mem_cons_self
  obtain ⟨same, read, refers⟩ := quiet.refers known held member
  obtain rfl : wildcard = same := Except.ok.inj (parsed.symm.trans read)
  rwa [keyword]

/-- A foreseen wildcard is dropped, or its node draws a text and finishes it. -/
theorem Passes.cases_of_foresees (quiet : x.library.Quiet)
    (deep : x.library.size ≤ x.limits.maxDepth.toNat) (above : x.Within d) {p : Splice}
    (pass : x.Passes d p) (foreseen : x.Foresees d p) :
    (p.outcome.value = [] ∧ p.outcome.events = []) ∨
      ∃ request s inner o, d.Asks request s ∧ x.Starts (d.depth + 1) request s inner ∧
        x.Within inner ∧ x.Finishes inner o ∧ p.outcome =
          ⟨o.value, o.source, x.limits.clampEvents request.amount ++ o.events⟩ := by
  obtain ⟨_, source, t, held, member⟩ := foreseen
  obtain ⟨wildcard, parsed, refers⟩ := quiet.refers source held member
  rcases replacement_cases p.found.body d.source with
    ⟨cause, malformed, -⟩ | ⟨_, rest, -, -, dropped⟩ | ⟨found, amount, rest, read, drawn, positive, -⟩
  · simp [parsed] at malformed
  · obtain ⟨-, passes, ran⟩ := pass
    rw [dropped, Option.some.injEq] at ran
    rw [← ran]
    exact .inl ⟨rfl, rfl⟩
  · obtain rfl : wildcard = found := Except.ok.inj (parsed.symm.trans read)
    let request : Request := ⟨wildcard.keyword, amount, wildcard.repeats⟩
    have asks : d.Asks request rest :=
      ⟨_, wildcard, pass.1, parsed, drawn, positive, rfl, rfl⟩
    obtain ⟨pool, known⟩ := Library.mem_keywords_iff.mp refers.mem
    have shallow : d.depth + 1 ≤ x.limits.maxDepth.toNat := by
      have room := above.2
      omega
    obtain ⟨inner, start⟩ : ∃ inner, x.Starts (d.depth + 1) request rest inner :=
      x.exists_starts shallow known (quiet.nonempty _ pool known) rest
    obtain ⟨o, finishes, same⟩ := pass.of_starts asks start
    exact .inr ⟨request, rest, inner, o, asks, start, start.within quiet above refers, finishes,
      same⟩

/-- A fallback comes from a replacement that no template foresees. -/
theorem Finishes.exists_unforeseen (quiet : x.library.Quiet)
    (deep : x.library.size ≤ x.limits.maxDepth.toNat) {o : Outcome Text} (h : x.Finishes d o)
    (above : x.Within d) (failed : ∃ e ∈ o.events, e.IsFallback) :
    ∃ e p, Relation.ReflTransGen x.Leads d e ∧ x.Passes e p ∧ ¬ x.Foresees e p ∧
      ∃ e ∈ p.outcome.events, e.IsFallback := by
  induction h using Finishes.nested_induction with
  | done d finished => simp at failed
  | pass d p o pass rest nested ih =>
      obtain ⟨event, held, fallback⟩ := failed
      rcases List.mem_append.mp held with here | later
      · by_cases foreseen : x.Foresees d p
        · rcases pass.cases_of_foresees quiet deep above foreseen with
            ⟨-, none⟩ | ⟨request, s, inner, q, asks, start, within, finishes, same⟩
          · simp [none] at here
          · rw [same] at here
            have inside : event ∈ q.events := (List.mem_append.mp here).resolve_left
              fun clamped => Limits.not_isFallback_of_mem_clampEvents clamped fallback
            obtain ⟨e, r, reached, stray⟩ :=
              nested request s inner q asks start finishes within ⟨event, inside, fallback⟩
            exact ⟨e, r, .head (.nest asks start) reached, stray⟩
        · exact ⟨d, p, .refl, pass, foreseen, event, here, fallback⟩
      · obtain ⟨e, r, reached, stray⟩ := ih above ⟨event, later, fallback⟩
        exact ⟨e, r, .head (.pass pass) reached, stray⟩

/-- A pass that welds nothing keeps a draft settled, if the replacement holds no opening mark. -/
theorem Settled.after (settled : x.Settled d) {p : Splice} (pass : x.Passes d p)
    (calm : ¬ p.Welds) (unopened : Text.cutOpening p.outcome.value = none) :
    x.Settled (d.after p) := by
  obtain ⟨terminated, pool, known, each⟩ := settled
  have rest := (Wildcard.terminated_of_found pass.1).mp terminated
  have back := rest.prepend unopened fun right => calm (.inr right)
  have whole := back.1.prepend (Wildcard.gap_unopened pass.1) fun left => calm (.inl left)
  rw [← List.append_assoc] at whole
  refine ⟨whole.1, pool, known, fun body member => each body ?_⟩
  rw [Draft.after, Splice.text, whole.2, back.2] at member
  rw [Wildcard.bodies_of_found pass.1]
  exact List.mem_cons_of_mem _ member

/-- No pass of the run from the draft on welds an opening mark. -/
def Calm (x : Expander) (d : Draft) : Prop :=
  ∀ e p, Relation.ReflTransGen x.Leads d e → x.Passes e p → ¬ p.Welds

theorem Calm.of_leads (calm : x.Calm d) (leads : x.Leads d inner) : x.Calm inner :=
  fun e p reached => calm e p (.head leads reached)

/-- A foreseen wildcard is replaced by a text without opening mark if the nodes one level
deeper leave none. -/
theorem Passes.unopened (quiet : x.library.Quiet)
    (deep : x.library.size ≤ x.limits.maxDepth.toNat) {p : Splice} (pass : x.Passes d p)
    (above : x.Within d) (foreseen : x.Foresees d p)
    (nested : ∀ request s inner q, d.Asks request s → x.Starts (d.depth + 1) request s inner →
      x.Finishes inner q → x.Within inner → Text.cutOpening q.value = none) :
    Text.cutOpening p.outcome.value = none := by
  rcases pass.cases_of_foresees quiet deep above foreseen with
    ⟨empty, -⟩ | ⟨request, s, inner, q, asks, start, within, finishes, same⟩
  · rw [empty]
    rfl
  · rw [same]
    exact nested request s inner q asks start finishes within

/-- Without welding, a settled draft ends in a text without opening mark. -/
theorem Finishes.unopened (quiet : x.library.Quiet)
    (deep : x.library.size ≤ x.limits.maxDepth.toNat) {o : Outcome Text} (h : x.Finishes d o)
    (above : x.Within d) (settled : x.Settled d) (calm : x.Calm d) :
    Text.cutOpening o.value = none := by
  induction h using Finishes.nested_induction with
  | done d finished => exact (Wildcard.terminated_of_finished finished).mp settled.1
  | pass d p o pass rest nested ih =>
      have plain : Text.cutOpening p.outcome.value = none := by
        refine pass.unopened quiet deep above (settled.foresees pass) ?_
        intro request s inner q asks start finishes within
        exact nested request s inner q asks start finishes within (start.settled quiet)
          (calm.of_leads (.nest asks start))
      exact ih above (settled.after pass (calm d p .refl pass) plain)
        (calm.of_leads (.pass pass))

/-- Without welding, all drafts of a run are settled. -/
theorem settled_of_reaches (quiet : x.library.Quiet)
    (deep : x.library.size ≤ x.limits.maxDepth.toNat) (above : x.Within d)
    (settled : x.Settled d) (calm : x.Calm d) {e : Draft}
    (reached : Relation.ReflTransGen x.Leads d e) : x.Within e ∧ x.Settled e := by
  induction reached using Relation.ReflTransGen.head_induction_on with
  | refl => exact ⟨above, settled⟩
  | @head d _ first _ ih =>
      cases first with
      | @pass p pass =>
          have plain : Text.cutOpening p.outcome.value = none := by
            refine pass.unopened quiet deep above (settled.foresees pass) ?_
            intro request s inner q asks start finishes within
            exact finishes.unopened quiet deep within (start.settled quiet)
              (calm.of_leads (.nest asks start))
          exact ih above (settled.after pass (calm d p .refl pass) plain)
            (calm.of_leads (.pass pass))
      | @nest _ request s asks start =>
          exact ih (start.within quiet above (settled.refers quiet asks)) (start.settled quiet)
            (calm.of_leads (.nest asks start))

/-- Over a library without findings, a run with levels enough falls back exactly if it makes a
fallback of a wildcard that no template foresees, and there is such a wildcard only if a pass
of the run welds an opening mark. -/
theorem fallsBack_iff_of_silent (x : Expander) (silent : lint x.library = {})
    (deep : x.library.size ≤ x.limits.maxDepth.toNat) {request : Request}
    (member : request.keyword ∈ x.library.keywords) {s : Random.Source} {passes : Nat}
    {o : Outcome Text} (ran : x.generate passes request s = some o) :
    ((∃ e ∈ o.events, e.IsFallback) ↔
      ∃ d p, x.ComesTo request s d ∧ x.Passes d p ∧ ¬ x.Foresees d p ∧
        ∃ e ∈ p.outcome.events, e.IsFallback) ∧
    ∀ d p, x.ComesTo request s d → x.Passes d p → ¬ x.Foresees d p →
      ∃ e q, x.ComesTo request s e ∧ x.Passes e q ∧ q.Welds := by
  have quiet := quiet_of_lint silent
  obtain ⟨pool, known⟩ := Library.mem_keywords_iff.mp member
  obtain ⟨first, start⟩ := x.exists_starts (Nat.zero_le _) known (quiet.nonempty _ pool known) s
  have above := start.within_of_root quiet
  have only {d : Draft} : x.ComesTo request s d ↔ Relation.ReflTransGen x.Leads first d := by
    constructor
    · rintro ⟨other, begun, reached⟩
      rwa [start.eq begun]
    · exact fun reached => ⟨first, start, reached⟩
  simp only [only]
  obtain ⟨outcome, finishes, rfl⟩ := start.finishes ran
  constructor
  · constructor
    · rintro ⟨event, held, fallback⟩
      have inside : event ∈ outcome.events := (List.mem_append.mp held).resolve_left
        fun clamped => Limits.not_isFallback_of_mem_clampEvents clamped fallback
      exact finishes.exists_unforeseen quiet deep above ⟨event, inside, fallback⟩
    · rintro ⟨d, p, reached, pass, -, event, held, fallback⟩
      obtain ⟨q, ended, within⟩ := finishes.of_reaches reached
      have inside := within (ended.events_of_passes pass held)
      exact ⟨event, List.mem_append_right _ inside, fallback⟩
  · intro d p reached pass unforeseen
    by_contra none
    have calm : x.Calm first := fun e q along next welds => none ⟨e, q, along, next, welds⟩
    have settled := settled_of_reaches quiet deep above (start.settled quiet) calm reached
    exact unforeseen (settled.2.foresees pass)

/-- A library without findings: the question mark that replaces the first wildcard makes the
brace behind it open a wildcard for a keyword that the library does not have. -/
def haunted : Library :=
  .ofList [("house".toList, .scalar "?{door}{ghost}".toList), ("door".toList, .scalar "?".toList)]

theorem finishes_haunted (root : d.depth = 0) (text : d.text = "?{door}{ghost}".toList) :
    ∃ o, (Expander.mk haunted {}).Finishes d o ∧ ∃ e ∈ o.events, e.IsFallback := by
  have shallow (e : Draft) (same : e.depth = d.depth) :
      e.depth + 1 ≤ (Expander.mk haunted {}).limits.maxDepth.toNat := by
    rw [same, root]
    decide
  obtain ⟨outcome, value, first⟩ := passes_of_scalar (x := ⟨haunted, {}⟩) (d := d)
    ⟨[], "door".toList, "{ghost}".toList⟩ (by rw [text]; decide) rfl rfl
    (show Wildcard.find? "?".toList = none by decide) (shallow d rfl)
  let welded := d.after ⟨⟨[], "door".toList, "{ghost}".toList⟩, outcome⟩
  have opened : welded.text = "?{ghost}".toList := by
    simp [welded, Draft.after, Splice.text, value]
  have second := passes_of_unknown (x := ⟨haunted, {}⟩) (d := welded)
    ⟨[], "ghost".toList, []⟩ (by rw [opened]; decide) rfl rfl (shallow welded rfl)
  refine ⟨_, .pass first (.pass second (.done ?_)), _,
    List.mem_append_right _ (List.mem_append_left _ List.mem_cons_self), trivial⟩
  have plain : '{' ∉ fallback "ghost".toList := Text.not_brace_mem_upper (by decide)
  simpa [Draft.after, Splice.text] using
    Wildcard.find?_eq_none_of_unopened (Text.cutOpening_eq_none_of_not_mem plain)

theorem generate_haunted :
    ∃ passes o, (Expander.mk haunted {}).generate passes { keyword := "house".toList }
      (.ofWords []) = some o ∧ ∃ e ∈ o.events, e.IsFallback := by
  obtain ⟨rest, drawn⟩ := Pool.select_scalar_one "?{door}{ghost}".toList false (.ofWords [])
  have start : (Expander.mk haunted {}).Starts 0 { keyword := "house".toList } (.ofWords [])
      ⟨"house".toList, 0, "?{door}{ghost}".toList, rest⟩ :=
    ⟨Nat.zero_le _, .scalar "?{door}{ghost}".toList, _, rest, rfl, drawn, rfl⟩
  obtain ⟨o, finishes, event, held, fallback⟩ := finishes_haunted
    (d := ⟨"house".toList, 0, "?{door}{ghost}".toList, rest⟩) rfl rfl
  obtain ⟨passes, ran⟩ := start.exists_generate finishes
  exact ⟨passes, _, ran, event, List.mem_append_right _ held, fallback⟩

/-- The check finds nothing and the depth is enough, but the run falls back. -/
theorem haunted_falls_back :
    lint haunted = {} ∧ "house".toList ∈ haunted.keywords ∧
      haunted.size ≤ ({} : Limits).maxDepth.toNat ∧
      ∃ passes o, (Expander.mk haunted {}).generate passes { keyword := "house".toList }
        (.ofWords []) = some o ∧ ∃ e ∈ o.events, e.IsFallback :=
  ⟨by decide +kernel, by decide, by decide, generate_haunted⟩

/-- The run replaces a wildcard that no template holds, after it welded its opening mark. -/
theorem haunted_welds :
    (∃ d p, (Expander.mk haunted {}).ComesTo { keyword := "house".toList } (.ofWords []) d ∧
      (Expander.mk haunted {}).Passes d p ∧ ¬ (Expander.mk haunted {}).Foresees d p ∧
        ∃ e ∈ p.outcome.events, e.IsFallback) ∧
    ∃ d p, (Expander.mk haunted {}).ComesTo { keyword := "house".toList } (.ofWords []) d ∧
      (Expander.mk haunted {}).Passes d p ∧ p.Welds := by
  obtain ⟨passes, o, ran, failed⟩ := generate_haunted
  obtain ⟨unforeseen, welds⟩ := fallsBack_iff_of_silent ⟨haunted, {}⟩ (by decide +kernel)
    (by decide) (by decide) ran
  obtain ⟨d, p, reached, pass, stray, fallback⟩ := unforeseen.mp failed
  exact ⟨⟨d, p, reached, pass, stray, fallback⟩, welds d p reached pass stray⟩

end Expander

end PromptLoom
