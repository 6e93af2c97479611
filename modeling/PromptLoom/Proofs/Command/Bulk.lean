import PromptLoom.Proofs.Command.Preview
import PromptLoom.Proofs.Expansion.Placeholder

/-! # What the count of fallbacks counts

The figures about many prompts are made from their texts alone: a prompt counts as one with a
fallback if it holds a known keyword in upper case. A prompt in which only unknown keywords fell back
is missed, and a template that holds such a word itself is mistaken for a fallback.
-/

namespace PromptLoom

namespace Text

theorem holds_iff {part t : Text} : holds part t = true ↔ part <:+: t := by
  induction t with
  | nil => rw [holds, List.isEmpty_iff, List.infix_nil]
  | cons c t ih =>
      rw [holds, Bool.or_eq_true, List.isPrefixOf_iff_prefix, ih, List.infix_cons_iff]

end Text

/-- A keyword of the library stands in the text in upper case. -/
def Library.Marks (l : Library) (t : Text) : Prop :=
  ∃ keyword ∈ l.keywords, Text.upper keyword <:+: t

theorem Command.Variety.showsFallback_iff {l : Library} {prompt : Text} :
    showsFallback l.keywords prompt = true ↔ l.Marks prompt := by
  simp only [showsFallback, List.any_eq_true, Text.holds_iff, Library.Marks]

instance (l : Library) : DecidablePred l.Marks :=
  fun _ => decidable_of_iff _ Command.Variety.showsFallback_iff

theorem Command.Variety.withFallbacks_ofPrompts (l : Library) (os : List (Outcome Text)) :
    (ofPrompts l.keywords (os.map (·.value))).withFallbacks = os.countP (l.Marks ·.value) := by
  rw [ofPrompts, List.countP_map]
  exact List.countP_congr fun o _ => by simp [showsFallback_iff]

instance : DecidablePred Event.IsFallback
  | .fellBack .. | .malformed .. => isTrue trivial
  | .clamped .. | .loaded .. => isFalse id

/-- A node of the run, its root or one below, was replaced by its keyword in upper case. -/
def Outcome.FellBack (o : Outcome Text) : Prop :=
  ∃ e ∈ o.events, e.IsFallback

instance : DecidablePred Outcome.FellBack :=
  fun o => inferInstanceAs (Decidable (∃ e ∈ o.events, e.IsFallback))

/-- The run fell back, but its text is not counted. -/
def Library.Misses (l : Library) (o : Outcome Text) : Prop :=
  o.FellBack ∧ ¬ l.Marks o.value

/-- The text of the run is counted, but nothing in it fell back. -/
def Library.Mistakes (l : Library) (o : Outcome Text) : Prop :=
  l.Marks o.value ∧ ¬ o.FellBack

instance (l : Library) : DecidablePred l.Misses :=
  fun _ => inferInstanceAs (Decidable (_ ∧ _))

instance (l : Library) : DecidablePred l.Mistakes :=
  fun _ => inferInstanceAs (Decidable (_ ∧ _))

theorem Library.countP_marks_add_misses (l : Library) (os : List (Outcome Text)) :
    os.countP (l.Marks ·.value) + os.countP l.Misses =
      os.countP Outcome.FellBack + os.countP l.Mistakes := by
  induction os with
  | nil => rfl
  | cons o os ih =>
      simp only [List.countP_cons, decide_eq_true_eq, Misses, Mistakes] at ih ⊢
      by_cases marks : l.Marks o.value <;> by_cases fellBack : o.FellBack <;>
        simp [marks, fellBack] <;> omega

namespace Engine

variable {e : Engine} {passes count : Nat} {keyword : Text} {s : Random.Source}

/-- The outcomes of prompts for a keyword; each draws from what the one before it leaves. -/
def outcomes (e : Engine) (passes : Nat) (keyword : Text) :
    Nat → Random.Source → Option (List (Outcome Text))
  | 0, _ => some []
  | count + 1, s => do
    let first ← e.generate passes keyword s
    return first :: (← e.outcomes passes keyword count first.source)

theorem map_value_generateVariants (e : Engine) (passes : Nat) (keyword : Text) (count : Nat)
    (s : Random.Source) :
    (e.generateVariants passes keyword count s).map (·.value) =
      (e.outcomes passes keyword count s).map (·.map (·.value)) := by
  induction count generalizing s with
  | zero => rfl
  | succ count ih =>
      rw [generateVariants, outcomes]
      simp only [bind, Run.andThen]
      cases e.generate passes keyword s with
      | none => rfl
      | some first =>
          have later := ih first.source
          simp only [Option.bind_some]
          cases made : e.outcomes passes keyword count first.source with
          | none =>
              rw [made, Option.map_none, Option.map_eq_none_iff] at later
              simp [later]
          | some rest =>
              rw [made, Option.map_some, Option.map_eq_some_iff] at later
              obtain ⟨o, ran, same⟩ := later
              simp [ran, same, pure, Run.done]

theorem of_outcomes {os : List (Outcome Text)} (made : e.outcomes passes keyword count s = some os) :
    os.length = count ∧ ∀ o ∈ os, ∃ earlier, e.generate passes keyword earlier = some o := by
  induction count generalizing s os with
  | zero =>
      obtain rfl := Option.some.inj made
      exact ⟨rfl, by simp⟩
  | succ count ih =>
      obtain ⟨first, ran, made⟩ := Option.bind_eq_some_iff.mp made
      obtain ⟨rest, others, same⟩ := Option.bind_eq_some_iff.mp made
      obtain rfl := Option.some.inj same
      obtain ⟨length, each⟩ := ih others
      exact ⟨congrArg (· + 1) length, List.forall_mem_cons.mpr ⟨⟨s, ran⟩, each⟩⟩

/-- Over a well-bracketed library a run that fell back is missed only if the library knows none of
the keywords that it fell back to. -/
theorem not_mem_keywords_of_misses (bracketed : e.library.WellBracketed) {o : Outcome Text}
    (ran : e.generate passes keyword s = some o) (missed : e.library.Misses o) {event : Event}
    (held : event ∈ o.events) {lost : Text} (replaces : event.Replaces lost) :
    lost ∉ e.library.keywords := by
  intro known
  exact missed.2 ⟨lost, known, Expander.shownIn_of_generate bracketed ran event held lost replaces⟩

end Engine

namespace Command.Preview

variable {session : Session} {passes : Nat}

namespace Session

/-- The number that is printed for the prompts with fallbacks is that of the prompts with a known
keyword in upper case. It differs from the number of the prompts that fell back by those that are
missed and those that are mistaken, and over a well-bracketed library only unknown keywords can
be what a prompt is missed for. -/
theorem bulk_counts_marks {t keyword : Text} {count : Nat}
    (accepted : Wish.ofLine t = .bulk keyword count) {reply : Reply}
    (answered : session.respond passes t = some reply) :
    let library := session.engine.library
    ∃ os, session.engine.outcomes passes keyword count session.engine.source = some os ∧
      os.length = count ∧
      let figures := Variety.ofPrompts library.keywords (os.map (·.value))
      reply.out = varietyText figures (os.map (·.value)) ∧
        figures.withFallbacks = os.countP (library.Marks ·.value) ∧
        figures.withFallbacks + os.countP library.Misses =
          os.countP Outcome.FellBack + os.countP library.Mistakes ∧
        (figures.withFallbacks = os.countP Outcome.FellBack ↔
          os.countP library.Misses = os.countP library.Mistakes) ∧
        (library.WellBracketed → ∀ o ∈ os, library.Misses o →
          ∀ e ∈ o.events, ∀ lost, e.Replaces lost → lost ∉ library.keywords) := by
  intro library
  rw [respond, accepted] at answered
  obtain ⟨⟨o, engine⟩, granted, rfl⟩ := Option.map_eq_some_iff.mp answered
  obtain ⟨_, ran, same⟩ := Option.map_eq_some_iff.mp granted
  obtain ⟨rfl, rfl⟩ := Prod.mk.inj same
  have texts := session.engine.map_value_generateVariants passes keyword count session.engine.source
  rw [ran, Option.map_some, eq_comm, Option.map_eq_some_iff] at texts
  obtain ⟨os, made, texts⟩ := texts
  obtain ⟨length, each⟩ := Engine.of_outcomes made
  have counted := Variety.withFallbacks_ofPrompts library os
  have balance := library.countP_marks_add_misses os
  refine ⟨os, made, length, ?_, counted, counted ▸ balance, ?_, ?_⟩
  · simp only [texts]
    rfl
  · rw [counted]
    omega
  · intro bracketed o member missed e held lost replaces
    obtain ⟨_, ran⟩ := each o member
    exact Engine.not_mem_keywords_of_misses bracketed ran missed held replaces

end Session

/-- Templates that fall back to an unknown and to a known keyword, and one that looks as if. -/
def lookalikes : Session where
  engine := {
    library := .ofList [("pet".toList, .collection
        ["?{ghost}".toList, "?{cat|x}".toList, "A CAT".toList, "a ?{cat}".toList]),
      ("cat".toList, .scalar "tom".toList)]
    limits := {}
    source := .seeded 3 }
  seed := 3

/-- One of three prompts that fell back is missed, and three others are mistaken for such prompts. -/
theorem lookalikes_miscounted :
    Wish.ofLine "bulk pet 6".toList = .bulk "pet".toList 6 ∧
      lookalikes.engine.library.WellBracketed ∧
      ∃ reply os, lookalikes.respond 1 "bulk pet 6".toList = some reply ∧
        lookalikes.engine.outcomes 1 "pet".toList 6 lookalikes.engine.source = some os ∧
        (let figures := Variety.ofPrompts lookalikes.engine.library.keywords (os.map (·.value))
        reply.out = varietyText figures (os.map (·.value)) ∧ figures.withFallbacks = 5) ∧
        os.countP Outcome.FellBack = 3 ∧ os.countP lookalikes.engine.library.Misses = 1 ∧
        os.countP lookalikes.engine.library.Mistakes = 3 ∧
        ∀ o ∈ os, lookalikes.engine.library.Misses o → ∀ e ∈ o.events, ∀ lost, e.Replaces lost →
          lost ∉ lookalikes.engine.library.keywords := by
  have accepted : Wish.ofLine "bulk pet 6".toList = .bulk "pet".toList 6 := by decide +kernel
  have bracketed : lookalikes.engine.library.WellBracketed := by decide
  have ends : (lookalikes.respond 1 "bulk pet 6".toList).isSome := by decide +kernel
  have tallies : (lookalikes.engine.outcomes 1 "pet".toList 6 lookalikes.engine.source).map
      (fun os => (os.countP Outcome.FellBack, os.countP lookalikes.engine.library.Misses,
        os.countP lookalikes.engine.library.Mistakes)) = some (3, 1, 3) := by decide +kernel
  obtain ⟨reply, answered⟩ := Option.isSome_iff_exists.mp ends
  obtain ⟨os, made, -, written, -, balance, -, unknown⟩ :=
    Session.bulk_counts_marks accepted answered
  rw [made] at tallies
  obtain ⟨fellBack, others⟩ := Prod.mk.inj (Option.some.inj tallies)
  obtain ⟨missed, mistaken⟩ := Prod.mk.inj others
  rw [fellBack, missed, mistaken] at balance
  exact ⟨accepted, bracketed, reply, os, answered, made, ⟨written, Nat.add_right_cancel balance⟩,
    fellBack, missed, mistaken, unknown bracketed⟩

/-- A library with a keyword that it asks for but does not have. -/
def manor : FileReader :=
  FileTree.read (.ofList [
    ("l.ron".toList, .file (some "\x7b\"house\":\"?{ghost}\"\x7d".toList))])

/-- The only prompt fell back, and none is counted. -/
theorem manor_counts_none :
    Wish.ofLine "bulk house 1".toList = .bulk "house".toList 1 ∧
      ∃ session reply os, start manor ["--library".toList, "l.ron".toList] = .ok session ∧
        session.respond 1 "bulk house 1".toList = some reply ∧
        session.engine.outcomes 1 "house".toList 1 session.engine.source = some os ∧
        os.countP Outcome.FellBack = 1 ∧
        reply.out = varietyText
          { count := 1, unique := 1, averageLength := 5, withFallbacks := 0 }
          ["GHOST".toList] := by
  have shown : ((start manor ["--library".toList, "l.ron".toList]).toOption.bind fun session =>
      (session.respond 1 "bulk house 1".toList).bind fun reply =>
        (session.engine.outcomes 1 "house".toList 1 session.engine.source).map fun os =>
          (os.countP Outcome.FellBack, reply.out)) =
      some (1, varietyText ⟨1, 1, 5, 0⟩ ["GHOST".toList]) := by decide +kernel
  refine ⟨by decide +kernel, ?_⟩
  cases started : start manor ["--library".toList, "l.ron".toList] with
  | error ending =>
      rw [started] at shown
      cases shown
  | ok session =>
      rw [started, Except.toOption, Option.bind_some] at shown
      obtain ⟨reply, answered, shown⟩ := Option.bind_eq_some_iff.mp shown
      obtain ⟨os, made, shown⟩ := Option.map_eq_some_iff.mp shown
      obtain ⟨fellBack, written⟩ := Prod.mk.inj shown
      exact ⟨session, reply, os, rfl, answered, made, fellBack, written⟩

end Command.Preview

end PromptLoom
