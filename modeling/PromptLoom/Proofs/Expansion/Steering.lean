import PromptLoom.Proofs.Expansion.SinglePass
import PromptLoom.Proofs.Wildcard.Count

/-! # Words that lead a run

A run allows an outcome if it comes to it from every source that offers certain words.
Every single pass over picks allows some outcome, whatever it meets, so the words for
what it meets later can be chosen freely.
-/

namespace PromptLoom

namespace Run

variable {α β : Type}

/-- For some words, the run comes to the value with the events and has drawn just these words. -/
def Allows (x : Run α) (a : α) (events : List Event) : Prop :=
  ∃ words, ∀ s : Random.Source, s.Offers words → x s = some ⟨a, s.skip words.length, events⟩

/-- For some words the run ends. -/
def Readable (x : Run α) : Prop :=
  ∃ a events, x.Allows a events

/-- For some words the run ends with an event that meets the condition. -/
def CanEmit (x : Run α) (P : Event → Prop) : Prop :=
  ∃ a events, x.Allows a events ∧ ∃ e ∈ events, P e

variable {x : Run α} {f : α → Run β} {a : α} {P : Event → Prop}

namespace Allows

theorem pure (a : α) : Allows (Pure.pure a) a [] :=
  ⟨[], fun _ _ => rfl⟩

theorem emit (e : Event) : Allows (Run.emit e) () [e] :=
  ⟨[], fun _ _ => rfl⟩

theorem ofDraw {d : Random.Draw α} {words : List UInt64} (h : Random.Reads d words a) :
    Allows (Run.ofDraw d) a [] :=
  ⟨words, fun s offered => by rw [ofDraw_apply, h s offered]⟩

theorem bind {b : β} {first second : List Event} (h : x.Allows a first)
    (k : (f a).Allows b second) : (x >>= f).Allows b (first ++ second) := by
  obtain ⟨front, ran⟩ := h
  obtain ⟨back, follows⟩ := k
  refine ⟨front ++ back, fun s offered => ?_⟩
  obtain ⟨now, later⟩ := Random.Source.offers_append.mp offered
  refine bind_eq_some_iff.mpr ⟨_, ran s now, _, follows _ later, ?_⟩
  rw [Random.Source.skip_skip, List.length_append]

end Allows

namespace Readable

theorem pure (a : α) : Readable (Pure.pure a) :=
  ⟨a, [], .pure a⟩

theorem ofDraw {d : Random.Draw α} (h : ∃ words a, Random.Reads d words a) :
    Readable (Run.ofDraw d) := by
  obtain ⟨words, a, reads⟩ := h
  exact ⟨a, [], .ofDraw reads⟩

theorem bind (h : x.Readable) (k : ∀ a, (f a).Readable) : (x >>= f).Readable := by
  obtain ⟨a, first, ran⟩ := h
  obtain ⟨b, second, follows⟩ := k a
  exact ⟨b, first ++ second, ran.bind follows⟩

end Readable

namespace CanEmit

theorem emit {e : Event} (h : P e) : CanEmit (Run.emit e) P :=
  ⟨(), [e], .emit e, e, List.mem_cons_self, h⟩

theorem bind_left (h : x.CanEmit P) (k : ∀ a, (f a).Readable) : (x >>= f).CanEmit P := by
  obtain ⟨a, first, ran, e, held, meets⟩ := h
  obtain ⟨b, second, follows⟩ := k a
  exact ⟨b, first ++ second, ran.bind follows, e, List.mem_append_left _ held, meets⟩

theorem bind_right {first : List Event} (h : x.Allows a first) (k : (f a).CanEmit P) :
    (x >>= f).CanEmit P := by
  obtain ⟨b, second, follows, e, held, meets⟩ := k
  exact ⟨b, first ++ second, h.bind follows, e, List.mem_append_right _ held, meets⟩

end CanEmit

end Run

namespace Wildcard

theorem amount_reads (wildcard : Wildcard) : ∃ words n, Random.Reads wildcard.amount words n := by
  unfold amount
  cases wildcard.count with
  | none => exact ⟨[], 1, .pure 1⟩
  | some count =>
      cases count with
      | exact n => exact ⟨[], n, .pure n⟩
      | range low high =>
          exact ⟨_, _, (Random.Reads.draw_zero (high - low)).bind (.pure (low + 0))⟩

/-- A count can come to its greatest value. -/
theorem amount_reads_greatest {body : Text} {wildcard : Wildcard} {count : Count}
    (parsed : parse body = .ok wildcard) (counted : wildcard.count = some count) :
    ∃ words, Random.Reads wildcard.amount words count.greatest := by
  have bounded := count_bounded parsed counted
  have allowed := (Count.isGreatest_greatest bounded).1
  rw [amount, counted]
  exact Count.resolve_reads bounded allowed

end Wildcard

namespace Limits

theorem clampAmount_allows (limits : Limits) (amount : Nat) :
    (limits.clampAmount amount).Allows (limits.clamp amount) (limits.clampEvents amount) :=
  ⟨[], fun s _ => limits.clampAmount_apply amount s⟩

end Limits

namespace Expansion

variable {nested : Request → Run Text} {P : Event → Prop} {library : Library} {limits : Limits}

theorem recover_continues {depth : Nat} {request : Request}
    (value : Except ExpansionError Text) :
    Run.Readable (match value with
      | .ok text => return text
      | .error cause => do
        Run.emit (.fellBack request.keyword depth cause)
        return fallback request.keyword) := by
  cases value with
  | ok text => exact .pure text
  | error cause => exact ⟨_, _, (Run.Allows.emit _).bind (.pure _)⟩

theorem recover_readable {depth : Nat} {request : Request}
    {node : Run (Except ExpansionError Text)} (h : node.Readable) :
    (recover depth request node).Readable :=
  h.bind recover_continues

theorem replacement_readable (each : ∀ request, (nested request).Readable) (body : Text) :
    (replacement nested body).Readable := by
  cases parsed : Wildcard.parse body with
  | error cause => exact ⟨_, _, [], fun s _ => replacement_of_malformed parsed s⟩
  | ok wildcard =>
      rw [replacement_of_parsed parsed]
      refine (Run.Readable.ofDraw wildcard.amount_reads).bind fun amount => ?_
      split
      · exact .pure []
      · exact each _

theorem fill_readable (each : ∀ request, (nested request).Readable) (t : Text) :
    (fill nested t).Readable := by
  induction t using Wildcard.scan.induct with
  | case1 t finished =>
      rw [fill_of_finished finished]
      exact .pure t
  | case2 t f leftmost ih =>
      rw [fill_of_found leftmost]
      exact (replacement_readable each f.body).bind fun _ => ih.bind fun _ => .pure _

theorem mapM_fill_readable (each : ∀ request, (nested request).Readable) (picks : List Text) :
    (picks.mapM (fill nested)).Readable := by
  induction picks with
  | nil => exact .pure []
  | cons t picks ih =>
      rw [List.mapM_cons]
      exact (fill_readable each t).bind fun _ => ih.bind fun _ => .pure _

theorem singlePassWithin_readable (levels depth : Nat) (request : Request) :
    (singlePassWithin library limits levels depth request).Readable := by
  induction levels generalizing depth request with
  | zero => exact .pure _
  | succ levels ih =>
      rw [singlePassWithin]
      cases library.get? request.keyword with
      | none => exact .pure _
      | some pool =>
          have clamped : (limits.clampAmount request.amount).Readable :=
            ⟨_, _, limits.clampAmount_allows request.amount⟩
          refine clamped.bind fun amount => ?_
          refine (Run.Readable.ofDraw (pool.picks_reads amount request.repeats)).bind fun picked => ?_
          cases picked with
          | none => exact .pure _
          | some picks =>
              refine (mapM_fill_readable (fun inner => ?_) picks).bind fun _ => .pure _
              exact recover_readable (ih (depth + 1) inner)

/-- What the replacement of one of its wildcards can emit, the filling of a text can emit. -/
theorem fill_canEmit (each : ∀ request, (nested request).Readable) {t body : Text}
    (member : body ∈ Wildcard.bodies t) (h : (replacement nested body).CanEmit P) :
    (fill nested t).CanEmit P := by
  induction t using Wildcard.scan.induct with
  | case1 t finished => simp [Wildcard.bodies_of_finished finished] at member
  | case2 t f leftmost ih =>
      rw [Wildcard.bodies_of_found leftmost] at member
      rw [fill_of_found leftmost]
      rcases List.mem_cons.mp member with rfl | later
      · exact h.bind_left fun _ => (fill_readable each f.rest).bind fun _ => .pure _
      · obtain ⟨spliced, events, ran⟩ := replacement_readable each f.body
        exact .bind_right ran ((ih later).bind_left fun _ => .pure _)

/-- What the filling of one of its templates can emit, a node that is asked for one pick can
emit. -/
theorem singlePassWithin_canEmit {levels depth : Nat} {keyword t : Text} {pool : Pool}
    (known : library.get? keyword = some pool) (held : t ∈ pool.items)
    (small : pool.items.length ≤ UInt64.size)
    (h : (fill (fun inner => recover (depth + 1) inner
      (singlePassWithin library limits levels (depth + 1) inner)) t).CanEmit P) :
    (singlePassWithin library limits (levels + 1) depth { keyword }).CanEmit P := by
  have one : limits.clamp 1 = 1 := by
    unfold Limits.clamp
    omega
  obtain ⟨words, chosen⟩ := Pool.picks_one_reads held small false
  rw [singlePassWithin]
  simp only [known]
  refine .bind_right (limits.clampAmount_allows 1) ?_
  rw [one]
  refine .bind_right (.ofDraw chosen) ?_
  simp only [List.mapM_cons, List.mapM_nil, bind_assoc, pure_bind]
  exact h.bind_left fun _ => .pure _

end Expansion

end PromptLoom
