import PromptLoom.Proofs.Text.Joined
import PromptLoom.Proofs.Wildcard.Splice

/-! # Scans of concatenated texts

The wildcards that a scan finds in two texts are those that it finds in their
concatenation, if the first text leaves no opening mark behind and none comes
about at the border.
-/

namespace PromptLoom.Wildcard

open Text

theorem scan_of_finished {t : Text} (finished : find? t = none) : scan t = ⟨[], t⟩ := by
  rw [scan]
  split
  · rfl
  · simp_all

theorem scan_of_found {t : Text} {f : Found} (leftmost : find? t = some f) :
    scan t = ⟨(f.gap, f.body) :: (scan f.rest).pieces, (scan f.rest).tail⟩ := by
  rw [scan]
  split
  · simp_all
  · simp_all

theorem bodies_of_finished {t : Text} (finished : find? t = none) : bodies t = [] := by
  simp [bodies, scan_of_finished finished]

theorem bodies_of_found {t : Text} {f : Found} (leftmost : find? t = some f) :
    bodies t = f.body :: bodies f.rest := by
  simp [bodies, scan_of_found leftmost]

/-- What a scan leaves behind the last wildcard holds no opening mark. -/
def Terminated (t : Text) : Prop :=
  cutOpening (scan t).tail = none

theorem terminated_of_finished {t : Text} (finished : find? t = none) :
    Terminated t ↔ cutOpening t = none := by
  rw [Terminated, scan_of_finished finished]

theorem terminated_of_found {t : Text} {f : Found} (leftmost : find? t = some f) :
    Terminated t ↔ Terminated f.rest := by
  rw [Terminated, Terminated, scan_of_found leftmost]

theorem terminated_of_unopened {t : Text} (unopened : cutOpening t = none) : Terminated t :=
  (terminated_of_finished (find?_eq_none_of_unopened unopened)).mpr unopened

theorem Terminated.append {s t : Text} (left : Terminated s) (right : Terminated t)
    (border : ¬ Welds s t) :
    Terminated (s ++ t) ∧ bodies (s ++ t) = bodies s ++ bodies t := by
  induction s using scan.induct with
  | case1 s finished =>
      have unopened := (terminated_of_finished finished).mp left
      have joint := find?_append_left unopened border
      rw [bodies_of_finished finished, List.nil_append]
      cases found : find? t with
      | none =>
          rw [found, Option.map_none] at joint
          refine ⟨?_, by rw [bodies_of_finished joint, bodies_of_finished found]⟩
          have right := (terminated_of_finished found).mp right
          exact terminated_of_unopened (cutOpening_append_eq_none unopened right border)
      | some f =>
          rw [found, Option.map_some] at joint
          refine ⟨?_, by rw [bodies_of_found joint, bodies_of_found found]⟩
          exact (terminated_of_found joint).mpr ((terminated_of_found found).mp right)
  | case2 s f leftmost ih =>
      have apart : ¬ Welds f.rest t := by
        intro welds
        apply border
        rw [eq_whole_of_find? leftmost, Found.whole]
        exact (welds_append_left welds.nonempty_left).mpr welds
      obtain ⟨terminated, split⟩ := ih ((terminated_of_found leftmost).mp left) apart
      have joint := find?_append_right leftmost t
      refine ⟨(terminated_of_found joint).mpr terminated, ?_⟩
      rw [bodies_of_found joint, bodies_of_found leftmost, split, List.cons_append]

/-- A text without opening mark in front adds no wildcard. -/
theorem Terminated.prepend {s t : Text} (right : Terminated t) (unopened : cutOpening s = none)
    (border : ¬ Welds s t) : Terminated (s ++ t) ∧ bodies (s ++ t) = bodies t := by
  have joint := (terminated_of_unopened unopened).append right border
  rwa [bodies_of_finished (find?_eq_none_of_unopened unopened), List.nil_append] at joint

theorem terminated_nil : Terminated [] ∧ bodies [] = [] :=
  ⟨terminated_of_unopened rfl, bodies_of_finished rfl⟩

theorem terminated_joinRest {ts : List Text} (each : ∀ t ∈ ts, Terminated t) :
    Terminated (joinRest ts) ∧ bodies (joinRest ts) = ts.flatMap bodies := by
  induction ts with
  | nil => exact terminated_nil
  | cons t ts ih =>
      have first := each t List.mem_cons_self
      obtain ⟨others, found⟩ := ih fun u held => each u (List.mem_cons_of_mem t held)
      have items := first.append others (not_welds_joinRest t ts)
      have unopened := cutOpening_eq_none_of_not_mem (not_brace_mem_link ts.length)
      rw [joinRest_cons, List.append_assoc, List.flatMap_cons, ← found, ← items.2]
      exact items.1.prepend unopened (not_welds_link_left _ _)

/-- A list of texts has the wildcards of its items: what connects the items makes no
opening mark with them. -/
theorem terminated_joinList {ts : List Text} (each : ∀ t ∈ ts, Terminated t) :
    Terminated (joinList ts) ∧ bodies (joinList ts) = ts.flatMap bodies := by
  cases ts with
  | nil => exact terminated_nil
  | cons t ts =>
      obtain ⟨others, found⟩ :=
        terminated_joinRest fun u held => each u (List.mem_cons_of_mem t held)
      rw [joinList, List.flatMap_cons, ← found]
      exact (each t List.mem_cons_self).append others (not_welds_joinRest t ts)

end PromptLoom.Wildcard
