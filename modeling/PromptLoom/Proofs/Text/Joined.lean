import PromptLoom.Pool
import PromptLoom.Proofs.Text.Opening

/-! # Lists in sentences

What connects the items of a list holds no marks and begins and ends with characters
that belong to no mark, so the list has the marks of its items and no others.
-/

namespace PromptLoom.Text

/-- What stands in front of an item with so many items behind it. -/
def link (behind : Nat) : Text :=
  if behind = 0 then " and ".toList else ", ".toList

theorem joinRest_cons (t : Text) (ts : List Text) :
    joinRest (t :: ts) = link ts.length ++ t ++ joinRest ts := by
  cases ts <;> simp [joinRest, link]

theorem not_brace_mem_link (behind : Nat) : '{' ∉ link behind := by
  unfold link
  split <;> decide

theorem not_welds_link_left (behind : Nat) (t : Text) : ¬ Welds (link behind) t := by
  unfold link Welds
  split <;> simp

theorem not_welds_joinRest (s : Text) (ts : List Text) : ¬ Welds s (joinRest ts) := by
  rintro ⟨-, first⟩
  cases ts with
  | nil => simp [joinRest] at first
  | cons t ts =>
      rw [joinRest_cons, link] at first
      split at first <;> simp at first

theorem not_brace_mem_joinRest {ts : List Text} (plain : ∀ t ∈ ts, '{' ∉ t) :
    '{' ∉ joinRest ts := by
  induction ts with
  | nil => exact List.not_mem_nil
  | cons t ts ih =>
      have first := plain t List.mem_cons_self
      have others := ih fun u held => plain u (List.mem_cons_of_mem t held)
      rw [joinRest_cons]
      simp [not_brace_mem_link, first, others]

theorem not_brace_mem_joinList {ts : List Text} (plain : ∀ t ∈ ts, '{' ∉ t) :
    '{' ∉ joinList ts := by
  cases ts with
  | nil => exact List.not_mem_nil
  | cons t ts =>
      have first := plain t List.mem_cons_self
      have others := not_brace_mem_joinRest fun u held => plain u (List.mem_cons_of_mem t held)
      simp [joinList, first, others]

theorem infix_joinRest {t : Text} {ts : List Text} (member : t ∈ ts) : t <:+: joinRest ts := by
  induction ts with
  | nil => cases member
  | cons u ts ih =>
      rw [joinRest_cons]
      rcases List.mem_cons.mp member with rfl | later
      · exact List.infix_append _ t _
      · exact (ih later).trans (List.suffix_append _ _).isInfix

theorem infix_joinList {t : Text} {ts : List Text} (member : t ∈ ts) : t <:+: joinList ts := by
  cases ts with
  | nil => cases member
  | cons u ts =>
      rcases List.mem_cons.mp member with rfl | later
      · exact (List.prefix_append t _).isInfix
      · exact (infix_joinRest later).trans (List.suffix_append u _).isInfix

end PromptLoom.Text
