import PromptLoom.Text.Basic

/-! # Finding wildcards

A wildcard starts at the leftmost opening mark, a question mark followed by a brace, and ends at the
first closing brace after it. Braces are not balanced, so a body may hold further opening marks. A
scan cuts a text into gaps, bodies and a tail, and the pieces with their marks concatenate to the
text again.
-/

namespace PromptLoom

namespace Text

/-- The two characters that open a wildcard. -/
def opening : Text := ['?', '{']

/-- The character that closes a wildcard. -/
def closing : Char := '}'

/-- Cut at the leftmost opening mark. -/
def cutOpening : Text → Option (Text × Text)
  | [] => none
  | '?' :: '{' :: rest => some ([], rest)
  | c :: rest => (cutOpening rest).map fun parts => (c :: parts.1, parts.2)

theorem eq_append_of_cutOpening {t before after : Text} (h : cutOpening t = some (before, after)) :
    t = before ++ opening ++ after := by
  fun_induction cutOpening t generalizing before with
  | case1 => simp at h
  | case2 rest => simp_all [opening]
  | case3 c rest _ ih =>
    obtain ⟨parts, hp, he⟩ := Option.map_eq_some_iff.1 h
    simp only [Prod.mk.injEq] at he
    obtain ⟨rfl, rfl⟩ := he
    simp [ih hp]

end Text

namespace Wildcard

open Text

/-- A wildcard found in a text, with what stands before and after it. -/
structure Found where
  /-- The text before the opening mark. -/
  gap : Text
  /-- The text between the marks. -/
  body : Text
  /-- The text after the closing mark. -/
  rest : Text
  deriving DecidableEq

namespace Found

/-- The wildcard itself, marks included. -/
def written (f : Found) : Text :=
  opening ++ f.body ++ [closing]

/-- The text in which the wildcard was found. -/
def whole (f : Found) : Text :=
  f.gap ++ f.written ++ f.rest

/-- How far the closing mark ends after the start of the text, in bytes. -/
def stop (f : Found) : Nat :=
  byteLength (f.gap ++ f.written)

end Found

/-- The leftmost wildcard of a text. -/
def find? (t : Text) : Option Found :=
  match cutOpening t with
  | none => none
  | some (gap, after) =>
    match cut closing after with
    | none => none
    | some (body, rest) => some ⟨gap, body, rest⟩

theorem eq_whole_of_find? {t : Text} {f : Found} (h : find? t = some f) : t = f.whole := by
  unfold find? at h
  split at h
  · simp at h
  · rename_i gap after hopen
    split at h
    · simp at h
    · rename_i body rest hclose
      cases h
      simp [Found.whole, Found.written, eq_append_of_cutOpening hopen, eq_append_of_cut hclose]

theorem rest_length_lt {t : Text} {f : Found} (h : find? t = some f) :
    f.rest.length < t.length := by
  simp [eq_whole_of_find? h, Found.whole, Found.written, opening]
  omega

/-- A text cut at its wildcards: each with the gap before it, and the tail after the last one. -/
structure Cuts where
  /-- The gaps and bodies, in order. -/
  pieces : List (Text × Text)
  tail : Text
  deriving DecidableEq

/-- Cut a text at its wildcards; the scan resumes after each closing mark. -/
def scan (t : Text) : Cuts :=
  match _h : find? t with
  | none => ⟨[], t⟩
  | some f =>
    let more := scan f.rest
    ⟨(f.gap, f.body) :: more.pieces, more.tail⟩
termination_by t.length
decreasing_by exact rest_length_lt _h

/-- The bodies of the wildcards of a text, in order. -/
def bodies (t : Text) : List Text :=
  (scan t).pieces.map (·.2)

/-- Where a wildcard stands, in bytes from the start of its text. -/
structure Span where
  /-- The offset of the opening mark. -/
  start : Nat
  /-- The offset after the closing mark. -/
  stop : Nat
  body : Text
  deriving DecidableEq

/-- The place of a found wildcard in a text that has `offset` bytes in front of the searched part.
-/
def Found.span (f : Found) (offset : Nat) : Span :=
  ⟨offset + byteLength f.gap, offset + f.stop, f.body⟩

/-- The places of the cut-out wildcards, after `offset` bytes. -/
def spansFrom (offset : Nat) : List (Text × Text) → List Span
  | [] => []
  | (gap, body) :: rest =>
    let here := Found.span ⟨gap, body, []⟩ offset
    here :: spansFrom here.stop rest

/-- The places of the wildcards of a text, in order. -/
def spans (t : Text) : List Span :=
  spansFrom 0 (scan t).pieces

end Wildcard

end PromptLoom
