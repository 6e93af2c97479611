import Mathlib.Order.Bounds.Defs
import PromptLoom.Proofs.Expansion.Spent
import PromptLoom.Proofs.Wildcard.Brackets
import PromptLoom.Proofs.Wildcard.Cuts

/-! # Scans tile a text

A scan cuts a text into gaps, wildcards and a tail in the only way there is, and the matches of the
scan are the places of the wildcards in the UTF-8 form of the text. They ascend without overlap, and
each of them starts at the first opening mark behind the one before it.
-/

namespace PromptLoom

namespace Text

variable {t front gap rest : Text}

theorem utf8ByteSize_ofList (t : Text) : (String.ofList t).utf8ByteSize = byteLength t := by
  induction t with
  | nil => rfl
  | cons c t ih =>
      have split : String.ofList (c :: t) = String.ofList [c] ++ String.ofList t := by
        rw [← String.ofList_append, List.singleton_append]
      rw [split, String.utf8ByteSize_append, ih]
      simp

/-- Behind the bytes of a first part of the text, no character is cut in two. -/
theorem isValid_of_isPrefix (first : front <+: t) :
    (String.Pos.Raw.mk (byteLength front)).IsValid (String.ofList t) := by
  obtain ⟨rest, rfl⟩ := first
  refine String.Pos.Raw.isValid_ofList.mpr ⟨front.length, ?_⟩
  rw [List.take_left, utf8ByteSize_ofList]

theorem eq_nil_of_byteLength (empty : byteLength t = 0) : t = [] := by
  cases t with
  | nil => rfl
  | cons c t =>
      have := c.utf8Size_pos
      simp only [byteLength_cons] at empty
      omega

/-- Of two first parts of a text, the one with fewer bytes is a first part of the other. -/
theorem isPrefix_of_byteLength_le {s u : Text} (first : s <+: t) (second : u <+: t)
    (le : byteLength s ≤ byteLength u) : s <+: u := by
  rcases List.prefix_or_prefix_of_prefix first second with shorter | ⟨more, rfl⟩
  · exact shorter
  · rw [byteLength_append] at le
    have empty := eq_nil_of_byteLength (t := more) (by omega)
    simp [empty]

theorem cutOpening_eq_none_iff : cutOpening t = none ↔ ¬ opening <:+: t := by
  constructor
  · rintro unopened ⟨before, after, rfl⟩
    exact cutOpening_ne_none before after unopened
  · intro absent
    cases found : cutOpening t with
    | none => rfl
    | some parts => exact absurd ⟨parts.1, parts.2, (eq_append_of_cutOpening found).symm⟩ absent

/-- An opening mark stands behind so many bytes of the text. -/
def OpensAt (t : Text) (n : Nat) : Prop :=
  ∃ before after, t = before ++ opening ++ after ∧ byteLength before = n

/-- No opening mark stands in front of the one that a cut finds. -/
theorem byteLength_le_of_cutOpening {before after : Text} (found : cutOpening t = some (gap, rest))
    (split : t = before ++ opening ++ after) : byteLength gap ≤ byteLength before := by
  cases earlier : cutOpening before with
  | none =>
      rw [split, cutOpening_opening earlier, Option.some.injEq, Prod.mk.injEq] at found
      exact Nat.le_of_eq (congrArg byteLength found.1.symm)
  | some parts =>
      rw [split, List.append_assoc, cutOpening_append_of_some _ earlier, Option.some.injEq,
        Prod.mk.injEq] at found
      rw [← found.1, eq_append_of_cutOpening earlier, List.append_assoc, byteLength_append]
      exact Nat.le_add_right _ _

/-- Behind a gap without opening mark stands the first opening mark from its start on. -/
theorem isLeast_opensAt (front rest : Text) (unopened : cutOpening gap = none) :
    IsLeast {n | byteLength front ≤ n ∧ OpensAt (front ++ (gap ++ opening ++ rest)) n}
      (byteLength (front ++ gap)) := by
  constructor
  · refine ⟨?_, front ++ gap, rest, by simp, rfl⟩
    rw [byteLength_append]
    exact Nat.le_add_right _ _
  · rintro n ⟨behind, before, after, split, rfl⟩
    have longer : before <+: front ++ (gap ++ opening ++ rest) :=
      ⟨opening ++ after, by rw [split, List.append_assoc]⟩
    obtain ⟨between, rfl⟩ :=
      isPrefix_of_byteLength_le (List.prefix_append front _) longer behind
    have inner : gap ++ opening ++ rest = between ++ opening ++ after := by
      simpa only [List.append_assoc, List.append_cancel_left_eq] using split
    have least := byteLength_le_of_cutOpening (cutOpening_opening unopened rest) inner
    simpa using least

end Text

namespace Wildcard

open Text

variable {t : Text} {offset : Nat} {pieces : List (Text × Text)}

/-- A gap and the wildcard behind it, as they stand in a text. -/
def pieceText (piece : Text × Text) : Text :=
  piece.1 ++ opening ++ piece.2 ++ [closing]

/-- The pieces and the tail are those of the text: there is no opening mark in a gap, no closing mark
in a body, and none behind an opening mark of the tail. -/
structure Cuts.Tiles (c : Cuts) (t : Text) : Prop where
  whole : c.pieces.flatMap pieceText ++ c.tail = t
  gaps : ∀ p ∈ c.pieces, ¬ opening <:+: p.1
  bodies : ∀ p ∈ c.pieces, closing ∉ p.2
  tail : Spent c.tail

theorem scan_tiles (t : Text) : (scan t).Tiles t := by
  induction t using scan.induct with
  | case1 t finished =>
      rw [scan_of_finished finished]
      exact ⟨rfl, by simp, by simp, spent_iff_find?.mpr finished⟩
  | case2 t f leftmost ih =>
      rw [scan_of_found leftmost]
      constructor
      · rw [eq_whole_of_find? leftmost, List.flatMap_cons, List.append_assoc, ih.whole]
        simp [pieceText, Found.whole, Found.written]
      · refine List.forall_mem_cons.mpr ⟨?_, ih.gaps⟩
        exact cutOpening_eq_none_iff.mp (gap_unopened leftmost)
      · exact List.forall_mem_cons.mpr ⟨body_unclosed leftmost, ih.bodies⟩
      · exact ih.tail

theorem Cuts.Tiles.eq_scan {c : Cuts} (tiles : c.Tiles t) : c = scan t := by
  obtain ⟨pieces, tail⟩ := c
  induction pieces generalizing t with
  | nil =>
      obtain rfl : tail = t := tiles.whole
      rw [scan_of_finished (spent_iff_find?.mp tiles.tail)]
  | cons p pieces ih =>
      obtain ⟨unopened, gaps⟩ := List.forall_mem_cons.mp tiles.gaps
      obtain ⟨unclosed, bodies⟩ := List.forall_mem_cons.mp tiles.bodies
      have leftmost : find? t = some ⟨p.1, p.2, pieces.flatMap pieceText ++ tail⟩ := by
        refine find?_eq_some_iff.mpr ⟨?_, unclosed⟩
        rw [← cutOpening_opening (cutOpening_eq_none_iff.mpr unopened), ← tiles.whole]
        simp [pieceText]
      rw [scan_of_found leftmost, ← ih ⟨rfl, gaps, bodies, tiles.tail⟩]

/-- The matches are the places of the wildcards, counted from the start of the text. -/
theorem getElem?_spansFrom (offset : Nat) (pieces : List (Text × Text)) (i : Nat) :
    (spansFrom offset pieces)[i]? = pieces[i]?.map fun p =>
      ⟨offset + byteLength ((pieces.take i).flatMap pieceText ++ p.1),
        offset + byteLength ((pieces.take (i + 1)).flatMap pieceText), p.2⟩ := by
  induction pieces generalizing offset i with
  | nil => rfl
  | cons p pieces ih =>
      cases i with
      | zero => simp [spansFrom, Found.span, Found.stop, Found.written, pieceText]
      | succ i =>
          rw [spansFrom, List.getElem?_cons_succ, ih, List.getElem?_cons_succ]
          simp [Found.span, Found.stop, Found.written, pieceText, Nat.add_assoc]

theorem mem_spansFrom {a : Span} (member : a ∈ spansFrom offset pieces) :
    offset ≤ a.start ∧ a.start < a.stop := by
  induction pieces generalizing offset with
  | nil => cases member
  | cons p pieces ih =>
      have here : offset ≤ (Found.span ⟨p.1, p.2, []⟩ offset).start ∧
          (Found.span ⟨p.1, p.2, []⟩ offset).start < (Found.span ⟨p.1, p.2, []⟩ offset).stop := by
        simp [Found.span, Found.stop, Found.written, opening]
        have := '{'.utf8Size_pos
        omega
      rcases List.mem_cons.mp member with rfl | later
      · exact here
      · obtain ⟨behind, wide⟩ := ih later
        exact ⟨by omega, wide⟩

theorem spansFrom_pairwise (offset : Nat) (pieces : List (Text × Text)) :
    (spansFrom offset pieces).Pairwise fun a b =>
      a.start < b.start ∧ a.stop ≤ b.start ∧ a.stop < b.stop := by
  induction pieces generalizing offset with
  | nil => exact .nil
  | cons p pieces ih =>
      refine List.pairwise_cons.mpr ⟨fun b later => ?_, ih _⟩
      have member : Found.span ⟨p.1, p.2, []⟩ offset ∈ spansFrom offset (p :: pieces) :=
        List.mem_cons_self
      have here := (mem_spansFrom member).2
      obtain ⟨behind, wide⟩ := mem_spansFrom later
      omega

/-- Where the scan goes on after its first matches. -/
def reached (earlier : List Span) : Nat :=
  earlier.getLast?.elim 0 Span.stop

theorem reached_eq {earlier more : List Span} (split : spansFrom 0 pieces = earlier ++ more) :
    reached earlier = byteLength ((pieces.take earlier.length).flatMap pieceText) := by
  rcases List.eq_nil_or_concat earlier with rfl | ⟨others, a, rfl⟩
  · rfl
  · have last : (spansFrom 0 pieces)[others.length]? = some a := by simp [split]
    rw [getElem?_spansFrom, Option.map_eq_some_iff] at last
    obtain ⟨p, -, rfl⟩ := last
    simp [reached]

theorem flatMap_take_succ {i : Nat} {p : Text × Text} (piece : pieces[i]? = some p) :
    (pieces.take (i + 1)).flatMap pieceText = (pieces.take i).flatMap pieceText ++ pieceText p := by
  rw [List.take_add_one, piece]
  simp

theorem Cuts.Tiles.exists_rest {c : Cuts} (tiles : c.Tiles t) {i : Nat} {p : Text × Text}
    (piece : c.pieces[i]? = some p) :
    ∃ rest, t = (c.pieces.take i).flatMap pieceText ++ pieceText p ++ rest := by
  refine ⟨(c.pieces.drop (i + 1)).flatMap pieceText ++ c.tail, ?_⟩
  rw [← flatMap_take_succ piece, ← List.append_assoc, ← List.flatMap_append,
    List.take_append_drop, tiles.whole]

/-- The match starts and ends between characters, at the first opening mark behind the matches
before it. -/
theorem follows_of_spans {earlier later : List Span} {a : Span}
    (split : spans t = earlier ++ a :: later) :
    IsLeast {n | reached earlier ≤ n ∧ OpensAt t n} a.start ∧
      (String.Pos.Raw.mk a.start).IsValid (String.ofList t) ∧
      (String.Pos.Raw.mk a.stop).IsValid (String.ofList t) := by
  have tiles := scan_tiles t
  have here : (spans t)[earlier.length]? = some a := by simp [split]
  rw [spans, getElem?_spansFrom, Option.map_eq_some_iff] at here
  obtain ⟨p, piece, rfl⟩ := here
  rw [reached_eq split, flatMap_take_succ piece]
  obtain ⟨rest, whole⟩ := tiles.exists_rest piece
  generalize ((scan t).pieces.take earlier.length).flatMap pieceText = front at whole ⊢
  have unopened := cutOpening_eq_none_iff.mpr (tiles.gaps p (List.mem_of_getElem? piece))
  simp only [Nat.zero_add]
  refine ⟨?_, isValid_of_isPrefix ?_, isValid_of_isPrefix ?_⟩
  · have first := isLeast_opensAt front (p.2 ++ closing :: rest) unopened
    rw [whole]
    simpa [pieceText] using first
  · exact ⟨opening ++ p.2 ++ closing :: rest, by simp [whole, pieceText]⟩
  · exact ⟨rest, whole.symm⟩

theorem head?_spans (t : Text) : (spans t).head? = (find? t).map fun f => f.span 0 := by
  cases found : find? t with
  | none => simp [spans, scan_of_finished found, spansFrom]
  | some f =>
      rw [spans, scan_of_found found]
      rfl

/-- Gaps, wildcards and a tail make up a text in one way only, which a scan finds, and its matches
are the places of the wildcards. Each starts at the first opening mark behind the match before it,
and without any match no closing mark stands behind an opening mark. -/
theorem spans_tile (t : Text) :
    (∀ c : Cuts, c.Tiles t ↔ c = scan t) ∧
      (∀ i : Nat, (spans t)[i]? = (scan t).pieces[i]?.map fun p =>
        ⟨byteLength (((scan t).pieces.take i).flatMap pieceText ++ p.1),
          byteLength (((scan t).pieces.take (i + 1)).flatMap pieceText), p.2⟩) ∧
      (∀ earlier a later, spans t = earlier ++ a :: later →
        IsLeast {n | reached earlier ≤ n ∧ OpensAt t n} a.start ∧
          (String.Pos.Raw.mk a.start).IsValid (String.ofList t) ∧
          (String.Pos.Raw.mk a.stop).IsValid (String.ofList t)) ∧
      (∀ a ∈ spans t, a.start < a.stop) ∧
      ((spans t).Pairwise fun a b => a.start < b.start ∧ a.stop ≤ b.start ∧ a.stop < b.stop) ∧
      (spans t).head? = (find? t).map (fun f => f.span 0) ∧
      (find? t = none ↔ Spent t) := by
  refine ⟨fun c => ⟨fun tiles => tiles.eq_scan, fun same => same ▸ scan_tiles t⟩, fun i => ?_,
    fun _ _ _ split => follows_of_spans split, fun a member => (mem_spansFrom member).2,
    spansFrom_pairwise 0 _, head?_spans t, spent_iff_find?.symm⟩
  rw [spans, getElem?_spansFrom]
  simp only [Nat.zero_add]

/-- Characters of two bytes, a mark behind a further question mark, a mark in a body and an
unterminated one. -/
def knotted : Text :=
  "é ??\x7ba?\x7bb\x7d\x7d ?\x7bß|2\x7d?\x7b".toList

theorem knotted_tiled :
    spans knotted = [⟨4, 11, "a?\x7bb".toList⟩, ⟨13, 20, "ß|2".toList⟩] ∧
      Cuts.Tiles ⟨[("é ?".toList, "a?\x7bb".toList), ("\x7d ".toList, "ß|2".toList)],
        "?\x7b".toList⟩ knotted ∧
      IsLeast {n | 11 ≤ n ∧ OpensAt knotted n} 13 ∧
      (String.Pos.Raw.mk 13).IsValid (String.ofList knotted) ∧
      (String.Pos.Raw.mk 20).IsValid (String.ofList knotted) ∧
      (find? knotted).map (fun f => f.span 0) = some ⟨4, 11, "a?\x7bb".toList⟩ := by
  obtain ⟨cuts, -, follows, -, -, first, -⟩ := spans_tile knotted
  have cut : scan knotted =
      ⟨[("é ?".toList, "a?\x7bb".toList), ("\x7d ".toList, "ß|2".toList)], "?\x7b".toList⟩ := by
    decide +kernel
  have places : spans knotted = [⟨4, 11, "a?\x7bb".toList⟩, ⟨13, 20, "ß|2".toList⟩] := by
    decide +kernel
  obtain ⟨least, start, stop⟩ := follows [⟨4, 11, "a?\x7bb".toList⟩] ⟨13, 20, "ß|2".toList⟩ [] places
  refine ⟨places, (cuts _).mpr cut.symm, least, start, stop, ?_⟩
  rw [← first, places]
  rfl

end Wildcard

end PromptLoom
