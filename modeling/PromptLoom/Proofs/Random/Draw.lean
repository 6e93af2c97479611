import PromptLoom.Random.Source

/-! # Draws and the words they take

A draw below a range gives a number of the range, and every number of a range of up
to 64 bits is given for some word. A draw reads words when every source that offers
these words next gives the same value and stands behind them afterwards, so the words
of draws that follow each other can be chosen one after the other.
-/

namespace PromptLoom.Random

namespace Source

theorem below_lt {range : Nat} (positive : 0 < range) (s : Source) :
    (s.below range).1 < range := by
  fun_induction below range s with
  | case1 s product accepted =>
      apply Nat.div_lt_of_lt_mul
      exact Nat.mul_lt_mul_of_pos_right (s.word s.position).toNat_lt positive
  | case2 s product rejected ih => exact ih

/-- The source after `n` more words. -/
def skip (s : Source) (n : Nat) : Source :=
  { s with position := s.position + n }

theorem skip_skip (s : Source) (m n : Nat) : (s.skip m).skip n = s.skip (m + n) := by
  simp [skip, Nat.add_assoc]

/-- The next words of the source are the given ones. -/
def Offers (s : Source) (words : List UInt64) : Prop :=
  ∀ i w, words[i]? = some w → s.word (s.position + i) = w

theorem ofWords_offers (words : List UInt64) : (ofWords words).Offers words := by
  intro i w h
  simp [ofWords, h]

theorem offers_append {s : Source} {first second : List UInt64} :
    s.Offers (first ++ second) ↔ s.Offers first ∧ (s.skip first.length).Offers second := by
  constructor
  · intro h
    refine ⟨fun i w at_i => h i w ?_, fun i w at_i => ?_⟩
    · obtain ⟨inside, _⟩ := List.getElem?_eq_some_iff.mp at_i
      rw [List.getElem?_append_left inside, at_i]
    · have behind := h (first.length + i) w
        (by rwa [List.getElem?_append_right (Nat.le_add_right _ _), Nat.add_sub_cancel_left])
      simpa [skip, Nat.add_assoc] using behind
  · rintro ⟨front, back⟩ i w at_i
    by_cases inside : i < first.length
    · exact front i w (by rwa [List.getElem?_append_left inside] at at_i)
    · have beyond := Nat.le_of_not_lt inside
      rw [List.getElem?_append_right beyond] at at_i
      have behind := back (i - first.length) w at_i
      rwa [skip, Nat.add_assoc, Nat.add_sub_cancel' beyond] at behind

/-- Words whose product with the range lies less than the range above a multiple of
the word size are accepted. -/
theorem le_zone {range low : Nat} (small : low < range) : low ≤ zone range := by
  have wide : range ≤ range <<< (63 - range.log2) := by
    rw [Nat.shiftLeft_eq]
    exact Nat.le_mul_of_pos_right _ (Nat.two_pow_pos _)
  unfold zone
  omega

/-- The zone is the same in words of 64 bits: the shift drops no bit and leaves one to take off. -/
theorem zone_eq_toNat {range : Nat} (positive : 0 < range) (small : range < UInt64.size) :
    zone range = ((UInt64.ofNat range <<< UInt64.ofNat (63 - range.log2)) - 1).toNat := by
  have bits : range.log2 < 64 := (Nat.log2_lt (Nat.ne_of_gt positive)).mpr small
  have least : 1 ≤ range <<< (63 - range.log2) := by
    rw [Nat.shiftLeft_eq]
    exact Nat.mul_pos positive (Nat.two_pow_pos _)
  have fits : range <<< (63 - range.log2) < 2 ^ 64 := by
    rw [Nat.shiftLeft_eq]
    calc
      range * 2 ^ (63 - range.log2) < 2 ^ (range.log2 + 1) * 2 ^ (63 - range.log2) :=
        Nat.mul_lt_mul_of_pos_right Nat.lt_log2_self (Nat.two_pow_pos _)
      _ = 2 ^ 64 := by
        rw [← Nat.pow_add, show range.log2 + 1 + (63 - range.log2) = 64 by omega]
  have shifted : (UInt64.ofNat range <<< UInt64.ofNat (63 - range.log2)).toNat =
      range <<< (63 - range.log2) := by
    have places : 63 - range.log2 < UInt64.size := Nat.lt_of_le_of_lt (Nat.sub_le _ _) (by decide)
    rw [UInt64.toNat_shiftLeft, UInt64.toNat_ofNat_of_lt' small, UInt64.toNat_ofNat_of_lt' places,
      Nat.mod_eq_of_lt (by omega : 63 - range.log2 < 64), Nat.mod_eq_of_lt fits]
  have one : 1 ≤ UInt64.ofNat range <<< UInt64.ofNat (63 - range.log2) := by
    rwa [UInt64.le_iff_toNat_le, shifted]
  rw [zone, UInt64.toNat_sub_of_le _ _ one, shifted]
  rfl

/-- Every number of a range is drawn for some word. -/
theorem exists_word {range n : Nat} (inside : n < range) (small : range ≤ UInt64.size) :
    ∃ word : UInt64, ∀ s : Source, s.word s.position = word → s.below range = (n, s.advance) := by
  -- The least word whose product with the range reaches `n` times the word size.
  let word := (n * UInt64.size + (range - 1)) / range
  have reaches : n * UInt64.size ≤ word * range := by
    have division := Nat.div_add_mod (n * UInt64.size + (range - 1)) range
    have remainder := Nat.mod_lt (n * UInt64.size + (range - 1)) (Nat.zero_lt_of_lt inside)
    rw [Nat.mul_comm] at division
    change word * range + _ = _ at division
    omega
  have below : word * range ≤ n * UInt64.size + (range - 1) := Nat.div_mul_le_self _ _
  obtain ⟨excess, close, split⟩ : ∃ excess < range, word * range = n * UInt64.size + excess :=
    ⟨word * range - n * UInt64.size, by omega, by omega⟩
  have product : word * range = UInt64.size * n + excess := by rw [split, Nat.mul_comm]
  have fits : word < UInt64.size := by
    apply Nat.lt_of_mul_lt_mul_right
    calc
      word * range < UInt64.size * (n + 1) := by
        rw [product, Nat.mul_add]
        omega
      _ ≤ UInt64.size * range := Nat.mul_le_mul_left _ inside
  have low : excess < UInt64.size := Nat.lt_of_lt_of_le close small
  refine ⟨UInt64.ofNat word, fun s offered => ?_⟩
  have value : (s.word s.position).toNat * range = UInt64.size * n + excess := by
    rw [offered, UInt64.toNat_ofNat_of_lt' fits, product]
  rw [Source.below, value, Nat.mul_add_mod, Nat.mod_eq_of_lt low, if_pos (le_zone close),
    Nat.mul_add_div (by decide), Nat.div_eq_of_lt low, Nat.add_zero]

end Source

variable {α β : Type}

/-- Whatever source offers the words, the draw takes them all and gives the value. -/
def Reads (d : Draw α) (words : List UInt64) (a : α) : Prop :=
  ∀ s : Source, s.Offers words → d s = (a, s.skip words.length)

namespace Reads

theorem pure (a : α) : Reads (Pure.pure a) [] a :=
  fun _ _ => rfl

theorem bind {d : Draw α} {f : α → Draw β} {first second : List UInt64} {a : α} {b : β}
    (h : Reads d first a) (k : Reads (f a) second b) : Reads (d >>= f) (first ++ second) b := by
  intro s offered
  obtain ⟨front, back⟩ := Source.offers_append.mp offered
  change f (d s).1 (d s).2 = _
  rw [h s front, k _ back, Source.skip_skip, List.length_append]

theorem draw {range n : Nat} (inside : n < range) (small : range ≤ UInt64.size) :
    ∃ words, Reads (Random.draw range) words n := by
  obtain ⟨word, drawn⟩ := Source.exists_word inside small
  exact ⟨[word], fun s offered => drawn s (offered 0 word rfl)⟩

/-- A zero word is accepted for every range and gives zero. -/
theorem draw_zero (range : Nat) : Reads (Random.draw range) [0] 0 := by
  intro s offered
  have zero : s.word s.position = 0 := offered 0 0 rfl
  rw [Random.draw, Source.below, zero]
  simp [Source.skip, Source.advance]

end Reads

end PromptLoom.Random
