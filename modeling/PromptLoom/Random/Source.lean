import PromptLoom.Random.ChaCha

/-! # Sources of random words

A source is a sequence of 64-bit words with a reading position. From some point on every word is
zero, and a zero word is accepted by every draw; that is why a draw, which rejects words until one
falls into its zone, always ends.
-/

namespace PromptLoom.Random

/-- A stream of words that is zero from `size` on, read up to `position`. -/
structure Source where
  word : Nat → UInt64
  size : Nat
  word_eq_zero : ∀ n, size ≤ n → word n = 0
  position : Nat := 0

namespace Source

/-- The given words, then zeros. -/
def ofWords (words : List UInt64) : Source where
  word n := words.getD n 0
  size := words.length
  word_eq_zero n h := by simp [h]

/-- How many words the block counter of 64 bits reaches, with eight of them in each block. -/
def streamLength : Nat := 8 * UInt64.size

/-- The ChaCha12 stream of a seed, up to the end of its block counter. -/
def seeded (seed : UInt64) : Source :=
  let key := Key.ofSeed seed
  { word := fun n => if n < streamLength then key.word n else 0
    size := streamLength
    word_eq_zero := fun n h => by simp [Nat.not_lt.2 h] }

/-- The source after one more word. -/
def advance (s : Source) : Source :=
  { s with position := s.position + 1 }

/-- The greatest low half of a product that a draw below `range` accepts: the multiple of `range`
by a power of two that has 64 bits, less one. -/
def zone (range : Nat) : Nat :=
  range <<< (63 - range.log2) - 1

/-- A uniform number below `range`, and the source after the words that it took. Each word is
multiplied by `range`; the high half of the product is the result if the low half is in the zone. -/
def below (range : Nat) (s : Source) : Nat × Source :=
  let product := (s.word s.position).toNat * range
  if product % UInt64.size ≤ zone range then (product / UInt64.size, s.advance)
  else below range s.advance
termination_by s.size - s.position
decreasing_by
  rename_i h
  have hlt : s.position < s.size := by
    apply Nat.lt_of_not_le
    intro hle
    apply h
    simp [product, s.word_eq_zero s.position hle]
  simp only [advance]
  omega

end Source

/-- A computation that draws from a source. -/
abbrev Draw := StateM Source

/-- Draw a number below `range`. -/
def draw (range : Nat) : Draw Nat :=
  fun s => s.below range

end PromptLoom.Random
