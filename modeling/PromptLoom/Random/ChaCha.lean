/-! # The ChaCha12 word stream

A seed of 64 bits is spread to a key of 256 bits, and the key and a block counter give sixteen words
of 32 bits per block. The four words of a row are worked on together, so that a round of the cipher
is one step on rows and the diagonal round is the same step between two rotations of the rows.
-/

namespace PromptLoom.Random

/-- Four words of 32 bits. -/
structure Row where
  a : UInt32
  b : UInt32
  c : UInt32
  d : UInt32
  deriving DecidableEq

namespace Row

def zipWith (f : UInt32 → UInt32 → UInt32) (x y : Row) : Row :=
  ⟨f x.a y.a, f x.b y.b, f x.c y.c, f x.d y.d⟩

def map (f : UInt32 → UInt32) (x : Row) : Row :=
  ⟨f x.a, f x.b, f x.c, f x.d⟩

/-- The row with its first word moved to the end. -/
def turn (x : Row) : Row :=
  ⟨x.b, x.c, x.d, x.a⟩

def words (x : Row) : List UInt32 :=
  [x.a, x.b, x.c, x.d]

end Row

/-- The sixteen words of a block, in four rows. -/
structure Block where
  first : Row
  second : Row
  third : Row
  fourth : Row
  deriving DecidableEq

/-- Rotate a word left by fewer than 32 places. -/
def rotateLeft (x n : UInt32) : UInt32 :=
  (x <<< n) ||| (x >>> (32 - n))

namespace Block

/-- Add one row to another, and mix the sum into a third row, which is then rotated. -/
def mix (sum addend target : Row) (places : UInt32) : Row × Row :=
  let total := sum.zipWith (· + ·) addend
  (total, (target.zipWith (· ^^^ ·) total).map (rotateLeft · places))

/-- The four quarter rounds on the columns. -/
def columnRound (s : Block) : Block :=
  let (a, d) := mix s.first s.second s.fourth 16
  let (c, b) := mix s.third d s.second 12
  let (a, d) := mix a b d 8
  let (c, b) := mix c d b 7
  ⟨a, b, c, d⟩

/-- A round on the columns and one on the diagonals. -/
def doubleRound (s : Block) : Block :=
  let t := s.columnRound
  let u := columnRound ⟨t.first, t.second.turn, t.third.turn.turn, t.fourth.turn.turn.turn⟩
  ⟨u.first, u.second.turn.turn.turn, u.third.turn.turn, u.fourth.turn⟩

def doubleRounds : Nat → Block → Block
  | 0, s => s
  | n + 1, s => doubleRounds n s.doubleRound

def add (s t : Block) : Block :=
  ⟨s.first.zipWith (· + ·) t.first, s.second.zipWith (· + ·) t.second,
   s.third.zipWith (· + ·) t.third, s.fourth.zipWith (· + ·) t.fourth⟩

def words (s : Block) : List UInt32 :=
  s.first.words ++ s.second.words ++ s.third.words ++ s.fourth.words

end Block

/-- The 256 bits of a key, in two rows. -/
structure Key where
  upper : Row
  lower : Row
  deriving DecidableEq

/-- The next state of the generator that spreads a seed. -/
def spread (state : UInt64) : UInt64 :=
  state * 6364136223846793005 + 11634580027462260723

/-- The key word that a state of the seed's generator gives. -/
def keyWord (state : UInt64) : UInt32 :=
  let x := (((state >>> 18) ^^^ state) >>> 27).toUInt32
  let places := (state >>> 59).toUInt32
  (x >>> places) ||| (x <<< (32 - places))

/-- Four key words and the state after them. -/
def keyRow (state : UInt64) : Row × UInt64 :=
  let s₁ := spread state
  let s₂ := spread s₁
  let s₃ := spread s₂
  let s₄ := spread s₃
  (⟨keyWord s₁, keyWord s₂, keyWord s₃, keyWord s₄⟩, s₄)

/-- The key of a seed. -/
def Key.ofSeed (seed : UInt64) : Key :=
  let (upper, state) := keyRow seed
  ⟨upper, (keyRow state).1⟩

/-- The block with the given number: six double rounds on the constants, the key and the number,
added to where they started from. -/
def Key.block (key : Key) (number : UInt64) : Block :=
  let start : Block :=
    ⟨⟨0x61707865, 0x3320646e, 0x79622d32, 0x6b206574⟩, key.upper, key.lower,
     ⟨number.toUInt32, (number >>> 32).toUInt32, 0, 0⟩⟩
  (Block.doubleRounds 6 start).add start

/-- The `n`-th word of 64 bits: two neighbouring words of a block, the low half first. -/
def Key.word (key : Key) (n : Nat) : UInt64 :=
  let words := (key.block (UInt64.ofNat (n / 8))).words
  let half (i : Nat) : UInt64 := (words.getD i 0).toUInt64
  half (n % 8 * 2) ||| (half (n % 8 * 2 + 1) <<< 32)

end PromptLoom.Random
