import PromptLoom.Text.Basic

/-! # Characters and their places

A document in block notation is scanned character by character, and much depends on the column in
which a character stands. So a text is first turned into a list of its characters with their
places. The line ends of one and two characters become one line feed; the two Unicode separators
are line ends that keep their character.
-/

namespace PromptLoom.Yaml

/-- A character with its line and column, both counted from zero. -/
structure Place where
  char : Char
  line : Nat
  column : Nat

/-- What is left to scan. -/
abbrev Places : Type := List Place

/-- Whether a character may stand in a document. -/
def isAllowed (c : Char) : Bool :=
  let n := c.toNat
  n = 0x09 || n = 0x0A || n = 0x0D || (0x20 ≤ n && n ≤ 0x7E) || n = 0x85 ||
    (0xA0 ≤ n && n ≤ 0xD7FF) || (0xE000 ≤ n && n ≤ 0xFFFD) || 0x10000 ≤ n

def isBreak (c : Char) : Bool :=
  c = '\n' || c = '\u2028' || c = '\u2029'

def isBlank (c : Char) : Bool :=
  c = ' ' || c = '\t'

/-- Letters, digits, underscore and minus sign, all of them ASCII. -/
def isNameChar (c : Char) : Bool :=
  c.isAlphanum || c = '_' || c = '-'

/-- The mark of byte order, which may open a line. -/
def byteOrderMark : Char := '\uFEFF'

/-- One line feed for each carriage return, line feed, pair of both, and next-line character. -/
def unifyBreaks : Text → Text
  | '\r' :: '\n' :: rest => '\n' :: unifyBreaks rest
  | '\r' :: rest => '\n' :: unifyBreaks rest
  | '\u0085' :: rest => '\n' :: unifyBreaks rest
  | c :: rest => c :: unifyBreaks rest
  | [] => []

/-- Give each character its place. -/
def placesFrom (line column : Nat) : Text → Places
  | [] => []
  | c :: rest =>
    ⟨c, line, column⟩ ::
      if isBreak c then placesFrom (line + 1) 0 rest else placesFrom line (column + 1) rest

/-- The places of a text without the mark of byte order at its start; `none` if a character may not
stand in a document. -/
def places? (t : Text) : Option Places :=
  let content := match t with
    | c :: rest => if c = byteOrderMark then rest else t
    | [] => []
  if content.all isAllowed then some (placesFrom 0 0 (unifyBreaks content)) else none

namespace Places

/-- The character at a distance from the first one. -/
def peek (ps : Places) (distance : Nat) : Option Char :=
  ps[distance]?.map Place.char

/-- Whether the character at a distance is blank or a line end, or the text has ended before it. -/
def endsWord (ps : Places) (distance : Nat) : Bool :=
  (ps.peek distance).all fun c => isBlank c || isBreak c

/-- Whether a line starts here with three of the given characters, and nothing sticks to them. -/
def isRuler (ps : Places) (c : Char) : Bool :=
  (ps.head?.map Place.column) = some 0 && (ps.take 3).map Place.char = [c, c, c] &&
    ps.endsWord 3

/-- Whether a document starts or ends here. -/
def isDocumentMark (ps : Places) : Bool :=
  ps.isRuler '-' || ps.isRuler '.'

/-- Take the run of characters that satisfy `p`. -/
def run (p : Char → Bool) (ps : Places) : Text × Places :=
  ((ps.takeWhile (p ·.char)).map Place.char, ps.dropWhile (p ·.char))

/-- Pass over blanks. -/
def skipBlanks (ps : Places) : Places :=
  ps.dropWhile (isBlank ·.char)

/-- Pass over a comment, up to the end of its line. -/
def skipComment (ps : Places) : Places :=
  if ps.peek 0 = some '#' then ps.dropWhile (!isBreak ·.char) else ps

/-- Pass over blanks, a comment and one line end; `none` if anything else stands there. -/
def skipLineEnd (ps : Places) : Option Places :=
  match ps.skipBlanks.skipComment with
  | [] => some []
  | p :: rest => if isBreak p.char then some rest else none

end Places

end PromptLoom.Yaml
