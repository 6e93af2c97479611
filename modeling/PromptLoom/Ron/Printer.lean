import PromptLoom.Decimal.Natural
import PromptLoom.Library
import PromptLoom.Text.Printable

/-! # Writing object notation

The compact form, without blanks. In a quoted text both quotes, the backslash and four control
characters have a letter, every other character that is not printable is written by its code point
in hexadecimal, and all else stands for itself.
-/

namespace PromptLoom.Ron

/-- The letter that stands for a character behind a backslash. -/
def letter? : Char → Option Char
  | '\x00' => some '0'
  | '\t' => some 't'
  | '\r' => some 'r'
  | '\n' => some 'n'
  | '"' => some '"'
  | '\'' => some '\''
  | '\\' => some '\\'
  | _ => none

/-- A character inside quotes. -/
def escaped (c : Char) : Text :=
  match letter? c with
  | some l => ['\\', l]
  | none =>
    if Text.isPrintable c then [c]
    else '\\' :: 'u' :: '{' :: Nat.toDigits 16 c.toNat ++ ['}']

/-- A text in quotes. -/
def quoted (t : Text) : Text :=
  '"' :: t.flatMap escaped ++ ['"']

/-- Items with commas between them, inside brackets. -/
def bracketed (left right : Char) (items : List Text) : Text :=
  left :: Text.joined [','] items ++ [right]

def writtenPool : Pool → Text
  | .scalar value => quoted value
  | .collection items => bracketed '[' ']' (items.map quoted)

def writtenEntry (e : Text × Pool) : Text :=
  quoted e.1 ++ ':' :: writtenPool e.2

/-- A map from keywords to pools, its entries in the given order. -/
def writtenEntries (entries : List (Text × Pool)) : Text :=
  bracketed '{' '}' (entries.map writtenEntry)

/-- A library, its entries in ascending order. -/
def writtenLibrary (l : Library) : Text :=
  writtenEntries l.entries

end PromptLoom.Ron
