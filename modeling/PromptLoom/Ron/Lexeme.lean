import PromptLoom.Datum

/-! # The words of object notation

Blanks and comments, quoted and raw strings, characters, identifiers and numbers. Each reader takes
its word off the front of a text and gives the rest, or refuses the text.
-/

namespace PromptLoom.Ron

/-- Takes a value off the front of a text. -/
abbrev Reader (α : Type) : Type :=
  Text → Option (α × Text)

/-- Space, tab and the two line ends. -/
def isBlank (c : Char) : Bool :=
  c = ' ' || c = '\t' || c = '\n' || c = '\r'

/-- What is being passed over. -/
inductive Passing where
  | blanks
  /-- A comment that ends with its line. -/
  | line
  /-- A comment in so many others. -/
  | block (outer : Nat)

/-- Pass over blanks and comments; block comments nest and must be closed. -/
def skipFrom : Passing → Text → Option Text
  | .blanks, '/' :: '/' :: rest => skipFrom .line rest
  | .blanks, '/' :: '*' :: rest => skipFrom (.block 0) rest
  | .blanks, c :: rest =>
    if isBlank c then skipFrom .blanks rest else if c = '/' then none else some (c :: rest)
  | .line, '\n' :: rest => skipFrom .blanks rest
  | .line, _ :: rest => skipFrom .line rest
  | .block outer, '/' :: '*' :: rest => skipFrom (.block (outer + 1)) rest
  | .block 0, '*' :: '/' :: rest => skipFrom .blanks rest
  | .block (outer + 1), '*' :: '/' :: rest => skipFrom (.block outer) rest
  | .block outer, _ :: rest => skipFrom (.block outer) rest
  | .block _, [] => none
  | _, [] => some []

/-- Pass over blanks and comments. -/
def skip (t : Text) : Option Text :=
  skipFrom .blanks t

/-- Take one given character. -/
def expect (c : Char) : Text → Option Text
  | d :: rest => if d = c then some rest else none
  | [] => none

/-- Take given characters. -/
def takeWord : Text → Text → Option Text
  | [], t => some t
  | c :: word, t => (expect c t).bind (takeWord word)

/-! ## Strings -/

/-- The character with a code point, unless the number is none. -/
def charOfCode? (code : Nat) : Option Char :=
  if code.isValidChar then some (Char.ofNat code) else none

/-- Take the digits of a code point, one to six of them, and the brace after them. -/
def codePoint : Reader Char := fun t => do
  let hex := t.takeWhile fun c => (Decimal.digitValue? c).isSome
  if 6 < hex.length then none
  else
    let c ← (← Decimal.readBase? 16 hex) |> charOfCode?
    match t.drop hex.length with
    | '}' :: rest => return (c, rest)
    | _ => none

/-- Take what follows a backslash. -/
def escape : Reader Char
  | '\'' :: rest => some ('\'', rest)
  | '"' :: rest => some ('"', rest)
  | '\\' :: rest => some ('\\', rest)
  | 'n' :: rest => some ('\n', rest)
  | 'r' :: rest => some ('\r', rest)
  | 't' :: rest => some ('\t', rest)
  | '0' :: rest => some ('\x00', rest)
  | 'x' :: h :: l :: rest => do
    let code ← Decimal.readBase? 16 [h, l]
    return (← charOfCode? code, rest)
  | 'u' :: '{' :: rest => codePoint rest
  | _ => none

theorem codePoint_length {t rest : Text} {c : Char} (h : codePoint t = some (c, rest)) :
    rest.length < t.length := by
  simp only [codePoint] at h
  split at h
  · simp at h
  · generalize t.takeWhile (fun c => (Decimal.digitValue? c).isSome) = hex at h
    cases hr : Decimal.readBase? 16 hex with
    | none => simp [hr] at h
    | some code =>
      cases hc : charOfCode? code with
      | none => simp [hr, hc] at h
      | some d =>
        simp only [hr, hc, Option.bind_eq_bind, Option.bind_some] at h
        split at h
        · rename_i more hdrop
          cases h
          have := congrArg List.length hdrop
          simp only [List.length_drop, List.length_cons] at this
          omega
        · simp at h

theorem escape_length {t rest : Text} {c : Char} (h : escape t = some (c, rest)) :
    rest.length < t.length := by
  unfold escape at h
  split at h
  case h_8 h' l' more =>
    cases hr : Decimal.readBase? 16 [h', l'] with
    | none => simp [hr] at h
    | some code =>
      cases hc : charOfCode? code with
      | none => simp [hr, hc] at h
      | some d => simp [hr, hc] at h; grind
  case h_9 more => have := codePoint_length h; grind
  all_goals grind

/-- Take the characters of a string up to its closing quote. -/
def quotedRest : Reader Text
  | [] => none
  | '"' :: rest => some ([], rest)
  | '\\' :: rest =>
    match _h : escape rest with
    | none => none
    | some (c, more) => (quotedRest more).map fun r => (c :: r.1, r.2)
  | c :: rest => (quotedRest rest).map fun r => (c :: r.1, r.2)
termination_by t => t.length
decreasing_by
  · have := escape_length _h
    grind
  · simp

/-- Take the characters of a raw string up to the quote with `hashes` hash signs after it. -/
def rawRest (hashes : Nat) : Reader Text
  | [] => none
  | c :: rest =>
    if c = '"' ∧ rest.take hashes = List.replicate hashes '#' then some ([], rest.drop hashes)
    else (rawRest hashes rest).map fun r => (c :: r.1, r.2)

/-- Take a string, quoted or raw. -/
def string : Reader Text
  | '"' :: rest => quotedRest rest
  | 'r' :: rest =>
    let marks := rest.takeWhile (· = '#')
    match rest.drop marks.length with
    | '"' :: more => rawRest marks.length more
    | _ => none
  | _ => none

/-- Take a character in single quotes. -/
def character : Reader Char
  | '\'' :: '\\' :: rest => do
    let (c, more) ← escape rest
    return (c, ← expect '\'' more)
  | '\'' :: c :: '\'' :: rest => if c = '\'' then none else some (c, rest)
  | _ => none

/-! ## Identifiers -/

def isIdentStart (c : Char) : Bool :=
  c.isAlpha || c = '_'

def isIdentChar (c : Char) : Bool :=
  c.isAlphanum || c = '_'

/-- What a raw identifier may hold. -/
def isRawIdentChar (c : Char) : Bool :=
  isIdentChar c || c = '.' || c = '+' || c = '-'

/-- Take the run of characters that satisfy `p`. -/
def run (p : Char → Bool) (t : Text) : Text × Text :=
  (t.takeWhile p, t.dropWhile p)

/-- Take an identifier that is not raw; it must not go on with characters of a raw one. -/
def plainIdentifier : Reader Text := fun t =>
  let (name, rest) := run isIdentChar t
  if (rest.head?.map isRawIdentChar).getD false then none else some (name, rest)

/-- Take an identifier. After `r#` it is raw; `r` in front of a quote starts a string. -/
def identifier : Reader Text
  | ['r'] => none
  | 'r' :: '"' :: _ => none
  | 'r' :: '#' :: rest =>
    if (rest.head?.map isRawIdentChar).getD false then some (run isRawIdentChar rest) else none
  | c :: rest => if isIdentStart c then plainIdentifier (c :: rest) else none
  | [] => none

/-- Take a given word that does not go on as an identifier. -/
def keyword (word : Text) (t : Text) : Option Text := do
  let rest ← takeWord word t
  if (rest.head?.map isIdentChar).getD false then none else some rest

/-! ## Numbers -/

/-- What the digits of an integer may hold, whatever its base. -/
def isIntegerChar (c : Char) : Bool :=
  (Decimal.digitValue? c).isSome || c = '_'

def isFloatChar (c : Char) : Bool :=
  c.isDigit || c = 'e' || c = 'E' || c = '.' || c = '+' || c = '-' || c = '_'

/-- Take the mark of a base, `0x`, `0b` or `0o`. -/
def cutBase : Text → Nat × Text
  | '0' :: 'x' :: rest => (16, rest)
  | '0' :: 'b' :: rest => (2, rest)
  | '0' :: 'o' :: rest => (8, rest)
  | t => (10, t)

/-- Take an integer without a sign. Underscores may stand between and after its digits. -/
def natural : Reader Nat := fun t => do
  let (base, digits) := cutBase t
  let (written, rest) := run isIntegerChar digits
  if written.head? = some '_' then none
  else return (← Decimal.readBase? base (written.filter (· ≠ '_')), rest)

/-- Take an integer of 64 bits without a sign. -/
def word : Reader UInt64 := fun t => do
  let (n, rest) ← natural t
  if n < UInt64.size then return (UInt64.ofNat n, rest) else none

/-- Take an integer of 64 bits; without a sign it may use all of them. -/
def integer : Reader Text
  | '+' :: rest => do
    let (n, more) ← natural rest
    if 2 * n < UInt64.size then return (Decimal.digits n, more) else none
  | '-' :: rest => do
    let (n, more) ← natural rest
    return (← Datum.integerText? true n, more)
  | t => do
    let (n, more) ← natural t
    return (← Datum.integerText? false n, more)

/-- Take a number with a fraction or an exponent. -/
def float : Reader Text := fun t => do
  let (written, rest) := run isFloatChar t
  return ((← Decimal.Numeral.read? written).written, rest)

/-- Whether a number goes on, after its sign, longer as a float than as an integer. -/
def looksLikeFloat (t : Text) : Bool :=
  let unsigned := (Decimal.Numeral.cutSign t).2
  (run isIntegerChar unsigned).1.length < (run isFloatChar unsigned).1.length

/-- Take a number, as its text. What is no integer of 64 bits is read as a float. -/
def number : Reader Text := fun t =>
  if looksLikeFloat t then float t else integer t <|> float t

end PromptLoom.Ron
