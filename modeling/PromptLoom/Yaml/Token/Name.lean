import PromptLoom.Decimal.Natural
import PromptLoom.Yaml.Token.Basic

/-! # Anchors, tags and directives

The tokens that are made of names.
-/

namespace PromptLoom.Yaml

/-- Whether an anchor may end in front of a character; it may also end with the text. -/
def endsAnchor (c : Char) : Bool :=
  isBlank c || isBreak c || "?:,]\x7d%@\x60".toList.contains c

/-- Take the name of an anchor or an alias, after its mark. -/
def anchorName : Scan Text := fun ps =>
  let (name, rest) := ps.run isNameChar
  if name.isEmpty || (rest.peek 0).any (!endsAnchor ·) then none else some (name, rest)

/-- Take the handle of a tag: an exclamation mark, and perhaps a name and a second one. -/
def tagHandle : Scan Text := fun ps =>
  match ps with
  | [] => none
  | p :: rest =>
    if p.char ≠ '!' then none
    else
      let (name, rest) := Places.run isNameChar rest
      match rest with
      | q :: more =>
        if q.char = '!' then some ('!' :: name ++ ['!'], more) else some ('!' :: name, rest)
      | [] => some ('!' :: name, [])

/-- What the rest of a tag may hold; brackets and commas only where nothing else can end it. -/
def isTagChar (verbatim : Bool) (c : Char) : Bool :=
  isNameChar c || ";/?:@&=+$.%!~*'()".toList.contains c || (verbatim && ",[]".toList.contains c)

/-- Take one octet, written as a percent sign and two digits. -/
def octet : Scan Nat := fun ps =>
  match ps with
  | p :: h :: l :: rest =>
    if p.char = '%' then (Decimal.readBase? 16 [h.char, l.char]).map fun n => (n, rest) else none
  | _ => none

/-- Take further octets of a character whose first octets are worth `value`. -/
def furtherOctets : Nat → Nat → Scan Nat
  | 0, value, ps => some (value, ps)
  | count + 1, value, ps => do
    let (n, rest) ← octet ps
    if n / 64 = 2 then furtherOctets count (value * 64 + n % 64) rest else none

/-- Take a character that is written by its octets. -/
def octetChar : Scan Char := fun ps => do
  let (first, rest) ← octet ps
  let (value, count) ←
    if first < 0x80 then some (first, 0)
    else if first / 32 = 6 then some (first % 32, 1)
    else if first / 16 = 14 then some (first % 16, 2)
    else if first / 8 = 30 then some (first % 8, 3)
    else none
  let (code, rest) ← furtherOctets count value rest
  return (Char.ofNat code, rest)

/-- Take the rest of a tag; `bound` is a number of characters that it cannot have. -/
def tagRest (verbatim : Bool) : Nat → Scan Text
  | 0, _ => none
  | _, [] => some ([], [])
  | bound + 1, p :: rest =>
    if p.char = '%' then do
      let (d, rest) ← octetChar (p :: rest)
      let (more, rest) ← tagRest verbatim bound rest
      return (d :: more, rest)
    else if isTagChar verbatim p.char then do
      let (more, rest) ← tagRest verbatim bound rest
      return (p.char :: more, rest)
    else some ([], p :: rest)

/-- Take the characters of a tag after its handle. -/
def tagSuffix (verbatim : Bool) : Scan Text := fun ps =>
  tagRest verbatim (ps.length + 1) ps

/-- Take characters of a tag, one at least. -/
def tagSuffix₁ (verbatim : Bool) : Scan Text := fun ps => do
  let (suffix, rest) ← tagSuffix verbatim ps
  if suffix.isEmpty then none else return (suffix, rest)

/-- Take a tag: verbatim between angle brackets, or with a handle. What follows a single mark is a
suffix of the handle `!`; the mark alone has no handle. -/
def tagToken : Scan Token := fun ps =>
  if ps.peek 1 = some '<' then do
    let (suffix, rest) ← tagSuffix₁ true (ps.drop 2)
    if rest.peek 0 = some '>' then return (.tag [] suffix, rest.drop 1) else none
  else do
    let (handle, rest) ← tagHandle ps
    if 2 ≤ handle.length ∧ handle.getLast? = some '!' then
      let (suffix, rest) ← tagSuffix₁ false rest
      return (.tag handle suffix, rest)
    else
      let (suffix, rest) ← tagSuffix false rest
      let whole := handle.drop 1 ++ suffix
      return (if whole.isEmpty then .tag [] ['!'] else .tag ['!'] whole, rest)

/-- Take a tag and check that it ends there; in flow a comma may follow it. -/
def tag (inFlow : Bool) : Scan Token := fun ps => do
  let (t, rest) ← tagToken ps
  if rest.endsWord 0 || (inFlow && rest.peek 0 = some ',') then return (t, rest) else none

/-- Take a number of a version, of at most nine digits. -/
def versionNumber : Scan Nat := fun ps => do
  let (digits, rest) := ps.run Char.isDigit
  if 9 < digits.length then none else return (← Decimal.read? digits, rest)

/-- Take what follows the name of a directive. -/
def directiveValue (name : Text) : Scan Token := fun ps => do
  if name = "YAML".toList then
    let (major, rest) ← versionNumber ps.skipBlanks
    if rest.peek 0 ≠ some '.' then none
    else
      let (minor, rest) ← versionNumber (rest.drop 1)
      return (.versionDirective major minor, rest)
  else if name = "TAG".toList then
    let (handle, rest) ← tagHandle ps.skipBlanks
    if handle.getLast? ≠ some '!' ∨ !(rest.peek 0).any isBlank then none
    else
      let (lead, rest) ← tagSuffix₁ true rest.skipBlanks
      if rest.endsWord 0 then return (.tagDirective handle lead, rest) else none
  else none

/-- Take a directive, from its percent sign to the end of its line. -/
def directive : Scan Token := fun ps => do
  let (name, rest) := Places.run isNameChar (ps.drop 1)
  if name.isEmpty || !rest.endsWord 0 then none
  else
    let (t, rest) ← directiveValue name rest
    return (t, ← rest.skipLineEnd)

end PromptLoom.Yaml
