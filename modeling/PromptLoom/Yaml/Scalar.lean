import PromptLoom.Datum

/-! # Values of scalars

What a scalar stands for. In quotes it is a text; a plain one is nothing, a boolean, a number or a
text, as its form says, and a tag can settle which.
-/

namespace PromptLoom.Yaml

/-- Whether a text is one of the words for nothing. -/
def isNull (t : Text) : Bool :=
  ["~", "null", "Null", "NULL"].any (·.toList = t)

def boolean? (t : Text) : Option Bool :=
  if ["true", "True", "TRUE"].any (·.toList = t) then some true
  else if ["false", "False", "FALSE"].any (·.toList = t) then some false
  else none

/-- Whether a text is digits, more than one of them, that start with a zero. -/
def isZeroLed (unsigned : Text) : Bool :=
  1 < unsigned.length && unsigned.head? = some '0' && unsigned.all Char.isDigit

/-- The number that an integer without a sign writes, in one of four bases. -/
def magnitude? : Text → Option Nat
  | '0' :: 'x' :: digits => Decimal.readBase? 16 digits
  | '0' :: 'o' :: digits => Decimal.readBase? 8 digits
  | '0' :: 'b' :: digits => Decimal.readBase? 2 digits
  | digits => if isZeroLed digits then none else Decimal.read? digits

/-- The value of an integer. One that has 128 bits and not 64 has no text; one that does not even
have 128 bits counts as no integer. -/
def integer? (t : Text) : Option Datum := do
  let (negative, unsigned) := Decimal.Numeral.cutSign t
  let magnitude ← magnitude? unsigned
  match Datum.integerText? negative magnitude with
  | some written => return .scalar written
  | none =>
    let size := UInt64.size * UInt64.size
    if (if negative then 2 * magnitude ≤ size else magnitude < size) then return .other else none

def isInfinity (t : Text) : Bool :=
  [".inf", ".Inf", ".INF"].any (·.toList = t)

def isNotANumber (t : Text) : Bool :=
  [".nan", ".NaN", ".NAN"].any (·.toList = t)

/-- The value of a number with a fraction or an exponent, which is finite, or of a word for infinity
or for what is no number. -/
def float? (t : Text) : Option Datum :=
  let (negative, unsigned) := Decimal.Numeral.cutSign t
  if isInfinity unsigned then some (.scalar (if negative then "-inf".toList else "inf".toList))
  else if isNotANumber t then some (.scalar "NaN".toList)
  else if (unsigned.head?.any fun c => c = '+' || c = '-') then none
  else ((Decimal.Numeral.read? t).filter Decimal.Numeral.isFinite).map fun n => .scalar n.written

/-- The value of a plain scalar without a tag. -/
def plainValue (t : Text) : Datum :=
  if t.isEmpty || isNull t then .other
  else
    match boolean? t, integer? t with
    | some b, _ => .ofBool b
    | none, some n => n
    | none, none =>
      if isZeroLed (Decimal.Numeral.cutSign t).2 then .scalar t else (float? t).getD (.scalar t)

/-- The tag of a kind of value that the format itself knows. -/
def standardTag (kind : String) : Text :=
  "tag:yaml.org,2002:".toList ++ kind.toList

/-- Whether a tag belongs to the document alone. -/
def isLocal (tag : Text) : Bool :=
  tag.head? = some '!'

/-- The value of a scalar. The tags of booleans and numbers say how to read it, also in quotes; with
any other tag but a local one it is a text. -/
def scalarValue (tag : Option Text) (plain : Bool) (content : Text) : Datum :=
  match tag with
  | none => if plain then plainValue content else .scalar content
  | some tag =>
    if isLocal tag || tag = standardTag "null" then .other
    else if tag = standardTag "bool" then ((boolean? content).map Datum.ofBool).getD .other
    else if tag = standardTag "int" then (integer? content).getD .other
    else if tag = standardTag "float" then (float? content).getD .other
    else .scalar content

end PromptLoom.Yaml
