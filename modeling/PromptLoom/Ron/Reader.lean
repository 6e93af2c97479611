import PromptLoom.Library
import PromptLoom.Ron.Lexeme

/-! # Reading object notation

Values of any form, as far as a library or a setting needs them, and the frame of a document: the
attributes that switch extensions on, the value, and nothing after it.
-/

namespace PromptLoom.Ron

/-- How deep lists, maps and structures may nest. -/
def nestingLimit : Nat := 128

/-- Take elements with commas between them, up to and including `right`. A comma may follow the last
one. `bound` is a number of elements that the text cannot have. -/
def elements {α : Type} (element : Reader α) (right : Char) : Nat → Reader (List α)
  | 0, _ => none
  | bound + 1, t => do
    let t ← skip t
    match expect right t with
    | some rest => return ([], rest)
    | none =>
      let (first, t) ← element t
      let t ← skip t
      match expect ',' t with
      | some t =>
        let (others, rest) ← elements element right bound t
        return (first :: others, rest)
      | none => return ([first], ← expect right t)

/-- Take elements up to and including `right`; each takes at least one character. -/
def separated {α : Type} (element : Reader α) (right : Char) : Reader (List α) :=
  fun t => elements element right (t.length + 1) t

/-- Take a key, a colon and a value. -/
def pair {α β : Type} (key : Reader α) (value : α → Reader β) : Reader (α × β) := fun t => do
  let (k, t) ← key t
  let t ← expect ':' (← skip t)
  let (v, rest) ← value k (← skip t)
  return ((k, v), rest)

/-- Whether parentheses hold fields with names. -/
def hasFieldNames (t : Text) : Bool :=
  match identifier t with
  | none => false
  | some (_, rest) => ((skip rest).bind List.head?) = some ':'

/-- Words that are values of their own. -/
def literal? (t : Text) : Option (Datum × Text) :=
  (do return (.ofBool true, ← keyword "true".toList t)) <|>
  (do return (.ofBool false, ← keyword "false".toList t)) <|>
  (do return (.other, ← keyword "None".toList t)) <|>
  (do return (.other, ← takeWord "()".toList t)) <|>
  (do return (.scalar "inf".toList, ← keyword "inf".toList t)) <|>
  (do return (.scalar "-inf".toList, ← keyword "-inf".toList t)) <|>
  (do return (.scalar "NaN".toList, ← keyword "NaN".toList t))

/-- Take what stands in parentheses: elements without names are a list. -/
def parenthesized (value : Reader Datum) : Reader Datum := fun t => do
  let t ← skip t
  if hasFieldNames t then
    return (.other, (← separated (pair identifier fun _ => value) ')' t).2)
  else
    let (items, rest) ← separated value ')' t
    return (.list items, rest)

/-- Take an optional value after its word. Without parentheses the value itself follows, if that is
switched on. -/
def optional (implicitSome : Bool) (value : Reader Datum) : Reader Datum := fun t => do
  match expect '(' (← skip t) with
  | some t =>
    let (_, t) ← value (← skip t)
    let t ← skip t
    let t ← skip ((expect ',' t).getD t)
    return (.other, ← expect ')' t)
  | none => if implicitSome then return (.other, (← value (← skip t)).2) else none

/-- Take a value of any form, with up to `levels` lists, maps and structures around each other. -/
def value (implicitSome : Bool) (levels : Nat) : Reader Datum := fun t =>
  match literal? t with
  | some found => some found
  | none =>
    match levels, keyword "Some".toList t, identifier t, t with
    | levels + 1, some rest, _, _ => optional implicitSome (value implicitSome levels) rest
    | 0, some _, _, _ => none
    | levels, none, some (_, rest), _ => do
      match levels, expect '(' (← skip rest) with
      | levels + 1, some inside => parenthesized (value implicitSome levels) inside
      | 0, some _ => none
      | _, none => return (.other, ← skip rest)
    | levels + 1, none, none, '(' :: rest => parenthesized (value implicitSome levels) rest
    | levels + 1, none, none, '[' :: rest => do
      let (items, rest) ← separated (value implicitSome levels) ']' rest
      return (.list items, rest)
    | levels + 1, none, none, '{' :: rest => do
      let (_, rest) ←
        separated (pair (value implicitSome levels) fun _ => value implicitSome levels) '}' rest
      return (.other, rest)
    | _, none, none, '\'' :: rest => do
      let (_, rest) ← character ('\'' :: rest)
      return (.other, rest)
    | _, none, none, '"' :: rest => (string ('"' :: rest)).map fun r => (.scalar r.1, r.2)
    | _, none, none, 'r' :: rest => (string ('r' :: rest)).map fun r => (.scalar r.1, r.2)
    | _, none, none, c :: rest =>
      if c.isDigit || c = '+' || c = '-' || c = '.' then
        (number (c :: rest)).map fun r => (.scalar r.1, r.2)
      else none
    | _, none, none, [] => none

/-! ## Documents -/

/-- What an attribute can switch on. -/
inductive Extension where
  | unwrapNewtypes
  /-- A value that may be absent can be written without its word. -/
  | implicitSome
  | unwrapVariantNewtypes
  deriving DecidableEq

def Extension.ofName? (name : Text) : Option Extension :=
  if name = "unwrap_newtypes".toList then some .unwrapNewtypes
  else if name = "implicit_some".toList then some .implicitSome
  else if name = "unwrap_variant_newtypes".toList then some .unwrapVariantNewtypes
  else none

/-- Take the given words, each with the blanks after it. -/
def takeWords : List Text → Text → Option Text
  | [], t => some t
  | word :: more, t => do takeWords more (← skip (← takeWord word t))

/-- Take the names of extensions, one at least; a comma may follow the last one. -/
def extensionNames : Nat → Reader (List Extension)
  | 0, _ => none
  | bound + 1, t => do
    let (name, t) ← identifier t
    let first ← Extension.ofName? name
    let t ← skip t
    match expect ',' t with
    | none => return ([first], t)
    | some t =>
      let t ← skip t
      if (t.head?.map isIdentChar).getD false then
        let (others, rest) ← extensionNames bound t
        return (first :: others, rest)
      else return ([first], t)

/-- Take the attributes at the start of a document. -/
def attributes : Nat → Reader (List Extension)
  | 0, t => some ([], t)
  | bound + 1, t =>
    match t with
    | '#' :: _ => do
      let t ← takeWords ["#".toList, "!".toList, "[".toList, "enable".toList, "(".toList] t
      let (here, t) ← extensionNames t.length t
      let t ← takeWords [")".toList, "]".toList] t
      let (others, rest) ← attributes bound t
      return (here ++ others, rest)
    | _ => some ([], t)

/-- Read a whole document: its attributes and one value. -/
def document {α : Type} (body : List Extension → Reader α) (t : Text) : Option α := do
  let (extensions, t) ← attributes t.length (← skip t)
  let (a, t) ← body extensions t
  match ← skip t with
  | [] => return a
  | _ :: _ => none

/-! ## Libraries -/

/-- Take the pool of a keyword. -/
def pool (implicitSome : Bool) : Reader Pool := fun t => do
  let (datum, rest) ← value implicitSome (nestingLimit - 1) t
  return (← Pool.ofDatum? datum, rest)

/-- Take a map from strings to pools. -/
def entries (extensions : List Extension) : Reader (List (Text × Pool)) := fun t => do
  separated (pair string fun _ => pool (extensions.contains .implicitSome)) '}' (← expect '{' t)

/-- Read a library: a map from strings to pools, in which the last pool of a keyword counts. -/
def readLibrary? (t : Text) : Option Library :=
  (document entries t).map Library.ofList

end PromptLoom.Ron
