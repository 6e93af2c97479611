import PromptLoom.Yaml.Token.Name
import PromptLoom.Yaml.Token.Scalar

/-! # The tokens of a document

Outside of brackets, blocks are opened and closed by the columns of what stands in them. That a node
is a key shows only at the colon behind it, so the scan notes where a key may have started and puts
the mark of the key there later.
-/

namespace PromptLoom.Yaml

/-- Where a key without a mark of its own may have started. -/
structure KeyPlace where
  /-- Whether only a key may start there, since it is the column of the block around it. -/
  required : Bool
  /-- How many tokens come before the key. -/
  number : Nat
  line : Nat
  column : Nat

namespace KeyPlace

/-- Whether the colon would be too late at a place: a key has one line and 1024 characters at most.
-/
def isStale (k : KeyPlace) (p : Place) : Bool :=
  k.line < p.line || k.column + 1024 < p.column

/-- The key without a stale one; `none` if the stale one was required. -/
def fresh? (p : Place) : Option KeyPlace → Option (Option KeyPlace)
  | none => some none
  | some k => if !k.isStale p then some (some k) else if k.required then none else some none

end KeyPlace

/-- A scan of a document, as far as it has come. -/
structure Scanner where
  rest : Places
  tokens : Array Token := #[]
  /-- The columns of the open blocks, the innermost one first. -/
  columns : List Nat := []
  /-- Where a key may have started outside of brackets or in the innermost ones. -/
  key : Option KeyPlace := none
  /-- The same for what is around each open bracket, the innermost one first. -/
  outer : List (Option KeyPlace) := []
  /-- Whether a key may start now. -/
  keyAllowed : Bool := true

namespace Scanner

/-- Whether the scan is between brackets. -/
def inFlow (s : Scanner) : Bool :=
  !s.outer.isEmpty

/-- The column after that of the innermost block. -/
def parent (s : Scanner) : Nat :=
  s.columns.head?.elim 0 (· + 1)

/-- Append a token of the given length. -/
def add (s : Scanner) (t : Token) (length : Nat) : Scanner :=
  { s with tokens := s.tokens.push t, rest := s.rest.drop length }

/-- Append a token that is made of what it was scanned from. -/
def addScanned (s : Scanner) (scan : Scan Token) : Option Scanner := do
  let (t, rest) ← scan s.rest
  return { s with tokens := s.tokens.push t, rest }

/-- Say whether a key may start now. -/
def allowKey (s : Scanner) (allowed : Bool) : Scanner :=
  { s with keyAllowed := allowed }

/-- Forget where a key may have started; `none` if it was required. -/
def dropKey (s : Scanner) : Option Scanner :=
  if s.key.any KeyPlace.required then none else some { s with key := none }

/-- Note that a key may start at the given place. -/
def noteKey (s : Scanner) (p : Place) : Option Scanner :=
  if s.keyAllowed then do
    let s ← s.dropKey
    let required := !s.inFlow && s.columns.head? = some p.column
    return { s with key := some ⟨required, s.tokens.size, p.line, p.column⟩ }
  else some s

/-- Forget the places of keys for which a colon at the given place would be too late. -/
def dropStaleKeys (s : Scanner) (p : Place) : Option Scanner := do
  let key ← KeyPlace.fresh? p s.key
  let outer ← s.outer.mapM (KeyPlace.fresh? p)
  return { s with key, outer }

/-- Open a block in a column if that is deeper than the open ones; its start becomes the token with
the given number. -/
def openBlock (s : Scanner) (start : Token) (column number : Nat) : Scanner :=
  if s.inFlow || column < s.parent then s
  else
    { s with
      columns := column :: s.columns
      tokens := s.tokens.insertIdxIfInBounds number start }

/-- Close the open blocks in the columns from `bound` on. -/
def closeBlocks (s : Scanner) (bound : Nat) : Scanner :=
  if s.inFlow then s
  else
    { s with
      columns := s.columns.dropWhile (bound ≤ ·)
      tokens := s.tokens ++ (s.columns.takeWhile (bound ≤ ·)).map fun _ => Token.blockEnd }

/-- Pass over blanks, comments and line ends. Where a key may start, a tab is no blank. -/
def skipGap (inFlow : Bool) (keyAllowed inComment : Bool) : Places → Places × Bool
  | [] => ([], keyAllowed)
  | p :: rest =>
    if isBreak p.char then skipGap inFlow (keyAllowed || !inFlow) false rest
    else if inComment || p.char = ' ' || p.char = '#' ||
        (p.char = '\t' && (inFlow || !keyAllowed)) ||
        (p.char = byteOrderMark && p.column = 0) then
      skipGap inFlow keyAllowed (inComment || p.char = '#') rest
    else (p :: rest, keyAllowed)

/-- End everything outside of brackets and append a token of the given length. -/
def addDocumentMark (s : Scanner) (t : Token) : Option Scanner := do
  let s ← (s.closeBlocks 0).dropKey
  return (s.allowKey false).add t 3

def addDirective (s : Scanner) : Option Scanner := do
  let s ← (s.closeBlocks 0).dropKey
  (s.allowKey false).addScanned directive

/-- Open a bracket; what it encloses may be a key as a whole. -/
def openFlow (s : Scanner) (p : Place) (t : Token) : Option Scanner := do
  let s ← s.noteKey p
  return { s.add t 1 with key := none, outer := s.key :: s.outer, keyAllowed := true }

def closeFlow (s : Scanner) (t : Token) : Option Scanner := do
  let s ← s.dropKey
  let s := (s.allowKey false).add t 1
  match s.outer with
  | [] => return s
  | key :: outer => return { s with key, outer }

def addFlowEntry (s : Scanner) : Option Scanner := do
  let s ← s.dropKey
  return (s.allowKey true).add .flowEntry 1

/-- Open a block at a mark, unless the scan is between brackets; `none` if no block may open here.
-/
def openBlockAt (s : Scanner) (p : Place) (start : Token) : Option Scanner :=
  if s.inFlow then some s
  else if s.keyAllowed then some (s.openBlock start p.column s.tokens.size)
  else none

def addBlockEntry (s : Scanner) (p : Place) : Option Scanner := do
  let s ← (← s.openBlockAt p .blockSequenceStart).dropKey
  return (s.allowKey true).add .blockEntry 1

def addKey (s : Scanner) (p : Place) : Option Scanner := do
  let s ← (← s.openBlockAt p .blockMappingStart).dropKey
  return (s.allowKey !s.inFlow).add .key 1

/-- Append the mark of a value. If a key may have started before it, then it did. -/
def addValue (s : Scanner) (p : Place) : Option Scanner :=
  match s.key with
  | some k =>
    let s := { s with key := none, tokens := s.tokens.insertIdxIfInBounds k.number .key }
    some (((s.openBlock .blockMappingStart k.column k.number).allowKey false).add .value 1)
  | none => do
    let s ← s.openBlockAt p .blockMappingStart
    return (s.allowKey !s.inFlow).add .value 1

/-- Append an anchor, an alias or a tag. -/
def addName (s : Scanner) (p : Place) (scan : Scan Token) : Option Scanner := do
  let s ← s.noteKey p
  (s.allowKey false).addScanned scan

/-- Append a scalar in a block. -/
def addBlock (s : Scanner) (folds : Bool) : Option Scanner := do
  let s ← s.dropKey
  (s.allowKey true).addScanned fun ps => do
    let (content, rest) ← blockScalar folds s.parent (ps.drop 1)
    return (.scalar false content, rest)

/-- Append a scalar in quotes, with what takes its content after the first quote. -/
def addQuoted (s : Scanner) (p : Place) (scan : Scan Text) : Option Scanner :=
  s.addName p fun ps => do
    let (content, rest) ← scan (ps.drop 1)
    return (.scalar false content, rest)

/-- Append a plain scalar. After a line end a key may start again. -/
def addPlain (s : Scanner) (p : Place) : Option Scanner := do
  let s ← s.noteKey p
  let ((content, broken), rest) ← plainFrom s.inFlow s.parent [] {} false s.rest
  return { s with rest, tokens := s.tokens.push (.scalar true content), keyAllowed := broken }

/-- Whether a plain scalar may start here. -/
def startsPlain (inFlow : Bool) (ps : Places) : Bool :=
  match ps.peek 0 with
  | none => false
  | some '-' => (ps.peek 1).all (!isBlank ·)
  | some '?' | some ':' => !inFlow && !ps.endsWord 1
  | some c => !(isBlank c || isBreak c || ",[]\x7b\x7d#&*!|>'\"%@\x60".toList.contains c)

/-- Append the token that starts here. -/
def addNext (s : Scanner) (p : Place) : Option Scanner :=
  let ps := s.rest
  let isMark := s.inFlow || ps.endsWord 1
  if p.column = 0 && p.char = '%' then s.addDirective
  else if ps.isRuler '-' then s.addDocumentMark .documentStart
  else if ps.isRuler '.' then s.addDocumentMark .documentEnd
  else
    match p.char with
    | '[' => s.openFlow p .flowSequenceStart
    | '{' => s.openFlow p .flowMappingStart
    | ']' => s.closeFlow .flowSequenceEnd
    | '}' => s.closeFlow .flowMappingEnd
    | ',' => s.addFlowEntry
    | '*' => s.addName p fun ps => (anchorName (ps.drop 1)).map fun (n, rest) => (.alias n, rest)
    | '&' => s.addName p fun ps => (anchorName (ps.drop 1)).map fun (n, rest) => (.anchor n, rest)
    | '!' => s.addName p (tag s.inFlow)
    | '\'' => s.addQuoted p (singleFrom [] {})
    | '"' => s.addQuoted p (doubleFrom [] {})
    | c =>
      if c = '-' && ps.endsWord 1 then s.addBlockEntry p
      else if c = '?' && isMark then s.addKey p
      else if c = ':' && isMark then s.addValue p
      else if (c = '|' || c = '>') && !s.inFlow then s.addBlock (c = '>')
      else if startsPlain s.inFlow ps then s.addPlain p
      else none

/-- Append the tokens of what is left; every step takes at least one of the `bound` characters. -/
def finish : Nat → Scanner → Option (Array Token)
  | 0, _ => none
  | bound + 1, s =>
    let (rest, keyAllowed) := skipGap s.inFlow s.keyAllowed false s.rest
    match rest with
    | [] => ((s.closeBlocks 0).dropKey).map Scanner.tokens
    | p :: more => do
      let s ← { s with rest := p :: more, keyAllowed }.dropStaleKeys p
      (← (s.closeBlocks (p.column + 1)).addNext p).finish bound

end Scanner

/-- The tokens of a text; `none` if it has none. -/
def Token.scan? (t : Text) : Option (List Token) := do
  let ps ← places? t
  return (← (Scanner.mk ps #[] [] none [] true).finish (ps.length + 1)).toList

end PromptLoom.Yaml
