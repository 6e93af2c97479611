import PromptLoom.Decimal.Natural
import PromptLoom.Yaml.Token.Basic

/-! # Scalars

Plain scalars, scalars in quotes and scalars in blocks. Where a scalar goes over several lines, a
single line end counts as a space, and of several line ends the first one is dropped.
-/

namespace PromptLoom.Yaml

/-- What was passed over since the last character of a scalar. -/
structure Gap where
  /-- Blanks, as long as the line has not ended. -/
  blanks : Text := []
  /-- Whether the line has ended. -/
  broken : Bool := false
  /-- The first line end; empty if it was escaped. -/
  first : Text := []
  /-- The further line ends. -/
  further : Text := []

namespace Gap

/-- The gap with one more blank or line end. -/
def add (g : Gap) (c : Char) : Gap :=
  if isBreak c then
    if g.broken then { g with further := g.further ++ [c] } else { broken := true, first := [c] }
  else if g.broken then g
  else { g with blanks := g.blanks ++ [c] }

/-- What the gap counts as in the content of a scalar. -/
def folded (g : Gap) : Text :=
  if !g.broken then g.blanks
  else if g.first = ['\n'] then if g.further.isEmpty then [' '] else g.further
  else g.first ++ g.further

end Gap

/-- Whether a plain scalar ends in front of a character that is not blank. -/
def endsPlain (inFlow : Bool) (ps : Places) : Bool :=
  (ps.peek 0 = some ':' && ps.endsWord 1) ||
    (inFlow && (ps.peek 0).any ",[]\x7b\x7d".toList.contains)

/-- Whether a colon stands where flow allows none. -/
def isBadColon (inFlow : Bool) (ps : Places) : Bool :=
  inFlow && ps.peek 0 = some ':' && (ps.peek 1).any ",?[]\x7b\x7d".toList.contains

/-- Take a plain scalar; its further lines are indented to `indent` at least. Tells also whether it
ended after a line end. -/
def plainFrom (inFlow : Bool) (indent : Nat) (content : Text) (gap : Gap) (inGap : Bool) :
    Scan (Text × Bool)
  | [] => some ((content, gap.broken), [])
  | p :: rest =>
    if isBlank p.char || isBreak p.char then
      if gap.broken && p.char = '\t' && p.column < indent then none
      else plainFrom inFlow indent content (gap.add p.char) true rest
    else if inGap && ((!inFlow && p.column < indent) || p.char = '#' ||
        Places.isDocumentMark (p :: rest)) then
      some ((content, gap.broken), p :: rest)
    else if isBadColon inFlow (p :: rest) then none
    else if endsPlain inFlow (p :: rest) then some ((content, gap.broken), p :: rest)
    else plainFrom inFlow indent (content ++ gap.folded ++ [p.char]) {} false rest

/-- Take the content of a scalar in single quotes, in which two quotes are one. -/
def singleFrom (content : Text) (gap : Gap) : Scan Text
  | [] => none
  | p :: rest =>
    if isBlank p.char || isBreak p.char then singleFrom content (gap.add p.char) rest
    else if Places.isDocumentMark (p :: rest) then none
    else if p.char = '\'' then
      match rest with
      | q :: more =>
        if q.char = '\'' then singleFrom (content ++ gap.folded ++ ['\'']) {} more
        else some (content ++ gap.folded, rest)
      | [] => some (content ++ gap.folded, [])
    else singleFrom (content ++ gap.folded ++ [p.char]) {} rest

/-- The character that a letter behind a backslash stands for. -/
def escapedChar? : Char → Option Char
  | '0' => some '\x00'
  | 'a' => some '\x07'
  | 'b' => some '\x08'
  | 't' => some '\t'
  | '\t' => some '\t'
  | 'n' => some '\n'
  | 'v' => some '\x0b'
  | 'f' => some '\x0c'
  | 'r' => some '\r'
  | 'e' => some '\x1b'
  | ' ' => some ' '
  | '"' => some '"'
  | '/' => some '/'
  | '\\' => some '\\'
  | 'N' => some '\u0085'
  | '_' => some '\u00a0'
  | 'L' => some '\u2028'
  | 'P' => some '\u2029'
  | _ => none

/-- How many digits of a code point follow a letter behind a backslash. -/
def codeLength? : Char → Option Nat
  | 'x' => some 2
  | 'u' => some 4
  | 'U' => some 8
  | _ => none

/-- Take what follows a backslash that stands in front of no line end. -/
def escapeSequence : Scan Char
  | [] => none
  | p :: rest =>
    match escapedChar? p.char with
    | some c => some (c, rest)
    | none => do
      let count ← codeLength? p.char
      let digits := (rest.take count).map Place.char
      if digits.length < count then none
      else
        let code ← Decimal.readBase? 16 digits
        if code.isValidChar then return (Char.ofNat code, rest.drop count) else none

theorem escapeSequence_length {ps rest : Places} {c : Char}
    (h : escapeSequence ps = some (c, rest)) : rest.length < ps.length := by
  unfold escapeSequence at h
  split at h
  · simp at h
  · rename_i p more
    split at h
    · grind
    · cases hc : codeLength? p.char with
      | none => simp [hc] at h
      | some count =>
        simp only [hc, Option.bind_eq_bind, Option.bind_some] at h
        split at h
        · simp at h
        · cases hr : Decimal.readBase? 16 (List.map Place.char (List.take count more)) with
          | none => simp only [hr, Option.bind_none, reduceCtorEq] at h
          | some code =>
            simp only [hr, Option.bind_some] at h
            split at h
            · simp only [pure, Option.some.injEq, Prod.mk.injEq] at h
              obtain ⟨_, rfl⟩ := h
              simp only [List.length_drop, List.length_cons]
              omega
            · simp at h

/-- Take the content of a scalar in double quotes. A line end behind a backslash is dropped. -/
def doubleFrom (content : Text) (gap : Gap) : Scan Text
  | [] => none
  | p :: rest =>
    if isBlank p.char || isBreak p.char then doubleFrom content (gap.add p.char) rest
    else if Places.isDocumentMark (p :: rest) then none
    else if p.char = '"' then some (content ++ gap.folded, rest)
    else if p.char = '\\' then
      if (Places.peek rest 0).any isBreak then
        doubleFrom (content ++ gap.folded) { broken := true } (rest.drop 1)
      else
        match _h : escapeSequence rest with
        | none => none
        | some (c, more) => doubleFrom (content ++ gap.folded ++ [c]) {} more
    else doubleFrom (content ++ gap.folded ++ [p.char]) {} rest
termination_by ps => ps.length
decreasing_by
  · simp
  · simp only [List.length_drop, List.length_cons]
    omega
  · have := escapeSequence_length _h
    simp only [List.length_cons]
    omega
  · simp

/-- What becomes of the line ends at the end of a block. -/
inductive Chomping where
  | strip
  /-- The first one stays. -/
  | clip
  | keep
  deriving DecidableEq

/-- The first line of a scalar in a block: what becomes of its end, and its indentation beyond that
of the block around it, if it is given. -/
structure BlockHeader where
  chomping : Chomping := .clip
  increment : Option Nat := none

def chomping? : Char → Option Chomping
  | '+' => some .keep
  | '-' => some .strip
  | _ => none

/-- Take an indentation, a digit from one to nine. -/
def increment : Scan (Option Nat)
  | [] => some (none, [])
  | p :: rest =>
    if p.char.isDigit then if p.char = '0' then none else some (Decimal.digitValue? p.char, rest)
    else some (none, p :: rest)

/-- Take the first line of a scalar in a block, after its mark. -/
def blockHeader : Scan BlockHeader := fun ps => do
  let (header, rest) ←
    match (ps.peek 0).bind chomping? with
    | some chomping => do
      let (extra, rest) ← increment (ps.drop 1)
      pure ({ chomping, increment := extra : BlockHeader }, rest)
    | none => do
      let (extra, rest) ← increment ps
      match extra, (rest.peek 0).bind chomping? with
      | some _, some chomping => pure ({ chomping, increment := extra : BlockHeader }, rest.drop 1)
      | _, _ => pure ({ increment := extra : BlockHeader }, rest)
  return (header, ← rest.skipLineEnd)

/-- The deepest indentation of the empty lines in front of a block and of its first line; no tab may
stand there. -/
def deepestIndent (deepest : Nat) : Places → Option Nat
  | [] => some deepest
  | p :: rest =>
    if p.char = ' ' then deepestIndent (max deepest (p.column + 1)) rest
    else if p.char = '\t' then none
    else if isBreak p.char then deepestIndent deepest rest
    else some deepest

/-- A scalar in a block, as far as it is read. -/
structure BlockContent where
  content : Text := []
  /-- The end of the last line. -/
  lineEnd : Text := []
  /-- The ends of the empty lines after it. -/
  empty : Text := []
  /-- Whether the last line started with a blank. -/
  indented : Bool := false

namespace BlockContent

/-- Start a line with the given character. Between two lines of text that both start without a
blank, a folded block has a space in place of a single line end. -/
def startLine (b : BlockContent) (folds : Bool) (c : Char) : BlockContent :=
  let joint :=
    if folds && b.lineEnd = ['\n'] && !b.indented && !isBlank c then
      if b.empty.isEmpty then [' '] else b.empty
    else b.lineEnd ++ b.empty
  { content := b.content ++ joint ++ [c], indented := isBlank c }

/-- The scalar, its end treated as the header says. -/
def chomped (b : BlockContent) : Chomping → Text
  | .strip => b.content
  | .clip => b.content ++ b.lineEnd
  | .keep => b.content ++ b.lineEnd ++ b.empty

end BlockContent

/-- Take the lines of a scalar in a block that is indented to `indent`. -/
def blockFrom (folds : Bool) (indent : Nat) (b : BlockContent) (inLine : Bool) : Scan BlockContent
  | [] => some (b, [])
  | p :: rest =>
    if inLine then
      if isBreak p.char then blockFrom folds indent { b with lineEnd := [p.char] } false rest
      else blockFrom folds indent { b with content := b.content ++ [p.char] } true rest
    else if p.column < indent && p.char = ' ' then blockFrom folds indent b false rest
    else if p.column < indent && p.char = '\t' then none
    else if isBreak p.char then
      blockFrom folds indent { b with empty := b.empty ++ [p.char] } false rest
    else if p.column = indent then blockFrom folds indent (b.startLine folds p.char) true rest
    else some (b, p :: rest)

/-- Take a scalar in a block, after its mark; `parent` is the column after the indentation of the
block around it, zero if there is none. -/
def blockScalar (folds : Bool) (parent : Nat) : Scan Text := fun ps => do
  let (header, rest) ← blockHeader ps
  let indent ←
    match header.increment with
    | some n => pure (parent - 1 + n)
    | none => do pure (max (max (← deepestIndent 0 rest) parent) 1)
  let (b, rest) ← blockFrom folds indent {} false rest
  return (b.chomped header.chomping, rest)

end PromptLoom.Yaml
