import PromptLoom.Yaml.Token.Basic

/-! # Documents

What the tokens of a document say, as far as a library needs it: one mapping, from scalars to
scalars and to lists of scalars. Mappings inside of it and lists inside of lists have no place in a
library, and a document with one of them is refused.

An anchor gets a number, which is how many names anchors have had before; a later anchor with the
same number takes its place.
-/

namespace PromptLoom.Yaml

/-- A scalar or a reference to one. -/
inductive Leaf where
  | alias (number : Nat)
  | scalar (anchor : Option Nat) (tag : Option Text) (plain : Bool) (content : Text)

/-- A scalar that is not written. -/
def Leaf.missing : Leaf := .scalar none none true []

/-- What a keyword is mapped to. -/
inductive Node where
  | leaf (l : Leaf)
  | list (anchor : Option Nat) (tag : Option Text) (items : List Leaf)

/-- The mapping of a document, in the order in which it is written. -/
abbrev Document : Type := List (Leaf × Node)

/-- What is left of a document, and the names that are known there. -/
structure Cursor where
  rest : List Token
  /-- What the handles of tags stand for. -/
  handles : List (Text × Text)
  /-- The numbers of anchors. -/
  anchors : List (Text × Nat) := []

/-- Takes a value off the front of the tokens, or refuses them. -/
abbrev Take (α : Type) : Type := StateT Cursor Option α

namespace Take

def next? : Take (Option Token) := do
  return (← get).rest.head?

def drop : Take Unit :=
  modify fun c => { c with rest := c.rest.drop 1 }

/-- Take a token if it is the given one. -/
def takes (t : Token) : Take Bool := do
  if (← next?) = some t then
    drop
    return true
  else return false

def expect (t : Token) : Take Unit := do
  if !(← takes t) then failure

/-- Whether one of the given tokens comes next. -/
def sees (ts : List Token) : Take Bool := do
  return (← next?).any (ts.contains ·)

/-- A number for the name of an anchor. -/
def numberAnchor (name : Text) : Take Nat := do
  let c ← get
  set { c with anchors := (name, c.anchors.length) :: c.anchors.filter (·.1 ≠ name) }
  return c.anchors.length

def anchor? : Take (Option Nat) := do
  match ← next? with
  | some (.anchor name) =>
    drop
    return some (← numberAnchor name)
  | _ => return none

/-- Take a tag and put what its handle stands for in front of it. -/
def tag? : Take (Option Text) := do
  match ← next? with
  | some (.tag handle suffix) =>
    drop
    if handle.isEmpty then return some suffix
    else
      match (← get).handles.lookup handle with
      | some lead => return some (lead ++ suffix)
      | none => failure
  | _ => return none

/-- What may stand before a node. -/
structure Properties where
  anchor : Option Nat := none
  tag : Option Text := none

/-- Take an anchor and a tag, in any order; neither is needed. -/
def properties : Take Properties := do
  match ← anchor? with
  | some n => return ⟨some n, ← tag?⟩
  | none =>
    match ← tag? with
    | some t => return ⟨← anchor?, some t⟩
    | none => return {}

/-- The tokens that start a collection. -/
def collectionStarts : List Token :=
  [.blockMappingStart, .blockSequenceStart, .flowMappingStart, .flowSequenceStart]

/-- Take a scalar after its properties, which alone make an empty scalar. The tag `!` of a scalar
says nothing. -/
def scalar (p : Properties) : Take Leaf := do
  match ← next? with
  | some (.scalar plain content) =>
    drop
    return .scalar p.anchor (p.tag.filter (· ≠ ['!'])) plain content
  | _ =>
    if p.anchor.isNone && p.tag.isNone then failure
    else if ← sees collectionStarts then failure
    else return .scalar p.anchor p.tag true []

/-- Take a reference to an anchor that is known. -/
def alias? : Take (Option Leaf) := do
  match ← next? with
  | some (.alias name) =>
    drop
    match (← get).anchors.lookup name with
    | some n => return some (.alias n)
    | none => failure
  | _ => return none

def leaf : Take Leaf := do
  match ← alias? with
  | some l => return l
  | none => scalar (← properties)

/-- Take a node, unless one of the tokens comes next that can follow a node: then none is written.
-/
def orMissing {α : Type} (follow : List Token) (missing : α) (node : Take α) : Take α := do
  if ← sees follow then return missing else node

/-- Take the items of a list in a block, each after its mark. -/
def blockItems : Nat → Take (List Leaf)
  | 0 => failure
  | bound + 1 => do
    if ← takes .blockEntry then
      let item ← orMissing [.blockEntry, .key, .value, .blockEnd] .missing leaf
      return item :: (← blockItems bound)
    else return []

/-- Take elements with commas between them, up to and including `right`. A comma may follow the last
one. -/
def flowElements {α : Type} (element : Take α) (right : Token) : Nat → Take (List α)
  | 0 => failure
  | bound + 1 => do
    if ← takes right then return []
    let first ← element
    if ← takes .flowEntry then return first :: (← flowElements element right bound)
    expect right
    return [first]

/-- How many steps are enough for what is left. -/
def bound : Take Nat := do
  return (← get).rest.length + 1

/-- Take what a key is mapped to. In a block a list need not be indented, and no token opens it
then. -/
def node (inBlock : Bool) : Take Node := do
  match ← alias? with
  | some l => return .leaf l
  | none =>
    let p ← properties
    if inBlock && (← sees [.blockEntry]) then
      return .list p.anchor p.tag (← blockItems (← bound))
    else if ← takes .blockSequenceStart then
      let items ← blockItems (← bound)
      expect .blockEnd
      return .list p.anchor p.tag items
    else if ← takes .flowSequenceStart then
      return .list p.anchor p.tag (← flowElements leaf .flowSequenceEnd (← bound))
    else return .leaf (← scalar p)

/-- Take the entries of a mapping in a block, and its end. -/
def blockEntries : Nat → Take Document
  | 0 => failure
  | bound + 1 => do
    if ← takes .key then
      let key ← orMissing [.key, .value, .blockEnd] .missing leaf
      let value ←
        if ← takes .value then
          orMissing [.key, .value, .blockEnd] (.leaf .missing) (node true)
        else pure (.leaf .missing)
      return (key, value) :: (← blockEntries bound)
    else
      expect .blockEnd
      return []

/-- Take one entry of a mapping in braces. Without its mark a key has no value. -/
def flowMember : Take (Leaf × Node) := do
  if ← takes .key then
    let key ← orMissing [.value, .flowEntry, .flowMappingEnd] .missing leaf
    let value ←
      if ← takes .value then
        orMissing [.flowEntry, .flowMappingEnd] (.leaf .missing) (node false)
      else pure (.leaf .missing)
    return (key, value)
  else return (← leaf, .leaf .missing)

/-- Take a mapping; an empty plain scalar counts as one without entries. -/
def mapping : Take Document := do
  let p ← properties
  if ← takes .blockMappingStart then blockEntries (← bound)
  else if ← takes .flowMappingStart then flowElements flowMember .flowMappingEnd (← bound)
  else
    match ← scalar p with
    | .scalar _ _ true [] => return []
    | _ => failure

end Take

/-- What the handles stand for that no directive declares. -/
def standardHandles : List (Text × Text) :=
  [("!".toList, "!".toList), ("!!".toList, "tag:yaml.org,2002:".toList)]

/-- Take the directives of a document: at most one version, 1.1 or 1.2, and handles of tags, each
declared once. Gives the handles. -/
def directives (hasVersion : Bool) (handles : List (Text × Text)) :
    List Token → Option (List (Text × Text) × List Token)
  | .versionDirective major minor :: rest =>
    if hasVersion || major ≠ 1 || (minor ≠ 1 && minor ≠ 2) then none
    else directives true handles rest
  | .tagDirective handle lead :: rest =>
    if (handles.lookup handle).isSome then none
    else directives hasVersion ((handle, lead) :: handles) rest
  | rest => some (handles, rest)

/-- Take a document that starts with directives or with its mark. -/
def explicitDocument (tokens : List Token) : Option (Document × List Token) := do
  let (handles, rest) ← directives false [] tokens
  match rest with
  | .documentStart :: rest =>
    match rest with
    | [] | .documentEnd :: _ => return ([], rest)
    | _ =>
      let (document, c) ← Take.mapping.run ⟨rest, handles ++ standardHandles, []⟩
      return (document, c.rest)
  | _ => none

/-- Whether a token is a directive or the start of a document. -/
def Token.isExplicitStart : Token → Bool
  | .versionDirective .. | .tagDirective .. | .documentStart => true
  | _ => false

/-- The one document of the given tokens; without any token it is empty. -/
def Document.ofTokens? (tokens : List Token) : Option Document := do
  let (document, rest) ←
    match tokens with
    | [] => pure ([], [])
    | first :: _ =>
      if first.isExplicitStart then explicitDocument tokens
      else do
        let (document, c) ← Take.mapping.run ⟨tokens, standardHandles, []⟩
        pure (document, c.rest)
  if rest.all (· = .documentEnd) then return document else none

end PromptLoom.Yaml
