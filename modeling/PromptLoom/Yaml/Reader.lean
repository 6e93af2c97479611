import PromptLoom.Library
import PromptLoom.Yaml.Document
import PromptLoom.Yaml.Scalar
import PromptLoom.Yaml.Token.Stream

/-! # Reading libraries in block notation

The pools of a document: its keys are texts whatever their form, and its references are followed.
-/

namespace PromptLoom.Yaml

/-- The anchored nodes of a leaf, by their numbers. -/
def Leaf.anchored : Leaf → List (Nat × Node)
  | .alias _ => []
  | .scalar none .. => []
  | l@(.scalar (some n) ..) => [(n, .leaf l)]

/-- The anchored nodes of a node in the order in which they start. -/
def Node.anchored : Node → List (Nat × Node)
  | .leaf l => l.anchored
  | .list none _ items => items.flatMap Leaf.anchored
  | l@(.list (some n) _ items) => (n, l) :: items.flatMap Leaf.anchored

/-- The node that a reference means: the last one with its number. -/
def Document.find? (document : Document) (number : Nat) : Option Node :=
  (document.flatMap fun e => e.1.anchored ++ e.2.anchored).reverse.lookup number

namespace Leaf

/-- The leaf itself or the leaf that it refers to. -/
def resolve? (document : Document) : Leaf → Option Leaf
  | .alias number =>
    match document.find? number with
    | some (.leaf l) => some l
    | _ => none
  | l => some l

/-- The text of a key. -/
def text? (document : Document) (l : Leaf) : Option Text :=
  match l.resolve? document with
  | some (.scalar _ _ _ content) => some content
  | _ => none

def value (document : Document) (l : Leaf) : Datum :=
  match l.resolve? document with
  | some (.scalar _ tag plain content) => scalarValue tag plain content
  | _ => .other

def isAlias : Leaf → Bool
  | .alias _ => true
  | .scalar .. => false

end Leaf

namespace Node

/-- The node itself or the node that it refers to. -/
def resolve? (document : Document) : Node → Option Node
  | .leaf (.alias number) => document.find? number
  | n => some n

def value (document : Document) (n : Node) : Datum :=
  match n.resolve? document with
  | none => .other
  | some (.leaf l) => l.value document
  | some (.list _ tag items) =>
    if tag.any isLocal then .other else .list (items.map (Leaf.value document))

/-- How many references are followed to read a node. -/
def hops (document : Document) (n : Node) : Nat :=
  let inside := match n.resolve? document with
    | some (.list _ _ items) => items.countP Leaf.isAlias
    | _ => 0
  match n with
  | .leaf (.alias _) => inside + 1
  | _ => inside

/-- How many parts a node is made of: scalars, references, starts and ends of lists. -/
def weight : Node → Nat
  | .leaf _ => 1
  | .list _ _ items => items.length + 2

end Node

namespace Document

/-- How many parts a document is made of, with the start and the end of its mapping. -/
def weight (document : Document) : Nat :=
  document.foldr (fun e n => n + e.2.weight + 1) 2

/-- How many references are followed to read a document. -/
def hops (document : Document) : Nat :=
  document.foldr (fun e n => n + (if e.1.isAlias then 1 else 0) + e.2.hops document) 0

/-- Whether a document is refused because more references are followed than a hundred for each of
its parts. -/
def isTangled (document : Document) : Bool :=
  100 * document.weight < document.hops

/-- The pools of the keys, in the order in which they are written. -/
def entries? (document : Document) : Option (List (Text × Pool)) :=
  if document.isTangled then none
  else
    document.mapM fun e => do
      return (← e.1.text? document, ← Pool.ofDatum? (e.2.value document))

end Document

/-- Read a library: a mapping from texts to pools, in which the last pool of a keyword counts. -/
def readLibrary? (t : Text) : Option Library := do
  return Library.ofList (← (← Document.ofTokens? (← Token.scan? t)).entries?)

end PromptLoom.Yaml
