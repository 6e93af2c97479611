import PromptLoom.Wildcard.Modifier

/-! # What an expansion reports

The failures of a node, and the events that a run emits while it goes on: a failing node never stops
a run, so its events are all that tells of it.
-/

namespace PromptLoom

/-- Why a node has no expansion. -/
inductive ExpansionError where
  /-- The library does not have the keyword. -/
  | unknownKeyword (keyword : Text)
  /-- The pool of the keyword holds nothing. -/
  | emptyPool (keyword : Text)
  /-- The node lies deeper than the limit allows. -/
  | depthExceeded (depth limit : Nat)
  /-- The body of the wildcard is malformed. -/
  | malformedModifier (cause : ModifierError)
  deriving DecidableEq

def ExpansionError.message : ExpansionError → Text
  | .unknownKeyword keyword => "unknown keyword: ".toList ++ keyword
  | .emptyPool keyword => "keyword '".toList ++ keyword ++ "' has no templates".toList
  | .depthExceeded depth limit =>
    "expansion depth ".toList ++ Decimal.digits depth ++ " exceeds limit ".toList ++
      Decimal.digits limit
  | .malformedModifier cause => "malformed wildcard modifier: ".toList ++ cause.message

/-- What happened in a run. -/
inductive Event where
  /-- A node was replaced by its keyword in upper case. -/
  | fellBack (keyword : Text) (depth : Nat) (cause : ExpansionError)
  /-- A wildcard with a malformed body was replaced by its keyword in upper case. -/
  | malformed (keyword : Text) (cause : ModifierError)
  /-- A number of picks was moved into the allowed range. -/
  | clamped (requested amount : Nat)
  /-- A library file with so many keywords was read. -/
  | loaded (path : Text) (keywords : Nat)
  deriving DecidableEq

namespace Event

/-- How much attention an event asks for. -/
def level : Event → Text
  | loaded .. => "INFO".toList
  | _ => "DEBUG".toList

def message : Event → Text
  | fellBack .. => "expansion fell back".toList
  | malformed .. => "malformed wildcard".toList
  | clamped .. => "selection amount clamped".toList
  | loaded .. => "loaded template library".toList

/-- The particulars of an event, by name. -/
def fields : Event → List (Text × Text)
  | fellBack keyword depth cause =>
    [("keyword".toList, keyword), ("depth".toList, Decimal.digits depth),
     ("error".toList, cause.message)]
  | malformed keyword cause => [("keyword".toList, keyword), ("error".toList, cause.message)]
  | clamped requested amount =>
    [("requested".toList, Decimal.digits requested), ("clamped".toList, Decimal.digits amount)]
  | loaded path keywords => [("path".toList, path), ("keywords".toList, Decimal.digits keywords)]

end Event

end PromptLoom
