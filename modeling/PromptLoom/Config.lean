import PromptLoom.Expansion.Node

/-! # Settings

What an engine can be told by a file. Every setting has a default.
-/

namespace PromptLoom

/-- The settings of an engine. -/
structure Config where
  /-- The seed of the random source; without one it is arbitrary. -/
  seed : Option UInt64 := none
  /-- Library files, of which a later one overrides the keywords of an earlier one. -/
  libraries : List Text := []
  limits : Limits := {}
  deriving DecidableEq

instance : Inhabited Config := ⟨{}⟩

/-- Whether every setting has its default. -/
def Config.isDefault (c : Config) : Bool :=
  c = {}

end PromptLoom
