import PromptLoom.Config
import PromptLoom.Ron.Printer
import PromptLoom.Ron.Reader

/-! # Settings in object notation

Settings are a record: fields with names in parentheses, in any order. A field that is left out has
its default, a field that is not known is passed over, and no field may stand twice.
-/

namespace PromptLoom.Ron

/-! ## Fields -/

inductive LimitsField where
  | maxDepth
  | maxAmount
  deriving DecidableEq

inductive ConfigField where
  | seed
  | libraries
  | limits
  deriving DecidableEq

def LimitsField.name : LimitsField → Text
  | maxDepth => "max_depth".toList
  | maxAmount => "max_amount".toList

def ConfigField.name : ConfigField → Text
  | seed => "seed".toList
  | libraries => "libraries".toList
  | limits => "limits".toList

def LimitsField.all : List LimitsField := [maxDepth, maxAmount]

def ConfigField.all : List ConfigField := [seed, libraries, limits]

def LimitsField.ofName? (name : Text) : Option LimitsField :=
  all.find? (·.name = name)

def ConfigField.ofName? (name : Text) : Option ConfigField :=
  all.find? (·.name = name)

/-! ## Writing -/

/-- A record of fields with their written values. -/
def writtenRecord (fields : List (Text × Text)) : Text :=
  bracketed '(' ')' (fields.map fun f => f.1 ++ ':' :: f.2)

def writtenWord (n : UInt64) : Text :=
  Decimal.digits n.toNat

def writtenOptional : Option UInt64 → Text
  | none => "None".toList
  | some n => "Some(".toList ++ writtenWord n ++ [')']

/-- The value of a field. -/
def LimitsField.written (l : Limits) : LimitsField → Text
  | maxDepth => writtenWord l.maxDepth
  | maxAmount => writtenWord l.maxAmount

/-- Limits, as a record of the given fields. -/
def writtenLimits (fields : List LimitsField) (l : Limits) : Text :=
  writtenRecord (fields.map fun f => (f.name, f.written l))

/-- The value of a field, in which limits are a record of the given fields. -/
def ConfigField.written (inner : List LimitsField) (c : Config) : ConfigField → Text
  | seed => writtenOptional c.seed
  | libraries => bracketed '[' ']' (c.libraries.map quoted)
  | limits => writtenLimits inner c.limits

/-- Settings, as a record of the given fields. -/
def writtenFields (fields : List ConfigField) (inner : List LimitsField) (c : Config) : Text :=
  writtenRecord (fields.map fun f => (f.name, f.written inner c))

/-- Settings with all fields. -/
def writtenConfig (c : Config) : Text :=
  writtenFields ConfigField.all LimitsField.all c

/-! ## Reading -/

/-- Take the name of a record, unless it is left out. -/
def recordName (name t : Text) : Option Text :=
  if t.head?.any isIdentChar then keyword name t else some t

/-- Take a record: its name, which may be left out, and its fields, each of which is read as its own
name says. -/
def record {α : Type} (name : Text) (field : Text → Reader α) : Reader (List α) := fun t => do
  let t ← expect '(' (← skip (← recordName name t))
  let (fields, rest) ← separated (pair identifier field) ')' t
  return (fields.map (·.2), rest)

/-- The value of a field that may be left out and does not stand twice. -/
def single? {α : Type} (absent : α) : List α → Option α
  | [] => some absent
  | [a] => some a
  | _ => none

/-- A field of limits with its value; `none` for a field that is not known. -/
abbrev LimitsSetting : Type := Option (LimitsField × UInt64)

/-- Take the value of a field of limits. -/
def limitsSetting (implicitSome : Bool) (name : Text) : Reader LimitsSetting := fun t => do
  match LimitsField.ofName? name with
  | some f =>
    let (n, rest) ← word t
    return (some (f, n), rest)
  | none =>
    let (_, rest) ← value implicitSome (nestingLimit - 2) t
    return (none, rest)

/-- The values of a field of limits. -/
def LimitsField.values (f : LimitsField) (settings : List LimitsSetting) : List UInt64 :=
  settings.filterMap fun s => s.bind fun (g, n) => if g = f then some n else none

def limitsOfSettings? (settings : List LimitsSetting) : Option Limits := do
  let default : Limits := {}
  return {
    maxDepth := ← single? default.maxDepth (LimitsField.maxDepth.values settings)
    maxAmount := ← single? default.maxAmount (LimitsField.maxAmount.values settings) }

/-- Take a record of limits. -/
def limits (implicitSome : Bool) : Reader Limits := fun t => do
  let (settings, rest) ← record "ExpansionLimits".toList (limitsSetting implicitSome) t
  return (← limitsOfSettings? settings, rest)

/-- Take an optional integer of 64 bits. Without parentheses the integer itself stands there, if
that is switched on. -/
def optionalWord (implicitSome : Bool) : Reader (Option UInt64) := fun t => do
  match keyword "None".toList t with
  | some rest => return (none, rest)
  | none =>
    let bare (t : Text) : Option (Option UInt64 × Text) :=
      if implicitSome then (word t).map fun r => (some r.1, r.2) else none
    match keyword "Some".toList t with
    | none => bare t
    | some t =>
      let t ← skip t
      match expect '(' t with
      | none => bare t
      | some t =>
        let (n, t) ← word (← skip t)
        let t ← skip t
        let t ← skip ((expect ',' t).getD t)
        return (some n, ← expect ')' t)

/-- A field of the settings with its value. -/
inductive ConfigSetting where
  | seed (value : Option UInt64)
  | libraries (paths : List Text)
  | limits (value : Limits)
  | unknown

/-- Take the value of a field of the settings. -/
def configSetting (implicitSome : Bool) (name : Text) : Reader ConfigSetting := fun t => do
  match ConfigField.ofName? name with
  | some .seed =>
    let (seed, rest) ← optionalWord implicitSome t
    return (.seed seed, rest)
  | some .libraries =>
    let (paths, rest) ← separated string ']' (← expect '[' t)
    return (.libraries paths, rest)
  | some .limits =>
    let (l, rest) ← limits implicitSome t
    return (.limits l, rest)
  | none =>
    let (_, rest) ← value implicitSome (nestingLimit - 1) t
    return (.unknown, rest)

namespace ConfigSetting

def seed? : ConfigSetting → Option (Option UInt64)
  | seed value => some value
  | _ => none

def libraries? : ConfigSetting → Option (List Text)
  | libraries paths => some paths
  | _ => none

def limits? : ConfigSetting → Option Limits
  | limits value => some value
  | _ => none

end ConfigSetting

def configOfSettings? (settings : List ConfigSetting) : Option Config := do
  let default : Config := {}
  return {
    seed := ← single? default.seed (settings.filterMap ConfigSetting.seed?)
    libraries := ← single? default.libraries (settings.filterMap ConfigSetting.libraries?)
    limits := ← single? default.limits (settings.filterMap ConfigSetting.limits?) }

/-- Take a record of settings. -/
def config (extensions : List Extension) : Reader Config := fun t => do
  let implicitSome := extensions.contains .implicitSome
  let (settings, rest) ← record "EngineConfig".toList (configSetting implicitSome) t
  return (← configOfSettings? settings, rest)

/-- Read settings. -/
def readConfig? (t : Text) : Option Config :=
  document config t

end PromptLoom.Ron
