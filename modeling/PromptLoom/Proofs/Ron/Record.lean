import PromptLoom.Engine
import PromptLoom.Proofs.Ron.Lexeme

/-! # Settings read back

A record says of each value which field it belongs to, so the order of its fields does not matter,
and a field with its default can be left out. Each field falls back by itself: limits that are
written without one of their fields keep the other one.
-/

namespace PromptLoom

namespace Ron

/-! ## Records -/

/-- Fields that a record can be written with: none of them stands twice, and those that are left out
have the setting that an absent field has. -/
structure Covers {ι σ : Type} (fields : List ι) (setting absent : ι → σ) : Prop where
  once : fields.Nodup
  others : ∀ f ∉ fields, setting f = absent f

/-- What a record says of a field is what the field was set to, whether it stands there or not. -/
theorem Covers.single? {ι σ α : Type} {fields : List ι} {setting absent : ι → σ} {f : ι} {a b : α}
    {part : σ → Option α} (covers : Covers fields setting absent) (own : part (setting f) = some a)
    (left : part (absent f) = some b) (apart : ∀ g, g ≠ f → part (setting g) = none) :
    Ron.single? b ((fields.map setting).filterMap part) = some a := by
  have nothing : ∀ {gs : List ι}, f ∉ gs → (gs.map setting).filterMap part = [] := by
    intro gs missing
    simp only [List.filterMap_eq_nil_iff, List.mem_map]
    rintro _ ⟨g, held, rfl⟩
    exact apart g fun same => missing (same ▸ held)
  by_cases held : f ∈ fields
  · -- The field stands once, so nothing in front of it or behind it speaks of it.
    obtain ⟨front, back, rfl⟩ := List.append_of_mem held
    have missing := List.nodup_middle.mp covers.once
    simp only [List.nodup_cons, List.mem_append, not_or] at missing
    rw [List.map_append, List.map_cons, List.filterMap_append, List.filterMap_cons_some own,
      nothing missing.1.1, nothing missing.1.2]
    rfl
  · rw [covers.others f held, left] at own
    rw [nothing held, ← own]
    rfl

/-- A field of a record: its name, a colon and one of the forms of its value. -/
inductive FieldForm {ι : Type} (name : ι → Text) (form : ι → Text → Prop) (f : ι) :
    Text → Prop where
  | mk {before after w : Text} (front : Blanks before) (back : Blanks after) (written : form f w) :
      FieldForm name form f (name f ++ before ++ ':' :: (after ++ w))

/-- A record of fields, which may have its title in front. -/
inductive RecordForm {ι : Type} (title : Text) (form : ι → Text → Prop) (fields : List ι) :
    Text → Prop where
  | plain {inside : Text} (listed : Listed form ')' fields inside) :
      RecordForm title form fields ('(' :: inside)
  | titled {gap inside : Text} (blanks : Blanks gap) (listed : Listed form ')' fields inside) :
      RecordForm title form fields (title ++ gap ++ '(' :: inside)

section Records

variable {ι α : Type} {title : Text} {field : Text → Reader α} {fields : List ι} {name : ι → Text}
  {form : ι → Text → Prop} {value : ι → α} {write : ι → Text}

theorem recordForm_written (each : ∀ f ∈ fields, form f (write f)) :
    RecordForm title (FieldForm name form) fields
      (writtenRecord (fields.map fun f => (name f, write f))) := by
  have compact : ∀ f ∈ fields, FieldForm name form f (name f ++ ':' :: write f) := fun f held => by
    simpa using FieldForm.mk blanks_nil blanks_nil (each f held)
  have listed : Listed (FieldForm name form) ')' fields _ := listed_joined compact
  rw [writtenRecord, bracketed, List.map_map]
  exact .plain listed

theorem recovers_record {t : Text} (start : title.head?.any isIdentChar = true)
    (names : ∀ f ∈ fields, Recovers identifier (name f) (name f))
    (values : ∀ f ∈ fields, ∀ w, form f w → Recovers (field (name f)) w (value f))
    (written : RecordForm title (FieldForm name form) fields t) :
    Recovers (record title field) t (fields.map value) := by
  have each : ∀ f ∈ fields, ∀ w, FieldForm name form f w →
      Recovers (pair identifier field) w (name f, value f) := by
    rintro f held _ ⟨front, back, written⟩
    exact (names f held).spacedPair (values f held _ written) front back
  cases written with
  | @plain inside listed =>
      refine ⟨⟨'(', inside, rfl, rfl, by decide, rfl⟩, fun rest _ => ?_⟩
      have untitled : recordName title ('(' :: (inside ++ rest)) = some ('(' :: (inside ++ rest)) :=
        rfl
      have taken := separated_listed rfl (by decide) each listed rest
      simp [record, untitled, skip_parenthesis, expect_self, taken, Function.comp_def]
  | @titled gap inside blanks listed =>
      obtain ⟨c, more, rfl⟩ : ∃ c more, title = c :: more := by
        cases title with
        | nil => cases start
        | cons c more => exact ⟨c, more, rfl⟩
      refine ⟨⟨c, _, rfl, opens_of_isIdentChar start⟩, fun rest _ => ?_⟩
      -- The title is a word that ends at the parenthesis or at the blanks in front of it.
      have head : recordName (c :: more) (c :: more ++ gap ++ '(' :: inside ++ rest) =
          some (gap ++ '(' :: (inside ++ rest)) := by
        have word := keyword_parenthesis (c :: more) blanks (inside ++ rest)
        rw [recordName, if_pos (by simpa using start)]
        simpa using word
      have taken := separated_listed rfl (by decide) each listed rest
      simp only [record, head]
      simp [blanks.skip_append, skip_parenthesis, expect_self, taken, Function.comp_def]

end Records

/-! ## Values of fields -/

/-- An optional integer, which may have a comma behind it. -/
inductive OptionalForm : Option UInt64 → Text → Prop where
  | absent : OptionalForm none "None".toList
  | present {n : UInt64} {gap inside : Text} (blanks : Blanks gap)
      (written : Listed (fun n w => w = writtenWord n) ')' [n] inside) :
      OptionalForm (some n) ("Some".toList ++ gap ++ '(' :: inside)

theorem optionalForm_written (value : Option UInt64) :
    OptionalForm value (writtenOptional value) := by
  cases value with
  | none => exact .absent
  | some n =>
      have number : Listed (fun n w => w = writtenWord n) ')' [n] _ := listed_joined fun _ _ => rfl
      have written := OptionalForm.present blanks_nil number
      unfold writtenOptional
      exact written

theorem recovers_optionalWord (implicitSome : Bool) {value : Option UInt64} {t : Text}
    (written : OptionalForm value t) : Recovers (optionalWord implicitSome) t value := by
  cases written with
  | absent =>
      refine ⟨⟨'N', _, rfl, opens_of_isIdentChar rfl⟩, fun rest ends => ?_⟩
      have taken := keyword_append "None".toList (ends.stop rfl)
      rw [optionalWord, taken]
      rfl
  | @present n gap inside blanks written =>
      refine ⟨⟨'S', _, rfl, opens_of_isIdentChar rfl⟩, fun rest ends => ?_⟩
      have absent (t : Text) : keyword "None".toList ("Some".toList ++ t) = none := rfl
      have present := keyword_parenthesis "Some".toList blanks (inside ++ rest)
      have number : Recovers word (writtenWord n) n := recovers_word n
      have close : skip (')' :: rest) = some (')' :: rest) := skip_mark rfl rest
      rw [List.append_assoc, List.append_assoc, List.cons_append, optionalWord, absent, present]
      cases written with
      | @last _ before _ after front same back =>
          subst same
          have taken := number.reads (after ++ ')' :: rest) (back.ends (ends_cons rfl rest))
          have single : expect ',' (')' :: rest) = none := expect_of_ne (by decide) rest
          simp [blanks.skip_append, skip_parenthesis, expect_self, front.skip_append,
            number.skip_append, taken, back.skip_append, close, single]
      | @item _ _ before _ after _ front same back others =>
          subst same
          obtain @⟨last, trailing⟩ := others
          have taken := number.reads (after ++ ',' :: (last ++ ')' :: rest))
            (back.ends (ends_cons rfl _))
          simp [blanks.skip_append, skip_parenthesis, expect_self, front.skip_append,
            number.skip_append, taken, back.skip_append, skip_mark (c := ',') rfl,
            trailing.skip_append, close]

/-! ## Limits -/

namespace LimitsField

/-- What a record of limits says of a field. -/
def setting (l : Limits) : LimitsField → LimitsSetting
  | maxDepth => some (maxDepth, l.maxDepth)
  | maxAmount => some (maxAmount, l.maxAmount)

theorem recovers_name (f : LimitsField) : Recovers identifier f.name f.name := by
  cases f <;> exact recovers_identifier rfl rfl

theorem recovers_written (implicitSome : Bool) (l : Limits) (f : LimitsField) :
    Recovers (limitsSetting implicitSome f.name) (f.written l) (f.setting l) := by
  cases f with
  | maxDepth =>
      have number := recovers_word l.maxDepth
      exact number.check (f := fun n => some (some (maxDepth, n))) rfl
  | maxAmount =>
      have number := recovers_word l.maxAmount
      exact number.check (f := fun n => some (some (maxAmount, n))) rfl

end LimitsField

theorem limitsOfSettings?_map {fields : List LimitsField} {l : Limits}
    (covers : Covers fields (·.setting l) (·.setting {})) :
    limitsOfSettings? (fields.map (·.setting l)) = some l := by
  have depth : single? ({} : Limits).maxDepth
      (LimitsField.maxDepth.values (fields.map (·.setting l))) = some l.maxDepth :=
    covers.single? (f := .maxDepth) rfl rfl fun g other => by
      cases g <;> first | rfl | contradiction
  have amount : single? ({} : Limits).maxAmount
      (LimitsField.maxAmount.values (fields.map (·.setting l))) = some l.maxAmount :=
    covers.single? (f := .maxAmount) rfl rfl fun g other => by
      cases g <;> first | rfl | contradiction
  rw [limitsOfSettings?, depth, amount]
  rfl

def LimitsForm (l : Limits) (t : Text) : Prop :=
  ∃ fields : List LimitsField, Covers fields (·.setting l) (·.setting {}) ∧
    RecordForm "ExpansionLimits".toList
      (FieldForm LimitsField.name fun f w => w = f.written l) fields t

theorem limitsForm_written {fields : List LimitsField} {l : Limits}
    (covers : Covers fields (·.setting l) (·.setting {})) :
    LimitsForm l (writtenLimits fields l) :=
  ⟨fields, covers, recordForm_written fun _ _ => rfl⟩

theorem recovers_limits (implicitSome : Bool) {l : Limits} {t : Text} (written : LimitsForm l t) :
    Recovers (limits implicitSome) t l := by
  obtain ⟨fields, covers, written⟩ := written
  have values : ∀ f ∈ fields, ∀ w, w = f.written l →
      Recovers (limitsSetting implicitSome f.name) w (f.setting l) := by
    rintro f - _ rfl
    exact f.recovers_written implicitSome l
  have settings : Recovers (record "ExpansionLimits".toList (limitsSetting implicitSome)) t
      (fields.map (·.setting l)) :=
    recovers_record rfl (fun f _ => f.recovers_name) values written
  exact settings.check (limitsOfSettings?_map covers)

/-! ## Settings -/

namespace ConfigField

def setting (c : Config) : ConfigField → ConfigSetting
  | seed => .seed c.seed
  | libraries => .libraries c.libraries
  | limits => .limits c.limits

theorem recovers_name (f : ConfigField) : Recovers identifier f.name f.name := by
  cases f <;> exact recovers_identifier rfl rfl

def Form (c : Config) : ConfigField → Text → Prop
  | seed, w => OptionalForm c.seed w
  | libraries, w => ∃ inside, w = '[' :: inside ∧
      Listed (fun path p => p = quoted path) ']' c.libraries inside
  | limits, w => LimitsForm c.limits w

theorem form_written {inner : List LimitsField} {c : Config} (f : ConfigField)
    (inside : f = .limits → Covers inner (·.setting c.limits) (·.setting {})) :
    f.Form c (f.written inner c) := by
  cases f with
  | seed => exact optionalForm_written c.seed
  | libraries => exact ⟨_, rfl, listed_joined fun _ _ => rfl⟩
  | limits => exact limitsForm_written (inside rfl)

theorem recovers_form (implicitSome : Bool) {c : Config} {w : Text} (f : ConfigField)
    (form : f.Form c w) : Recovers (configSetting implicitSome f.name) w (f.setting c) := by
  cases f with
  | seed =>
      have number := recovers_optionalWord implicitSome form
      exact number.check (f := fun s => some (ConfigSetting.seed s)) rfl
  | libraries =>
      obtain ⟨inside, rfl, listed⟩ := form
      refine ⟨⟨'[', inside, rfl, opens_bracket⟩, fun rest _ => ?_⟩
      have taken : separated string ']' (inside ++ rest) = some (c.libraries.map id, rest) :=
        separated_listed rfl (by decide) (fun t _ _ same => same ▸ recovers_quoted t) listed rest
      have known : ofName? libraries.name = some libraries := rfl
      rw [List.cons_append, configSetting, known]
      simp [expect_self, taken, setting]
  | limits =>
      have record := recovers_limits implicitSome form
      exact record.check (f := fun l => some (ConfigSetting.limits l)) rfl

end ConfigField

theorem configOfSettings?_map {fields : List ConfigField} {c : Config}
    (covers : Covers fields (·.setting c) (·.setting {})) :
    configOfSettings? (fields.map (·.setting c)) = some c := by
  have seed : single? ({} : Config).seed
      ((fields.map (·.setting c)).filterMap ConfigSetting.seed?) = some c.seed :=
    covers.single? (f := .seed) rfl rfl fun g other => by
      cases g <;> first | rfl | contradiction
  have libraries : single? ({} : Config).libraries
      ((fields.map (·.setting c)).filterMap ConfigSetting.libraries?) = some c.libraries :=
    covers.single? (f := .libraries) rfl rfl fun g other => by
      cases g <;> first | rfl | contradiction
  have limits : single? ({} : Config).limits
      ((fields.map (·.setting c)).filterMap ConfigSetting.limits?) = some c.limits :=
    covers.single? (f := .limits) rfl rfl fun g other => by
      cases g <;> first | rfl | contradiction
  rw [configOfSettings?, seed, libraries, limits]
  rfl

/-- The texts of settings: fields in any order, without any that have their default. -/
def ConfigForm (c : Config) (t : Text) : Prop :=
  ∃ fields : List ConfigField, Covers fields (·.setting c) (·.setting {}) ∧
    RecordForm "EngineConfig".toList (FieldForm ConfigField.name (ConfigField.Form c)) fields t

theorem configForm_written {fields : List ConfigField} {inner : List LimitsField} {c : Config}
    (outer : Covers fields (·.setting c) (·.setting {}))
    (inside : .limits ∈ fields → Covers inner (·.setting c.limits) (·.setting {})) :
    ConfigForm c (writtenFields fields inner c) :=
  ⟨fields, outer, recordForm_written fun f held => f.form_written fun same => inside (same ▸ held)⟩

theorem recovers_config {c : Config} {t : Text} (written : ConfigForm c t) :
    Recovers (config []) t c := by
  obtain ⟨fields, covers, written⟩ := written
  have settings : Recovers (record "EngineConfig".toList (configSetting false)) t
      (fields.map (·.setting c)) :=
    recovers_record rfl (fun f _ => f.recovers_name) (fun f _ _ form => f.recovers_form false form)
      written
  exact settings.check (configOfSettings?_map covers)

theorem readConfig?_form {c : Config} {before t after : Text} (front : Blanks before)
    (written : ConfigForm c t) (back : Blanks after) :
    readConfig? (before ++ t ++ after) = some c := by
  have plain : t.head? ≠ some '#' := by
    obtain ⟨_, _, listed | ⟨blanks, listed⟩⟩ := written <;> rintro ⟨⟩
  exact (recovers_config written).document plain front back

end Ron

namespace Config

open Ron

/-- Settings that a file holds as a record are read back as they were, with the fields in any order
and without any that have their default, also inside the limits. Blanks between the words, a comma
behind the last field and the names of the records make no difference, and the form that is printed
has all fields in their own order. -/
theorem load_written (c : Config) (reader : FileReader) (path : Text) :
    (∀ before t after, Blanks before → ConfigForm c t → Blanks after →
      reader path = .ok (before ++ t ++ after) → Config.load reader path = .ok c) ∧
    (∀ (fields : List ConfigField) (inner : List LimitsField),
      Covers fields (·.setting c) (·.setting {}) →
      (.limits ∈ fields → Covers inner (·.setting c.limits) (·.setting {})) →
      reader path = .ok (writtenFields fields inner c) → Config.load reader path = .ok c) ∧
    (reader path = .ok (writtenConfig c) → Config.load reader path = .ok c) := by
  have any : ∀ before t after, Blanks before → ConfigForm c t → Blanks after →
      reader path = .ok (before ++ t ++ after) → Config.load reader path = .ok c := by
    intro before t after front written back held
    rw [Config.load, held]
    simp only [readConfig?_form front written back, Option.elim_some]
  have compact : ∀ (fields : List ConfigField) (inner : List LimitsField),
      Covers fields (·.setting c) (·.setting {}) →
      (.limits ∈ fields → Covers inner (·.setting c.limits) (·.setting {})) →
      reader path = .ok (writtenFields fields inner c) → Config.load reader path = .ok c := by
    intro fields inner outer inside held
    refine any [] _ [] blanks_nil (configForm_written outer inside) blanks_nil ?_
    rw [held, List.nil_append, List.append_nil]
  refine ⟨any, compact, compact ConfigField.all LimitsField.all ⟨by decide, ?_⟩
    fun _ => ⟨by decide, ?_⟩⟩
  · intro f missing
    cases f <;> exact absurd (by decide) missing
  · intro f missing
    cases f <;> exact absurd (by decide) missing

/-- Settings without a seed, with the depth of the defaults and the greatest amount there is. -/
def pantry : Config where
  libraries := ["a \"trunk\".ron".toList, "e\u0301cho/".toList]
  limits := { maxAmount := 18446744073709551615 }

/-- Files with these settings, the limits in front: as they are printed, and laid out by hand. -/
def larder : FileReader := fun path =>
  if path = "loom.ron".toList then
    .ok ("(limits:(max_amount:18446744073709551615),".toList ++
      "libraries:[\"a \\\"trunk\\\".ron\",\"e\\u\x7b301\x7dcho/\"])".toList)
  else if path = "spaced.ron".toList then
    .ok ("EngineConfig(\n  limits: (max_amount: 18446744073709551615),\n".toList ++
      "  libraries: [ \"a \\\"trunk\\\".ron\", \"e\\u\x7b301\x7dcho/\", ],\n)\n".toList)
  else .error .noSuchFile

theorem load_pantry :
    Covers [ConfigField.limits, .libraries] (·.setting pantry) (·.setting {}) ∧
      Covers [LimitsField.maxAmount] (·.setting pantry.limits) (·.setting {}) ∧
      larder "loom.ron".toList = .ok (writtenFields [.limits, .libraries] [.maxAmount] pantry) ∧
      Config.load larder "loom.ron".toList = .ok pantry ∧
      Config.load larder "spaced.ron".toList = .ok pantry := by
  have outer : Covers [ConfigField.limits, .libraries] (·.setting pantry) (·.setting {}) :=
    ⟨by decide, by rintro (_ | _ | _) missing <;> first | rfl | exact absurd (by decide) missing⟩
  have inside : Covers [LimitsField.maxAmount] (·.setting pantry.limits) (·.setting {}) :=
    ⟨by decide, by rintro (_ | _) missing <;> first | rfl | exact absurd (by decide) missing⟩
  have held : larder "loom.ron".toList =
      .ok (writtenFields [.limits, .libraries] [.maxAmount] pantry) := by decide +kernel
  have wide : Blanks "\n  ".toList := rfl
  have line : Blanks "\n".toList := rfl
  have space : Blanks " ".toList := rfl
  have limits : LimitsForm pantry.limits _ := ⟨_, inside, .plain (.last blanks_nil
    (.mk blanks_nil space rfl) blanks_nil)⟩
  have libraries : ConfigField.libraries.Form pantry _ := ⟨_, rfl, .item space rfl blanks_nil
    (.item space rfl blanks_nil (.close space))⟩
  have spaced : ConfigForm pantry _ := ⟨_, outer, .titled blanks_nil (.item wide
    (.mk blanks_nil space limits) blanks_nil (.item wide (.mk blanks_nil space libraries)
      blanks_nil (.close line)))⟩
  exact ⟨outer, inside, held,
    (load_written pantry larder "loom.ron".toList).2.1 _ _ outer (fun _ => inside) held,
    (load_written pantry larder "spaced.ron".toList).1 _ _ _ blanks_nil spaced line
      (by decide +kernel)⟩

end Config

end PromptLoom
