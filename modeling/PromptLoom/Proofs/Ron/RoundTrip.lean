import PromptLoom.Library.File
import PromptLoom.Proofs.Library.Writes
import PromptLoom.Proofs.Ron.Quoted

/-! # Reading what was written

A reader recovers a value from its written form whatever stands behind it, as long as that ends the
value. This carries over from texts to lists, pools, entries and whole documents, with blanks
anywhere between their words: what is written starts with a character of its own, so no more than
the blanks is passed over. The compact form is the one without blanks.
-/

namespace PromptLoom.Ron

/-! ## Ends and starts -/

/-- The characters that stand between values and behind the last one. -/
def isMark (c : Char) : Bool :=
  c = ',' || c = ':' || c = ')' || c = ']' || c = '}'

/-- Nothing follows, or a mark or a blank does. -/
def Ends (rest : Text) : Prop :=
  ∀ c ∈ rest.head?, (isMark c || isBlank c) = true

/-- What may stand between two words. -/
def Blanks (gap : Text) : Prop :=
  gap.all isBlank = true

/-- A character that a value can start with: it is neither passed over nor does it end anything. -/
structure Opens (c : Char) : Prop where
  solid : isBlank c = false
  slash : c ≠ '/'
  mark : isMark c = false

/-- The reader takes the value off its written form, with an end behind it. -/
structure Recovers {α : Type} (reader : Reader α) (written : Text) (a : α) : Prop where
  opens : ∃ c more, written = c :: more ∧ Opens c
  reads : ∀ rest, Ends rest → reader (written ++ rest) = some (a, rest)

theorem ends_nil : Ends [] := by
  rintro _ ⟨⟩

theorem ends_cons {c : Char} (mark : isMark c = true) (rest : Text) : Ends (c :: rest) := by
  intro d held
  rw [← Option.mem_some.mp held, mark, Bool.true_or]

theorem blanks_nil : Blanks [] :=
  rfl

theorem Blanks.ends {gap rest : Text} (blanks : Blanks gap) (ends : Ends rest) :
    Ends (gap ++ rest) := by
  cases gap with
  | nil => exact ends
  | cons c gap =>
      intro d held
      have blank := List.all_eq_true.mp blanks c List.mem_cons_self
      rw [← Option.mem_some.mp held, blank, Bool.or_true]

theorem Blanks.skip_append {gap : Text} (blanks : Blanks gap) (rest : Text) :
    skip (gap ++ rest) = skip rest := by
  induction gap with
  | nil => rfl
  | cons c gap ih =>
      obtain ⟨blank, blanks⟩ := Bool.and_eq_true_iff.mp (List.all_cons.symm.trans blanks)
      rw [List.cons_append, skip, skipFrom, if_pos blank]
      · exact ih blanks
      all_goals
        rintro - rfl
        cases blank

theorem skip_cons {c : Char} (solid : isBlank c = false) (slash : c ≠ '/') (rest : Text) :
    skip (c :: rest) = some (c :: rest) := by
  rw [skip, skipFrom, if_neg (by simp [solid]), if_neg slash]
  all_goals
    rintro - rfl
    exact absurd rfl slash

theorem skip_mark {c : Char} (mark : isMark c = true) (rest : Text) :
    skip (c :: rest) = some (c :: rest) := by
  simp only [isMark, Bool.or_eq_true, decide_eq_true_eq] at mark
  rcases mark with (((rfl | rfl) | rfl) | rfl) | rfl <;> rfl

theorem skip_parenthesis (rest : Text) : skip ('(' :: rest) = some ('(' :: rest) :=
  skip_cons rfl (by decide) rest

theorem expect_self (c : Char) (rest : Text) : expect c (c :: rest) = some rest :=
  if_pos rfl

theorem expect_of_ne {c d : Char} (other : d ≠ c) (rest : Text) : expect c (d :: rest) = none :=
  if_neg other

namespace Recovers

variable {α β : Type} {reader : Reader α} {written : Text} {a : α}

theorem skip_append (h : Recovers reader written a) (rest : Text) :
    skip (written ++ rest) = some (written ++ rest) := by
  obtain ⟨c, more, rfl, opens⟩ := h.opens
  exact skip_cons opens.solid opens.slash (more ++ rest)

theorem expect_append (h : Recovers reader written a) {c : Char} (mark : isMark c = true)
    (rest : Text) : expect c (written ++ rest) = none := by
  obtain ⟨d, more, rfl, opens⟩ := h.opens
  refine expect_of_ne ?_ (more ++ rest)
  rintro rfl
  rw [opens.mark] at mark
  cases mark

/-- A key, a colon and a value, with blanks around the colon. -/
theorem spacedPair {key : Reader α} {value : α → Reader β} {left right before after : Text} {b : β}
    (first : Recovers key left a) (second : Recovers (value a) right b) (front : Blanks before)
    (back : Blanks after) :
    Recovers (Ron.pair key value) (left ++ before ++ ':' :: (after ++ right)) (a, b) := by
  constructor
  · obtain ⟨c, more, rfl, opens⟩ := first.opens
    exact ⟨c, _, rfl, opens⟩
  · intro rest ends
    have split : left ++ before ++ ':' :: (after ++ right) ++ rest =
        left ++ (before ++ ':' :: (after ++ (right ++ rest))) := by simp
    have taken := first.reads (before ++ ':' :: (after ++ (right ++ rest)))
      (front.ends (ends_cons rfl _))
    rw [split]
    simp [Ron.pair, taken, front.skip_append, skip_mark (c := ':') rfl, expect_self,
      back.skip_append, second.skip_append, second.reads rest ends]

theorem pair {key : Reader α} {value : α → Reader β} {left right : Text} {b : β}
    (first : Recovers key left a) (second : Recovers (value a) right b) :
    Recovers (Ron.pair key value) (left ++ ':' :: right) (a, b) := by
  simpa using first.spacedPair second blanks_nil blanks_nil

/-- A value that has to pass something once it is read. -/
theorem check {f : α → Option β} {b : β} (h : Recovers reader written a) (passes : f a = some b) :
    Recovers (fun t => do
      let (a, rest) ← reader t
      return (← f a, rest)) written b := by
  refine ⟨h.opens, fun rest ends => ?_⟩
  simp [h.reads rest ends, passes]

/-- A document without attributes is the value that is written in it. -/
theorem document {body : List Extension → Reader α} {before after : Text}
    (h : Recovers (body []) written a) (plain : written.head? ≠ some '#') (front : Blanks before)
    (back : Blanks after) : Ron.document body (before ++ written ++ after) = some a := by
  have start : skip (before ++ written ++ after) = some (written ++ after) := by
    rw [List.append_assoc, front.skip_append, h.skip_append]
  have taken : body [] (written ++ after) = some (a, after) := by
    simpa using h.reads after (by simpa using back.ends ends_nil)
  have finish : skip after = some [] := by
    rw [← List.append_nil after, back.skip_append]
    rfl
  have bare (bound : Nat) : attributes bound (written ++ after) = some ([], written ++ after) := by
    obtain ⟨c, more, rfl, -⟩ := h.opens
    cases bound with
    | zero => rfl
    | succ bound =>
        rw [List.cons_append, attributes]
        rintro _ ⟨⟩
        exact plain rfl
  simp only [Ron.document, start, bare, taken, finish, Option.bind_eq_bind, Option.bind_some,
    Option.pure_def]

end Recovers

/-! ## Lists -/

/-- Items with commas between them, up to and including `right`; a comma may follow the last one.
Each of them is written in one of its forms, and blanks stand in front of it and behind it. -/
inductive Listed {ι : Type} (form : ι → Text → Prop) (right : Char) : List ι → Text → Prop where
  | close {gap : Text} (blanks : Blanks gap) : Listed form right [] (gap ++ [right])
  | last {i : ι} {before w after : Text} (front : Blanks before) (written : form i w)
    (back : Blanks after) : Listed form right [i] (before ++ w ++ after ++ [right])
  | item {i : ι} {items : List ι} {before w after t : Text} (front : Blanks before)
    (written : form i w) (back : Blanks after) (others : Listed form right items t) :
    Listed form right (i :: items) (before ++ w ++ after ++ ',' :: t)

section Lists

variable {ι α : Type} {element : Reader α} {right : Char} {form : ι → Text → Prop}
  {write : ι → Text} {value : ι → α} {items : List ι} {t : Text}

theorem Listed.length_le (listed : Listed form right items t) : items.length ≤ t.length := by
  induction listed with
  | close => exact Nat.zero_le _
  | last =>
      simp only [List.length_cons, List.length_append]
      omega
  | item front written back others ih =>
      simp only [List.length_cons, List.length_append]
      omega

theorem elements_listed (mark : isMark right = true) (comma : right ≠ ',')
    (each : ∀ i ∈ items, ∀ w, form i w → Recovers element w (value i))
    (listed : Listed form right items t) {bound : Nat} (enough : items.length < bound)
    (rest : Text) :
    elements element right bound (t ++ rest) = some (items.map value, rest) := by
  -- No item starts like the end of the list, and a comma is what says that the list goes on.
  induction listed generalizing bound with
  | close blanks =>
      obtain ⟨bound, rfl⟩ := Nat.exists_eq_add_one_of_ne_zero (Nat.ne_zero_of_lt enough)
      simp [elements, blanks.skip_append, skip_mark mark, expect_self]
  | @last i before w after front written back =>
      obtain ⟨bound, rfl⟩ := Nat.exists_eq_add_one_of_ne_zero (Nat.ne_zero_of_lt enough)
      have first := each i List.mem_cons_self w written
      have taken := first.reads (after ++ right :: rest) (back.ends (ends_cons mark rest))
      simp [elements, front.skip_append, first.skip_append, first.expect_append mark, taken,
        back.skip_append, skip_mark mark, expect_self, expect_of_ne comma]
  | @item i items before w after t front written back others ih =>
      obtain ⟨bound, rfl⟩ := Nat.exists_eq_add_one_of_ne_zero (Nat.ne_zero_of_lt enough)
      have first := each i List.mem_cons_self w written
      have taken := first.reads (after ++ ',' :: (t ++ rest)) (back.ends (ends_cons rfl _))
      have others := ih (fun k held => each k (List.mem_cons_of_mem i held))
        (Nat.lt_of_succ_lt_succ enough)
      simp [elements, front.skip_append, first.skip_append, first.expect_append mark, taken,
        back.skip_append, skip_mark (c := ',') rfl, expect_self, others]

theorem separated_listed (mark : isMark right = true) (comma : right ≠ ',')
    (each : ∀ i ∈ items, ∀ w, form i w → Recovers element w (value i))
    (listed : Listed form right items t) (rest : Text) :
    separated element right (t ++ rest) = some (items.map value, rest) := by
  refine elements_listed mark comma each listed ?_ rest
  have long := listed.length_le
  rw [List.length_append]
  omega

/-- The compact form has no blanks. -/
theorem listed_joined (each : ∀ i ∈ items, form i (write i)) :
    Listed form right items (Text.joined [','] (items.map write) ++ [right]) := by
  induction items with
  | nil => exact .close blanks_nil
  | cons i items ih =>
      have first := each i List.mem_cons_self
      cases items with
      | nil =>
          have last : Listed form right [i] _ := .last blanks_nil first blanks_nil
          simpa [Text.joined] using last
      | cons j items =>
          have others := ih fun k held => each k (List.mem_cons_of_mem i held)
          simpa [Text.joined] using Listed.item blanks_nil first blanks_nil others

theorem separated_joined (mark : isMark right = true) (comma : right ≠ ',')
    (each : ∀ i ∈ items, Recovers element (write i) (value i)) (rest : Text) :
    separated element right (Text.joined [','] (items.map write) ++ right :: rest) =
      some (items.map value, rest) := by
  have listed : Listed (fun i w => w = write i) right items _ := listed_joined fun _ _ => rfl
  simpa using separated_listed mark comma (fun i held w same => same ▸ each i held) listed rest

end Lists

theorem bracketed_append (left right : Char) (items : List Text) (rest : Text) :
    bracketed left right items ++ rest = left :: (Text.joined [','] items ++ right :: rest) := by
  simp [bracketed]

/-! ## Libraries -/

theorem opens_quote : Opens '"' := ⟨rfl, by decide, rfl⟩

theorem opens_bracket : Opens '[' := ⟨rfl, by decide, rfl⟩

theorem recovers_quoted (t : Text) : Recovers string (quoted t) t where
  opens := ⟨'"', _, rfl, opens_quote⟩
  reads rest _ := string_quoted t rest

theorem value_quote (implicitSome : Bool) (levels : Nat) (t : Text) :
    value implicitSome levels ('"' :: t) =
      (string ('"' :: t)).map fun r => (.scalar r.1, r.2) := by
  cases levels <;> rfl

theorem value_bracket (implicitSome : Bool) (levels : Nat) (t : Text) :
    value implicitSome (levels + 1) ('[' :: t) =
      (separated (value implicitSome levels) ']' t).bind fun r => some (.list r.1, r.2) :=
  rfl

/-- What is written in quotes is a text, also where it looks like a number or a word. -/
theorem recovers_scalar (implicitSome : Bool) (levels : Nat) (t : Text) :
    Recovers (value implicitSome levels) (quoted t) (.scalar t) where
  opens := (recovers_quoted t).opens
  reads rest _ := by
    have taken := string_quoted t rest
    rw [quoted, List.cons_append, List.cons_append] at taken ⊢
    rw [value_quote, taken, Option.map_some]

theorem recovers_list (implicitSome : Bool) (levels : Nat) (items : List Text) :
    Recovers (value implicitSome (levels + 1)) (bracketed '[' ']' (items.map quoted))
      (.list (items.map .scalar)) where
  opens := ⟨'[', _, rfl, opens_bracket⟩
  reads rest _ := by
    have taken : separated (value implicitSome levels) ']'
        (Text.joined [','] (items.map quoted) ++ ']' :: rest) =
          some (items.map Datum.scalar, rest) :=
      separated_joined rfl (by decide) (fun t _ => recovers_scalar implicitSome levels t) rest
    rw [bracketed_append, value_bracket]
    simp [taken]

theorem recovers_pool (implicitSome : Bool) (p : Pool) :
    Recovers (pool implicitSome) (writtenPool p) p := by
  cases p with
  | scalar t => exact (recovers_scalar implicitSome (nestingLimit - 1) t).check rfl
  | collection items =>
      have texts : (items.map Datum.scalar).mapM Datum.scalar? = some items := by
        rw [List.mapM_map]
        exact List.mapM_pure.trans (congrArg some (List.map_id items))
      have list := recovers_list implicitSome (nestingLimit - 2) items
      exact list.check (f := Pool.ofDatum?) (by simp [Pool.ofDatum?, texts])

theorem recovers_entry (implicitSome : Bool) (e : Text × Pool) :
    Recovers (pair string fun _ => pool implicitSome) (writtenEntry e) e :=
  (recovers_quoted e.1).pair (recovers_pool implicitSome e.2)

theorem recovers_entries (written : List (Text × Pool)) :
    Recovers (entries []) (writtenEntries written) written where
  opens := ⟨_, _, rfl, rfl, by decide, rfl⟩
  reads rest _ := by
    have taken : separated (pair string fun _ => pool false) '}'
        (Text.joined [','] (written.map writtenEntry) ++ '}' :: rest) =
          some (written.map id, rest) :=
      separated_joined rfl (by decide) (fun e _ => recovers_entry false e) rest
    rw [writtenEntries, bracketed_append]
    simpa [entries, expect_self] using taken

theorem readLibrary?_writtenEntries (written : List (Text × Pool)) :
    readLibrary? (writtenEntries written) = some (Library.ofList written) := by
  have read := (recovers_entries written).document (by rintro ⟨⟩) blanks_nil blanks_nil
  rw [List.nil_append, List.append_nil] at read
  rw [readLibrary?, read, Option.map_some]

/-- A library that is written down, its entries in any order, is read back as itself. -/
theorem read_writtenEntries {l : Library} {written : List (Text × Pool)}
    (order : written.Perm l.entries) : Library.read .ron (writtenEntries written) = .ok l := by
  rw [Library.read, readLibrary?_writtenEntries, Library.ofList_of_perm order]
  rfl

/-- Keys and templates with each kind of character that is not written as it stands, an accent that
joins the letter before it, words that look like other values, and lists of no and of one item. -/
def attic : Library :=
  .ofList [
    ("1999".toList, .scalar "-0x7F".toList),
    ("a \"trunk\"".toList, .collection ["true".toList]),
    ("back\\slash".toList, .collection []),
    ("e\u0301cho\n".toList, .collection ["\x00\x1b\t'".toList, "?\x7bkey\x7d, // no".toList]),
    ("\u200b".toList, .scalar [])]

theorem read_attic :
    attic.entries.reverse.Perm attic.entries ∧
      attic.entries.reverse.head?.map writtenEntry =
        some "\"\\u\x7b200b\x7d\":\"\"".toList ∧
      Library.read .ron (writtenEntries attic.entries.reverse) = .ok attic :=
  ⟨by decide +kernel, by decide +kernel, read_writtenEntries (by decide +kernel)⟩

end PromptLoom.Ron
