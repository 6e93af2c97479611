import PromptLoom.Library.Change
import PromptLoom.Proofs.Library.Writes

/-! # Runs of changes

A change that succeeds writes entries one after the other, those of a text in the order in which
they stand there, and a change that fails writes nothing. After any run of changes a keyword has
what the last change that wrote it wrote last, and all that can be asked of the library follows from
that.
-/

namespace PromptLoom

variable {keyword : Text}

/-- The entries that a text holds, one after the other as they stand there. -/
def Format.entries (t : Text) : Format → Except LibraryError (List (Text × Pool))
  | .ron => (Ron.document Ron.entries t).elim (.error .ron) .ok
  | .yaml =>
    ((Yaml.Token.scan? t).bind Yaml.Document.ofTokens? |>.bind Yaml.Document.entries?).elim
      (.error .yaml) .ok

def Format.entriesIn (content : Except FileError Text) (format : Format) :
    Except LibraryError (List (Text × Pool)) :=
  match content with
  | .ok t => format.entries t
  | .error cause => .error (.file cause)

/-- The entries that a change writes, one after the other, or why it fails. -/
def Change.entries (reader : FileReader) : Change → Except LibraryError (List (Text × Pool))
  | .insert keyword pool => .ok [(keyword, pool)]
  | .merge other => .ok other.entries
  | .read format written => format.entries written
  | .load path =>
    match Format.ofPath? path with
    | some format => format.entriesIn (reader path)
    | none => .error (.unsupportedFormat path)
  | .loadAs format path => format.entriesIn (reader path)

namespace Library

theorem read_eq (format : Format) (t : Text) : read format t = (format.entries t).map ofList := by
  cases format with
  | ron =>
      simp only [read, Ron.readLibrary?, Format.entries]
      cases Ron.document Ron.entries t <;> rfl
  | yaml =>
      simp only [read, Yaml.readLibrary?, Format.entries]
      cases Yaml.Token.scan? t with
      | none => rfl
      | some tokens =>
          simp only [Option.bind_eq_bind, Option.bind_some]
          cases Yaml.Document.ofTokens? tokens with
          | none => rfl
          | some document =>
              simp only [Option.bind_some]
              cases document.entries? <;> rfl

theorem loadAs_eq (reader : FileReader) (format : Format) (path : Text) :
    loadAs reader format path = (format.entriesIn (reader path)).map ofList := by
  unfold loadAs Format.entriesIn
  cases reader path with
  | error cause => rfl
  | ok content => exact read_eq format content

end Library

theorem Change.merged_eq (reader : FileReader) (change : Change) :
    change.merged reader = (change.entries reader).map Library.ofList := by
  cases change with
  | insert keyword pool => rfl
  | merge other => exact congrArg Except.ok (Library.ofList_entries other).symm
  | read format written => exact Library.read_eq format written
  | load path =>
      simp only [merged, entries, Library.load]
      cases Format.ofPath? path with
      | none => rfl
      | some format => exact Library.loadAs_eq reader format path
  | loadAs format path => exact Library.loadAs_eq reader format path

/-- A change, and what the files hold when it is made. -/
structure Step where
  reader : FileReader
  change : Change

namespace Step

/-- What merges nothing, because a file cannot be read or a text is no library. -/
def Fails (s : Step) : Prop :=
  ∃ cause, s.change.merged s.reader = .error cause

/-- The pool that a step writes for a keyword: the last one, if it writes several. -/
def written? (s : Step) (keyword : Text) : Option Pool :=
  match s.change.entries s.reader with
  | .ok entries => entries.reverse.lookup keyword
  | .error _ => none

end Step

namespace Library

def after (l : Library) (s : Step) : Library :=
  l.apply s.reader s.change

/-- The library after steps, one after the other, from the empty one. -/
def afterAll (steps : List Step) : Library :=
  steps.foldl after empty

theorem after_of_fails {s : Step} (fails : s.Fails) (l : Library) : l.after s = l := by
  obtain ⟨cause, failed⟩ := fails
  simp only [after, apply, failed]

theorem get?_after (l : Library) (s : Step) :
    (l.after s).get? keyword = (s.written? keyword).or (l.get? keyword) := by
  simp only [after, apply, Change.merged_eq, Step.written?]
  cases s.change.entries s.reader with
  | error cause => rfl
  | ok entries =>
      have merged : (l.merge (ofList entries)).get? keyword =
          (entries.reverse.lookup keyword).or (l.get? keyword) := by
        rw [merge_ofList, get?_insertAll]
      exact merged

/-- A keyword has what the last step that writes it writes, a failing step does nothing, and whether
a keyword is there, how many there are and which ones agrees with what they have. -/
theorem afterAll_keeps_last_writes (steps : List Step) :
    let l := afterAll steps
    (∀ keyword, l.get? keyword = steps.reverse.findSome? (·.written? keyword)) ∧
      (∀ keyword, l.contains keyword = true ↔ ∃ pool, l.get? keyword = some pool) ∧
      (∀ keyword, keyword ∈ l.keywords ↔ ∃ pool, l.get? keyword = some pool) ∧
      l.keywords.Pairwise (· < ·) ∧
      l.size = l.keywords.length ∧
      (l.isEmpty = true ↔ ∀ keyword, l.get? keyword = none) ∧
      ∀ s : Step, s.Fails → afterAll (steps ++ [s]) = l := by
  intro l
  refine ⟨fun keyword => ?_, fun _ => contains_iff, fun _ => mem_keywords_iff,
    l.keywords_ascending, List.length_map _ |>.symm, isEmpty_iff, fun s fails => ?_⟩
  · exact (get?_foldl get?_after steps).trans Option.or_none
  · rw [afterAll, List.foldl_append]
    exact after_of_fails fails l

/-- One file with a library in block notation, a broken one, and one of no notation. -/
def shelf : FileReader :=
  FileTree.read (.ofList [
    ("pets.yml".toList, .file (some "cat: tom\ndog:\n- rex\n- ace\n".toList)),
    ("half.ron".toList, .file (some "\x7b\"cat\":\"lost\",".toList)),
    ("pets.txt".toList, .file (some [])) ])

/-- Every kind of change, among them three that fail after what they would override was written, and
a text in which a keyword stands twice. -/
def everyChange : List Step :=
  [⟨shelf, .insert "dog".toList (.scalar "fido".toList)⟩,
    ⟨shelf, .read .ron "\x7b\"cat\":\"kit\",\"cow\":[],\"cat\":[\"cleo\"]\x7d".toList⟩,
    ⟨shelf, .load "half.ron".toList⟩,
    ⟨shelf, .load "pets.txt".toList⟩,
    ⟨shelf, .load "pets.yml".toList⟩,
    ⟨shelf, .merge (.ofList [("ant".toList, .scalar "z".toList), ("cat".toList, .scalar [])])⟩,
    ⟨shelf, .loadAs .ron "gone".toList⟩]

theorem afterAll_everyChange :
    (afterAll everyChange).get? "cat".toList = some (.scalar []) ∧
      (afterAll everyChange).get? "dog".toList = some (.collection ["rex".toList, "ace".toList]) ∧
      (afterAll everyChange).get? "cow".toList = some (.collection []) ∧
      (afterAll everyChange).keywords = ["ant".toList, "cat".toList, "cow".toList, "dog".toList] ∧
      Step.Fails ⟨shelf, .load "half.ron".toList⟩ ∧
      afterAll (everyChange ++ [⟨shelf, .load "half.ron".toList⟩]) = afterAll everyChange := by
  obtain ⟨last, -, -, -, -, -, unchanged⟩ := afterAll_keeps_last_writes everyChange
  have broken : Step.Fails ⟨shelf, .load "half.ron".toList⟩ := ⟨.ron, by decide +kernel⟩
  exact ⟨(last _).trans (by decide +kernel), (last _).trans (by decide +kernel),
    (last _).trans (by decide +kernel), by decide +kernel, broken, unchanged _ broken⟩

end Library

end PromptLoom
