import PromptLoom.Command.TemplateLinter
import PromptLoom.Proofs.Library.Writes

/-! # The exit code of the template linter

Walking through a folder is one loop over the files in it. Every library file that does not load is
reported on the way, but only the library of the others goes on to the check that the exit code
comes from. A single file that does not load is answered by the exit code at once.
-/

namespace PromptLoom.Command.TemplateLinter

/-- A file that the walk comes to. -/
structure Found where
  path : Text
  content : Except FileError Text

namespace Found

def library (f : Found) : Except LibraryError Library :=
  Library.load (fun _ => f.content) f.path

def isLibraryFile (f : Found) : Bool :=
  (Format.ofPath? f.path).isSome

def Loads (f : Found) : Prop :=
  ∃ l, f.library = .ok l

theorem library_of_not_isLibraryFile {f : Found} (other : f.isLibraryFile = false) :
    f.library = .error (.unsupportedFormat f.path) := by
  have unknown : Format.ofPath? f.path = none :=
    Option.isNone_iff_eq_none.mp (Option.isSome_eq_false_iff.mp other)
  rw [library, Library.load, unknown]

end Found

mutual

/-- The files in a tree, in the order in which the walk comes to them. -/
def filesOf (path : Text) : FileTree → List Found
  | .file content => [⟨path, (FileTree.file content).content⟩]
  | .folder entries => filesIn path entries

def filesIn (folder : Text) : List (Text × FileTree) → List Found
  | [] => []
  | (name, tree) :: rest => filesOf (Path.join folder name) tree ++ filesIn folder rest

end

/-- The library files that a path stands for: a file itself, whatever its extension, or those at any
depth of a folder whose extension says a notation. -/
def libraryFiles (path : Text) : FileTree → List Found
  | .file content => [⟨path, (FileTree.file content).content⟩]
  | .folder entries => (filesIn path entries).filter Found.isLibraryFile

/-- The libraries of the files that load, merged in order. -/
def merged (files : List Found) : Library :=
  (files.filterMap (·.library.toOption)).foldl .merge .empty

theorem merged_filter_isLibraryFile (files : List Found) :
    merged (files.filter Found.isLibraryFile) = merged files := by
  have others : (fun f : Found => if f.isLibraryFile then f.library.toOption else none) =
      (·.library.toOption) := by
    funext f
    cases file : f.isLibraryFile with
    | true => rfl
    | false => rw [Found.library_of_not_isLibraryFile file]; rfl
  rw [merged, List.filterMap_filter, others, merged]

namespace Loading

variable {l : Loading} {f : Found}

def add (l : Loading) (f : Found) : Loading :=
  l.addFile f.path f.content

mutual

/-- The walk is one loop over the files that it comes to. -/
theorem addTree_eq (l : Loading) (path : Text) (tree : FileTree) :
    l.addTree path tree = (filesOf path tree).foldl add l := by
  cases tree with
  | file content => rfl
  | folder entries => exact addEntries_eq l path entries

theorem addEntries_eq (l : Loading) (folder : Text) (entries : List (Text × FileTree)) :
    l.addEntries folder entries = (filesIn folder entries).foldl add l := by
  cases entries with
  | nil => rfl
  | cons e rest =>
      rw [addEntries, addTree_eq, addEntries_eq, filesIn, List.foldl_append]

end

theorem add_of_not_isLibraryFile (other : f.isLibraryFile = false) : l.add f = l := by
  rw [add, addFile, if_pos]
  simpa [Found.isLibraryFile] using other

theorem add_of_isLibraryFile (file : f.isLibraryFile = true) :
    l.add f = match f.library with
      | .ok loaded =>
        { l with
          library := l.library.merge loaded
          out := l.out ++ "  Loaded: ".toList ++ f.path ++ ['\n'] }
      | .error cause =>
        { l with
          err := l.err ++ "  ERROR loading ".toList ++ f.path ++ ": ".toList ++ cause.message ++
            ['\n'] } := by
  rw [add, addFile, if_neg]
  · rfl
  · simpa [Found.isLibraryFile, ← Option.isSome_iff_ne_none] using file

theorem library_add :
    (l.add f).library = f.library.toOption.elim l.library l.library.merge := by
  cases file : f.isLibraryFile with
  | false =>
      rw [add_of_not_isLibraryFile file, Found.library_of_not_isLibraryFile file]
      rfl
  | true =>
      rw [add_of_isLibraryFile file]
      cases f.library <;> rfl

/-- The errors grow if and only if a library file does not load. -/
theorem err_add_eq_nil_iff :
    (l.add f).err = [] ↔ l.err = [] ∧ (f.isLibraryFile = true → f.Loads) := by
  cases file : f.isLibraryFile with
  | false => simp [add_of_not_isLibraryFile file]
  | true =>
      rw [add_of_isLibraryFile file]
      cases loaded : f.library <;> simp [Found.Loads, loaded]

theorem library_foldl_add (files : List Found) :
    (files.foldl add l).library =
      (files.filterMap (·.library.toOption)).foldl .merge l.library := by
  induction files generalizing l with
  | nil => rfl
  | cons f files ih =>
      rw [List.foldl_cons, ih, library_add]
      cases loaded : f.library.toOption <;> simp [loaded]

theorem err_foldl_add_eq_nil_iff (files : List Found) :
    (files.foldl add l).err = [] ↔
      l.err = [] ∧ ∀ f ∈ files, f.isLibraryFile = true → f.Loads := by
  induction files generalizing l with
  | nil => simp
  | cons f files ih => rw [List.foldl_cons, ih, err_add_eq_nil_iff, List.forall_mem_cons, and_assoc]

end Loading

theorem exitCode_finish_eq_zero_iff {l : Loading} :
    (finish l).exitCode = 0 ↔ (lint l.library).errors = [] := by
  simp [finish, Report.isClean]

theorem exitCode_finish_le_one (l : Loading) : (finish l).exitCode ≤ 1 := by
  simp only [finish]
  split <;> decide

section Check

variable {find : Text → Except FileError FileTree} {path : Text} {content : Option Text}
  {tree : FileTree} {more : List Text}

/-- For a folder, what loads is checked, and what does not is in the errors. -/
theorem check_folder (path : Text) (entries : List (Text × FileTree)) :
    ∃ l, check path (.ok (.folder entries)) = finish l ∧
      l.library = merged (libraryFiles path (.folder entries)) ∧
      (l.err = [] ↔ ∀ f ∈ libraryFiles path (.folder entries), f.Loads) := by
  refine ⟨(filesIn path entries).foldl .add {}, ?_, ?_, ?_⟩
  · exact congrArg finish (Loading.addEntries_eq {} path entries)
  · rw [Loading.library_foldl_add]
    exact (merged_filter_isLibraryFile _).symm
  · simp [Loading.err_foldl_add_eq_nil_iff, libraryFiles]

theorem check_file {l : Library}
    (loaded : (⟨path, (FileTree.file content).content⟩ : Found).library = .ok l) :
    check path (.ok (.file content)) =
      finish { library := merged (libraryFiles path (.file content)) } := by
  have single : merged (libraryFiles path (.file content)) = l := by
    simp only [merged, libraryFiles, loaded, Except.toOption, List.filterMap_cons,
      List.filterMap_nil]
    exact Library.ofList_entries l
  rw [Found.library] at loaded
  rw [single, check, loaded]

/-- The exit code is that of the check of what loads. Only where the path is a single file it also
tells whether that loads; for a folder, what does not load is seen in the errors alone. -/
theorem exitCode_run (checks : asksHelp (path :: more) = false) (there : find path = .ok tree) :
    let files := libraryFiles path tree
    let ending := run find (path :: more)
    (ending.exitCode = 0 ↔ (lint (merged files)).errors = [] ∧
        ((∃ content, tree = .file content) → ∀ f ∈ files, f.Loads)) ∧
      ending.exitCode ≤ 1 ∧
      (ending.err = [] ↔ ∀ f ∈ files, f.Loads) := by
  intro files ending
  have ends : ending = check path (.ok tree) := by simp only [ending, run, checks, there]
  cases tree with
  | folder entries =>
      obtain ⟨l, checked, library, reported⟩ := check_folder path entries
      rw [ends, checked, exitCode_finish_eq_zero_iff, library]
      exact ⟨by simp [files], exitCode_finish_le_one l, reported⟩
  | file content =>
      cases loaded : (⟨path, (FileTree.file content).content⟩ : Found).library with
      | ok l =>
          have loads : ∀ f ∈ files, f.Loads := by simpa [files, libraryFiles] using ⟨l, loaded⟩
          rw [ends, check_file loaded, exitCode_finish_eq_zero_iff]
          exact ⟨⟨fun clean => ⟨clean, fun _ => loads⟩, And.left⟩, exitCode_finish_le_one _,
            ⟨fun _ => loads, fun _ => rfl⟩⟩
      | error cause =>
          have broken : ¬ ∀ f ∈ files, f.Loads := by
            simp [files, libraryFiles, Found.Loads, loaded]
          rw [Found.library] at loaded
          rw [ends, check, loaded]
          simp [failure, broken]

end Check

/-- A good library below a broken one, and a file of no notation. -/
def drawer : FileTree :=
  .folder [
    ("bad.ron".toList, .file (some "\x7b".toList)),
    ("more".toList, .folder [
      ("note.txt".toList, .file none),
      ("pets.yml".toList, .file (some "cat: tom\n".toList))])]

def desk : FileTree :=
  .folder [("d".toList, drawer)]

def badFile : Found := ⟨"d/bad.ron".toList, .ok "\x7b".toList⟩

theorem not_loads_badFile : ¬ badFile.Loads := by
  have broken : badFile.library = .error .ron := by decide +kernel
  simp [Found.Loads, broken]

theorem badFile_mem : badFile ∈ libraryFiles "d".toList drawer := by
  have first : (filesIn "d".toList drawer.entries).head? = some badFile := rfl
  have named : badFile.isLibraryFile = true := by decide +kernel
  exact List.mem_filter.mpr ⟨List.mem_of_mem_head? first, named⟩

theorem drawer_reported :
    desk.find "d".toList = .ok drawer ∧
      (run desk.find ["d".toList]).exitCode = 0 ∧ (run desk.find ["d".toList]).err ≠ [] := by
  have there : desk.find "d".toList = .ok drawer := rfl
  have checks : asksHelp ["d".toList] = false := by decide
  obtain ⟨code, -, err⟩ := exitCode_run checks there
  refine ⟨there, code.mpr ⟨by decide +kernel, ?_⟩, fun silent => ?_⟩
  · rintro ⟨content, single⟩
    cases single
  · exact not_loads_badFile (err.mp silent badFile badFile_mem)

/-- The exit code says that all is well, though a library file does not load. -/
theorem drawer_passes :
    desk.find "d".toList = .ok drawer ∧
      ¬ ((run desk.find ["d".toList]).exitCode = 0 ↔
        (∀ f ∈ libraryFiles "d".toList drawer, f.Loads) ∧
          (lint (merged (libraryFiles "d".toList drawer))).errors = []) := by
  have passes : (run desk.find ["d".toList]).exitCode = 0 := by decide +kernel
  refine ⟨rfl, fun promised => ?_⟩
  exact not_loads_badFile ((promised.mp passes).1 badFile badFile_mem)

end PromptLoom.Command.TemplateLinter
