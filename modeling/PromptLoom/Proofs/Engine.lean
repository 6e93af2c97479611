import Mathlib.Data.List.Forall2
import PromptLoom.Engine
import PromptLoom.Proofs.Library.Writes

/-! # Building engines

The settings of an engine come from one place only, and they name the first of its files. The files
either all load or there is a first one that does not, and then nothing behind it is read. In both
cases the reports are those on the files before that point.
-/

namespace PromptLoom

variable {reader : FileReader} {paths before : List Text} {libraries : List Library}
  {cause : LibraryError}

/-- The files at the paths load, and these are their libraries. -/
def Loads (reader : FileReader) : List Text → List Library → Prop :=
  List.Forall₂ fun path l => Library.load reader path = .ok l

/-- The files at the paths in front load, and the one behind them does not. -/
structure Breaks (reader : FileReader) (paths before : List Text) (libraries : List Library)
    (cause : LibraryError) : Prop where
  loads : Loads reader before libraries
  breaks : ∃ path behind, paths = before ++ path :: behind ∧ Library.load reader path = .error cause

/-- What is reported on files with these libraries. -/
def reports : List Text → List Library → List Event :=
  List.zipWith fun path l => .loaded path l.size

theorem Breaks.cons {first : Text} {l : Library} (loaded : Library.load reader first = .ok l)
    (broken : Breaks reader paths before libraries cause) :
    Breaks reader (first :: paths) (first :: before) (l :: libraries) cause := by
  obtain ⟨loads, path, behind, rfl, unloaded⟩ := broken
  exact ⟨.cons loaded loads, path, behind, rfl, unloaded⟩

theorem loads_or_breaks (reader : FileReader) (paths : List Text) :
    (∃ libraries, Loads reader paths libraries) ∨
      ∃ before libraries cause, Breaks reader paths before libraries cause := by
  induction paths with
  | nil => exact .inl ⟨[], .nil⟩
  | cons first rest ih =>
      cases loaded : Library.load reader first with
      | error cause => exact .inr ⟨[], [], cause, .nil, first, rest, rfl, loaded⟩
      | ok l =>
          rcases ih with ⟨libraries, all⟩ | ⟨before, libraries, cause, broken⟩
          · exact .inl ⟨l :: libraries, .cons loaded all⟩
          · exact .inr ⟨first :: before, l :: libraries, cause, broken.cons loaded⟩

namespace Setup

variable {s : Setup} {base : Library} {settings : Config}

/-- The settings that count: those in the file that is named, without one those that are given, and
without either the defaults. -/
inductive Effective (reader : FileReader) (s : Setup) : Config → Prop where
  | file {path : Text} {settings : Config} (named : s.configPath = some path)
    (loaded : Config.load reader path = .ok settings) : Effective reader s settings
  | given {settings : Config} (unnamed : s.configPath = none)
    (given : s.config = some settings) : Effective reader s settings
  | defaults (unnamed : s.configPath = none) (nothing : s.config = none) : Effective reader s {}

theorem settings_eq_ok_iff : s.settings reader = .ok settings ↔ Effective reader s settings := by
  constructor
  · intro counts
    rw [Setup.settings] at counts
    cases named : s.configPath with
    | some path =>
        rw [named] at counts
        exact .file named counts
    | none =>
        rw [named, Except.ok.injEq] at counts
        cases given : s.config with
        | some c =>
            rw [given, Option.getD_some] at counts
            exact .given named (counts ▸ given)
        | none =>
            rw [given, Option.getD_none] at counts
            exact counts ▸ .defaults named given
  · intro effective
    cases effective with
    | file named loaded =>
        rw [Setup.settings, named]
        exact loaded
    | given unnamed given =>
        rw [Setup.settings, unnamed, given]
        rfl
    | defaults unnamed nothing =>
        rw [Setup.settings, unnamed, nothing]
        rfl

/-- Files that load are merged in their order, and reading goes on behind them. -/
theorem mergeFiles_append (base : Library) (loads : Loads reader paths libraries)
    (behind : List Text) :
    mergeFiles reader base (paths ++ behind) =
      let further := mergeFiles reader (libraries.foldl .merge base) behind
      (reports paths libraries ++ further.1, further.2) := by
  induction loads generalizing base with
  | nil => rfl
  | cons loaded all ih =>
      simp only [List.cons_append, mergeFiles, loaded, ih, reports, List.zipWith_cons_cons,
        List.foldl_cons]

theorem mergeFiles_of_loads (loads : Loads reader paths libraries) :
    mergeFiles reader base paths =
      (reports paths libraries, .ok (libraries.foldl .merge base)) := by
  simpa [mergeFiles] using mergeFiles_append base loads []

theorem mergeFiles_of_breaks (broken : Breaks reader paths before libraries cause) :
    mergeFiles reader base paths = (reports before libraries, .error cause) := by
  obtain ⟨loads, path, behind, rfl, broken⟩ := broken
  rw [mergeFiles_append base loads, mergeFiles, broken]
  simp

/-- The seed changes nothing of an engine but its source. -/
theorem build_seed {entropy : Random.Source} {e : Engine}
    (built : (s.build reader entropy).2 = .ok e) (seed : UInt64) :
    (Setup.build { s with seed := some seed } reader entropy).2 = .ok (e.reseed seed) := by
  have same : Setup.settings { s with seed := some seed } reader = s.settings reader := rfl
  unfold build at built ⊢
  rw [same]
  cases effective : s.settings reader with
  | error cause => simp [effective] at built
  | ok settings =>
      simp only [effective] at built ⊢
      cases merged : (mergeFiles reader (s.library.getD .empty)
          (settings.libraries ++ s.libraryPaths)).2 with
      | error cause => simp [merged] at built
      | ok library =>
          simp only [merged, Except.ok.injEq] at built ⊢
          rw [← built]
          rfl

/-- The files are those of the settings that count and then those that were added. If all of them
load, the last one that has a keyword counts, and the entries that were given only if none has it.
If not, building fails as the first file does that does not load. -/
theorem build_merges_in_order (effective : Effective reader s settings)
    (entropy : Random.Source) :
    let paths := settings.libraries ++ s.libraryPaths
    (∀ libraries, Loads reader paths libraries →
      ∃ e : Engine, s.build reader entropy = (reports paths libraries, .ok e) ∧
        ∀ keyword, e.library.get? keyword =
          (libraries.reverse.findSome? (·.get? keyword)).or
            (s.library.bind (·.get? keyword))) ∧
      (∀ before libraries cause, Breaks reader paths before libraries cause →
        s.build reader entropy = (reports before libraries, .error (.library cause))) ∧
      ((∃ libraries, Loads reader paths libraries) ∨
        ∃ before libraries cause, Breaks reader paths before libraries cause) := by
  intro paths
  have counts := settings_eq_ok_iff.mpr effective
  have merges : mergeFiles reader (s.library.getD .empty) (settings.libraries ++ s.libraryPaths) =
      mergeFiles reader (s.library.getD .empty) paths := rfl
  refine ⟨fun libraries loads => ?_, fun before libraries cause broken => ?_,
    loads_or_breaks reader paths⟩
  · simp only [build, counts, merges.trans (mergeFiles_of_loads loads)]
    refine ⟨_, rfl, fun keyword => ?_⟩
    rw [Library.get?_foldl_merge]
    cases s.library <;> rfl
  · simp only [build, counts, merges.trans (mergeFiles_of_breaks broken)]

/-- Settings, and two libraries that share a keyword. -/
def shelves : FileReader :=
  FileTree.read (.ofList [
    ("set.ron".toList, .file (some "(libraries:[\"pets.ron\",\"wild.yml\"])".toList)),
    ("pets.ron".toList, .file (some "\x7b\"cat\":\"tom\",\"dog\":[\"rex\"]\x7d".toList)),
    ("wild.yml".toList, .file (some "cat: lynx\nowl: hoot\n".toList))])

def pets : Library :=
  .ofList [("cat".toList, .scalar "tom".toList), ("dog".toList, .collection ["rex".toList])]

def wild : Library :=
  .ofList [("cat".toList, .scalar "lynx".toList), ("owl".toList, .scalar "hoot".toList)]

/-- One file is read twice, and the settings that are given are not those that count. -/
def menagerie : Setup where
  config := some { libraries := ["gone.ron".toList] }
  configPath := some "set.ron".toList
  library := some (.ofList [("dog".toList, .scalar "old".toList), ("cow".toList, .scalar [])])
  libraryPaths := ["pets.ron".toList]

/-- The second file that is added is not there, and the third one would be of no notation. -/
def ruin : Setup :=
  { menagerie with libraryPaths := ["pets.ron".toList, "gone.ron".toList, "pets.txt".toList] }

/-- No file has the settings. -/
def aviary : Setup :=
  { menagerie with config := some { libraries := ["wild.yml".toList] }, configPath := none }

/-- No settings at all. -/
def meadow : Setup where
  libraryPaths := ["pets.ron".toList, "wild.yml".toList]

theorem build_menagerie :
    Effective shelves menagerie { libraries := ["pets.ron".toList, "wild.yml".toList] } ∧
      Effective shelves aviary { libraries := ["wild.yml".toList] } ∧
      Effective shelves meadow {} ∧
      (∃ e : Engine, menagerie.build shelves (.seeded 7) =
          ([.loaded "pets.ron".toList 2, .loaded "wild.yml".toList 2,
            .loaded "pets.ron".toList 2], .ok e) ∧
        e.library.get? "cat".toList = some (.scalar "tom".toList) ∧
        e.library.get? "dog".toList = some (.collection ["rex".toList]) ∧
        e.library.get? "owl".toList = some (.scalar "hoot".toList) ∧
        e.library.get? "cow".toList = some (.scalar []) ∧
        e.library.get? "elk".toList = none) ∧
      ruin.build shelves (.seeded 7) =
        ([.loaded "pets.ron".toList 2, .loaded "wild.yml".toList 2, .loaded "pets.ron".toList 2],
          .error (.library (.file .noSuchFile))) ∧
      (∃ e : Engine, aviary.build shelves (.seeded 7) =
          ([.loaded "wild.yml".toList 2, .loaded "pets.ron".toList 2], .ok e) ∧
        e.library.get? "cat".toList = some (.scalar "tom".toList) ∧
        e.library.get? "owl".toList = some (.scalar "hoot".toList) ∧
        e.library.get? "cow".toList = some (.scalar [])) ∧
      ∃ e : Engine, meadow.build shelves (.seeded 7) =
          ([.loaded "pets.ron".toList 2, .loaded "wild.yml".toList 2], .ok e) ∧
        e.library.get? "cat".toList = some (.scalar "lynx".toList) ∧
        e.library.get? "cow".toList = none := by
  have file : Effective shelves menagerie
      { libraries := ["pets.ron".toList, "wild.yml".toList] } := .file rfl (by decide +kernel)
  have same : Effective shelves ruin
      { libraries := ["pets.ron".toList, "wild.yml".toList] } := .file rfl (by decide +kernel)
  have given : Effective shelves aviary { libraries := ["wild.yml".toList] } := .given rfl rfl
  have defaults : Effective shelves meadow {} := .defaults rfl rfl
  have first : Library.load shelves "pets.ron".toList = .ok pets := by decide +kernel
  have second : Library.load shelves "wild.yml".toList = .ok wild := by decide +kernel
  have loads : Loads shelves ["pets.ron".toList, "wild.yml".toList, "pets.ron".toList]
      [pets, wild, pets] := .cons first (.cons second (.cons first .nil))
  have missing : Library.load shelves "gone.ron".toList = .error (.file .noSuchFile) := by
    decide +kernel
  obtain ⟨e, built, pools⟩ := (build_merges_in_order file (.seeded 7)).1 _ loads
  obtain ⟨f, hatched, birds⟩ := (build_merges_in_order given (.seeded 7)).1 _
    (.cons second (.cons first .nil))
  obtain ⟨g, grown, herbs⟩ := (build_merges_in_order defaults (.seeded 7)).1 _
    (.cons first (.cons second .nil))
  have broken := (build_merges_in_order same (.seeded 7)).2.1 _ _ _
    ⟨loads, "gone.ron".toList, ["pets.txt".toList], rfl, missing⟩
  refine ⟨file, given, defaults, ⟨e, built, (pools _).trans ?_, (pools _).trans ?_,
    (pools _).trans ?_, (pools _).trans ?_, (pools _).trans ?_⟩, broken,
    ⟨f, hatched, (birds _).trans ?_, (birds _).trans ?_, (birds _).trans ?_⟩,
    ⟨g, grown, (herbs _).trans ?_, (herbs _).trans ?_⟩⟩
  all_goals decide +kernel

end Setup

end PromptLoom
