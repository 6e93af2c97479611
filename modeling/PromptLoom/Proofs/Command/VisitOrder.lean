import PromptLoom.Proofs.Command.TemplateLinter
import PromptLoom.Proofs.Lint.Reachability

/-! # The order in which files are visited

A folder lists what it holds in no certain order. Where the files that load give each keyword one
pool at most, a keyword has that pool after all of them are merged, whichever came last. So the
library and with it the report are the same in every order; only the lines that tell of the files
come in the order of the visits.
-/

namespace PromptLoom.Command.TemplateLinter

variable {files order : List Found} {entries listed : List (Text × FileTree)}

namespace Found

/-- The file loads, and its library has the pool for the keyword. -/
def Gives (f : Found) (keyword : Text) (pool : Pool) : Prop :=
  ∃ l, f.library = .ok l ∧ l.get? keyword = some pool

/-- The line on a file that loads. -/
def progress (f : Found) : Text :=
  match f.library with
  | .ok _ => "  Loaded: ".toList ++ f.path ++ ['\n']
  | .error _ => []

theorem toOption_library_eq_some_iff {f : Found} {l : Library} :
    f.library.toOption = some l ↔ f.library = .ok l := by
  cases f.library <;> simp [Except.toOption]

end Found

/-- Any two files that define a keyword give it the same pool. -/
def Agree (files : List Found) : Prop :=
  ∀ f ∈ files, ∀ g ∈ files, ∀ keyword p q, f.Gives keyword p → g.Gives keyword q → p = q

namespace Loading

variable {l : Loading} {f : Found}

theorem out_add : (l.add f).out = l.out ++ f.progress := by
  cases file : f.isLibraryFile with
  | false =>
      rw [add_of_not_isLibraryFile file, Found.progress, Found.library_of_not_isLibraryFile file]
      exact (List.append_nil _).symm
  | true =>
      rw [add_of_isLibraryFile file, Found.progress]
      cases f.library <;> simp

theorem out_foldl_add (files : List Found) :
    (files.foldl add l).out = l.out ++ files.flatMap Found.progress := by
  induction files generalizing l with
  | nil => exact (List.append_nil _).symm
  | cons f files ih => rw [List.foldl_cons, ih, out_add, List.append_assoc, List.flatMap_cons]

end Loading

theorem Agree.of_perm (agree : Agree files) (permuted : order.Perm files) : Agree order :=
  fun f here g there => agree f (permuted.mem_iff.mp here) g (permuted.mem_iff.mp there)

/-- What is read by visiting files one after the other. -/
def visit (files : List Found) : Loading :=
  files.foldl .add {}

theorem library_visit : (visit files).library = merged files :=
  Loading.library_foldl_add files

theorem out_visit : (visit files).out = files.flatMap Found.progress :=
  Loading.out_foldl_add files

theorem get?_merged_eq_findSome? (files : List Found) (keyword : Text) :
    (merged files).get? keyword =
      (files.filterMap (·.library.toOption)).reverse.findSome? (·.get? keyword) :=
  Library.get?_foldl_merge.trans Option.or_none

theorem exists_gives_of_get?_merged {keyword : Text} {pool : Pool}
    (known : (merged files).get? keyword = some pool) : ∃ f ∈ files, f.Gives keyword pool := by
  rw [get?_merged_eq_findSome?] at known
  obtain ⟨l, member, known⟩ := List.exists_of_findSome?_eq_some known
  obtain ⟨f, here, loads⟩ := List.mem_filterMap.mp (List.mem_reverse.mp member)
  exact ⟨f, here, l, Found.toOption_library_eq_some_iff.mp loads, known⟩

theorem isSome_get?_merged {f : Found} {keyword : Text} {pool : Pool} (here : f ∈ files)
    (gives : f.Gives keyword pool) : ((merged files).get? keyword).isSome := by
  obtain ⟨l, loads, known⟩ := gives
  have member : l ∈ files.filterMap (·.library.toOption) :=
    List.mem_filterMap.mpr ⟨f, here, Found.toOption_library_eq_some_iff.mpr loads⟩
  rw [get?_merged_eq_findSome?, List.findSome?_isSome_iff]
  exact ⟨l, List.mem_reverse.mpr member, by rw [known]; rfl⟩

/-- If the files agree, a keyword has the pool that any of them gives. -/
theorem get?_merged (agree : Agree files) {keyword : Text} {pool : Pool} :
    (merged files).get? keyword = some pool ↔ ∃ f ∈ files, f.Gives keyword pool := by
  refine ⟨exists_gives_of_get?_merged, fun ⟨f, here, gives⟩ => ?_⟩
  -- The pool is that of the last file with the keyword, which need not be the given one.
  obtain ⟨p, known⟩ := Option.isSome_iff_exists.mp (isSome_get?_merged here gives)
  obtain ⟨g, there, other⟩ := exists_gives_of_get?_merged known
  rw [known, agree f here g there keyword pool p gives other]

/-- Files agree if and only if the library of all of them has what each of them has. -/
theorem agree_iff : Agree files ↔ ∀ f ∈ files, ∀ l ∈ f.library.toOption, ∀ e ∈ l.entries,
    e ∈ (merged files).entries := by
  constructor
  · intro agree f here l loaded e member
    have gives : f.Gives e.1 e.2 :=
      ⟨l, Found.toOption_library_eq_some_iff.mp loaded, Library.get?_eq_some_iff.mpr member⟩
    exact Library.get?_eq_some_iff.mp ((get?_merged agree).mpr ⟨f, here, gives⟩)
  · intro within
    have known {f : Found} (here : f ∈ files) {keyword : Text} {p : Pool}
        (gives : f.Gives keyword p) : (merged files).get? keyword = some p := by
      obtain ⟨l, loads, known⟩ := gives
      have loaded := Found.toOption_library_eq_some_iff.mpr loads
      exact Library.get?_eq_some_iff.mpr
        (within f here l loaded _ (Library.get?_eq_some_iff.mp known))
    intro f here g there keyword p q gives other
    exact Option.some.inj ((known here gives).symm.trans (known there other))

instance : Decidable (Agree files) :=
  decidable_of_iff _ agree_iff.symm

theorem merged_of_perm (agree : Agree files) (permuted : order.Perm files) :
    merged order = merged files := by
  refine Library.eq_of_get? fun keyword => Option.ext fun pool => ?_
  rw [get?_merged agree, get?_merged (agree.of_perm permuted)]
  simp only [permuted.mem_iff]

/-- The same entries with the folders among them, listed in other orders at any depth. -/
inductive Relisted : List (Text × FileTree) → List (Text × FileTree) → Prop where
  | refl (entries : List (Text × FileTree)) : Relisted entries entries
  | swap (d e : Text × FileTree) (rest : List (Text × FileTree)) :
      Relisted (d :: e :: rest) (e :: d :: rest)
  | cons (e : Text × FileTree) {entries listed : List (Text × FileTree)} :
      Relisted entries listed → Relisted (e :: entries) (e :: listed)
  | folder (name : Text) (rest : List (Text × FileTree))
      {entries listed : List (Text × FileTree)} : Relisted entries listed →
      Relisted ((name, .folder entries) :: rest) ((name, .folder listed) :: rest)
  | trans {entries between listed : List (Text × FileTree)} :
      Relisted entries between → Relisted between listed → Relisted entries listed

/-- However folders list what they hold, the walk comes to the same files. -/
theorem Relisted.filesIn_perm (relisted : Relisted entries listed) (path : Text) :
    (filesIn path listed).Perm (filesIn path entries) := by
  induction relisted generalizing path with
  | refl entries => exact .refl _
  | swap d e rest =>
      rw [filesIn, filesIn, filesIn, filesIn]
      exact List.perm_append_comm_assoc ..
  | cons e relisted ih =>
      rw [filesIn, filesIn]
      exact (ih path).append_left _
  | folder name rest relisted ih =>
      rw [filesIn, filesIn, filesOf, filesOf]
      exact (ih _).append_right _
  | trans _ _ ih ih' => exact (ih' path).trans (ih path)

/-- Where the files of a folder agree on what they define, all orders of the visits lead to one
library, one report and one exit code, in whatever order the check follows references. However the
folders list what they hold, the command visits the files in one of these orders. -/
theorem order_of_visits {path : Text} (agree : Agree (filesIn path entries)) :
    let library := merged (filesIn path entries)
    (∀ keyword pool, library.get? keyword = some pool ↔
        ∃ f ∈ filesIn path entries, f.Gives keyword pool) ∧
      (∀ r : References, r.Rearranges library.references → library.reportAlong r = lint library) ∧
      (∀ order, order.Perm (filesIn path entries) →
        (visit order).library = library ∧
          (finish (visit order)).out =
            order.flatMap Found.progress ++ reportText library.size (lint library) ∧
          (finish (visit order)).exitCode = if (lint library).isClean then 0 else 1) ∧
      (∀ listed, Relisted entries listed → ∃ order, order.Perm (filesIn path entries) ∧
        ∀ find more, asksHelp (path :: more) = false → find path = .ok (.folder listed) →
          run find (path :: more) = finish (visit order)) := by
  intro library
  refine ⟨fun keyword pool => get?_merged agree, fun r => Library.reportAlong_eq_lint,
    fun order permuted => ?_, fun listed relisted => ?_⟩
  · have same : (visit order).library = library :=
      library_visit.trans (merged_of_perm agree permuted)
    refine ⟨same, ?_, ?_⟩
    · rw [finish, out_visit, same]
    · rw [finish, same]
  · refine ⟨filesIn path listed, relisted.filesIn_perm path, fun find more checks there => ?_⟩
    simp only [run, checks, there, check, Loading.addEntries_eq]
    rfl

/-- Two files with one keyword in common, one that does not load and one of no notation. -/
def cupboard : List (Text × FileTree) :=
  [("dogs.ron".toList,
      .file (some "\x7b\"cat\":\"tom\",\"dog\":[\"?\x7bdog\x7d\"]\x7d".toList)),
    ("torn.yml".toList, .file (some "[".toList)),
    ("birds".toList, .folder [
      ("note.txt".toList, .file none),
      ("owls.yml".toList, .file (some "cat: tom\nowl: 'a ?\x7belk\x7d'\n".toList))])]

def turned : List (Text × FileTree) :=
  [("birds".toList, .folder [
      ("owls.yml".toList, .file (some "cat: tom\nowl: 'a ?\x7belk\x7d'\n".toList)),
      ("note.txt".toList, .file none)]),
    ("torn.yml".toList, .file (some "[".toList)),
    ("dogs.ron".toList,
      .file (some "\x7b\"cat\":\"tom\",\"dog\":[\"?\x7bdog\x7d\"]\x7d".toList))]

theorem relisted_turned : Relisted cupboard turned := by
  refine .trans (.swap _ _ _) (.trans (.cons _ (.swap _ _ _)) (.trans (.swap _ _ _) ?_))
  exact .folder _ _ (.swap _ _ _)

/-- The check finds the same unknown keyword and the same cycle in both listings. -/
theorem cupboard_turned :
    Agree (filesIn "c".toList cupboard) ∧
      ∀ listed ∈ [cupboard, turned], ∃ order, order.Perm (filesIn "c".toList cupboard) ∧
        run (fun _ => .ok (.folder listed)) ["c".toList] = finish (visit order) ∧
        (visit order).library = .ofList [("cat".toList, .scalar "tom".toList),
          ("dog".toList, .collection ["?\x7bdog\x7d".toList]),
          ("owl".toList, .scalar "a ?\x7belk\x7d".toList)] ∧
        (finish (visit order)).out = order.flatMap Found.progress ++ reportText 3 {
          errors := [.unknownReference "owl".toList "elk".toList]
          warnings := [.selfExpanding "dog".toList] } ∧
        (finish (visit order)).exitCode = 1 := by
  have agree : Agree (filesIn "c".toList cupboard) := by decide +kernel
  obtain ⟨-, -, visits, listings⟩ := order_of_visits agree
  refine ⟨agree, fun listed member => ?_⟩
  have relisted : Relisted cupboard listed := by
    rcases List.mem_pair.mp member with rfl | rfl
    · exact .refl _
    · exact relisted_turned
  obtain ⟨order, permuted, runs⟩ := listings listed relisted
  obtain ⟨library, out, code⟩ := visits order permuted
  have size : (merged (filesIn "c".toList cupboard)).size = 3 := by decide +kernel
  have report : lint (merged (filesIn "c".toList cupboard)) = {
      errors := [.unknownReference "owl".toList "elk".toList]
      warnings := [.selfExpanding "dog".toList] } := by decide +kernel
  rw [size, report] at out
  rw [report] at code
  exact ⟨order, permuted, runs _ [] (by decide) rfl, library.trans (by decide +kernel), out, code⟩

end PromptLoom.Command.TemplateLinter
