import PromptLoom.Command.Preview
import PromptLoom.Proofs.Decimal.Natural
import PromptLoom.Proofs.Engine

/-! # Setting the seed of a shell

Whatever a line asks for, all that the shell keeps of it is the state of its generator and the seed
that was set last. So a line that sets the seed makes the shell forget all lines before it, and it
goes on as one that was started with that seed on the same libraries.
-/

namespace PromptLoom.Command.Preview

variable {reader : FileReader} {arguments others libraries : List Text} {session : Session}
  {passes : Nat} {first seed : UInt64}

namespace Options

variable {o p : Options}

theorem read_append (options : o.read arguments = .ok p) (more : List Text) :
    o.read (arguments ++ more) = p.read more := by
  fun_induction Options.read o arguments with
  | case1 o =>
      cases options
      rfl
  | case2 o argument path rest named ih =>
      rw [← ih options, List.cons_append, List.cons_append, Options.read.eq_def]
      simp only [named]
  | case3 o argument n rest named ih =>
      rw [← ih options, List.cons_append, List.cons_append, Options.read.eq_def]
      simp only [named]
  | case4 => cases options

theorem read_seed (o : Options) (seed : UInt64) :
    o.read ["--seed".toList, writtenSeed seed] = .ok { o with seed } := by
  rw [Options.read.eq_def]
  simp [Options.read, writtenSeed, Decimal.readWord?_digits seed.toNat_lt]

end Options

/-- The arguments ask for a shell with these libraries and this seed. -/
structure Asks (arguments libraries : List Text) (seed : UInt64) : Prop where
  runs : asksHelp arguments = false
  options : Options.read {} arguments = .ok ⟨libraries, seed⟩

namespace Asks

/-- Among several seeds the last one counts. -/
theorem append_seed (asks : Asks arguments libraries first) (seed : UInt64) :
    Asks (arguments ++ ["--seed".toList, writtenSeed seed]) libraries seed := by
  refine ⟨?_, ?_⟩
  · cases arguments with
    | nil => cases asks.runs
    | cons argument rest => exact asks.runs
  · rw [Options.read_append asks.options, Options.read_seed]

theorem start_eq_ok_iff (asks : Asks arguments libraries seed) :
    start reader arguments = .ok session ↔
      (Setup.build { seed, libraryPaths := libraries } reader (.ofWords [])).2 =
        .ok session.engine ∧ session.seed = seed := by
  obtain ⟨runs, options⟩ := asks
  cases session with
  | mk engine shown =>
      simp only [start, runs, options, Bool.false_eq_true, if_false]
      cases (Setup.build { seed, libraryPaths := libraries } reader (.ofWords [])).2 with
      | error cause => simp
      | ok built => simp [eq_comm]

end Asks

namespace Session

/-- The shell after its seed is set. -/
def reseed (s : Session) (seed : UInt64) : Session :=
  ⟨s.engine.reseed seed, seed⟩

theorem start_reseed (asked : Asks arguments libraries first)
    (started : start reader arguments = .ok session) (asks : Asks others libraries seed) :
    start reader others = .ok (session.reseed seed) := by
  obtain ⟨built, -⟩ := asked.start_eq_ok_iff.mp started
  exact asks.start_eq_ok_iff.mpr ⟨Setup.build_seed built seed, rfl⟩

/-- Unless it ends the shell, a wish leaves nothing in it that outlives a new seed. -/
theorem exists_next_of_grant {wish : Wish} {reply : Reply}
    (granted : session.grant passes wish = some reply) (stays : wish ≠ .quit) :
    ∃ next, reply.next = some next ∧ ∀ seed, next.reseed seed = session.reseed seed := by
  cases wish with
  | quit => exact absurd rfl stays
  | prompt request =>
      obtain ⟨⟨o, engine⟩, ran, rfl⟩ := Option.map_eq_some_iff.mp granted
      obtain ⟨_, _, same⟩ := Option.map_eq_some_iff.mp ran
      cases same
      exact ⟨_, rfl, fun _ => rfl⟩
  | bulk keyword count =>
      obtain ⟨⟨o, engine⟩, ran, rfl⟩ := Option.map_eq_some_iff.mp granted
      obtain ⟨_, _, same⟩ := Option.map_eq_some_iff.mp ran
      cases same
      exact ⟨_, rfl, fun _ => rfl⟩
  | _ =>
      cases granted
      exact ⟨_, rfl, fun _ => rfl⟩

variable {line : Text} {earlier : List Text}

/-- What is written from a new seed on is what a shell writes that has only heard of that seed. -/
theorem transcript_append_reseed (stays : ∀ t ∈ earlier, Wish.ofLine t ≠ .quit)
    (accepted : Wish.ofLine line = .reseed seed) (later : List Text) :
    session.transcript passes (earlier ++ line :: later) =
      (session.transcript passes earlier).bind fun before =>
        ((session.reseed seed).transcript passes later).map fun after =>
          before ++ "Seed set to ".toList ++ writtenSeed seed ++ ['\n'] ++ after := by
  induction earlier generalizing session with
  | nil =>
      have granted : session.respond passes line = some
          ⟨"Seed set to ".toList ++ writtenSeed seed ++ ['\n'], some (session.reseed seed)⟩ := by
        rw [respond, accepted]
        rfl
      simp only [List.nil_append, transcript, granted, Option.bind_eq_bind, Option.bind_some]
      cases (session.reseed seed).transcript passes later <;> simp
  | cons t rest ih =>
      -- A line may change the shell, but not the shell that a new seed makes of it.
      obtain ⟨here, onwards⟩ := List.forall_mem_cons.mp stays
      rw [List.cons_append, transcript, transcript]
      cases granted : session.respond passes t with
      | none => rfl
      | some reply =>
          obtain ⟨next, goesOn, forgets⟩ := exists_next_of_grant granted here
          simp only [Option.bind_eq_bind, Option.bind_some, goesOn, ih onwards, forgets]
          cases next.transcript passes rest with
          | none => rfl
          | some before =>
              cases (session.reseed seed).transcript passes later <;> simp

end Session

/-- Whatever a shell was asked for before, from a new seed on it answers like one that is started
with that seed on the same libraries. -/
theorem reseeding_restarts {line : Text} {earlier : List Text}
    (asked : Asks arguments libraries first) (started : start reader arguments = .ok session)
    (stays : ∀ t ∈ earlier, Wish.ofLine t ≠ .quit) (accepted : Wish.ofLine line = .reseed seed)
    (asks : Asks others libraries seed) (passes : Nat) (later : List Text) :
    ∃ restarted, start reader others = .ok restarted ∧
      run passes reader others later =
        (restarted.transcript passes later).map (fun after =>
          { out := greeting restarted ++ after }) ∧
      run passes reader arguments (earlier ++ line :: later) =
        (session.transcript passes earlier).bind fun before =>
          (restarted.transcript passes later).map fun after =>
            { out := greeting session ++ before ++ "Seed set to ".toList ++ writtenSeed seed ++
                ['\n'] ++ after } := by
  have restarts := Session.start_reseed asked started asks
  refine ⟨session.reseed seed, restarts, ?_, ?_⟩
  · rw [run, restarts]
  · rw [run, started]
    dsimp only
    rw [Session.transcript_append_reseed stays accepted]
    cases session.transcript passes earlier with
    | none => rfl
    | some before => cases (session.reseed seed).transcript passes later <;> simp

/-- A keyword that draws from others and one that is never found. -/
def den : FileReader :=
  FileTree.read (.ofList [
    ("den.ron".toList, .file (some (
      "\x7b\"pet\":[\"a \x7bcat\x7d\",\"no \x7bcow\x7d\"],".toList ++
        "\"cat\":[\"tom\",\"lynx\",\"puma\"]\x7d".toList)))])

def denAtSeven : List Text :=
  ["--library".toList, "den.ron".toList, "--seed".toList, "7".toList]

def denAtNine : List Text :=
  denAtSeven ++ ["--seed".toList, writtenSeed 9]

/-- Lines of all kinds that leave the shell open. -/
def rummage : List Text :=
  ["gen pet 2 %", "", "bulk cat 3", "keywords", "lint", "seed", "seed 5", "gen", "gen dog",
    "seed -1", "help", "bulk cat 0", "rest"].map (·.toList)

def errand : List Text :=
  ["gen pet 2", "seed", "bulk pet 2", "what", "lint", "quit", "gen pet"].map (·.toList)

theorem errand_after_rummage :
    Asks denAtSeven ["den.ron".toList] 7 ∧ Asks denAtNine ["den.ron".toList] 9 ∧
      (∀ t ∈ rummage, Wish.ofLine t ≠ .quit) ∧
      Wish.ofLine " SEED +9 then ".toList = .reseed 9 ∧
      ∃ session restarted before after,
        start den denAtSeven = .ok session ∧ start den denAtNine = .ok restarted ∧
        run 9 den denAtNine errand = some { out := greeting restarted ++ after } ∧
        run 9 den denAtSeven (rummage ++ " SEED +9 then ".toList :: errand) = some {
          out := greeting session ++ before ++ "Seed set to 9\n".toList ++ after } := by
  have asked : Asks denAtSeven ["den.ron".toList] 7 := ⟨by decide, rfl⟩
  have asks : Asks denAtNine ["den.ron".toList] 9 := asked.append_seed 9
  have stays : ∀ t ∈ rummage, Wish.ofLine t ≠ .quit := by decide +kernel
  have accepted : Wish.ofLine " SEED +9 then ".toList = .reseed 9 := by decide +kernel
  have earlier : ((start den denAtSeven).toOption.bind (·.transcript 9 rummage)).isSome := by
    decide +kernel
  have later : ((start den denAtNine).toOption.bind (·.transcript 9 errand)).isSome := by
    decide +kernel
  cases started : start den denAtSeven with
  | error ending => simp [started, Except.toOption] at earlier
  | ok session =>
      obtain ⟨restarted, restarts, alone, behind⟩ :=
        reseeding_restarts asked started stays accepted asks 9 errand
      simp only [started, restarts, Except.toOption, Option.bind_some,
        Option.isSome_iff_exists] at earlier later
      obtain ⟨before, earlier⟩ := earlier
      obtain ⟨after, later⟩ := later
      refine ⟨asked, asks, stays, accepted, session, restarted, before, after, rfl, restarts,
        ?_, ?_⟩
      · rw [alone, later, Option.map_some]
      · rw [behind, earlier, later, Option.bind_some, Option.map_some]
        simp [writtenSeed, show Decimal.digits 9 = ['9'] from rfl]

end PromptLoom.Command.Preview
