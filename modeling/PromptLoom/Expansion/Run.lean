import PromptLoom.Expansion.Event

/-! # Runs

A run draws from a random source and emits events. It has no outcome when a budget that was given to
it was too small.
-/

namespace PromptLoom

/-- The end of a run: its value, the source after its draws and the events in order. -/
structure Outcome (α : Type) where
  value : α
  source : Random.Source
  events : List Event

/-- A computation that draws, emits events and may run out of its budget. -/
def Run (α : Type) : Type :=
  Random.Source → Option (Outcome α)

namespace Run

/-- The run that does nothing. -/
def done {α : Type} (a : α) : Run α :=
  fun s => some ⟨a, s, []⟩

/-- Go on after a run; the events of the first part come first. -/
def andThen {α β : Type} (x : Run α) (f : α → Run β) : Run β :=
  fun s =>
    match x s with
    | none => none
    | some first =>
      match f first.value first.source with
      | none => none
      | some second => some { second with events := first.events ++ second.events }

instance : Monad Run where
  pure := done
  bind := andThen

theorem bind_assoc {α β γ : Type} (x : Run α) (f : α → Run β) (g : β → Run γ) :
    x >>= f >>= g = x >>= fun a => f a >>= g := by
  funext s
  simp only [bind, andThen]
  cases x s with
  | none => rfl
  | some first =>
    cases hf : f first.value first.source with
    | none => simp [hf]
    | some second =>
      simp only [hf]
      cases g second.value second.source <;> simp

instance : LawfulMonad Run :=
  LawfulMonad.mk' Run
    (fun x => by
      funext s
      simp only [Functor.map, andThen]
      cases x s <;> simp [done])
    (fun a f => by
      funext s
      simp only [bind, pure, andThen, done]
      cases f a s <;> simp)
    bind_assoc

/-- Emit one event. -/
def emit (e : Event) : Run Unit :=
  fun s => some ⟨(), s, [e]⟩

/-- Draw from the source. -/
def ofDraw {α : Type} (d : Random.Draw α) : Run α :=
  fun s =>
    let (a, rest) := d s
    some ⟨a, rest, []⟩

/-- The run without an outcome. -/
def unfinished {α : Type} : Run α :=
  fun _ => none

end Run

end PromptLoom
