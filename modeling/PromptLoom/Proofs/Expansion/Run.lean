import PromptLoom.Expansion.Run

/-! # Outcomes of runs

What a run in several parts comes to, and four ways to speak of its outcomes. A run
with a larger budget refines one with a smaller budget: it keeps every outcome. A run
with wider limits keeps at least the outcomes whose events tell of no limit. What a run
yields, it comes to from every source. What a run carries relates its value to all events
up to its end, those of the parts before it included.
-/

namespace PromptLoom.Run

variable {α β : Type}

@[simp]
theorem pure_apply (a : α) (s : Random.Source) : (pure a : Run α) s = some ⟨a, s, []⟩ := rfl

@[simp]
theorem emit_apply (e : Event) (s : Random.Source) : emit e s = some ⟨(), s, [e]⟩ := rfl

@[simp]
theorem ofDraw_apply (d : Random.Draw α) (s : Random.Source) :
    ofDraw d s = some ⟨(d s).1, (d s).2, []⟩ := rfl

@[simp]
theorem unfinished_apply (s : Random.Source) : (unfinished : Run α) s = none := rfl

/-- A run in two parts ends if both parts do, and the events of the first part come first. -/
theorem bind_eq_some_iff {x : Run α} {f : α → Run β} {s : Random.Source} {o : Outcome β} :
    (x >>= f) s = some o ↔
      ∃ first, x s = some first ∧ ∃ second, f first.value first.source = some second ∧
        o = ⟨second.value, second.source, first.events ++ second.events⟩ := by
  simp only [bind, andThen]
  cases x s with
  | none => simp
  | some first =>
      cases h : f first.value first.source with
      | none => simp [h]
      | some second => simp [h, eq_comm]

/-- A draw in front only changes what comes after it. -/
theorem ofDraw_bind_apply (d : Random.Draw α) (f : α → Run β) (s : Random.Source) :
    (ofDraw d >>= f) s = f (d s).1 (d s).2 := by
  simp only [bind, andThen, ofDraw_apply, List.nil_append]
  cases f (d s).1 (d s).2 <;> rfl

/-- The second part only matters for the outcomes of the first one. -/
theorem bind_congr {x : Run α} {f g : α → Run β}
    (same : ∀ s o, x s = some o → f o.value o.source = g o.value o.source) :
    x >>= f = x >>= g := by
  funext s
  simp only [bind, andThen]
  cases h : x s with
  | none => rfl
  | some first => simp only [same s first h]

/-- Every outcome of `x` whose events meet `E` is one of `y`. -/
def Keeps (E : Event → Prop) (y x : Run α) : Prop :=
  ∀ s o, x s = some o → (∀ e ∈ o.events, E e) → y s = some o

namespace Keeps

variable {E : Event → Prop} {x y : Run α}

theorem refl (x : Run α) : Keeps E x x :=
  fun _ _ ran _ => ran

theorem unfinished (x : Run α) : Keeps E x Run.unfinished := by
  intro s o ran
  simp at ran

theorem bind {f g : α → Run β} (h : Keeps E y x) (k : ∀ a, Keeps E (g a) (f a)) :
    Keeps E (y >>= g) (x >>= f) := by
  intro s o ran meets
  obtain ⟨first, begins, second, follows, rfl⟩ := bind_eq_some_iff.mp ran
  have early := h s first begins fun e held => meets e (List.mem_append_left _ held)
  have late := k _ _ second follows fun e held => meets e (List.mem_append_right _ held)
  exact bind_eq_some_iff.mpr ⟨first, early, second, late, rfl⟩

/-- A run that begins with an event which does not meet `E` has nothing to keep. -/
theorem of_emit {e : Event} (barred : ¬ E e) (y : Run α) (f : Unit → Run α) :
    Keeps E y (emit e >>= f) := by
  intro s o ran meets
  obtain ⟨first, begins, second, -, rfl⟩ := bind_eq_some_iff.mp ran
  rw [emit_apply, Option.some.injEq] at begins
  subst begins
  exact absurd (meets e List.mem_cons_self) barred

end Keeps

/-- Every outcome of `x` is one of `y`. -/
def Refines (y x : Run α) : Prop :=
  ∀ s o, x s = some o → y s = some o

theorem refines_iff_keeps {x y : Run α} : Refines y x ↔ Keeps (fun _ => True) y x :=
  ⟨fun h s o ran _ => h s o ran, fun h s o ran => h s o ran fun _ _ => trivial⟩

namespace Refines

variable {x y : Run α}

theorem refl (x : Run α) : Refines x x :=
  refines_iff_keeps.mpr (.refl x)

theorem bind {f g : α → Run β} (h : Refines y x) (k : ∀ a, Refines (g a) (f a)) :
    Refines (y >>= g) (x >>= f) :=
  refines_iff_keeps.mpr ((refines_iff_keeps.mp h).bind fun a => refines_iff_keeps.mp (k a))

end Refines

/-- From every source the run ends, with a value that meets `V` and events that meet `E`. -/
def Yields (x : Run α) (E : Event → Prop) (V : α → Prop) : Prop :=
  ∀ s, ∃ o, x s = some o ∧ V o.value ∧ ∀ e ∈ o.events, E e

namespace Yields

variable {x : Run α} {f : α → Run β} {E : Event → Prop} {V : α → Prop} {W : β → Prop}

theorem pure {a : α} (h : V a) : Yields (Pure.pure a) E V :=
  fun s => ⟨⟨a, s, []⟩, rfl, h, by simp⟩

theorem emit {e : Event} (h : E e) : Yields (Run.emit e) E fun _ => True :=
  fun s => ⟨⟨(), s, [e]⟩, rfl, trivial, by simpa using h⟩

theorem ofDraw {d : Random.Draw α} (h : ∀ s, V (d s).1) : Yields (Run.ofDraw d) E V :=
  fun s => ⟨_, rfl, h s, by simp⟩

theorem bind (h : x.Yields E V) (k : ∀ a, V a → (f a).Yields E W) : (x >>= f).Yields E W := by
  intro s
  obtain ⟨first, ran, value, early⟩ := h s
  obtain ⟨second, follows, result, late⟩ := k first.value value first.source
  refine ⟨_, bind_eq_some_iff.mpr ⟨first, ran, second, follows, rfl⟩, result, ?_⟩
  intro e held
  rcases List.mem_append.mp held with held | held
  · exact early e held
  · exact late e held

/-- The second part only matters for values that the first one yields. -/
theorem bind_congr {g : α → Run β} (h : x.Yields E V) (same : ∀ a, V a → f a = g a) :
    x >>= f = x >>= g := by
  refine Run.bind_congr fun s o ran => ?_
  obtain ⟨p, ended, value, -⟩ := h s
  obtain rfl := Option.some.inj (ran.symm.trans ended)
  rw [same o.value value]

end Yields

/-- If the events before the run meet `E`, these events and those of the run meet `R` of its
value. -/
def Carries (E : Event → Prop) (x : Run α) (R : α → Event → Prop) : Prop :=
  ∀ s o, x s = some o → ∀ e, E e ∨ e ∈ o.events → R o.value e

namespace Carries

variable {x : Run α} {f : α → Run β} {E : Event → Prop} {Q : α → Event → Prop}
  {R : β → Event → Prop}

theorem pure {a : α} (h : ∀ e, E e → Q a e) : Carries E (Pure.pure a) Q := by
  rintro s o ran e held
  obtain rfl := Option.some.inj ran
  exact h e (by simpa using held)

theorem emit {emitted : Event} {Q : Unit → Event → Prop} (before : ∀ e, E e → Q () e)
    (here : Q () emitted) : Carries E (Run.emit emitted) Q := by
  rintro s o ran e held
  obtain rfl := Option.some.inj ran
  rcases held with held | held
  · exact before e held
  · exact List.mem_singleton.mp held ▸ here

theorem ofDraw {d : Random.Draw α} (h : ∀ a e, E e → Q a e) : Carries E (Run.ofDraw d) Q := by
  rintro s o ran e held
  obtain rfl := Option.some.inj ran
  exact h _ e (by simpa using held)

theorem bind (h : Carries E x Q) (k : ∀ a, Carries (Q a) (f a) R) : Carries E (x >>= f) R := by
  intro s o ran e held
  obtain ⟨first, begins, second, follows, rfl⟩ := bind_eq_some_iff.mp ran
  refine k _ _ _ follows e ?_
  rcases held with held | held
  · exact .inl (h _ _ begins e (.inl held))
  · rcases List.mem_append.mp held with early | late
    · exact .inl (h _ _ begins e (.inr early))
    · exact .inr late

/-- What meets `E` before the run still does after it. -/
theorem frame (h : Carries (fun _ => False) x Q) : Carries E x fun a e => E e ∨ Q a e := by
  intro s o ran e held
  rcases held with held | held
  · exact .inl held
  · exact .inr (h s o ran e (.inr held))

end Carries

end PromptLoom.Run
