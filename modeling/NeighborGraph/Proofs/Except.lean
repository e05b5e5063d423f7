/-!
# Sequences of steps that may fail

A sequence succeeds exactly if every step of it does, and it fails with the fault of its first step
that fails (`Except.foldlM_eq_error` for a list of steps). Two sequences are alike if each of their
steps is (`Except.Alike.bind`); if they also fail with the same fault, they match
(`Except.Matches`).
-/

namespace Except

variable {ε ε' β γ : Type}

/-- A sequence of two steps succeeds if both do. -/
theorem bind_eq_ok {x : Except ε β} {f : β → Except ε γ} {c : γ} :
    x >>= f = .ok c ↔ ∃ b, x = .ok b ∧ f b = .ok c := by
  cases x with
  | error e => exact ⟨nofun, nofun⟩
  | ok b => exact ⟨fun h => ⟨b, rfl, h⟩, fun ⟨_, h, h'⟩ => by cases h; exact h'⟩

/-- A step that succeeds hands over to the next one. -/
theorem bind_of_eq_ok {x : Except ε β} {f : β → Except ε γ} {b : β} (h : x = .ok b) :
    x >>= f = f b := by
  rw [h]
  rfl

/-- What follows a step matters only for its result. -/
theorem bind_congr {x : Except ε β} {f g : β → Except ε γ} (h : ∀ b, x = .ok b → f b = g b) :
    x >>= f = x >>= g := by
  cases x with
  | error e => rfl
  | ok b => exact h b rfl

/-- A sequence of two steps fails in the first one, or in the second one after the first. -/
theorem bind_eq_error {x : Except ε β} {f : β → Except ε γ} {e : ε} :
    x >>= f = .error e ↔ x = .error e ∨ ∃ b, x = .ok b ∧ f b = .error e := by
  cases x with
  | error e' => exact ⟨fun h => .inl (by cases h; rfl), fun h => h.elim (by rintro ⟨⟩; rfl) nofun⟩
  | ok b =>
    exact ⟨fun h => .inr ⟨b, rfl, h⟩, fun h => h.elim nofun fun ⟨_, h, h'⟩ => by cases h; exact h'⟩

/-- Renaming faults does not touch success. -/
theorem mapError_eq_ok {x : Except ε β} {f : ε → ε'} {b : β} :
    x.mapError f = .ok b ↔ x = .ok b := by
  cases x with
  | error e => exact ⟨nofun, nofun⟩
  | ok b' => exact ⟨fun h => by cases h; rfl, fun h => by cases h; rfl⟩

/-- Renaming faults renames the one that there is. -/
theorem mapError_eq_error {x : Except ε β} {f : ε → ε'} {e' : ε'} :
    x.mapError f = .error e' ↔ ∃ e, x = .error e ∧ e' = f e := by
  cases x with
  | error e =>
    constructor
    · intro h
      cases h
      exact ⟨e, rfl, rfl⟩
    · rintro ⟨_, ⟨rfl⟩, rfl⟩
      rfl
  | ok b => exact ⟨nofun, nofun⟩

/-- A list of steps fails in the first one that fails, after all the ones before it. -/
theorem foldlM_eq_error {f : γ → β → Except ε γ} {steps : List β} {c : γ} {e : ε} :
    steps.foldlM f c = .error e ↔
      ∃ before step after c', steps = before ++ step :: after ∧
        before.foldlM f c = .ok c' ∧ f c' step = .error e := by
  constructor
  · intro h
    induction steps generalizing c with
    | nil => cases h
    | cons step rest ih =>
      rcases bind_eq_error.1 h with h | ⟨c₁, hstep, h⟩
      · exact ⟨[], step, rest, c, rfl, rfl, h⟩
      · obtain ⟨before, last, after, c', rfl, hbefore, hlast⟩ := ih h
        exact ⟨step :: before, last, after, c', rfl, bind_eq_ok.2 ⟨c₁, hstep, hbefore⟩, hlast⟩
  · rintro ⟨before, step, after, c', rfl, hbefore, hstep⟩
    rw [List.foldlM_append]
    exact bind_eq_error.2 (.inr ⟨c', hbefore, bind_eq_error.2 (.inl hstep)⟩)

/-- A sequence has the result of its second step on that of the first one. -/
theorem toOption_bind (x : Except ε β) (f : β → Except ε γ) :
    (x >>= f).toOption = x.toOption.bind fun b => (f b).toOption := by
  cases x <;> rfl

/-- The result of a changed sequence is the changed result. -/
theorem toOption_map (x : Except ε β) (f : β → γ) : (x.map f).toOption = x.toOption.map f := by
  cases x <;> rfl

/-- What becomes of the fault does not matter to the result. -/
theorem toOption_mapError (x : Except ε β) (f : ε → ε') :
    (x.mapError f).toOption = x.toOption := by
  cases x <;> rfl

/-- A sequence has a result exactly if it succeeds with it. -/
theorem toOption_eq_some {x : Except ε β} {b : β} : x.toOption = some b ↔ x = .ok b := by
  cases x with
  | error e => exact ⟨nofun, nofun⟩
  | ok b' => exact ⟨fun h => congrArg _ (Option.some.inj h), fun h => congrArg _ h⟩

/-- Two sequences that fail together, and whose results are related if they do not. -/
inductive Alike (R : β → γ → Prop) : Except ε β → Except ε' γ → Prop
  | error (e : ε) (e' : ε') : Alike R (.error e) (.error e')
  | ok {b : β} {c : γ} (h : R b c) : Alike R (.ok b) (.ok c)

namespace Alike

variable {β' γ' : Type} {R : β → γ → Prop} {x : Except ε β} {y : Except ε' γ}

/-- Sequences are alike if their first steps are and, on related results, their second ones. -/
theorem bind {S : β' → γ' → Prop} {f : β → Except ε β'} {g : γ → Except ε' γ'}
    (h : Alike R x y) (hfg : ∀ b c, R b c → Alike S (f b) (g c)) :
    Alike S (x >>= f) (y >>= g) := by
  cases h with
  | error e e' => exact .error e e'
  | ok h => exact hfg _ _ h

/-- Related changes of alike sequences leave them alike. -/
theorem map {S : β' → γ' → Prop} {f : β → β'} {g : γ → γ'} (h : Alike R x y)
    (hfg : ∀ b c, R b c → S (f b) (g c)) : Alike S (x.map f) (y.map g) := by
  cases h with
  | error e e' => exact .error e e'
  | ok h => exact .ok (hfg _ _ h)

/-- Alike sequences are so with a weaker relation. -/
theorem mono {S : β → γ → Prop} (h : Alike R x y) (hRS : ∀ b c, R b c → S b c) : Alike S x y := by
  cases h with
  | error e e' => exact .error e e'
  | ok h => exact .ok (hRS _ _ h)

/-- Sequences that are alike in equal results have the same result, if any. -/
theorem toOption_eq {x y : Except ε β} (h : Alike Eq x y) : x.toOption = y.toOption := by
  cases h with
  | error e e' => rfl
  | ok h => rw [h]

/-- What becomes of the faults does not matter to whether sequences are alike. -/
theorem mapError (h : Alike R x y) (f : ε → ε) (g : ε' → ε') :
    Alike R (x.mapError f) (y.mapError g) := by
  cases h with
  | error e e' => exact .error _ _
  | ok h => exact .ok h

end Alike

/-- Two sequences that fail with the same fault, and whose results are related if they do not
fail. -/
inductive Matches (R : β → γ → Prop) : Except ε β → Except ε γ → Prop
  | error (e : ε) : Matches R (.error e) (.error e)
  | ok {b : β} {c : γ} (h : R b c) : Matches R (.ok b) (.ok c)

/-- Sequences match that begin with the same step and match after it. -/
theorem matches_bind {β' γ' : Type} {R : β' → γ' → Prop} {x : Except ε β} {f : β → Except ε β'}
    {g : β → Except ε γ'} (h : ∀ b, x = .ok b → Matches R (f b) (g b)) :
    Matches R (x >>= f) (x >>= g) := by
  cases x with
  | error e => exact .error e
  | ok b => exact h b rfl

/-- The same change of the faults leaves matching sequences matching. -/
theorem Matches.mapError {R : β → γ → Prop} {x : Except ε β} {y : Except ε γ} (h : Matches R x y)
    (f : ε → ε') : Matches R (x.mapError f) (y.mapError f) := by
  cases h with
  | error e => exact .error _
  | ok h => exact .ok h

end Except
