/-!
# Computations in a row

What a computation made of two gives when the first can fail. Main statements: `bind_eq_ok` (both
succeeded) and `map_bind`.
-/

namespace Inventory

variable {ε α β γ : Type}

/-- Two computations in a row succeed when the first does and the second does on what it gives. -/
theorem bind_eq_ok {x : Except ε α} {f : α → Except ε β} {b : β} :
    (x >>= f) = .ok b ↔ ∃ a, x = .ok a ∧ f a = .ok b := by
  cases x with
  | error e => simp [bind, Except.bind]
  | ok a => simp [bind, Except.bind]

theorem ok_bind {x : Except ε α} {a : α} (h : x = .ok a) (f : α → Except ε β) :
    (x >>= f) = f a := by
  rw [h]
  rfl

/-- Putting an error into other words does not make it succeed. -/
theorem mapError_eq_ok {ε' : Type} {f : ε → ε'} {x : Except ε α} {a : α} :
    x.mapError f = .ok a ↔ x = .ok a := by
  cases x with
  | error e =>
    constructor
    · intro h
      have h : Except.error (f e) = Except.ok a := h
      contradiction
    · intro h
      contradiction
  | ok b =>
    constructor
    · intro h
      have h : Except.ok b = Except.ok a := h
      rw [Except.ok.inj h]
    · intro h
      rw [Except.ok.inj h]
      rfl

theorem map_bind (g : β → γ) (x : Except ε α) (f : α → Except ε β) :
    (x >>= f).map g = x >>= fun a => (f a).map g := by
  cases x <;> rfl

end Inventory
