/-! When computations that may fail succeed. -/
namespace Easel

variable {ε α β γ : Type}

theorem bind_eq_ok {x : Except ε α} {f : α → Except ε β} {b : β} (h : (x >>= f) = .ok b) :
    ∃ a, x = .ok a ∧ f a = .ok b := by
  cases x with
  | error e => cases h
  | ok a => exact ⟨a, rfl, h⟩

theorem bind_bind_ok (x : Except ε α) (f : α → Except ε β) (k : β → γ) :
    (x >>= fun a => f a >>= fun b => .ok (k b)) = (x >>= f).map k := by
  cases x with
  | error e => rfl
  | ok a =>
    change (f a >>= fun b => .ok (k b)) = (f a).map k
    cases f a <;> rfl

theorem eq_ok_of_mem_toOption {x : Except ε α} {a : α} (h : a ∈ x.toOption) : x = .ok a := by
  cases x with
  | error e => cases h
  | ok b => exact congrArg Except.ok (Option.some.inj h)

theorem except_map_eq_ok {f : α → β} {x : Except ε α} {b : β} :
    x.map f = .ok b ↔ ∃ a, x = .ok a ∧ f a = b := by
  cases x <;> simp [Except.map]

end Easel
