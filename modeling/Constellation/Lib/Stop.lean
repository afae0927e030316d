import Mathlib.Init

/-!
# How a call can end without returning

A call of the modelled code is an `Except Stop`: it returns, or it throws an exception (which a
caller may catch), or one of its assertions fails and the process aborts, or it does something the
language leaves undefined.
-/

namespace Constellation

inductive Stop
  /-- An exception with the text of its `what()`. -/
  | throws (what : String)
  /-- A failed `assert`, with its condition: the process aborts. -/
  | asserts (condition : String)
  /-- Undefined behaviour. -/
  | undefined (what : String)
  deriving DecidableEq, Repr

/-- `assert(p)`. -/
def assert (p : Prop) [Decidable p] (condition : String) : Except Stop Unit :=
  if p then .ok () else .error (.asserts condition)

section assert
variable {p : Prop} [Decidable p] {condition : String}

theorem assert_pos (hp : p) : assert p condition = .ok () := if_pos hp

theorem assert_neg (hp : ¬ p) : assert p condition = .error (.asserts condition) := if_neg hp

end assert

theorem bind_eq_ok {α β : Type} {x : Except Stop α} {f : α → Except Stop β} {b : β} :
    (x >>= f) = .ok b ↔ ∃ a, x = .ok a ∧ f a = .ok b := by
  constructor
  · intro h
    cases x with
    | ok a => exact ⟨a, rfl, h⟩
    | error e => cases h
  · rintro ⟨a, rfl, h⟩
    exact h

theorem assert_bind {α : Type} {p : Prop} [Decidable p] {condition : String} {f : Unit → Except Stop α} (hp : p) :
    (assert p condition >>= f) = f () := by
  rw [assert_pos hp]
  rfl

theorem assert_bind_eq_ok {α : Type} {p : Prop} [Decidable p] {condition : String} {f : Unit → Except Stop α} {b : α} :
    (assert p condition >>= f) = .ok b ↔ p ∧ f () = .ok b := by
  by_cases hp : p
  · rw [assert_bind hp, and_iff_right hp]
  · rw [assert_neg hp]
    exact ⟨nofun, fun h => absurd h.1 hp⟩

@[simp] theorem ok_bind {α β : Type} (a : α) (f : α → Except Stop β) :
    ((.ok a : Except Stop α) >>= f) = f a := rfl

@[simp] theorem error_bind {α β : Type} (e : Stop) (f : α → Except Stop β) :
    ((.error e : Except Stop α) >>= f) = .error e := rfl

end Constellation
