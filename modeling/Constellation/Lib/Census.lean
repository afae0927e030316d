import Mathlib.Algebra.BigOperators.Group.Finset.Piecewise
import Mathlib.Algebra.Order.Ring.Nat
import Mathlib.Data.Fintype.BigOperators

/-!
# Counting threads by where they are

Finitely many threads, each at some place. A step moves one of them (`Function.update`); what it does to the
number of threads at a place is one equation (`census_move`), and invariants that compare such numbers follow
from it by arithmetic.
-/

namespace Constellation

variable {ι φ : Type} [Fintype ι] [DecidableEq φ]

/-- How many threads are at this place. -/
def census (place : ι → φ) (p : φ) : Nat := (Finset.univ.filter fun i => place i = p).card

/-- **One thread moves.** -/
theorem census_move [DecidableEq ι] (place : ι → φ) (i : ι) (a p : φ) :
    census (Function.update place i a) p + (if place i = p then 1 else 0) =
      census place p + (if a = p then 1 else 0) := by
  have hself : census place p = (if place i = p then 1 else 0) + ∑ j ∈ {i}ᶜ, if place j = p then 1 else 0 := by
    rw [census, Finset.card_filter, Fintype.sum_eq_add_sum_compl i]
  have hmoved : census (Function.update place i a) p =
      (if a = p then 1 else 0) + ∑ j ∈ {i}ᶜ, if place j = p then 1 else 0 := by
    rw [census, Finset.card_filter, Fintype.sum_eq_add_sum_compl i, Function.update_self]
    congr 1
    apply Finset.sum_congr rfl
    intro j hj
    rw [Function.update_of_ne (by simpa using hj)]
  omega

end Constellation
