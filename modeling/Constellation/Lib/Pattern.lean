import Mathlib.Computability.RegularExpressions

/-!
# Patterns

The operators of `std::regex` that regular expressions over an alphabet lack, and what matches them: one letter
out of several (`oneOf`), a letter or more of them (`+`), and something that may be left out (`?`).
-/

namespace Constellation

open RegularExpression

variable {α : Type} [DecidableEq α]

/-- One of these letters. -/
def oneOf : List α → RegularExpression α
  | [] => 0
  | a :: as => char a + oneOf as

/-- `r+`. -/
def oneOrMore (r : RegularExpression α) : RegularExpression α := r * r.star

/-- `r?`. -/
def optional (r : RegularExpression α) : RegularExpression α := 1 + r

variable {r : RegularExpression α} {as s : List α}

theorem oneOf_rmatch_iff : (oneOf as).rmatch s = true ↔ ∃ a ∈ as, s = [a] := by
  induction as with
  | nil => simp [oneOf]
  | cons a as ih =>
    have hadd : (oneOf (a :: as)).rmatch s = true ↔ (char a).rmatch s = true ∨ (oneOf as).rmatch s = true :=
      add_rmatch_iff _ _ s
    rw [hadd, char_rmatch_iff, ih]
    simp only [List.mem_cons, exists_eq_or_imp]

theorem optional_rmatch_iff : (optional r).rmatch s = true ↔ s = [] ∨ r.rmatch s = true := by
  rw [optional, add_rmatch_iff, one_rmatch_iff]

theorem char_mul_rmatch_iff {a : α} : (char a * r).rmatch s = true ↔ ∃ t, s = a :: t ∧ r.rmatch t = true := by
  rw [mul_rmatch_iff]
  constructor
  · rintro ⟨front, t, rfl, hfront, ht⟩
    rw [char_rmatch_iff] at hfront
    exact ⟨t, by rw [hfront]; rfl, ht⟩
  · rintro ⟨t, rfl, ht⟩
    exact ⟨[a], t, rfl, (char_rmatch_iff a [a]).mpr rfl, ht⟩

theorem oneOrMore_oneOf_rmatch_iff : (oneOrMore (oneOf as)).rmatch s = true ↔ s ≠ [] ∧ ∀ a ∈ s, a ∈ as := by
  rw [oneOrMore, mul_rmatch_iff]
  constructor
  · rintro ⟨front, rest, rfl, hfront, hrest⟩
    obtain ⟨a, ha, rfl⟩ := oneOf_rmatch_iff.mp hfront
    obtain ⟨words, rfl, hwords⟩ := (star_rmatch_iff _ _).mp hrest
    refine ⟨List.cons_ne_nil a _, fun b hb => ?_⟩
    rcases List.mem_cons.mp hb with rfl | hb
    · exact ha
    · obtain ⟨word, hword, hb⟩ := List.mem_flatten.mp hb
      obtain ⟨c, hc, rfl⟩ := oneOf_rmatch_iff.mp (hwords word hword).2
      rw [List.mem_singleton.mp hb]
      exact hc
  · rintro ⟨hne, hletters⟩
    obtain ⟨a, t, rfl⟩ := List.exists_cons_of_ne_nil hne
    refine ⟨[a], t, rfl, oneOf_rmatch_iff.mpr ⟨a, hletters a List.mem_cons_self, rfl⟩, ?_⟩
    have hwords : ∀ t : List α, t = (t.map ([·])).flatten := by
      intro t
      induction t with
      | nil => rfl
      | cons b t ih =>
        rw [List.map_cons, List.flatten_cons, ← ih]
        rfl
    refine (star_rmatch_iff _ _).mpr ⟨t.map ([·]), hwords t, ?_⟩
    intro word hword
    obtain ⟨b, hb, rfl⟩ := List.mem_map.mp hword
    exact ⟨List.cons_ne_nil b [], oneOf_rmatch_iff.mpr ⟨b, hletters b (List.mem_cons_of_mem a hb), rfl⟩⟩

end Constellation
