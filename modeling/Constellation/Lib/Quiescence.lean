import Mathlib.Data.Nat.Basic

/-!
# Relations that come to rest

A relation whose every step lowers a potential, in the states that keep an invariant, has no infinite run,
and no run longer than the potential it starts from (`run_le`). In an exchange of messages part of the
potential is how many peers a party does not know yet (`strangers`).
-/

namespace Constellation

section
variable {σ : Type} {R : σ → σ → Prop} {I : σ → Prop} {μ : σ → Nat}

/-- The invariant lasts, and every step costs some of the potential. -/
theorem run_pays (hkeep : ∀ s t, I s → R s t → I t) (hpay : ∀ s t, I s → R s t → μ t < μ s) {f : Nat → σ}
    (hstart : I (f 0)) (n : Nat) (hrun : ∀ i < n, R (f i) (f (i + 1))) : I (f n) ∧ n + μ (f n) ≤ μ (f 0) := by
  induction n with
  | zero => exact ⟨hstart, Nat.le_of_eq (Nat.zero_add _)⟩
  | succ n ih =>
    obtain ⟨hinv, hpaid⟩ := ih fun i hi => hrun i (Nat.lt_succ_of_lt hi)
    have hlast := hrun n (Nat.lt_succ_self n)
    have hless := hpay _ _ hinv hlast
    exact ⟨hkeep _ _ hinv hlast, by omega⟩

/-- **No run is longer than the potential it starts from.** -/
theorem run_le (hkeep : ∀ s t, I s → R s t → I t) (hpay : ∀ s t, I s → R s t → μ t < μ s) {f : Nat → σ}
    (hstart : I (f 0)) {n : Nat} (hrun : ∀ i < n, R (f i) (f (i + 1))) : n ≤ μ (f 0) := by
  have hpaid := (run_pays hkeep hpay hstart n hrun).2
  omega

theorem no_infinite_run (hkeep : ∀ s t, I s → R s t → I t) (hpay : ∀ s t, I s → R s t → μ t < μ s) {f : Nat → σ}
    (hstart : I (f 0)) : ¬ ∀ i, R (f i) (f (i + 1)) := by
  intro hrun
  have hlong := run_le hkeep hpay hstart (n := μ (f 0) + 1) fun i _ => hrun i
  omega

end

section
variable {κ : Type}

/-- How many of these peers are not known. -/
def strangers (ids : List κ) (known : κ → Bool) : Nat := ids.countP fun id => !known id

variable {ids : List κ} {known known' : κ → Bool}

variable (ids) in
theorem strangers_le (hkeeps : ∀ id, known id = true → known' id = true) : strangers ids known' ≤ strangers ids known := by
  apply List.countP_mono_left
  intro id _ hid
  cases hbefore : known id with
  | false => rfl
  | true =>
    rw [hkeeps id hbefore] at hid
    cases hid

theorem strangers_lt (hkeeps : ∀ id, known id = true → known' id = true) {id : κ} (hid : id ∈ ids)
    (hunknown : known id = false) (hmet : known' id = true) : strangers ids known' < strangers ids known := by
  obtain ⟨pre, post, rfl⟩ := List.append_of_mem hid
  have hpre := strangers_le pre hkeeps
  have hpost := strangers_le post hkeeps
  simp only [strangers, List.countP_append, List.countP_cons, hunknown, hmet, Bool.not_true, Bool.not_false, Bool.false_eq_true,
    if_true, if_false] at *
  omega

end

end Constellation
