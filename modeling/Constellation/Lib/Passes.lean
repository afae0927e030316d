import Constellation.Lib.Retries

/-!
# Tries among passes

Somebody looks again and again whether it is time for another try, and makes one if the last was an
interval ago. His looks are the passes; `spaced` picks from their times those at which he tries, as long as
nothing stops him. With a limited patience he makes the first of these tries only (`tries`), and the passes
that come an interval after the last try and find the limit used up are idle (`idle`).

The rules say what one more pass does: it comes too early, or it is a try, or it is idle.
-/

namespace Constellation

/-- The passes that come a gap after the one picked before, the first a gap after `since`. -/
def spaced (gap since : Nat) : List Nat → List Nat
  | [] => []
  | t :: ts => if t - since < gap then spaced gap since ts else t :: spaced gap t ts

section spaced
variable {gap since t : Nat} {ts : List Nat}

theorem spaced_snoc : spaced gap since (ts ++ [t]) =
    spaced gap since ts ++ if t - (spaced gap since ts).getLastD since < gap then [] else [t] := by
  induction ts generalizing since with
  | nil => rfl
  | cons u ts ih =>
    rw [List.cons_append, spaced, spaced]
    by_cases hsoon : u - since < gap
    · rw [if_pos hsoon, if_pos hsoon]
      exact ih
    · rw [if_neg hsoon, if_neg hsoon, ih, List.cons_append, List.getLastD_cons]

theorem spaced_eq_nil (h : ∀ u ∈ ts, u - since < gap) : spaced gap since ts = [] := by
  induction ts with
  | nil => rfl
  | cons u ts ih =>
    rw [spaced, if_pos (h u List.mem_cons_self)]
    exact ih fun v hv => h v (List.mem_cons_of_mem _ hv)

end spaced

section tries
variable (K : Patience) (since : Nat) (ts : List Nat)

/-- The tries that are made. -/
def tries : List Nat := (spaced K.interval since ts).take K.limit

/-- The time from which the next interval counts. -/
def lastTry : Nat := (tries K since ts).getLastD since

/-- How many passes were due when no try was left. -/
def idle : Nat :=
  if (tries K since ts).length = K.limit then ts.countP fun t => K.interval ≤ t - lastTry K since ts else 0

variable {K since ts} {t : Nat}

theorem length_tries_le : (tries K since ts).length ≤ K.limit := List.length_take_le ..

theorem tries_eq (hless : (tries K since ts).length < K.limit) : tries K since ts = spaced K.interval since ts := by
  rw [tries, List.length_take] at hless
  rw [tries, List.take_of_length_le]
  omega

theorem tries_snoc_of_full (hfull : (tries K since ts).length = K.limit) :
    tries K since (ts ++ [t]) = tries K since ts := by
  rw [tries, List.length_take] at hfull
  rw [tries, tries, spaced_snoc, List.take_append_of_le_length (by omega)]

theorem tries_append_of_full {us : List Nat} (hfull : (tries K since ts).length = K.limit) :
    tries K since (ts ++ us) = tries K since ts := by
  induction us using List.reverseRecOn with
  | nil => rw [List.append_nil]
  | append_singleton us u ih =>
    rw [← List.append_assoc, tries_snoc_of_full, ih]
    rw [ih]
    exact hfull

theorem tries_snoc_of_early (hearly : t - lastTry K since ts < K.interval) :
    tries K since (ts ++ [t]) = tries K since ts := by
  by_cases hless : (tries K since ts).length < K.limit
  · rw [lastTry, tries_eq hless] at hearly
    rw [tries, tries, spaced_snoc, if_pos hearly, List.append_nil]
  · have hle : (tries K since ts).length ≤ K.limit := length_tries_le
    exact tries_snoc_of_full (by omega)

theorem tries_snoc_of_due (hless : (tries K since ts).length < K.limit) (hdue : ¬ t - lastTry K since ts < K.interval) :
    tries K since (ts ++ [t]) = tries K since ts ++ [t] := by
  have hall := tries_eq hless
  rw [lastTry, hall] at hdue
  rw [hall] at hless ⊢
  rw [tries, spaced_snoc, if_neg hdue, List.take_of_length_le]
  rw [List.length_append, List.length_singleton]
  omega

theorem idle_of_less (hless : (tries K since ts).length < K.limit) : idle K since ts = 0 := if_neg (by omega)

theorem idle_le_length : idle K since ts ≤ ts.length := by
  rw [idle]
  split_ifs
  · exact List.countP_le_length
  · exact Nat.zero_le _

theorem idle_snoc_of_early (hearly : t - lastTry K since ts < K.interval) :
    lastTry K since (ts ++ [t]) = lastTry K since ts ∧ idle K since (ts ++ [t]) = idle K since ts := by
  have htries := tries_snoc_of_early hearly
  have hlast : lastTry K since (ts ++ [t]) = lastTry K since ts := by rw [lastTry, lastTry, htries]
  have hskip : decide (K.interval ≤ t - lastTry K since ts) = false := by simpa using hearly
  refine ⟨hlast, ?_⟩
  rw [idle, idle, htries, hlast, List.countP_append, List.countP_singleton, hskip, if_neg Bool.false_ne_true,
    Nat.add_zero]

theorem idle_snoc_of_due (hpos : 0 < K.interval) (hle : ∀ u ∈ ts, u ≤ t) (hless : (tries K since ts).length < K.limit)
    (hdue : ¬ t - lastTry K since ts < K.interval) :
    lastTry K since (ts ++ [t]) = t ∧ idle K since (ts ++ [t]) = 0 := by
  have hlast : lastTry K since (ts ++ [t]) = t := by
    rw [lastTry, tries_snoc_of_due hless hdue, List.getLastD_concat]
  refine ⟨hlast, ?_⟩
  rw [idle, hlast]
  split_ifs
  · rw [List.countP_eq_zero]
    intro u hu
    have hut : u ≤ t := by
      rcases List.mem_append.mp hu with hu | hu
      · exact hle u hu
      · exact Nat.le_of_eq (List.mem_singleton.mp hu)
    simp only [decide_eq_true_eq, Nat.not_le]
    omega
  · rfl

theorem idle_snoc_of_full (hfull : (tries K since ts).length = K.limit) (hdue : ¬ t - lastTry K since ts < K.interval) :
    lastTry K since (ts ++ [t]) = lastTry K since ts ∧ idle K since (ts ++ [t]) = idle K since ts + 1 := by
  have htries := tries_snoc_of_full (t := t) hfull
  have hlast : lastTry K since (ts ++ [t]) = lastTry K since ts := by rw [lastTry, lastTry, htries]
  refine ⟨hlast, ?_⟩
  rw [idle, idle, htries, hlast, if_pos hfull, if_pos hfull, List.countP_append, List.countP_singleton,
    if_pos (by simpa using hdue)]

end tries

end Constellation
