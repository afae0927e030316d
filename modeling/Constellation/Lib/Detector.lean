import Mathlib.Data.List.Induction

/-!
# Failure detectors by silence

A detector regards its peer as up from a word of it until a pass finds that the last word is more than a
timeout ago. Words and passes are all it looks at. With a clock that does not run backwards it is exact:
right after a pass the peer counts as up if and only if one of its words is no older than the timeout
(`detector_exact`). The invariant is that while the peer is up the last word is the latest one, and that
afterwards every word was too old for some pass.
-/

namespace Constellation

/-- What a detector sees. -/
inductive Beat
  /-- A word of the peer. -/
  | word (now : Nat)
  /-- A check of the detector. -/
  | pass (now : Nat)
  deriving DecidableEq

def Beat.stamp : Beat → Nat
  | word now => now
  | pass now => now

/-- The time of the last word, while the peer counts as up. -/
def detect (timeout : Nat) (up : Option Nat) : Beat → Option Nat
  | .word now => some now
  | .pass now => up.filter fun heard => now - heard ≤ timeout

def detected (timeout : Nat) (bs : List Beat) : Option Nat := bs.foldl (detect timeout) none

section
variable {timeout : Nat} {bs : List Beat}

theorem detected_append (bs' : List Beat) :
    detected timeout (bs ++ bs') = bs'.foldl (detect timeout) (detected timeout bs) := List.foldl_append

theorem detected_snoc (b : Beat) : detected timeout (bs ++ [b]) = detect timeout (detected timeout bs) b := by
  rw [detected, List.foldl_append]
  rfl

/-- What the state of a detector says about the words it saw. -/
structure Watched (timeout : Nat) (bs : List Beat) : Prop where
  up : ∀ heard, detected timeout bs = some heard → .word heard ∈ bs ∧ ∀ s, Beat.word s ∈ bs → s ≤ heard
  down : detected timeout bs = none → ∀ s, Beat.word s ∈ bs → ∃ p, Beat.pass p ∈ bs ∧ timeout < p - s

variable (timeout) in
theorem watched (hclock : bs.Pairwise fun b b' => b.stamp ≤ b'.stamp) : Watched timeout bs := by
  induction bs using List.reverseRecOn with
  | nil => exact ⟨nofun, fun _ => nofun⟩
  | append_singleton bs b ih =>
    obtain ⟨hbs, -, hlast⟩ := List.pairwise_append.mp hclock
    obtain ⟨hup, hdown⟩ := ih hbs
    have hle : ∀ b' ∈ bs, b'.stamp ≤ b.stamp := fun b' hb' => hlast b' hb' b List.mem_cons_self
    cases b with
    | word now =>
      have hnow : detected timeout (bs ++ [.word now]) = some now := detected_snoc (.word now)
      refine ⟨fun heard h => ?_, fun h => ?_⟩
      · rw [hnow] at h
        cases h
        refine ⟨by simp, fun s hs => ?_⟩
        rcases List.mem_append.mp hs with hs | hs
        · exact hle _ hs
        · cases List.mem_singleton.mp hs
          exact Nat.le_refl _
      · rw [hnow] at h
        cases h
    | pass now =>
      have hword : ∀ s, Beat.word s ∈ bs ++ [.pass now] → .word s ∈ bs := by
        intro s hs
        simpa using hs
      have hnow : detected timeout (bs ++ [.pass now]) =
          (detected timeout bs).filter fun heard => now - heard ≤ timeout := detected_snoc (.pass now)
      refine ⟨fun heard h => ?_, fun h s hs => ?_⟩
      · rw [hnow, Option.filter_eq_some_iff] at h
        obtain ⟨hheard, hlatest⟩ := hup heard h.1
        exact ⟨List.mem_append_left _ hheard, fun s hs => hlatest s (hword s hs)⟩
      · cases hbefore : detected timeout bs with
        | none =>
          obtain ⟨p, hp, hlate⟩ := hdown hbefore s (hword s hs)
          exact ⟨p, List.mem_append_left _ hp, hlate⟩
        | some heard =>
          -- this is the pass that found the silence
          have hlatest := (hup heard hbefore).2 s (hword s hs)
          rw [hnow, hbefore, Option.filter_some] at h
          have hsilent : ¬ now - heard ≤ timeout := by
            intro hfresh
            rw [if_pos (decide_eq_true hfresh)] at h
            cases h
          exact ⟨now, by simp, by omega⟩

/-- **Right after a pass the detector is exact on both sides.** -/
theorem detector_exact {now : Nat} (hclock : (bs ++ [Beat.pass now]).Pairwise fun b b' => b.stamp ≤ b'.stamp) :
    (detected timeout (bs ++ [.pass now])).isSome = true ↔
      ∃ s, Beat.word s ∈ bs ∧ s ≤ now ∧ now - s ≤ timeout := by
  have hle : ∀ b ∈ bs ++ [.pass now], b.stamp ≤ now := by
    intro b hb
    rcases List.mem_append.mp hb with hb | hb
    · exact (List.pairwise_append.mp hclock).2.2 b hb (.pass now) List.mem_cons_self
    · cases List.mem_singleton.mp hb
      exact Nat.le_refl _
  obtain ⟨hup, hdown⟩ := watched timeout hclock
  constructor
  · intro hsome
    obtain ⟨heard, hheard⟩ := Option.isSome_iff_exists.mp hsome
    have hword : Beat.word heard ∈ bs := by simpa using (hup heard hheard).1
    rw [detected_snoc, detect, Option.filter_eq_some_iff] at hheard
    exact ⟨heard, hword, hle _ (List.mem_append_left _ hword), of_decide_eq_true hheard.2⟩
  · rintro ⟨s, hs, -, hfresh⟩
    cases hstate : detected timeout (bs ++ [.pass now]) with
    | some heard => rfl
    | none =>
      obtain ⟨p, hp, hlate⟩ := hdown hstate s (List.mem_append_left _ hs)
      have hpast : p ≤ now := hle _ hp
      omega

end

end Constellation
