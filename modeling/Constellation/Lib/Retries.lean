import Constellation.Lib.Run

/-!
# Bounded retries

The account of one peer's retries: when the peer was added, heard, lost, tried again, and given up for
good. `Permitted` says, for each entry, what must hold of the entries before it: an attempt is made while
the limit is not used up since the peer was last heard, and a whole interval after the peer was added or
lost or tried before; the peer is given up once, when the limit is used up.

An account that keeps to this (`Permitted` along its whole length) has the properties one wants of it
(`Accounted`): they are read off the entries since the peer was last heard (`sinceHeard`).
-/

namespace Constellation

/-- How often a lost peer is tried again, and how long after the last try. -/
structure Patience where
  limit : Nat
  interval : Nat

inductive Moment
  | added (now : Nat)
  | heard (now : Nat)
  | lost (now : Nat)
  | attempt (now : Nat)
  | dead (now : Nat)
  deriving DecidableEq

namespace Moment

def isHeard : Moment → Bool
  | heard _ => true
  | _ => false

def isAttempt : Moment → Bool
  | attempt _ => true
  | _ => false

def isDead : Moment → Bool
  | dead _ => true
  | _ => false

/-- The time from which the next attempt is an interval away. -/
def mark : Moment → Option Nat
  | added now | lost now | attempt now => some now
  | _ => none

end Moment

def attempts (h : List Moment) : Nat := h.countP Moment.isAttempt

def deaths (h : List Moment) : Nat := h.countP Moment.isDead

/-- The entries since the peer was last heard, or all of them. -/
def sinceHeard (h : List Moment) : List Moment :=
  h.foldl (fun acc m => if m.isHeard then [] else acc ++ [m]) []

/-- The last time from which an interval counts. -/
def lastMark (h : List Moment) : Option Nat := h.foldl (fun acc m => m.mark.or acc) none

/-- What the entries before it must be like for an entry to be made. -/
def Permitted (K : Patience) (before : List Moment) : Moment → Prop
  | .attempt now => attempts (sinceHeard before) < K.limit ∧ deaths (sinceHeard before) = 0 ∧
      ∀ t, lastMark before = some t → t + K.interval ≤ now
  | .dead _ => attempts (sinceHeard before) = K.limit ∧ deaths (sinceHeard before) = 0
  | _ => True

section
variable {K : Patience} {h : List Moment} {m : Moment}

theorem sinceHeard_snoc : sinceHeard (h ++ [m]) = if m.isHeard then [] else sinceHeard h ++ [m] := by
  rw [sinceHeard, List.foldl_append]
  rfl

theorem lastMark_snoc : lastMark (h ++ [m]) = m.mark.or (lastMark h) := by
  rw [lastMark, List.foldl_append]
  rfl

theorem attempts_snoc : attempts (h ++ [m]) = attempts h + if m.isAttempt then 1 else 0 := by
  rw [attempts, List.countP_append, List.countP_singleton]
  rfl

theorem deaths_snoc : deaths (h ++ [m]) = deaths h + if m.isDead then 1 else 0 := by
  rw [deaths, List.countP_append, List.countP_singleton]
  rfl

/-- An attempt and a giving up exclude each other's past. -/
structure Balanced (K : Patience) (h : List Moment) : Prop where
  attempts_le : attempts (sinceHeard h) ≤ K.limit
  deaths_le : deaths (sinceHeard h) ≤ 1
  exhausted : deaths (sinceHeard h) = 1 → attempts (sinceHeard h) = K.limit
  split : ∀ pre t post, sinceHeard h = pre ++ .dead t :: post → attempts pre = K.limit ∧ attempts post = 0

theorem Permitted.of_attempt (hm : Permitted K h m) (ha : m.isAttempt = true) :
    attempts (sinceHeard h) < K.limit ∧ deaths (sinceHeard h) = 0 := by
  cases m with
  | attempt now => exact ⟨hm.1, hm.2.1⟩
  | added now => cases ha
  | heard now => cases ha
  | lost now => cases ha
  | dead now => cases ha

theorem Permitted.of_dead (hm : Permitted K h m) (hd : m.isDead = true) :
    attempts (sinceHeard h) = K.limit ∧ deaths (sinceHeard h) = 0 := by
  cases m with
  | dead now => exact hm
  | added now => cases hd
  | heard now => cases hd
  | lost now => cases hd
  | attempt now => cases hd

theorem Balanced.snoc (hb : Balanced K h) (hm : Permitted K h m) : Balanced K (h ++ [m]) := by
  obtain ⟨hattempts, hdeaths, hexhausted, hsplit⟩ := hb
  by_cases hheard : m.isHeard = true
  · have hnil : sinceHeard (h ++ [m]) = [] := by rw [sinceHeard_snoc, if_pos hheard]
    refine ⟨?_, ?_, ?_, ?_⟩
    · rw [hnil]
      exact Nat.zero_le _
    · rw [hnil]
      exact Nat.zero_le _
    · rw [hnil]
      intro hzero
      cases hzero
    · intro pre t post heq
      rw [hnil] at heq
      simp at heq
  · have hsnoc : sinceHeard (h ++ [m]) = sinceHeard h ++ [m] := by rw [sinceHeard_snoc, if_neg hheard]
    refine ⟨?_, ?_, ?_, ?_⟩
    · rw [hsnoc, attempts_snoc]
      split_ifs with ha
      · have hless := (hm.of_attempt ha).1
        omega
      · exact hattempts
    · rw [hsnoc, deaths_snoc]
      split_ifs with hd
      · have hnone := (hm.of_dead hd).2
        omega
      · exact hdeaths
    · rw [hsnoc, attempts_snoc, deaths_snoc]
      intro hone
      by_cases ha : m.isAttempt = true
      · -- nobody is given up here, neither before nor now
        obtain ⟨hless, hnone⟩ := hm.of_attempt ha
        by_cases hd : m.isDead = true
        · have hfull := (hm.of_dead hd).1
          omega
        · rw [hnone, if_neg hd] at hone
          cases hone
      · rw [if_neg ha, Nat.add_zero]
        by_cases hd : m.isDead = true
        · exact (hm.of_dead hd).1
        · rw [if_neg hd, Nat.add_zero] at hone
          exact hexhausted hone
    · intro pre t post heq
      rw [hsnoc] at heq
      rcases List.eq_nil_or_concat post with rfl | ⟨post', m', rfl⟩
      · -- the entry is the giving up itself
        obtain ⟨hpre, hlast⟩ := List.append_inj' heq rfl
        cases hlast
        rw [← hpre]
        exact ⟨(hm.of_dead rfl).1, rfl⟩
      · have heq' : sinceHeard h ++ [m] = (pre ++ .dead t :: post') ++ [m'] := by rw [heq]; simp
        obtain ⟨hinit, hlast⟩ := List.append_inj' heq' rfl
        cases hlast
        obtain ⟨hpre, hpost⟩ := hsplit pre t post' hinit
        refine ⟨hpre, ?_⟩
        rw [List.concat_eq_append, attempts_snoc, hpost]
        split_ifs with ha
        · have hnone := (hm.of_attempt ha).2
          rw [hinit, deaths, List.countP_append, List.countP_cons_of_pos rfl] at hnone
          omega
        · rfl

theorem balanced (hh : Along (Permitted K) h) : Balanced K h := by
  induction h using List.reverseRecOn with
  | nil => exact ⟨Nat.zero_le _, Nat.zero_le _, nofun, fun pre t post heq => by simp [sinceHeard] at heq⟩
  | append_singleton h m ih =>
    obtain ⟨hinit, hlast⟩ := along_snoc.mp hh
    exact (ih hinit).snoc hlast

theorem lastMark_append_of_none {mid : List Moment} (hmid : ∀ m ∈ mid, m.mark = none) :
    lastMark (h ++ mid) = lastMark h := by
  induction mid using List.reverseRecOn with
  | nil => rw [List.append_nil]
  | append_singleton mid m ih =>
    rw [← List.append_assoc, lastMark_snoc, hmid m (by simp), Option.none_or]
    exact ih fun m' hm' => hmid m' (List.mem_append_left _ hm')

/-- **What an account shows.** Since the peer was last heard there are at most `limit` attempts; it is
given up at most once, after exactly `limit` attempts and before no other; and every attempt is at least
an interval after what last marked the time, an attempt, a loss or the addition. -/
structure Accounted (K : Patience) (h : List Moment) : Prop where
  limit : attempts (sinceHeard h) ≤ K.limit
  once : deaths (sinceHeard h) ≤ 1
  exhausted : ∀ pre t post, sinceHeard h = pre ++ .dead t :: post → attempts pre = K.limit
  silent : ∀ pre t post, sinceHeard h = pre ++ .dead t :: post → attempts post = 0
  spaced : ∀ pre m mid t post s, h = pre ++ m :: (mid ++ .attempt t :: post) → m.mark = some s →
    (∀ m' ∈ mid, m'.mark = none) → s + K.interval ≤ t

theorem accounted (hh : Along (Permitted K) h) : Accounted K h := by
  obtain ⟨hattempts, hdeaths, -, hsplit⟩ := balanced hh
  refine ⟨hattempts, hdeaths, fun pre t post heq => (hsplit pre t post heq).1,
    fun pre t post heq => (hsplit pre t post heq).2, ?_⟩
  intro pre m mid t post s heq hmark hmid
  have hpermitted := hh (pre ++ m :: mid) (.attempt t) post (by rw [heq]; simp)
  refine hpermitted.2.2 s ?_
  have hlast : lastMark (pre ++ [m]) = some s := by rw [lastMark_snoc, hmark, Option.some_or]
  rw [← hlast, ← lastMark_append_of_none hmid (h := pre ++ [m]), List.append_assoc]
  rfl

end

end Constellation
