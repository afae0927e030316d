import Mathlib.Logic.Function.Basic
import Mathlib.Tactic.SplitIfs
import Constellation.Lib.Run

/-!
# Keepalive links

One endpoint's view of a connection that is kept alive by traffic. The endpoint is probing its peer
(`probing`), or has heard it and regards it as up (`up`), or has given it up after a silence and has
not yet started to probe again (`gap`). The endpoint needs a channel to send; probing opens one and
giving up closes it. Hearing the peer never opens one: a peer that is heard in the gap is up on a
closed channel.

`linkOf` folds the signals of a whole history. Its rule of use is `isOpen_of_gapFree`: in a history in
which the peer is never heard in the gap, the channel is closed in the gap and nowhere else.
-/

namespace Constellation

/-- When an endpoint gives a silent peer up, and how long it then waits before it probes again. -/
structure Keepalive where
  timeout : Nat
  interval : Nat

/-- The state of a link. -/
inductive Link
  | probing
  /-- Last heard at this time, over an open channel or not. -/
  | up (heard : Nat) (channel : Bool)
  /-- Given up at this time. -/
  | gap (since : Nat)
  deriving DecidableEq

/-- What a link can notice, with the time. -/
inductive Signal
  /-- The endpoint probes a peer it does not know yet. -/
  | call
  /-- The endpoint takes a peer it does not know yet to be up. -/
  | meet (now : Nat)
  /-- Something of a peer arrives, if it is known. -/
  | heard (now : Nat)
  /-- Something of a peer arrives, which makes it known. -/
  | contact (now : Nat)
  /-- The endpoint checks its links. -/
  | pass (now : Nat)
  deriving DecidableEq

/-- The signal is a word of the peer. -/
def Signal.isWord : Signal → Bool
  | .heard _ | .contact _ => true
  | _ => false

namespace Link

def hear (now : Nat) : Link → Link
  | probing => up now true
  | up _ channel => up now channel
  | gap _ => up now false

def pass (K : Keepalive) (now : Nat) : Link → Link
  | probing => probing
  | up heard channel => if K.timeout < now - heard then gap now else up heard channel
  | gap since => if now - since < K.interval then gap since else probing

section pass
variable {K : Keepalive} {now t : Nat} {channel : Bool}

theorem pass_up_late (h : K.timeout < now - t) : (up t channel).pass K now = gap now := if_pos h

theorem pass_up_fresh (h : ¬ K.timeout < now - t) : (up t channel).pass K now = up t channel := if_neg h

theorem pass_gap_early (h : now - t < K.interval) : (gap t).pass K now = gap t := if_pos h

theorem pass_gap_due (h : ¬ now - t < K.interval) : (gap t).pass K now = probing := if_neg h

end pass

/-- One signal; `none` is a peer that is not known. -/
def next (K : Keepalive) (l : Option Link) : Signal → Option Link
  | .call => some (l.getD probing)
  | .meet now => some (l.getD (up now true))
  | .heard now => l.map (Link.hear now)
  | .contact now => some ((l.getD probing).hear now)
  | .pass now => l.map (Link.pass K now)

/-- The channel of the link is open. -/
def isOpen : Link → Bool
  | probing => true
  | up _ channel => channel
  | gap _ => false

/-- The peer was given up and is not probed yet. -/
def inGap : Link → Bool
  | gap _ => true
  | _ => false

/-- The peer counts as reachable. -/
def isUp : Link → Bool
  | up _ _ => true
  | _ => false

/-- Up without a channel. -/
def isBroken : Link → Bool
  | up _ channel => !channel
  | _ => false

theorem isBroken_iff {l : Link} : l.isBroken = true ↔ l.isUp = true ∧ l.isOpen = false := by
  cases l <;> simp [isBroken, isUp, isOpen]

theorem isOpen_iff_of_not_broken {l : Link} (h : l.isBroken = false) :
    l.isOpen = true ↔ l.inGap = false := by
  cases l with
  | probing => exact ⟨fun _ => rfl, fun _ => rfl⟩
  | up heard channel =>
    have hopen : channel = true := by simpa [isBroken] using h
    exact ⟨fun _ => rfl, fun _ => hopen⟩
  | gap since => exact ⟨nofun, nofun⟩

theorem hear_isBroken {l : Link} (now : Nat) (h : l.isBroken = false) :
    (l.hear now).isBroken = l.inGap := by
  cases l with
  | probing => rfl
  | up heard channel => exact h
  | gap since => rfl

theorem pass_isBroken {l : Link} (K : Keepalive) (now : Nat) (h : l.isBroken = false) :
    (l.pass K now).isBroken = false := by
  cases l with
  | probing => rfl
  | up heard channel =>
    rw [pass]
    split_ifs
    · rfl
    · exact h
  | gap since =>
    rw [pass]
    split_ifs <;> rfl

end Link

/-! ### Histories -/

section history
variable {ε : Type} (K : Keepalive) (signal : ε → Option Signal)

/-- The link after a history. An event without a signal leaves it as it is. -/
def linkStep (l : Option Link) (e : ε) : Option Link :=
  match signal e with
  | none => l
  | some s => Link.next K l s

def linkOf (es : List ε) : Option Link := es.foldl (linkStep K signal) none

theorem linkOf_snoc (es : List ε) (e : ε) :
    linkOf K signal (es ++ [e]) = linkStep K signal (linkOf K signal es) e := by
  rw [linkOf, List.foldl_append]
  rfl

/-- The link a history leaves is in the gap. -/
def InGap (es : List ε) : Prop := ∃ l, linkOf K signal es = some l ∧ l.inGap = true

/-- The link a history leaves counts its peer as reachable. -/
def IsUp (es : List ε) : Prop := ∃ l, linkOf K signal es = some l ∧ l.isUp = true

instance (es : List ε) : Decidable (InGap K signal es) :=
  decidable_of_iff ((linkOf K signal es).any Link.inGap = true) (by simp [InGap, Option.any_eq_true])

instance (es : List ε) : Decidable (IsUp K signal es) :=
  decidable_of_iff ((linkOf K signal es).any Link.isUp = true) (by simp [IsUp, Option.any_eq_true])

/-- The peer is never heard in the gap. -/
def GapFree (es : List ε) : Prop :=
  Along (fun pre e => ∀ s, signal e = some s → s.isWord = true → ¬ InGap K signal pre) es

variable {K signal}

theorem not_broken_of_gapFree {es : List ε} (h : GapFree K signal es) {l : Link}
    (hl : linkOf K signal es = some l) : l.isBroken = false := by
  induction es using List.reverseRecOn generalizing l with
  | nil => cases hl
  | append_singleton es e ih =>
    obtain ⟨hes, he⟩ := along_snoc.mp h
    rw [linkOf_snoc, linkStep] at hl
    cases hsig : signal e with
    | none =>
      rw [hsig] at hl
      exact ih hes hl
    | some s =>
      rw [hsig] at hl
      cases hprev : linkOf K signal es with
      | none =>
        rw [hprev] at hl
        cases s <;> cases hl <;> rfl
      | some k =>
        have hk := ih hes hprev
        have hheard : s.isWord = true → ∀ now, (k.hear now).isBroken = false := by
          intro hword now
          rw [Link.hear_isBroken now hk]
          by_contra hin
          exact he s hsig hword ⟨k, hprev, by simpa using hin⟩
        rw [hprev] at hl
        cases s with
        | call => cases hl; exact hk
        | meet now => cases hl; exact hk
        | heard now => cases hl; exact hheard rfl now
        | contact now => cases hl; exact hheard rfl now
        | pass now => cases hl; exact Link.pass_isBroken K now hk

/-- **Without a word in the gap the channel is open outside it.** -/
theorem isOpen_of_gapFree {es : List ε} (h : GapFree K signal es) {l : Link}
    (hl : linkOf K signal es = some l) : l.isOpen = true ↔ l.inGap = false :=
  Link.isOpen_iff_of_not_broken (not_broken_of_gapFree h hl)

theorem broken_of_word_inGap {es : List ε} {e : ε} {s : Signal} (hsig : signal e = some s)
    (hword : s.isWord = true) (hgap : InGap K signal es) :
    ∃ l, linkOf K signal (es ++ [e]) = some l ∧ l.isBroken = true := by
  obtain ⟨l, hl, hin⟩ := hgap
  have hbroken : ∀ now, (l.hear now).isBroken = true := by
    intro now
    cases l with
    | probing => cases hin
    | up heard channel => cases hin
    | gap since => rfl
  rw [linkOf_snoc, linkStep, hsig, hl]
  cases s with
  | heard now => exact ⟨_, rfl, hbroken now⟩
  | contact now => exact ⟨_, rfl, hbroken now⟩
  | call => cases hword
  | meet now => cases hword
  | pass now => cases hword

/-! ### Many peers -/

variable {ι : Type} (K) (signals : ι → ε → Option Signal)

/-- The links of all peers after one more event. -/
def linksAfter (link : ι → Option Link) (e : ε) : ι → Option Link :=
  fun i => linkStep K (signals i) (link i) e

theorem linksAfter_linkOf (es : List ε) (e : ε) :
    linksAfter K signals (fun i => linkOf K (signals i) es) e = fun i => linkOf K (signals i) (es ++ [e]) := by
  funext i
  rw [linkOf_snoc]
  rfl

variable {signals}

theorem linksAfter_one [DecidableEq ι] {link : ι → Option Link} {e : ε} {i : ι} {s : Signal}
    (hself : signals i e = some s) (hother : ∀ j, j ≠ i → signals j e = none) :
    linksAfter K signals link e = Function.update link i (Link.next K (link i) s) := by
  funext j
  by_cases hj : j = i
  · subst hj
    rw [Function.update_self, linksAfter, linkStep, hself]
  · rw [Function.update_of_ne hj, linksAfter, linkStep, hother j hj]

end history

end Constellation
