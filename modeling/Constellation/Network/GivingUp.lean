import Constellation.GroundControl.Reconnects
import Constellation.Lib.Passes
import Constellation.Network.Timeouts
import Constellation.Satellite.CommandAck
import Constellation.Satellite.OpenChannels

/-!
# Giving up a peer

The satellite's handler with the counter of the retries as the code has it, an `int`: its increment is
undefined at the largest value (`step32`). `reconnect` increments it before it looks at the limit, and goes
on doing so on every pass ten seconds or more after the last attempt, which is not marked any more.

What a peer's passes come to is a matter of their times alone: which of them find the peer timed out, which
are attempts and which are idle (`Vigil`). The fields of a connection follow this (`Watched`), so the
increment stays defined exactly as long as the idle passes of a vigil and the ten attempts fit an `int`
(`givesUp_iff`). As long as it does, the attempts are those of bounded retries (`Counted`).
-/

namespace Constellation

/-- The largest `int`. -/
def INT_MAX : Nat := 2147483647

/-- What the increment of the largest `int` is. -/
def overflow : Stop := .undefined "this->retryCounter++"

namespace PeerConnection

/-- `reconnect` up to and with the increment of the counter, then as before. -/
def reconnect32 (p : PeerConnection) (now : Nat) (os : Os) : Except Stop (PeerConnection × List Effect) :=
  if now - p.lastReconnect < Config.RECONNECT_INTERVAL then .ok (p, [])
  else if INT_MAX ≤ p.retryCounter then .error overflow
  else p.reconnect now os

section
variable {p p' : PeerConnection} {id satId port : Int32} {now : Nat} {os : Os} {w : List Effect}

theorem connect_retry (h : p.connect now os = .ok (p', w)) :
    p'.retryCounter = p.retryCounter ∧ p'.lastReconnect = p.lastReconnect := by
  rcases connect_cases h with ⟨-, rfl, -⟩ | ⟨-, dest, line, rfl, -⟩ | ⟨-, dest, line, attempt, rfl, -⟩
  · exact ⟨rfl, rfl⟩
  · exact ⟨rfl, rfl⟩
  · exact ⟨rfl, rfl⟩

theorem reconnect_spent (hdue : ¬ now - p.lastReconnect < Config.RECONNECT_INTERVAL)
    (hspent : Config.MAX_RECONNECT_ATTEMPTS < p.retryCounter + 1) :
    p.reconnect now os = .ok ({ p with retryCounter := p.retryCounter + 1 }, []) := by
  rw [reconnect, if_neg hdue]
  dsimp only
  rw [if_pos hspent]
  rfl

theorem reconnect_attempt (os : Os) (hs : p.Sound satId port id) (hdue : ¬ now - p.lastReconnect < Config.RECONNECT_INTERVAL)
    (hleft : ¬ Config.MAX_RECONNECT_ATTEMPTS < p.retryCounter + 1) :
    ∃ p' w, p.reconnect now os = .ok (p', w) ∧ p'.retryCounter = p.retryCounter + 1 ∧ p'.lastReconnect = now ∧
      p'.state ≠ .connected := by
  let p₁ : PeerConnection := { p with retryCounter := p.retryCounter + 1, lastReconnect := now }
  have hs₁ : p₁.Sound satId port id := hs.of_same rfl rfl rfl rfl rfl
  obtain ⟨p', opening, hconnect, -, -⟩ := connect_sound now os (hs₁.disconnect now os)
  obtain ⟨hretry, hlast⟩ := connect_retry hconnect
  have hdown : p'.state ≠ .connected := (connect_keeps hconnect).2 nofun
  rw [reconnect, if_neg hdue]
  dsimp only
  rw [if_neg hleft, hconnect]
  exact ⟨p', _, rfl, hretry, hlast, hdown⟩

theorem reconnect32_ok (h : p.reconnect32 now os = .ok (p', w)) : p.reconnect now os = .ok (p', w) := by
  unfold reconnect32 at h
  split_ifs at h with hsoon
  · rw [reconnect, if_pos hsoon]
    exact h
  · exact h

end

end PeerConnection

namespace ConnectionHandler

/-- The body of the loop of `update`. -/
def updatePeer32 (now : Nat) (os : Int32 → Os) (id : Int32) (p : PeerConnection) :
    Except Stop (PeerConnection × List Effect) := do
  let state ← p.getState
  let timedOut ← if state = .connected then p.isTimedOut now else .ok false
  if timedOut = true then
    let (p, closing) := p.disconnect now (os id)
    return (p, .log ("[ERROR] Satellite: " ++ toString id ++ " has timed out") :: closing)
  else if state = .disconnected ∨ state = .connecting then p.reconnect32 now (os id)
  else return (p, [])

def update32 (h : ConnectionHandler) (now : Nat) (os : Int32 → Os) :
    Except Stop (ConnectionHandler × List Effect) := do
  let (connections, effects) ← h.connections.sweep (updatePeer32 now os)
  return ({ h with connections }, effects)

/-- One call on the handler of satellite `satId`. Only `update` counts. -/
def step32 (satId : Int32) (h : ConnectionHandler) : Call → Except Stop (ConnectionHandler × List Effect)
  | .update now os => h.update32 now os
  | c => step satId h c

/-- The clock reading of a call, if it takes one. -/
def Call.time : Call → Option Nat
  | .addConnection now _ _ _ _ | .heartbeatSat now _ | .update now _ => some now
  | _ => none

/-- The call meets the assertions. -/
def Call.Checked : Call → Prop
  | .addConnection _ _ port ip peerId => 0 ≤ port ∧ ip ≠ "" ∧ 0 ≤ peerId
  | .heartbeatSat _ peerId => 0 ≤ peerId
  | .update _ _ => True
  | .sendMessageToPeer _ peerId message => 0 ≤ peerId ∧ Sendable message
  | .broadcastMessage _ message => Sendable message

/-! ### The times of a peer -/

/-- The last word of a peer, or its addition, and the passes since. -/
structure Vigil where
  heard : Nat
  passes : List Nat
  deriving DecidableEq

namespace Vigil

/-- The pass that finds the peer timed out. -/
def lost (v : Vigil) : Option Nat := v.passes.find? fun t => Config.TIMEOUT_THRESHOLD < t - v.heard

/-- How many passes came ten seconds or more after the last of ten attempts, each of them at the first pass ten
seconds or more after the one before. -/
def idle (v : Vigil) : Nat := v.lost.elim 0 fun lost => Constellation.idle Config.patience lost v.passes

def pass (v : Vigil) (now : Nat) : Vigil := { v with passes := v.passes ++ [now] }

end Vigil

/-- What a call means for the vigil over one peer. -/
def vigilStep (id : Int32) (v : Option Vigil) : Call → Option Vigil
  | .addConnection now _ _ _ peerId => if peerId = id then some (v.getD ⟨now, []⟩) else v
  | .heartbeatSat now peerId => if peerId = id then v.map fun _ => ⟨now, []⟩ else v
  | .update now _ => v.map (·.pass now)
  | _ => v

/-- The vigil over one peer after a history. -/
def vigil (id : Int32) (cs : List Call) : Option Vigil := cs.foldl (vigilStep id) none

/-- The ten attempts and the idle passes of a vigil fit an `int`. -/
def Vigil.Counts (v : Vigil) : Prop := Config.MAX_RECONNECT_ATTEMPTS + v.idle ≤ INT_MAX

/-- The attempts and idle passes of every vigil of a history fit an `int`, in all of its states. -/
def Counts (cs : List Call) : Prop := ∀ pre, pre <+: cs → ∀ id v, vigil id pre = some v → v.Counts

section
variable {v : Vigil} {now lost : Nat} {id : Int32} {cs : List Call} {c : Call}

theorem Vigil.lost_pass :
    (v.pass now).lost = v.lost.or (if Config.TIMEOUT_THRESHOLD < now - v.heard then some now else none) := by
  rw [lost, pass, List.find?_append, List.find?_singleton]
  simp only [decide_eq_true_eq]
  rfl

theorem Vigil.idle_of_none (h : v.lost = none) : v.idle = 0 := by
  rw [idle, h]
  rfl

theorem Vigil.idle_of_some (h : v.lost = some lost) : v.idle = Constellation.idle Config.patience lost v.passes := by
  rw [idle, h]
  rfl

theorem vigil_snoc : vigil id (cs ++ [c]) = vigilStep id (vigil id cs) c := by
  rw [vigil, List.foldl_append]
  rfl

theorem counts_nil : Counts [] := by
  intro pre hpre id v hv
  rw [List.prefix_nil.mp hpre] at hv
  cases hv

theorem counts_snoc : Counts (cs ++ [c]) ↔ Counts cs ∧ ∀ id v, vigilStep id (vigil id cs) c = some v → v.Counts := by
  constructor
  · intro hall
    refine ⟨fun pre hpre => hall pre (hpre.trans (List.prefix_append ..)), fun id v hv => ?_⟩
    exact hall _ (List.prefix_refl _) id v (vigil_snoc.trans hv)
  · rintro ⟨hinit, hlast⟩ pre hpre id v hv
    rcases List.prefix_concat_iff.mp hpre with rfl | hpre
    · exact hlast id v (vigil_snoc.symm.trans hv)
    · exact hinit pre hpre id v hv

end

/-! ### The counter of a connection -/

/-- A connection is up until a pass finds it timed out. From then on its counter is the number of attempts and of
idle passes. -/
inductive Watched : Vigil → PeerConnection → Prop
  | up {v : Vigil} {p : PeerConnection} (hstate : p.state = .connected) (hheard : p.lastHeartbeat = v.heard)
      (hretry : p.retryCounter = 0) (hlost : v.lost = none) : Watched v p
  | down {v : Vigil} {p : PeerConnection} {lost : Nat} (hstate : p.state ≠ .connected) (hlost : v.lost = some lost)
      (hlast : p.lastReconnect = lastTry Config.patience lost v.passes)
      (hretry : p.retryCounter = (tries Config.patience lost v.passes).length + v.idle) : Watched v p

section
variable {p p' : PeerConnection} {v : Vigil} {now lost : Nat} {os : Os} {w : List Effect} {id satId port : Int32}

theorem Watched.reconnect (os : Os) (hs : p.Sound satId port id) (hstate : p.state ≠ .connected) (hlost : v.lost = some lost)
    (hlast : p.lastReconnect = lastTry Config.patience lost v.passes)
    (hretry : p.retryCounter = (tries Config.patience lost v.passes).length + v.idle)
    (hclock : ∀ u ∈ v.passes, u ≤ now) (hcounts : v.Counts) :
    ((v.pass now).Counts ∧ ∃ p' w, p.reconnect32 now os = .ok (p', w) ∧ Watched (v.pass now) p') ∨
      (¬ (v.pass now).Counts ∧ p.reconnect32 now os = .error overflow) := by
  have hlost' : (v.pass now).lost = some lost := by rw [Vigil.lost_pass, hlost, Option.some_or]
  have hidle := Vigil.idle_of_some hlost
  have hidle' := Vigil.idle_of_some hlost'
  have hle : (tries Config.patience lost v.passes).length ≤ Config.MAX_RECONNECT_ATTEMPTS := length_tries_le
  unfold Vigil.Counts at hcounts ⊢
  by_cases hsoon : now - p.lastReconnect < Config.RECONNECT_INTERVAL
  · -- too early for anything
    have hearly := hsoon
    rw [hlast] at hearly
    have htries := tries_snoc_of_early (K := Config.patience) hearly
    obtain ⟨hlast', hsame⟩ := idle_snoc_of_early (K := Config.patience) hearly
    have hkeep : (v.pass now).idle = v.idle := by rw [hidle', hidle]; exact hsame
    left
    refine ⟨by rw [hkeep]; exact hcounts, p, [], if_pos hsoon, .down hstate hlost' ?_ ?_⟩
    · rw [hlast]
      exact hlast'.symm
    · rw [hretry, hkeep]
      exact congrArg (List.length · + _) htries.symm
  have hdue := hsoon
  rw [hlast] at hdue
  by_cases hless : (tries Config.patience lost v.passes).length < Config.MAX_RECONNECT_ATTEMPTS
  · -- an attempt is left
    have hzero : v.idle = 0 := hidle.trans (idle_of_less hless)
    have hsmall : ¬ INT_MAX ≤ p.retryCounter := by
      have hbound : Config.MAX_RECONNECT_ATTEMPTS ≤ INT_MAX := by decide
      omega
    obtain ⟨p', w, hrun, hretry', hlast', hstate'⟩ := PeerConnection.reconnect_attempt os hs hsoon (by omega)
    obtain ⟨hnow, hnone⟩ := idle_snoc_of_due (K := Config.patience) (by decide) hclock hless hdue
    have htries := tries_snoc_of_due (K := Config.patience) hless hdue
    have hzero' : (v.pass now).idle = 0 := hidle'.trans hnone
    left
    refine ⟨by rw [hzero']; decide, p', w, ?_, .down hstate' hlost' ?_ ?_⟩
    · rw [PeerConnection.reconnect32, if_neg hsoon, if_neg hsmall]
      exact hrun
    · rw [hlast']
      exact hnow.symm
    · have hlength : (tries Config.patience lost (v.pass now).passes).length =
          (tries Config.patience lost v.passes).length + 1 := by
        rw [Vigil.pass, htries, List.length_append, List.length_singleton]
      omega
  · -- the attempts are used up
    have hfull : (tries Config.patience lost v.passes).length = Config.MAX_RECONNECT_ATTEMPTS := by omega
    obtain ⟨hlast', hmore⟩ := idle_snoc_of_full (K := Config.patience) hfull hdue
    have htries := tries_snoc_of_full (K := Config.patience) (t := now) hfull
    have hsucc : (v.pass now).idle = v.idle + 1 := by rw [hidle', hidle]; exact hmore
    by_cases hmax : INT_MAX ≤ p.retryCounter
    · right
      refine ⟨by omega, ?_⟩
      rw [PeerConnection.reconnect32, if_neg hsoon, if_pos hmax]
    · left
      refine ⟨by omega, { p with retryCounter := p.retryCounter + 1 }, [], ?_, .down hstate hlost' ?_ ?_⟩
      · rw [PeerConnection.reconnect32, if_neg hsoon, if_neg hmax]
        exact PeerConnection.reconnect_spent hsoon (by omega)
      · exact hlast.trans hlast'.symm
      · have hlength : (tries Config.patience lost (v.pass now).passes).length =
            (tries Config.patience lost v.passes).length := congrArg List.length htries
        dsimp only
        omega

/-- What is known of a peer and its vigil. -/
structure Kept32 (satId port id : Int32) (v : Vigil) (p : PeerConnection) : Prop where
  sound : p.Sound satId port id
  watched : Watched v p
  counts : v.Counts

theorem updatePeer32_late (os : Int32 → Os) (hs : p.Sound satId port id) (hup : p.state = .connected)
    (hlate : Config.TIMEOUT_THRESHOLD < now - p.lastHeartbeat) :
    ∃ w, updatePeer32 now os id p = .ok ((p.disconnect now (os id)).1, w) := by
  rw [updatePeer32, getState_ok hs, ok_bind, if_pos hup, PeerConnection.isTimedOut, assert_bind hup]
  change ∃ w, (if decide (Config.TIMEOUT_THRESHOLD < now - p.lastHeartbeat) = true then _ else _) = _
  rw [if_pos (decide_eq_true hlate)]
  exact ⟨_, rfl⟩

theorem updatePeer32_fresh (os : Int32 → Os) (hs : p.Sound satId port id) (hup : p.state = .connected)
    (hfresh : ¬ Config.TIMEOUT_THRESHOLD < now - p.lastHeartbeat) : updatePeer32 now os id p = .ok (p, []) := by
  rw [updatePeer32, getState_ok hs, ok_bind, if_pos hup, PeerConnection.isTimedOut, assert_bind hup]
  change (if decide (Config.TIMEOUT_THRESHOLD < now - p.lastHeartbeat) = true then _ else _) = _
  rw [if_neg (by simpa using hfresh), if_neg (by simp [hup])]
  rfl

theorem updatePeer32_down (os : Int32 → Os) (hs : p.Sound satId port id) (hdown : p.state ≠ .connected) :
    updatePeer32 now os id p = p.reconnect32 now (os id) := by
  have hstate : p.state = .disconnected ∨ p.state = .connecting := by
    cases hp : p.state with
    | connected => exact absurd hp hdown
    | connecting => exact .inr rfl
    | disconnected => exact .inl rfl
  rw [updatePeer32, getState_ok hs, ok_bind, if_neg hdown, ok_bind]
  dsimp only
  rw [if_neg Bool.false_ne_true, if_pos hstate]

theorem Kept32.pass_up (hs : p.Sound satId port id) (os : Int32 → Os) (hstate : p.state = .connected)
    (hheard : p.lastHeartbeat = v.heard) (hretry : p.retryCounter = 0) (hlost : v.lost = none)
    (hclock : ∀ u ∈ v.passes, u ≤ now) :
    (v.pass now).Counts ∧ ∃ p' w, updatePeer32 now os id p = .ok (p', w) ∧ Kept32 satId port id (v.pass now) p' := by
  by_cases hlate : Config.TIMEOUT_THRESHOLD < now - p.lastHeartbeat
  · -- the peer is lost, and no pass was due yet
    have hlost' : (v.pass now).lost = some now := by
      rw [Vigil.lost_pass, hlost, Option.none_or, ← hheard, if_pos hlate]
    have hgap : ∀ u ∈ (v.pass now).passes, u - now < Config.patience.interval := by
      intro u hu
      have hle : u ≤ now := by
        rcases List.mem_append.mp hu with hu | hu
        · exact hclock u hu
        · exact Nat.le_of_eq (List.mem_singleton.mp hu)
      have hpos : 0 < Config.patience.interval := by decide
      omega
    have htries : tries Config.patience now (v.pass now).passes = [] := by
      rw [tries, spaced_eq_nil hgap, List.take_nil]
    have hzero : (v.pass now).idle = 0 := by
      rw [Vigil.idle_of_some hlost', idle_of_less]
      rw [htries]
      decide
    have hcounts : (v.pass now).Counts := by
      rw [Vigil.Counts, hzero]
      decide
    obtain ⟨w, hrun⟩ := updatePeer32_late os hs hstate hlate
    refine ⟨hcounts, _, w, hrun, hs.disconnect now (os id),
      .down (show ConnectionState.disconnected ≠ .connected by decide) hlost' ?_ ?_, hcounts⟩
    · rw [lastTry, htries]
      rfl
    · rw [htries, hzero]
      exact hretry
  · have hlost' : (v.pass now).lost = none := by
      rw [Vigil.lost_pass, hlost, Option.none_or, ← hheard, if_neg hlate]
    have hcounts : (v.pass now).Counts := by
      rw [Vigil.Counts, Vigil.idle_of_none hlost']
      decide
    exact ⟨hcounts, p, [], updatePeer32_fresh os hs hstate hlate, hs, .up hstate hheard hretry hlost', hcounts⟩

theorem Kept32.pass (hk : Kept32 satId port id v p) (os : Int32 → Os) (hclock : ∀ u ∈ v.passes, u ≤ now) :
    ((v.pass now).Counts ∧ ∃ p' w, updatePeer32 now os id p = .ok (p', w) ∧ Kept32 satId port id (v.pass now) p') ∨
      (¬ (v.pass now).Counts ∧ updatePeer32 now os id p = .error overflow) := by
  obtain ⟨hs, hwatched, hcounts⟩ := hk
  cases hwatched with
  | up hstate hheard hretry hlost => exact .inl (pass_up hs os hstate hheard hretry hlost hclock)
  | down hstate hlost hlast hretry =>
    rw [updatePeer32_down os hs hstate]
    rcases Watched.reconnect (os id) hs hstate hlost hlast hretry hclock hcounts with
      ⟨hcounts', p', w, hrun, hwatched'⟩ | hover
    · have hs' := (PeerConnection.reconnect_sound hs (PeerConnection.reconnect32_ok hrun)).1
      exact .inl ⟨hcounts', p', w, hrun, hs', hwatched', hcounts'⟩
    · exact .inr hover

end

/-! ### The counters of a run -/

/-- The connections of a handler and the vigils over them. -/
structure Handled32 (satId port : Int32) (vs : Int32 → Option Vigil) (h : ConnectionHandler) : Prop where
  listening_eq : h.listeningPort = port
  kept : Table.Refines (Kept32 satId port) vs h.connections

section
variable {satId port id peerId : Int32} {vs : Int32 → Option Vigil} {h h' : ConnectionHandler} {now : Nat}
  {os : Int32 → Os} {w : List Effect}

theorem Handled32.sound (hh : Handled32 satId port vs h) : h.Sound satId port := by
  refine ⟨hh.listening_eq, fun id p hp => ?_⟩
  obtain ⟨v, -, hk⟩ := hh.kept.entry hp
  exact hk.sound

/-- `update` returns if the next pass counts for every peer, and overflows otherwise. -/
theorem Handled32.update (hh : Handled32 satId port vs h) (os : Int32 → Os)
    (hclock : ∀ id v, vs id = some v → ∀ u ∈ v.passes, u ≤ now) :
    ((∀ id v, vs id = some v → (v.pass now).Counts) ∧ ∃ h' w, h.update32 now os = .ok (h', w) ∧
        Handled32 satId port (fun id => (vs id).map (·.pass now)) h') ∨
      ((∃ id v, vs id = some v ∧ ¬ (v.pass now).Counts) ∧ h.update32 now os = .error overflow) := by
  have hcall : ∀ id v p, vs id = some v → Kept32 satId port id v p → _ :=
    fun id v p hv hk => hk.pass os (hclock id v hv)
  have hentry : ∀ id p, h.connections.lookup id = some p →
      (∃ r, updatePeer32 now os id p = .ok r) ∨ updatePeer32 now os id p = .error overflow := by
    intro id p hp
    obtain ⟨v, hv, hk⟩ := hh.kept.entry hp
    rcases hcall id v p hv hk with ⟨-, p', w, hrun, -⟩ | ⟨-, hrun⟩
    · exact .inl ⟨_, hrun⟩
    · exact .inr hrun
  rcases Table.sweep_ok_or_error hentry with ⟨hall, ⟨t, w⟩, hsweep⟩ | ⟨⟨id, p, hp, hfail⟩, hsweep⟩
  · left
    have hpass : ∀ id v p p' w, vs id = some v → Kept32 satId port id v p →
        updatePeer32 now os id p = .ok (p', w) → (v.pass now).Counts ∧ Kept32 satId port id (v.pass now) p' := by
      intro id v p p' w hv hk hrun
      rcases hcall id v p hv hk with ⟨hcounts, q, w', hrun', hk'⟩ | ⟨-, hfail⟩
      · rw [hrun] at hrun'
        cases hrun'
        exact ⟨hcounts, hk'⟩
      · rw [hrun] at hfail
        cases hfail
    refine ⟨fun id v hv => ?_, { h with connections := t }, w, ?_, hh.listening_eq, fun id => ?_⟩
    · obtain ⟨p, hp, hk⟩ := hh.kept.known hv
      obtain ⟨⟨p', w'⟩, hrun⟩ := hall id p hp
      exact (hpass id v p p' w' hv hk hrun).1
    · rw [update32, hsweep]
      rfl
    · obtain ⟨hentries, -⟩ := Table.sweep_sound (Q := fun _ => True)
        (P := fun id p p' => ∀ v, vs id = some v → Kept32 satId port id v p → Kept32 satId port id (v.pass now) p')
        trivial (fun _ _ => trivial)
        (fun id p p' w _ hrun => ⟨fun v hv hk => (hpass id v p p' w hv hk hrun).2, trivial⟩) hsweep
      have hafter := hentries id
      have hbefore := hh.kept id
      cases hv : vs id with
      | none =>
        rw [hh.kept.unknown hv] at hafter
        generalize t.lookup id = entry at hafter ⊢
        cases hafter with
        | none => exact .none
      | some v =>
        obtain ⟨p, hp, hk⟩ := hh.kept.known hv
        rw [hp] at hafter
        dsimp only
        generalize t.lookup id = entry at hafter ⊢
        cases hafter with
        | some hnext => exact .some (hnext v hv hk)
  · right
    obtain ⟨v, hv, hk⟩ := hh.kept.entry hp
    refine ⟨⟨id, v, hv, ?_⟩, ?_⟩
    · rcases hcall id v p hv hk with ⟨-, p', w, hrun, -⟩ | ⟨hover, -⟩
      · rw [hrun] at hfail
        cases hfail
      · exact hover
    · rw [update32, hsweep]
      rfl

theorem kept32_heard {p : PeerConnection} (hs : p.Sound satId port id) (hstate : p.state = .connected)
    (hheard : p.lastHeartbeat = now) (hretry : p.retryCounter = 0) : Kept32 satId port id ⟨now, []⟩ p := by
  refine ⟨hs, .up hstate hheard hretry rfl, ?_⟩
  rw [Vigil.Counts, Vigil.idle_of_none rfl]
  decide

theorem Handled32.addConnection (hh : Handled32 satId port vs h) (now : Nat) (os : Int32 → Os) {peerPort : Int32}
    {ip : String} (hport : 0 ≤ port) (hsat : 0 < satId) (hpeerPort : 0 ≤ peerPort) (hip : ip ≠ "") (hid : 0 ≤ peerId) :
    ∃ h' w, h.addConnection now os peerPort ip peerId satId = .ok (h', w) ∧
      Handled32 satId port (fun id => vigilStep id (vs id) (.addConnection now os peerPort ip peerId)) h' := by
  obtain ⟨h', w, hrun, hs', -⟩ := addConnection_sound now os hh.sound hport hpeerPort hip hid hsat
  refine ⟨h', w, hrun, hs'.1, fun id => ?_⟩
  rw [vigilStep]
  rcases addConnection_cases hrun with ⟨hin, rfl, -⟩ | ⟨hin, p, q, -, hconnect, rfl⟩
  · by_cases hne : peerId = id
    · subst hne
      obtain ⟨p, hp⟩ := Option.isSome_iff_exists.mp (AList.lookup_isSome.mpr hin)
      obtain ⟨v, hv, -⟩ := hh.kept.entry hp
      rw [if_pos rfl, hv, Option.getD_some, ← hv]
      exact hh.kept peerId
    · rw [if_neg hne]
      exact hh.kept id
  · by_cases hne : peerId = id
    · subst hne
      have hnone : vs peerId = none := by
        have hrel := hh.kept peerId
        rw [AList.lookup_eq_none.mpr hin] at hrel
        generalize vs peerId = v at hrel
        cases hrel with
        | none => rfl
      have hlookup := Table.lookup_insert_modify_self h.connections peerId p fun _ => q.markConnected
      have hheard : q.lastHeartbeat = now := by
        obtain ⟨hkept | hnow, -⟩ := PeerConnection.connect_keeps hconnect
        · exact hkept
        · exact hnow
      rw [if_pos rfl, hnone, Option.getD_none, hlookup]
      exact .some (kept32_heard (hs'.2 peerId _ hlookup) rfl hheard rfl)
    · rw [if_neg hne]
      dsimp only
      rw [Table.lookup_insert_modify_of_ne _ _ _ (Ne.symm hne)]
      exact hh.kept id

theorem Handled32.heartbeatSat (hh : Handled32 satId port vs h) (now : Nat) (hid : 0 ≤ peerId) :
    ∃ h', h.heartbeatSat now peerId = .ok h' ∧
      Handled32 satId port (fun id => vigilStep id (vs id) (.heartbeatSat now peerId)) h' := by
  obtain ⟨h', hrun, hs'⟩ := heartbeatSat_sound now hh.sound hid
  refine ⟨h', hrun, hs'.1, fun id => ?_⟩
  obtain ⟨-, hret⟩ := assert_bind_eq_ok.mp hrun
  cases hret
  rw [vigilStep]
  have hsound := hs'.2 id
  dsimp only at hsound ⊢
  by_cases hne : peerId = id
  · subst hne
    have hrel := hh.kept peerId
    rw [if_pos rfl, Table.lookup_modify_self]
    rw [Table.lookup_modify_self] at hsound
    generalize h.connections.lookup peerId = entry at hrel hsound ⊢
    generalize vs peerId = v at hrel ⊢
    cases hrel with
    | none => exact .none
    | some hk => exact .some (kept32_heard (hsound _ rfl) rfl rfl rfl)
  · rw [if_neg hne, Table.lookup_modify_of_ne _ _ (Ne.symm hne)]
    exact hh.kept id

theorem broadcastMessage_returns {message : Message} (os : Int32 → Os) (hs : h.Sound satId port)
    (hm : Sendable message) : ∃ w, h.broadcastMessage os message = .ok w := by
  have hcall : ∀ id p, h.connections.lookup id = some p → ∃ r, broadcastTo os message id p = .ok r := by
    intro id p hp
    obtain ⟨w, hrun⟩ := broadcastTo_returns os hm (hs.2 id p hp)
    exact ⟨_, hrun⟩
  obtain ⟨⟨t, w⟩, hsweep⟩ := Table.sweep_ok hcall
  rw [broadcastMessage, assert_bind hm.size, assert_bind hm.senderId, assert_bind hm.senderPort, hsweep]
  exact ⟨w, rfl⟩

theorem Handled32.step (hh : Handled32 satId port vs h) {c : Call} (hport : 0 ≤ port) (hsat : 0 < satId) (hc : c.Checked)
    (hclock : ∀ now, c.time = some now → ∀ id v, vs id = some v → ∀ u ∈ v.passes, u ≤ now)
    (hcounts : ∀ id v, vs id = some v → v.Counts) :
    ((∀ id v, vigilStep id (vs id) c = some v → v.Counts) ∧ ∃ h' w, step32 satId h c = .ok (h', w) ∧
        Handled32 satId port (fun id => vigilStep id (vs id) c) h') ∨
      ((∃ id v, vigilStep id (vs id) c = some v ∧ ¬ v.Counts) ∧ step32 satId h c = .error overflow) := by
  have hall : ∀ {h'}, Handled32 satId port (fun id => vigilStep id (vs id) c) h' →
      ∀ id v, vigilStep id (vs id) c = some v → v.Counts := by
    intro h' hh' id v hv
    obtain ⟨p, -, hk⟩ := hh'.kept.known hv
    exact hk.counts
  cases c with
  | addConnection now os peerPort ip peerId =>
    obtain ⟨hpeerPort, hip, hid⟩ := hc
    obtain ⟨h', w, hrun, hh'⟩ := hh.addConnection now os hport hsat hpeerPort hip hid
    exact .inl ⟨hall hh', h', w, hrun, hh'⟩
  | heartbeatSat now peerId =>
    obtain ⟨h', hrun, hh'⟩ := hh.heartbeatSat now hc
    have hstep : step32 satId h (.heartbeatSat now peerId) = .ok (h', []) := by
      change (h.heartbeatSat now peerId >>= fun h => .ok (h, [])) = _
      rw [hrun, ok_bind]
    exact .inl ⟨hall hh', h', [], hstep, hh'⟩
  | update now os =>
    rcases hh.update os (hclock now rfl) with ⟨hpass, h', w, hrun, hh'⟩ | ⟨⟨id, v, hv, hover⟩, hrun⟩
    · exact .inl ⟨hall hh', h', w, hrun, hh'⟩
    · refine .inr ⟨⟨id, v.pass now, ?_, hover⟩, hrun⟩
      rw [hv]
      rfl
  | sendMessageToPeer os peerId message =>
    obtain ⟨w, hrun, -⟩ := sendMessageToPeer_passes_iff os hh.sound hc.1 hc.2
    have hstep : step32 satId h (.sendMessageToPeer os peerId message) = .ok (h, w) := by
      change (h.sendMessageToPeer os peerId message >>= fun effects => .ok (h, effects)) = _
      rw [hrun, ok_bind]
    exact .inl ⟨hcounts, h, w, hstep, hh⟩
  | broadcastMessage os message =>
    obtain ⟨w, hrun⟩ := broadcastMessage_returns os hh.sound hc
    have hstep : step32 satId h (.broadcastMessage os message) = .ok (h, w) := by
      change (h.broadcastMessage os message >>= fun effects => .ok (h, effects)) = _
      rw [hrun, ok_bind]
    exact .inl ⟨hcounts, h, w, hstep, hh⟩

end

section
variable {satId listen : Int32} {cs : List Call}

theorem vigil_passes {id : Int32} {v : Vigil} (hv : vigil id cs = some v) :
    v.passes.Sublist (cs.filterMap Call.time) := by
  induction cs using List.reverseRecOn generalizing v with
  | nil => cases hv
  | append_singleton cs c ih =>
    have hkeep : ∀ {v}, vigil id cs = some v → v.passes.Sublist ((cs ++ [c]).filterMap Call.time) := by
      intro v hbefore
      rw [List.filterMap_append]
      exact (ih hbefore).trans (List.sublist_append_left ..)
    rw [vigil_snoc] at hv
    cases c with
    | addConnection now os port ip peerId =>
      rw [vigilStep] at hv
      split_ifs at hv
      · cases hbefore : vigil id cs with
        | none =>
          rw [hbefore] at hv
          cases hv
          exact List.nil_sublist _
        | some v' =>
          rw [hbefore] at hv
          cases hv
          exact hkeep hbefore
      · exact hkeep hv
    | heartbeatSat now peerId =>
      rw [vigilStep] at hv
      split_ifs at hv
      · obtain ⟨v', -, rfl⟩ := Option.map_eq_some_iff.mp hv
        exact List.nil_sublist _
      · exact hkeep hv
    | update now os =>
      obtain ⟨v', hbefore, rfl⟩ := Option.map_eq_some_iff.mp hv
      rw [List.filterMap_append]
      exact (ih hbefore).append (List.Sublist.refl [now])
    | sendMessageToPeer os peerId message => exact hkeep hv
    | broadcastMessage os message => exact hkeep hv

/-- **A run returns if every vigil of it counts, and overflows otherwise.** -/
theorem run32_cases (hsat : 0 < satId) (hlisten : 0 ≤ listen) (hcs : ∀ c ∈ cs, c.Checked)
    (hclock : Clocked Call.time cs) :
    (Counts cs ∧ ∃ h w, run (step32 satId) (init listen) cs = .ok (h, w) ∧
        Handled32 satId listen (fun id => vigil id cs) h) ∨
      (¬ Counts cs ∧ run (step32 satId) (init listen) cs = .error overflow) := by
  induction cs using List.reverseRecOn with
  | nil => exact .inl ⟨counts_nil, init listen, [], rfl, rfl, fun _ => .none⟩
  | append_singleton cs c ih =>
    obtain ⟨hclock', hlast⟩ := hclock.of_snoc
    rw [counts_snoc]
    rcases ih (fun c' hc' => hcs c' (List.mem_append_left _ hc')) hclock' with ⟨hcounts, h, w, hrun, hh⟩ | ⟨hover, hrun⟩
    · have hbefore : ∀ now, c.time = some now → ∀ id v, vigil id cs = some v → ∀ u ∈ v.passes, u ≤ now :=
        fun now hnow id v hv u hu => hlast now hnow u ((vigil_passes hv).subset hu)
      rcases hh.step hlisten hsat (hcs c (List.mem_append_right _ List.mem_cons_self)) hbefore
        (hcounts cs (List.prefix_refl _)) with ⟨hnext, h', w', hstep, hh'⟩ | ⟨⟨id, v, hv, hover⟩, hstep⟩
      · left
        refine ⟨⟨hcounts, hnext⟩, h', w ++ w', run_snoc_ok.mpr ⟨h, w, w', hrun, hstep, rfl⟩, ?_⟩
        simp only [vigil_snoc]
        exact hh'
      · right
        refine ⟨fun hall => hover (hall.2 id v hv), ?_⟩
        exact run_snoc_error (.inr ⟨h, w, hrun, hstep⟩)
    · right
      exact ⟨fun hall => hover hall.1, run_snoc_error (.inl hrun)⟩

end

/-! ### The account of a peer -/

/-- The message sent to peer `id`. -/
def sentTo (id : Int32) : Effect → Option Message
  | .sendto peer _ _ m => if peer = id then some m else none
  | _ => none

/-- The heartbeats with which an `update` tries to reconnect to peer `id`: the messages it sends to it. -/
def heartbeatsTo (id : Int32) (w : List Effect) : List Message := w.filterMap (sentTo id)

/-- The entries a call makes in the account of peer `id`. -/
def moments (id : Int32) (h : ConnectionHandler) (c : Call) (w : List Effect) : List Moment :=
  match c with
  | .addConnection now _ _ _ peerId => if peerId = id ∧ h.connections.lookup id = none then [.added now] else []
  | .heartbeatSat now peerId => if peerId = id ∧ h.connections.lookup id ≠ none then [.heard now] else []
  | .update now _ => (heartbeatsTo id w).map fun _ => .attempt now
  | _ => []

section
variable {p p' : PeerConnection} {satId port id : Int32} {now : Nat} {os : Os} {w w' : List Effect}

theorem heartbeatsTo_append : heartbeatsTo id (w ++ w') = heartbeatsTo id w ++ heartbeatsTo id w' :=
  List.filterMap_append

theorem heartbeatsTo_disconnect (p : PeerConnection) (now : Nat) (os : Os) : heartbeatsTo id (p.disconnect now os).2 = [] := by
  rw [heartbeatsTo, List.filterMap_eq_nil_iff]
  intro e he
  cases e with
  | sendto peer fd dest m => exact (PeerConnection.disconnect_sends (P := fun _ _ => False) now os peer fd dest m he).elim
  | log line => rfl
  | output out => rfl
  | opened fd => rfl
  | closed fd => rfl

theorem heartbeatsTo_greeting {peer : Int32} {fd fd' : Int} {dest : SockAddr} {m : Message} {line line' : String} :
    heartbeatsTo id [.opened fd', .sendto peer fd dest m, .log line, .log line'] =
      if peer = id then [m] else [] := by
  rw [heartbeatsTo, List.filterMap_cons_none rfl]
  by_cases hpeer : peer = id
  · have hsent : sentTo id (.sendto peer fd dest m) = some m := if_pos hpeer
    rw [if_pos hpeer, List.filterMap_cons_some hsent]
    rfl
  · have hsent : sentTo id (.sendto peer fd dest m) = none := if_neg hpeer
    rw [if_neg hpeer, List.filterMap_cons_none hsent]
    rfl

theorem heartbeatsTo_connect (h : p.connect now os = .ok (p', w)) :
    (heartbeatsTo p.peerId w).length ≤ 1 ∧ ∀ id, p.peerId ≠ id → heartbeatsTo id w = [] := by
  rcases PeerConnection.connect_cases h with
    ⟨-, -, line, rfl⟩ | ⟨-, dest, line, -, rfl⟩ | ⟨-, dest, line, attempt, -, rfl⟩
  · exact ⟨Nat.zero_le _, fun _ _ => rfl⟩
  · exact ⟨Nat.zero_le _, fun _ _ => rfl⟩
  · refine ⟨?_, fun id hne => ?_⟩
    · rw [heartbeatsTo_greeting, if_pos rfl]
      exact Nat.le_refl 1
    · rw [heartbeatsTo_greeting, if_neg hne]

theorem updatePeer32_ok {os : Int32 → Os} (h : updatePeer32 now os id p = .ok (p', w)) :
    updatePeer now os id p = .ok (p', w) := by
  obtain ⟨state, hstate, h⟩ := bind_eq_ok.mp h
  rw [updatePeer, hstate, ok_bind]
  by_cases hup : state = .connected
  · rw [if_pos hup] at h ⊢
    obtain ⟨timedOut, htimed, h⟩ := bind_eq_ok.mp h
    rw [htimed, ok_bind]
    dsimp only at h ⊢
    split_ifs at h ⊢
    · exact h
    · exact PeerConnection.reconnect32_ok h
    · exact h
  · rw [if_neg hup, ok_bind] at h ⊢
    dsimp only at h ⊢
    rw [if_neg Bool.false_ne_true] at h ⊢
    split_ifs at h ⊢
    · exact PeerConnection.reconnect32_ok h
    · exact h

theorem heartbeatsTo_others {os : Int32 → Os} {id' : Int32} (hs : p.Sound satId port id') (hne : id' ≠ id)
    (h : updatePeer32 now os id' p = .ok (p', w)) : heartbeatsTo id w = [] := by
  rcases updatePeer_cases (updatePeer32_ok h) with ⟨-, -, -, rfl⟩ | ⟨-, hreconnect⟩ | ⟨-, -, -, rfl⟩
  · exact heartbeatsTo_disconnect p now _
  · rcases PeerConnection.reconnect_cases hreconnect with
      ⟨-, -, rfl⟩ | ⟨-, -, -, rfl⟩ | ⟨-, -, line, opening, hconnect, rfl⟩
    · rfl
    · rfl
    · have hpeer : p.peerId ≠ id := by
        rw [hs.id_eq]
        exact hne
      rw [List.cons_append, ← List.singleton_append, heartbeatsTo_append, heartbeatsTo_append, heartbeatsTo_disconnect,
        (heartbeatsTo_connect hconnect).2 id hpeer]
      rfl
  · rfl

end

/-- The account of a peer and the fields of its connection, after calls at the given times. -/
structure Counted (ts : List Nat) (hist : List Moment) (p : Option PeerConnection) : Prop where
  permitted : Along (Permitted Config.patience) hist
  alive : deaths (sinceHeard hist) = 0
  unknown : p = none → hist = []
  counter : ∀ q, p = some q → attempts (sinceHeard hist) ≤ q.retryCounter
  mark : ∀ q, p = some q → q.state ≠ .connected → ∀ t, lastMark hist = some t → t ≤ q.lastReconnect
  clock : ∀ t, lastMark hist = some t → t ∈ ts

section
variable {ts : List Nat} {hist : List Moment} {p p' : PeerConnection} {satId port id : Int32} {now : Nat}
  {os : Int32 → Os} {w : List Effect}

theorem counted_nil : Counted ts [] none where
  permitted := along_nil _
  alive := rfl
  unknown _ := rfl
  counter _ := nofun
  mark _ := nofun
  clock _ := nofun

/-- Without an entry the fields may change as they do: the counter grows, and the time of the last attempt is later. -/
theorem Counted.quiet (hc : Counted ts hist (some p)) (hretry : p.retryCounter ≤ p'.retryCounter)
    (hmark : p'.state ≠ .connected → ∀ t, lastMark hist = some t → t ≤ p'.lastReconnect) :
    Counted (ts ++ [now]) hist (some p') := by
  refine ⟨hc.permitted, hc.alive, nofun, ?_, ?_, ?_⟩
  · rintro _ ⟨⟩
    exact Nat.le_trans (hc.counter p rfl) hretry
  · rintro _ ⟨⟩
    exact hmark
  · intro t ht
    exact List.mem_append_left _ (hc.clock t ht)

theorem Counted.attempt (hc : Counted ts hist (some p)) (hdown : p.state ≠ .connected)
    (hdue : ¬ now - p.lastReconnect < Config.RECONNECT_INTERVAL)
    (hleft : ¬ Config.MAX_RECONNECT_ATTEMPTS < p.retryCounter + 1) (hretry : p'.retryCounter = p.retryCounter + 1)
    (hlast : p'.lastReconnect = now) : Counted (ts ++ [now]) (hist ++ [.attempt now]) (some p') := by
  have hcounter := hc.counter p rfl
  have hsnoc : sinceHeard (hist ++ [.attempt now]) = sinceHeard hist ++ [.attempt now] := by
    rw [sinceHeard_snoc, if_neg (by simp [Moment.isHeard])]
  have hmark : lastMark (hist ++ [.attempt now]) = some now := by
    rw [lastMark_snoc]
    rfl
  refine ⟨along_snoc.mpr ⟨hc.permitted, ?_, hc.alive, ?_⟩, ?_,
    fun hnone => absurd hnone (Option.some_ne_none p'), ?_, ?_, ?_⟩
  · show attempts (sinceHeard hist) < Config.MAX_RECONNECT_ATTEMPTS
    omega
  · intro t ht
    have hbefore := hc.mark p rfl hdown t ht
    have hpos : 0 < Config.RECONNECT_INTERVAL := by decide
    show t + Config.RECONNECT_INTERVAL ≤ now
    omega
  · rw [hsnoc, deaths_snoc, hc.alive]
    rfl
  · rintro _ ⟨⟩
    have hone : attempts (sinceHeard hist ++ [.attempt now]) = attempts (sinceHeard hist) + 1 := attempts_snoc
    rw [hsnoc, hone]
    omega
  · rintro _ ⟨⟩ -
    intro t ht
    rw [hmark] at ht
    cases ht
    rw [hlast]
  · intro t ht
    rw [hmark] at ht
    cases ht
    exact List.mem_append_right _ List.mem_cons_self

theorem Counted.pass (hc : Counted ts hist (some p)) (hs : p.Sound satId port id) (hclock : ∀ t ∈ ts, t ≤ now)
    (hrun : updatePeer now os id p = .ok (p', w)) :
    Counted (ts ++ [now]) (hist ++ (heartbeatsTo id w).map fun _ => .attempt now) (some p') := by
  rcases updatePeer_cases hrun with ⟨-, -, rfl, rfl⟩ | ⟨hdown, hreconnect⟩ | ⟨hup, -, rfl, rfl⟩
  · -- the peer is lost
    have hnone : heartbeatsTo id (.log ("[ERROR] Satellite: " ++ toString id ++ " has timed out") ::
        (p.disconnect now (os id)).2) = [] := heartbeatsTo_disconnect p now (os id)
    rw [hnone, List.map_nil, List.append_nil]
    exact hc.quiet (Nat.le_refl _) fun _ t ht => hclock t (hc.clock t ht)
  · rcases PeerConnection.reconnect_cases hreconnect with
      ⟨-, rfl, rfl⟩ | ⟨-, -, rfl, rfl⟩ | ⟨hdue, hleft, line, opening, hconnect, rfl⟩
    · rw [heartbeatsTo, List.filterMap_nil, List.map_nil, List.append_nil]
      exact hc.quiet (Nat.le_refl _) (hc.mark p' rfl)
    · rw [heartbeatsTo, List.filterMap_nil, List.map_nil, List.append_nil]
      exact hc.quiet (Nat.le_succ _) (hc.mark p rfl)
    · obtain ⟨hretry, hlast⟩ := PeerConnection.connect_retry hconnect
      have hsent : heartbeatsTo id (.log line :: (p.disconnect now (os id)).2 ++ opening) = heartbeatsTo id opening := by
        rw [List.cons_append, ← List.singleton_append, heartbeatsTo_append, heartbeatsTo_append, heartbeatsTo_disconnect]
        rfl
      have hone : (heartbeatsTo id opening).length ≤ 1 := by
        rw [← hs.id_eq]
        exact (heartbeatsTo_connect hconnect).1
      rw [hsent]
      cases hbeats : heartbeatsTo id opening with
      | nil =>
        -- the attempt got no heartbeat out
        rw [List.map_nil, List.append_nil]
        refine hc.quiet ?_ fun _ t ht => ?_
        · rw [hretry]
          exact Nat.le_succ _
        · rw [hlast]
          exact hclock t (hc.clock t ht)
      | cons m ms =>
        rw [hbeats, List.length_cons] at hone
        have hms : ms = [] := List.length_eq_zero_iff.mp (by omega)
        rw [hms]
        exact hc.attempt hdown hdue hleft hretry hlast
  · rw [heartbeatsTo, List.filterMap_nil, List.map_nil, List.append_nil]
    exact hc.quiet (Nat.le_refl _) fun hdown => absurd hup hdown

theorem Counted.mono {ts' : List Nat} {q : Option PeerConnection} (hc : Counted ts hist q) :
    Counted (ts ++ ts') hist q := by
  refine ⟨hc.permitted, hc.alive, hc.unknown, hc.counter, hc.mark, fun t ht => ?_⟩
  exact List.mem_append_left _ (hc.clock t ht)

theorem Counted.added (hc : Counted ts hist none) (hup : p.state = .connected) :
    Counted (ts ++ [now]) (hist ++ [.added now]) (some p) := by
  have hempty := hc.unknown rfl
  subst hempty
  refine ⟨along_snoc.mpr ⟨hc.permitted, trivial⟩, rfl, nofun, ?_, ?_, ?_⟩
  · rintro _ ⟨⟩
    exact Nat.zero_le _
  · rintro _ ⟨⟩ hdown
    exact absurd hup hdown
  · intro t ht
    cases ht
    exact List.mem_append_right _ List.mem_cons_self

theorem Counted.heard (hc : Counted ts hist (some p)) (hup : p'.state = .connected) :
    Counted (ts ++ [now]) (hist ++ [.heard now]) (some p') := by
  have hclear : sinceHeard (hist ++ [.heard now]) = [] := by
    rw [sinceHeard_snoc]
    rfl
  refine ⟨along_snoc.mpr ⟨hc.permitted, trivial⟩, ?_, nofun, ?_, ?_, ?_⟩
  · rw [hclear]
    rfl
  · rintro _ ⟨⟩
    rw [hclear]
    exact Nat.zero_le _
  · rintro _ ⟨⟩ hdown
    exact absurd hup hdown
  · intro t ht
    rw [lastMark_snoc] at ht
    exact List.mem_append_left _ (hc.clock t ht)

theorem Counted.step {h h' : ConnectionHandler} {c : Call} (hc : Counted ts hist (h.connections.lookup id))
    (hs : h.Sound satId port) (hclock : ∀ now, c.time = some now → ∀ t ∈ ts, t ≤ now)
    (hrun : step32 satId h c = .ok (h', w)) :
    Counted (ts ++ c.time.toList) (hist ++ moments id h c w) (h'.connections.lookup id) := by
  cases c with
  | addConnection now os peerPort ip peerId =>
    rw [moments]
    rcases addConnection_cases hrun with ⟨hin, rfl, -⟩ | ⟨hin, p, q, -, hconnect, rfl⟩
    · rw [if_neg, List.append_nil]
      · exact hc.mono
      · rintro ⟨rfl, hnone⟩
        exact AList.lookup_eq_none.mp hnone hin
    · by_cases hid : peerId = id
      · subst hid
        have hnone := AList.lookup_eq_none.mpr hin
        rw [if_pos ⟨rfl, hnone⟩]
        dsimp only
        rw [Table.lookup_insert_modify_self]
        rw [hnone] at hc
        exact hc.added rfl
      · rw [if_neg fun h => hid h.1, List.append_nil]
        dsimp only
        rw [Table.lookup_insert_modify_of_ne _ _ _ (Ne.symm hid)]
        exact hc.mono
  | heartbeatSat now peerId =>
    obtain ⟨h', hbeat, hret⟩ := bind_eq_ok.mp hrun
    cases hret
    obtain ⟨-, hret⟩ := assert_bind_eq_ok.mp hbeat
    cases hret
    rw [moments]
    dsimp only
    by_cases hid : peerId = id
    · subst hid
      rw [Table.lookup_modify_self]
      cases hp : h.connections.lookup peerId with
      | none =>
        rw [hp] at hc
        rw [if_neg fun h => h.2 rfl, List.append_nil]
        exact hc.mono
      | some p =>
        rw [hp] at hc
        rw [if_pos ⟨rfl, nofun⟩]
        exact hc.heard rfl
    · rw [Table.lookup_modify_of_ne _ _ (Ne.symm hid), if_neg fun h => hid h.1, List.append_nil]
      exact hc.mono
  | update now os =>
    obtain ⟨⟨t, v⟩, hsweep, hret⟩ := bind_eq_ok.mp hrun
    cases hret
    obtain ⟨hnone, hsome⟩ := Table.sweep_view (heartbeatsTo id) (k := id) rfl (fun _ _ => heartbeatsTo_append)
      (fun id' p p' v hp hne hcall => heartbeatsTo_others (hs.2 id' p hp) hne hcall) hsweep
    rw [moments]
    dsimp only
    cases hp : h.connections.lookup id with
    | none =>
      obtain ⟨hafter, hview⟩ := hnone hp
      rw [hp] at hc
      rw [hafter, hview, List.map_nil, List.append_nil]
      exact hc.mono
    | some p =>
      obtain ⟨p', v', hcall, hafter, hview⟩ := hsome p hp
      rw [hp] at hc
      rw [hafter, hview]
      exact hc.pass (hs.2 id p hp) (hclock now rfl) (updatePeer32_ok hcall)
  | sendMessageToPeer os peerId message =>
    obtain ⟨v, -, hret⟩ := bind_eq_ok.mp hrun
    cases hret
    change Counted (ts ++ []) (hist ++ []) _
    rw [List.append_nil hist]
    exact hc.mono
  | broadcastMessage os message =>
    obtain ⟨v, -, hret⟩ := bind_eq_ok.mp hrun
    cases hret
    change Counted (ts ++ []) (hist ++ []) _
    rw [List.append_nil hist]
    exact hc.mono

end

/-! ### The account of a run -/

/-- No increment of a counter is undefined, and the account of every peer, up to each of its entries, is that of bounded
retries. -/
structure GivesUp (satId listen : Int32) (cs : List Call) : Prop where
  defined : ∃ h w, run (step32 satId) (init listen) cs = .ok (h, w)
  accounted : ∀ id hist, hist <+: observe (step32 satId) (moments id) (init listen) cs →
    Accounted Config.patience hist

section
variable {satId listen : Int32} {cs : List Call}

theorem run32_counted (hsat : 0 < satId) (hlisten : 0 ≤ listen) (hcs : ∀ c ∈ cs, c.Checked)
    (hclock : Clocked Call.time cs) {h : ConnectionHandler} {w : List Effect}
    (hrun : run (step32 satId) (init listen) cs = .ok (h, w)) (id : Int32) :
    Counted (cs.filterMap Call.time) (observe (step32 satId) (moments id) (init listen) cs)
      (h.connections.lookup id) := by
  induction cs using List.reverseRecOn generalizing h w with
  | nil =>
    cases hrun
    exact counted_nil
  | append_singleton cs c ih =>
    obtain ⟨g, w₁, w₂, hfirst, hstep, -⟩ := run_snoc_ok.mp hrun
    obtain ⟨hclock', hlast⟩ := hclock.of_snoc
    have hcs' : ∀ c' ∈ cs, c'.Checked := fun c' hc' => hcs c' (List.mem_append_left _ hc')
    have hsound : g.Sound satId listen := by
      rcases run32_cases hsat hlisten hcs' hclock' with ⟨-, g', w', hrun', hh⟩ | ⟨-, hover⟩
      · rw [hfirst] at hrun'
        cases hrun'
        exact hh.sound
      · rw [hfirst] at hover
        cases hover
    have htimes : (cs ++ [c]).filterMap Call.time = cs.filterMap Call.time ++ c.time.toList := by
      rw [List.filterMap_append]
      cases hc : c.time with
      | none => rw [List.filterMap_cons_none hc]; rfl
      | some now => rw [List.filterMap_cons_some hc]; rfl
    rw [observe_snoc hfirst hstep, htimes]
    exact (ih hcs' hclock' hfirst).step hsound hlast hstep

theorem counts_of_length (hlength : Config.MAX_RECONNECT_ATTEMPTS + cs.length ≤ INT_MAX) : Counts cs := by
  intro pre hpre id v hv
  have hpasses : v.passes.length ≤ cs.length := calc
    v.passes.length ≤ (pre.filterMap Call.time).length := (vigil_passes hv).length_le
    _ ≤ pre.length := List.length_filterMap_le ..
    _ ≤ cs.length := hpre.length_le
  have hidle : v.idle ≤ v.passes.length := by
    rw [Vigil.idle]
    cases v.lost with
    | none => exact Nat.zero_le _
    | some lost => exact idle_le_length
  rw [Vigil.Counts]
  omega

end

/-- **A satellite gives up on its peers**, in every run of calls that meet the assertions under a clock that does not go
back, **exactly when** the ten attempts and the idle passes of every vigil fit an `int`. -/
theorem givesUp_iff {satId listen : Int32} (hsat : 0 < satId) (hlisten : 0 ≤ listen) {cs : List Call}
    (hcs : ∀ c ∈ cs, c.Checked) (hclock : Clocked Call.time cs) : GivesUp satId listen cs ↔ Counts cs := by
  constructor
  · rintro ⟨⟨h, w, hrun⟩, -⟩
    rcases run32_cases hsat hlisten hcs hclock with ⟨hcounts, -⟩ | ⟨-, hover⟩
    · exact hcounts
    · rw [hrun] at hover
      cases hover
  · intro hcounts
    rcases run32_cases hsat hlisten hcs hclock with ⟨-, h, w, hrun, -⟩ | ⟨hover, -⟩
    · refine ⟨⟨h, w, hrun⟩, ?_⟩
      rintro id hist ⟨rest, hsplit⟩
      have hall := (run32_counted hsat hlisten hcs hclock hrun id).permitted
      rw [← hsplit] at hall
      exact accounted hall.of_append
    · exact absurd hcounts hover

/-! ### A peer that never answers -/

/-- The passes of a minute and a half: at second 21 the peer is lost, and ten attempts follow. -/
def silence : List Nat := [21, 31, 41, 51, 61, 71, 81, 91, 101, 111, 121]

/-- Ground control is added at second 0 and not heard again, and after the ten attempts `n` more passes find it so. -/
def unheard (n : Nat) : List Call :=
  meetGroundControl :: (silence ++ List.replicate n 131).map fun t => .update t fun _ => .granting

section
variable {n : Nat}

theorem unheard_checked : ∀ c ∈ unheard n, c.Checked := by
  intro c hc
  rcases List.mem_cons.mp hc with rfl | hc
  · exact ⟨by decide, by decide, by decide⟩
  · obtain ⟨t, -, rfl⟩ := List.mem_map.mp hc
    trivial

theorem unheard_clocked : Clocked Call.time (unheard n) := by
  have htimes : (unheard n).filterMap Call.time = 0 :: silence ++ List.replicate n 131 := by
    have hmeet : Call.time meetGroundControl = some 0 := rfl
    rw [unheard, List.filterMap_cons_some hmeet, List.filterMap_map]
    exact congrArg (0 :: ·) List.filterMap_some
  rw [Clocked, htimes, List.pairwise_append]
  refine ⟨by decide, List.pairwise_replicate.mpr (.inr (Nat.le_refl _)), fun t ht u hu => ?_⟩
  have hle : ∀ t ∈ 0 :: silence, t ≤ 131 := by decide
  rw [(List.mem_replicate.mp hu).2]
  exact hle t ht

theorem vigil_updates {id : Int32} {cs : List Call} {v : Vigil} (hv : vigil id cs = some v) (ts : List Nat)
    (os : Int32 → Os) : vigil id (cs ++ ts.map (Call.update · os)) = some { v with passes := v.passes ++ ts } := by
  induction ts using List.reverseRecOn with
  | nil => rw [List.map_nil, List.append_nil, List.append_nil]; exact hv
  | append_singleton ts t ih =>
    rw [List.map_append, ← List.append_assoc, List.map_singleton, vigil_snoc, ih, ← List.append_assoc]
    rfl

theorem unheard_idle : ∃ v, vigil 0 (unheard n) = some v ∧ v.idle = n := by
  have hmeet : vigil 0 [meetGroundControl] = some ⟨0, []⟩ := rfl
  have hv := vigil_updates hmeet (silence ++ List.replicate n 131) fun _ => .granting
  have hlost : (Vigil.mk 0 (silence ++ List.replicate n 131)).lost = some 21 := rfl
  have hfull : (tries Config.patience 21 silence).length = Config.patience.limit := by decide
  have htries : tries Config.patience 21 (silence ++ List.replicate n 131) = tries Config.patience 21 silence :=
    tries_append_of_full hfull
  have hlast : lastTry Config.patience 21 (silence ++ List.replicate n 131) = 121 := by
    rw [lastTry, htries]
    rfl
  refine ⟨_, hv, (Vigil.idle_of_some hlost).trans ?_⟩
  have hearly : silence.countP (fun t => decide (Config.patience.interval ≤ t - 121)) = 0 := by decide
  rw [idle, htries, if_pos hfull, hlast, List.countP_append, hearly, List.countP_replicate, if_pos (by decide),
    Nat.zero_add]

end

/-- After 2147483638 idle passes the counter overflows. -/
theorem unheard_overflows : (∀ c ∈ unheard 2147483638, c.Checked) ∧ Clocked Call.time (unheard 2147483638) ∧
    run (step32 1) (init 5001) (unheard 2147483638) = .error overflow ∧ ¬ GivesUp 1 5001 (unheard 2147483638) := by
  have hover : ¬ Counts (unheard 2147483638) := by
    intro hcounts
    obtain ⟨v, hv, hidle⟩ := unheard_idle (n := 2147483638)
    have hfits := hcounts _ (List.prefix_refl _) 0 v hv
    rw [Vigil.Counts, hidle] at hfits
    exact absurd hfits (by decide)
  have hrun : run (step32 1) (init 5001) (unheard 2147483638) = .error overflow := by
    have hsat : (0 : Int32) < 1 := by decide
    have hlisten : (0 : Int32) ≤ 5001 := by decide
    rcases run32_cases hsat hlisten unheard_checked unheard_clocked with ⟨hcounts, -⟩ | ⟨-, hrun⟩
    · exact absurd hcounts hover
    · exact hrun
  refine ⟨unheard_checked, unheard_clocked, hrun, fun hgives => ?_⟩
  obtain ⟨h, w, hok⟩ := hgives.defined
  rw [hrun] at hok
  cases hok

theorem givesUp_iff_unheard : (0 : Int32) < 1 ∧ (0 : Int32) ≤ 5001 ∧ (∀ c ∈ unheard 1000, c.Checked) ∧
    Clocked Call.time (unheard 1000) ∧ GivesUp 1 5001 (unheard 1000) := by
  have hlength : Config.MAX_RECONNECT_ATTEMPTS + (unheard 1000).length ≤ INT_MAX := by
    rw [unheard, List.length_cons, List.length_map, List.length_append, List.length_replicate]
    decide
  have hsat : (0 : Int32) < 1 := by decide
  have hlisten : (0 : Int32) ≤ 5001 := by decide
  exact ⟨hsat, hlisten, unheard_checked, unheard_clocked,
    (givesUp_iff hsat hlisten unheard_checked unheard_clocked).mpr (counts_of_length hlength)⟩

end ConnectionHandler

end Constellation
