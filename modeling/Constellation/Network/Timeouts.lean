import Constellation.GroundControl.Ledger
import Constellation.Lib.Detector
import Constellation.Satellite.Acquainted

/-!
# When a connection counts as connected

Both programs take a peer to be connected from a word of it until an update pass finds that its last
heartbeat is too long ago. The bookkeeping around it differs: `lastHeartbeat` is also written by the
constructor and, in a satellite, by `connect`, hence by every attempt to reconnect; and a satellite takes a
peer it adds to be connected at once, ground control only when it hears it. But an attempt leaves the
connection disconnected or connecting, and while it is connected only a word writes the field. So the last
heartbeat of a connected peer (`upSince`) is the state of a detector by silence, whatever the attempts did,
and right after a pass the detector is exact (`timeouts_exact`).
-/

namespace Constellation

/-- The last heartbeat, while the satellite counts as connected. -/
def Ledger.upSince (l : Ledger) : Option Nat := if l.state = .connected then some l.lastHeartbeat else none

/-- What a detector sees of a turn. -/
def Turn.beats : Turn → List Beat
  | .met _ => []
  | .heard now => [.word now]
  | .pass now => [.pass now]

/-- A ledger is a detector: only hearing the satellite and the timeout matter to it. -/
theorem Ledger.next_upSince (l : Option Ledger) (t : Turn) :
    (Ledger.next l t).bind Ledger.upSince =
      t.beats.foldl (detect Config.TIMEOUT_THRESHOLD) (l.bind Ledger.upSince) := by
  cases t with
  | met now =>
    cases l with
    | none => rfl
    | some l => rfl
  | heard now => rfl
  | pass now =>
    cases l with
    | none => rfl
    | some l =>
      show (l.settle now (l.verdict now)).upSince = l.upSince.filter fun heard => now - heard ≤ Config.TIMEOUT_THRESHOLD
      by_cases hup : l.state = .connected
      · have hself : l.upSince = some l.lastHeartbeat := if_pos hup
        rw [hself, Option.filter_some]
        by_cases hlate : Config.TIMEOUT_THRESHOLD < now - l.lastHeartbeat
        · have hverdict : l.verdict now = .lost := by rw [verdict, if_pos hup, if_pos hlate]
          rw [hverdict, if_neg fun hfresh => Nat.not_le.mpr hlate (of_decide_eq_true hfresh)]
          rfl
        · have hverdict : l.verdict now = .idle := by rw [verdict, if_pos hup, if_neg hlate]
          rw [hverdict, if_pos (decide_eq_true (Nat.not_lt.mp hlate))]
          exact hself
      · -- a connection that is not up is not brought up by a pass
        have hdown : (l.settle now (l.verdict now)).state ≠ .connected := by
          cases l.verdict now with
          | idle => exact hup
          | lost =>
            intro hup
            cases hup
          | attempt =>
            intro hup
            cases hup
          | dead => exact hup
        rw [upSince, if_neg hdown, upSince, if_neg hup]
        rfl

namespace GroundControl

/-- What a detector of satellite `id` sees of a step of ground control. -/
def beats (id : Int32) (g : GroundControl) (e : Input) (_ : List Effect) : List Beat :=
  match e with
  | .datagram now _ bytes _ => if senderOf g.buf bytes = some id then [.word now] else []
  | .update now _ => [.pass now]
  | .config _ _ _ _ _ => []
  | .command _ _ => []

theorem beats_eq (id : Int32) (g : GroundControl) (e : Input) (w : List Effect) :
    beats id g e w = (g.turn id e).elim [] Turn.beats := by
  cases e with
  | config now os port ip satId =>
    rw [beats, turn]
    split_ifs <;> rfl
  | datagram now os bytes ip =>
    rw [beats, turn]
    split_ifs <;> rfl
  | update now os => rfl
  | command os com => rfl

theorem beats_time (id : Int32) (g : GroundControl) (e : Input) (w : List Effect) (b : Beat)
    (hb : b ∈ beats id g e w) : e.time = some b.stamp := by
  cases e with
  | config now os port ip satId => cases hb
  | datagram now os bytes ip =>
    rw [beats] at hb
    split_ifs at hb
    · cases List.mem_singleton.mp hb
      rfl
    · cases hb
  | update now os =>
    cases List.mem_singleton.mp hb
    rfl
  | command os com => cases hb

theorem upSince_eq_detected {gcPort : Int32} {buf : RecvBuffer} {es : List Input} {g : GroundControl} {w : List Effect}
    (hrun : run take (init gcPort buf) es = .ok (g, w)) (id : Int32) :
    (g.ledger id).bind Ledger.upSince =
      detected Config.TIMEOUT_THRESHOLD (observe take (beats id) (init gcPort buf) es) := by
  refine run_induction (P := fun es g _ => (g.ledger id).bind Ledger.upSince =
    detected Config.TIMEOUT_THRESHOLD (observe take (beats id) (init gcPort buf) es)) ?_ ?_ hrun
  · rfl
  intro es g w e g' w' hes ih hstep
  rw [observe_snoc hes hstep, detected_append, ← ih, beats_eq, (take_ledger hstep id).1]
  cases g.turn id e with
  | none => rfl
  | some t => exact Ledger.next_upSince _ t

theorem upSince_isSome {g : GroundControl} {id : Int32} : ((g.ledger id).bind Ledger.upSince).isSome = true ↔
    ∃ c, g.handler.satellites.lookup id = some c ∧ c.state = .connected := by
  rw [ledger, GCConnectionHandler.ledger]
  cases g.handler.satellites.lookup id with
  | none => simp
  | some c => simp [Ledger.upSince, Connection.ledger]

theorem connected_iff {gcPort : Int32} {buf : RecvBuffer} {es : List Input} {now : Nat} {os : Int32 → Os}
    {g : GroundControl} {w : List Effect} {id : Int32}
    (hrun : run take (init gcPort buf) (es ++ [.update now os]) = .ok (g, w))
    (hclock : Clocked Input.time (es ++ [.update now os])) :
    (∃ c, g.handler.satellites.lookup id = some c ∧ c.state = .connected) ↔
      ∃ s, Beat.word s ∈ observe take (beats id) (init gcPort buf) es ∧
        s ≤ now ∧ now - s ≤ Config.TIMEOUT_THRESHOLD := by
  obtain ⟨g', w₁, w₂, hes, hlast, -⟩ := run_snoc_ok.mp hrun
  have hbeats : observe take (beats id) (init gcPort buf) (es ++ [.update now os]) =
      observe take (beats id) (init gcPort buf) es ++ [.pass now] := observe_snoc hes hlast
  have hordered := observe_clocked take (init gcPort buf) (beats_time id) hclock
  rw [hbeats] at hordered
  rw [← upSince_isSome, upSince_eq_detected hrun, hbeats]
  exact detector_exact hordered

end GroundControl

/-! ### The satellite's side -/

namespace PeerConnection

/-- The last heartbeat, while the peer counts as connected. -/
def upSince (p : PeerConnection) : Option Nat := if p.state = .connected then some p.lastHeartbeat else none

section
variable {p p' : PeerConnection} {now : Nat} {os : Os} {w : List Effect}

theorem connect_keeps (h : p.connect now os = .ok (p', w)) :
    (p'.lastHeartbeat = p.lastHeartbeat ∨ p'.lastHeartbeat = now) ∧
      (p.state ≠ .connected → p'.state ≠ .connected) := by
  rcases connect_cases h with ⟨-, rfl, -⟩ | ⟨-, dest, line, rfl, -⟩ | ⟨-, dest, line, attempt, rfl, -⟩
  · exact ⟨.inl rfl, id⟩
  · exact ⟨.inr rfl, id⟩
  · refine ⟨.inr rfl, fun _ hup => ?_⟩
    cases hup

theorem reconnect_keeps (hdown : p.state ≠ .connected) (h : p.reconnect now os = .ok (p', w)) :
    p'.state ≠ .connected := by
  rcases reconnect_cases h with ⟨-, rfl, -⟩ | ⟨-, -, rfl, -⟩ | ⟨-, -, line, opening, hconnect, -⟩
  · exact hdown
  · exact hdown
  · exact (connect_keeps hconnect).2 nofun

end

end PeerConnection

namespace ConnectionHandler

def upSince (h : ConnectionHandler) (id : Int32) : Option Nat := (h.connections.lookup id).bind PeerConnection.upSince

section
variable {h h' : ConnectionHandler} {now : Nat} {os : Int32 → Os} {id : Int32} {w : List Effect}

theorem updatePeer_upSince {p p' : PeerConnection} (hrun : updatePeer now os id p = .ok (p', w)) :
    p'.upSince = detect Config.TIMEOUT_THRESHOLD p.upSince (.pass now) := by
  rw [detect]
  rcases updatePeer_cases hrun with ⟨hup, hlate, rfl, -⟩ | ⟨hdown, hreconnect⟩ | ⟨hup, hfresh, rfl, -⟩
  · have hself : p.upSince = some p.lastHeartbeat := if_pos hup
    rw [hself, Option.filter_some, if_neg fun hfresh => Nat.not_le.mpr hlate (of_decide_eq_true hfresh)]
    rfl
  · have hnone : p.upSince = none := if_neg hdown
    rw [hnone]
    exact if_neg (PeerConnection.reconnect_keeps hdown hreconnect)
  · have hself : p'.upSince = some p'.lastHeartbeat := if_pos hup
    rw [hself, Option.filter_some, if_pos (decide_eq_true hfresh)]

theorem update_upSince (hrun : h.update now os = .ok (h', w)) (id : Int32) :
    h'.upSince id = detect Config.TIMEOUT_THRESHOLD (h.upSince id) (.pass now) := by
  obtain ⟨⟨t, v⟩, hsweep, hret⟩ := bind_eq_ok.mp hrun
  cases hret
  obtain ⟨hentries, -⟩ := Table.sweep_sound (Q := fun _ => True)
    (P := fun _ p p' => p'.upSince = detect Config.TIMEOUT_THRESHOLD p.upSince (.pass now)) trivial
    (fun _ _ => trivial) (fun _ _ _ _ _ hcall => ⟨updatePeer_upSince hcall, trivial⟩) hsweep
  have hrel := hentries id
  rw [upSince, upSince]
  dsimp only
  generalize h.connections.lookup id = before at hrel ⊢
  generalize t.lookup id = after at hrel ⊢
  cases hrel with
  | some hdetect => exact hdetect
  | none => rfl

theorem addConnection_upSince {port : Int32} {ip : String} {peerId satId : Int32}
    (hrun : h.addConnection now os port ip peerId satId = .ok (h', w)) (id : Int32) :
    h'.upSince id = if peerId = id ∧ h.connections.lookup id = none then some now else h.upSince id := by
  obtain ⟨hin, rfl, -⟩ | ⟨hin, p, q, -, hconnect, rfl⟩ := addConnection_cases hrun
  · rw [if_neg]
    rintro ⟨rfl, hnone⟩
    exact AList.lookup_eq_none.mp hnone hin
  · have hheard : q.lastHeartbeat = now := by
      obtain ⟨hkept | hnow, -⟩ := PeerConnection.connect_keeps hconnect
      · exact hkept
      · exact hnow
    rw [upSince]
    by_cases hid : peerId = id
    · subst hid
      rw [Table.lookup_insert_modify_self, if_pos ⟨rfl, AList.lookup_eq_none.mpr hin⟩, ← hheard]
      rfl
    · rw [Table.lookup_insert_modify_of_ne _ _ _ (Ne.symm hid), if_neg fun h => hid h.1]
      rfl

theorem heartbeatSat_upSince {peerId : Int32} (hrun : h.heartbeatSat now peerId = .ok h') (id : Int32) :
    h'.upSince id = if peerId = id then (h.connections.lookup id).map fun _ => now else h.upSince id := by
  obtain ⟨-, hret⟩ := assert_bind_eq_ok.mp hrun
  cases hret
  rw [upSince, upSince]
  dsimp only
  by_cases hid : peerId = id
  · subst hid
    rw [Table.lookup_modify_self, if_pos rfl]
    cases h.connections.lookup peerId <;> rfl
  · rw [Table.lookup_modify_of_ne _ _ (Ne.symm hid), if_neg hid]

end

end ConnectionHandler

namespace SatelliteProcess

/-- The clock reading of a step, if it takes one. -/
def Event.time : Event → Option Nat
  | .connect now _ _ _ _ => some now
  | .datagram now _ _ _ _ => some now
  | .stray now _ _ _ => some now
  | .update now _ _ => some now
  | .logLine _ _ | .broadcast _ | .dump _ | .sendChunk _ | .raise => none

/-- What a detector of peer `id` sees of a step of a satellite: besides the messages of the peer, its first
addition. -/
def beats (id : Int32) (p : SatelliteProcess) (e : Event) (_ : List Effect) : List Beat :=
  match e with
  | .connect now _ _ _ peerId =>
    if peerId = id ∧ p.satellite.handler.connections.lookup id = none then [.word now] else []
  | .datagram now _ m pad _ => if senderOf p.buf (m.serialize pad) = some id then [.word now] else []
  | .stray now _ bytes _ => if senderOf p.buf bytes = some id then [.word now] else []
  | .update now _ _ => [.pass now]
  | .logLine _ _ | .broadcast _ | .dump _ | .sendChunk _ | .raise => []

section
variable {p p' : SatelliteProcess} {w : List Effect}

theorem beats_time (id : Int32) (p : SatelliteProcess) (e : Event) (w : List Effect) (b : Beat)
    (hb : b ∈ beats id p e w) : e.time = some b.stamp := by
  cases e with
  | connect now os port ip peerId =>
    rw [beats] at hb
    split_ifs at hb
    · cases List.mem_singleton.mp hb
      rfl
    · cases hb
  | datagram now os m pad ip =>
    rw [beats] at hb
    split_ifs at hb
    · cases List.mem_singleton.mp hb
      rfl
    · cases hb
  | stray now os bytes ip =>
    rw [beats] at hb
    split_ifs at hb
    · cases List.mem_singleton.mp hb
      rfl
    · cases hb
  | update now os axpy =>
    cases List.mem_singleton.mp hb
    rfl
  | logLine stamp msg => cases hb
  | broadcast os => cases hb
  | dump stale => cases hb
  | sendChunk os => cases hb
  | raise => cases hb

theorem acceptConnections_upSince {now : Nat} {os : Int32 → Os} {bytes : List UInt8} {ip : String}
    (hrun : p.acceptConnections now os bytes ip = .ok (p', w)) (id : Int32) :
    p'.satellite.handler.upSince id =
      if senderOf p.buf bytes = some id then some now else p.satellite.handler.upSince id := by
  obtain ⟨⟨buf, message⟩, hreceive, hrun⟩ := bind_eq_ok.mp hrun
  rw [senderOf, hreceive]
  cases message with
  | none =>
    cases hrun
    exact (if_neg fun h => Option.some_ne_none id h.symm).symm
  | some m =>
    obtain ⟨p₁, typed, h, sent, line, htype, hmeet, rfl, rfl⟩ := onMessage_cases hrun
    obtain ⟨hhandler, -, -⟩ := onType_handler htype
    have hbefore : p₁.satellite.handler.upSince id = p.satellite.handler.upSince id := by rw [hhandler]
    rw [← hbefore]
    dsimp only
    rcases meet_cases hmeet with ⟨hnone, hadd⟩ | ⟨hsome, hbeat, -⟩
    · rw [ConnectionHandler.addConnection_upSince hadd]
      by_cases hid : m.senderId = id
      · subst hid
        rw [if_pos ⟨rfl, hnone⟩, if_pos rfl]
      · rw [if_neg fun h => hid h.1, if_neg fun h => hid (Option.some.inj h)]
    · obtain ⟨q, hl⟩ := Option.isSome_iff_exists.mp hsome
      rw [ConnectionHandler.heartbeatSat_upSince hbeat]
      by_cases hid : m.senderId = id
      · subst hid
        rw [if_pos rfl, if_pos rfl, hl]
        rfl
      · rw [if_neg hid, if_neg fun h => hid (Option.some.inj h)]

/-- **A step moves every connection as a detector**: only words of the peer and the passes matter. -/
theorem step_upSince {e : Event} (hrun : p.step e = .ok (p', w)) (id : Int32) :
    p'.satellite.handler.upSince id =
      (beats id p e w).foldl (detect Config.TIMEOUT_THRESHOLD) (p.satellite.handler.upSince id) := by
  cases step_moves hrun with
  | connect hadd =>
    rw [ConnectionHandler.addConnection_upSince hadd, beats]
    split_ifs <;> rfl
  | datagram haccept =>
    rw [acceptConnections_upSince haccept, beats]
    split_ifs <;> rfl
  | stray haccept =>
    rw [acceptConnections_upSince haccept, beats]
    split_ifs <;> rfl
  | update hupdate => exact ConnectionHandler.update_upSince hupdate id
  | logLine => rfl
  | broadcast hready hmessage hsent => rfl
  | dump hready hknown => rfl
  | sendChunk hsending hsent => rfl
  | raise hsending => rfl
  | idle hsender hraise =>
    have hquiet : beats id p e [] = [] := by
      cases e <;> first | rfl | exact hsender.elim
    rw [hquiet, List.foldl_nil]

theorem upSince_eq_detected {satId port : Int32} {buf : RecvBuffer} {x y z vx vy vz : Double} {es : List Event}
    (hrun : run step (init satId port buf x y z vx vy vz) es = .ok (p, w)) (id : Int32) :
    p.satellite.handler.upSince id =
      detected Config.TIMEOUT_THRESHOLD (observe step (beats id) (init satId port buf x y z vx vy vz) es) := by
  refine run_induction (P := fun es p _ => p.satellite.handler.upSince id =
    detected Config.TIMEOUT_THRESHOLD (observe step (beats id) (init satId port buf x y z vx vy vz) es)) ?_ ?_ hrun
  · rfl
  intro es p w e p' w' hes ih hstep
  rw [observe_snoc hes hstep, detected_append, ← ih]
  exact step_upSince hstep id

theorem upSince_isSome {h : ConnectionHandler} {id : Int32} : (h.upSince id).isSome = true ↔
    ∃ c, h.connections.lookup id = some c ∧ c.state = .connected := by
  rw [ConnectionHandler.upSince]
  cases h.connections.lookup id with
  | none => simp
  | some c => simp [PeerConnection.upSince]

theorem connected_iff {satId port : Int32} {buf : RecvBuffer} {x y z vx vy vz : Double} {es : List Event} {now : Nat}
    {os : Int32 → Os} {axpy : Double → Double → Double} {id : Int32}
    (hrun : run step (init satId port buf x y z vx vy vz) (es ++ [.update now os axpy]) = .ok (p, w))
    (hclock : Clocked Event.time (es ++ [.update now os axpy])) :
    (∃ c, p.satellite.handler.connections.lookup id = some c ∧ c.state = .connected) ↔
      ∃ s, Beat.word s ∈ observe step (beats id) (init satId port buf x y z vx vy vz) es ∧
        s ≤ now ∧ now - s ≤ Config.TIMEOUT_THRESHOLD := by
  obtain ⟨q, w₁, w₂, hes, hlast, -⟩ := run_snoc_ok.mp hrun
  have hbeats : observe step (beats id) (init satId port buf x y z vx vy vz) (es ++ [.update now os axpy]) =
      observe step (beats id) (init satId port buf x y z vx vy vz) es ++ [.pass now] := observe_snoc hes hlast
  have hordered := observe_clocked step (init satId port buf x y z vx vy vz) (beats_time id) hclock
  rw [hbeats] at hordered
  rw [← upSince_isSome, upSince_eq_detected hrun, hbeats]
  exact detector_exact hordered

end

end SatelliteProcess

/-- **Right after a pass the state of a connection is exact on both sides.** With a clock that does not run
backwards, ground control's connection to a satellite is connected if and only if a message of the satellite
was handled at most `TIMEOUT_THRESHOLD` seconds before, and a satellite's connection to a peer if and only if
the peer was heard or first added then. -/
theorem timeouts_exact (id : Int32) (now : Nat) (os : Int32 → Os) :
    (∀ gcPort buf es g w,
      run GroundControl.take (GroundControl.init gcPort buf) (es ++ [.update now os]) = .ok (g, w) →
      Clocked GroundControl.Input.time (es ++ [.update now os]) →
      ((∃ c, g.handler.satellites.lookup id = some c ∧ c.state = .connected) ↔
        ∃ s, Beat.word s ∈ observe GroundControl.take (GroundControl.beats id) (GroundControl.init gcPort buf) es ∧
          s ≤ now ∧ now - s ≤ Config.TIMEOUT_THRESHOLD)) ∧
    ∀ satId port buf x y z vx vy vz axpy es p w,
      run SatelliteProcess.step (SatelliteProcess.init satId port buf x y z vx vy vz) (es ++ [.update now os axpy]) =
        .ok (p, w) →
      Clocked SatelliteProcess.Event.time (es ++ [.update now os axpy]) →
      ((∃ c, p.satellite.handler.connections.lookup id = some c ∧ c.state = .connected) ↔
        ∃ s, Beat.word s ∈ observe SatelliteProcess.step (SatelliteProcess.beats id)
            (SatelliteProcess.init satId port buf x y z vx vy vz) es ∧
          s ≤ now ∧ now - s ≤ Config.TIMEOUT_THRESHOLD) :=
  ⟨fun _ _ _ _ _ hrun hclock => GroundControl.connected_iff hrun hclock,
    fun _ _ _ _ _ _ _ _ _ _ _ _ _ hrun hclock => SatelliteProcess.connected_iff hrun hclock⟩

/-- Ground control connects to satellite 1 and is answered five seconds later. -/
def answered : List GroundControl.Input :=
  [.config 0 (fun _ => Os.granting) 5001 "127.0.0.1" 1,
    .datagram 5 (fun _ => Os.granting) heartbeatDatagram "127.0.0.1"]

/-- Satellite 1 adds ground control. -/
def added : List SatelliteProcess.Event := [.connect 0 (fun _ => Os.granting) 8000 "127.0.0.1" 0]

set_option maxRecDepth 20000 in
theorem timeouts_exact_first :
    (∃ g w, run GroundControl.take (GroundControl.init 8000 (filled 0))
        (answered ++ [.update 25 fun _ => Os.granting]) = .ok (g, w) ∧
      ((∃ c, g.handler.satellites.lookup 1 = some c ∧ c.state = .connected) ↔
        ∃ s, Beat.word s ∈ observe GroundControl.take (GroundControl.beats 1) (GroundControl.init 8000 (filled 0))
          answered ∧ s ≤ 25 ∧ 25 - s ≤ Config.TIMEOUT_THRESHOLD)) ∧
    ∃ p w, run SatelliteProcess.step (SatelliteProcess.init 1 5001 (filled 0) 0 0 0 0 0 0)
        (added ++ [.update 25 (fun _ => Os.granting) fun _ x => x]) = .ok (p, w) ∧
      ((∃ c, p.satellite.handler.connections.lookup 0 = some c ∧ c.state = .connected) ↔
        ∃ s, Beat.word s ∈ observe SatelliteProcess.step (SatelliteProcess.beats 0)
          (SatelliteProcess.init 1 5001 (filled 0) 0 0 0 0 0 0) added ∧
          s ≤ 25 ∧ 25 - s ≤ Config.TIMEOUT_THRESHOLD) :=
  ⟨⟨_, _, rfl, (timeouts_exact 1 25 fun _ => Os.granting).1 _ _ answered _ _ rfl (by decide)⟩,
    ⟨_, _, rfl, (timeouts_exact 0 25 fun _ => Os.granting).2 _ _ _ _ _ _ _ _ _ (fun _ x => x) added _ _ rfl
      (by decide)⟩⟩

end Constellation
