import Constellation.Satellite.Configured

/-!
# When a command is acknowledged

The listener applies a command before it looks at who sent it, and passes its acknowledgement to
`sendMessageToPeer` at once, which drops it unless ground control is known and connected. The same
datagram makes ground control connected, but only afterwards: the first command of an unknown ground
control, and any command that arrives while its connection is being probed or was given up, is applied
and not acknowledged.

Nothing here depends on how the sockets fare or on what else the satellite has received: the only
invariant is that every connection keeps the parameters it was made with (`Sound`).
-/

namespace Constellation

namespace ConnectionHandler

/-- Peer `id` is known and connected. -/
def Connected (h : ConnectionHandler) (id : Int32) : Prop :=
  ∃ p, h.connections.lookup id = some p ∧ p.state = .connected

section
variable {satId port : Int32} {h : ConnectionHandler}

/-- `sendMessageToPeer` returns, and passes the message on exactly when the peer is connected. -/
theorem sendMessageToPeer_passes_iff (os : Int32 → Os) (hs : h.Sound satId port) {peerId : Int32} (hid : 0 ≤ peerId)
    {message : Message} (hm : Sendable message) :
    ∃ w, h.sendMessageToPeer os peerId message = .ok w ∧
      ((∃ fd dest, Effect.sendto peerId fd dest message ∈ w) ↔ h.Connected peerId) := by
  obtain ⟨w, hrun⟩ := sendMessageToPeer_total os (hs.2 peerId) hid hm
  refine ⟨w, hrun, ?_⟩
  rcases sendMessageToPeer_cases hrun with ⟨hnone, line, rfl⟩ | ⟨p, hp, ⟨hup, hsent⟩ | ⟨hdown, rfl⟩⟩
  · refine ⟨by simp, ?_⟩
    rintro ⟨p, hp, -⟩
    rw [hnone] at hp
    cases hp
  · obtain ⟨line, rfl⟩ := PeerConnection.sendMessage_sent hsent
    rw [(hs.2 peerId p hp).id_eq]
    exact ⟨fun _ => ⟨p, hp, hup⟩, fun _ => ⟨p.peerSocket, p.peerAddr, List.mem_cons_self⟩⟩
  · refine ⟨by simp, ?_⟩
    rintro ⟨q, hq, hqup⟩
    rw [hp] at hq
    cases hq
    exact absurd hqup hdown

end

end ConnectionHandler

namespace SatelliteProcess

section
variable {satId port : Int32} {p p' : SatelliteProcess} {w : List Effect}

/-! ### The answer to a command -/

/-- The datagram is a command of ground control. -/
def Event.IsCommand : Event → Prop
  | .datagram _ _ m _ ip =>
    m.Valid ∧ m.kind = .command ∧ m.header.size = MessageType.command.sizeof ∧ m.senderId = 0 ∧ ip ≠ ""
  | _ => False

/-- The listener applies the command of the datagram. -/
def Applies (p : SatelliteProcess) : Event → Prop
  | .datagram _ _ m _ _ => ∃ x y z vx vy vz s, m.body = .command x y z vx vy vz ∧
      p.satellite.handleCommand m x y z vx vy vz = .ok s
  | _ => False

/-- An acknowledgement for ground control is among the messages that were passed on. -/
def Acknowledges (satId port : Int32) (w : List Effect) : Prop :=
  ∃ fd dest, Effect.sendto 0 fd dest (.build satId port (.ack true)) ∈ w

theorem onType_command {os : Int32 → Os} {m : Message} {x y z vx vy vz : Double} {s : Satellite}
    (hm : m.Valid) (hkind : m.kind = .command) (hsize : m.header.size = MessageType.command.sizeof)
    (hbody : m.body = .command x y z vx vy vz) (happlied : p.satellite.handleCommand m x y z vx vy vz = .ok s)
    (hack : ({ p with satellite := s } : SatelliteProcess).ack os = .ok w) :
    p.onType os m = .ok ({ p with satellite := s }, w) := by
  have htype : m.header.type = MessageType.command.tag := by rw [hm.type, hkind]
  have hnack : ¬ (m.header.type = MessageType.ack.tag ∧ p.satellite.waitingForAck = true) := by
    rw [htype]
    exact fun h => absurd h.1 (by decide)
  rw [onType, if_neg hnack, if_pos htype, assert_bind hsize, hbody]
  dsimp only
  rw [happlied, ok_bind, hack]
  rfl

theorem onSender_returns (now : Nat) (os : Int32 → Os) {m : Message} {ip : String} (hp : Configured satId port p)
    (hsat : 0 < satId) (hport : 0 ≤ port) (hm : m.Valid) (hip : ip ≠ "") :
    ∃ p' w, p.onSender now os m ip = .ok (p', w) ∧ Sends (fun _ m' => m' = PeerConnection.hello satId port) w := by
  have hmeet : ∃ h w, p.meet now os m ip = .ok (h, w) ∧ Sends (fun _ m' => m' = PeerConnection.hello satId port) w := by
    rw [meet, ConnectionHandler.hasConnection, assert_bind hm.senderId]
    change ∃ h w, (if (p.satellite.handler.connections.lookup m.senderId).isSome = false then _ else _) =
      Except.ok (h, w) ∧ _
    by_cases hknown : (p.satellite.handler.connections.lookup m.senderId).isSome = false
    · obtain ⟨h, w, hadd, -, hsends⟩ := ConnectionHandler.addConnection_sound now os hp.handler hport
        (Int32.le_of_lt hm.senderPort) hip hm.senderId hsat
      rw [if_pos hknown, hp.manager, hadd]
      exact ⟨h, w, rfl, hsends⟩
    · obtain ⟨h, hbeat, -⟩ := ConnectionHandler.heartbeatSat_sound now hp.handler hm.senderId
      rw [if_neg hknown, hbeat]
      exact ⟨h, [], rfl, .nil⟩
  obtain ⟨h, w, hrun, hsends⟩ := hmeet
  rw [onSender, hrun]
  exact ⟨_, _, rfl, hsends.append .log⟩

/-- **A command that is applied is acknowledged exactly when ground control is connected.** -/
theorem step_acknowledges_iff {e : Event} (hp : Configured satId port p) (hsat : 0 < satId) (hport : 0 ≤ port)
    (he : e.IsCommand) (happlies : p.Applies e) :
    ∃ p' w, p.step e = .ok (p', w) ∧ (Acknowledges satId port w ↔ p.satellite.handler.Connected 0) := by
  cases e with
  | datagram now os m pad ip =>
    obtain ⟨hm, hkind, hsize, -, hip⟩ := he
    obtain ⟨x, y, z, vx, vy, vz, s, hbody, happlied⟩ := happlies
    let p₀ : SatelliteProcess := { p with buf := recvfrom p.buf (m.serialize pad) }
    let p₁ : SatelliteProcess := { p₀ with satellite := s }
    have hp₀ : Configured satId port p₀ := ⟨hp.id, hp.manager, hp.port_eq, hp.handler, hp.sender⟩
    have hs := handleCommand_eq happlied
    have hp₁ : Configured satId port p₁ := by
      refine ⟨?_, hp.manager, ?_, ?_, hp.sender⟩
      · show s.id = _
        rw [hs]
        exact hp.id
      · show s.port = _
        rw [hs]
        exact hp.port_eq
      · show s.handler.Sound _ _
        rw [hs]
        exact hp.handler
    have hsendable : ConnectionHandler.Sendable (.build satId port (.ack true)) :=
      .build (Int32.le_of_lt hsat) hport _
    obtain ⟨w₁, hack, hpasses⟩ := ConnectionHandler.sendMessageToPeer_passes_iff os hp₁.handler
      (by decide : (0 : Int32) ≤ 0) hsendable
    have hacked : p₁.ack os = .ok w₁ := by
      rw [ack, hp₁.manager, hp₁.port_eq]
      exact hack
    have htype : p₀.onType os m = .ok (p₁, w₁) := onType_command hm hkind hsize hbody happlied hacked
    obtain ⟨p₂, w₂, hsender, hsends⟩ := onSender_returns now os hp₁ hsat hport hm hip
    refine ⟨p₂, w₁ ++ w₂, ?_, ?_⟩
    · rw [step, acceptConnections, receive_serialize hm, ok_bind]
      change p₀.onMessage now os m ip = _
      rw [onMessage, htype, ok_bind]
      dsimp only
      rw [hsender]
      rfl
    · have hhandler : p₁.satellite.handler = p.satellite.handler := by
        show s.handler = _
        rw [hs]
      rw [← hhandler, ← hpasses]
      constructor
      · rintro ⟨fd, dest, hmem⟩
        rcases List.mem_append.mp hmem with hmem | hmem
        · exact ⟨fd, dest, hmem⟩
        · -- The heartbeat that opens a connection is no acknowledgement.
          have hhello := hsends _ _ _ _ hmem
          injection hhello with _ _ _ hheartbeat
          cases hheartbeat
      · rintro ⟨fd, dest, hmem⟩
        exact ⟨fd, dest, List.mem_append_left _ hmem⟩
  | connect => exact he.elim
  | stray => exact he.elim
  | update => exact he.elim
  | logLine => exact he.elim
  | broadcast => exact he.elim
  | dump => exact he.elim
  | sendChunk => exact he.elim
  | raise => exact he.elim

end

/-! ### Whole runs -/

section
variable (satId port : Int32) (start : SatelliteProcess) (es : List Event)

/-- Every command applied in the run is acknowledged by the step that applies it. -/
def AllAcknowledged : Prop :=
  Along (fun pre e => e.IsCommand → ∀ p w, run step start pre = .ok (p, w) → p.Applies e →
    ∃ p' w', p.step e = .ok (p', w') ∧ Acknowledges satId port w') es

/-- Every command applied in the run finds ground control connected when it arrives. -/
def CommandsFindConnected : Prop :=
  Along (fun pre e => e.IsCommand → ∀ p w, run step start pre = .ok (p, w) → p.Applies e →
    p.satellite.handler.Connected 0) es

end

section
variable {satId port : Int32} {es : List Event}

/-- In a history of well-formed events ground control is connected when its link is up: it was met or
heard, and no round of `update` since then came more than twenty seconds after the last word. -/
theorem connected_iff_isUp (hsat : 0 < satId) (hport : 0 ≤ port) (buf : RecvBuffer) (x y z vx vy vz : Double)
    (hlegit : ∀ e ∈ es, e.Legit port) :
    ∃ p w, run step (init satId port buf x y z vx vy vz) es = .ok (p, w) ∧
      (p.satellite.handler.Connected 0 ↔ IsUp Config.keepalive (signal 0) es) := by
  obtain ⟨p, w, hrun, hp⟩ := run_refines hsat hport buf x y z vx vy vz hlegit
  refine ⟨p, w, hrun, ?_, ?_⟩
  · rintro ⟨c, hc, hup⟩
    obtain ⟨l, hl, -, htracks⟩ := hp.handler.refines.entry hc
    exact ⟨l, hl, htracks.isUp.mpr hup⟩
  · rintro ⟨l, hl, hup⟩
    obtain ⟨c, hc, -, htracks⟩ := hp.handler.refines.known hl
    exact ⟨c, hc, htracks.isUp.mp hup⟩

end

/-- **Every applied command of a run is acknowledged if and only if each finds ground control
connected**, in every run of a satellite, whatever it receives and whatever the sockets do. -/
theorem allAcknowledged_iff_connected (satId port : Int32) (hsat : 0 < satId) (hport : 0 ≤ port)
    (buf : RecvBuffer) (x y z vx vy vz : Double) (es : List Event) :
    AllAcknowledged satId port (init satId port buf x y z vx vy vz) es ↔
      CommandsFindConnected (init satId port buf x y z vx vy vz) es := by
  have hanswer : ∀ pre e p w, e.IsCommand → run step (init satId port buf x y z vx vy vz) pre = .ok (p, w) →
      p.Applies e → ∃ p' w', p.step e = .ok (p', w') ∧
        (Acknowledges satId port w' ↔ p.satellite.handler.Connected 0) := by
    intro pre e p w he hrun happlies
    exact step_acknowledges_iff (run_configured hport (init_configured ..) hrun) hsat hport he happlies
  constructor
  · intro hall pre e post hes he p w hrun happlies
    obtain ⟨p', w', hstep, hiff⟩ := hanswer pre e p w he hrun happlies
    obtain ⟨p'', w'', hstep', hacked⟩ := hall pre e post hes he p w hrun happlies
    rw [hstep] at hstep'
    cases hstep'
    exact hiff.mp hacked
  · intro hall pre e post hes he p w hrun happlies
    obtain ⟨p', w', hstep, hiff⟩ := hanswer pre e p w he hrun happlies
    exact ⟨p', w', hstep, hiff.mpr (hall pre e post hes he p w hrun happlies)⟩

/-! ### A command that arrives first -/

/-- A command of ground control. -/
def orderAt (now : Nat) : Event :=
  .datagram now (fun _ => Os.granting) (.build 0 Config.GC_PORT (.command 1 2 3 4 5 6))
    ⟨[0, 0, 0], Message.length_zeroPad⟩ "127.0.0.1"

theorem orderAt_isCommand (now : Nat) : (orderAt now).IsCommand :=
  ⟨⟨rfl, by decide, by decide, by decide, by decide⟩, rfl, rfl, rfl, by decide⟩

/-- Satellite 1 at rest, on port 5001. -/
def atRest : SatelliteProcess := init 1 5001 (filled 0) 0 0 0 0 0 0

/-- Met at second 0, ground control is given up at second 21. -/
def givenUp : List Event :=
  [.connect 0 (fun _ => Os.granting) Config.GC_PORT "127.0.0.1" 0,
    .update 21 (fun _ => Os.granting) fun _ x => x]

theorem givenUp_disconnects : ∃ p w c, run step atRest givenUp = .ok (p, w) ∧
    p.satellite.handler.connections.lookup 0 = some c ∧ c.state = .disconnected ∧ p.Applies (orderAt 22) :=
  ⟨_, _, _, rfl, rfl, rfl, 1, 2, 3, 4, 5, 6, _, rfl, rfl⟩

/-- A command of a ground control that is unknown, and one of a ground control that was given up, are
applied and not acknowledged. -/
theorem firstOrder_unacknowledged :
    ¬ AllAcknowledged 1 5001 atRest [orderAt 1] ∧ ¬ AllAcknowledged 1 5001 atRest (givenUp ++ [orderAt 22]) := by
  have hunanswered : ∀ pre e p w, e.IsCommand → run step atRest pre = .ok (p, w) → p.Applies e →
      ¬ p.satellite.handler.Connected 0 → ¬ AllAcknowledged 1 5001 atRest (pre ++ [e]) := by
    intro pre e p w he hrun happlies hdown hall
    have hp : Configured 1 5001 p := run_configured (by decide) (init_configured ..) hrun
    obtain ⟨p', w', hstep, hiff⟩ := step_acknowledges_iff hp (by decide) (by decide) he happlies
    obtain ⟨p'', w'', hstep', hacked⟩ := hall pre e [] rfl he p w hrun happlies
    rw [hstep] at hstep'
    cases hstep'
    exact hdown (hiff.mp hacked)
  constructor
  · refine hunanswered [] (orderAt 1) _ _ (orderAt_isCommand 1) rfl ⟨1, 2, 3, 4, 5, 6, _, rfl, rfl⟩ ?_
    rintro ⟨c, hc, -⟩
    cases hc
  · obtain ⟨p, w, c, hrun, hc, hstate, happlies⟩ := givenUp_disconnects
    refine hunanswered givenUp (orderAt 22) p w (orderAt_isCommand 22) hrun happlies ?_
    rintro ⟨c', hc', hup⟩
    rw [hc] at hc'
    cases hc'
    rw [hstate] at hup
    cases hup

theorem allAcknowledged_iff_connected_met :
    AllAcknowledged 1 5001 atRest
      [.connect 0 (fun _ => Os.granting) Config.GC_PORT "127.0.0.1" 0, orderAt 1] := by
  refine (allAcknowledged_iff_connected 1 5001 (by decide) (by decide) _ _ _ _ _ _ _ _).mpr ?_
  refine (@along_snoc _ _ [_] _).mpr ⟨(@along_snoc _ _ [] _).mpr ⟨along_nil _, fun he => he.elim⟩, ?_⟩
  intro _ p w hrun _
  cases hrun
  exact ⟨_, rfl, rfl⟩

end SatelliteProcess

end Constellation
