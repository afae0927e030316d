import Constellation.Protocol.Admission
import Constellation.Satellite.CommandAck

/-!
# Which datagrams a satellite survives

What `decode` throws is caught, but what it lets through meets assertions: its own on the sender, and,
for a command, those of `acceptConnections` and `handleCommand`. Behind them nothing can fail in a state
the satellite can reach: the id that `decode` accepts is one that the connection handler accepts, and the
answers are sent over connections whose parameters were checked when they were made.

`acceptConnections_survives_iff` puts these demands together: they are conditions on the first sixteen
bytes of the receive buffer after the datagram was stored, and, for a datagram of less than sixteen
bytes, on what an earlier one left there.
-/

namespace Constellation.SatelliteProcess

/-- The demands of the assertions on a datagram: some byte, and, unless it is skipped, a sender; a command
has its proper size and comes from ground control, on another port than the satellite's own. -/
def Survives (p : SatelliteProcess) (datagram : List UInt8) : Prop :=
  0 < datagram.length ∧ ((arrived p.buf datagram).Skipped datagram.length ∨
    (arrived p.buf datagram).HasSender ∧
    ((arrived p.buf datagram).announced = some .command →
      (arrived p.buf datagram).size = MessageType.command.sizeof ∧ (arrived p.buf datagram).senderId = 0 ∧
      (arrived p.buf datagram).senderPort ≠ p.satellite.port))

section
variable {satId port : Int32} {p : SatelliteProcess} {now : Nat} {os : Int32 → Os} {m : Message} {ip : String}

theorem onSender_ok (hp : Configured satId port p) (hsat : 0 < satId) (hport : 0 ≤ port) (now : Nat)
    (os : Int32 → Os) (hid : 0 ≤ m.senderId) (hpeer : 0 ≤ m.senderPort) (hip : ip ≠ "") :
    ∃ r, p.onSender now os m ip = .ok r := by
  have hmeet : ∃ r, p.meet now os m ip = .ok r := by
    rw [meet, ConnectionHandler.hasConnection, assert_bind hid]
    change ∃ r, (if (p.satellite.handler.connections.lookup m.senderId).isSome = false then _ else _) = Except.ok r
    split_ifs
    · rw [hp.manager]
      obtain ⟨h, w, hadd, -⟩ :=
        ConnectionHandler.addConnection_sound now os hp.handler hport hpeer hip hid hsat
      exact ⟨_, hadd⟩
    · obtain ⟨h, hbeat, -⟩ := ConnectionHandler.heartbeatSat_sound now hp.handler hid
      rw [hbeat]
      exact ⟨_, rfl⟩
  obtain ⟨⟨h, w⟩, hmeet⟩ := hmeet
  rw [onSender, hmeet]
  exact ⟨_, rfl⟩

theorem onType_command_iff (hp : Configured satId port p) (hsat : 0 < satId) (hport : 0 ≤ port) (os : Int32 → Os)
    (htype : m.header.type = MessageType.command.tag) (hkind : m.kind = .command)
    (hsize : 0 < m.header.size) (hpeer : 0 ≤ m.senderPort) :
    (∃ r, p.onType os m = .ok r) ↔
      m.header.size = MessageType.command.sizeof ∧ m.senderId = 0 ∧ m.senderPort ≠ p.satellite.port := by
  have hnot : ¬ (m.header.type = MessageType.ack.tag ∧ p.satellite.waitingForAck = true) := by
    rw [htype]
    simp [MessageType.tag]
  rw [onType, if_neg hnot, if_pos htype]
  constructor
  · rintro ⟨r, hrun⟩
    obtain ⟨hsizeof, hrun⟩ := assert_bind_eq_ok.mp hrun
    split at hrun
    · obtain ⟨s, hs, -⟩ := bind_eq_ok.mp hrun
      unfold Satellite.handleCommand at hs
      simp only [assert_bind_eq_ok] at hs
      obtain ⟨-, hid, -, hne, -⟩ := hs
      exact ⟨hsizeof, hid, hne⟩
    · cases hrun
  · rintro ⟨hsizeof, hid, hne⟩
    obtain ⟨x, y, z, vx, vy, vz, hbody⟩ : ∃ x y z vx vy vz, m.body = .command x y z vx vy vz := by
      cases hb : m.body with
      | command x y z vx vy vz => exact ⟨x, y, z, vx, vy, vz, rfl⟩
      | heartbeat _ => rw [Message.kind, hb] at hkind; cases hkind
      | fileMsg _ _ _ => rw [Message.kind, hb] at hkind; cases hkind
      | ack _ => rw [Message.kind, hb] at hkind; cases hkind
    have happly : p.satellite.handleCommand m x y z vx vy vz = .ok { p.satellite with x, y, z, vx, vy, vz } := by
      rw [Satellite.handleCommand, assert_bind hsize, assert_bind hid, assert_bind hpeer, assert_pos hne]
      rfl
    have hsend : ConnectionHandler.Sendable (Message.build p.satId p.satellite.port (.ack true)) := by
      rw [hp.manager, hp.port_eq]
      exact .build (Int32.le_of_lt hsat) hport _
    obtain ⟨w, hw, -⟩ :=
      ConnectionHandler.sendMessageToPeer_passes_iff os hp.handler (by decide : (0 : Int32) ≤ 0) hsend
    rw [assert_bind hsizeof, hbody]
    dsimp only
    rw [happly, ok_bind, ack]
    dsimp only
    rw [hw]
    exact ⟨_, rfl⟩

theorem onType_other (os : Int32 → Os) (htype : m.header.type ≠ MessageType.command.tag) :
    ∃ r, p.onType os m = .ok r := by
  rw [onType]
  split_ifs
  · exact ⟨_, rfl⟩
  · exact ⟨_, rfl⟩

theorem onMessage_survives_iff (hp : Configured satId port p) (hsat : 0 < satId) (hport : 0 ≤ port) (now : Nat)
    (os : Int32 → Os) (hip : ip ≠ "") (e : Envelope) (body : Body) (hk : e.announced = some body.kind)
    (hsize : 0 < e.size) (hsender : e.HasSender) :
    (∃ r, p.onMessage now os (e.message body) ip = .ok r) ↔
      (e.announced = some .command →
        e.size = MessageType.command.sizeof ∧ e.senderId = 0 ∧ e.senderPort ≠ p.satellite.port) := by
  have htag : (e.message body).header.type = body.kind.tag := MessageType.tag_of_ofTag hk
  have hpeer : 0 ≤ (e.message body).senderPort := Int32.le_of_lt hsender.2
  have htypes : (∃ r, p.onMessage now os (e.message body) ip = .ok r) ↔
      ∃ r, p.onType os (e.message body) = .ok r := by
    constructor
    · rintro ⟨r, hrun⟩
      obtain ⟨r', htype, -⟩ := bind_eq_ok.mp hrun
      exact ⟨r', htype⟩
    · rintro ⟨⟨q, w⟩, htype⟩
      obtain ⟨hq, -⟩ := onType_configured hp htype
      obtain ⟨r, hr⟩ := onSender_ok (m := e.message body) hq hsat hport now os hsender.1 hpeer hip
      rw [onMessage, htype, ok_bind]
      dsimp only
      rw [hr]
      exact ⟨_, rfl⟩
  rw [htypes]
  by_cases hcommand : body.kind = .command
  · rw [hcommand] at hk htag
    rw [onType_command_iff hp hsat hport os htag hcommand hsize hpeer]
    exact ⟨fun h _ => h, fun h => h hk⟩
  · have hne : (e.message body).header.type ≠ MessageType.command.tag := by
      rw [htag]
      exact fun heq => hcommand (MessageType.tag_injective heq)
    refine iff_of_true (onType_other os hne) fun hann => ?_
    rw [hk] at hann
    exact absurd (Option.some.inj hann) hcommand

end

/-- **The listener skips or handles a datagram exactly when it meets these demands**, in every state the
satellite can be in, whatever the address and however the sockets fare. -/
theorem acceptConnections_survives_iff {satId port : Int32} {p : SatelliteProcess} (hp : Reachable satId port p)
    (now : Nat) (os : Int32 → Os) (datagram : List UInt8) (a b c d : UInt8) :
    (∃ r, p.acceptConnections now os datagram (inet_ntop a b c d) = .ok r) ↔ p.Survives datagram := by
  have hconf := hp.configured
  obtain ⟨hsat, hport, -⟩ := hp
  by_cases hpos : 0 < datagram.length
  swap
  · refine iff_of_false ?_ fun h => hpos h.1
    rw [acceptConnections, receive_empty (by omega)]
    rintro ⟨r, hr⟩
    cases hr
  rw [Survives, and_iff_right hpos]
  by_cases hskip : (arrived p.buf datagram).Skipped datagram.length
  · refine iff_of_true ?_ (.inl hskip)
    rw [acceptConnections, receive_skips hpos hskip]
    exact ⟨_, rfl⟩
  rw [or_iff_right hskip]
  by_cases hsender : (arrived p.buf datagram).HasSender
  swap
  · obtain ⟨condition, hfails⟩ := receive_refuses hskip hsender
    refine iff_of_false ?_ fun h => hsender h.1
    rw [acceptConnections, hfails]
    rintro ⟨r, hr⟩
    cases hr
  rw [and_iff_right hsender]
  obtain ⟨k, body, hk, hbody, hreceive⟩ := receive_message hskip hsender
  rw [← MessageType.readBody_kind hbody] at hk
  have hp' : Configured satId port { p with buf := recvfrom p.buf datagram } :=
    ⟨hconf.id, hconf.manager, hconf.port_eq, hconf.handler, hconf.sender⟩
  rw [acceptConnections, hreceive, ok_bind]
  exact onMessage_survives_iff hp' hsat hport now os (inet_ntop_ne_empty a b c d) _ body hk (arrived_size_pos hskip)
    hsender

theorem acceptConnections_survives_heartbeat :
    (∃ r, atRest.acceptConnections 0 (fun _ => Os.granting) heartbeatDatagram (inet_ntop 127 0 0 1) = .ok r) ↔
      atRest.Survives heartbeatDatagram :=
  acceptConnections_survives_iff ⟨by decide, by decide, _, _, _, _, _, _, _, [], _, rfl⟩ 0 _ heartbeatDatagram 127 0 0 1

/-- A command of satellite 1 instead of ground control's: the sixteen bytes in front of its body. -/
def foreignCommand : List UInt8 := [3, 0, 0, 0, 72, 0, 0, 0, 1, 0, 0, 0, 137, 19, 0, 0]

set_option maxRecDepth 20000 in
/-- A datagram without a byte, a heartbeat of a negative id and a command that is not ground control's
each abort a satellite at rest. -/
theorem foreign_datagrams_abort :
    atRest.acceptConnections 0 (fun _ => Os.granting) [] (inet_ntop 127 0 0 1) = .error (.asserts "size > 0") ∧
    atRest.acceptConnections 0 (fun _ => Os.granting) [0, 0, 0, 0, 32, 0, 0, 0, 255, 255, 255, 255]
      (inet_ntop 127 0 0 1) = .error (.asserts "id >= 0") ∧
    atRest.acceptConnections 0 (fun _ => Os.granting) foreignCommand (inet_ntop 127 0 0 1) =
      .error (.asserts "cmd.senderId == 0") :=
  ⟨rfl, rfl, rfl⟩

end Constellation.SatelliteProcess
