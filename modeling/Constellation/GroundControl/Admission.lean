import Constellation.GroundControl.Process
import Constellation.Protocol.Admission

/-!
# Which datagrams ground control survives

Only what `decode` throws is caught. Past it stand the assertions of five functions: `decode` and
`makeMsg` on the size and the sender, `Receiver::addConnection` and `ack` on the sender's id,
`GCConnectionHandler::addConnection` on the port of a sender it does not know yet, `ack` on the size field
of a file message; and `handleFileDump` inserts as many bytes as the message says. The answer needs a
socket: where all known satellites have one, only the socket that is opened for a new sender can be
missing.

`listen_survives_iff` collects these demands (`Survives`).
-/

namespace Constellation

namespace Connection

section
variable {c : Connection} {os : Os}

variable (os) in
theorem connect_total (hport : 0 < c.port) (hip : c.ip ≠ "") (hgc : 0 < c.gcPort) :
    ∃ c' w, c.connect os = .ok (c', w) ∧ c'.satSocket = os.socket := by
  rw [connect, assert_bind hport, assert_bind hip]
  dsimp only
  by_cases hsock : os.socket < 0
  · rw [if_pos hsock]
    exact ⟨_, _, rfl, rfl⟩
  rw [if_neg hsock]
  by_cases hpton : os.inet_pton = false
  · rw [if_pos hpton]
    exact ⟨_, _, rfl, rfl⟩
  rw [if_neg hpton]
  let dest : SockAddr := { sin_addr := c.ip, sin_port := c.port.toUInt32.toUInt16 }
  let c₁ : Connection := { c with satSocket := os.socket, peerAddr := dest }
  obtain ⟨w, hw⟩ := sendMessage_ok (c := c₁) os c₁.greeting (Int.not_lt.mp hsock) hgc (by decide : (0 : UInt32) < 32)
  change ∃ c' w, (do
    let sent ← c₁.sendMessage os c₁.greeting
    return (c₁, _ :: sent ++ _)) = Except.ok (c', w) ∧ _
  rw [hw]
  exact ⟨_, _, rfl, rfl⟩

theorem sendMessage_iff {message : Message} (hport : 0 < message.senderPort) (hsize : 0 < message.header.size) :
    (∃ w, c.sendMessage os message = .ok w) ↔ 0 ≤ c.satSocket := by
  constructor
  · rintro ⟨w, hrun⟩
    exact (assert_bind_eq_ok.mp hrun).1
  · intro hsock
    exact sendMessage_ok os message hsock hport hsize

end

end Connection

namespace GroundControl

/-- The demands on a valid message: a satellite's id; of a file message, its proper size and a length within
its array; of a sender that is not known yet, another port than ground control's own, and a socket for the
answer. Commands are not answered. -/
structure Acceptable (g : GroundControl) (os : Int32 → Os) (m : Message) : Prop where
  senderId : 0 < m.senderId
  file : ∀ data len last, m.body = .fileMsg data len last → m.header.size = MessageType.fileMsg.sizeof ∧
    0 ≤ len ∧ len.toInt ≤ Config.FILE_CHUNK_SIZE
  port : g.handler.satellites.lookup m.senderId = none → m.senderPort ≠ g.handler.gcPort
  socket : g.handler.satellites.lookup m.senderId = none → m.kind ≠ .command → 0 ≤ (os m.senderId).socket

/-- Every connection has an open socket, and both components use the port of ground control. -/
structure Serving (gcPort : Int32) (g : GroundControl) : Prop where
  handlerPort : g.handler.gcPort = gcPort
  receiverPort : g.receiver.gcPort = gcPort
  sockets : ∀ id c, g.handler.satellites.lookup id = some c → 0 ≤ c.satSocket

section
variable {gcPort : Int32} {g : GroundControl} {now : Nat} {os : Int32 → Os} {ip : String} {m : Message}

theorem addConnection_total (now : Nat) (os : Int32 → Os) (hg : Serving gcPort g) (hgc : 0 < gcPort) (hip : ip ≠ "")
    (hm : m.Valid) (hid : 0 < m.senderId)
    (hne : g.handler.satellites.lookup m.senderId = none → m.senderPort ≠ g.handler.gcPort) :
    ∃ handler w c, g.receiver.addConnection now os m g.handler ip = .ok (handler, w) ∧
      handler.satellites.lookup m.senderId = some c ∧
      (0 ≤ c.satSocket ↔ (g.handler.satellites.lookup m.senderId = none → 0 ≤ (os m.senderId).socket)) := by
  have hsize : 0 < m.header.size := UInt32.lt_of_lt_of_le (by decide : (0 : UInt32) < 8) hm.size_ge
  have hpos : 0 ≤ g.receiver.gcPort := by
    rw [hg.receiverPort]
    exact Int32.le_of_lt hgc
  have hknown : g.handler.hasConnection m.senderId = .ok (g.handler.satellites.lookup m.senderId).isSome := by
    rw [GCConnectionHandler.hasConnection, assert_pos hid]
    rfl
  rw [Receiver.addConnection, assert_bind hsize, assert_bind hid, assert_bind (Int32.le_of_lt hm.senderPort),
    assert_bind hpos, hknown, ok_bind]
  cases hl : g.handler.satellites.lookup m.senderId with
  | some c =>
    have hmodify := Table.lookup_modify_self g.handler.satellites m.senderId fun c => (c.heartbeat now).markConnected
    rw [hl] at hmodify
    have hopen : 0 ≤ c.satSocket := hg.sockets m.senderId c hl
    rw [if_neg (by simp), GCConnectionHandler.heartbeatSat, assert_pos hid, Parser.dataDecoder_status hid]
    exact ⟨_, _, _, rfl, hmodify, fun _ hnone => absurd hnone (Option.some_ne_none c), fun _ => hopen⟩
  | none =>
    have hhandler : 0 < g.handler.gcPort := by
      rw [hg.handlerPort]
      exact hgc
    obtain ⟨c, w, hc, hsock⟩ := Connection.connect_total (os m.senderId)
      (c := Connection.new now m.senderId m.senderPort ip g.handler.gcPort) hm.senderPort hip hhandler
    have hadd : g.handler.addConnection now os m.senderPort ip m.senderId = .ok ({ g.handler with
        satellites := Table.modify (g.handler.satellites.insert m.senderId
          (Connection.new now m.senderId m.senderPort ip g.handler.gcPort)) m.senderId fun _ => c }, w) := by
      rw [GCConnectionHandler.addConnection, assert_bind (Int32.le_of_lt hm.senderPort), assert_bind hid,
        assert_bind hip, assert_bind (Int32.le_of_lt hhandler), assert_bind (hne hl)]
      dsimp only
      rw [Table.emplace_of_not_mem (AList.lookup_eq_none.mp hl)]
      dsimp only
      rw [hc]
      rfl
    rw [if_pos Option.isSome_none, hadd, ok_bind]
    dsimp only
    rw [GCConnectionHandler.heartbeatSat, assert_pos hid]
    refine ⟨_, _, (c.heartbeat now).markConnected, rfl, ?_, ?_⟩
    · dsimp only
      rw [Table.lookup_modify_self, Table.lookup_insert_modify_self]
      rfl
    · show 0 ≤ c.satSocket ↔ _
      rw [hsock]
      exact ⟨fun h _ => h, fun h => h rfl⟩

variable (os) in
theorem sendMessageToSat_iff {handler : GCConnectionHandler} {id : Int32} {c : Connection} {message : Message}
    (hc : handler.satellites.lookup id = some c) (hport : 0 < message.senderPort) (hsize : 0 < message.header.size) :
    (∃ w, handler.sendMessageToSat os id message = .ok w) ↔ 0 ≤ c.satSocket := by
  rw [GCConnectionHandler.sendMessageToSat, assert_bind hsize, assert_bind (Int32.le_of_lt hport), hc]
  exact Connection.sendMessage_iff hport hsize

theorem addConnection_checked {r : GCConnectionHandler × List Effect}
    (hrun : g.receiver.addConnection now os m g.handler ip = .ok r) :
    0 < m.senderId ∧ (g.handler.satellites.lookup m.senderId = none → m.senderPort ≠ g.handler.gcPort) := by
  obtain ⟨h', w⟩ := r
  obtain ⟨hid, ⟨hunknown, h₁, v, hadd, -, -⟩ | ⟨hknown, -⟩⟩ := Receiver.addConnection_cases hrun
  · exact ⟨hid, fun _ => (GCConnectionHandler.addConnection_checked hadd).2.2.2⟩
  · refine ⟨hid, fun hunknown => ?_⟩
    rw [hunknown] at hknown
    cases hknown

theorem handle_checked {r : Receiver} {x : Bool × Receiver × List Effect} (hm : m.Valid)
    (hrun : r.handle m = .ok x) : ∀ data len last, m.body = .fileMsg data len last →
      m.header.size = MessageType.fileMsg.sizeof ∧ 0 ≤ len ∧ len.toInt ≤ Config.FILE_CHUNK_SIZE := by
  intro data len last hbody
  have htype : m.header.type = MessageType.fileMsg.tag := by
    rw [hm.type, Message.kind, hbody]
    rfl
  rw [Receiver.handle, if_pos htype, hbody] at hrun
  obtain ⟨hsize, hrun⟩ := assert_bind_eq_ok.mp hrun
  refine ⟨hsize, ?_⟩
  obtain ⟨r', hdump, -⟩ := bind_eq_ok.mp hrun
  unfold Receiver.handleFileDump at hdump
  simp only [assert_bind_eq_ok] at hdump
  obtain ⟨-, -, -, hdump⟩ := hdump
  obtain ⟨inserted, hinsert, -⟩ := bind_eq_ok.mp hdump
  unfold Receiver.insertRange at hinsert
  split_ifs at hinsert with hlen
  exact hlen

/-- **A valid message is handled exactly when it is acceptable.** -/
theorem onMessage_survives_iff (hg : Serving gcPort g) (hgc : 0 < gcPort) (hip : ip ≠ "") (hm : m.Valid) :
    (∃ r, g.onMessage now os m ip = .ok r) ↔ g.Acceptable os m := by
  have hsize : 0 < m.header.size := UInt32.lt_of_lt_of_le (by decide : (0 : UInt32) < 8) hm.size_ge
  have hpos : 0 ≤ g.receiver.gcPort := by
    rw [hg.receiverPort]
    exact Int32.le_of_lt hgc
  -- once the sender is accepted and the message handled, what is left is the answer
  have hanswer : 0 < m.senderId →
      (g.handler.satellites.lookup m.senderId = none → m.senderPort ≠ g.handler.gcPort) →
      (∀ data len last, m.body = .fileMsg data len last →
        m.header.size = MessageType.fileMsg.sizeof ∧ 0 ≤ len ∧ len.toInt ≤ Config.FILE_CHUNK_SIZE) →
      ((∃ r, g.onMessage now os m ip = .ok r) ↔
        (g.handler.satellites.lookup m.senderId = none → m.kind ≠ .command → 0 ≤ (os m.senderId).socket)) := by
    intro hid hne hfile
    obtain ⟨handler, w, c, hadd, hc, hsock⟩ := addConnection_total now os hg hgc hip hm hid hne
    have hdeliverable : Receiver.Deliverable m :=
      ⟨hm, fun data len last hbody => ⟨(hfile data len last hbody).1, hid, (hfile data len last hbody).2⟩⟩
    obtain ⟨r, w', hhandle, hrport, -, -⟩ := Receiver.handle_ok (r := g.receiver) hdeliverable
    have hackPort : 0 < r.ackMessage.senderPort := by
      show 0 < r.gcPort
      rw [hrport, hg.receiverPort]
      exact hgc
    rw [onMessage, hadd, ok_bind]
    dsimp only
    rw [Receiver.ack, assert_bind hsize, assert_bind hid, assert_bind (Int32.le_of_lt hm.senderPort),
      assert_bind hpos, hhandle, ok_bind]
    dsimp only
    by_cases hcommand : m.kind = .command
    · rw [if_neg (by simp [hcommand])]
      exact iff_of_true ⟨_, rfl⟩ fun _ hne => absurd hcommand hne
    · have hsent := sendMessageToSat_iff os hc hackPort (by decide : (0 : UInt32) < 32)
      rw [if_pos (by simp [hcommand])]
      constructor
      · rintro ⟨x, hrun⟩ hl -
        obtain ⟨x', hack, -⟩ := bind_eq_ok.mp hrun
        obtain ⟨sent, hsend, -⟩ := bind_eq_ok.mp hack
        exact hsock.mp (hsent.mp ⟨sent, hsend⟩) hl
      · intro hsocket
        obtain ⟨sent, hsend⟩ := hsent.mpr (hsock.mpr fun hl => hsocket hl hcommand)
        rw [hsend]
        exact ⟨_, rfl⟩
  constructor
  · rintro ⟨x, hrun⟩
    obtain ⟨⟨handler, w⟩, hadd, hrest⟩ := bind_eq_ok.mp hrun
    obtain ⟨hid, hne⟩ := addConnection_checked hadd
    obtain ⟨x', hack, -⟩ := bind_eq_ok.mp hrest
    obtain ⟨handled, r', v, hhandle, -⟩ := Receiver.ack_cases hack
    have hfile := handle_checked hm hhandle
    exact ⟨hid, hfile, hne, (hanswer hid hne hfile).mp ⟨x, hrun⟩⟩
  · intro h
    exact (hanswer h.senderId h.port h.file).mpr h.socket

end

/-- The number of bytes the file message in a buffer says it has. -/
def chunkLen (buf : List UInt8) : Int16 := (fetch Int16 buf 1040).getD 0

/-- The demands on a datagram: some byte, and, unless it is skipped, a satellite's id and a port; of a file
message, its proper size field and a length within its array; of a sender that is not known yet, another
port than ground control's own, and a socket for the answer. -/
def Survives (g : GroundControl) (os : Int32 → Os) (datagram : List UInt8) : Prop :=
  0 < datagram.length ∧ ((arrived g.buf datagram).Skipped datagram.length ∨
    0 < (arrived g.buf datagram).senderId ∧ 0 < (arrived g.buf datagram).senderPort ∧
    ((arrived g.buf datagram).announced = some .fileMsg →
      (arrived g.buf datagram).size = MessageType.fileMsg.sizeof ∧
      0 ≤ chunkLen (recvfrom g.buf datagram).val ∧
      (chunkLen (recvfrom g.buf datagram).val).toInt ≤ Config.FILE_CHUNK_SIZE) ∧
    (g.handler.satellites.lookup (arrived g.buf datagram).senderId = none →
      (arrived g.buf datagram).senderPort ≠ g.handler.gcPort ∧
      ((arrived g.buf datagram).announced ≠ some .command → 0 ≤ (os (arrived g.buf datagram).senderId).socket)))

theorem readBody_chunkLen {buf : List UInt8} {k : MessageType} {data : Chunk} {len : Int16} {last : Bool}
    (h : k.readBody buf = .ok (.fileMsg data len last)) : len = chunkLen buf := by
  have hk := MessageType.readBody_kind h
  cases hk
  simp only [Body.kind, MessageType.readBody, bind_eq_ok] at h
  obtain ⟨data', -, len', hlen, last', -, hret⟩ := h
  cases hret
  rw [chunkLen, memcpy_eq_ok.mp hlen]
  rfl

theorem acceptable_iff {g : GroundControl} {os : Int32 → Os} {e : Envelope} {buf : List UInt8} {k : MessageType}
    {body : Body} (hk : e.announced = some k) (hbody : k.readBody buf = .ok body) :
    g.Acceptable os (e.message body) ↔ 0 < e.senderId ∧
      (e.announced = some .fileMsg → e.size = MessageType.fileMsg.sizeof ∧ 0 ≤ chunkLen buf ∧
        (chunkLen buf).toInt ≤ Config.FILE_CHUNK_SIZE) ∧
      (g.handler.satellites.lookup e.senderId = none → e.senderPort ≠ g.handler.gcPort ∧
        (e.announced ≠ some .command → 0 ≤ (os e.senderId).socket)) := by
  have hkind := MessageType.readBody_kind hbody
  have hcommand : (e.message body).kind ≠ .command ↔ e.announced ≠ some .command := by
    rw [hk, ← hkind]
    exact not_congr ⟨congrArg some, Option.some.inj⟩
  constructor
  · rintro ⟨hid, hfile, hport, hsocket⟩
    refine ⟨hid, fun hann => ?_, fun hl => ⟨hport hl, fun hne => hsocket hl (hcommand.mpr hne)⟩⟩
    rw [hk, Option.some_inj, ← hkind] at hann
    cases hb : body with
    | fileMsg data len last =>
      rw [hb] at hbody
      rw [← readBody_chunkLen hbody]
      exact hfile data len last hb
    | heartbeat _ => rw [hb] at hann; cases hann
    | ack _ => rw [hb] at hann; cases hann
    | command _ _ _ _ _ _ => rw [hb] at hann; cases hann
  · rintro ⟨hid, hfile, hknown⟩
    refine ⟨hid, fun data len last hb => ?_, fun hl => (hknown hl).1, fun hl hne => (hknown hl).2 (hcommand.mp hne)⟩
    have hb' : body = .fileMsg data len last := hb
    rw [hb'] at hbody hkind
    rw [readBody_chunkLen hbody]
    exact hfile (by rw [hk, ← hkind]; rfl)

/-- **The listener skips or handles a datagram exactly when it meets these demands**, in every state in
which all connections have open sockets, whatever the address. -/
theorem listen_survives_iff {g : GroundControl} (hg : Serving Config.GC_PORT g) (now : Nat) (os : Int32 → Os)
    (datagram : List UInt8) (a b c d : UInt8) :
    (∃ r, g.listen now os datagram (inet_ntop a b c d) = .ok r) ↔ g.Survives os datagram := by
  by_cases hpos : 0 < datagram.length
  swap
  · refine iff_of_false ?_ fun h => hpos h.1
    rw [listen, receive_empty (by omega)]
    rintro ⟨r, hr⟩
    cases hr
  rw [Survives, and_iff_right hpos]
  by_cases hskip : (arrived g.buf datagram).Skipped datagram.length
  · refine iff_of_true ?_ (.inl hskip)
    rw [listen, receive_skips hpos hskip]
    exact ⟨_, rfl⟩
  rw [or_iff_right hskip]
  by_cases hsender : (arrived g.buf datagram).HasSender
  swap
  · obtain ⟨condition, hfails⟩ := receive_refuses hskip hsender
    refine iff_of_false ?_ fun h => hsender ⟨Int32.le_of_lt h.1, h.2.1⟩
    rw [listen, hfails]
    rintro ⟨r, hr⟩
    cases hr
  obtain ⟨k, body, hk, hbody, hreceive⟩ := receive_message hskip hsender
  have hg' : Serving Config.GC_PORT { g with buf := recvfrom g.buf datagram } :=
    ⟨hg.handlerPort, hg.receiverPort, hg.sockets⟩
  have hvalid := arrived_valid hskip hsender (MessageType.readBody_kind hbody ▸ hk)
  rw [listen, hreceive, ok_bind]
  dsimp only
  rw [onMessage_survives_iff hg' (by decide) (inet_ntop_ne_empty a b c d) hvalid, acceptable_iff hk hbody]
  exact and_congr_right fun _ => (and_iff_right hsender.2).symm

/-- Ground control before it knows a satellite. -/
def unacquainted : GroundControl := init Config.GC_PORT (filled 0)

theorem unacquainted_serving : Serving Config.GC_PORT unacquainted := ⟨rfl, rfl, nofun⟩

theorem listen_survives_heartbeat :
    (∃ r, unacquainted.listen 0 (fun _ => Os.granting) heartbeatDatagram (inet_ntop 127 0 0 1) = .ok r) ↔
      unacquainted.Survives (fun _ => Os.granting) heartbeatDatagram :=
  listen_survives_iff unacquainted_serving 0 _ heartbeatDatagram 127 0 0 1

/-- Sixteen bytes with these fields; what a message has behind them is read from the buffer. -/
def front (type size id portLow portHigh : UInt8) : List UInt8 :=
  [type, 0, 0, 0, size, 0, 0, 0, id, 0, 0, 0, portLow, portHigh, 0, 0]

set_option maxRecDepth 20000 in
/-- A datagram without a byte, a heartbeat of id zero, a file message with the size of a heartbeat, and a
heartbeat of an unknown satellite on port 8000 each abort ground control. -/
theorem hostile_datagrams_abort :
    Serving Config.GC_PORT unacquainted ∧
    unacquainted.listen 0 (fun _ => Os.granting) [] (inet_ntop 127 0 0 1) = .error (.asserts "size > 0") ∧
    unacquainted.listen 0 (fun _ => Os.granting) (front 0 32 0 137 19) (inet_ntop 127 0 0 1) =
      .error (.asserts "message.senderId > 0") ∧
    unacquainted.listen 0 (fun _ => Os.granting) (front 1 32 1 137 19) (inet_ntop 127 0 0 1) =
      .error (.asserts "message.header.size == sizeof(File_Msg)") ∧
    unacquainted.listen 0 (fun _ => Os.granting) (front 0 32 1 64 31) (inet_ntop 127 0 0 1) =
      .error (.asserts "port != gcPort") :=
  ⟨unacquainted_serving, rfl, rfl, rfl, rfl⟩

end GroundControl

end Constellation
