import Constellation.GroundControl.Answers
import Constellation.Network.Roster

/-!
# Ground control's address book

Ground control learns where a satellite listens from the configuration file or from the first message of
the satellite, whichever comes first, and never looks again. If what it learns is true, every entry of its
map is, through every timeout and reconnect, and every datagram is addressed to the satellite it is meant
for. What it sends is a greeting, an answer or a command of the operator (`step_addressed`).
-/

namespace Constellation

namespace Connection

/-- The connection of a satellite that listens at `home`. -/
structure At (gcPort : Int32) (home : Home) (id : Int32) (c : Connection) : Prop where
  settled : c.Settled gcPort id
  ip : c.ip = home.ip
  port : c.port = home.port
  addr : 0 ≤ c.satSocket → c.peerAddr = home.addr

/-- A datagram for this satellite, with this message. -/
def Bound (home : Home) (id : Int32) (message : Message) (peer : Int32) (dest : SockAddr) (m : Message) : Prop :=
  peer = id ∧ dest = home.addr ∧ m = message

section
variable {gcPort id : Int32} {home : Home} {c c' : Connection} {os : Os} {w : List Effect}

theorem sendMessage_addressed {message : Message} (hc : c.At gcPort home id)
    (hrun : c.sendMessage os message = .ok w) : Mails (Bound home id message) w := by
  obtain ⟨hsock, line, rfl⟩ := sendMessage_sent hrun
  exact .one fun _ => ⟨hc.settled.id_eq, hc.addr hsock, rfl⟩

theorem connect_granted (hrun : c.connect os = .ok (c', w)) (hpton : os.inet_pton = true) :
    (os.socket < 0 ∧ c' = { c with satSocket := os.socket } ∧ ∃ line, w = [.log line]) ∨
      (0 ≤ os.socket ∧ ∃ line attempt,
        c' = { c with satSocket := os.socket, peerAddr := ⟨c.ip, c.port.toUInt32.toUInt16⟩ } ∧
        w = [.opened os.socket, .sendto c.id os.socket ⟨c.ip, c.port.toUInt32.toUInt16⟩ c.greeting, .log line,
          .log attempt]) := by
  unfold connect at hrun
  simp only [assert_bind_eq_ok] at hrun
  obtain ⟨-, -, hrun⟩ := hrun
  by_cases hsock : os.socket < 0
  · rw [if_pos hsock] at hrun
    cases hrun
    exact .inl ⟨hsock, rfl, _, rfl⟩
  · rw [if_neg hsock, if_neg (by simp [hpton])] at hrun
    obtain ⟨sent, hsent, hret⟩ := bind_eq_ok.mp hrun
    obtain ⟨-, line, rfl⟩ := sendMessage_sent hsent
    cases hret
    exact .inr ⟨Int.not_lt.mp hsock, line, _, rfl, rfl⟩

theorem connect_at (hs : c.Settled gcPort id) (hip : c.ip = home.ip) (hport : c.port = home.port)
    (hpton : os.inet_pton = true) (hrun : c.connect os = .ok (c', w)) :
    c'.At gcPort home id ∧ Mails (Bound home id (.build 0 gcPort (.heartbeat true))) w := by
  have haddr : (⟨c.ip, c.port.toUInt32.toUInt16⟩ : SockAddr) = home.addr := by
    rw [Home.addr, hip, hport]
  rcases connect_granted hrun hpton with ⟨hsock, rfl, line, rfl⟩ | ⟨hsock, line, attempt, rfl, rfl⟩
  · exact ⟨⟨⟨hs.id_eq, hs.gcPort_eq⟩, hip, hport, fun hopen => absurd hsock (Int.not_lt.mpr hopen)⟩, .log⟩
  · refine ⟨⟨⟨hs.id_eq, hs.gcPort_eq⟩, hip, hport, fun _ => haddr⟩, .opening fun _ => ⟨hs.id_eq, haddr, ?_⟩⟩
    rw [greeting, hs.gcPort_eq]

theorem disconnect_at (now : Nat) (os : Os) (hc : c.At gcPort home id) {P : Int32 → SockAddr → Message → Prop} :
    (c.disconnect now os).1.At gcPort home id ∧ Mails P (c.disconnect now os).2 := by
  have hclosed : 0 ≤ (-1 : Int) → (c.disconnect now os).1.peerAddr = home.addr := fun hopen => absurd hopen (by decide)
  refine ⟨⟨⟨hc.settled.id_eq, hc.settled.gcPort_eq⟩, hc.ip, hc.port, hclosed⟩, Mails.of_none fun peer fd d m hm => ?_⟩
  unfold disconnect at hm
  split_ifs at hm <;> simp at hm

theorem reconnect_at {now : Nat} {b : Bool} (hc : c.At gcPort home id) (hpton : os.inet_pton = true)
    (hrun : c.reconnect now os = .ok (b, c', w)) :
    c'.At gcPort home id ∧ Mails (Bound home id (.build 0 gcPort (.heartbeat true))) w := by
  rcases reconnect_cases hrun with
    ⟨-, -, rfl, rfl⟩ | ⟨-, -, -, rfl, rfl⟩ | ⟨-, -, -, line, opening, hconnect, rfl⟩
  · exact ⟨hc, .nil⟩
  · exact ⟨⟨⟨hc.settled.id_eq, hc.settled.gcPort_eq⟩, hc.ip, hc.port, hc.addr⟩, .nil⟩
  · let c₁ : Connection := { c with retryCounter := c.retryCounter + 1, lastReconnect := now }
    have hc₁ : c₁.At gcPort home id := ⟨⟨hc.settled.id_eq, hc.settled.gcPort_eq⟩, hc.ip, hc.port, hc.addr⟩
    obtain ⟨hclosed, hclosing⟩ := disconnect_at now os hc₁
    obtain ⟨hc', hopening⟩ := connect_at hclosed.settled hclosed.ip hclosed.port hpton hconnect
    exact ⟨hc', Mails.append (w := _ :: _) (Mails.append (w := [_]) .log hclosing) hopening⟩

end

end Connection

namespace GCConnectionHandler

/-- Every satellite in the map is one of the roster, and is where the roster says. -/
def Book (r : Roster) (h : GCConnectionHandler) : Prop :=
  h.gcPort = Config.GC_PORT ∧
    ∀ id c, h.satellites.lookup id = some c → id ∈ r.ids ∧ c.At Config.GC_PORT (r.home id) id

section
variable {r : Roster} {h h' : GCConnectionHandler} {os : Int32 → Os} {now : Nat} {satId : Int32} {w : List Effect}

/-- A datagram for a satellite of the roster, with this message. -/
def Addressed (r : Roster) (P : Int32 → Message → Prop) (peer : Int32) (dest : SockAddr) (m : Message) : Prop :=
  peer ∈ r.ids ∧ dest = (r.home peer).addr ∧ P peer m

/-- What ground control says when it opens a connection. -/
def IsGreeting (_ : Int32) (m : Message) : Prop := m = .build 0 Config.GC_PORT (.heartbeat true)

theorem addressed_of_bound {id : Int32} {message : Message} {P : Int32 → Message → Prop} (hid : id ∈ r.ids)
    (hP : P id message) (h : Mails (Connection.Bound (r.home id) id message) w) : Mails (Addressed r P) w := by
  refine h.mono fun peer dest m hb => ?_
  obtain ⟨rfl, rfl, rfl⟩ := hb
  exact ⟨hid, rfl, hP⟩

theorem Book.modify (hb : h.Book r) {f : Connection → Connection}
    (hf : ∀ c : Connection, c.At Config.GC_PORT (r.home satId) satId → (f c).At Config.GC_PORT (r.home satId) satId) :
    ({ h with satellites := h.satellites.modify satId f } : GCConnectionHandler).Book r := by
  refine ⟨hb.1, fun id c hc => ?_⟩
  dsimp only at hc
  by_cases hne : id = satId
  · subst hne
    rw [Table.lookup_modify_self] at hc
    obtain ⟨c', hc', rfl⟩ := Option.map_eq_some_iff.mp hc
    exact ⟨(hb.2 id c' hc').1, hf c' (hb.2 id c' hc').2⟩
  · rw [Table.lookup_modify_of_ne _ _ hne] at hc
    exact hb.2 id c hc

theorem addConnection_book (hb : h.Book r) (hid : satId ∈ r.ids) (hpton : (os satId).inet_pton = true)
    (hrun : h.addConnection now os (r.home satId).port (r.home satId).ip satId = .ok (h', w)) :
    h'.Book r ∧ Mails (Addressed r IsGreeting) w := by
  obtain ⟨-, rfl, rfl⟩ | ⟨-, c, hconnect, rfl⟩ := addConnection_cases hrun
  · exact ⟨hb, .nil⟩
  · have hnew : (Connection.new now satId (r.home satId).port (r.home satId).ip h.gcPort).Settled Config.GC_PORT satId :=
      ⟨rfl, hb.1⟩
    obtain ⟨hc, hmails⟩ := Connection.connect_at hnew (show _ = (r.home satId).ip from rfl) rfl hpton hconnect
    refine ⟨⟨hb.1, fun id c' hc' => ?_⟩, addressed_of_bound hid rfl hmails⟩
    dsimp only at hc'
    by_cases hne : id = satId
    · subst hne
      rw [Table.lookup_insert_modify_self] at hc'
      cases hc'
      exact ⟨hid, hc⟩
    · rw [Table.lookup_insert_modify_of_ne _ _ _ hne] at hc'
      exact hb.2 id c' hc'

theorem heartbeatSat_book (hb : h.Book r) (hrun : h.heartbeatSat now satId = .ok h') : h'.Book r := by
  obtain ⟨-, hrun⟩ := assert_bind_eq_ok.mp hrun
  cases hrun
  exact hb.modify fun _ hc => ⟨⟨hc.settled.id_eq, hc.settled.gcPort_eq⟩, hc.ip, hc.port, hc.addr⟩

theorem updateSat_at {id : Int32} {home : Home} {c c' : Connection} (hc : c.At Config.GC_PORT home id)
    (hpton : (os id).inet_pton = true) (hrun : updateSat now os id c = .ok (c', w)) :
    c'.At Config.GC_PORT home id ∧ Mails (Connection.Bound home id (.build 0 Config.GC_PORT (.heartbeat true))) w := by
  rcases updateSat_cases hrun with ⟨-, rfl, line, rfl⟩ | ⟨-, trying, effects, hreconnect, hreport⟩ | ⟨-, -, rfl, rfl⟩
  · obtain ⟨hclosed, hclosing⟩ := Connection.disconnect_at now (os id) hc
    exact ⟨hclosed, Mails.append (w := [_]) .log hclosing⟩
  · obtain ⟨hc', hmails⟩ := Connection.reconnect_at hc hpton hreconnect
    rcases hreport with ⟨-, rfl⟩ | ⟨-, out, -, rfl⟩
    · exact ⟨hc', hmails⟩
    · refine ⟨hc', hmails.append (Mails.of_none ?_)⟩
      simp
  · exact ⟨hc, .nil⟩

theorem update_book (hb : h.Book r) (hpton : ∀ id, (os id).inet_pton = true) (hrun : h.update now os = .ok (h', w)) :
    h'.Book r ∧ Mails (Addressed r IsGreeting) w := by
  obtain ⟨⟨t, v⟩, hsweep, hret⟩ := bind_eq_ok.mp hrun
  cases hret
  obtain ⟨hentries, hmails⟩ := Table.sweep_keeps
    (P := fun id c => id ∈ r.ids ∧ c.At Config.GC_PORT (r.home id) id) Mails.nil Mails.append hb.2
    (fun id _ _ _ hc hc' => by
      obtain ⟨hkept, hmails⟩ := updateSat_at hc.2 (hpton id) hc'
      exact ⟨⟨hc.1, hkept⟩, addressed_of_bound (P := IsGreeting) hc.1 rfl hmails⟩) hsweep
  exact ⟨⟨hb.1, hentries⟩, hmails⟩

theorem sendMessageToSat_addressed {message : Message} {P : Int32 → Message → Prop} (hb : h.Book r)
    (hP : P satId message) (hrun : h.sendMessageToSat os satId message = .ok w) : Mails (Addressed r P) w := by
  rcases sendMessageToSat_cases hrun with ⟨-, line, rfl⟩ | ⟨c, hc, hsent⟩
  · exact .log
  · obtain ⟨hid, hat⟩ := hb.2 satId c hc
    exact addressed_of_bound hid hP (Connection.sendMessage_addressed hat hsent)

end

end GCConnectionHandler

namespace GroundControl

/-- What a step says, and to whom: a greeting to anyone, the answer to the sender of a datagram, the
command of the operator to the satellite it is for. -/
inductive Utters : Event → Int32 → Message → Prop
  | greeting (e : Event) (peer : Int32) : Utters e peer (.build 0 Config.GC_PORT (.heartbeat true))
  | answer (now : Nat) (os : Int32 → Os) (m : Message) (pad : Block 3) (ip : String) :
      Utters (.datagram now os m pad ip) m.senderId (.build 0 Config.GC_PORT (.ack true))
  | command (os : Int32 → Os) (com : CommandInput) : Utters (.command os com) com.id.toInt32
      (.build 0 Config.GC_PORT (.command com.new_x com.new_y com.new_z com.new_vx com.new_vy com.new_vz))

/-- What the event tells ground control of a satellite is true, and its address can be converted. -/
def Event.Truthful (r : Roster) : Event → Prop
  | .config _ os port ip id => id ∈ r.ids ∧ ip = (r.home id).ip ∧ port = (r.home id).port ∧ ∀ i, (os i).inet_pton = true
  | .datagram _ os m _ ip => Receiver.Deliverable m ∧ m.senderId ∈ r.ids ∧ ip = (r.home m.senderId).ip ∧
      m.senderPort = (r.home m.senderId).port ∧ ∀ i, (os i).inet_pton = true
  | .update _ os => ∀ i, (os i).inet_pton = true
  | .command _ _ => True

section
variable {r : Roster} {g g' : GroundControl} {w : List Effect}

structure Book (r : Roster) (g : GroundControl) : Prop where
  handler : g.handler.Book r
  receiver : g.receiver.gcPort = Config.GC_PORT

theorem init_book (r : Roster) (buf : RecvBuffer) : Book r (init Config.GC_PORT buf) :=
  ⟨⟨rfl, nofun⟩, rfl⟩

theorem utters_greeting {e : Event} (h : Mails (GCConnectionHandler.Addressed r GCConnectionHandler.IsGreeting) w) :
    Mails (GCConnectionHandler.Addressed r (Utters e)) w := by
  refine h.mono fun peer dest m hm => ?_
  obtain ⟨hid, hdest, rfl⟩ := hm
  exact ⟨hid, hdest, .greeting e peer⟩

theorem addConnection_book {now : Nat} {os : Int32 → Os} {m : Message} {h' : GCConnectionHandler}
    (hg : Book r g) (hid : m.senderId ∈ r.ids) (hport : m.senderPort = (r.home m.senderId).port)
    (hpton : ∀ i, (os i).inet_pton = true)
    (hrun : g.receiver.addConnection now os m g.handler (r.home m.senderId).ip = .ok (h', w)) :
    h'.Book r ∧ Mails (GCConnectionHandler.Addressed r GCConnectionHandler.IsGreeting) w := by
  obtain ⟨-, ⟨-, h₁, v, hadd, hbeat, rfl⟩ | ⟨hknown, out, hbeat, -, rfl⟩⟩ := Receiver.addConnection_cases hrun
  · rw [hport] at hadd
    obtain ⟨hb₁, hmails⟩ := GCConnectionHandler.addConnection_book hg.handler hid (hpton _) hadd
    exact ⟨GCConnectionHandler.heartbeatSat_book hb₁ hbeat, hmails.append .log⟩
  · refine ⟨GCConnectionHandler.heartbeatSat_book hg.handler hbeat, Mails.of_none ?_⟩
    simp

theorem ack_addressed {os : Int32 → Os} {m : Message} {h : GCConnectionHandler} {rc : Receiver} {P : Int32 → Message → Prop}
    (hb : h.Book r) (hport : g.receiver.gcPort = Config.GC_PORT) (hm : Receiver.Deliverable m)
    (hP : P m.senderId (.build 0 Config.GC_PORT (.ack true)))
    (hrun : g.receiver.ack os m h = .ok (rc, w)) :
    rc.gcPort = Config.GC_PORT ∧ Mails (GCConnectionHandler.Addressed r P) w := by
  obtain ⟨handled, rc', v, hhandle, hcases⟩ := Receiver.ack_cases hrun
  obtain ⟨rc'', v', hhandle', hsame, hquiet, -⟩ := Receiver.handle_ok (r := g.receiver) hm
  rw [hhandle] at hhandle'
  cases hhandle'
  rcases hcases with ⟨-, sent, hsent, hret⟩ | ⟨-, hret⟩
  · cases hret
    have hack : rc.ackMessage = .build 0 Config.GC_PORT (.ack true) := by
      rw [Receiver.ackMessage, hsame, hport]
    rw [hack] at hsent
    exact ⟨hsame.trans hport, (Mails.of_none hquiet).append (GCConnectionHandler.sendMessageToSat_addressed hb hP hsent)⟩
  · cases hret
    exact ⟨hsame.trans hport, Mails.of_none hquiet⟩

/-- **Every step keeps the book true and writes the true address on what it sends.** -/
theorem step_addressed {e : Event} (hg : Book r g) (he : e.Truthful r) (hrun : g.step e = .ok (g', w)) :
    Book r g' ∧ Mails (GCConnectionHandler.Addressed r (Utters e)) w := by
  cases e with
  | config now os port ip id =>
    obtain ⟨hid, rfl, rfl, hpton⟩ := he
    obtain ⟨⟨h, v⟩, hadd, hret⟩ := bind_eq_ok.mp hrun
    cases hret
    obtain ⟨hb, hmails⟩ := GCConnectionHandler.addConnection_book hg.handler hid (hpton id) hadd
    exact ⟨⟨hb, hg.receiver⟩, utters_greeting hmails⟩
  | datagram now os m pad ip =>
    obtain ⟨hm, hid, rfl, hport, hpton⟩ := he
    rw [step, listen_serialize hm.valid] at hrun
    obtain ⟨⟨h', v₁⟩, hadd, hrun⟩ := bind_eq_ok.mp hrun
    obtain ⟨⟨r', v₂⟩, hack, hret⟩ := bind_eq_ok.mp hrun
    cases hret
    have hg₀ : Book r { g with buf := recvfrom g.buf (m.serialize pad) } := ⟨hg.handler, hg.receiver⟩
    obtain ⟨hb, hmails₁⟩ := addConnection_book hg₀ hid hport hpton hadd
    obtain ⟨hsame, hmails₂⟩ := ack_addressed (g := { g with buf := recvfrom g.buf (m.serialize pad) }) hb hg.receiver hm
      (Utters.answer now os m pad _) hack
    exact ⟨⟨hb, hsame⟩, (utters_greeting hmails₁).append hmails₂⟩
  | update now os =>
    obtain ⟨⟨h, v⟩, hupdate, hret⟩ := bind_eq_ok.mp hrun
    cases hret
    obtain ⟨hb, hmails⟩ := GCConnectionHandler.update_book hg.handler he hupdate
    exact ⟨⟨hb, hg.receiver⟩, utters_greeting hmails⟩
  | command os com =>
    obtain ⟨v, hcommand, hret⟩ := bind_eq_ok.mp hrun
    cases hret
    obtain ⟨-, hsend⟩ := assert_bind_eq_ok.mp hcommand
    rw [GCConnectionHandler.commandMessage, hg.handler.1] at hsend
    exact ⟨hg, GCConnectionHandler.sendMessageToSat_addressed hg.handler (Utters.command os com) hsend⟩

end

end GroundControl

end Constellation
