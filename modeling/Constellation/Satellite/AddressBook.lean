import Constellation.Network.Roster
import Constellation.Satellite.Configured

/-!
# A satellite's address book

A satellite learns where a peer listens from its arguments or from the first message of the peer. If what
it learns is true, every entry of its map is, and every datagram is addressed to the peer it is meant for.
Heartbeats go to anyone; acknowledgements and dumps go to ground control only (`step_addressed`).
-/

namespace Constellation

namespace PeerConnection

/-- The connection to a peer that listens at `home`. -/
structure At (satId port : Int32) (home : Home) (id : Int32) (p : PeerConnection) : Prop where
  sound : p.Sound satId port id
  ip : p.peerIp = home.ip
  port_eq : p.peerPort = home.port
  addr : 0 ≤ p.peerSocket → p.peerAddr = home.addr

/-- A datagram for this peer, with this message. -/
def Bound (home : Home) (id : Int32) (message : Message) (peer : Int32) (dest : SockAddr) (m : Message) : Prop :=
  peer = id ∧ dest = home.addr ∧ m = message

section
variable {satId port id : Int32} {home : Home} {p p' : PeerConnection} {now : Nat} {os : Os} {w : List Effect}

theorem At.of_same (h : p.At satId port home id) (hid : p'.peerId = p.peerId) (hsat : p'.satId = p.satId)
    (hip : p'.peerIp = p.peerIp) (hport : p'.peerPort = p.peerPort) (hlisten : p'.listeningPort = p.listeningPort)
    (haddr : 0 ≤ p'.peerSocket → p'.peerAddr = home.addr) : p'.At satId port home id :=
  ⟨h.sound.of_same hid hsat hip hport hlisten, hip.trans h.ip, hport.trans h.port_eq, haddr⟩

theorem new_sound {peerPort : Int32} {ip : String} (hip : ip ≠ "") (hsat : 0 < satId) (hport : 0 ≤ port)
    (hnew : PeerConnection.new now id ip peerPort satId port = .ok p) :
    p.Sound satId port id ∧ p.peerIp = ip ∧ p.peerPort = peerPort := by
  unfold PeerConnection.new at hnew
  simp only [assert_bind_eq_ok] at hnew
  obtain ⟨hid, hpeerPort, hret⟩ := hnew
  cases hret
  exact ⟨⟨rfl, hid, rfl, hsat, hip, hpeerPort, rfl, hport⟩, rfl, rfl⟩

theorem sendMessage_addressed {message : Message} (hp : p.At satId port home id)
    (hrun : p.sendMessage os message = .ok w) : Mails (Bound home id message) w := by
  obtain ⟨line, rfl⟩ := sendMessage_sent hrun
  exact .one fun hopen => ⟨hp.sound.id_eq, hp.addr hopen, rfl⟩

theorem connect_hello (hrun : p.connect now os = .ok (p', w)) (hpton : os.inet_pton = true) :
    (os.socket < 0 ∧ p' = { p with peerSocket := os.socket } ∧ ∃ line, w = [.log line]) ∨
      (0 ≤ os.socket ∧ ∃ line attempt,
        p' = { p with
          peerSocket := os.socket
          lastHeartbeat := now
          peerAddr := ⟨p.peerIp, p.peerPort.toUInt32.toUInt16⟩
          state := .connecting } ∧
        w = [.opened os.socket, .sendto p.peerId os.socket ⟨p.peerIp, p.peerPort.toUInt32.toUInt16⟩ p.greeting,
          .log line, .log attempt]) := by
  unfold connect at hrun
  simp only [assert_bind_eq_ok] at hrun
  obtain ⟨-, -, -, -, hrun⟩ := hrun
  by_cases hsock : os.socket < 0
  · rw [if_pos hsock] at hrun
    cases hrun
    exact .inl ⟨hsock, rfl, _, rfl⟩
  · rw [if_neg hsock, if_neg (by simp [hpton])] at hrun
    obtain ⟨sent, hsent, hret⟩ := bind_eq_ok.mp hrun
    obtain ⟨line, rfl⟩ := sendMessage_sent hsent
    cases hret
    exact .inr ⟨Int.not_lt.mp hsock, line, _, rfl, rfl⟩

theorem connect_at (hs : p.Sound satId port id) (hip : p.peerIp = home.ip) (hport : p.peerPort = home.port)
    (hpton : os.inet_pton = true) (hrun : p.connect now os = .ok (p', w)) :
    p'.At satId port home id ∧ Mails (Bound home id (hello satId port)) w := by
  have haddr : (⟨p.peerIp, p.peerPort.toUInt32.toUInt16⟩ : SockAddr) = home.addr := by
    rw [Home.addr, hip, hport]
  rcases connect_hello hrun hpton with ⟨hsock, rfl, line, rfl⟩ | ⟨hsock, line, attempt, rfl, rfl⟩
  · exact ⟨⟨hs.of_same rfl rfl rfl rfl rfl, hip, hport, fun hopen => absurd hsock (Int.not_lt.mpr hopen)⟩, .log⟩
  · refine ⟨⟨hs.of_same rfl rfl rfl rfl rfl, hip, hport, fun _ => haddr⟩, .opening fun _ => ⟨hs.id_eq, haddr, ?_⟩⟩
    rw [greeting, hs.satId_eq, hs.listening_eq]
    rfl

theorem disconnect_at (now : Nat) (os : Os) (hp : p.At satId port home id) {P : Int32 → SockAddr → Message → Prop} :
    (p.disconnect now os).1.At satId port home id ∧ Mails P (p.disconnect now os).2 := by
  have hclosed : 0 ≤ (-1 : Int) → (p.disconnect now os).1.peerAddr = home.addr := fun hopen => absurd hopen (by decide)
  refine ⟨hp.of_same rfl rfl rfl rfl rfl hclosed, Mails.of_none fun peer fd d m hm => ?_⟩
  unfold disconnect at hm
  split_ifs at hm <;> simp at hm

theorem reconnect_at (hp : p.At satId port home id) (hpton : os.inet_pton = true)
    (hrun : p.reconnect now os = .ok (p', w)) :
    p'.At satId port home id ∧ Mails (Bound home id (hello satId port)) w := by
  rcases reconnect_cases hrun with ⟨-, rfl, rfl⟩ | ⟨-, -, rfl, rfl⟩ | ⟨-, -, line, opening, hconnect, rfl⟩
  · exact ⟨hp, .nil⟩
  · exact ⟨hp.of_same rfl rfl rfl rfl rfl hp.addr, .nil⟩
  · let p₁ : PeerConnection := { p with retryCounter := p.retryCounter + 1, lastReconnect := now }
    have hp₁ : p₁.At satId port home id := hp.of_same rfl rfl rfl rfl rfl hp.addr
    obtain ⟨hclosed, hclosing⟩ := disconnect_at now os hp₁
    obtain ⟨hp', hopening⟩ := connect_at hclosed.sound hclosed.ip hclosed.port_eq hpton hconnect
    exact ⟨hp', Mails.append (w := _ :: _) (Mails.append (w := [_]) .log hclosing) hopening⟩

end

end PeerConnection

namespace ConnectionHandler

/-- Every peer in the map is a party of the roster, and is where the roster says. -/
def Book (r : Roster) (satId port : Int32) (h : ConnectionHandler) : Prop :=
  h.listeningPort = port ∧
    ∀ id p, h.connections.lookup id = some p → id ∈ 0 :: r.ids ∧ p.At satId port (r.home id) id

/-- A datagram for a party of the roster, with this message. -/
def Addressed (r : Roster) (P : Int32 → Message → Prop) (peer : Int32) (dest : SockAddr) (m : Message) : Prop :=
  peer ∈ 0 :: r.ids ∧ dest = (r.home peer).addr ∧ P peer m

section
variable {r : Roster} {satId port : Int32} {h h' : ConnectionHandler} {os : Int32 → Os} {now : Nat}
  {peerId : Int32} {w : List Effect}

theorem addressed_of_bound {id : Int32} {message : Message} {P : Int32 → Message → Prop} (hid : id ∈ 0 :: r.ids)
    (hP : P id message) (hm : Mails (PeerConnection.Bound (r.home id) id message) w) : Mails (Addressed r P) w := by
  refine hm.mono fun peer dest m hb => ?_
  obtain ⟨rfl, rfl, rfl⟩ := hb
  exact ⟨hid, rfl, hP⟩

/-- What a satellite says to a peer when it opens a connection. -/
def IsHello (satId port : Int32) (_ : Int32) (m : Message) : Prop := m = PeerConnection.hello satId port

theorem addConnection_new {peerPort : Int32} {ip : String}
    (hrun : h.addConnection now os peerPort ip peerId satId = .ok (h', w)) :
    (peerId ∈ h.connections ∧ h' = h ∧ w = []) ∨
      (peerId ∉ h.connections ∧ ∃ p q, PeerConnection.new now peerId ip peerPort satId h.listeningPort = .ok p ∧
        (p.heartbeat now).connect now (os peerId) = .ok (q, w) ∧
        h' = { h with connections :=
          Table.modify (h.connections.insert peerId p) peerId fun _ => q.markConnected }) := by
  unfold addConnection at hrun
  simp only [assert_bind_eq_ok] at hrun
  obtain ⟨-, -, -, -, hrun⟩ := hrun
  obtain ⟨p, hnew, hrun⟩ := bind_eq_ok.mp hrun
  by_cases hin : peerId ∈ h.connections
  · rw [Table.emplace_of_mem hin] at hrun
    cases hrun
    exact .inl ⟨hin, rfl, rfl⟩
  · rw [Table.emplace_of_not_mem hin] at hrun
    obtain ⟨⟨q, v⟩, hconnect, hret⟩ := bind_eq_ok.mp hrun
    cases hret
    exact .inr ⟨hin, p, q, hnew, hconnect, rfl⟩

theorem addConnection_book (hb : h.Book r satId port) (hport : 0 ≤ port) (hid : peerId ∈ 0 :: r.ids)
    (hpton : (os peerId).inet_pton = true)
    (hrun : h.addConnection now os (r.home peerId).port (r.home peerId).ip peerId satId = .ok (h', w)) :
    h'.Book r satId port ∧ Mails (Addressed r (IsHello satId port)) w := by
  obtain ⟨-, hip, -, hsat⟩ := addConnection_checked hrun
  obtain ⟨-, rfl, rfl⟩ | ⟨-, p, q, hnew, hconnect, rfl⟩ := addConnection_new hrun
  · exact ⟨hb, .nil⟩
  · rw [hb.1] at hnew
    obtain ⟨hsound, hatIp, hatPort⟩ := PeerConnection.new_sound hip hsat hport hnew
    have hheard : (p.heartbeat now).Sound satId port peerId := hsound.of_same rfl rfl rfl rfl rfl
    obtain ⟨hq, hmails⟩ := PeerConnection.connect_at hheard hatIp hatPort hpton hconnect
    refine ⟨⟨hb.1, fun id c hc => ?_⟩, addressed_of_bound hid rfl hmails⟩
    dsimp only at hc
    by_cases hne : id = peerId
    · subst hne
      rw [Table.lookup_insert_modify_self] at hc
      cases hc
      exact ⟨hid, hq.of_same rfl rfl rfl rfl rfl hq.addr⟩
    · rw [Table.lookup_insert_modify_of_ne _ _ _ hne] at hc
      exact hb.2 id c hc

theorem heartbeatSat_book (hb : h.Book r satId port) (hrun : h.heartbeatSat now peerId = .ok h') :
    h'.Book r satId port := by
  obtain ⟨-, hrun⟩ := assert_bind_eq_ok.mp hrun
  cases hrun
  refine ⟨hb.1, fun id c hc => ?_⟩
  dsimp only at hc
  by_cases hne : id = peerId
  · subst hne
    rw [Table.lookup_modify_self] at hc
    obtain ⟨q, hq, rfl⟩ := Option.map_eq_some_iff.mp hc
    obtain ⟨hid, hat⟩ := hb.2 id q hq
    exact ⟨hid, hat.of_same rfl rfl rfl rfl rfl hat.addr⟩
  · rw [Table.lookup_modify_of_ne _ _ hne] at hc
    exact hb.2 id c hc

theorem updatePeer_book {id : Int32} {p p' : PeerConnection} (hid : id ∈ 0 :: r.ids)
    (hp : p.At satId port (r.home id) id) (hpton : (os id).inet_pton = true)
    (hrun : updatePeer now os id p = .ok (p', w)) :
    p'.At satId port (r.home id) id ∧ Mails (Addressed r (IsHello satId port)) w := by
  rcases updatePeer_cases hrun with ⟨-, -, rfl, rfl⟩ | ⟨-, hreconnect⟩ | ⟨-, -, rfl, rfl⟩
  · obtain ⟨hclosed, hclosing⟩ := PeerConnection.disconnect_at now (os id) hp
    exact ⟨hclosed, Mails.append (w := [_]) .log hclosing⟩
  · obtain ⟨hp', hmails⟩ := PeerConnection.reconnect_at hp hpton hreconnect
    exact ⟨hp', addressed_of_bound hid rfl hmails⟩
  · exact ⟨hp, .nil⟩

theorem update_book (hb : h.Book r satId port) (hpton : ∀ id, (os id).inet_pton = true)
    (hrun : h.update now os = .ok (h', w)) :
    h'.Book r satId port ∧ Mails (Addressed r (IsHello satId port)) w := by
  obtain ⟨⟨t, v⟩, hsweep, hret⟩ := bind_eq_ok.mp hrun
  cases hret
  obtain ⟨hentries, hmails⟩ := Table.sweep_keeps
    (P := fun id p => id ∈ 0 :: r.ids ∧ p.At satId port (r.home id) id) Mails.nil Mails.append hb.2
    (fun id _ _ _ hp hp' => by
      obtain ⟨hkept, hmails⟩ := updatePeer_book hp.1 hp.2 (hpton id) hp'
      exact ⟨⟨hp.1, hkept⟩, hmails⟩) hsweep
  exact ⟨⟨hb.1, hentries⟩, hmails⟩

theorem sendMessageToPeer_addressed {message : Message} {P : Int32 → Message → Prop} (hb : h.Book r satId port)
    (hP : P peerId message) (hrun : h.sendMessageToPeer os peerId message = .ok w) : Mails (Addressed r P) w := by
  rcases sendMessageToPeer_cases hrun with ⟨-, line, rfl⟩ | ⟨peer, hpeer, ⟨-, hsent⟩ | ⟨-, rfl⟩⟩
  · exact .log
  · obtain ⟨hid, hat⟩ := hb.2 peerId peer hpeer
    exact addressed_of_bound hid hP (PeerConnection.sendMessage_addressed hat hsent)
  · exact .nil

theorem broadcastMessage_addressed {message : Message} {P : Int32 → Message → Prop} (hb : h.Book r satId port)
    (hP : ∀ peer, P peer message) (hrun : h.broadcastMessage os message = .ok w) : Mails (Addressed r P) w := by
  unfold broadcastMessage at hrun
  simp only [assert_bind_eq_ok] at hrun
  obtain ⟨-, -, -, hrun⟩ := hrun
  obtain ⟨⟨t, v⟩, hsweep, hret⟩ := bind_eq_ok.mp hrun
  cases hret
  refine (Table.sweep_keeps (P := fun id p => id ∈ 0 :: r.ids ∧ p.At satId port (r.home id) id) Mails.nil Mails.append
    hb.2 (fun id p p' w' hp hp' => ?_) hsweep).2
  obtain ⟨rfl, ⟨-, -, hsent⟩ | rfl | ⟨line, rfl⟩⟩ := broadcastTo_cases hp'
  · exact ⟨hp, addressed_of_bound hp.1 (hP id) (PeerConnection.sendMessage_addressed hp.2 hsent)⟩
  · exact ⟨hp, .nil⟩
  · exact ⟨hp, .log⟩

end

end ConnectionHandler

namespace SatelliteProcess

/-- What a step says, and to whom: a heartbeat to anyone, the answer to a command and the chunks of a dump
to ground control. -/
inductive Utters (satId port : Int32) : Event → Int32 → Message → Prop
  | hello (e : Event) (peer : Int32) : Utters satId port e peer (PeerConnection.hello satId port)
  | ack (now : Nat) (os : Int32 → Os) (m : Message) (pad : Block 3) (ip : String) (hm : m.kind = .command) :
      Utters satId port (.datagram now os m pad ip) 0 (.build satId port (.ack true))
  | chunk (os : Int32 → Os) (m : Message) (hm : Satellite.Utterance satId port m) (hkind : m.kind = .fileMsg) :
      Utters satId port (.sendChunk os) 0 m

/-- What the event tells the satellite of a peer is true, and its address can be converted. -/
def Event.Truthful (r : Roster) : Event → Prop
  | .connect _ os port ip peerId => peerId ∈ 0 :: r.ids ∧ ip = (r.home peerId).ip ∧ port = (r.home peerId).port ∧
      ∀ i, (os i).inet_pton = true
  | .datagram _ os m _ ip => m.Valid ∧ m.senderId ∈ 0 :: r.ids ∧ ip = (r.home m.senderId).ip ∧
      m.senderPort = (r.home m.senderId).port ∧ ∀ i, (os i).inet_pton = true
  | .stray _ _ _ _ => False
  | .update _ os _ => ∀ i, (os i).inet_pton = true
  | _ => True

section
variable {r : Roster} {satId port : Int32} {p p' : SatelliteProcess} {w : List Effect}

structure Book (r : Roster) (satId port : Int32) (p : SatelliteProcess) : Prop where
  configured : Configured satId port p
  handler : p.satellite.handler.Book r satId port
  sender : ∀ rest, p.sender = .sending rest → ∀ m ∈ rest, m.kind = .fileMsg

theorem init_book (r : Roster) (buf : RecvBuffer) (x y z vx vy vz : Double) :
    Book r satId port (init satId port buf x y z vx vy vz) :=
  ⟨init_configured .., ⟨rfl, nofun⟩, nofun⟩

theorem utters_hello {e : Event} (h : Mails (ConnectionHandler.Addressed r (ConnectionHandler.IsHello satId port)) w) :
    Mails (ConnectionHandler.Addressed r (Utters satId port e)) w := by
  refine h.mono fun peer dest m hm => ?_
  obtain ⟨hid, hdest, rfl⟩ := hm
  exact ⟨hid, hdest, .hello e peer⟩

theorem datagram_addressed {now : Nat} {os : Int32 → Os} {m : Message} {pad : Block 3} {ip : String}
    (hp : Book r satId port p) (hport : 0 ≤ port) (he : (Event.datagram now os m pad ip).Truthful r)
    (hrun : p.step (.datagram now os m pad ip) = .ok (p', w)) :
    p'.satellite.handler.Book r satId port ∧ p'.sender = p.sender ∧
      Mails (ConnectionHandler.Addressed r (Utters satId port (.datagram now os m pad ip))) w := by
  obtain ⟨hm, hid, rfl, hat, hpton⟩ := he
  rw [step, acceptConnections, receive_serialize hm, ok_bind] at hrun
  obtain ⟨p₁, typed, h, sent, line, htype, hmeet, rfl, rfl⟩ := onMessage_cases hrun
  have htyped : p₁.satellite.handler = p.satellite.handler ∧ p₁.satId = p.satId ∧ p₁.sender = p.sender ∧
      Mails (ConnectionHandler.Addressed r (Utters satId port (.datagram now os m pad (r.home m.senderId).ip))) typed := by
    cases onType_typed htype with
    | acked hack hwaits => exact ⟨rfl, rfl, rfl, .nil⟩
    | commanded hcommand hsent =>
      refine ⟨rfl, rfl, rfl, ?_⟩
      have hkind : m.kind = .command := MessageType.tag_injective (hm.type.symm.trans hcommand)
      have hack : Utters satId port (.datagram now os m pad (r.home m.senderId).ip) 0
          (.build p.satId p.satellite.port (.ack true)) := by
        rw [hp.configured.manager, hp.configured.port_eq]
        exact .ack now os m pad _ hkind
      exact ConnectionHandler.sendMessageToPeer_addressed hp.handler hack hsent
    | other hack hcommand => exact ⟨rfl, rfl, rfl, .nil⟩
  obtain ⟨hhandler, hmanager, hsender, hmails⟩ := htyped
  have hmet : h.Book r satId port ∧ Mails (ConnectionHandler.Addressed r (ConnectionHandler.IsHello satId port)) sent := by
    rcases meet_cases hmeet with ⟨-, hadd⟩ | ⟨-, hbeat, rfl⟩
    · rw [hhandler, hmanager, hp.configured.manager, hat] at hadd
      exact ConnectionHandler.addConnection_book hp.handler hport hid (hpton _) hadd
    · rw [hhandler] at hbeat
      exact ⟨ConnectionHandler.heartbeatSat_book hp.handler hbeat, .nil⟩
  exact ⟨hmet.1, hsender, hmails.append ((utters_hello hmet.2).append .log)⟩

/-- **Every step keeps the book true and writes the true address on what it sends.** -/
theorem step_addressed {e : Event} (hp : Book r satId port p) (hport : 0 ≤ port) (he : e.Truthful r)
    (hrun : p.step e = .ok (p', w)) :
    Book r satId port p' ∧ Mails (ConnectionHandler.Addressed r (Utters satId port e)) w := by
  obtain ⟨hp', -⟩ := step_configured hp.configured hport hrun
  cases step_moves hrun with
  | connect hadd =>
    obtain ⟨hid, rfl, rfl, hpton⟩ := he
    rw [hp.configured.id_eq] at hadd
    obtain ⟨hb, hmails⟩ := ConnectionHandler.addConnection_book hp.handler hport hid (hpton _) hadd
    exact ⟨⟨hp', hb, hp.sender⟩, utters_hello hmails⟩
  | datagram haccept =>
    obtain ⟨hb, hsender, hmails⟩ := datagram_addressed hp hport he hrun
    exact ⟨⟨hp', hb, hsender ▸ hp.sender⟩, hmails⟩
  | stray haccept => exact he.elim
  | update hupdate =>
    obtain ⟨hb, hmails⟩ := ConnectionHandler.update_book hp.handler he hupdate
    exact ⟨⟨hp', hb, hp.sender⟩, utters_hello hmails⟩
  | logLine => exact ⟨⟨hp', hp.handler, hp.sender⟩, .nil⟩
  | broadcast hready hmessage hsent =>
    unfold Satellite.createHeartbeatMessage at hmessage
    simp only [assert_bind_eq_ok] at hmessage
    obtain ⟨-, -, hm⟩ := hmessage
    cases hm
    rw [hp.configured.id_eq, hp.configured.port_eq] at hsent
    exact ⟨hp, ConnectionHandler.broadcastMessage_addressed hp.handler (Utters.hello _) hsent⟩
  | dump hready hknown =>
    refine ⟨⟨hp', hp.handler, ?_⟩, .nil⟩
    rintro rest ⟨⟩ m hm
    rw [Satellite.createDataDump] at hm
    obtain ⟨i, hi, rfl⟩ := List.mem_mapIdx.mp hm
    rfl
  | sendChunk hsending hsent =>
    have hm := hp.configured.sender _ hsending _ List.mem_cons_self
    have hkind := hp.sender _ hsending _ List.mem_cons_self
    refine ⟨⟨hp', hp.handler, ?_⟩,
      ConnectionHandler.sendMessageToPeer_addressed hp.handler (Utters.chunk _ _ hm hkind) hsent⟩
    rintro rest' ⟨⟩
    exact fun m' hm' => hp.sender _ hsending m' (List.mem_cons_of_mem _ hm')
  | raise hsending =>
    refine ⟨⟨hp', hp.handler, fun rest hrest => ?_⟩, .nil⟩
    cases hrest
  | idle => exact ⟨hp, .nil⟩

end

end SatelliteProcess

end Constellation
