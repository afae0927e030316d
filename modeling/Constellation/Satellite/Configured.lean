import Constellation.Satellite.Process

/-!
# What a satellite says, whatever happens to it

The facts about a satellite that need no assumption on the operating system or on what arrives: every
connection keeps the parameters it was made with, and every message that is passed on is one of the
satellite (`step_configured`). They hold as long as the process does not abort, so they are stated of
calls that return.
-/

namespace Constellation

/-! ### Calls keep the parameters of the connections -/

namespace PeerConnection

section
variable {p p' : PeerConnection} {id satId port : Int32} {w : List Effect}

theorem connect_sound (now : Nat) (os : Os) (hs : p.Sound satId port id) :
    ∃ p' w, p.connect now os = .ok (p', w) ∧ p'.Sound satId port id ∧ Sends (fun _ m => m = hello satId port) w := by
  by_cases hgranted : ¬ os.socket < 0 ∧ ¬ os.inet_pton = false
  · obtain ⟨p', dest, line, attempt, hconnect, hs', -⟩ := connect_granted now hs hgranted.1 hgranted.2
    refine ⟨p', _, hconnect, hs', ?_⟩
    intro peer fd d m hm
    simp only [List.mem_cons, reduceCtorEq, List.not_mem_nil, or_false, false_or, Effect.sendto.injEq] at hm
    exact hm.2.2.2
  have hpeer : 0 ≤ p.peerId := by
    rw [hs.id_eq]
    exact hs.id_nonneg
  have hlisten : 0 ≤ p.listeningPort := by
    rw [hs.listening_eq]
    exact hs.listening
  rw [connect, assert_bind hpeer, assert_bind hs.ip, assert_bind hs.port,
    assert_bind hlisten]
  dsimp only
  by_cases hsock : os.socket < 0
  · rw [if_pos hsock]
    refine ⟨_, _, rfl, hs.of_same rfl rfl rfl rfl rfl, Sends.of_none ?_⟩
    simp
  · have hpton : os.inet_pton = false := by
      by_contra hyes
      exact hgranted ⟨hsock, hyes⟩
    rw [if_neg hsock, if_pos hpton]
    refine ⟨_, _, rfl, hs.of_same rfl rfl rfl rfl rfl, Sends.of_none ?_⟩
    simp

theorem reconnect_sound {now : Nat} {os : Os} (hs : p.Sound satId port id)
    (hrun : p.reconnect now os = .ok (p', w)) :
    p'.Sound satId port id ∧ Sends (fun _ m => m = hello satId port) w := by
  rcases reconnect_cases hrun with ⟨-, rfl, rfl⟩ | ⟨-, -, rfl, rfl⟩ | ⟨-, -, line, opening, hconnect, rfl⟩
  · exact ⟨hs, .nil⟩
  · exact ⟨hs.of_same rfl rfl rfl rfl rfl, .nil⟩
  let p₁ : PeerConnection := { p with retryCounter := p.retryCounter + 1, lastReconnect := now }
  have hs₁ : p₁.Sound satId port id := hs.of_same rfl rfl rfl rfl rfl
  obtain ⟨q, v, hq, hqs, hsends⟩ := connect_sound now os (hs₁.disconnect now os)
  rw [hq] at hconnect
  cases hconnect
  refine ⟨hqs, Sends.append (w := _ :: _) ?_ hsends⟩
  exact Sends.append (w := [_]) .log (disconnect_sends now os)

theorem sendMessage_sends {os : Os} {message : Message} (hrun : p.sendMessage os message = .ok w) :
    Sends (fun _ m => m = message) w := by
  obtain ⟨line, rfl⟩ := sendMessage_sent hrun
  intro peer fd dest m hm
  simp only [List.mem_cons, Effect.sendto.injEq, reduceCtorEq, List.not_mem_nil, or_false] at hm
  exact hm.2.2.2

end

end PeerConnection

namespace ConnectionHandler

/-- Every connection has the parameters its assertions ask for. -/
def Sound (satId port : Int32) (h : ConnectionHandler) : Prop :=
  h.listeningPort = port ∧ ∀ id p, h.connections.lookup id = some p → p.Sound satId port id

section
variable {satId port : Int32} {h h' : ConnectionHandler} {w : List Effect}

theorem addConnection_sound (now : Nat) (os : Int32 → Os) {peerPort : Int32} {ip : String} {peerId : Int32}
    (hs : h.Sound satId port) (hport : 0 ≤ port) (hpeerPort : 0 ≤ peerPort) (hip : ip ≠ "")
    (hid : 0 ≤ peerId) (hsat : 0 < satId) :
    ∃ h' w, h.addConnection now os peerPort ip peerId satId = .ok (h', w) ∧ h'.Sound satId port ∧
      Sends (fun _ m => m = PeerConnection.hello satId port) w := by
  obtain ⟨hlisten, hpeers⟩ := hs
  have hnew : ∃ p, PeerConnection.new now peerId ip peerPort satId h.listeningPort = .ok p ∧
      p.Sound satId port peerId := by
    rw [PeerConnection.new, assert_bind hid, assert_pos hpeerPort]
    exact ⟨_, rfl, rfl, hid, rfl, hsat, hip, hpeerPort, hlisten, hport⟩
  obtain ⟨p, hp, hsound⟩ := hnew
  rw [addConnection, assert_bind hpeerPort, assert_bind hip, assert_bind hid,
    assert_bind hsat, hp, ok_bind]
  by_cases hin : peerId ∈ h.connections
  · rw [Table.emplace_of_mem hin]
    exact ⟨h, [], rfl, ⟨hlisten, hpeers⟩, .nil⟩
  · have hsound' : (p.heartbeat now).Sound satId port peerId := hsound.of_same rfl rfl rfl rfl rfl
    obtain ⟨q, w, hq, hqs, hsends⟩ := PeerConnection.connect_sound now (os peerId) hsound'
    rw [Table.emplace_of_not_mem hin]
    dsimp only
    rw [hq]
    refine ⟨_, w, rfl, ⟨hlisten, fun id c hc => ?_⟩, hsends⟩
    by_cases hne : id = peerId
    · subst hne
      dsimp only at hc
      rw [Table.lookup_insert_modify_self] at hc
      cases hc
      exact hqs.of_same rfl rfl rfl rfl rfl
    · dsimp only at hc
      rw [Table.lookup_insert_modify_of_ne _ _ _ hne] at hc
      exact hpeers id c hc

theorem heartbeatSat_sound (now : Nat) {peerId : Int32} (hs : h.Sound satId port) (hid : 0 ≤ peerId) :
    ∃ h', h.heartbeatSat now peerId = .ok h' ∧ h'.Sound satId port := by
  obtain ⟨hlisten, hpeers⟩ := hs
  rw [heartbeatSat, assert_pos hid]
  refine ⟨_, rfl, hlisten, fun id c hc => ?_⟩
  dsimp only at hc
  by_cases hne : id = peerId
  · subst hne
    rw [Table.lookup_modify_self] at hc
    obtain ⟨q, hq, rfl⟩ := Option.map_eq_some_iff.mp hc
    exact (hpeers id q hq).heartbeat_markConnected now
  · rw [Table.lookup_modify_of_ne _ _ hne] at hc
    exact hpeers id c hc

theorem updatePeer_sound {now : Nat} {os : Int32 → Os} {id : Int32} {p p' : PeerConnection}
    (hs : p.Sound satId port id) (hrun : updatePeer now os id p = .ok (p', w)) :
    p'.Sound satId port id ∧ Sends (fun _ m => m = PeerConnection.hello satId port) w := by
  rcases updatePeer_cases hrun with ⟨-, -, rfl, rfl⟩ | ⟨-, hreconnect⟩ | ⟨-, -, rfl, rfl⟩
  · refine ⟨hs.disconnect now (os id), ?_⟩
    exact Sends.append (w := [_]) .log (PeerConnection.disconnect_sends now (os id))
  · exact PeerConnection.reconnect_sound hs hreconnect
  · exact ⟨hs, .nil⟩

theorem update_sound {now : Nat} {os : Int32 → Os} (hs : h.Sound satId port)
    (hrun : h.update now os = .ok (h', w)) :
    h'.Sound satId port ∧ Sends (fun _ m => m = PeerConnection.hello satId port) w := by
  obtain ⟨hlisten, hpeers⟩ := hs
  obtain ⟨⟨t, v⟩, hsweep, hret⟩ := bind_eq_ok.mp hrun
  cases hret
  obtain ⟨hpeers', hsends⟩ := Table.sweep_keeps (P := fun id p => p.Sound satId port id) .nil Sends.append hpeers
    (fun _ _ _ _ hp hp' => updatePeer_sound hp hp') hsweep
  exact ⟨⟨hlisten, hpeers'⟩, hsends⟩

theorem sendMessageToPeer_sends {os : Int32 → Os} {peerId : Int32} {message : Message}
    (hrun : h.sendMessageToPeer os peerId message = .ok w) : Sends (fun _ m => m = message) w := by
  rcases sendMessageToPeer_cases hrun with ⟨-, line, rfl⟩ | ⟨peer, -, ⟨-, hsent⟩ | ⟨-, rfl⟩⟩
  · exact .log
  · exact PeerConnection.sendMessage_sends hsent
  · exact .nil

theorem broadcastMessage_sends {os : Int32 → Os} {message : Message}
    (hrun : h.broadcastMessage os message = .ok w) : Sends (fun _ m => m = message) w := by
  unfold broadcastMessage at hrun
  simp only [assert_bind_eq_ok] at hrun
  obtain ⟨-, -, -, hrun⟩ := hrun
  obtain ⟨⟨t, v⟩, hsweep, hret⟩ := bind_eq_ok.mp hrun
  cases hret
  refine (Table.sweep_sound (P := fun _ _ _ => True) .nil Sends.append
    (fun id p p' w' _ hp' => ⟨trivial, ?_⟩) hsweep).2
  rcases (broadcastTo_cases hp').2 with ⟨-, -, hsent⟩ | rfl | ⟨line, rfl⟩
  · exact PeerConnection.sendMessage_sends hsent
  · exact .nil
  · exact .log

end

end ConnectionHandler

/-! ### The process -/

namespace SatelliteProcess

section
variable {satId port : Int32} {p p' : SatelliteProcess} {w : List Effect}

/-- The process has the id and the port it was started with, and so have its connections and the
messages its sender still has to send. -/
structure Configured (satId port : Int32) (p : SatelliteProcess) : Prop where
  id : p.satellite.id = satId.toUInt32
  manager : p.satId = satId
  port_eq : p.satellite.port = port
  handler : p.satellite.handler.Sound satId port
  sender : ∀ rest, p.sender = .sending rest → ∀ m ∈ rest, Satellite.Utterance satId port m

theorem init_configured (buf : RecvBuffer) (x y z vx vy vz : Double) :
    Configured satId port (init satId port buf x y z vx vy vz) :=
  ⟨rfl, rfl, rfl, ⟨rfl, nofun⟩, nofun⟩

theorem Configured.id_eq (hp : Configured satId port p) : p.satellite.id.toInt32 = satId := by
  rw [hp.id, Int32.toInt32_toUInt32]

theorem Configured.setHandler (hp : Configured satId port p) {h : ConnectionHandler} (hs : h.Sound satId port) :
    Configured satId port { p with satellite := { p.satellite with handler := h } } :=
  ⟨hp.id, hp.manager, hp.port_eq, hs, hp.sender⟩

theorem utterance_of_hello (h : Sends (fun _ m => m = PeerConnection.hello satId port) w) :
    Sends (fun _ m => Satellite.Utterance satId port m) w :=
  h.mono fun _ m hm => by
    rw [hm]
    exact .heartbeat true

theorem handleCommand_eq {s s' : Satellite} {m : Message} {x y z vx vy vz : Double}
    (hrun : s.handleCommand m x y z vx vy vz = .ok s') : s' = { s with x, y, z, vx, vy, vz } := by
  unfold Satellite.handleCommand at hrun
  simp only [assert_bind_eq_ok] at hrun
  obtain ⟨-, -, -, -, hrun⟩ := hrun
  cases hrun
  rfl

/-- Whether the satellite still waits for an acknowledgement after a message. -/
def stillWaiting (p : SatelliteProcess) (m : Message) : Bool :=
  p.satellite.waitingForAck && !decide (m.header.type = MessageType.ack.tag)

/-- What the listener can do with the type of a message. -/
inductive Typed (p : SatelliteProcess) (os : Int32 → Os) (m : Message) : SatelliteProcess → List Effect → Prop
  | acked (hack : m.header.type = MessageType.ack.tag) (hwaits : p.satellite.waitingForAck = true) :
      Typed p os m { p with satellite := p.satellite.setWaitingForAck false, log := p.log.clearFile } []
  | commanded {x y z vx vy vz : Double} {w : List Effect} (hcommand : m.header.type = MessageType.command.tag)
      (hsent : p.ack os = .ok w) : Typed p os m { p with satellite := { p.satellite with x, y, z, vx, vy, vz } } w
  | other (hack : ¬ (m.header.type = MessageType.ack.tag ∧ p.satellite.waitingForAck = true))
      (hcommand : m.header.type ≠ MessageType.command.tag) : Typed p os m p []

theorem onType_typed {os : Int32 → Os} {m : Message} (hrun : p.onType os m = .ok (p', w)) : p.Typed os m p' w := by
  unfold onType at hrun
  split_ifs at hrun with hack hcommand
  · cases hrun
    exact .acked hack.1 hack.2
  · obtain ⟨-, hrun⟩ := assert_bind_eq_ok.mp hrun
    split at hrun
    · obtain ⟨s, hs, hrun⟩ := bind_eq_ok.mp hrun
      obtain ⟨v, hv, hret⟩ := bind_eq_ok.mp hrun
      cases hret
      cases handleCommand_eq hs
      exact .commanded hcommand hv
    · cases hrun
  · cases hrun
    exact .other hack hcommand

theorem meet_cases {now : Nat} {os : Int32 → Os} {m : Message} {ip : String} {h : ConnectionHandler}
    (hrun : p.meet now os m ip = .ok (h, w)) :
    (p.satellite.handler.connections.lookup m.senderId = none ∧
        p.satellite.handler.addConnection now os m.senderPort ip m.senderId p.satId = .ok (h, w)) ∨
      ((p.satellite.handler.connections.lookup m.senderId).isSome = true ∧
        p.satellite.handler.heartbeatSat now m.senderId = .ok h ∧ w = []) := by
  obtain ⟨known, hlookup, hrun⟩ := bind_eq_ok.mp hrun
  obtain ⟨-, hret⟩ := assert_bind_eq_ok.mp hlookup
  cases hret
  split_ifs at hrun with hunknown
  · exact .inl ⟨Option.isNone_iff_eq_none.mp (Option.isSome_eq_false_iff.mp hunknown), hrun⟩
  · obtain ⟨h', hbeat, hret⟩ := bind_eq_ok.mp hrun
    cases hret
    exact .inr ⟨eq_true_of_ne_false hunknown, hbeat, rfl⟩

/-- A message that was handled: what its type brought about, then what its sender did. -/
theorem onMessage_cases {now : Nat} {os : Int32 → Os} {m : Message} {ip : String}
    (hrun : p.onMessage now os m ip = .ok (p', w)) :
    ∃ p₁ typed h sent line, p.onType os m = .ok (p₁, typed) ∧ p₁.meet now os m ip = .ok (h, sent) ∧
      p' = { p₁ with satellite := { p₁.satellite with handler := h } } ∧ w = typed ++ (sent ++ [.log line]) := by
  obtain ⟨⟨p₁, typed⟩, htype, hrun⟩ := bind_eq_ok.mp hrun
  obtain ⟨⟨p₂, met⟩, hsender, hret⟩ := bind_eq_ok.mp hrun
  cases hret
  obtain ⟨⟨h, sent⟩, hmeet, hret⟩ := bind_eq_ok.mp hsender
  cases hret
  exact ⟨p₁, typed, h, sent, _, htype, hmeet, rfl, rfl⟩

theorem onType_configured {os : Int32 → Os} {m : Message} (hp : Configured satId port p)
    (hrun : p.onType os m = .ok (p', w)) :
    Configured satId port p' ∧ Sends (fun _ m => Satellite.Utterance satId port m) w ∧
      p'.satellite.waitingForAck = p.stillWaiting m ∧ p'.sender = p.sender := by
  cases onType_typed hrun with
  | acked hack hwaits =>
    refine ⟨⟨hp.id, hp.manager, hp.port_eq, hp.handler, hp.sender⟩, .nil, ?_, rfl⟩
    rw [stillWaiting, hack]
    simp [Satellite.setWaitingForAck]
  | commanded hcommand hsent =>
    have hflag : p.satellite.waitingForAck = p.stillWaiting m := by
      rw [stillWaiting, hcommand]
      simp [MessageType.tag]
    refine ⟨⟨hp.id, hp.manager, hp.port_eq, hp.handler, hp.sender⟩, ?_, hflag, rfl⟩
    refine (ConnectionHandler.sendMessageToPeer_sends hsent).mono fun _ m' hm' => ?_
    rw [hm', hp.manager, hp.port_eq]
    exact .ack true
  | other hack hcommand =>
    refine ⟨hp, .nil, ?_, rfl⟩
    rw [stillWaiting]
    by_cases htype : m.header.type = MessageType.ack.tag
    · have hdown : p.satellite.waitingForAck = false := by simpa [htype] using hack
      rw [hdown]
      rfl
    · simp [htype]

theorem meet_sound {now : Nat} {os : Int32 → Os} {m : Message} {ip : String} {h' : ConnectionHandler}
    (hp : Configured satId port p) (hport : 0 ≤ port) (hrun : p.meet now os m ip = .ok (h', w)) :
    h'.Sound satId port ∧ Sends (fun _ m => m = PeerConnection.hello satId port) w := by
  rcases meet_cases hrun with ⟨-, hadd⟩ | ⟨-, hbeat, rfl⟩
  · rw [hp.manager] at hadd
    obtain ⟨hpeerPort, hip, hid, hsat⟩ := ConnectionHandler.addConnection_checked hadd
    obtain ⟨h, v, hadd', hs, hsends⟩ :=
      ConnectionHandler.addConnection_sound now os hp.handler hport hpeerPort hip hid hsat
    rw [hadd'] at hadd
    cases hadd
    exact ⟨hs, hsends⟩
  · obtain ⟨g, hbeat', hs⟩ :=
      ConnectionHandler.heartbeatSat_sound now hp.handler (ConnectionHandler.heartbeatSat_checked hbeat)
    rw [hbeat'] at hbeat
    cases hbeat
    exact ⟨hs, .nil⟩

theorem onMessage_configured {now : Nat} {os : Int32 → Os} {m : Message} {ip : String}
    (hp : Configured satId port p) (hport : 0 ≤ port) (hrun : p.onMessage now os m ip = .ok (p', w)) :
    Configured satId port p' ∧ Sends (fun _ m => Satellite.Utterance satId port m) w ∧
      p'.satellite.waitingForAck = p.stillWaiting m ∧ p'.sender = p.sender := by
  obtain ⟨p₁, typed, h, sent, line, htype, hmeet, rfl, rfl⟩ := onMessage_cases hrun
  obtain ⟨hp₁, hsends₁, hflag, hsame⟩ := onType_configured hp htype
  obtain ⟨hs, hsends⟩ := meet_sound hp₁ hport hmeet
  exact ⟨hp₁.setHandler hs, hsends₁.append ((utterance_of_hello hsends).append .log), hflag, hsame⟩

theorem acceptConnections_configured {now : Nat} {os : Int32 → Os} {bytes : List UInt8} {ip : String}
    (hp : Configured satId port p) (hport : 0 ≤ port)
    (hrun : p.acceptConnections now os bytes ip = .ok (p', w)) :
    Configured satId port p' ∧ Sends (fun _ m => Satellite.Utterance satId port m) w := by
  obtain ⟨⟨buf, message⟩, -, hrun⟩ := bind_eq_ok.mp hrun
  have hp₀ : Configured satId port { p with buf } := ⟨hp.id, hp.manager, hp.port_eq, hp.handler, hp.sender⟩
  cases message with
  | none =>
    cases hrun
    exact ⟨hp₀, .nil⟩
  | some m =>
    obtain ⟨hp', hsends, -⟩ := onMessage_configured hp₀ hport hrun
    exact ⟨hp', hsends⟩

/-- **Every step keeps the configuration and says what a satellite says.** -/
theorem step_configured {e : Event} (hp : Configured satId port p) (hport : 0 ≤ port)
    (hrun : p.step e = .ok (p', w)) :
    Configured satId port p' ∧ Sends (fun _ m => Satellite.Utterance satId port m) w := by
  cases step_moves hrun with
  | connect hadd =>
    rw [hp.id_eq] at hadd
    obtain ⟨hpeerPort, hip, hid, hsat⟩ := ConnectionHandler.addConnection_checked hadd
    obtain ⟨h', v', hadd', hs, hsends⟩ :=
      ConnectionHandler.addConnection_sound _ _ hp.handler hport hpeerPort hip hid hsat
    rw [hadd'] at hadd
    cases hadd
    exact ⟨hp.setHandler hs, utterance_of_hello hsends⟩
  | datagram haccept => exact acceptConnections_configured hp hport haccept
  | stray haccept => exact acceptConnections_configured hp hport haccept
  | update hupdate =>
    obtain ⟨hs, hsends⟩ := ConnectionHandler.update_sound hp.handler hupdate
    exact ⟨⟨hp.id, hp.manager, hp.port_eq, hs, hp.sender⟩, utterance_of_hello hsends⟩
  | logLine => exact ⟨⟨hp.id, hp.manager, hp.port_eq, hp.handler, hp.sender⟩, .nil⟩
  | broadcast hready hmessage hsent =>
    refine ⟨hp, (ConnectionHandler.broadcastMessage_sends hsent).mono fun _ m' hm' => ?_⟩
    unfold Satellite.createHeartbeatMessage at hmessage
    simp only [assert_bind_eq_ok] at hmessage
    obtain ⟨-, -, hm⟩ := hmessage
    cases hm
    rw [hm', hp.id_eq, hp.port_eq]
    exact .heartbeat true
  | dump hready hknown =>
    refine ⟨⟨hp.id, hp.manager, hp.port_eq, hp.handler, ?_⟩, .nil⟩
    rintro rest ⟨⟩
    exact Satellite.createDataDump_utterance hp.id_eq hp.port_eq _ _
  | sendChunk hsending hsent =>
    have hrest := hp.sender _ hsending
    refine ⟨⟨hp.id, hp.manager, hp.port_eq, hp.handler, ?_⟩, ?_⟩
    · rintro rest' ⟨⟩
      exact fun m' hm' => hrest m' (List.mem_cons_of_mem _ hm')
    · refine (ConnectionHandler.sendMessageToPeer_sends hsent).mono fun _ m' hm' => ?_
      rw [hm']
      exact hrest _ List.mem_cons_self
  | raise hsending =>
    refine ⟨⟨hp.id, hp.manager, hp.port_eq, hp.handler, ?_⟩, .nil⟩
    rintro rest ⟨⟩
  | idle => exact ⟨hp, .nil⟩

theorem run_configured (hport : 0 ≤ port) {es : List Event} {start : SatelliteProcess}
    (hstart : Configured satId port start) (hrun : run step start es = .ok (p, w)) : Configured satId port p :=
  run_induction (P := fun _ p _ => Configured satId port p) hstart
    (fun _ _ _ _ _ _ _ hp hstep => (step_configured hp hport hstep).1) hrun

/-- A state of satellite `satId`, listening on `port`, whatever it has received and however the sockets
fared. -/
def Reachable (satId port : Int32) (p : SatelliteProcess) : Prop :=
  0 < satId ∧ 0 ≤ port ∧ ∃ buf x y z vx vy vz es w, run step (init satId port buf x y z vx vy vz) es = .ok (p, w)

theorem Reachable.configured (h : Reachable satId port p) : Configured satId port p := by
  obtain ⟨-, hport, buf, x, y, z, vx, vy, vz, es, w, hrun⟩ := h
  exact run_configured hport (init_configured ..) hrun

/-! ### The flag -/

/-- The event is a step of another thread than the listener. -/
def Event.IsOwn : Event → Prop
  | .datagram .. => False
  | .stray .. => False
  | _ => True

/-- The sender passes a chunk on. -/
def SendsChunk (p : SatelliteProcess) : Event → Bool
  | .sendChunk _ =>
    match p.sender with
    | .sending (_ :: _) => true
    | _ => false
  | _ => false

/-- It is the last of its dump. -/
def SendsLast (p : SatelliteProcess) : Event → Bool
  | .sendChunk _ =>
    match p.sender with
    | .sending [_] => true
    | _ => false
  | _ => false

/-- The sender has sent all chunks and raises the flag. -/
def Raises (p : SatelliteProcess) : Event → Bool
  | .raise =>
    match p.sender with
    | .sending [] => true
    | _ => false
  | _ => false

theorem step_flag {e : Event} (he : e.IsOwn) (hrun : p.step e = .ok (p', w)) :
    p'.satellite.waitingForAck = (p.satellite.waitingForAck || p.Raises e) := by
  cases step_moves hrun with
  | connect hadd => exact (Bool.or_false _).symm
  | datagram haccept => exact he.elim
  | stray haccept => exact he.elim
  | update hupdate => exact (Bool.or_false _).symm
  | logLine => exact (Bool.or_false _).symm
  | broadcast hready hmessage hsent => exact (Bool.or_false _).symm
  | dump hready hknown => exact (Bool.or_false _).symm
  | sendChunk hsending hsent => exact (Bool.or_false _).symm
  | raise hsending =>
    rw [Raises, hsending]
    exact (Bool.or_true _).symm
  | idle hsender hraise =>
    have hdown : p.Raises e = false := by
      unfold Raises
      split
      · split
        · rename_i hnil
          exact absurd hnil (hraise rfl)
        · rfl
      · rfl
    rw [hdown, Bool.or_false]

theorem step_raises {e : Event} (he : p.Raises e = true) :
    ∃ p', p.step e = .ok (p', []) ∧ p'.sender = .ready ∧ p'.satellite.waitingForAck = true := by
  unfold Raises at he
  split at he
  · split at he
    · rename_i hs
      refine ⟨{ p with satellite := p.satellite.setWaitingForAck true, sender := .ready }, ?_, rfl, rfl⟩
      rw [step, hs]
    · cases he
  · cases he

/-- The listener lowers the flag at an acknowledgement, and raises it never. -/
theorem datagram_flag {now : Nat} {os : Int32 → Os} {m : Message} {pad : Block 3} {ip : String}
    (hp : Configured satId port p) (hport : 0 ≤ port) (hm : m.Valid)
    (hrun : p.step (.datagram now os m pad ip) = .ok (p', w)) :
    p'.satellite.waitingForAck = p.stillWaiting m ∧ p'.sender = p.sender := by
  rw [step, acceptConnections, receive_serialize hm, ok_bind] at hrun
  have hp₀ : Configured satId port { p with buf := recvfrom p.buf (m.serialize pad) } :=
    ⟨hp.id, hp.manager, hp.port_eq, hp.handler, hp.sender⟩
  obtain ⟨-, -, hflag, hsame⟩ := onMessage_configured hp₀ hport hrun
  exact ⟨hflag, hsame⟩

end

end SatelliteProcess

end Constellation
