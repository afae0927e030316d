import Constellation.Protocol.Receive
import Constellation.Satellite.Logger
import Constellation.Satellite.Satellite

/-!
# The satellite process

The state the threads of a satellite share and the steps they take: the main thread and the sender
connect peers, the listener (`NetworkManager`) handles a datagram, the simulation thread makes a step,
the logger writes a line, and the sender (`broadcast`) sends heartbeats and dumps: it reads and
truncates the log, sends the chunks one by one, and then raises `waitingForAck`.

Over well-formed events every step returns and follows the links of the keepalive model
(`step_refines`).
-/

namespace Constellation

/-- Where the sender thread is in its loop. -/
inductive Broadcast
  | ready
  /-- In the loop over the messages of a dump. -/
  | sending (rest : List Message)

structure SatelliteProcess where
  satellite : Satellite
  /-- The id the network manager was given. -/
  satId : Int32
  log : LogFile
  buf : RecvBuffer
  sender : Broadcast

namespace SatelliteProcess

/-- `NetworkManager::ack`. -/
def ack (p : SatelliteProcess) (os : Int32 → Os) : Except Stop (List Effect) :=
  p.satellite.handler.sendMessageToPeer os 0 (.build p.satId p.satellite.port (.ack true))

/-- What the listener does with the type of a message, before it looks at its sender. -/
def onType (p : SatelliteProcess) (os : Int32 → Os) (message : Message) :
    Except Stop (SatelliteProcess × List Effect) :=
  if message.header.type = MessageType.ack.tag ∧ p.satellite.waitingForAck = true then
    .ok ({ p with satellite := p.satellite.setWaitingForAck false, log := p.log.clearFile }, [])
  else if message.header.type = MessageType.command.tag then do
    assert (message.header.size = MessageType.command.sizeof) "message.header.size == sizeof(Command)"
    match message.body with
    | .command x y z vx vy vz =>
      let satellite ← p.satellite.handleCommand message x y z vx vy vz
      let p := { p with satellite }
      let effects ← p.ack os
      return (p, effects)
    | _ => throw (.undefined "static_cast of another message to Command")
  else .ok (p, [])

/-- The sender of a message is added if it is not known, else heard. -/
def meet (p : SatelliteProcess) (now : Nat) (os : Int32 → Os) (message : Message) (ip : String) :
    Except Stop (ConnectionHandler × List Effect) := do
  let known ← p.satellite.handler.hasConnection message.senderId
  if known = false then
    p.satellite.handler.addConnection now os message.senderPort ip message.senderId p.satId
  else
    let handler ← p.satellite.handler.heartbeatSat now message.senderId
    return (handler, [])

/-- What it does about the sender. -/
def onSender (p : SatelliteProcess) (now : Nat) (os : Int32 → Os) (message : Message) (ip : String) :
    Except Stop (SatelliteProcess × List Effect) := do
  let (handler, effects) ← p.meet now os message ip
  let logged : Effect := .log (if message.senderId ≠ 0 then
      "[NETWORK] Message received from Satellite: " ++ toString message.senderId
    else "[NETWORK] Message received from Ground Control")
  return ({ p with satellite := { p.satellite with handler } }, effects ++ [logged])

def onMessage (p : SatelliteProcess) (now : Nat) (os : Int32 → Os) (message : Message) (ip : String) :
    Except Stop (SatelliteProcess × List Effect) := do
  let (p, typed) ← p.onType os message
  let (p, sent) ← p.onSender now os message ip
  return (p, typed ++ sent)

/-- One iteration of `NetworkManager::acceptConnections`. -/
def acceptConnections (p : SatelliteProcess) (now : Nat) (os : Int32 → Os) (datagram : List UInt8)
    (ip : String) : Except Stop (SatelliteProcess × List Effect) := do
  let (buf, message) ← receive p.buf datagram
  match message with
  | none => return ({ p with buf }, [])
  | some message => onMessage { p with buf } now os message ip

/-- A step of one of the threads. A datagram is given by the message that was serialized, or, if
it is none of these, by its bytes. A step of the sender that is at another point of its loop does nothing. -/
inductive Event
  | connect (now : Nat) (os : Int32 → Os) (port : Int32) (ip : String) (peerId : Int32)
  | datagram (now : Nat) (os : Int32 → Os) (m : Message) (pad : Block 3) (ip : String)
  | stray (now : Nat) (os : Int32 → Os) (bytes : List UInt8) (ip : String)
  | update (now : Nat) (os : Int32 → Os) (axpy : Double → Double → Double)
  | logLine (stamp : Block 19) (msg : List UInt8)
  | broadcast (os : Int32 → Os)
  /-- The sender has a dump created, if it knows ground control. -/
  | dump (stale : Nat → Chunk)
  /-- It sends the next chunk. -/
  | sendChunk (os : Int32 → Os)
  /-- It has sent all chunks and raises the flag. -/
  | raise

def step (p : SatelliteProcess) : Event → Except Stop (SatelliteProcess × List Effect)
  | .connect now os port ip peerId => do
    let (handler, effects) ← p.satellite.handler.addConnection now os port ip peerId p.satellite.id.toInt32
    return ({ p with satellite := { p.satellite with handler } }, effects)
  | .datagram now os m pad ip => p.acceptConnections now os (m.serialize pad) ip
  | .stray now os bytes ip => p.acceptConnections now os bytes ip
  | .update now os axpy => do
    let (satellite, effects) ← p.satellite.update now os axpy
    return ({ p with satellite }, effects)
  | .logLine stamp msg => .ok ({ p with log := p.log.log stamp msg }, [])
  | .broadcast os =>
    match p.sender with
    | .ready => do
      let message ← p.satellite.createHeartbeatMessage
      let effects ← p.satellite.handler.broadcastMessage os message
      return (p, effects)
    | .sending _ => .ok (p, [])
  | .dump stale =>
    match p.sender with
    | .ready => do
      let known ← p.satellite.handler.hasConnection 0
      if known = true then
        return ({ p with
          log := p.log.truncate
          sender := .sending (p.satellite.createDataDump p.log.bytes stale) }, [])
      else return (p, [])
    | .sending _ => .ok (p, [])
  | .sendChunk os =>
    match p.sender with
    | .sending (m :: rest) => do
      let effects ← p.satellite.handler.sendMessageToPeer os 0 m
      return ({ p with sender := .sending rest }, effects)
    | _ => .ok (p, [])
  | .raise =>
    match p.sender with
    | .sending [] => .ok ({ p with satellite := p.satellite.setWaitingForAck true, sender := .ready }, [])
    | _ => .ok (p, [])

/-- The event is a step of the sender. -/
def Event.IsSender : Event → Prop
  | .broadcast _ => True
  | .dump _ => True
  | .sendChunk _ => True
  | .raise => True
  | _ => False

/-- The steps that return, with what they call. -/
inductive Moves (p : SatelliteProcess) : Event → SatelliteProcess → List Effect → Prop
  | connect {now : Nat} {os : Int32 → Os} {port : Int32} {ip : String} {peerId : Int32} {handler : ConnectionHandler}
      {w : List Effect}
      (hadd : p.satellite.handler.addConnection now os port ip peerId p.satellite.id.toInt32 = .ok (handler, w)) :
      Moves p (.connect now os port ip peerId) { p with satellite := { p.satellite with handler } } w
  | datagram {now : Nat} {os : Int32 → Os} {m : Message} {pad : Block 3} {ip : String} {p' : SatelliteProcess}
      {w : List Effect} (haccept : p.acceptConnections now os (m.serialize pad) ip = .ok (p', w)) :
      Moves p (.datagram now os m pad ip) p' w
  | stray {now : Nat} {os : Int32 → Os} {bytes : List UInt8} {ip : String} {p' : SatelliteProcess} {w : List Effect}
      (haccept : p.acceptConnections now os bytes ip = .ok (p', w)) : Moves p (.stray now os bytes ip) p' w
  | update {now : Nat} {os : Int32 → Os} {axpy : Double → Double → Double} {handler : ConnectionHandler}
      {w : List Effect} (hupdate : p.satellite.handler.update now os = .ok (handler, w)) :
      Moves p (.update now os axpy) { p with
        satellite := { p.satellite with
          handler
          x := axpy p.satellite.vx p.satellite.x
          y := axpy p.satellite.vy p.satellite.y
          z := axpy p.satellite.vz p.satellite.z } } w
  | logLine {stamp : Block 19} {msg : List UInt8} : Moves p (.logLine stamp msg) { p with log := p.log.log stamp msg } []
  | broadcast {os : Int32 → Os} {message : Message} {w : List Effect} (hready : p.sender = .ready)
      (hmessage : p.satellite.createHeartbeatMessage = .ok message)
      (hsent : p.satellite.handler.broadcastMessage os message = .ok w) : Moves p (.broadcast os) p w
  | dump {stale : Nat → Chunk} (hready : p.sender = .ready) (hknown : p.satellite.handler.hasConnection 0 = .ok true) :
      Moves p (.dump stale) { p with
        log := p.log.truncate
        sender := .sending (p.satellite.createDataDump p.log.bytes stale) } []
  | sendChunk {os : Int32 → Os} {m : Message} {rest : List Message} {w : List Effect}
      (hsending : p.sender = .sending (m :: rest)) (hsent : p.satellite.handler.sendMessageToPeer os 0 m = .ok w) :
      Moves p (.sendChunk os) { p with sender := .sending rest } w
  | raise (hsending : p.sender = .sending []) :
      Moves p .raise { p with satellite := p.satellite.setWaitingForAck true, sender := .ready } []
  /-- The sender is at another point of its loop. -/
  | idle {e : Event} (he : e.IsSender) (hraise : e = .raise → p.sender ≠ .sending []) : Moves p e p []

/-- **What a step can do.** -/
theorem step_moves {p p' : SatelliteProcess} {e : Event} {w : List Effect} (hrun : p.step e = .ok (p', w)) :
    p.Moves e p' w := by
  cases e with
  | connect now os peerPort ip peerId =>
    obtain ⟨⟨h, v⟩, hadd, hret⟩ := bind_eq_ok.mp hrun
    cases hret
    exact .connect hadd
  | datagram now os m pad ip => exact .datagram hrun
  | stray now os bytes ip => exact .stray hrun
  | update now os axpy =>
    obtain ⟨⟨s, v⟩, hupdate, hret⟩ := bind_eq_ok.mp hrun
    cases hret
    obtain ⟨⟨h, v'⟩, hsweep, hret⟩ := bind_eq_ok.mp hupdate
    cases hret
    exact .update hsweep
  | logLine stamp msg =>
    cases hrun
    exact .logLine
  | broadcast os =>
    rw [step] at hrun
    split at hrun
    · rename_i hready
      obtain ⟨m, hm, hrun⟩ := bind_eq_ok.mp hrun
      obtain ⟨v, hv, hret⟩ := bind_eq_ok.mp hrun
      cases hret
      exact .broadcast hready hm hv
    · cases hrun
      exact .idle trivial nofun
  | dump stale =>
    rw [step] at hrun
    split at hrun
    · rename_i hready
      obtain ⟨known, hknown, hrun⟩ := bind_eq_ok.mp hrun
      split_ifs at hrun with hyes
      · cases hrun
        rw [hyes] at hknown
        exact .dump hready hknown
      · cases hrun
        exact .idle trivial nofun
    · cases hrun
      exact .idle trivial nofun
  | sendChunk os =>
    rw [step] at hrun
    split at hrun
    · rename_i m rest hsending
      obtain ⟨v, hv, hret⟩ := bind_eq_ok.mp hrun
      cases hret
      exact .sendChunk hsending hv
    · cases hrun
      exact .idle trivial nofun
  | raise =>
    rw [step] at hrun
    split at hrun
    · rename_i hsending
      cases hrun
      exact .raise hsending
    · rename_i hother
      cases hrun
      exact .idle trivial fun _ => hother

/-- The process before it connects to anyone. -/
def init (satId port : Int32) (buf : RecvBuffer) (x y z vx vy vz : Double) : SatelliteProcess where
  satellite :=
    { handler := ConnectionHandler.init port, id := satId.toUInt32, x, y, z, vx, vy, vz, port,
      waitingForAck := false }
  satId
  log := .opened
  buf
  sender := .ready

/-- What may reach a satellite that listens on `port`: valid messages, and commands only as ground
control sends them; `socket()` and `inet_pton()` succeed. -/
def Event.Legit (port : Int32) : Event → Prop
  | .connect _ os peerPort ip peerId => (∀ i, (os i).Ok) ∧ 0 ≤ peerPort ∧ ip ≠ "" ∧ 0 ≤ peerId
  | .datagram _ os m _ ip => (∀ i, (os i).Ok) ∧ m.Valid ∧ ip ≠ "" ∧
      (m.kind = .command → m.header.size = MessageType.command.sizeof ∧ m.senderId = 0 ∧ m.senderPort ≠ port)
  | .stray _ _ _ _ => False
  | .update _ os _ => ∀ i, (os i).Ok
  | _ => True

/-- What an event means for the link of one peer. -/
def signal (id : Int32) : Event → Option Signal
  | .connect now _ _ _ peerId => if peerId = id then some (.meet now) else none
  | .datagram now _ m _ _ => if m.senderId = id then some (.contact now) else none
  | .update now _ _ => some (.pass now)
  | _ => none

/-! ### One step -/

section
variable {satId port : Int32} {link : Int32 → Option Link} {p : SatelliteProcess}

/-- The process follows the given links, and what its sender still has to send is its own. -/
structure Follows (satId port : Int32) (link : Int32 → Option Link) (p : SatelliteProcess) : Prop where
  satId_pos : 0 < satId
  id : p.satellite.id = satId.toUInt32
  manager : p.satId = satId
  port_eq : p.satellite.port = port
  handler : ConnectionHandler.Follows satId port link p.satellite.handler
  sender : ∀ rest, p.sender = .sending rest → ∀ m ∈ rest, Satellite.Utterance satId port m

theorem init_follows (hid : 0 < satId) (hport : 0 ≤ port) (buf : RecvBuffer) (x y z vx vy vz : Double) :
    Follows satId port (fun _ => none) (init satId port buf x y z vx vy vz) where
  satId_pos := hid
  id := rfl
  manager := rfl
  port_eq := rfl
  handler := ConnectionHandler.init_follows satId hport
  sender := nofun

theorem Follows.id_eq (hp : Follows satId port link p) : p.satellite.id.toInt32 = satId := by
  rw [hp.id, Int32.toInt32_toUInt32]

theorem sendable_of_utterance {m : Message} (hid : 0 < satId) (hport : 0 ≤ port)
    (hm : Satellite.Utterance satId port m) : ConnectionHandler.Sendable m := by
  rw [hm.built]
  exact .build (Int32.le_of_lt hid) hport m.body

theorem sendMessageToPeer_returns {h : ConnectionHandler} (hf : ConnectionHandler.Follows satId port link h)
    (os : Int32 → Os) {peerId : Int32} (hid : 0 ≤ peerId) {m : Message} (hm : ConnectionHandler.Sendable m) :
    ∃ w, h.sendMessageToPeer os peerId m = .ok w := by
  rcases ConnectionHandler.sendMessageToPeer_ok os hf.refines hid hm with
    ⟨l, -, -, q, line, -, hsent⟩ | ⟨-, w, hsent, -⟩
  · exact ⟨_, hsent⟩
  · exact ⟨w, hsent⟩

theorem onType_refines {m : Message} (os : Int32 → Os) (hp : Follows satId port link p) (hm : m.Valid)
    (hcmd : m.kind = .command → m.header.size = MessageType.command.sizeof ∧ m.senderId = 0 ∧ m.senderPort ≠ port) :
    ∃ p' w, p.onType os m = .ok (p', w) ∧ Follows satId port link p' := by
  by_cases hack : m.header.type = MessageType.ack.tag ∧ p.satellite.waitingForAck = true
  · refine ⟨{ p with satellite := p.satellite.setWaitingForAck false, log := p.log.clearFile }, [], ?_,
      ⟨hp.satId_pos, hp.id, hp.manager, hp.port_eq, hp.handler, hp.sender⟩⟩
    rw [onType, if_pos hack]
  · by_cases hcommand : m.header.type = MessageType.command.tag
    · have hkind : m.kind = .command := MessageType.tag_injective (hm.type.symm.trans hcommand)
      obtain ⟨hsize, hsender, hne⟩ := hcmd hkind
      obtain ⟨x, y, z, vx, vy, vz, hbody⟩ : ∃ x y z vx vy vz, m.body = .command x y z vx vy vz := by
        cases hb : m.body with
        | command x y z vx vy vz => exact ⟨x, y, z, vx, vy, vz, rfl⟩
        | heartbeat alive => rw [Message.kind, hb] at hkind; cases hkind
        | fileMsg data len last => rw [Message.kind, hb] at hkind; cases hkind
        | ack received => rw [Message.kind, hb] at hkind; cases hkind
      have happlied : p.satellite.handleCommand m x y z vx vy vz =
          .ok { p.satellite with x, y, z, vx, vy, vz } := by
        have hport : m.senderPort ≠ p.satellite.port := by
          rw [hp.port_eq]
          exact hne
        have hpos : 0 < m.header.size := by
          rw [hsize]
          decide
        rw [Satellite.handleCommand, assert_bind hpos, assert_bind hsender,
          assert_bind (Int32.le_of_lt hm.senderPort), assert_pos hport]
        rfl
      have hsendable : ConnectionHandler.Sendable (.build satId port (.ack true)) :=
        .build (Int32.le_of_lt hp.satId_pos) hp.handler.listening _
      obtain ⟨w, hw⟩ := sendMessageToPeer_returns hp.handler os (by decide : (0 : Int32) ≤ 0) hsendable
      refine ⟨{ p with satellite := { p.satellite with x, y, z, vx, vy, vz } }, w, ?_,
        ⟨hp.satId_pos, hp.id, hp.manager, hp.port_eq, hp.handler, hp.sender⟩⟩
      rw [onType, if_neg hack, if_pos hcommand, assert_bind hsize, hbody]
      dsimp only
      rw [happlied, ok_bind, ack]
      dsimp only
      rw [hp.manager, hp.port_eq, hw]
      rfl
    · refine ⟨p, [], ?_, hp⟩
      rw [onType, if_neg hack, if_neg hcommand]

theorem linksAfter_datagram (now : Nat) (os : Int32 → Os) (m : Message) (pad : Block 3) (ip : String) :
    linksAfter Config.keepalive signal link (.datagram now os m pad ip) =
      Function.update link m.senderId (Link.next Config.keepalive (link m.senderId) (.contact now)) :=
  linksAfter_one _ (if_pos rfl) fun _ hne => if_neg (Ne.symm hne)

theorem linksAfter_connect (now : Nat) (os : Int32 → Os) (peerPort : Int32) (ip : String) (peerId : Int32) :
    linksAfter Config.keepalive signal link (.connect now os peerPort ip peerId) =
      Function.update link peerId (Link.next Config.keepalive (link peerId) (.meet now)) :=
  linksAfter_one _ (if_pos rfl) fun _ hne => if_neg (Ne.symm hne)

theorem onSender_refines {m : Message} (now : Nat) {os : Int32 → Os} {ip : String}
    (hp : Follows satId port link p) (hm : m.Valid) (hip : ip ≠ "") (hos : ∀ i, (os i).Ok) :
    ∃ p' w, p.onSender now os m ip = .ok (p', w) ∧
      Follows satId port (Function.update link m.senderId
        (Link.next Config.keepalive (link m.senderId) (.contact now))) p' := by
  have hmeet : ∃ h' w, p.meet now os m ip = .ok (h', w) ∧ ConnectionHandler.Follows satId port
      (Function.update link m.senderId (Link.next Config.keepalive (link m.senderId) (.contact now))) h' := by
    have hknown : p.satellite.handler.hasConnection m.senderId = .ok (link m.senderId).isSome := by
      rw [ConnectionHandler.hasConnection, assert_bind hm.senderId, hp.handler.refines.isSome]
      rfl
    rw [meet, hknown, ok_bind, hp.manager]
    cases hl : link m.senderId with
    | none =>
      obtain ⟨h', w, hadd, hlisten, hrefines, -⟩ := ConnectionHandler.addConnection_refines now
        hp.handler.refines hm.senderId (Int32.le_of_lt hm.senderPort) hip hp.satId_pos hp.handler.listening_eq
        hp.handler.listening (hos m.senderId)
      rw [hl] at hrefines
      rw [if_pos Option.isSome_none, hadd]
      exact ⟨h', w, rfl, hp.handler.listening, hlisten, hrefines⟩
    | some l =>
      obtain ⟨h', hheard, hlisten, hrefines⟩ :=
        ConnectionHandler.heartbeatSat_refines now hp.handler.refines hm.senderId
      rw [hl] at hrefines
      rw [if_neg (by simp), hheard]
      exact ⟨h', [], rfl, hp.handler.listening, hlisten.trans hp.handler.listening_eq, hrefines⟩
  obtain ⟨h', w, hrun, hfollows⟩ := hmeet
  rw [onSender, hrun]
  exact ⟨_, _, rfl, hp.satId_pos, hp.id, hp.manager, hp.port_eq, hfollows, hp.sender⟩

/-! The steps of the sender concern no link. -/

theorem broadcast_refines (hp : Follows satId port link p) (os : Int32 → Os) :
    ∃ p' w, p.step (.broadcast os) = .ok (p', w) ∧ Follows satId port link p' := by
  cases hs : p.sender with
  | sending rest =>
    refine ⟨p, [], ?_, hp⟩
    rw [step, hs]
  | ready =>
    have hpos : 0 < p.satellite.id := by
      rw [hp.id]
      exact toUInt32_pos hp.satId_pos
    have hport : 0 ≤ p.satellite.port := by
      rw [hp.port_eq]
      exact hp.handler.listening
    have hmsg : p.satellite.createHeartbeatMessage = .ok (.build satId port (.heartbeat true)) := by
      rw [Satellite.createHeartbeatMessage, assert_bind hpos, assert_pos hport, hp.id_eq, hp.port_eq]
      rfl
    obtain ⟨w, hw, -⟩ := ConnectionHandler.broadcastMessage_ok os hp.handler.refines
      (sendable_of_utterance hp.satId_pos hp.handler.listening (.heartbeat true))
    refine ⟨p, w, ?_, hp⟩
    rw [step, hs]
    dsimp only
    rw [hmsg, ok_bind, hw]
    rfl

theorem dump_refines (hp : Follows satId port link p) (stale : Nat → Chunk) :
    ∃ p' w, p.step (.dump stale) = .ok (p', w) ∧ Follows satId port link p' := by
  cases hs : p.sender with
  | sending rest =>
    refine ⟨p, [], ?_, hp⟩
    rw [step, hs]
  | ready =>
    have hknown : p.satellite.handler.hasConnection 0 = .ok (link 0).isSome := by
      rw [ConnectionHandler.hasConnection, assert_bind (by decide : (0 : Int32) ≤ 0),
        hp.handler.refines.isSome]
      rfl
    rw [step, hs]
    dsimp only
    rw [hknown, ok_bind]
    by_cases hl : (link 0).isSome = true
    · rw [if_pos hl]
      refine ⟨_, [], rfl, hp.satId_pos, hp.id, hp.manager, hp.port_eq, hp.handler, ?_⟩
      rintro rest ⟨⟩
      exact Satellite.createDataDump_utterance hp.id_eq hp.port_eq _ _
    · rw [if_neg hl]
      exact ⟨p, [], rfl, hp⟩

theorem sendChunk_refines (hp : Follows satId port link p) (os : Int32 → Os) :
    ∃ p' w, p.step (.sendChunk os) = .ok (p', w) ∧ Follows satId port link p' := by
  cases hs : p.sender with
  | ready =>
    refine ⟨p, [], ?_, hp⟩
    rw [step, hs]
  | sending rest =>
    cases rest with
    | nil =>
      refine ⟨p, [], ?_, hp⟩
      rw [step, hs]
    | cons m rest =>
      have hm : Satellite.Utterance satId port m := hp.sender _ hs m List.mem_cons_self
      obtain ⟨w, hw⟩ := sendMessageToPeer_returns hp.handler os (by decide : (0 : Int32) ≤ 0)
        (sendable_of_utterance hp.satId_pos hp.handler.listening hm)
      refine ⟨{ p with sender := .sending rest }, w, ?_, hp.satId_pos, hp.id, hp.manager, hp.port_eq, hp.handler, ?_⟩
      · rw [step, hs]
        dsimp only
        rw [hw]
        rfl
      · rintro rest' ⟨⟩
        exact fun m' hm' => hp.sender _ hs m' (List.mem_cons_of_mem _ hm')

theorem raise_refines (hp : Follows satId port link p) :
    ∃ p' w, p.step .raise = .ok (p', w) ∧ Follows satId port link p' := by
  cases hs : p.sender with
  | ready =>
    refine ⟨p, [], ?_, hp⟩
    rw [step, hs]
  | sending rest =>
    cases rest with
    | nil =>
      have hrun : p.step .raise =
          .ok ({ p with satellite := p.satellite.setWaitingForAck true, sender := .ready }, []) := by
        rw [step, hs]
      exact ⟨_, [], hrun, hp.satId_pos, hp.id, hp.manager, hp.port_eq, hp.handler, nofun⟩
    | cons m rest =>
      refine ⟨p, [], ?_, hp⟩
      rw [step, hs]

/-- **A step over a well-formed event returns and follows the links.** -/
theorem step_refines {e : Event} (hp : Follows satId port link p) (he : e.Legit port) :
    ∃ p' w, p.step e = .ok (p', w) ∧ Follows satId port (linksAfter Config.keepalive signal link e) p' := by
  cases e with
  | connect now os peerPort ip peerId =>
    obtain ⟨hos, hport, hip, hid⟩ := he
    obtain ⟨h', w, hadd, hlisten, hrefines, -⟩ := ConnectionHandler.addConnection_refines now
      hp.handler.refines hid hport hip hp.satId_pos hp.handler.listening_eq hp.handler.listening (hos peerId)
    refine ⟨{ p with satellite := { p.satellite with handler := h' } }, w, ?_, ?_⟩
    · rw [step, hp.id_eq, hadd]
      rfl
    · rw [linksAfter_connect]
      exact ⟨hp.satId_pos, hp.id, hp.manager, hp.port_eq, ⟨hp.handler.listening, hlisten, hrefines⟩, hp.sender⟩
  | datagram now os m pad ip =>
    obtain ⟨hos, hm, hip, hcmd⟩ := he
    have hp₀ : Follows satId port link { p with buf := recvfrom p.buf (m.serialize pad) } :=
      ⟨hp.satId_pos, hp.id, hp.manager, hp.port_eq, hp.handler, hp.sender⟩
    obtain ⟨p₁, w₁, htype, hp₁⟩ := onType_refines os hp₀ hm hcmd
    obtain ⟨p₂, w₂, hsender, hp₂⟩ := onSender_refines now hp₁ hm hip hos
    refine ⟨p₂, w₁ ++ w₂, ?_, ?_⟩
    · rw [step, acceptConnections, receive_serialize hm, ok_bind]
      dsimp only
      rw [onMessage, htype, ok_bind]
      dsimp only
      rw [hsender]
      rfl
    · rw [linksAfter_datagram]
      exact hp₂
  | stray now os bytes ip => exact he.elim
  | update now os axpy =>
    obtain ⟨h', w, hupdate, hlisten, hrefines, -⟩ :=
      ConnectionHandler.update_refines now hp.handler.refines he
    have hrun : p.step (.update now os axpy) = .ok ({ p with
        satellite := { p.satellite with
          handler := h'
          x := axpy p.satellite.vx p.satellite.x
          y := axpy p.satellite.vy p.satellite.y
          z := axpy p.satellite.vz p.satellite.z } }, w) := by
      rw [step, Satellite.update]
      dsimp only
      rw [hupdate]
      rfl
    exact ⟨_, w, hrun, hp.satId_pos, hp.id, hp.manager, hp.port_eq,
      ⟨hp.handler.listening, hlisten.trans hp.handler.listening_eq, hrefines⟩, hp.sender⟩
  | logLine stamp msg => exact ⟨_, [], rfl, hp.satId_pos, hp.id, hp.manager, hp.port_eq, hp.handler, hp.sender⟩
  | broadcast os => exact broadcast_refines hp os
  | dump stale => exact dump_refines hp stale
  | sendChunk os => exact sendChunk_refines hp os
  | raise => exact raise_refines hp

theorem run_refines (hid : 0 < satId) (hport : 0 ≤ port) (buf : RecvBuffer) (x y z vx vy vz : Double)
    {es : List Event} (hlegit : ∀ e ∈ es, e.Legit port) :
    ∃ p w, run step (init satId port buf x y z vx vy vz) es = .ok (p, w) ∧
      Follows satId port (fun id => linkOf Config.keepalive (signal id) es) p := by
  induction es using List.reverseRecOn with
  | nil => exact ⟨_, _, rfl, init_follows hid hport buf x y z vx vy vz⟩
  | append_singleton es e ih =>
    obtain ⟨p, w, hrun, hp⟩ := ih fun e' he' => hlegit e' (List.mem_append_left _ he')
    obtain ⟨p', w', hstep, hp'⟩ := step_refines hp (hlegit e (List.mem_append_right _ List.mem_cons_self))
    rw [linksAfter_linkOf] at hp'
    exact ⟨p', _, run_snoc_ok.mpr ⟨p, w, w', hrun, hstep, rfl⟩, hp'⟩

end

end SatelliteProcess

end Constellation
