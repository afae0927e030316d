import Constellation.GroundControl.Receiver

/-!
# The ground control process

The state the threads of ground control share, and the steps they take: the main thread connects the
satellites of the configuration file, the listener handles a datagram, the update thread makes a
round, the sender delivers an operator command. A step reads the clock once.

As a whole the process follows the links of the keepalive model: `step_refines` is the simulation of
one step, and `step_closed` says what a step does that needs a channel where none is open.
-/

namespace Constellation

structure GroundControl where
  handler : GCConnectionHandler
  receiver : Receiver
  buf : RecvBuffer

namespace GroundControl

/-- The process before `connectToSatellites`, with whatever the receive buffer holds. -/
def init (gcPort : Int32) (buf : RecvBuffer) : GroundControl where
  handler := { satellites := ∅, gcPort }
  receiver := { buffer := fun _ => [], gcPort }
  buf

/-- What the listener does with a decoded message. -/
def onMessage (g : GroundControl) (now : Nat) (os : Int32 → Os) (message : Message) (ip : String) :
    Except Stop (GroundControl × List Effect) := do
  let (handler, effects) ← g.receiver.addConnection now os message g.handler ip
  let (receiver, acked) ← g.receiver.ack os message handler
  return ({ g with handler, receiver }, effects ++ acked)

/-- One iteration of `Receiver::listen`. -/
def listen (g : GroundControl) (now : Nat) (os : Int32 → Os) (datagram : List UInt8) (ip : String) :
    Except Stop (GroundControl × List Effect) := do
  let (buf, message) ← receive g.buf datagram
  match message with
  | none => return ({ g with buf }, [])
  | some message => onMessage { g with buf } now os message ip

/-- A step of one of the threads. A datagram is given by the message that was serialized. -/
inductive Event
  | config (now : Nat) (os : Int32 → Os) (port : Int32) (ip : String) (id : Int32)
  | datagram (now : Nat) (os : Int32 → Os) (m : Message) (pad : Block 3) (ip : String)
  | update (now : Nat) (os : Int32 → Os)
  | command (os : Int32 → Os) (com : CommandInput)

def step (g : GroundControl) : Event → Except Stop (GroundControl × List Effect)
  | .config now os port ip id => do
    let (handler, effects) ← g.handler.addConnection now os port ip id
    return ({ g with handler }, effects)
  | .datagram now os m pad ip => g.listen now os (m.serialize pad) ip
  | .update now os => do
    let (handler, effects) ← g.handler.update now os
    return ({ g with handler }, effects)
  | .command os com => do
    let effects ← g.handler.sendCommand os com
    return (g, effects)

/-- `socket()` and `inet_pton()` succeed, the configuration is usable, and a datagram is one of a
satellite. -/
def Event.Legit (gcPort : Int32) : Event → Prop
  | .config _ os port ip id => (∀ i, (os i).Ok) ∧ 0 < id ∧ 0 < port ∧ port ≠ gcPort ∧ ip ≠ ""
  | .datagram _ os m _ ip => (∀ i, (os i).Ok) ∧ Receiver.FromSatellite gcPort m ∧ ip ≠ ""
  | .update _ os => ∀ i, (os i).Ok
  | .command _ _ => True

/-- What an event means for the link of one satellite. -/
def signal (id : Int32) : Event → Option Signal
  | .config _ _ _ _ satId => if satId = id then some .call else none
  | .datagram now _ m _ _ => if m.senderId = id then some (.contact now) else none
  | .update now _ => some (.pass now)
  | .command _ _ => none

/-- Ground control answers a datagram, and delivers a command, to this satellite. -/
def Event.SendsTo (id : Int32) : Event → Prop
  | .datagram _ _ m _ _ => m.senderId = id
  | .command _ com => com.id.toInt32 = id
  | _ => False

/-! ### One step -/

section
variable {gcPort : Int32} {link : Int32 → Option Link} {g : GroundControl}

/-- The process follows the given links. -/
structure Follows (gcPort : Int32) (link : Int32 → Option Link) (g : GroundControl) : Prop where
  port_pos : 0 < gcPort
  handlerPort : g.handler.gcPort = gcPort
  receiverPort : g.receiver.gcPort = gcPort
  refines : GCConnectionHandler.Refines link g.handler.satellites

theorem init_follows (hgc : 0 < gcPort) (buf : RecvBuffer) : Follows gcPort (fun _ => none) (init gcPort buf) :=
  ⟨hgc, rfl, rfl, fun _ => .none⟩

theorem addConnection_follows {m : Message} (now : Nat) {os : Int32 → Os} {ip : String}
    (hg : Follows gcPort link g) (hm : Receiver.FromSatellite gcPort m) (hip : ip ≠ "")
    (hos : ∀ i, (os i).Ok) :
    ∃ handler w, g.receiver.addConnection now os m g.handler ip = .ok (handler, w) ∧
      handler.gcPort = gcPort ∧
      GCConnectionHandler.Refines (Function.update link m.senderId
        (Link.next Config.keepalive (link m.senderId) (.contact now))) handler.satellites := by
  have hgc : 0 ≤ g.receiver.gcPort := by
    rw [hg.receiverPort]
    exact Int32.le_of_lt hg.port_pos
  have hknown : g.handler.hasConnection m.senderId = .ok (link m.senderId).isSome := by
    rw [GCConnectionHandler.hasConnection, assert_bind hm.id, hg.refines.isSome]
    rfl
  rw [Receiver.addConnection, assert_bind hm.deliverable.size_pos, assert_bind hm.id,
    assert_bind (Int32.le_of_lt hm.port), assert_bind hgc, hknown, ok_bind]
  cases hl : link m.senderId with
  | some l =>
    obtain ⟨handler, hheard, hport, hrefines⟩ := GCConnectionHandler.heartbeatSat_refines now hg.refines hm.id hl
    rw [if_neg (by simp), hheard, ok_bind, Parser.dataDecoder_status hm.id]
    exact ⟨handler, _, rfl, hport.trans hg.handlerPort, hrefines⟩
  | none =>
    have hne : m.senderPort ≠ g.handler.gcPort := by
      rw [hg.handlerPort]
      exact hm.port_ne
    have hpos : 0 < g.handler.gcPort := by
      rw [hg.handlerPort]
      exact hg.port_pos
    obtain ⟨handler, w, hadd, hport, hrefines⟩ :=
      GCConnectionHandler.addConnection_refines now hg.refines hm.id hm.port hne hip hpos (hos m.senderId)
    obtain ⟨handler', hheard, hport', hrefines'⟩ :=
      GCConnectionHandler.heartbeatSat_refines now hrefines hm.id (Function.update_self ..)
    rw [if_pos Option.isSome_none, hadd, ok_bind]
    dsimp only
    rw [hheard]
    refine ⟨handler', _, rfl, hport'.trans (hport.trans hg.handlerPort), ?_⟩
    rw [Function.update_idem, hl] at hrefines'
    exact hrefines'

theorem onMessage_follows {m : Message} (now : Nat) {os : Int32 → Os} {ip : String}
    (hg : Follows gcPort link g) (hm : Receiver.FromSatellite gcPort m) (hip : ip ≠ "")
    (hos : ∀ i, (os i).Ok) {l : Link}
    (hl : Link.next Config.keepalive (link m.senderId) (.contact now) = some l) :
    (l.isOpen = true → ∃ g' w, g.onMessage now os m ip = .ok (g', w) ∧
      Follows gcPort (Function.update link m.senderId (some l)) g') ∧
    (l.isOpen = false → g.onMessage now os m ip = .error (.asserts "satSocket >= 0")) := by
  obtain ⟨handler, w, hadd, hport, hrefines⟩ := addConnection_follows now hg hm hip hos
  obtain ⟨r, w', hhandle, hrport, -, -⟩ := Receiver.handle_ok (r := g.receiver) hm.deliverable
  rw [decide_eq_true hm.kind] at hhandle
  rw [hl] at hrefines
  have hgc : 0 ≤ g.receiver.gcPort := by
    rw [hg.receiverPort]
    exact Int32.le_of_lt hg.port_pos
  have hack : 0 < r.ackMessage.senderPort := by
    show 0 < r.gcPort
    rw [hrport, hg.receiverPort]
    exact hg.port_pos
  have hrun : g.onMessage now os m ip = (do
      let sent ← handler.sendMessageToSat os m.senderId r.ackMessage
      return ({ g with handler, receiver := r }, w ++ (w' ++ sent))) := by
    rw [onMessage, hadd, ok_bind]
    dsimp only
    rw [Receiver.ack, assert_bind hm.deliverable.size_pos, assert_bind hm.id,
      assert_bind (Int32.le_of_lt hm.port), assert_bind hgc, hhandle, ok_bind]
    dsimp only
    rw [if_pos rfl]
    cases handler.sendMessageToSat os m.senderId r.ackMessage <;> rfl
  rw [hrun]
  constructor
  · intro hopen
    obtain ⟨sent, hsent⟩ := GCConnectionHandler.sendMessageToSat_ok os hrefines hack
      (by decide : (0 : UInt32) < 32) fun l' hl' => by
        rw [Function.update_self] at hl'
        cases hl'
        exact hopen
    rw [hsent]
    exact ⟨_, _, rfl, hg.port_pos, hport, hrport.trans hg.receiverPort, hrefines⟩
  · intro hclosed
    rw [GCConnectionHandler.sendMessageToSat_closed os hrefines hack (by decide : (0 : UInt32) < 32)
      (Function.update_self ..) hclosed]
    rfl

theorem linksAfter_datagram (now : Nat) (os : Int32 → Os) (m : Message) (pad : Block 3) (ip : String) :
    linksAfter Config.keepalive signal link (.datagram now os m pad ip) =
      Function.update link m.senderId (Link.next Config.keepalive (link m.senderId) (.contact now)) :=
  linksAfter_one _ (if_pos rfl) fun _ hne => if_neg (Ne.symm hne)

theorem linksAfter_config (now : Nat) (os : Int32 → Os) (port : Int32) (ip : String) (satId : Int32) :
    linksAfter Config.keepalive signal link (.config now os port ip satId) =
      Function.update link satId (Link.next Config.keepalive (link satId) .call) :=
  linksAfter_one _ (if_pos rfl) fun _ hne => if_neg (Ne.symm hne)

theorem listen_serialize {m : Message} (hm : m.Valid) (now : Nat) (os : Int32 → Os) (pad : Block 3)
    (ip : String) : g.listen now os (m.serialize pad) ip =
      onMessage { g with buf := recvfrom g.buf (m.serialize pad) } now os m ip := by
  rw [listen, receive_serialize hm]
  rfl

theorem sendCommand_follows (hg : Follows gcPort link g) (os : Int32 → Os) (com : CommandInput) :
    g.handler.sendCommand os com =
        g.handler.sendMessageToSat os com.id.toInt32 (g.handler.commandMessage com) ∧
      0 < (g.handler.commandMessage com).senderPort := by
  have hgc : 0 < g.handler.gcPort := by
    rw [hg.handlerPort]
    exact hg.port_pos
  refine ⟨?_, hgc⟩
  rw [GCConnectionHandler.sendCommand, assert_pos (Int32.le_of_lt hgc)]
  rfl

/-- **A step returns and follows the links** when it sends on open channels only. -/
theorem step_refines {e : Event} (hg : Follows gcPort link g) (he : e.Legit gcPort)
    (hopen : ∀ id, e.SendsTo id → ∀ l, linksAfter Config.keepalive signal link e id = some l → l.isOpen = true) :
    ∃ g' w, g.step e = .ok (g', w) ∧ Follows gcPort (linksAfter Config.keepalive signal link e) g' := by
  have hgc : 0 < g.handler.gcPort := by
    rw [hg.handlerPort]
    exact hg.port_pos
  cases e with
  | config now os port ip id =>
    obtain ⟨hos, hid, hport, hne, hip⟩ := he
    obtain ⟨handler, w, hadd, hhport, hrefines⟩ := GCConnectionHandler.addConnection_refines now hg.refines
      hid hport (by rw [hg.handlerPort]; exact hne) hip hgc (hos id)
    refine ⟨{ g with handler }, w, ?_, hg.port_pos, hhport.trans hg.handlerPort, hg.receiverPort, ?_⟩
    · rw [step, hadd]
      rfl
    · rw [linksAfter_config]
      exact hrefines
  | datagram now os m pad ip =>
    obtain ⟨hos, hm, hip⟩ := he
    have hg' : Follows gcPort link { g with buf := recvfrom g.buf (m.serialize pad) } :=
      ⟨hg.port_pos, hg.handlerPort, hg.receiverPort, hg.refines⟩
    obtain ⟨hsent, -⟩ := onMessage_follows (g := { g with buf := recvfrom g.buf (m.serialize pad) }) now hg' hm
      hip hos rfl
    rw [step, listen_serialize hm.valid, linksAfter_datagram]
    refine hsent (hopen m.senderId rfl _ ?_)
    rw [linksAfter_datagram, Function.update_self]
    rfl
  | update now os =>
    obtain ⟨handler, w, hupdate, hhport, hrefines⟩ := GCConnectionHandler.update_refines now hg.refines he
    refine ⟨{ g with handler }, w, ?_, hg.port_pos, hhport.trans hg.handlerPort, hg.receiverPort, hrefines⟩
    rw [step, hupdate]
    rfl
  | command os com =>
    obtain ⟨hsend, hport⟩ := sendCommand_follows hg os com
    obtain ⟨w, hw⟩ := GCConnectionHandler.sendMessageToSat_ok os hg.refines hport
      (by decide : (0 : UInt32) < 72) (hopen com.id.toInt32 rfl)
    refine ⟨g, w, ?_, hg⟩
    rw [step, hsend, hw]
    rfl

theorem step_closed {e : Event} (hg : Follows gcPort link g) (he : e.Legit gcPort) {id : Int32}
    (hsends : e.SendsTo id) {l : Link} (hl : linksAfter Config.keepalive signal link e id = some l) (hclosed : l.isOpen = false) :
    g.step e = .error (.asserts "satSocket >= 0") := by
  cases e with
  | config now os port ip id => cases hsends
  | update now os => cases hsends
  | datagram now os m pad ip =>
    obtain ⟨hos, hm, hip⟩ := he
    have hg' : Follows gcPort link { g with buf := recvfrom g.buf (m.serialize pad) } :=
      ⟨hg.port_pos, hg.handlerPort, hg.receiverPort, hg.refines⟩
    have hid : m.senderId = id := hsends
    subst hid
    rw [linksAfter_datagram, Function.update_self] at hl
    obtain ⟨-, habort⟩ := onMessage_follows (g := { g with buf := recvfrom g.buf (m.serialize pad) }) now hg' hm
      hip hos hl
    rw [step, listen_serialize hm.valid]
    exact habort hclosed
  | command os com =>
    have hid : com.id.toInt32 = id := hsends
    subst hid
    obtain ⟨hsend, hport⟩ := sendCommand_follows hg os com
    rw [step, hsend, GCConnectionHandler.sendMessageToSat_closed os hg.refines hport
      (by decide : (0 : UInt32) < 72) hl hclosed]
    rfl

end

end GroundControl

end Constellation
