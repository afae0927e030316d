import Constellation.Config
import Constellation.Effect
import Constellation.Lib.Stop

/-!
# Ground control's connection to one satellite

The methods of `Connection`. A call reads the clock and the answers of the operating system as
arguments and returns the connection with the effects it had, or the way it stopped. Clock readings
are natural numbers, so the assertions that they are not negative hold and are left out; `peerAddr`
is the address the socket sends to, and the scratch vector `msg` of `sendMessage` is not kept.

A connection follows a keepalive link (`Connection.Tracks`): every method but `sendMessage` returns
on a well-formed connection and moves the link it tracks by one signal, and `sendMessage` returns
exactly when the link's channel is open.
-/

namespace Constellation

inductive GCConnectionState
  | connected
  | disconnected
  deriving DecidableEq

structure Connection where
  id : Int32
  satSocket : Int
  port : Int32
  ip : String
  peerAddr : SockAddr
  state : GCConnectionState
  lastHeartbeat : Nat
  lastReconnect : Nat
  retryCounter : Nat
  gcPort : Int32
  deriving DecidableEq

namespace Connection

/-- The constructor. -/
def new (now : Nat) (id port : Int32) (ip : String) (gcPort : Int32) : Connection where
  id
  satSocket := -1
  port
  ip
  peerAddr := default
  state := .disconnected
  lastHeartbeat := now
  lastReconnect := now
  retryCounter := 0
  gcPort

def sendMessage (c : Connection) (os : Os) (message : Message) : Except Stop (List Effect) := do
  assert (0 ≤ c.satSocket) "satSocket >= 0"
  assert (0 < message.senderPort) "message.senderPort > 0"
  assert (0 < message.header.size) "message.header.size > 0"
  let sent := os.sendto message
  return [.sendto c.id c.satSocket c.peerAddr message,
    .log (if sent < 0 then "[ERROR] Error sending message to Satellite"
      else if sent < message.kind.layout then "[ERROR] Partial send to Satellite"
      else "[NETWORK] Sent message to Satellite")]

/-- The heartbeat that opens a connection. -/
def greeting (c : Connection) : Message := .build 0 c.gcPort (.heartbeat true)

def connect (c : Connection) (os : Os) : Except Stop (Connection × List Effect) := do
  assert (0 < c.port) "port > 0"
  assert (c.ip ≠ "") "!ip.empty()"
  let c := { c with satSocket := os.socket }
  if c.satSocket < 0 then
    return (c, [.log "[ERROR] Error creating socket for peer"])
  let c := { c with peerAddr := { sin_addr := "0.0.0.0", sin_port := c.port.toUInt32.toUInt16 } }
  if os.inet_pton = false then
    return (c, [.opened os.socket, .log "[ERROR] Invalid address / Address not supported for peer"])
  let c := { c with peerAddr := { c.peerAddr with sin_addr := c.ip } }
  let sent ← c.sendMessage os c.greeting
  return (c, .opened os.socket :: sent ++
    [.log ("[NETWORK] Attempting to connect to Satellite " ++ toString c.id ++ ", at address: " ++ c.ip ++
      ":" ++ toString c.port)])

def disconnect (c : Connection) (now : Nat) (os : Os) : Connection × List Effect :=
  let closing : List Effect :=
    if 0 ≤ c.satSocket then
      .closed c.satSocket :: if os.close ≤ 0 then [.log "[ERROR] Socket failed to close"] else []
    else []
  ({ c with satSocket := -1, state := .disconnected, lastReconnect := now }, closing)

def heartbeat (c : Connection) (now : Nat) : Connection := { c with lastHeartbeat := now }

/-- The returned boolean is false when the retries are used up. -/
def reconnect (c : Connection) (now : Nat) (os : Os) : Except Stop (Bool × Connection × List Effect) := do
  if now - c.lastReconnect < Config.RECONNECT_INTERVAL then return (true, c, [])
  let c := { c with retryCounter := c.retryCounter + 1 }
  if Config.MAX_RECONNECT_ATTEMPTS < c.retryCounter then return (false, c, [])
  let c := { c with lastReconnect := now }
  let announced : Effect := .log ("[NETWORK] Reconnecting to Satellite Id: " ++ toString c.id ++
    "; Reconnect counter = " ++ toString c.retryCounter)
  let (c, closing) := c.disconnect now os
  let (c, opening) ← c.connect os
  return (true, c, announced :: closing ++ opening)

def isTimedOut (c : Connection) (now : Nat) : Bool := Config.TIMEOUT_THRESHOLD < now - c.lastHeartbeat

def markConnected (c : Connection) : Connection := { c with state := .connected, retryCounter := 0 }

def isDead (c : Connection) : Bool := Config.MAX_RECONNECT_ATTEMPTS < c.retryCounter

/-! ### What a call that returns did -/

section
variable {c c' : Connection} {now : Nat} {os : Os} {w : List Effect}

theorem sendMessage_sent {message : Message} (hrun : c.sendMessage os message = .ok w) :
    0 ≤ c.satSocket ∧ ∃ line, w = [.sendto c.id c.satSocket c.peerAddr message, .log line] := by
  unfold sendMessage at hrun
  simp only [assert_bind_eq_ok] at hrun
  obtain ⟨hsock, -, -, hrun⟩ := hrun
  cases hrun
  exact ⟨hsock, _, rfl⟩

theorem connect_cases (hrun : c.connect os = .ok (c', w)) : 0 < c.port ∧
    ((os.socket < 0 ∧ c' = { c with satSocket := os.socket } ∧ ∃ line, w = [.log line]) ∨
      (¬ os.socket < 0 ∧ ∃ dest line, c' = { c with satSocket := os.socket, peerAddr := dest } ∧
        w = [.opened os.socket, .log line]) ∨
      (¬ os.socket < 0 ∧ ∃ dest line attempt, c' = { c with satSocket := os.socket, peerAddr := dest } ∧
        w = [.opened os.socket, .sendto c.id os.socket dest c.greeting, .log line, .log attempt])) := by
  unfold connect at hrun
  simp only [assert_bind_eq_ok] at hrun
  obtain ⟨hport, -, hrun⟩ := hrun
  refine ⟨hport, ?_⟩
  by_cases hsock : os.socket < 0
  · rw [if_pos hsock] at hrun
    cases hrun
    exact .inl ⟨hsock, rfl, _, rfl⟩
  rw [if_neg hsock] at hrun
  split_ifs at hrun
  · cases hrun
    exact .inr (.inl ⟨hsock, _, _, rfl, rfl⟩)
  · obtain ⟨sent, hsent, hret⟩ := bind_eq_ok.mp hrun
    obtain ⟨-, line, rfl⟩ := sendMessage_sent hsent
    cases hret
    exact .inr (.inr ⟨hsock, _, line, _, rfl, rfl⟩)

/-- `reconnect` comes too early, or finds the retries used up, or makes an attempt. -/
theorem reconnect_cases {trying : Bool} (hrun : c.reconnect now os = .ok (trying, c', w)) :
    (now - c.lastReconnect < Config.RECONNECT_INTERVAL ∧ trying = true ∧ c' = c ∧ w = []) ∨
      (¬ now - c.lastReconnect < Config.RECONNECT_INTERVAL ∧ Config.MAX_RECONNECT_ATTEMPTS < c.retryCounter + 1 ∧
        trying = false ∧ c' = { c with retryCounter := c.retryCounter + 1 } ∧ w = []) ∨
      (¬ now - c.lastReconnect < Config.RECONNECT_INTERVAL ∧ ¬ Config.MAX_RECONNECT_ATTEMPTS < c.retryCounter + 1 ∧
        trying = true ∧ ∃ line opening,
          (({ c with retryCounter := c.retryCounter + 1, lastReconnect := now } : Connection).disconnect
            now os).1.connect os = .ok (c', opening) ∧
          w = .log line :: (c.disconnect now os).2 ++ opening) := by
  by_cases hsoon : now - c.lastReconnect < Config.RECONNECT_INTERVAL
  · rw [reconnect, if_pos hsoon] at hrun
    cases hrun
    exact .inl ⟨hsoon, rfl, rfl, rfl⟩
  rw [reconnect, if_neg hsoon] at hrun
  dsimp only at hrun
  by_cases hlimit : Config.MAX_RECONNECT_ATTEMPTS < c.retryCounter + 1
  · rw [if_pos hlimit] at hrun
    cases hrun
    exact .inr (.inl ⟨hsoon, hlimit, rfl, rfl, rfl⟩)
  rw [if_neg hlimit] at hrun
  obtain ⟨⟨c₁, opening⟩, hconnect, hret⟩ := bind_eq_ok.mp hrun
  cases hret
  exact .inr (.inr ⟨hsoon, hlimit, rfl, _, opening, hconnect, rfl⟩)

end

/-! ### The link a connection tracks -/

/-- The parameters of a connection that its assertions ask for. -/
structure Sound (c : Connection) (id : Int32) : Prop where
  id_eq : c.id = id
  id_pos : 0 < id
  port : 0 < c.port
  ip : c.ip ≠ ""
  gcPort : 0 < c.gcPort

/-- The fields of a connection whose link is in the given state. -/
inductive Tracks : Link → Connection → Prop
  | probing {c : Connection} (hstate : c.state = .disconnected) (hsock : 0 ≤ c.satSocket) :
      Tracks .probing c
  | up {c : Connection} {heard : Nat} {channel : Bool} (hstate : c.state = .connected)
      (hheard : c.lastHeartbeat = heard) (hretry : c.retryCounter = 0)
      (hsock : channel = true ↔ 0 ≤ c.satSocket) : Tracks (.up heard channel) c
  | gap {c : Connection} {since : Nat} (hstate : c.state = .disconnected)
      (hsince : c.lastReconnect = since) (hretry : c.retryCounter = 0) (hsock : c.satSocket < 0) :
      Tracks (.gap since) c

section
variable {c : Connection} {l : Link} {id : Int32} {now : Nat} {os : Os}

theorem Tracks.isOpen (h : Tracks l c) : l.isOpen = true ↔ 0 ≤ c.satSocket := by
  cases h with
  | probing hstate hsock => exact ⟨fun _ => hsock, fun _ => rfl⟩
  | up hstate hheard hretry hsock => exact hsock
  | gap hstate hsince hretry hsock =>
    refine ⟨fun h => (by cases h), fun h => ?_⟩
    omega

theorem sendMessage_ok (os : Os) (message : Message) (hsock : 0 ≤ c.satSocket) (hport : 0 < message.senderPort)
    (hsize : 0 < message.header.size) : ∃ w, c.sendMessage os message = .ok w := by
  rw [sendMessage, assert_bind hsock, assert_bind hport, assert_pos hsize]
  exact ⟨_, rfl⟩

theorem sendMessage_closed {message : Message} (hsock : ¬ 0 ≤ c.satSocket) :
    c.sendMessage os message = .error (.asserts "satSocket >= 0") := by
  rw [sendMessage, assert_neg hsock]
  rfl

theorem connect_ok (hport : 0 < c.port) (hip : c.ip ≠ "") (hgc : 0 < c.gcPort) (hos : os.Ok) :
    ∃ c' w, c.connect os = .ok (c', w) ∧ 0 ≤ c'.satSocket ∧ c'.id = c.id ∧ c'.port = c.port ∧
      c'.ip = c.ip ∧ c'.gcPort = c.gcPort ∧ c'.state = c.state ∧ c'.lastHeartbeat = c.lastHeartbeat ∧
      c'.retryCounter = c.retryCounter := by
  rw [connect, assert_bind hport, assert_bind hip]
  have hsock : ¬ os.socket < 0 := by have := hos.socket; omega
  have hpton : ¬ os.inet_pton = false := by rw [hos.inet_pton]; decide
  dsimp only
  rw [if_neg hsock, if_neg hpton]
  let dest : SockAddr := { sin_addr := c.ip, sin_port := c.port.toUInt32.toUInt16 }
  let c₁ : Connection := { c with satSocket := os.socket, peerAddr := dest }
  obtain ⟨w, hw⟩ := sendMessage_ok (c := c₁) os c₁.greeting hos.socket hgc (by decide : (0 : UInt32) < 32)
  change ∃ c' w, (do
    let sent ← c₁.sendMessage os c₁.greeting
    return (c₁, _ :: sent ++ _)) = Except.ok (c', w) ∧ _
  rw [hw]
  exact ⟨_, _, rfl, hos.socket, rfl, rfl, rfl, rfl, rfl, rfl, rfl⟩

theorem new_connect (now : Nat) (hid : 0 < id) {port gcPort : Int32} {ip : String} (hport : 0 < port) (hip : ip ≠ "")
    (hgc : 0 < gcPort) (hos : os.Ok) :
    ∃ c' w, (Connection.new now id port ip gcPort).connect os = .ok (c', w) ∧ c'.Sound id ∧
      Tracks .probing c' := by
  obtain ⟨c', w, hc, hsock, h1, h2, h3, h4, h5, -, -⟩ :=
    connect_ok (c := Connection.new now id port ip gcPort) hport hip hgc hos
  refine ⟨c', w, hc, ⟨h1, hid, ?_, ?_, ?_⟩, .probing h5 hsock⟩
  · rw [h2]; exact hport
  · rw [h3]; exact hip
  · rw [h4]; exact hgc

theorem Sound.heartbeat_markConnected (h : c.Sound id) : (c.heartbeat now).markConnected.Sound id :=
  ⟨h.id_eq, h.id_pos, h.port, h.ip, h.gcPort⟩

theorem Tracks.heartbeat_markConnected (h : Tracks l c) :
    Tracks (l.hear now) (c.heartbeat now).markConnected := by
  cases h with
  | probing hstate hsock => exact .up rfl rfl rfl ⟨fun _ => hsock, fun _ => rfl⟩
  | up hstate hheard hretry hsock => exact .up rfl rfl rfl hsock
  | gap hstate hsince hretry hsock =>
    refine .up rfl rfl rfl ⟨fun h => (by cases h), fun h => ?_⟩
    have hneg : c.satSocket < 0 := hsock
    have hpos : 0 ≤ c.satSocket := h
    omega

theorem Tracks.disconnect (now : Nat) (os : Os) (h : Tracks l c) (hup : c.state = .connected) :
    Tracks (.gap now) (c.disconnect now os).1 := by
  cases h with
  | probing hstate hsock => rw [hup] at hstate; cases hstate
  | up hstate hheard hretry hsock => exact .gap rfl rfl hretry (by decide : (-1 : Int) < 0)
  | gap hstate hsince hretry hsock => rw [hup] at hstate; cases hstate

theorem Sound.disconnect (now : Nat) (os : Os) (h : c.Sound id) : (c.disconnect now os).1.Sound id :=
  ⟨h.id_eq, h.id_pos, h.port, h.ip, h.gcPort⟩

theorem Tracks.reconnect (now : Nat) (h : Tracks l c) (hs : c.Sound id) (hos : os.Ok) (hdown : c.state = .disconnected) :
    ∃ b c' w, c.reconnect now os = .ok (b, c', w) ∧ c'.Sound id ∧ Tracks (l.pass Config.keepalive now) c' := by
  by_cases hsoon : now - c.lastReconnect < Config.RECONNECT_INTERVAL
  · -- Too early for an attempt: nothing changes, neither on an open channel nor in the gap.
    refine ⟨true, c, [], ?_, hs, ?_⟩
    · rw [Connection.reconnect, if_pos hsoon]
      rfl
    · cases h with
      | probing hstate hsock => exact .probing hstate hsock
      | up hstate hheard hretry hsock => rw [hstate] at hdown; cases hdown
      | gap hstate hsince hretry hsock =>
        rw [← hsince, Link.pass_gap_early (K := Config.keepalive) hsoon]
        exact .gap hstate rfl hretry hsock
  · by_cases hlimit : Config.MAX_RECONNECT_ATTEMPTS < c.retryCounter + 1
    · -- The retries are used up, which takes a link that has been probing for long.
      refine ⟨false, { c with retryCounter := c.retryCounter + 1 }, [], ?_,
        ⟨hs.id_eq, hs.id_pos, hs.port, hs.ip, hs.gcPort⟩, ?_⟩
      · rw [Connection.reconnect, if_neg hsoon]
        dsimp only
        rw [if_pos hlimit]
        rfl
      · cases h with
        | probing hstate hsock => exact .probing hstate hsock
        | up hstate hheard hretry hsock => rw [hstate] at hdown; cases hdown
        | gap hstate hsince hretry hsock =>
          rw [hretry] at hlimit
          exact absurd hlimit (by decide)
    · -- The attempt opens a socket, so the link is probing whatever it was.
      obtain ⟨c', w, hc, hsock, h1, h2, h3, h4, h5, -, -⟩ := connect_ok
        (c := (({ c with retryCounter := c.retryCounter + 1, lastReconnect := now } : Connection).disconnect
          now os).1) hs.port hs.ip hs.gcPort hos
      have hrun : ∃ w', c.reconnect now os = .ok (true, c', w') := by
        rw [Connection.reconnect, if_neg hsoon]
        dsimp only
        rw [if_neg hlimit, hc]
        exact ⟨_, rfl⟩
      obtain ⟨w', hw'⟩ := hrun
      refine ⟨true, c', w', hw', ⟨h1.trans hs.id_eq, hs.id_pos, ?_, ?_, ?_⟩, ?_⟩
      · rw [h2]; exact hs.port
      · rw [h3]; exact hs.ip
      · rw [h4]; exact hs.gcPort
      · have hprobing : l.pass Config.keepalive now = .probing := by
          cases h with
          | probing hstate hsock => rfl
          | up hstate hheard hretry hsock => rw [hstate] at hdown; cases hdown
          | gap hstate hsince hretry hsock =>
            rw [← hsince]
            exact Link.pass_gap_due hsoon
        rw [hprobing]
        exact .probing h5 hsock

end

end Connection

end Constellation
