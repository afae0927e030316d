import Constellation.Config
import Constellation.Effect
import Constellation.Lib.Stop

/-!
# A satellite's connection to a peer

The methods of `PeerConnection`, in the manner of ground control's `Connection`. The two classes
differ in what matters here: this one has a third state, `connecting`, in which it keeps probing; its
`sendMessage` does not look at the socket and hands a closed descriptor to `sendto`, which then fails;
its `reconnect` never tells that the retries are used up.

A peer's connection follows a keepalive link as well (`PeerConnection.Tracks`): it is connected when
the link is up, connecting while it probes, disconnected in the gap.
-/

namespace Constellation

inductive ConnectionState
  | connected
  | connecting
  | disconnected
  deriving DecidableEq

structure PeerConnection where
  peerId : Int32
  satId : Int32
  peerIp : String
  peerPort : Int32
  peerSocket : Int
  state : ConnectionState
  lastHeartbeat : Nat
  lastReconnect : Nat
  retryCounter : Nat
  listeningPort : Int32
  peerAddr : SockAddr
  deriving DecidableEq

namespace PeerConnection

/-- The constructor. -/
def new (now : Nat) (id : Int32) (ip : String) (port satId listeningPort : Int32) :
    Except Stop PeerConnection := do
  assert (0 ≤ id) "id >= 0"
  assert (0 ≤ port) "port >= 0"
  return {
    peerId := id
    satId
    peerIp := ip
    peerPort := port
    peerSocket := -1
    state := .disconnected
    lastHeartbeat := now
    lastReconnect := now
    retryCounter := 0
    listeningPort
    peerAddr := default }

/-- `sendto` fails on a descriptor that is not open. -/
def sendMessage (p : PeerConnection) (os : Os) (message : Message) : Except Stop (List Effect) := do
  assert (0 < message.header.size) "message.header.size > 0"
  assert (0 ≤ message.senderId) "message.senderId >= 0"
  assert (0 ≤ message.senderPort) "message.senderPort >= 0"
  assert (0 ≤ p.peerId) "this->peerId >= 0"
  let sent := if p.peerSocket < 0 then -1 else os.sendto message
  return [.sendto p.peerId p.peerSocket p.peerAddr message,
    .log (if sent < 0 then "[ERROR] Error sending message to Satellite: " ++ toString p.peerId
      else if p.peerId ≠ 0 then "[NETWORK] Sent message to Satellite: " ++ toString p.peerId
      else "[NETWORK] Sent message to Ground Control")]

/-- The heartbeat that opens a connection. -/
def greeting (p : PeerConnection) : Message := .build p.satId p.listeningPort (.heartbeat true)

def connect (p : PeerConnection) (now : Nat) (os : Os) : Except Stop (PeerConnection × List Effect) := do
  assert (0 ≤ p.peerId) "this->peerId >= 0"
  assert (p.peerIp ≠ "") "!this->peerIp.empty()"
  assert (0 ≤ p.peerPort) "this->peerPort >= 0"
  assert (0 ≤ p.listeningPort) "this->listeningPort >= 0"
  let p := { p with peerSocket := os.socket }
  if p.peerSocket < 0 then
    return (p, [.log ("[ERROR] Error creating socket for Satellite: " ++ toString p.peerId)])
  let p := { p with lastHeartbeat := now }
  let p := { p with peerAddr := { sin_addr := "0.0.0.0", sin_port := p.peerPort.toUInt32.toUInt16 } }
  if os.inet_pton = false then
    return (p, [.opened os.socket,
      .log ("[ERROR] Invalid address / Address not supported for Satellite: " ++ toString p.peerId)])
  let p := { p with peerAddr := { p.peerAddr with sin_addr := p.peerIp } }
  let sent ← p.sendMessage os p.greeting
  return ({ p with state := .connecting }, .opened os.socket :: sent ++
    [.log ("[NETWORK] Connecting to Satellite at address: " ++ p.peerIp ++ ":" ++ toString p.peerPort)])

def disconnect (p : PeerConnection) (now : Nat) (os : Os) : PeerConnection × List Effect :=
  let closing : List Effect :=
    if 0 ≤ p.peerSocket then
      .closed p.peerSocket :: if os.close ≤ 0 then [.log "[ERROR] Socket failed to close"] else []
    else []
  ({ p with peerSocket := -1, state := .disconnected, lastReconnect := now }, closing)

def heartbeat (p : PeerConnection) (now : Nat) : PeerConnection := { p with lastHeartbeat := now }

def reconnect (p : PeerConnection) (now : Nat) (os : Os) : Except Stop (PeerConnection × List Effect) := do
  if now - p.lastReconnect < Config.RECONNECT_INTERVAL then return (p, [])
  let p := { p with retryCounter := p.retryCounter + 1 }
  if Config.MAX_RECONNECT_ATTEMPTS < p.retryCounter then return (p, [])
  let p := { p with lastReconnect := now }
  let announced : Effect := .log ("[ERROR] Reconnecting to Satellite: " ++ toString p.peerId ++
    "; Reconnect counter = " ++ toString p.retryCounter)
  let (p, closing) := p.disconnect now os
  let (p, opening) ← p.connect now os
  return (p, announced :: closing ++ opening)

def getState (p : PeerConnection) : Except Stop ConnectionState := do
  assert (0 ≤ p.peerId) "peerId >= 0"
  return p.state

def isTimedOut (p : PeerConnection) (now : Nat) : Except Stop Bool := do
  assert (p.state = .connected) "state == ConnectionState::CONNECTED"
  return decide (Config.TIMEOUT_THRESHOLD < now - p.lastHeartbeat)

def markConnected (p : PeerConnection) : PeerConnection := { p with state := .connected, retryCounter := 0 }

section
variable {p p' : PeerConnection} {now : Nat} {os : Os} {w : List Effect}

theorem sendMessage_sent {message : Message} (hrun : p.sendMessage os message = .ok w) :
    ∃ line, w = [.sendto p.peerId p.peerSocket p.peerAddr message, .log line] := by
  unfold sendMessage at hrun
  simp only [assert_bind_eq_ok] at hrun
  obtain ⟨-, -, -, -, hrun⟩ := hrun
  cases hrun
  exact ⟨_, rfl⟩

theorem connect_cases (hrun : p.connect now os = .ok (p', w)) :
    (os.socket < 0 ∧ p' = { p with peerSocket := os.socket } ∧ ∃ line, w = [.log line]) ∨
      (¬ os.socket < 0 ∧ ∃ dest line, p' = { p with peerSocket := os.socket, lastHeartbeat := now, peerAddr := dest } ∧
        w = [.opened os.socket, .log line]) ∨
      (¬ os.socket < 0 ∧ ∃ dest line attempt,
        p' = { p with peerSocket := os.socket, lastHeartbeat := now, peerAddr := dest, state := .connecting } ∧
        w = [.opened os.socket, .sendto p.peerId os.socket dest p.greeting, .log line, .log attempt]) := by
  unfold connect at hrun
  simp only [assert_bind_eq_ok] at hrun
  obtain ⟨-, -, -, -, hrun⟩ := hrun
  by_cases hsock : os.socket < 0
  · rw [if_pos hsock] at hrun
    cases hrun
    exact .inl ⟨hsock, rfl, _, rfl⟩
  rw [if_neg hsock] at hrun
  split_ifs at hrun
  · cases hrun
    exact .inr (.inl ⟨hsock, _, _, rfl, rfl⟩)
  · obtain ⟨sent, hsent, hret⟩ := bind_eq_ok.mp hrun
    obtain ⟨line, rfl⟩ := sendMessage_sent hsent
    cases hret
    exact .inr (.inr ⟨hsock, _, line, _, rfl, rfl⟩)

end

theorem reconnect_cases {p p' : PeerConnection} {now : Nat} {os : Os} {w : List Effect}
    (hrun : p.reconnect now os = .ok (p', w)) :
    (now - p.lastReconnect < Config.RECONNECT_INTERVAL ∧ p' = p ∧ w = []) ∨
      (¬ now - p.lastReconnect < Config.RECONNECT_INTERVAL ∧ Config.MAX_RECONNECT_ATTEMPTS < p.retryCounter + 1 ∧
        p' = { p with retryCounter := p.retryCounter + 1 } ∧ w = []) ∨
      (¬ now - p.lastReconnect < Config.RECONNECT_INTERVAL ∧ ¬ Config.MAX_RECONNECT_ATTEMPTS < p.retryCounter + 1 ∧
        ∃ line opening,
          (({ p with retryCounter := p.retryCounter + 1, lastReconnect := now } : PeerConnection).disconnect
            now os).1.connect now os = .ok (p', opening) ∧
          w = .log line :: (p.disconnect now os).2 ++ opening) := by
  by_cases hsoon : now - p.lastReconnect < Config.RECONNECT_INTERVAL
  · rw [reconnect, if_pos hsoon] at hrun
    cases hrun
    exact .inl ⟨hsoon, rfl, rfl⟩
  rw [reconnect, if_neg hsoon] at hrun
  dsimp only at hrun
  by_cases hlimit : Config.MAX_RECONNECT_ATTEMPTS < p.retryCounter + 1
  · rw [if_pos hlimit] at hrun
    cases hrun
    exact .inr (.inl ⟨hsoon, hlimit, rfl, rfl⟩)
  rw [if_neg hlimit] at hrun
  obtain ⟨⟨q, opening⟩, hconnect, hret⟩ := bind_eq_ok.mp hrun
  cases hret
  exact .inr (.inr ⟨hsoon, hlimit, _, opening, hconnect, rfl⟩)

/-! ### The link a connection tracks -/

/-- The parameters of a satellite's connection to a peer, as its assertions ask for them. -/
structure Sound (satId listeningPort : Int32) (p : PeerConnection) (id : Int32) : Prop where
  id_eq : p.peerId = id
  id_nonneg : 0 ≤ id
  satId_eq : p.satId = satId
  satId_pos : 0 < satId
  ip : p.peerIp ≠ ""
  port : 0 ≤ p.peerPort
  listening_eq : p.listeningPort = listeningPort
  listening : 0 ≤ listeningPort

/-- The heartbeat of a satellite that opens its connections. -/
def hello (satId listeningPort : Int32) : Message := .build satId listeningPort (.heartbeat true)

/-- The fields of a connection whose link is in the given state. -/
inductive Tracks : Link → PeerConnection → Prop
  | probing {p : PeerConnection} (hstate : p.state = .connecting) (hsock : 0 ≤ p.peerSocket) :
      Tracks .probing p
  | up {p : PeerConnection} {heard : Nat} {channel : Bool} (hstate : p.state = .connected)
      (hheard : p.lastHeartbeat = heard) (hretry : p.retryCounter = 0)
      (hsock : channel = true ↔ 0 ≤ p.peerSocket) : Tracks (.up heard channel) p
  | gap {p : PeerConnection} {since : Nat} (hstate : p.state = .disconnected)
      (hsince : p.lastReconnect = since) (hretry : p.retryCounter = 0) (hsock : p.peerSocket < 0) :
      Tracks (.gap since) p

section
variable {p : PeerConnection} {l : Link} {id satId port : Int32}

theorem Sound.of_same {p' : PeerConnection} (h : p.Sound satId port id) (hid : p'.peerId = p.peerId)
    (hsat : p'.satId = p.satId) (hip : p'.peerIp = p.peerIp) (hport : p'.peerPort = p.peerPort)
    (hlisten : p'.listeningPort = p.listeningPort) : p'.Sound satId port id where
  id_eq := hid.trans h.id_eq
  id_nonneg := h.id_nonneg
  satId_eq := hsat.trans h.satId_eq
  satId_pos := h.satId_pos
  ip := by rw [hip]; exact h.ip
  port := by rw [hport]; exact h.port
  listening_eq := hlisten.trans h.listening_eq
  listening := h.listening

theorem Tracks.isOpen (h : Tracks l p) : l.isOpen = true ↔ 0 ≤ p.peerSocket := by
  cases h with
  | probing hstate hsock => exact ⟨fun _ => hsock, fun _ => rfl⟩
  | up hstate hheard hretry hsock => exact hsock
  | gap hstate hsince hretry hsock =>
    refine ⟨fun h => (by cases h), fun h => ?_⟩
    omega

theorem Tracks.isUp (h : Tracks l p) : l.isUp = true ↔ p.state = .connected := by
  cases h with
  | probing hstate hsock =>
    rw [hstate]
    exact ⟨nofun, nofun⟩
  | up hstate hheard hretry hsock => exact ⟨fun _ => hstate, fun _ => rfl⟩
  | gap hstate hsince hretry hsock =>
    rw [hstate]
    exact ⟨nofun, nofun⟩

theorem sendMessage_ok (hs : p.Sound satId port id) (os : Os) (message : Message) (hsize : 0 < message.header.size)
    (hid : 0 ≤ message.senderId) (hport : 0 ≤ message.senderPort) :
    ∃ line, p.sendMessage os message = .ok [.sendto id p.peerSocket p.peerAddr message, .log line] := by
  have hpeer : 0 ≤ p.peerId := by
    rw [hs.id_eq]
    exact hs.id_nonneg
  rw [sendMessage, assert_bind hsize, assert_bind hid, assert_bind hport,
    assert_bind hpeer, hs.id_eq]
  exact ⟨_, rfl⟩

theorem connect_granted (now : Nat) {os : Os} (hs : p.Sound satId port id) (hsock : ¬ os.socket < 0)
    (hpton : ¬ os.inet_pton = false) : ∃ p' dest line attempt, p.connect now os = .ok (p',
        [.opened os.socket, .sendto id os.socket dest (hello satId port), .log line, .log attempt]) ∧
      p'.Sound satId port id ∧ p'.state = .connecting ∧ p'.peerSocket = os.socket ∧ p'.lastHeartbeat = now := by
  have hpeer : 0 ≤ p.peerId := by
    rw [hs.id_eq]
    exact hs.id_nonneg
  have hlisten : 0 ≤ p.listeningPort := by
    rw [hs.listening_eq]
    exact hs.listening
  rw [connect, assert_bind hpeer, assert_bind hs.ip, assert_bind hs.port,
    assert_bind hlisten]
  dsimp only
  rw [if_neg hsock, if_neg hpton]
  let dest : SockAddr := { sin_addr := p.peerIp, sin_port := p.peerPort.toUInt32.toUInt16 }
  let p₁ : PeerConnection := { p with peerSocket := os.socket, lastHeartbeat := now, peerAddr := dest }
  have hs₁ : p₁.Sound satId port id := hs.of_same rfl rfl rfl rfl rfl
  have hgreet : p₁.greeting = hello satId port := by
    rw [greeting, hs₁.satId_eq, hs₁.listening_eq]
    rfl
  obtain ⟨line, hline⟩ := sendMessage_ok hs₁ os (hello satId port) (by decide : (0 : UInt32) < 32)
    (Int32.le_of_lt hs.satId_pos) hs.listening
  change ∃ p' d l a, (do
    let sent ← p₁.sendMessage os p₁.greeting
    return (({ p₁ with state := .connecting } : PeerConnection), _ :: sent ++ _)) = Except.ok (p', _) ∧ _
  rw [hgreet, hline]
  exact ⟨_, dest, line, _, rfl, hs.of_same rfl rfl rfl rfl rfl, rfl, rfl, rfl⟩

theorem connect_ok (now : Nat) {os : Os} (hs : p.Sound satId port id) (hos : os.Ok) :
    ∃ p' w, p.connect now os = .ok (p', w) ∧ p'.Sound satId port id ∧ Tracks .probing p' ∧
      p'.lastHeartbeat = now ∧ Sends (fun fd m => 0 ≤ fd ∧ m = hello satId port) w := by
  have hpton : ¬ os.inet_pton = false := by
    rw [hos.inet_pton]
    decide
  obtain ⟨p', dest, line, attempt, hconnect, hs', hstate, hsocket, hheard⟩ :=
    connect_granted now hs (Int.not_lt.mpr hos.socket) hpton
  refine ⟨p', _, hconnect, hs', .probing hstate ?_, hheard, ?_⟩
  · rw [hsocket]
    exact hos.socket
  · intro peer fd d m hm
    simp only [List.mem_cons, reduceCtorEq, List.not_mem_nil, or_false, false_or, Effect.sendto.injEq] at hm
    rw [hm.2.1, hm.2.2.2]
    exact ⟨hos.socket, rfl⟩

theorem disconnect_sends (now : Nat) (os : Os) {P : Int → Message → Prop} : Sends P (p.disconnect now os).2 := by
  refine Sends.of_none fun peer fd d m hm => ?_
  unfold disconnect at hm
  split_ifs at hm <;> simp at hm

theorem Sound.heartbeat_markConnected (now : Nat) (h : p.Sound satId port id) :
    (p.heartbeat now).markConnected.Sound satId port id :=
  h.of_same rfl rfl rfl rfl rfl

theorem Tracks.heartbeat_markConnected (now : Nat) (h : Tracks l p) :
    Tracks (l.hear now) (p.heartbeat now).markConnected := by
  cases h with
  | probing hstate hsock => exact .up rfl rfl rfl ⟨fun _ => hsock, fun _ => rfl⟩
  | up hstate hheard hretry hsock => exact .up rfl rfl rfl hsock
  | gap hstate hsince hretry hsock =>
    refine .up rfl rfl rfl ⟨fun h => (by cases h), fun h => ?_⟩
    have hneg : p.peerSocket < 0 := hsock
    have hpos : 0 ≤ p.peerSocket := h
    omega

theorem Tracks.disconnect (now : Nat) (os : Os) (h : Tracks l p) (hup : p.state = .connected) :
    Tracks (.gap now) (p.disconnect now os).1 := by
  cases h with
  | probing hstate hsock => rw [hup] at hstate; cases hstate
  | up hstate hheard hretry hsock => exact .gap rfl rfl hretry (by decide : (-1 : Int) < 0)
  | gap hstate hsince hretry hsock => rw [hup] at hstate; cases hstate

theorem Sound.disconnect (now : Nat) (os : Os) (h : p.Sound satId port id) : (p.disconnect now os).1.Sound satId port id :=
  h.of_same rfl rfl rfl rfl rfl

theorem Tracks.reconnect (now : Nat) {os : Os} (h : Tracks l p) (hs : p.Sound satId port id) (hos : os.Ok)
    (hdown : p.state ≠ .connected) :
    ∃ p' w, p.reconnect now os = .ok (p', w) ∧ p'.Sound satId port id ∧ Tracks (l.pass Config.keepalive now) p' ∧
      Sends (fun fd m => 0 ≤ fd ∧ m = hello satId port) w := by
  by_cases hsoon : now - p.lastReconnect < Config.RECONNECT_INTERVAL
  · refine ⟨p, [], ?_, hs, ?_, .nil⟩
    · rw [PeerConnection.reconnect, if_pos hsoon]
      rfl
    · cases h with
      | probing hstate hsock => exact .probing hstate hsock
      | up hstate hheard hretry hsock => exact absurd hstate hdown
      | gap hstate hsince hretry hsock =>
        rw [← hsince, Link.pass_gap_early (K := Config.keepalive) hsoon]
        exact .gap hstate rfl hretry hsock
  · by_cases hlimit : Config.MAX_RECONNECT_ATTEMPTS < p.retryCounter + 1
    · -- The retries are used up, which takes a link that has been probing for long.
      refine ⟨{ p with retryCounter := p.retryCounter + 1 }, [], ?_,
        hs.of_same rfl rfl rfl rfl rfl, ?_, .nil⟩
      · rw [PeerConnection.reconnect, if_neg hsoon]
        dsimp only
        rw [if_pos hlimit]
        rfl
      · cases h with
        | probing hstate hsock => exact .probing hstate hsock
        | up hstate hheard hretry hsock => exact absurd hstate hdown
        | gap hstate hsince hretry hsock =>
          rw [hretry] at hlimit
          exact absurd hlimit (by decide)
    · let p₁ : PeerConnection := { p with retryCounter := p.retryCounter + 1, lastReconnect := now }
      have hs₁ : p₁.Sound satId port id := hs.of_same rfl rfl rfl rfl rfl
      obtain ⟨p', w, hp, hs', htracks, -, hsends⟩ := connect_ok now (hs₁.disconnect now os) hos
      have hrun : ∃ w', p.reconnect now os = .ok (p', w') ∧
          Sends (fun fd m => 0 ≤ fd ∧ m = hello satId port) w' := by
        rw [PeerConnection.reconnect, if_neg hsoon]
        dsimp only
        rw [if_neg hlimit, hp]
        refine ⟨_, rfl, ?_⟩
        refine Sends.append (w := _ :: _) ?_ hsends
        exact Sends.append (w := [_]) .log (disconnect_sends now os)
      obtain ⟨w', hw', hsends'⟩ := hrun
      refine ⟨p', w', hw', hs', ?_, hsends'⟩
      have hprobing : l.pass Config.keepalive now = .probing := by
        cases h with
        | probing hstate hsock => rfl
        | up hstate hheard hretry hsock => exact absurd hstate hdown
        | gap hstate hsince hretry hsock =>
          rw [← hsince]
          exact Link.pass_gap_due hsoon
      rw [hprobing]
      exact htracks

end

end PeerConnection

end Constellation
