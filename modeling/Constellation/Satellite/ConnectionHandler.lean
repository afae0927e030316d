import Mathlib.Logic.Function.Basic
import Constellation.Lib.Table
import Constellation.Satellite.PeerConnection

/-!
# A satellite's connection handler

The peers of a satellite by id; id 0 is ground control. Unlike ground control's handler this one
sends only to peers in state `connected` and drops a message for any other peer, and it marks a new
peer connected at once.

The handler follows one keepalive link for each peer (`Refines`).
-/

namespace Constellation

structure ConnectionHandler where
  connections : Table Int32 PeerConnection
  listeningPort : Int32

namespace ConnectionHandler

/-- The handler of a satellite that listens on this port. -/
def init (listeningPort : Int32) : ConnectionHandler := { connections := ∅, listeningPort }

def addConnection (h : ConnectionHandler) (now : Nat) (os : Int32 → Os) (port : Int32) (ip : String)
    (peerId satId : Int32) : Except Stop (ConnectionHandler × List Effect) := do
  assert (0 ≤ port) "port >= 0"
  assert (ip ≠ "") "!ip.empty()"
  assert (0 ≤ peerId) "peerId >= 0"
  assert (0 < satId) "satId > 0"
  let p ← PeerConnection.new now peerId ip port satId h.listeningPort
  match h.connections.emplace peerId p with
  | (connections, false) => return ({ h with connections }, [])
  | (connections, true) =>
    let (p, effects) ← (p.heartbeat now).connect now (os peerId)
    return ({ h with connections := connections.modify peerId fun _ => p.markConnected }, effects)

/-- The body of the loop of `update`. The second test is made only where the first fails. -/
def updatePeer (now : Nat) (os : Int32 → Os) (id : Int32) (p : PeerConnection) :
    Except Stop (PeerConnection × List Effect) := do
  let state ← p.getState
  let timedOut ← if state = .connected then p.isTimedOut now else .ok false
  if timedOut = true then
    let (p, closing) := p.disconnect now (os id)
    return (p, .log ("[ERROR] Satellite: " ++ toString id ++ " has timed out") :: closing)
  else if state = .disconnected ∨ state = .connecting then p.reconnect now (os id)
  else return (p, [])

def update (h : ConnectionHandler) (now : Nat) (os : Int32 → Os) :
    Except Stop (ConnectionHandler × List Effect) := do
  let (connections, effects) ← h.connections.sweep (updatePeer now os)
  return ({ h with connections }, effects)

def hasConnection (h : ConnectionHandler) (peerId : Int32) : Except Stop Bool := do
  assert (0 ≤ peerId) "peerId >= 0"
  return (h.connections.lookup peerId).isSome

def heartbeatSat (h : ConnectionHandler) (now : Nat) (peerId : Int32) : Except Stop ConnectionHandler := do
  assert (0 ≤ peerId) "peerId >= 0"
  return { h with connections := h.connections.modify peerId fun p => (p.heartbeat now).markConnected }

def sendMessageToPeer (h : ConnectionHandler) (os : Int32 → Os) (peerId : Int32) (message : Message) :
    Except Stop (List Effect) := do
  assert (0 ≤ peerId) "peerId >= 0"
  assert (0 < message.header.size) "message.header.size > 0"
  assert (0 ≤ message.senderId) "message.senderId >= 0"
  assert (0 ≤ message.senderPort) "message.senderPort >= 0"
  match h.connections.lookup peerId with
  | none => return [.log ("[ERROR] Satellite: " ++ toString peerId ++ " Not found")]
  | some peer =>
    let state ← peer.getState
    if state = .connected then peer.sendMessage (os peerId) message
    else return []

/-- The body of the loop of `broadcastMessage`. -/
def broadcastTo (os : Int32 → Os) (message : Message) (id : Int32) (p : PeerConnection) :
    Except Stop (PeerConnection × List Effect) :=
  if id ≠ 0 then do
    let state ← p.getState
    if state = .connected then
      let effects ← p.sendMessage (os id) message
      return (p, effects)
    else return (p, [.log ("[ERROR] Satellite: " ++ toString id ++ " Not connected, skipping message")])
  else return (p, [])

def broadcastMessage (h : ConnectionHandler) (os : Int32 → Os) (message : Message) :
    Except Stop (List Effect) := do
  assert (0 < message.header.size) "message.header.size > 0"
  assert (0 ≤ message.senderId) "message.senderId >= 0"
  assert (0 ≤ message.senderPort) "message.senderPort >= 0"
  let (_, effects) ← h.connections.sweep (broadcastTo os message)
  return effects

/-- The body of the loop of `printAllPeers`. -/
def printPeer (id : Int32) (p : PeerConnection) : Except Stop (PeerConnection × List Effect) := do
  let state ← p.getState
  if id ≠ 0 then
    let name := match state with
      | .connected => "CONNECTED"
      | .connecting => "CONNECTING"
      | .disconnected => "DISCONNECTED"
    return (p, [.log ("[STATE] Satellite: " ++ toString id ++ ": " ++ name)])
  else
    let line := match state with
      | .connected => "[STATE] Connected to Ground"
      | .connecting => "[STATE] Connecting to Ground"
      | .disconnected => "[ERROR] Disconnected from Ground"
    return (p, [.log line])

def printAllPeers (h : ConnectionHandler) : Except Stop (List Effect) := do
  let (_, effects) ← h.connections.sweep printPeer
  return effects

theorem addConnection_cases {h h' : ConnectionHandler} {now : Nat} {os : Int32 → Os} {port : Int32} {ip : String}
    {peerId satId : Int32} {w : List Effect} (hrun : h.addConnection now os port ip peerId satId = .ok (h', w)) :
    (peerId ∈ h.connections ∧ h' = h ∧ w = []) ∨
      (peerId ∉ h.connections ∧ ∃ p q, p.satId = satId ∧ (p.heartbeat now).connect now (os peerId) = .ok (q, w) ∧
        h' = { h with connections :=
          Table.modify (h.connections.insert peerId p) peerId fun _ => q.markConnected }) := by
  unfold addConnection at hrun
  simp only [assert_bind_eq_ok] at hrun
  obtain ⟨-, -, -, -, hrun⟩ := hrun
  obtain ⟨p, hnew, hrun⟩ := bind_eq_ok.mp hrun
  by_cases hin : peerId ∈ h.connections
  · rw [Table.emplace_of_mem hin] at hrun
    cases hrun
    exact .inl ⟨hin, rfl, rfl⟩
  · rw [Table.emplace_of_not_mem hin] at hrun
    obtain ⟨⟨q, v⟩, hconnect, hret⟩ := bind_eq_ok.mp hrun
    cases hret
    have hsat : p.satId = satId := by
      unfold PeerConnection.new at hnew
      simp only [assert_bind_eq_ok] at hnew
      obtain ⟨-, -, hret⟩ := hnew
      cases hret
      rfl
    exact .inr ⟨hin, p, q, hsat, hconnect, rfl⟩

theorem sendMessageToPeer_cases {h : ConnectionHandler} {os : Int32 → Os} {peerId : Int32} {message : Message}
    {w : List Effect} (hrun : h.sendMessageToPeer os peerId message = .ok w) :
    (h.connections.lookup peerId = none ∧ ∃ line, w = [.log line]) ∨
      ∃ peer, h.connections.lookup peerId = some peer ∧
        ((peer.state = .connected ∧ peer.sendMessage (os peerId) message = .ok w) ∨
          (peer.state ≠ .connected ∧ w = [])) := by
  unfold sendMessageToPeer at hrun
  simp only [assert_bind_eq_ok] at hrun
  obtain ⟨-, -, -, -, hrun⟩ := hrun
  cases hlookup : h.connections.lookup peerId with
  | none =>
    rw [hlookup] at hrun
    cases hrun
    exact .inl ⟨rfl, _, rfl⟩
  | some peer =>
    rw [hlookup] at hrun
    obtain ⟨state, hstate, hrun⟩ := bind_eq_ok.mp hrun
    obtain ⟨-, hret⟩ := assert_bind_eq_ok.mp hstate
    cases hret
    split_ifs at hrun with hup
    · exact .inr ⟨peer, rfl, .inl ⟨hup, hrun⟩⟩
    · cases hrun
      exact .inr ⟨peer, rfl, .inr ⟨hup, rfl⟩⟩

theorem broadcastTo_cases {os : Int32 → Os} {message : Message} {id : Int32} {p p' : PeerConnection} {w : List Effect}
    (hrun : broadcastTo os message id p = .ok (p', w)) :
    p' = p ∧ ((id ≠ 0 ∧ p.state = .connected ∧ p.sendMessage (os id) message = .ok w) ∨ w = [] ∨ ∃ line, w = [.log line]) := by
  unfold broadcastTo at hrun
  split_ifs at hrun with hzero
  · obtain ⟨state, hstate, hrun⟩ := bind_eq_ok.mp hrun
    obtain ⟨-, hret⟩ := assert_bind_eq_ok.mp hstate
    cases hret
    split_ifs at hrun with hup
    · obtain ⟨sent, hsent, hret⟩ := bind_eq_ok.mp hrun
      cases hret
      exact ⟨rfl, .inl ⟨hzero, hup, hsent⟩⟩
    · cases hrun
      exact ⟨rfl, .inr (.inr ⟨_, rfl⟩)⟩
  · cases hrun
    exact ⟨rfl, .inr (.inl rfl)⟩

/-- A call of the loop body that returns times a peer out, or tries to reconnect one that is not connected, or leaves
it alone. -/
theorem updatePeer_cases {now : Nat} {os : Int32 → Os} {id : Int32} {p p' : PeerConnection} {w : List Effect}
    (hrun : updatePeer now os id p = .ok (p', w)) :
    (p.state = .connected ∧ Config.TIMEOUT_THRESHOLD < now - p.lastHeartbeat ∧ p' = (p.disconnect now (os id)).1 ∧
        w = .log ("[ERROR] Satellite: " ++ toString id ++ " has timed out") :: (p.disconnect now (os id)).2) ∨
      (p.state ≠ .connected ∧ p.reconnect now (os id) = .ok (p', w)) ∨
      (p.state = .connected ∧ now - p.lastHeartbeat ≤ Config.TIMEOUT_THRESHOLD ∧ p' = p ∧ w = []) := by
  unfold updatePeer at hrun
  obtain ⟨state, hstate, hrun⟩ := bind_eq_ok.mp hrun
  obtain ⟨-, hstate⟩ := assert_bind_eq_ok.mp hstate
  cases hstate
  dsimp only at hrun
  by_cases hup : p.state = .connected
  · rw [if_pos hup, PeerConnection.isTimedOut, assert_bind hup] at hrun
    change (if decide (Config.TIMEOUT_THRESHOLD < now - p.lastHeartbeat) = true then _ else _) = _ at hrun
    by_cases hlate : Config.TIMEOUT_THRESHOLD < now - p.lastHeartbeat
    · rw [if_pos (decide_eq_true hlate)] at hrun
      cases hrun
      exact .inl ⟨hup, hlate, rfl, rfl⟩
    · rw [if_neg (by simpa using hlate), if_neg (by simp [hup])] at hrun
      cases hrun
      exact .inr (.inr ⟨hup, Nat.not_lt.mp hlate, rfl, rfl⟩)
  · have hdown : p.state = .disconnected ∨ p.state = .connecting := by
      cases hs : p.state with
      | connected => exact absurd hs hup
      | connecting => exact .inr rfl
      | disconnected => exact .inl rfl
    rw [if_neg hup, ok_bind, if_neg (by decide), if_pos hdown] at hrun
    exact .inr (.inl ⟨hup, hrun⟩)

/-! ### What the assertions check -/

/-- A message that the assertions of the senders admit. -/
structure Sendable (message : Message) : Prop where
  size : 0 < message.header.size
  senderId : 0 ≤ message.senderId
  senderPort : 0 ≤ message.senderPort

theorem Sendable.build {id port : Int32} (hid : 0 ≤ id) (hport : 0 ≤ port) (body : Body) :
    Sendable (.build id port body) where
  size := show 0 < body.kind.sizeof by cases body.kind <;> decide
  senderId := hid
  senderPort := hport

section
variable {h : ConnectionHandler}

theorem addConnection_checked {now : Nat} {os : Int32 → Os} {port : Int32} {ip : String} {peerId satId : Int32}
    {r : ConnectionHandler × List Effect} (hstep : h.addConnection now os port ip peerId satId = .ok r) :
    0 ≤ port ∧ ip ≠ "" ∧ 0 ≤ peerId ∧ 0 < satId := by
  unfold addConnection at hstep
  simp only [assert_bind_eq_ok] at hstep
  obtain ⟨hport, hip, hid, hsat, -⟩ := hstep
  exact ⟨hport, hip, hid, hsat⟩

theorem heartbeatSat_checked {now : Nat} {peerId : Int32} {r : ConnectionHandler}
    (hstep : h.heartbeatSat now peerId = .ok r) : 0 ≤ peerId := by
  unfold heartbeatSat at hstep
  exact (assert_bind_eq_ok.mp hstep).1

theorem sendMessageToPeer_checked {os : Int32 → Os} {peerId : Int32} {message : Message} {r : List Effect}
    (hstep : h.sendMessageToPeer os peerId message = .ok r) : 0 ≤ peerId ∧ Sendable message := by
  unfold sendMessageToPeer at hstep
  simp only [assert_bind_eq_ok] at hstep
  obtain ⟨hid, hsize, hsender, hport, -⟩ := hstep
  exact ⟨hid, hsize, hsender, hport⟩

theorem broadcastMessage_checked {os : Int32 → Os} {message : Message} {r : List Effect}
    (hstep : h.broadcastMessage os message = .ok r) : Sendable message := by
  unfold broadcastMessage at hstep
  simp only [assert_bind_eq_ok] at hstep
  obtain ⟨hsize, hsender, hport, -⟩ := hstep
  exact ⟨hsize, hsender, hport⟩

end

/-! ### The links the handler follows -/

/-- Every known peer has a sound connection that tracks its link; no other id has a link. -/
abbrev Refines (satId port : Int32) (link : Int32 → Option Link) (connections : Table Int32 PeerConnection) :
    Prop :=
  Table.Refines (fun id l p => p.Sound satId port id ∧ PeerConnection.Tracks l p) link connections

section
variable {link : Int32 → Option Link} {h : ConnectionHandler} {peerId satId listen : Int32}

theorem addConnection_refines (now : Nat) {os : Int32 → Os} (hr : Refines satId listen link h.connections)
    {port : Int32} {ip : String} (hid : 0 ≤ peerId) (hport : 0 ≤ port) (hip : ip ≠ "") (hsat : 0 < satId)
    (hlisten : h.listeningPort = listen) (hpos : 0 ≤ listen) (hos : (os peerId).Ok) :
    ∃ h' w, h.addConnection now os port ip peerId satId = .ok (h', w) ∧ h'.listeningPort = listen ∧
      Refines satId listen (Function.update link peerId (Link.next Config.keepalive (link peerId) (.meet now)))
        h'.connections ∧ Sends (fun fd m => 0 ≤ fd ∧ m = PeerConnection.hello satId listen) w := by
  have hnew : ∃ p, PeerConnection.new now peerId ip port satId h.listeningPort = .ok p ∧
      p.Sound satId listen peerId := by
    rw [PeerConnection.new, assert_bind hid, assert_pos hport]
    exact ⟨_, rfl, rfl, hid, rfl, hsat, hip, hport, hlisten, hpos⟩
  obtain ⟨p, hp, hsound⟩ := hnew
  rw [addConnection, assert_bind hport, assert_bind hip, assert_bind hid,
    assert_bind hsat, hp, ok_bind]
  cases hl : link peerId with
  | some l =>
    rw [Table.emplace_of_mem (hr.mem hl)]
    exact ⟨h, [], rfl, hlisten, hr.update_known hl, .nil⟩
  | none =>
    have hsound' : (p.heartbeat now).Sound satId listen peerId := hsound.of_same rfl rfl rfl rfl rfl
    obtain ⟨q, w, hq, hqsound, hqtracks, hheard, hsends⟩ := PeerConnection.connect_ok now hsound' hos
    rw [Table.emplace_of_not_mem (hr.not_mem hl)]
    dsimp only
    rw [hq]
    have hopen : 0 ≤ q.peerSocket := hqtracks.isOpen.mp rfl
    have hup : q.markConnected.Sound satId listen peerId ∧ PeerConnection.Tracks (.up now true) q.markConnected :=
      ⟨hqsound.of_same rfl rfl rfl rfl rfl, .up rfl hheard rfl ⟨fun _ => hopen, fun _ => rfl⟩⟩
    exact ⟨_, w, rfl, hlisten, hr.insert_modify hup, hsends⟩

theorem heartbeatSat_refines (now : Nat) (hr : Refines satId listen link h.connections) (hid : 0 ≤ peerId) :
    ∃ h', h.heartbeatSat now peerId = .ok h' ∧ h'.listeningPort = h.listeningPort ∧
      Refines satId listen
        (Function.update link peerId (Link.next Config.keepalive (link peerId) (.heard now))) h'.connections := by
  rw [heartbeatSat, assert_pos hid]
  refine ⟨_, rfl, rfl, hr.modify fun l p hp => ?_⟩
  exact ⟨hp.1.heartbeat_markConnected now, hp.2.heartbeat_markConnected now⟩

theorem getState_ok {p : PeerConnection} (hsound : p.Sound satId listen peerId) : p.getState = .ok p.state := by
  have hpeer : 0 ≤ p.peerId := by
    rw [hsound.id_eq]
    exact hsound.id_nonneg
  rw [PeerConnection.getState, assert_pos hpeer]
  rfl

theorem updatePeer_refines (now : Nat) {os : Int32 → Os} {p : PeerConnection} {l : Link}
    (hsound : p.Sound satId listen peerId) (htracks : PeerConnection.Tracks l p) (hos : (os peerId).Ok) :
    ∃ p' w, updatePeer now os peerId p = .ok (p', w) ∧ p'.Sound satId listen peerId ∧
      PeerConnection.Tracks (l.pass Config.keepalive now) p' ∧
      Sends (fun fd m => 0 ≤ fd ∧ m = PeerConnection.hello satId listen) w := by
  rw [updatePeer, getState_ok hsound, ok_bind]
  cases htracks with
  | probing hstate hsock =>
    obtain ⟨p', w, hp, hs', ht', hsends⟩ :=
      PeerConnection.Tracks.reconnect now (.probing hstate hsock) hsound hos (by rw [hstate]; decide)
    rw [hstate]
    exact ⟨p', w, hp, hs', ht', hsends⟩
  | gap hstate hsince hretry hsock =>
    obtain ⟨p', w, hp, hs', ht', hsends⟩ := PeerConnection.Tracks.reconnect now
      (.gap hstate hsince hretry hsock) hsound hos (by rw [hstate]; decide)
    rw [hstate]
    exact ⟨p', w, hp, hs', ht', hsends⟩
  | up hstate hheard hretry hsock =>
    have htimed : p.isTimedOut now = .ok (decide (Config.TIMEOUT_THRESHOLD < now - p.lastHeartbeat)) := by
      rw [PeerConnection.isTimedOut, assert_pos hstate]
      rfl
    rw [if_pos hstate, htimed, ok_bind]
    dsimp only
    by_cases hlate : Config.TIMEOUT_THRESHOLD < now - p.lastHeartbeat
    · rw [if_pos (decide_eq_true hlate)]
      refine ⟨_, _, rfl, hsound.disconnect now (os peerId), ?_, ?_⟩
      · rw [← hheard, Link.pass_up_late (K := Config.keepalive) hlate]
        exact PeerConnection.Tracks.disconnect now (os peerId) (.up hstate hheard hretry hsock) hstate
      · exact Sends.append (w := [_]) .log (PeerConnection.disconnect_sends now _)
    · have hstay : ¬ (p.state = .disconnected ∨ p.state = .connecting) := by
        rw [hstate]
        decide
      rw [if_neg (by rw [decide_eq_true_iff]; exact hlate), if_neg hstay]
      refine ⟨p, [], rfl, hsound, ?_, .nil⟩
      rw [← hheard, Link.pass_up_fresh (K := Config.keepalive) hlate]
      exact .up hstate rfl hretry hsock

theorem update_refines (now : Nat) {os : Int32 → Os} (hr : Refines satId listen link h.connections)
    (hos : ∀ id, (os id).Ok) :
    ∃ h' w, h.update now os = .ok (h', w) ∧ h'.listeningPort = h.listeningPort ∧
      Refines satId listen (fun id => (link id).map (Link.pass Config.keepalive now)) h'.connections ∧
      Sends (fun fd m => 0 ≤ fd ∧ m = PeerConnection.hello satId listen) w := by
  have hstep : ∀ id l p, p.Sound satId listen id ∧ PeerConnection.Tracks l p →
      ∃ p' w, updatePeer now os id p = .ok (p', w) ∧
        (p'.Sound satId listen id ∧ PeerConnection.Tracks (l.pass Config.keepalive now) p') ∧
        Sends (fun fd m => 0 ≤ fd ∧ m = PeerConnection.hello satId listen) w := by
    rintro id l p ⟨hsound, htracks⟩
    obtain ⟨p', w, hp', hsound', htracks', hsends⟩ := updatePeer_refines now hsound htracks (hos id)
    exact ⟨p', w, hp', ⟨hsound', htracks'⟩, hsends⟩
  obtain ⟨t, w, hsweep, hrefines, hsends⟩ := hr.sweep .nil Sends.append hstep
  rw [update, hsweep]
  exact ⟨_, w, rfl, rfl, hrefines, hsends⟩

/-- The handler of a satellite follows the given links. -/
structure Follows (satId listen : Int32) (link : Int32 → Option Link) (h : ConnectionHandler) : Prop where
  listening : 0 ≤ listen
  listening_eq : h.listeningPort = listen
  refines : Refines satId listen link h.connections

theorem init_follows (satId : Int32) {listen : Int32} (hlisten : 0 ≤ listen) :
    Follows satId listen (fun _ => none) (init listen) :=
  ⟨hlisten, rfl, fun _ => .none⟩

theorem sendMessageToPeer_total (os : Int32 → Os)
    (hs : ∀ p, h.connections.lookup peerId = some p → p.Sound satId listen peerId) (hid : 0 ≤ peerId)
    {message : Message} (hm : Sendable message) : ∃ w, h.sendMessageToPeer os peerId message = .ok w := by
  rw [sendMessageToPeer, assert_bind hid, assert_bind hm.size, assert_bind hm.senderId,
    assert_bind hm.senderPort]
  cases hp : h.connections.lookup peerId with
  | none => exact ⟨_, rfl⟩
  | some p =>
    have hsound := hs p hp
    dsimp only
    rw [getState_ok hsound, ok_bind]
    by_cases hup : p.state = .connected
    · obtain ⟨line, hline⟩ := PeerConnection.sendMessage_ok hsound (os peerId) message hm.size hm.senderId
        hm.senderPort
      rw [if_pos hup, hline]
      exact ⟨_, rfl⟩
    · rw [if_neg hup]
      exact ⟨_, rfl⟩

theorem sendMessageToPeer_ok (os : Int32 → Os) (hr : Refines satId listen link h.connections) (hid : 0 ≤ peerId)
    {message : Message} (hm : Sendable message) :
    (∃ l, link peerId = some l ∧ l.isUp = true ∧ ∃ p line, PeerConnection.Tracks l p ∧
        h.sendMessageToPeer os peerId message =
          .ok [.sendto peerId p.peerSocket p.peerAddr message, .log line]) ∨
      ((∀ l, link peerId = some l → l.isUp = false) ∧ ∃ w, h.sendMessageToPeer os peerId message = .ok w ∧
        ∀ peer fd dest m, Effect.sendto peer fd dest m ∉ w) := by
  have hs : ∀ p, h.connections.lookup peerId = some p → p.Sound satId listen peerId := by
    intro p hp
    obtain ⟨l, -, hsound, -⟩ := hr.entry hp
    exact hsound
  obtain ⟨w, hrun⟩ := sendMessageToPeer_total os hs hid hm
  rcases sendMessageToPeer_cases hrun with ⟨hnone, line, rfl⟩ | ⟨p, hp, hcase⟩
  · refine .inr ⟨?_, _, hrun, by simp⟩
    intro l hl
    obtain ⟨p, hp, -⟩ := hr.known hl
    rw [hnone] at hp
    cases hp
  · obtain ⟨l, hl, hsound, htracks⟩ := hr.entry hp
    rcases hcase with ⟨hup, hsent⟩ | ⟨hdown, rfl⟩
    · obtain ⟨line, rfl⟩ := PeerConnection.sendMessage_sent hsent
      rw [hsound.id_eq] at hrun
      exact .inl ⟨l, hl, htracks.isUp.mpr hup, p, line, htracks, hrun⟩
    · refine .inr ⟨?_, [], hrun, by simp⟩
      intro l' hl'
      rw [hl] at hl'
      cases hl'
      by_contra hup
      exact hdown (htracks.isUp.mp (by simpa using hup))

/-- Every datagram goes to a peer whose link is up, on the descriptor of its connection. -/
def SendsToUp (link : Int32 → Option Link) (w : List Effect) : Prop :=
  ∀ peer fd dest m, Effect.sendto peer fd dest m ∈ w →
    ∃ l p, link peer = some l ∧ l.isUp = true ∧ PeerConnection.Tracks l p ∧ fd = p.peerSocket

theorem SendsToUp.append {v w : List Effect} (hv : SendsToUp link v) (hw : SendsToUp link w) :
    SendsToUp link (v ++ w) := by
  intro peer fd dest m hm
  rcases List.mem_append.mp hm with hm | hm
  · exact hv peer fd dest m hm
  · exact hw peer fd dest m hm

theorem broadcastTo_returns (os : Int32 → Os) {message : Message} (hm : Sendable message) {p : PeerConnection}
    (hsound : p.Sound satId listen peerId) : ∃ w, broadcastTo os message peerId p = .ok (p, w) := by
  by_cases hzero : peerId ≠ 0
  · rw [broadcastTo, if_pos hzero, getState_ok hsound, ok_bind]
    by_cases hup : p.state = .connected
    · obtain ⟨line, hline⟩ := PeerConnection.sendMessage_ok hsound (os peerId) message hm.size hm.senderId
        hm.senderPort
      rw [if_pos hup, hline]
      exact ⟨_, rfl⟩
    · rw [if_neg hup]
      exact ⟨_, rfl⟩
  · rw [broadcastTo, if_neg hzero]
    exact ⟨[], rfl⟩

theorem broadcastTo_ok (os : Int32 → Os) (hr : Refines satId listen link h.connections) {message : Message}
    (hm : Sendable message) {p : PeerConnection} (hp : h.connections.lookup peerId = some p) :
    ∃ w, broadcastTo os message peerId p = .ok (p, w) ∧ SendsToUp link w := by
  obtain ⟨l, hl, hsound, htracks⟩ := hr.entry hp
  obtain ⟨w, hrun⟩ := broadcastTo_returns os hm hsound
  refine ⟨w, hrun, ?_⟩
  rcases (broadcastTo_cases hrun).2 with ⟨-, hup, hsent⟩ | rfl | ⟨line, rfl⟩
  · obtain ⟨line, rfl⟩ := PeerConnection.sendMessage_sent hsent
    intro peer fd dest m hmem
    simp only [List.mem_cons, Effect.sendto.injEq, reduceCtorEq, List.not_mem_nil, or_false] at hmem
    obtain ⟨rfl, rfl, -, -⟩ := hmem
    rw [hsound.id_eq]
    exact ⟨l, p, hl, htracks.isUp.mpr hup, htracks, rfl⟩
  · intro peer fd dest m hmem
    cases hmem
  · intro peer fd dest m hmem
    simp at hmem

theorem broadcastMessage_ok (os : Int32 → Os) (hr : Refines satId listen link h.connections) {message : Message}
    (hm : Sendable message) : ∃ w, h.broadcastMessage os message = .ok w ∧ SendsToUp link w := by
  obtain ⟨⟨t, w⟩, hsweep⟩ : ∃ r, h.connections.sweep (broadcastTo os message) = .ok r := by
    refine Table.sweep_ok fun id p hp => ?_
    obtain ⟨w, hw, -⟩ := broadcastTo_ok os hr hm hp
    exact ⟨_, hw⟩
  have hsends : SendsToUp link w := by
    refine (Table.sweep_sound (P := fun _ _ _ => True) nofun SendsToUp.append (fun id p p' v hp hrun => ?_) hsweep).2
    obtain ⟨v', hv', hup⟩ := broadcastTo_ok os hr hm hp
    rw [hrun] at hv'
    cases hv'
    exact ⟨trivial, hup⟩
  rw [broadcastMessage, assert_bind hm.size, assert_bind hm.senderId, assert_bind hm.senderPort, hsweep]
  exact ⟨w, rfl, hsends⟩

end

end ConnectionHandler

end Constellation
