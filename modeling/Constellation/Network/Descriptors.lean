import Constellation.GroundControl.GCConnectionHandler
import Constellation.Lib.Descriptors
import Constellation.Lib.Run
import Constellation.Satellite.OpenChannels

/-!
# No descriptor is leaked or closed twice

A connection has at most one socket. `connect` writes the descriptor it is given over the one in the field, but it
is called on a new connection or right after `disconnect`, where the field is -1; and whatever fails behind
`socket()`, the descriptor stays in the field. So a connection is a tidy owner in every call, on both sides, and in
every state of a run the open descriptors are just those in the fields of the map.
-/

namespace Constellation

open DescriptorOp

/-- The effects on descriptors. -/
def Effect.descriptorOp : Effect → Option (DescriptorOp Int)
  | .opened fd => some (.opened fd)
  | .closed fd => some (.closed fd)
  | _ => none

/-- The descriptor in a socket field. -/
def inField (socket : Int) : Option Int := if 0 ≤ socket then some socket else none

/-- What happens to descriptors in a sequence of effects. -/
abbrev descriptorOps (w : List Effect) : List (DescriptorOp Int) := w.filterMap Effect.descriptorOp

namespace Connection

variable {c c' : Connection} {now : Nat} {os : Os} {w : List Effect}

theorem sendMessage_ops {m : Message} (h : c.sendMessage os m = .ok w) : descriptorOps w = [] := by
  obtain ⟨-, line, rfl⟩ := sendMessage_sent h
  rfl

theorem connect_turnover (h : c.connect os = .ok (c', w)) : Turnover none (descriptorOps w) (inField c'.satSocket) := by
  rcases (connect_cases h).2 with
    ⟨hsock, rfl, line, rfl⟩ | ⟨hsock, dest, line, rfl, rfl⟩ | ⟨hsock, dest, line, attempt, rfl, rfl⟩
  · rw [inField, if_neg (Int.not_le.mpr hsock)]
    exact .keeps none
  · rw [inField, if_pos (Int.not_lt.mp hsock)]
    exact .opens os.socket
  · rw [inField, if_pos (Int.not_lt.mp hsock)]
    exact .opens os.socket

theorem disconnect_turnover (c : Connection) (now : Nat) (os : Os) :
    Turnover (inField c.satSocket) (descriptorOps (c.disconnect now os).2) none := by
  rw [disconnect, inField]
  by_cases hopen : 0 ≤ c.satSocket
  · by_cases hclose : os.close ≤ 0
    · simp only [if_pos hopen, if_pos hclose]
      exact .closes c.satSocket
    · simp only [if_pos hopen, if_neg hclose]
      exact .closes c.satSocket
  · simp only [if_neg hopen]
    exact .keeps none

theorem reconnect_turnover {trying : Bool} (h : c.reconnect now os = .ok (trying, c', w)) :
    Turnover (inField c.satSocket) (descriptorOps w) (inField c'.satSocket) := by
  rcases reconnect_cases h with
    ⟨-, -, rfl, rfl⟩ | ⟨-, -, -, rfl, rfl⟩ | ⟨-, -, -, line, opening, hconnect, rfl⟩
  · exact .keeps _
  · exact .keeps _
  · have hclosing := disconnect_turnover { c with retryCounter := c.retryCounter + 1, lastReconnect := now } now os
    simp only [descriptorOps, List.cons_append, List.filterMap_cons, List.filterMap_append, Effect.descriptorOp]
    exact hclosing.trans (connect_turnover hconnect)

end Connection

namespace GCConnectionHandler

/-- The descriptors of the map. -/
def descriptors (h : GCConnectionHandler) : List Int := h.satellites.held fun c => inField c.satSocket

/-- A call of one of the threads. -/
inductive Call
  | addConnection (now : Nat) (os : Int32 → Os) (port : Int32) (ip : String) (satId : Int32)
  | heartbeatSat (now : Nat) (satId : Int32)
  | update (now : Nat) (os : Int32 → Os)
  | sendMessageToSat (os : Int32 → Os) (satId : Int32) (message : Message)
  | sendCommand (os : Int32 → Os) (com : CommandInput)

def step (h : GCConnectionHandler) : Call → Except Stop (GCConnectionHandler × List Effect)
  | .addConnection now os port ip satId => h.addConnection now os port ip satId
  | .heartbeatSat now satId => do
    let h ← h.heartbeatSat now satId
    return (h, [])
  | .update now os => h.update now os
  | .sendMessageToSat os satId message => do
    let effects ← h.sendMessageToSat os satId message
    return (h, effects)
  | .sendCommand os com => do
    let effects ← h.sendCommand os com
    return (h, effects)

section
variable {h h' : GCConnectionHandler} {w : List Effect} {S : Finset Int}

theorem updateSat_turnover {now : Nat} {os : Int32 → Os} (id : Int32) (c c' : Connection) (w : List Effect)
    (h : updateSat now os id c = .ok (c', w)) :
    Turnover (inField c.satSocket) (descriptorOps w) (inField c'.satSocket) := by
  rcases updateSat_cases h with ⟨-, rfl, line, rfl⟩ | ⟨-, trying, effects, hreconnect, hreport⟩ | ⟨-, -, rfl, rfl⟩
  · exact c.disconnect_turnover now (os id)
  · have hturnover := Connection.reconnect_turnover hreconnect
    rcases hreport with ⟨-, rfl⟩ | ⟨-, out, -, rfl⟩
    · exact hturnover
    · have hquiet : descriptorOps (effects ++ [.output out]) = descriptorOps effects :=
        List.filterMap_append.trans (List.append_nil _)
      rw [hquiet]
      exact hturnover
  · exact .keeps _

theorem sendMessageToSat_ops {os : Int32 → Os} {satId : Int32} {message : Message}
    (hrun : h.sendMessageToSat os satId message = .ok w) : descriptorOps w = [] := by
  rcases sendMessageToSat_cases hrun with ⟨-, line, rfl⟩ | ⟨c, -, hsent⟩
  · rfl
  · exact Connection.sendMessage_ops hsent

/-- **Every call of ground control's handler is tidy.** -/
theorem step_holds {c : Call} (hstep : h.step c = .ok (h', w)) (hS : Holds S h.descriptors)
    (hfresh : Fresh S (descriptorOps w)) :
    ClosesOpen S (descriptorOps w) ∧ Holds (openAfter S (descriptorOps w)) h'.descriptors := by
  cases c with
  | addConnection now os port ip satId =>
    rcases addConnection_cases hstep with ⟨-, rfl, rfl⟩ | ⟨hunknown, c, hconnect, rfl⟩
    · exact ⟨trivial, hS⟩
    · rw [descriptors, Table.held_insert_modify hunknown]
      have hbefore : Holds S ([] ++ (none : Option Int).toList ++ h.descriptors) := hS
      exact (Connection.connect_turnover hconnect).sound hbefore hfresh
  | heartbeatSat now satId =>
    obtain ⟨h₁, hbeat, hret⟩ := bind_eq_ok.mp hstep
    cases hret
    obtain ⟨-, hret⟩ := assert_bind_eq_ok.mp hbeat
    cases hret
    refine ⟨trivial, ?_⟩
    have hsame : (h.satellites.modify satId fun c => (c.heartbeat now).markConnected).held (fun c => inField c.satSocket) =
        h.satellites.held fun c => inField c.satSocket := Table.held_modify fun _ => rfl
    rw [descriptors, hsame]
    exact hS
  | update now os =>
    obtain ⟨⟨satellites, effects⟩, hsweep, hret⟩ := bind_eq_ok.mp hstep
    cases hret
    exact Table.sweep_holds updateSat_turnover hsweep hS hfresh
  | sendMessageToSat os satId message =>
    obtain ⟨effects, hsend, hret⟩ := bind_eq_ok.mp hstep
    cases hret
    rw [sendMessageToSat_ops hsend]
    exact ⟨trivial, hS⟩
  | sendCommand os com =>
    obtain ⟨effects, hsend, hret⟩ := bind_eq_ok.mp hstep
    cases hret
    obtain ⟨-, hsend⟩ := assert_bind_eq_ok.mp hsend
    rw [sendMessageToSat_ops hsend]
    exact ⟨trivial, hS⟩

end

end GCConnectionHandler

namespace PeerConnection

variable {p p' : PeerConnection} {now : Nat} {os : Os} {w : List Effect}

theorem sendMessage_ops {m : Message} (h : p.sendMessage os m = .ok w) : descriptorOps w = [] := by
  obtain ⟨line, rfl⟩ := sendMessage_sent h
  rfl

theorem connect_turnover (h : p.connect now os = .ok (p', w)) :
    Turnover none (descriptorOps w) (inField p'.peerSocket) := by
  rcases connect_cases h with
    ⟨hsock, rfl, line, rfl⟩ | ⟨hsock, dest, line, rfl, rfl⟩ | ⟨hsock, dest, line, attempt, rfl, rfl⟩
  · rw [inField, if_neg (Int.not_le.mpr hsock)]
    exact .keeps none
  · rw [inField, if_pos (Int.not_lt.mp hsock)]
    exact .opens os.socket
  · rw [inField, if_pos (Int.not_lt.mp hsock)]
    exact .opens os.socket

theorem disconnect_turnover (p : PeerConnection) (now : Nat) (os : Os) :
    Turnover (inField p.peerSocket) (descriptorOps (p.disconnect now os).2) none := by
  rw [disconnect, inField]
  by_cases hopen : 0 ≤ p.peerSocket
  · by_cases hclose : os.close ≤ 0
    · simp only [if_pos hopen, if_pos hclose]
      exact .closes p.peerSocket
    · simp only [if_pos hopen, if_neg hclose]
      exact .closes p.peerSocket
  · simp only [if_neg hopen]
    exact .keeps none

theorem reconnect_turnover (h : p.reconnect now os = .ok (p', w)) :
    Turnover (inField p.peerSocket) (descriptorOps w) (inField p'.peerSocket) := by
  rcases reconnect_cases h with ⟨-, rfl, rfl⟩ | ⟨-, -, rfl, rfl⟩ | ⟨-, -, line, opening, hconnect, rfl⟩
  · exact .keeps _
  · exact .keeps _
  · simp only [descriptorOps, List.cons_append, List.filterMap_cons, List.filterMap_append, Effect.descriptorOp]
    exact (disconnect_turnover p now os).trans (connect_turnover hconnect)

end PeerConnection

namespace ConnectionHandler

/-- The descriptors of the map. -/
def descriptors (h : ConnectionHandler) : List Int := h.connections.held fun p => inField p.peerSocket

section
variable {h h' : ConnectionHandler} {w : List Effect} {S : Finset Int} {satId : Int32}

theorem updatePeer_turnover {now : Nat} {os : Int32 → Os} (id : Int32) (p p' : PeerConnection) (w : List Effect)
    (h : updatePeer now os id p = .ok (p', w)) :
    Turnover (inField p.peerSocket) (descriptorOps w) (inField p'.peerSocket) := by
  rcases updatePeer_cases h with ⟨-, -, rfl, rfl⟩ | ⟨-, hreconnect⟩ | ⟨-, -, rfl, rfl⟩
  · exact p.disconnect_turnover now (os id)
  · exact PeerConnection.reconnect_turnover hreconnect
  · exact .keeps _

theorem sendMessageToPeer_ops {os : Int32 → Os} {peerId : Int32} {message : Message}
    (hrun : h.sendMessageToPeer os peerId message = .ok w) : descriptorOps w = [] := by
  rcases sendMessageToPeer_cases hrun with ⟨-, line, rfl⟩ | ⟨peer, -, ⟨-, hsent⟩ | ⟨-, rfl⟩⟩
  · rfl
  · exact PeerConnection.sendMessage_ops hsent
  · rfl

theorem broadcastMessage_ops {os : Int32 → Os} {message : Message} (hrun : h.broadcastMessage os message = .ok w) :
    descriptorOps w = [] := by
  unfold broadcastMessage at hrun
  simp only [assert_bind_eq_ok] at hrun
  obtain ⟨-, -, -, hrun⟩ := hrun
  obtain ⟨⟨connections, effects⟩, hsweep, hret⟩ := bind_eq_ok.mp hrun
  cases hret
  refine (Table.sweep_sound (P := fun _ _ _ => True) (Q := fun w => descriptorOps w = []) rfl ?_ ?_ hsweep).2
  · intro v w hv hw
    rw [descriptorOps, List.filterMap_append]
    exact List.append_eq_nil_iff.mpr ⟨hv, hw⟩
  · intro id p p' v _ hcall
    refine ⟨trivial, ?_⟩
    rcases (broadcastTo_cases hcall).2 with ⟨-, -, hsent⟩ | rfl | ⟨line, rfl⟩
    · exact PeerConnection.sendMessage_ops hsent
    · rfl
    · rfl

/-- **Every call of a satellite's handler is tidy.** -/
theorem step_holds {c : Call} (hstep : step satId h c = .ok (h', w)) (hS : Holds S h.descriptors)
    (hfresh : Fresh S (descriptorOps w)) :
    ClosesOpen S (descriptorOps w) ∧ Holds (openAfter S (descriptorOps w)) h'.descriptors := by
  cases c with
  | addConnection now os port ip peerId =>
    rcases addConnection_cases hstep with ⟨-, rfl, rfl⟩ | ⟨hunknown, p, q, -, hconnect, rfl⟩
    · exact ⟨trivial, hS⟩
    · rw [descriptors, Table.held_insert_modify hunknown]
      have hbefore : Holds S ([] ++ (none : Option Int).toList ++ h.descriptors) := hS
      exact (PeerConnection.connect_turnover hconnect).sound hbefore hfresh
  | heartbeatSat now peerId =>
    obtain ⟨h₁, hbeat, hret⟩ := bind_eq_ok.mp hstep
    cases hret
    obtain ⟨-, hret⟩ := assert_bind_eq_ok.mp hbeat
    cases hret
    refine ⟨trivial, ?_⟩
    have hsame : (h.connections.modify peerId fun p => (p.heartbeat now).markConnected).held (fun p => inField p.peerSocket) =
        h.connections.held fun p => inField p.peerSocket := Table.held_modify fun _ => rfl
    rw [descriptors, hsame]
    exact hS
  | update now os =>
    obtain ⟨⟨connections, effects⟩, hsweep, hret⟩ := bind_eq_ok.mp hstep
    cases hret
    exact Table.sweep_holds updatePeer_turnover hsweep hS hfresh
  | sendMessageToPeer os peerId message =>
    obtain ⟨effects, hsend, hret⟩ := bind_eq_ok.mp hstep
    cases hret
    rw [sendMessageToPeer_ops hsend]
    exact ⟨trivial, hS⟩
  | broadcastMessage os message =>
    obtain ⟨effects, hsend, hret⟩ := bind_eq_ok.mp hstep
    cases hret
    rw [broadcastMessage_ops hsend]
    exact ⟨trivial, hS⟩

end

end ConnectionHandler

/-- **No descriptor is leaked, shared or closed twice.** On both sides, in every run of the calls on a handler in which
`socket()` fails or gives a descriptor that is not open: every `close()` is of an open descriptor, the descriptors in the
socket fields of the map are distinct, and they are just the open ones. -/
theorem descriptors_exact :
    (∀ gcPort cs h w, run GCConnectionHandler.step { satellites := ∅, gcPort } cs = .ok (h, w) →
      Fresh ∅ (descriptorOps w) → ClosesOpen ∅ (descriptorOps w) ∧ h.descriptors.Nodup ∧
        ∀ fd, fd ∈ openAfter ∅ (descriptorOps w) ↔ fd ∈ h.descriptors) ∧
    ∀ satId listeningPort cs h w, run (ConnectionHandler.step satId) (.init listeningPort) cs = .ok (h, w) →
      Fresh ∅ (descriptorOps w) → ClosesOpen ∅ (descriptorOps w) ∧ h.descriptors.Nodup ∧
        ∀ fd, fd ∈ openAfter ∅ (descriptorOps w) ↔ fd ∈ h.descriptors := by
  constructor
  · intro gcPort cs h w hrun hfresh
    have hstart : Holds ∅ (GCConnectionHandler.mk ∅ gcPort).descriptors := ⟨List.nodup_nil, fun fd => Iff.rfl⟩
    exact run_holds GCConnectionHandler.step_holds hrun hstart hfresh
  · intro satId listeningPort cs h w hrun hfresh
    have hstart : Holds ∅ (ConnectionHandler.init listeningPort).descriptors := ⟨List.nodup_nil, fun fd => Iff.rfl⟩
    exact run_holds ConnectionHandler.step_holds hrun hstart hfresh

/-- The system gives each id a descriptor of its own; the address of id 2 cannot be converted. -/
def ownSockets (id : Int32) : Os :=
  { Os.granting with
    socket := id.toInt + 2
    inet_pton := id ≠ 2 }

def redialled : List GCConnectionHandler.Call :=
  [.addConnection 0 ownSockets 5001 "127.0.0.1" 1, .addConnection 0 ownSockets 5002 "satellite" 2, .update 10 ownSockets]

def redialledPeers : List ConnectionHandler.Call :=
  [.addConnection 0 ownSockets 8000 "127.0.0.1" 0, .addConnection 0 ownSockets 5002 "satellite" 2, .update 21 ownSockets,
    .update 31 ownSockets]

theorem descriptors_exact_redialled :
    (∃ h w, run GCConnectionHandler.step { satellites := ∅, gcPort := 8000 } redialled = .ok (h, w) ∧
      ClosesOpen ∅ (descriptorOps w) ∧ h.descriptors.Nodup ∧
        ∀ fd, fd ∈ openAfter ∅ (descriptorOps w) ↔ fd ∈ h.descriptors) ∧
    ∃ h w, run (ConnectionHandler.step 1) (.init 5001) redialledPeers = .ok (h, w) ∧
      ClosesOpen ∅ (descriptorOps w) ∧ h.descriptors.Nodup ∧
        ∀ fd, fd ∈ openAfter ∅ (descriptorOps w) ↔ fd ∈ h.descriptors := by
  constructor
  · obtain ⟨h, w, hrun, hfresh⟩ : ∃ h w, run GCConnectionHandler.step { satellites := ∅, gcPort := 8000 } redialled =
        .ok (h, w) ∧ Fresh ∅ (descriptorOps w) := ⟨_, _, rfl, by decide⟩
    exact ⟨h, w, hrun, descriptors_exact.1 _ _ _ _ hrun hfresh⟩
  · obtain ⟨h, w, hrun, hfresh⟩ : ∃ h w, run (ConnectionHandler.step 1) (.init 5001) redialledPeers = .ok (h, w) ∧
        Fresh ∅ (descriptorOps w) := ⟨_, _, rfl, by decide⟩
    exact ⟨h, w, hrun, descriptors_exact.2 _ _ _ _ _ hrun hfresh⟩

end Constellation
