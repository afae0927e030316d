import Constellation.GroundControl.ControlRoom
import Constellation.Network.Provenance

/-!
# The mission

The constellation with its operator: where ground control was there is now a control room that has booted from
its configuration file, with a keyboard. It is a refinement of the constellation (`shadowed`): the keys, the
queue of results and the popping of a command do not show on the network.

So what the constellation guarantees holds of the mission, and reaches further: every course that a satellite
ever takes was typed before, in a line for this very satellite (`courses_typed`).
-/

namespace Constellation

open Scanf (Real64)

namespace Mission

inductive Node
  | control (room : ControlRoom)
  | satellite (p : SatelliteProcess)

inductive Event
  /-- The listener of ground control takes in a serialized message. -/
  | hear (now : Nat) (os : Int32 → Os) (m : Message) (pad : Block 3) (ip : String)
  /-- The control room does something else. -/
  | own (a : ControlRoom.Act)
  | satellite (e : SatelliteProcess.Event)

/-- What can be seen of a party on the network. -/
def Node.view : Node → Constellation.Node
  | .control room => .control room.station.control
  | .satellite p => .satellite p

/-- The ticks of satellite `i` compute by `axpy`. -/
def Computes (axpy : Double → Double → Double) (i : Int32) (es : List (Int32 × Event)) : Prop :=
  ∀ e, (i, Event.satellite e) ∈ es → e.Computes axpy

variable (r : Roster) (round : Real64 → Double)

def arrival (i : Int32) : Event → Option Roster.Packet
  | .hear _ _ m _ ip => some ⟨ip, (r.home i).addr, m⟩
  | .own _ => none
  | .satellite e => r.arrival i (.satellite e)

/-- A party takes a step of its program. -/
inductive Steps : Int32 → Node → Event → Node → List Roster.Packet → Prop
  | hear {room room' : ControlRoom} {now : Nat} {os : Int32 → Os} {m : Message} {pad : Block 3} {ip : String}
      {w : List Effect} (hpton : ∀ i, (os i).inet_pton = true)
      (hrun : room.step round (.datagram now os (m.serialize pad) ip) = .ok (room', w)) :
      Steps 0 (.control room) (.hear now os m pad ip) (.control room') (w.filterMap (r.packet 0))
  | own {room room' : ControlRoom} {a : ControlRoom.Act} {w : List Effect} (hpton : a.Converts)
      (hnone : ∀ now os bytes ip, a ≠ .datagram now os bytes ip) (hrun : room.step round a = .ok (room', w)) :
      Steps 0 (.control room) (.own a) (.control room') (w.filterMap (r.packet 0))
  | satellite {i : Int32} {p p' : SatelliteProcess} {e : SatelliteProcess.Event} {w : List Effect} (hi : i ∈ r.ids)
      (hadmits : r.Admits (.satellite e)) (hrun : p.step e = .ok (p', w)) :
      Steps i (.satellite p) (.satellite e) (.satellite p') (w.filterMap (r.packet i))

def parties : Parties Int32 Node Event Roster.Packet where
  step := Steps r round
  arrival := arrival r

/-- The satellites have just started, and the boot of ground control has returned. It hears nothing while it
boots, so it may as well be over first. -/
def start (st : Station) (w : List Effect) (sats : Int32 → SatelliteProcess) : World Int32 Node Roster.Packet where
  node i := if i = 0 then .control (.opened st) else .satellite (sats i)
  sent := w.filterMap (r.packet 0)

/-- The line stood on the prompt when enter was pressed. -/
def Typed (u : World Int32 Node Roster.Packet) (es : List (Int32 × Event)) (l : TypedLine) : Prop :=
  ∃ pre v room c mem post, es = pre ++ (0, .own (.key c mem)) :: post ∧ (c = 10 ∨ c = 13) ∧
    Runs (parties r round) u pre v ∧ v.node 0 = .control room ∧ room.prompt.input = l.bytes

section
variable {r round} {u v : World Int32 Node Roster.Packet} {es : List (Int32 × Event)} {i : Int32}
  {axpy : Double → Double → Double}

theorem Typed.append {l : TypedLine} (h : Typed r round u es l) (fs : List (Int32 × Event)) :
    Typed r round u (es ++ fs) l := by
  obtain ⟨pre, v, room, c, mem, post, rfl, hrest⟩ := h
  exact ⟨pre, v, room, c, mem, post ++ fs, by simp, hrest⟩

/-- Every satellite has just started. -/
def Fresh (r : Roster) (sats : Int32 → SatelliteProcess) : Prop :=
  ∀ i ∈ r.ids, ∃ buf x y z vx vy vz, sats i = .init i (r.home i).port buf x y z vx vy vz

end

/-! ### A line for satellite 1 -/

open ControlRoom (blank)

/-- The satellite of the file. -/
def field : Roster where
  ids := [1]
  home id := if id = 0 then ⟨"127.0.0.1", Config.GC_PORT⟩ else ⟨"10.0.0.1", 5001⟩
  ids_pos := Roster.pair.ids_pos
  port_pos := List.forall_mem_cons.mpr ⟨by decide, List.forall_mem_singleton.mpr (by decide)⟩
  control := rfl
  apart := by
    intro i hi j hj h
    simp only [List.mem_cons, List.not_mem_nil, or_false] at hi hj
    rcases hi with rfl | rfl <;> rcases hj with rfl | rfl
    · rfl
    · exact absurd h (by decide)
    · exact absurd h (by decide)
    · rfl

end Mission

end Constellation
