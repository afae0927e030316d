import Constellation.Protocol.Residue
import Constellation.Protocol.RoundTrip

/-!
# Receiving a datagram

What the listener loops of both programs do with a datagram before they look at the message:
`recvfrom` into the reused buffer, then `decode` with every exception caught. A datagram that was
serialized from a valid message comes out as that message, whatever the buffer held before
(`receive_serialize`).
-/

namespace Constellation

/-- `recvfrom`: as much of the datagram as fits goes to the front of the buffer. -/
def recvfrom (buf : RecvBuffer) (datagram : List UInt8) : RecvBuffer :=
  ⟨received buf (datagram.take Config.BUFFER_SIZE), length_received buf (List.length_take_le ..)⟩

/-- `try { decode } catch (...) { continue }`: no message where an exception was thrown. -/
def decodeCaught (buf : List UInt8) (size : Nat) : Except Stop (Option Message) :=
  match decode buf size with
  | .ok m => .ok (some m)
  | .error (.throws _) => .ok none
  | .error e => .error e

/-- The buffer and the message, if any, after one datagram. -/
def receive (buf : RecvBuffer) (datagram : List UInt8) : Except Stop (RecvBuffer × Option Message) := do
  let message ← decodeCaught (recvfrom buf datagram).val (min datagram.length Config.BUFFER_SIZE)
  return (recvfrom buf datagram, message)

/-- The sender of the message that a datagram comes out as. -/
def senderOf (buf : RecvBuffer) (datagram : List UInt8) : Option Int32 :=
  match receive buf datagram with
  | .ok (_, some m) => some m.senderId
  | _ => none

theorem layout_le_buffer (k : MessageType) : k.layout ≤ Config.BUFFER_SIZE := by
  cases k <;> decide

/-- **The listener sees the message that was sent.** -/
theorem receive_serialize {m : Message} (hm : m.Valid) (pad : Block 3) (buf : RecvBuffer) :
    receive buf (m.serialize pad) = .ok (recvfrom buf (m.serialize pad), some m) := by
  have hlen := Message.length_serialize pad m
  have hfit : (m.serialize pad).length ≤ Config.BUFFER_SIZE := by
    rw [hlen]
    exact layout_le_buffer m.kind
  have hfront : (recvfrom buf (m.serialize pad)).val = received buf (m.serialize pad) := by
    show received buf ((m.serialize pad).take Config.BUFFER_SIZE) = _
    rw [List.take_of_length_le hfit]
  have hsize : sizeofHeader ≤ (m.serialize pad).length := by
    rw [hlen]
    exact sizeofHeader_le_layout m.kind
  rw [receive, decodeCaught, hfront, received, Nat.min_eq_left hfit, decode_serialize pad m _ hm hsize]
  rfl

end Constellation
