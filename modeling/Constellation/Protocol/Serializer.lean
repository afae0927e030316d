import Constellation.Lib.Stop
import Constellation.Protocol.Message

/-!
# The decoder

`decode buf size`, with `buf` the whole buffer the pointer leads into and `size` the number of bytes
received. As in the source only the header is compared with `size`; every later copy is bounded by
nothing but the buffer itself, and a copy past its end is undefined behaviour.
-/

namespace Constellation

/-- One `std::memcpy` out of the buffer. -/
def memcpy (α : Type) [Pod α] (buf : List UInt8) (off : Nat) : Except Stop α :=
  match fetch α buf off with
  | some a => .ok a
  | none => .error (.undefined "memcpy reads past the end of the buffer")

/-- The copy of the header: the tag at its first byte, the size at its fifth. -/
def memcpyHeader (buf : List UInt8) : Except Stop Header := do
  let type ← memcpy UInt8 buf 0
  let size ← memcpy UInt32 buf 4
  return { type, size }

/-- `makeMsg<T>`: a message with the common fields set and a value-initialized body. -/
def makeMsg (blank : Body) (head : Header) (id port : Int32) : Except Stop Message := do
  assert (0 ≤ id) "id >= 0"
  assert (0 < port) "port > 0"
  return { header := head, senderId := id, senderPort := port, body := blank }

theorem length_blankChunk : (List.replicate Config.FILE_CHUNK_SIZE (0 : UInt8)).length = Config.FILE_CHUNK_SIZE :=
  List.length_replicate

def blankChunk : Chunk := ⟨List.replicate Config.FILE_CHUNK_SIZE 0, length_blankChunk⟩

def decode (buf : List UInt8) (size : Nat) : Except Stop Message := do
  assert (0 < size) "size > 0"
  if size < sizeofHeader then throw (.throws "Buffer too small for header.")
  let head ← memcpyHeader buf
  if head.size < 8 ∨ 4096 < head.size then throw (.throws "Corrupt or invalid message size")
  let senderId ← memcpy Int32 buf 8
  let senderPort ← memcpy Int32 buf 12
  match MessageType.ofTag head.type with
  | some .heartbeat =>
      let msg_heartbeat ← makeMsg (.heartbeat false) head senderId senderPort
      let alive ← memcpy Bool buf 16
      return { msg_heartbeat with body := .heartbeat alive }
  | some .fileMsg =>
      let msg_file ← makeMsg (.fileMsg blankChunk 0 false) head senderId senderPort
      let data ← memcpy Chunk buf 16
      let len ← memcpy Int16 buf 1040
      let last ← memcpy Bool buf 1042
      return { msg_file with body := .fileMsg data len last }
  | some .ack =>
      let msg_ack ← makeMsg (.ack false) head senderId senderPort
      let received ← memcpy Bool buf 16
      return { msg_ack with body := .ack received }
  | some .command =>
      let msg_cmd ← makeMsg (.command 0 0 0 0 0 0) head senderId senderPort
      let x ← memcpy Double buf 16
      let y ← memcpy Double buf 24
      let z ← memcpy Double buf 32
      let vx ← memcpy Double buf 40
      let vy ← memcpy Double buf 48
      let vz ← memcpy Double buf 56
      return { msg_cmd with body := .command x y z vx vy vz }
  | none => throw (.throws "Unknown message type")

end Constellation
