import Constellation.Lib.Decimal
import Constellation.Satellite.ConnectionHandler
import Constellation.Satellite.DataDump

/-!
# The satellite

The state of a satellite and the methods of `Satellite`. Positions and velocities are the bit
patterns of doubles; the arithmetic of `update` on them is an argument, `axpy v x` for `x + v * dt`.
Everything a satellite says carries its id and its listening port and is filled in by its sender
(`Utterance`); its log gets lines with its id, its position and its velocity (`Position.line`).
-/

namespace Constellation

structure Satellite where
  handler : ConnectionHandler
  id : UInt32
  x : Double
  y : Double
  z : Double
  vx : Double
  vy : Double
  vz : Double
  port : Int32
  waitingForAck : Bool

namespace Satellite

def setWaitingForAck (s : Satellite) (b : Bool) : Satellite := { s with waitingForAck := b }

/-- The motion of one time step, then the connections. -/
def update (s : Satellite) (now : Nat) (os : Int32 → Os) (axpy : Double → Double → Double) :
    Except Stop (Satellite × List Effect) := do
  let s := { s with x := axpy s.vx s.x, y := axpy s.vy s.y, z := axpy s.vz s.z }
  let (handler, effects) ← s.handler.update now os
  return ({ s with handler }, effects)

def createHeartbeatMessage (s : Satellite) : Except Stop Message := do
  assert (0 < s.id) "id > 0"
  assert (0 ≤ s.port) "port >= 0"
  return .build s.id.toInt32 s.port (.heartbeat true)

/-- The messages of a dump of a file with this content; message `i` has `stale i` behind its bytes. -/
def createDataDump (s : Satellite) (content : List UInt8) (stale : Nat → Chunk) : List Message :=
  (fileChunks content).mapIdx fun i c => chunkMessage s.id.toInt32 s.port c (stale i)

def handleCommand (s : Satellite) (cmd : Message) (x y z vx vy vz : Double) : Except Stop Satellite := do
  assert (0 < cmd.header.size) "cmd.header.size > 0"
  assert (cmd.senderId = 0) "cmd.senderId == 0"
  assert (0 ≤ cmd.senderPort) "cmd.senderPort >= 0"
  assert (cmd.senderPort ≠ s.port) "cmd.senderPort != this->port"
  return { s with x, y, z, vx, vy, vz }

end Satellite

/-! ### The position line -/

/-- What a satellite writes about itself. -/
structure Position where
  id : UInt32
  x : Printed
  y : Printed
  z : Printed
  vx : Printed
  vy : Printed
  vz : Printed

def Position.line (p : Position) : String :=
  "SAT " ++ toString p.id.toNat ++ " POS " ++ p.x.text ++ " " ++ p.y.text ++ " " ++ p.z.text ++
    " VEL " ++ p.vx.text ++ " " ++ p.vy.text ++ " " ++ p.vz.text

namespace Satellite

def position (s : Satellite) : Position where
  id := s.id
  x := printed s.x
  y := printed s.y
  z := printed s.z
  vx := printed s.vx
  vy := printed s.vy
  vz := printed s.vz

def print (s : Satellite) : List Effect := [.log s.position.line]

/-! ### What a satellite says -/

/-- A message of the satellite with this id and listening port: a heartbeat, an acknowledgement, or a
file message with as many bytes as it says. -/
structure Utterance (satId port : Int32) (m : Message) : Prop where
  built : m = Message.build satId port m.body
  kind : m.kind ≠ .command
  len : ∀ data len last, m.body = .fileMsg data len last → 0 ≤ len ∧ len.toInt ≤ Config.FILE_CHUNK_SIZE

section
variable {satId port : Int32}

theorem Utterance.heartbeat (alive : Bool) : Utterance satId port (.build satId port (.heartbeat alive)) :=
  ⟨rfl, nofun, nofun⟩

theorem Utterance.ack (received : Bool) : Utterance satId port (.build satId port (.ack received)) :=
  ⟨rfl, nofun, nofun⟩

theorem toInt_ofNat_chunk {n : Nat} (h : n ≤ Config.FILE_CHUNK_SIZE) : (Int16.ofNat n).toInt = n := by
  have hle : n ≤ 1024 := h
  exact Int16.toInt_ofNat_of_lt (by omega)

/-- What a file message carries: its bytes, as many as it says, and whether it is marked as the last. -/
def carried (m : Message) : List UInt8 × Bool :=
  match m.body with
  | .fileMsg data len last => (data.val.take len.toInt.toNat, last)
  | _ => ([], false)

theorem carried_chunkMessage {c : List UInt8 × Bool} (hc : c.1.length ≤ Config.FILE_CHUNK_SIZE) (id port : Int32)
    (stale : Chunk) : carried (chunkMessage id port c stale) = c := by
  have hlen : (Int16.ofNat c.1.length).toInt.toNat = c.1.length := by
    rw [toInt_ofNat_chunk hc]
    rfl
  have htake : (chunkArray c.1 stale).val.take c.1.length = c.1 := by
    show (c.1.take Config.FILE_CHUNK_SIZE ++ _).take c.1.length = c.1
    rw [List.take_of_length_le hc]
    exact List.take_left
  show ((chunkArray c.1 stale).val.take (Int16.ofNat c.1.length).toInt.toNat, c.2) = c
  rw [hlen, htake]

theorem Utterance.chunk {c : List UInt8 × Bool} (hc : c.1.length ≤ Config.FILE_CHUNK_SIZE) (stale : Chunk) :
    Utterance satId port (chunkMessage satId port c stale) := by
  refine ⟨rfl, nofun, fun data len last h => ?_⟩
  have hlen : Int16.ofNat c.1.length = len := by
    injection h
  have hint := toInt_ofNat_chunk hc
  rw [← hlen]
  refine ⟨?_, ?_⟩
  · rw [Int16.le_iff_toInt_le, hint]
    exact Int.natCast_nonneg _
  · rw [hint]
    exact_mod_cast hc

theorem createDataDump_utterance {s : Satellite} (hid : s.id.toInt32 = satId) (hport : s.port = port)
    (content : List UInt8) (stale : Nat → Chunk) : ∀ m ∈ s.createDataDump content stale, Utterance satId port m := by
  intro m hm
  rw [createDataDump, hid, hport] at hm
  obtain ⟨i, hi, rfl⟩ := List.mem_mapIdx.mp hm
  exact .chunk (readChunks_length_le content _ _ _ (List.getElem_mem hi)) _

end

end Satellite

end Constellation
