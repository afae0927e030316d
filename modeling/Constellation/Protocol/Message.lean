import Constellation.Config
import Constellation.Lib.Pod

/-!
# Messages

The four message structs and their `serialize` methods. A message is a header, the sender's id and
listening port, and the fields of its dynamic type (`Body`); the type tag in the header is data of
its own and need not agree with the dynamic type.

`Header` has three padding bytes between its two fields. They belong to the memory image that
`serialize` copies out, but no field holds them, so `serialize` takes them as an argument.
-/

namespace Constellation

/-- The bit pattern of a `double`. -/
abbrev Double := UInt64

theorem toUInt32_pos {id : Int32} (hid : 0 < id) : 0 < id.toUInt32 := by
  rcases Nat.eq_zero_or_pos id.toUInt32.toNat with hzero | hpos
  · have hbits : id.toUInt32 = 0 := UInt32.toNat_inj.mp hzero
    have hsat : id = 0 := by
      rw [← Int32.toInt32_toUInt32 id, hbits]
      rfl
    rw [hsat] at hid
    exact absurd hid (by decide)
  · exact UInt32.lt_iff_toNat_lt.mpr hpos

inductive MessageType
  | heartbeat
  | fileMsg
  | ack
  | command
  deriving DecidableEq, Repr

namespace MessageType

/-- The value of the enumerator. -/
def tag : MessageType → UInt8
  | heartbeat => 0
  | fileMsg => 1
  | ack => 2
  | command => 3

/-- The case of a `switch` on a type byte; `none` is its `default`. -/
def ofTag (b : UInt8) : Option MessageType :=
  if b = 0 then some heartbeat
  else if b = 1 then some fileMsg
  else if b = 2 then some ack
  else if b = 3 then some command
  else none

@[simp] theorem ofTag_tag (k : MessageType) : ofTag k.tag = some k := by cases k <;> decide

theorem tag_of_ofTag {b : UInt8} {k : MessageType} (h : ofTag b = some k) : b = k.tag := by
  unfold ofTag at h
  split_ifs at h with h0 h1 h2 h3
  all_goals
    cases h
    assumption

theorem tag_injective : Function.Injective tag := by
  intro k k' h
  have := congrArg ofTag h
  simpa using this

end MessageType

structure Header where
  type : UInt8
  size : UInt32
  deriving DecidableEq, Repr

/-- `sizeof(Header)`: the tag, three padding bytes, the size. -/
def sizeofHeader : Nat := 8

/-- The data array of a file message. -/
abbrev Chunk := Block Config.FILE_CHUNK_SIZE

/-- The fields a message adds to the common ones, by its dynamic type. -/
inductive Body
  | heartbeat (alive : Bool)
  | fileMsg (data : Chunk) (len : Int16) (last : Bool)
  | ack (received : Bool)
  | command (x y z vx vy vz : Double)
  deriving DecidableEq

structure Message where
  header : Header
  senderId : Int32
  senderPort : Int32
  body : Body
  deriving DecidableEq

namespace Body

/-- The dynamic type. -/
def kind : Body → MessageType
  | heartbeat _ => .heartbeat
  | fileMsg _ _ _ => .fileMsg
  | ack _ => .ack
  | command .. => .command

/-- The bytes a `serialize` method appends after the common fields. -/
def bytes : Body → List UInt8
  | heartbeat alive => Pod.bytes alive
  | fileMsg data len last => Pod.bytes data ++ (Pod.bytes len ++ Pod.bytes last)
  | ack received => Pod.bytes received
  | command x y z vx vy vz =>
      Pod.bytes x ++ (Pod.bytes y ++ (Pod.bytes z ++ (Pod.bytes vx ++ (Pod.bytes vy ++ Pod.bytes vz))))

end Body

namespace MessageType

/-- `sizeof` of the message struct: a virtual table pointer, the common fields, the body, rounded
up to the alignment of 8. -/
def sizeof : MessageType → UInt32
  | heartbeat => 32
  | fileMsg => 1056
  | ack => 32
  | command => 72

/-- The length of a serialized message of this type. -/
def layout : MessageType → Nat
  | heartbeat => 17
  | fileMsg => 1043
  | ack => 17
  | command => 64

end MessageType

namespace Message

def kind (m : Message) : MessageType := m.body.kind

/-- `serialize`, with the padding bytes of the header. -/
def serialize (pad : Block 3) (m : Message) : List UInt8 :=
  Pod.bytes m.header.type ++ (pad.val ++ (Pod.bytes m.header.size ++
    (Pod.bytes m.senderId ++ (Pod.bytes m.senderPort ++ m.body.bytes))))

theorem length_zeroPad : [(0 : UInt8), 0, 0].length = 3 := rfl

theorem length_bodyBytes (b : Body) : b.bytes.length + 16 = b.kind.layout := by
  cases b <;> simp [Body.bytes, Body.kind, MessageType.layout, Pod.length_bytes] <;> rfl

theorem length_serialize (pad : Block 3) (m : Message) :
    (m.serialize pad).length = m.kind.layout := by
  have hbody := length_bodyBytes m.body
  have hpad := pad.property
  have hwidths : Pod.width UInt8 = 1 ∧ Pod.width UInt32 = 4 ∧ Pod.width Int32 = 4 := ⟨rfl, rfl, rfl⟩
  simp only [serialize, List.length_append, Pod.length_bytes, kind]
  omega

end Message

/-- A message as every sender fills it in: the header tells the type and the `sizeof` of its struct. -/
def Message.build (senderId senderPort : Int32) (body : Body) : Message where
  header := { type := body.kind.tag, size := body.kind.sizeof }
  senderId
  senderPort
  body

/-- What makes a message one that the decoder takes back: the tag of its kind, a plausible size
field, a sender. -/
structure Message.Valid (m : Message) : Prop where
  type : m.header.type = m.kind.tag
  size_ge : 8 ≤ m.header.size
  size_le : m.header.size ≤ 4096
  senderId : 0 ≤ m.senderId
  senderPort : 0 < m.senderPort

theorem Message.build_valid {senderId senderPort : Int32} (hid : 0 ≤ senderId) (hport : 0 < senderPort)
    (body : Body) : (Message.build senderId senderPort body).Valid where
  type := rfl
  size_ge := show 8 ≤ body.kind.sizeof by cases body.kind <;> decide
  size_le := show body.kind.sizeof ≤ 4096 by cases body.kind <;> decide
  senderId := hid
  senderPort := hport

end Constellation
