import Constellation.Protocol.Serializer

/-!
# Decoding a serialized message

`decode_serialize`: the decoder gives back every valid message from its serialization, whatever
follows it in the buffer, as soon as the size passes the header check. The offsets of the decoder
are those of the layouts, one value at a time (`memcpy_at`): first the common fields, then the body
of each kind (`readBody_bytes`).

Unique decoding makes the set of serializations prefix free: a serialization that starts another
one decodes to both messages.
-/

namespace Constellation

/-! ### The decoder in two parts -/

/-- The copies `decode` makes after `makeMsg`, by the case of its `switch`. -/
def MessageType.readBody (buf : List UInt8) : MessageType → Except Stop Body
  | .heartbeat => do
      let alive ← memcpy Bool buf 16
      return .heartbeat alive
  | .fileMsg => do
      let data ← memcpy Chunk buf 16
      let len ← memcpy Int16 buf 1040
      let last ← memcpy Bool buf 1042
      return .fileMsg data len last
  | .ack => do
      let received ← memcpy Bool buf 16
      return .ack received
  | .command => do
      let x ← memcpy Double buf 16
      let y ← memcpy Double buf 24
      let z ← memcpy Double buf 32
      let vx ← memcpy Double buf 40
      let vy ← memcpy Double buf 48
      let vz ← memcpy Double buf 56
      return .command x y z vx vy vz

/-- The assertions of `makeMsg`, then the body. -/
def finishMsg (buf : List UInt8) (k : MessageType) (head : Header) (id port : Int32) :
    Except Stop Message := do
  assert (0 ≤ id) "id >= 0"
  assert (0 < port) "port > 0"
  let body ← k.readBody buf
  return { header := head, senderId := id, senderPort := port, body }

/-- The header has passed the checks of `decode`, and the sender fields were copied. -/
structure HeaderRead (buf : List UInt8) (size : Nat) (head : Header) (id port : Int32) : Prop where
  size : sizeofHeader ≤ size
  copied : memcpyHeader buf = .ok head
  head_ge : 8 ≤ head.size
  head_le : head.size ≤ 4096
  id : memcpy Int32 buf 8 = .ok id
  port : memcpy Int32 buf 12 = .ok port

section
variable {buf : List UInt8} {size : Nat} {head : Header} {id port : Int32}

theorem decode_short (hpos : 0 < size) (hsize : size < sizeofHeader) :
    decode buf size = .error (.throws "Buffer too small for header.") := by
  rw [decode, assert_bind hpos, if_pos hsize]
  rfl

theorem decode_corrupt (hsize : sizeofHeader ≤ size) (hhead : memcpyHeader buf = .ok head)
    (hrange : head.size < 8 ∨ 4096 < head.size) :
    decode buf size = .error (.throws "Corrupt or invalid message size") := by
  have hpos : 0 < size := lt_of_lt_of_le (by decide) hsize
  rw [decode, assert_bind hpos, if_neg (Nat.not_lt.mpr hsize), hhead, ok_bind, if_pos hrange]
  rfl

theorem decode_switch (h : HeaderRead buf size head id port) :
    decode buf size =
      match MessageType.ofTag head.type with
      | some k => finishMsg buf k head id port
      | none => .error (.throws "Unknown message type") := by
  obtain ⟨hsize, hhead, hge, hle, hid, hport⟩ := h
  have hpos : 0 < size := lt_of_lt_of_le (by decide) hsize
  have hrange : ¬ (head.size < 8 ∨ 4096 < head.size) := by
    rintro (hlt | hgt)
    · exact absurd hlt (UInt32.not_lt.mpr hge)
    · exact absurd hgt (UInt32.not_lt.mpr hle)
  rw [decode, assert_bind hpos, if_neg (Nat.not_lt.mpr hsize), hhead, ok_bind, if_neg hrange,
    hid, hport]
  cases MessageType.ofTag head.type with
  | none => rfl
  | some k =>
    simp only [ok_bind, finishMsg]
    cases k <;> simp only [makeMsg, MessageType.readBody, bind_assoc, pure_bind]

theorem decode_known (h : HeaderRead buf size head id port) {k : MessageType}
    (hk : MessageType.ofTag head.type = some k) :
    decode buf size = finishMsg buf k head id port := by
  rw [decode_switch h, hk]

theorem decode_unknown (h : HeaderRead buf size head id port)
    (hk : MessageType.ofTag head.type = none) :
    decode buf size = .error (.throws "Unknown message type") := by
  rw [decode_switch h, hk]

theorem finishMsg_ok {k : MessageType} {body : Body} (hid : 0 ≤ id) (hport : 0 < port)
    (hbody : k.readBody buf = .ok body) :
    finishMsg buf k head id port =
      .ok { header := head, senderId := id, senderPort := port, body } := by
  rw [finishMsg, assert_bind hid, assert_bind hport, hbody, ok_bind]
  rfl

theorem finishMsg_id {k : MessageType} (hid : ¬ 0 ≤ id) :
    finishMsg buf k head id port = .error (.asserts "id >= 0") := by
  rw [finishMsg, assert_neg hid, error_bind]

theorem finishMsg_port {k : MessageType} (hid : 0 ≤ id) (hport : ¬ 0 < port) :
    finishMsg buf k head id port = .error (.asserts "port > 0") := by
  rw [finishMsg, assert_bind hid, assert_neg hport, error_bind]

end

/-! ### Reading back what was written -/

theorem memcpy_at {α : Type} [Pod α] {buf : List UInt8} {off : Nat} (front rest : List UInt8) (a : α)
    (hbuf : buf = front ++ (Pod.bytes a ++ rest)) (hoff : front.length = off) :
    memcpy α buf off = .ok a := by
  have hfetch : fetch α buf (front.length + 0) = some a := by
    rw [hbuf, fetch_skip, fetch_append]
  rw [memcpy, ← hoff, ← Nat.add_zero front.length, hfetch]

theorem memcpy_array {α : Type} [Pod α] (front rest : List UInt8) (vs : List α) (i : Nat) (v : α)
    (hv : vs[i]? = some v) :
    memcpy α (front ++ (vs.flatMap Pod.bytes ++ rest)) (front.length + i * Pod.width α) = .ok v := by
  induction vs generalizing front i with
  | nil => simp at hv
  | cons w vs ih =>
    cases i with
    | zero =>
      obtain rfl : w = v := by simpa using hv
      exact memcpy_at front (vs.flatMap Pod.bytes ++ rest) w (by simp) (by simp)
    | succ i =>
      have hnext := ih (front ++ Pod.bytes w) i (by simpa using hv)
      rw [List.length_append, Pod.length_bytes] at hnext
      rw [Nat.succ_mul, Nat.add_comm (i * _), ← Nat.add_assoc]
      simpa using hnext

theorem readBody_bytes {front : List UInt8} (hfront : front.length = 16) (b : Body)
    (rest : List UInt8) : b.kind.readBody (front ++ (b.bytes ++ rest)) = .ok b := by
  cases b with
  | heartbeat alive =>
    have h : memcpy Bool _ 16 = .ok alive := memcpy_at front rest alive rfl hfront
    simp only [Body.kind, Body.bytes, MessageType.readBody, h]
    rfl
  | fileMsg data len last =>
    have hdata : memcpy Chunk _ 16 = .ok data :=
      memcpy_at front (Pod.bytes len ++ (Pod.bytes last ++ rest)) data rfl hfront
    have hlen : memcpy Int16 (front ++ (Pod.bytes data ++ (Pod.bytes len ++ (Pod.bytes last ++ rest)))) 1040
        = .ok len :=
      memcpy_at (front ++ Pod.bytes data) (Pod.bytes last ++ rest) len
        (by simp only [List.append_assoc]) (by rw [List.length_append, hfront, Pod.length_bytes]; rfl)
    have hlast : memcpy Bool (front ++ (Pod.bytes data ++ (Pod.bytes len ++ (Pod.bytes last ++ rest)))) 1042
        = .ok last :=
      memcpy_at (front ++ (Pod.bytes data ++ Pod.bytes len)) rest last
        (by simp only [List.append_assoc])
        (by simp only [List.length_append, hfront, Pod.length_bytes]; rfl)
    simp only [Body.kind, Body.bytes, MessageType.readBody, List.append_assoc, hdata, hlen, hlast]
    rfl
  | ack received =>
    have h : memcpy Bool _ 16 = .ok received := memcpy_at front rest received rfl hfront
    simp only [Body.kind, Body.bytes, MessageType.readBody, h]
    rfl
  | command x y z vx vy vz =>
    have harray : front ++ ((Body.command x y z vx vy vz).bytes ++ rest) =
        front ++ ([x, y, z, vx, vy, vz].flatMap Pod.bytes ++ rest) := by
      simp [Body.bytes]
    have hread : ∀ i v, [x, y, z, vx, vy, vz][i]? = some v →
        memcpy Double (front ++ ([x, y, z, vx, vy, vz].flatMap Pod.bytes ++ rest)) (16 + i * 8)
          = .ok v := by
      intro i v hv
      have := memcpy_array front rest [x, y, z, vx, vy, vz] i v hv
      rwa [hfront] at this
    rw [harray]
    simp only [Body.kind, MessageType.readBody, hread 0 x rfl, hread 1 y rfl, hread 2 z rfl,
      hread 3 vx rfl, hread 4 vy rfl, hread 5 vz rfl]
    rfl

/-! ### The whole message -/

section
variable (pad : Block 3) (m : Message) (rest : List UInt8)

/-- The sixteen bytes in front of the body. -/
def Message.commonBytes : List UInt8 :=
  Pod.bytes m.header.type ++ (pad.val ++ (Pod.bytes m.header.size ++
    (Pod.bytes m.senderId ++ Pod.bytes m.senderPort)))

theorem serialize_eq_commonBytes :
    m.serialize pad ++ rest = m.commonBytes pad ++ (m.body.bytes ++ rest) := by
  simp [Message.serialize, Message.commonBytes, List.append_assoc]

theorem length_commonBytes : (m.commonBytes pad).length = 16 := by
  have hlen := m.length_serialize pad
  have hbody := Message.length_bodyBytes m.body
  have hsplit := congrArg List.length (serialize_eq_commonBytes pad m [])
  simp only [List.append_nil, List.length_append] at hsplit
  simp only [Message.kind] at hlen
  omega

theorem memcpyHeader_commonBytes :
    memcpyHeader (m.commonBytes pad ++ rest) = .ok m.header := by
  have htype : memcpy UInt8 (m.commonBytes pad ++ rest) 0 = .ok m.header.type :=
    memcpy_at [] (pad.val ++ (Pod.bytes m.header.size ++ (Pod.bytes m.senderId ++
      (Pod.bytes m.senderPort ++ rest)))) _ (by simp [Message.commonBytes]) rfl
  have hsize : memcpy UInt32 (m.commonBytes pad ++ rest) 4 = .ok m.header.size :=
    memcpy_at (Pod.bytes m.header.type ++ pad.val) (Pod.bytes m.senderId ++
      (Pod.bytes m.senderPort ++ rest)) _ (by simp [Message.commonBytes])
      (by rw [List.length_append, Pod.length_bytes, pad.property]; rfl)
  rw [memcpyHeader, htype, ok_bind, hsize]
  rfl

theorem headerRead_commonBytes (hm : m.Valid) {size : Nat} (hsize : sizeofHeader ≤ size) :
    HeaderRead (m.commonBytes pad ++ rest) size m.header m.senderId m.senderPort where
  size := hsize
  copied := memcpyHeader_commonBytes pad m rest
  head_ge := hm.size_ge
  head_le := hm.size_le
  id := memcpy_at (Pod.bytes m.header.type ++ (pad.val ++ Pod.bytes m.header.size))
    (Pod.bytes m.senderPort ++ rest) _ (by simp [Message.commonBytes])
    (by simp only [List.length_append, Pod.length_bytes, pad.property]; rfl)
  port := memcpy_at (Pod.bytes m.header.type ++ (pad.val ++ (Pod.bytes m.header.size ++
    Pod.bytes m.senderId))) rest _ (by simp [Message.commonBytes])
    (by simp only [List.length_append, Pod.length_bytes, pad.property]; rfl)

/-- **A serialized message decodes to itself**, whatever follows it and whatever size past the
header is announced. -/
theorem decode_serialize (hm : m.Valid) {size : Nat} (hsize : sizeofHeader ≤ size) :
    decode (m.serialize pad ++ rest) size = .ok m := by
  have hread := headerRead_commonBytes pad m (m.body.bytes ++ rest) hm hsize
  have hk : MessageType.ofTag m.header.type = some m.body.kind := by
    rw [hm.type]; exact MessageType.ofTag_tag _
  rw [serialize_eq_commonBytes, decode_known hread hk]
  exact finishMsg_ok hm.senderId hm.senderPort
    (readBody_bytes (length_commonBytes pad m) m.body rest)

end

theorem sizeofHeader_le_layout (k : MessageType) : sizeofHeader ≤ k.layout := by cases k <;> decide

/-- A serialization that starts another one is a serialization of the same message. -/
theorem serialize_prefix_unique {m m' : Message} (hm : m.Valid) (hm' : m'.Valid) {pad pad' : Block 3}
    (h : m.serialize pad <+: m'.serialize pad') : m = m' := by
  obtain ⟨rest, hrest⟩ := h
  have hsize := sizeofHeader_le_layout m.kind
  have hleft := decode_serialize pad m rest hm hsize
  have hright := decode_serialize pad' m' [] hm' hsize
  rw [List.append_nil, ← hrest, hleft] at hright
  exact Except.ok.inj hright

/-- **The codec round trip.** Decoding the serialization of a valid message gives the message back,
with any bytes after it; hence no serialization of a valid message starts that of another. -/
theorem codec_round_trip :
    (∀ m : Message, m.Valid → ∀ (pad : Block 3) (t : List UInt8),
      decode (m.serialize pad ++ t) (m.serialize pad ++ t).length = .ok m) ∧
    ∀ m m' : Message, m.Valid → m'.Valid → m ≠ m' → ∀ pad pad' : Block 3,
      ¬ m.serialize pad <+: m'.serialize pad' := by
  refine ⟨?_, ?_⟩
  · intro m hm pad t
    have hsize : sizeofHeader ≤ (m.serialize pad ++ t).length := by
      rw [List.length_append, m.length_serialize pad]
      exact le_trans (sizeofHeader_le_layout m.kind) (Nat.le_add_right _ _)
    exact decode_serialize pad m t hm hsize
  · intro m m' hm hm' hne pad pad' h
    exact hne (serialize_prefix_unique hm hm' h)

theorem codec_round_trip_ack :
    decode ((Message.build 0 8000 (.ack true)).serialize ⟨[0, 0, 0], rfl⟩ ++ [7])
      ((Message.build 0 8000 (.ack true)).serialize ⟨[0, 0, 0], rfl⟩ ++ [7]).length
        = .ok (Message.build 0 8000 (.ack true)) ∧
    ¬ (Message.build 0 8000 (.ack true)).serialize ⟨[0, 0, 0], rfl⟩ <+:
      (Message.build 0 8000 (.heartbeat true)).serialize ⟨[0, 0, 0], rfl⟩ :=
  ⟨codec_round_trip.1 _ (Message.build_valid (by decide) (by decide) _) _ _,
    codec_round_trip.2 _ _ (Message.build_valid (by decide) (by decide) _)
      (Message.build_valid (by decide) (by decide) _) (by decide) _ _⟩

end Constellation
