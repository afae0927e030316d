import Constellation.Lib.Image
import Constellation.Protocol.Message

/-!
# Message structs in memory

Where the members of the message structs lie, the virtual table pointer at the front and the padding
bytes 9 to 11 between the two fields of the header, and which spans of a struct `serialize` copies out.
A function declares a struct and assigns to members of it (`Local`); what it then sends is the message
of the assigned values, over the padding that memory holds (`Local.datagram_of_perm`). No assignment
to a member reaches the padding, so the datagram is determined just if the struct was declared with
`{}`, which zeroes all of it (`Local.determined_iff`).
-/

namespace Constellation

/-- What `serialize` appends for the header, the sender's id and its port. -/
def commonSpans : List Span := [⟨8, sizeofHeader⟩, ⟨16, 4⟩, ⟨20, 4⟩]

namespace MessageType

/-- What `serialize` appends behind that. -/
def bodySpans : MessageType → List Span
  | heartbeat => [⟨24, 1⟩]
  | fileMsg => [⟨24, Config.FILE_CHUNK_SIZE⟩, ⟨1048, 2⟩, ⟨1050, 1⟩]
  | ack => [⟨24, 1⟩]
  | command => [⟨24, 8⟩, ⟨32, 8⟩, ⟨40, 8⟩, ⟨48, 8⟩, ⟨56, 8⟩, ⟨64, 8⟩]

def spans (k : MessageType) : List Span := commonSpans ++ k.bodySpans

theorem spans_inside (k : MessageType) : ∀ p ∈ k.spans, p.off + p.len ≤ k.sizeof.toNat := by
  cases k <;> decide

end MessageType

/-- An assignment to a member of a message struct. -/
inductive Assignment
  | type (b : UInt8)
  | size (n : UInt32)
  | senderId (id : Int32)
  | senderPort (port : Int32)
  | alive (b : Bool)
  | received (b : Bool)
  | x (v : Double)
  | y (v : Double)
  | z (v : Double)
  | vx (v : Double)
  | vy (v : Double)
  | vz (v : Double)
  /-- `file.read` into the data array, which fills the front of it. -/
  | data (bytes : List UInt8)
  | len (n : Int16)
  | last (b : Bool)

namespace Assignment

/-- The offset of the member. -/
def off : Assignment → Nat
  | type _ => 8
  | size _ => 12
  | senderId _ => 16
  | senderPort _ => 20
  | alive _ => 24
  | received _ => 24
  | x _ => 24
  | y _ => 32
  | z _ => 40
  | vx _ => 48
  | vy _ => 56
  | vz _ => 64
  | data _ => 24
  | len _ => 1048
  | last _ => 1050

def bytes : Assignment → List UInt8
  | type b => Pod.bytes b
  | size n => Pod.bytes n
  | senderId id => Pod.bytes id
  | senderPort port => Pod.bytes port
  | alive b => Pod.bytes b
  | received b => Pod.bytes b
  | x v => Pod.bytes v
  | y v => Pod.bytes v
  | z v => Pod.bytes v
  | vx v => Pod.bytes v
  | vy v => Pod.bytes v
  | vz v => Pod.bytes v
  | data bytes => bytes.take Config.FILE_CHUNK_SIZE
  | len n => Pod.bytes n
  | last b => Pod.bytes b

/-- How many bytes the assignment writes. -/
def width : Assignment → Nat
  | type _ => 1
  | size _ => 4
  | senderId _ => 4
  | senderPort _ => 4
  | alive _ => 1
  | received _ => 1
  | x _ => 8
  | y _ => 8
  | z _ => 8
  | vx _ => 8
  | vy _ => 8
  | vz _ => 8
  | data bytes => (bytes.take Config.FILE_CHUNK_SIZE).length
  | len _ => 2
  | last _ => 1

theorem length_bytes (a : Assignment) : a.bytes.length = a.width := by
  cases a <;> simp only [bytes, width, Pod.length_bytes] <;> rfl

def store (a : Assignment) : Store := ⟨a.off, a.bytes⟩

theorem span_store (a : Assignment) : a.store.span = ⟨a.off, a.width⟩ := by
  rw [← length_bytes]
  rfl

theorem apart_iff (a b : Assignment) :
    a.store.Apart b.store ↔ a.off + a.width ≤ b.off ∨ b.off + b.width ≤ a.off := by
  rw [← length_bytes, ← length_bytes]
  rfl

theorem not_padding (a : Assignment) {i : Nat} (hi : Span.Has ⟨9, 3⟩ i) : ¬ a.store.span.Has i := by
  rw [span_store]
  simp only [Span.Has] at hi ⊢
  cases a <;> simp only [off, width] <;> omega

end Assignment

/-- The assignments of the common fields of a message. -/
def Message.commonMembers (m : Message) : List Assignment :=
  [.type m.header.type, .size m.header.size, .senderId m.senderId, .senderPort m.senderPort]

/-- The assignments of a body. -/
def Body.members : Body → List Assignment
  | heartbeat alive => [.alive alive]
  | fileMsg data len last => [.data data.val, .len len, .last last]
  | ack received => [.received received]
  | command x y z vx vy vz => [.x x, .y y, .z z, .vx vx, .vy vy, .vz vz]

/-- The assignments that fill in a message. -/
def Message.members (m : Message) : List Assignment := m.commonMembers ++ m.body.members

theorem Message.members_apart (m : Message) : (m.members.map Assignment.store).Pairwise Store.Apart := by
  rw [List.pairwise_map]
  obtain ⟨head, senderId, senderPort, body⟩ := m
  cases body <;>
    simp [members, commonMembers, Body.members, Assignment.apart_iff, Assignment.off, Assignment.width,
      Config.FILE_CHUNK_SIZE]
  omega

/-- A message struct as a function declares it and fills it in. -/
structure Local where
  kind : MessageType
  /-- Declared with `{}`. -/
  zeroed : Bool
  members : List Assignment

namespace Local

def zeroes (l : Local) : List Store := if l.zeroed then [⟨0, List.replicate l.kind.sizeof.toNat 0⟩] else []

def stores (l : Local) : List Store := l.zeroes ++ l.members.map Assignment.store

/-- What `serialize` makes of the struct, from what memory held when it was declared. -/
def datagram (l : Local) (mem : Memory) : List UInt8 := (mem.after l.stores).copy l.kind.spans

/-- The padding of the header as `serialize` finds it. -/
def padding (l : Local) (mem : Memory) : Block 3 :=
  ⟨(mem.after l.stores).load ⟨9, 3⟩, Memory.length_load (mem.after l.stores) ⟨9, 3⟩⟩

/-- The padding as memory held it. -/
def stalePadding (mem : Memory) : Block 3 := ⟨mem.load ⟨9, 3⟩, Memory.length_load mem ⟨9, 3⟩⟩

section
variable (l : Local)

theorem padding_after (mem : Memory) : (l.padding mem).val = (mem.after l.zeroes).load ⟨9, 3⟩ := by
  show (mem.after (l.zeroes ++ l.members.map Assignment.store)).load ⟨9, 3⟩ = _
  rw [Memory.after_append]
  apply Memory.load_eq_iff.mpr
  intro i hi
  apply Memory.after_uninitialised
  rintro ⟨t, ht, hhas⟩
  obtain ⟨a, ha, rfl⟩ := List.mem_map.mp ht
  exact a.not_padding hi hhas

theorem padding_eq_stale (hzeroed : l.zeroed = false) (mem : Memory) : l.padding mem = stalePadding mem := by
  apply Subtype.ext
  rw [padding_after, zeroes, hzeroed]
  rfl

theorem padding_eq_zero (hzeroed : l.zeroed = true) (mem : Memory) :
    l.padding mem = ⟨[0, 0, 0], Message.length_zeroPad⟩ := by
  have hsize : 11 < l.kind.sizeof.toNat := by cases l.kind <;> decide
  have hzero : ∀ i, i < l.kind.sizeof.toNat → mem.after l.zeroes i = 0 := by
    intro i hi
    have hhas : (⟨0, List.replicate l.kind.sizeof.toNat 0⟩ : Store).span.Has i := by
      simpa [Span.Has, Store.span] using hi
    rw [zeroes, if_pos hzeroed]
    show (if _ then _ else _) = _
    rw [if_pos hhas]
    simp [hi]
  apply Subtype.ext
  rw [padding_after]
  show [mem.after l.zeroes 9, mem.after l.zeroes 10, mem.after l.zeroes 11] = _
  rw [hzero 9 (by omega), hzero 10 (by omega), hzero 11 hsize]

/-- **A struct's datagram is determined by what was assigned exactly if it was declared with `{}`.** -/
theorem determined_iff : (∀ mem mem', l.datagram mem = l.datagram mem') ↔ l.zeroed = true := by
  refine Memory.determined_iff.trans ?_
  constructor
  · intro hinit
    by_contra hzeroed
    obtain ⟨s, hs, hhas⟩ := hinit ⟨8, sizeofHeader⟩ (by simp [MessageType.spans, commonSpans]) 9 (by decide)
    rw [stores, zeroes, if_neg hzeroed, List.nil_append] at hs
    obtain ⟨a, ha, rfl⟩ := List.mem_map.mp hs
    exact a.not_padding (by decide) hhas
  · intro hzeroed p hp i hi
    have hinside := l.kind.spans_inside p hp
    refine ⟨⟨0, List.replicate l.kind.sizeof.toNat 0⟩, ?_, Nat.zero_le i, ?_⟩
    · rw [stores, zeroes, if_pos hzeroed]
      simp
    · simp only [Span.Has] at hi
      simp only [Store.span, List.length_replicate]
      omega

variable {l} (mem : Memory) (hapart : (l.members.map Assignment.store).Pairwise Store.Apart)
include hapart

theorem load_member {a : Assignment} (ha : a ∈ l.members) :
    (mem.after l.stores).load ⟨a.off, a.width⟩ = a.bytes := by
  rw [stores, Memory.after_append, ← a.span_store]
  exact Memory.load_after hapart (List.mem_map_of_mem ha) (mem.after l.zeroes)

/-- A struct to which the common fields of a message were assigned, and its body in some way, is sent as
the message. -/
theorem datagram_eq_serialize {m : Message} (hkind : l.kind = m.kind)
    (hcommon : ∀ a ∈ m.commonMembers, a ∈ l.members)
    (hbody : (mem.after l.stores).copy m.kind.bodySpans = m.body.bytes) :
    l.datagram mem = m.serialize (l.padding mem) := by
  have htype := load_member mem hapart (hcommon (.type m.header.type) (by simp [Message.commonMembers]))
  have hsize := load_member mem hapart (hcommon (.size m.header.size) (by simp [Message.commonMembers]))
  have hid := load_member mem hapart (hcommon (.senderId m.senderId) (by simp [Message.commonMembers]))
  have hport := load_member mem hapart (hcommon (.senderPort m.senderPort) (by simp [Message.commonMembers]))
  simp only [Assignment.off, Assignment.width, Assignment.bytes] at htype hsize hid hport
  have hheader : (mem.after l.stores).load ⟨8, sizeofHeader⟩ =
      Pod.bytes m.header.type ++ ((l.padding mem).val ++ Pod.bytes m.header.size) := by
    rw [show sizeofHeader = 1 + (3 + 4) from rfl, Memory.load_add, Memory.load_add, htype, hsize]
    rfl
  rw [datagram, MessageType.spans, Memory.copy_append, hkind, hbody, Message.serialize]
  simp only [commonSpans, Memory.copy, List.flatMap_cons, List.flatMap_nil, List.append_nil, hheader, hid, hport,
    List.append_assoc]

theorem copy_body {b : Body} (hmembers : ∀ a ∈ b.members, a ∈ l.members) :
    (mem.after l.stores).copy b.kind.bodySpans = b.bytes := by
  cases b with
  | heartbeat alive =>
    have halive := load_member mem hapart (hmembers (.alive alive) (by simp [Body.members]))
    simp only [Assignment.off, Assignment.width, Assignment.bytes] at halive
    simp [Body.kind, Body.bytes, MessageType.bodySpans, Memory.copy, halive]
  | fileMsg data len last =>
    have hdata := load_member mem hapart (hmembers (.data data.val) (by simp [Body.members]))
    have hlen := load_member mem hapart (hmembers (.len len) (by simp [Body.members]))
    have hlast := load_member mem hapart (hmembers (.last last) (by simp [Body.members]))
    have hfull : data.val.take Config.FILE_CHUNK_SIZE = data.val := List.take_of_length_le (Nat.le_of_eq data.property)
    simp only [Assignment.off, Assignment.width, Assignment.bytes, hfull, data.property] at hdata hlen hlast
    simp only [Body.kind, Body.bytes, MessageType.bodySpans, Memory.copy, List.flatMap_cons, List.flatMap_nil,
      List.append_nil, hdata, hlen, hlast]
    rfl
  | ack received =>
    have hreceived := load_member mem hapart (hmembers (.received received) (by simp [Body.members]))
    simp only [Assignment.off, Assignment.width, Assignment.bytes] at hreceived
    simp [Body.kind, Body.bytes, MessageType.bodySpans, Memory.copy, hreceived]
  | command x y z vx vy vz =>
    have hx := load_member mem hapart (hmembers (.x x) (by simp [Body.members]))
    have hy := load_member mem hapart (hmembers (.y y) (by simp [Body.members]))
    have hz := load_member mem hapart (hmembers (.z z) (by simp [Body.members]))
    have hvx := load_member mem hapart (hmembers (.vx vx) (by simp [Body.members]))
    have hvy := load_member mem hapart (hmembers (.vy vy) (by simp [Body.members]))
    have hvz := load_member mem hapart (hmembers (.vz vz) (by simp [Body.members]))
    simp only [Assignment.off, Assignment.width, Assignment.bytes] at hx hy hz hvx hvy hvz
    simp [Body.kind, Body.bytes, MessageType.bodySpans, Memory.copy, hx, hy, hz, hvx, hvy, hvz]

omit hapart in
/-- **A struct to which a message was assigned, in any order, is sent as that message.** -/
theorem datagram_of_perm {m : Message} (hkind : l.kind = m.kind) (hperm : l.members.Perm m.members) :
    l.datagram mem = m.serialize (l.padding mem) := by
  have hapart : (l.members.map Assignment.store).Pairwise Store.Apart :=
    ((hperm.map Assignment.store).pairwise_iff Or.symm).mpr m.members_apart
  apply datagram_eq_serialize mem hapart hkind
  · intro a ha
    exact hperm.mem_iff.mpr (List.mem_append_left m.body.members ha)
  · apply copy_body mem hapart
    intro a ha
    exact hperm.mem_iff.mpr (List.mem_append_right m.commonMembers ha)

omit hapart in
theorem datagram_stale {m : Message} (hzeroed : l.zeroed = false) (hkind : l.kind = m.kind)
    (hperm : l.members.Perm m.members) : l.datagram mem = m.serialize (stalePadding mem) := by
  rw [datagram_of_perm mem hkind hperm, padding_eq_stale l hzeroed]

end

end Local

end Constellation
