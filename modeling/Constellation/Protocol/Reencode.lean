import Constellation.Protocol.Residue

/-!
# What the decoder accepts, and what its messages encode to

The common fields of a buffer decide how `decode` ends (`decode_eq_finishMsg`, `decode_eq_throws`): an
exception is thrown for an implausible size or an unknown tag, and for nothing else; past these two
checks the assertions of `makeMsg` look at the sender. What is accepted has the kind its tag announces,
and serializing it copies the buffer, since every field but a `bool` is determined by its bytes and
determines them (`readBody_reencode`).
-/

namespace Constellation

/-- The common fields as they stand at the front of a buffer. -/
structure Envelope where
  type : UInt8
  size : UInt32
  senderId : Int32
  senderPort : Int32
  deriving DecidableEq

/-- Fields the buffer does not reach read as zero. -/
def envelope (buf : List UInt8) : Envelope where
  type := (fetch UInt8 buf 0).getD 0
  size := (fetch UInt32 buf 4).getD 0
  senderId := (fetch Int32 buf 8).getD 0
  senderPort := (fetch Int32 buf 12).getD 0

namespace Envelope

/-- The type the tag announces. -/
def announced (e : Envelope) : Option MessageType := MessageType.ofTag e.type

/-- `decode` throws an exception for this size. -/
def SizeRefused (e : Envelope) : Prop := e.size < 8 ∨ 4096 < e.size

instance (e : Envelope) : Decidable e.SizeRefused := inferInstanceAs (Decidable (_ ∨ _))

/-- As many bytes as `decode` reads for the announced type. -/
def extent (e : Envelope) : Nat :=
  match e.announced with
  | some k => k.layout
  | none => 16

end Envelope

/-- Where the flag byte of a type stands, if it has one. -/
def MessageType.flagOffset : MessageType → Option Nat
  | heartbeat => some 16
  | fileMsg => some 1042
  | ack => some 16
  | command => none

/-! ### How `decode` ends -/

section
variable {buf : List UInt8} {size : Nat}

theorem fetch_getD {α : Type} [Pod α] (a : α) {off : Nat} (h : off + Pod.width α ≤ buf.length) :
    memcpy α buf off = .ok ((fetch α buf off).getD a) := by
  obtain ⟨b, hb⟩ := fetch_isSome (α := α) buf off h
  rw [memcpy, hb]
  rfl

theorem memcpyHeader_envelope (h : 16 ≤ buf.length) :
    memcpyHeader buf = .ok ⟨(envelope buf).type, (envelope buf).size⟩ := by
  have htype : memcpy UInt8 buf 0 = .ok (envelope buf).type := fetch_getD 0 (show 0 + 1 ≤ buf.length by omega)
  have hsize : memcpy UInt32 buf 4 = .ok (envelope buf).size := fetch_getD 0 (show 4 + 4 ≤ buf.length by omega)
  rw [memcpyHeader, htype, ok_bind, hsize]
  rfl

theorem headerRead_envelope (h : 16 ≤ buf.length) (hsize : sizeofHeader ≤ size)
    (hrange : ¬ (envelope buf).SizeRefused) :
    HeaderRead buf size ⟨(envelope buf).type, (envelope buf).size⟩ (envelope buf).senderId
      (envelope buf).senderPort where
  size := hsize
  copied := memcpyHeader_envelope h
  head_ge := UInt32.not_lt.mp fun hlt => hrange (.inl hlt)
  head_le := UInt32.not_lt.mp fun hlt => hrange (.inr hlt)
  id := fetch_getD 0 (show 8 + 4 ≤ buf.length by omega)
  port := fetch_getD 0 (show 12 + 4 ≤ buf.length by omega)

theorem decode_eq_throws (h : 16 ≤ buf.length) (hsize : sizeofHeader ≤ size)
    (hrefused : (envelope buf).SizeRefused ∨ (envelope buf).announced = none) :
    ∃ what, decode buf size = .error (.throws what) := by
  by_cases hrange : (envelope buf).SizeRefused
  · exact ⟨_, decode_corrupt hsize (memcpyHeader_envelope h) hrange⟩
  · exact ⟨_, decode_unknown (headerRead_envelope h hsize hrange) (hrefused.resolve_left hrange)⟩

theorem decode_eq_finishMsg (h : 16 ≤ buf.length) (hsize : sizeofHeader ≤ size)
    (hrange : ¬ (envelope buf).SizeRefused) {k : MessageType} (hk : (envelope buf).announced = some k) :
    decode buf size = finishMsg buf k ⟨(envelope buf).type, (envelope buf).size⟩ (envelope buf).senderId
      (envelope buf).senderPort :=
  decode_known (headerRead_envelope h hsize hrange) hk

theorem finishMsg_not_throws {k : MessageType} {head : Header} {id port : Int32} (h : k.layout ≤ buf.length)
    (what : String) : finishMsg buf k head id port ≠ .error (.throws what) := by
  obtain ⟨body, hbody⟩ := readBody_total buf k h
  by_cases hid : 0 ≤ id
  · by_cases hport : 0 < port
    · rw [finishMsg_ok hid hport hbody]
      exact nofun
    · rw [finishMsg_port hid hport]
      simp
  · rw [finishMsg_id hid]
    simp

end

/-! ### Writing back what was read -/

section
variable {buf : List UInt8}

theorem span_append (buf : List UInt8) (off n m : Nat) :
    (buf.drop off).take n ++ (buf.drop (off + n)).take m = (buf.drop off).take (n + m) := by
  rw [List.take_add, List.drop_drop]

theorem memcpy_bytes {α : Type} [Pod α] [Pod.Exact α] {off : Nat} {a : α} (h : memcpy α buf off = .ok a) :
    Pod.bytes a = (buf.drop off).take (Pod.width α) := by
  obtain ⟨v, hv, rfl⟩ := fetch_eq_some (memcpy_eq_ok.mp h)
  rw [← hv]
  exact Pod.Exact.toBytes_ofBytes v

theorem memcpy_bool_bytes {off : Nat} {a : Bool} (h : memcpy Bool buf off = .ok a)
    (hflag : buf.getD off 0 = 0 ∨ buf.getD off 0 = 1) : Pod.bytes a = (buf.drop off).take 1 := by
  have hbound := fetch_bound (memcpy_eq_ok.mp h)
  change off + 1 ≤ buf.length at hbound
  obtain ⟨v, hv, rfl⟩ := fetch_eq_some (memcpy_eq_ok.mp h)
  have hbyte : v.val = [buf.getD off 0] := by
    rw [hv, List.drop_eq_getElem_cons (by omega), List.getD_eq_getElem?_getD, List.getElem?_eq_getElem (by omega)]
    rfl
  change _ = (buf.drop off).take (Pod.width Bool)
  rw [← hv]
  apply Pod.bytes_ofBytes_bool
  rw [hbyte]
  rcases hflag with hzero | hone
  · left
    rw [hzero]
  · right
    rw [hone]

/-- **A body that was read serializes to its bytes.** -/
theorem readBody_reencode {k : MessageType} {b : Body} (h : k.readBody buf = .ok b)
    (hflag : ∀ off, k.flagOffset = some off → buf.getD off 0 = 0 ∨ buf.getD off 0 = 1) :
    b.kind = k ∧ b.bytes = (buf.drop 16).take (k.layout - 16) := by
  cases k with
  | heartbeat =>
    simp only [MessageType.readBody, bind_eq_ok] at h
    obtain ⟨alive, halive, hb⟩ := h
    cases hb
    exact ⟨rfl, memcpy_bool_bytes halive (hflag 16 rfl)⟩
  | fileMsg =>
    simp only [MessageType.readBody, bind_eq_ok] at h
    obtain ⟨data, hdata, len, hlen, last, hlast, hb⟩ := h
    cases hb
    refine ⟨rfl, ?_⟩
    rw [Body.bytes, memcpy_bytes hdata, memcpy_bytes hlen, memcpy_bool_bytes hlast (hflag 1042 rfl)]
    have htail := span_append buf 1040 2 1
    have hall := span_append buf 16 1024 3
    change (buf.drop 16).take 1024 ++ ((buf.drop 1040).take 2 ++ (buf.drop 1042).take 1) = (buf.drop 16).take 1027
    rw [htail, hall]
  | ack =>
    simp only [MessageType.readBody, bind_eq_ok] at h
    obtain ⟨received, hreceived, hb⟩ := h
    cases hb
    exact ⟨rfl, memcpy_bool_bytes hreceived (hflag 16 rfl)⟩
  | command =>
    simp only [MessageType.readBody, bind_eq_ok] at h
    obtain ⟨x, hx, y, hy, z, hz, vx, hvx, vy, hvy, vz, hvz, hb⟩ := h
    cases hb
    refine ⟨rfl, ?_⟩
    rw [Body.bytes, memcpy_bytes hx, memcpy_bytes hy, memcpy_bytes hz, memcpy_bytes hvx, memcpy_bytes hvy,
      memcpy_bytes hvz]
    have h5 := span_append buf 48 8 8
    have h4 := span_append buf 40 8 16
    have h3 := span_append buf 32 8 24
    have h2 := span_append buf 24 8 32
    have h1 := span_append buf 16 8 40
    change (buf.drop 16).take 8 ++ ((buf.drop 24).take 8 ++ ((buf.drop 32).take 8 ++ ((buf.drop 40).take 8 ++
      ((buf.drop 48).take 8 ++ (buf.drop 56).take 8)))) = (buf.drop 16).take 48
    rw [h5, h4, h3, h2, h1]

theorem commonBytes_envelope {head : Header} {id port : Int32} {size : Nat} (h : HeaderRead buf size head id port)
    (pad : Block 3) (body : Body) :
    ({ header := head, senderId := id, senderPort := port, body } : Message).commonBytes pad =
      buf.take 1 ++ (pad.val ++ (buf.drop 4).take 12) := by
  have hcopied := h.copied
  simp only [memcpyHeader, bind_eq_ok] at hcopied
  obtain ⟨type, htype, size, hsize, hret⟩ := hcopied
  cases hret
  have hfields := span_append buf 8 4 4
  have hall := span_append buf 4 4 8
  rw [Message.commonBytes]
  dsimp only
  rw [memcpy_bytes htype, memcpy_bytes hsize, memcpy_bytes h.id, memcpy_bytes h.port]
  change buf.take 1 ++ (pad.val ++ ((buf.drop 4).take 4 ++ ((buf.drop 8).take 4 ++ (buf.drop 12).take 4))) = _
  rw [hfields, hall]

end

/-- **Accepted set and re-encoding.** On a buffer that reaches as far as its announced type, `decode`
throws exactly for an implausible size or an unknown tag; else, with a sender and a proper flag byte, it
returns a message of the announced kind that serializes to the buffer up to the header padding. -/
theorem decode_accepts (buf : List UInt8) (hreach : (envelope buf).extent ≤ buf.length) :
    ((∃ what, decode buf buf.length = .error (.throws what)) ↔
      (envelope buf).SizeRefused ∨ (envelope buf).announced = none) ∧
    ∀ k, ¬ (envelope buf).SizeRefused → (envelope buf).announced = some k →
      0 ≤ (envelope buf).senderId → 0 < (envelope buf).senderPort →
      (∀ off, k.flagOffset = some off → buf.getD off 0 = 0 ∨ buf.getD off 0 = 1) →
      ∃ m, decode buf buf.length = .ok m ∧ m.kind = k ∧ m.header.type = m.kind.tag ∧
        ∀ pad, m.serialize pad = buf.take 1 ++ (pad.val ++ (buf.drop 4).take (k.layout - 4)) := by
  have h16 : 16 ≤ buf.length := by
    refine le_trans ?_ hreach
    rw [Envelope.extent]
    split
    · rename_i k _
      cases k <;> decide
    · exact le_refl 16
  have hsize : sizeofHeader ≤ buf.length := le_trans (by decide) h16
  have hlayout : ∀ k, (envelope buf).announced = some k → k.layout ≤ buf.length := by
    intro k hk
    rwa [Envelope.extent, hk] at hreach
  constructor
  · refine ⟨?_, decode_eq_throws h16 hsize⟩
    rintro ⟨what, hthrows⟩
    by_contra hok
    obtain ⟨hrange, hknown⟩ := not_or.mp hok
    obtain ⟨k, hk⟩ := Option.ne_none_iff_exists'.mp hknown
    rw [decode_eq_finishMsg h16 hsize hrange hk] at hthrows
    exact finishMsg_not_throws (hlayout k hk) what hthrows
  · intro k hrange hk hid hport hflag
    obtain ⟨body, hbody⟩ := readBody_total buf k (hlayout k hk)
    obtain ⟨hkind, hbytes⟩ := readBody_reencode hbody hflag
    refine ⟨_, (decode_eq_finishMsg h16 hsize hrange hk).trans (finishMsg_ok hid hport hbody), hkind, ?_, ?_⟩
    · show (envelope buf).type = body.kind.tag
      rw [hkind]
      exact MessageType.tag_of_ofTag hk
    · intro pad
      have hserial := serialize_eq_commonBytes pad
        ({ header := ⟨(envelope buf).type, (envelope buf).size⟩, senderId := (envelope buf).senderId,
           senderPort := (envelope buf).senderPort, body } : Message) []
      rw [List.append_nil, List.append_nil] at hserial
      have hspan := span_append buf 4 12 (k.layout - 16)
      have hlen : 12 + (k.layout - 16) = k.layout - 4 := by cases k <;> decide
      rw [hserial, commonBytes_envelope (headerRead_envelope h16 hsize hrange) pad body]
      dsimp only
      rw [hbytes, List.append_assoc, List.append_assoc]
      change _ ++ (_ ++ ((buf.drop 4).take 12 ++ (buf.drop (4 + 12)).take (k.layout - 16))) = _
      rw [hspan, hlen]

theorem decode_accepts_heartbeat :
    ∃ m, decode heartbeatDatagram heartbeatDatagram.length = .ok m ∧ m.kind = .heartbeat ∧
      m.header.type = m.kind.tag ∧ ∀ pad, m.serialize pad =
        heartbeatDatagram.take 1 ++ (pad.val ++ (heartbeatDatagram.drop 4).take (MessageType.heartbeat.layout - 4)) :=
  (decode_accepts heartbeatDatagram (by decide)).2 .heartbeat (by decide) (by decide) (by decide) (by decide)
    (by
      rintro off ⟨⟩
      right
      rfl)

end Constellation
