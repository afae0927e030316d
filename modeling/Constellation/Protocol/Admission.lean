import Constellation.Protocol.Receive
import Constellation.Protocol.Reencode

/-!
# How a listener comes out of `decode`

The receive buffer is as long as the longest layout, so a listener never reads past its end, whatever
arrives. A datagram without a byte fails the first assertion; one that is too short for a header, or
whose header has an implausible size or an unknown tag, is skipped; of the others `makeMsg` takes those
with a sender, and they come out as a message of the announced type (`receive_message`).
-/

namespace Constellation

/-- `inet_ntop(AF_INET, ...)`: the dotted quad of an address. -/
def inet_ntop (a b c d : UInt8) : String :=
  toString a.toNat ++ "." ++ toString b.toNat ++ "." ++ toString c.toNat ++ "." ++ toString d.toNat

theorem inet_ntop_ne_empty (a b c d : UInt8) : inet_ntop a b c d ≠ "" := by
  intro h
  have hlen := congrArg String.length h
  simp only [inet_ntop, String.length_append] at hlen
  have hdot : (".").length = 1 := rfl
  have hnil : ("").length = 0 := rfl
  omega

namespace Envelope

/-- `decode` throws for a datagram of this length with these fields, and the listener skips it. -/
def Skipped (e : Envelope) (length : Nat) : Prop := length < sizeofHeader ∨ e.SizeRefused ∨ e.announced = none

instance (e : Envelope) (length : Nat) : Decidable (e.Skipped length) := inferInstanceAs (Decidable (_ ∨ _))

/-- The assertions of `makeMsg` hold. -/
def HasSender (e : Envelope) : Prop := 0 ≤ e.senderId ∧ 0 < e.senderPort

instance (e : Envelope) : Decidable e.HasSender := inferInstanceAs (Decidable (_ ∧ _))

/-- A message with these common fields. -/
def message (e : Envelope) (body : Body) : Message where
  header := ⟨e.type, e.size⟩
  senderId := e.senderId
  senderPort := e.senderPort
  body

end Envelope

theorem MessageType.readBody_kind {buf : List UInt8} {k : MessageType} {b : Body} (h : k.readBody buf = .ok b) :
    b.kind = k := by
  cases k <;> simp only [readBody, bind_eq_ok] at h
  · obtain ⟨_, _, hb⟩ := h
    cases hb
    rfl
  · obtain ⟨_, _, _, _, _, _, hb⟩ := h
    cases hb
    rfl
  · obtain ⟨_, _, hb⟩ := h
    cases hb
    rfl
  · obtain ⟨_, _, _, _, _, _, _, _, _, _, _, _, hb⟩ := h
    cases hb
    rfl

section
variable (old : RecvBuffer) (datagram : List UInt8)

/-- The common fields a listener reads after this datagram. -/
def arrived : Envelope := envelope (recvfrom old datagram).val

variable {old datagram}

theorem length_recvfrom_ge (k : MessageType) : k.layout ≤ (recvfrom old datagram).val.length := by
  rw [(recvfrom old datagram).property]
  exact layout_le_buffer k

theorem sixteen_le_recvfrom : 16 ≤ (recvfrom old datagram).val.length := by
  rw [(recvfrom old datagram).property]
  decide

theorem min_buffer_lt : min datagram.length Config.BUFFER_SIZE < sizeofHeader ↔ datagram.length < sizeofHeader := by
  have hbig : sizeofHeader ≤ Config.BUFFER_SIZE := by decide
  omega

theorem receive_empty (h : datagram.length = 0) : receive old datagram = .error (.asserts "size > 0") := by
  have hzero : ¬ 0 < min datagram.length Config.BUFFER_SIZE := by omega
  rw [receive, decodeCaught, decode, assert_neg hzero]
  rfl

theorem receive_skips (hpos : 0 < datagram.length) (h : (arrived old datagram).Skipped datagram.length) :
    receive old datagram = .ok (recvfrom old datagram, none) := by
  have hthrows : ∃ what, decode (recvfrom old datagram).val (min datagram.length Config.BUFFER_SIZE) =
      .error (.throws what) := by
    by_cases hshort : datagram.length < sizeofHeader
    · exact ⟨_, decode_short (lt_min hpos (by decide)) (min_buffer_lt.mpr hshort)⟩
    · refine decode_eq_throws sixteen_le_recvfrom ?_ (h.resolve_left hshort)
      exact Nat.not_lt.mp fun hlt => hshort (min_buffer_lt.mp hlt)
  obtain ⟨what, hwhat⟩ := hthrows
  rw [receive, decodeCaught, hwhat]
  rfl

section
variable (h : ¬ (arrived old datagram).Skipped datagram.length)
include h

theorem decode_arrived : ∃ k, (arrived old datagram).announced = some k ∧
    decode (recvfrom old datagram).val (min datagram.length Config.BUFFER_SIZE) =
      finishMsg (recvfrom old datagram).val k ⟨(arrived old datagram).type, (arrived old datagram).size⟩
        (arrived old datagram).senderId (arrived old datagram).senderPort := by
  obtain ⟨hlong, hheader⟩ := not_or.mp h
  obtain ⟨hrange, hknown⟩ := not_or.mp hheader
  obtain ⟨k, hk⟩ := Option.ne_none_iff_exists'.mp hknown
  refine ⟨k, hk, decode_eq_finishMsg sixteen_le_recvfrom ?_ hrange hk⟩
  exact Nat.not_lt.mp fun hlt => hlong (min_buffer_lt.mp hlt)

theorem receive_refuses (hsender : ¬ (arrived old datagram).HasSender) :
    ∃ condition, receive old datagram = .error (.asserts condition) := by
  obtain ⟨k, -, hdecode⟩ := decode_arrived h
  by_cases hid : 0 ≤ (arrived old datagram).senderId
  · rw [finishMsg_port hid fun hport => hsender ⟨hid, hport⟩] at hdecode
    exact ⟨_, by rw [receive, decodeCaught, hdecode]; rfl⟩
  · rw [finishMsg_id hid] at hdecode
    exact ⟨_, by rw [receive, decodeCaught, hdecode]; rfl⟩

/-- **Every other datagram comes out as a message of the type it announces.** -/
theorem receive_message (hsender : (arrived old datagram).HasSender) :
    ∃ k body, (arrived old datagram).announced = some k ∧ k.readBody (recvfrom old datagram).val = .ok body ∧
      receive old datagram = .ok (recvfrom old datagram, some ((arrived old datagram).message body)) := by
  obtain ⟨k, hk, hdecode⟩ := decode_arrived h
  obtain ⟨body, hbody⟩ := readBody_total (recvfrom old datagram).val k (length_recvfrom_ge k)
  refine ⟨k, body, hk, hbody, ?_⟩
  rw [finishMsg_ok hsender.1 hsender.2 hbody] at hdecode
  rw [receive, decodeCaught, hdecode]
  rfl

theorem arrived_valid (hsender : (arrived old datagram).HasSender) {body : Body}
    (hk : (arrived old datagram).announced = some body.kind) : ((arrived old datagram).message body).Valid := by
  obtain ⟨-, hheader⟩ := not_or.mp h
  obtain ⟨hrange, -⟩ := not_or.mp hheader
  obtain ⟨hge, hle⟩ := not_or.mp hrange
  exact ⟨MessageType.tag_of_ofTag hk, UInt32.not_lt.mp hge, UInt32.not_lt.mp hle, hsender.1, hsender.2⟩

theorem arrived_size_pos : 0 < (arrived old datagram).size := by
  obtain ⟨-, hheader⟩ := not_or.mp h
  obtain ⟨hrange, -⟩ := not_or.mp hheader
  exact UInt32.lt_of_lt_of_le (by decide : (0 : UInt32) < 8) (UInt32.not_lt.mp fun hlt => hrange (.inl hlt))

end

/-- Every message that comes out has the common fields that arrived and the body of their type, and is valid. -/
theorem receive_some {buf : RecvBuffer} {m : Message} (h : receive old datagram = .ok (buf, some m)) :
    ∃ k body, (arrived old datagram).announced = some k ∧ k.readBody (recvfrom old datagram).val = .ok body ∧
      m = (arrived old datagram).message body ∧ m.Valid := by
  by_cases hpos : 0 < datagram.length
  swap
  · rw [receive_empty (by omega)] at h
    cases h
  by_cases hskip : (arrived old datagram).Skipped datagram.length
  · rw [receive_skips hpos hskip] at h
    cases h
  by_cases hsender : (arrived old datagram).HasSender
  swap
  · obtain ⟨condition, hfails⟩ := receive_refuses hskip hsender
    rw [hfails] at h
    cases h
  obtain ⟨k, body, hk, hbody, hreceive⟩ := receive_message hskip hsender
  rw [hreceive] at h
  cases h
  exact ⟨k, body, hk, hbody, rfl, arrived_valid hskip hsender (MessageType.readBody_kind hbody ▸ hk)⟩

end

theorem arrived_serialize (old : RecvBuffer) (m : Message) (pad : Block 3) :
    (arrived old (m.serialize pad)).type = m.header.type ∧ (arrived old (m.serialize pad)).senderId = m.senderId := by
  have hfit : (m.serialize pad).length ≤ Config.BUFFER_SIZE := by
    rw [Message.length_serialize]
    exact layout_le_buffer m.kind
  obtain ⟨rest, hfront⟩ : ∃ rest, (recvfrom old (m.serialize pad)).val = m.commonBytes pad ++ rest := by
    refine ⟨m.body.bytes ++ old.val.drop (m.serialize pad).length, ?_⟩
    rw [← serialize_eq_commonBytes]
    show received old ((m.serialize pad).take Config.BUFFER_SIZE) = _
    rw [List.take_of_length_le hfit]
    rfl
  have htype : memcpy UInt8 (m.commonBytes pad ++ rest) 0 = .ok m.header.type :=
    memcpy_at [] (pad.val ++ (Pod.bytes m.header.size ++ (Pod.bytes m.senderId ++
      (Pod.bytes m.senderPort ++ rest)))) _ (by simp [Message.commonBytes]) rfl
  have hid : memcpy Int32 (m.commonBytes pad ++ rest) 8 = .ok m.senderId :=
    memcpy_at (Pod.bytes m.header.type ++ (pad.val ++ Pod.bytes m.header.size))
      (Pod.bytes m.senderPort ++ rest) _ (by simp [Message.commonBytes])
      (by simp only [List.length_append, Pod.length_bytes, pad.property]; rfl)
  rw [arrived, envelope, hfront]
  dsimp only
  rw [memcpy_eq_ok.mp htype, memcpy_eq_ok.mp hid]
  exact ⟨rfl, rfl⟩

theorem receive_serialize_fields {old buf : RecvBuffer} {m m' : Message} {pad : Block 3}
    (h : receive old (m.serialize pad) = .ok (buf, some m')) :
    m'.header.type = m.header.type ∧ m'.senderId = m.senderId := by
  obtain ⟨k, body, -, -, rfl, -⟩ := receive_some h
  exact arrived_serialize old m pad

end Constellation
