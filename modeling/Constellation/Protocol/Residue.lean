import Constellation.Protocol.RoundTrip

/-!
# What the decoder makes of the bytes of an earlier datagram

Both listeners reuse one receive buffer. A datagram overwrites the front of it (`received`), and
`decode` is told how many bytes arrived but compares that number with the header alone. So a
datagram shorter than the layout of the type it announces is completed with whatever the previous
datagram left behind.

`decode_sameOutcome_iff` says exactly which datagrams are read from their own bytes only
(`SelfContained`): those that reach the end of their layout, and those that are refused before the
first missing byte matters. For every other datagram the buffer filled with ones and the buffer
filled with zeros tell a difference: with ones all sender checks pass and the last byte of the body
is a one, with zeros a check fails or that byte is a zero.
-/

namespace Constellation

/-- The receive buffer of a listener. -/
abbrev RecvBuffer := Block Config.BUFFER_SIZE

/-- The receive buffer after `recvfrom` stored a datagram at its front. -/
def received (old : RecvBuffer) (datagram : List UInt8) : List UInt8 :=
  datagram ++ old.val.drop datagram.length

/-- The same message, an exception both times, or an abort both times. -/
inductive SameOutcome : Except Stop Message → Except Stop Message → Prop
  | message (m : Message) : SameOutcome (.ok m) (.ok m)
  | thrown (e e' : String) : SameOutcome (.error (.throws e)) (.error (.throws e'))
  | aborted (e e' : String) : SameOutcome (.error (.asserts e)) (.error (.asserts e'))
  | undefined (e e' : String) : SameOutcome (.error (.undefined e)) (.error (.undefined e'))

theorem SameOutcome.refl (x : Except Stop Message) : SameOutcome x x := by
  cases x with
  | ok m => exact .message m
  | error e =>
    cases e with
    | throws e => exact .thrown e e
    | asserts e => exact .aborted e e
    | undefined e => exact .undefined e e

theorem SameOutcome.ok_left {m : Message} {x : Except Stop Message} (h : SameOutcome (.ok m) x) :
    x = .ok m := by
  cases h
  rfl

/-- A datagram the decoder reads from its own bytes only: it is too short for a header, its header
is refused, it covers the layout of its type, or it contains a sender field that is refused. -/
def SelfContained (datagram : List UInt8) : Prop :=
  match memcpyHeader datagram with
  | .error _ => True
  | .ok head =>
    head.size < 8 ∨ 4096 < head.size ∨
    match MessageType.ofTag head.type with
    | none => True
    | some k =>
      k.layout ≤ datagram.length ∨
      (∃ id : Int32, memcpy Int32 datagram 8 = .ok id ∧ ¬ 0 ≤ id) ∨
      ∃ port : Int32, memcpy Int32 datagram 12 = .ok port ∧ ¬ 0 < port

/-! ### Reads inside and outside the datagram -/

section
variable {α : Type} [Pod α]

theorem memcpy_eq_ok {buf : List UInt8} {off : Nat} {a : α} :
    memcpy α buf off = .ok a ↔ fetch α buf off = some a := by
  rw [memcpy]
  cases fetch α buf off <;> simp

theorem memcpy_left {front : List UInt8} (rest : List UInt8) {off : Nat}
    (h : off + Pod.width α ≤ front.length) : memcpy α (front ++ rest) off = memcpy α front off := by
  rw [memcpy, memcpy, fetch_left rest h]

theorem memcpy_left_ok {front : List UInt8} (rest : List UInt8) {off : Nat} {a : α}
    (h : memcpy α front off = .ok a) : memcpy α (front ++ rest) off = .ok a := by
  rw [memcpy_left rest (fetch_bound (memcpy_eq_ok.mp h)), h]

theorem memcpy_total (α : Type) [Pod α] {buf : List UInt8} (off : Nat)
    (h : off + Pod.width α ≤ buf.length) : ∃ a, memcpy α buf off = .ok a := by
  obtain ⟨a, ha⟩ := fetch_isSome (α := α) buf off h
  exact ⟨a, memcpy_eq_ok.mpr ha⟩

end

theorem memcpyHeader_left {front : List UInt8} (rest : List UInt8) (h : 8 ≤ front.length) :
    memcpyHeader (front ++ rest) = memcpyHeader front := by
  have htype : 0 + Pod.width UInt8 ≤ front.length := le_trans (by decide) h
  have hsize : 4 + Pod.width UInt32 ≤ front.length := h
  rw [memcpyHeader, memcpyHeader, memcpy_left rest htype, memcpy_left rest hsize]

theorem memcpyHeader_total {buf : List UInt8} (h : 8 ≤ buf.length) :
    ∃ head, memcpyHeader buf = .ok head := by
  obtain ⟨type, htype⟩ := memcpy_total UInt8 0 (le_trans (by decide) h)
  obtain ⟨size, hsize⟩ := memcpy_total UInt32 4 h
  exact ⟨⟨type, size⟩, by rw [memcpyHeader, htype, ok_bind, hsize]; rfl⟩

theorem readBody_left {front : List UInt8} (rest : List UInt8) {k : MessageType}
    (h : k.layout ≤ front.length) : k.readBody (front ++ rest) = k.readBody front := by
  have hread : ∀ (α : Type) [Pod α] (off : Nat), off + Pod.width α ≤ k.layout →
      memcpy α (front ++ rest) off = memcpy α front off :=
    fun α _ off hoff => memcpy_left rest (le_trans hoff h)
  cases k with
  | heartbeat => rw [MessageType.readBody, MessageType.readBody, hread Bool 16 (by decide)]
  | fileMsg =>
    rw [MessageType.readBody, MessageType.readBody, hread Chunk 16 (by decide),
      hread Int16 1040 (by decide), hread Bool 1042 (by decide)]
  | ack => rw [MessageType.readBody, MessageType.readBody, hread Bool 16 (by decide)]
  | command =>
    rw [MessageType.readBody, MessageType.readBody, hread Double 16 (by decide),
      hread Double 24 (by decide), hread Double 32 (by decide), hread Double 40 (by decide),
      hread Double 48 (by decide), hread Double 56 (by decide)]

theorem readBody_total (buf : List UInt8) (k : MessageType) (h : k.layout ≤ buf.length) :
    ∃ b, k.readBody buf = .ok b := by
  have hread : ∀ (α : Type) [Pod α] (off : Nat), off + Pod.width α ≤ k.layout →
      ∃ a, memcpy α buf off = .ok a :=
    fun α _ off hoff => memcpy_total α off (le_trans hoff h)
  cases k with
  | heartbeat =>
    obtain ⟨alive, halive⟩ := hread Bool 16 (by decide)
    exact ⟨_, by rw [MessageType.readBody, halive, ok_bind]; rfl⟩
  | fileMsg =>
    obtain ⟨data, hdata⟩ := hread Chunk 16 (by decide)
    obtain ⟨len, hlen⟩ := hread Int16 1040 (by decide)
    obtain ⟨last, hlast⟩ := hread Bool 1042 (by decide)
    exact ⟨_, by rw [MessageType.readBody, hdata, ok_bind, hlen, ok_bind, hlast, ok_bind]; rfl⟩
  | ack =>
    obtain ⟨received, hreceived⟩ := hread Bool 16 (by decide)
    exact ⟨_, by rw [MessageType.readBody, hreceived, ok_bind]; rfl⟩
  | command =>
    obtain ⟨x, hx⟩ := hread Double 16 (by decide)
    obtain ⟨y, hy⟩ := hread Double 24 (by decide)
    obtain ⟨z, hz⟩ := hread Double 32 (by decide)
    obtain ⟨vx, hvx⟩ := hread Double 40 (by decide)
    obtain ⟨vy, hvy⟩ := hread Double 48 (by decide)
    obtain ⟨vz, hvz⟩ := hread Double 56 (by decide)
    exact ⟨_, by rw [MessageType.readBody, hx, ok_bind, hy, ok_bind, hz, ok_bind, hvx, ok_bind,
      hvy, ok_bind, hvz, ok_bind]; rfl⟩

/-! ### The last byte of a body -/

theorem memcpy_bool {buf : List UInt8} {off : Nat} {a : Bool} (h : memcpy Bool buf off = .ok a) :
    a = true ↔ buf.getD off 0 ≠ 0 := by
  obtain ⟨v, hv, rfl⟩ := fetch_eq_some (memcpy_eq_ok.mp h)
  have hbound := fetch_bound (memcpy_eq_ok.mp h)
  change off + 1 ≤ buf.length at hbound
  have hbyte : v.val = [buf.getD off 0] := by
    rw [hv, List.drop_eq_getElem_cons (by omega), List.getD_eq_getElem?_getD,
      List.getElem?_eq_getElem (by omega)]
    rfl
  change decide (v.val.headD 0 ≠ 0) = true ↔ _
  rw [hbyte, decide_eq_true_iff]
  rfl

theorem memcpy_double {buf : List UInt8} {off : Nat} {a : Double} (h : memcpy Double buf off = .ok a) :
    a.toNat / 256 ^ 7 = (buf.getD (off + 7) 0).toNat := by
  obtain ⟨v, hv, rfl⟩ := fetch_eq_some (memcpy_eq_ok.mp h)
  have hbound := fetch_bound (memcpy_eq_ok.mp h)
  change off + 8 ≤ buf.length at hbound
  have hlt := leValue_lt v.val
  rw [v.property] at hlt
  change leValue v.val < 2 ^ 64 at hlt
  change (UInt64.ofNat (leValue v.val)).toNat / 256 ^ 7 = _
  rw [UInt64.toNat_ofNat', Nat.mod_eq_of_lt hlt, hv]
  exact leValue_top buf off 7 (by omega)

theorem readBody_last {buf buf' : List UInt8} {k : MessageType} {b : Body}
    (h : k.readBody buf = .ok b) (h' : k.readBody buf' = .ok b) :
    buf.getD (k.layout - 1) 0 ≠ 0 ↔ buf'.getD (k.layout - 1) 0 ≠ 0 := by
  cases k with
  | heartbeat =>
    simp only [MessageType.readBody, bind_eq_ok] at h h'
    obtain ⟨alive, halive, hb⟩ := h
    obtain ⟨alive', halive', hb'⟩ := h'
    obtain rfl : alive = alive' := by cases hb; cases hb'; rfl
    exact (memcpy_bool halive).symm.trans (memcpy_bool halive')
  | fileMsg =>
    simp only [MessageType.readBody, bind_eq_ok] at h h'
    obtain ⟨_, _, _, _, last, hlast, hb⟩ := h
    obtain ⟨_, _, _, _, last', hlast', hb'⟩ := h'
    obtain rfl : last = last' := by cases hb; cases hb'; rfl
    exact (memcpy_bool hlast).symm.trans (memcpy_bool hlast')
  | ack =>
    simp only [MessageType.readBody, bind_eq_ok] at h h'
    obtain ⟨received, hreceived, hb⟩ := h
    obtain ⟨received', hreceived', hb'⟩ := h'
    obtain rfl : received = received' := by cases hb; cases hb'; rfl
    exact (memcpy_bool hreceived).symm.trans (memcpy_bool hreceived')
  | command =>
    simp only [MessageType.readBody, bind_eq_ok] at h h'
    obtain ⟨_, _, _, _, _, _, _, _, _, _, vz, hvz, hb⟩ := h
    obtain ⟨_, _, _, _, _, _, _, _, _, _, vz', hvz', hb'⟩ := h'
    obtain rfl : vz = vz' := by cases hb; cases hb'; rfl
    have hbyte := (memcpy_double hvz).symm.trans (memcpy_double hvz')
    rw [UInt8.toNat_inj] at hbyte
    change buf.getD 63 0 ≠ 0 ↔ buf'.getD 63 0 ≠ 0
    rw [show buf.getD 63 0 = buf'.getD 63 0 from hbyte]

/-! ### A positive sender field from a small top byte -/

theorem memcpy_int32_pos (buf : List UInt8) (off : Nat) (hbound : off + 4 ≤ buf.length)
    (htop : buf.getD (off + 3) 0 = 1) : ∃ i : Int32, memcpy Int32 buf off = .ok i ∧ 0 < i := by
  obtain ⟨i, hi⟩ := memcpy_total Int32 off hbound
  refine ⟨i, hi, ?_⟩
  obtain ⟨v, hv, rfl⟩ := fetch_eq_some (memcpy_eq_ok.mp hi)
  have hval := leValue_top buf off 3 (by omega)
  rw [htop, show (buf.drop off).take (3 + 1) = v.val from hv.symm] at hval
  change leValue v.val / 2 ^ 24 = 1 at hval
  change 0 < Int32.ofNat (leValue v.val)
  have hsmall : leValue v.val < 2 ^ 31 := by omega
  rw [Int32.lt_iff_toInt_lt, Int32.toInt_ofNat_of_lt hsmall]
  change (0 : Int) < _
  omega

/-! ### The two directions -/

section
variable {datagram : List UInt8} {head : Header} {k : MessageType}

theorem length_received (old : RecvBuffer) (hle : datagram.length ≤ Config.BUFFER_SIZE) :
    (received old datagram).length = Config.BUFFER_SIZE := by
  have hold := old.property
  rw [received, List.length_append, List.length_drop]
  omega

theorem headerRead_received (old : RecvBuffer) (hle : datagram.length ≤ Config.BUFFER_SIZE)
    (hhead : memcpyHeader datagram = .ok head) (h8 : 8 ≤ datagram.length)
    (hrange : ¬ (head.size < 8 ∨ 4096 < head.size)) :
    ∃ id port, HeaderRead (received old datagram) datagram.length head id port := by
  have hlen := length_received old hle
  obtain ⟨id, hid⟩ := memcpy_total Int32 8 (show 8 + 4 ≤ (received old datagram).length by
    rw [hlen]; decide)
  obtain ⟨port, hport⟩ := memcpy_total Int32 12 (show 12 + 4 ≤ (received old datagram).length by
    rw [hlen]; decide)
  obtain ⟨hge, hle'⟩ := not_or.mp hrange
  exact ⟨id, port, h8, (memcpyHeader_left _ h8).trans hhead, UInt32.not_lt.mp hge,
    UInt32.not_lt.mp hle', hid, hport⟩

theorem length_of_header (hhead : memcpyHeader datagram = .ok head) : 8 ≤ datagram.length := by
  simp only [memcpyHeader, bind_eq_ok] at hhead
  obtain ⟨_, _, _, hsize, _⟩ := hhead
  exact fetch_bound (memcpy_eq_ok.mp hsize)

theorem sameOutcome_of_selfContained (h1 : 1 ≤ datagram.length)
    (hle : datagram.length ≤ Config.BUFFER_SIZE) (h : SelfContained datagram) (old old' : RecvBuffer) :
    SameOutcome (decode (received old datagram) datagram.length)
      (decode (received old' datagram) datagram.length) := by
  unfold SelfContained at h
  by_cases h8 : datagram.length < 8
  · rw [decode_short h1 h8, decode_short h1 h8]
    exact .thrown _ _
  obtain ⟨head, hhead⟩ := memcpyHeader_total (Nat.not_lt.mp h8)
  have hcopied : ∀ old, memcpyHeader (received old datagram) = .ok head :=
    fun old => (memcpyHeader_left _ (Nat.not_lt.mp h8)).trans hhead
  rw [hhead] at h
  by_cases hrange : head.size < 8 ∨ 4096 < head.size
  · rw [decode_corrupt (Nat.not_lt.mp h8) (hcopied old) hrange,
      decode_corrupt (Nat.not_lt.mp h8) (hcopied old') hrange]
    exact .thrown _ _
  obtain ⟨id, port, hread⟩ := headerRead_received old hle hhead (Nat.not_lt.mp h8) hrange
  obtain ⟨id', port', hread'⟩ := headerRead_received old' hle hhead (Nat.not_lt.mp h8) hrange
  obtain ⟨hge, hle4096⟩ := not_or.mp hrange
  replace h := (h.resolve_left hge).resolve_left hle4096
  cases hk : MessageType.ofTag head.type with
  | none =>
    rw [decode_unknown hread hk, decode_unknown hread' hk]
    exact .thrown _ _
  | some k =>
    simp only [hk] at h
    rw [decode_known hread hk, decode_known hread' hk]
    -- sender fields inside the datagram are the same both times
    have hsame : ∀ {off : Nat} {i j : Int32}, off + 4 ≤ datagram.length →
        memcpy Int32 (received old datagram) off = .ok i →
        memcpy Int32 (received old' datagram) off = .ok j →
        memcpy Int32 datagram off = .ok i ∧ j = i := by
      intro off i j hoff hi hj
      have hleft := memcpy_left (α := Int32) (old.val.drop datagram.length) hoff
      have hleft' := memcpy_left (α := Int32) (old'.val.drop datagram.length) hoff
      rw [received, hleft] at hi
      rw [received, hleft', hi] at hj
      exact ⟨hi, (Except.ok.inj hj).symm⟩
    rcases h with hlayout | ⟨i, hi, hneg⟩ | ⟨p, hp, hneg⟩
    · have hmin : 16 ≤ k.layout := by cases k <;> decide
      obtain ⟨-, rfl⟩ := hsame (by omega) hread.id hread'.id
      obtain ⟨-, rfl⟩ := hsame (by omega) hread.port hread'.port
      simp only [finishMsg, received, readBody_left _ hlayout]
      exact SameOutcome.refl _
    · have h12 := fetch_bound (memcpy_eq_ok.mp hi)
      obtain ⟨hown, rfl⟩ := hsame h12 hread.id hread'.id
      obtain rfl : id' = i := Except.ok.inj (hown.symm.trans hi)
      rw [finishMsg_id hneg, finishMsg_id hneg]
      exact .aborted _ _
    · have h16 := fetch_bound (memcpy_eq_ok.mp hp)
      change 12 + 4 ≤ datagram.length at h16
      obtain ⟨-, rfl⟩ := hsame (by omega) hread.id hread'.id
      obtain ⟨hown, rfl⟩ := hsame h16 hread.port hread'.port
      obtain rfl : port' = p := Except.ok.inj (hown.symm.trans hp)
      by_cases hid : 0 ≤ id'
      · rw [finishMsg_port hid hneg, finishMsg_port hid hneg]
        exact .aborted _ _
      · rw [finishMsg_id hid, finishMsg_id hid]
        exact .aborted _ _

/-- A receive buffer in which every byte is the same. -/
def filled (c : UInt8) : RecvBuffer := ⟨List.replicate Config.BUFFER_SIZE c, List.length_replicate⟩

theorem getD_received_filled (c : UInt8) {i : Nat} (hi : datagram.length ≤ i)
    (hlt : i < Config.BUFFER_SIZE) : (received (filled c) datagram).getD i 0 = c := by
  rw [received, filled, List.getD_eq_getElem?_getD, List.getElem?_append_right hi, List.drop_replicate,
    List.getElem?_replicate, if_pos (by omega)]
  rfl

theorem memcpy_ones (off : Nat) (hlt : off + 3 < Config.BUFFER_SIZE)
    (hle : datagram.length ≤ Config.BUFFER_SIZE) {p : Int32 → Prop} (hpos : ∀ i, 0 < i → p i)
    (hown : ∀ i, memcpy Int32 datagram off = .ok i → p i) :
    ∃ i, memcpy Int32 (received (filled 1) datagram) off = .ok i ∧ p i := by
  by_cases hin : off + 4 ≤ datagram.length
  · obtain ⟨i, hi⟩ := memcpy_total Int32 off hin
    exact ⟨i, memcpy_left_ok _ hi, hown i hi⟩
  · have hlen := length_received (filled 1) hle
    obtain ⟨i, hi, hp⟩ := memcpy_int32_pos (received (filled 1) datagram) off (by omega)
      (getD_received_filled 1 (by omega) hlt)
    exact ⟨i, hi, hpos i hp⟩

theorem selfContained_of_sameOutcome (hle : datagram.length ≤ Config.BUFFER_SIZE)
    (h : SameOutcome (decode (received (filled 1) datagram) datagram.length)
      (decode (received (filled 0) datagram) datagram.length)) : SelfContained datagram := by
  unfold SelfContained
  cases hhead : memcpyHeader datagram with
  | error e => trivial
  | ok head =>
    have h8 := length_of_header hhead
    by_cases hrange : head.size < 8 ∨ 4096 < head.size
    · exact hrange.imp_right Or.inl
    refine Or.inr (Or.inr ?_)
    cases hk : MessageType.ofTag head.type with
    | none => trivial
    | some k =>
      by_contra hnot
      obtain ⟨hshort, hids, hports⟩ : datagram.length < k.layout ∧
          (∀ id : Int32, memcpy Int32 datagram 8 = .ok id → 0 ≤ id) ∧
          ∀ port : Int32, memcpy Int32 datagram 12 = .ok port → 0 < port := by
        simpa only [not_or, not_le, not_exists, not_and, not_not] using hnot
      have hmax : k.layout ≤ Config.BUFFER_SIZE := by cases k <;> decide
      -- with ones in the buffer every sender check passes
      obtain ⟨id, hid, hid0⟩ := memcpy_ones 8 (by decide) hle
        (fun i hi => Int32.le_of_lt hi) hids
      obtain ⟨port, hport, hport0⟩ := memcpy_ones 12 (by decide) hle (fun i hi => hi) hports
      obtain ⟨b, hb⟩ := readBody_total (received (filled 1) datagram) k
        (by rw [length_received (filled 1) hle]; exact hmax)
      obtain ⟨hge, hle4096⟩ := not_or.mp hrange
      have hread : HeaderRead (received (filled 1) datagram) datagram.length head id port :=
        ⟨h8, (memcpyHeader_left _ h8).trans hhead, UInt32.not_lt.mp hge, UInt32.not_lt.mp hle4096,
          hid, hport⟩
      rw [decode_known hread hk, finishMsg_ok hid0 hport0 hb] at h
      -- so the message with zeros in the buffer has the same body
      obtain ⟨id', port', hread'⟩ := headerRead_received (filled 0) hle hhead h8 hrange
      have hzero := h.ok_left
      rw [decode_known hread' hk] at hzero
      simp only [finishMsg, bind_eq_ok] at hzero
      obtain ⟨_, _, _, _, b', hb', hm⟩ := hzero
      obtain rfl : b' = b := congrArg Message.body (Except.ok.inj hm)
      -- but its last byte is behind the datagram
      have hin : k.layout - 1 < Config.BUFFER_SIZE := by omega
      have hlast := readBody_last hb hb'
      rw [getD_received_filled 1 (by omega) hin, getD_received_filled 0 (by omega) hin] at hlast
      exact hlast.mp (by decide) rfl

end

/-- **A datagram is read from its own bytes only** exactly when it is self-contained: then, and only
then, the outcome of `decode` does not depend on what the receive buffer held before. -/
theorem decode_sameOutcome_iff (datagram : List UInt8) (h1 : 1 ≤ datagram.length)
    (hle : datagram.length ≤ Config.BUFFER_SIZE) :
    (∀ old old' : RecvBuffer, SameOutcome (decode (received old datagram) datagram.length)
      (decode (received old' datagram) datagram.length)) ↔ SelfContained datagram :=
  ⟨fun h => selfContained_of_sameOutcome hle (h (filled 1) (filled 0)),
    sameOutcome_of_selfContained h1 hle⟩

/-- A heartbeat of satellite 1, listening on port 5001. -/
def heartbeatDatagram : List UInt8 :=
  [0, 0, 0, 0, 32, 0, 0, 0, 1, 0, 0, 0, 137, 19, 0, 0, 1]

theorem decode_sameOutcome_heartbeat :
    (∀ old old' : RecvBuffer, SameOutcome (decode (received old heartbeatDatagram) 17)
      (decode (received old' heartbeatDatagram) 17)) ↔ SelfContained heartbeatDatagram :=
  decode_sameOutcome_iff heartbeatDatagram (by decide) (by decide)

/-- The header of a heartbeat, on its own: eight bytes that pass the size check of `decode`. -/
def bareHeader : List UInt8 := [0, 0, 0, 0, 32, 0, 0, 0]

/-- The bare header decodes to a heartbeat or aborts, as the bytes left in the buffer have it. -/
theorem bareHeader_completed_from_residue :
    ¬ ∀ old old' : RecvBuffer, SameOutcome (decode (received old bareHeader) bareHeader.length)
      (decode (received old' bareHeader) bareHeader.length) := by
  intro h
  have hself : SelfContained bareHeader := selfContained_of_sameOutcome (by decide) (h (filled 1) (filled 0))
  rcases hself with hsize | hsize | hlayout | ⟨id, hid, _⟩ | ⟨port, hport, _⟩
  · exact absurd hsize (by decide)
  · exact absurd hsize (by decide)
  · exact absurd hlayout (by decide)
  · cases hid
  · cases hport

end Constellation
