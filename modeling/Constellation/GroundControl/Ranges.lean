import Constellation.GroundControl.Admission

/-!
# What the receiver appends to its buffers

A file message says how many bytes of its data array count, and nobody checks that number: not `decode`, not `ack`,
not `handleFileDump`, which appends that range of the array. The array in turn is copied out of the receive buffer,
and the datagram may have been shorter than the layout: what it does not cover is left from the datagrams before, or
from no datagram at all.

So the range lies inside the data field of what arrived exactly if the number is between 0 and 1024 and some
datagram up to this one reached that far (`ranges_inside_iff`).
-/

namespace Constellation

/-- The receive buffer after some datagrams. -/
def bufferAfter (buf : RecvBuffer) (ds : List (List UInt8)) : RecvBuffer := ds.foldl recvfrom buf

section
variable {buf : RecvBuffer} {ds : List (List UInt8)} {d : List UInt8} {i : Nat}

theorem bufferAfter_snoc : bufferAfter buf (ds ++ [d]) = recvfrom (bufferAfter buf ds) d := by
  rw [bufferAfter, List.foldl_append]
  rfl

theorem getElem?_recvfrom (hi : i < Config.BUFFER_SIZE) :
    (recvfrom buf d).val[i]? = if i < d.length then d[i]? else buf.val[i]? := by
  show (received buf (d.take Config.BUFFER_SIZE))[i]? = _
  rw [received, List.length_take]
  by_cases hin : i < d.length
  · rw [if_pos hin, List.getElem?_append_left (by rw [List.length_take]; omega), List.getElem?_take_of_lt hi]
  · rw [if_neg hin, List.getElem?_append_right (by rw [List.length_take]; omega), List.getElem?_drop, List.length_take]
    congr 1
    omega

theorem bufferAfter_stored (buf : RecvBuffer) (hi : i < Config.BUFFER_SIZE) (h : ∃ d ∈ ds, i < d.length) :
    ∃ d ∈ ds, (bufferAfter buf ds).val[i]? = d[i]? ∧ i < d.length := by
  induction ds using List.reverseRecOn with
  | nil =>
    obtain ⟨d, hd, -⟩ := h
    cases hd
  | append_singleton ds last ih =>
    rw [bufferAfter_snoc, getElem?_recvfrom hi]
    by_cases hin : i < last.length
    · rw [if_pos hin]
      exact ⟨last, by simp, rfl, hin⟩
    · rw [if_neg hin]
      obtain ⟨d, hd, hlen⟩ := h
      have hbefore : d ∈ ds := by
        rcases List.mem_append.mp hd with hd | hd
        · exact hd
        · rw [List.mem_singleton.mp hd] at hlen
          exact absurd hlen hin
      obtain ⟨d', hd', hstored, hlen'⟩ := ih ⟨d, hbefore, hlen⟩
      exact ⟨d', List.mem_append_left _ hd', hstored, hlen'⟩

end

namespace Receiver

/-- What the listener does with one datagram before it answers: `recvfrom`, `decode`, and the part of `ack` that
handles the message. -/
def collect (s : RecvBuffer × Receiver) (datagram : List UInt8) :
    Except Stop ((RecvBuffer × Receiver) × List Effect) := do
  let (buf, message) ← receive s.1 datagram
  match message with
  | none => return ((buf, s.2), [])
  | some message =>
    let (_, r, effects) ← s.2.handle message
    return ((buf, r), effects)

/-- `decode` accepts the datagram as a file message with its proper size, of a sender that is a satellite. -/
def IsFile (buf : RecvBuffer) (datagram : List UInt8) : Prop :=
  ∃ m, receive buf datagram = .ok (recvfrom buf datagram, some m) ∧ m.header.type = MessageType.fileMsg.tag ∧
    m.header.size = MessageType.fileMsg.sizeof ∧ 0 < m.senderId

/-- The range of the file message is a valid one, and each of its bytes was put at its place in a data field. -/
def Inside (buf : RecvBuffer) (before : List (List UInt8)) (datagram : List UInt8) : Prop :=
  ∀ m data len last, receive (bufferAfter buf before) datagram =
      .ok (recvfrom (bufferAfter buf before) datagram, some m) → m.body = .fileMsg data len last →
    ∃ inserted, insertRange data len = .ok inserted ∧
      ∀ j b, inserted[j]? = some b → ∃ d ∈ before ++ [datagram], d[16 + j]? = some b

/-- The length that is read is one of the array, and some datagram so far reached to the end of the range. -/
def Covered (buf : RecvBuffer) (before : List (List UInt8)) (datagram : List UInt8) : Prop :=
  let len := GroundControl.chunkLen (bufferAfter buf (before ++ [datagram])).val
  0 ≤ len ∧ len.toInt ≤ Config.FILE_CHUNK_SIZE ∧
    (len.toInt = 0 ∨ ∃ d ∈ before ++ [datagram], 16 + len.toInt ≤ d.length)

section
variable {buf : RecvBuffer} {before : List (List UInt8)} {d : List UInt8} {m : Message}

theorem IsFile.fields (h : IsFile buf d) : ∃ m data len last,
    receive buf d = .ok (recvfrom buf d, some m) ∧ m.body = .fileMsg data len last ∧ m.Valid ∧
      m.header.size = MessageType.fileMsg.sizeof ∧ 0 < m.senderId ∧
      data.val = ((recvfrom buf d).val.drop 16).take Config.FILE_CHUNK_SIZE ∧
      len = GroundControl.chunkLen (recvfrom buf d).val := by
  obtain ⟨m, hreceive, htype, hsize, hid⟩ := h
  obtain ⟨k, body, hk, hbody, rfl, hvalid⟩ := receive_some hreceive
  have hkind : k = .fileMsg := by
    have hread := MessageType.readBody_kind hbody
    apply MessageType.tag_injective
    rw [← htype, ← hread]
    exact hvalid.type.symm
  subst hkind
  have hfields := hbody
  simp only [MessageType.readBody, bind_eq_ok] at hfields
  obtain ⟨data, hdata, len, -, last, -, hret⟩ := hfields
  cases hret
  obtain ⟨v, hv, hval⟩ := fetch_eq_some (memcpy_eq_ok.mp hdata)
  refine ⟨_, data, len, last, hreceive, rfl, hvalid, hsize, hid, ?_, GroundControl.readBody_chunkLen hbody⟩
  rw [← hval]
  exact hv

theorem insertRange_eq_ok {data : Chunk} {len : Int16} {inserted : List UInt8} :
    insertRange data len = .ok inserted ↔
      (0 ≤ len ∧ len.toInt ≤ Config.FILE_CHUNK_SIZE) ∧ inserted = data.val.take len.toInt.toNat := by
  rw [insertRange]
  constructor
  · intro h
    split_ifs at h with hlen
    cases h
    exact ⟨hlen, rfl⟩
  · rintro ⟨hlen, rfl⟩
    rw [if_pos hlen]

/-- **One datagram.** -/
theorem inside_iff (h : IsFile (bufferAfter buf before) d) : Inside buf before d ↔ Covered buf before d := by
  obtain ⟨m, data, len, last, hreceive, hbody, -, -, -, hdata, hlen⟩ := h.fields
  rw [Covered, bufferAfter_snoc, ← hlen]
  have hchunk : Config.FILE_CHUNK_SIZE = 1024 := rfl
  have hbuffer : Config.BUFFER_SIZE = 2048 := rfl
  have hbyte : ∀ j, j < 1024 → data.val[j]? = (bufferAfter buf (before ++ [d])).val[16 + j]? := by
    intro j hj
    rw [bufferAfter_snoc, hdata, List.getElem?_take_of_lt (by omega), List.getElem?_drop]
  constructor
  · intro hinside
    obtain ⟨inserted, hinsert, hbytes⟩ := hinside m data len last hreceive hbody
    obtain ⟨⟨hnonneg, hle⟩, rfl⟩ := insertRange_eq_ok.mp hinsert
    refine ⟨hnonneg, hle, ?_⟩
    by_cases hzero : len.toInt = 0
    · exact .inl hzero
    right
    have hpos : 0 ≤ len.toInt := Int16.le_iff_toInt_le.mp hnonneg
    -- The last byte of the range is a byte of some datagram, which is therefore long enough.
    obtain ⟨b, hb⟩ : ∃ b, data.val[len.toInt.toNat - 1]? = some b := by
      have hlength : len.toInt.toNat - 1 < data.val.length := by
        rw [data.property]
        omega
      exact ⟨_, List.getElem?_eq_getElem hlength⟩
    obtain ⟨d', hd', hstored⟩ := hbytes (len.toInt.toNat - 1) b (by
      rw [List.getElem?_take_of_lt (by omega)]
      exact hb)
    obtain ⟨hbound, -⟩ := List.getElem?_eq_some_iff.mp hstored
    exact ⟨d', hd', by omega⟩
  · rintro ⟨hnonneg, hle, hreach⟩ m' data' len' last' hreceive' hbody'
    have hsame : m' = m := by
      rw [hreceive] at hreceive'
      cases hreceive'
      rfl
    rw [hsame, hbody] at hbody'
    cases hbody'
    refine ⟨_, insertRange_eq_ok.mpr ⟨⟨hnonneg, hle⟩, rfl⟩, fun j b hb => ?_⟩
    obtain ⟨hj, -⟩ := List.getElem?_eq_some_iff.mp hb
    rw [List.length_take] at hj
    rw [List.getElem?_take_of_lt (by omega), hbyte j (by omega)] at hb
    have hlong : ∃ d' ∈ before ++ [d], 16 + j < d'.length := by
      rcases hreach with hzero | ⟨d', hd', hreach⟩
      · omega
      · exact ⟨d', hd', by omega⟩
    obtain ⟨d', hd', hstored, -⟩ := bufferAfter_stored buf (by omega) hlong
    exact ⟨d', hd', hstored.symm.trans hb⟩

/-- The byte stands in a data field. -/
def FromDataField (ds : List (List UInt8)) (b : UInt8) : Prop :=
  ∃ d ∈ ds, ∃ j, j < Config.FILE_CHUNK_SIZE ∧ d[16 + j]? = some b

theorem collect_file {r : Receiver} (h : IsFile (bufferAfter buf before) d) (hcovered : Covered buf before d) :
    ∃ r' w, collect (bufferAfter buf before, r) d = .ok ((bufferAfter buf (before ++ [d]), r'), w) ∧
      ∀ id, ∀ b ∈ r'.buffer id, b ∈ r.buffer id ∨ FromDataField (before ++ [d]) b := by
  obtain ⟨m, data, len, last, hreceive, hbody, hvalid, hsize, hid, -, -⟩ := h.fields
  obtain ⟨inserted, hinsert, hbytes⟩ := (inside_iff h).mpr hcovered m data len last hreceive hbody
  obtain ⟨hlen, rfl⟩ := insertRange_eq_ok.mp hinsert
  have hdeliverable : Deliverable m := by
    refine ⟨hvalid, fun data' len' last' hbody' => ?_⟩
    rw [hbody] at hbody'
    cases hbody'
    exact ⟨hsize, hid, hlen⟩
  obtain ⟨out, -, hdump⟩ := handleFileDump_ok (r := r) hdeliverable hbody
  have htype : m.header.type = MessageType.fileMsg.tag := by
    rw [hvalid.type, Message.kind, hbody]
    rfl
  rw [collect, hreceive, ok_bind]
  dsimp only
  rw [handle, if_pos htype, assert_bind hsize, hbody]
  dsimp only
  rw [hdump, bufferAfter_snoc]
  refine ⟨_, _, rfl, fun id b hb => ?_⟩
  dsimp only [store] at hb
  by_cases hself : id = m.senderId
  · rw [hself, Function.update_self] at hb
    rw [hself]
    split_ifs at hb
    · cases hb
    · rcases List.mem_append.mp hb with hold | hnew
      · exact .inl hold
      · obtain ⟨j, hj, hget⟩ := List.getElem_of_mem hnew
        obtain ⟨d', hd', hstored⟩ := hbytes j b (by rw [List.getElem?_eq_getElem hj, hget])
        rw [List.length_take, data.property] at hj
        exact .inr ⟨d', hd', j, by omega, hstored⟩
  · rw [Function.update_of_ne hself] at hb
    exact .inl hb

end

theorem collect_run {buf : RecvBuffer} {r : Receiver} {ds : List (List UInt8)}
    (hfiles : Along (fun before d => IsFile (bufferAfter buf before) d) ds) (hcovered : Along (Covered buf) ds) :
    ∃ r' w, run collect (buf, r) ds = .ok ((bufferAfter buf ds, r'), w) ∧
      ∀ id, ∀ b ∈ r'.buffer id, b ∈ r.buffer id ∨ FromDataField ds b := by
  induction ds using List.reverseRecOn with
  | nil => exact ⟨r, [], rfl, fun id b hb => .inl hb⟩
  | append_singleton ds d ih =>
    obtain ⟨hfilesBefore, hfile⟩ := along_snoc.mp hfiles
    obtain ⟨hcoveredBefore, hlast⟩ := along_snoc.mp hcovered
    obtain ⟨r₁, w₁, hrun, hbytes⟩ := ih hfilesBefore hcoveredBefore
    obtain ⟨r₂, w₂, hstep, hbytes'⟩ := collect_file (r := r₁) hfile hlast
    refine ⟨r₂, w₁ ++ w₂, run_snoc_ok.mpr ⟨_, w₁, w₂, hrun, hstep, rfl⟩, fun id b hb => ?_⟩
    rcases hbytes' id b hb with hold | hnew
    · rcases hbytes id b hold with hstart | ⟨d', hd', hfield⟩
      · exact .inl hstart
      · exact .inr ⟨d', List.mem_append_left _ hd', hfield⟩
    · exact .inr hnew

/-- **When the receiver stays inside the datagrams.** Over any sequence of file messages, whatever the receive buffer held
at first, every range is a valid one of bytes that senders put in data fields exactly if every length that is read is
between 0 and 1024 and covered by a datagram. Then all of them are handled, and all bytes collected are such bytes. -/
theorem ranges_inside_iff {buf : RecvBuffer} {ds : List (List UInt8)} (gcPort : Int32)
    (hfiles : Along (fun before d => IsFile (bufferAfter buf before) d) ds) :
    (Along (Inside buf) ds ↔ Along (Covered buf) ds) ∧
      (Along (Inside buf) ds → ∃ s w, run collect (buf, { buffer := fun _ => [], gcPort }) ds = .ok (s, w) ∧
        ∀ id, ∀ b ∈ s.2.buffer id, FromDataField ds b) := by
  have hiff : Along (Inside buf) ds ↔ Along (Covered buf) ds := by
    constructor
    · intro h before d after heq
      exact (inside_iff (hfiles before d after heq)).mp (h before d after heq)
    · intro h before d after heq
      exact (inside_iff (hfiles before d after heq)).mpr (h before d after heq)
  refine ⟨hiff, fun hinside => ?_⟩
  obtain ⟨r', w, hrun, hbytes⟩ := collect_run (r := { buffer := fun _ => [], gcPort }) hfiles (hiff.mp hinside)
  refine ⟨_, w, hrun, fun id b hb => ?_⟩
  rcases hbytes id b hb with hstart | hfield
  · cases hstart
  · exact hfield

/-- A file message of satellite 1 that says it has so many bytes, as a datagram. -/
def claiming (len : Int16) : List UInt8 :=
  (Message.build 1 5001 (.fileMsg blankChunk len true)).serialize ⟨[0, 0, 0], Message.length_zeroPad⟩

theorem receive_claiming (len : Int16) : receive (filled 0) (claiming len) =
    .ok (recvfrom (filled 0) (claiming len), some (.build 1 5001 (.fileMsg blankChunk len true))) :=
  receive_serialize (Message.build_valid (by decide) (by decide) _) _ _

theorem claiming_isFile (len : Int16) : IsFile (filled 0) (claiming len) :=
  ⟨_, receive_claiming len, rfl, rfl, show (0 : Int32) < 1 by decide⟩

/-- The whole message arrives, and it says that it has -1 bytes. -/
theorem negativeLength_undefined : IsFile (filled 0) (claiming (-1)) ∧ ¬ Inside (filled 0) [] (claiming (-1)) := by
  refine ⟨claiming_isFile (-1), fun hinside => ?_⟩
  obtain ⟨inserted, hinsert, -⟩ := hinside _ blankChunk (-1) true (receive_claiming (-1)) rfl
  exact absurd (insertRange_eq_ok.mp hinsert).1.1 (by decide)

theorem ranges_inside_iff_claiming :
    (Along (Inside (filled 0)) [claiming 5] ↔ Along (Covered (filled 0)) [claiming 5]) ∧
      (Along (Inside (filled 0)) [claiming 5] →
        ∃ s w, run collect (filled 0, { buffer := fun _ => [], gcPort := 8000 }) [claiming 5] = .ok (s, w) ∧
          ∀ id, ∀ b ∈ s.2.buffer id, FromDataField [claiming 5] b) := by
  refine ranges_inside_iff 8000 ?_
  rw [along_cons]
  exact ⟨claiming_isFile 5, along_nil _⟩

end Receiver

end Constellation
