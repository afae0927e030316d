import Constellation.GroundControl.GCConnectionHandler
import Constellation.Lib.Reassembly
import Constellation.Protocol.Receive

/-!
# Ground control's receiver

What the listener thread does with one datagram: `addConnection` makes its sender known and marks it
connected, `ack` handles the message and answers it. `buffer` collects the file chunks of each
satellite until its last chunk comes; an id without an entry reads as the empty vector, as
`operator[]` has it.

Seen from one satellite the receiver reassembles a stream of frames, and messages of others do not
disturb it (`handle_ok`).
-/

namespace Constellation

structure Receiver where
  buffer : Int32 → List UInt8
  gcPort : Int32

namespace Receiver

/-- The chunk a file message adds to its sender's buffer. Inserting from an invalid range is
undefined. -/
def insertRange (data : Chunk) (len : Int16) : Except Stop (List UInt8) :=
  if 0 ≤ len ∧ len.toInt ≤ Config.FILE_CHUNK_SIZE then .ok (data.val.take len.toInt.toNat)
  else .error (.undefined "insert of a range outside the data array")

/-- The receiver with other bytes collected for one satellite. -/
def store (r : Receiver) (id : Int32) (chunk : List UInt8) : Receiver :=
  { r with buffer := Function.update r.buffer id chunk }

def handleFileDump (r : Receiver) (msg : Message) (data : Chunk) (len : Int16) (last : Bool) :
    Except Stop (Receiver × List Effect) := do
  assert (0 < msg.header.size) "msg.header.size > 0"
  assert (0 < msg.senderId) "msg.senderId > 0"
  assert (0 ≤ msg.senderPort) "msg.senderPort >= 0"
  let inserted ← insertRange data len
  let chunk := r.buffer msg.senderId ++ inserted
  if last then
    let out ← Parser.dataDecoder msg.senderId chunk true
    return (r.store msg.senderId [], [.output out])
  else
    return (r.store msg.senderId chunk, [])

def addConnection (r : Receiver) (now : Nat) (os : Int32 → Os) (message : Message)
    (handler : GCConnectionHandler) (ip : String) : Except Stop (GCConnectionHandler × List Effect) := do
  assert (0 < message.header.size) "message.header.size > 0"
  assert (0 < message.senderId) "message.senderId > 0"
  assert (0 ≤ message.senderPort) "message.senderPort >= 0"
  assert (0 ≤ r.gcPort) "gcPort >= 0"
  let known ← handler.hasConnection message.senderId
  let logged : Effect :=
    .log ("[NETWORK] Message received from Satellite Id: " ++ toString message.senderId)
  if known = false then
    let (handler, effects) ← handler.addConnection now os message.senderPort ip message.senderId
    let handler ← handler.heartbeatSat now message.senderId
    return (handler, effects ++ [logged])
  else
    let handler ← handler.heartbeatSat now message.senderId
    let out ← Parser.dataDecoder message.senderId [] true
    return (handler, [.output out, logged])

/-- The answer to a handled message. -/
def ackMessage (r : Receiver) : Message := .build 0 r.gcPort (.ack true)

/-- The part of `ack` that handles the message, and whether it did. -/
def handle (r : Receiver) (message : Message) : Except Stop (Bool × Receiver × List Effect) :=
  if message.header.type = MessageType.fileMsg.tag then do
    assert (message.header.size = MessageType.fileMsg.sizeof) "message.header.size == sizeof(File_Msg)"
    match message.body with
    | .fileMsg data len last =>
      let (r, effects) ← r.handleFileDump message data len last
      return (true, r, effects)
    | _ => throw (.undefined "static_cast of another message to File_Msg")
  else if message.header.type = MessageType.heartbeat.tag then return (true, r, [])
  else if message.header.type = MessageType.ack.tag then
    return (true, r, [.log ("[NETWORK] Satellite: " ++ toString message.senderId ++ " acknowledged command")])
  else return (false, r, [])

def ack (r : Receiver) (os : Int32 → Os) (message : Message) (handler : GCConnectionHandler) :
    Except Stop (Receiver × List Effect) := do
  assert (0 < message.header.size) "message.header.size > 0"
  assert (0 < message.senderId) "message.senderId > 0"
  assert (0 ≤ message.senderPort) "message.senderPort >= 0"
  assert (0 ≤ r.gcPort) "gcPort >= 0"
  let (handled, r, effects) ← r.handle message
  if handled then
    let sent ← handler.sendMessageToSat os message.senderId r.ackMessage
    return (r, effects ++ sent)
  else return (r, effects)

/-! ### What a call that returns did -/

section
variable {r : Receiver} {now : Nat} {os : Int32 → Os} {m : Message} {h h' : GCConnectionHandler} {ip : String}
  {w : List Effect}

theorem addConnection_cases (hrun : r.addConnection now os m h ip = .ok (h', w)) :
    0 < m.senderId ∧
      ((h.satellites.lookup m.senderId = none ∧ ∃ h₁ v, h.addConnection now os m.senderPort ip m.senderId = .ok (h₁, v) ∧
          h₁.heartbeatSat now m.senderId = .ok h' ∧
          w = v ++ [.log ("[NETWORK] Message received from Satellite Id: " ++ toString m.senderId)]) ∨
        ((h.satellites.lookup m.senderId).isSome = true ∧ ∃ out, h.heartbeatSat now m.senderId = .ok h' ∧
          Parser.dataDecoder m.senderId [] true = .ok out ∧
          w = [.output out, .log ("[NETWORK] Message received from Satellite Id: " ++ toString m.senderId)])) := by
  unfold addConnection at hrun
  simp only [assert_bind_eq_ok] at hrun
  obtain ⟨-, hsender, -, -, hrun⟩ := hrun
  refine ⟨hsender, ?_⟩
  rw [GCConnectionHandler.hasConnection, assert_bind hsender] at hrun
  obtain ⟨known, hknown, hrun⟩ := bind_eq_ok.mp hrun
  cases hknown
  split_ifs at hrun with hnew
  · obtain ⟨⟨h₁, v⟩, hadd, hrest⟩ := bind_eq_ok.mp hrun
    obtain ⟨h₂, hbeat, hret⟩ := bind_eq_ok.mp hrest
    cases hret
    exact .inl ⟨Option.isNone_iff_eq_none.mp (Option.isSome_eq_false_iff.mp hnew), h₁, v, hadd, hbeat, rfl⟩
  · obtain ⟨h₁, hbeat, hrest⟩ := bind_eq_ok.mp hrun
    obtain ⟨out, hout, hret⟩ := bind_eq_ok.mp hrest
    cases hret
    exact .inr ⟨eq_true_of_ne_false hnew, out, hbeat, hout, rfl⟩

theorem handle_cases {x : Bool × Receiver × List Effect} (hrun : r.handle m = .ok x) :
    x.2.2 = [] ∨ (∃ line, x.2.2 = [.log line]) ∨
      ∃ chunk out, Parser.dataDecoder m.senderId chunk true = .ok out ∧ x.2.2 = [.output out] := by
  unfold handle at hrun
  split_ifs at hrun
  · obtain ⟨-, hrun⟩ := assert_bind_eq_ok.mp hrun
    split at hrun
    · obtain ⟨⟨r', v⟩, hdump, hret⟩ := bind_eq_ok.mp hrun
      cases hret
      unfold handleFileDump at hdump
      simp only [assert_bind_eq_ok] at hdump
      obtain ⟨-, -, -, hdump⟩ := hdump
      obtain ⟨inserted, -, hdump⟩ := bind_eq_ok.mp hdump
      split_ifs at hdump
      · obtain ⟨out, hout, hret⟩ := bind_eq_ok.mp hdump
        cases hret
        exact .inr (.inr ⟨_, out, hout, rfl⟩)
      · cases hdump
        exact .inl rfl
    · cases hrun
  · cases hrun
    exact .inl rfl
  · cases hrun
    exact .inr (.inl ⟨_, rfl⟩)
  · cases hrun
    exact .inl rfl

theorem handle_command {x : Bool × Receiver × List Effect} (htype : m.header.type = MessageType.command.tag)
    (hrun : r.handle m = .ok x) : x.1 = false := by
  rw [handle, htype, if_neg (by decide), if_neg (by decide), if_neg (by decide)] at hrun
  cases hrun
  rfl

theorem ack_cases {x : Receiver × List Effect} (hrun : r.ack os m h = .ok x) :
    ∃ handled r' v, r.handle m = .ok (handled, r', v) ∧
      ((handled = true ∧ ∃ sent, h.sendMessageToSat os m.senderId r'.ackMessage = .ok sent ∧ x = (r', v ++ sent)) ∨
        (handled = false ∧ x = (r', v))) := by
  unfold ack at hrun
  simp only [assert_bind_eq_ok] at hrun
  obtain ⟨-, -, -, -, hrun⟩ := hrun
  obtain ⟨⟨handled, r', v⟩, hhandle, hrest⟩ := bind_eq_ok.mp hrun
  refine ⟨handled, r', v, hhandle, ?_⟩
  dsimp only at hrest
  split_ifs at hrest with hanswer
  · obtain ⟨sent, hsent, hret⟩ := bind_eq_ok.mp hrest
    cases hret
    exact .inl ⟨hanswer, sent, hsent, rfl⟩
  · cases hrest
    exact .inr ⟨eq_false_of_ne_true hanswer, rfl⟩

end

/-! ### The stream of each satellite -/

/-- A message that the listener can decode and handle: a file message carries its own size, a sender
and as many bytes as it says. -/
structure Deliverable (m : Message) : Prop where
  valid : m.Valid
  file : ∀ data len last, m.body = .fileMsg data len last → m.header.size = MessageType.fileMsg.sizeof ∧
    0 < m.senderId ∧ 0 ≤ len ∧ len.toInt ≤ Config.FILE_CHUNK_SIZE

/-- What a message adds to the stream of satellite `id`. -/
def frameOf (id : Int32) (m : Message) : Option (Frame UInt8) :=
  match m.body with
  | .fileMsg data len last => if m.senderId = id then some (data.val.take len.toInt.toNat, last) else none
  | _ => none

/-- The bytes of a result about satellite `id`. -/
def handed (id : Int32) : Effect → Option (List UInt8)
  | .output out => if out.id = id.toUInt32 then some out.chunks else none
  | _ => none

/-- What satellite `id` had handed over in a step, and what is then collected of it. -/
def assembly (id : Int32) (w : List Effect) (r : Receiver) : Assembly UInt8 := ⟨w.filterMap (handed id), r.buffer id⟩

section
variable {m : Message} {r : Receiver}

theorem Deliverable.size_pos (h : Deliverable m) : 0 < m.header.size :=
  UInt32.lt_of_lt_of_le (by decide : (0 : UInt32) < 8) h.valid.size_ge

theorem handleFileDump_ok (h : Deliverable m) {data : Chunk} {len : Int16} {last : Bool}
    (hbody : m.body = .fileMsg data len last) :
    ∃ out, Parser.dataDecoder m.senderId (r.buffer m.senderId ++ data.val.take len.toInt.toNat) true = .ok out ∧
      r.handleFileDump m data len last = .ok
        (r.store m.senderId (if last then [] else r.buffer m.senderId ++ data.val.take len.toInt.toNat),
          if last then [.output out] else []) := by
  obtain ⟨-, hid, hlen⟩ := h.file data len last hbody
  obtain ⟨out, hout, -, -⟩ := Parser.dataDecoder_ok hid
    (r.buffer m.senderId ++ data.val.take len.toInt.toNat) true
  refine ⟨out, hout, ?_⟩
  rw [handleFileDump, assert_bind h.size_pos, assert_bind hid,
    assert_bind (Int32.le_of_lt h.valid.senderPort), insertRange, if_pos hlen, ok_bind]
  dsimp only
  cases last with
  | true =>
    rw [if_pos rfl, hout]
    rfl
  | false => rfl

/-- **A handled message feeds its frame to the stream of its sender**, and leaves the others alone. -/
theorem handle_ok (h : Deliverable m) :
    ∃ r' w, r.handle m = .ok (decide (m.kind ≠ .command), r', w) ∧ r'.gcPort = r.gcPort ∧
      (∀ peer fd dest m', Effect.sendto peer fd dest m' ∉ w) ∧
      ∀ id, assembly id w r' = (frameOf id m).toList.foldl Assembly.feed ⟨[], r.buffer id⟩ := by
  have htype : m.header.type = m.body.kind.tag := h.valid.type
  rw [handle, htype, Message.kind]
  cases hbody : m.body with
  | heartbeat alive =>
    refine ⟨r, [], rfl, rfl, by simp, fun id => ?_⟩
    rw [frameOf, hbody]
    rfl
  | ack received =>
    refine ⟨r, _, rfl, rfl, by simp, fun id => ?_⟩
    rw [frameOf, hbody]
    rfl
  | command x y z vx vy vz =>
    refine ⟨r, [], rfl, rfl, by simp, fun id => ?_⟩
    rw [frameOf, hbody]
    rfl
  | fileMsg data len last =>
    obtain ⟨hsize, hid, -⟩ := h.file data len last hbody
    obtain ⟨out, hout, hdump⟩ := handleFileDump_ok (r := r) h hbody
    have hkind : (Body.fileMsg data len last).kind = .fileMsg := rfl
    rw [hkind, if_pos rfl, assert_bind hsize]
    dsimp only
    rw [hdump]
    refine ⟨_, _, rfl, rfl, by cases last <;> simp, fun id => ?_⟩
    obtain ⟨out', hout', houtId, hchunks⟩ := Parser.dataDecoder_ok hid
      (r.buffer m.senderId ++ data.val.take len.toInt.toNat) true
    rw [hout] at hout'
    cases hout'
    rw [frameOf, hbody, assembly]
    dsimp only [store]
    by_cases hsender : m.senderId = id
    · subst hsender
      rw [if_pos rfl, Function.update_self]
      cases last with
      | true =>
        have hhanded : handed m.senderId (.output out) = some out.chunks := if_pos houtId
        rw [if_pos rfl, if_pos rfl, List.filterMap_cons, hhanded, hchunks]
        rfl
      | false => rfl
    · rw [if_neg hsender, Function.update_of_ne (Ne.symm hsender)]
      cases last with
      | true =>
        have hother : handed id (.output out) = none := by
          rw [handed, houtId]
          exact if_neg fun heq => hsender (congrArg UInt32.toInt32 heq)
        rw [if_pos rfl, List.filterMap_cons, hother]
        rfl
      | false => rfl

end

/-! ### What satellites send -/

/-- A message of a satellite: a heartbeat, a file message with as many bytes as it says, or an
acknowledgement, filled in by its sender. -/
structure FromSatellite (gcPort : Int32) (m : Message) : Prop where
  built : m = Message.build m.senderId m.senderPort m.body
  id : 0 < m.senderId
  port : 0 < m.senderPort
  port_ne : m.senderPort ≠ gcPort
  kind : m.kind ≠ .command
  len : ∀ data len last, m.body = .fileMsg data len last → 0 ≤ len ∧ len.toInt ≤ Config.FILE_CHUNK_SIZE

section
variable {gcPort : Int32} {m : Message}

theorem FromSatellite.valid (h : FromSatellite gcPort m) : m.Valid := by
  rw [h.built]
  exact Message.build_valid (Int32.le_of_lt h.id) h.port m.body

theorem FromSatellite.deliverable (h : FromSatellite gcPort m) : Deliverable m where
  valid := h.valid
  file data len last hbody := by
    refine ⟨?_, h.id, h.len data len last hbody⟩
    rw [h.built, hbody]
    rfl

end

end Receiver

end Constellation
