import Constellation.GroundControl.Receiver
import Constellation.Lib.Decimal
import Constellation.Protocol.Layout
import Constellation.Satellite.Process

/-!
# What the program emits of uninitialised memory

Every function that sends a message fills in a local struct, and `Logger::log` formats the time into a
local array; what they emit is a function of what memory held there before (`Emission.emit`). Of the
structs only that of `PeerConnection::connect` is declared with `{}`: every other one is sent with the
padding of its header, which no assignment reaches, and a file message also with what lay behind a
short read. The array has 19 bytes, one less than a time stamp with a year of four digits and its
terminator take, and `strftime` then leaves it indeterminate; all of it is written just for a year of
three characters (`Emission.emit_determined_iff`).
-/

namespace Constellation

/-! ### The message structs -/

namespace Satellite

/-- The struct of `createHeartbeatMessage`. -/
def heartbeatLocal (s : Satellite) : Local where
  kind := .heartbeat
  zeroed := false
  members := [.type MessageType.heartbeat.tag, .size MessageType.heartbeat.sizeof, .senderId s.id.toInt32,
    .senderPort s.port, .alive true]

/-- The struct of one turn of the loop of `createDataDump`. The vector takes a copy of all of it. -/
def dumpLocal (s : Satellite) (c : List UInt8 × Bool) : Local where
  kind := .fileMsg
  zeroed := false
  members := [.type MessageType.fileMsg.tag, .senderId s.id.toInt32, .senderPort s.port, .data c.1,
    .len (Int16.ofNat c.1.length), .last c.2, .size MessageType.fileMsg.sizeof]

end Satellite

/-- The struct of `Receiver::ack`. -/
def Receiver.ackLocal (r : Receiver) : Local where
  kind := .ack
  zeroed := false
  members := [.size MessageType.ack.sizeof, .type MessageType.ack.tag, .senderId 0, .senderPort r.gcPort, .received true]

/-- The struct of `NetworkManager::ack`. -/
def SatelliteProcess.ackLocal (p : SatelliteProcess) : Local where
  kind := .ack
  zeroed := false
  members := [.size MessageType.ack.sizeof, .type MessageType.ack.tag, .senderId p.satId,
    .senderPort p.satellite.port, .received true]

/-- The struct of `sendCommand`. -/
def GCConnectionHandler.commandLocal (h : GCConnectionHandler) (com : CommandInput) : Local where
  kind := .command
  zeroed := false
  members := [.type MessageType.command.tag, .size MessageType.command.sizeof, .senderId 0, .senderPort h.gcPort,
    .x com.new_x, .y com.new_y, .z com.new_z, .vx com.new_vx, .vy com.new_vy, .vz com.new_vz]

/-- The struct of `Connection::connect`. -/
def Connection.greetingLocal (c : Connection) : Local where
  kind := .heartbeat
  zeroed := false
  members := [.senderId 0, .senderPort c.gcPort, .type MessageType.heartbeat.tag, .alive true,
    .size MessageType.heartbeat.sizeof]

/-- The struct of `PeerConnection::connect`. `Heartbeat m{}` is value-initialised, which by the standard zeroes its
padding as well; there are compilers that leave the padding as it was. -/
def PeerConnection.greetingLocal (p : PeerConnection) : Local where
  kind := .heartbeat
  zeroed := true
  members := [.type MessageType.heartbeat.tag, .size MessageType.heartbeat.sizeof, .senderId p.satId,
    .senderPort p.listeningPort, .alive true]

/-! ### The time stamp -/

/-- What `localtime_r` fills in. -/
structure Tm where
  /-- Years since 1900. -/
  tm_year : Int32
  tm_mon : Fin 12
  tm_mday : Fin 32
  tm_hour : Fin 24
  tm_min : Fin 60
  tm_sec : Fin 61

namespace Tm

def year (t : Tm) : Int := 1900 + t.tm_year.toInt

/-- `%Y`, the year as a decimal number. -/
def yearText (t : Tm) : String := Printed.minus (decide (t.year < 0)) ++ toString t.year.natAbs

/-- `%Y-%m-%d %H:%M:%S`. -/
def text (t : Tm) : String :=
  t.yearText ++ "-" ++ Printed.padded 2 (t.tm_mon + 1) ++ "-" ++ Printed.padded 2 t.tm_mday ++ " " ++
    Printed.padded 2 t.tm_hour ++ ":" ++ Printed.padded 2 t.tm_min ++ ":" ++ Printed.padded 2 t.tm_sec

example : (⟨126, 4, 8, 12, 30, 0⟩ : Tm).text = "2026-05-08 12:30:00" := by decide +kernel

end Tm

/-- What `strftime` writes into an array of `max` bytes: the text and a terminator, if they fit. Else it
leaves all of the array indeterminate. -/
def strftime (max : Nat) (text : String) : List Store :=
  if text.length < max then [⟨0, ascii text ++ [0]⟩] else []

/-- The array `timeStamp` of `Logger::log`, all of which is then copied. -/
def timeStamp (t : Tm) (mem : Memory) : Block 19 :=
  ⟨(mem.after (strftime 19 t.text)).load ⟨0, 19⟩, Memory.length_load (mem.after (strftime 19 t.text)) ⟨0, 19⟩⟩

/-! ### The emissions -/

/-- One run of a function that sends or writes what it built. What `{}` initialises is zeroed as the standard has it. -/
inductive Emission
  | heartbeat (s : Satellite)
  | dataDump (s : Satellite) (content : List UInt8)
  | groundAck (r : Receiver)
  | satelliteAck (p : SatelliteProcess)
  | command (h : GCConnectionHandler) (com : CommandInput)
  | groundConnect (c : Connection)
  | peerConnect (p : PeerConnection)
  /-- One turn of `Logger::log`. -/
  | log (is_open : Bool) (timeInfo : Tm) (msg : List UInt8)

namespace Emission

/-- The structs whose serialisations are sent. -/
def structs : Emission → List Local
  | heartbeat s => [s.heartbeatLocal]
  | dataDump s content => (fileChunks content).map s.dumpLocal
  | groundAck r => [r.ackLocal]
  | satelliteAck p => [p.ackLocal]
  | command h com => [h.commandLocal com]
  | groundConnect c => [c.greetingLocal]
  | peerConnect p => [p.greetingLocal]
  | log .. => []

/-- The lines that are written, by what the array held. -/
def lines : Emission → Memory → List (List UInt8)
  | log is_open timeInfo msg, mem =>
    if msg = [] then [] else if is_open then [logLine (timeStamp timeInfo mem) msg] else []
  | _, _ => []

/-- What is emitted, by what memory held where the local objects are. -/
def emit (e : Emission) (mem : Nat → Memory) : List (List UInt8) :=
  (e.structs.mapIdx fun i l => l.datagram (mem i)) ++ e.lines (mem 0)

end Emission

/-! ### The structs carry the messages of the model -/

section
variable (mem : Memory)

theorem Satellite.heartbeatLocal_sends (s : Satellite) : s.heartbeatLocal.datagram mem =
    (Message.build s.id.toInt32 s.port (.heartbeat true)).serialize (Local.stalePadding mem) :=
  Local.datagram_stale mem rfl rfl (.refl _)

theorem Receiver.ackLocal_sends (r : Receiver) :
    r.ackLocal.datagram mem = r.ackMessage.serialize (Local.stalePadding mem) :=
  Local.datagram_stale mem rfl rfl (.swap _ _ _)

theorem SatelliteProcess.ackLocal_sends (p : SatelliteProcess) : p.ackLocal.datagram mem =
    (Message.build p.satId p.satellite.port (.ack true)).serialize (Local.stalePadding mem) :=
  Local.datagram_stale mem rfl rfl (.swap _ _ _)

theorem GCConnectionHandler.commandLocal_sends (h : GCConnectionHandler) (com : CommandInput) :
    (h.commandLocal com).datagram mem = (h.commandMessage com).serialize (Local.stalePadding mem) :=
  Local.datagram_stale mem rfl rfl (.refl _)

theorem Connection.greetingLocal_sends (c : Connection) :
    c.greetingLocal.datagram mem = c.greeting.serialize (Local.stalePadding mem) := by
  apply Local.datagram_stale mem rfl rfl
  have hids : ([.senderId 0, .senderPort c.gcPort] ++
      [.type MessageType.heartbeat.tag, .alive true, .size MessageType.heartbeat.sizeof] : List Assignment).Perm
      ([.type MessageType.heartbeat.tag, .alive true, .size MessageType.heartbeat.sizeof] ++
        [.senderId 0, .senderPort c.gcPort]) := List.perm_append_comm
  have halive : ([.alive true] ++
      [.size MessageType.heartbeat.sizeof, .senderId 0, .senderPort c.gcPort] : List Assignment).Perm
      ([.size MessageType.heartbeat.sizeof, .senderId 0, .senderPort c.gcPort] ++ [.alive true]) :=
    List.perm_append_comm
  exact hids.trans (halive.cons _)

theorem PeerConnection.greetingLocal_sends (p : PeerConnection) :
    p.greetingLocal.datagram mem = p.greeting.serialize ⟨[0, 0, 0], Message.length_zeroPad⟩ := by
  rw [Local.datagram_of_perm (m := p.greeting) mem rfl (.refl _), Local.padding_eq_zero _ rfl]

namespace Satellite

/-- The data array as memory held it. -/
def staleData (mem : Memory) : Chunk :=
  ⟨mem.load ⟨24, Config.FILE_CHUNK_SIZE⟩, Memory.length_load mem ⟨24, Config.FILE_CHUNK_SIZE⟩⟩

variable (s : Satellite) (c : List UInt8 × Bool)

theorem dumpLocal_apart : ((s.dumpLocal c).members.map Assignment.store).Pairwise Store.Apart := by
  rw [List.pairwise_map]
  simp [dumpLocal, Assignment.apart_iff, Assignment.off, Assignment.width, Config.FILE_CHUNK_SIZE]
  omega

theorem dumpLocal_stale {n : Nat} (hn : n = (c.1.take Config.FILE_CHUNK_SIZE).length) :
    (mem.after (s.dumpLocal c).stores).load ⟨24 + n, Config.FILE_CHUNK_SIZE - n⟩ = (staleData mem).val.drop n := by
  have hle : n ≤ Config.FILE_CHUNK_SIZE := hn ▸ List.length_take_le Config.FILE_CHUNK_SIZE c.1
  have hfirst : (staleData mem).val =
      mem.load ⟨24, n⟩ ++ mem.load ⟨24 + n, Config.FILE_CHUNK_SIZE - n⟩ := Memory.load_split mem 24 hle
  rw [hfirst, List.drop_left' (Memory.length_load mem ⟨24, n⟩)]
  apply Memory.load_eq_iff.mpr
  intro i hi
  apply Memory.after_uninitialised
  rintro ⟨t, ht, hhas⟩
  rw [Local.stores, List.mem_append] at ht
  rcases ht with ht | ht
  · simp [Local.zeroes, dumpLocal] at ht
  · obtain ⟨a, ha, rfl⟩ := List.mem_map.mp ht
    rw [Assignment.span_store] at hhas
    simp only [Span.Has] at hi hhas
    simp only [dumpLocal, List.mem_cons, List.not_mem_nil, or_false] at ha
    rcases ha with rfl | rfl | rfl | rfl | rfl | rfl | rfl <;>
      simp only [Assignment.off, Assignment.width, Config.FILE_CHUNK_SIZE] at hi hhas hn <;> omega

theorem dumpLocal_sends : (s.dumpLocal c).datagram mem =
    (chunkMessage s.id.toInt32 s.port c (staleData mem)).serialize (Local.stalePadding mem) := by
  have hapart := s.dumpLocal_apart c
  rw [← Local.padding_eq_stale (s.dumpLocal c) rfl]
  apply Local.datagram_eq_serialize mem hapart rfl
  · intro a ha
    simp only [chunkMessage, Message.commonMembers, Message.build, List.mem_cons, List.not_mem_nil, or_false] at ha
    rcases ha with rfl | rfl | rfl | rfl <;> simp [dumpLocal, Body.kind]
  · have hdata := Local.load_member mem hapart (show .data c.1 ∈ (s.dumpLocal c).members by simp [dumpLocal])
    have hlen := Local.load_member mem hapart
      (show .len (Int16.ofNat c.1.length) ∈ (s.dumpLocal c).members by simp [dumpLocal])
    have hlast := Local.load_member mem hapart (show .last c.2 ∈ (s.dumpLocal c).members by simp [dumpLocal])
    simp only [Assignment.off, Assignment.width, Assignment.bytes] at hdata hlen hlast
    have hle := List.length_take_le Config.FILE_CHUNK_SIZE c.1
    have harray : (mem.after (s.dumpLocal c).stores).load ⟨24, Config.FILE_CHUNK_SIZE⟩ =
        (chunkArray c.1 (staleData mem)).val := by
      rw [Memory.load_split _ 24 hle, hdata, s.dumpLocal_stale mem c rfl]
      rfl
    show Memory.copy _ MessageType.fileMsg.bodySpans = Pod.bytes (chunkArray c.1 (staleData mem)) ++ _
    simp only [MessageType.bodySpans, Memory.copy, List.flatMap_cons, List.flatMap_nil, List.append_nil, harray, hlen,
      hlast]
    rfl

end Satellite

end

namespace Emission

/-- The messages of the model that are sent. -/
def messages : Emission → (Nat → Memory) → List Message
  | heartbeat s, _ => [.build s.id.toInt32 s.port (.heartbeat true)]
  | dataDump s content, mem => s.createDataDump content fun i => Satellite.staleData (mem i)
  | groundAck r, _ => [r.ackMessage]
  | satelliteAck p, _ => [.build p.satId p.satellite.port (.ack true)]
  | command h com, _ => [h.commandMessage com]
  | groundConnect c, _ => [c.greeting]
  | peerConnect p, _ => [p.greeting]
  | log .., _ => []

/-- The padding they are sent with. -/
def pad : Emission → Memory → Block 3
  | peerConnect _, _ => ⟨[0, 0, 0], Message.length_zeroPad⟩
  | _, mem => Local.stalePadding mem

/-- **What is sent are the messages of the model**, over the padding that memory held where the struct
was not zeroed. -/
theorem emit_eq (e : Emission) (mem : Nat → Memory) :
    e.emit mem = ((e.messages mem).mapIdx fun i m => m.serialize (e.pad (mem i))) ++ e.lines (mem 0) := by
  rw [emit]
  congr 1
  cases e with
  | dataDump s content =>
    simp only [structs, messages, pad, Satellite.createDataDump]
    apply List.ext_getElem
    · simp
    · intro i hi hi'
      simp only [List.getElem_mapIdx, List.getElem_map, s.dumpLocal_sends]
  | heartbeat s =>
    show [s.heartbeatLocal.datagram (mem 0)] = _
    rw [s.heartbeatLocal_sends]
    rfl
  | groundAck r =>
    show [r.ackLocal.datagram (mem 0)] = _
    rw [r.ackLocal_sends]
    rfl
  | satelliteAck p =>
    show [p.ackLocal.datagram (mem 0)] = _
    rw [p.ackLocal_sends]
    rfl
  | command h com =>
    show [(h.commandLocal com).datagram (mem 0)] = _
    rw [h.commandLocal_sends]
    rfl
  | groundConnect c =>
    show [c.greetingLocal.datagram (mem 0)] = _
    rw [c.greetingLocal_sends]
    rfl
  | peerConnect p =>
    show [p.greetingLocal.datagram (mem 0)] = _
    rw [p.greetingLocal_sends]
    rfl
  | log is_open t msg => rfl

theorem datagrams_determined_iff (ls : List Local) :
    (∀ mem mem' : Nat → Memory,
        (ls.mapIdx fun i l => l.datagram (mem i)) = ls.mapIdx fun i l => l.datagram (mem' i)) ↔
      ∀ l ∈ ls, l.zeroed = true := by
  constructor
  · intro hdet l hl
    obtain ⟨i, hi, rfl⟩ := List.getElem_of_mem hl
    apply (Local.determined_iff ls[i]).mp
    intro mem mem'
    have hsent := List.mapIdx_eq_mapIdx_iff.mp (hdet (fun _ => mem) fun _ => mem')
    exact hsent i hi
  · intro hzeroed mem mem'
    apply List.mapIdx_eq_mapIdx_iff.mpr
    intro i hi
    exact (Local.determined_iff ls[i]).mpr (hzeroed ls[i] (List.getElem_mem hi)) (mem i) (mem' i)

end Emission

/-! ### The length of a time stamp -/

namespace Tm

theorem length_ascii (s : String) : (ascii s).length = s.length := by
  rw [ascii, List.length_map, String.length_toList]

theorem length_padded {n : Nat} (hn : n < 100) : (Printed.padded 2 n).length = 2 := by
  obtain ⟨cs, hpadded, -, hlen, -⟩ := Scanf.padded_chars 2 (by decide) hn
  rw [hpadded, String.length_ofList, hlen]

variable (t : Tm)

theorem length_text : t.text.length = t.yearText.length + 15 := by
  have hmon : (Printed.padded 2 (t.tm_mon + 1)).length = 2 := length_padded (by omega)
  have hmday : (Printed.padded 2 t.tm_mday).length = 2 := length_padded (by omega)
  have hhour : (Printed.padded 2 t.tm_hour).length = 2 := length_padded (by omega)
  have hmin : (Printed.padded 2 t.tm_min).length = 2 := length_padded (by omega)
  have hsec : (Printed.padded 2 t.tm_sec).length = 2 := length_padded (by omega)
  simp only [text, String.length_append, hmon, hmday, hhour, hmin, hsec]
  rfl

theorem length_yearText : t.yearText.length = 3 ↔ (100 ≤ t.year ∧ t.year ≤ 999) ∨ (-99 ≤ t.year ∧ t.year ≤ -10) := by
  have hlen : (toString t.year.natAbs).length = (Nat.toDigits 10 t.year.natAbs).length := by
    rw [Nat.toString_eq_ofList_toDigits, String.length_ofList]
  have hone := Nat.length_toDigits_le_iff (n := t.year.natAbs) (k := 1) (b := 10) (by decide) (by decide)
  have htwo := Nat.length_toDigits_le_iff (n := t.year.natAbs) (k := 2) (b := 10) (by decide) (by decide)
  have hthree := Nat.length_toDigits_le_iff (n := t.year.natAbs) (k := 3) (b := 10) (by decide) (by decide)
  have hminus : (Printed.minus (decide (t.year < 0))).length = if t.year < 0 then 1 else 0 := by
    by_cases hneg : t.year < 0
    · simp only [hneg, decide_true, Printed.minus, if_pos]
      rfl
    · simp [Printed.minus, hneg]
  rw [yearText, String.length_append, hlen, hminus]
  split_ifs with hneg
  · omega
  · omega

end Tm

/-! ### What a line tells -/

section
variable (t : Tm) (mem mem' : Memory) (msg : List UInt8)

theorem logLine_inj {stamp stamp' : Block 19} : logLine stamp msg = logLine stamp' msg ↔ stamp = stamp' := by
  constructor
  · intro heq
    have hlen : stamp.val.length = stamp'.val.length := stamp.property.trans stamp'.property.symm
    exact Subtype.ext (List.append_inj (List.cons.inj heq).2 hlen).1
  · intro heq
    rw [heq]

/-- `strftime` determines the whole array exactly if text and terminator fill it. -/
theorem timeStamp_determined_iff : (∀ mem mem', timeStamp t mem = timeStamp t mem') ↔ t.text.length = 18 := by
  have hcopy : ∀ mem : Memory, (timeStamp t mem).val = (mem.after (strftime 19 t.text)).copy [⟨0, 19⟩] := by
    intro mem
    simp [timeStamp, Memory.copy]
  have hspan : ∀ s : Store, s = ⟨0, ascii t.text ++ [0]⟩ → s.span = ⟨0, t.text.length + 1⟩ := by
    rintro s rfl
    simp [Store.span, Tm.length_ascii]
  simp only [Subtype.ext_iff, hcopy]
  rw [Memory.determined_iff]
  constructor
  · intro hinit
    obtain ⟨s, hs, hhas⟩ := hinit ⟨0, 19⟩ (List.mem_singleton.mpr rfl) 18 (by decide)
    rw [strftime] at hs
    split_ifs at hs with hfits
    · rw [hspan s (List.mem_singleton.mp hs)] at hhas
      simp only [Span.Has] at hhas
      omega
    · exact absurd hs List.not_mem_nil
  · intro hlen p hp i hi
    rw [List.mem_singleton.mp hp] at hi
    refine ⟨⟨0, ascii t.text ++ [0]⟩, ?_, ?_⟩
    · rw [strftime, if_pos (by omega)]
      exact List.mem_singleton.mpr rfl
    · rw [hspan _ rfl, hlen]
      exact hi

theorem log_eq_lines (f : LogFile) :
    f.log (timeStamp t mem) msg = ((Emission.log true t msg).lines mem).foldl LogFile.write f := by
  rw [LogFile.log, Emission.lines]
  by_cases hmsg : msg = []
  · rw [if_pos hmsg, if_pos hmsg]
    rfl
  · rw [if_neg hmsg, if_neg hmsg]
    rfl

end

namespace Emission

/-- The runs that initialise all they emit. -/
def Initialises : Emission → Prop
  | peerConnect _ => True
  | log is_open timeInfo msg => msg = [] ∨ is_open = false ∨
      (100 ≤ timeInfo.year ∧ timeInfo.year ≤ 999) ∨ (-99 ≤ timeInfo.year ∧ timeInfo.year ≤ -10)
  | _ => False

theorem lines_determined_iff (is_open : Bool) (t : Tm) (msg : List UInt8) :
    (∀ mem mem', (log is_open t msg).lines mem = (log is_open t msg).lines mem') ↔ (log is_open t msg).Initialises := by
  rw [Initialises, ← Tm.length_yearText]
  have hyear : t.text.length = 18 ↔ t.yearText.length = 3 := by
    rw [Tm.length_text]
    omega
  by_cases hmsg : msg = []
  · simp [lines, hmsg]
  · cases is_open with
    | false => simp [lines]
    | true =>
      simp only [lines, if_neg hmsg, if_true, List.cons.injEq, and_true, logLine_inj, timeStamp_determined_iff, hyear]
      simp [hmsg]

/-- **What a datagram or a line shows of uninitialised memory.** -/
theorem emit_determined_iff (e : Emission) : (∀ mem mem' : Nat → Memory, e.emit mem = e.emit mem') ↔ e.Initialises := by
  have hsent : e.lines = (fun _ => []) →
      ((∀ mem mem' : Nat → Memory, e.emit mem = e.emit mem') ↔ ∀ l ∈ e.structs, l.zeroed = true) := by
    intro hlines
    simp only [emit, hlines, List.append_nil]
    exact datagrams_determined_iff e.structs
  cases e with
  | dataDump s content =>
    have hread : readChunk content 0 ∈ readChunks content (99 + 1) 0 := by
      rw [readChunks]
      exact List.mem_cons_self
    have hfirst : s.dumpLocal (readChunk content 0) ∈ (dataDump s content).structs := List.mem_map_of_mem hread
    rw [hsent rfl]
    constructor
    · intro hzeroed
      exact absurd (hzeroed _ hfirst) (by simp [Satellite.dumpLocal])
    · intro hfalse
      exact False.elim hfalse
  | log is_open t msg =>
    rw [← lines_determined_iff]
    constructor
    · intro hdet mem mem'
      exact hdet (fun _ => mem) fun _ => mem'
    · intro hdet mem mem'
      exact hdet (mem 0) (mem' 0)
  | heartbeat s => simp [hsent rfl, structs, Initialises, Satellite.heartbeatLocal]
  | groundAck r => simp [hsent rfl, structs, Initialises, Receiver.ackLocal]
  | satelliteAck p => simp [hsent rfl, structs, Initialises, SatelliteProcess.ackLocal]
  | command h com => simp [hsent rfl, structs, Initialises, GCConnectionHandler.commandLocal]
  | groundConnect c => simp [hsent rfl, structs, Initialises, Connection.greetingLocal]
  | peerConnect p => simp [hsent rfl, structs, Initialises, PeerConnection.greetingLocal]

/-- Ground control's answer and a line of 2026 each show what memory held. -/
theorem ack_and_line_show_memory :
    (groundAck ⟨fun _ => [], 8000⟩).emit (fun _ _ => 0) ≠ (groundAck ⟨fun _ => [], 8000⟩).emit (fun _ _ => 255) ∧
      (log true ⟨126, 4, 8, 12, 30, 0⟩ [97]).emit (fun _ _ => 0) ≠
        (log true ⟨126, 4, 8, 12, 30, 0⟩ [97]).emit (fun _ _ => 255) := by
  decide +kernel

end Emission

end Constellation
