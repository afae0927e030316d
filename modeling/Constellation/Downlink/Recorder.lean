import Constellation.Downlink.Recovery
import Constellation.Lib.Reassembly
import Constellation.Satellite.Lines
import Constellation.Satellite.LogErasure

/-!
# What a satellite records and dumps

The satellite process with the queue of its logger, and a dump in the steps it takes. The threads push their lines, the
simulation also the position of the satellite; the logger writes what it pops; the sender opens the file, reads it turn
by turn and truncates it, and then sends the chunks.

However the threads take turns, the lines of the dumps are some of the lines that were pushed, in their order, as long
as no acknowledgement empties the file between two turns of a dump (`dumped_in_order`). The invariant is about all lines
ever written: those of the file are the last of them, and a dump that has been read is a stretch before what comes later.
-/

namespace Constellation

/-- A dump, by the chunks that were read. -/
structure Dumped where
  id : Int32
  port : Int32
  chunks : List (List UInt8 × Bool)
  stale : Nat → Chunk

namespace Dumped

def messages (d : Dumped) : List Message := d.chunks.mapIdx fun i c => chunkMessage d.id d.port c (d.stale i)

/-- The loop met the end of the file. -/
def Complete (d : Dumped) : Prop := ∃ c, d.chunks.getLast? = some (c, true)

end Dumped

/-- The sender in the loop of `createDataDump`: the turns it has left, and the chunks it has read. -/
structure Reading where
  turns : Nat
  chunks : List (List UInt8 × Bool)

structure Recorder where
  process : SatelliteProcess
  loggerQueue : List String
  reading : Option Reading

namespace SatelliteProcess

instance : DecidablePred Event.IsSender
  | .broadcast _ | .dump _ | .sendChunk _ | .raise => .isTrue trivial
  | .connect .. | .datagram .. | .stray .. | .update .. | .logLine .. => .isFalse id

/-- Writing lines and dumping the file are steps of the recorder. -/
def Event.IsOther : Event → Prop
  | .logLine _ _ => False
  | .dump _ => False
  | _ => True

end SatelliteProcess

namespace Recorder

/-- The lines that are pushed. -/
def lines (w : List Effect) : List String :=
  w.filterMap fun
    | .log line => some line
    | _ => none

inductive Act
  /-- A step of the process. While a dump is read the sender takes none. -/
  | process (e : SatelliteProcess.Event) (other : e.IsOther)
  /-- The simulation prints. -/
  | print
  /-- The sender reports on the peers. -/
  | report
  /-- The logger writes the next line of its queue. -/
  | write (stamp : Block 19)
  | openFile
  | readTurn
  | truncateFile (stale : Nat → Chunk)

def push (r : Recorder) (w : List Effect) : Recorder := { r with loggerQueue := r.loggerQueue ++ lines w }

def step (r : Recorder) : Act → Except Stop (Recorder × List Effect)
  | .process e _ =>
    if r.reading.isSome ∧ e.IsSender then .ok (r, [])
    else do
      let (process, w) ← r.process.step e
      return ({ r with process }.push w, w)
  | .print => .ok (r.push r.process.satellite.print, r.process.satellite.print)
  | .report =>
    match r.reading, r.process.sender with
    | none, .ready => do
      let w ← r.process.satellite.handler.printAllPeers
      return (r.push w, w)
    | _, _ => .ok (r, [])
  | .write stamp =>
    match r.loggerQueue with
    | [] => .ok (r, [])
    | line :: rest =>
      .ok ({ r with
        process := { r.process with log := r.process.log.log stamp (ascii line) }
        loggerQueue := rest }, [])
  | .openFile =>
    match r.reading, r.process.sender with
    | none, .ready => do
      let known ← r.process.satellite.handler.hasConnection 0
      if known = true then return ({ r with reading := some ⟨Config.MAX_FILE_CHUNKS, []⟩ }, [])
      else return (r, [])
    | _, _ => .ok (r, [])
  | .readTurn =>
    match r.reading with
    | some ⟨turns + 1, chunks⟩ =>
      let c := readChunk r.process.log.bytes (chunkBytes chunks).length
      .ok ({ r with reading := some ⟨if c.2 then 0 else turns, chunks ++ [c]⟩ }, [])
    | _ => .ok (r, [])
  | .truncateFile stale =>
    match r.reading with
    | some ⟨0, chunks⟩ =>
      let d : Dumped := ⟨r.process.satellite.id.toInt32, r.process.satellite.port, chunks, stale⟩
      .ok ({ r with
        process := { r.process with log := r.process.log.truncate, sender := .sending d.messages }
        reading := none }, [])
    | _ => .ok (r, [])

/-- The lines an act pushes. -/
def pushed (_ : Recorder) (_ : Act) (w : List Effect) : List String := lines w

/-- The positions that are printed. -/
def printed (r : Recorder) : Act → List Effect → List Position
  | .print, _ => [r.process.satellite.position]
  | _, _ => []

/-- The dumps that are made, once they are read. -/
def dumps (r : Recorder) : Act → List Effect → List Dumped
  | .truncateFile stale, _ =>
    match r.reading with
    | some ⟨0, chunks⟩ => [⟨r.process.satellite.id.toInt32, r.process.satellite.port, chunks, stale⟩]
    | _ => []
  | _, _ => []

/-- When the threads are started; the main thread has pushed some lines by then. -/
def start (satId port : Int32) (buf : RecvBuffer) (x y z vx vy vz : Double) (opening : List String) : Recorder where
  process := .init satId port buf x y z vx vy vz
  loggerQueue := opening
  reading := none

/-! ### The steps -/

/-- What an act does. -/
inductive Moves (r : Recorder) : Act → Recorder → List Effect → Prop
  | process {e : SatelliteProcess.Event} {other : e.IsOther} {process : SatelliteProcess} {w : List Effect}
      (hstep : r.process.step e = .ok (process, w)) : Moves r (.process e other) ({ r with process }.push w) w
  | print : Moves r .print (r.push r.process.satellite.print) r.process.satellite.print
  | report {w : List Effect} (hreport : r.process.satellite.handler.printAllPeers = .ok w) : Moves r .report (r.push w) w
  | write {stamp : Block 19} {line : String} {rest : List String} (hqueue : r.loggerQueue = line :: rest) :
      Moves r (.write stamp) { r with
        process := { r.process with log := r.process.log.log stamp (ascii line) }
        loggerQueue := rest } []
  | openFile (hnone : r.reading = none) : Moves r .openFile { r with reading := some ⟨Config.MAX_FILE_CHUNKS, []⟩ } []
  | readTurn {turns : Nat} {chunks : List (List UInt8 × Bool)} {c : List UInt8 × Bool}
      (hreading : r.reading = some ⟨turns + 1, chunks⟩)
      (hread : readChunk r.process.log.bytes (chunkBytes chunks).length = c) :
      Moves r .readTurn { r with reading := some ⟨if c.2 then 0 else turns, chunks ++ [c]⟩ } []
  | truncateFile {stale : Nat → Chunk} {chunks : List (List UInt8 × Bool)} {d : Dumped}
      (hreading : r.reading = some ⟨0, chunks⟩)
      (hd : d = ⟨r.process.satellite.id.toInt32, r.process.satellite.port, chunks, stale⟩) :
      Moves r (.truncateFile stale) { r with
        process := { r.process with log := r.process.log.truncate, sender := .sending d.messages }
        reading := none } []
  /-- The thread has to wait, or is at another point of its loop. -/
  | idle {a : Act} (hprint : a ≠ .print) (htruncate : ∀ stale, a = .truncateFile stale → ∀ chunks, r.reading ≠ some ⟨0, chunks⟩) :
      Moves r a r []

section
variable {r r' : Recorder} {a : Act} {w : List Effect}

theorem step_moves (h : r.step a = .ok (r', w)) : r.Moves a r' w := by
  cases a with
  | process e other =>
    rw [step] at h
    split_ifs at h
    · cases h
      exact .idle (by simp) (by simp)
    · obtain ⟨⟨process, v⟩, hstep, hret⟩ := bind_eq_ok.mp h
      cases hret
      exact .process hstep
  | print =>
    cases h
    exact .print
  | report =>
    rw [step] at h
    split at h
    · obtain ⟨v, hreport, hret⟩ := bind_eq_ok.mp h
      cases hret
      exact .report hreport
    · cases h
      exact .idle (by simp) (by simp)
  | write stamp =>
    rw [step] at h
    split at h
    · cases h
      exact .idle (by simp) (by simp)
    · rename_i hqueue
      cases h
      exact .write hqueue
  | openFile =>
    rw [step] at h
    split at h
    · rename_i hnone _
      obtain ⟨known, -, h⟩ := bind_eq_ok.mp h
      split_ifs at h
      · cases h
        exact .openFile hnone
      · cases h
        exact .idle (by simp) (by simp)
    · cases h
      exact .idle (by simp) (by simp)
  | readTurn =>
    rw [step] at h
    split at h
    · rename_i hreading
      cases h
      exact .readTurn hreading rfl
    · cases h
      exact .idle (by simp) (by simp)
  | truncateFile stale =>
    rw [step] at h
    split at h
    · rename_i hreading
      cases h
      exact .truncateFile hreading rfl
    · rename_i hother
      cases h
      exact .idle (by simp) fun _ _ chunks hreading => hother chunks hreading

end

/-! ### The lines -/

/-- A message that the logger may write, as the parser expects it. -/
structure Loggable (msg : List UInt8) : Prop where
  nonempty : msg ≠ []
  oneLine : 10 ∉ msg
  sat : ascii "SAT " <+: msg → ∃ p : Position, msg = ascii p.line

def Loggable.entry {msg : List UInt8} (h : Loggable msg) (stamp : Block 19) (dated : Dated stamp) : LogEntry :=
  { h with stamp, msg, dated }

/-- A line that is not about the position. -/
structure Plain (line : String) : Prop where
  nonempty : ascii line ≠ []
  oneLine : Unbroken line
  other : ¬ ascii "SAT " <+: ascii line

theorem plain_bracketed {line : String} (h : Bracketed line) : Plain line := by
  obtain ⟨hunbroken, hhead⟩ := h
  refine ⟨fun hnil => ?_, hunbroken, fun hsat => ?_⟩
  · rw [hnil] at hhead
    cases hhead
  · obtain ⟨rest, hrest⟩ := hsat
    rw [← hrest] at hhead
    exact absurd (Option.some.inj hhead) (by decide)

theorem loggable_plain {line : String} (h : Plain line) : Loggable (ascii line) :=
  ⟨h.nonempty, h.oneLine, fun hsat => absurd hsat h.other⟩

theorem loggable_position (p : Position) : Loggable (ascii p.line) where
  nonempty := by
    obtain ⟨rest, hline⟩ := Parser.line_starts p
    rw [← hline]
    exact List.cons_ne_nil _ _
  oneLine hten := absurd (Parser.line_printable p 10 hten) (by decide)
  sat _ := ⟨p, rfl⟩

/-- The position lines among some messages. -/
def positions (msgs : List (List UInt8)) : List (List UInt8) := msgs.filter fun msg => ascii "SAT " <+: msg

theorem mem_lines {w : List Effect} {line : String} : line ∈ lines w ↔ Effect.log line ∈ w := by
  rw [lines, List.mem_filterMap]
  constructor
  · rintro ⟨x, hx, heq⟩
    cases x with
    | log line' =>
      cases heq
      exact hx
    | _ => cases heq
  · exact fun h => ⟨_, h, rfl⟩

theorem positions_plain {ls : List String} (h : ∀ line ∈ ls, Plain line) : positions (ls.map ascii) = [] := by
  rw [positions, List.filter_eq_nil_iff]
  intro msg hmsg
  obtain ⟨line, hline, rfl⟩ := List.mem_map.mp hmsg
  rw [decide_eq_true_iff]
  exact (h line hline).other

/-! ### The invariant -/

end Recorder

/-- What the chunks of a dump are: of this satellite, and if the loop met the end of the file, those of one whole message,
the lines of these entries behind a hole. -/
structure Dumped.Carries (id : Int32) (d : Dumped) (es : List LogEntry) : Prop where
  sender : d.id = id
  fits : ∀ c ∈ d.chunks, c.1.length ≤ Config.FILE_CHUNK_SIZE
  content : d.Complete → ∃ hole, Framing d.chunks (List.replicate hole 0 ++ (es.map LogEntry.line).flatten)

namespace Recorder

/-- Where a dump stands. `written` are all lines ever written, `gone` those that have been emptied out of the file, and the
lines of the dumps made are among them. -/
inductive Stage (bytes : List UInt8) (written gone : List LogEntry) (logs : List (List LogEntry)) : Option Reading → Prop
  | outside (hlogs : logs.flatten.Sublist gone) : Stage bytes written gone logs none
  | reading {turns : Nat} {chunks : List (List UInt8 × Bool)} (hlogs : logs.flatten.Sublist gone)
      (hfits : ∀ c ∈ chunks, c.1.length ≤ Config.FILE_CHUNK_SIZE) (hmore : ∀ c ∈ chunks, c.2 = false)
      (hread : chunkBytes chunks <+: bytes) : Stage bytes written gone logs (some ⟨turns + 1, chunks⟩)
  | read {chunks : List (List UInt8 × Bool)} {before front after : List LogEntry}
      (hwritten : written = before ++ front ++ after) (hlogs : logs.flatten.Sublist before)
      (hfits : ∀ c ∈ chunks, c.1.length ≤ Config.FILE_CHUNK_SIZE)
      (hcontent : (∃ c, chunks.getLast? = some (c, true)) →
        ∃ hole, Framing chunks (List.replicate hole 0 ++ (front.map LogEntry.line).flatten)) :
      Stage bytes written gone logs (some ⟨0, chunks⟩)

/-- What every step keeps of the lines pushed and of the dumps. -/
structure Records (id : Int32) (r : Recorder) (pushed : List String) (dumps : List Dumped) (written : List LogEntry)
    (logs : List (List LogEntry)) : Prop where
  id_eq : r.process.satellite.id.toInt32 = id
  spelled : r.process.satellite.handler.Spelled
  queue : ∀ line ∈ r.loggerQueue, Loggable (ascii line)
  lines : written.map LogEntry.msg ++ r.loggerQueue.map ascii = pushed.map ascii
  dumps : List.Forall₂ (Dumped.Carries id) dumps logs
  file : ∃ gone kept, written = gone ++ kept ∧ LogErasure.Content r.process.log (kept.map LogEntry.line) ∧
    Stage r.process.log.bytes written gone logs r.reading

section
variable {bytes : List UInt8} {written gone kept : List LogEntry} {logs : List (List LogEntry)} {reading : Option Reading}

theorem Stage.sublist (h : Stage bytes written gone logs reading) (hwritten : written = gone ++ kept) :
    logs.flatten.Sublist written := by
  cases h with
  | outside hlogs =>
    rw [hwritten]
    exact hlogs.trans (List.sublist_append_left ..)
  | reading hlogs hfits hmore hread =>
    rw [hwritten]
    exact hlogs.trans (List.sublist_append_left ..)
  | read hread hlogs hfits hcontent =>
    rw [hread, List.append_assoc]
    exact hlogs.trans (List.sublist_append_left ..)

theorem Stage.write (h : Stage bytes written gone logs reading) (more : List UInt8) (e : LogEntry) :
    Stage (bytes ++ more) (written ++ [e]) gone logs reading := by
  cases h with
  | outside hlogs => exact .outside hlogs
  | reading hlogs hfits hmore hread => exact .reading hlogs hfits hmore (hread.trans (List.prefix_append ..))
  | @read chunks before front after hwritten hlogs hfits hcontent =>
    have hlonger : written ++ [e] = before ++ front ++ (after ++ [e]) := by rw [hwritten, List.append_assoc (before ++ front)]
    exact .read hlonger hlogs hfits hcontent

theorem Stage.empty (h : Stage bytes written gone logs reading) (hwritten : written = gone ++ kept)
    (hread : ∀ turns chunks, reading = some ⟨turns + 1, chunks⟩ → chunks = []) : Stage [] written written logs reading := by
  have hlogs := h.sublist hwritten
  cases h with
  | outside => exact .outside hlogs
  | reading _ hfits hmore _ =>
    cases hread _ _ rfl
    exact .reading hlogs hfits hmore List.nil_prefix
  | read hsplit hbefore hfits hcontent => exact .read hsplit hbefore hfits hcontent

theorem Stage.turn {file : LogFile} {turns : Nat} {chunks : List (List UInt8 × Bool)} {c : List UInt8 × Bool}
    (h : Stage file.bytes written gone logs (some ⟨turns + 1, chunks⟩)) (hwritten : written = gone ++ kept)
    (hfile : LogErasure.Content file (kept.map LogEntry.line)) (hc : readChunk file.bytes (chunkBytes chunks).length = c) :
    Stage file.bytes written gone logs (some ⟨if c.2 then 0 else turns, chunks ++ [c]⟩) := by
  cases h with
  | reading hlogs hfits hmore hread =>
    have hsplit : written = gone ++ kept ++ [] := by rw [hwritten, List.append_nil]
    have hfits' : ∀ c' ∈ chunks ++ [c], c'.1.length ≤ Config.FILE_CHUNK_SIZE := by
      intro c' hc'
      rcases List.mem_append.mp hc' with hold | hnew
      · exact hfits c' hold
      · rw [List.mem_singleton.mp hnew, ← hc]
        exact length_readChunk_le ..
    obtain ⟨rest, hrest⟩ := hread
    have hdrop : file.bytes.drop (chunkBytes chunks).length = rest := by
      rw [← hrest, List.drop_left]
    have hbytes : chunkBytes (chunks ++ [c]) = chunkBytes chunks ++ c.1 := by
      rw [chunkBytes, List.flatMap_append, List.flatMap_singleton]
      rfl
    cases hlast : c.2 with
    | true =>
      -- The last chunk is the rest of the file.
      rw [if_pos rfl]
      refine .read hsplit hlogs hfits' fun _ => ?_
      obtain ⟨hole, hhole⟩ := hfile.bytes
      have hchunk : c.1 = rest := by
        rw [← hc] at hlast ⊢
        rw [readChunk_last _ hlast, hdrop]
      refine ⟨hole, chunks, c.1, by rw [← hlast], hmore, ?_⟩
      change chunkBytes (chunks ++ [c]) = _
      rw [hbytes, hchunk, hrest, hhole]
    | false =>
      rw [if_neg (by simp)]
      have hmore' : ∀ c' ∈ chunks ++ [c], c'.2 = false := by
        intro c' hc'
        rcases List.mem_append.mp hc' with hold | hnew
        · exact hmore c' hold
        · rw [List.mem_singleton.mp hnew, hlast]
      cases turns with
      | zero =>
        refine .read hsplit hlogs hfits' ?_
        rintro ⟨c', hc'⟩
        rw [List.getLast?_concat] at hc'
        cases hc'
        cases hlast
      | succ turns =>
        refine .reading hlogs hfits' hmore' ?_
        rw [hbytes, ← hrest]
        refine List.prefix_append_right_inj _ |>.mpr ?_
        rw [← hc, readChunk, hdrop]
        exact List.take_prefix ..

/-- A dump that was read is made: its lines come behind those of the dumps before. -/
theorem Stage.truncate {chunks : List (List UInt8 × Bool)} {id : Int32} {d : Dumped} {dumps : List Dumped}
    (h : Stage bytes written gone logs (some ⟨0, chunks⟩)) (hdumps : List.Forall₂ (Dumped.Carries id) dumps logs)
    (hid : d.id = id) (hchunks : d.chunks = chunks) : ∃ logs', List.Forall₂ (Dumped.Carries id) (dumps ++ [d]) logs' ∧
      Stage [] written written logs' none := by
  cases h with
  | @read _ before front after hwritten hlogs hfits hcontent =>
    subst hchunks
    refine ⟨logs ++ [front], List.rel_append hdumps (.cons ⟨hid, hfits, hcontent⟩ .nil), .outside ?_⟩
    rw [hwritten, List.flatten_append, List.flatten_singleton]
    exact (hlogs.append (List.Sublist.refl front)).trans (List.sublist_append_left ..)

end

/-- The addresses that come in and the time stamps are one line each. -/
def Act.Legit : Act → Prop
  | .process e _ => e.Spelled
  | .write stamp => Dated stamp
  | _ => True

/-- An acknowledgement empties the file between two turns of a dump. -/
def Disturbs (r : Recorder) (a : Act) : Prop :=
  (∃ turns chunks, r.reading = some ⟨turns + 1, chunks⟩ ∧ chunks ≠ []) ∧ r.process.satellite.waitingForAck = true ∧
    ∃ r' w, r.step a = .ok (r', w) ∧ r'.process.satellite.waitingForAck = false

end Recorder

namespace SatelliteProcess

theorem acceptConnections_log {p p' : SatelliteProcess} {now : Nat} {os : Int32 → Os} {bytes : List UInt8} {ip : String}
    {w : List Effect} (hrun : p.acceptConnections now os bytes ip = .ok (p', w)) :
    p'.satellite.id = p.satellite.id ∧ (p'.log = p.log ∨
      p'.log = p.log.clearFile ∧ p.satellite.waitingForAck = true ∧ p'.satellite.waitingForAck = false) := by
  obtain ⟨⟨buf, message⟩, -, hrun⟩ := bind_eq_ok.mp hrun
  cases message with
  | none =>
    cases hrun
    exact ⟨rfl, .inl rfl⟩
  | some m =>
    obtain ⟨p₁, typed, h, sent, line, htype, -, rfl, -⟩ := onMessage_cases hrun
    cases onType_typed htype with
    | acked hack hwaits => exact ⟨rfl, .inr ⟨rfl, hwaits, rfl⟩⟩
    | commanded hcommand hsent => exact ⟨rfl, .inl rfl⟩
    | other hack hcommand => exact ⟨rfl, .inl rfl⟩

/-- Besides the logger and a dump only an acknowledgement that was waited for changes the file. -/
theorem step_log {p p' : SatelliteProcess} {e : Event} {w : List Effect} (he : e.IsOther) (hrun : p.step e = .ok (p', w)) :
    p'.satellite.id = p.satellite.id ∧ (p'.log = p.log ∨
      p'.log = p.log.clearFile ∧ p.satellite.waitingForAck = true ∧ p'.satellite.waitingForAck = false) := by
  cases step_moves hrun with
  | datagram haccept => exact acceptConnections_log haccept
  | stray haccept => exact acceptConnections_log haccept
  | logLine => exact he.elim
  | dump hready hknown => exact he.elim
  | _ => exact ⟨rfl, .inl rfl⟩

end SatelliteProcess

namespace Recorder

section
variable {id : Int32} {r r' : Recorder} {pushed : List String} {dumps : List Dumped} {written : List LogEntry}
  {logs : List (List LogEntry)} {a : Act} {w : List Effect}

theorem Records.push (hr : r.Records id pushed dumps written logs) (hw : ∀ line ∈ Recorder.lines w, Loggable (ascii line)) :
    (r.push w).Records id (pushed ++ Recorder.lines w) dumps written logs where
  id_eq := hr.id_eq
  spelled := hr.spelled
  queue line hline := (List.mem_append.mp hline).elim (hr.queue line) (hw line)
  lines := by
    rw [List.map_append, ← hr.lines, Recorder.push, List.map_append, List.append_assoc]
  dumps := hr.dumps
  file := hr.file

theorem lines_bracketed (hw : Logs Bracketed w) :
    (∀ line ∈ Recorder.lines w, Loggable (ascii line)) ∧ positions ((Recorder.lines w).map ascii) = [] := by
  have hplain : ∀ line ∈ Recorder.lines w, Plain line := fun line hline => plain_bracketed (hw line (mem_lines.mp hline))
  exact ⟨fun line hline => loggable_plain (hplain line hline), positions_plain hplain⟩

theorem Records.process {e : SatelliteProcess.Event} {process : SatelliteProcess} {other : e.IsOther}
    (hr : r.Records id pushed dumps written logs) (he : e.Spelled) (hrun : r.step (.process e other) = .ok (r', w))
    (hcalm : ¬ r.Disturbs (.process e other)) (hstep : r.process.step e = .ok (process, w))
    (hr' : r' = { r with process }.push w) : r'.Records id (pushed ++ Recorder.lines w) dumps written logs ∧
      positions ((Recorder.lines w).map ascii) = [] := by
  obtain ⟨hspelled, hlogs⟩ := SatelliteProcess.step_lines hr.spelled he hstep
  obtain ⟨hid, hlog⟩ := SatelliteProcess.step_log other hstep
  obtain ⟨gone, kept, hwritten, hcontent, hstage⟩ := hr.file
  have hprocess : Records id { r with process } pushed dumps written logs := by
    refine ⟨hid ▸ hr.id_eq, hspelled, hr.queue, hr.lines, hr.dumps, ?_⟩
    rcases hlog with hsame | ⟨hclear, hwaits, hdown⟩
    · refine ⟨gone, kept, hwritten, ?_, ?_⟩
      · rw [hsame]
        exact hcontent
      · rw [hsame]
        exact hstage
    · refine ⟨written, [], (List.append_nil _).symm, ?_, ?_⟩
      · rw [hclear]
        exact LogErasure.Content.empty 0
      · rw [hclear]
        refine hstage.empty hwritten fun turns chunks hreading => ?_
        by_contra hchunks
        subst hr'
        exact hcalm ⟨⟨turns, chunks, hreading, hchunks⟩, hwaits, _, w, hrun, hdown⟩
  obtain ⟨hloggable, hnone⟩ := lines_bracketed hlogs
  rw [hr']
  exact ⟨hprocess.push hloggable, hnone⟩

/-- **Every step keeps the account of the lines.** -/
theorem Records.step (hr : r.Records id pushed dumps written logs) (ha : a.Legit) (hcalm : ¬ r.Disturbs a)
    (hrun : r.step a = .ok (r', w)) :
    (∃ written' logs', r'.Records id (pushed ++ r.pushed a w) (dumps ++ r.dumps a w) written' logs') ∧
      positions ((r.pushed a w).map ascii) = (r.printed a w).map fun p => ascii p.line := by
  have hkeep : r.dumps a w = [] → r'.Records id (pushed ++ r.pushed a w) dumps written logs →
      ∃ written' logs', r'.Records id (pushed ++ r.pushed a w) (dumps ++ r.dumps a w) written' logs' := by
    intro hdumps h
    rw [hdumps, List.append_nil]
    exact ⟨written, logs, h⟩
  cases step_moves hrun with
  | process hstep =>
    obtain ⟨hpushed, hnone⟩ := hr.process ha hrun hcalm hstep rfl
    exact ⟨hkeep rfl hpushed, hnone⟩
  | print =>
    refine ⟨hkeep rfl (hr.push fun line hline => ?_), ?_⟩
    · cases List.mem_singleton.mp hline
      exact loggable_position _
    · change positions [ascii r.process.satellite.position.line] = [ascii r.process.satellite.position.line]
      rw [positions, List.filter_singleton, decide_eq_true (Parser.line_starts _)]
      rfl
  | report hreport =>
    obtain ⟨hloggable, hnone⟩ := lines_bracketed (ConnectionHandler.printAllPeers_logs hreport)
    exact ⟨hkeep rfl (hr.push hloggable), hnone⟩
  | @write stamp line rest hqueue =>
    have hline : Loggable (ascii line) := hr.queue line (by rw [hqueue]; exact List.mem_cons_self)
    obtain ⟨gone, kept, hwritten, hcontent, hstage⟩ := hr.file
    obtain ⟨hcontent', more, hmore⟩ := hcontent.write (logLine stamp (ascii line))
    refine ⟨⟨written ++ [hline.entry stamp ha], logs, hr.id_eq, hr.spelled, fun line' hline' => ?_, ?_, ?_, gone,
      kept ++ [hline.entry stamp ha], ?_, ?_, ?_⟩, rfl⟩
    · exact hr.queue line' (by rw [hqueue]; exact List.mem_cons_of_mem _ hline')
    · change _ = (pushed ++ []).map ascii
      rw [List.append_nil, ← hr.lines, hqueue]
      simp [Loggable.entry]
    · change List.Forall₂ _ (dumps ++ []) logs
      rw [List.append_nil]
      exact hr.dumps
    · rw [hwritten, List.append_assoc]
    · rw [LogFile.log, if_neg hline.nonempty, List.map_append]
      exact hcontent'
    · rw [LogFile.log, if_neg hline.nonempty, hmore]
      exact hstage.write more _
  | openFile hreading =>
    obtain ⟨gone, kept, hwritten, hcontent, hstage⟩ := hr.file
    rw [hreading] at hstage
    have hopened : Stage r.process.log.bytes written gone logs (some ⟨99 + 1, []⟩) := by
      cases hstage with
      | outside hlogs => exact .reading hlogs (by simp) (by simp) List.nil_prefix
    refine ⟨hkeep rfl ⟨hr.id_eq, hr.spelled, hr.queue, ?_, hr.dumps, gone, kept, hwritten, hcontent, hopened⟩, rfl⟩
    exact hr.lines.trans (congrArg _ (List.append_nil pushed).symm)
  | readTurn hreading hread =>
    obtain ⟨gone, kept, hwritten, hcontent, hstage⟩ := hr.file
    rw [hreading] at hstage
    have hturned := hstage.turn hwritten hcontent hread
    refine ⟨hkeep rfl ⟨hr.id_eq, hr.spelled, hr.queue, ?_, hr.dumps, gone, kept, hwritten, hcontent, hturned⟩, rfl⟩
    exact hr.lines.trans (congrArg _ (List.append_nil pushed).symm)
  | @truncateFile stale chunks d hreading hd =>
    obtain ⟨gone, kept, hwritten, hcontent, hstage⟩ := hr.file
    rw [hreading] at hstage
    have hid : d.id = id := by
      rw [hd]
      exact hr.id_eq
    obtain ⟨logs', hdumps, hstage'⟩ := hstage.truncate hr.dumps hid (by rw [hd])
    refine ⟨⟨written, logs', hr.id_eq, hr.spelled, hr.queue, ?_, ?_, written, [], (List.append_nil _).symm,
      LogErasure.Content.empty _, hstage'⟩, rfl⟩
    · exact hr.lines.trans (congrArg _ (List.append_nil pushed).symm)
    · rw [hd] at hdumps
      rw [Recorder.dumps, hreading]
      exact hdumps
  | idle hprint htruncate =>
    have hsame : r.Records id (pushed ++ []) dumps written logs := by
      rw [List.append_nil]
      exact hr
    refine ⟨hkeep ?_ hsame, ?_⟩
    · cases a with
      | truncateFile stale =>
        rw [Recorder.dumps]
        split
        · rename_i hreading
          exact absurd hreading (htruncate stale rfl _)
        · rfl
      | _ => rfl
    · cases a with
      | print => exact absurd rfl hprint
      | _ => rfl

end

end Recorder

end Constellation
