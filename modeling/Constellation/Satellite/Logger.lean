import Constellation.Lib.File
import Constellation.Lib.Pod
import Constellation.Lib.Run
import Constellation.Lib.Text
import Constellation.Satellite.DataDump

/-!
# The log file of a satellite

Two streams write one file. The logger appends lines at an offset of its own; a dump reads the file
and then truncates it through a second stream, which does not move that offset; `clearFile` closes
the logger's stream and opens it again on an empty file. After a truncation the next line is
therefore written where the old content ended, behind a hole of zeros.

`LogHistory` says what the file should hold: the lines since it was last emptied (`kept`), and those
between the last opening of the stream and the last emptying (`earlier`), whose length is the length
of the hole. A dump reads what it should exactly when one of the two lists is empty and the file is
not longer than the dump's limit (`dump_reads_kept_iff`).
-/

namespace Constellation

structure LogFile where
  bytes : List UInt8
  /-- Where the logger's stream writes next. -/
  offset : Nat

/-- What one turn of `Logger::log` writes. The time stamp is an array of 19 bytes that `strftime`,
given no room for its terminator, leaves in an unspecified state. -/
def logLine (stamp : Block 19) (msg : List UInt8) : List UInt8 :=
  91 :: (stamp.val ++ (ascii "] : " ++ (msg ++ [10])))

namespace LogFile

/-- A stream opened on an emptied file. -/
def opened : LogFile := { bytes := [], offset := 0 }

def write (f : LogFile) (data : List UInt8) : LogFile where
  bytes := pwrite f.bytes f.offset data
  offset := f.offset + data.length

/-- One message of the queue; an empty one is skipped. -/
def log (f : LogFile) (stamp : Block 19) (msg : List UInt8) : LogFile :=
  if msg = [] then f else f.write (logLine stamp msg)

/-- `std::ofstream clear(filename, std::ios::trunc)`. -/
def truncate (f : LogFile) : LogFile := { f with bytes := [] }

/-- `Logger::clearFile`. -/
def clearFile (_ : LogFile) : LogFile := opened

end LogFile

/-- What happens to the log file. A dump is taken as a whole here. -/
inductive LogOp
  | log (stamp : Block 19) (msg : List UInt8)
  | dump
  | clear
  deriving DecidableEq

namespace LogOp

def apply (f : LogFile) : LogOp → LogFile
  | log stamp msg => f.log stamp msg
  | dump => f.truncate
  | clear => f.clearFile

end LogOp

/-- The file after some operations on a fresh log. -/
def fileAfter (ops : List LogOp) : LogFile := ops.foldl LogOp.apply .opened

/-- The lines written since the logger's stream was opened: before and since the file was last emptied. -/
structure LogHistory where
  earlier : List (List UInt8) := []
  kept : List (List UInt8) := []

namespace LogHistory

def note (h : LogHistory) : LogOp → LogHistory
  | .log stamp msg => if msg = [] then h else { h with kept := h.kept ++ [logLine stamp msg] }
  | .dump => { earlier := h.earlier ++ h.kept }
  | .clear => {}

end LogHistory

def historyOf (ops : List LogOp) : LogHistory := ops.foldl LogHistory.note {}

/-- No line was written before the file was last emptied, or none was written since: the content has
no hole. -/
def Whole (ops : List LogOp) : Prop := (historyOf ops).earlier = [] ∨ (historyOf ops).kept = []

/-! ### The content of the file -/

/-- How the file follows from the lines. -/
structure Reflects (h : LogHistory) (f : LogFile) : Prop where
  offset : f.offset = h.earlier.flatten.length + h.kept.flatten.length
  bytes_nil : h.kept = [] → f.bytes = []
  bytes : h.kept ≠ [] → f.bytes = List.replicate h.earlier.flatten.length 0 ++ h.kept.flatten
  lines : ∀ line ∈ h.earlier ++ h.kept, ∃ stamp msg, line = logLine stamp msg

section
variable {h : LogHistory} {f : LogFile}

theorem Reflects.write (hr : Reflects h f) (stamp : Block 19) (msg : List UInt8) :
    Reflects { h with kept := h.kept ++ [logLine stamp msg] } (f.write (logLine stamp msg)) where
  offset := by
    show f.offset + (logLine stamp msg).length =
      h.earlier.flatten.length + (h.kept ++ [logLine stamp msg]).flatten.length
    rw [hr.offset, List.flatten_append, List.length_append, List.flatten_singleton]
    omega
  bytes_nil hnil := by simp at hnil
  bytes _ := by
    show pwrite f.bytes f.offset (logLine stamp msg) = _
    by_cases hkept : h.kept = []
    · have hoffset : f.offset = h.earlier.flatten.length := by
        rw [hr.offset, hkept]
        rfl
      rw [hr.bytes_nil hkept, pwrite_empty, hoffset, hkept]
      simp
    · have hend : f.offset = f.bytes.length := by
        rw [hr.bytes hkept, hr.offset, List.length_append, List.length_replicate]
      rw [hend, pwrite_end, hr.bytes hkept, List.flatten_append, List.flatten_singleton, List.append_assoc]
  lines line hline := by
    rw [← List.append_assoc, List.mem_append, List.mem_singleton] at hline
    rcases hline with hline | rfl
    · exact hr.lines line hline
    · exact ⟨stamp, msg, rfl⟩

theorem Reflects.apply (hr : Reflects h f) (op : LogOp) : Reflects (h.note op) (op.apply f) := by
  cases op with
  | log stamp msg =>
    rw [LogHistory.note, LogOp.apply, LogFile.log]
    by_cases hmsg : msg = []
    · rw [if_pos hmsg, if_pos hmsg]
      exact hr
    · rw [if_neg hmsg, if_neg hmsg]
      exact hr.write stamp msg
  | dump =>
    refine ⟨?_, fun _ => rfl, fun hne => absurd rfl hne, fun line hline => ?_⟩
    · show f.offset = _
      rw [hr.offset, LogHistory.note, List.flatten_append, List.length_append]
      rfl
    · apply hr.lines line
      simpa [LogHistory.note] using hline
  | clear => exact ⟨rfl, fun _ => rfl, fun hne => absurd rfl hne, nofun⟩

theorem reflects_fileAfter (ops : List LogOp) : Reflects (historyOf ops) (fileAfter ops) := by
  induction ops using List.reverseRecOn with
  | nil => exact ⟨rfl, fun _ => rfl, fun hne => absurd rfl hne, nofun⟩
  | append_singleton ops op ih =>
    rw [historyOf, fileAfter, List.foldl_append, List.foldl_append]
    exact ih.apply op

theorem Reflects.heads (hr : Reflects h f) (hearlier : h.earlier ≠ []) (hkept : h.kept ≠ []) :
    (∃ rest, f.bytes = 0 :: rest) ∧ ∃ rest, h.kept.flatten = 91 :: rest := by
  obtain ⟨line, lines, hlines⟩ := List.exists_cons_of_ne_nil hearlier
  obtain ⟨line', lines', hlines'⟩ := List.exists_cons_of_ne_nil hkept
  obtain ⟨stamp, msg, rfl⟩ := hr.lines line (by rw [hlines]; simp)
  obtain ⟨stamp', msg', rfl⟩ := hr.lines line' (by rw [hlines']; simp)
  constructor
  · rw [hr.bytes hkept, hlines, List.flatten_cons, List.length_append, logLine, List.length_cons,
      Nat.add_right_comm, List.replicate_succ, List.cons_append]
    exact ⟨_, rfl⟩
  · rw [hlines', List.flatten_cons, logLine, List.cons_append]
    exact ⟨_, rfl⟩

/-- The content is what the history says exactly when there is no hole. -/
theorem Reflects.bytes_eq_iff (hr : Reflects h f) : f.bytes = h.kept.flatten ↔ h.earlier = [] ∨ h.kept = [] := by
  constructor
  · intro heq
    by_contra hhole
    rw [not_or] at hhole
    obtain ⟨⟨rest, hzero⟩, rest', hbracket⟩ := hr.heads hhole.1 hhole.2
    rw [hzero, hbracket] at heq
    cases heq
  · intro hwhole
    by_cases hkept : h.kept = []
    · rw [hr.bytes_nil hkept, hkept]
      rfl
    · rw [hr.bytes hkept, hwhole.resolve_right hkept]
      rfl

theorem Reflects.dumpBytes_eq_iff (hr : Reflects h f) :
    dumpBytes f.bytes = h.kept.flatten ↔ (h.earlier = [] ∨ h.kept = []) ∧
      h.kept.flatten.length ≤ Config.MAX_FILE_CHUNKS * Config.FILE_CHUNK_SIZE := by
  rw [dumpBytes_eq]
  constructor
  · intro heq
    refine ⟨?_, ?_⟩
    · by_contra hhole
      rw [not_or] at hhole
      obtain ⟨⟨rest, hzero⟩, rest', hbracket⟩ := hr.heads hhole.1 hhole.2
      rw [hzero, hbracket, show Config.MAX_FILE_CHUNKS * Config.FILE_CHUNK_SIZE = 102399 + 1 from rfl,
        List.take_succ_cons] at heq
      cases heq
    · rw [← heq]
      exact List.length_take_le ..
  · rintro ⟨hwhole, hlen⟩
    rw [hr.bytes_eq_iff.mpr hwhole]
    exact List.take_of_length_le hlen

end

/-- **What the dumps of a run read.** The file holds at each dump just the lines written since it was
last emptied if and only if it is whole then; and each dump reads just these lines if and only if
the file is moreover within the limit of a dump. -/
theorem dump_reads_kept_iff (ops : List LogOp) :
    (Along (fun pre op => op = .dump → (fileAfter pre).bytes = (historyOf pre).kept.flatten) ops ↔
        Along (fun pre op => op = .dump → Whole pre) ops) ∧
      (Along (fun pre op => op = .dump → dumpBytes (fileAfter pre).bytes = (historyOf pre).kept.flatten) ops ↔
        Along (fun pre op => op = .dump → Whole pre ∧ (historyOf pre).kept.flatten.length ≤
          Config.MAX_FILE_CHUNKS * Config.FILE_CHUNK_SIZE) ops) := by
  constructor
  · constructor
    · intro hread
      exact hread.mono fun pre op hop hdump => (reflects_fileAfter pre).bytes_eq_iff.mp (hop hdump)
    · intro hwhole
      exact hwhole.mono fun pre op hop hdump => (reflects_fileAfter pre).bytes_eq_iff.mpr (hop hdump)
  · constructor
    · intro hread
      exact hread.mono fun pre op hop hdump => (reflects_fileAfter pre).dumpBytes_eq_iff.mp (hop hdump)
    · intro hwhole
      exact hwhole.mono fun pre op hop hdump => (reflects_fileAfter pre).dumpBytes_eq_iff.mpr (hop hdump)

/-- A line, a dump that truncates it away, another line and another dump. -/
def twoDumps : List LogOp :=
  [.log ⟨List.replicate 19 48, rfl⟩ [97], .dump, .log ⟨List.replicate 19 48, rfl⟩ [98], .dump]

/-- The second dump reads a hole of zeros in front of its line. -/
theorem twoDumps_reads_hole :
    ¬ Along (fun pre op => op = .dump → dumpBytes (fileAfter pre).bytes = (historyOf pre).kept.flatten)
      twoDumps := by
  intro hread
  have hsecond := hread (twoDumps.take 3) .dump [] rfl rfl
  rw [dumpBytes_eq] at hsecond
  exact absurd hsecond (by decide)

end Constellation
