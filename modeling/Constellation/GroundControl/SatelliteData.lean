import Constellation.Effect
import Constellation.Lib.Stop

/-!
# What ground control keeps of a satellite

The data object of a satellite: the values the terminal shows, and the lines queued for its logger. The
packet counters are natural numbers, as long as they fit an `int`.

The terminal's queue thread pops a result and, if it carries bytes, has the data object of its
satellite log them: `logData` cuts the bytes at the newlines and queues the lines. What stands behind
the last newline is dropped.
-/

namespace Constellation

open Scanf (Real64)

structure SatelliteData where
  id : UInt32
  x : Real64
  y : Real64
  z : Real64
  vx : Real64
  vy : Real64
  vz : Real64
  packetsReceived : Nat
  packetsSent : Nat
  alive : Bool
  loggerQueue : List (List UInt8)

namespace SatelliteData

/-- The constructor, where the log file can be opened. -/
def new (id : Int32) : SatelliteData where
  id := id.toUInt32
  x := .zero
  y := .zero
  z := .zero
  vx := .zero
  vy := .zero
  vz := .zero
  packetsReceived := 0
  packetsSent := 0
  alive := true
  loggerQueue := []

def updateVals (d : SatelliteData) (newx newy newz newvx newvy newvz : Real64) : SatelliteData :=
  { d with x := newx, y := newy, z := newz, vx := newvx, vy := newvy, vz := newvz }

def updatePackets (d : SatelliteData) (received sent : Nat) : SatelliteData :=
  { d with packetsReceived := d.packetsReceived + received, packetsSent := d.packetsSent + sent }

def markAlive (d : SatelliteData) (b : Bool) : Except Stop SatelliteData := do
  assert (0 < d.id) "id > 0"
  return { d with alive := b }

def getSatId (d : SatelliteData) : Except Stop Int32 := do
  assert (0 < d.id) "id > 0"
  return d.id.toInt32

/-- One character of the loop of `logData`, over the line collected and the lines queued. -/
def logChar (st : List UInt8 × List (List UInt8)) (c : UInt8) : List UInt8 × List (List UInt8) :=
  if c = 10 then ([], st.2 ++ [st.1]) else (st.1 ++ [c], st.2)

/-- The lines `logData` pushes on the queue of its logger. -/
def logData (lines : List UInt8) : List (List UInt8) := (lines.foldl logChar ([], [])).2

/-- What the queue thread has satellite `id` log of one result. -/
def onOutput (id : UInt32) (msg : SatOutput) : List (List UInt8) :=
  if msg.id = id ∧ msg.chunks ≠ [] then logData msg.chunks else []

end SatelliteData

/-- The lines of a text that end in a newline. -/
def terminatedLines (content : List UInt8) : List (List UInt8) := (content.splitOn 10).dropLast

namespace SatelliteData

theorem foldl_logChar (text line : List UInt8) (queued : List (List UInt8)) :
    (text.foldl logChar (line, queued)).2 ++ [(text.foldl logChar (line, queued)).1] =
      queued ++ List.splitOnPPrepend (· == 10) text line.reverse := by
  induction text generalizing line queued with
  | nil => rw [List.splitOnPPrepend_nil, List.reverse_reverse]; rfl
  | cons c text ih =>
    rw [List.foldl_cons]
    by_cases hc : c = 10
    · have hstep : logChar (line, queued) c = ([], queued ++ [line]) := if_pos hc
      rw [hstep, ih, List.splitOnPPrepend_cons_pos (by simpa using hc), List.reverse_reverse,
        List.append_assoc]
      rfl
    · have hstep : logChar (line, queued) c = (line ++ [c], queued) := if_neg hc
      rw [hstep, ih, List.splitOnPPrepend_cons_neg (by simpa using hc), List.reverse_append]
      rfl

/-- **`logData` queues the lines that end in a newline.** -/
theorem logData_eq (content : List UInt8) : logData content = terminatedLines content := by
  have hsplit := foldl_logChar content [] []
  rw [List.nil_append] at hsplit
  have hlines : content.splitOn 10 = (content.foldl logChar ([], [])).2 ++ [(content.foldl logChar ([], [])).1] :=
    hsplit.symm
  rw [terminatedLines, hlines, List.dropLast_concat]
  rfl

end SatelliteData

end Constellation
