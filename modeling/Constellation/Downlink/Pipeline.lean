import Constellation.GroundControl.Receiver
import Constellation.GroundControl.SatelliteData
import Constellation.Satellite.Satellite

/-!
# The telemetry pipeline

Dumps of any number of satellites, as `createDataDump` makes them, go datagram by datagram through
`decode` and the handling part of the receiver (`digest`), in between other messages.

Whatever arrives, the receiver has reassembled each satellite's own stream of frames (`run_digest`):
this is the invariant over the interleaving, and it speaks of one satellite at a time. If the stream
of a satellite is that of its dumps, in order and complete, the receiver hands over their contents
(`dumps_survive`), because the frames of a dump are those of a whole message (`dump_framing`).
-/

namespace Constellation

/-- A datagram, by the message that was serialized. -/
structure Datagram where
  message : Message
  pad : Block 3

def Datagram.bytes (d : Datagram) : List UInt8 := d.message.serialize d.pad

namespace Receiver

/-- What the listener does with a datagram, without the connections: it decodes it and handles the
message. -/
def digest (s : Receiver × RecvBuffer) (datagram : List UInt8) :
    Except Stop ((Receiver × RecvBuffer) × List Effect) := do
  let (buf, message) ← receive s.2 datagram
  match message with
  | none => return ((s.1, buf), [])
  | some message =>
    let (_, r, effects) ← s.1.handle message
    return ((r, buf), effects)

/-- The frames satellite `id` has in a sequence of datagrams. -/
def framesOf (id : Int32) (ds : List Datagram) : List (Frame UInt8) := ds.filterMap fun d => frameOf id d.message

section
variable {d : Datagram} {ds : List Datagram}

theorem digest_ok (r : Receiver) (buf : RecvBuffer) (hd : Deliverable d.message) :
    ∃ r' w, digest (r, buf) d.bytes = .ok ((r', recvfrom buf d.bytes), w) ∧ r'.gcPort = r.gcPort ∧
      ∀ id, assembly id w r' = (frameOf id d.message).toList.foldl Assembly.feed ⟨[], r.buffer id⟩ := by
  obtain ⟨r', w, hhandle, hport, -, hfeed⟩ := handle_ok (r := r) hd
  refine ⟨r', w, ?_, hport, hfeed⟩
  rw [digest, Datagram.bytes, receive_serialize hd.valid, ok_bind]
  dsimp only
  rw [hhandle]
  rfl

theorem framesOf_snoc (id : Int32) (ds : List Datagram) (d : Datagram) :
    framesOf id (ds ++ [d]) = framesOf id ds ++ (frameOf id d.message).toList := by
  rw [framesOf, List.filterMap_append]
  cases hf : frameOf id d.message <;> simp [framesOf, hf]

/-- **After any datagrams the receiver has reassembled the stream of each satellite.** -/
theorem run_digest (gcPort : Int32) (buf : RecvBuffer) (hds : ∀ d ∈ ds, Deliverable d.message) :
    ∃ r buf' w, run digest (⟨fun _ => [], gcPort⟩, buf) (ds.map Datagram.bytes) = .ok ((r, buf'), w) ∧
      ∀ id, assembly id w r = reassemble (framesOf id ds) := by
  induction ds using List.reverseRecOn with
  | nil => exact ⟨_, _, _, rfl, fun _ => rfl⟩
  | append_singleton ds d ih =>
    obtain ⟨r, buf', w, hrun, hassembly⟩ := ih fun d' hd' => hds d' (List.mem_append_left _ hd')
    obtain ⟨r', w', hstep, -, hfeed⟩ := digest_ok r buf' (hds d (List.mem_append_right _ List.mem_cons_self))
    refine ⟨r', recvfrom buf' d.bytes, w ++ w', ?_, fun id => ?_⟩
    · rw [List.map_append]
      exact run_snoc_ok.mpr ⟨_, w, w', hrun, hstep, rfl⟩
    · rw [framesOf_snoc, reassemble, List.foldl_append]
      change _ = (frameOf id d.message).toList.foldl Assembly.feed (reassemble (framesOf id ds))
      rw [← hassembly, foldl_feed_delivered]
      change _ = (⟨_ ++ ((frameOf id d.message).toList.foldl Assembly.feed ⟨[], r.buffer id⟩).delivered,
        ((frameOf id d.message).toList.foldl Assembly.feed ⟨[], r.buffer id⟩).pending⟩ : Assembly UInt8)
      rw [← hfeed, assembly, List.filterMap_append]
      rfl

end

end Receiver

theorem Satellite.Utterance.deliverable {satId port : Int32} {m : Message} (hid : 0 < satId) (hport : 0 < port)
    (h : Satellite.Utterance satId port m) : Receiver.Deliverable m := by
  refine ⟨?_, fun data len last hbody => ⟨?_, ?_, h.len data len last hbody⟩⟩
  · rw [h.built]
    exact Message.build_valid (Int32.le_of_lt hid) hport m.body
  · rw [h.built, hbody]
    rfl
  · rw [h.built]
    exact hid

/-! ### Dumps -/

/-- A call of `createDataDump`: the satellite, the log file it reads, the bytes its messages leave
uninitialized. -/
structure Dump where
  satellite : Satellite
  content : List UInt8
  stale : Nat → Chunk

namespace Dump

def messages (d : Dump) : List Message := d.satellite.createDataDump d.content d.stale

/-- A dump of satellite `id`. -/
structure Of (id : Int32) (d : Dump) : Prop where
  id_pos : 0 < id
  id_eq : d.satellite.id.toInt32 = id
  port_pos : 0 < d.satellite.port

/-- The log file is below the limit of the loop. -/
def Small (d : Dump) : Prop := d.content.length < Config.MAX_FILE_CHUNKS * Config.FILE_CHUNK_SIZE

section
variable {id : Int32} {d : Dump} {m : Message}

theorem Of.utterance (hd : d.Of id) (hm : m ∈ d.messages) : Satellite.Utterance id d.satellite.port m :=
  Satellite.createDataDump_utterance hd.id_eq rfl d.content d.stale m hm

theorem Of.deliverable (hd : d.Of id) (hm : m ∈ d.messages) : Receiver.Deliverable m :=
  (hd.utterance hm).deliverable hd.id_pos hd.port_pos

theorem frameOf_chunkMessage {c : List UInt8 × Bool} (hc : c.1.length ≤ Config.FILE_CHUNK_SIZE) (port : Int32)
    (stale : Chunk) : Receiver.frameOf id (chunkMessage id port c stale) = some c := by
  have hsender : (chunkMessage id port c stale).senderId = id := rfl
  have hcarried := Satellite.carried_chunkMessage hc id port stale
  rw [Receiver.frameOf]
  change (if (chunkMessage id port c stale).senderId = id then
    some (Satellite.carried (chunkMessage id port c stale)) else none) = some c
  rw [if_pos hsender, hcarried]

theorem Of.frames (hd : d.Of id) : d.messages.filterMap (Receiver.frameOf id) = fileChunks d.content := by
  rw [messages, Satellite.createDataDump, hd.id_eq, List.mapIdx_eq_zipIdx_map, List.filterMap_map]
  have hchunk : ∀ p ∈ (fileChunks d.content).zipIdx,
      (Receiver.frameOf id ∘ fun p => chunkMessage id d.satellite.port p.1 (d.stale p.2)) p = some p.1 := by
    rintro ⟨c, i⟩ hp
    exact frameOf_chunkMessage (readChunks_length_le d.content _ _ c (List.fst_mem_of_mem_zipIdx hp)) _ _
  rw [List.filterMap_congr hchunk, List.filterMap_eq_map', List.zipIdx_map_fst]

/-- **The frames of a dump are those of one whole message, its file.** -/
theorem Small.framing (hsmall : d.Small) : Framing (fileChunks d.content) d.content := by
  obtain ⟨cs, c, hchunks, hflags, hbytes⟩ := fileChunks_spec d.content hsmall
  refine ⟨cs, c, hchunks, hflags, ?_⟩
  rw [hchunks]
  exact hbytes

end

end Dump

/-! ### A faithful channel -/

/-- The datagram carries a chunk of satellite `id`. -/
def Datagram.IsChunkOf (id : Int32) (d : Datagram) : Prop := d.message.kind = .fileMsg ∧ d.message.senderId = id

instance (id : Int32) (d : Datagram) : Decidable (d.IsChunkOf id) := inferInstanceAs (Decidable (_ ∧ _))

/-- The chunks of satellite `id` among some datagrams. -/
def chunksOf (id : Int32) (ds : List Datagram) : List Message := (ds.filter (·.IsChunkOf id)).map Datagram.message

/-- What satellites `id` sent, each its dumps in order, arrives without loss or duplication and in the
order of each satellite, interleaved with each other and with other messages. -/
structure Delivers (sent : Int32 → List Dump) (ds : List Datagram) : Prop where
  dumps : ∀ id, ∀ d ∈ sent id, d.Of id
  small : ∀ id, ∀ d ∈ sent id, d.Small
  chunks : ∀ id, chunksOf id ds = (sent id).flatMap Dump.messages
  others : ∀ d ∈ ds, d.message.kind ≠ .fileMsg → d.message.Valid

section
variable {sent : Int32 → List Dump} {ds : List Datagram}

theorem frameOf_eq_none {id : Int32} {d : Datagram} (h : ¬ d.IsChunkOf id) :
    Receiver.frameOf id d.message = none := by
  rw [Receiver.frameOf]
  split
  · rename_i hbody
    refine if_neg fun hsender => h ⟨?_, hsender⟩
    rw [Message.kind, hbody]
    rfl
  · rfl

theorem framesOf_eq (id : Int32) (ds : List Datagram) :
    Receiver.framesOf id ds = (chunksOf id ds).filterMap (Receiver.frameOf id) := by
  induction ds with
  | nil => rfl
  | cons d ds ih =>
    by_cases hd : d.IsChunkOf id
    · rw [chunksOf, List.filter_cons_of_pos (by simpa using hd)]
      rw [Receiver.framesOf, List.filterMap_cons, List.map_cons, List.filterMap_cons]
      rw [Receiver.framesOf, chunksOf] at ih
      rw [ih]
    · rw [chunksOf, List.filter_cons_of_neg (by simpa using hd)]
      rw [Receiver.framesOf, List.filterMap_cons, frameOf_eq_none hd]
      exact ih

theorem Delivers.deliverable (h : Delivers sent ds) : ∀ d ∈ ds, Receiver.Deliverable d.message := by
  intro d hd
  by_cases hfile : d.message.kind = .fileMsg
  · have hmem : d.message ∈ chunksOf d.message.senderId ds := by
      refine List.mem_map_of_mem (List.mem_filter.mpr ⟨hd, ?_⟩)
      exact decide_eq_true ⟨hfile, rfl⟩
    rw [h.chunks] at hmem
    obtain ⟨dump, hdump, hm⟩ := List.mem_flatMap.mp hmem
    exact (h.dumps _ dump hdump).deliverable hm
  · refine ⟨h.others d hd hfile, fun data len last hbody => absurd ?_ hfile⟩
    rw [Message.kind, hbody]
    rfl

theorem reassemble_dumps {id : Int32} {dumps : List Dump} (hof : ∀ d ∈ dumps, d.Of id)
    (hsmall : ∀ d ∈ dumps, d.Small) (hchunks : chunksOf id ds = dumps.flatMap Dump.messages) :
    reassemble (Receiver.framesOf id ds) = ⟨dumps.map Dump.content, []⟩ := by
  have hframes : Receiver.framesOf id ds = dumps.flatMap fun d => fileChunks d.content := by
    rw [framesOf_eq, hchunks, List.filterMap_flatMap]
    exact List.flatMap_congr fun d hd => (hof d hd).frames
  rw [hframes]
  exact reassemble_flatten dumps _ _ fun d hd => (hsmall d hd).framing

/-- The lines the terminal logs for a satellite come from the bytes handed over. -/
def queuedLines (id : Int32) (w : List Effect) : List (List UInt8) :=
  w.flatMap fun
    | .output out => SatelliteData.onOutput id.toUInt32 out
    | _ => []

theorem queuedLines_eq (id : Int32) (w : List Effect) :
    queuedLines id w = (w.filterMap (Receiver.handed id)).flatMap terminatedLines := by
  induction w with
  | nil => rfl
  | cons x w ih =>
    rw [queuedLines] at ih ⊢
    rw [List.flatMap_cons, ih, List.filterMap_cons]
    cases x with
    | output out =>
      dsimp only [SatelliteData.onOutput, Receiver.handed]
      by_cases hid : out.id = id.toUInt32
      · rw [if_pos hid]
        by_cases hchunks : out.chunks = []
        · rw [if_neg (fun h => h.2 hchunks), hchunks]
          rfl
        · rw [if_pos ⟨hid, hchunks⟩, SatelliteData.logData_eq]
          rfl
      · rw [if_neg hid, if_neg fun h => hid h.1]
        rfl
    | log line => rfl
    | opened fd => rfl
    | closed fd => rfl
    | sendto peer fd dest m => rfl

end

/-- **Dumps survive the pipeline exactly.** However the dumps of all satellites are interleaved, each
satellite's results that carry bytes are the contents of its non-empty dumps, in order; its lines are
logged in order; and nothing is left in its buffer whenever a dump has arrived completely. -/
theorem dumps_survive (gcPort : Int32) (buf : RecvBuffer) (sent : Int32 → List Dump) (ds : List Datagram)
    (h : Delivers sent ds) :
    ∃ r buf' w, run Receiver.digest (⟨fun _ => [], gcPort⟩, buf) (ds.map Datagram.bytes) = .ok ((r, buf'), w) ∧
      ∀ id,
        (w.filterMap (Receiver.handed id)).filter (· ≠ []) = ((sent id).map Dump.content).filter (· ≠ []) ∧
        queuedLines id w = (sent id).flatMap (fun d => terminatedLines d.content) ∧
        ∀ pre post k, ds = pre ++ post → chunksOf id pre = ((sent id).take k).flatMap Dump.messages →
          ∃ r₁ buf₁ w₁, run Receiver.digest (⟨fun _ => [], gcPort⟩, buf) (pre.map Datagram.bytes) =
            .ok ((r₁, buf₁), w₁) ∧ r₁.buffer id = [] := by
  obtain ⟨r, buf', w, hrun, hassembly⟩ := Receiver.run_digest gcPort buf h.deliverable
  refine ⟨r, buf', w, hrun, fun id => ?_⟩
  have hhanded : w.filterMap (Receiver.handed id) = (sent id).map Dump.content := by
    have hall := (hassembly id).trans (reassemble_dumps (h.dumps id) (h.small id) (h.chunks id))
    exact congrArg Assembly.delivered hall
  refine ⟨by rw [hhanded], ?_, fun pre post k heq hpre => ?_⟩
  · rw [queuedLines_eq, hhanded, List.flatMap_map]
  · have hpart : ∀ d ∈ pre, Receiver.Deliverable d.message := fun d hd =>
      h.deliverable d (by rw [heq]; exact List.mem_append_left _ hd)
    obtain ⟨r₁, buf₁, w₁, hrun₁, hassembly₁⟩ := Receiver.run_digest gcPort buf hpart
    have hdone := (hassembly₁ id).trans
      (reassemble_dumps (fun d hd => h.dumps id d (List.mem_of_mem_take hd))
        (fun d hd => h.small id d (List.mem_of_mem_take hd)) hpre)
    exact ⟨r₁, buf₁, w₁, hrun₁, congrArg Assembly.pending hdone⟩

/-! ### One line of one satellite -/

/-- Satellite 1, on port 5001, dumps a file with this content. -/
def dumpOfOne (content : List UInt8) : Dump where
  satellite :=
    { handler := ConnectionHandler.init 5001, id := 1, x := 0, y := 0, z := 0, vx := 0, vy := 0, vz := 0,
      port := 5001, waitingForAck := false }
  content
  stale _ := ⟨List.replicate Config.FILE_CHUNK_SIZE 0, length_blankChunk⟩

theorem dumpOfOne_of (content : List UInt8) : (dumpOfOne content).Of 1 :=
  ⟨by decide, rfl, show (0 : Int32) < 5001 by decide⟩

/-- Only satellite 1 sends. -/
def sentByOne (dumps : List Dump) (id : Int32) : List Dump := if id = 1 then dumps else []

theorem sentByOne_of {contents : List (List UInt8)} {id : Int32} {d : Dump}
    (hd : d ∈ sentByOne (contents.map dumpOfOne) id) : d.Of id ∧ d.content ∈ contents := by
  rw [sentByOne] at hd
  split_ifs at hd with hid
  · obtain ⟨content, hcontent, rfl⟩ := List.mem_map.mp hd
    rw [hid]
    exact ⟨dumpOfOne_of content, hcontent⟩
  · cases hd

def heartbeatOfTwo : Datagram := ⟨.build 2 5002 (.heartbeat true), ⟨[0, 0, 0], Message.length_zeroPad⟩⟩

/-- A chunk of satellite 1. -/
def chunkOfOne (c : List UInt8 × Bool) : Datagram :=
  ⟨chunkMessage 1 5001 c ⟨List.replicate Config.FILE_CHUNK_SIZE 0, length_blankChunk⟩,
    ⟨[0, 0, 0], Message.length_zeroPad⟩⟩

/-- The file of the line "a", between two heartbeats of satellite 2. -/
def lineOfOne : List Datagram := [heartbeatOfTwo, chunkOfOne ([97, 10], true), heartbeatOfTwo]

theorem lineOfOne_delivers : Delivers (sentByOne [dumpOfOne [97, 10]]) lineOfOne where
  dumps id d hd := (@sentByOne_of [[97, 10]] id d hd).1
  small id d hd := by
    obtain ⟨-, hcontent⟩ := @sentByOne_of [[97, 10]] id d hd
    rw [Dump.Small, List.mem_singleton.mp hcontent]
    decide
  chunks id := by
    by_cases hid : id = 1
    · rw [hid]
      rfl
    · rw [sentByOne, if_neg hid, chunksOf, List.filter_eq_nil_iff.mpr]
      · rfl
      · intro d hd
        rw [decide_eq_true_iff]
        rintro ⟨hkind, hsender⟩
        simp only [lineOfOne, List.mem_cons, List.not_mem_nil, or_false] at hd
        rcases hd with rfl | rfl | rfl
        · cases hkind
        · exact hid hsender.symm
        · cases hkind
  others d hd hkind := by
    simp only [lineOfOne, List.mem_cons, List.not_mem_nil, or_false] at hd
    rcases hd with rfl | rfl | rfl
    · exact Message.build_valid (by decide) (by decide) _
    · exact absurd rfl hkind
    · exact Message.build_valid (by decide) (by decide) _

theorem dumps_survive_line :
    ∃ r buf' w, run Receiver.digest (⟨fun _ => [], Config.GC_PORT⟩, filled 0) (lineOfOne.map Datagram.bytes) =
      .ok ((r, buf'), w) ∧ queuedLines 1 w = [[97]] := by
  obtain ⟨r, buf', w, hrun, hall⟩ := dumps_survive Config.GC_PORT (filled 0) _ _ lineOfOne_delivers
  refine ⟨r, buf', w, hrun, ?_⟩
  rw [(hall 1).2.1]
  rfl

end Constellation
