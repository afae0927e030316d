import Constellation.Downlink.Pipeline

/-!
# Dumps over a lossy channel

Chunks carry no number and no dump, so over a channel that loses, duplicates or reorders them the
receiver cannot tell where a dump begins: at a last chunk it hands over the payloads of all chunks of
that satellite that arrived since the previous last chunk (`handed_eq`). This is the content of a dump
when these are the chunks of that dump in order. If the last chunk of a dump is lost, its other chunks
are handed over in front of the next dump (`lostLast_merges`).

Bytes of different satellites are never mixed.
-/

namespace Constellation

/-- What arrives of the dumps that were sent: any selection of their chunks, in any order and number,
in between other messages. -/
structure Arrives (sent : Int32 → List Dump) (ds : List Datagram) : Prop where
  dumps : ∀ id, ∀ d ∈ sent id, d.Of id
  chunks : ∀ d ∈ ds, d.message.kind = .fileMsg →
    ∃ dump ∈ sent d.message.senderId, d.message ∈ dump.messages
  others : ∀ d ∈ ds, d.message.kind ≠ .fileMsg → d.message.Valid

section
variable {sent : Int32 → List Dump} {ds : List Datagram} {id : Int32}

theorem Arrives.deliverable (h : Arrives sent ds) : ∀ d ∈ ds, Receiver.Deliverable d.message := by
  intro d hd
  by_cases hfile : d.message.kind = .fileMsg
  · obtain ⟨dump, hdump, hm⟩ := h.chunks d hd hfile
    exact (h.dumps _ dump hdump).deliverable hm
  · refine ⟨h.others d hd hfile, fun data len last hbody => absurd ?_ hfile⟩
    rw [Message.kind, hbody]
    rfl

theorem Arrives.frame (h : Arrives sent ds) {f : Frame UInt8} (hf : f ∈ Receiver.framesOf id ds) :
    ∃ dump ∈ sent id, f ∈ fileChunks dump.content := by
  obtain ⟨d, hd, hframe⟩ := List.mem_filterMap.mp hf
  have hchunk : d.IsChunkOf id := by
    by_contra hno
    rw [frameOf_eq_none hno] at hframe
    cases hframe
  obtain ⟨hkind, hsender⟩ := hchunk
  obtain ⟨dump, hdump, hm⟩ := h.chunks d hd hkind
  rw [hsender] at hdump
  refine ⟨dump, hdump, ?_⟩
  rw [← (h.dumps id dump hdump).frames]
  exact List.mem_filterMap.mpr ⟨d.message, hm, hframe⟩

theorem payload_fileChunks_of_last {content : List UInt8} {fs : List (Frame UInt8)} {c : List UInt8}
    (h : fileChunks content = fs ++ [(c, true)]) : payload (fileChunks content) = content :=
  chunkBytes_of_last content Config.MAX_FILE_CHUNKS 0 h

end

/-- **What a last chunk has the receiver hand over.** Of every delivery, at every last chunk of a
satellite: the payloads, in order of arrival, of the chunks of this satellite that arrived since its
previous last chunk, each a chunk of one of its dumps. If they are the chunks of one dump, in order,
it is the content of this dump. -/
theorem handed_eq (gcPort : Int32) (buf : RecvBuffer) (sent : Int32 → List Dump) (ds : List Datagram)
    (h : Arrives sent ds) (pre : List Datagram) (d : Datagram) (post : List Datagram) (hds : ds = pre ++ d :: post)
    (id : Int32) (c : List UInt8) (hlast : Receiver.frameOf id d.message = some (c, true)) :
    ∃ r buf' w r' buf'' w',
      run Receiver.digest (⟨fun _ => [], gcPort⟩, buf) (pre.map Datagram.bytes) = .ok ((r, buf'), w) ∧
      Receiver.digest (r, buf') d.bytes = .ok ((r', buf''), w') ∧
      w'.filterMap (Receiver.handed id) = [payload (sinceLast (Receiver.framesOf id pre) ++ [(c, true)])] ∧
      (∀ f ∈ sinceLast (Receiver.framesOf id pre) ++ [(c, true)], ∃ dump ∈ sent id, f ∈ fileChunks dump.content) ∧
      ∀ dump ∈ sent id, sinceLast (Receiver.framesOf id pre) ++ [(c, true)] = fileChunks dump.content →
        w'.filterMap (Receiver.handed id) = [dump.content] := by
  have hpre : ∀ d' ∈ pre, Receiver.Deliverable d'.message := fun d' hd' =>
    h.deliverable d' (by rw [hds]; exact List.mem_append_left _ hd')
  have hd : d ∈ ds := by
    rw [hds]
    exact List.mem_append_right _ List.mem_cons_self
  obtain ⟨r, buf', w, hrun, hassembly⟩ := Receiver.run_digest gcPort buf hpre
  obtain ⟨r', w', hstep, -, hfeed⟩ := Receiver.digest_ok r buf' (h.deliverable d hd)
  have hhanded : w'.filterMap (Receiver.handed id) =
      [payload (sinceLast (Receiver.framesOf id pre) ++ [(c, true)])] := by
    have hdelivered := congrArg Assembly.delivered (hfeed id)
    have hpending : r.buffer id = payload (sinceLast (Receiver.framesOf id pre)) := by
      rw [← reassemble_pending, ← hassembly id]
      rfl
    rw [hlast, hpending] at hdelivered
    rw [payload_append, payload_singleton]
    exact hdelivered
  refine ⟨r, buf', w, r', _, w', hrun, hstep, hhanded, fun f hf => ?_, fun dump hdump heq => ?_⟩
  · have hmem : f ∈ Receiver.framesOf id ds := by
      rw [hds, Receiver.framesOf, List.filterMap_append]
      rcases List.mem_append.mp hf with hf | hf
      · exact List.mem_append_left _ (sinceLast_subset _ hf)
      · refine List.mem_append_right _ (List.mem_filterMap.mpr ⟨d, List.mem_cons_self, ?_⟩)
        rw [hlast, List.mem_singleton.mp hf]
    exact h.frame hmem
  · rw [hhanded, heq, payload_fileChunks_of_last heq.symm]

/-! ### A lost chunk -/

theorem head_mem_messages (d : Dump) :
    chunkMessage d.satellite.id.toInt32 d.satellite.port (readChunk d.content 0) (d.stale 0) ∈ d.messages := by
  rw [Dump.messages, Satellite.createDataDump, fileChunks, Config.MAX_FILE_CHUNKS, readChunks, List.mapIdx_cons]
  exact List.mem_cons_self

/-- A file of exactly one chunk size, whose dump ends with an empty chunk. -/
def fullChunk : List UInt8 := List.replicate Config.FILE_CHUNK_SIZE 97

theorem readChunk_fullChunk : readChunk fullChunk 0 = (fullChunk, false) := by
  rw [readChunk, List.drop_zero, fullChunk, List.take_of_length_le (by rw [List.length_replicate]), List.length_replicate]
  rfl

/-- The last chunk of the first dump is lost, the only chunk of the second arrives. -/
def lostLast : List Datagram := [chunkOfOne (fullChunk, false), chunkOfOne ([98], true)]

theorem lostLast_arrives : Arrives (sentByOne ([fullChunk, [98]].map dumpOfOne)) lostLast where
  dumps id d hd := (sentByOne_of hd).1
  chunks d hd _ := by
    simp only [lostLast, List.mem_cons, List.not_mem_nil, or_false] at hd
    rcases hd with rfl | rfl
    · refine ⟨dumpOfOne fullChunk, List.mem_cons_self, ?_⟩
      have hhead := head_mem_messages (dumpOfOne fullChunk)
      change chunkMessage 1 5001 (readChunk fullChunk 0) _ ∈ _ at hhead
      rw [readChunk_fullChunk] at hhead
      exact hhead
    · exact ⟨dumpOfOne [98], List.mem_cons_of_mem _ List.mem_cons_self, head_mem_messages (dumpOfOne [98])⟩
  others d hd hkind := by
    simp only [lostLast, List.mem_cons, List.not_mem_nil, or_false] at hd
    rcases hd with rfl | rfl
    · exact absurd rfl hkind
    · exact absurd rfl hkind

theorem framesOf_lostLast : Receiver.framesOf 1 lostLast = [(fullChunk, false), ([98], true)] := by
  have hfirst : Receiver.frameOf 1 (chunkOfOne (fullChunk, false)).message = some (fullChunk, false) :=
    Dump.frameOf_chunkMessage (by rw [fullChunk, List.length_replicate]) _ _
  have hsecond : Receiver.frameOf 1 (chunkOfOne ([98], true)).message = some ([98], true) :=
    Dump.frameOf_chunkMessage (by decide) _ _
  rw [Receiver.framesOf, lostLast, List.filterMap_cons, hfirst, List.filterMap_cons, hsecond]
  rfl

/-- **The two dumps are handed over as one**, which is the content of neither. -/
theorem lostLast_merges :
    Arrives (sentByOne ([fullChunk, [98]].map dumpOfOne)) lostLast ∧
      ∃ r buf' w, run Receiver.digest (⟨fun _ => [], Config.GC_PORT⟩, filled 0) (lostLast.map Datagram.bytes) =
          .ok ((r, buf'), w) ∧
        w.filterMap (Receiver.handed 1) = [fullChunk ++ [98]] ∧
        ∀ id, ∀ dump ∈ sentByOne ([fullChunk, [98]].map dumpOfOne) id, dump.content ≠ fullChunk ++ [98] := by
  obtain ⟨r, buf', w, hrun, hassembly⟩ :=
    Receiver.run_digest Config.GC_PORT (filled 0) lostLast_arrives.deliverable
  refine ⟨lostLast_arrives, r, buf', w, hrun, ?_, ?_⟩
  · have hall := congrArg Assembly.delivered (hassembly 1)
    rw [framesOf_lostLast] at hall
    exact hall
  · intro id dump hdump heq
    obtain ⟨-, hcontent⟩ := sentByOne_of hdump
    have hlen : (fullChunk ++ [98]).length = Config.FILE_CHUNK_SIZE + 1 := by
      rw [List.length_append, fullChunk, List.length_replicate]
      rfl
    rw [heq] at hcontent
    simp only [List.mem_cons, List.not_mem_nil, or_false] at hcontent
    rcases hcontent with hfull | hshort
    · rw [hfull, fullChunk, List.length_replicate] at hlen
      cases hlen
    · rw [hshort] at hlen
      cases hlen

theorem handed_eq_single :
    ∃ r buf' w r' buf'' w',
      run Receiver.digest (⟨fun _ => [], Config.GC_PORT⟩, filled 0) [] = .ok ((r, buf'), w) ∧
      Receiver.digest (r, buf') (chunkOfOne ([98], true)).bytes = .ok ((r', buf''), w') ∧
      w'.filterMap (Receiver.handed 1) = [[98]] := by
  have harrives : Arrives (sentByOne [dumpOfOne [98]]) [chunkOfOne ([98], true)] := by
    refine ⟨fun id d hd => (@sentByOne_of [[98]] id d hd).1, fun d hd _ => ?_, fun d hd hkind => ?_⟩
    · rw [List.mem_singleton.mp hd]
      exact ⟨dumpOfOne [98], List.mem_cons_self, head_mem_messages (dumpOfOne [98])⟩
    · rw [List.mem_singleton.mp hd] at hkind
      exact absurd rfl hkind
  obtain ⟨r, buf', w, r', buf'', w', hrun, hstep, hhanded, -, -⟩ := handed_eq Config.GC_PORT (filled 0) _ _ harrives
    [] (chunkOfOne ([98], true)) [] rfl 1 [98] (Dump.frameOf_chunkMessage (by decide) _ _)
  exact ⟨r, buf', w, r', buf'', w', hrun, hstep, hhanded⟩

end Constellation
