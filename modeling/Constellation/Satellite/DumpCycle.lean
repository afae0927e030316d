import Constellation.Satellite.Acquainted
import Constellation.Satellite.CommandAck

/-!
# A dump cycle as a whole

One turn of the dump branch of `broadcast`: if ground control is in the map the log is read and
truncated, its chunks are passed to `sendMessageToPeer` one by one, and the flag is raised.

The loop that reads the file has two exits. It leaves through the end of the file, with everything read
and the final message marked as the last, exactly when the file is shorter than its limit of a hundred
chunks (`createDataDump_returns_iff`); through the other exit no message is the last and what lies
behind the limit is truncated without having been read.

The truncation comes before any send, and the map only tells that ground control is known.
`sendMessageToPeer` drops a chunk without a word unless ground control is connected at that moment. So a
cycle keeps what it does not deliver exactly when it does not get as far as the truncation, or every
chunk finds ground control connected (`dumpCycle_iff`).
-/

namespace Constellation

/-! ### The call on the file -/

/-- Whether the log file opens for reading, and for truncation. -/
structure Streams where
  read : Bool
  clear : Bool

namespace Satellite

/-- `createDataDump` on the log file. An exception leaves the file as it is: what fails is one of the two
attempts to open it. -/
def dumpLog (s : Satellite) (f : LogFile) (streams : Streams) (stale : Nat → Chunk) :
    LogFile × Except Stop (List Message) :=
  if streams.read = false then (f, .error (.throws "File failed to open"))
  else if streams.clear = false then (f, .error (.throws "File failed to clear"))
  else (f.truncate, .ok (s.createDataDump f.bytes stale))

/-- The messages carry all of a file: its bytes, in pieces of a proper length, of which the final one and
no other is marked as the last. -/
structure ReturnsAll (content : List UInt8) (msgs : List Message) : Prop where
  whole : (msgs.flatMap fun m => (carried m).1) = content
  len : ∀ m ∈ msgs, ∃ data len last, m.body = .fileMsg data len last ∧ 0 ≤ len ∧
    len.toInt ≤ Config.FILE_CHUNK_SIZE
  nonempty : msgs ≠ []
  last : ∃ front m, msgs = front ++ [m] ∧ (carried m).2 = true ∧ ∀ m' ∈ front, (carried m').2 = false

section
variable {s : Satellite} {content : List UInt8} {stale : Nat → Chunk}

variable (s content stale) in
theorem carried_createDataDump : (s.createDataDump content stale).map carried = fileChunks content := by
  apply List.ext_getElem
  · rw [List.length_map, createDataDump, List.length_mapIdx]
  · intro i hi hi'
    simp only [createDataDump, List.getElem_map, List.getElem_mapIdx]
    exact carried_chunkMessage (readChunks_length_le content _ _ _ (List.getElem_mem hi')) _ _ _

theorem length_createDataDump : (s.createDataDump content stale).length = (fileChunks content).length :=
  List.length_mapIdx ..

theorem createDataDump_len : ∀ m ∈ s.createDataDump content stale, ∃ data len last,
    m.body = .fileMsg data len last ∧ 0 ≤ len ∧ len.toInt ≤ Config.FILE_CHUNK_SIZE := by
  intro m hm
  have hlen := (createDataDump_utterance rfl rfl content stale m hm).len
  rw [createDataDump] at hm
  obtain ⟨i, hi, rfl⟩ := List.mem_mapIdx.mp hm
  exact ⟨_, _, _, rfl, hlen _ _ _ rfl⟩

theorem readChunks_open (turns pos : Nat) (h : turns * Config.FILE_CHUNK_SIZE ≤ (content.drop pos).length) :
    ∀ c ∈ readChunks content turns pos, c.2 = false := by
  induction turns generalizing pos with
  | zero => exact nofun
  | succ turns ih =>
    have hlong : ¬ (content.drop pos).length < Config.FILE_CHUNK_SIZE := by
      rw [Nat.succ_mul] at h
      omega
    have hmore : (readChunk content pos).2 = false := decide_eq_false hlong
    have hfull := readChunk_more content hmore
    intro c hc
    rw [readChunks, hmore, if_neg (by simp)] at hc
    rcases List.mem_cons.mp hc with rfl | hc
    · exact hmore
    · refine ih _ ?_ c hc
      rw [hfull, ← List.drop_drop, List.length_drop]
      rw [Nat.succ_mul] at h
      omega

theorem createDataDump_open (h : Config.MAX_FILE_CHUNKS * Config.FILE_CHUNK_SIZE ≤ content.length) :
    ∀ m ∈ s.createDataDump content stale, (carried m).2 = false := by
  intro m hm
  have hmem : carried m ∈ fileChunks content := by
    rw [← carried_createDataDump s content stale]
    exact List.mem_map_of_mem hm
  exact readChunks_open Config.MAX_FILE_CHUNKS 0 h _ hmem

theorem not_returnsAll (h : Config.MAX_FILE_CHUNKS * Config.FILE_CHUNK_SIZE ≤ content.length) :
    ¬ ReturnsAll content (s.createDataDump content stale) := by
  intro hall
  obtain ⟨front, m, hmsgs, hlast, -⟩ := hall.last
  have hopen := createDataDump_open h m (show m ∈ s.createDataDump content stale by rw [hmsgs]; simp)
  rw [hlast] at hopen
  cases hopen

theorem returnsAll (h : content.length < Config.MAX_FILE_CHUNKS * Config.FILE_CHUNK_SIZE) :
    ReturnsAll content (s.createDataDump content stale) := by
  obtain ⟨cs, c, hchunks, hflags, hbytes⟩ := fileChunks_spec content h
  have hcarried := carried_createDataDump s content stale
  rw [hchunks] at hcarried
  obtain ⟨front, back, hmsgs, hfront, hback⟩ := List.map_eq_append_iff.mp hcarried
  obtain ⟨m, hm, hmc⟩ := List.map_eq_singleton_iff.mp hback
  rw [hm] at hmsgs
  refine ⟨?_, createDataDump_len, ?_, front, m, hmsgs, ?_, fun m' hm' => ?_⟩
  · have hpayload := congrArg (List.flatMap Prod.fst) hcarried
    rw [List.flatMap_map] at hpayload
    exact hpayload.trans hbytes
  · rw [hmsgs]
    simp
  · rw [hmc]
  · apply hflags
    rw [← hfront]
    exact List.mem_map_of_mem hm'

end

/-- **`createDataDump` returns the whole log it erases exactly below the limit of its loop.** -/
theorem createDataDump_returns_iff (s : Satellite) (f : LogFile) (stale : Nat → Chunk) :
    ∃ msgs, s.dumpLog f ⟨true, true⟩ stale = (f.truncate, .ok msgs) ∧ f.truncate.bytes = [] ∧
      (ReturnsAll f.bytes msgs ↔ f.bytes.length < Config.MAX_FILE_CHUNKS * Config.FILE_CHUNK_SIZE) := by
  refine ⟨_, rfl, rfl, fun hall => ?_, returnsAll⟩
  by_contra hlong
  exact not_returnsAll (Nat.not_lt.mp hlong) hall

/-- A log of one byte more than a hundred chunks. -/
def overlong : LogFile where
  bytes := List.replicate (Config.MAX_FILE_CHUNKS * Config.FILE_CHUNK_SIZE + 1) 97
  offset := Config.MAX_FILE_CHUNKS * Config.FILE_CHUNK_SIZE + 1

end Satellite

/-- Satellite 1 at rest loses the last byte of such a log, and marks no message as the last. -/
theorem overlong_dump_loses :
    (((SatelliteProcess.atRest.satellite.createDataDump Satellite.overlong.bytes fun _ => blankChunk).flatMap
      fun m => (Satellite.carried m).1).length + 1 = Satellite.overlong.bytes.length) ∧
    (∀ m ∈ SatelliteProcess.atRest.satellite.createDataDump Satellite.overlong.bytes fun _ => blankChunk,
      (Satellite.carried m).2 = false) ∧
    ¬ Satellite.ReturnsAll Satellite.overlong.bytes
      (SatelliteProcess.atRest.satellite.createDataDump Satellite.overlong.bytes fun _ => blankChunk) := by
  have hlen : Satellite.overlong.bytes.length = Config.MAX_FILE_CHUNKS * Config.FILE_CHUNK_SIZE + 1 :=
    List.length_replicate
  have hlimit : Config.MAX_FILE_CHUNKS * Config.FILE_CHUNK_SIZE ≤ Satellite.overlong.bytes.length := by
    rw [hlen]
    omega
  refine ⟨?_, Satellite.createDataDump_open hlimit, Satellite.not_returnsAll hlimit⟩
  have hbytes := dumpBytes_eq Satellite.overlong.bytes
  rw [dumpBytes, chunkBytes, ← Satellite.carried_createDataDump SatelliteProcess.atRest.satellite _
    fun _ => blankChunk, List.flatMap_map] at hbytes
  rw [hbytes, List.length_take, hlen]
  omega

/-! ### The cycle -/

namespace SatelliteProcess

/-- What a cycle meets: whether the log opens, what the message arrays hold behind their bytes, and for
each chunk the handler as its send finds it, with the answers of the operating system. The other threads
may change the handler between two sends. -/
structure Circumstances where
  streams : Streams
  stale : Nat → Chunk
  handler : Nat → ConnectionHandler
  os : Nat → Int32 → Os

/-- The loop over the messages, from chunk `i` on; the effects of each send. -/
def sendChunks (c : Circumstances) : Nat → List Message → Except Stop (List (List Effect))
  | _, [] => .ok []
  | i, m :: rest => do
    let sent ← (c.handler i).sendMessageToPeer (c.os i) 0 m
    let others ← sendChunks c (i + 1) rest
    return sent :: others

/-- One dump cycle of `broadcast`. Where it stops it leaves what it has changed by then. -/
def dumpCycle (p : SatelliteProcess) (c : Circumstances) : SatelliteProcess × Except Stop (List (List Effect)) :=
  match p.satellite.handler.hasConnection 0 with
  | .error e => (p, .error e)
  | .ok false => (p, .ok [])
  | .ok true =>
    match p.satellite.dumpLog p.log c.streams c.stale with
    | (log, .error e) => ({ p with log }, .error e)
    | (log, .ok msgs) =>
      match sendChunks c 0 msgs with
      | .error e => ({ p with log }, .error e)
      | .ok sent => ({ p with log, satellite := p.satellite.setWaitingForAck true }, .ok sent)

/-- The call with these effects passed the chunk to the connection to ground control. -/
def PassedOn (m : Message) (w : List Effect) : Prop := ∃ fd dest, Effect.sendto 0 fd dest m ∈ w

/-- The cycle passes every chunk on, or leaves the log and the flag as they are. -/
def AllOrNothing (p : SatelliteProcess) (c : Circumstances) : Prop :=
  (∃ sent, (p.dumpCycle c).2 = .ok sent ∧
    List.Forall₂ PassedOn (p.satellite.createDataDump p.log.bytes c.stale) sent) ∨
  (p.dumpCycle c).1.log.bytes = p.log.bytes ∧
    (p.dumpCycle c).1.satellite.waitingForAck = p.satellite.waitingForAck

/-- The handlers a cycle meets are those of states the satellite can be in. -/
def Circumstances.Reachable (satId port : Int32) (c : Circumstances) : Prop :=
  ∀ i, ∃ q, SatelliteProcess.Reachable satId port q ∧ q.satellite.handler = c.handler i

section
variable {satId port : Int32} {p : SatelliteProcess} {c : Circumstances}

theorem sendChunks_ok (hsat : 0 < satId) (hport : 0 ≤ port) (hsound : ∀ i, (c.handler i).Sound satId port) (i : Nat)
    (msgs : List Message) (hmsgs : ∀ m ∈ msgs, Satellite.Utterance satId port m) :
    ∃ sent, sendChunks c i msgs = .ok sent ∧
      (List.Forall₂ PassedOn msgs sent ↔ ∀ j < msgs.length, (c.handler (i + j)).Connected 0) := by
  induction msgs generalizing i with
  | nil => exact ⟨[], rfl, fun _ => nofun, fun _ => .nil⟩
  | cons m rest ih =>
    have hsendable : ConnectionHandler.Sendable m := by
      rw [(hmsgs m List.mem_cons_self).built]
      exact .build (Int32.le_of_lt hsat) hport m.body
    obtain ⟨w, hsend, hpassed⟩ := ConnectionHandler.sendMessageToPeer_passes_iff (c.os i) (hsound i)
      (by decide : (0 : Int32) ≤ 0) hsendable
    obtain ⟨sent, hrest, hall⟩ := ih (i + 1) fun m' hm' => hmsgs m' (List.mem_cons_of_mem _ hm')
    refine ⟨w :: sent, ?_, ?_⟩
    · rw [sendChunks, hsend, ok_bind, hrest]
      rfl
    · rw [List.forall₂_cons, hall]
      constructor
      · rintro ⟨hfirst, hothers⟩ j hj
        cases j with
        | zero => exact hpassed.mp hfirst
        | succ j =>
          have hnext := hothers j (by rw [List.length_cons] at hj; omega)
          rwa [Nat.add_assoc, Nat.add_comm 1 j] at hnext
      · intro hconn
        refine ⟨hpassed.mpr (hconn 0 (Nat.succ_pos _)), fun j hj => ?_⟩
        have hnext := hconn (j + 1) (by rw [List.length_cons]; omega)
        rwa [Nat.add_assoc, Nat.add_comm 1 j]

theorem dumpCycle_stops (h : ¬ p.satellite.handler.Knows 0 ∨ c.streams.read = false ∨ c.streams.clear = false) :
    (p.dumpCycle c).1 = p := by
  have hhas : p.satellite.handler.hasConnection 0 = .ok (p.satellite.handler.connections.lookup 0).isSome := rfl
  rw [dumpCycle, hhas]
  by_cases hknown : p.satellite.handler.Knows 0
  · have hfails : ∃ e, p.satellite.dumpLog p.log c.streams c.stale = (p.log, .error e) := by
      rw [Satellite.dumpLog]
      by_cases hread : c.streams.read = false
      · exact ⟨_, if_pos hread⟩
      · rw [if_neg hread, if_pos ((h.resolve_left (not_not_intro hknown)).resolve_left hread)]
        exact ⟨_, rfl⟩
    obtain ⟨e, he⟩ := hfails
    rw [show (p.satellite.handler.connections.lookup 0).isSome = true from hknown]
    dsimp only
    rw [he]
  · rw [show (p.satellite.handler.connections.lookup 0).isSome = false by
      simpa [ConnectionHandler.Knows] using hknown]

theorem dumpCycle_goes {sent : List (List Effect)} (hknown : p.satellite.handler.Knows 0)
    (hread : c.streams.read = true) (hclear : c.streams.clear = true)
    (hsent : sendChunks c 0 (p.satellite.createDataDump p.log.bytes c.stale) = .ok sent) :
    p.dumpCycle c =
      ({ p with log := p.log.truncate, satellite := p.satellite.setWaitingForAck true }, .ok sent) := by
  have hhas : p.satellite.handler.hasConnection 0 = .ok true := by
    rw [← show (p.satellite.handler.connections.lookup 0).isSome = true from hknown]
    rfl
  have hdump : p.satellite.dumpLog p.log c.streams c.stale =
      (p.log.truncate, .ok (p.satellite.createDataDump p.log.bytes c.stale)) := by
    rw [Satellite.dumpLog, if_neg (by rw [hread]; simp), if_neg (by rw [hclear]; simp)]
  rw [dumpCycle, hhas]
  dsimp only
  rw [hdump]
  dsimp only
  rw [hsent]

/-- Without interruption a cycle is a run of the sender's steps. -/
theorem run_dumpCycle {sent : List (List Effect)} (hready : p.sender = .ready) (hknown : p.satellite.handler.Knows 0)
    (hread : c.streams.read = true) (hclear : c.streams.clear = true)
    (hquiet : ∀ i, c.handler i = p.satellite.handler)
    (hsent : sendChunks c 0 (p.satellite.createDataDump p.log.bytes c.stale) = .ok sent) :
    run step p (.dump c.stale ::
        ((List.range (p.satellite.createDataDump p.log.bytes c.stale).length).map fun i => .sendChunk (c.os i)) ++
          [.raise]) = .ok ((p.dumpCycle c).1, sent.flatten) := by
  -- the sends, from any chunk on
  have hloop : ∀ (msgs : List Message) (i : Nat) (q : SatelliteProcess) (sent : List (List Effect)),
      q.satellite.handler = p.satellite.handler → q.sender = .sending msgs → sendChunks c i msgs = .ok sent →
      run step q ((List.range' i msgs.length).map fun i => .sendChunk (c.os i)) =
        .ok ({ q with sender := .sending [] }, sent.flatten) := by
    intro msgs
    induction msgs with
    | nil =>
      intro i q sent hq hs hrun
      cases hrun
      rw [← hs]
      rfl
    | cons m rest ih =>
      intro i q sent hq hs hrun
      obtain ⟨w, hw, hrun⟩ := bind_eq_ok.mp hrun
      obtain ⟨others, hothers, hret⟩ := bind_eq_ok.mp hrun
      cases hret
      rw [hquiet i, ← hq] at hw
      have hstep : q.step (.sendChunk (c.os i)) = .ok ({ q with sender := .sending rest }, w) := by
        rw [step, hs]
        dsimp only
        rw [hw]
        rfl
      rw [List.length_cons, List.range'_succ, List.map_cons]
      exact run_cons_ok.mpr ⟨_, w, _, hstep, ih (i + 1) _ others hq rfl hothers, rfl⟩
  have hdump : p.step (.dump c.stale) = .ok ({ p with
      log := p.log.truncate
      sender := .sending (p.satellite.createDataDump p.log.bytes c.stale) }, []) := by
    have hhas : p.satellite.handler.hasConnection 0 = .ok true := by
      rw [← show (p.satellite.handler.connections.lookup 0).isSome = true from hknown]
      rfl
    rw [step, hready]
    dsimp only
    rw [hhas]
    rfl
  let q : SatelliteProcess := { p with log := p.log.truncate, sender := .sending [] }
  have hsends : run step { q with sender := .sending (p.satellite.createDataDump p.log.bytes c.stale) }
      ((List.range (p.satellite.createDataDump p.log.bytes c.stale).length).map fun i => .sendChunk (c.os i)) =
        .ok (q, sent.flatten) := by
    rw [List.range_eq_range']
    exact hloop _ 0 _ sent rfl rfl hsent
  have hraise : q.step .raise = .ok ({ p with
      log := p.log.truncate
      satellite := p.satellite.setWaitingForAck true }, []) := by
    rw [hready]
    rfl
  rw [dumpCycle_goes hknown hread hclear hsent, List.cons_append]
  refine run_cons_ok.mpr ⟨_, [], sent.flatten, hdump, ?_, rfl⟩
  exact run_snoc_ok.mpr ⟨q, sent.flatten, [], hsends, hraise, (List.append_nil _).symm⟩

end

/-- **A dump cycle is all or nothing exactly when** ground control is unknown, or the log does not open,
or every chunk finds ground control connected, or there is nothing to lose: the log is empty and the flag
up already. -/
theorem dumpCycle_iff {satId port : Int32} {p : SatelliteProcess} {c : Circumstances} (hp : Reachable satId port p)
    (hc : c.Reachable satId port) :
    p.AllOrNothing c ↔ ¬ p.satellite.handler.Knows 0 ∨ (c.streams.read = false ∨ c.streams.clear = false) ∨
      (∀ i < (fileChunks p.log.bytes).length, (c.handler i).Connected 0) ∨
      p.log.bytes = [] ∧ p.satellite.waitingForAck = true := by
  by_cases hstops : ¬ p.satellite.handler.Knows 0 ∨ c.streams.read = false ∨ c.streams.clear = false
  · have hsame : p.AllOrNothing c := by
      right
      rw [dumpCycle_stops hstops]
      exact ⟨rfl, rfl⟩
    refine ⟨fun _ => ?_, fun _ => hsame⟩
    rcases hstops with hunknown | hfails
    · exact .inl hunknown
    · exact .inr (.inl hfails)
  · obtain ⟨hknown, hopens⟩ := not_or.mp hstops
    obtain ⟨hread, hclear⟩ := not_or.mp hopens
    have hconf := hp.configured
    obtain ⟨sent, hsent, hall⟩ := sendChunks_ok (c := c) hp.1 hp.2.1 (fun i => by
      obtain ⟨q, hq, hhandler⟩ := hc i
      rw [← hhandler]
      exact hq.configured.handler) 0 (p.satellite.createDataDump p.log.bytes c.stale)
      (Satellite.createDataDump_utterance hconf.id_eq hconf.port_eq _ _)
    have hgoes := dumpCycle_goes (not_not.mp hknown) (by simpa using hread) (by simpa using hclear) hsent
    rw [AllOrNothing, hgoes]
    dsimp only
    constructor
    · rintro (⟨sent', hsent', hpassed⟩ | ⟨hlog, hflag⟩)
      · cases hsent'
        refine .inr (.inr (.inl fun i hi => ?_))
        have hconn := hall.mp hpassed i (by rwa [Satellite.length_createDataDump])
        rwa [Nat.zero_add] at hconn
      · exact .inr (.inr (.inr ⟨hlog.symm, hflag.symm⟩))
    · rintro (hunknown | hfails | hconn | ⟨hempty, hflag⟩)
      · exact absurd hunknown hknown
      · exact absurd hfails hopens
      · refine .inl ⟨sent, rfl, hall.mpr fun i hi => ?_⟩
        rw [Nat.zero_add]
        exact hconn i (by rwa [Satellite.length_createDataDump] at hi)
      · exact .inr ⟨hempty.symm, hflag.symm⟩

/-- Ground control is met at second 0 and given up at second 21, and a line was logged in between. -/
def quietLink : List Event :=
  [.connect 0 (fun _ => Os.granting) Config.GC_PORT "127.0.0.1" 0,
    .logLine ⟨List.replicate 19 48, List.length_replicate⟩ [97],
    .update 21 (fun _ => Os.granting) fun _ x => x]

/-- A cycle in which nothing fails and the handler stays as it is. -/
def calm (h : ConnectionHandler) : Circumstances where
  streams := ⟨true, true⟩
  stale _ := blankChunk
  handler _ := h
  os _ _ := Os.granting

theorem calm_reachable {satId port : Int32} {p : SatelliteProcess} (hp : Reachable satId port p) :
    (calm p.satellite.handler).Reachable satId port := fun _ => ⟨p, hp, rfl⟩

theorem quietLink_reachable : ∃ p w c, run step atRest quietLink = .ok (p, w) ∧
    p.satellite.handler.connections.lookup 0 = some c ∧ c.state = .disconnected ∧ p.log.bytes ≠ [] :=
  ⟨_, _, _, rfl, rfl, rfl, by decide⟩

/-- The next cycle erases the line, raises the flag and passes nothing on. -/
theorem quietLink_not_allOrNothing : ∃ p w, run step atRest quietLink = .ok (p, w) ∧
    ¬ p.AllOrNothing (calm p.satellite.handler) := by
  obtain ⟨p, w, peer, hrun, hpeer, hdown, hlog⟩ := quietLink_reachable
  have hp : Reachable 1 5001 p := ⟨by decide, by decide, _, _, _, _, _, _, _, _, _, hrun⟩
  have hknown : p.satellite.handler.Knows 0 := by rw [ConnectionHandler.Knows, hpeer]; rfl
  have hdrops : ¬ p.satellite.handler.Connected 0 := by
    rintro ⟨peer', hpeer', hup⟩
    rw [hpeer] at hpeer'
    cases hpeer'
    rw [hdown] at hup
    cases hup
  obtain ⟨sent, hsent, hall⟩ := sendChunks_ok (c := calm p.satellite.handler) hp.1 hp.2.1
    (fun _ => hp.configured.handler) 0 (p.satellite.createDataDump p.log.bytes fun _ => blankChunk)
    (Satellite.createDataDump_utterance hp.configured.id_eq hp.configured.port_eq _ _)
  have hgoes := dumpCycle_goes (c := calm p.satellite.handler) hknown rfl rfl hsent
  refine ⟨p, w, hrun, ?_⟩
  rw [AllOrNothing, hgoes]
  rintro (⟨sent', hsent', hpassed⟩ | ⟨hsame, -⟩)
  · cases hsent'
    refine hdrops (hall.mp hpassed 0 ?_)
    rw [Satellite.length_createDataDump, fileChunks, Config.MAX_FILE_CHUNKS, readChunks, List.length_cons]
    omega
  · exact hlog hsame.symm

theorem dumpCycle_iff_met : ∃ p w, run step atRest (quietLink.take 2) = .ok (p, w) ∧
    p.AllOrNothing (calm p.satellite.handler) := by
  obtain ⟨p, w, peer, hrun, hpeer, hup⟩ : ∃ p w peer, run step atRest (quietLink.take 2) = .ok (p, w) ∧
      p.satellite.handler.connections.lookup 0 = some peer ∧ peer.state = .connected := ⟨_, _, _, rfl, rfl, rfl⟩
  have hp : Reachable 1 5001 p := ⟨by decide, by decide, _, _, _, _, _, _, _, _, _, hrun⟩
  exact ⟨p, w, hrun, (dumpCycle_iff hp (calm_reachable hp)).mpr (.inr (.inr (.inl fun _ _ => ⟨peer, hpeer, hup⟩)))⟩

end SatelliteProcess

end Constellation
