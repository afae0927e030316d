import Constellation.GroundControl.Ledger
import Constellation.GroundControl.SatelliteData

/-!
# The terminal, and ground control as a whole

The terminal has a data object for each satellite of the configuration file and feeds it from the output
queue (`runQueueThread`). `Station` is ground control with its terminal and the queue between them: the steps of
its threads queue results, and the queue thread pops them one by one.

`connectToSatellites` is the boot. It reads the configuration file line by line; what the clock, the sockets
and the file system answer while it is at a line is given by the number of the line. A line that throws is
skipped, but an id that was added to the handler by then stays there. The data object of an id that the
terminal has already is destroyed again, and its destructor waits for the thread of its logger, which does
not end while the program runs.
-/

namespace Constellation

structure Terminal where
  sats : Table Int32 SatelliteData

namespace Terminal

def addSat (t : Terminal) (sat : SatelliteData) : Except Stop Terminal := do
  let id ← sat.getSatId
  return { sats := (t.sats.emplace id sat).1 }

/-- The data object after a result of the queue. -/
def absorb (sat : SatelliteData) (msg : SatOutput) : Except Stop SatelliteData :=
  let sat := if msg.chunks ≠ [] then
      { sat with loggerQueue := sat.loggerQueue ++ SatelliteData.logData msg.chunks } else sat
  let sat := if msg.dump_msg = 1 then
      (sat.updateVals msg.x msg.y msg.z msg.vx msg.vy msg.vz).updatePackets msg.packetsReceived msg.packetsSent
    else sat
  sat.markAlive msg.alive

/-- One round of the loop. -/
def runQueueThread (t : Terminal) (msg : SatOutput) : Except Stop Terminal :=
  match t.sats.lookup msg.id.toInt32 with
  | none => .ok t
  | some sat => do
    let sat ← absorb sat msg
    return { sats := t.sats.modify msg.id.toInt32 fun _ => sat }

section
variable {t t' : Terminal} {msg : SatOutput} {id : Int32}

theorem runQueueThread_self (h : t.runQueueThread msg = .ok t') (hid : msg.id = id.toUInt32) {d : SatelliteData}
    (hd : t.sats.lookup id = some d) : ∃ d', absorb d msg = .ok d' ∧ t'.sats.lookup id = some d' := by
  have hkey : msg.id.toInt32 = id := by rw [hid, Int32.toInt32_toUInt32]
  rw [runQueueThread, hkey, hd] at h
  obtain ⟨d', habsorb, hret⟩ := bind_eq_ok.mp h
  cases hret
  refine ⟨d', habsorb, ?_⟩
  rw [Table.lookup_modify_self, hd]
  rfl

theorem runQueueThread_others (h : t.runQueueThread msg = .ok t') (hid : msg.id ≠ id.toUInt32) :
    t'.sats.lookup id = t.sats.lookup id := by
  have hkey : id ≠ msg.id.toInt32 := by
    intro heq
    rw [heq, UInt32.toUInt32_toInt32] at hid
    exact hid rfl
  unfold runQueueThread at h
  split at h
  · cases h
    rfl
  · obtain ⟨d', -, hret⟩ := bind_eq_ok.mp h
    cases hret
    exact Table.lookup_modify_of_ne _ _ hkey

theorem absorb_logs {sat sat' : SatelliteData} (h : absorb sat msg = .ok sat') :
    sat'.loggerQueue = sat.loggerQueue ++ if msg.chunks ≠ [] then SatelliteData.logData msg.chunks else [] := by
  obtain ⟨-, hret⟩ := assert_bind_eq_ok.mp h
  cases hret
  by_cases hchunks : msg.chunks = [] <;> by_cases hdump : msg.dump_msg = 1 <;>
    simp [hchunks, hdump, SatelliteData.updateVals, SatelliteData.updatePackets]

end

end Terminal

/-- How the boot can fail to return. -/
inductive Halt
  | stops (why : Stop)
  /-- It waits for a thread that does not end. -/
  | hangs (thread : String)

structure Station where
  control : GroundControl
  terminal : Terminal
  outputQueue : List SatOutput

/-- What is answered while the boot is at one line: the clock, the sockets, and whether the log file of the
satellite can be opened. -/
structure Surroundings where
  now : Nat
  os : Int32 → Os
  opens : Bool

namespace Station

/-- The processes before the boot. -/
def init (buf : RecvBuffer) : Station where
  control := .init Config.GC_PORT buf
  terminal := { sats := ∅ }
  outputQueue := []

/-- The fields of a line: id, address and port. A line with fewer fields is read past its end. -/
def configFields (line : List UInt8) : Except Stop (Int32 × String × Int32) :=
  match getlines 32 line with
  | [] => .error (.undefined "split[0]")
  | id :: rest =>
    match Scanf.stoi id with
    | none => .error (.throws "stoi")
    | some id =>
      match rest with
      | ip :: port :: _ =>
        match Scanf.stoi port with
        | none => .error (.throws "stoi")
        | some port => .ok (id, String.ofList (ip.map fun b => Char.ofNat b.toNat), port)
      | _ => .error (.undefined "split[2]")

/-- The line that tells of a skipped line. -/
def skipped (what : String) : Effect := .log ("Failed to parse satellite config: " ++ what)

/-- One line of the file, and whether it counts. -/
def connectLine (st : Station) (env : Surroundings) (line : List UInt8) :
    Except Halt (Bool × Station × List Effect) :=
  match configFields line with
  | .error (.throws what) => .ok (false, st, [skipped what])
  | .error why => .error (.stops why)
  | .ok (id, ip, port) =>
    match st.control.handler.addConnection env.now env.os port ip id with
    | .error why => .error (.stops why)
    | .ok (handler, effects) =>
      let st := { st with control := { st.control with handler } }
      if env.opens = false then .ok (false, st, effects ++ [skipped "File failed to open"])
      else if id ∈ st.terminal.sats then .error (.hangs "Logger::log")
      else
        match st.terminal.addSat (SatelliteData.new id) with
        | .error why => .error (.stops why)
        | .ok terminal => .ok (true, { st with terminal }, effects)

/-- The loop over the lines, at line number `n` with `i` lines counted. -/
def connectLines (env : Nat → Surroundings) (n i : Nat) (st : Station) :
    List (List UInt8) → Except Halt (Station × List Effect)
  | [] => .ok (st, [])
  | line :: lines =>
    if i < Config.MAX_CONFIG_LINES then
      match connectLine st (env n) line with
      | .error why => .error why
      | .ok (counts, st, effects) =>
        match connectLines env (n + 1) (if counts then i + 1 else i) st lines with
        | .error why => .error why
        | .ok (st, rest) => .ok (st, effects ++ rest)
    else .ok (st, [])

def connectToSatellites (env : Nat → Surroundings) (st : Station) (file : List UInt8) :
    Except Halt (Station × List Effect) :=
  connectLines env 0 0 st (getlines 10 file)

/-- A step of a thread that may queue results, or of the thread that pops them. Popping from an empty queue
waits, which is no step. -/
inductive Act
  | control (e : GroundControl.Input)
  | pop

def step (st : Station) : Act → Except Stop (Station × List Effect)
  | .control e => do
    let (control, effects) ← st.control.take e
    return ({ st with control, outputQueue := st.outputQueue ++ outputs effects }, effects)
  | .pop =>
    match st.outputQueue with
    | [] => .ok (st, [])
    | msg :: rest => do
      let terminal ← st.terminal.runQueueThread msg
      return ({ st with terminal, outputQueue := rest }, [])

/-- The satellites the file lists: the ids of the lines that can be read and whose log file can be opened,
as many as count. -/
def listed (env : Nat → Surroundings) (n : Nat) : List (List UInt8) → List Int32
  | [] => []
  | line :: lines =>
    match configFields line with
    | .ok (id, _, _) => if (env n).opens = true then id :: listed env (n + 1) lines else listed env (n + 1) lines
    | .error _ => listed env (n + 1) lines

/-- The satellites of the configuration file. -/
def configured (env : Nat → Surroundings) (file : List UInt8) : List Int32 :=
  (listed env 0 (getlines 10 file)).take Config.MAX_CONFIG_LINES

end Station

end Constellation
