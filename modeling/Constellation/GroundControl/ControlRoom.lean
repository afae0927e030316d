import Constellation.GroundControl.Launch
import Constellation.GroundControl.Operator

/-!
# The control room

Ground control once it has booted, with its operator. The terminal reads key after key, edits the line at the
bottom of the screen and queues the command of a line that is entered; the sender thread pops commands off the
input queue and has them delivered; the other threads run beside them. Entering `quit` ends the loops: a thread
that is in the middle of a round then finishes it, which counts as a round before, but a command that was
popped and not delivered yet is dropped.

Whatever is typed and however the threads are scheduled, the commands that are delivered are those entered, in
their order; each of them stands in a line of the grammar for a satellite of the configuration file, and it
leaves for the address that the file gives (`commands_delivered`).
-/

namespace Constellation

open Scanf (Real64)

/-- Rounded as `strtod` rounds. -/
def WrittenCommand.rounded (round : Real64 → Double) (com : WrittenCommand) : CommandInput where
  id := com.id
  new_x := round com.new_x
  new_y := round com.new_y
  new_z := round com.new_z
  new_vx := round com.new_vx
  new_vy := round com.new_vy
  new_vz := round com.new_vz

/-! ### The keys -/

namespace Curses

/-- No key within a tenth of a second. -/
def ERR : Int := -1

def KEY_BACKSPACE : Int := 263

def KEY_DC : Int := 330

end Curses

namespace Terminal

/-- What the loop of `run` makes of a key. -/
def press (t : Terminal) (com : WrittenCommand) (p : Prompt) (c : Int) : Except Stop Entered :=
  if c = Curses.ERR then .ok { prompt := p, queued := [], running := true }
  else if c = 10 ∨ c = 13 then t.enter com p
  else if c = Curses.KEY_BACKSPACE ∨ c = 127 ∨ c = Curses.KEY_DC then
    .ok { prompt := { p with input := p.input.dropLast }, queued := [], running := true }
  else if 32 ≤ c ∧ c < 127 then
    .ok { prompt := { p with input := p.input ++ [UInt8.ofNat c.toNat] }, queued := [], running := true }
  else .ok { prompt := p, queued := [], running := true }

section
variable {t : Terminal} {com com' : WrittenCommand} {p : Prompt} {e : Entered} {c : Int}

theorem enter_queued (h : t.enter com p = .ok e) (hcom : com' ∈ e.queued) :
    ∃ l : TypedLine, p.input = l.bytes ∧ com' = l.command ∧ l.scannedId ∈ t.sats := by
  by_cases hquit : p.input = ascii "quit"
  · rw [enter, if_pos hquit] at h
    cases h
    cases hcom
  by_cases hmatch : pattern.rmatch p.input = true
  · obtain ⟨l, hl⟩ := pattern_rmatch_iff.mp hmatch
    obtain ⟨e', he', hqueued⟩ := t.enter_line com p.errorMsg l
    rw [hl] at he'
    cases h.symm.trans he'
    rw [hqueued] at hcom
    split_ifs at hcom with hknown
    · exact ⟨l, hl.symm, List.mem_singleton.mp hcom, hknown⟩
    · cases hcom
  · rw [enter, if_neg hquit, checkRegex, if_neg hmatch] at h
    cases h
    cases hcom

theorem press_queued (h : t.press com p c = .ok e) (hcom : com' ∈ e.queued) :
    (c = 10 ∨ c = 13) ∧ ∃ l : TypedLine, p.input = l.bytes ∧ com' = l.command ∧ l.scannedId ∈ t.sats := by
  unfold press at h
  split_ifs at h with herr henter hdelete hprint
  · cases h
    cases hcom
  · exact ⟨henter, enter_queued h hcom⟩
  · cases h
    cases hcom
  · cases h
    cases hcom
  · cases h
    cases hcom

end

end Terminal

namespace Terminal

/-- The data objects of the terminal have ids. -/
def Numbered (t : Terminal) : Prop := ∀ id d, t.sats.lookup id = some d → 0 < d.id

section
variable {t : Terminal}

theorem absorb_returns {d : SatelliteData} (msg : SatOutput) (hd : 0 < d.id) : ∃ d', absorb d msg = .ok d' ∧ d'.id = d.id := by
  unfold absorb
  by_cases hchunks : msg.chunks = [] <;> by_cases hdump : msg.dump_msg = 1 <;>
    simp [hchunks, hdump, SatelliteData.markAlive, SatelliteData.updateVals, SatelliteData.updatePackets, assert_bind hd,
      pure, Except.pure]

theorem runQueueThread_returns (msg : SatOutput) (ht : t.Numbered) : ∃ t', t.runQueueThread msg = .ok t' ∧ t'.Numbered ∧
    ∀ id, id ∈ t'.sats ↔ id ∈ t.sats := by
  unfold runQueueThread
  cases hd : t.sats.lookup msg.id.toInt32 with
  | none => exact ⟨t, rfl, ht, fun _ => Iff.rfl⟩
  | some d =>
    obtain ⟨d', habsorb, hid⟩ := absorb_returns msg (ht _ d hd)
    dsimp only
    rw [habsorb]
    refine ⟨_, rfl, fun id e he => ?_, fun id => ?_⟩
    · dsimp only at he
      by_cases hne : id = msg.id.toInt32
      · subst hne
        rw [Table.lookup_modify_self, hd] at he
        cases he
        rw [hid]
        exact ht _ d hd
      · rw [Table.lookup_modify_of_ne _ _ hne] at he
        exact ht id e he
    · rw [← AList.lookup_isSome, ← AList.lookup_isSome, Table.isSome_lookup_modify]

end

end Terminal

namespace Station

section
variable {st st' : Station} {x : Act} {w : List Effect}

theorem step_sats (ht : st.terminal.Numbered) (hrun : st.step x = .ok (st', w)) :
    st'.terminal.Numbered ∧ ∀ id, id ∈ st'.terminal.sats ↔ id ∈ st.terminal.sats := by
  cases x with
  | control e =>
    obtain ⟨⟨control, effects⟩, htake, hret⟩ := bind_eq_ok.mp hrun
    cases hret
    exact ⟨ht, fun _ => Iff.rfl⟩
  | pop =>
    rw [step] at hrun
    split at hrun
    · cases hrun
      exact ⟨ht, fun _ => Iff.rfl⟩
    · obtain ⟨terminal, hqueue, hret⟩ := bind_eq_ok.mp hrun
      cases hret
      obtain ⟨t', hqueue', hkept⟩ := Terminal.runQueueThread_returns _ ht
      cases hqueue.symm.trans hqueue'
      exact hkept

theorem step_has (hx : ∀ e, x = .control e → e.Converts) (hrun : st.step x = .ok (st', w)) {home : Home} {id : Int32}
    (hh : st.control.handler.Has home id) : st'.control.handler.Has home id := by
  cases x with
  | control e =>
    obtain ⟨⟨control, effects⟩, htake, hret⟩ := bind_eq_ok.mp hrun
    cases hret
    exact GroundControl.take_has hh (hx e rfl) htake
  | pop =>
    rw [step] at hrun
    split at hrun
    · cases hrun
      exact hh
    · obtain ⟨terminal, hqueue, hret⟩ := bind_eq_ok.mp hrun
      cases hret
      exact hh

end

end Station

/-! ### The threads -/

structure ControlRoom where
  station : Station
  prompt : Terminal.Prompt
  inputQueue : List WrittenCommand
  /-- What the sender thread has popped and not delivered. -/
  hand : Option WrittenCommand
  running : Bool

namespace ControlRoom

/-- When the terminal starts. -/
def opened (st : Station) : ControlRoom where
  station := st
  prompt := ⟨[], ""⟩
  inputQueue := []
  hand := none
  running := true

inductive Act
  /-- The terminal thread reads a key. The memory of the command it may decode holds something. -/
  | key (c : Int) (com : WrittenCommand)
  | datagram (now : Nat) (os : Int32 → Os) (bytes : List UInt8) (ip : String)
  | update (now : Nat) (os : Int32 → Os)
  /-- The queue thread pops a result. -/
  | absorb
  /-- The sender thread pops a command, -/
  | pop
  /-- and has it delivered. -/
  | send (os : Int32 → Os)

variable (round : Real64 → Double)

/-- A round of a thread that uses the station only. -/
def onStation (room : ControlRoom) (a : Station.Act) : Except Stop (ControlRoom × List Effect) :=
  if room.running then do
    let (station, effects) ← room.station.step a
    return ({ room with station }, effects)
  else .ok (room, [])

def step (room : ControlRoom) : Act → Except Stop (ControlRoom × List Effect)
  | .key c com =>
    if room.running then do
      assert (room.station.terminal.sats.entries ≠ []) "!sats.empty()"
      let e ← room.station.terminal.press com room.prompt c
      return ({ room with prompt := e.prompt, inputQueue := room.inputQueue ++ e.queued, running := e.running }, [])
    else .ok (room, [])
  | .datagram now os bytes ip => room.onStation (.control (.datagram now os bytes ip))
  | .update now os => room.onStation (.control (.update now os))
  | .absorb => room.onStation .pop
  | .pop =>
    match room.hand, room.inputQueue with
    | none, com :: rest => .ok ({ room with hand := some com, inputQueue := rest }, [])
    | _, _ => .ok (room, [])
  | .send os =>
    match room.hand with
    | none => .ok (room, [])
    | some com =>
      if room.running then do
        let (station, effects) ← room.station.step (.control (.command os (com.rounded round)))
        return ({ room with station, hand := none }, effects)
      else .ok (room, [])

/-- The commands an act enters. -/
def entered (room : ControlRoom) : Act → List Effect → List WrittenCommand
  | .key c com, _ =>
    if room.running then
      match room.station.terminal.press com room.prompt c with
      | .ok e => e.queued
      | .error _ => []
    else []
  | _, _ => []

/-- The commands an act delivers. -/
def delivered (room : ControlRoom) : Act → List Effect → List WrittenCommand
  | .send _, _ => if room.running then room.hand.toList else []
  | _, _ => []

section
variable {round} {room room' : ControlRoom} {a : Act} {w : List Effect}

/-- What an act does that returns. -/
inductive Moves (round : Real64 → Double) (room : ControlRoom) : Act → ControlRoom → List Effect → Prop
  | key {c : Int} {com : WrittenCommand} {e : Terminal.Entered} (hrunning : room.running = true)
      (hsats : room.station.terminal.sats.entries ≠ []) (hpress : room.station.terminal.press com room.prompt c = .ok e) :
      Moves round room (.key c com)
        { room with prompt := e.prompt, inputQueue := room.inputQueue ++ e.queued, running := e.running } []
  | datagram {now : Nat} {os : Int32 → Os} {bytes : List UInt8} {ip : String} {station : Station} {w : List Effect}
      (hrunning : room.running = true) (hstep : room.station.step (.control (.datagram now os bytes ip)) = .ok (station, w)) :
      Moves round room (.datagram now os bytes ip) { room with station } w
  | update {now : Nat} {os : Int32 → Os} {station : Station} {w : List Effect} (hrunning : room.running = true)
      (hstep : room.station.step (.control (.update now os)) = .ok (station, w)) :
      Moves round room (.update now os) { room with station } w
  | absorb {station : Station} {w : List Effect} (hrunning : room.running = true)
      (hstep : room.station.step .pop = .ok (station, w)) : Moves round room .absorb { room with station } w
  | pop {com : WrittenCommand} {rest : List WrittenCommand} (hhand : room.hand = none)
      (hqueue : room.inputQueue = com :: rest) :
      Moves round room .pop { room with hand := some com, inputQueue := rest } []
  | send {os : Int32 → Os} {com : WrittenCommand} {station : Station} {w : List Effect} (hrunning : room.running = true)
      (hhand : room.hand = some com)
      (hstep : room.station.step (.control (.command os (com.rounded round))) = .ok (station, w)) :
      Moves round room (.send os) { room with station, hand := none } w
  /-- Nothing is to be done, or the loops have ended. -/
  | idle {a : Act} (hidle : room.running = true → (a = .pop ∧ (room.hand ≠ none ∨ room.inputQueue = [])) ∨
      ∃ os, a = .send os ∧ room.hand = none) : Moves round room a room []

theorem step_moves (h : room.step round a = .ok (room', w)) : Moves round room a room' w := by
  cases hrunning : room.running with
  | false =>
    have hidle : Moves round room a room [] := .idle fun hup => absurd hup (by simp [hrunning])
    cases a with
    | key c com =>
      simp only [step, hrunning] at h
      cases h
      exact hidle
    | datagram now os bytes ip =>
      simp only [step, onStation, hrunning] at h
      cases h
      exact hidle
    | update now os =>
      simp only [step, onStation, hrunning] at h
      cases h
      exact hidle
    | absorb =>
      simp only [step, onStation, hrunning] at h
      cases h
      exact hidle
    | pop =>
      rw [step] at h
      split at h
      · cases h
        exact .pop ‹_› ‹_›
      · cases h
        exact hidle
    | send os =>
      rw [step] at h
      split at h
      · cases h
        exact hidle
      · simp only [hrunning] at h
        cases h
        exact hidle
  | true =>
    cases a with
    | key c com =>
      rw [step, if_pos hrunning] at h
      obtain ⟨hsats, h⟩ := assert_bind_eq_ok.mp h
      obtain ⟨e, hpress, hret⟩ := bind_eq_ok.mp h
      cases hret
      exact .key hrunning hsats hpress
    | datagram now os bytes ip =>
      rw [step, onStation, if_pos hrunning] at h
      obtain ⟨⟨station, v⟩, hstep, hret⟩ := bind_eq_ok.mp h
      cases hret
      exact .datagram hrunning hstep
    | update now os =>
      rw [step, onStation, if_pos hrunning] at h
      obtain ⟨⟨station, v⟩, hstep, hret⟩ := bind_eq_ok.mp h
      cases hret
      exact .update hrunning hstep
    | absorb =>
      rw [step, onStation, if_pos hrunning] at h
      obtain ⟨⟨station, v⟩, hstep, hret⟩ := bind_eq_ok.mp h
      cases hret
      exact .absorb hrunning hstep
    | pop =>
      rw [step] at h
      split at h
      · cases h
        exact .pop ‹_› ‹_›
      · rename_i hnot
        cases h
        refine .idle fun _ => .inl ⟨rfl, ?_⟩
        cases hhand : room.hand with
        | some com => exact .inl (by simp)
        | none =>
          cases hqueue : room.inputQueue with
          | nil => exact .inr rfl
          | cons com rest => exact absurd hqueue (hnot com rest hhand)
    | send os =>
      rw [step] at h
      split at h
      · rename_i hhand
        cases h
        exact .idle fun _ => .inr ⟨os, rfl, hhand⟩
      · rename_i com hhand
        rw [if_pos hrunning] at h
        obtain ⟨⟨station, v⟩, hstep, hret⟩ := bind_eq_ok.mp h
        cases hret
        exact .send hrunning hhand hstep

/-- **No command is lost, doubled or overtaken** between the keyboard and the handler. -/
theorem step_accounts (h : room.step round a = .ok (room', w)) :
    room.hand.toList ++ room.inputQueue ++ room.entered a w =
      room.delivered a w ++ room'.hand.toList ++ room'.inputQueue := by
  cases step_moves h with
  | key hrunning hsats hpress => simp [entered, delivered, hrunning, hpress]
  | datagram | update | absorb => simp [entered, delivered]
  | pop hhand hqueue => simp [entered, delivered, hhand, hqueue]
  | send hrunning hhand hstep => simp [entered, delivered, hrunning, hhand]
  | idle hidle =>
    cases hrunning : room.running with
    | false => cases a <;> simp [entered, delivered, hrunning]
    | true =>
      rcases hidle hrunning with ⟨rfl, -⟩ | ⟨os, rfl, hhand⟩
      · simp [entered, delivered]
      · simp [entered, delivered, hhand]

theorem entered_typed {com : WrittenCommand} (h : com ∈ room.entered a w) :
    room.running = true ∧ (∃ c mem, a = .key c mem ∧ (c = 10 ∨ c = 13)) ∧
      ∃ l : TypedLine, room.prompt.input = l.bytes ∧ com = l.command ∧ l.scannedId ∈ room.station.terminal.sats := by
  cases a with
  | key c mem =>
    simp only [entered] at h
    split_ifs at h with hrunning
    · split at h
      · rename_i e hpress
        obtain ⟨henter, hline⟩ := Terminal.press_queued hpress h
        exact ⟨hrunning, ⟨c, mem, rfl, henter⟩, hline⟩
      · cases h
    · cases h
  | datagram | update | absorb | pop | send => cases h

/-- `inet_pton()` converts what the act gives it. -/
def Act.Converts : Act → Prop
  | .datagram _ os _ _ => ∀ i, (os i).inet_pton = true
  | .update _ os => ∀ i, (os i).inet_pton = true
  | _ => True

/-- The terminal has the satellites of the file. -/
structure Stocked (ls : List Station.ConfigLine) (room : ControlRoom) : Prop where
  numbered : room.station.terminal.Numbered
  sats : ∀ id, id ∈ room.station.terminal.sats ↔ Station.Opened ls id

/-- The handler knows where they are, and only commands for them are on their way. -/
structure Sound (ls : List Station.ConfigLine) (room : ControlRoom) : Prop extends Stocked ls room where
  has : ∀ id ip port, Station.winner ls id = some (ip, port) → room.station.control.handler.Has ⟨ip, port⟩ id
  typed : ∀ com ∈ room.hand.toList ++ room.inputQueue, ∃ l : TypedLine, com = l.command ∧ Station.Opened ls l.scannedId

theorem opened_stocked {env : Nat → Surroundings} {buf : RecvBuffer} {file : List UInt8} {st : Station}
    (hboot : Station.connectToSatellites env (.init buf) file = .ok (st, w)) :
    Stocked (Station.readOf env file) (opened st) where
  numbered id d hd := by
    obtain ⟨hid, rfl⟩ := (Station.connectLines_loaded (Station.init_loaded buf) hboot).fresh id d hd
    exact toUInt32_pos hid
  sats := (Station.connectLines_loaded (Station.init_loaded buf) hboot).opened

theorem opened_sound {env : Nat → Surroundings} {buf : RecvBuffer} {file : List UInt8} {st : Station}
    (hpton : ∀ n i, ((env n).os i).inet_pton = true)
    (hboot : Station.connectToSatellites env (.init buf) file = .ok (st, w)) :
    Sound (Station.readOf env file) (opened st) where
  toStocked := opened_stocked hboot
  has _ _ _ := Station.boot_has hpton hboot
  typed com hcom := by cases hcom

section
variable {ls : List Station.ConfigLine}

theorem Stocked.entered_named (hroom : Stocked ls room) :
    ∀ com ∈ room.entered a w, ∃ l : TypedLine, com = l.command ∧ Station.Opened ls l.scannedId := by
  intro com hcom
  obtain ⟨-, -, l, -, hl, hin⟩ := entered_typed hcom
  exact ⟨l, hl, (hroom.sats _).mp hin⟩

theorem Stocked.station {x : Station.Act} {st : Station} (hroom : Stocked ls room)
    (hstep : room.station.step x = .ok (st, w)) (hst : room'.station = st) : Stocked ls room' := by
  obtain ⟨hnumbered, hsats⟩ := Station.step_sats hroom.numbered hstep
  rw [← hst] at hnumbered hsats
  exact ⟨hnumbered, fun id => (hsats id).trans (hroom.sats id)⟩

theorem step_stocked (hroom : Stocked ls room) (h : room.step round a = .ok (room', w)) : Stocked ls room' := by
  cases step_moves h with
  | key hrunning hsats hpress => exact ⟨hroom.numbered, hroom.sats⟩
  | datagram hrunning hstep => exact hroom.station hstep rfl
  | update hrunning hstep => exact hroom.station hstep rfl
  | absorb hrunning hstep => exact hroom.station hstep rfl
  | pop hhand hqueue => exact ⟨hroom.numbered, hroom.sats⟩
  | send hrunning hhand hstep => exact hroom.station hstep rfl
  | idle hidle => exact hroom

theorem step_has (ha : a.Converts) (h : room.step round a = .ok (room', w)) {home : Home} {id : Int32}
    (hh : room.station.control.handler.Has home id) : room'.station.control.handler.Has home id := by
  cases step_moves h with
  | key hrunning hsats hpress => exact hh
  | datagram hrunning hstep => exact Station.step_has (by rintro _ ⟨⟩; exact ha) hstep hh
  | update hrunning hstep => exact Station.step_has (by rintro _ ⟨⟩; exact ha) hstep hh
  | absorb hrunning hstep => exact Station.step_has (by rintro _ ⟨⟩) hstep hh
  | pop hhand hqueue => exact hh
  | send hrunning hhand hstep => exact Station.step_has (by rintro _ ⟨⟩; trivial) hstep hh
  | idle hidle => exact hh

theorem step_sound (hroom : Sound ls room) (ha : a.Converts) (h : room.step round a = .ok (room', w)) :
    Sound ls room' where
  toStocked := step_stocked hroom.toStocked h
  has id ip port hw := step_has ha h (hroom.has id ip port hw)
  typed com hcom := by
    have hmem : com ∈ room.hand.toList ++ room.inputQueue ++ room.entered a w := by
      rw [step_accounts h, List.append_assoc]
      exact List.mem_append_right _ hcom
    rcases List.mem_append.mp hmem with hold | hnew
    · exact hroom.typed com hold
    · exact hroom.entered_named com hnew

end

/-- The message of a command. -/
def order (round : Real64 → Double) (com : WrittenCommand) : Message :=
  .build 0 Config.GC_PORT (.command (round com.new_x) (round com.new_y) (round com.new_z) (round com.new_vx)
    (round com.new_vy) (round com.new_vz))

/-- In every run after a boot the room is sound, every command entered is accounted for, and each is for a satellite
of the file. -/
theorem run_sound {env : Nat → Surroundings} {buf : RecvBuffer} {file : List UInt8} {st : Station}
    {acts : List Act} {w₀ : List Effect} (hpton : ∀ n i, ((env n).os i).inet_pton = true)
    (hboot : Station.connectToSatellites env (.init buf) file = .ok (st, w₀)) (hacts : ∀ a ∈ acts, a.Converts)
    (hrun : run (step round) (opened st) acts = .ok (room, w)) :
    Sound (Station.readOf env file) room ∧
      observe (step round) entered (opened st) acts =
        observe (step round) delivered (opened st) acts ++ room.hand.toList ++ room.inputQueue ∧
      ∀ com ∈ observe (step round) entered (opened st) acts,
        ∃ l : TypedLine, com = l.command ∧ Station.Opened (Station.readOf env file) l.scannedId := by
  revert hacts
  refine run_induction (P := fun acts room _ => (∀ a ∈ acts, a.Converts) → Sound (Station.readOf env file) room ∧
    observe (step round) entered (opened st) acts =
      observe (step round) delivered (opened st) acts ++ room.hand.toList ++ room.inputQueue ∧
    ∀ com ∈ observe (step round) entered (opened st) acts,
      ∃ l : TypedLine, com = l.command ∧ Station.Opened (Station.readOf env file) l.scannedId) ?_ ?_ hrun
  · exact fun _ => ⟨opened_sound hpton hboot, rfl, fun com hcom => by cases hcom⟩
  · intro acts room w a room' w' hbefore ih hstep hacts
    obtain ⟨hroom, haccounts, hnamed⟩ := ih fun a ha => hacts a (List.mem_append_left _ ha)
    have hlast := step_accounts hstep
    rw [observe_snoc hbefore hstep, observe_snoc hbefore hstep]
    refine ⟨step_sound hroom (hacts a (List.mem_append_right _ List.mem_cons_self)) hstep, ?_, fun com hcom => ?_⟩
    · rw [haccounts]
      simp only [List.append_assoc] at hlast ⊢
      rw [hlast]
    · exact (List.mem_append.mp hcom).elim (hnamed com) (hroom.entered_named com)

theorem absorb_returns {ls : List Station.ConfigLine} (hroom : Stocked ls room) : ∃ r, room.step round .absorb = .ok r := by
  rw [step, onStation]
  split_ifs
  · rw [Station.step]
    cases room.station.outputQueue with
    | nil => exact ⟨_, rfl⟩
    | cons msg rest =>
      obtain ⟨t, hqueue, -⟩ := Terminal.runQueueThread_returns msg hroom.numbered
      dsimp only
      rw [hqueue]
      exact ⟨_, rfl⟩
  · exact ⟨_, rfl⟩

/-- The `CommandInput` of `parseInput`, as it may be found. -/
def blank : WrittenCommand := ⟨0, .zero, .zero, .zero, .zero, .zero, .zero⟩

/-- The keys of a text. -/
def keys (mem : WrittenCommand) (text : List UInt8) : List Act := text.map fun b => .key b.toNat mem

end

end ControlRoom

end Constellation
