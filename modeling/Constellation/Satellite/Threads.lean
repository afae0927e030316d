import Constellation.Concurrency.Progress
import Constellation.Protocol.Server
import Constellation.Satellite.Process

/-!
# The threads of a satellite

The threads of a satellite step by step: the main thread, which waits, the listener, the sender, the simulation and the
logger. They share the handler of the connections, the queue of the logger and its file. The flag is never cleared: a
signal ends the process from outside.

Whatever the interleaving, nobody is stuck (`never_stuck`): a thread that cannot take a step waits for a lock whose
holder can, or it is the logger and what is queued for it is about to be announced, or it is the listener on a socket
without a port. A round here is one whose calls return. One that aborts or throws ends the process, and all threads
with it.
-/

namespace Constellation

/-- `NetworkManager::startServer`. -/
def SatelliteProcess.startServer (port : Int32) (os : ServerOs) : Except Stop (ServerSocket × List Effect) := do
  assert (0 < port) "port > 0"
  openServer port os

namespace SatelliteThreads

inductive Thread
  | main
  | listener
  | sender
  | simulation
  | logger
  deriving DecidableEq

instance : Fintype Thread where
  elems := {.main, .listener, .sender, .simulation, .logger}
  complete t := by cases t <;> simp

/-- The queue of the logger. -/
inductive Queue
  | log
  deriving DecidableEq

inductive Mutex
  | handler
  | file
  deriving DecidableEq

abbrev Script := List (Op Thread Queue Mutex String)

/-- What an effect pushes. -/
def item : Effect → Option (Queue × String)
  | .log line => some (.log, line)
  | _ => none

def pushes (w : List Effect) : Script := Threads.pushes item w

/-- A call of the handler. -/
def locked (w : List Effect) : Script := Threads.critical .handler (pushes w)

/-- What the listener does with the type of a message: it clears the log, or answers a command, or neither. -/
inductive Types : Script → Prop
  | clears : Types (Threads.critical .file [])
  | answers {h : ConnectionHandler} {os : Int32 → Os} {m : Message} {w : List Effect} (hack : h.sendMessageToPeer os 0 m = .ok w) :
      Types (locked w)
  | neither : Types []

/-- What it does about the sender. -/
inductive Meets (m : Message) : Script → Prop
  | stranger {h h' : ConnectionHandler} {now : Nat} {os : Int32 → Os} {ip : String} {satId : Int32} {w : List Effect}
      (hadd : h.addConnection now os m.senderPort ip m.senderId satId = .ok (h', w)) : Meets m (locked [] ++ locked w)
  | known : Meets m (locked [] ++ locked [])

/-- The line that tells of a message. -/
def receivedLine (m : Message) : Effect :=
  .log (if m.senderId ≠ 0 then "[NETWORK] Message received from Satellite: " ++ toString m.senderId
    else "[NETWORK] Message received from Ground Control")

/-- The rounds of the loops, as long as the calls in them return. -/
inductive Round (socket : ServerSocket) : Thread → Script → Prop
  | idle : Round socket .main [.call true]
  | step {h h' : ConnectionHandler} {now : Nat} {os : Int32 → Os} {w : List Effect} (hupdate : h.update now os = .ok (h', w))
      (s : Satellite) : Round socket .simulation (locked w ++ pushes s.print ++ [.call true])
  | broadcast {h : ConnectionHandler} {os : Int32 → Os} {m : Message} {w : List Effect} (hsend : h.broadcastMessage os m = .ok w) :
      Round socket .sender (locked w ++ [.call true])
  /-- The sender reports, and sends the chunks of a dump if it knows ground control. -/
  | report {h h' : ConnectionHandler} {os : Int32 → Os} {m : Message} {w v : List Effect} {chunks : List (List Effect)}
      (hsend : h.broadcastMessage os m = .ok w) (hprint : h'.printAllPeers = .ok v)
      (hchunks : ∀ x ∈ chunks, ∃ (h : ConnectionHandler) (os : Int32 → Os) (m : Message), h.sendMessageToPeer os 0 m = .ok x) :
      Round socket .sender (locked w ++ [.call true] ++ locked v ++ locked [] ++ chunks.flatMap locked)
  /-- Nothing came in, or nothing that can be decoded. -/
  | nothing : Round socket .listener [.call socket.returns]
  | message {m : Message} {typed met : Script} (htyped : Types typed) (hmet : Meets m met) :
      Round socket .listener (.call socket.returns :: (typed ++ met ++ pushes [receivedLine m]))
  /-- An empty line is not written. -/
  | log (blank : Bool) : Round socket .logger ([.pop .log, .check] ++ if blank then [] else Threads.critical .file [])

/-- The threads once all are started. By then the main thread has logged what the arguments and the server had to say, and
the sender begins by connecting to ground control. -/
def program (socket : ServerSocket) (opening greeting : List Effect) : Threads.Program Thread Queue Mutex String where
  main := .main
  serves t _ := t = .logger
  opening
    | .main => pushes opening
    | .sender => locked greeting
    | _ => []
  Round := Round socket

section
variable {socket : ServerSocket} {opening greeting : List Effect} {t : Thread} {ops : Script}

theorem quiet_locked (w : List Effect) : Threads.Quiet (locked w) := .critical item w _

theorem quiet_pushes (w : List Effect) : Threads.Quiet (pushes w) := .pushes item w

theorem Types.quiet (h : Types ops) : Threads.Quiet ops := by
  cases h with
  | clears => exact .empty _
  | answers hack => exact quiet_locked _
  | neither => exact .nil

theorem Meets.quiet {m : Message} (h : Meets m ops) : Threads.Quiet ops := by
  cases h with
  | stranger hadd => exact (quiet_locked _).append (quiet_locked _)
  | known => exact (quiet_locked _).append (quiet_locked _)

theorem Round.cases (h : Round socket t ops) : Threads.Quiet ops ∨
    (t = .listener ∧ ∃ rest, Threads.Quiet rest ∧ ops = .call socket.returns :: rest) ∨
      t = .logger ∧ ∃ rest, Threads.Quiet rest ∧ ops = .pop .log :: .check :: rest := by
  cases h with
  | idle => exact .inl .call
  | step hupdate s => exact .inl (((quiet_locked _).append (quiet_pushes _)).append .call)
  | broadcast hsend => exact .inl ((quiet_locked _).append .call)
  | report hsend hprint hchunks =>
    exact .inl (((((quiet_locked _).append .call).append (quiet_locked _)).append (quiet_locked _)).append (.flatMap quiet_locked _))
  | nothing => exact .inr (.inl ⟨rfl, [], .nil, rfl⟩)
  | message htyped hmet => exact .inr (.inl ⟨rfl, _, (htyped.quiet.append hmet.quiet).append (quiet_pushes _), rfl⟩)
  | log blank =>
    refine .inr (.inr ⟨rfl, _, ?_, rfl⟩)
    cases blank with
    | true => exact .nil
    | false => exact .empty _

theorem quiet_opening : Threads.Quiet ((program socket opening greeting).opening t) := by
  cases t with
  | main => exact quiet_pushes opening
  | sender => exact quiet_locked greeting
  | _ => exact .nil

theorem script_tidy (hops : (program socket opening greeting).Script t ops) : Threads.Tidy none ops := by
  rcases hops with rfl | hround
  · exact quiet_opening.tidy
  rcases Round.cases hround with h | ⟨-, rest, h, rfl⟩ | ⟨-, rest, h, rfl⟩
  · exact h.tidy
  · exact ⟨rfl, h.tidy⟩
  · exact ⟨rfl, rfl, h.tidy⟩

theorem script_special {op : Op Thread Queue Mutex String} (hops : (program socket opening greeting).Script t ops) (hop : op ∈ ops)
    (hplain : op.plain = false) :
    (t = .logger ∧ (op = .pop .log ∨ op = .check)) ∨ (t = .listener ∧ op = .call socket.returns) := by
  have hquiet : ∀ {ops : Script}, Threads.Quiet ops → op ∉ ops := by
    intro ops h hmem
    rw [h.plain op hmem] at hplain
    cases hplain
  rcases hops with rfl | hround
  · exact absurd hop (hquiet quiet_opening)
  rcases Round.cases hround with h | ⟨rfl, rest, h, rfl⟩ | ⟨rfl, rest, h, rfl⟩
  · exact absurd hop (hquiet h)
  · rcases List.mem_cons.mp hop with rfl | hrest
    · exact .inr ⟨rfl, rfl⟩
    · exact absurd hrest (hquiet h)
  · rcases List.mem_cons.mp hop with rfl | hrest
    · exact .inl ⟨rfl, .inl rfl⟩
    · rcases List.mem_cons.mp hrest with rfl | hrest
      · exact .inl ⟨rfl, .inr rfl⟩
      · exact absurd hrest (hquiet h)

end

theorem disciplined (socket : ServerSocket) (opening greeting : List Effect) : (program socket opening greeting).Disciplined where
  tidy := script_tidy
  pops hops hpop := by
    rcases script_special hops hpop rfl with ⟨rfl, -⟩ | ⟨-, h⟩
    · exact ⟨by simp [program], rfl⟩
    · cases h
  checks hops hcheck := by
    rcases script_special hops hcheck rfl with ⟨rfl, -⟩ | ⟨-, h⟩
    · simp [program]
    · cases h
  joins hops hjoin := by
    rcases script_special hops hjoin rfl with ⟨-, h | h⟩ | ⟨-, h⟩ <;> cases h
  clears {t pre post} hops := by
    have hclear : .clear ∈ pre ++ .clear :: post := List.mem_append_right _ List.mem_cons_self
    rcases script_special hops hclear rfl with ⟨-, h | h⟩ | ⟨-, h⟩ <;> cases h

theorem endless (socket : ServerSocket) (opening greeting : List Effect) : (program socket opening greeting).Endless := by
  refine fun t ops hops => ⟨fun hclear => ?_, fun q hshutdown => ?_⟩
  · rcases script_special hops hclear rfl with ⟨-, h | h⟩ | ⟨-, h⟩ <;> cases h
  · rcases script_special hops hshutdown rfl with ⟨-, h | h⟩ | ⟨-, h⟩ <;> cases h

theorem rounds (socket : ServerSocket) (opening greeting : List Effect) (t : Thread) :
    ∃ ops, (program socket opening greeting).Round t ops := by
  have hsend : (ConnectionHandler.init 0).broadcastMessage (fun _ => .granting) (.build 1 1 (.heartbeat true)) = .ok [] := rfl
  have hupdate : (ConnectionHandler.init 0).update 0 (fun _ => .granting) = .ok (.init 0, []) := rfl
  cases t with
  | main => exact ⟨_, .idle⟩
  | listener => exact ⟨_, .nothing⟩
  | sender => exact ⟨_, .broadcast hsend⟩
  | simulation => exact ⟨_, .step hupdate ⟨.init 0, 1, 0, 0, 0, 0, 0, 0, 1, false⟩⟩
  | logger => exact ⟨_, .log true⟩

/-- **Nobody in a satellite is ever stuck while its calls return.** In every state that any interleaving of its threads
reaches no loop has been left, and each of them can take a step, but for three cases. It waits for a lock, and who holds it can take a step. Or it is the
logger and sleeps, and if there are lines in its queue then somebody is about to notify it, and can. Or it is the
listener, on a socket without a port. -/
theorem never_stuck {port : Int32} {os : ServerOs} {socket : ServerSocket} {opening greeting w₀ : List Effect}
    (hserver : SatelliteProcess.startServer port os = .ok (socket, w₀)) {es : List (Threads.Act Thread Queue Mutex String)}
    (hlegit : ∀ e ∈ es, (program socket opening greeting).Legit e) {s : Threads Thread Queue Mutex String}
    {w : List (MessageQueue.Popped String Thread)} (hrun : run Threads.step (program socket opening greeting).start es = .ok (s, w))
    (t : Thread) : s.place t ≠ .ended ∧
      (Threads.CanStep (program socket opening greeting) s t ∨
        (∃ m u rest, s.place t = .before (.lock m :: rest) ∧ s.holder m = some u ∧
          Threads.CanStep (program socket opening greeting) s u) ∨
        (t = .logger ∧ (s.queue .log).phase t = .asleep ∧ ((s.queue .log).messageQueue ≠ [] →
          ∃ u rest, s.place u = .notifying .log rest ∧ Threads.CanStep (program socket opening greeting) s u)) ∨
        (t = .listener ∧ (∃ rest, s.place t = .before (.call socket.returns :: rest)) ∧ ¬ (os.socket < 0 ∨ 0 ≤ os.bind))) := by
  have hP := disciplined socket opening greeting
  have hrounds := rounds socket opening greeting
  have hs := hP.start.run hP hlegit hrun
  obtain ⟨hrunning, hopen⟩ := Threads.run_endless hP (endless socket opening greeting) hlegit hrun
  have hlives := hs.lives hrunning
  refine ⟨hlives t, ?_⟩
  rcases hs.waits hrounds (hlives t) with hstep | hwaits
  · exact .inl hstep
  right
  cases hwaits with
  | lock ht hheld => exact .inl ⟨_, _, _, ht, hheld, hs.holder_steps hrounds hheld⟩
  | @asleep q rest ht hasleep =>
    obtain ⟨ops, hops, hpop⟩ := hs.mem_script ht
    have hlogger : t = .logger := (hP.pops hops hpop).2
    cases q
    refine .inr (.inl ⟨hlogger, hasleep, fun hne => ?_⟩)
    obtain ⟨u, rest, hu⟩ := hs.sleeper hP (hopen .log) hasleep (fun u hu => hu.trans hlogger.symm) hne
    refine ⟨u, rest, hu, ?_⟩
    -- Who is about to notify waits for nothing.
    rcases hs.waits hrounds (hlives u) with hstep | hwaits
    · exact hstep
    · cases hwaits with
      | asleep h => rw [hu] at h; cases h
      | lock h => rw [hu] at h; cases h
      | join h => rw [hu] at h; cases h
      | call h => rw [hu] at h; cases h
  | join ht hu =>
    obtain ⟨ops, hops, hjoin⟩ := hs.mem_script ht
    rcases script_special hops hjoin rfl with ⟨-, h | h⟩ | ⟨-, h⟩ <;> cases h
  | @call rest ht =>
    obtain ⟨ops, hops, hcall⟩ := hs.mem_script ht
    rcases script_special hops hcall rfl with ⟨-, h | h⟩ | ⟨hlistener, h⟩
    · cases h
    · cases h
    · have hstuck : false = socket.returns := Op.call.inj h
      refine .inr (.inr ⟨hlistener, ⟨rest, hstuck ▸ ht⟩, fun hport => ?_⟩)
      rw [(openServer_returns_iff (assert_bind_eq_ok.mp hserver).2).mpr hport] at hstuck
      cases hstuck

/-- A satellite at rest. -/
def still : Satellite := ⟨.init 5001, 1, 0, 0, 0, 0, 0, 0, 5001, false⟩

/-- The sender greets, the simulation takes the lock of the handler, and the sender comes to wait for it. -/
def contended : List (Threads.Act Thread Queue Mutex String) :=
  [.next .sender none, .next .sender none,
    .begin .simulation (locked [] ++ pushes still.print ++ [.call true]), .next .simulation none,
    .begin .sender (locked [] ++ [.call true])]

theorem never_stuck_contended : ∃ s w, run Threads.step (program (.bound 5001 Config.TIMEOUT_MS) [] []).start contended = .ok (s, w) ∧
    s.holder .handler = some .simulation ∧ (∃ rest, s.place .sender = .before (.lock .handler :: rest)) ∧
      (Threads.CanStep (program (.bound 5001 Config.TIMEOUT_MS) [] []) s .sender ∨
        (∃ m u rest, s.place .sender = .before (.lock m :: rest) ∧ s.holder m = some u ∧
          Threads.CanStep (program (.bound 5001 Config.TIMEOUT_MS) [] []) s u) ∨
        (Thread.sender = .logger ∧ (s.queue .log).phase .sender = .asleep ∧ ((s.queue .log).messageQueue ≠ [] →
          ∃ u rest, s.place u = .notifying .log rest ∧ Threads.CanStep (program (.bound 5001 Config.TIMEOUT_MS) [] []) s u)) ∨
        (Thread.sender = .listener ∧ (∃ rest, s.place .sender = .before (.call true :: rest)) ∧ ¬ ((3 : Int) < 0 ∨ (0 : Int) ≤ 0))) := by
  have hbinds : SatelliteProcess.startServer 5001 ⟨3, 0, 0⟩ = .ok (.bound 5001 Config.TIMEOUT_MS, _) := rfl
  have hsend : (ConnectionHandler.init 5001).broadcastMessage (fun _ => .granting) (.build 1 5001 (.heartbeat true)) = .ok [] := rfl
  have hupdate : (ConnectionHandler.init 5001).update 0 (fun _ => .granting) = .ok (.init 5001, []) := rfl
  have hlegit : ∀ e ∈ contended, (program (.bound 5001 Config.TIMEOUT_MS) [] []).Legit e := by
    simp only [contended, List.forall_mem_cons]
    exact ⟨trivial, trivial, .step hupdate still, trivial, .broadcast hsend, List.forall_mem_nil _⟩
  obtain ⟨s, w, hrun, hheld, hwaits⟩ : ∃ s w, run Threads.step (program (.bound 5001 Config.TIMEOUT_MS) [] []).start contended = .ok (s, w) ∧
      s.holder .handler = some .simulation ∧ ∃ rest, s.place .sender = .before (.lock .handler :: rest) := ⟨_, _, rfl, rfl, _, rfl⟩
  exact ⟨s, w, hrun, hheld, hwaits, (never_stuck hbinds hlegit hrun .sender).2⟩

end SatelliteThreads

end Constellation
