import Constellation.Concurrency.Progress
import Constellation.GroundControl.ControlRoom
import Constellation.Protocol.Server
import Mathlib.Tactic.DeriveFintype

/-!
# How ground control ends

The threads of ground control step by step, with their queues and locks: the main thread with the terminal, the
listener, the sender, the update thread, the logger, the queue thread of the terminal, and a logger for each satellite
the terminal has. What a round pushes is what the calls of the handler, the receiver and the terminal in it push, and
every call of the handler takes its lock.

When `quit` is entered the main thread clears the flag, shuts the queues down and joins the others; the last are the
loggers of the satellites, in the destructor of the terminal. The program is disciplined, so the threads run out of
steps and the process ends (`shutdown_completes`), unless the port of the server was taken: then the listener receives
on a socket that nothing reaches, and the process never ends.
-/

namespace Constellation

namespace Receiver

def startServer (r : Receiver) (os : ServerOs) : Except Stop (ServerSocket × List Effect) := do
  assert (0 ≤ r.gcPort) "gcPort >= 0"
  openServer r.gcPort os

end Receiver

namespace ControlRoom

/-- The threads, with `n` satellites on the terminal. -/
inductive Thread (n : Nat)
  | main
  | listener
  | sender
  | update
  | logger
  | queue
  /-- The logger of a satellite. -/
  | satellite (i : Fin n)
  deriving DecidableEq, Fintype

inductive Queue (n : Nat)
  | log
  | output
  | input
  | satellite (i : Fin n)
  deriving DecidableEq

inductive Mutex (n : Nat)
  | handler
  | terminal
  | log
  | satellite (i : Fin n)
  deriving DecidableEq

/-- What is pushed on the queues. -/
inductive Item
  | line (s : String)
  | output (out : SatOutput)
  | command (com : WrittenCommand)
  | text (bytes : List UInt8)

abbrev Script (n : Nat) := List (Op (Thread n) (Queue n) (Mutex n) Item)

variable {n : Nat}

/-- What an effect pushes, and where. -/
def item : Effect → Option (Queue n × Item)
  | .log line => some (.log, .line line)
  | .output out => some (.output, .output out)
  | _ => none

def pushes (w : List Effect) : Script n := Threads.pushes item w

/-- A call of the handler. -/
def locked (w : List Effect) : Script n := Threads.critical .handler (pushes w)

/-- What `Receiver::addConnection` does for a message: the handler knows its sender or not, and another thread may have
changed that between two calls. -/
inductive Adds (m : Message) : Script n → Prop
  | stranger {h h' : GCConnectionHandler} {now : Nat} {os : Int32 → Os} {ip : String} {w : List Effect}
      (hadd : h.addConnection now os m.senderPort ip m.senderId = .ok (h', w)) :
      Adds m (locked [] ++ locked w ++ locked [] ++
        pushes [.log ("[NETWORK] Message received from Satellite Id: " ++ toString m.senderId)])
  | known {out : SatOutput} (hout : Parser.dataDecoder m.senderId [] true = .ok out) :
      Adds m (locked [] ++ locked [] ++
        pushes [.output out, .log ("[NETWORK] Message received from Satellite Id: " ++ toString m.senderId)])

/-- What `Receiver::ack` does for it. -/
inductive Acks (m : Message) : Script n → Prop
  | answered {r r' : Receiver} {h : GCConnectionHandler} {os : Int32 → Os} {w sent : List Effect}
      (hhandle : r.handle m = .ok (true, r', w)) (hsend : h.sendMessageToSat os m.senderId r'.ackMessage = .ok sent) :
      Acks m (pushes w ++ locked sent)
  | ignored {r r' : Receiver} {w : List Effect} (hhandle : r.handle m = .ok (false, r', w)) : Acks m (pushes w)

/-- What the main thread does when `quit` was entered; the satellites are destroyed in some order. -/
def winding (order : List (Fin n)) : Script n :=
  [.shutdown .output, .shutdown .input, .join .queue, .shutdown .log, .join .listener, .join .sender, .join .update,
    .join .logger] ++ order.flatMap fun i => [.shutdown (.satellite i), .join (.satellite i)]

/-- A line for a log file; an empty one is not written. -/
def written (m : Mutex n) (blank : Bool) : Script n := if blank then [] else Threads.critical m []

/-- The rounds of the loops. -/
inductive Round (socket : ServerSocket) : Thread n → Script n → Prop
  /-- The terminal shows the satellites and reads a key. -/
  | key {t : Terminal} {com : WrittenCommand} {p : Terminal.Prompt} {c : Int} {e : Terminal.Entered}
      (hpress : t.press com p c = .ok e) (hrunning : e.running = true) :
      Round socket .main ([.lock .terminal, .unlock .terminal, .call true] ++
        e.queued.map fun com => .pushBack .input (.command com))
  | quit {t : Terminal} {com : WrittenCommand} {p : Terminal.Prompt} {c : Int} {e : Terminal.Entered}
      (hpress : t.press com p c = .ok e) (hquit : e.running = false) {order : List (Fin n)}
      (horder : order.Perm (List.finRange n)) :
      Round socket .main ([.lock .terminal, .unlock .terminal, .call true, .clear] ++ winding order)
  /-- Nothing came in, or nothing that can be decoded. -/
  | nothing : Round socket .listener [.call socket.returns]
  | message {m : Message} {adds acks : Script n} (hadds : Adds m adds) (hacks : Acks m acks) :
      Round socket .listener (.call socket.returns :: (adds ++ acks))
  | command {h : GCConnectionHandler} {os : Int32 → Os} {com : CommandInput} {w : List Effect}
      (hsend : h.sendCommand os com = .ok w) : Round socket .sender ([.pop .input, .check] ++ locked w)
  | update {h h' : GCConnectionHandler} {now : Nat} {os : Int32 → Os} {w : List Effect} (hupdate : h.update now os = .ok (h', w)) :
      Round socket .update (locked w ++ [.call true])
  | log (blank : Bool) : Round socket .logger ([.pop .log, .check] ++ written .log blank)
  /-- The result is of no satellite of the terminal, -/
  | dropped : Round socket .queue [.pop .output, .check, .lock .terminal, .unlock .terminal]
  /-- or of this one. -/
  | absorb (msg : SatOutput) (i : Fin n) :
      Round socket .queue ([.pop .output, .check, .lock .terminal] ++
        (SatelliteData.onOutput msg.id msg).map (fun line => .pushBack (.satellite i) (.text line)) ++ [.unlock .terminal])
  | satellite (i : Fin n) (blank : Bool) :
      Round socket (.satellite i) ([.pop (.satellite i), .check] ++ written (.satellite i) blank)

/-- The queue a thread pops off. -/
def pops : Thread n → Option (Queue n)
  | .sender => some .input
  | .logger => some .log
  | .queue => some .output
  | .satellite i => some (.satellite i)
  | _ => none

/-- The threads once all are started. By then the main thread has logged what the boot and the server had to say. -/
def program (n : Nat) (socket : ServerSocket) (opening : List Effect) : Threads.Program (Thread n) (Queue n) (Mutex n) Item where
  main := .main
  serves t q := pops t = some q
  opening
    | .main => pushes opening
    | _ => []
  Round := Round socket

/-! ### The discipline -/

theorem quiet_locked (w : List Effect) : Threads.Quiet (locked w : Script n) := .critical item w _

theorem quiet_pushes (w : List Effect) : Threads.Quiet (pushes w : Script n) := .pushes item w

theorem Adds.quiet {m : Message} {ops : Script n} (h : Adds m ops) : Threads.Quiet ops := by
  cases h with
  | stranger hadd => exact (((quiet_locked _).append (quiet_locked _)).append (quiet_locked _)).append (quiet_pushes _)
  | known hout => exact ((quiet_locked _).append (quiet_locked _)).append (quiet_pushes _)

theorem Acks.quiet {m : Message} {ops : Script n} (h : Acks m ops) : Threads.Quiet ops := by
  cases h with
  | answered hhandle hsend => exact (quiet_pushes _).append (quiet_locked _)
  | ignored hhandle => exact quiet_pushes _

theorem quiet_written (m : Mutex n) (blank : Bool) : Threads.Quiet (written m blank) := by
  cases blank with
  | true => exact .nil
  | false => exact .empty m

theorem Round.tidy {socket : ServerSocket} {t : Thread n} {ops : Script n} (h : Round socket t ops) : Threads.Tidy none ops := by
  cases h with
  | @key t com p c e hpress hrunning =>
    have hqueued : ∀ coms : List WrittenCommand,
        Threads.Tidy none (coms.map fun com => (.pushBack .input (.command com) : Op (Thread n) (Queue n) (Mutex n) Item)) := by
      intro coms
      induction coms with
      | nil => rfl
      | cons com coms ih => exact ih
    exact ⟨rfl, rfl, rfl, hqueued _⟩
  | quit hpress hquit horder =>
    have hsatellites : ∀ order : List (Fin n), Threads.Tidy none
        (order.flatMap fun i => ([.shutdown (.satellite i), .join (.satellite i)] : Script n)) := by
      intro order
      induction order with
      | nil => rfl
      | cons i order ih => exact ⟨rfl, rfl, ih⟩
    exact ⟨rfl, rfl, rfl, rfl, rfl, rfl, rfl, rfl, rfl, rfl, rfl, rfl, hsatellites _⟩
  | nothing => exact ⟨rfl, rfl⟩
  | message hadds hacks => exact ⟨rfl, (hadds.quiet.append hacks.quiet).tidy⟩
  | command hsend => exact ⟨rfl, rfl, (quiet_locked _).tidy⟩
  | update hupdate => exact ((quiet_locked _).append .call).tidy
  | log blank => exact ⟨rfl, rfl, (quiet_written _ _).tidy⟩
  | dropped => exact ⟨rfl, rfl, rfl, rfl, rfl⟩
  | absorb msg i =>
    have hlines : ∀ lines : List (List UInt8), Threads.Tidy (some .terminal)
        (lines.map (fun line => (.pushBack (.satellite i) (.text line) : Op (Thread n) (Queue n) (Mutex n) Item)) ++
          [.unlock .terminal]) := by
      intro lines
      induction lines with
      | nil => exact ⟨rfl, rfl⟩
      | cons line lines ih => exact ih
    rw [List.append_assoc]
    exact ⟨rfl, rfl, rfl, hlines _⟩
  | satellite i blank => exact ⟨rfl, rfl, (quiet_written _ _).tidy⟩

theorem Round.others {socket : ServerSocket} {t : Thread n} {ops : Script n} (h : Round socket t ops) (ht : t ≠ .main) :
    ∀ op ∈ ops, op.plain = true ∨ op = .check ∨ op = .call socket.returns ∨ ∃ q, op = .pop q ∧ pops t = some q := by
  cases h with
  | key => exact absurd rfl ht
  | quit => exact absurd rfl ht
  | nothing =>
    intro op hop
    exact .inr (.inr (.inl (List.mem_singleton.mp hop)))
  | message hadds hacks =>
    intro op hop
    rcases List.mem_cons.mp hop with rfl | hop
    · exact .inr (.inr (.inl rfl))
    · exact .inl ((hadds.quiet.append hacks.quiet).plain op hop)
  | command hsend =>
    simp only [List.cons_append, List.nil_append, List.forall_mem_cons]
    exact ⟨.inr (.inr (.inr ⟨_, rfl, rfl⟩)), .inr (.inl trivial), fun op hop => .inl ((quiet_locked _).plain op hop)⟩
  | update hupdate => exact fun op hop => .inl (((quiet_locked _).append .call).plain op hop)
  | log blank =>
    simp only [List.cons_append, List.nil_append, List.forall_mem_cons]
    exact ⟨.inr (.inr (.inr ⟨_, rfl, rfl⟩)), .inr (.inl trivial), fun op hop => .inl ((quiet_written _ _).plain op hop)⟩
  | dropped => simp [Op.plain, pops]
  | absorb msg i =>
    simp only [List.cons_append, List.nil_append, List.forall_mem_cons, List.mem_append, List.mem_map, List.mem_singleton]
    refine ⟨.inr (.inr (.inr ⟨_, rfl, rfl⟩)), .inr (.inl trivial), .inl rfl, fun op hop => .inl ?_⟩
    rcases hop with ⟨line, -, rfl⟩ | rfl <;> rfl
  | satellite i blank =>
    simp only [List.cons_append, List.nil_append, List.forall_mem_cons]
    exact ⟨.inr (.inr (.inr ⟨_, rfl, rfl⟩)), .inr (.inl trivial), fun op hop => .inl ((quiet_written _ _).plain op hop)⟩

theorem Round.main {socket : ServerSocket} {ops : Script n} (h : Round socket .main ops) :
    (∀ op ∈ ops, op.plain = true) ∨ ∃ order, order.Perm (List.finRange n) ∧
      ops = [.lock .terminal, .unlock .terminal, .call true, .clear] ++ winding order := by
  cases h with
  | key hpress hrunning =>
    left
    simp only [List.cons_append, List.nil_append, List.forall_mem_cons, List.mem_map]
    refine ⟨rfl, rfl, rfl, ?_⟩
    rintro op ⟨com, -, rfl⟩
    rfl
  | quit hpress hquit horder => exact .inr ⟨_, horder, rfl⟩

theorem mem_winding {order : List (Fin n)} {op : Op (Thread n) (Queue n) (Mutex n) Item} (h : op ∈ winding order) :
    (∃ q, op = .shutdown q) ∨ ∃ u, u ≠ .main ∧ op = .join u := by
  simp only [winding, List.cons_append, List.nil_append, List.mem_cons, List.mem_flatMap, List.not_mem_nil, or_false] at h
  rcases h with rfl | rfl | rfl | rfl | rfl | rfl | rfl | rfl | ⟨i, -, rfl | rfl⟩
  · exact .inl ⟨_, rfl⟩
  · exact .inl ⟨_, rfl⟩
  · exact .inr ⟨_, by simp, rfl⟩
  · exact .inl ⟨_, rfl⟩
  · exact .inr ⟨_, by simp, rfl⟩
  · exact .inr ⟨_, by simp, rfl⟩
  · exact .inr ⟨_, by simp, rfl⟩
  · exact .inr ⟨_, by simp, rfl⟩
  · exact .inl ⟨_, rfl⟩
  · exact .inr ⟨_, by simp, rfl⟩

theorem windsUp (socket : ServerSocket) (opening : List Effect) {order : List (Fin n)} (horder : order.Perm (List.finRange n)) :
    (program n socket opening).WindsUp (winding order) := by
  have hsatellites : ∀ (i : Fin n) (order : List (Fin n)), Threads.Guards (.satellite i) (.satellite i)
      (order.flatMap fun i => ([.shutdown (.satellite i), .join (.satellite i)] : Script n)) := by
    intro i order
    induction order with
    | nil => exact Threads.guards_nil
    | cons j order ih =>
      rw [List.flatMap_cons]
      simp only [List.cons_append, List.nil_append, Threads.guards_cons]
      by_cases hij : j = i
      · simp [hij]
      · simp [hij, ih]
  intro u hu
  cases u with
  | main => exact absurd rfl hu
  | listener => exact ⟨by simp [winding], fun q hq => by cases hq⟩
  | sender =>
    refine ⟨by simp [winding], fun q hq => ?_⟩
    cases hq
    simp [winding, Threads.guards_cons]
  | update => exact ⟨by simp [winding], fun q hq => by cases hq⟩
  | logger =>
    refine ⟨by simp [winding], fun q hq => ?_⟩
    cases hq
    simp [winding, Threads.guards_cons]
  | queue =>
    refine ⟨by simp [winding], fun q hq => ?_⟩
    cases hq
    simp [winding, Threads.guards_cons]
  | satellite i =>
    have hi : i ∈ order := horder.mem_iff.mpr (List.mem_finRange i)
    refine ⟨by simp [winding, hi], fun q hq => ?_⟩
    cases hq
    simp only [winding, List.cons_append, List.nil_append, Threads.guards_cons]
    simp [hsatellites]

section
variable {socket : ServerSocket} {opening : List Effect} {t : Thread n} {ops : Script n}

theorem quiet_opening : Threads.Quiet ((program n socket opening).opening t) := by
  cases t with
  | main => exact quiet_pushes opening
  | _ => exact .nil

/-- What a script does that is not plain: it pops its queue, leaves the loop and receives, or it winds up. -/
theorem script_special {op : Op (Thread n) (Queue n) (Mutex n) Item} (hops : (program n socket opening).Script t ops)
    (hop : op ∈ ops) (hplain : op.plain = false) :
    (t ≠ .main ∧ (op = .check ∨ op = .call socket.returns ∨ ∃ q, op = .pop q ∧ pops t = some q)) ∨
      t = .main ∧ (op = .clear ∨ (∃ q, op = .shutdown q) ∨ ∃ u, u ≠ .main ∧ op = .join u) := by
  rcases hops with rfl | hround
  · rw [quiet_opening.plain op hop] at hplain
    cases hplain
  by_cases ht : t = .main
  · subst ht
    refine .inr ⟨rfl, ?_⟩
    rcases Round.main hround with hall | ⟨order, horder, rfl⟩
    · rw [hall op hop] at hplain
      cases hplain
    · simp only [List.cons_append, List.nil_append, List.mem_cons] at hop
      rcases hop with rfl | rfl | rfl | rfl | hop
      · cases hplain
      · cases hplain
      · cases hplain
      · exact .inl rfl
      · exact .inr (mem_winding hop)
  · rcases Round.others hround ht op hop with h | h
    · rw [h] at hplain
      cases hplain
    · exact .inl ⟨ht, h⟩

theorem calls_return (hreturns : socket.returns = true) (hops : (program n socket opening).Script t ops) : .call false ∉ ops := by
  intro hcall
  rcases script_special hops hcall rfl with ⟨-, h | h | ⟨q', h, -⟩⟩ | ⟨-, h | ⟨q', h⟩ | ⟨u, -, h⟩⟩
  · cases h
  · rw [hreturns] at h
    cases h
  all_goals cases h

end

theorem disciplined (n : Nat) (socket : ServerSocket) (opening : List Effect) : (program n socket opening).Disciplined where
  tidy hops := by
    rcases hops with rfl | hround
    · exact quiet_opening.tidy
    · exact Round.tidy hround
  pops hops hpop := by
    rcases script_special hops hpop rfl with ⟨ht, h | h | ⟨q', hq, h⟩⟩ | ⟨-, h | ⟨q', h⟩ | ⟨u, -, h⟩⟩
    · cases h
    · cases h
    · cases hq
      exact ⟨ht, h⟩
    · cases h
    · cases h
    · cases h
  checks hops hcheck := by
    rcases script_special hops hcheck rfl with ⟨ht, -⟩ | ⟨-, h | ⟨q', h⟩ | ⟨u, -, h⟩⟩
    · exact ht
    · cases h
    · cases h
    · cases h
  joins hops hjoin := by
    rcases script_special hops hjoin rfl with ⟨-, h | h | ⟨q', h, -⟩⟩ | ⟨ht, h | ⟨q', h⟩ | ⟨u, hu, h⟩⟩
    · cases h
    · cases h
    · cases h
    · cases h
    · cases h
    · cases h
      exact ⟨ht, hu⟩
  clears {t pre post} hops := by
    have hclear : .clear ∈ pre ++ .clear :: post := List.mem_append_right _ List.mem_cons_self
    rcases script_special hops hclear rfl with ⟨-, h | h | ⟨q', h, -⟩⟩ | ⟨rfl, -⟩
    · cases h
    · cases h
    · cases h
    · refine ⟨rfl, ?_⟩
      rcases hops with hstart | hround
      · rw [hstart] at hclear
        cases quiet_opening.plain .clear hclear
      rcases Round.main hround with hall | ⟨order, horder, heq⟩
      · cases hall .clear hclear
      · -- The flag is cleared once only.
        have honce : (.clear : Op (Thread n) (Queue n) (Mutex n) Item) ∉ winding order := by
          intro hmem
          rcases mem_winding hmem with ⟨q, h⟩ | ⟨u, -, h⟩ <;> cases h
        have hbefore : .clear ∉ ([.lock .terminal, .unlock .terminal, .call true] : Script n) := by simp
        obtain ⟨-, -, hpost⟩ := (List.append_cons_inj_of_notMem hbefore honce).mp heq.symm
        rw [← hpost]
        exact windsUp socket opening horder

/-! ### The end of the process -/

section
variable {socket : ServerSocket} {opening w : List Effect} {os : ServerOs} {r : Receiver}

theorem startServer_returns_iff (hserver : r.startServer os = .ok (socket, w)) :
    socket.returns = true ↔ os.socket < 0 ∨ 0 ≤ os.bind :=
  openServer_returns_iff (assert_bind_eq_ok.mp hserver).2

theorem rounds (t : Thread n) : ∃ ops, (program n socket opening).Round t ops := by
  have hpress : (⟨∅⟩ : Terminal).press blank ⟨[], ""⟩ Curses.ERR = .ok { prompt := ⟨[], ""⟩, queued := [], running := true } := rfl
  have hsend : (⟨∅, 0⟩ : GCConnectionHandler).sendCommand (fun _ => .granting) (blank.rounded Scanf.Real64.toDouble) = .ok _ := rfl
  have hupdate : (⟨∅, 0⟩ : GCConnectionHandler).update 0 (fun _ => .granting) = .ok _ := rfl
  cases t with
  | main => exact ⟨_, .key hpress rfl⟩
  | listener => exact ⟨_, .nothing⟩
  | sender => exact ⟨_, .command hsend⟩
  | update => exact ⟨_, .update hupdate⟩
  | logger => exact ⟨_, .log true⟩
  | queue => exact ⟨_, .dropped⟩
  | satellite i => exact ⟨_, .satellite i true⟩

end

/-- **Quitting ends the process, unless the port was taken.** Once the operator has quit, whatever the interleaving: if the
server could bind its socket, or had none, then every run has at most as many steps as the potential of the state
says, not counting wakeups without a reason and what they cost, and until all threads have ended one of them can
take a step. If it could not bind it, the main thread does not end once the listener receives. -/
theorem shutdown_completes {n : Nat} {r : Receiver} {os : ServerOs} {socket : ServerSocket} {opening w₁ : List Effect}
    (hserver : r.startServer os = .ok (socket, w₁)) {es : List (Threads.Act (Thread n) (Queue n) (Mutex n) Item)}
    (hlegit : ∀ e ∈ es, (program n socket opening).Legit e) {s : Threads (Thread n) (Queue n) (Mutex n) Item}
    {w : List (MessageQueue.Popped Item (Thread n))} (hrun : run Threads.step (program n socket opening).start es = .ok (s, w))
    (hquit : s.running = false) :
    (os.socket < 0 ∨ 0 ≤ os.bind →
      (∀ fs s' w', run Threads.step s fs = .ok (s', w') → fs.length ≤ s.potential + 2 * fs.countP Threads.Act.isWake) ∧
        ((∀ t, s.place t = .ended) ∨ ∃ t, Threads.CanStep (program n socket opening) s t)) ∧
      (¬ (os.socket < 0 ∨ 0 ≤ os.bind) → ∀ rest, s.place .listener = .before (.call socket.returns :: rest) →
        ∀ fs s' w', (∀ e ∈ fs, (program n socket opening).Legit e) → run Threads.step s fs = .ok (s', w') →
          s'.place .main ≠ .ended) := by
  have hP := disciplined n socket opening
  have hsound := hP.start.run hP hlegit hrun
  refine ⟨fun hport => ⟨fun fs s' w' hfs => ?_, ?_⟩, fun hport rest hlistener fs s' w' hfs hrest => ?_⟩
  · have hpaid := (Threads.run_potential hquit hfs).2
    omega
  · have hreturns := (startServer_returns_iff hserver).mpr hport
    exact hsound.ends_or_steps hP rounds (fun t ops hops => calls_return hreturns hops) hquit
  · have hstuck : socket.returns = false := eq_false_of_ne_true (hport ∘ (startServer_returns_iff hserver).mp)
    rw [hstuck] at hlistener
    have hlater := Threads.run_stuck hrest hlistener
    have hsound' := hsound.run hP hfs hrest
    have hmain : Thread.listener ≠ (program n socket opening).main := by simp [program]
    exact hsound'.main_waits hmain (by simp [hlater])

/-- The operator quits; one satellite is on the terminal. -/
def quits : List (Threads.Act (Thread 1) (Queue 1) (Mutex 1) Item) :=
  .begin .main ([.lock .terminal, .unlock .terminal, .call true, .clear] ++ winding [0]) :: List.replicate 4 (.next .main none)

theorem quits_legit (socket : ServerSocket) : ∀ e ∈ quits, (program 1 socket []).Legit e := by
  have hpress : (⟨∅⟩ : Terminal).press blank ⟨ascii "quit", ""⟩ 10 = .ok { prompt := ⟨ascii "quit", ""⟩, queued := [], running := false } :=
    rfl
  intro e he
  rcases List.mem_cons.mp he with rfl | he
  · exact .quit hpress rfl (List.Perm.refl _)
  · rw [List.eq_of_mem_replicate he]
    trivial

/-- With the port the process ends, and without it the process hangs when the listener receives before. -/
theorem shutdown_completes_quits :
    (∃ s w, run Threads.step (program 1 (.bound Config.GC_PORT Config.TIMEOUT_MS) []).start quits = .ok (s, w) ∧
      ∀ fs s' w', run Threads.step s fs = .ok (s', w') → fs.length ≤ s.potential + 2 * fs.countP Threads.Act.isWake) ∧
      ∃ s w, run Threads.step (program 1 .unbound []).start (.begin .listener [.call false] :: quits) = .ok (s, w) ∧
        ∀ fs s' w', (∀ e ∈ fs, (program 1 .unbound []).Legit e) → run Threads.step s fs = .ok (s', w') →
          s'.place .main ≠ .ended := by
  have hbinds : (⟨fun _ => [], Config.GC_PORT⟩ : Receiver).startServer ⟨3, 0, 0⟩ = .ok (.bound Config.GC_PORT Config.TIMEOUT_MS, _) :=
    rfl
  have hfails : (⟨fun _ => [], Config.GC_PORT⟩ : Receiver).startServer ⟨3, -1, 0⟩ = .ok (.unbound, _) := rfl
  have hlistens : ∀ e ∈ .begin .listener [.call false] :: quits, (program 1 .unbound []).Legit e :=
    List.forall_mem_cons.mpr ⟨.nothing, quits_legit .unbound⟩
  obtain ⟨s, w, hrun, hquit⟩ : ∃ s w, run Threads.step (program 1 (.bound Config.GC_PORT Config.TIMEOUT_MS) []).start quits =
      .ok (s, w) ∧ s.running = false := ⟨_, _, rfl, rfl⟩
  obtain ⟨s', w', hrun', hquit', hlistener⟩ : ∃ s w, run Threads.step (program 1 .unbound []).start
      (.begin .listener [.call false] :: quits) = .ok (s, w) ∧ s.running = false ∧ s.place .listener = .before [.call false] :=
    ⟨_, _, rfl, rfl, rfl⟩
  exact ⟨⟨s, w, hrun, ((shutdown_completes hbinds (quits_legit _) hrun hquit).1 (by decide)).1⟩,
    s', w', hrun', (shutdown_completes hfails hlistens hrun' hquit').2 (by decide) [] hlistener⟩

end ControlRoom

end Constellation
