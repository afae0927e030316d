import Constellation.GroundControl.Terminal

/-!
# The displayed status

Whether a satellite is dead is decided in the retry counter of its connection; what the terminal shows is a
flag of its data object, which hears of it through the output queue only. The two meet in the status the
terminal will show once it has popped what is queued (`status`): it is the status of the last result about the
satellite, or what is shown already where there is none.

Every step keeps this status opposite to deadness (`Agrees`). A message of a known satellite queues a result
and all the results it queues, parseable or not, say alive; a round queues a result about a satellite only
when it gives it up, and then that one says dead; popping takes the first result off the queue and shows it.
-/

namespace Constellation

/-- The status shown for satellite `id` when the queued results have been popped. -/
def status (id : Int32) (queue : List SatOutput) (shown : Bool) : Bool :=
  (queue.filter fun out => out.id = id.toUInt32).foldl (fun _ out => out.alive) shown

section
variable {id : Int32} {queue queue' : List SatOutput} {shown : Bool}

theorem status_append : status id (queue ++ queue') shown = status id queue' (status id queue shown) := by
  rw [status, List.filter_append, List.foldl_append]
  rfl

theorem status_quiet (h : queue.filter (fun out => out.id = id.toUInt32) = []) : status id queue shown = shown := by
  rw [status, h]
  rfl

theorem status_alive (h : ∀ out ∈ queue.filter (fun out => out.id = id.toUInt32), out.alive = true)
    (hne : queue.filter (fun out => out.id = id.toUInt32) ≠ []) : status id queue shown = true := by
  rw [status]
  obtain ⟨init, last, heq⟩ := (List.eq_nil_or_concat _).resolve_left hne
  rw [heq] at h ⊢
  rw [List.concat_eq_append, List.foldl_append]
  exact h last (by simp)

end

namespace Ledger
variable {l : Ledger} {now : Nat}

theorem isDead_settle : (l.settle now (l.verdict now)).isDead = (l.isDead || l.verdict now = .dead) := by
  cases hverdict : l.verdict now with
  | idle => exact (Bool.or_false _).symm
  | lost => exact (Bool.or_false _).symm
  | attempt =>
    obtain ⟨-, hless, -⟩ := verdict_attempt hverdict
    have hnow : ¬ Config.MAX_RECONNECT_ATTEMPTS < l.retryCounter + 1 := by omega
    have hbefore : ¬ Config.MAX_RECONNECT_ATTEMPTS < l.retryCounter := by omega
    simp [settle, isDead, hnow, hbefore]
  | dead =>
    obtain ⟨-, hfull⟩ := verdict_dead hverdict
    simp [settle, isDead, hfull]

end Ledger

namespace Terminal

theorem absorb_alive {sat sat' : SatelliteData} {msg : SatOutput} (h : absorb sat msg = .ok sat') :
    sat'.alive = msg.alive := by
  obtain ⟨-, hret⟩ := assert_bind_eq_ok.mp h
  cases hret
  rfl

theorem runQueueThread_alive {t t' : Terminal} {msg : SatOutput} (h : t.runQueueThread msg = .ok t') {id : Int32}
    {d : SatelliteData} (hd : t.sats.lookup id = some d) :
    ∃ d', t'.sats.lookup id = some d' ∧ d'.alive = status id [msg] d.alive := by
  by_cases hid : msg.id = id.toUInt32
  · obtain ⟨d', habsorb, hd'⟩ := runQueueThread_self h hid hd
    refine ⟨d', hd', ?_⟩
    rw [absorb_alive habsorb, status]
    simp [hid]
  · refine ⟨d, (runQueueThread_others h hid).trans hd, (status_quiet ?_).symm⟩
    simp [hid]

end Terminal

namespace Station

/-- The terminal shows a satellite, and once the queue is empty it shows it alive unless it is dead. -/
def Agrees (id : Int32) (st : Station) : Prop :=
  ∃ d l, st.terminal.sats.lookup id = some d ∧ st.control.ledger id = some l ∧
    status id st.outputQueue d.alive = !l.isDead

section
variable {st st' : Station} {id : Int32} {w : List Effect}

/-- A step of ground control queues what keeps the status up. -/
theorem control_agrees {e : GroundControl.Input} (hst : st.Agrees id) (hrun : st.step (.control e) = .ok (st', w)) :
    st'.Agrees id := by
  obtain ⟨⟨control, effects⟩, htake, hret⟩ := bind_eq_ok.mp hrun
  cases hret
  obtain ⟨d, l, hd, hl, hstatus⟩ := hst
  obtain ⟨hledger, hannounces⟩ := GroundControl.take_ledger htake id
  rw [hl] at hledger hannounces
  rw [Agrees]
  dsimp only
  rw [hledger]
  cases hturn : st.control.turn id e with
  | none =>
    rw [hturn] at hannounces
    refine ⟨d, l, hd, rfl, ?_⟩
    rw [status_append, hstatus]
    exact status_quiet hannounces
  | some t =>
    rw [hturn] at hannounces
    cases t with
    | met now =>
      refine ⟨d, l, hd, rfl, ?_⟩
      rw [status_append, hstatus]
      exact status_quiet hannounces
    | heard now =>
      obtain ⟨halive, hsome⟩ := hannounces
      refine ⟨d, _, hd, rfl, ?_⟩
      rw [status_append]
      exact status_alive halive (hsome nofun)
    | pass now =>
      refine ⟨d, _, hd, rfl, ?_⟩
      rw [status_append, hstatus, Ledger.isDead_settle]
      have hqueued : (outputs w).filter (fun out => out.id = id.toUInt32) =
          if (some l).map (Ledger.verdict · now) = some .dead then [deadNotice id] else [] := hannounces
      rw [status, hqueued]
      simp only [Option.map_some, Option.some_inj]
      by_cases hdead : l.verdict now = .dead
      · rw [if_pos hdead]
        simp [hdead, deadNotice]
      · rw [if_neg hdead]
        simp [hdead]

theorem pop_agrees (hst : st.Agrees id) (hrun : st.step .pop = .ok (st', w)) : st'.Agrees id := by
  obtain ⟨d, l, hd, hl, hstatus⟩ := hst
  rw [step] at hrun
  split at hrun
  · cases hrun
    exact ⟨d, l, hd, hl, hstatus⟩
  · rename_i msg rest hqueue
    obtain ⟨terminal, hpop, hret⟩ := bind_eq_ok.mp hrun
    cases hret
    obtain ⟨d', hd', halive⟩ := Terminal.runQueueThread_alive hpop hd
    refine ⟨d', l, hd', hl, ?_⟩
    rw [hqueue, ← List.singleton_append, status_append] at hstatus
    rw [halive]
    exact hstatus

/-- **Every step keeps the agreement.** -/
theorem step_agrees {a : Act} (hst : st.Agrees id) (hrun : st.step a = .ok (st', w)) : st'.Agrees id := by
  cases a with
  | control e => exact control_agrees hst hrun
  | pop => exact pop_agrees hst hrun

end

/-! ### The boot -/

/-- While the boot lasts nothing is queued, nobody is dead, and what the terminal has is shown alive. -/
structure Booting (st : Station) : Prop where
  queue : st.outputQueue = []
  fresh : ∀ id l, st.control.ledger id = some l → l.isDead = false
  shown : ∀ id d, st.terminal.sats.lookup id = some d → d.alive = true ∧ ∃ l, st.control.ledger id = some l

theorem init_booting (buf : RecvBuffer) : Booting (init buf) where
  queue := rfl
  fresh id l hl := by cases hl
  shown id d hd := by cases hd

theorem Booting.agrees {st : Station} (h : Booting st) {id : Int32} {d : SatelliteData}
    (hd : st.terminal.sats.lookup id = some d) : st.Agrees id := by
  obtain ⟨halive, l, hl⟩ := h.shown id d hd
  refine ⟨d, l, hd, hl, ?_⟩
  rw [h.queue, h.fresh id l hl, halive]
  rfl

section
variable {st st' : Station} {env : Surroundings} {line : List UInt8} {counts : Bool} {w : List Effect}

theorem addConnection_fresh {handler : GCConnectionHandler} {id : Int32} {ip : String} {port : Int32}
    (hst : Booting st) (hadd : st.control.handler.addConnection env.now env.os port ip id = .ok (handler, w)) :
    Booting { st with control := { st.control with handler } } ∧ ∃ l, handler.ledger id = some l := by
  have hledger := fun id' => (GCConnectionHandler.addConnection_ledger hadd id').1
  refine ⟨⟨hst.queue, ?_, ?_⟩, ?_⟩
  · intro id' l hl
    have hl' : handler.ledger id' = some l := hl
    rw [hledger] at hl'
    split_ifs at hl'
    · cases hbefore : st.control.handler.ledger id' with
      | none =>
        rw [hbefore] at hl'
        cases hl'
        rfl
      | some l' =>
        rw [hbefore] at hl'
        cases hl'
        exact hst.fresh id' _ hbefore
    · exact hst.fresh id' l hl'
  · intro id' d hd
    obtain ⟨halive, l, hl⟩ := hst.shown id' d hd
    refine ⟨halive, ?_⟩
    show ∃ l, handler.ledger id' = some l
    rw [hledger]
    split_ifs
    · exact ⟨_, rfl⟩
    · exact ⟨l, hl⟩
  · rw [hledger, if_pos rfl]
    exact ⟨_, rfl⟩

theorem connectLine_entry {id : Int32} {ip : String} {port : Int32} (hst : Booting st)
    (hfields : configFields line = .ok (id, ip, port)) (hrun : connectLine st env line = .ok (counts, st', w)) :
    Booting st' ∧ (∀ id' ∈ st.terminal.sats, id' ∈ st'.terminal.sats) ∧ counts = env.opens ∧
      (env.opens = true → id ∈ st'.terminal.sats) := by
  rw [connectLine, hfields] at hrun
  dsimp only at hrun
  split at hrun
  · cases hrun
  rename_i handler effects hadd
  obtain ⟨hst', l, hl⟩ := addConnection_fresh hst hadd
  by_cases hopens : env.opens = false
  · rw [if_pos hopens] at hrun
    cases hrun
    exact ⟨hst', fun _ h => h, hopens.symm, fun h => by rw [hopens] at h; cases h⟩
  rw [if_neg hopens] at hrun
  by_cases hin : id ∈ st.terminal.sats
  · rw [if_pos hin] at hrun
    cases hrun
  rw [if_neg hin] at hrun
  split at hrun
  · cases hrun
  rename_i terminal hadds
  cases hrun
  obtain ⟨key, hkey, hret⟩ := bind_eq_ok.mp hadds
  obtain ⟨-, hkey⟩ := assert_bind_eq_ok.mp hkey
  have hself : key = id := by
    cases hkey
    exact Int32.toInt32_toUInt32 id
  rw [hself, Table.emplace_of_not_mem hin] at hret
  cases hret
  refine ⟨⟨hst'.queue, hst'.fresh, fun id' d hd => ?_⟩, fun id' hid' => (AList.mem_insert _).mpr (.inr hid'),
    (eq_true_of_ne_false hopens).symm, fun _ => (AList.mem_insert _).mpr (.inl rfl)⟩
  by_cases heq : id' = id
  · rw [heq, AList.lookup_insert] at hd
    cases hd
    rw [heq]
    exact ⟨rfl, l, hl⟩
  · rw [AList.lookup_insert_ne heq] at hd
    exact hst'.shown id' d hd

theorem connectLine_skips {why : Stop} (hfields : configFields line = .error why)
    (hrun : connectLine st env line = .ok (counts, st', w)) : counts = false ∧ st' = st := by
  rw [connectLine, hfields] at hrun
  cases why with
  | throws what =>
    cases hrun
    exact ⟨rfl, rfl⟩
  | asserts condition => cases hrun
  | undefined what => cases hrun

end

theorem connectLines_booting {env : Nat → Surroundings} {lines : List (List UInt8)} {n i : Nat} {st st' : Station}
    {w : List Effect} (hst : Booting st) (hrun : connectLines env n i st lines = .ok (st', w)) :
    Booting st' ∧ (∀ id ∈ st.terminal.sats, id ∈ st'.terminal.sats) ∧
      ∀ id ∈ (listed env n lines).take (Config.MAX_CONFIG_LINES - i), id ∈ st'.terminal.sats := by
  induction lines generalizing n i st w with
  | nil =>
    cases hrun
    exact ⟨hst, fun _ h => h, fun id hid => by simp [listed] at hid⟩
  | cons line lines ih =>
    rw [connectLines] at hrun
    by_cases hlimit : i < Config.MAX_CONFIG_LINES
    swap
    · rw [if_neg hlimit] at hrun
      cases hrun
      have hzero : Config.MAX_CONFIG_LINES - i = 0 := by omega
      refine ⟨hst, fun _ h => h, fun id hid => ?_⟩
      rw [hzero, List.take_zero] at hid
      cases hid
    rw [if_pos hlimit] at hrun
    split at hrun
    · cases hrun
    rename_i counts st₁ w₁ hline
    split at hrun
    · cases hrun
    rename_i st₂ w₂ hrest
    cases hrun
    rw [listed]
    cases hfields : configFields line with
    | error why =>
      obtain ⟨rfl, rfl⟩ := connectLine_skips hfields hline
      exact ih hst hrest
    | ok fields =>
      obtain ⟨id, ip, port⟩ := fields
      obtain ⟨hst₁, hkeeps, hcounts, hadds⟩ := connectLine_entry hst hfields hline
      obtain ⟨hst₂, hkeeps', hlisted⟩ := ih hst₁ hrest
      refine ⟨hst₂, fun id' hid' => hkeeps' id' (hkeeps id' hid'), fun id' hid' => ?_⟩
      dsimp only at hid'
      by_cases hopens : (env n).opens = true
      · rw [if_pos (hcounts.trans hopens)] at hlisted
        have hsucc : Config.MAX_CONFIG_LINES - i = (Config.MAX_CONFIG_LINES - (i + 1)) + 1 := by omega
        rw [if_pos hopens, hsucc, List.take_succ_cons] at hid'
        rcases List.mem_cons.mp hid' with rfl | hid'
        · exact hkeeps' _ (hadds hopens)
        · exact hlisted id' hid'
      · rw [if_neg fun hc => hopens (hcounts.symm.trans hc)] at hlisted
        rw [if_neg hopens] at hid'
        exact hlisted id' hid'

/-- **The displayed status agrees with the connection.** Whenever the output queue is empty, however the
steps of the threads were interleaved, every satellite of the configuration file is shown alive if and only
if its connection is not dead. -/
theorem status_agrees {env : Nat → Surroundings} {buf : RecvBuffer} {file : List UInt8} {booted st : Station}
    {es : List Act} {w₀ w : List Effect} (hboot : connectToSatellites env (init buf) file = .ok (booted, w₀))
    (hrun : run step booted es = .ok (st, w)) (hempty : st.outputQueue = []) :
    ∀ id ∈ configured env file, ∃ d c, st.terminal.sats.lookup id = some d ∧
      st.control.handler.satellites.lookup id = some c ∧ (d.alive = true ↔ c.isDead = false) := by
  intro id hid
  obtain ⟨hbooting, -, hlisted⟩ := connectLines_booting (init_booting buf) hboot
  obtain ⟨d₀, hd₀⟩ := Option.isSome_iff_exists.mp (AList.lookup_isSome.mpr (hlisted id hid))
  have hagrees : st.Agrees id := by
    refine run_induction (P := fun _ st _ => Agrees id st) (hbooting.agrees hd₀) ?_ hrun
    intro es st w a st' w' _ hst hstep
    exact step_agrees hst hstep
  obtain ⟨d, l, hd, hl, hstatus⟩ := hagrees
  obtain ⟨c, hc, rfl⟩ := Option.map_eq_some_iff.mp hl
  refine ⟨d, c, hd, hc, ?_⟩
  rw [hempty] at hstatus
  have hflag : d.alive = !c.isDead := hstatus
  rw [hflag, Bool.not_eq_true']

/-- Satellite 1 on port 5001. -/
def oneLine : List UInt8 := [49, 32, 49, 48, 46, 48, 46, 48, 46, 49, 32, 53, 48, 48, 49, 10]

/-- Every call of the boot is granted. -/
def calm : Nat → Surroundings := fun _ => { now := 0, os := fun _ => Os.granting, opens := true }

/-- Eleven rounds without an answer, and the notification is popped. -/
def givenUp : List Act :=
  (List.range 11).map (fun i => .control (.update (10 * (i + 1)) fun _ => Os.granting)) ++ [.pop]

theorem status_agrees_givenUp :
    ∃ booted w₀ st w, connectToSatellites calm (init (filled 0)) oneLine = .ok (booted, w₀) ∧
      run step booted givenUp = .ok (st, w) ∧ st.outputQueue = [] ∧
      ∀ id ∈ configured calm oneLine, ∃ d c, st.terminal.sats.lookup id = some d ∧
        st.control.handler.satellites.lookup id = some c ∧ (d.alive = true ↔ c.isDead = false) := by
  obtain ⟨booted, w₀, st, w, hboot, hrun, hempty⟩ : ∃ booted w₀ st w,
      connectToSatellites calm (init (filled 0)) oneLine = .ok (booted, w₀) ∧
        run step booted givenUp = .ok (st, w) ∧ st.outputQueue = [] := ⟨_, _, _, _, rfl, rfl, rfl⟩
  exact ⟨booted, w₀, st, w, hboot, hrun, hempty, status_agrees hboot hrun hempty⟩

/-- It is shown dead by then. -/
example : (connectToSatellites calm (init (filled 0)) oneLine).toOption.bind (fun r =>
    ((run step r.1 givenUp).toOption.bind fun r' => (r'.1.terminal.sats.lookup 1).map (·.alive))) = some false := rfl

end Station

end Constellation
