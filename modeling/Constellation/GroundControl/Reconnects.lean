import Constellation.GroundControl.Ledger
import Constellation.Lib.Retries

/-!
# Ground control's reconnect attempts

The account of a satellite over a run of ground control (`moments`). Its loss and the attempts are read off
what the loop body of `update` leaves of its connection and among its effects, where every call of `connect`
shows (`dials`), and its death off the results that are queued.

A ledger keeps this account in its counter and its `lastReconnect` (`Kept`): the counter is the number of
attempts since the satellite was last heard, and one more once it was given up, and while the satellite is
disconnected `lastReconnect` is the time of the last attempt, loss or addition. So the tests of `update` and
`reconnect` are the conditions of bounded retries, and every run has the properties of those
(`reconnects_accounted`).
-/

namespace Constellation

/-- Ten attempts, ten seconds apart. -/
def Config.patience : Patience := ⟨Config.MAX_RECONNECT_ATTEMPTS, Config.RECONNECT_INTERVAL⟩

/-! ### The calls of `connect` -/

/-- A call of `connect` opens a socket, or reports that it got none. -/
def Effect.dials : Effect → Bool
  | .opened _ => true
  | .log line => line = "[ERROR] Error creating socket for peer"
  | _ => false

/-- How often `connect` was called. -/
def dials (w : List Effect) : Nat := w.countP Effect.dials

/-- What the loop body of `update` did for satellite `id`: it took the connection down, and called `connect`. -/
def GCConnectionHandler.passed (now : Nat) (os : Int32 → Os) (id : Int32) (c : Connection) : List Moment :=
  match updateSat now os id c with
  | .error _ => []
  | .ok (c', w) =>
    (if c.state = .connected ∧ c'.state = .disconnected then [.lost now] else []) ++
      List.replicate (dials w) (.attempt now)

section dials
variable {w w' : List Effect}

theorem dials_append : dials (w ++ w') = dials w + dials w' := List.countP_append

theorem dials_log {front : String} (rest : String)
    (h : ¬ front.toList <+: "[ERROR] Error creating socket for peer".toList) :
    dials (.log (front ++ rest) :: w) = dials w := by
  refine List.countP_cons_of_neg fun hdials => h ?_
  rw [← of_decide_eq_true hdials, String.toList_append]
  exact List.prefix_append _ _

end dials

namespace Connection

variable {c c' : Connection} {os : Os} {w : List Effect}

theorem sendMessage_dials {message : Message} (h : c.sendMessage os message = .ok w) : dials w = 0 := by
  unfold sendMessage at h
  simp only [assert_bind_eq_ok] at h
  obtain ⟨-, -, -, hret⟩ := h
  cases hret
  split_ifs <;> rfl

theorem connect_dials (h : c.connect os = .ok (c', w)) : dials w = 1 := by
  unfold connect at h
  simp only [assert_bind_eq_ok] at h
  obtain ⟨-, -, h⟩ := h
  split_ifs at h
  · cases h
    rfl
  · cases h
    rfl
  · obtain ⟨sent, hsent, hret⟩ := bind_eq_ok.mp h
    cases hret
    have hlast : dials [.log ("[NETWORK] Attempting to connect to Satellite " ++ toString c.id ++ ", at address: " ++
        c.ip ++ ":" ++ toString c.port)] = 0 := by
      simp only [String.append_assoc]
      exact dials_log _ (by decide)
    rw [dials_append, hlast, dials, List.countP_cons_of_pos rfl, ← dials, sendMessage_dials hsent]

theorem disconnect_dials (c : Connection) (now : Nat) (os : Os) : dials (c.disconnect now os).2 = 0 := by
  rw [disconnect]
  dsimp only
  split_ifs <;> rfl

/-- `reconnect` gets to `connect` once, if an interval has passed and the retries are not used up. -/
theorem reconnect_dials {trying : Bool} {now : Nat} (h : c.reconnect now os = .ok (trying, c', w)) :
    dials w = if now - c.lastReconnect < Config.RECONNECT_INTERVAL ∨ Config.MAX_RECONNECT_ATTEMPTS < c.retryCounter + 1
      then 0 else 1 := by
  by_cases hsoon : now - c.lastReconnect < Config.RECONNECT_INTERVAL
  · rw [reconnect, if_pos hsoon] at h
    cases h
    rw [if_pos (.inl hsoon)]
    rfl
  rw [reconnect, if_neg hsoon] at h
  dsimp only at h
  by_cases hlimit : Config.MAX_RECONNECT_ATTEMPTS < c.retryCounter + 1
  · rw [if_pos hlimit] at h
    cases h
    rw [if_pos (.inr hlimit)]
    rfl
  rw [if_neg hlimit] at h
  obtain ⟨⟨c₁, opening⟩, hconnect, hret⟩ := bind_eq_ok.mp h
  cases hret
  rw [if_neg (not_or.mpr ⟨hsoon, hlimit⟩), dials_append, connect_dials hconnect, String.append_assoc,
    String.append_assoc, dials_log _ (by decide), disconnect_dials]

end Connection

namespace GroundControl

/-- What a step does to satellite `id`, given the state it starts from. -/
def happened (id : Int32) (g : GroundControl) : Input → List Moment
  | .config now _ _ _ satId =>
    if satId = id ∧ g.handler.satellites.lookup id = none then [.added now] else []
  | .datagram now _ bytes _ =>
    if senderOf g.buf bytes = some id then
      (if g.handler.satellites.lookup id = none then [.added now] else []) ++ [.heard now]
    else []
  | .update now os => (g.handler.satellites.lookup id).elim [] (GCConnectionHandler.passed now os id)
  | .command _ _ => []

/-- The results about satellite `id` that say it is not alive. -/
def obituaries (id : Int32) (w : List Effect) : List SatOutput := (notices id w).filter fun out => out.alive = false

/-- The entries a step makes in the account of satellite `id`. -/
def moments (id : Int32) (g : GroundControl) (e : Input) (w : List Effect) : List Moment :=
  happened id g e ++ (obituaries id w).map fun _ => .dead (e.time.getD 0)

end GroundControl

/-! ### The account of a ledger -/

def Verdict.moments (now : Nat) : Verdict → List Moment
  | .idle => []
  | .lost => [.lost now]
  | .attempt => [.attempt now]
  | .dead => [.dead now]

def Ledger.moments (l : Option Ledger) : Turn → List Moment
  | .met now => if l = none then [.added now] else []
  | .heard now => (if l = none then [.added now] else []) ++ [.heard now]
  | .pass now => l.elim [] fun l => (l.verdict now).moments now

/-- The ledger of a satellite knows the account. -/
structure Kept (h : List Moment) (l : Option Ledger) : Prop where
  permitted : Along (Permitted Config.patience) h
  unknown : l = none → h = []
  counter : ∀ l', l = some l' → l'.retryCounter = attempts (sinceHeard h) + deaths (sinceHeard h)
  mark : ∀ l', l = some l' → l'.state = .disconnected → lastMark h = some l'.lastReconnect

section
variable {h : List Moment} {l : Option Ledger} {now : Nat}

theorem kept_nil : Kept [] none where
  permitted := along_nil _
  unknown _ := rfl
  counter _ := nofun
  mark _ := nofun

theorem Kept.met (hk : Kept h l) (now : Nat) :
    Kept (h ++ Ledger.moments l (.met now)) (Ledger.next l (.met now)) := by
  rw [Ledger.moments]
  cases l with
  | some l' =>
    rw [if_neg nofun, List.append_nil]
    exact hk
  | none =>
    rw [if_pos rfl]
    refine ⟨along_snoc.mpr ⟨hk.permitted, trivial⟩, nofun, ?_, ?_⟩
    · rintro _ ⟨⟩
      rw [hk.unknown rfl]
      rfl
    · rintro _ ⟨⟩ -
      rw [lastMark_snoc]
      rfl

theorem Kept.heard (hk : Kept h l) (now : Nat) :
    Kept (h ++ Ledger.moments l (.heard now)) (Ledger.next l (.heard now)) := by
  have hmet : Along (Permitted Config.patience) (h ++ if l = none then [.added now] else []) := by
    split_ifs
    · exact along_snoc.mpr ⟨hk.permitted, trivial⟩
    · rw [List.append_nil]
      exact hk.permitted
  rw [Ledger.moments, ← List.append_assoc]
  refine ⟨along_snoc.mpr ⟨hmet, trivial⟩, nofun, ?_, ?_⟩
  · rintro _ ⟨⟩
    rw [sinceHeard_snoc]
    rfl
  · rintro _ ⟨⟩ hdown
    cases hdown

theorem Kept.counter_le (hk : Kept h l) {l' : Ledger} (hl : l = some l') :
    l'.retryCounter ≤ Config.MAX_RECONNECT_ATTEMPTS + 1 := by
  have hbalance := balanced hk.permitted
  have hattempts : attempts (sinceHeard h) ≤ Config.MAX_RECONNECT_ATTEMPTS := hbalance.attempts_le
  rw [hk.counter l' hl]
  exact Nat.add_le_add hattempts hbalance.deaths_le

theorem Kept.not_dead (hk : Kept h l) {l' : Ledger} (hl : l = some l')
    (hless : l'.retryCounter ≤ Config.MAX_RECONNECT_ATTEMPTS) : deaths (sinceHeard h) = 0 := by
  have hbalance := balanced hk.permitted
  have hcounter := hk.counter l' hl
  by_contra hsome
  have hone : deaths (sinceHeard h) = 1 := by
    have := hbalance.deaths_le
    omega
  have hfull : attempts (sinceHeard h) = Config.MAX_RECONNECT_ATTEMPTS := hbalance.exhausted hone
  omega

section
variable {l : Ledger} {now : Nat}

theorem Kept.lost (hk : Kept h (some l)) : Kept (h ++ Verdict.moments now .lost) (some (l.settle now .lost)) := by
  have hcounter := hk.counter l rfl
  rw [Verdict.moments]
  refine ⟨along_snoc.mpr ⟨hk.permitted, trivial⟩, nofun, ?_, ?_⟩
  · rintro _ ⟨⟩
    rw [sinceHeard_snoc, if_neg (by simp [Moment.isHeard]), attempts_snoc, deaths_snoc]
    exact hcounter
  · rintro _ ⟨⟩ -
    rw [lastMark_snoc]
    rfl

theorem Kept.attempt (hk : Kept h (some l)) (hverdict : l.verdict now = .attempt) :
    Kept (h ++ Verdict.moments now .attempt) (some (l.settle now .attempt)) := by
  have hcounter := hk.counter l rfl
  obtain ⟨hdown, hless, hspaced⟩ := Ledger.verdict_attempt hverdict
  have hmark := hk.mark l rfl hdown
  have halive := hk.not_dead rfl (Nat.le_of_lt hless)
  rw [Verdict.moments]
  refine ⟨along_snoc.mpr ⟨hk.permitted, ?_, halive, ?_⟩, nofun, ?_, ?_⟩
  · show attempts (sinceHeard h) < Config.MAX_RECONNECT_ATTEMPTS
    omega
  · intro t ht
    rw [hmark] at ht
    cases ht
    exact hspaced
  · rintro _ ⟨⟩
    have hattempts : attempts (sinceHeard h ++ [.attempt now]) = attempts (sinceHeard h) + 1 := attempts_snoc
    have hdeaths : deaths (sinceHeard h ++ [.attempt now]) = deaths (sinceHeard h) := deaths_snoc
    rw [sinceHeard_snoc, if_neg (by simp [Moment.isHeard]), hattempts, hdeaths]
    show l.retryCounter + 1 = _
    omega
  · rintro _ ⟨⟩ -
    rw [lastMark_snoc]
    rfl

theorem Kept.dead (hk : Kept h (some l)) (hverdict : l.verdict now = .dead) :
    Kept (h ++ Verdict.moments now .dead) (some (l.settle now .dead)) := by
  have hcounter := hk.counter l rfl
  obtain ⟨hdown, hfull⟩ := Ledger.verdict_dead hverdict
  have halive := hk.not_dead rfl (Nat.le_of_eq hfull)
  rw [Verdict.moments]
  refine ⟨along_snoc.mpr ⟨hk.permitted, ?_, halive⟩, nofun, ?_, ?_⟩
  · show attempts (sinceHeard h) = Config.MAX_RECONNECT_ATTEMPTS
    omega
  · rintro _ ⟨⟩
    have hattempts : attempts (sinceHeard h ++ [.dead now]) = attempts (sinceHeard h) := attempts_snoc
    have hdeaths : deaths (sinceHeard h ++ [.dead now]) = deaths (sinceHeard h) + 1 := deaths_snoc
    rw [sinceHeard_snoc, if_neg (by simp [Moment.isHeard]), hattempts, hdeaths]
    show l.retryCounter + 1 = _
    omega
  · rintro _ ⟨⟩ -
    rw [lastMark_snoc]
    exact hk.mark l rfl hdown

end

/-- **What a round does to a ledger is permitted by its account**, and is entered in it. -/
theorem Kept.pass (hk : Kept h l) (now : Nat) :
    Kept (h ++ Ledger.moments l (.pass now)) (Ledger.next l (.pass now)) := by
  cases l with
  | none =>
    rw [Ledger.moments, Option.elim_none, List.append_nil]
    exact hk
  | some l =>
    rw [Ledger.moments, Option.elim_some, Ledger.next, Option.map_some]
    cases hverdict : l.verdict now with
    | idle =>
      rw [Verdict.moments, List.append_nil]
      exact hk
    | lost => exact hk.lost
    | attempt => exact hk.attempt hverdict
    | dead => exact hk.dead hverdict

theorem Kept.turn (hk : Kept h l) (t : Turn) : Kept (h ++ Ledger.moments l t) (Ledger.next l t) := by
  cases t with
  | met now => exact hk.met now
  | heard now => exact hk.heard now
  | pass now => exact hk.pass now

end

/-! ### The account of a run -/

/-- A pass that returns has called the loop body for every satellite. -/
theorem GCConnectionHandler.update_calls {h h' : GCConnectionHandler} {now : Nat} {os : Int32 → Os} {w : List Effect}
    (hrun : h.update now os = .ok (h', w)) {id : Int32} {c : Connection} (hc : h.satellites.lookup id = some c) :
    ∃ c' v, updateSat now os id c = .ok (c', v) := by
  obtain ⟨⟨satellites, w₁⟩, hsweep, -⟩ := bind_eq_ok.mp hrun
  obtain ⟨-, hsome⟩ := Table.sweep_view (fun _ => ([] : List Unit)) (k := id) rfl (fun _ _ => rfl)
    (fun _ _ _ _ _ _ _ => rfl) hsweep
  obtain ⟨c', v, hcall, -⟩ := hsome c hc
  exact ⟨c', v, hcall⟩

theorem GCConnectionHandler.passed_attempts {c c' : Connection} {now : Nat} {os : Int32 → Os} {id : Int32}
    {w : List Effect} (hrun : updateSat now os id c = .ok (c', w)) :
    (passed now os id c).countP Moment.isAttempt = dials w := by
  have hlost : ((if c.state = .connected ∧ c'.state = .disconnected then [.lost now] else []) : List Moment).countP
      Moment.isAttempt = 0 := by
    split_ifs <;> rfl
  rw [passed, hrun]
  dsimp only
  rw [List.countP_append, hlost, Nat.zero_add, List.countP_replicate]
  exact if_pos rfl

theorem GCConnectionHandler.passed_eq {c c' : Connection} {now : Nat} {os : Int32 → Os} {id : Int32} {w : List Effect}
    (hrun : updateSat now os id c = .ok (c', w)) :
    passed now os id c ++ (if c.ledger.verdict now = .dead then [.dead now] else []) =
      (c.ledger.verdict now).moments now := by
  rw [passed, hrun]
  dsimp only
  unfold updateSat at hrun
  by_cases hout : c.state = .connected ∧ c.isTimedOut now = true
  · have hverdict : c.ledger.verdict now = .lost := by
      rw [Connection.verdict_eq, if_pos hout.1, if_pos (of_decide_eq_true hout.2)]
    rw [if_pos hout] at hrun
    cases hrun
    have hclosing := Connection.disconnect_dials c now (os id)
    rw [Connection.disconnect] at hclosing
    rw [hverdict, String.append_assoc, dials_log _ (by decide), hclosing, if_pos ⟨hout.1, rfl⟩]
    rfl
  rw [if_neg hout] at hrun
  by_cases htry : c.state = .disconnected ∧ c.isDead = false
  · have hup : ¬ c.state = .connected := by
      rw [htry.1]
      decide
    have halive : ¬ Config.MAX_RECONNECT_ATTEMPTS < c.retryCounter := of_decide_eq_false htry.2
    rw [if_pos htry] at hrun
    obtain ⟨⟨trying, c₁, effects⟩, hreconnect, hrest⟩ := bind_eq_ok.mp hrun
    have hdials := Connection.reconnect_dials hreconnect
    have hsame : dials w = dials effects := by
      cases trying with
      | true =>
        cases hrest
        rfl
      | false =>
        obtain ⟨out, -, hret⟩ := bind_eq_ok.mp hrest
        cases hret
        exact dials_append
    rw [if_neg fun h => hup h.1, hsame, hdials, Connection.verdict_eq, if_neg hup, if_neg halive]
    -- an attempt is due exactly if neither test of `reconnect` sends it back
    by_cases hsoon : now - c.lastReconnect < Config.RECONNECT_INTERVAL
    · rw [if_pos (.inl hsoon), if_pos hsoon]
      rfl
    by_cases hlimit : Config.MAX_RECONNECT_ATTEMPTS < c.retryCounter + 1
    · have hspent : ¬ c.retryCounter < Config.MAX_RECONNECT_ATTEMPTS := by omega
      rw [if_pos (.inr hlimit), if_neg hsoon, if_neg hspent]
      rfl
    · have hless : c.retryCounter < Config.MAX_RECONNECT_ATTEMPTS := by omega
      rw [if_neg (not_or.mpr ⟨hsoon, hlimit⟩), if_neg hsoon, if_pos hless]
      rfl
  · rw [if_neg htry] at hrun
    cases hrun
    have hsame : ¬ (c.state = .connected ∧ c.state = .disconnected) := by
      rintro ⟨hup, hdown⟩
      rw [hup] at hdown
      cases hdown
    rw [verdict_idle hout htry, if_neg hsame]
    rfl

namespace GroundControl

section
variable {g g' : GroundControl} {e : Input} {w : List Effect} {id : Int32}

theorem ledger_eq_none : g.ledger id = none ↔ g.handler.satellites.lookup id = none := Option.map_eq_none_iff

theorem moments_eq (hrun : g.take e = .ok (g', w)) :
    moments id g e w = (g.turn id e).elim [] (Ledger.moments (g.ledger id)) := by
  obtain ⟨-, hannounces⟩ := take_ledger hrun id
  rw [moments, obituaries]
  cases e with
  | config now os port ip satId =>
    rw [happened, turn]
    rw [turn] at hannounces
    by_cases hid : satId = id
    · rw [if_pos hid] at hannounces ⊢
      have hquiet : notices id w = [] := hannounces
      rw [hquiet, Option.elim_some, Ledger.moments, List.filter_nil, List.map_nil, List.append_nil]
      simp only [hid, true_and, ledger_eq_none]
    · rw [if_neg hid] at hannounces ⊢
      have hquiet : notices id w = [] := hannounces
      rw [if_neg fun h => hid h.1, hquiet]
      rfl
  | datagram now os bytes ip =>
    rw [happened, turn]
    rw [turn] at hannounces
    by_cases hsender : senderOf g.buf bytes = some id
    · rw [if_pos hsender] at hannounces ⊢
      obtain ⟨halive, -⟩ := hannounces
      have hquiet : (notices id w).filter (fun out => out.alive = false) = [] := by
        rw [List.filter_eq_nil_iff]
        intro out hout
        simp [halive out hout]
      rw [if_pos hsender, hquiet, List.map_nil, List.append_nil, Option.elim_some, Ledger.moments]
      simp only [ledger_eq_none]
    · rw [if_neg hsender] at hannounces ⊢
      have hquiet : notices id w = [] := hannounces
      rw [if_neg hsender, hquiet]
      rfl
  | update now os =>
    have hnotices : notices id w = if (g.ledger id).map (Ledger.verdict · now) = some .dead
        then [deadNotice id] else [] := hannounces
    rw [happened, turn, Option.elim_some, Ledger.moments, hnotices, ledger, GCConnectionHandler.ledger]
    cases hl : g.handler.satellites.lookup id with
    | none => rfl
    | some c =>
      obtain ⟨⟨h', v⟩, hupdate, -⟩ := bind_eq_ok.mp hrun
      obtain ⟨c', v', hcall⟩ := GCConnectionHandler.update_calls hupdate hl
      simp only [Option.map_some, Option.elim_some, Option.some_inj, ← GCConnectionHandler.passed_eq hcall]
      split_ifs <;> rfl
  | command os com =>
    have hquiet : notices id w = [] := hannounces
    rw [hquiet]
    rfl

/-- The calls of `connect` in a pass are the attempts that the accounts enter. -/
theorem update_dials {now : Nat} {os : Int32 → Os} (hrun : g.take (.update now os) = .ok (g', w)) :
    dials w = (g.handler.satellites.entries.map fun e =>
      (moments e.1 g (.update now os) w).countP Moment.isAttempt).sum := by
  obtain ⟨⟨h', v⟩, hupdate, hret⟩ := bind_eq_ok.mp hrun
  cases hret
  obtain ⟨⟨satellites, v'⟩, hsweep, hret⟩ := bind_eq_ok.mp hupdate
  cases hret
  refine Table.sweep_count (n := fun id _ => (moments id g (.update now os) w).countP Moment.isAttempt) rfl
    (fun _ _ => dials_append) (fun id c c' v hc hcall => ?_) hsweep
  rw [moments, happened, hc, Option.elim_some, List.countP_append, GCConnectionHandler.passed_attempts hcall]
  have hdead : ((obituaries id w).map fun _ => Moment.dead ((Input.update now os).time.getD 0)).countP Moment.isAttempt =
      0 := by
    rw [List.countP_map]
    exact List.countP_eq_zero.mpr fun _ _ => Bool.false_ne_true
  rw [hdead, Nat.add_zero]

end

/-- **Ground control keeps its patience with every satellite**, in the account of every run, up to each of its
entries, and its counter stays within the limit and one. No call of `connect` in a pass is left out of the accounts. -/
theorem reconnects_accounted {gcPort : Int32} {buf : RecvBuffer} {es : List Input} {g : GroundControl}
    {w : List Effect} (hrun : run take (init gcPort buf) es = .ok (g, w)) (id : Int32) :
    (∀ h, h <+: observe take (moments id) (init gcPort buf) es → Accounted Config.patience h) ∧
      (∀ c, g.handler.satellites.lookup id = some c → c.retryCounter ≤ Config.MAX_RECONNECT_ATTEMPTS + 1) ∧
      ∀ now os g' w', g.take (.update now os) = .ok (g', w') → dials w' =
        (g.handler.satellites.entries.map fun e =>
          (moments e.1 g (.update now os) w').countP Moment.isAttempt).sum := by
  have hkept : Kept (observe take (moments id) (init gcPort buf) es) (g.ledger id) := by
    refine run_induction (P := fun es g _ => Kept (observe take (moments id) (init gcPort buf) es) (g.ledger id))
      ?_ ?_ hrun
    · exact kept_nil
    intro es g w e g' w' hes ih hstep
    rw [observe_snoc hes hstep, moments_eq hstep, (take_ledger hstep id).1]
    cases hturn : g.turn id e with
    | none =>
      rw [Option.elim_none, Option.elim_none, List.append_nil]
      exact ih
    | some t => exact ih.turn t
  refine ⟨?_, ?_, fun now os g' w' hpass => update_dials hpass⟩
  · rintro h ⟨rest, hsplit⟩
    have hall := hkept.permitted
    rw [← hsplit] at hall
    exact accounted hall.of_append
  · intro c hc
    have hledger : g.ledger id = some c.ledger := by
      rw [ledger, GCConnectionHandler.ledger, hc]
      rfl
    exact hkept.counter_le hledger

/-- A satellite that is configured at time 0 and never answers, with a round every ten seconds. -/
def unanswered : List Input :=
  .config 0 (fun _ => Os.granting) 5001 "127.0.0.1" 1 ::
    (List.range 12).map fun i => .update (10 * (i + 1)) fun _ => Os.granting

theorem reconnects_accounted_unanswered :
    ∃ g w, run take (init Config.GC_PORT (filled 0)) unanswered = .ok (g, w) ∧
      (∀ h, h <+: observe take (moments 1) (init Config.GC_PORT (filled 0)) unanswered →
        Accounted Config.patience h) ∧
      (∀ c, g.handler.satellites.lookup 1 = some c → c.retryCounter ≤ Config.MAX_RECONNECT_ATTEMPTS + 1) ∧
      ∀ now os g' w', g.take (.update now os) = .ok (g', w') → dials w' =
        (g.handler.satellites.entries.map fun e =>
          (moments e.1 g (.update now os) w').countP Moment.isAttempt).sum :=
  ⟨_, _, rfl, reconnects_accounted rfl 1⟩

/-- Its account: ten attempts, then it is given up, and the last round does nothing. -/
example : observe take (moments 1) (init Config.GC_PORT (filled 0)) unanswered =
    .added 0 :: (List.range 10).map (fun i => .attempt (10 * (i + 1))) ++ [.dead 110] := rfl

end GroundControl

end Constellation
