import Constellation.GroundControl.Process

/-!
# The bookkeeping behind a satellite's status

Ground control decides from four fields of a connection whether its satellite is connected, when to try
again and when to give it up; the socket, the address and the port play no part in it. `Ledger` is these
four fields, with the three things that can happen to them: the satellite becomes known, it is heard, or
the update thread makes a round. What a round finds is its `Verdict`.

The process follows the ledgers whatever the operating system answers: a step that returns moves the
ledger of each satellite by what the step means for it (`take_ledger`), and the results it queues about a
satellite are determined by the ledger as well (`take_notices`). Datagrams are given by their bytes.
-/

namespace Constellation

/-- What can happen to the entry of a satellite. -/
inductive Turn
  /-- It is added if it is not known yet. -/
  | met (now : Nat)
  /-- A message of it is handled. -/
  | heard (now : Nat)
  /-- The update thread comes by. -/
  | pass (now : Nat)

/-- What the update thread finds. -/
inductive Verdict
  /-- Nothing is to be done. -/
  | idle
  /-- The satellite has timed out. -/
  | lost
  /-- It is time for another attempt. -/
  | attempt
  /-- The attempts are used up. -/
  | dead
  deriving DecidableEq

structure Ledger where
  state : GCConnectionState
  lastHeartbeat : Nat
  lastReconnect : Nat
  retryCounter : Nat

namespace Ledger

/-- The ledger of a connection that was just made. -/
def opened (now : Nat) : Ledger := ⟨.disconnected, now, now, 0⟩

def hear (l : Ledger) (now : Nat) : Ledger :=
  { l with state := .connected, lastHeartbeat := now, retryCounter := 0 }

def verdict (l : Ledger) (now : Nat) : Verdict :=
  if l.state = .connected then
    if Config.TIMEOUT_THRESHOLD < now - l.lastHeartbeat then .lost else .idle
  else if Config.MAX_RECONNECT_ATTEMPTS < l.retryCounter then .idle
  else if now - l.lastReconnect < Config.RECONNECT_INTERVAL then .idle
  else if l.retryCounter < Config.MAX_RECONNECT_ATTEMPTS then .attempt
  else .dead

def settle (l : Ledger) (now : Nat) : Verdict → Ledger
  | .idle => l
  | .lost => { l with state := .disconnected, lastReconnect := now }
  | .attempt => { l with state := .disconnected, lastReconnect := now, retryCounter := l.retryCounter + 1 }
  | .dead => { l with retryCounter := l.retryCounter + 1 }

def isDead (l : Ledger) : Bool := Config.MAX_RECONNECT_ATTEMPTS < l.retryCounter

section
variable {l : Ledger} {now : Nat}

theorem not_connected (h : l.state ≠ .connected) : l.state = .disconnected := by
  cases hs : l.state with
  | connected => exact absurd hs h
  | disconnected => rfl

theorem verdict_attempt (h : l.verdict now = .attempt) : l.state = .disconnected ∧
    l.retryCounter < Config.MAX_RECONNECT_ATTEMPTS ∧ l.lastReconnect + Config.RECONNECT_INTERVAL ≤ now := by
  rw [verdict] at h
  split_ifs at h with hup hlate hspent hsoon hless
  refine ⟨not_connected hup, hless, ?_⟩
  have hpositive : 0 < Config.RECONNECT_INTERVAL := by decide
  omega

theorem verdict_dead (h : l.verdict now = .dead) :
    l.state = .disconnected ∧ l.retryCounter = Config.MAX_RECONNECT_ATTEMPTS := by
  rw [verdict] at h
  split_ifs at h with hup hlate hspent hsoon hless
  refine ⟨not_connected hup, ?_⟩
  omega

end

/-- The ledger, if there is one, after one turn. -/
def next (l : Option Ledger) : Turn → Option Ledger
  | .met now => some (l.getD (opened now))
  | .heard now => some ((l.getD (opened now)).hear now)
  | .pass now => l.map fun l => l.settle now (l.verdict now)

end Ledger

/-- The result an effect queues. -/
def Effect.out : Effect → Option SatOutput
  | .output out => some out
  | _ => none

/-- The results a step queues. -/
def outputs (w : List Effect) : List SatOutput := w.filterMap Effect.out

/-- Those about one satellite. -/
def notices (id : Int32) (w : List Effect) : List SatOutput := (outputs w).filter fun out => out.id = id.toUInt32

/-- The notification that a satellite is dead. -/
def deadNotice (id : Int32) : SatOutput := { id := id.toUInt32, alive := false }

section
variable {id id' : Int32} {w w' : List Effect}

theorem outputs_append : outputs (w ++ w') = outputs w ++ outputs w' := List.filterMap_append

theorem outputs_eq_nil (h : ∀ out, Effect.output out ∉ w) : outputs w = [] := by
  rw [outputs, List.filterMap_eq_nil_iff]
  intro e he
  cases e with
  | output out => exact absurd he (h out)
  | log line => rfl
  | opened fd => rfl
  | closed fd => rfl
  | sendto peer fd dest m => rfl

theorem notices_append : notices id (w ++ w') = notices id w ++ notices id w' := by
  rw [notices, outputs_append, List.filter_append]
  rfl

theorem notices_eq_nil (h : outputs w = []) : notices id w = [] := by
  rw [notices, h]
  rfl

theorem notices_singleton {out : SatOutput} (h : outputs w = [out]) (hid : out.id = id'.toUInt32) :
    notices id w = if id' = id then [out] else [] := by
  rw [notices, h, List.filter_singleton, hid]
  by_cases heq : id' = id
  · rw [if_pos heq, heq]
    simp
  · have hne : id'.toUInt32 ≠ id.toUInt32 := fun hbits => heq (congrArg UInt32.toInt32 hbits)
    simp [heq, hne]

end

namespace Connection

def ledger (c : Connection) : Ledger := ⟨c.state, c.lastHeartbeat, c.lastReconnect, c.retryCounter⟩

section
variable {c c' : Connection} {os : Os} {now : Nat} {w : List Effect}

theorem verdict_eq (c : Connection) (now : Nat) : c.ledger.verdict now =
    if c.state = .connected then
      if Config.TIMEOUT_THRESHOLD < now - c.lastHeartbeat then .lost else .idle
    else if Config.MAX_RECONNECT_ATTEMPTS < c.retryCounter then .idle
    else if now - c.lastReconnect < Config.RECONNECT_INTERVAL then .idle
    else if c.retryCounter < Config.MAX_RECONNECT_ATTEMPTS then .attempt
    else .dead := rfl

theorem sendMessage_quiet {message : Message} (h : c.sendMessage os message = .ok w) (out : SatOutput) :
    Effect.output out ∉ w := by
  obtain ⟨-, line, rfl⟩ := sendMessage_sent h
  simp

theorem connect_ledger (h : c.connect os = .ok (c', w)) : c'.ledger = c.ledger ∧ ∀ out, Effect.output out ∉ w := by
  rcases (connect_cases h).2 with
    ⟨-, rfl, line, rfl⟩ | ⟨-, dest, line, rfl, rfl⟩ | ⟨-, dest, line, attempt, rfl, rfl⟩
  · exact ⟨rfl, by simp⟩
  · exact ⟨rfl, by simp⟩
  · exact ⟨rfl, by simp⟩

theorem disconnect_quiet (c : Connection) (now : Nat) (os : Os) (out : SatOutput) :
    Effect.output out ∉ (c.disconnect now os).2 := by
  rw [disconnect]
  dsimp only
  split_ifs <;> simp

end

end Connection

namespace GCConnectionHandler

section
variable {h h' : GCConnectionHandler} {c c' : Connection} {now : Nat} {os : Int32 → Os} {id : Int32} {w : List Effect}

theorem verdict_idle (hout : ¬ (c.state = .connected ∧ c.isTimedOut now = true))
    (htry : ¬ (c.state = .disconnected ∧ c.isDead = false)) : c.ledger.verdict now = .idle := by
  rw [Connection.verdict_eq]
  by_cases hup : c.state = .connected
  · have hfresh : ¬ Config.TIMEOUT_THRESHOLD < now - c.lastHeartbeat :=
      fun hlate => hout ⟨hup, decide_eq_true hlate⟩
    rw [if_pos hup, if_neg hfresh]
  · have hdown : c.state = .disconnected := Ledger.not_connected (l := c.ledger) hup
    have hdead : Config.MAX_RECONNECT_ATTEMPTS < c.retryCounter := by
      by_contra hnot
      exact htry ⟨hdown, decide_eq_false hnot⟩
    rw [if_neg hup, if_pos hdead]

theorem retry_ledger {trying : Bool} {effects : List Effect} (hdown : c.state = .disconnected) (hdead : c.isDead = false)
    (hreconnect : c.reconnect now (os id) = .ok (trying, c', effects))
    (hreport : (trying = true ∧ w = effects) ∨
      (trying = false ∧ ∃ out, Parser.dataDecoder id [] false = .ok out ∧ w = effects ++ [.output out])) :
    c'.ledger = c.ledger.settle now (c.ledger.verdict now) ∧
      outputs w = if c.ledger.verdict now = .dead then [deadNotice id] else [] := by
  have hup : ¬ c.state = .connected := by
    rw [hdown]
    decide
  have halive : ¬ Config.MAX_RECONNECT_ATTEMPTS < c.retryCounter := of_decide_eq_false hdead
  rw [Connection.verdict_eq, if_neg hup, if_neg halive]
  rcases Connection.reconnect_cases hreconnect with ⟨hsoon, rfl, rfl, rfl⟩ | ⟨hsoon, hlimit, rfl, rfl, rfl⟩ |
    ⟨hsoon, hlimit, rfl, line, opening, hconnect, rfl⟩
  · obtain ⟨-, rfl⟩ := hreport.resolve_right (by simp)
    rw [if_pos hsoon]
    exact ⟨rfl, rfl⟩
  · obtain ⟨-, out, hout, rfl⟩ := hreport.resolve_left (by simp)
    rw [if_neg hsoon, if_neg (by omega)]
    have hid : 0 < id := (assert_bind_eq_ok.mp hout).1
    rw [Parser.dataDecoder_status hid] at hout
    cases hout
    exact ⟨rfl, rfl⟩
  · obtain ⟨-, rfl⟩ := hreport.resolve_right (by simp)
    obtain ⟨hledger, hquiet⟩ := Connection.connect_ledger hconnect
    rw [if_neg hsoon, if_pos (by omega)]
    refine ⟨hledger, outputs_eq_nil fun out => ?_⟩
    simp [Connection.disconnect_quiet, hquiet]

theorem updateSat_ledger (hrun : updateSat now os id c = .ok (c', w)) :
    c'.ledger = c.ledger.settle now (c.ledger.verdict now) ∧
      outputs w = if c.ledger.verdict now = .dead then [deadNotice id] else [] := by
  rcases updateSat_cases hrun with
    ⟨hout, rfl, line, rfl⟩ | ⟨htry, trying, effects, hreconnect, hreport⟩ | ⟨hout, htry, rfl, rfl⟩
  · have hverdict : c.ledger.verdict now = .lost := by
      rw [Connection.verdict_eq, if_pos hout.1, if_pos (of_decide_eq_true hout.2)]
    rw [hverdict]
    refine ⟨rfl, outputs_eq_nil fun out => ?_⟩
    simp [Connection.disconnect_quiet]
  · exact retry_ledger htry.1 htry.2 hreconnect hreport
  · rw [verdict_idle hout htry]
    exact ⟨rfl, rfl⟩

theorem updateSat_others {id' : Int32} (hne : id' ≠ id) (hrun : updateSat now os id' c = .ok (c', w)) :
    notices id w = [] := by
  obtain ⟨-, houtputs⟩ := updateSat_ledger hrun
  by_cases hdead : c.ledger.verdict now = .dead
  · rw [if_pos hdead] at houtputs
    rw [notices_singleton houtputs rfl, if_neg hne]
  · rw [if_neg hdead] at houtputs
    exact notices_eq_nil houtputs

def ledger (h : GCConnectionHandler) (id : Int32) : Option Ledger := (h.satellites.lookup id).map Connection.ledger

/-- A round is a pass over every ledger, and its only results are the notifications of the satellites it
gives up. -/
theorem update_ledger (hrun : h.update now os = .ok (h', w)) (id : Int32) :
    h'.ledger id = Ledger.next (h.ledger id) (.pass now) ∧
      notices id w = if (h.ledger id).map (Ledger.verdict · now) = some .dead then [deadNotice id] else [] := by
  obtain ⟨⟨satellites, w₁⟩, hsweep, hret⟩ := bind_eq_ok.mp hrun
  cases hret
  obtain ⟨hnone, hsome⟩ := Table.sweep_view (notices id) (k := id) rfl (fun _ _ => notices_append)
    (fun id' c c' v _ hne hcall => updateSat_others hne hcall) hsweep
  rw [ledger, ledger]
  cases hl : h.satellites.lookup id with
  | none =>
    obtain ⟨hafter, hview⟩ := hnone hl
    dsimp only
    rw [hafter, hview]
    exact ⟨rfl, rfl⟩
  | some c =>
    obtain ⟨c', v, hcall, hafter, hview⟩ := hsome c hl
    obtain ⟨hledger, houtputs⟩ := updateSat_ledger hcall
    dsimp only
    rw [hafter, hview]
    refine ⟨congrArg some hledger, ?_⟩
    simp only [Option.map_some, Option.some_inj]
    by_cases hdead : c.ledger.verdict now = .dead
    · rw [if_pos hdead] at houtputs ⊢
      rw [notices_singleton houtputs rfl, if_pos rfl]
    · rw [if_neg hdead] at houtputs ⊢
      exact notices_eq_nil houtputs

theorem addConnection_ledger {port : Int32} {ip : String} {satId : Int32}
    (hrun : h.addConnection now os port ip satId = .ok (h', w)) (id : Int32) :
    h'.ledger id = (if satId = id then Ledger.next (h.ledger id) (.met now) else h.ledger id) ∧ outputs w = [] := by
  obtain ⟨hknown, rfl, rfl⟩ | ⟨hknown, c, hconnect, rfl⟩ := addConnection_cases hrun
  · refine ⟨?_, rfl⟩
    by_cases hid : satId = id
    · rw [if_pos hid]
      subst hid
      obtain ⟨c, hc⟩ := Option.isSome_iff_exists.mp (AList.lookup_isSome.mpr hknown)
      simp [ledger, hc, Ledger.next]
    · rw [if_neg hid]
  · obtain ⟨hledger, hquiet⟩ := Connection.connect_ledger hconnect
    refine ⟨?_, outputs_eq_nil hquiet⟩
    rw [ledger]
    by_cases hid : satId = id
    · subst hid
      have habsent : h.satellites.lookup satId = none := AList.lookup_eq_none.mpr hknown
      rw [Table.lookup_insert_modify_self, if_pos rfl, ledger, habsent, Option.map_some, hledger]
      rfl
    · rw [Table.lookup_insert_modify_of_ne _ _ _ (Ne.symm hid), if_neg hid]
      rfl

theorem heartbeatSat_ledger {satId : Int32} (hrun : h.heartbeatSat now satId = .ok h') (id : Int32) :
    h'.ledger id = if satId = id then (h.ledger id).map (·.hear now) else h.ledger id := by
  obtain ⟨-, hret⟩ := assert_bind_eq_ok.mp hrun
  cases hret
  rw [ledger, ledger]
  by_cases hid : satId = id
  · subst hid
    rw [Table.lookup_modify_self, if_pos rfl, Option.map_map, Option.map_map]
    rfl
  · rw [Table.lookup_modify_of_ne _ _ (Ne.symm hid), if_neg hid]

end

end GCConnectionHandler

/-- All results of a step say that this satellite is alive. -/
def Reports (id : Int32) (w : List Effect) : Prop := ∀ out ∈ outputs w, out.alive = true ∧ out.id = id.toUInt32

section
variable {id : Int32} {w w' : List Effect}

theorem Reports.append (h : Reports id w) (h' : Reports id w') : Reports id (w ++ w') := by
  intro out hout
  rw [outputs_append] at hout
  exact (List.mem_append.mp hout).elim (h out) (h' out)

theorem Reports.of_nil (h : outputs w = []) : Reports id w := by
  intro out hout
  rw [h] at hout
  cases hout

theorem Reports.singleton {out : SatOutput} (h : outputs w = [out]) (halive : out.alive = true)
    (hid : out.id = id.toUInt32) : Reports id w := by
  intro out' hout
  rw [h] at hout
  cases List.mem_singleton.mp hout
  exact ⟨halive, hid⟩

theorem Reports.others (h : Reports id w) {id' : Int32} (hne : id ≠ id') : notices id' w = [] := by
  rw [notices, List.filter_eq_nil_iff]
  intro out hout
  rw [(h out hout).2]
  intro hbits
  exact hne (congrArg UInt32.toInt32 (of_decide_eq_true hbits))

theorem Reports.alive (h : Reports id w) {out : SatOutput} (hout : out ∈ notices id w) : out.alive = true :=
  (h out (List.mem_of_mem_filter hout)).1

end

theorem GCConnectionHandler.sendMessageToSat_outputs {h : GCConnectionHandler} {os : Int32 → Os} {id : Int32}
    {message : Message} {w : List Effect} (hrun : h.sendMessageToSat os id message = .ok w) : outputs w = [] := by
  rcases sendMessageToSat_cases hrun with ⟨-, line, rfl⟩ | ⟨c, -, hsent⟩
  · rfl
  · exact outputs_eq_nil (Connection.sendMessage_quiet hsent)

namespace Receiver

section
variable {r : Receiver} {m : Message} {h h' : GCConnectionHandler} {now : Nat} {os : Int32 → Os} {ip : String}
  {w : List Effect}

theorem addConnection_ledger (hrun : r.addConnection now os m h ip = .ok (h', w)) :
    (∀ id, h'.ledger id = if m.senderId = id then Ledger.next (h.ledger id) (.heard now) else h.ledger id) ∧
      Reports m.senderId w ∧ (h.ledger m.senderId ≠ none → outputs w ≠ []) := by
  obtain ⟨hsender, ⟨hnew, h₁, v, hadd, hheard, rfl⟩ | ⟨hknown, out, hheard, hout, rfl⟩⟩ := addConnection_cases hrun
  · have hl : h.ledger m.senderId = none := by
      rw [GCConnectionHandler.ledger, hnew]
      rfl
    have hquiet := (GCConnectionHandler.addConnection_ledger hadd m.senderId).2
    refine ⟨fun id => ?_, .append (.of_nil hquiet) (.of_nil rfl), fun hne => absurd hl hne⟩
    rw [GCConnectionHandler.heartbeatSat_ledger hheard, (GCConnectionHandler.addConnection_ledger hadd id).1]
    by_cases hid : m.senderId = id
    · subst hid
      rw [if_pos rfl, if_pos rfl, if_pos rfl, hl]
      rfl
    · rw [if_neg hid, if_neg hid, if_neg hid]
  · rw [Parser.dataDecoder_status hsender] at hout
    cases hout
    refine ⟨fun id => ?_, .singleton rfl rfl rfl, fun _ => nofun⟩
    rw [GCConnectionHandler.heartbeatSat_ledger hheard]
    by_cases hid : m.senderId = id
    · subst hid
      obtain ⟨c, hc⟩ := Option.isSome_iff_exists.mp hknown
      rw [if_pos rfl, if_pos rfl, GCConnectionHandler.ledger, hc]
      rfl
    · rw [if_neg hid, if_neg hid]

theorem handle_reports {x : Bool × Receiver × List Effect} (hrun : r.handle m = .ok x) :
    Reports m.senderId x.2.2 := by
  obtain hnone | ⟨line, hline⟩ | ⟨chunk, out, hdecoded, hout⟩ := handle_cases hrun
  · exact .of_nil (by rw [hnone]; rfl)
  · exact .of_nil (by rw [hline]; rfl)
  · obtain ⟨halive, hid⟩ := Parser.dataDecoder_alive hdecoded
    exact .singleton (by rw [hout]; rfl) halive hid

theorem ack_reports {x : Receiver × List Effect} (hrun : r.ack os m h = .ok x) : Reports m.senderId x.2 := by
  obtain ⟨handled, r', v, hhandle, ⟨-, sent, hsent, rfl⟩ | ⟨-, rfl⟩⟩ := ack_cases hrun
  · have hreports : Reports m.senderId v := handle_reports hhandle
    exact hreports.append (.of_nil (GCConnectionHandler.sendMessageToSat_outputs hsent))
  · exact handle_reports hhandle

end

end Receiver

namespace GroundControl

/-- A step of one of the threads, with a datagram given by its bytes. -/
inductive Input
  | config (now : Nat) (os : Int32 → Os) (port : Int32) (ip : String) (id : Int32)
  | datagram (now : Nat) (os : Int32 → Os) (bytes : List UInt8) (ip : String)
  | update (now : Nat) (os : Int32 → Os)
  | command (os : Int32 → Os) (com : CommandInput)

def take (g : GroundControl) : Input → Except Stop (GroundControl × List Effect)
  | .config now os port ip id => g.step (.config now os port ip id)
  | .datagram now os bytes ip => g.listen now os bytes ip
  | .update now os => g.step (.update now os)
  | .command os com => g.step (.command os com)

/-- The clock reading of a step. A command is sent without one. -/
def Input.time : Input → Option Nat
  | .config now _ _ _ _ => some now
  | .datagram now _ _ _ => some now
  | .update now _ => some now
  | .command _ _ => none

/-- A step with a serialized message is one with its bytes. -/
def Event.toInput : Event → Input
  | .config now os port ip id => .config now os port ip id
  | .datagram now os m pad ip => .datagram now os (m.serialize pad) ip
  | .update now os => .update now os
  | .command os com => .command os com

theorem take_toInput (g : GroundControl) (e : Event) : g.take e.toInput = g.step e := by
  cases e <;> rfl

/-- What a step means for the entry of one satellite. -/
def turn (g : GroundControl) (id : Int32) : Input → Option Turn
  | .config now _ _ _ satId => if satId = id then some (.met now) else none
  | .datagram now _ bytes _ => if senderOf g.buf bytes = some id then some (.heard now) else none
  | .update now _ => some (.pass now)
  | .command _ _ => none

def ledger (g : GroundControl) (id : Int32) : Option Ledger := g.handler.ledger id

/-- What a step queues about a satellite: nothing but good news when it is heard, and some if it was known;
the notification of its death when a round gives it up. -/
def Announces (id : Int32) (l : Option Ledger) (ns : List SatOutput) : Option Turn → Prop
  | some (.heard _) => (∀ out ∈ ns, out.alive = true) ∧ (l ≠ none → ns ≠ [])
  | some (.pass now) => ns = if l.map (Ledger.verdict · now) = some .dead then [deadNotice id] else []
  | _ => ns = []

section
variable {g g' : GroundControl} {e : Input} {w : List Effect}

theorem onMessage_ledger {now : Nat} {os : Int32 → Os} {m : Message} {ip : String}
    (hrun : g.onMessage now os m ip = .ok (g', w)) :
    (∀ id, g'.ledger id = if m.senderId = id then Ledger.next (g.ledger id) (.heard now) else g.ledger id) ∧
      Reports m.senderId w ∧ (g.ledger m.senderId ≠ none → outputs w ≠ []) := by
  obtain ⟨⟨handler, w₁⟩, hadd, hrest⟩ := bind_eq_ok.mp hrun
  obtain ⟨⟨receiver, w₂⟩, hack, hret⟩ := bind_eq_ok.mp hrest
  cases hret
  obtain ⟨hledger, hreports, hsome⟩ := Receiver.addConnection_ledger hadd
  refine ⟨hledger, hreports.append (Receiver.ack_reports hack), fun hknown => ?_⟩
  rw [outputs_append]
  exact List.append_ne_nil_of_left_ne_nil (hsome hknown) _

/-- **A step moves the ledger of each satellite by what it means for it**, and queues accordingly. -/
theorem take_ledger (hrun : g.take e = .ok (g', w)) (id : Int32) :
    g'.ledger id = (g.turn id e).elim (g.ledger id) (Ledger.next (g.ledger id)) ∧
      Announces id (g.ledger id) (notices id w) (g.turn id e) := by
  cases e with
  | config now os port ip satId =>
    obtain ⟨⟨handler, w₁⟩, hadd, hret⟩ := bind_eq_ok.mp hrun
    cases hret
    obtain ⟨hledger, hquiet⟩ := GCConnectionHandler.addConnection_ledger hadd id
    rw [turn]
    by_cases hid : satId = id
    · rw [if_pos hid] at hledger ⊢
      exact ⟨hledger, notices_eq_nil hquiet⟩
    · rw [if_neg hid] at hledger ⊢
      exact ⟨hledger, notices_eq_nil hquiet⟩
  | datagram now os bytes ip =>
    obtain ⟨⟨buf, message⟩, hreceive, hrest⟩ := bind_eq_ok.mp hrun
    rw [turn, senderOf, hreceive]
    cases message with
    | none =>
      cases hrest
      exact ⟨rfl, rfl⟩
    | some m =>
      obtain ⟨hledger, hreports, hsome⟩ := onMessage_ledger hrest
      dsimp only
      by_cases hid : m.senderId = id
      · subst hid
        rw [if_pos rfl]
        refine ⟨(hledger m.senderId).trans (if_pos rfl), fun out hout => hreports.alive hout, fun hknown hnil => ?_⟩
        have hall : notices m.senderId w = outputs w :=
          List.filter_eq_self.mpr fun out hout => decide_eq_true (hreports out hout).2
        exact hsome hknown (hall.symm.trans hnil)
      · rw [if_neg fun heq => hid (Option.some.inj heq)]
        exact ⟨(hledger id).trans (if_neg hid), hreports.others hid⟩
  | update now os =>
    obtain ⟨⟨handler, w₁⟩, hupdate, hret⟩ := bind_eq_ok.mp hrun
    cases hret
    exact GCConnectionHandler.update_ledger hupdate id
  | command os com =>
    obtain ⟨sent, hsend, hret⟩ := bind_eq_ok.mp hrun
    cases hret
    obtain ⟨-, hsent⟩ := assert_bind_eq_ok.mp hsend
    exact ⟨rfl, notices_eq_nil (GCConnectionHandler.sendMessageToSat_outputs hsent)⟩

end

end GroundControl

end Constellation
