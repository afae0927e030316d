import Mathlib.Logic.Function.Basic
import Constellation.GroundControl.Connection
import Constellation.GroundControl.Parser
import Constellation.Lib.Table

/-!
# Ground control's connection handler

The satellites ground control knows, by id. `update` is one round of the update thread and
`sendCommand` the delivery of one operator command; each takes the lock once and is one step.

The handler follows one keepalive link for each id (`Refines`). A round of `update` is a pass over
all links at once; the other methods concern the link of one id.
-/

namespace Constellation

structure GCConnectionHandler where
  satellites : Table Int32 Connection
  gcPort : Int32

namespace GCConnectionHandler

def addConnection (h : GCConnectionHandler) (now : Nat) (os : Int32 → Os) (port : Int32) (ip : String)
    (satId : Int32) : Except Stop (GCConnectionHandler × List Effect) := do
  assert (0 ≤ port) "port >= 0"
  assert (0 < satId) "satId > 0"
  assert (ip ≠ "") "!ip.empty()"
  assert (0 ≤ h.gcPort) "gcPort >= 0"
  assert (port ≠ h.gcPort) "port != gcPort"
  let c := Connection.new now satId port ip h.gcPort
  match h.satellites.emplace satId c with
  | (satellites, false) => return ({ h with satellites }, [])
  | (satellites, true) =>
    let (c, effects) ← c.connect (os satId)
    return ({ h with satellites := satellites.modify satId fun _ => c }, effects)

/-- The body of the loop over the map. -/
def updateSat (now : Nat) (os : Int32 → Os) (id : Int32) (c : Connection) :
    Except Stop (Connection × List Effect) :=
  if c.state = .connected ∧ c.isTimedOut now = true then
    let (c, closing) := c.disconnect now (os id)
    return (c, .log ("[NETWORK] Satellite Id: " ++ toString id ++ " has timed out") :: closing)
  else if c.state = .disconnected ∧ c.isDead = false then do
    let (trying, c, effects) ← c.reconnect now (os id)
    if trying then return (c, effects)
    let out ← Parser.dataDecoder id [] false
    return (c, effects ++ [.output out])
  else return (c, [])

/-- One round of the update thread. -/
def update (h : GCConnectionHandler) (now : Nat) (os : Int32 → Os) :
    Except Stop (GCConnectionHandler × List Effect) := do
  let (satellites, effects) ← h.satellites.sweep (updateSat now os)
  return ({ h with satellites }, effects)

def hasConnection (h : GCConnectionHandler) (satId : Int32) : Except Stop Bool := do
  assert (0 < satId) "satId > 0"
  return (h.satellites.lookup satId).isSome

def heartbeatSat (h : GCConnectionHandler) (now : Nat) (satId : Int32) : Except Stop GCConnectionHandler := do
  assert (0 < satId) "satId > 0"
  return { h with satellites := h.satellites.modify satId fun c => (c.heartbeat now).markConnected }

def sendMessageToSat (h : GCConnectionHandler) (os : Int32 → Os) (satId : Int32) (message : Message) :
    Except Stop (List Effect) := do
  assert (0 < message.header.size) "message.header.size > 0"
  assert (0 ≤ message.senderPort) "message.senderPort >= 0"
  match h.satellites.lookup satId with
  | none => return [.log ("[ERROR] Satellite Id: " ++ toString satId ++ " Not found")]
  | some satellite => satellite.sendMessage (os satId) message

/-- The message `sendCommand` makes of an operator command. -/
def commandMessage (h : GCConnectionHandler) (com : CommandInput) : Message :=
  .build 0 h.gcPort (.command com.new_x com.new_y com.new_z com.new_vx com.new_vy com.new_vz)

/-- One command of the input queue. -/
def sendCommand (h : GCConnectionHandler) (os : Int32 → Os) (com : CommandInput) : Except Stop (List Effect) := do
  assert (0 ≤ h.gcPort) "gcPort >= 0"
  h.sendMessageToSat os com.id.toInt32 (h.commandMessage com)

theorem addConnection_cases {h h' : GCConnectionHandler} {now : Nat} {os : Int32 → Os} {port : Int32} {ip : String}
    {satId : Int32} {w : List Effect} (hrun : h.addConnection now os port ip satId = .ok (h', w)) :
    (satId ∈ h.satellites ∧ h' = h ∧ w = []) ∨
      (satId ∉ h.satellites ∧ ∃ c, (Connection.new now satId port ip h.gcPort).connect (os satId) = .ok (c, w) ∧
        h' = { h with satellites :=
          Table.modify (h.satellites.insert satId (Connection.new now satId port ip h.gcPort)) satId fun _ => c }) := by
  unfold addConnection at hrun
  simp only [assert_bind_eq_ok] at hrun
  obtain ⟨-, -, -, -, -, hrun⟩ := hrun
  by_cases hknown : satId ∈ h.satellites
  · rw [Table.emplace_of_mem hknown] at hrun
    cases hrun
    exact .inl ⟨hknown, rfl, rfl⟩
  · rw [Table.emplace_of_not_mem hknown] at hrun
    obtain ⟨⟨c, v⟩, hconnect, hret⟩ := bind_eq_ok.mp hrun
    cases hret
    exact .inr ⟨hknown, c, hconnect, rfl⟩

theorem addConnection_checked {h : GCConnectionHandler} {now : Nat} {os : Int32 → Os} {port : Int32} {ip : String}
    {satId : Int32} {r : GCConnectionHandler × List Effect} (hrun : h.addConnection now os port ip satId = .ok r) :
    0 ≤ port ∧ 0 < satId ∧ ip ≠ "" ∧ port ≠ h.gcPort := by
  unfold addConnection at hrun
  simp only [assert_bind_eq_ok] at hrun
  obtain ⟨hport, hid, hip, -, hne, -⟩ := hrun
  exact ⟨hport, hid, hip, hne⟩

theorem sendMessageToSat_cases {h : GCConnectionHandler} {os : Int32 → Os} {satId : Int32} {message : Message}
    {w : List Effect} (hrun : h.sendMessageToSat os satId message = .ok w) :
    (h.satellites.lookup satId = none ∧ ∃ line, w = [.log line]) ∨
      ∃ c, h.satellites.lookup satId = some c ∧ c.sendMessage (os satId) message = .ok w := by
  unfold sendMessageToSat at hrun
  simp only [assert_bind_eq_ok] at hrun
  obtain ⟨-, -, hrun⟩ := hrun
  cases hlookup : h.satellites.lookup satId with
  | none =>
    rw [hlookup] at hrun
    cases hrun
    exact .inl ⟨rfl, _, rfl⟩
  | some c =>
    rw [hlookup] at hrun
    exact .inr ⟨c, rfl, hrun⟩

/-- The loop body times a satellite out, or tries to reconnect one that is down and reports it when the retries are
used up, or leaves it alone. -/
theorem updateSat_cases {now : Nat} {os : Int32 → Os} {id : Int32} {c c' : Connection} {w : List Effect}
    (hrun : updateSat now os id c = .ok (c', w)) :
    ((c.state = .connected ∧ c.isTimedOut now = true) ∧ c' = (c.disconnect now (os id)).1 ∧
        ∃ line, w = .log line :: (c.disconnect now (os id)).2) ∨
      ((c.state = .disconnected ∧ c.isDead = false) ∧ ∃ trying effects,
        c.reconnect now (os id) = .ok (trying, c', effects) ∧
          ((trying = true ∧ w = effects) ∨
            (trying = false ∧ ∃ out, Parser.dataDecoder id [] false = .ok out ∧ w = effects ++ [.output out]))) ∨
      (¬ (c.state = .connected ∧ c.isTimedOut now = true) ∧ ¬ (c.state = .disconnected ∧ c.isDead = false) ∧
        c' = c ∧ w = []) := by
  unfold updateSat at hrun
  by_cases hout : c.state = .connected ∧ c.isTimedOut now = true
  · rw [if_pos hout] at hrun
    cases hrun
    exact .inl ⟨hout, rfl, _, rfl⟩
  rw [if_neg hout] at hrun
  by_cases htry : c.state = .disconnected ∧ c.isDead = false
  · rw [if_pos htry] at hrun
    obtain ⟨⟨trying, c₁, effects⟩, hreconnect, hrest⟩ := bind_eq_ok.mp hrun
    dsimp only at hrest
    by_cases htrying : trying = true
    · rw [if_pos htrying] at hrest
      cases hrest
      exact .inr (.inl ⟨htry, trying, _, hreconnect, .inl ⟨htrying, rfl⟩⟩)
    · rw [if_neg htrying] at hrest
      obtain ⟨out, hout, hret⟩ := bind_eq_ok.mp hrest
      cases hret
      exact .inr (.inl ⟨htry, trying, effects, hreconnect, .inr ⟨eq_false_of_ne_true htrying, out, hout, rfl⟩⟩)
  · rw [if_neg htry] at hrun
    cases hrun
    exact .inr (.inr ⟨hout, htry, rfl, rfl⟩)

/-! ### The links the handler follows -/

/-- Every known id has a sound connection that tracks its link; no other id has a link. -/
abbrev Refines (link : Int32 → Option Link) (satellites : Table Int32 Connection) : Prop :=
  Table.Refines (fun id l c => c.Sound id ∧ Connection.Tracks l c) link satellites

section
variable {link : Int32 → Option Link} {h : GCConnectionHandler} {satId : Int32} {now : Nat}
  {os : Int32 → Os}

theorem addConnection_refines (now : Nat) (hr : Refines link h.satellites) {port : Int32} {ip : String} (hid : 0 < satId)
    (hport : 0 < port) (hne : port ≠ h.gcPort) (hip : ip ≠ "") (hgc : 0 < h.gcPort) (hos : (os satId).Ok) :
    ∃ h' w, h.addConnection now os port ip satId = .ok (h', w) ∧ h'.gcPort = h.gcPort ∧
      Refines (Function.update link satId (Link.next Config.keepalive (link satId) .call)) h'.satellites := by
  rw [addConnection, assert_bind (Int32.le_of_lt hport), assert_bind hid, assert_bind hip,
    assert_bind (Int32.le_of_lt hgc), assert_bind hne]
  dsimp only
  cases hl : link satId with
  | some l =>
    rw [Table.emplace_of_mem (hr.mem hl)]
    exact ⟨h, [], rfl, rfl, hr.update_known hl⟩
  | none =>
    obtain ⟨c, w, hc, hsound, htracks⟩ := Connection.new_connect now hid hport hip hgc hos
    rw [Table.emplace_of_not_mem (hr.not_mem hl)]
    dsimp only
    rw [hc]
    exact ⟨_, w, rfl, rfl, hr.insert_modify ⟨hsound, htracks⟩⟩

theorem heartbeatSat_refines (now : Nat) (hr : Refines link h.satellites) (hid : 0 < satId) {l : Link}
    (hl : link satId = some l) :
    ∃ h', h.heartbeatSat now satId = .ok h' ∧ h'.gcPort = h.gcPort ∧
      Refines (Function.update link satId (some (l.hear now))) h'.satellites := by
  have hheard := hr.modify (k := satId) (g := Link.hear now) (f := fun c => (c.heartbeat now).markConnected)
    fun l c hc => ⟨hc.1.heartbeat_markConnected, hc.2.heartbeat_markConnected⟩
  rw [hl] at hheard
  rw [heartbeatSat, assert_pos hid]
  exact ⟨_, rfl, rfl, hheard⟩

theorem updateSat_refines (now : Nat) {c : Connection} {l : Link} (hsound : c.Sound satId)
    (htracks : Connection.Tracks l c) (hos : (os satId).Ok) :
    ∃ c' w, updateSat now os satId c = .ok (c', w) ∧ c'.Sound satId ∧
      Connection.Tracks (l.pass Config.keepalive now) c' := by
  by_cases hout : c.state = .connected ∧ c.isTimedOut now = true
  · rw [updateSat, if_pos hout]
    refine ⟨_, _, rfl, hsound.disconnect now (os satId), ?_⟩
    have hgap : l.pass Config.keepalive now = .gap now := by
      cases htracks with
      | probing hstate hsock => rw [hstate] at hout; cases hout.1
      | up hstate hheard hretry hsock =>
        rw [← hheard]
        exact Link.pass_up_late (of_decide_eq_true hout.2)
      | gap hstate hsince hretry hsock => rw [hstate] at hout; cases hout.1
    rw [hgap]
    exact htracks.disconnect now (os satId) hout.1
  · rw [updateSat, if_neg hout]
    by_cases htry : c.state = .disconnected ∧ c.isDead = false
    · obtain ⟨trying, c', w, hc, hsound', htracks'⟩ :=
        htracks.reconnect now hsound hos htry.1
      rw [if_pos htry, hc, ok_bind]
      dsimp only
      cases trying with
      | true => exact ⟨c', w, rfl, hsound', htracks'⟩
      | false =>
        rw [Parser.dataDecoder_status hsound.id_pos]
        exact ⟨c', _, rfl, hsound', htracks'⟩
    · -- Neither branch: the link is up and fresh, or its satellite counts as dead.
      rw [if_neg htry]
      refine ⟨c, [], rfl, hsound, ?_⟩
      cases htracks with
      | probing hstate hsock => exact .probing hstate hsock
      | up hstate hheard hretry hsock =>
        rw [← hheard, Link.pass_up_fresh fun hlate => hout ⟨hstate, decide_eq_true hlate⟩]
        exact .up hstate rfl hretry hsock
      | gap hstate hsince hretry hsock =>
        refine absurd ⟨hstate, ?_⟩ htry
        rw [Connection.isDead, hretry]
        rfl

theorem update_refines (now : Nat) (hr : Refines link h.satellites) (hos : ∀ id, (os id).Ok) :
    ∃ h' w, h.update now os = .ok (h', w) ∧ h'.gcPort = h.gcPort ∧
      Refines (fun id => (link id).map (Link.pass Config.keepalive now)) h'.satellites := by
  have hstep : ∀ id l c, c.Sound id ∧ Connection.Tracks l c → ∃ c' w, updateSat now os id c = .ok (c', w) ∧
      (c'.Sound id ∧ Connection.Tracks (l.pass Config.keepalive now) c') ∧ True := by
    rintro id l c ⟨hsound, htracks⟩
    obtain ⟨c', w, hc', hpass⟩ := updateSat_refines now hsound htracks (hos id)
    exact ⟨c', w, hc', hpass, trivial⟩
  obtain ⟨t, w, hsweep, hrefines, -⟩ := hr.sweep (Q := fun _ => True) trivial (fun _ _ => trivial) hstep
  rw [update, hsweep]
  exact ⟨_, w, rfl, rfl, hrefines⟩

theorem sendMessageToSat_ok (os : Int32 → Os) (hr : Refines link h.satellites) {message : Message}
    (hport : 0 < message.senderPort) (hsize : 0 < message.header.size)
    (hopen : ∀ l, link satId = some l → l.isOpen = true) :
    ∃ w, h.sendMessageToSat os satId message = .ok w := by
  rw [sendMessageToSat, assert_bind hsize, assert_bind (Int32.le_of_lt hport)]
  cases hl : link satId with
  | none => rw [hr.unknown hl]; exact ⟨_, rfl⟩
  | some l =>
    obtain ⟨c, hc, -, htracks⟩ := hr.known hl
    rw [hc]
    exact Connection.sendMessage_ok (os satId) message (htracks.isOpen.mp (hopen l hl)) hport hsize

theorem sendMessageToSat_closed (os : Int32 → Os) (hr : Refines link h.satellites) {message : Message}
    (hport : 0 < message.senderPort) (hsize : 0 < message.header.size) {l : Link}
    (hl : link satId = some l) (hclosed : l.isOpen = false) :
    h.sendMessageToSat os satId message = .error (.asserts "satSocket >= 0") := by
  obtain ⟨c, hc, -, htracks⟩ := hr.known hl
  rw [sendMessageToSat, assert_bind hsize, assert_bind (Int32.le_of_lt hport), hc]
  refine Connection.sendMessage_closed fun hsock => ?_
  rw [htracks.isOpen.mpr hsock] at hclosed
  cases hclosed

end

end GCConnectionHandler

end Constellation
