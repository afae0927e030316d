import Constellation.GroundControl.AddressBook
import Constellation.Lib.Ether
import Constellation.Satellite.AddressBook
import Constellation.Satellite.Motion

/-!
# The constellation

Ground control and the satellites of a roster on one network that loses, doubles, delays and reorders
datagrams. Every party takes the steps of its program; the configuration file and the arguments of the
satellites name the parties where they are. A datagram reaches the party whose address is written on it,
and shows the address of its sender.

Whoever met whom first, and however often connections were given up and reopened, every party has every
other where it is, and every datagram was written by a step of its sender for the party it reaches
(`runs_sound`, `addresses_true`).
-/

namespace Constellation

inductive Node
  | control (g : GroundControl)
  | satellite (p : SatelliteProcess)

inductive NodeEvent
  | control (e : GroundControl.Event)
  | satellite (e : SatelliteProcess.Event)

namespace Roster

/-- A datagram on its way. -/
structure Packet where
  /-- The address the receiver will see. -/
  source : String
  dest : SockAddr
  message : Message

variable (r : Roster)

/-- The packet an effect of party `i` puts on the network. -/
def packet (i : Int32) : Effect → Option Packet
  | .sendto _ fd dest m => if 0 ≤ fd then some ⟨(r.home i).ip, dest, m⟩ else none
  | _ => none

/-- The packet an event takes off it. -/
def arrival (i : Int32) : NodeEvent → Option Packet
  | .control (.datagram _ _ m _ ip) => some ⟨ip, (r.home i).addr, m⟩
  | .satellite (.datagram _ _ m _ ip) => some ⟨ip, (r.home i).addr, m⟩
  | _ => none

/-- What the environment may do: the configuration names satellites where they are, the arguments of a
satellite name parties where they are, `inet_pton` converts their addresses, and nobody else writes on the
network. -/
def Admits : NodeEvent → Prop
  | .control (.config _ os port ip id) => id ∈ r.ids ∧ ip = (r.home id).ip ∧ port = (r.home id).port ∧
      ∀ i, (os i).inet_pton = true
  | .control (.datagram _ os _ _ _) => ∀ i, (os i).inet_pton = true
  | .control (.update _ os) => ∀ i, (os i).inet_pton = true
  | .control (.command _ _) => True
  | .satellite (.connect _ os port ip id) => id ∈ 0 :: r.ids ∧ ip = (r.home id).ip ∧ port = (r.home id).port ∧
      ∀ i, (os i).inet_pton = true
  | .satellite (.datagram _ os _ _ _) => ∀ i, (os i).inet_pton = true
  | .satellite (.update _ os _) => ∀ i, (os i).inet_pton = true
  | .satellite (.stray _ _ _ _) => False
  | .satellite _ => True

/-- A party takes a step of its program. -/
inductive Steps : Int32 → Node → NodeEvent → Node → List Packet → Prop
  | control {g g' : GroundControl} {e : GroundControl.Event} {w : List Effect} (hadmits : r.Admits (.control e))
      (hrun : g.step e = .ok (g', w)) :
      Steps 0 (.control g) (.control e) (.control g') (w.filterMap (r.packet 0))
  | satellite {i : Int32} {p p' : SatelliteProcess} {e : SatelliteProcess.Event} {w : List Effect} (hi : i ∈ r.ids)
      (hadmits : r.Admits (.satellite e)) (hrun : p.step e = .ok (p', w)) :
      Steps i (.satellite p) (.satellite e) (.satellite p') (w.filterMap (r.packet i))

def parties : Parties Int32 Node NodeEvent Packet where
  step := r.Steps
  arrival := r.arrival

/-- Every party is as its program starts it. -/
structure Launched (start : Int32 → Node) : Prop where
  control : ∃ buf, start 0 = .control (.init Config.GC_PORT buf)
  satellite : ∀ i ∈ r.ids, ∃ buf x y z vx vy vz, start i = .satellite (.init i (r.home i).port buf x y z vx vy vz)

/-- A step of party `i` writes a message for party `j`. -/
inductive Utters : Int32 → NodeEvent → Int32 → Message → Prop
  | control {e : GroundControl.Event} {j : Int32} {m : Message} (hj : j ∈ r.ids) (h : GroundControl.Utters e j m) :
      Utters 0 (.control e) j m
  | satellite {i j : Int32} {e : SatelliteProcess.Event} {m : Message} (hi : i ∈ r.ids) (hj : j ∈ 0 :: r.ids)
      (h : SatelliteProcess.Utters i (r.home i).port e j m) : Utters i (.satellite e) j m

/-- The packet was written by a step of party `i`, for party `j`, and shows where `i` is and goes to where
`j` is. -/
def Genuine (es : List (Int32 × NodeEvent)) (p : Packet) : Prop :=
  ∃ i e j, (i, e) ∈ es ∧ r.Utters i e j p.message ∧ p.source = (r.home i).ip ∧ p.dest = (r.home j).addr

/-- The party has the others where they are. -/
def Sound (i : Int32) (s : Node) : Prop :=
  (i = 0 → ∃ g, s = .control g ∧ g.Book r) ∧
    (i ∈ r.ids → ∃ p, s = .satellite p ∧ p.Book r i (r.home i).port)

section
variable {r} {i j : Int32} {e : NodeEvent} {m : Message}

theorem Utters.built (h : r.Utters i e j m) : i ∈ 0 :: r.ids ∧ j ∈ 0 :: r.ids ∧ m = .build i (r.home i).port m.body := by
  cases h with
  | control hj h =>
    refine ⟨List.mem_cons_self, List.mem_cons_of_mem _ hj, ?_⟩
    rw [r.control]
    cases h <;> rfl
  | satellite hi hj h =>
    refine ⟨List.mem_cons_of_mem _ hi, hj, ?_⟩
    cases h with
    | hello e peer => rfl
    | ack now os m pad ip hm => rfl
    | chunk os m hm hkind => exact hm.built

theorem Utters.valid (h : r.Utters i e j m) : m.Valid := by
  obtain ⟨hi, -, hm⟩ := h.built
  have hnonneg : 0 ≤ i := by
    rcases List.mem_cons.mp hi with rfl | hi
    · decide
    · exact Int32.le_of_lt (r.ids_pos i hi)
  rw [hm]
  exact Message.build_valid hnonneg (r.port_pos i hi) m.body

theorem Utters.deliverable (h : r.Utters i e 0 m) : i ∈ r.ids ∧ Receiver.Deliverable m := by
  cases h with
  | control hj h => exact absurd rfl (r.ne_zero hj)
  | satellite hi hj h =>
    refine ⟨hi, (Utters.satellite hi hj h).valid, fun data len last hbody => ?_⟩
    cases h with
    | hello e peer => cases hbody
    | ack now os m pad ip hm => cases hbody
    | chunk os m hm hkind =>
      rw [hm.built, hbody]
      exact ⟨rfl, r.ids_pos i hi, hm.len data len last hbody⟩

theorem Genuine.received {es : List (Int32 × NodeEvent)} {p : Packet} (h : r.Genuine es p) {k : Int32} (hk : k ∈ 0 :: r.ids)
    (hdest : p.dest = (r.home k).addr) :
    ∃ i e, (i, e) ∈ es ∧ r.Utters i e k p.message ∧ p.source = (r.home p.message.senderId).ip ∧
      p.message.senderId = i ∧ p.message.senderPort = (r.home p.message.senderId).port := by
  obtain ⟨i, e, j, he, hutters, hsource, haddr⟩ := h
  obtain ⟨-, hj, hbuilt⟩ := hutters.built
  have hjk : j = k := r.apart j hj k hk (haddr.symm.trans hdest)
  subst hjk
  have hsender : p.message.senderId = i := by
    rw [hbuilt]
    rfl
  refine ⟨i, e, he, hutters, by rw [hsource, hsender], hsender, ?_⟩
  rw [hsender, hbuilt]
  rfl

theorem utters_packets {P : Int32 → SockAddr → Message → Prop} {w : List Effect} (h : Mails P w) {q : Packet}
    (hq : q ∈ w.filterMap (r.packet i)) : q.source = (r.home i).ip ∧ ∃ peer, P peer q.dest q.message := by
  obtain ⟨x, hx, hpacket⟩ := List.mem_filterMap.mp hq
  cases x with
  | sendto peer fd dest m =>
    rw [packet] at hpacket
    split_ifs at hpacket with hfd
    cases hpacket
    exact ⟨rfl, peer, h peer fd dest m hx hfd⟩
  | log | output | opened | closed => cases hpacket

theorem truthful_control {es : List (Int32 × NodeEvent)} {e : GroundControl.Event} (he : r.Admits (.control e))
    (hp : ∀ p, r.arrival 0 (.control e) = some p → r.Genuine es p) : e.Truthful r := by
  cases e with
  | config now os port ip id => exact he
  | update now os => exact he
  | command os com => trivial
  | datagram now os m pad ip =>
    obtain ⟨i, e, -, hutters, hsource, hsender, hport⟩ := (hp _ rfl).received List.mem_cons_self rfl
    obtain ⟨hi, hm⟩ := hutters.deliverable
    exact ⟨hm, hsender ▸ hi, hsource, hport, he⟩

theorem truthful_satellite {es : List (Int32 × NodeEvent)} {e : SatelliteProcess.Event} (hi : i ∈ r.ids)
    (he : r.Admits (.satellite e)) (hp : ∀ p, r.arrival i (.satellite e) = some p → r.Genuine es p) : e.Truthful r := by
  cases e with
  | connect now os port ip id => exact he
  | update now os axpy => exact he
  | stray now os bytes ip => exact he
  | datagram now os m pad ip =>
    obtain ⟨k, e, -, hutters, hsource, hsender, hport⟩ := (hp _ rfl).received (List.mem_cons_of_mem _ hi) rfl
    exact ⟨hutters.valid, hsender ▸ hutters.built.1, hsource, hport, he⟩
  | logLine | broadcast | dump | sendChunk | raise => trivial

/-- A step of a sound party that takes a genuine packet is sound, and writes every packet it sends for the party
whose address it bears. -/
theorem steps_utters {es : List (Int32 × NodeEvent)} {s s' : Node} {sent : List Packet} (hs : r.Sound i s)
    (hp : ∀ p, r.arrival i e = some p → r.Genuine es p) (hstep : r.Steps i s e s' sent) :
    r.Sound i s' ∧ ∀ p ∈ sent, ∃ j, r.Utters i e j p.message ∧ p.source = (r.home i).ip ∧ p.dest = (r.home j).addr := by
  cases hstep with
  | control hadmits hrun =>
    obtain ⟨g, hg, hbook⟩ := hs.1 rfl
    cases hg
    obtain ⟨hbook', hmails⟩ := GroundControl.step_addressed hbook (truthful_control hadmits hp) hrun
    refine ⟨⟨fun _ => ⟨_, rfl, hbook'⟩, fun hi => absurd rfl (r.ne_zero hi)⟩, fun q hq => ?_⟩
    obtain ⟨hsource, j, hj, hdest, hutters⟩ := utters_packets hmails hq
    exact ⟨j, .control hj hutters, hsource, hdest⟩
  | satellite hi hadmits hrun =>
    obtain ⟨p, hp', hbook⟩ := hs.2 hi
    cases hp'
    have hport : 0 ≤ (r.home i).port := Int32.le_of_lt (r.port_pos i (List.mem_cons_of_mem _ hi))
    obtain ⟨hbook', hmails⟩ := SatelliteProcess.step_addressed hbook hport (truthful_satellite hi hadmits hp) hrun
    refine ⟨⟨fun hzero => absurd hzero (r.ne_zero hi), fun _ => ⟨_, rfl, hbook'⟩⟩, fun q hq => ?_⟩
    obtain ⟨hsource, j, hj, hdest, hutters⟩ := utters_packets hmails hq
    exact ⟨j, .satellite hi hj hutters, hsource, hdest⟩

theorem steps_sound {es : List (Int32 × NodeEvent)} {s s' : Node} {sent : List Packet} (hs : r.Sound i s)
    (hp : ∀ p, r.arrival i e = some p → r.Genuine es p) (hstep : r.Steps i s e s' sent) :
    r.Sound i s' ∧ ∀ p ∈ sent, r.Genuine (es ++ [(i, e)]) p := by
  obtain ⟨hs', hsent⟩ := steps_utters hs hp hstep
  refine ⟨hs', fun p hp => ?_⟩
  obtain ⟨j, hrest⟩ := hsent p hp
  exact ⟨i, e, j, List.mem_append_right _ List.mem_cons_self, hrest⟩

theorem steps_sender {es : List (Int32 × NodeEvent)} {s s' : Node} {sent : List Packet} (hs : r.Sound i s)
    (hp : ∀ p, r.arrival i e = some p → r.Genuine es p) (hstep : r.Steps i s e s' sent) :
    ∀ p ∈ sent, p.message.senderId = i := by
  intro p hsent
  obtain ⟨j, hutters, -⟩ := (steps_utters hs hp hstep).2 p hsent
  rw [hutters.built.2.2]
  rfl

theorem Launched.sound {start : Int32 → Node} (h : r.Launched start) (i : Int32) : r.Sound i (start i) := by
  constructor
  · rintro rfl
    obtain ⟨buf, hstart⟩ := h.control
    exact ⟨_, hstart, GroundControl.init_book r buf⟩
  · intro hi
    obtain ⟨buf, x, y, z, vx, vy, vz, hstart⟩ := h.satellite i hi
    exact ⟨_, hstart, SatelliteProcess.init_book r buf x y z vx vy vz⟩

/-- In every world that a launched constellation reaches all parties are sound, and all packets genuine. -/
theorem runs_sound {start : Int32 → Node} {es : List (Int32 × NodeEvent)} {v : World Int32 Node Packet}
    (hstart : r.Launched start) (hrun : Runs r.parties (.silent start) es v) :
    (∀ i, r.Sound i (v.node i)) ∧ ∀ p ∈ v.sent, r.Genuine es p := by
  have hempty : ∀ p ∈ (World.silent start : World Int32 Node Packet).sent, r.Genuine [] p :=
    fun p hp => absurd hp List.not_mem_nil
  refine hrun.invariant (I := fun _ => r.Sound) (Q := r.Genuine) hstart.sound hempty (fun _ _ _ _ _ hs => hs) ?_ ?_
  · rintro es x p ⟨i, e, j, he, hrest⟩
    exact ⟨i, e, j, List.mem_append_left _ he, hrest⟩
  · intro es i s e s' sent hs hp hstep
    exact steps_sound hs hp hstep

theorem runs_satellite_alone {u : World Int32 Node Packet} {p p' : SatelliteProcess} {es : List SatelliteProcess.Event}
    {w : List Effect} (hi : i ∈ r.ids) (hp : u.node i = .satellite p)
    (hadmits : ∀ e ∈ es, r.Admits (.satellite e) ∧ r.arrival i (.satellite e) = none)
    (hrun : run SatelliteProcess.step p es = .ok (p', w)) :
    Runs r.parties u (es.map fun e => (i, .satellite e))
      ⟨Function.update u.node i (.satellite p'), u.sent ++ w.filterMap (r.packet i)⟩ :=
  Runs.alone Node.satellite NodeEvent.satellite (r.packet i) hp
    (fun e he _ _ _ hstep => Steps.satellite hi (hadmits e he).1 hstep)
    (fun e he => (hadmits e he).2) hrun

theorem runs_control_alone {u : World Int32 Node Packet} {g g' : GroundControl} {es : List GroundControl.Event}
    {w : List Effect} (hg : u.node 0 = .control g)
    (hadmits : ∀ e ∈ es, r.Admits (.control e) ∧ r.arrival 0 (.control e) = none)
    (hrun : run GroundControl.step g es = .ok (g', w)) :
    Runs r.parties u (es.map fun e => (0, .control e))
      ⟨Function.update u.node 0 (.control g'), u.sent ++ w.filterMap (r.packet 0)⟩ :=
  Runs.alone Node.control NodeEvent.control (r.packet 0) hg
    (fun e he _ _ _ hstep => Steps.control (hadmits e he).1 hstep)
    (fun e he => (hadmits e he).2) hrun

end

/-! ### Ground control and a satellite that meet -/

def pair : Roster where
  ids := [1]
  home id := ⟨"127.0.0.1", if id = 0 then Config.GC_PORT else 5001⟩
  ids_pos := List.forall_mem_singleton.mpr (by decide)
  port_pos := List.forall_mem_cons.mpr ⟨by decide, List.forall_mem_singleton.mpr (by decide)⟩
  control := rfl
  apart := by
    intro i hi j hj h
    simp only [List.mem_cons, List.not_mem_nil, or_false] at hi hj
    rcases hi with rfl | rfl <;> rcases hj with rfl | rfl
    · rfl
    · exact absurd h (by decide)
    · exact absurd h (by decide)
    · rfl

def pairStart : Int32 → Node
  | 0 => .control (.init Config.GC_PORT (filled 0))
  | _ => .satellite (.init 1 5001 (filled 0) 0 0 0 0 0 0)

theorem pairStart_launched : pair.Launched pairStart where
  control := ⟨filled 0, rfl⟩
  satellite := by
    intro i hi
    cases List.mem_singleton.mp hi
    exact ⟨filled 0, 0, 0, 0, 0, 0, 0, rfl⟩

/-- The sender thread of the satellite connects ground control. -/
def calls : SatelliteProcess.Event := .connect 0 (fun _ => Os.granting) Config.GC_PORT "127.0.0.1" 0

/-- Ground control takes in a message of the satellite. -/
def hears (body : Body) : GroundControl.Event :=
  .datagram 0 (fun _ => Os.granting) (.build 1 5001 body) ⟨[0, 0, 0], Message.length_zeroPad⟩ "127.0.0.1"

/-- The satellite takes in a message of ground control. -/
def told (body : Body) : SatelliteProcess.Event :=
  .datagram 0 (fun _ => Os.granting) (.build 0 Config.GC_PORT body) ⟨[0, 0, 0], Message.length_zeroPad⟩ "127.0.0.1"

/-- The satellite calls, ground control hears it, and its greeting and its answer come in. -/
def met : List (Int32 × NodeEvent) :=
  [(1, .satellite calls), (0, .control (hears (.heartbeat true))), (1, .satellite (told (.heartbeat true))),
    (1, .satellite (told (.ack true)))]

end Roster

end Constellation
