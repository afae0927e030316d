import Mathlib.Algebra.BigOperators.Group.Multiset.Basic
import Mathlib.Algebra.Group.Action.Defs
import Mathlib.Algebra.Order.BigOperators.Group.List
import Constellation.GroundControl.Ledger
import Constellation.Lib.Quiescence
import Constellation.Protocol.Admission
import Constellation.Satellite.Acquainted

/-!
# The exchange of messages comes to rest

Ground control and any number of satellites, in any states, and the messages under way between them. The
only steps are deliveries: a message arrives, its receiver handles it as its listener does, and what leaves
on an open socket is under way from then on, to whatever node listens at the address of the socket.

Ground control answers everything but commands, satellites nothing but commands, and both greet a sender they
do not know. So the messages do not get fewer with every delivery; but an answer of ground control is not
answered, an answer of a satellite once, and a greeting makes one more sender known. A message weighs as many
deliveries as it can still cause among nodes that know each other (`weight`), and every pair of nodes that do
not is worth two greetings: the sum (`potential`) goes down with every delivery (`deliver_pays`).
-/

namespace Constellation

open GroundControl (Input)

/-- A message under way and the node it arrives at; ground control is node 0. -/
structure Flight where
  dest : Int32
  message : Message

section posted
variable (route : SockAddr → Int32)

/-- What leaves on an open socket, on its way to the node that listens at the address. -/
def Effect.posted : Effect → Option Flight
  | .sendto _ fd dest m => if 0 ≤ fd then some ⟨route dest, m⟩ else none
  | _ => none

def posted (w : List Effect) : List Flight := w.filterMap (Effect.posted route)

/-- A node has sent at most so many messages, all its own and no commands. -/
structure Says (sender : Int32) (k : Nat) (w : List Effect) : Prop where
  count : (posted route w).length ≤ k
  own : ∀ f ∈ posted route w, f.message.senderId = sender ∧ f.message.header.type ≠ MessageType.command.tag

variable {route} {sender : Int32} {k k' : Nat} {w w' : List Effect}

theorem Says.append (h : Says route sender k w) (h' : Says route sender k' w') : Says route sender (k + k') (w ++ w') := by
  have hsplit : posted route (w ++ w') = posted route w ++ posted route w' := List.filterMap_append
  refine ⟨?_, fun f hf => ?_⟩
  · rw [hsplit, List.length_append]
    exact Nat.add_le_add h.count h'.count
  · rw [hsplit] at hf
    exact (List.mem_append.mp hf).elim (h.own f) (h'.own f)

theorem Says.mono (h : Says route sender k w) (hk : k ≤ k') : Says route sender k' w := ⟨Nat.le_trans h.count hk, h.own⟩

theorem posted_eq_nil (h : ∀ peer fd dest m, Effect.sendto peer fd dest m ∉ w) : posted route w = [] := by
  rw [posted, List.filterMap_eq_nil_iff]
  intro e he
  cases e with
  | sendto peer fd dest m => exact absurd he (h peer fd dest m)
  | log line => rfl
  | output out => rfl
  | opened fd => rfl
  | closed fd => rfl

theorem Says.silent (h : ∀ peer fd dest m, Effect.sendto peer fd dest m ∉ w) : Says route sender 0 w := by
  refine ⟨?_, ?_⟩
  · rw [posted_eq_nil h]
    exact Nat.le_refl _
  · rw [posted_eq_nil h]
    exact nofun

theorem Says.one {peer : Int32} {fd : Int} {dest : SockAddr} {m : Message} {line : String} (hsender : m.senderId = sender)
    (htype : m.header.type ≠ MessageType.command.tag) : Says route sender 1 [.sendto peer fd dest m, .log line] := by
  have hposted : posted route [.sendto peer fd dest m, .log line] = if 0 ≤ fd then [⟨route dest, m⟩] else [] := by
    by_cases hfd : 0 ≤ fd <;> simp [posted, Effect.posted, hfd]
  refine ⟨?_, fun f hf => ?_⟩
  · rw [hposted]
    split_ifs
    · exact Nat.le_refl _
    · exact Nat.zero_le _
  · rw [hposted] at hf
    split_ifs at hf
    · cases List.mem_singleton.mp hf
      exact ⟨hsender, htype⟩
    · cases hf

end posted

/-! ### What ground control sends -/

section
variable {route : SockAddr → Int32} {w : List Effect}

namespace Connection
variable {c c' : Connection} {os : Os} {m : Message}

theorem sendMessage_says {sender : Int32} (hsender : m.senderId = sender) (htype : m.header.type ≠ MessageType.command.tag)
    (h : c.sendMessage os m = .ok w) : Says route sender 1 w := by
  obtain ⟨-, line, rfl⟩ := sendMessage_sent h
  exact .one hsender htype

theorem connect_says (h : c.connect os = .ok (c', w)) : Says route 0 1 w := by
  rcases (connect_cases h).2 with
    ⟨-, -, line, rfl⟩ | ⟨-, dest, line, -, rfl⟩ | ⟨-, dest, line, attempt, -, rfl⟩
  · exact (Says.silent (by simp)).mono (Nat.zero_le _)
  · exact (Says.silent (by simp)).mono (Nat.zero_le _)
  · have hgreeting : Says route 0 1 [.sendto c.id os.socket dest c.greeting, .log line] :=
      .one rfl (show MessageType.heartbeat.tag ≠ MessageType.command.tag by decide)
    exact (Says.silent (w := [_]) (by simp)).append (hgreeting.append (Says.silent (w := [_]) (by simp)))

end Connection

namespace GCConnectionHandler
variable {h h' : GCConnectionHandler} {now : Nat} {os : Int32 → Os}

theorem addConnection_says {port : Int32} {ip : String} {satId : Int32}
    (hrun : h.addConnection now os port ip satId = .ok (h', w)) : Says route 0 1 w := by
  obtain ⟨-, -, rfl⟩ | ⟨-, c, hconnect, -⟩ := addConnection_cases hrun
  · exact (Says.silent (by simp)).mono (Nat.zero_le _)
  · exact Connection.connect_says hconnect

theorem sendMessageToSat_says {id sender : Int32} {m : Message} (hsender : m.senderId = sender)
    (htype : m.header.type ≠ MessageType.command.tag) (hrun : h.sendMessageToSat os id m = .ok w) :
    Says route sender 1 w := by
  rcases sendMessageToSat_cases hrun with ⟨-, line, rfl⟩ | ⟨c, -, hsent⟩
  · exact (Says.silent (by simp)).mono (Nat.zero_le _)
  · exact Connection.sendMessage_says hsender htype hsent

end GCConnectionHandler

namespace Receiver
variable {r : Receiver} {m : Message} {h h' : GCConnectionHandler} {now : Nat} {os : Int32 → Os} {ip : String}

variable (route) in
theorem addConnection_says (hrun : r.addConnection now os m h ip = .ok (h', w)) :
    0 < m.senderId ∧ Says route 0 (if (h.ledger m.senderId).isSome = true then 0 else 1) w := by
  obtain ⟨hsender, ⟨hnew, h₁, v, hadd, -, rfl⟩ | ⟨hknown, out, -, -, rfl⟩⟩ := addConnection_cases hrun
  · refine ⟨hsender, ?_⟩
    rw [GCConnectionHandler.ledger, hnew]
    exact (GCConnectionHandler.addConnection_says hadd).append (Says.silent (w := [_]) (by simp))
  · refine ⟨hsender, ?_⟩
    rw [GCConnectionHandler.ledger, Option.isSome_map, if_pos hknown]
    exact Says.silent (by simp)

theorem handle_quiet {x : Bool × Receiver × List Effect} (hrun : r.handle m = .ok x) :
    ∀ peer fd dest m', Effect.sendto peer fd dest m' ∉ x.2.2 := by
  obtain hnone | ⟨line, hline⟩ | ⟨chunk, out, -, hout⟩ := handle_cases hrun
  · simp [hnone]
  · simp [hline]
  · simp [hout]

variable (route) in
theorem ack_says {x : Receiver × List Effect} (hrun : r.ack os m h = .ok x) :
    Says route 0 (if m.header.type = MessageType.command.tag then 0 else 1) x.2 := by
  obtain ⟨handled, r', w₁, hhandle, ⟨hanswer, sent, hsent, rfl⟩ | ⟨-, rfl⟩⟩ := ack_cases hrun
  · have hquiet : Says route 0 0 w₁ := .silent (handle_quiet hhandle)
    have hother : m.header.type ≠ MessageType.command.tag := by
      intro htype
      exact absurd (hanswer.symm.trans (handle_command htype hhandle)) (by decide)
    rw [if_neg hother]
    exact hquiet.append (GCConnectionHandler.sendMessageToSat_says rfl
      (show MessageType.ack.tag ≠ MessageType.command.tag by decide) hsent)
  · have hquiet : Says route 0 0 w₁ := .silent (handle_quiet hhandle)
    exact hquiet.mono (Nat.zero_le _)

end Receiver

/-! ### What a satellite sends -/

namespace PeerConnection
variable {p p' : PeerConnection} {now : Nat} {os : Os} {m : Message}

theorem sendMessage_says {sender : Int32} (hsender : m.senderId = sender)
    (htype : m.header.type ≠ MessageType.command.tag) (h : p.sendMessage os m = .ok w) : Says route sender 1 w := by
  obtain ⟨line, rfl⟩ := sendMessage_sent h
  exact .one hsender htype

theorem connect_says (h : p.connect now os = .ok (p', w)) : Says route p.satId 1 w := by
  rcases connect_cases h with
    ⟨-, -, line, rfl⟩ | ⟨-, dest, line, -, rfl⟩ | ⟨-, dest, line, attempt, -, rfl⟩
  · exact (Says.silent (by simp)).mono (Nat.zero_le _)
  · exact (Says.silent (by simp)).mono (Nat.zero_le _)
  · have hgreeting : Says route p.satId 1 [.sendto p.peerId os.socket dest p.greeting, .log line] :=
      .one rfl (show MessageType.heartbeat.tag ≠ MessageType.command.tag by decide)
    exact (Says.silent (w := [_]) (by simp)).append (hgreeting.append (Says.silent (w := [_]) (by simp)))

end PeerConnection

namespace ConnectionHandler
variable {h h' : ConnectionHandler} {now : Nat} {os : Int32 → Os}

variable (route) in
theorem addConnection_says {port : Int32} {ip : String} {peerId satId : Int32}
    (hrun : h.addConnection now os port ip peerId satId = .ok (h', w)) :
    Says route satId 1 w ∧ h'.Knows peerId := by
  obtain ⟨hin, rfl, rfl⟩ | ⟨hin, p, q, rfl, hconnect, rfl⟩ := addConnection_cases hrun
  · exact ⟨(Says.silent (by simp)).mono (Nat.zero_le _), AList.lookup_isSome.mpr hin⟩
  · refine ⟨PeerConnection.connect_says (p := p.heartbeat now) hconnect, ?_⟩
    rw [Knows]
    dsimp only
    rw [Table.lookup_insert_modify_self]
    rfl

theorem sendMessageToPeer_says {peerId sender : Int32} {m : Message} (hsender : m.senderId = sender)
    (htype : m.header.type ≠ MessageType.command.tag) (hrun : h.sendMessageToPeer os peerId m = .ok w) :
    Says route sender 1 w := by
  rcases sendMessageToPeer_cases hrun with ⟨-, line, rfl⟩ | ⟨peer, -, ⟨-, hsent⟩ | ⟨-, rfl⟩⟩
  · exact (Says.silent (by simp)).mono (Nat.zero_le _)
  · exact PeerConnection.sendMessage_says hsender htype hsent
  · exact (Says.silent (by simp)).mono (Nat.zero_le _)

end ConnectionHandler

namespace SatelliteProcess
variable {p p' : SatelliteProcess} {now : Nat} {os : Int32 → Os} {m : Message} {ip : String}

variable (route) in
theorem onType_says (hrun : p.onType os m = .ok (p', w)) :
    Says route p.satId (if m.header.type = MessageType.command.tag then 1 else 0) w ∧ p'.satId = p.satId ∧
      p'.satellite.handler = p.satellite.handler := by
  obtain ⟨hhandler, -, -⟩ := onType_handler hrun
  cases onType_typed hrun with
  | acked hack hwaits => exact ⟨(Says.silent (by simp)).mono (Nat.zero_le _), rfl, hhandler⟩
  | commanded hcommand hsent =>
    rw [if_pos hcommand]
    exact ⟨ConnectionHandler.sendMessageToPeer_says rfl
      (show MessageType.ack.tag ≠ MessageType.command.tag by decide) hsent, rfl, hhandler⟩
  | other hack hcommand => exact ⟨(Says.silent (by simp)).mono (Nat.zero_le _), rfl, hhandler⟩

variable (route) in
theorem meet_says {h : ConnectionHandler} (hrun : p.meet now os m ip = .ok (h, w)) :
    Says route p.satId (if (p.satellite.handler.connections.lookup m.senderId).isSome = true then 0 else 1) w ∧
      h.Knows m.senderId ∧ ∀ id, p.satellite.handler.Knows id → h.Knows id := by
  have hkeeps : ∀ id, p.satellite.handler.Knows id → h.Knows id := fun id => meet_knows hrun
  rcases meet_cases hrun with ⟨hnone, hadd⟩ | ⟨hsome, -, rfl⟩
  · obtain ⟨hsaid, hknows⟩ := ConnectionHandler.addConnection_says route hadd
    rw [hnone]
    exact ⟨hsaid, hknows, hkeeps⟩
  · rw [if_pos hsome]
    exact ⟨.silent (by simp), hkeeps m.senderId hsome, hkeeps⟩

end SatelliteProcess

/-! ### What a delivery comes to -/

/-- A node that was sent a message of `sender` either skips it, or sends its answers, and a greeting if it
did not know the sender, whom it knows then. -/
inductive Outcome (route : SockAddr → Int32) (self sender : Int32) (answers : Nat) (known known' : Int32 → Bool)
    (w : List Effect) : Prop
  | skipped (hsilent : posted route w = []) (hkeeps : ∀ id, known id = true → known' id = true)
  | handled (hsaid : Says route self (answers + if known sender = true then 0 else 1) w)
      (hkeeps : ∀ id, known id = true → known' id = true) (hmet : known' sender = true)

namespace Outcome
variable {route : SockAddr → Int32} {self sender : Int32} {answers : Nat} {known known' : Int32 → Bool} {w : List Effect}

theorem own (h : Outcome route self sender answers known known' w) : ∀ f ∈ posted route w,
    f.message.senderId = self ∧ f.message.header.type ≠ MessageType.command.tag := by
  cases h with
  | skipped hsilent hkeeps =>
    rw [hsilent]
    exact nofun
  | handled hsaid hkeeps hmet => exact hsaid.own

theorem keeps (h : Outcome route self sender answers known known' w) : ∀ id, known id = true → known' id = true := by
  cases h with
  | skipped hsilent hkeeps => exact hkeeps
  | handled hsaid hkeeps hmet => exact hkeeps

/-- Beyond the answers, a node sends no more than it gets to know. -/
theorem pays (h : Outcome route self sender answers known known' w) {ids : List Int32} (hid : sender ∈ ids) :
    (posted route w).length + strangers ids known' ≤ answers + strangers ids known := by
  have hfewer := strangers_le ids h.keeps
  cases h with
  | skipped hsilent hkeeps =>
    rw [hsilent, List.length_nil]
    omega
  | handled hsaid hkeeps hmet =>
    have hcount := hsaid.count
    by_cases hknown : known sender = true
    · rw [if_pos hknown] at hcount
      omega
    · rw [if_neg hknown] at hcount
      have hmore := strangers_lt hkeeps hid (eq_false_of_ne_true hknown) hmet
      omega

end Outcome

def GroundControl.knows (g : GroundControl) (id : Int32) : Bool := (g.ledger id).isSome

def SatelliteProcess.knows (p : SatelliteProcess) (id : Int32) : Bool :=
  (p.satellite.handler.connections.lookup id).isSome

variable {now : Nat} {os : Int32 → Os} {m : Message} {pad : Block 3} {ip : String}

variable (route) in
theorem GroundControl.take_outcome {g g' : GroundControl}
    (hrun : g.take (.datagram now os (m.serialize pad) ip) = .ok (g', w)) :
    Outcome route 0 m.senderId (if m.header.type = MessageType.command.tag then 0 else 1) g.knows g'.knows w ∧
      (m.senderId = 0 → posted route w = []) := by
  obtain ⟨⟨buf, message⟩, hreceive, hrest⟩ := bind_eq_ok.mp hrun
  cases message with
  | none =>
    cases hrest
    exact ⟨.skipped rfl fun _ h => h, fun _ => rfl⟩
  | some m' =>
    obtain ⟨htype, hid⟩ := receive_serialize_fields hreceive
    obtain ⟨hledger, -, -⟩ := onMessage_ledger hrest
    obtain ⟨⟨handler, w₁⟩, hadd, hrest⟩ := bind_eq_ok.mp hrest
    obtain ⟨⟨receiver, w₂⟩, hack, hret⟩ := bind_eq_ok.mp hrest
    cases hret
    obtain ⟨hpos, hgreeting⟩ := Receiver.addConnection_says route hadd
    have hanswer := Receiver.ack_says route hack
    rw [htype] at hanswer
    rw [hid] at hpos hgreeting hledger
    refine ⟨.handled ?_ (fun id hknown => ?_) ?_, fun hzero => ?_⟩
    · rw [Nat.add_comm]
      exact hgreeting.append hanswer
    · have hafter := hledger id
      rw [knows, hafter]
      split_ifs
      · rfl
      · exact hknown
    · rw [knows, hledger, if_pos rfl]
      rfl
    · rw [hzero] at hpos
      exact absurd hpos (by decide)

variable (route) in
theorem SatelliteProcess.step_outcome {p p' : SatelliteProcess}
    (hrun : p.step (.datagram now os m pad ip) = .ok (p', w)) :
    Outcome route p.satId m.senderId (if m.header.type = MessageType.command.tag then 1 else 0) p.knows p'.knows w ∧
      p'.satId = p.satId := by
  obtain ⟨⟨buf, message⟩, hreceive, hrest⟩ := bind_eq_ok.mp hrun
  cases message with
  | none =>
    cases hrest
    exact ⟨.skipped rfl fun _ h => h, rfl⟩
  | some m' =>
    obtain ⟨htype, hid⟩ := receive_serialize_fields hreceive
    obtain ⟨p₁, typed, h, sent, line, hontype, hmeet, rfl, rfl⟩ := onMessage_cases hrest
    obtain ⟨hanswer, hsame, hhandler⟩ := onType_says route hontype
    obtain ⟨hgreeting, hmet, hkeeps⟩ := meet_says route hmeet
    have hlog : Says route p.satId 0 [.log line] := .silent (by simp)
    rw [htype] at hanswer
    rw [hhandler, hsame] at hgreeting
    rw [hhandler] at hkeeps
    rw [hid] at hgreeting hmet
    exact ⟨.handled (hanswer.append (hgreeting.append hlog)) hkeeps hmet, hsame⟩

end

/-! ### The network -/

structure Network where
  control : GroundControl
  sats : Table Int32 SatelliteProcess
  flying : Multiset Flight

/-- A delivery. -/
inductive Deliver (route : SockAddr → Int32) (net : Network) : Network → Prop
  | control {m : Message} {rest : Multiset Flight} {now : Nat} {os : Int32 → Os} {pad : Block 3} {ip : String}
      {control : GroundControl} {w : List Effect} (hflying : net.flying = ⟨0, m⟩ ::ₘ rest)
      (hstep : net.control.take (.datagram now os (m.serialize pad) ip) = .ok (control, w)) :
      Deliver route net { net with control, flying := rest + posted route w }
  | satellite {m : Message} {rest : Multiset Flight} {now : Nat} {os : Int32 → Os} {pad : Block 3} {ip : String}
      {id : Int32} {p p' : SatelliteProcess} {w : List Effect} (hflying : net.flying = ⟨id, m⟩ ::ₘ rest)
      (hsat : net.sats.lookup id = some p) (hstep : p.step (.datagram now os m pad ip) = .ok (p', w)) :
      Deliver route net { net with sats := net.sats.modify id fun _ => p', flying := rest + posted route w }

namespace Network

/-- The satellites have their own ids, and what is under way was sent by one of the nodes. -/
structure WellFormed (net : Network) : Prop where
  ids : ∀ id p, net.sats.lookup id = some p → 0 < id ∧ p.satId = id
  senders : ∀ f ∈ net.flying, f.message.senderId = 0 ∨ f.message.senderId ∈ net.sats

/-- How many deliveries a message still causes among nodes that know each other. -/
def weight (f : Flight) : Nat :=
  if f.message.header.type = MessageType.command.tag then if f.dest = 0 then 1 else 3
  else if f.dest = 0 ∧ f.message.senderId ≠ 0 then 2
  else 1

/-- How many pairs of nodes are left of which the one does not know the other. -/
def unmet (net : Network) : Nat :=
  strangers net.sats.keys net.control.knows +
    (net.sats.entries.map fun e => strangers (0 :: net.sats.keys) e.2.knows).sum

def potential (net : Network) : Nat := 2 * net.unmet + (net.flying.map weight).sum

/-! ### A delivery costs -/

section
variable {route : SockAddr → Int32} {net net' : Network}

theorem load_le {fs : List Flight} {c : Nat} (h : ∀ f ∈ fs, weight f ≤ c) : (fs.map weight).sum ≤ c * fs.length := by
  have hall : ∀ x ∈ fs.map weight, x ≤ c := by
    intro x hx
    obtain ⟨f, hf, rfl⟩ := List.mem_map.mp hx
    exact h f hf
  have hsum := List.sum_le_card_nsmul _ c hall
  rwa [List.length_map, smul_eq_mul, Nat.mul_comm] at hsum

/-- An answer or a greeting is answered at most once, and not at all if it comes from ground control. -/
theorem weight_le {f : Flight} (htype : f.message.header.type ≠ MessageType.command.tag) :
    weight f ≤ 2 ∧ (f.message.senderId = 0 → weight f ≤ 1) := by
  rw [weight, if_neg htype]
  refine ⟨by split_ifs <;> decide, fun hsender => ?_⟩
  rw [if_neg fun hboth => hboth.2 hsender]

theorem deliver_wellFormed (hwell : net.WellFormed) (h : Deliver route net net') : net'.WellFormed := by
  cases h with
  | @control m rest now os pad ip g w hflying hstep =>
    have hown := (GroundControl.take_outcome route hstep).1.own
    refine ⟨hwell.ids, fun f hf => ?_⟩
    cases Multiset.mem_add.mp hf with
    | inl hrest =>
      apply hwell.senders f
      rw [hflying]
      exact Multiset.mem_cons_of_mem hrest
    | inr hposted => exact .inl (hown f hposted).1
  | @satellite m rest now os pad ip id p p' w hflying hsat hstep =>
    obtain ⟨houtcome, hsame⟩ := SatelliteProcess.step_outcome route hstep
    have hid := (hwell.ids id p hsat).2
    have hmem : ∀ k, k ∈ net.sats.modify id (fun _ => p') ↔ k ∈ net.sats := by
      intro k
      rw [AList.mem_keys, AList.mem_keys, Table.keys_modify]
    refine ⟨fun k q hq => ?_, fun f hf => ?_⟩
    · by_cases hk : k = id
      · subst hk
        rw [Table.lookup_modify_self, hsat] at hq
        cases hq
        exact ⟨(hwell.ids k p hsat).1, hsame.trans hid⟩
      · rw [Table.lookup_modify_of_ne _ _ hk] at hq
        exact hwell.ids k q hq
    · rw [hmem]
      cases Multiset.mem_add.mp hf with
      | inl hrest =>
        apply hwell.senders f
        rw [hflying]
        exact Multiset.mem_cons_of_mem hrest
      | inr hposted =>
        right
        rw [(houtcome.own f hposted).1, hid]
        exact AList.lookup_isSome.mp (hsat ▸ rfl)

theorem potential_add (control : GroundControl) (sats : Table Int32 SatelliteProcess) (rest : Multiset Flight)
    (fs : List Flight) : (⟨control, sats, rest + fs⟩ : Network).potential =
      (⟨control, sats, rest⟩ : Network).potential + (fs.map weight).sum := by
  simp only [potential, unmet, Multiset.map_add, Multiset.sum_add, Multiset.map_coe, Multiset.sum_coe]
  omega

theorem potential_cons {f : Flight} {rest : Multiset Flight} (hflying : net.flying = f ::ₘ rest) :
    net.potential = (⟨net.control, net.sats, rest⟩ : Network).potential + weight f := by
  rw [potential, potential, hflying, Multiset.map_cons, Multiset.sum_cons]
  dsimp only [unmet]
  omega

theorem potential_control (net : Network) (control : GroundControl) (rest : Multiset Flight) :
    (⟨control, net.sats, rest⟩ : Network).potential + 2 * strangers net.sats.keys net.control.knows =
      (⟨net.control, net.sats, rest⟩ : Network).potential + 2 * strangers net.sats.keys control.knows := by
  simp only [potential, unmet]
  omega

theorem potential_satellite {id : Int32} {p : SatelliteProcess} (hsat : net.sats.lookup id = some p) (p' : SatelliteProcess)
    (rest : Multiset Flight) :
    (⟨net.control, net.sats.modify id fun _ => p', rest⟩ : Network).potential + 2 * strangers (0 :: net.sats.keys) p.knows =
      (⟨net.control, net.sats, rest⟩ : Network).potential + 2 * strangers (0 :: net.sats.keys) p'.knows := by
  have hsum := Table.sum_modify (fun q : SatelliteProcess => strangers (0 :: net.sats.keys) q.knows) hsat p'
  simp only [potential, unmet, Table.keys_modify]
  omega

theorem deliver_pays (hwell : net.WellFormed) (h : Deliver route net net') : net'.potential < net.potential := by
  cases h with
  | @control m rest now os pad ip g w hflying hstep =>
    obtain ⟨houtcome, hself⟩ := GroundControl.take_outcome route hstep
    have hfewer := strangers_le net.sats.keys houtcome.keeps
    have hload : ((posted route w).map weight).sum ≤ 1 * (posted route w).length :=
      load_le fun f hf => (weight_le (houtcome.own f hf).2).2 (houtcome.own f hf).1
    have hsender : m.senderId = 0 ∨ m.senderId ∈ net.sats :=
      hwell.senders ⟨0, m⟩ (hflying ▸ Multiset.mem_cons_self _ _)
    have hmore := potential_control net g rest
    rw [potential_add, potential_cons hflying]
    by_cases hzero : m.senderId = 0
    · have hone : 1 ≤ weight ⟨0, m⟩ := by
        rw [weight]
        split_ifs <;> decide
      rw [hself hzero, List.map_nil, List.sum_nil]
      omega
    · have hpaid := houtcome.pays (AList.mem_keys.mpr (hsender.resolve_left hzero))
      have hweight : weight ⟨0, m⟩ = 1 + if m.header.type = MessageType.command.tag then 0 else 1 := by
        by_cases htype : m.header.type = MessageType.command.tag <;> simp [weight, htype, hzero]
      omega
  | @satellite m rest now os pad ip id p p' w hflying hsat hstep =>
    have houtcome := (SatelliteProcess.step_outcome route hstep).1
    have hload : ((posted route w).map weight).sum ≤ 2 * (posted route w).length :=
      load_le fun f hf => (weight_le (houtcome.own f hf).2).1
    have hsender : m.senderId = 0 ∨ m.senderId ∈ net.sats :=
      hwell.senders ⟨id, m⟩ (hflying ▸ Multiset.mem_cons_self _ _)
    have hknown : m.senderId ∈ (0 : Int32) :: net.sats.keys :=
      hsender.elim (fun hzero => List.mem_cons.mpr (.inl hzero))
        fun hsat => List.mem_cons_of_mem _ (AList.mem_keys.mpr hsat)
    have hmore := potential_satellite hsat p' rest
    have hpaid := houtcome.pays hknown
    have hne : id ≠ 0 := fun hzero => absurd (hwell.ids id p hsat).1 (by rw [hzero]; decide)
    have hweight : weight ⟨id, m⟩ = 1 + 2 * if m.header.type = MessageType.command.tag then 1 else 0 := by
      by_cases htype : m.header.type = MessageType.command.tag <;> simp [weight, htype, hne]
    rw [potential_add, potential_cons hflying]
    omega

/-- **With deliveries only, the exchange comes to rest.** From any states of ground control and the satellites, and
any messages between them, a run has at most as many deliveries as the potential says, and none goes on for ever. -/
theorem deliver_quiesces (route : SockAddr → Int32) {net : Network} (hwell : net.WellFormed) :
    (∀ (run : Nat → Network) (n : Nat), run 0 = net → (∀ i < n, Deliver route (run i) (run (i + 1))) →
      n ≤ net.potential) ∧
      ¬ ∃ run : Nat → Network, run 0 = net ∧ ∀ i, Deliver route (run i) (run (i + 1)) := by
  have hkeep : ∀ s t : Network, s.WellFormed → Deliver route s t → t.WellFormed := fun _ _ => deliver_wellFormed
  have hpay : ∀ s t : Network, s.WellFormed → Deliver route s t → t.potential < s.potential := fun _ _ => deliver_pays
  refine ⟨fun run n hstart hrun => ?_, ?_⟩
  · rw [← hstart] at hwell ⊢
    exact run_le hkeep hpay hwell hrun
  · rintro ⟨run, hstart, hrun⟩
    rw [← hstart] at hwell
    exact no_infinite_run hkeep hpay hwell hrun

end

/-- Satellite 1 has its first command under way. -/
def commanded : Network where
  control := .init 8000 (filled 0)
  sats := (∅ : Table Int32 SatelliteProcess).insert 1 (.init 1 5001 (filled 0) 0 0 0 0 0 0)
  flying := {⟨1, .build 0 8000 (.command 0 0 0 0 0 0)⟩}

theorem commanded_wellFormed : commanded.WellFormed := by
  refine ⟨fun id p hp => ?_, fun f hf => ?_⟩
  · by_cases hid : id = 1
    · subst hid
      cases hp
      exact ⟨by decide, rfl⟩
    · rw [commanded, AList.lookup_insert_ne hid] at hp
      cases hp
  · cases Multiset.mem_singleton.mp hf
    exact .inl rfl

/-- Satellite 1 listens on port 5001, everybody else is ground control. -/
def routed (addr : SockAddr) : Int32 := if addr.sin_port = 5001 then 1 else 0

theorem deliver_quiesces_commanded : commanded.potential = 9 ∧
    (∀ (run : Nat → Network) (n : Nat), run 0 = commanded → (∀ i < n, Deliver routed (run i) (run (i + 1))) →
      n ≤ commanded.potential) ∧
    ¬ ∃ run : Nat → Network, run 0 = commanded ∧ ∀ i, Deliver routed (run i) (run (i + 1)) :=
  ⟨rfl, deliver_quiesces routed commanded_wellFormed⟩

end Network

end Constellation
