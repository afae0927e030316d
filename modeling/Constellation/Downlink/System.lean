import Mathlib.Data.List.Perm.Basic
import Constellation.Downlink.Pipeline
import Constellation.GroundControl.Answers
import Constellation.Satellite.Acquainted

/-!
# A satellite, ground control and the network between them

The two processes with the datagrams that are under way in each direction. A datagram arrives at any
time after it was sent, in any order, or is lost; both processes take the steps of their other threads
in between. What leaves a process is read off the effects of its step: the messages it passed to
`sendto` on an open descriptor.

The history counts the chunks the satellite has passed on, and remembers which of them ground control
has handled. No step of the processes reads it. It is conserved (`step_inv`): each chunk is handled,
lost or under way, and only one of these.
-/

namespace Constellation

/-- A datagram of the satellite, with the number of the chunk if it carries one. -/
structure Packet where
  message : Message
  serial : Option Nat

/-- What the sender and the network have done with the chunks. -/
structure History where
  /-- The number of the next chunk. -/
  next : Nat := 0
  /-- The number of the first chunk after the last dump that was passed on whole. -/
  begun : Nat := 0
  /-- The chunks of that dump. -/
  outstanding : List Nat := []
  /-- The chunks ground control has handled. -/
  handled : List Nat := []
  /-- The chunks that never left the satellite or were lost on the way. -/
  lost : List Nat := []

structure Downlink where
  satellite : SatelliteProcess
  groundControl : GroundControl
  /-- Under way to ground control. -/
  up : List Packet
  /-- Under way to the satellite. -/
  down : List Message
  history : History

/-- What leaves for a peer. -/
def leaving (peer : Int32) : Effect → Option Message
  | .sendto peer' fd _ m => if peer' = peer ∧ 0 ≤ fd then some m else none
  | _ => none

namespace Downlink

/-- The messages a step of the satellite sent to ground control. -/
def sent (w : List Effect) : List Message := w.filterMap (leaving 0)

/-- Those a step of ground control sent to the satellite. -/
def answered (s : Downlink) (w : List Effect) : List Message := w.filterMap (leaving s.satellite.satId)

end Downlink

/-- A step of the satellite, which may pass a chunk on, of which nothing may leave, and with it the last of a dump. -/
def History.note (h : History) (chunk last : Bool) (sent : List Message) : History :=
  if chunk = true then
    { h with
      next := h.next + 1
      begun := if last = true then h.next + 1 else h.begun
      outstanding := if last = true then List.range' h.begun (h.next + 1 - h.begun) else h.outstanding
      lost := if sent = [] then h.lost ++ [h.next] else h.lost }
  else h

namespace Downlink

inductive Event
  /-- A step of the satellite's main thread, sender, simulation or logger. -/
  | satellite (e : SatelliteProcess.Event) (own : e.IsOwn)
  /-- A step of ground control's main thread, update thread or sender. -/
  | groundControl (e : GroundControl.Event) (own : e.IsOwn)
  /-- A datagram under way arrives at ground control's listener. -/
  | arriveUp (i now : Nat) (os : Int32 → Os) (pad : Block 3) (ip : String)
  /-- A datagram under way arrives at the satellite's listener. -/
  | arriveDown (i now : Nat) (os : Int32 → Os) (pad : Block 3) (ip : String)
  | loseUp (i : Nat)
  | loseDown (i : Nat)

/-- The datagrams of a step of the satellite; those of a chunk carry its number. -/
def packets (s : Downlink) (e : SatelliteProcess.Event) (w : List Effect) : List Packet :=
  (sent w).map (⟨·, if s.satellite.SendsChunk e = true then some s.history.next else none⟩)

def step (s : Downlink) : Event → Except Stop (Downlink × List Effect)
  | .satellite e _ => do
    let (p, w) ← s.satellite.step e
    return ({ s with
      satellite := p
      up := s.up ++ s.packets e w
      history := s.history.note (s.satellite.SendsChunk e) (s.satellite.SendsLast e) (sent w) }, w)
  | .groundControl e _ => do
    let (g, w) ← s.groundControl.step e
    return ({ s with groundControl := g, down := s.down ++ s.answered w }, w)
  | .arriveUp i now os pad ip =>
    match s.up[i]? with
    | none => .ok (s, [])
    | some packet => do
      let (g, w) ← s.groundControl.step (.datagram now os packet.message pad ip)
      return ({ s with
        groundControl := g
        up := s.up.eraseIdx i
        down := s.down ++ s.answered w
        history := { s.history with handled := s.history.handled ++ packet.serial.toList } }, w)
  | .arriveDown i now os pad ip =>
    match s.down[i]? with
    | none => .ok (s, [])
    | some m => do
      let (p, w) ← s.satellite.step (.datagram now os m pad ip)
      return ({ s with
        satellite := p
        up := s.up ++ (sent w).map (⟨·, none⟩)
        down := s.down.eraseIdx i }, w)
  | .loseUp i =>
    match s.up[i]? with
    | none => .ok (s, [])
    | some packet =>
      .ok ({ s with
        up := s.up.eraseIdx i
        history := { s.history with lost := s.history.lost ++ packet.serial.toList } }, [])
  | .loseDown i => .ok ({ s with down := s.down.eraseIdx i }, [])

/-- Both processes before their first step, and nothing under way. -/
def init (satId port : Int32) (buf buf' : RecvBuffer) (x y z vx vy vz : Double) : Downlink where
  satellite := .init satId port buf x y z vx vy vz
  groundControl := .init Config.GC_PORT buf'
  up := []
  down := []
  history := {}

/-- The satellite waits for an acknowledgement. -/
def waiting (s : Downlink) : Bool := s.satellite.satellite.waitingForAck

/-- The chunks under way. -/
def underWay (s : Downlink) : List Nat := s.up.filterMap Packet.serial

/-! ### What every step keeps -/

/-- The processes are configured, the satellite knows whom it waits for, what is under way was said by
its sender, and the chunks are accounted for. -/
structure Inv (satId port : Int32) (s : Downlink) : Prop where
  satellite : s.satellite.Configured satId port
  acquainted : s.satellite.Acquainted
  groundControl : s.groundControl.Settled Config.GC_PORT
  up : ∀ packet ∈ s.up, Satellite.Utterance satId port packet.message
  down : ∀ m ∈ s.down, ∃ body, m = .build 0 Config.GC_PORT body
  account : (s.history.lost ++ (s.history.handled ++ s.underWay)).Perm (List.range s.history.next)

section
variable {satId port : Int32} {s s' : Downlink} {w : List Effect}

theorem init_inv (buf buf' : RecvBuffer) (x y z vx vy vz : Double) :
    Inv satId port (init satId port buf buf' x y z vx vy vz) where
  satellite := SatelliteProcess.init_configured ..
  acquainted := by
    rintro (hbusy | hwaits)
    · exact absurd rfl hbusy
    · cases hwaits
  groundControl := GroundControl.init_settled ..
  up := nofun
  down := nofun
  account := List.Perm.nil

theorem mem_leaving {peer : Int32} {m : Message} (hm : m ∈ w.filterMap (leaving peer)) :
    ∃ fd dest, 0 ≤ fd ∧ Effect.sendto peer fd dest m ∈ w := by
  obtain ⟨x, hx, hleaving⟩ := List.mem_filterMap.mp hm
  cases x with
  | sendto peer' fd dest m' =>
    rw [leaving] at hleaving
    split_ifs at hleaving with hcond
    cases hleaving
    rw [← hcond.1]
    exact ⟨fd, dest, hcond.2, hx⟩
  | log line => cases hleaving
  | output out => cases hleaving
  | opened fd => cases hleaving
  | closed fd => cases hleaving

theorem leaving_mem {peer : Int32} {fd : Int} {dest : SockAddr} {m : Message} (hfd : 0 ≤ fd)
    (hm : Effect.sendto peer fd dest m ∈ w) : m ∈ w.filterMap (leaving peer) :=
  List.mem_filterMap.mpr ⟨_, hm, if_pos ⟨rfl, hfd⟩⟩

theorem underWay_erase {up : List Packet} {i : Nat} {packet : Packet} (hi : up[i]? = some packet) :
    (up.filterMap Packet.serial).Perm (packet.serial.toList ++ (up.eraseIdx i).filterMap Packet.serial) := by
  obtain ⟨hlt, hget⟩ := List.getElem?_eq_some_iff.mp hi
  have hperm := (List.getElem_cons_eraseIdx_perm hlt).filterMap Packet.serial
  rw [hget, List.filterMap_cons] at hperm
  apply hperm.symm.trans
  cases packet.serial <;> exact List.Perm.refl _

theorem sent_sendMessageToPeer {h : ConnectionHandler} {os : Int32 → Os} {m : Message} (hs : h.Sound satId port)
    (hrun : h.sendMessageToPeer os 0 m = .ok w) : (h.Reaches 0 ∧ sent w = [m]) ∨ (¬ h.Reaches 0 ∧ sent w = []) := by
  have hreaches : ∀ peer, h.connections.lookup 0 = some peer →
      (h.Reaches 0 ↔ peer.state = .connected ∧ 0 ≤ peer.peerSocket) := by
    intro peer hlookup
    constructor
    · rintro ⟨p, hp, hopen⟩
      rw [hlookup] at hp
      cases hp
      exact hopen
    · exact fun hopen => ⟨peer, hlookup, hopen⟩
  rcases ConnectionHandler.sendMessageToPeer_cases hrun with
    ⟨hnone, line, rfl⟩ | ⟨peer, hlookup, ⟨hup, hsent⟩ | ⟨hdown, rfl⟩⟩
  · refine .inr ⟨?_, rfl⟩
    rintro ⟨p, hp, -⟩
    rw [hnone] at hp
    cases hp
  · rw [hreaches peer hlookup]
    obtain ⟨line, rfl⟩ := PeerConnection.sendMessage_sent hsent
    by_cases hopen : 0 ≤ peer.peerSocket
    · refine .inl ⟨⟨hup, hopen⟩, ?_⟩
      rw [sent, List.filterMap_cons, leaving, if_pos ⟨(hs.2 0 peer hlookup).id_eq, hopen⟩]
      rfl
    · refine .inr ⟨fun h => hopen h.2, ?_⟩
      rw [sent, List.filterMap_cons, leaving, if_neg fun h => hopen h.2]
      rfl
  · rw [hreaches peer hlookup]
    exact .inr ⟨fun h => hdown h.1, rfl⟩

theorem sent_chunk {p p' : SatelliteProcess} {e : SatelliteProcess.Event} (hp : p.Configured satId port)
    (hchunk : p.SendsChunk e = true) (hrun : p.step e = .ok (p', w)) : sent w = [] ∨ ∃ m, sent w = [m] := by
  unfold SatelliteProcess.SendsChunk at hchunk
  split at hchunk
  · split at hchunk
    · rename_i os rest m rest' hs
      rw [SatelliteProcess.step, hs] at hrun
      obtain ⟨v, hsent, hret⟩ := bind_eq_ok.mp hrun
      cases hret
      rcases sent_sendMessageToPeer hp.handler hsent with ⟨-, hone⟩ | ⟨-, hnone⟩
      · exact .inr ⟨m, hone⟩
      · exact .inl hnone
    · cases hchunk
  · cases hchunk

theorem underWay_append (s : Downlink) (packets : List Packet) :
    (s.up ++ packets).filterMap Packet.serial = s.underWay ++ packets.filterMap Packet.serial :=
  List.filterMap_append

theorem note_account {p : SatelliteProcess} {e : SatelliteProcess.Event} (hs : s.satellite.Configured satId port)
    (haccount : (s.history.lost ++ (s.history.handled ++ s.underWay)).Perm (List.range s.history.next))
    (hrun : s.satellite.step e = .ok (p, w)) :
    let h := s.history.note (s.satellite.SendsChunk e) (s.satellite.SendsLast e) (sent w)
    (h.lost ++ (h.handled ++ (s.up ++ s.packets e w).filterMap Packet.serial)).Perm (List.range h.next) := by
  dsimp only
  rw [underWay_append, packets, History.note]
  by_cases hchunk : s.satellite.SendsChunk e = true
  · rw [if_pos hchunk, if_pos hchunk]
    dsimp only
    rw [List.range_succ]
    refine List.Perm.trans ?_ (haccount.append_right [s.history.next])
    rcases sent_chunk hs hchunk hrun with hnone | ⟨m, hone⟩
    · rw [hnone, if_pos rfl, List.append_assoc, List.append_assoc]
      apply List.Perm.append_left
      rw [List.map_nil, List.filterMap_nil, List.append_nil]
      exact List.perm_append_comm
    · rw [hone, if_neg (List.cons_ne_nil _ _), List.append_assoc, List.append_assoc]
      exact List.Perm.refl _
  · rw [if_neg hchunk, if_neg hchunk, List.filterMap_map]
    have hnone : ((sent w).filterMap (Packet.serial ∘ (⟨·, none⟩))) = [] := by
      rw [List.filterMap_eq_nil_iff]
      exact fun _ _ => rfl
    rw [hnone, List.append_nil]
    exact haccount

theorem Inv.up_append (hs : Inv satId port s) (serial : Option Nat)
    (hsends : ∀ peer fd dest m, Effect.sendto peer fd dest m ∈ w → Satellite.Utterance satId port m) :
    ∀ packet ∈ s.up ++ (sent w).map (⟨·, serial⟩), Satellite.Utterance satId port packet.message := by
  intro packet hpacket
  cases List.mem_append.mp hpacket with
  | inl hold => exact hs.up packet hold
  | inr hnew =>
    obtain ⟨m, hm, rfl⟩ := List.mem_map.mp hnew
    obtain ⟨fd, dest, -, hmem⟩ := mem_leaving hm
    exact hsends _ _ _ _ hmem

theorem Inv.down_append (hs : Inv satId port s)
    (hsends : ∀ peer fd dest m, Effect.sendto peer fd dest m ∈ w → ∃ body, m = .build 0 Config.GC_PORT body) :
    ∀ m ∈ s.down ++ s.answered w, ∃ body, m = .build 0 Config.GC_PORT body := by
  intro m hm
  cases List.mem_append.mp hm with
  | inl hold => exact hs.down m hold
  | inr hnew =>
    obtain ⟨fd, dest, -, hmem⟩ := mem_leaving hnew
    exact hsends _ _ _ _ hmem

/-- **Every step that returns keeps the invariant.** -/
theorem step_inv {e : Event} (hs : Inv satId port s) (hid : 0 < satId) (hport : 0 < port)
    (hrun : s.step e = .ok (s', w)) : Inv satId port s' := by
  have hport' : 0 ≤ port := Int32.le_of_lt hport
  cases e with
  | satellite e own =>
    obtain ⟨⟨p, v⟩, hstep, hret⟩ := bind_eq_ok.mp hrun
    obtain ⟨hp, hsends⟩ := SatelliteProcess.step_configured hs.satellite hport' hstep
    have haccount := note_account hs.satellite hs.account hstep
    have hacquainted := SatelliteProcess.step_acquainted hs.acquainted hstep
    cases hret
    exact ⟨hp, hacquainted, hs.groundControl, hs.up_append _ hsends, hs.down, haccount⟩
  | groundControl e own =>
    obtain ⟨⟨g, v⟩, hstep, hret⟩ := bind_eq_ok.mp hrun
    cases hret
    obtain ⟨hg, hsends⟩ := GroundControl.step_settled hs.groundControl own hstep
    have hdown := hs.down_append fun peer fd dest m hmem => (hsends peer fd dest m hmem).2
    exact ⟨hs.satellite, hs.acquainted, hg, hs.up, hdown, hs.account⟩
  | arriveUp i now os pad ip =>
    rw [step] at hrun
    split at hrun
    · cases hrun
      exact hs
    · rename_i packet hi
      obtain ⟨⟨g, v⟩, hstep, hret⟩ := bind_eq_ok.mp hrun
      cases hret
      have hmem : packet ∈ s.up := List.mem_of_getElem? hi
      have hspoken := hs.up packet hmem
      obtain ⟨hg, hsends, -, -⟩ := GroundControl.datagram_answered hs.groundControl
        (hspoken.deliverable hid hport) hspoken.kind hstep
      have hdown := hs.down_append fun peer fd dest m hmem' => (hsends peer fd dest m hmem').2
      refine ⟨hs.satellite, hs.acquainted, hg, fun packet' h' => hs.up packet' (List.mem_of_mem_eraseIdx h'),
        hdown, ?_⟩
      refine List.Perm.trans ?_ hs.account
      apply List.Perm.append_left
      rw [List.append_assoc]
      exact List.Perm.append_left _ (underWay_erase hi).symm
  | arriveDown i now os pad ip =>
    rw [step] at hrun
    split at hrun
    · cases hrun
      exact hs
    · rename_i m hi
      obtain ⟨⟨p, v⟩, hstep, hret⟩ := bind_eq_ok.mp hrun
      cases hret
      obtain ⟨hp, hsends⟩ := SatelliteProcess.step_configured hs.satellite hport' hstep
      refine ⟨hp, SatelliteProcess.step_acquainted hs.acquainted hstep, hs.groundControl, hs.up_append none hsends,
        fun m' hm' => hs.down m' (List.mem_of_mem_eraseIdx hm'), ?_⟩
      have hnone : ((sent w).map (⟨·, none⟩)).filterMap Packet.serial = [] := by
        rw [List.filterMap_map, List.filterMap_eq_nil_iff]
        exact fun _ _ => rfl
      rw [underWay]
      dsimp only
      rw [underWay_append, hnone, List.append_nil]
      exact hs.account
  | loseUp i =>
    rw [step] at hrun
    split at hrun
    · cases hrun
      exact hs
    · rename_i packet hi
      cases hrun
      refine ⟨hs.satellite, hs.acquainted, hs.groundControl,
        fun packet' h' => hs.up packet' (List.mem_of_mem_eraseIdx h'), hs.down, ?_⟩
      refine List.Perm.trans ?_ hs.account
      rw [List.append_assoc]
      apply List.Perm.append_left
      refine List.Perm.trans ?_ (List.Perm.append_left _ (underWay_erase hi).symm)
      exact List.perm_append_comm_assoc ..
  | loseDown i =>
    cases hrun
    exact ⟨hs.satellite, hs.acquainted, hs.groundControl, hs.up,
      fun m' hm' => hs.down m' (List.mem_of_mem_eraseIdx hm'), hs.account⟩

/-- **A chunk that was passed on is handled, unless it is lost or under way.** -/
theorem Inv.handled_iff (hs : Inv satId port s) {n : Nat} (hn : n < s.history.next) :
    n ∈ s.history.handled ↔ n ∉ s.history.lost ∧ n ∉ s.underWay := by
  have hmem : n ∈ s.history.lost ++ (s.history.handled ++ s.underWay) :=
    hs.account.mem_iff.mpr (List.mem_range.mpr hn)
  have hnodup : (s.history.lost ++ (s.history.handled ++ s.underWay)).Nodup :=
    hs.account.nodup_iff.mpr List.nodup_range
  obtain ⟨-, hrest, hlost⟩ := List.nodup_append.mp hnodup
  obtain ⟨-, -, hunder⟩ := List.nodup_append.mp hrest
  constructor
  · intro hhandled
    refine ⟨fun h => ?_, fun h => ?_⟩
    · exact hlost n h n (List.mem_append_left _ hhandled) rfl
    · exact hunder n hhandled n h rfl
  · rintro ⟨hnl, hnu⟩
    rcases List.mem_append.mp hmem with h | h
    · exact absurd h hnl
    · rcases List.mem_append.mp h with h | h
      · exact h
      · exact absurd h hnu

theorem run_inv (hid : 0 < satId) (hport : 0 < port) {start : Downlink} {es : List Event}
    (hstart : Inv satId port start) (hrun : run step start es = .ok (s, w)) : Inv satId port s :=
  run_induction (P := fun _ s _ => Inv satId port s) hstart
    (fun _ _ _ _ _ _ _ hs hstep => step_inv hs hid hport hstep) hrun

end

end Downlink

end Constellation
