import Constellation.Network.GivingUp
import Constellation.Network.System
import Constellation.Satellite.Acquainted

/-!
# Two parties that have given each other up

A party that has used up its attempts at another only listens: it writes to it again when it has heard from
it, or when the operator has a command for it. So once both ends of a link have given up and nothing between
them is under way, nothing passes between them any more, whatever they exchange with others (`silence`): the
program has no way of its own to mend a partition that outlasts the attempts of both sides.

A satellite counts on once the attempts are used up, one for each pass of its simulation thread. So this is for
runs in which no satellite makes more passes than an `int` counts; then no counter has overflowed either.
-/

namespace Constellation

/-- Nothing that leaves is meant for this peer. -/
abbrev Spares (id : Int32) (w : List Effect) : Prop := Mails (fun peer _ _ => peer ≠ id) w

/-- Everything that leaves is meant for this peer. -/
abbrev Only (id : Int32) (w : List Effect) : Prop := Mails (fun peer _ _ => peer = id) w

theorem Only.spares {id k : Int32} {w : List Effect} (h : Only k w) (hne : k ≠ id) : Spares id w := by
  refine h.mono fun peer _ _ hpeer => ?_
  rw [hpeer]
  exact hne

/-! ### Ground control -/

namespace Connection

/-- The attempts are used up. -/
def GaveUp (c : Connection) : Prop := c.state = .disconnected ∧ c.isDead = true

section
variable {gcPort id : Int32} {c c' : Connection} {os : Os} {w : List Effect}

theorem sendMessage_only {m : Message} (hid : c.id = id) (hrun : c.sendMessage os m = .ok w) : Only id w := by
  obtain ⟨-, line, rfl⟩ := sendMessage_sent hrun
  exact .one fun _ => hid

theorem connect_only (hid : c.id = id) (hrun : c.connect os = .ok (c', w)) : Only id w := by
  rcases (connect_cases hrun).2 with
    ⟨-, -, line, rfl⟩ | ⟨-, dest, line, -, rfl⟩ | ⟨-, dest, line, attempt, -, rfl⟩
  · exact .log
  · apply Mails.of_none
    simp
  · exact .opening fun _ => hid

theorem reconnect_only {now : Nat} {b : Bool} (hid : c.id = id) (hrun : c.reconnect now os = .ok (b, c', w)) :
    Only id w := by
  rcases reconnect_cases hrun with ⟨-, -, -, rfl⟩ | ⟨-, -, -, -, rfl⟩ | ⟨-, -, -, line, opening, hconnect, rfl⟩
  · exact .nil
  · exact .nil
  · have hclosing : Only id (c.disconnect now os).2 := by
      refine Mails.of_none fun peer fd d m hm => ?_
      unfold disconnect at hm
      split_ifs at hm <;> simp at hm
    let c₁ : Connection := { c with retryCounter := c.retryCounter + 1, lastReconnect := now }
    have hid₁ : (c₁.disconnect now os).1.id = id := hid
    have hopening := connect_only hid₁ hconnect
    exact Mails.append (w := _ :: _) (Mails.append (w := [_]) .log hclosing) hopening

end

end Connection

namespace GCConnectionHandler

/-- The satellite is in the map, and given up. -/
def GaveUp (h : GCConnectionHandler) (id : Int32) : Prop :=
  ∃ c, h.satellites.lookup id = some c ∧ c.GaveUp

section
variable {gcPort id satId : Int32} {h h' : GCConnectionHandler} {os : Int32 → Os} {now : Nat} {w : List Effect}

theorem GaveUp.known (h : GaveUp h' id) : h'.Knows id := by
  obtain ⟨c, hc, -⟩ := h
  rw [Knows, hc]
  rfl

theorem GaveUp.of_lookup (hgone : h.GaveUp id) (hsame : h'.satellites.lookup id = h.satellites.lookup id) :
    h'.GaveUp id := by
  obtain ⟨c, hc, hup⟩ := hgone
  exact ⟨c, hsame.trans hc, hup⟩

theorem addConnection_gaveUp {port : Int32} {ip : String} (hgone : h.GaveUp id)
    (hrun : h.addConnection now os port ip satId = .ok (h', w)) : h'.GaveUp id ∧ Spares id w := by
  obtain ⟨-, rfl, rfl⟩ | ⟨hout, c, hconnect, rfl⟩ := addConnection_cases hrun
  · exact ⟨hgone, .nil⟩
  · have hne : satId ≠ id := by
      rintro rfl
      exact hout (AList.lookup_isSome.mp hgone.known)
    exact ⟨hgone.of_lookup (Table.lookup_insert_modify_of_ne _ _ _ (Ne.symm hne)),
      (Connection.connect_only (show _ = satId from rfl) hconnect).spares hne⟩

theorem heartbeatSat_gaveUp (hgone : h.GaveUp id) (hne : satId ≠ id) (hrun : h.heartbeatSat now satId = .ok h') :
    h'.GaveUp id := by
  obtain ⟨-, hret⟩ := assert_bind_eq_ok.mp hrun
  cases hret
  exact hgone.of_lookup (Table.lookup_modify_of_ne _ _ (Ne.symm hne))

theorem updateSat_gaveUp {k : Int32} {c c' : Connection} (hs : c.Settled gcPort k)
    (hrun : updateSat now os k c = .ok (c', w)) : (c.GaveUp → c' = c ∧ w = []) ∧ Only k w := by
  rcases updateSat_cases hrun with
    ⟨⟨hup, -⟩, rfl, line, rfl⟩ | ⟨⟨-, halive⟩, trying, effects, hreconnect, hreport⟩ | ⟨-, -, rfl, rfl⟩
  · refine ⟨fun hgone => ?_, Mails.append (w := [_]) .log ?_⟩
    · rw [hgone.1] at hup
      cases hup
    · refine Mails.of_none fun peer fd d m hm => ?_
      unfold Connection.disconnect at hm
      split_ifs at hm <;> simp at hm
  · have honly := Connection.reconnect_only hs.id_eq hreconnect
    refine ⟨fun hgone => ?_, ?_⟩
    · rw [hgone.2] at halive
      cases halive
    · rcases hreport with ⟨-, rfl⟩ | ⟨-, out, -, rfl⟩
      · exact honly
      · refine honly.append (Mails.of_none ?_)
        simp
  · exact ⟨fun _ => ⟨rfl, rfl⟩, .nil⟩

theorem update_gaveUp (hs : h.Settled gcPort) (hgone : h.GaveUp id) (hrun : h.update now os = .ok (h', w)) :
    h'.GaveUp id ∧ Spares id w := by
  obtain ⟨⟨t, v⟩, hsweep, hret⟩ := bind_eq_ok.mp hrun
  cases hret
  obtain ⟨c, hc, hup⟩ := hgone
  obtain ⟨hentries, hspares⟩ := Table.sweep_sound (P := fun k c c' => k = id → c.GaveUp → c' = c) (Q := Spares id)
    Mails.nil Mails.append (fun k c c' w hk hf => by
      obtain ⟨hsame, honly⟩ := updateSat_gaveUp (hs.2 k c hk) hf
      refine ⟨fun _ hup => (hsame hup).1, ?_⟩
      by_cases hne : k = id
      · subst hne
        rw [hc] at hk
        cases hk
        rw [(hsame hup).2]
        exact .nil
      · exact honly.spares hne) hsweep
  refine ⟨?_, hspares⟩
  have hrel := hentries id
  rw [hc] at hrel
  cases hafter : t.lookup id with
  | none =>
    rw [hafter] at hrel
    cases hrel
  | some c' =>
    rw [hafter] at hrel
    cases hrel with
    | some hsame =>
      cases hsame rfl hup
      exact ⟨c, hafter, hup⟩

theorem sendMessageToSat_spares {m : Message} (hs : h.Settled gcPort) (hne : satId ≠ id)
    (hrun : h.sendMessageToSat os satId m = .ok w) : Spares id w := by
  rcases sendMessageToSat_cases hrun with ⟨-, line, rfl⟩ | ⟨c, hc, hsent⟩
  · exact .log
  · exact Only.spares (Connection.sendMessage_only (hs.2 satId c hc).id_eq hsent) hne

end

end GCConnectionHandler

namespace GroundControl

section
variable {gcPort id : Int32} {g g' : GroundControl} {w : List Effect}

/-- The event has nothing to do with this satellite: it brings no datagram from it and no command for it. -/
def Event.Spares (id : Int32) : Event → Prop
  | .datagram _ _ m _ _ => Receiver.Deliverable m ∧ m.senderId ≠ id
  | .command _ com => com.id.toInt32 ≠ id
  | _ => True

/-- **Ground control does not write to a satellite it has given up**, and keeps it given up, until it hears from
it or has a command for it. -/
theorem step_gaveUp {e : Event} (hg : Settled gcPort g) (hgone : g.handler.GaveUp id) (he : e.Spares id)
    (hrun : g.step e = .ok (g', w)) : g'.handler.GaveUp id ∧ Constellation.Spares id w := by
  cases e with
  | config now os port ip satId =>
    obtain ⟨⟨h, v⟩, hadd, hret⟩ := bind_eq_ok.mp hrun
    cases hret
    exact GCConnectionHandler.addConnection_gaveUp hgone hadd
  | update now os =>
    obtain ⟨⟨h, v⟩, hupdate, hret⟩ := bind_eq_ok.mp hrun
    cases hret
    exact GCConnectionHandler.update_gaveUp hg.handler hgone hupdate
  | command os com =>
    obtain ⟨v, hcommand, hret⟩ := bind_eq_ok.mp hrun
    cases hret
    obtain ⟨-, hsend⟩ := assert_bind_eq_ok.mp hcommand
    exact ⟨hgone, GCConnectionHandler.sendMessageToSat_spares hg.handler he hsend⟩
  | datagram now os m pad ip =>
    obtain ⟨hm, hne⟩ := he
    rw [step, listen_serialize hm.valid] at hrun
    obtain ⟨⟨h, v₁⟩, hadd, hrun⟩ := bind_eq_ok.mp hrun
    obtain ⟨⟨r, v₂⟩, hack, hret⟩ := bind_eq_ok.mp hrun
    cases hret
    have hg₀ : Settled gcPort { g with buf := recvfrom g.buf (m.serialize pad) } := ⟨hg.handler, hg.receiver⟩
    obtain ⟨hs, -, -⟩ := addConnection_knows hg₀ hadd
    have hmet : h.GaveUp id ∧ Constellation.Spares id v₁ := by
      obtain ⟨-, ⟨-, h₁, v, hnew, hbeat, rfl⟩ | ⟨-, out, hbeat, -, rfl⟩⟩ := Receiver.addConnection_cases hadd
      · obtain ⟨hgone', hspares⟩ := GCConnectionHandler.addConnection_gaveUp hgone hnew
        exact ⟨GCConnectionHandler.heartbeatSat_gaveUp hgone' hne hbeat, hspares.append .log⟩
      · refine ⟨GCConnectionHandler.heartbeatSat_gaveUp hgone hne hbeat, Mails.of_none ?_⟩
        simp
    refine ⟨hmet.1, hmet.2.append ?_⟩
    obtain ⟨handled, r', v, hhandle, hcases⟩ := Receiver.ack_cases hack
    obtain ⟨r'', v', hhandle', -, hquiet, -⟩ := Receiver.handle_ok (r := g.receiver) hm
    have hsame : g.receiver.handle m = .ok (handled, r', v) := hhandle
    rw [hsame] at hhandle'
    cases hhandle'
    rcases hcases with ⟨-, sent, hsent, hret⟩ | ⟨-, hret⟩
    · cases hret
      exact (Mails.of_none hquiet).append (GCConnectionHandler.sendMessageToSat_spares hs hne hsent)
    · cases hret
      exact Mails.of_none hquiet

end

end GroundControl

/-! ### Satellites -/

namespace PeerConnection

/-- The attempts are used up. -/
def GaveUp (p : PeerConnection) : Prop := p.state ≠ .connected ∧ Config.MAX_RECONNECT_ATTEMPTS ≤ p.retryCounter

section
variable {id satId port : Int32} {p p' : PeerConnection} {now : Nat} {os : Os} {w : List Effect}

theorem sendMessage_only {m : Message} (hid : p.peerId = id) (hrun : p.sendMessage os m = .ok w) : Only id w := by
  obtain ⟨line, rfl⟩ := sendMessage_sent hrun
  exact .one fun _ => hid

theorem connect_only (hid : p.peerId = id) (hrun : p.connect now os = .ok (p', w)) : Only id w := by
  rcases connect_cases hrun with ⟨-, -, line, rfl⟩ | ⟨-, dest, line, -, rfl⟩ | ⟨-, dest, line, attempt, -, rfl⟩
  · exact .log
  · apply Mails.of_none
    simp
  · exact .opening fun _ => hid

theorem disconnect_none {P : Int32 → SockAddr → Message → Prop} : Mails P (p.disconnect now os).2 := by
  refine Mails.of_none fun peer fd d m hm => ?_
  unfold disconnect at hm
  split_ifs at hm <;> simp at hm

theorem reconnect_gaveUp (hid : p.peerId = id) (hrun : p.reconnect now os = .ok (p', w)) :
    (p.GaveUp → p'.GaveUp ∧ w = []) ∧ Only id w := by
  rcases reconnect_cases hrun with ⟨-, rfl, rfl⟩ | ⟨-, hmax, rfl, rfl⟩ | ⟨-, hless, line, opening, hconnect, rfl⟩
  · exact ⟨fun hgone => ⟨hgone, rfl⟩, .nil⟩
  · exact ⟨fun hgone => ⟨⟨hgone.1, Nat.le_succ_of_le hgone.2⟩, rfl⟩, .nil⟩
  · refine ⟨fun hgone => absurd (Nat.lt_succ_of_le hgone.2) hless, ?_⟩
    let p₁ : PeerConnection := { p with retryCounter := p.retryCounter + 1, lastReconnect := now }
    have hid₁ : (p₁.disconnect now os).1.peerId = id := hid
    have hopening := connect_only hid₁ hconnect
    exact Mails.append (w := _ :: _) (Mails.append (w := [_]) .log disconnect_none) hopening

end

end PeerConnection

namespace ConnectionHandler

/-- The peer is in the map, and given up. -/
def GaveUp (h : ConnectionHandler) (id : Int32) : Prop :=
  ∃ p, h.connections.lookup id = some p ∧ p.GaveUp

section
variable {id peerId satId port : Int32} {h h' : ConnectionHandler} {os : Int32 → Os} {now : Nat} {w : List Effect}

theorem GaveUp.known (hgone : h.GaveUp id) : h.Knows id := by
  obtain ⟨p, hp, -⟩ := hgone
  rw [Knows, hp]
  rfl

theorem GaveUp.of_lookup (hgone : h.GaveUp id) (hsame : h'.connections.lookup id = h.connections.lookup id) :
    h'.GaveUp id := by
  obtain ⟨p, hp, hup⟩ := hgone
  exact ⟨p, hsame.trans hp, hup⟩

theorem addConnection_gaveUp {peerPort : Int32} {ip : String} (hgone : h.GaveUp id)
    (hrun : h.addConnection now os peerPort ip peerId satId = .ok (h', w)) : h'.GaveUp id ∧ Spares id w := by
  obtain ⟨-, rfl, rfl⟩ | ⟨hout, p, q, hnew, hconnect, rfl⟩ := addConnection_new hrun
  · exact ⟨hgone, .nil⟩
  · have hne : peerId ≠ id := by
      rintro rfl
      exact hout (AList.lookup_isSome.mp hgone.known)
    have hpeer : (p.heartbeat now).peerId = peerId := by
      unfold PeerConnection.new at hnew
      simp only [assert_bind_eq_ok] at hnew
      obtain ⟨-, -, hret⟩ := hnew
      cases hret
      rfl
    exact ⟨hgone.of_lookup (Table.lookup_insert_modify_of_ne _ _ _ (Ne.symm hne)),
      (PeerConnection.connect_only hpeer hconnect).spares hne⟩

theorem heartbeatSat_gaveUp (hgone : h.GaveUp id) (hne : peerId ≠ id) (hrun : h.heartbeatSat now peerId = .ok h') :
    h'.GaveUp id := by
  obtain ⟨-, hret⟩ := assert_bind_eq_ok.mp hrun
  cases hret
  exact hgone.of_lookup (Table.lookup_modify_of_ne _ _ (Ne.symm hne))

theorem updatePeer_gaveUp {k : Int32} {p p' : PeerConnection} (hid : p.peerId = k)
    (hrun : updatePeer now os k p = .ok (p', w)) : (p.GaveUp → p'.GaveUp ∧ w = []) ∧ Only k w := by
  rcases updatePeer_cases hrun with ⟨hup, -, -, rfl⟩ | ⟨-, hreconnect⟩ | ⟨-, -, rfl, rfl⟩
  · exact ⟨fun hgone => absurd hup hgone.1, Mails.append (w := [_]) .log PeerConnection.disconnect_none⟩
  · exact PeerConnection.reconnect_gaveUp hid hreconnect
  · exact ⟨fun hgone => ⟨hgone, rfl⟩, .nil⟩

theorem update_gaveUp (hs : h.Sound satId port) (hgone : h.GaveUp id) (hrun : h.update now os = .ok (h', w)) :
    h'.GaveUp id ∧ Spares id w := by
  obtain ⟨⟨t, v⟩, hsweep, hret⟩ := bind_eq_ok.mp hrun
  cases hret
  obtain ⟨p, hp, hup⟩ := hgone
  obtain ⟨hentries, hspares⟩ := Table.sweep_sound (P := fun k p p' => k = id → p.GaveUp → p'.GaveUp) (Q := Spares id)
    Mails.nil Mails.append (fun k p p' w hk hf => by
      obtain ⟨hkept, honly⟩ := updatePeer_gaveUp (hs.2 k p hk).id_eq hf
      refine ⟨fun _ hup => (hkept hup).1, ?_⟩
      by_cases hne : k = id
      · subst hne
        rw [hp] at hk
        cases hk
        rw [(hkept hup).2]
        exact .nil
      · exact honly.spares hne) hsweep
  refine ⟨?_, hspares⟩
  have hrel := hentries id
  rw [hp] at hrel
  cases hafter : t.lookup id with
  | none =>
    rw [hafter] at hrel
    cases hrel
  | some p' =>
    rw [hafter] at hrel
    cases hrel with
    | some hkept => exact ⟨p', hafter, hkept rfl hup⟩

theorem sendMessageToPeer_spares {m : Message} (hs : h.Sound satId port) (hgone : h.GaveUp id)
    (hrun : h.sendMessageToPeer os peerId m = .ok w) : Spares id w := by
  rcases sendMessageToPeer_cases hrun with ⟨-, line, rfl⟩ | ⟨peer, hpeer, ⟨hup, hsent⟩ | ⟨-, rfl⟩⟩
  · exact .log
  · refine Only.spares (PeerConnection.sendMessage_only (hs.2 peerId peer hpeer).id_eq hsent) ?_
    rintro rfl
    obtain ⟨p, hp, hdown, -⟩ := hgone
    rw [hpeer] at hp
    cases hp
    exact hdown hup
  · exact .nil

theorem broadcastMessage_spares {m : Message} (hs : h.Sound satId port) (hgone : h.GaveUp id)
    (hrun : h.broadcastMessage os m = .ok w) : Spares id w := by
  unfold broadcastMessage at hrun
  simp only [assert_bind_eq_ok] at hrun
  obtain ⟨-, -, -, hrun⟩ := hrun
  obtain ⟨⟨t, v⟩, hsweep, hret⟩ := bind_eq_ok.mp hrun
  cases hret
  refine (Table.sweep_sound (P := fun _ _ _ => True) (Q := Spares id) Mails.nil Mails.append
    (fun k p p' w hk hf => ⟨trivial, ?_⟩) hsweep).2
  obtain ⟨rfl, ⟨-, hup, hsent⟩ | rfl | ⟨line, rfl⟩⟩ := broadcastTo_cases hf
  · refine Only.spares (PeerConnection.sendMessage_only (hs.2 k p' hk).id_eq hsent) ?_
    rintro rfl
    obtain ⟨p, hp, hdown, -⟩ := hgone
    rw [hk] at hp
    cases hp
    exact hdown hup
  · exact .nil
  · exact .log

end

end ConnectionHandler

namespace SatelliteProcess

section
variable {id satId port : Int32} {p p' : SatelliteProcess} {w : List Effect}

/-- The event brings no datagram from this peer. -/
def Event.Spares (id : Int32) : Event → Prop
  | .datagram _ _ m _ _ => m.Valid ∧ m.senderId ≠ id
  | .stray _ _ _ _ => False
  | _ => True

/-- **A satellite does not write to a peer it has given up**, and keeps it given up, until it hears from it. -/
theorem step_gaveUp {e : Event} (hp : Configured satId port p) (hgone : p.satellite.handler.GaveUp id)
    (he : e.Spares id) (hrun : p.step e = .ok (p', w)) :
    p'.satellite.handler.GaveUp id ∧ Constellation.Spares id w := by
  cases step_moves hrun with
  | connect hadd => exact ConnectionHandler.addConnection_gaveUp hgone hadd
  | @datagram now os m pad ip _ _ haccept =>
    obtain ⟨hm, hne⟩ := he
    rw [accept_serialize hm] at haccept
    obtain ⟨p₁, typed, h, sent, line, htype, hmeet, rfl, rfl⟩ := onMessage_cases haccept
    have hhandler : p₁.satellite.handler = p.satellite.handler := (onType_handler htype).1
    have hanswer : Constellation.Spares id typed := by
      cases onType_typed htype with
      | acked hack hwaits => exact .nil
      | commanded hcommand hsent => exact ConnectionHandler.sendMessageToPeer_spares hp.handler hgone hsent
      | other hack hcommand => exact .nil
    have hmet : h.GaveUp id ∧ Constellation.Spares id sent := by
      rcases meet_cases hmeet with ⟨-, hadd⟩ | ⟨-, hbeat, rfl⟩
      · rw [hhandler] at hadd
        exact ConnectionHandler.addConnection_gaveUp hgone hadd
      · rw [hhandler] at hbeat
        exact ⟨ConnectionHandler.heartbeatSat_gaveUp hgone hne hbeat, .nil⟩
    exact ⟨hmet.1, hanswer.append (hmet.2.append .log)⟩
  | stray haccept => exact he.elim
  | update hupdate => exact ConnectionHandler.update_gaveUp hp.handler hgone hupdate
  | logLine => exact ⟨hgone, .nil⟩
  | broadcast hready hmessage hsent =>
    exact ⟨hgone, ConnectionHandler.broadcastMessage_spares hp.handler hgone hsent⟩
  | dump hready hknown => exact ⟨hgone, .nil⟩
  | sendChunk hsending hsent =>
    exact ⟨hgone, ConnectionHandler.sendMessageToPeer_spares hp.handler hgone hsent⟩
  | raise hsending => exact ⟨hgone, .nil⟩
  | idle => exact ⟨hgone, .nil⟩

end

end SatelliteProcess

/-! ### The counters of the satellites -/

theorem PeerConnection.reconnect_counter {p p' : PeerConnection} {now : Nat} {os : Os} {w : List Effect}
    (hrun : p.reconnect now os = .ok (p', w)) : p'.retryCounter ≤ p.retryCounter + 1 := by
  rcases reconnect_cases hrun with ⟨-, rfl, -⟩ | ⟨-, -, rfl, -⟩ | ⟨-, -, line, opening, hconnect, -⟩
  · exact Nat.le_succ _
  · exact Nat.le_refl _
  · rw [(connect_retry hconnect).1]
    exact Nat.le_refl _

namespace ConnectionHandler

/-- No counter is above `n`. -/
def AtMost (n : Nat) (h : ConnectionHandler) : Prop :=
  ∀ id p, h.connections.lookup id = some p → p.retryCounter ≤ n

section
variable {n : Nat} {peerId satId : Int32} {h h' : ConnectionHandler} {os : Int32 → Os} {now : Nat} {w : List Effect}

theorem AtMost.addConnection {peerPort : Int32} {ip : String} (hn : h.AtMost n)
    (hrun : h.addConnection now os peerPort ip peerId satId = .ok (h', w)) : h'.AtMost n := by
  obtain ⟨-, rfl, -⟩ | ⟨-, p, q, hnew, hconnect, rfl⟩ := addConnection_new hrun
  · exact hn
  · -- It is marked connected.
    intro id c hc
    by_cases hid : id = peerId
    · subst hid
      rw [Table.lookup_modify_self, AList.lookup_insert] at hc
      cases hc
      exact Nat.zero_le n
    · rw [Table.lookup_insert_modify_of_ne _ _ _ hid] at hc
      exact hn id c hc

theorem AtMost.heartbeatSat (hn : h.AtMost n) (hrun : h.heartbeatSat now peerId = .ok h') : h'.AtMost n := by
  obtain ⟨-, hret⟩ := assert_bind_eq_ok.mp hrun
  cases hret
  intro id c hc
  by_cases hid : id = peerId
  · subst hid
    rw [Table.lookup_modify_self] at hc
    obtain ⟨p, -, rfl⟩ := Option.map_eq_some_iff.mp hc
    exact Nat.zero_le n
  · rw [Table.lookup_modify_of_ne _ _ hid] at hc
    exact hn id c hc

theorem updatePeer_counter {k : Int32} {p p' : PeerConnection} (hrun : updatePeer now os k p = .ok (p', w)) :
    p'.retryCounter ≤ p.retryCounter + 1 := by
  rcases updatePeer_cases hrun with ⟨-, -, rfl, -⟩ | ⟨-, hreconnect⟩ | ⟨-, -, rfl, -⟩
  · exact Nat.le_succ _
  · exact PeerConnection.reconnect_counter hreconnect
  · exact Nat.le_succ _

theorem AtMost.update (hn : h.AtMost n) (hrun : h.update now os = .ok (h', w)) : h'.AtMost (n + 1) := by
  obtain ⟨⟨t, v⟩, hsweep, hret⟩ := bind_eq_ok.mp hrun
  cases hret
  obtain ⟨hentries, -⟩ := Table.sweep_sound (P := fun _ p p' => p'.retryCounter ≤ p.retryCounter + 1) (Q := fun _ => True)
    trivial (fun _ _ => trivial) (fun k p p' w _ hf => ⟨updatePeer_counter hf, trivial⟩) hsweep
  intro id p' hp'
  have hrel := hentries id
  rw [show t.lookup id = some p' from hp'] at hrel
  cases hp : h.connections.lookup id with
  | none =>
    rw [hp] at hrel
    cases hrel
  | some p =>
    rw [hp] at hrel
    cases hrel with
    | some hle => exact hle.trans (Nat.succ_le_succ (hn id p hp))

end

end ConnectionHandler

namespace SatelliteProcess

/-- How many passes of the simulation thread an event is. -/
def Event.passes : Event → Nat
  | .update _ _ _ => 1
  | _ => 0

theorem step_counters {r : Roster} {n : Nat} {p p' : SatelliteProcess} {e : Event} {w : List Effect} (he : e.Truthful r)
    (hn : p.satellite.handler.AtMost n) (hrun : p.step e = .ok (p', w)) :
    p'.satellite.handler.AtMost (n + e.passes) := by
  cases step_moves hrun with
  | connect hadd => exact hn.addConnection hadd
  | @datagram now os m pad ip _ _ haccept =>
    rw [accept_serialize he.1] at haccept
    obtain ⟨p₁, typed, h, sent, line, htype, hmeet, rfl, rfl⟩ := onMessage_cases haccept
    have hhandler : p₁.satellite.handler = p.satellite.handler := (onType_handler htype).1
    rw [← hhandler] at hn
    rcases meet_cases hmeet with ⟨-, hadd⟩ | ⟨-, hbeat, -⟩
    · exact hn.addConnection hadd
    · exact hn.heartbeatSat hbeat
  | stray haccept => exact he.elim
  | update hupdate => exact hn.update hupdate
  | logLine | broadcast | dump | sendChunk | raise => exact hn
  | idle => exact fun id c hc => (hn id c hc).trans (Nat.le_add_right ..)

end SatelliteProcess

/-! ### The constellation -/

/-- The party has given `id` up. -/
def Node.GaveUp : Node → Int32 → Prop
  | .control g, id => g.handler.GaveUp id
  | .satellite p, id => p.satellite.handler.GaveUp id

/-- The operator has a command for this satellite. -/
def NodeEvent.Orders (id : Int32) : NodeEvent → Prop
  | .control (.command _ com) => com.id.toInt32 = id
  | _ => False

def NodeEvent.passes : NodeEvent → Nat
  | .control _ => 0
  | .satellite e => e.passes

theorem NodeEvent.passes_le_one (e : NodeEvent) : e.passes ≤ 1 := by
  cases e with
  | control e => exact Nat.zero_le 1
  | satellite e =>
    cases e with
    | update => exact Nat.le_refl 1
    | connect | datagram | stray | logLine | broadcast | dump | sendChunk | raise => exact Nat.zero_le 1

/-- How many passes of its simulation thread satellite `k` has made. -/
def passesOf (k : Int32) (es : List (Int32 × NodeEvent)) : Nat :=
  (es.map fun x => if x.1 = k then x.2.passes else 0).sum

namespace Roster

section
variable {r : Roster} {start : Int32 → Node} {es fs : List (Int32 × NodeEvent)} {u v : World Int32 Node Packet} {i j : Int32}

/-- A packet from `i` to `j`. -/
def Carries (r : Roster) (i j : Int32) (q : Packet) : Prop := q.message.senderId = i ∧ q.dest = (r.home j).addr

/-- A party that has given another up writes to it only when it hears from it or has a command for it. -/
theorem steps_gaveUp {e : NodeEvent} {s s' : Node} {sent : List Packet} (hs : r.Sound i s)
    (hp : ∀ p, r.arrival i e = some p → r.Genuine es p) (hj : j ∈ 0 :: r.ids) (hgone : s.GaveUp j)
    (hunheard : ∀ q, r.arrival i e = some q → q.message.senderId ≠ j) (horders : ¬ e.Orders j)
    (hstep : r.Steps i s e s' sent) : s'.GaveUp j ∧ ∀ q ∈ sent, q.dest ≠ (r.home j).addr := by
  cases hstep with
  | @control g g' e w hadmits hrun =>
    obtain ⟨g, hg, hbook⟩ := hs.1 rfl
    cases hg
    have htrue := truthful_control hadmits hp
    have hsettled : GroundControl.Settled Config.GC_PORT g :=
      ⟨⟨hbook.handler.1, fun id c hc => (hbook.handler.2 id c hc).2.settled⟩, hbook.receiver⟩
    have hspares : e.Spares j := by
      cases e with
      | datagram now os m pad ip => exact ⟨htrue.1, hunheard _ rfl⟩
      | command os com => exact horders
      | config | update => trivial
    obtain ⟨hgone', hw⟩ := GroundControl.step_gaveUp hsettled hgone hspares hrun
    obtain ⟨-, hmails⟩ := GroundControl.step_addressed hbook htrue hrun
    refine ⟨hgone', fun q hq hdest => ?_⟩
    obtain ⟨-, peer, hne, hpeer, haddr, -⟩ := utters_packets (hw.and hmails) hq
    exact hne (r.apart peer (List.mem_cons_of_mem _ hpeer) j hj (haddr.symm.trans hdest))
  | @satellite i p p' e w hi hadmits hrun =>
    obtain ⟨p, hp', hbook⟩ := hs.2 hi
    cases hp'
    have htrue := truthful_satellite hi hadmits hp
    have hport : 0 ≤ (r.home i).port := Int32.le_of_lt (r.port_pos i (List.mem_cons_of_mem _ hi))
    have hspares : e.Spares j := by
      cases e with
      | datagram now os m pad ip => exact ⟨htrue.1, hunheard _ rfl⟩
      | stray now os bytes ip => exact htrue
      | connect | update | logLine | broadcast | dump | sendChunk | raise => trivial
    obtain ⟨hgone', hw⟩ := SatelliteProcess.step_gaveUp hbook.configured hgone hspares hrun
    obtain ⟨-, hmails⟩ := SatelliteProcess.step_addressed hbook hport htrue hrun
    refine ⟨hgone', fun q hq hdest => ?_⟩
    obtain ⟨-, peer, hne, hpeer, haddr, -⟩ := utters_packets (hw.and hmails) hq
    exact hne (r.apart peer hpeer j hj (haddr.symm.trans hdest))

theorem silent_step {k : Int32} {e : NodeEvent} {s : Node} {sent : List Packet} (hstart : r.Launched start)
    (hrun : Runs r.parties (.silent start) es v) (hi : i ∈ 0 :: r.ids) (hj : j ∈ 0 :: r.ids)
    (hgone : (v.node i).GaveUp j) (harrival : ∀ q, r.arrival k e = some q → q ∈ v.sent)
    (hstep : r.Steps k (v.node k) e s sent) (hunheard : ∀ q, r.arrival k e = some q → ¬ r.Carries j i q)
    (horders : k = i → ¬ e.Orders j) :
    (Function.update v.node k s i).GaveUp j ∧ ∀ q ∈ sent, ¬ r.Carries i j q := by
  obtain ⟨hsound, hgenuine⟩ := runs_sound hstart hrun
  have htaken := fun q hq => hgenuine q (harrival q hq)
  by_cases hk : k = i
  · subst hk
    have hother : ∀ q, r.arrival k e = some q → q.message.senderId ≠ j := by
      intro q hq hsender
      refine hunheard q hq ⟨hsender, ?_⟩
      unfold arrival at hq
      split at hq <;> cases hq <;> rfl
    obtain ⟨hgone', hsent⟩ := steps_gaveUp (hsound k) htaken hj hgone hother (horders rfl) hstep
    rw [Function.update_self]
    exact ⟨hgone', fun q hq hcarries => hsent q hq hcarries.2⟩
  · rw [Function.update_of_ne (Ne.symm hk)]
    refine ⟨hgone, fun q hq hcarries => hk ?_⟩
    rw [← steps_sender (hsound k) htaken hstep q hq]
    exact hcarries.1

theorem passesOf_append (k : Int32) (es fs : List (Int32 × NodeEvent)) :
    passesOf k (es ++ fs) = passesOf k es + passesOf k fs := by
  rw [passesOf, List.map_append, List.sum_append]
  rfl

theorem passesOf_le_length (k : Int32) (es : List (Int32 × NodeEvent)) : passesOf k es ≤ es.length := by
  induction es with
  | nil => exact Nat.le_refl 0
  | cons x es ih =>
    have hone : passesOf k [x] ≤ 1 := by
      rw [passesOf, List.map_singleton, List.sum_singleton]
      split_ifs
      · exact x.2.passes_le_one
      · exact Nat.zero_le 1
    rw [← List.singleton_append, passesOf_append, List.length_append]
    exact Nat.add_le_add hone ih

theorem run_counters {k : Int32} (hstart : r.Launched start) (hrun : Runs r.parties (.silent start) es v) (hk : k ∈ r.ids) :
    ∃ p, v.node k = .satellite p ∧ p.satellite.handler.AtMost (passesOf k es) := by
  induction hrun with
  | start =>
    obtain ⟨buf, x, y, z, vx, vy, vz, hinit⟩ := hstart.satellite k hk
    exact ⟨_, hinit, fun id c hc => by cases hc⟩
  | @step es v i e s sent before harrival hstep ih =>
    obtain ⟨p, hp, hcounters⟩ := ih
    dsimp only
    rw [passesOf_append]
    by_cases hi : i = k
    · subst hi
      rw [Function.update_self]
      have hgenuine := fun q hq => (runs_sound hstart before).2 q (harrival q hq)
      rw [hp] at hstep
      cases hstep with
      | @satellite _ _ p' e w _ hadmits hstep =>
        have hone : passesOf i [(i, .satellite e)] = e.passes := by simp [passesOf, NodeEvent.passes]
        rw [hone]
        exact ⟨p', rfl, SatelliteProcess.step_counters (truthful_satellite hk hadmits hgenuine) hcounters hstep⟩
    · rw [Function.update_of_ne (Ne.symm hi)]
      exact ⟨p, hp, fun id c hc => (hcounters id c hc).trans (Nat.le_add_right ..)⟩

theorem stay_silent (hstart : r.Launched start) (hrun : Runs r.parties (.silent start) es u) (hlater : Runs r.parties u fs v)
    (hi : i ∈ 0 :: r.ids) (hj : j ∈ 0 :: r.ids) (hij : (u.node i).GaveUp j) (hji : (u.node j).GaveUp i)
    (hcalm : ∀ x ∈ fs, ∀ q ∈ u.sent, r.arrival x.1 x.2 = some q → ¬ r.Carries i j q ∧ ¬ r.Carries j i q)
    (horders : ∀ x ∈ fs, (x.1 = i → ¬ x.2.Orders j) ∧ (x.1 = j → ¬ x.2.Orders i)) :
    (v.node i).GaveUp j ∧ (v.node j).GaveUp i ∧ ∀ q ∈ v.sent, r.Carries i j q ∨ r.Carries j i q → q ∈ u.sent := by
  induction hlater with
  | start => exact ⟨hij, hji, fun q hq _ => hq⟩
  | @step fs v k e s sent before harrival hstep ih =>
    obtain ⟨hi', hj', hold⟩ := ih (fun x hx => hcalm x (List.mem_append_left _ hx))
      (fun x hx => horders x (List.mem_append_left _ hx))
    have hlast : (k, e) ∈ fs ++ [(k, e)] := List.mem_append_right _ List.mem_cons_self
    -- A packet between the two that comes in now was sent before, and none of those comes in.
    have hunheard : ∀ q, r.arrival k e = some q → ¬ r.Carries i j q ∧ ¬ r.Carries j i q := by
      intro q hq
      have hsent := harrival q hq
      constructor
      · exact fun h => (hcalm (k, e) hlast q (hold q hsent (.inl h)) hq).1 h
      · exact fun h => (hcalm (k, e) hlast q (hold q hsent (.inr h)) hq).2 h
    have hreached := hrun.append before
    obtain ⟨hi'', hfrom⟩ := silent_step hstart hreached hi hj hi' harrival hstep (fun q hq => (hunheard q hq).2)
      (horders (k, e) hlast).1
    obtain ⟨hj'', hback⟩ := silent_step hstart hreached hj hi hj' harrival hstep (fun q hq => (hunheard q hq).1)
      (horders (k, e) hlast).2
    refine ⟨hi'', hj'', fun q hq hcarries => ?_⟩
    rcases List.mem_append.mp hq with hq | hq
    · exact hold q hq hcarries
    · rcases hcarries with h | h
      · exact absurd h (hfrom q hq)
      · exact absurd h (hback q hq)

/-- **Two parties that have given each other up stay silent.** From a world in which both have, with nothing between
them under way and no command for either, no packet is sent between them again, whatever else happens. No
satellite makes more passes than an `int` counts, and no counter overflows. -/
theorem silence (hstart : r.Launched start) (hrun : Runs r.parties (.silent start) es u) (hlater : Runs r.parties u fs v)
    (hpasses : ∀ k ∈ r.ids, passesOf k (es ++ fs) ≤ INT_MAX)
    (hi : i ∈ 0 :: r.ids) (hj : j ∈ 0 :: r.ids) (hij : (u.node i).GaveUp j) (hji : (u.node j).GaveUp i)
    (hcalm : ∀ x ∈ fs, ∀ q ∈ u.sent, r.arrival x.1 x.2 = some q → ¬ r.Carries i j q ∧ ¬ r.Carries j i q)
    (horders : ∀ x ∈ fs, (x.1 = i → ¬ x.2.Orders j) ∧ (x.1 = j → ¬ x.2.Orders i)) :
    ((v.node i).GaveUp j ∧ (v.node j).GaveUp i ∧ ∀ q ∈ v.sent, r.Carries i j q ∨ r.Carries j i q → q ∈ u.sent) ∧
      ∀ k ∈ r.ids, ∃ p, v.node k = .satellite p ∧ p.satellite.handler.AtMost INT_MAX := by
  refine ⟨stay_silent hstart hrun hlater hi hj hij hji hcalm horders, fun k hk => ?_⟩
  obtain ⟨p, hp, hcounters⟩ := run_counters hstart (hrun.append hlater) hk
  exact ⟨p, hp, fun id c hc => (hcounters id c hc).trans (hpasses k hk)⟩

end

/-! ### A partition of two minutes -/

/-- Eleven passes of the simulation thread, ten seconds apart. -/
def passes (from_ : Nat) : List SatelliteProcess.Event :=
  (List.range 11).map fun k => .update (from_ + 10 * k) (fun _ => Os.granting) fun _ x => x

/-- Eleven rounds of the update thread, ten seconds apart. -/
def rounds (from_ : Nat) : List GroundControl.Event :=
  (List.range 11).map fun k => .update (from_ + 10 * k) fun _ => Os.granting

/-- The satellite of the configuration file. -/
def named : GroundControl.Event := .config 0 (fun _ => Os.granting) 5001 "127.0.0.1" 1

theorem satellite_gives_up : ∃ p q w w',
    run SatelliteProcess.step (.init 1 5001 (filled 0) 0 0 0 0 0 0) (calls :: passes 21) = .ok (p, w) ∧
      p.satellite.handler.GaveUp 0 ∧ run SatelliteProcess.step p (passes 200) = .ok (q, w') :=
  ⟨_, _, _, _, rfl, ⟨_, rfl, by decide, by decide⟩, rfl⟩

theorem control_gives_up : ∃ g w, run GroundControl.step (.init Config.GC_PORT (filled 0)) (named :: rounds 10) =
    .ok (g, w) ∧ g.handler.GaveUp 1 :=
  ⟨_, _, rfl, _, rfl, rfl, by decide⟩

theorem passes_quiet (from_ : Nat) : ∀ e ∈ passes from_,
    pair.Admits (.satellite e) ∧ pair.arrival 1 (.satellite e) = none := by
  intro e he
  obtain ⟨k, -, rfl⟩ := List.mem_map.mp he
  exact ⟨fun _ => rfl, rfl⟩

theorem rounds_quiet (from_ : Nat) : ∀ e ∈ rounds from_, pair.Admits (.control e) ∧ pair.arrival 0 (.control e) = none := by
  intro e he
  obtain ⟨k, -, rfl⟩ := List.mem_map.mp he
  exact ⟨fun _ => rfl, rfl⟩

/-- Neither hears anything of the other until both have given up. Then the satellite goes on. -/
theorem silence_partition : ∃ es u v, Runs pair.parties (.silent pairStart) es u ∧
    Runs pair.parties u ((passes 200).map fun e => (1, .satellite e)) v ∧
    ((v.node 0).GaveUp 1 ∧ (v.node 1).GaveUp 0 ∧
      ∀ q ∈ v.sent, pair.Carries 0 1 q ∨ pair.Carries 1 0 q → q ∈ u.sent) ∧
    ∀ k ∈ pair.ids, ∃ p, v.node k = .satellite p ∧ p.satellite.handler.AtMost INT_MAX := by
  have hone : (1 : Int32) ∈ pair.ids := List.mem_cons_self
  obtain ⟨p, q, w, w', hp, hgone, hq⟩ := satellite_gives_up
  obtain ⟨g, w₀, hg, hgone'⟩ := control_gives_up
  have hcalls : ∀ e ∈ calls :: passes 21, pair.Admits (.satellite e) ∧ pair.arrival 1 (.satellite e) = none :=
    List.forall_mem_cons.mpr ⟨⟨⟨by decide, rfl, rfl, fun _ => rfl⟩, rfl⟩, passes_quiet 21⟩
  have hnamed : ∀ e ∈ named :: rounds 10, pair.Admits (.control e) ∧ pair.arrival 0 (.control e) = none :=
    List.forall_mem_cons.mpr ⟨⟨⟨hone, rfl, rfl, fun _ => rfl⟩, rfl⟩, rounds_quiet 10⟩
  obtain ⟨es, u, hu, hcontrol, hsatellite, hlength⟩ : ∃ es u, Runs pair.parties (.silent pairStart) es u ∧
      u.node 0 = .control g ∧ u.node 1 = .satellite p ∧ es.length = 24 :=
    ⟨_, _, (runs_satellite_alone hone rfl hcalls hp).append (runs_control_alone rfl hnamed hg), rfl, rfl, rfl⟩
  have hlater := runs_satellite_alone hone hsatellite (passes_quiet 200) hq
  have hij : (u.node 0).GaveUp 1 := by
    rw [hcontrol]
    exact hgone'
  have hji : (u.node 1).GaveUp 0 := by
    rw [hsatellite]
    exact hgone
  have hpasses : ∀ k ∈ pair.ids, passesOf k (es ++ (passes 200).map fun e => (1, .satellite e)) ≤ INT_MAX := by
    intro k hk
    refine (passesOf_le_length k _).trans ?_
    rw [List.length_append, hlength]
    decide
  refine ⟨es, u, _, hu, hlater, silence pairStart_launched hu hlater hpasses List.mem_cons_self (List.mem_cons_of_mem _ hone)
    hij hji ?_ ?_⟩
  · intro x hx q hq harrival
    obtain ⟨e, he, rfl⟩ := List.mem_map.mp hx
    rw [(passes_quiet 200 e he).2] at harrival
    cases harrival
  · intro x hx
    obtain ⟨e, he, rfl⟩ := List.mem_map.mp hx
    exact ⟨fun _ => id, fun _ => id⟩

end Roster

end Constellation
