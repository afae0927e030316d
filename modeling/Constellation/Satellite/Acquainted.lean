import Constellation.Satellite.Configured

/-!
# A satellite that dumps knows ground control

Connections are never taken out of the map, and the sender begins a dump only if ground control is in
it. So ground control is known during a dump and while the satellite waits for the acknowledgement
(`step_acquainted`): what arrives from ground control then is not greeted, and nothing but a command is
answered (`datagram_answer`).
-/

namespace Constellation

namespace ConnectionHandler

/-- Peer `id` has a connection. -/
def Knows (h : ConnectionHandler) (id : Int32) : Prop := (h.connections.lookup id).isSome = true

/-- Peer `id` has a connection that takes messages. -/
def Reaches (h : ConnectionHandler) (id : Int32) : Prop :=
  ∃ p, h.connections.lookup id = some p ∧ p.state = .connected ∧ 0 ≤ p.peerSocket

section
variable {h h' : ConnectionHandler} {os : Int32 → Os} {id peerId : Int32} {now : Nat} {w : List Effect}

theorem addConnection_knows {port : Int32} {ip : String} {satId : Int32}
    (hrun : h.addConnection now os port ip peerId satId = .ok (h', w)) (hknown : h.Knows id) : h'.Knows id := by
  obtain ⟨-, rfl, -⟩ | ⟨-, p, q, -, -, rfl⟩ := addConnection_cases hrun
  · exact hknown
  · rw [Knows]
    dsimp only
    by_cases hid : id = peerId
    · rw [hid, Table.lookup_insert_modify_self]
      rfl
    · rw [Table.lookup_insert_modify_of_ne _ _ _ hid]
      exact hknown

theorem heartbeatSat_knows (hrun : h.heartbeatSat now peerId = .ok h') : h'.Knows id ↔ h.Knows id := by
  obtain ⟨-, hret⟩ := assert_bind_eq_ok.mp hrun
  cases hret
  rw [Knows, Knows]
  dsimp only
  by_cases hid : id = peerId
  · rw [hid, Table.lookup_modify_self, Option.isSome_map]
  · rw [Table.lookup_modify_of_ne _ _ hid]

theorem update_knows (hrun : h.update now os = .ok (h', w)) : h'.Knows id ↔ h.Knows id := by
  obtain ⟨⟨t, v⟩, hsweep, hret⟩ := bind_eq_ok.mp hrun
  cases hret
  obtain ⟨hentries, -⟩ := Table.sweep_sound (P := fun _ _ _ => True) (Q := fun _ => True) trivial
    (fun _ _ => trivial) (fun _ _ _ _ _ _ => ⟨trivial, trivial⟩) hsweep
  have hrel := hentries id
  rw [Knows, Knows]
  dsimp only
  generalize h.connections.lookup id = before at hrel ⊢
  generalize t.lookup id = after at hrel ⊢
  cases hrel with
  | some _ => exact Iff.rfl
  | none => exact Iff.rfl

end

end ConnectionHandler

namespace SatelliteProcess

/-- During a dump, and while it waits, the satellite knows ground control. -/
def Acquainted (p : SatelliteProcess) : Prop :=
  p.sender ≠ .ready ∨ p.satellite.waitingForAck = true → p.satellite.handler.Knows 0

section
variable {p p' : SatelliteProcess} {w : List Effect}

theorem onType_handler {os : Int32 → Os} {m : Message} (hrun : p.onType os m = .ok (p', w)) :
    p'.satellite.handler = p.satellite.handler ∧ p'.sender = p.sender ∧
      (p'.satellite.waitingForAck = true → p.satellite.waitingForAck = true) := by
  cases onType_typed hrun with
  | acked hack hwaits => exact ⟨rfl, rfl, nofun⟩
  | commanded hcommand hsent => exact ⟨rfl, rfl, id⟩
  | other hack hcommand => exact ⟨rfl, rfl, id⟩

theorem meet_knows {now : Nat} {os : Int32 → Os} {m : Message} {ip : String} {h' : ConnectionHandler} {id : Int32}
    (hrun : p.meet now os m ip = .ok (h', w)) (hknown : p.satellite.handler.Knows id) : h'.Knows id := by
  rcases meet_cases hrun with ⟨-, hadd⟩ | ⟨-, hbeat, -⟩
  · exact ConnectionHandler.addConnection_knows hadd hknown
  · exact (ConnectionHandler.heartbeatSat_knows hbeat).mpr hknown

theorem acceptConnections_acquainted {now : Nat} {os : Int32 → Os} {bytes : List UInt8} {ip : String}
    (hp : p.Acquainted) (hrun : p.acceptConnections now os bytes ip = .ok (p', w)) : p'.Acquainted := by
  obtain ⟨⟨buf, message⟩, -, hrun⟩ := bind_eq_ok.mp hrun
  cases message with
  | none =>
    cases hrun
    exact hp
  | some m =>
    obtain ⟨p₁, typed, h, sent, line, htype, hmeet, rfl, rfl⟩ := onMessage_cases hrun
    obtain ⟨hhandler, hsame, hflag⟩ := onType_handler htype
    intro hbusy
    apply meet_knows hmeet
    rw [hhandler]
    exact hp (hbusy.imp (fun h hready => h (hsame.trans hready)) hflag)

/-- **Every step keeps it.** -/
theorem step_acquainted {e : Event} (hp : p.Acquainted) (hrun : p.step e = .ok (p', w)) : p'.Acquainted := by
  cases step_moves hrun with
  | connect hadd => exact fun hbusy => ConnectionHandler.addConnection_knows hadd (hp hbusy)
  | datagram haccept => exact acceptConnections_acquainted hp haccept
  | stray haccept => exact acceptConnections_acquainted hp haccept
  | update hupdate => exact fun hbusy => (ConnectionHandler.update_knows hupdate).mpr (hp hbusy)
  | logLine => exact hp
  | broadcast hready hmessage hsent => exact hp
  | dump hready hknown =>
    -- The sender looks ground control up before it begins a dump.
    obtain ⟨-, hlookup⟩ := assert_bind_eq_ok.mp hknown
    exact fun _ => Except.ok.inj hlookup
  | sendChunk hsending hsent =>
    refine fun _ => hp (.inl ?_)
    rw [hsending]
    nofun
  | raise hsending =>
    refine fun _ => hp (.inl ?_)
    rw [hsending]
    nofun
  | idle => exact hp

theorem step_ready {e : Event} (he : e.IsOwn) (hrun : p.step e = .ok (p', w)) (hready : p'.sender = .ready) :
    p.sender = .ready ∨ p.Raises e = true := by
  cases step_moves hrun with
  | connect hadd => exact .inl hready
  | datagram haccept => exact he.elim
  | stray haccept => exact he.elim
  | update hupdate => exact .inl hready
  | logLine => exact .inl hready
  | broadcast hbefore hmessage hsent => exact .inl hbefore
  | dump hbefore hknown => exact .inl hbefore
  | sendChunk hsending hsent => cases hready
  | raise hsending => exact .inr (by rw [Raises, hsending])
  | idle => exact .inl hready

/-- **Of a known sender nothing but a command is answered**, by an acknowledgement for ground control. -/
theorem datagram_answer {now : Nat} {os : Int32 → Os} {m : Message} {pad : Block 3} {ip : String}
    (hm : m.Valid) (hknown : p.satellite.handler.Knows m.senderId)
    (hrun : p.step (.datagram now os m pad ip) = .ok (p', w)) :
    ∃ v line, w = v ++ [.log line] ∧
      if m.kind = .command then
        p.satellite.handler.sendMessageToPeer os 0 (.build p.satId p.satellite.port (.ack true)) = .ok v
      else v = [] := by
  rw [step, acceptConnections, receive_serialize hm, ok_bind] at hrun
  obtain ⟨p₁, v, h, sent, line, htype, hmeet, rfl, rfl⟩ := onMessage_cases hrun
  have hquiet : sent = [] := by
    rcases meet_cases hmeet with ⟨hnone, -⟩ | ⟨-, -, hnil⟩
    · rw [(onType_handler htype).1] at hnone
      rw [ConnectionHandler.Knows, hnone] at hknown
      cases hknown
    · exact hnil
  subst hquiet
  refine ⟨v, line, rfl, ?_⟩
  have htag : m.header.type = MessageType.command.tag ↔ m.kind = .command := by
    rw [hm.type]
    exact ⟨fun h => MessageType.tag_injective h, congrArg _⟩
  cases onType_typed htype with
  | acked hack hwaits =>
    have hno : m.kind ≠ .command := by
      intro hkind
      rw [hm.type, hkind] at hack
      exact absurd hack (by decide)
    rw [if_neg hno]
  | commanded hcommand hsent =>
    rw [if_pos (htag.mp hcommand)]
    exact hsent
  | other hack hcommand => rw [if_neg (fun hkind => hcommand (htag.mpr hkind))]

end

end SatelliteProcess

end Constellation
