import Constellation.GroundControl.Process

/-!
# What ground control sends

As long as it does not abort, whatever the operating system answers: every message ground control
passes to `sendto` carries id 0 and its own port and leaves on an open descriptor, because
`sendMessage` asserts that (`step_settled`). The listener handles every message of a satellite and
answers it (`datagram_answered`), because by then its sender is known.
-/

namespace Constellation

/-- A message of ground control on an open descriptor. -/
def GroundControl.Speaks (gcPort : Int32) (fd : Int) (m : Message) : Prop := 0 ≤ fd ∧ ∃ body, m = .build 0 gcPort body

open GroundControl (Speaks)

namespace Connection

/-- The connection has the parameters it was made with. -/
structure Settled (gcPort id : Int32) (c : Connection) : Prop where
  id_eq : c.id = id
  gcPort_eq : c.gcPort = gcPort

section
variable {gcPort id : Int32} {c c' : Connection} {os : Os} {w : List Effect}

theorem sendMessage_sends {body : Body} (hrun : c.sendMessage os (.build 0 gcPort body) = .ok w) :
    Sends (Speaks gcPort) w := by
  obtain ⟨hsock, line, rfl⟩ := sendMessage_sent hrun
  intro peer fd dest m hm
  simp only [List.mem_cons, Effect.sendto.injEq, reduceCtorEq, List.not_mem_nil, or_false] at hm
  obtain ⟨-, rfl, -, rfl⟩ := hm
  exact ⟨hsock, body, rfl⟩

theorem connect_settled (hs : c.Settled gcPort id) (hrun : c.connect os = .ok (c', w)) :
    c'.Settled gcPort id ∧ Sends (Speaks gcPort) w := by
  rcases (connect_cases hrun).2 with
    ⟨-, rfl, line, rfl⟩ | ⟨-, dest, line, rfl, rfl⟩ | ⟨hsock, dest, line, attempt, rfl, rfl⟩
  · exact ⟨⟨hs.id_eq, hs.gcPort_eq⟩, .log⟩
  · refine ⟨⟨hs.id_eq, hs.gcPort_eq⟩, Sends.of_none ?_⟩
    simp
  · refine ⟨⟨hs.id_eq, hs.gcPort_eq⟩, ?_⟩
    intro peer fd d m hm
    simp only [List.mem_cons, reduceCtorEq, List.not_mem_nil, or_false, false_or, Effect.sendto.injEq] at hm
    obtain ⟨-, rfl, -, rfl⟩ := hm
    rw [greeting, hs.gcPort_eq]
    exact ⟨Int.not_lt.mp hsock, _, rfl⟩

theorem disconnect_settled (now : Nat) (os : Os) (hs : c.Settled gcPort id) :
    (c.disconnect now os).1.Settled gcPort id ∧ Sends (Speaks gcPort) (c.disconnect now os).2 := by
  refine ⟨⟨hs.id_eq, hs.gcPort_eq⟩, Sends.of_none fun peer fd d m hm => ?_⟩
  unfold disconnect at hm
  split_ifs at hm <;> simp at hm

theorem reconnect_settled {now : Nat} {b : Bool} (hs : c.Settled gcPort id)
    (hrun : c.reconnect now os = .ok (b, c', w)) : c'.Settled gcPort id ∧ Sends (Speaks gcPort) w := by
  rcases reconnect_cases hrun with
    ⟨-, -, rfl, rfl⟩ | ⟨-, -, -, rfl, rfl⟩ | ⟨-, -, -, line, opening, hconnect, rfl⟩
  · exact ⟨hs, .nil⟩
  · exact ⟨⟨hs.id_eq, hs.gcPort_eq⟩, .nil⟩
  · let c₁ : Connection := { c with retryCounter := c.retryCounter + 1, lastReconnect := now }
    have hs₁ : c₁.Settled gcPort id := ⟨hs.id_eq, hs.gcPort_eq⟩
    obtain ⟨hclosed, hclosing⟩ := disconnect_settled now os hs₁
    obtain ⟨hs', hopening⟩ := connect_settled hclosed hconnect
    exact ⟨hs', Sends.append (w := _ :: _) (Sends.append (w := [_]) .log hclosing) hopening⟩

end

end Connection

namespace GCConnectionHandler

/-- Every connection has the parameters it was made with. -/
def Settled (gcPort : Int32) (h : GCConnectionHandler) : Prop :=
  h.gcPort = gcPort ∧ ∀ id c, h.satellites.lookup id = some c → c.Settled gcPort id

/-- The satellite is in the map. -/
def Knows (h : GCConnectionHandler) (id : Int32) : Prop := (h.satellites.lookup id).isSome = true

section
variable {gcPort : Int32} {h h' : GCConnectionHandler} {os : Int32 → Os} {w : List Effect} {satId : Int32}

theorem Settled.modify (hs : h.Settled gcPort) {f : Connection → Connection}
    (hf : ∀ c : Connection, c.Settled gcPort satId → (f c).Settled gcPort satId) :
    ({ h with satellites := h.satellites.modify satId f } : GCConnectionHandler).Settled gcPort := by
  refine ⟨hs.1, fun id c hc => ?_⟩
  dsimp only at hc
  by_cases hne : id = satId
  · subst hne
    rw [Table.lookup_modify_self] at hc
    obtain ⟨c', hc', rfl⟩ := Option.map_eq_some_iff.mp hc
    exact hf c' (hs.2 id c' hc')
  · rw [Table.lookup_modify_of_ne _ _ hne] at hc
    exact hs.2 id c hc

theorem knows_modify (f : Connection → Connection) :
    ({ h with satellites := h.satellites.modify satId f } : GCConnectionHandler).Knows satId ↔ h.Knows satId := by
  rw [Knows, Knows, Table.lookup_modify_self, Option.isSome_map]

theorem addConnection_settled {now : Nat} {port : Int32} {ip : String} (hs : h.Settled gcPort)
    (hrun : h.addConnection now os port ip satId = .ok (h', w)) :
    h'.Settled gcPort ∧ Sends (Speaks gcPort) w ∧ h'.Knows satId := by
  obtain ⟨hin, rfl, rfl⟩ | ⟨hin, c, hconnect, rfl⟩ := addConnection_cases hrun
  · exact ⟨hs, .nil, AList.lookup_isSome.mpr hin⟩
  · have hnew : (Connection.new now satId port ip h.gcPort).Settled gcPort satId := ⟨rfl, hs.1⟩
    obtain ⟨hc, hsends⟩ := Connection.connect_settled hnew hconnect
    let inserted := h.satellites.insert satId (Connection.new now satId port ip h.gcPort)
    have hinserted : ({ h with satellites := inserted } : GCConnectionHandler).Settled gcPort := by
      refine ⟨hs.1, fun id c' hc' => ?_⟩
      change (h.satellites.insert satId _).lookup id = _ at hc'
      by_cases hne : id = satId
      · subst hne
        rw [AList.lookup_insert] at hc'
        cases hc'
        exact hnew
      · rw [AList.lookup_insert_ne hne] at hc'
        exact hs.2 id c' hc'
    refine ⟨hinserted.modify fun _ _ => hc, hsends, ?_⟩
    rw [Knows, Table.lookup_insert_modify_self]
    rfl

theorem heartbeatSat_settled {now : Nat} (hs : h.Settled gcPort) (hrun : h.heartbeatSat now satId = .ok h') :
    h'.Settled gcPort ∧ (h'.Knows satId ↔ h.Knows satId) := by
  obtain ⟨-, hrun⟩ := assert_bind_eq_ok.mp hrun
  cases hrun
  exact ⟨hs.modify fun _ hc => ⟨hc.id_eq, hc.gcPort_eq⟩, knows_modify _⟩

theorem updateSat_settled {now : Nat} {id : Int32} {c c' : Connection} (hs : c.Settled gcPort id)
    (hrun : updateSat now os id c = .ok (c', w)) : c'.Settled gcPort id ∧ Sends (Speaks gcPort) w := by
  rcases updateSat_cases hrun with ⟨-, rfl, line, rfl⟩ | ⟨-, trying, effects, hreconnect, hreport⟩ | ⟨-, -, rfl, rfl⟩
  · obtain ⟨hclosed, hclosing⟩ := Connection.disconnect_settled now (os id) hs
    exact ⟨hclosed, Sends.append (w := [_]) .log hclosing⟩
  · obtain ⟨hc, hsends⟩ := Connection.reconnect_settled hs hreconnect
    rcases hreport with ⟨-, rfl⟩ | ⟨-, out, -, rfl⟩
    · exact ⟨hc, hsends⟩
    · refine ⟨hc, hsends.append (Sends.of_none ?_)⟩
      simp
  · exact ⟨hs, .nil⟩

theorem update_settled {now : Nat} (hs : h.Settled gcPort) (hrun : h.update now os = .ok (h', w)) :
    h'.Settled gcPort ∧ Sends (Speaks gcPort) w := by
  obtain ⟨⟨t, v⟩, hsweep, hret⟩ := bind_eq_ok.mp hrun
  cases hret
  obtain ⟨hentries, hsends⟩ := Table.sweep_keeps (P := fun id c => c.Settled gcPort id) .nil Sends.append hs.2
    (fun _ _ _ _ hc hc' => updateSat_settled hc hc') hsweep
  exact ⟨⟨hs.1, hentries⟩, hsends⟩

theorem sendMessageToSat_settled {body : Body} (hs : h.Settled gcPort)
    (hrun : h.sendMessageToSat os satId (.build 0 gcPort body) = .ok w) :
    Sends (Speaks gcPort) w ∧
      (h.Knows satId → ∃ fd dest, 0 ≤ fd ∧ Effect.sendto satId fd dest (.build 0 gcPort body) ∈ w) := by
  rcases sendMessageToSat_cases hrun with ⟨hnone, line, rfl⟩ | ⟨c, hc, hsent⟩
  · refine ⟨.log, fun hknown => ?_⟩
    rw [Knows, hnone] at hknown
    cases hknown
  · refine ⟨Connection.sendMessage_sends hsent, fun _ => ?_⟩
    obtain ⟨hsock, line, rfl⟩ := Connection.sendMessage_sent hsent
    refine ⟨c.satSocket, c.peerAddr, hsock, ?_⟩
    rw [(hs.2 satId c hc).id_eq]
    exact List.mem_cons_self

end

end GCConnectionHandler

namespace GroundControl

section
variable {gcPort : Int32} {g g' : GroundControl} {w : List Effect}

/-- The process has the port it was started with, and so have its connections. -/
structure Settled (gcPort : Int32) (g : GroundControl) : Prop where
  handler : g.handler.Settled gcPort
  receiver : g.receiver.gcPort = gcPort

theorem init_settled (gcPort : Int32) (buf : RecvBuffer) : Settled gcPort (init gcPort buf) :=
  ⟨⟨rfl, nofun⟩, rfl⟩

/-- The event is a step of another thread than the listener. -/
def Event.IsOwn : Event → Prop
  | .datagram .. => False
  | _ => True

/-- **Steps of the other threads keep the port and send messages of ground control.** -/
theorem step_settled {e : Event} (hg : Settled gcPort g) (he : e.IsOwn) (hrun : g.step e = .ok (g', w)) :
    Settled gcPort g' ∧ Sends (Speaks gcPort) w := by
  cases e with
  | config now os port ip id =>
    obtain ⟨⟨h, v⟩, hadd, hret⟩ := bind_eq_ok.mp hrun
    cases hret
    obtain ⟨hs, hsends, -⟩ := GCConnectionHandler.addConnection_settled hg.handler hadd
    exact ⟨⟨hs, hg.receiver⟩, hsends⟩
  | datagram now os m pad ip => exact he.elim
  | update now os =>
    obtain ⟨⟨h, v⟩, hupdate, hret⟩ := bind_eq_ok.mp hrun
    cases hret
    obtain ⟨hs, hsends⟩ := GCConnectionHandler.update_settled hg.handler hupdate
    exact ⟨⟨hs, hg.receiver⟩, hsends⟩
  | command os com =>
    obtain ⟨v, hcommand, hret⟩ := bind_eq_ok.mp hrun
    cases hret
    obtain ⟨-, hsend⟩ := assert_bind_eq_ok.mp hcommand
    rw [GCConnectionHandler.commandMessage, hg.handler.1] at hsend
    exact ⟨hg, (GCConnectionHandler.sendMessageToSat_settled hg.handler hsend).1⟩

theorem addConnection_knows {now : Nat} {os : Int32 → Os} {m : Message} {ip : String} {h' : GCConnectionHandler}
    (hg : Settled gcPort g) (hrun : g.receiver.addConnection now os m g.handler ip = .ok (h', w)) :
    h'.Settled gcPort ∧ Sends (Speaks gcPort) w ∧ h'.Knows m.senderId := by
  obtain ⟨-, ⟨-, h₁, v, hadd, hbeat, rfl⟩ | ⟨hknown, out, hbeat, -, rfl⟩⟩ := Receiver.addConnection_cases hrun
  · obtain ⟨hs₁, hsends, hknows⟩ := GCConnectionHandler.addConnection_settled hg.handler hadd
    obtain ⟨hs₂, hsame⟩ := GCConnectionHandler.heartbeatSat_settled hs₁ hbeat
    refine ⟨hs₂, hsends.append (Sends.of_none ?_), hsame.mpr hknows⟩
    simp
  · obtain ⟨hs₁, hsame⟩ := GCConnectionHandler.heartbeatSat_settled hg.handler hbeat
    refine ⟨hs₁, Sends.of_none ?_, hsame.mpr hknown⟩
    simp

/-- **A message of a satellite is handled and answered**, if the listener does not abort. -/
theorem datagram_answered {now : Nat} {os : Int32 → Os} {m : Message} {pad : Block 3} {ip : String}
    (hg : Settled gcPort g) (hm : Receiver.Deliverable m) (hkind : m.kind ≠ .command)
    (hrun : g.step (.datagram now os m pad ip) = .ok (g', w)) :
    Settled gcPort g' ∧ Sends (Speaks gcPort) w ∧
      (∃ v, g.receiver.handle m = .ok (true, g'.receiver, v) ∧ v ⊆ w) ∧
      ∃ fd dest, 0 ≤ fd ∧ Effect.sendto m.senderId fd dest (.build 0 gcPort (.ack true)) ∈ w := by
  rw [step, listen_serialize hm.valid] at hrun
  obtain ⟨⟨h', v₁⟩, hadd, hrun⟩ := bind_eq_ok.mp hrun
  obtain ⟨⟨r', v₂⟩, hack, hret⟩ := bind_eq_ok.mp hrun
  cases hret
  have hg₀ : Settled gcPort { g with buf := recvfrom g.buf (m.serialize pad) } := ⟨hg.handler, hg.receiver⟩
  obtain ⟨hs, hsends₁, hknows⟩ := addConnection_knows hg₀ hadd
  obtain ⟨r, v, hhandle, hport, hquiet, -⟩ := Receiver.handle_ok (r := g.receiver) hm
  rw [decide_eq_true hkind] at hhandle
  have hackMessage : r.ackMessage = .build 0 gcPort (.ack true) := by
    rw [Receiver.ackMessage, hport, hg.receiver]
  obtain ⟨handled, r', v', hhandle', hcases⟩ := Receiver.ack_cases hack
  rw [hhandle'] at hhandle
  cases hhandle
  obtain ⟨-, sent, hsent, hret⟩ | ⟨hrefused, -⟩ := hcases
  swap
  · cases hrefused
  cases hret
  rw [hackMessage] at hsent
  obtain ⟨hsends₂, hanswer⟩ := GCConnectionHandler.sendMessageToSat_settled hs hsent
  obtain ⟨fd, dest, hfd, hmem⟩ := hanswer hknows
  refine ⟨⟨hs, hport.trans hg.receiver⟩, hsends₁.append ((Sends.of_none hquiet).append hsends₂),
    ⟨v, hhandle', ?_⟩, fd, dest, hfd, ?_⟩
  · exact fun x hx => List.mem_append_right _ (List.mem_append_left _ hx)
  · exact List.mem_append_right _ (List.mem_append_right _ hmem)

end

end GroundControl

end Constellation
