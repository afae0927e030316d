import Constellation.Satellite.Configured

/-!
# What a satellite logs

The lines that the threads of a satellite push on the queue of the logger, those of `print` apart, start with a bracket
(`step_lines`). None has a line break in it as long as no address has one: the only text of a line that comes from
outside is the address of a peer, and the handler keeps it as it was given.
-/

namespace Constellation

/-- There is no line break in it. -/
def Unbroken (s : String) : Prop := 10 ∉ ascii s

/-- A line that starts with a bracket. -/
def Bracketed (line : String) : Prop := Unbroken line ∧ (ascii line).head? = some 91

instance : DecidablePred Unbroken := fun s => inferInstanceAs (Decidable (10 ∉ ascii s))

instance : DecidablePred Bracketed := fun _ => inferInstanceAs (Decidable (_ ∧ _))

/-- Every line among the effects has a property. -/
def Logs (P : String → Prop) (w : List Effect) : Prop := ∀ line, Effect.log line ∈ w → P line

section
variable {P : String → Prop} {w w' : List Effect} {s t : String}

theorem Logs.nil : Logs P [] :=
  fun _ hm => absurd hm List.not_mem_nil

theorem Logs.append (h : Logs P w) (h' : Logs P w') : Logs P (w ++ w') := by
  intro line hm
  rcases List.mem_append.mp hm with hm | hm
  · exact h line hm
  · exact h' line hm

theorem Logs.log (h : P s) : Logs P [.log s] := by
  intro line hm
  cases List.mem_singleton.mp hm
  exact h

theorem Logs.cons {x : Effect} (hx : ∀ line, x ≠ .log line) (h : Logs P w) : Logs P (x :: w) := by
  intro line hm
  rcases List.mem_cons.mp hm with heq | hm
  · exact absurd heq.symm (hx line)
  · exact h line hm

theorem Unbroken.append (hs : Unbroken s) (ht : Unbroken t) : Unbroken (s ++ t) := by
  rw [Unbroken, ascii_append, List.mem_append]
  exact not_or.mpr ⟨hs, ht⟩

theorem unbroken_nat (n : Nat) : Unbroken (toString n) := by
  intro hten
  exact absurd (Scanf.graphic_toString n 10 hten) (by decide)

theorem unbroken_int32 (i : Int32) : Unbroken (toString i) := by
  change Unbroken (toString i.toInt)
  cases i.toInt with
  | ofNat n => exact unbroken_nat n
  | negSucc n => exact Unbroken.append (s := "-") (by decide) (unbroken_nat (n + 1))

theorem Bracketed.append (hs : Bracketed s) (ht : Unbroken t) : Bracketed (s ++ t) := by
  refine ⟨hs.1.append ht, ?_⟩
  rw [ascii_append, List.head?_append, hs.2]
  rfl

end

/-! ### The connections -/

namespace PeerConnection

section
variable {p p' : PeerConnection} {now : Nat} {os : Os} {w : List Effect}

theorem sendMessage_logs {message : Message} (hrun : p.sendMessage os message = .ok w) : Logs Bracketed w := by
  unfold sendMessage at hrun
  simp only [assert_bind_eq_ok] at hrun
  obtain ⟨-, -, -, -, hrun⟩ := hrun
  cases hrun
  refine .cons (by simp) (.log ?_)
  split_ifs
  all_goals first | decide | exact Bracketed.append (by decide) (unbroken_int32 _)

theorem connect_logs (hip : Unbroken p.peerIp) (hrun : p.connect now os = .ok (p', w)) :
    p'.peerIp = p.peerIp ∧ Logs Bracketed w := by
  unfold connect at hrun
  simp only [assert_bind_eq_ok] at hrun
  obtain ⟨-, -, -, -, hrun⟩ := hrun
  split_ifs at hrun with hsocket hpton
  · cases hrun
    exact ⟨rfl, .log (Bracketed.append (by decide) (unbroken_int32 _))⟩
  · cases hrun
    exact ⟨rfl, .cons (by simp) (.log (Bracketed.append (by decide) (unbroken_int32 _)))⟩
  · obtain ⟨sent, hsent, hret⟩ := bind_eq_ok.mp hrun
    cases hret
    refine ⟨rfl, Logs.append (.cons (by simp) (sendMessage_logs hsent)) (.log ?_)⟩
    exact ((Bracketed.append (by decide) hip).append (by decide)).append (unbroken_int32 _)

theorem disconnect_logs (p : PeerConnection) (now : Nat) (os : Os) : Logs Bracketed (p.disconnect now os).2 := by
  unfold disconnect
  dsimp only
  split_ifs
  · exact .cons (by simp) (.log (by decide))
  · exact .cons (by simp) .nil
  · exact .nil

theorem reconnect_logs (hip : Unbroken p.peerIp) (hrun : p.reconnect now os = .ok (p', w)) :
    p'.peerIp = p.peerIp ∧ Logs Bracketed w := by
  by_cases hsoon : now - p.lastReconnect < Config.RECONNECT_INTERVAL
  · rw [reconnect, if_pos hsoon] at hrun
    cases hrun
    exact ⟨rfl, .nil⟩
  rw [reconnect, if_neg hsoon] at hrun
  dsimp only at hrun
  by_cases hlimit : Config.MAX_RECONNECT_ATTEMPTS < p.retryCounter + 1
  · rw [if_pos hlimit] at hrun
    cases hrun
    exact ⟨rfl, .nil⟩
  rw [if_neg hlimit] at hrun
  obtain ⟨⟨q, opening⟩, hconnect, hret⟩ := bind_eq_ok.mp hrun
  cases hret
  have hconnects := fun hclosed => connect_logs hclosed hconnect
  obtain ⟨hip', hopening⟩ := hconnects hip
  have hline : Bracketed ("[ERROR] Reconnecting to Satellite: " ++ toString p.peerId ++ "; Reconnect counter = " ++
      toString (p.retryCounter + 1)) :=
    ((Bracketed.append (by decide) (unbroken_int32 _)).append (by decide)).append (unbroken_nat _)
  exact ⟨hip', Logs.append (w := _ :: _) (Logs.append (w := [_]) (.log hline) (disconnect_logs p now os)) hopening⟩

end

end PeerConnection

namespace ConnectionHandler

/-- No address the handler has been given has a line break in it. -/
def Spelled (h : ConnectionHandler) : Prop := ∀ id p, h.connections.lookup id = some p → Unbroken p.peerIp

section
variable {h h' : ConnectionHandler} {now : Nat} {os : Int32 → Os} {w : List Effect}

theorem addConnection_logs {port : Int32} {ip : String} {peerId satId : Int32} (hs : h.Spelled) (hip : Unbroken ip)
    (hrun : h.addConnection now os port ip peerId satId = .ok (h', w)) : h'.Spelled ∧ Logs Bracketed w := by
  unfold addConnection at hrun
  simp only [assert_bind_eq_ok] at hrun
  obtain ⟨-, -, -, -, hrun⟩ := hrun
  obtain ⟨p, hnew, hrun⟩ := bind_eq_ok.mp hrun
  unfold PeerConnection.new at hnew
  simp only [assert_bind_eq_ok] at hnew
  obtain ⟨-, -, hret⟩ := hnew
  cases hret
  by_cases hin : peerId ∈ h.connections
  · rw [Table.emplace_of_mem hin] at hrun
    cases hrun
    exact ⟨hs, .nil⟩
  · rw [Table.emplace_of_not_mem hin] at hrun
    obtain ⟨⟨q, v⟩, hconnect, hret⟩ := bind_eq_ok.mp hrun
    cases hret
    obtain ⟨hq, hv⟩ := PeerConnection.connect_logs hip hconnect
    refine ⟨fun id c hc => ?_, hv⟩
    by_cases hne : id = peerId
    · subst hne
      rw [Table.lookup_insert_modify_self] at hc
      cases hc
      rw [PeerConnection.markConnected, hq]
      exact hip
    · rw [Table.lookup_insert_modify_of_ne _ _ _ hne] at hc
      exact hs id c hc

theorem heartbeatSat_spelled {peerId : Int32} (hs : h.Spelled) (hrun : h.heartbeatSat now peerId = .ok h') :
    h'.Spelled := by
  obtain ⟨-, hret⟩ := assert_bind_eq_ok.mp hrun
  cases hret
  intro id c hc
  dsimp only at hc
  by_cases hne : id = peerId
  · subst hne
    rw [Table.lookup_modify_self] at hc
    obtain ⟨q, hq, rfl⟩ := Option.map_eq_some_iff.mp hc
    exact hs id q hq
  · rw [Table.lookup_modify_of_ne _ _ hne] at hc
    exact hs id c hc

theorem updatePeer_logs {id : Int32} {p p' : PeerConnection} (hip : Unbroken p.peerIp)
    (hrun : updatePeer now os id p = .ok (p', w)) : Unbroken p'.peerIp ∧ Logs Bracketed w := by
  rcases updatePeer_cases hrun with ⟨-, -, rfl, rfl⟩ | ⟨-, hreconnect⟩ | ⟨-, -, rfl, rfl⟩
  · refine ⟨hip, Logs.append (w := [_]) (.log ?_) (PeerConnection.disconnect_logs p now (os id))⟩
    exact (Bracketed.append (by decide) (unbroken_int32 _)).append (by decide)
  · obtain ⟨heq, hw⟩ := PeerConnection.reconnect_logs hip hreconnect
    rw [heq]
    exact ⟨hip, hw⟩
  · exact ⟨hip, .nil⟩

theorem update_logs (hs : h.Spelled) (hrun : h.update now os = .ok (h', w)) : h'.Spelled ∧ Logs Bracketed w := by
  obtain ⟨⟨t, v⟩, hsweep, hret⟩ := bind_eq_ok.mp hrun
  cases hret
  exact Table.sweep_keeps (P := fun _ p => Unbroken p.peerIp) .nil Logs.append (fun id p hp => hs id p hp)
    (fun _ _ _ _ hp hp' => updatePeer_logs hp hp') hsweep

theorem sendMessageToPeer_logs {peerId : Int32} {message : Message} (hrun : h.sendMessageToPeer os peerId message = .ok w) :
    Logs Bracketed w := by
  unfold sendMessageToPeer at hrun
  simp only [assert_bind_eq_ok] at hrun
  obtain ⟨-, -, -, -, hrun⟩ := hrun
  split at hrun
  · cases hrun
    exact .log ((Bracketed.append (by decide) (unbroken_int32 _)).append (by decide))
  · obtain ⟨state, -, hrun⟩ := bind_eq_ok.mp hrun
    split_ifs at hrun
    · exact PeerConnection.sendMessage_logs hrun
    · cases hrun
      exact .nil

theorem broadcastTo_logs {message : Message} {id : Int32} {p p' : PeerConnection}
    (hrun : broadcastTo os message id p = .ok (p', w)) : Logs Bracketed w := by
  unfold broadcastTo at hrun
  split_ifs at hrun
  · obtain ⟨state, -, hrun⟩ := bind_eq_ok.mp hrun
    split_ifs at hrun
    · obtain ⟨v, hsent, hret⟩ := bind_eq_ok.mp hrun
      cases hret
      exact PeerConnection.sendMessage_logs hsent
    · cases hrun
      exact .log ((Bracketed.append (by decide) (unbroken_int32 _)).append (by decide))
  · cases hrun
    exact .nil

theorem broadcastMessage_logs {message : Message} (hrun : h.broadcastMessage os message = .ok w) : Logs Bracketed w := by
  unfold broadcastMessage at hrun
  simp only [assert_bind_eq_ok] at hrun
  obtain ⟨-, -, -, hrun⟩ := hrun
  obtain ⟨⟨t, v⟩, hsweep, hret⟩ := bind_eq_ok.mp hrun
  cases hret
  exact (Table.sweep_sound (P := fun _ _ _ => True) .nil Logs.append
    (fun _ _ _ _ _ hp' => ⟨trivial, broadcastTo_logs hp'⟩) hsweep).2

theorem printPeer_logs {id : Int32} {p p' : PeerConnection} (hrun : printPeer id p = .ok (p', w)) : Logs Bracketed w := by
  unfold printPeer at hrun
  obtain ⟨state, -, hrun⟩ := bind_eq_ok.mp hrun
  split_ifs at hrun
  · cases hrun
    refine .log (((Bracketed.append (by decide) (unbroken_int32 _)).append (by decide)).append ?_)
    cases state <;> decide
  · cases hrun
    refine .log ?_
    cases state <;> decide

theorem printAllPeers_logs (hrun : h.printAllPeers = .ok w) : Logs Bracketed w := by
  obtain ⟨⟨t, v⟩, hsweep, hret⟩ := bind_eq_ok.mp hrun
  cases hret
  exact (Table.sweep_sound (P := fun _ _ _ => True) .nil Logs.append
    (fun _ _ _ _ _ hp' => ⟨trivial, printPeer_logs hp'⟩) hsweep).2

end

end ConnectionHandler

/-! ### The process -/

namespace SatelliteProcess

/-- An address that comes in with the event has no line break in it. -/
def Event.Spelled : Event → Prop
  | .connect _ _ _ ip _ => Unbroken ip
  | .datagram _ _ _ _ ip => Unbroken ip
  | .stray _ _ _ ip => Unbroken ip
  | _ => True

section
variable {p p' : SatelliteProcess} {w : List Effect}

theorem onType_lines {os : Int32 → Os} {m : Message} (hrun : p.onType os m = .ok (p', w)) :
    p'.satellite.handler = p.satellite.handler ∧ Logs Bracketed w := by
  cases onType_typed hrun with
  | acked hack hwaits => exact ⟨rfl, .nil⟩
  | commanded hcommand hsent => exact ⟨rfl, ConnectionHandler.sendMessageToPeer_logs hsent⟩
  | other hack hcommand => exact ⟨rfl, .nil⟩

theorem onSender_lines {now : Nat} {os : Int32 → Os} {m : Message} {ip : String} (hs : p.satellite.handler.Spelled)
    (hip : Unbroken ip) (hrun : p.onSender now os m ip = .ok (p', w)) :
    p'.satellite.handler.Spelled ∧ Logs Bracketed w := by
  obtain ⟨⟨h, sent⟩, hmeet, hret⟩ := bind_eq_ok.mp hrun
  cases hret
  have hline : Logs Bracketed [.log (if m.senderId ≠ 0 then "[NETWORK] Message received from Satellite: " ++ toString m.senderId
      else "[NETWORK] Message received from Ground Control")] := by
    refine .log ?_
    split_ifs
    · exact Bracketed.append (by decide) (unbroken_int32 _)
    · decide
  rcases meet_cases hmeet with ⟨-, hadd⟩ | ⟨-, hbeat, rfl⟩
  · obtain ⟨hh, hsent⟩ := ConnectionHandler.addConnection_logs hs hip hadd
    exact ⟨hh, hsent.append hline⟩
  · exact ⟨ConnectionHandler.heartbeatSat_spelled hs hbeat, hline⟩

theorem acceptConnections_lines {now : Nat} {os : Int32 → Os} {bytes : List UInt8} {ip : String}
    (hs : p.satellite.handler.Spelled) (hip : Unbroken ip) (hrun : p.acceptConnections now os bytes ip = .ok (p', w)) :
    p'.satellite.handler.Spelled ∧ Logs Bracketed w := by
  obtain ⟨⟨buf, message⟩, -, hrun⟩ := bind_eq_ok.mp hrun
  cases message with
  | none =>
    cases hrun
    exact ⟨hs, .nil⟩
  | some m =>
    obtain ⟨⟨p₁, typed⟩, htype, hrun⟩ := bind_eq_ok.mp hrun
    obtain ⟨⟨p₂, met⟩, hsender, hret⟩ := bind_eq_ok.mp hrun
    cases hret
    obtain ⟨hsame, htyped⟩ := onType_lines htype
    have hs₁ : p₁.satellite.handler.Spelled := by
      rw [hsame]
      exact hs
    obtain ⟨hs₂, hmet⟩ := onSender_lines hs₁ hip hsender
    exact ⟨hs₂, htyped.append hmet⟩

/-- **What a step logs starts with a bracket and is one line.** -/
theorem step_lines {e : Event} (hs : p.satellite.handler.Spelled) (he : e.Spelled) (hrun : p.step e = .ok (p', w)) :
    p'.satellite.handler.Spelled ∧ Logs Bracketed w := by
  cases step_moves hrun with
  | connect hadd => exact ConnectionHandler.addConnection_logs hs he hadd
  | datagram haccept => exact acceptConnections_lines hs he haccept
  | stray haccept => exact acceptConnections_lines hs he haccept
  | update hupdate => exact ConnectionHandler.update_logs hs hupdate
  | logLine => exact ⟨hs, .nil⟩
  | broadcast hready hmessage hsent => exact ⟨hs, ConnectionHandler.broadcastMessage_logs hsent⟩
  | dump hready hknown => exact ⟨hs, .nil⟩
  | sendChunk hsending hsent => exact ⟨hs, ConnectionHandler.sendMessageToPeer_logs hsent⟩
  | raise hsending => exact ⟨hs, .nil⟩
  | idle hsender hraise => exact ⟨hs, .nil⟩

end

end SatelliteProcess

end Constellation
