import Constellation.GroundControl.AddressBook
import Constellation.GroundControl.Boot

/-!
# After the boot

Reading the configuration file is a run of ground control that connects one satellite after the other
(`boot_run`). From then on every satellite of the file stays in the map of the handler under the address that
the file gives (`take_has`), so that a message to it leaves for this address.
-/

namespace Constellation

/-! ### Where a satellite is reached -/

namespace GCConnectionHandler

/-- The satellite is in the map, at this address. -/
def Has (home : Home) (id : Int32) (h : GCConnectionHandler) : Prop :=
  h.gcPort = Config.GC_PORT ∧ ∃ c, h.satellites.lookup id = some c ∧ c.At Config.GC_PORT home id

section
variable {home : Home} {id satId : Int32} {h h' : GCConnectionHandler} {os : Int32 → Os} {now : Nat} {w : List Effect}

theorem addConnection_has {port : Int32} {ip : String} (hh : h.Has home id)
    (hrun : h.addConnection now os port ip satId = .ok (h', w)) : h'.Has home id := by
  obtain ⟨-, rfl, -⟩ | ⟨hout, c, -, rfl⟩ := addConnection_cases hrun
  · exact hh
  · obtain ⟨hport, c', hc', hat⟩ := hh
    have hne : id ≠ satId := by
      rintro rfl
      rw [AList.lookup_eq_none.mpr hout] at hc'
      cases hc'
    exact ⟨hport, c', (Table.lookup_insert_modify_of_ne _ _ _ hne).trans hc', hat⟩

theorem addConnection_has_self {port : Int32} {ip : String} (hgc : h.gcPort = Config.GC_PORT)
    (hnew : h.satellites.lookup satId = none) (hpton : (os satId).inet_pton = true)
    (hrun : h.addConnection now os port ip satId = .ok (h', w)) : h'.Has ⟨ip, port⟩ satId := by
  obtain ⟨hin, -, -⟩ | ⟨-, c, hconnect, rfl⟩ := addConnection_cases hrun
  · exact absurd hin (AList.lookup_eq_none.mp hnew)
  · have hs : (Connection.new now satId port ip h.gcPort).Settled Config.GC_PORT satId := ⟨rfl, hgc⟩
    have hat := (Connection.connect_at hs (show _ = (⟨ip, port⟩ : Home).ip from rfl) rfl hpton hconnect).1
    exact ⟨hgc, c, Table.lookup_insert_modify_self _ _ _ _, hat⟩

theorem heartbeatSat_has (hh : h.Has home id) (hrun : h.heartbeatSat now satId = .ok h') : h'.Has home id := by
  obtain ⟨-, hret⟩ := assert_bind_eq_ok.mp hrun
  cases hret
  obtain ⟨hport, c, hc, hat⟩ := hh
  refine ⟨hport, ?_⟩
  dsimp only
  by_cases hne : id = satId
  · subst hne
    refine ⟨(c.heartbeat now).markConnected, ?_, ⟨hat.settled.id_eq, hat.settled.gcPort_eq⟩, hat.ip, hat.port, hat.addr⟩
    rw [Table.lookup_modify_self, hc]
    rfl
  · exact ⟨c, (Table.lookup_modify_of_ne _ _ hne).trans hc, hat⟩

theorem update_has (hpton : (os id).inet_pton = true) (hh : h.Has home id) (hrun : h.update now os = .ok (h', w)) :
    h'.Has home id := by
  obtain ⟨⟨t, v⟩, hsweep, hret⟩ := bind_eq_ok.mp hrun
  cases hret
  obtain ⟨hport, c, hc, hat⟩ := hh
  obtain ⟨hentries, -⟩ := Table.sweep_sound
    (P := fun k c c' => k = id → c.At Config.GC_PORT home k → c'.At Config.GC_PORT home k) (Q := fun _ => True)
    trivial (fun _ _ => trivial) (fun k c c' w _ hf => by
      refine ⟨?_, trivial⟩
      rintro rfl hat
      exact (updateSat_at hat hpton hf).1) hsweep
  have hrel := hentries id
  rw [hc] at hrel
  cases hafter : t.lookup id with
  | none =>
    rw [hafter] at hrel
    cases hrel
  | some c' =>
    rw [hafter] at hrel
    cases hrel with
    | some hkept => exact ⟨hport, c', hafter, hkept rfl hat⟩

end

end GCConnectionHandler

namespace GroundControl

/-- `inet_pton()` converts what the step gives it. -/
def Input.Converts : Input → Prop
  | .config _ os _ _ _ => ∀ i, (os i).inet_pton = true
  | .datagram _ os _ _ => ∀ i, (os i).inet_pton = true
  | .update _ os => ∀ i, (os i).inet_pton = true
  | .command _ _ => True

theorem take_has {home : Home} {id : Int32} {g g' : GroundControl} {e : Input} {w : List Effect}
    (hg : g.handler.Has home id) (he : e.Converts) (hrun : g.take e = .ok (g', w)) : g'.handler.Has home id := by
  cases e with
  | config now os port ip satId =>
    obtain ⟨⟨h, v⟩, hadd, hret⟩ := bind_eq_ok.mp hrun
    cases hret
    exact GCConnectionHandler.addConnection_has hg hadd
  | update now os =>
    obtain ⟨⟨h, v⟩, hupdate, hret⟩ := bind_eq_ok.mp hrun
    cases hret
    exact GCConnectionHandler.update_has (he id) hg hupdate
  | command os com =>
    obtain ⟨v, -, hret⟩ := bind_eq_ok.mp hrun
    cases hret
    exact hg
  | datagram now os bytes ip =>
    obtain ⟨⟨buf, message⟩, -, hrest⟩ := bind_eq_ok.mp hrun
    cases message with
    | none =>
      cases hrest
      exact hg
    | some m =>
      obtain ⟨⟨h, v₁⟩, hadd, hrest⟩ := bind_eq_ok.mp hrest
      obtain ⟨⟨r, v₂⟩, -, hret⟩ := bind_eq_ok.mp hrest
      cases hret
      obtain ⟨-, ⟨-, h₁, v, hnew, hbeat, -⟩ | ⟨-, out, hbeat, -, -⟩⟩ := Receiver.addConnection_cases hadd
      · exact GCConnectionHandler.heartbeatSat_has (GCConnectionHandler.addConnection_has hg hnew) hbeat
      · exact GCConnectionHandler.heartbeatSat_has hg hbeat

end GroundControl

namespace Station

/-- What a line does to ground control: nothing but to log something, or to connect the satellite it gives. -/
theorem connectLine_control {st st' : Station} {env : Surroundings} {line : List UInt8} {counts : Bool} {w : List Effect}
    (hrun : connectLine st env line = .ok (counts, st', w)) :
    (st'.control = st.control ∧ ∃ what, w = [skipped what]) ∨
      ∃ id ip port v, configFields line = .ok (id, ip, port) ∧
        st.control.step (.config env.now env.os port ip id) = .ok (st'.control, v) ∧
        (w = v ∨ ∃ what, w = v ++ [skipped what]) := by
  rw [connectLine] at hrun
  split at hrun
  · cases hrun
    exact .inl ⟨rfl, _, rfl⟩
  · cases hrun
  · rename_i id ip port hfields
    split at hrun
    · cases hrun
    · rename_i handler effects hadd
      refine .inr ⟨id, ip, port, effects, hfields, ?_⟩
      rw [GroundControl.step, hadd]
      dsimp only at hrun
      by_cases hopens : env.opens = false
      · rw [if_pos hopens] at hrun
        cases hrun
        exact ⟨rfl, .inr ⟨_, rfl⟩⟩
      rw [if_neg hopens] at hrun
      split at hrun
      · cases hrun
      split at hrun
      · cases hrun
      · cases hrun
        exact ⟨rfl, .inl rfl⟩

/-- The event that connects the satellite of a line. -/
def Connects (ls : List ConfigLine) (env : Nat → Surroundings) (e : GroundControl.Event) : Prop :=
  ∃ l ∈ ls, ∃ n id ip port, configFields l.text = .ok (id, ip, port) ∧ e = .config (env n).now (env n).os port ip id

/-- **The boot is a run of ground control** that connects satellites of the file, but for what it logs. -/
theorem connectLines_run {env : Nat → Surroundings} {before : List ConfigLine} {lines : List (List UInt8)} {n i : Nat}
    {st st' : Station} {w : List Effect} (hst : Loaded before st)
    (hrun : connectLines env n i st lines = .ok (st', w)) :
    ∃ es v, run GroundControl.step st.control es = .ok (st'.control, v) ∧
      (∀ e ∈ es, Connects (linesRead env n i lines) env e) ∧
      ∀ {β : Type} (f : Effect → Option β), (∀ line, f (.log line) = none) → w.filterMap f = v.filterMap f := by
  induction lines generalizing before n i st w with
  | nil =>
    cases hrun
    exact ⟨[], [], rfl, fun e he => absurd he List.not_mem_nil, fun f _ => rfl⟩
  | cons line lines ih =>
    by_cases hlimit : i < Config.MAX_CONFIG_LINES
    · obtain ⟨counts, st₁, w₁, w₂, hline, hrest, rfl⟩ := (connectLines_cons_ok hlimit).mp hrun
      obtain ⟨rfl, hst₁⟩ := connectLine_loaded hst hline
      obtain ⟨es, v, hes, hconnects, hview⟩ := ih hst₁ hrest
      rw [linesRead, if_pos hlimit]
      have hlater : ∀ e ∈ es, Connects (⟨line, (env n).opens⟩ ::
          linesRead env (n + 1) (if ConfigLine.counts ⟨line, (env n).opens⟩ then i + 1 else i) lines) env e := by
        intro e he
        obtain ⟨l, hl, hrest⟩ := hconnects e he
        exact ⟨l, List.mem_cons_of_mem _ hl, hrest⟩
      rcases connectLine_control hline with ⟨hsame, what, rfl⟩ | ⟨id, ip, port, v₁, hfields, hstep, hw⟩
      · rw [hsame] at hes
        refine ⟨es, v, hes, hlater, fun f hf => ?_⟩
        rw [List.filterMap_append, hview f hf]
        simp [skipped, hf]
      · refine ⟨.config (env n).now (env n).os port ip id :: es, v₁ ++ v,
          run_cons_ok.mpr ⟨st₁.control, v₁, v, hstep, hes, rfl⟩, ?_, fun f hf => ?_⟩
        · intro e he
          rcases List.mem_cons.mp he with rfl | he
          · exact ⟨_, List.mem_cons_self, n, id, ip, port, hfields, rfl⟩
          · exact hlater e he
        · rw [List.filterMap_append, List.filterMap_append, hview f hf]
          rcases hw with rfl | ⟨what, rfl⟩
          · rfl
          · simp [skipped, hf]
    · rw [connectLines, if_neg hlimit] at hrun
      cases hrun
      exact ⟨[], [], rfl, fun e he => absurd he List.not_mem_nil, fun f _ => rfl⟩

theorem boot_has {env : Nat → Surroundings} {buf : RecvBuffer} {file : List UInt8} {st : Station} {w : List Effect}
    (hpton : ∀ n i, ((env n).os i).inet_pton = true) (hboot : connectToSatellites env (init buf) file = .ok (st, w))
    {id : Int32} {ip : String} {port : Int32} (hwinner : winner (readOf env file) id = some (ip, port)) :
    st.control.handler.Has ⟨ip, port⟩ id := by
  have hloaded := connectLines_loaded (init_loaded buf) hboot
  obtain ⟨es, v, hes, hconnects, -⟩ := connectLines_run (init_loaded buf) hboot
  have hplaced : (∀ e ∈ es, Connects (linesRead env 0 0 (getlines 10 file)) env e) → st.control.handler.gcPort = Config.GC_PORT ∧
      ∀ id ip port, st.control.handler.endpoint id = some (ip, port) → st.control.handler.Has ⟨ip, port⟩ id := by
    refine run_induction (P := fun es g _ => (∀ e ∈ es, Connects (linesRead env 0 0 (getlines 10 file)) env e) →
      g.handler.gcPort = Config.GC_PORT ∧
        ∀ id ip port, g.handler.endpoint id = some (ip, port) → g.handler.Has ⟨ip, port⟩ id) ?_ ?_ hes
    · exact fun _ => ⟨rfl, fun id ip port h => by cases h⟩
    · intro es g w e g' w' _ ih hstep hall
      obtain ⟨hgc, hplaced⟩ := ih fun e he => hall e (List.mem_append_left _ he)
      obtain ⟨l, -, n, satId, ip, port, -, rfl⟩ := hall e (List.mem_append_right _ List.mem_cons_self)
      obtain ⟨⟨h, v⟩, hadd, hret⟩ := bind_eq_ok.mp hstep
      cases hret
      obtain ⟨hport, -, hendpoint⟩ := GCConnectionHandler.addConnection_endpoint hadd
      refine ⟨hport.trans hgc, fun id ip' port' hid => ?_⟩
      dsimp only at hid
      rw [hendpoint] at hid
      cases hknown : g.handler.endpoint id with
      | some e =>
        have hsame : e = (ip', port') := by
          rw [hknown] at hid
          split_ifs at hid <;> simpa using hid
        exact GCConnectionHandler.addConnection_has (hplaced id ip' port' (by rw [hknown, hsame])) hadd
      | none =>
        rw [hknown] at hid
        split_ifs at hid with hself
        cases hid
        subst hself
        rw [GCConnectionHandler.endpoint, Option.map_eq_none_iff] at hknown
        exact GCConnectionHandler.addConnection_has_self hgc hknown (hpton n id) hadd
  obtain ⟨-, hhas⟩ := hplaced hconnects
  refine hhas id ip port ?_
  rw [hloaded.endpoint]
  exact hwinner

end Station

end Constellation
