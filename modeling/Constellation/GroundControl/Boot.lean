import Constellation.GroundControl.Admission
import Constellation.GroundControl.Status

/-!
# Loading the configuration

`connectToSatellites` is made to survive a malformed line: what its conversions throw is caught and logged,
and the loop goes on. Not every shape of line takes that path. A line with fewer than three fields is read
past the end of the vector of its fields, a number out of range stops an assertion of `addConnection` or of
`connect`, and the data object of an id the terminal has already is destroyed at once, by a destructor that
waits for a logger which runs as long as the program does.

The boot does what it is made for (`Robust`) exactly if every line that is read either throws or names a
usable satellite that was not opened before (`Fits`), and every satellite that is named is opened some time.
The induction is on the lines; `Loaded` says what the handler and the terminal hold of the lines read so far.
-/

namespace Constellation

namespace Connection

/-- Where the satellite listens. -/
def endpoint (c : Connection) : String × Int32 := (c.ip, c.port)

theorem connect_endpoint {c c' : Connection} {os : Os} {w : List Effect} (h : c.connect os = .ok (c', w)) :
    0 < c.port ∧ c'.endpoint = c.endpoint := by
  obtain ⟨hport, ⟨-, rfl, -⟩ | ⟨-, dest, line, rfl, -⟩ | ⟨-, dest, line, attempt, rfl, -⟩⟩ := connect_cases h
  · exact ⟨hport, rfl⟩
  · exact ⟨hport, rfl⟩
  · exact ⟨hport, rfl⟩

end Connection

namespace GCConnectionHandler

/-- The endpoints of the known satellites. -/
def endpoint (h : GCConnectionHandler) (id : Int32) : Option (String × Int32) :=
  (h.satellites.lookup id).map Connection.endpoint

section
variable {h h' : GCConnectionHandler} {now : Nat} {os : Int32 → Os} {port : Int32} {ip : String} {satId : Int32}
  {w : List Effect}

theorem addConnection_returns_iff (hgc : h.gcPort = Config.GC_PORT) :
    (∃ r, h.addConnection now os port ip satId = .ok r) ↔
      0 ≤ port ∧ 0 < satId ∧ ip ≠ "" ∧ port ≠ Config.GC_PORT ∧ (h.endpoint satId = none → 0 < port) := by
  constructor
  · rintro ⟨⟨h', w⟩, hrun⟩
    obtain ⟨hport, hid, hip, hne⟩ := addConnection_checked hrun
    rw [hgc] at hne
    refine ⟨hport, hid, hip, hne, fun hunknown => ?_⟩
    rcases addConnection_cases hrun with ⟨hknown, -⟩ | ⟨-, c, hconnect, -⟩
    · rw [endpoint, Option.map_eq_none_iff] at hunknown
      exact absurd hknown (AList.lookup_eq_none.mp hunknown)
    · exact (Connection.connect_endpoint hconnect).1
  · rintro ⟨hport, hid, hip, hne, hpos⟩
    have hgcPos : 0 < h.gcPort := by
      rw [hgc]
      decide
    rw [← hgc] at hne
    rw [addConnection, assert_bind hport, assert_bind hid, assert_bind hip, assert_bind (Int32.le_of_lt hgcPos),
      assert_bind hne]
    dsimp only
    by_cases hknown : satId ∈ h.satellites
    · rw [Table.emplace_of_mem hknown]
      exact ⟨_, rfl⟩
    · have hunknown : h.endpoint satId = none := by
        rw [endpoint, AList.lookup_eq_none.mpr hknown]
        rfl
      obtain ⟨c, w, hconnect, -⟩ := Connection.connect_total (c := Connection.new now satId port ip h.gcPort)
        (os satId) (hpos hunknown) hip hgcPos
      rw [Table.emplace_of_not_mem hknown]
      dsimp only
      rw [hconnect]
      exact ⟨_, rfl⟩

theorem addConnection_endpoint (hrun : h.addConnection now os port ip satId = .ok (h', w)) :
    h'.gcPort = h.gcPort ∧ (h.endpoint satId ≠ none → h' = h ∧ w = []) ∧
      ∀ id, h'.endpoint id = if id = satId then (h.endpoint id).or (some (ip, port)) else h.endpoint id := by
  rcases addConnection_cases hrun with ⟨hknown, rfl, rfl⟩ | ⟨hunknown, c, hconnect, rfl⟩
  · refine ⟨rfl, fun _ => ⟨rfl, rfl⟩, fun id => ?_⟩
    split_ifs with hid
    · obtain ⟨c, hc⟩ := Option.isSome_iff_exists.mp (AList.lookup_isSome.mpr hknown)
      rw [hid, endpoint, hc]
      rfl
    · rfl
  · have hnone : h.endpoint satId = none := by
      rw [endpoint, AList.lookup_eq_none.mpr hunknown]
      rfl
    refine ⟨rfl, fun hsome => absurd hnone hsome, fun id => ?_⟩
    split_ifs with hid
    · rw [hid, hnone, endpoint, Table.lookup_insert_modify_self, Option.map_some,
        (Connection.connect_endpoint hconnect).2]
      rfl
    · rw [endpoint, Table.lookup_insert_modify_of_ne _ _ _ hid]
      rfl

end

end GCConnectionHandler

namespace Station

/-! ### The lines of the file -/

/-- A line of the file, and whether the log file of its satellite can be opened then. -/
structure ConfigLine where
  text : List UInt8
  opens : Bool

namespace ConfigLine
variable (l : ConfigLine)

/-- The id a line names, if its fields can be read. -/
def names : Option Int32 := (configFields l.text).toOption.map (·.1)

/-- Whether the line makes an entry of the terminal: it counts then. -/
def counts : Bool := l.names.isSome && l.opens

/-- An id, an address and a port that `addConnection` can use. -/
def Usable : Int32 × String × Int32 → Prop
  | (id, ip, port) => 0 < id ∧ ip ≠ "" ∧ 0 < port ∧ port ≠ Config.GC_PORT

instance : DecidablePred Usable := fun _ => inferInstanceAs (Decidable (_ ∧ _))

/-- What the line gives. -/
def gives : Option (Int32 × String × Int32) := (configFields l.text).toOption.filter (Usable ·)

/-- What the line gives for one satellite. -/
def givesFor (id : Int32) : Option (String × Int32) := (l.gives.filter (·.1 = id)).map (·.2)

end ConfigLine

/-- The lines the loop reads, at line number `n` with `i` lines counted. -/
def linesRead (env : Nat → Surroundings) (n i : Nat) : List (List UInt8) → List ConfigLine
  | [] => []
  | text :: lines =>
    if i < Config.MAX_CONFIG_LINES then
      ⟨text, (env n).opens⟩ ::
        linesRead env (n + 1) (if ConfigLine.counts ⟨text, (env n).opens⟩ then i + 1 else i) lines
    else []

/-- The lines that are read of a file. -/
def readOf (env : Nat → Surroundings) (file : List UInt8) : List ConfigLine := linesRead env 0 0 (getlines 10 file)

/-- The first valid line of a satellite. -/
def winner (ls : List ConfigLine) (id : Int32) : Option (String × Int32) := ls.findSome? (·.givesFor id)

/-- A line names the satellite. -/
def Named (ls : List ConfigLine) (id : Int32) : Prop := ∃ l ∈ ls, l.names = some id

/-- A line names it whose log file can be opened. -/
def Opened (ls : List ConfigLine) (id : Int32) : Prop := ∃ l ∈ ls, l.names = some id ∧ l.opens = true

/-- A line that gives nothing usable leaves everything as it is, and one entry in the log. -/
def SkipsUngiven (env : Nat → Surroundings) (n i : Nat) (st : Station) : List (List UInt8) → Prop
  | [] => True
  | text :: lines =>
    i < Config.MAX_CONFIG_LINES →
      (ConfigLine.gives ⟨text, (env n).opens⟩ = none →
        ∃ what, connectLine st (env n) text = .ok (false, st, [skipped what])) ∧
      ∀ counts st' w, connectLine st (env n) text = .ok (counts, st', w) →
        SkipsUngiven env (n + 1) (if counts then i + 1 else i) st' lines

/-- The boot returns, skips what gives no satellite, takes the first valid line of each satellite, and leaves
the same satellites in the handler and in the terminal. -/
def Robust (env : Nat → Surroundings) (buf : RecvBuffer) (file : List UInt8) : Prop :=
  ∃ st w, connectToSatellites env (init buf) file = .ok (st, w) ∧
    SkipsUngiven env 0 0 (init buf) (getlines 10 file) ∧
    (∀ id, st.control.handler.endpoint id = winner (readOf env file) id) ∧
    ∀ id, id ∈ st.control.handler.satellites ↔ id ∈ st.terminal.sats

/-- The line throws, or it names a usable satellite that was not opened before. A port of zero will do where
the satellite is known and its log file cannot be opened, since nothing is made of the line then. -/
def Fits (before : List ConfigLine) (l : ConfigLine) : Prop :=
  match configFields l.text with
  | .error (.throws _) => True
  | .error _ => False
  | .ok (id, ip, port) =>
    0 < id ∧ ip ≠ "" ∧ 0 ≤ port ∧ port ≠ Config.GC_PORT ∧ (port = 0 → Named before id ∧ l.opens = false) ∧
      (l.opens = true → ¬ Opened before id)

/-! ### What the boot holds of the lines so far -/

/-- The handler has the endpoint of the first line that names a satellite, and the terminal a fresh data
object of each satellite that was opened. -/
structure Loaded (before : List ConfigLine) (st : Station) : Prop where
  gcPort : st.control.handler.gcPort = Config.GC_PORT
  endpoint : ∀ id, st.control.handler.endpoint id = winner before id
  named : ∀ id, st.control.handler.endpoint id ≠ none ↔ Named before id
  opened : ∀ id, id ∈ st.terminal.sats ↔ Opened before id
  fresh : ∀ id d, st.terminal.sats.lookup id = some d → 0 < id ∧ d = SatelliteData.new id

theorem init_loaded (buf : RecvBuffer) : Loaded [] (init buf) where
  gcPort := rfl
  endpoint _ := rfl
  named id := by simp [Named, init, GroundControl.init, GCConnectionHandler.endpoint]
  opened id := by simp [Opened, init]
  fresh id d hd := by cases hd

section
variable {before : List ConfigLine} {l : ConfigLine} {st st' : Station} {env : Surroundings} {text : List UInt8}
  {counts : Bool} {w : List Effect} {id id' : Int32} {ip : String} {port : Int32}

theorem winner_snoc : winner (before ++ [l]) id = (winner before id).or (l.givesFor id) := by
  simp [winner, List.findSome?_append]

theorem named_snoc : Named (before ++ [l]) id ↔ Named before id ∨ l.names = some id := by
  simp [Named, or_and_right, exists_or]

theorem opened_snoc : Opened (before ++ [l]) id ↔ Opened before id ∨ l.names = some id ∧ l.opens = true := by
  simp [Opened, or_and_right, exists_or]

theorem Named.of_opened (h : Opened before id) : Named before id := by
  obtain ⟨l, hl, hid, -⟩ := h
  exact ⟨l, hl, hid⟩

theorem ConfigLine.of_error {why : Stop} (h : configFields l.text = .error why) :
    l.names = none ∧ l.gives = none ∧ l.counts = false ∧ ∀ id, l.givesFor id = none := by
  have hnames : l.names = none := by simp [names, h, Except.toOption]
  have hgives : l.gives = none := by simp [gives, h, Except.toOption]
  refine ⟨hnames, hgives, ?_, fun id => ?_⟩
  · simp [counts, hnames]
  · simp [givesFor, hgives]

theorem ConfigLine.of_ok (h : configFields l.text = .ok (id, ip, port)) :
    l.names = some id ∧ l.counts = l.opens ∧ (l.gives = none ↔ ¬ Usable (id, ip, port)) := by
  have hnames : l.names = some id := by simp [names, h, Except.toOption]
  refine ⟨hnames, ?_, ?_⟩
  · simp [counts, hnames]
  · simp [gives, h, Except.toOption, Option.filter_eq_none_iff]

theorem ConfigLine.givesFor_of_ok (h : configFields l.text = .ok (id, ip, port)) :
    l.givesFor id' = if id' = id ∧ Usable (id, ip, port) then some (ip, port) else none := by
  by_cases husable : Usable (id, ip, port)
  · by_cases hid : id' = id
    · simp [givesFor, gives, h, Except.toOption, Option.filter, husable, hid]
    · simp [givesFor, gives, h, Except.toOption, Option.filter, husable, hid, Ne.symm hid]
  · simp [givesFor, gives, h, Except.toOption, Option.filter, husable]

theorem Loaded.skip (hst : Loaded before st) {why : Stop} (h : configFields l.text = .error why) :
    Loaded (before ++ [l]) st := by
  obtain ⟨hnames, -, -, hgives⟩ := ConfigLine.of_error h
  refine ⟨hst.gcPort, fun id => ?_, fun id => ?_, fun id => ?_, hst.fresh⟩
  · rw [winner_snoc, hgives, Option.or_none]
    exact hst.endpoint id
  · simp [named_snoc, hnames, hst.named id]
  · simp [opened_snoc, hnames, hst.opened id]

theorem Loaded.addConnection (hst : Loaded before st) {now : Nat} {os : Int32 → Os} {handler : GCConnectionHandler}
    (hfields : configFields l.text = .ok (id, ip, port))
    (hadd : st.control.handler.addConnection now os port ip id = .ok (handler, w)) :
    handler.gcPort = Config.GC_PORT ∧ (∀ id, handler.endpoint id = winner (before ++ [l]) id) ∧
      (∀ id, handler.endpoint id ≠ none ↔ Named (before ++ [l]) id) ∧ 0 < id ∧
      (l.gives = none → port = 0 ∧ Named before id ∧ handler = st.control.handler ∧ w = []) := by
  obtain ⟨hport, hid, hip, hne, hpos⟩ := (GCConnectionHandler.addConnection_returns_iff hst.gcPort).mp ⟨_, hadd⟩
  obtain ⟨hgc, hknown, hendpoint⟩ := GCConnectionHandler.addConnection_endpoint hadd
  obtain ⟨hnames, -, hgives⟩ := ConfigLine.of_ok hfields
  -- What is refused silently is the port of zero of a satellite that is known.
  have hzero : ¬ ConfigLine.Usable (id, ip, port) → port = 0 ∧ st.control.handler.endpoint id ≠ none := by
    intro hnot
    have hnpos : ¬ 0 < port := fun hlt => hnot ⟨hid, hip, hlt, hne⟩
    refine ⟨Int32.le_antisymm (Int32.not_lt.mp hnpos) hport, fun hnone => hnpos (hpos hnone)⟩
  refine ⟨hgc.trans hst.gcPort, fun id' => ?_, fun id' => ?_, hid, fun hnone => ?_⟩
  · rw [hendpoint, winner_snoc, ← hst.endpoint, ConfigLine.givesFor_of_ok hfields]
    by_cases heq : id' = id
    · rw [if_pos heq, heq]
      by_cases husable : ConfigLine.Usable (id, ip, port)
      · rw [if_pos ⟨rfl, husable⟩]
      · obtain ⟨e, he⟩ := Option.ne_none_iff_exists'.mp (hzero husable).2
        rw [he, Option.some_or, Option.some_or]
    · rw [if_neg heq, if_neg fun h => heq h.1, Option.or_none]
  · rw [hendpoint, named_snoc, hnames, ← hst.named]
    by_cases heq : id' = id
    · simp [heq]
    · simp [heq, Ne.symm heq]
  · obtain ⟨rfl, hsome⟩ := hzero (hgives.mp hnone)
    exact ⟨rfl, (hst.named id).mp hsome, hknown hsome⟩

theorem addSat_new {t : Terminal} (hid : 0 < id) (hnew : id ∉ t.sats) :
    t.addSat (SatelliteData.new id) = .ok { sats := t.sats.insert id (SatelliteData.new id) } := by
  have hpos : 0 < (SatelliteData.new id).id := toUInt32_pos hid
  have hkey : (SatelliteData.new id).id.toInt32 = id := Int32.toInt32_toUInt32 id
  rw [Terminal.addSat, SatelliteData.getSatId, assert_bind hpos, hkey]
  simp only [pure, Except.pure, ok_bind, Table.emplace_of_not_mem hnew]

theorem connectLine_loaded (hst : Loaded before st)
    (hrun : connectLine st env text = .ok (counts, st', w)) :
    counts = ConfigLine.counts ⟨text, env.opens⟩ ∧ Loaded (before ++ [⟨text, env.opens⟩]) st' := by
  cases hfields : configFields text with
  | error why =>
    obtain ⟨rfl, rfl⟩ := connectLine_skips hfields hrun
    have hfields' : configFields (⟨text, env.opens⟩ : ConfigLine).text = .error why := hfields
    exact ⟨(ConfigLine.of_error hfields').2.2.1.symm, hst.skip hfields'⟩
  | ok fields =>
    obtain ⟨id, ip, port⟩ := fields
    have hfields' : configFields (⟨text, env.opens⟩ : ConfigLine).text = .ok (id, ip, port) := hfields
    obtain ⟨hnames, hcounts, -⟩ := ConfigLine.of_ok hfields'
    rw [connectLine, hfields] at hrun
    dsimp only at hrun
    split at hrun
    · cases hrun
    rename_i handler effects hadd
    obtain ⟨hgc, hendpoint, hnamed, hid, -⟩ := hst.addConnection hfields' hadd
    by_cases hopens : env.opens = false
    · rw [if_pos hopens] at hrun
      cases hrun
      refine ⟨hopens.symm.trans hcounts.symm, hgc, hendpoint, hnamed, fun id' => ?_, hst.fresh⟩
      simp [opened_snoc, hopens, hst.opened id']
    rw [if_neg hopens] at hrun
    by_cases hin : id ∈ st.terminal.sats
    · rw [if_pos hin] at hrun
      cases hrun
    rw [if_neg hin, addSat_new hid hin] at hrun
    cases hrun
    have htrue : env.opens = true := eq_true_of_ne_false hopens
    refine ⟨htrue.symm.trans hcounts.symm, hgc, hendpoint, hnamed, fun id' => ?_, fun id' d hd => ?_⟩
    · rw [opened_snoc, hnames, ← hst.opened id', AList.mem_insert]
      simp [htrue, or_comm, eq_comm]
    · by_cases heq : id' = id
      · rw [heq] at hd ⊢
        rw [AList.lookup_insert] at hd
        cases hd
        exact ⟨hid, rfl⟩
      · rw [AList.lookup_insert_ne heq] at hd
        exact hst.fresh id' d hd

/-- The loop goes on after a line, and if the line gives nothing usable it is skipped. -/
def Handles (st : Station) (env : Surroundings) (text : List UInt8) : Prop :=
  ∃ counts st' w, connectLine st env text = .ok (counts, st', w) ∧
    (ConfigLine.gives ⟨text, env.opens⟩ = none → counts = false ∧ st' = st ∧ ∃ what, w = [skipped what])

/-- **A line is handled exactly if it fits what was read before.** -/
theorem handles_iff (hst : Loaded before st) : Handles st env text ↔ Fits before ⟨text, env.opens⟩ := by
  rw [Handles, Fits]
  cases hfields : configFields text with
  | error why =>
    rw [connectLine, hfields]
    cases why with
    | throws what =>
      dsimp only
      exact ⟨fun _ => trivial, fun _ => ⟨_, _, _, rfl, fun _ => ⟨rfl, rfl, what, rfl⟩⟩⟩
    | asserts condition => simp
    | undefined what => simp
  | ok fields =>
    obtain ⟨id, ip, port⟩ := fields
    have hfields' : configFields (⟨text, env.opens⟩ : ConfigLine).text = .ok (id, ip, port) := hfields
    obtain ⟨-, -, hgives⟩ := ConfigLine.of_ok hfields'
    have hreturns : (∃ r, st.control.handler.addConnection env.now env.os port ip id = .ok r) ↔ _ :=
      GCConnectionHandler.addConnection_returns_iff hst.gcPort
    rw [connectLine, hfields]
    dsimp only
    constructor
    · rintro ⟨counts, st', w, hrun, hskips⟩
      split at hrun
      · cases hrun
      rename_i handler effects hadd
      obtain ⟨hport, hid, hip, hne, hpos⟩ := hreturns.mp ⟨_, hadd⟩
      refine ⟨hid, hip, hport, hne, ?_, ?_⟩
      · rintro rfl
        have hnone := hgives.mpr fun husable => absurd husable.2.2.1 (by decide)
        refine ⟨(hst.addConnection hfields' hadd).2.2.2.2 hnone |>.2.1, ?_⟩
        by_contra hopens
        -- The line would count then.
        have hcounts := (hskips hnone).1
        rw [if_neg hopens] at hrun
        split_ifs at hrun
        split at hrun
        · cases hrun
        · cases hrun
          cases hcounts
      · intro hopens hagain
        have hin : id ∈ st.terminal.sats := (hst.opened id).mpr hagain
        rw [if_neg (by simp [hopens]), if_pos hin] at hrun
        cases hrun
    · rintro ⟨hid, hip, hport, hne, hzero, honce⟩
      have hpos : st.control.handler.endpoint id = none → 0 < port := by
        intro hnone
        apply Int32.lt_of_le_of_ne hport
        intro heq
        exact (hst.named id).mpr (hzero heq.symm).1 hnone
      obtain ⟨⟨handler, effects⟩, hadd⟩ := hreturns.mpr ⟨hport, hid, hip, hne, hpos⟩
      rw [hadd]
      dsimp only
      by_cases hopens : env.opens = false
      · rw [if_pos hopens]
        refine ⟨_, _, _, rfl, fun hnone => ⟨rfl, ?_⟩⟩
        obtain ⟨-, -, rfl, rfl⟩ := (hst.addConnection hfields' hadd).2.2.2.2 hnone
        exact ⟨rfl, _, rfl⟩
      · have htrue : env.opens = true := eq_true_of_ne_false hopens
        have hnew : id ∉ st.terminal.sats := fun hin => honce htrue ((hst.opened id).mp hin)
        rw [if_neg hopens, if_neg hnew, addSat_new hid hnew]
        refine ⟨_, _, _, rfl, fun hnone => ?_⟩
        obtain ⟨rfl, -⟩ := (hst.addConnection hfields' hadd).2.2.2.2 hnone
        exact absurd (hzero rfl).2 hopens

end

/-! ### The loop over the lines -/

section
variable {before : List ConfigLine} {st st' : Station} {env : Nat → Surroundings} {n i : Nat}
  {lines : List (List UInt8)} {w : List Effect}

theorem connectLines_cons_ok {text : List UInt8} (hlimit : i < Config.MAX_CONFIG_LINES) :
    connectLines env n i st (text :: lines) = .ok (st', w) ↔
      ∃ counts st₁ w₁ w₂, connectLine st (env n) text = .ok (counts, st₁, w₁) ∧
        connectLines env (n + 1) (if counts then i + 1 else i) st₁ lines = .ok (st', w₂) ∧ w = w₁ ++ w₂ := by
  rw [connectLines, if_pos hlimit]
  constructor
  · intro h
    split at h
    · cases h
    rename_i counts st₁ w₁ hline
    split at h
    · cases h
    rename_i st₂ w₂ hrest
    cases h
    exact ⟨counts, st₁, w₁, w₂, hline, hrest, rfl⟩
  · rintro ⟨counts, st₁, w₁, w₂, hline, hrest, rfl⟩
    rw [hline]
    simp only [hrest]

theorem connectLines_loaded (hst : Loaded before st) (hrun : connectLines env n i st lines = .ok (st', w)) :
    Loaded (before ++ linesRead env n i lines) st' := by
  induction lines generalizing before n i st w with
  | nil =>
    cases hrun
    rwa [linesRead, List.append_nil]
  | cons text lines ih =>
    rw [linesRead]
    by_cases hlimit : i < Config.MAX_CONFIG_LINES
    · obtain ⟨counts, st₁, w₁, w₂, hline, hrest, -⟩ := (connectLines_cons_ok hlimit).mp hrun
      obtain ⟨rfl, hst₁⟩ := connectLine_loaded hst hline
      rw [if_pos hlimit, List.append_cons]
      exact ih hst₁ hrest
    · rw [connectLines, if_neg hlimit] at hrun
      cases hrun
      rwa [if_neg hlimit, List.append_nil]

/-- The loop returns and skips what gives nothing exactly if every line fits those before it. -/
theorem connectLines_handles_iff (hst : Loaded before st) :
    (∃ st' w, connectLines env n i st lines = .ok (st', w)) ∧ SkipsUngiven env n i st lines ↔
      Along (fun pre => Fits (before ++ pre)) (linesRead env n i lines) := by
  induction lines generalizing before n i st with
  | nil => exact ⟨fun _ => along_nil _, fun _ => ⟨⟨_, _, rfl⟩, trivial⟩⟩
  | cons text lines ih =>
    rw [linesRead, SkipsUngiven]
    by_cases hlimit : i < Config.MAX_CONFIG_LINES
    swap
    · rw [connectLines, if_neg hlimit, if_neg hlimit]
      exact ⟨fun _ => along_nil _, fun _ => ⟨⟨_, _, rfl⟩, fun h => absurd h hlimit⟩⟩
    simp only [connectLines_cons_ok hlimit]
    rw [if_pos hlimit, along_cons, List.append_nil, ← handles_iff hst]
    have hnext : ∀ {counts st₁ w₁}, connectLine st (env n) text = .ok (counts, st₁, w₁) →
        ((∃ st' w, connectLines env (n + 1) (if counts then i + 1 else i) st₁ lines = .ok (st', w)) ∧
            SkipsUngiven env (n + 1) (if counts then i + 1 else i) st₁ lines ↔
          Along (fun pre => Fits (before ++ ⟨text, (env n).opens⟩ :: pre))
            (linesRead env (n + 1) (if ConfigLine.counts ⟨text, (env n).opens⟩ then i + 1 else i) lines)) := by
      intro counts st₁ w₁ hline
      obtain ⟨rfl, hst₁⟩ := connectLine_loaded hst hline
      rw [ih hst₁]
      simp
    constructor
    · rintro ⟨⟨st', w, counts, st₁, w₁, w₂, hline, hrest, -⟩, hskips⟩
      obtain ⟨hgives, hall⟩ := hskips hlimit
      refine ⟨⟨counts, st₁, w₁, hline, fun hnone => ?_⟩, (hnext hline).mp ⟨⟨st', w₂, hrest⟩, hall _ _ _ hline⟩⟩
      obtain ⟨what, hwhat⟩ := hgives hnone
      rw [hline] at hwhat
      cases hwhat
      exact ⟨rfl, rfl, what, rfl⟩
    · rintro ⟨⟨counts, st₁, w₁, hline, hgives⟩, hall⟩
      obtain ⟨⟨st', w₂, hrest⟩, hskips⟩ := (hnext hline).mpr hall
      refine ⟨⟨st', _, counts, st₁, w₁, w₂, hline, hrest, rfl⟩, fun _ => ⟨fun hnone => ?_, ?_⟩⟩
      · obtain ⟨rfl, rfl, what, rfl⟩ := hgives hnone
        exact ⟨what, hline⟩
      · intro counts' st₁' w₁' hline'
        rw [hline] at hline'
        cases hline'
        exact hskips

end

/-- **When the boot is robust.** It is exactly if every line that is read throws or names a usable satellite that
was not opened before, and the log file of every satellite that is named can be opened at one of its lines. -/
theorem robust_iff (env : Nat → Surroundings) (buf : RecvBuffer) (file : List UInt8) :
    Robust env buf file ↔
      Along Fits (readOf env file) ∧ ∀ id, Named (readOf env file) id → Opened (readOf env file) id := by
  have hloop : (∃ st' w, connectLines env 0 0 (init buf) (getlines 10 file) = .ok (st', w)) ∧
      SkipsUngiven env 0 0 (init buf) (getlines 10 file) ↔ _ := connectLines_handles_iff (init_loaded buf)
  simp only [List.nil_append] at hloop
  have hids : ∀ st w, connectToSatellites env (init buf) file = .ok (st, w) →
      ((∀ id, id ∈ st.control.handler.satellites ↔ id ∈ st.terminal.sats) ↔
        ∀ id, Named (readOf env file) id → Opened (readOf env file) id) := by
    intro st w hrun
    have hst := connectLines_loaded (init_loaded buf) hrun
    rw [List.nil_append] at hst
    apply forall_congr'
    intro id
    have hknown : id ∈ st.control.handler.satellites ↔ Named (readOf env file) id := by
      rw [readOf, ← hst.named id, GCConnectionHandler.endpoint, ← AList.lookup_isSome, Option.isSome_iff_ne_none]
      simp
    rw [hknown, hst.opened id]
    exact ⟨Iff.mp, fun h => ⟨h, Named.of_opened⟩⟩
  constructor
  · rintro ⟨st, w, hrun, hskips, -, hsame⟩
    exact ⟨hloop.mp ⟨⟨st, w, hrun⟩, hskips⟩, (hids st w hrun).mp hsame⟩
  · rintro ⟨hfits, hopened⟩
    obtain ⟨⟨st, w, hrun⟩, hskips⟩ := hloop.mpr hfits
    have hst := connectLines_loaded (init_loaded buf) hrun
    rw [List.nil_append] at hst
    exact ⟨st, w, hrun, hskips, hst.endpoint, (hids st w hrun).mpr hopened⟩

/-- An empty line has no first field. -/
theorem blankLine_not_robust : ¬ Robust calm (filled 0) [10] := by
  rintro ⟨st, w, hrun, -⟩
  have hstop : connectToSatellites calm (init (filled 0)) [10] = .error (.stops (.undefined "split[0]")) := rfl
  rw [hstop] at hrun
  cases hrun

/-- A repeated line makes the boot wait for the logger of the data object it gives up again. -/
example : connectToSatellites calm (init (filled 0)) (oneLine ++ oneLine) = .error (.hangs "Logger::log") := rfl

end Station

end Constellation
