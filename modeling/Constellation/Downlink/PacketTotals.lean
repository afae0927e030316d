import Constellation.Downlink.Recovery
import Constellation.GroundControl.Boot

/-!
# The packet totals of the terminal

The parser counts the network lines of every dump, and the terminal adds the counts to the totals of the
satellite. But the terminal takes them together with the position: a result that carries no position does not
have its `dump_msg` set, and its counts are dropped. So the totals are exact as long as every dump that counts
something also has a position line (`packetTotals_iff`), and where the log is cut decides it.

The queue is taken up one result at a time. `Report` is what a result was made of: the lines of the log that
were dumped, or a status alone.
-/

namespace Constellation

/-- What a result of the output queue is made of. -/
inductive Report
  /-- The lines of a dump, delivered whole. -/
  | dump (id : Int32) (es : List LogEntry)
  | status (id : Int32) (alive : Bool)

namespace Report

/-- The starts of the lines that are counted. -/
def receivedStart : List UInt8 := ascii "[NETWORK] Message received from "

def sentStart : List UInt8 := ascii "[NETWORK] Sent message to "

def id : Report → Int32
  | dump id _ => id
  | status id _ => id

/-- The calls of the decoder: by `handleFileDump`, or about the status. -/
def output : Report → Except Stop SatOutput
  | dump id es => Parser.dataDecoder id (es.map LogEntry.line).flatten true
  | status id alive => Parser.dataDecoder id [] alive

/-- The lines of the satellite with this start. -/
def count (start : List UInt8) (sat : Int32) : Report → Nat
  | dump id es => if id = sat then es.countP fun e => start <+: e.msg else 0
  | status _ _ => 0

/-- There is a position line in the dump. -/
def Positioned : Report → Prop
  | dump _ es => ∃ e ∈ es, ascii "SAT " <+: e.msg
  | status _ _ => False

instance : DecidablePred Positioned
  | dump _ es => inferInstanceAs (Decidable (∃ e ∈ es, _))
  | status _ _ => inferInstanceAs (Decidable False)

/-- All lines of the satellite with this start. -/
def total (start : List UInt8) (sat : Int32) (reports : List Report) : Nat := (reports.map (count start sat)).sum

/-- Those that stand in a dump with a position. -/
def counted (start : List UInt8) (sat : Int32) (reports : List Report) : Nat :=
  total start sat (reports.filter (Positioned ·))

section
variable {start : List UInt8} {sat : Int32} {reports : List Report}

theorem total_cons {r : Report} : total start sat (r :: reports) = r.count start sat + total start sat reports := by
  simp [total]

theorem counted_cons {r : Report} : counted start sat (r :: reports) =
    (if r.Positioned then r.count start sat else 0) + counted start sat reports := by
  rw [counted, List.filter_cons]
  simp only [decide_eq_true_eq]
  split_ifs
  · exact total_cons
  · exact (Nat.zero_add _).symm

theorem counted_le : counted start sat reports ≤ total start sat reports := by
  induction reports with
  | nil => exact Nat.le_refl _
  | cons r reports ih =>
    rw [counted_cons, total_cons]
    split_ifs <;> omega

theorem counted_eq_total : counted start sat reports = total start sat reports ↔
    ∀ r ∈ reports, ¬ r.Positioned → r.count start sat = 0 := by
  induction reports with
  | nil => simp [counted, total]
  | cons r reports ih =>
    rw [counted_cons, total_cons, List.forall_mem_cons, ← ih]
    have hle : counted start sat reports ≤ total start sat reports := counted_le
    by_cases hpos : r.Positioned
    · simp only [hpos, if_true, not_true, false_imp_iff, true_and]
      omega
    · simp only [hpos, if_false, not_false_eq_true, true_imp_iff]
      omega

theorem output_ok (sat : Int32) {r : Report} (hid : 0 < r.id) : ∃ out, r.output = .ok out ∧ out.id = r.id.toUInt32 ∧
    (out.dump_msg = 1 ↔ r.Positioned) ∧
    (r.id = sat → out.packetsReceived = r.count receivedStart sat ∧ out.packetsSent = r.count sentStart sat) := by
  cases r with
  | dump id es =>
    obtain ⟨out, hout, hreceived, hsent, hdump, -⟩ := Parser.dataDecoder_log hid es true
    refine ⟨out, hout, (Parser.dataDecoder_alive hout).2, hdump, fun hsat => ?_⟩
    have hself : ∀ start, count start sat (dump id es) = es.countP fun e => start <+: e.msg := fun start => if_pos hsat
    rw [hself, hself]
    exact ⟨hreceived, hsent⟩
  | status id alive =>
    refine ⟨_, Parser.dataDecoder_status hid alive, rfl, ?_, fun _ => ⟨rfl, rfl⟩⟩
    simp [Positioned]

theorem count_other {r : Report} (h : r.id ≠ sat) : r.count start sat = 0 := by
  cases r with
  | dump id es => exact if_neg h
  | status id alive => rfl

end

end Report

namespace Terminal

/-- What `markAlive` asks of the data objects. -/
def Sound (t : Terminal) : Prop := ∀ id d, t.sats.lookup id = some d → 0 < d.id

theorem absorb_packets {d : SatelliteData} (hd : 0 < d.id) (msg : SatOutput) :
    ∃ d', absorb d msg = .ok d' ∧ d'.id = d.id ∧
      d'.packetsReceived = d.packetsReceived + (if msg.dump_msg = 1 then msg.packetsReceived else 0) ∧
      d'.packetsSent = d.packetsSent + (if msg.dump_msg = 1 then msg.packetsSent else 0) := by
  rw [absorb, SatelliteData.markAlive]
  by_cases hchunks : msg.chunks = [] <;> by_cases hdump : msg.dump_msg = 1
  all_goals
    simp only [hchunks, hdump, ne_eq, not_true, not_false_eq_true, if_true, if_false,
      SatelliteData.updateVals, SatelliteData.updatePackets]
    rw [assert_bind hd]
    exact ⟨_, rfl, rfl, rfl, rfl⟩

theorem runQueueThread_packets {t : Terminal} (ht : t.Sound) (msg : SatOutput) :
    ∃ t', t.runQueueThread msg = .ok t' ∧ t'.Sound ∧ ∀ sat d, t.sats.lookup sat = some d →
      ∃ d', t'.sats.lookup sat = some d' ∧
        d'.packetsReceived = d.packetsReceived +
          (if msg.id = sat.toUInt32 ∧ msg.dump_msg = 1 then msg.packetsReceived else 0) ∧
        d'.packetsSent = d.packetsSent + (if msg.id = sat.toUInt32 ∧ msg.dump_msg = 1 then msg.packetsSent else 0) := by
  have hreturns : ∃ t', t.runQueueThread msg = .ok t' ∧ t'.Sound := by
    rw [runQueueThread]
    cases hd : t.sats.lookup msg.id.toInt32 with
    | none => exact ⟨t, rfl, ht⟩
    | some d =>
      obtain ⟨d', hd', hid, -⟩ := absorb_packets (ht _ d hd) msg
      dsimp only
      rw [hd', ok_bind]
      refine ⟨_, rfl, fun id e he => ?_⟩
      by_cases hself : id = msg.id.toInt32
      · rw [hself, Table.lookup_modify_self, hd] at he
        cases he
        rw [hid]
        exact ht _ d hd
      · rw [Table.lookup_modify_of_ne _ _ hself] at he
        exact ht id e he
  obtain ⟨t', hrun, ht'⟩ := hreturns
  refine ⟨t', hrun, ht', fun sat d hd => ?_⟩
  by_cases hid : msg.id = sat.toUInt32
  · obtain ⟨d', habsorb, hd'⟩ := runQueueThread_self hrun hid hd
    obtain ⟨d'', habsorb', -, hreceived, hsent⟩ := absorb_packets (ht sat d hd) msg
    rw [habsorb] at habsorb'
    cases habsorb'
    refine ⟨d', hd', ?_, ?_⟩
    · simpa [hid] using hreceived
    · simpa [hid] using hsent
  · refine ⟨d, (runQueueThread_others hrun hid).trans hd, ?_, ?_⟩
    · simp [hid]
    · simp [hid]

/-- The queue thread takes up the results of all reports. -/
def process (t : Terminal) : List Report → Except Stop Terminal
  | [] => .ok t
  | r :: reports => do
    let msg ← r.output
    let t ← t.runQueueThread msg
    t.process reports

open Report in
theorem process_packets {t : Terminal} (ht : t.Sound) {reports : List Report} (hids : ∀ r ∈ reports, 0 < r.id) :
    ∃ t', t.process reports = .ok t' ∧ ∀ sat d, t.sats.lookup sat = some d →
      ∃ d', t'.sats.lookup sat = some d' ∧
        d'.packetsReceived = d.packetsReceived + counted receivedStart sat reports ∧
        d'.packetsSent = d.packetsSent + counted sentStart sat reports := by
  induction reports generalizing t with
  | nil => exact ⟨t, rfl, fun sat d hd => ⟨d, hd, rfl, rfl⟩⟩
  | cons r reports ih =>
    obtain ⟨hid, hrest⟩ := List.forall_mem_cons.mp hids
    obtain ⟨msg, hmsg, hmsgId, -⟩ := output_ok r.id hid
    obtain ⟨t₁, hround, ht₁, hlookup⟩ := runQueueThread_packets ht msg
    obtain ⟨t', hprocess, hlookup'⟩ := ih ht₁ hrest
    refine ⟨t', ?_, fun sat d hd => ?_⟩
    · rw [process, hmsg, ok_bind, hround, ok_bind]
      exact hprocess
    obtain ⟨d₁, hd₁, hreceived₁, hsent₁⟩ := hlookup sat d hd
    obtain ⟨d', hd', hreceived, hsent⟩ := hlookup' sat d₁ hd₁
    obtain ⟨msg', hmsg', -, hdump, hcounts⟩ := output_ok sat hid
    rw [hmsg] at hmsg'
    cases hmsg'
    -- A result is added where it is the satellite's own and has a position.
    have hown : msg.id = sat.toUInt32 ↔ r.id = sat := by
      rw [hmsgId]
      exact ⟨fun h => by simpa using congrArg UInt32.toInt32 h, congrArg Int32.toUInt32⟩
    refine ⟨d', hd', ?_, ?_⟩
    · rw [hreceived, hreceived₁, counted_cons, Nat.add_assoc]
      by_cases hself : r.id = sat
      · simp [hown, hdump, hself, (hcounts hself).1]
      · simp [hown, hself, count_other hself]
    · rw [hsent, hsent₁, counted_cons, Nat.add_assoc]
      by_cases hself : r.id = sat
      · simp [hown, hdump, hself, (hcounts hself).2]
      · simp [hown, hself, count_other hself]

end Terminal

namespace Station

open Report

variable {env : Nat → Surroundings} {buf : RecvBuffer} {file : List UInt8} {st : Station} {w : List Effect} {id : Int32}

theorem booted_terminal (hboot : connectToSatellites env (init buf) file = .ok (st, w)) :
    st.terminal.Sound ∧ ∀ id ∈ configured env file, st.terminal.sats.lookup id = some (SatelliteData.new id) := by
  have hloaded := connectLines_loaded (init_loaded buf) hboot
  obtain ⟨-, -, hlisted⟩ := connectLines_booting (init_booting buf) hboot
  refine ⟨fun id d hd => ?_, fun id hid => ?_⟩
  · obtain ⟨hpos, rfl⟩ := hloaded.fresh id d hd
    exact toUInt32_pos hpos
  · obtain ⟨d, hd⟩ := Option.isSome_iff_exists.mp (AList.lookup_isSome.mpr (hlisted id hid))
    rw [hd, (hloaded.fresh id d hd).2]

theorem booted_totals (hboot : connectToSatellites env (init buf) file = .ok (st, w)) (hid : id ∈ configured env file)
    {reports : List Report} (hids : ∀ r ∈ reports, 0 < r.id) :
    ∃ t d, st.terminal.process reports = .ok t ∧ t.sats.lookup id = some d ∧
      d.packetsReceived = counted receivedStart id reports ∧ d.packetsSent = counted sentStart id reports := by
  obtain ⟨hsound, hfresh⟩ := booted_terminal hboot
  obtain ⟨t, hprocess, hlookup⟩ := Terminal.process_packets hsound hids
  obtain ⟨d, hd, hreceived, hsent⟩ := hlookup id _ (hfresh id hid)
  exact ⟨t, d, hprocess, hd, hreceived.trans (Nat.zero_add _), hsent.trans (Nat.zero_add _)⟩

/-- **When the packet totals are exact.** However the dumps of a configured satellite and other reports follow each
other, its totals do not exceed the numbers of network lines dumped, and they are these numbers exactly if every dump
of the satellite with a network line has a position line as well. -/
theorem packetTotals_iff (hboot : connectToSatellites env (init buf) file = .ok (st, w)) (hid : id ∈ configured env file)
    {reports : List Report} (hids : ∀ r ∈ reports, 0 < r.id) :
    ∃ t d, st.terminal.process reports = .ok t ∧ t.sats.lookup id = some d ∧
      d.packetsReceived ≤ total receivedStart id reports ∧ d.packetsSent ≤ total sentStart id reports ∧
      (d.packetsReceived = total receivedStart id reports ∧ d.packetsSent = total sentStart id reports ↔
        ∀ es, dump id es ∈ reports → (∃ e ∈ es, receivedStart <+: e.msg ∨ sentStart <+: e.msg) →
          ∃ e ∈ es, ascii "SAT " <+: e.msg) := by
  obtain ⟨t, d, hprocess, hd, hreceived, hsent⟩ := booted_totals hboot hid hids
  refine ⟨t, d, hprocess, hd, ?_, ?_, ?_⟩
  · rw [hreceived]
    exact counted_le
  · rw [hsent]
    exact counted_le
  have hself : ∀ start es, count start id (dump id es) = es.countP fun e => start <+: e.msg := fun _ _ => if_pos rfl
  rw [hreceived, hsent, counted_eq_total, counted_eq_total]
  constructor
  · rintro ⟨hnoReceived, hnoSent⟩ es hes ⟨e, he, hstart⟩
    by_contra hpos
    have hr := hnoReceived _ hes hpos
    have hs := hnoSent _ hes hpos
    rw [hself, List.countP_eq_zero] at hr hs
    rcases hstart with hstart | hstart
    · exact hr e he (decide_eq_true hstart)
    · exact hs e he (decide_eq_true hstart)
  · intro hpositions
    have hnone : ∀ start, start = receivedStart ∨ start = sentStart →
        ∀ r ∈ reports, ¬ r.Positioned → r.count start id = 0 := by
      intro start hstart r hr hpos
      by_cases hown : r.id = id
      swap
      · exact count_other hown
      cases r with
      | status id' alive => rfl
      | dump id' es =>
        have hown' : id' = id := hown
        subst hown'
        rw [hself, List.countP_eq_zero]
        intro e he hprefix
        apply hpos
        refine hpositions es hr ⟨e, he, ?_⟩
        rcases hstart with rfl | rfl
        · exact .inl (of_decide_eq_true hprefix)
        · exact .inr (of_decide_eq_true hprefix)
    exact ⟨hnone _ (.inl rfl), hnone _ (.inr rfl)⟩

theorem torn_dated : Dated Parser.torn := by decide

/-- One log in one dump. -/
def wholeLog : List Report := [.dump 1 [Parser.heard, Parser.entry Parser.parked Parser.torn torn_dated]]

/-- The same log in two. -/
def cutLog : List Report := [.dump 1 [Parser.heard], .dump 1 [Parser.entry Parser.parked Parser.torn torn_dated]]

/-- Cut before its position line, the log counts nothing. -/
theorem cutLog_loses : ∃ st w, connectToSatellites calm (init (filled 0)) oneLine = .ok (st, w) ∧
    1 ∈ configured calm oneLine ∧ total receivedStart 1 wholeLog = 1 ∧ total receivedStart 1 cutLog = 1 ∧
    (∃ t d, st.terminal.process wholeLog = .ok t ∧ t.sats.lookup 1 = some d ∧ d.packetsReceived = 1) ∧
    ∃ t d, st.terminal.process cutLog = .ok t ∧ t.sats.lookup 1 = some d ∧ d.packetsReceived = 0 := by
  obtain ⟨st, w, hboot⟩ : ∃ st w, connectToSatellites calm (init (filled 0)) oneLine = .ok (st, w) := ⟨_, _, rfl⟩
  have hid : (1 : Int32) ∈ configured calm oneLine := by decide
  refine ⟨st, w, hboot, hid, by decide +kernel, by decide +kernel, ?_, ?_⟩
  · have hids : ∀ r ∈ wholeLog, 0 < r.id := by decide
    obtain ⟨t, d, hprocess, hd, hreceived, -⟩ := booted_totals hboot hid hids
    exact ⟨t, d, hprocess, hd, hreceived.trans (by decide +kernel)⟩
  · have hids : ∀ r ∈ cutLog, 0 < r.id := by decide
    obtain ⟨t, d, hprocess, hd, hreceived, -⟩ := booted_totals hboot hid hids
    exact ⟨t, d, hprocess, hd, hreceived.trans (by decide +kernel)⟩

theorem packetTotals_iff_wholeLog : ∃ st w, connectToSatellites calm (init (filled 0)) oneLine = .ok (st, w) ∧
    ∃ t d, st.terminal.process wholeLog = .ok t ∧ t.sats.lookup 1 = some d ∧
      d.packetsReceived ≤ total receivedStart 1 wholeLog ∧ d.packetsSent ≤ total sentStart 1 wholeLog ∧
      (d.packetsReceived = total receivedStart 1 wholeLog ∧ d.packetsSent = total sentStart 1 wholeLog ↔
        ∀ es, dump 1 es ∈ wholeLog → (∃ e ∈ es, receivedStart <+: e.msg ∨ sentStart <+: e.msg) →
          ∃ e ∈ es, ascii "SAT " <+: e.msg) := by
  obtain ⟨st, w, hboot⟩ : ∃ st w, connectToSatellites calm (init (filled 0)) oneLine = .ok (st, w) := ⟨_, _, rfl⟩
  exact ⟨st, w, hboot, packetTotals_iff hboot (by decide) (by decide)⟩

end Station

end Constellation
