import Constellation.Downlink.System

/-!
# What the waiting flag tells

Ground control answers every datagram of a satellite alike, and the satellite takes any answer for
the acknowledgement of its dump. So the flag may fall too early: at the answer to a heartbeat, to an
earlier chunk or to an earlier dump, while chunks are lost or still under way. And it may stay up for
good: it is raised after the last chunk was sent, and if the answers have come by then, no other comes
(`flag_misleads` shows one run of each kind).

For the first, the order of the arrivals decides: the acknowledgement that is the first to arrive after a
raise has to come after every chunk of the last dump has reached ground control. For the second, two steps
strand the flag (`strands_iff`): raising it when nothing is under way, and the arrival of a last datagram
that is neither an acknowledgement nor answered. Neither happens in a run in which an answer is due
whenever the flag is raised: ground control answers every datagram, so an answer is due as long as the
satellite waits (`step_awaited`).
-/

namespace Constellation.Downlink

/-- An acknowledgement arrives at the satellite's listener. -/
def HearsAck (s : Downlink) : Event → Prop
  | .arriveDown i _ _ _ _ => ∃ m, s.down[i]? = some m ∧ m.kind = .ack
  | _ => False

/-- The sender has sent a dump and raises the flag. -/
def RaisesFlag (s : Downlink) : Event → Prop
  | .satellite e _ => s.satellite.Raises e = true
  | _ => False

/-- Chunk `n` arrives at ground control's listener. -/
def Delivers (n : Nat) (s : Downlink) : Event → Prop
  | .arriveUp i _ _ _ _ => ∃ packet, s.up[i]? = some packet ∧ packet.serial = some n
  | _ => False

def Event.Loses : Event → Prop
  | .loseUp _ => True
  | .loseDown _ => True
  | _ => False

/-- A datagram of the satellite, or an acknowledgement, is under way. -/
def AnswerDue (s : Downlink) : Prop := s.up ≠ [] ∨ ∃ m ∈ s.down, m.kind = .ack

/-- The sender is not in a dump, and nothing is under way. -/
def Quiescent (s : Downlink) : Prop := s.satellite.sender = .ready ∧ s.up = [] ∧ s.down = []

/-- The step raises the flag when nothing is under way. Or the last datagram under way arrives while the
satellite waits, is no acknowledgement, and is not answered: no command, or one that finds ground
control's connection closed. -/
def Strands (s : Downlink) : Event → Prop
  | .satellite e _ => s.satellite.Raises e = true ∧ s.up = [] ∧ s.down = []
  | .arriveDown i _ _ _ _ => s.waiting = true ∧ s.satellite.sender = .ready ∧ s.up = [] ∧
      ∃ m, s.down[i]? = some m ∧ s.down.eraseIdx i = [] ∧ m.kind ≠ .ack ∧
        (m.kind = .command → ¬ s.satellite.satellite.handler.Reaches 0)
  | _ => False

section
variable {satId port : Int32} {s s' : Downlink} {w : List Effect}

theorem valid_ofGroundControl (body : Body) : (Message.build 0 Config.GC_PORT body).Valid :=
  Message.build_valid (by decide) (by decide) body

theorem hearsAck_iff {i now : Nat} {os : Int32 → Os} {pad : Block 3} {ip : String} {m : Message}
    (hi : s.down[i]? = some m) : s.HearsAck (.arriveDown i now os pad ip) ↔ m.kind = .ack := by
  constructor
  · rintro ⟨m', hm', hkind⟩
    rw [hi] at hm'
    cases hm'
    exact hkind
  · exact fun hkind => ⟨m, hi, hkind⟩

theorem stillWaiting_build (p : SatelliteProcess) (body : Body) :
    p.stillWaiting (.build 0 Config.GC_PORT body) = (p.satellite.waitingForAck && !decide (body.kind = .ack)) := by
  rw [SatelliteProcess.stillWaiting]
  have htag : (Message.build 0 Config.GC_PORT body).header.type = MessageType.ack.tag ↔ body.kind = .ack :=
    ⟨fun h => MessageType.tag_injective h, fun h => congrArg MessageType.tag h⟩
  rw [decide_eq_decide.mpr htag]

theorem HearsAck.not_raises {e : Event} (h : s.HearsAck e) : ¬ s.RaisesFlag e := by
  cases e with
  | arriveDown i now os pad ip => exact id
  | _ => exact h.elim

theorem waiting_of_same {e : Event} (hsame : s'.waiting = s.waiting) (hraises : ¬ s.RaisesFlag e)
    (hack : ¬ s.HearsAck e) : s'.waiting = true ↔ s.RaisesFlag e ∨ (s.waiting = true ∧ ¬ s.HearsAck e) := by
  rw [hsame, or_iff_right hraises, and_iff_left hack]

/-- **The flag is up after a step** if the step raised it, or it was up and no acknowledgement came. -/
theorem step_waiting {e : Event} (hs : Inv satId port s) (hport : 0 < port) (hrun : s.step e = .ok (s', w)) :
    s'.waiting = true ↔ s.RaisesFlag e ∨ (s.waiting = true ∧ ¬ s.HearsAck e) := by
  cases e with
  | satellite e own =>
    obtain ⟨⟨p, v⟩, hstep, hret⟩ := bind_eq_ok.mp hrun
    have hflag := SatelliteProcess.step_flag own hstep
    cases hret
    rw [waiting, hflag, Bool.or_eq_true, or_comm]
    exact or_congr Iff.rfl ⟨fun h => ⟨h, id⟩, fun h => h.1⟩
  | groundControl e own =>
    obtain ⟨⟨g, v⟩, -, hret⟩ := bind_eq_ok.mp hrun
    cases hret
    exact waiting_of_same rfl id id
  | arriveUp i now os pad ip =>
    rw [step] at hrun
    split at hrun
    · cases hrun
      exact waiting_of_same rfl id id
    · obtain ⟨⟨g, v⟩, -, hret⟩ := bind_eq_ok.mp hrun
      cases hret
      exact waiting_of_same rfl id id
  | arriveDown i now os pad ip =>
    rw [step] at hrun
    split at hrun
    · rename_i hnone
      cases hrun
      apply waiting_of_same rfl id
      rintro ⟨m, hm, -⟩
      rw [hnone] at hm
      cases hm
    · rename_i m hi
      obtain ⟨⟨p, v⟩, hstep, hret⟩ := bind_eq_ok.mp hrun
      obtain ⟨body, rfl⟩ := hs.down m (List.mem_of_getElem? hi)
      obtain ⟨hflag, -⟩ := SatelliteProcess.datagram_flag hs.satellite (Int32.le_of_lt hport)
        (valid_ofGroundControl body) hstep
      rw [stillWaiting_build] at hflag
      cases hret
      rw [waiting, hflag, Bool.and_eq_true, Bool.not_eq_true', decide_eq_false_iff_not, hearsAck_iff hi]
      exact ⟨.inr, fun h => h.elim False.elim id⟩
  | loseUp i =>
    rw [step] at hrun
    split at hrun <;> cases hrun <;> exact waiting_of_same rfl id id
  | loseDown i =>
    cases hrun
    exact waiting_of_same rfl id id

theorem lowers_iff {e : Event} (hs : Inv satId port s) (hport : 0 < port) (hrun : s.step e = .ok (s', w))
    (hup : s.waiting = true) : s'.waiting = false ↔ s.HearsAck e := by
  have hstep := step_waiting hs hport hrun
  constructor
  · intro hdown
    by_contra hno
    rw [hstep.mpr (.inr ⟨hup, hno⟩)] at hdown
    cases hdown
  · intro hhears
    rw [← Bool.not_eq_true]
    intro hstill
    rcases hstep.mp hstill with hraises | ⟨-, hno⟩
    · exact hhears.not_raises hraises
    · exact hno hhears

theorem step_handled {e : Event} (hrun : s.step e = .ok (s', w)) (n : Nat) :
    n ∈ s'.history.handled ↔ n ∈ s.history.handled ∨ s.Delivers n e := by
  cases e with
  | satellite e own =>
    obtain ⟨⟨p, v⟩, -, hret⟩ := bind_eq_ok.mp hrun
    cases hret
    rw [History.note]
    split_ifs <;> exact (or_iff_left id).symm
  | groundControl e own =>
    obtain ⟨⟨g, v⟩, -, hret⟩ := bind_eq_ok.mp hrun
    cases hret
    exact (or_iff_left id).symm
  | arriveUp i now os pad ip =>
    rw [step] at hrun
    rw [Delivers]
    split at hrun
    · rename_i hnone
      cases hrun
      simp [hnone]
    · rename_i packet hi
      obtain ⟨⟨g, v⟩, -, hret⟩ := bind_eq_ok.mp hrun
      cases hret
      simp [hi]
  | arriveDown i now os pad ip =>
    rw [step] at hrun
    split at hrun
    · cases hrun
      exact (or_iff_left id).symm
    · obtain ⟨⟨p, v⟩, -, hret⟩ := bind_eq_ok.mp hrun
      cases hret
      exact (or_iff_left id).symm
  | loseUp i =>
    rw [step] at hrun
    split at hrun <;> cases hrun <;> exact (or_iff_left id).symm
  | loseDown i =>
    cases hrun
    exact (or_iff_left id).symm

theorem answered_arriveUp {i now : Nat} {os : Int32 → Os} {pad : Block 3} {ip : String} {packet : Packet}
    {g : GroundControl} (hs : Inv satId port s) (hid : 0 < satId) (hport : 0 < port) (hi : s.up[i]? = some packet)
    (hstep : s.groundControl.step (.datagram now os packet.message pad ip) = .ok (g, w)) :
    .build 0 Config.GC_PORT (.ack true) ∈ s.answered w := by
  have hspoken := hs.up packet (List.mem_of_getElem? hi)
  obtain ⟨-, -, -, fd, dest, hfd, hanswer⟩ := GroundControl.datagram_answered hs.groundControl
    (hspoken.deliverable hid hport) hspoken.kind hstep
  have hsender : packet.message.senderId = s.satellite.satId := by
    rw [hspoken.built, hs.satellite.manager]
    rfl
  rw [hsender] at hanswer
  exact leaving_mem hfd hanswer

theorem sent_answer {p p' : SatelliteProcess} {body : Body} {now : Nat} {os : Int32 → Os} {pad : Block 3}
    {ip : String} (hp : p.Configured satId port) (hknown : p.satellite.handler.Knows 0)
    (hrun : p.step (.datagram now os (.build 0 Config.GC_PORT body) pad ip) = .ok (p', w)) :
    sent w = [] ↔ (body.kind = .command → ¬ p.satellite.handler.Reaches 0) := by
  obtain ⟨v, line, rfl, hanswer⟩ := SatelliteProcess.datagram_answer (valid_ofGroundControl body) hknown hrun
  have hsame : sent (v ++ [.log line]) = sent v := by
    rw [sent, List.filterMap_append]
    exact List.append_nil _
  rw [hsame]
  by_cases hcommand : body.kind = .command
  · rw [if_pos (show (Message.build 0 Config.GC_PORT body).kind = .command from hcommand)] at hanswer
    rcases sent_sendMessageToPeer hp.handler hanswer with ⟨hreaches, hone⟩ | ⟨hcloses, hnone⟩
    · rw [hone]
      exact ⟨fun h => absurd h (List.cons_ne_nil _ _), fun h => absurd hreaches (h hcommand)⟩
    · exact ⟨fun _ _ => hcloses, fun _ => hnone⟩
  · rw [if_neg (show ¬ (Message.build 0 Config.GC_PORT body).kind = .command from hcommand)] at hanswer
    rw [hanswer]
    exact ⟨fun _ h => absurd h hcommand, fun _ => rfl⟩

theorem Strands.quiescent {e : Event} (hstrands : s.Strands e) (hs : Inv satId port s) (hport : 0 < port)
    (hrun : s.step e = .ok (s', w)) : s'.Quiescent ∧ s'.waiting = true := by
  have hwaits := step_waiting hs hport hrun
  cases e with
  | satellite e own =>
    obtain ⟨hraises, hup, hdown⟩ := hstrands
    obtain ⟨p, hstep, hsender, -⟩ := SatelliteProcess.step_raises hraises
    rw [step, hstep] at hrun
    cases hrun
    refine ⟨⟨hsender, ?_, hdown⟩, hwaits.mpr (.inl hraises)⟩
    show s.up ++ s.packets e [] = []
    rw [hup]
    rfl
  | arriveDown i now os pad ip =>
    obtain ⟨hwaiting, hready, hup, m, hi, hlast, hack, hanswer⟩ := hstrands
    have hstill := hwaits.mpr (.inr ⟨hwaiting, fun hhears => hack ((hearsAck_iff hi).mp hhears)⟩)
    rw [step, hi] at hrun
    obtain ⟨⟨p, v⟩, hstep, hret⟩ := bind_eq_ok.mp hrun
    obtain ⟨body, rfl⟩ := hs.down m (List.mem_of_getElem? hi)
    have hnothing := (sent_answer hs.satellite (hs.acquainted (.inr hwaiting)) hstep).mpr hanswer
    have hsender := (SatelliteProcess.datagram_flag hs.satellite (Int32.le_of_lt hport)
      (valid_ofGroundControl body) hstep).2
    cases hret
    refine ⟨⟨hsender.trans hready, ?_, hlast⟩, hstill⟩
    show s.up ++ (sent _).map _ = []
    rw [hup, hnothing]
    rfl
  | _ => exact hstrands.elim

/-- **Only these steps strand the flag**, where nothing is lost. -/
theorem strands_iff {e : Event} (hs : Inv satId port s) (hid : 0 < satId) (hport : 0 < port)
    (hrun : s.step e = .ok (s', w)) (hkept : ¬ e.Loses) (hbefore : ¬ (s.Quiescent ∧ s.waiting = true)) :
    s'.Quiescent ∧ s'.waiting = true ↔ s.Strands e := by
  refine ⟨?_, fun hstrands => hstrands.quiescent hs hport hrun⟩
  rintro ⟨⟨hready, hup, hdown⟩, hwaits⟩
  have hcause := (step_waiting hs hport hrun).mp hwaits
  cases e with
  | satellite e own =>
    obtain ⟨⟨p, v⟩, hstep, hret⟩ := bind_eq_ok.mp hrun
    cases hret
    have hempty : s.up = [] := (List.append_eq_nil_iff.mp hup).1
    have hraises : s.satellite.Raises e = true := by
      by_contra hno
      rcases SatelliteProcess.step_ready own hstep hready with hidle | hyes
      · rcases hcause with hyes | ⟨hwaiting, -⟩
        · exact hno hyes
        · exact hbefore ⟨⟨hidle, hempty, hdown⟩, hwaiting⟩
      · exact hno hyes
    exact ⟨hraises, hempty, hdown⟩
  | groundControl e own =>
    obtain ⟨⟨g, v⟩, -, hret⟩ := bind_eq_ok.mp hrun
    cases hret
    obtain ⟨hwaiting, -⟩ := hcause.resolve_left id
    exact hbefore ⟨⟨hready, hup, (List.append_eq_nil_iff.mp hdown).1⟩, hwaiting⟩
  | arriveUp i now os pad ip =>
    obtain ⟨hwaiting, -⟩ := hcause.resolve_left id
    rw [step] at hrun
    split at hrun
    · cases hrun
      exact hbefore ⟨⟨hready, hup, hdown⟩, hwaiting⟩
    · rename_i packet hi
      obtain ⟨⟨g, v⟩, hstep, hret⟩ := bind_eq_ok.mp hrun
      have hanswer := answered_arriveUp hs hid hport hi hstep
      cases hret
      rw [(List.append_eq_nil_iff.mp hdown).2] at hanswer
      cases hanswer
  | arriveDown i now os pad ip =>
    obtain ⟨hwaiting, hsilent⟩ := hcause.resolve_left id
    rw [step] at hrun
    split at hrun
    · cases hrun
      exact absurd ⟨⟨hready, hup, hdown⟩, hwaiting⟩ hbefore
    · rename_i m hi
      obtain ⟨⟨p, v⟩, hstep, hret⟩ := bind_eq_ok.mp hrun
      obtain ⟨body, rfl⟩ := hs.down m (List.mem_of_getElem? hi)
      have hsender := (SatelliteProcess.datagram_flag hs.satellite (Int32.le_of_lt hport)
        (valid_ofGroundControl body) hstep).2
      have hanswer := sent_answer hs.satellite (hs.acquainted (.inr hwaiting)) hstep
      cases hret
      obtain ⟨hempty, hnothing⟩ := List.append_eq_nil_iff.mp hup
      refine ⟨hwaiting, hsender.symm.trans hready, hempty, _, hi, hdown,
        fun hack => hsilent ((hearsAck_iff hi).mpr hack), ?_⟩
      exact hanswer.mp (List.map_eq_nil_iff.mp hnothing)
  | loseUp i => exact absurd trivial hkept
  | loseDown i => exact absurd trivial hkept

/-- **While the satellite waits an answer is due**, if that was so when it began to wait and nothing is
lost: ground control answers every datagram that arrives, and an answer that arrives ends the wait. -/
theorem step_awaited {e : Event} (hs : Inv satId port s) (hid : 0 < satId) (hport : 0 < port)
    (hrun : s.step e = .ok (s', w)) (hkept : ¬ e.Loses) (hraise : s.RaisesFlag e → s.AnswerDue)
    (hdue : s.waiting = true → s.AnswerDue) : s'.waiting = true → s'.AnswerDue := by
  intro hwaits
  have hbefore : s.AnswerDue := by
    rcases (step_waiting hs hport hrun).mp hwaits with hraises | ⟨hup, -⟩
    · exact hraise hraises
    · exact hdue hup
  cases e with
  | satellite e own =>
    obtain ⟨⟨p, v⟩, -, hret⟩ := bind_eq_ok.mp hrun
    cases hret
    exact hbefore.imp (fun hup => List.append_ne_nil_of_left_ne_nil hup _) id
  | groundControl e own =>
    obtain ⟨⟨g, v⟩, -, hret⟩ := bind_eq_ok.mp hrun
    cases hret
    exact hbefore.imp id fun ⟨m, hm, hack⟩ => ⟨m, List.mem_append_left _ hm, hack⟩
  | arriveUp i now os pad ip =>
    rw [step] at hrun
    split at hrun
    · cases hrun
      exact hbefore
    · rename_i packet hi
      obtain ⟨⟨g, v⟩, hstep, hret⟩ := bind_eq_ok.mp hrun
      have hanswer := answered_arriveUp hs hid hport hi hstep
      cases hret
      exact .inr ⟨_, List.mem_append_right _ hanswer, rfl⟩
  | arriveDown i now os pad ip =>
    have hsilent : ¬ s.HearsAck (.arriveDown i now os pad ip) := by
      rcases (step_waiting hs hport hrun).mp hwaits with hraises | ⟨-, hno⟩
      · exact hraises.elim
      · exact hno
    rw [step] at hrun
    split at hrun
    · cases hrun
      exact hbefore
    · rename_i m hi
      obtain ⟨⟨p, v⟩, -, hret⟩ := bind_eq_ok.mp hrun
      cases hret
      refine hbefore.imp (fun hup => List.append_ne_nil_of_left_ne_nil hup _) ?_
      -- What arrived was no acknowledgement, so the one that is due is another datagram.
      rintro ⟨m', hm', hack⟩
      obtain ⟨hlt, hget⟩ := List.getElem?_eq_some_iff.mp hi
      have hperm := (List.getElem_cons_eraseIdx_perm hlt).mem_iff.mpr hm'
      rw [hget] at hperm
      rcases List.mem_cons.mp hperm with rfl | hrest
      · exact absurd ⟨_, hi, hack⟩ hsilent
      · exact ⟨m', hrest, hack⟩
  | loseUp i => exact absurd trivial hkept
  | loseDown i => exact absurd trivial hkept

end

/-! ### Whole runs -/

section
variable (start : Downlink) (es : List Event)

/-- Whenever the flag falls, ground control has handled every chunk of the last dump. -/
def LoweredAfterHandling : Prop :=
  Along (fun pre e => ∀ s w s' w', run step start pre = .ok (s, w) → s.step e = .ok (s', w') →
    s.waiting = true → s'.waiting = false → ∀ n ∈ s.history.outstanding, n ∈ s.history.handled) es

/-- Whenever an acknowledgement arrives, the flag having been raised and none having arrived since, every chunk
of the last dump has arrived at ground control before. -/
def AcksAfterChunks : Prop :=
  Along (fun pre e => ∀ s w s' w', run step start pre = .ok (s, w) → s.step e = .ok (s', w') →
    s.HearsAck e → Since step start RaisesFlag HearsAck pre →
    ∀ n ∈ s.history.outstanding, Once step start (Delivers n) pre) es

/-- In every state in which the sender is done and nothing is under way, the flag is down. -/
def SettlesLowered : Prop :=
  ∀ pre post s w, es = pre ++ post → run step start pre = .ok (s, w) → s.Quiescent → s.waiting = false

/-- The flag falls when the dump has been handled, and is down when all is quiet and nothing was lost. -/
def TracksDump : Prop := LoweredAfterHandling start es ∧ ((∀ e ∈ es, ¬ e.Loses) → SettlesLowered start es)

/-- No step strands the flag. -/
def StrandsNever : Prop :=
  Along (fun pre e => ∀ s w s' w', run step start pre = .ok (s, w) → s.step e = .ok (s', w') → ¬ s.Strands e) es

/-- Whenever the flag is raised, the state before satisfies `P`. -/
def RaisesFind (P : Downlink → Prop) : Prop :=
  Along (fun pre e => ∀ s w, run step start pre = .ok (s, w) → s.RaisesFlag e → P s) es

end

section
variable {satId port : Int32} {start : Downlink} {es : List Event}

theorem run_waiting (hid : 0 < satId) (hport : 0 < port) (hstart : Inv satId port start)
    (hdown : start.waiting = false) {s : Downlink} {w : List Effect} (hrun : run step start es = .ok (s, w)) :
    s.waiting = true ↔ Since step start RaisesFlag HearsAck es := by
  refine run_induction (P := fun es s _ => s.waiting = true ↔ Since step start RaisesFlag HearsAck es) ?_ ?_ hrun
  · rw [hdown, iff_false_right not_since_nil]
    exact Bool.false_ne_true
  · intro es t v e t' v' hes ih hstep
    rw [since_snoc hes, step_waiting (run_inv hid hport hstart hes) hport hstep, ih]

theorem run_handled (hnone : start.history.handled = []) {s : Downlink} {w : List Effect}
    (hrun : run step start es = .ok (s, w)) (n : Nat) :
    n ∈ s.history.handled ↔ Once step start (Delivers n) es := by
  refine run_induction (P := fun es s _ => n ∈ s.history.handled ↔ Once step start (Delivers n) es) ?_ ?_ hrun
  · rw [hnone, iff_false_right not_once_nil]
    exact List.not_mem_nil
  · intro es t v e t' v' hes ih hstep
    rw [once_snoc hes, step_handled hstep, ih]

theorem loweredAfterHandling_iff (hid : 0 < satId) (hport : 0 < port) (hstart : Inv satId port start)
    (hdown : start.waiting = false) (hnone : start.history.handled = []) :
    LoweredAfterHandling start es ↔ AcksAfterChunks start es := by
  constructor
  · intro hall pre e post heq s w s' w' hrun hstep hhears hsince n hn
    have hup := (run_waiting hid hport hstart hdown hrun).mpr hsince
    have hlow := (lowers_iff (run_inv hid hport hstart hrun) hport hstep hup).mpr hhears
    exact (run_handled hnone hrun n).mp (hall pre e post heq s w s' w' hrun hstep hup hlow n hn)
  · intro hall pre e post heq s w s' w' hrun hstep hup hlow n hn
    have hhears := (lowers_iff (run_inv hid hport hstart hrun) hport hstep hup).mp hlow
    have hsince := (run_waiting hid hport hstart hdown hrun).mp hup
    exact (run_handled hnone hrun n).mpr (hall pre e post heq s w s' w' hrun hstep hhears hsince n hn)

theorem run_settled (hid : 0 < satId) (hport : 0 < port) (hstart : Inv satId port start)
    (hdown : start.waiting = false) (hkept : ∀ e ∈ es, ¬ e.Loses) (hnever : StrandsNever start es)
    {s : Downlink} {w : List Effect} (hrun : run step start es = .ok (s, w)) :
    ¬ (s.Quiescent ∧ s.waiting = true) := by
  induction es using List.reverseRecOn generalizing s w with
  | nil =>
    cases hrun
    rintro ⟨-, hup⟩
    rw [hdown] at hup
    cases hup
  | append_singleton es e ih =>
    obtain ⟨t, w₁, w₂, hes, hstep, -⟩ := run_snoc_ok.mp hrun
    obtain ⟨hfirst, hlast⟩ := along_snoc.mp hnever
    have hbefore := ih (fun e' he' => hkept e' (List.mem_append_left _ he')) hfirst hes
    rw [strands_iff (run_inv hid hport hstart hes) hid hport hstep
      (hkept e (List.mem_append_right _ List.mem_cons_self)) hbefore]
    exact hlast t w₁ s w₂ hes hstep

/-- In a run without losses the flag is down in every quiescent state exactly when no step strands it. -/
theorem settlesLowered_iff (hid : 0 < satId) (hport : 0 < port) (hstart : Inv satId port start)
    (hdown : start.waiting = false) (hkept : ∀ e ∈ es, ¬ e.Loses) :
    SettlesLowered start es ↔ StrandsNever start es := by
  constructor
  · rintro hsettles pre e post heq s w s' w' hrun hstep hstrands
    obtain ⟨hquiet, hwaits⟩ := hstrands.quiescent (run_inv hid hport hstart hrun) hport hstep
    have hsplit : es = (pre ++ [e]) ++ post := by
      rw [heq, List.append_assoc]
      rfl
    have hlow := hsettles _ post s' _ hsplit (run_snoc_ok.mpr ⟨s, w, w', hrun, hstep, rfl⟩) hquiet
    rw [hwaits] at hlow
    cases hlow
  · intro hnever pre post s w heq hrun hquiet
    rw [heq] at hnever hkept
    have hpart : ∀ e ∈ pre, ¬ e.Loses := fun e he => hkept e (List.mem_append_left _ he)
    have hsettled := run_settled hid hport hstart hdown hpart (Along.of_append hnever) hrun
    rw [← Bool.not_eq_true]
    exact fun hwaits => hsettled ⟨hquiet, hwaits⟩

theorem run_awaited (hid : 0 < satId) (hport : 0 < port) (hstart : Inv satId port start)
    (hdown : start.waiting = false) (hkept : ∀ e ∈ es, ¬ e.Loses) (hraises : RaisesFind start es AnswerDue)
    {s : Downlink} {w : List Effect} (hrun : run step start es = .ok (s, w)) : s.waiting = true → s.AnswerDue := by
  induction es using List.reverseRecOn generalizing s w with
  | nil =>
    cases hrun
    intro hup
    rw [hdown] at hup
    cases hup
  | append_singleton es e ih =>
    obtain ⟨t, w₁, w₂, hes, hstep, -⟩ := run_snoc_ok.mp hrun
    obtain ⟨hfirst, hlast⟩ := along_snoc.mp hraises
    have hdue := ih (fun e' he' => hkept e' (List.mem_append_left _ he')) hfirst hes
    exact step_awaited (run_inv hid hport hstart hes) hid hport hstep
      (hkept e (List.mem_append_right _ List.mem_cons_self)) (fun h => hlast t w₁ hes h) hdue

/-- The flag is down in every quiescent state if an answer is due whenever it is raised. -/
theorem settlesLowered_of_raises (hid : 0 < satId) (hport : 0 < port) (hstart : Inv satId port start)
    (hdown : start.waiting = false) (hkept : ∀ e ∈ es, ¬ e.Loses) (hraises : RaisesFind start es AnswerDue) :
    SettlesLowered start es := by
  rintro pre post s w heq hrun ⟨-, hup, hempty⟩
  rw [← Bool.not_eq_true]
  intro hwaits
  have hpart : ∀ e ∈ pre, ¬ e.Loses := fun e he => hkept e (by
    rw [heq]
    exact List.mem_append_left _ he)
  have hpartRaises : RaisesFind start pre AnswerDue := by
    rw [heq] at hraises
    exact Along.of_append hraises
  rcases run_awaited hid hport hstart hdown hpart hpartRaises hrun hwaits with hne | ⟨m, hm, -⟩
  · exact hne hup
  · rw [hempty] at hm
    cases hm

end

/-- **The flag and the dump.** The flag tracks the dump when and only when every acknowledgement that is the
first after a raise arrives after the chunks of the last dump and, if nothing is lost, no step strands the
flag. -/
theorem tracksDump_iff (satId port : Int32) (hid : 0 < satId) (hport : 0 < port) (buf buf' : RecvBuffer)
    (x y z vx vy vz : Double) (es : List Event) :
    TracksDump (init satId port buf buf' x y z vx vy vz) es ↔
      AcksAfterChunks (init satId port buf buf' x y z vx vy vz) es ∧
        ((∀ e ∈ es, ¬ e.Loses) → StrandsNever (init satId port buf buf' x y z vx vy vz) es) := by
  have hstart : Inv satId port (init satId port buf buf' x y z vx vy vz) := init_inv ..
  rw [TracksDump, loweredAfterHandling_iff hid hport hstart rfl rfl]
  exact and_congr_right fun _ => imp_congr_right fun hkept => settlesLowered_iff hid hport hstart rfl hkept

/-! ### Two runs -/

/-- Satellite 1 on port 5001, and ground control. -/
def pair : Downlink := init 1 5001 (filled 0) (filled 0) 0 0 0 0 0 0

def firstUp : Event := .arriveUp 0 0 (fun _ => Os.granting) ⟨[0, 0, 0], Message.length_zeroPad⟩ "127.0.0.1"

def firstDown : Event := .arriveDown 0 0 (fun _ => Os.granting) ⟨[0, 0, 0], Message.length_zeroPad⟩ "127.0.0.1"

/-- The satellite says hello; ground control greets it, and acknowledges. The greeting arrives. -/
def meeting : List Event :=
  [.satellite (.connect 0 (fun _ => Os.granting) Config.GC_PORT "127.0.0.1" 0) trivial, firstUp, firstDown]

/-- A dump of the empty log, of one chunk. -/
def emptyDump : List Event :=
  [.satellite (.dump fun _ => ⟨List.replicate Config.FILE_CHUNK_SIZE 0, length_blankChunk⟩) trivial,
    .satellite (.sendChunk fun _ => Os.granting) trivial]

def raise : Event := .satellite .raise trivial

/-- The acknowledgement of the hello is still under way when the flag is raised, and so is the chunk. -/
def earlyAck : List Event := meeting ++ emptyDump ++ [raise]

/-- The chunk is acknowledged before the flag is raised. -/
def promptAck : List Event := meeting ++ [firstDown] ++ emptyDump ++ [firstUp, firstDown, raise]

set_option maxRecDepth 20000 in
theorem earlyAck_run : ∃ s w s' w', run step pair earlyAck = .ok (s, w) ∧ s.step firstDown = .ok (s', w') ∧
    s.waiting = true ∧ s'.waiting = false ∧ s.history.outstanding = [0] ∧ s.history.handled = [] :=
  ⟨_, _, _, _, rfl, rfl, rfl, rfl, rfl, rfl⟩

set_option maxRecDepth 20000 in
theorem promptAck_run : ∃ s w, run step pair promptAck = .ok (s, w) ∧ s.Quiescent ∧ s.waiting = true :=
  ⟨_, _, rfl, ⟨rfl, rfl, rfl⟩, rfl⟩

/-- An early acknowledgement lowers the flag before the chunk is handled, and a prompt one leaves it
raised for good. -/
theorem flag_misleads : ¬ LoweredAfterHandling pair (earlyAck ++ [firstDown]) ∧
    (∀ e ∈ promptAck, ¬ e.Loses) ∧ ¬ SettlesLowered pair promptAck := by
  refine ⟨?_, ?_, ?_⟩
  · intro hall
    obtain ⟨s, w, s', w', hrun, hstep, hup, hdown, hout, hhandled⟩ := earlyAck_run
    have hmem : 0 ∈ s.history.outstanding := by
      rw [hout]
      exact List.mem_singleton_self 0
    have hdone := hall earlyAck firstDown [] rfl s w s' w' hrun hstep hup hdown 0 hmem
    rw [hhandled] at hdone
    cases hdone
  · simp [promptAck, meeting, emptyDump, firstUp, firstDown, raise, Event.Loses]
  · intro hsettles
    obtain ⟨s, w, hrun, hquiet, hwaits⟩ := promptAck_run
    have hlow := hsettles promptAck [] s w (List.append_nil _).symm hrun hquiet
    rw [hwaits] at hlow
    cases hlow

/-- The flag is raised while the chunk is under way, and the answer to it lowers the flag. -/
def timelyAck : List Event := meeting ++ [firstDown] ++ emptyDump ++ [raise, firstUp, firstDown]

set_option maxRecDepth 20000 in
theorem timelyAck_run : ∃ s w, run step pair (meeting ++ [firstDown] ++ emptyDump ++ [raise]) = .ok (s, w) ∧
    ∃ m, s.up[0]? = some ⟨m, some 0⟩ :=
  ⟨_, _, rfl, _, rfl⟩

set_option maxRecDepth 20000 in
theorem tracksDump_iff_timely : TracksDump pair timelyAck := by
  refine (tracksDump_iff 1 5001 (by decide) (by decide) _ _ _ _ _ _ _ _ timelyAck).mpr ⟨?_, fun _ => ?_⟩
  · simp only [AcksAfterChunks, timelyAck, meeting, emptyDump, List.cons_append, List.nil_append, along_cons]
    refine ⟨fun _ _ _ _ _ _ => False.elim, fun _ _ _ _ _ _ => False.elim, ?_, ?_, fun _ _ _ _ _ _ => False.elim,
      fun _ _ _ _ _ _ => False.elim, fun _ _ _ _ _ _ => False.elim, fun _ _ _ _ _ _ => False.elim, ?_, along_nil _⟩
    · intro s w s' w' hrun _ _ _ n hn
      cases hrun
      cases hn
    · intro s w s' w' hrun _ _ _ n hn
      cases hrun
      cases hn
    · intro s w s' w' hrun _ _ _ n hn
      obtain ⟨t, v, hbefore, m, hchunk⟩ := timelyAck_run
      cases hrun
      cases hn with
      | head => exact (once_snoc hbefore).mpr (.inr ⟨_, hchunk, rfl⟩)
      | tail _ hn => cases hn
  · simp only [StrandsNever, timelyAck, meeting, emptyDump, List.cons_append, List.nil_append, along_cons]
    refine ⟨fun _ _ _ _ _ _ h => Bool.noConfusion h.1, fun _ _ _ _ _ _ => id, ?_, ?_,
      fun _ _ _ _ _ _ h => Bool.noConfusion h.1, fun _ _ _ _ _ _ h => Bool.noConfusion h.1, ?_,
      fun _ _ _ _ _ _ => id, ?_, along_nil _⟩
    · rintro s w s' w' hrun - ⟨hup, -⟩
      cases hrun
      cases hup
    · rintro s w s' w' hrun - ⟨hup, -⟩
      cases hrun
      cases hup
    · rintro s w s' w' hrun - ⟨-, hup, -⟩
      cases hrun
      cases hup
    · rintro s w s' w' hrun - ⟨-, -, -, m, hm, -, hack, -⟩
      cases hrun
      cases hm
      exact hack rfl

end Constellation.Downlink
