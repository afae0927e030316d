import Mathlib.Data.List.TakeWhile
import Constellation.GroundControl.Parser
import Constellation.Satellite.Logger
import Constellation.Satellite.Satellite

/-!
# The parser recovers what the logger wrote

The two programs agree through text only. A line of the log is a time stamp in brackets, a separator and a
message; the last two bytes of the stamp are whatever was there, so the line may be torn in two or three and
the separator may have a bracket in front. Still the parser finds the separator of the stamp, and nothing of
the line but its message counts (`foldl_line`). So it counts the network messages and reads the last position
(`dataDecoder_log`).
-/

namespace Constellation

open Scanf

/-- `%Y-%m-%d %H:%M:`, of which the stamp has room for 17 bytes besides the seconds. -/
def Dated (stamp : Block 19) : Prop :=
  ((stamp.val.take 17).map fun b => if (decDigit b).isSome then 48 else b) = ascii "0000-00-00 00:00:"

instance : DecidablePred Dated := fun stamp =>
  inferInstanceAs (Decidable (((stamp.val.take 17).map fun b => if (decDigit b).isSome then 48 else b) = _))

/-- A message of the logger's queue, and the stamp it gets. -/
structure LogEntry where
  stamp : Block 19
  msg : List UInt8
  dated : Dated stamp
  nonempty : msg ≠ []
  oneLine : 10 ∉ msg
  /-- Only `Satellite::print` writes position lines. -/
  sat : ascii "SAT " <+: msg → ∃ p : Position, msg = ascii p.line

def LogEntry.line (e : LogEntry) : List UInt8 := logLine e.stamp e.msg

theorem Dated.split {stamp : Block 19} (h : Dated stamp) :
    ∃ date u v, stamp.val = date ++ [u, v] ∧ 10 ∉ date ∧ (93 : UInt8) ∉ date := by
  have hmem : ∀ b ∈ stamp.val.take 17, (decDigit b).isSome = false → b ∈ ascii "0000-00-00 00:00:" := by
    intro b hb hother
    rw [← h, List.mem_map]
    exact ⟨b, hb, by rw [hother]; rfl⟩
  have hlen : (stamp.val.drop 17).length = 2 := by
    rw [List.length_drop, stamp.property]
  obtain ⟨u, v, huv⟩ := List.length_eq_two.mp hlen
  refine ⟨stamp.val.take 17, u, v, ?_, fun hten => ?_, fun hbracket => ?_⟩
  · rw [← huv, List.take_append_drop]
  · exact absurd (hmem _ hten rfl) (by decide)
  · exact absurd (hmem _ hbracket rfl) (by decide)

namespace Parser

/-! ### One line of the log -/

/-- What a line with this message does. -/
def Scan.note (st : Scan) (msg : List UInt8) : Scan :=
  if ascii "SAT " <+: msg then { st with data := msg }
  else if ascii "[NETWORK] Message received from " <+: msg then { st with packetsReceived := st.packetsReceived + 1 }
  else if ascii "[NETWORK] Sent message to " <+: msg then { st with packetsSent := st.packetsSent + 1 }
  else st

section
variable {st : Scan}

theorem foldl_scanChar {text : List UInt8} (h : 10 ∉ text) : text.foldl scanChar st = { st with line := st.line ++ text } := by
  induction text generalizing st with
  | nil => rw [List.append_nil]; rfl
  | cons c text ih =>
    obtain ⟨hne, hrest⟩ := not_or.mp (mt List.mem_cons.mpr h)
    rw [List.foldl_cons, scanChar, if_neg (Ne.symm hne), ih hrest]
    simp

theorem foldl_dropped (hst : st.line = []) {text : List UInt8} (h : 10 ∉ text) (hfind : find (ascii "] : ") text = none) :
    (text ++ [10]).foldl scanChar st = st := by
  rw [List.foldl_append, foldl_scanChar h, hst, List.nil_append, List.foldl_cons, scanChar, if_pos rfl]
  dsimp only
  rw [hfind]
  obtain ⟨line, data, received, sent⟩ := st
  cases hst
  rfl

theorem foldl_kept (hst : st.line = []) {front msg : List UInt8} (hfront : 10 ∉ front) (hmsg : 10 ∉ msg)
    (hfind : find (ascii "] : ") (front ++ (ascii "] : " ++ msg)) = some front.length) :
    (front ++ (ascii "] : " ++ (msg ++ [10]))).foldl scanChar st = st.note msg := by
  have hline : 10 ∉ front ++ (ascii "] : " ++ msg) := by
    rw [List.mem_append, List.mem_append]
    exact not_or.mpr ⟨hfront, not_or.mpr ⟨by decide, hmsg⟩⟩
  have hrest : (front ++ (ascii "] : " ++ msg)).drop (front.length + 4) = msg := by
    rw [← List.append_assoc]
    apply List.drop_left'
    rw [List.length_append]
    rfl
  rw [← List.append_assoc (ascii "] : "), ← List.append_assoc front, List.foldl_append, foldl_scanChar hline, hst,
    List.nil_append, List.foldl_cons, scanChar, if_pos rfl]
  dsimp only
  rw [hfind]
  dsimp only
  rw [hrest, Scan.note]
  obtain ⟨line, data, received, sent⟩ := st
  cases hst
  split_ifs <;> rfl

/-- The separator is found behind any two bytes, brackets as well. -/
theorem find_separator (front msg : List UInt8) (h : front.length ≤ 2) :
    find (ascii "] : ") (front ++ (ascii "] : " ++ msg)) = some front.length := by
  match front, h with
  | [], _ => simp [find, ascii]
  | [v], _ => simp [find, ascii]
  | [u, v], _ => simp [find, ascii]

theorem find_stamp {date : List UInt8} (hdate : 93 ∉ date) (front : List UInt8) (h : front.length ≤ 2) (msg : List UInt8) :
    find (ascii "] : ") ((91 :: date ++ front) ++ (ascii "] : " ++ msg)) = some (91 :: date ++ front).length := by
  have hbracket : (93 : UInt8) ∉ 91 :: date := fun hmem => (List.mem_cons.mp hmem).elim (by decide) hdate
  rw [List.append_assoc, show ascii "] : " = 93 :: [32, 58, 32] from rfl, find_append hbracket,
    ← show ascii "] : " = 93 :: [32, 58, 32] from rfl, find_separator front msg h, List.length_append, Nat.add_comm]
  rfl

theorem find_torn {date : List UInt8} (hdate : 93 ∉ date) (front : List UInt8) (h : front.length ≤ 1) :
    find (ascii "] : ") (91 :: date ++ front) = none := by
  have hbracket : (93 : UInt8) ∉ 91 :: date := fun hmem => (List.mem_cons.mp hmem).elim (by decide) hdate
  rw [show ascii "] : " = 93 :: [32, 58, 32] from rfl, find_append hbracket]
  match front, h with
  | [], _ => rfl
  | [u], _ => simp [find]

/-- **Of a line of the log only the message counts**, wherever the last two bytes of its stamp break it. -/
theorem foldl_line (hst : st.line = []) (e : LogEntry) : e.line.foldl scanChar st = st.note e.msg := by
  obtain ⟨date, u, v, hstamp, hten, hbracket⟩ := e.dated.split
  have hfront : (10 : UInt8) ∉ 91 :: date := fun hmem => (List.mem_cons.mp hmem).elim (by decide) hten
  have hline : e.line = (91 :: date) ++ (u :: v :: (ascii "] : " ++ (e.msg ++ [10]))) := by
    rw [LogEntry.line, logLine, hstamp, List.append_assoc]
    rfl
  have hone : ∀ b : UInt8, b ≠ 10 → (10 : UInt8) ∉ [b] := fun b hb hmem => hb (List.mem_singleton.mp hmem).symm
  rw [hline]
  by_cases hu : u = 10
  · subst hu
    have hsplit : (91 :: date) ++ (10 :: v :: (ascii "] : " ++ (e.msg ++ [10]))) =
        (91 :: date ++ [10]) ++ (v :: (ascii "] : " ++ (e.msg ++ [10]))) := by simp
    rw [hsplit, List.foldl_append]
    have htorn := find_torn hbracket [] (Nat.zero_le 1)
    rw [List.append_nil] at htorn
    rw [foldl_dropped hst hfront htorn]
    by_cases hv : v = 10
    · subst hv
      rw [show (10 : UInt8) :: (ascii "] : " ++ (e.msg ++ [10])) = ([] ++ [10]) ++ ([] ++ (ascii "] : " ++ (e.msg ++ [10])))
        from rfl, List.foldl_append, foldl_dropped hst (by decide) rfl]
      exact foldl_kept hst (by decide) e.oneLine (find_separator [] _ (by decide))
    · exact foldl_kept hst (hone v hv) e.oneLine (find_separator [v] _ (Nat.le_succ 1))
  · by_cases hv : v = 10
    · subst hv
      have hsplit : (91 :: date) ++ (u :: 10 :: (ascii "] : " ++ (e.msg ++ [10]))) =
          (91 :: date ++ [u] ++ [10]) ++ ([] ++ (ascii "] : " ++ (e.msg ++ [10]))) := by simp
      have htext : (10 : UInt8) ∉ 91 :: date ++ [u] := fun hmem => (List.mem_append.mp hmem).elim hfront (hone u hu)
      rw [hsplit, List.foldl_append, foldl_dropped hst htext (find_torn hbracket [u] (Nat.le_refl 1))]
      exact foldl_kept hst (by decide) e.oneLine (find_separator [] _ (by decide))
    · have hsplit : (91 :: date) ++ (u :: v :: (ascii "] : " ++ (e.msg ++ [10]))) =
          (91 :: date ++ [u, v]) ++ (ascii "] : " ++ (e.msg ++ [10])) := by simp
      have htext : (10 : UInt8) ∉ 91 :: date ++ [u, v] := by
        intro hmem
        refine (List.mem_append.mp hmem).elim hfront fun htwo => ?_
        exact (List.mem_cons.mp htwo).elim (fun heq => hu heq.symm) (hone v hv)
      rw [hsplit]
      exact foldl_kept hst htext e.oneLine (find_stamp hbracket [u, v] (Nat.le_refl 2) _)

/-! ### The whole log -/

theorem foldl_log (hst : st.line = []) (es : List LogEntry) :
    (es.map LogEntry.line).flatten.foldl scanChar st = es.foldl (fun st e => st.note e.msg) st := by
  induction es generalizing st with
  | nil => rfl
  | cons e es ih =>
    have hnote : (st.note e.msg).line = [] := by
      rw [Scan.note]
      split_ifs <;> exact hst
    rw [List.map_cons, List.flatten_cons, List.foldl_append, foldl_line hst, List.foldl_cons]
    exact ih hnote

theorem start_unique {a b msg : List UInt8} (hab : ¬ a <+: b) (hba : ¬ b <+: a) (ha : a <+: msg) : ¬ b <+: msg :=
  fun hb => (List.prefix_or_prefix_of_prefix ha hb).elim hab hba

theorem note_data (st : Scan) (msg : List UInt8) :
    (st.note msg).data = if ascii "SAT " <+: msg then msg else st.data := by
  rw [Scan.note]
  split_ifs <;> rfl

theorem note_received (st : Scan) (msg : List UInt8) : (st.note msg).packetsReceived =
    st.packetsReceived + if ascii "[NETWORK] Message received from " <+: msg then 1 else 0 := by
  rw [Scan.note]
  by_cases hsat : ascii "SAT " <+: msg
  · rw [if_pos hsat, if_neg (start_unique (by decide) (by decide) hsat)]
    rfl
  · rw [if_neg hsat]
    split_ifs <;> rfl

theorem note_sent (st : Scan) (msg : List UInt8) : (st.note msg).packetsSent =
    st.packetsSent + if ascii "[NETWORK] Sent message to " <+: msg then 1 else 0 := by
  rw [Scan.note]
  by_cases hsat : ascii "SAT " <+: msg
  · rw [if_pos hsat, if_neg (start_unique (by decide) (by decide) hsat)]
    rfl
  rw [if_neg hsat]
  by_cases hreceived : ascii "[NETWORK] Message received from " <+: msg
  · rw [if_pos hreceived, if_neg (start_unique (by decide) (by decide) hreceived)]
    rfl
  · rw [if_neg hreceived]
    split_ifs <;> rfl

theorem notes_count {counter : Scan → Nat} {start : List UInt8}
    (hnote : ∀ st msg, counter (st.note msg) = counter st + if start <+: msg then 1 else 0) (st : Scan) (es : List LogEntry) :
    counter (es.foldl (fun st e => st.note e.msg) st) = counter st + es.countP fun e => start <+: e.msg := by
  induction es generalizing st with
  | nil => rfl
  | cons e es ih =>
    rw [List.foldl_cons, ih, hnote, List.countP_cons]
    simp only [decide_eq_true_eq]
    omega

theorem notes_data (st : Scan) (es : List LogEntry) : (es.foldl (fun st e => st.note e.msg) st).data =
    (((es.map LogEntry.msg).filter fun msg => ascii "SAT " <+: msg).getLast?).getD st.data := by
  induction es generalizing st with
  | nil => rfl
  | cons e es ih =>
    rw [List.foldl_cons, ih, note_data, List.map_cons, List.filter_cons]
    simp only [decide_eq_true_eq]
    split_ifs with hsat
    · rw [List.getLast?_cons]
      rfl
    · rfl

end

/-! ### The position -/

theorem ascii_line (p : Position) : ascii p.line = ascii "SAT" ++ 32 :: (ascii (toString p.id.toNat) ++
    32 :: (ascii "POS" ++ 32 :: (ascii p.x.text ++ 32 :: (ascii p.y.text ++ 32 :: (ascii p.z.text ++
      32 :: (ascii "VEL" ++ 32 :: (ascii p.vx.text ++ 32 :: (ascii p.vy.text ++ 32 :: (ascii p.vz.text ++ []))))))))) := by
  unfold Position.line
  simp only [ascii_append]
  simp only [List.append_assoc]
  generalize ascii (toString p.id.toNat) = id
  generalize ascii p.x.text = x, ascii p.y.text = y, ascii p.z.text = z
  generalize ascii p.vx.text = vx, ascii p.vy.text = vy, ascii p.vz.text = vz
  rw [List.append_nil]
  rfl

theorem sscanf_line (p : Position) : sscanf satFormat (ascii p.line) =
    [.int (Int32.ofInt (max (-2 ^ 63) (min (2 ^ 63 - 1) p.id.toNat))), .double p.x.value, .double p.y.value,
      .double p.z.value, .double p.vx.value, .double p.vy.value, .double p.vz.value] := by
  have hformat : satFormat = literal "SAT" ++ .space :: .int :: .space :: (literal "POS" ++ .space :: .double ::
      .space :: .double :: .space :: .double :: .space :: (literal "VEL" ++ .space :: .double :: .space :: .double ::
        .space :: .double :: [])) := rfl
  have hspace : ∀ s : List UInt8, (32 :: s = [] ∨ ∃ t, 32 :: s = 32 :: t) := fun s => .inr ⟨s, rfl⟩
  rw [hformat, ascii_line, literal, literal, literal, sscanf_bytes, sscanf_int _ (ends_of_space (hspace _)),
    sscanf_space (by decide) (by decide), sscanf_bytes, sscanf_double _ (hspace _), sscanf_double _ (hspace _),
    sscanf_double _ (hspace _), sscanf_space (by decide) (by decide), sscanf_bytes, sscanf_double _ (hspace _),
    sscanf_double _ (hspace _), sscanf_double _ (.inl rfl), sscanf]

theorem line_printable (p : Position) : ∀ b ∈ ascii p.line, 32 ≤ b.toNat := by
  have hfield : ∀ bs s : List UInt8, Graphic bs → (∀ b ∈ s, 32 ≤ b.toNat) → ∀ b ∈ bs ++ 32 :: s, 32 ≤ b.toNat := by
    intro bs s hbs hs b hb
    cases List.mem_append.mp hb with
    | inl hword => exact Nat.le_of_lt (hbs b hword)
    | inr hrest =>
      cases List.mem_cons.mp hrest with
      | inl hspace =>
        rw [hspace]
        decide
      | inr hrest => exact hs b hrest
  have hlast : ∀ b ∈ ascii p.vz.text ++ [], 32 ≤ b.toNat := by
    rw [List.append_nil]
    exact fun b hb => Nat.le_of_lt (graphic_text p.vz b hb)
  rw [ascii_line]
  apply hfield _ _ (by decide)
  apply hfield _ _ (graphic_toString _)
  apply hfield _ _ (by decide)
  apply hfield _ _ (graphic_text _)
  apply hfield _ _ (graphic_text _)
  apply hfield _ _ (graphic_text _)
  apply hfield _ _ (by decide)
  apply hfield _ _ (graphic_text _)
  apply hfield _ _ (graphic_text _)
  exact hlast

theorem cString_line (p : Position) : cString (ascii p.line) = ascii p.line := by
  rw [cString, List.takeWhile_eq_self_iff]
  intro b hb
  rw [decide_eq_true_eq]
  rintro rfl
  exact absurd (line_printable p 0 hb) (by decide)

theorem line_starts (p : Position) : ascii "SAT " <+: ascii p.line := by
  rw [ascii_line]
  exact ⟨_, rfl⟩

theorem line_values {p p' : Position} (h : ascii p.line = ascii p'.line) :
    p.x.value = p'.x.value ∧ p.y.value = p'.y.value ∧ p.z.value = p'.z.value ∧
      p.vx.value = p'.vx.value ∧ p.vy.value = p'.vy.value ∧ p.vz.value = p'.vz.value := by
  have hread := congrArg (sscanf satFormat) h
  rw [sscanf_line, sscanf_line] at hread
  simp only [List.cons.injEq, Scanned.double.injEq, and_true] at hread
  exact hread.2

/-! ### What the decoder makes of a log -/

section
variable {id : Int32} {chunk : List UInt8} {st : Scan} {alive : Bool}

theorem dataDecoder_counts (hid : 0 < id) (hchunk : chunk ≠ []) (hst : chunk.foldl scanChar {} = st) (hdata : st.data = []) :
    dataDecoder id chunk alive = .ok {
      id := id.toUInt32, chunks := chunk, packetsReceived := st.packetsReceived, packetsSent := st.packetsSent } := by
  subst hst
  rw [dataDecoder, assert_bind hid, if_neg hchunk]
  exact if_pos hdata

theorem dataDecoder_position (hid : 0 < id) (hchunk : chunk ≠ []) (hst : chunk.foldl scanChar {} = st) {p : Position}
    (hdata : st.data = ascii p.line) :
    dataDecoder id chunk alive = .ok {
      id := id.toUInt32, chunks := chunk, packetsReceived := st.packetsReceived, packetsSent := st.packetsSent
      x := p.x.value, y := p.y.value, z := p.z.value, vx := p.vx.value, vy := p.vy.value, vz := p.vz.value
      dump_msg := 1, alive } := by
  have hne : ascii p.line ≠ [] := by
    obtain ⟨rest, hline⟩ := line_starts p
    rw [← hline]
    exact List.cons_ne_nil _ _
  have hread := sscanf_line p
  rw [dataDecoder, assert_bind hid, if_neg hchunk]
  dsimp only
  rw [hst, hdata, if_neg hne, cString_line]
  generalize ascii p.line = line at hread
  rw [hread]
  rfl

end

variable {es : List LogEntry}

theorem log_ne_nil (h : es ≠ []) : (es.map LogEntry.line).flatten ≠ [] := by
  obtain ⟨e, es, rfl⟩ := List.exists_cons_of_ne_nil h
  exact List.cons_ne_nil _ _

theorem positions_eq_nil (h : ∀ e ∈ es, ¬ ascii "SAT " <+: e.msg) :
    (es.map LogEntry.msg).filter (fun msg => ascii "SAT " <+: msg) = [] := by
  rw [List.filter_eq_nil_iff]
  intro msg hmsg
  obtain ⟨e, he, rfl⟩ := List.mem_map.mp hmsg
  rw [decide_eq_true_eq]
  exact h e he

theorem notes_none (h : ∀ e ∈ es, ¬ ascii "SAT " <+: e.msg) :
    (es.foldl (fun st e => st.note e.msg) ({} : Scan)).data = [] := by
  rw [notes_data, positions_eq_nil h]
  rfl

theorem notes_last (pre : List LogEntry) {post : List LogEntry} {e : LogEntry} (hsat : ascii "SAT " <+: e.msg)
    (hpost : ∀ e' ∈ post, ¬ ascii "SAT " <+: e'.msg) :
    ((pre ++ e :: post).foldl (fun st e => st.note e.msg) ({} : Scan)).data = e.msg := by
  rw [notes_data, List.map_append, List.map_cons, List.filter_append, List.filter_cons, if_pos (decide_eq_true hsat),
    positions_eq_nil hpost, List.getLast?_append]
  rfl

theorem exists_last (h : ∃ e ∈ es, ascii "SAT " <+: e.msg) : ∃ pre e post, es = pre ++ e :: post ∧
    ascii "SAT " <+: e.msg ∧ ∀ e' ∈ post, ¬ ascii "SAT " <+: e'.msg := by
  induction es with
  | nil =>
    obtain ⟨e, he, -⟩ := h
    cases he
  | cons e es ih =>
    by_cases hlater : ∃ e ∈ es, ascii "SAT " <+: e.msg
    · obtain ⟨pre, e', post, rfl, hlast⟩ := ih hlater
      exact ⟨e :: pre, e', post, rfl, hlast⟩
    · obtain ⟨e', he', hsat⟩ := h
      cases List.mem_cons.mp he' with
      | inl heq => exact ⟨[], e, es, rfl, heq ▸ hsat, fun e'' he'' hsat' => hlater ⟨e'', he'', hsat'⟩⟩
      | inr hin => exact absurd ⟨e', hin, hsat⟩ hlater

/-- **The parser recovers what the logger wrote.** It counts the network messages of the log, and if there are position
lines, it shows what the last one says. -/
theorem dataDecoder_log {id : Int32} (hid : 0 < id) (es : List LogEntry) (alive : Bool) :
    ∃ out, dataDecoder id (es.map LogEntry.line).flatten alive = .ok out ∧
      out.packetsReceived = (es.countP fun e => ascii "[NETWORK] Message received from " <+: e.msg) ∧
      out.packetsSent = (es.countP fun e => ascii "[NETWORK] Sent message to " <+: e.msg) ∧
      (out.dump_msg = 1 ↔ ∃ e ∈ es, ascii "SAT " <+: e.msg) ∧
      ∀ pre e post, es = pre ++ e :: post → (∀ e' ∈ post, ¬ ascii "SAT " <+: e'.msg) → ∀ p : Position, e.msg = ascii p.line →
        out.x = p.x.value ∧ out.y = p.y.value ∧ out.z = p.z.value ∧
          out.vx = p.vx.value ∧ out.vy = p.vy.value ∧ out.vz = p.vz.value := by
  have hreceived := notes_count note_received {} es
  have hsent := notes_count note_sent {} es
  rw [Nat.zero_add] at hreceived hsent
  by_cases hempty : es = []
  · subst hempty
    refine ⟨_, dataDecoder_status hid alive, rfl, rfl, ?_, ?_⟩
    · constructor
      · intro hone
        cases hone
      · rintro ⟨e, he, -⟩
        cases he
    · intro pre e post heq
      cases pre <;> cases heq
  by_cases hsat : ∃ e ∈ es, ascii "SAT " <+: e.msg
  · obtain ⟨pre, e, post, heq, hstart, hpost⟩ := exists_last hsat
    obtain ⟨p, hp⟩ := e.sat hstart
    have hdata : (es.foldl (fun st e => st.note e.msg) ({} : Scan)).data = ascii p.line := by
      rw [heq, notes_last pre hstart hpost, hp]
    refine ⟨_, dataDecoder_position hid (log_ne_nil hempty) (foldl_log rfl es) hdata, hreceived, hsent,
      ⟨fun _ => hsat, fun _ => rfl⟩, ?_⟩
    intro pre' e' post' heq' hpost' p' hp'
    have hstart' : ascii "SAT " <+: e'.msg := by
      rw [hp']
      exact line_starts p'
    apply line_values
    rw [← hdata, heq', notes_last pre' hstart' hpost', hp']
  · have hnone : ∀ e ∈ es, ¬ ascii "SAT " <+: e.msg := fun e he hstart => hsat ⟨e, he, hstart⟩
    refine ⟨_, dataDecoder_counts hid (log_ne_nil hempty) (foldl_log rfl es) (notes_none hnone), hreceived, hsent,
      ⟨fun hone => ?_, fun h => absurd h hsat⟩, ?_⟩
    · cases hone
    · intro pre e post heq hpost p hp
      have hmem : e ∈ es := by
        rw [heq]
        exact List.mem_append_right _ (List.mem_cons_self ..)
      have hstart : ascii "SAT " <+: e.msg := by
        rw [hp]
        exact line_starts p
      exact absurd hstart (hnone e hmem)

/-- What `Satellite::print` logs. -/
def entry (p : Position) (stamp : Block 19) (dated : Dated stamp) : LogEntry where
  stamp
  msg := ascii p.line
  dated
  nonempty := by
    obtain ⟨rest, hline⟩ := line_starts p
    rw [← hline]
    exact List.cons_ne_nil _ _
  oneLine hten := absurd (line_printable p 10 hten) (by decide)
  sat _ := ⟨p, rfl⟩

theorem print_entry {s : Satellite} {line : String} (h : Effect.log line ∈ s.print) {stamp : Block 19} (dated : Dated stamp) :
    (entry s.position stamp dated).msg = ascii line := by
  rw [Satellite.print, List.mem_singleton, Effect.log.injEq] at h
  rw [h, entry]

/-- The last two bytes of this stamp are a line break and a bracket. -/
def torn : Block 19 := ⟨ascii "2026-05-07 12:30:\n]", by decide⟩

def heard : LogEntry where
  stamp := torn
  msg := ascii "[NETWORK] Message received from Ground Control"
  dated := by decide
  nonempty := by decide
  oneLine := by decide
  sat hstart := absurd hstart (by decide)

/-- Satellite 1 at rest. -/
def parked : Position where
  id := 1
  x := .fixed true 1500000
  y := .fixed false 0
  z := .fixed false 25
  vx := .fixed false 0
  vy := .fixed true 0
  vz := .fixed false 7

theorem dataDecoder_log_parked : ∃ out,
    dataDecoder 1 ([heard, entry parked torn (by decide)].map LogEntry.line).flatten true = .ok out ∧
      out.packetsReceived = 1 ∧ out.packetsSent = 0 ∧ out.dump_msg = 1 ∧ out.x = .rat (-3 / 2) := by
  obtain ⟨out, hout, hreceived, hsent, hdump, hlast⟩ :=
    dataDecoder_log (show (0 : Int32) < 1 by decide) [heard, entry parked torn (by decide)] true
  refine ⟨out, hout, ?_, ?_, ?_, ?_⟩
  · rw [hreceived]
    decide
  · rw [hsent]
    decide
  · exact hdump.mpr ⟨_, List.mem_cons_of_mem _ (List.mem_cons_self ..), line_starts parked⟩
  · rw [(hlast [heard] _ [] rfl nofun parked rfl).1, parked, Printed.value, Scanf.applySign, if_pos rfl]
    norm_num

end Parser

end Constellation
