import Constellation.GroundControl.Boot
import Constellation.GroundControl.Parser
import Constellation.GroundControl.Status
import Constellation.GroundControl.Terminal
import Constellation.Lib.Numeral
import Constellation.Lib.Pattern

/-!
# What the operator types

A line that is entered is compared with a regular expression, scanned for seven numbers and handed on as a
command if the terminal has a satellite with its id (`enter`). The lines that match are those of the grammar
`TypedLine` (`pattern_rmatch_iff`), and the scan reads all seven numbers of such a line.

The numbers are read as they are written, except for the id: `%d` stops at the largest `long` and keeps 32 bits
of it. So a line is decoded faithfully exactly if its id fits an `int`, or what is left of it is the id of no
satellite (`faithful_iff`).
-/

namespace Constellation

open Scanf

/-- A `CommandInput` with its numbers as they are written, not yet rounded to doubles. -/
structure WrittenCommand where
  id : UInt32
  new_x : Real64
  new_y : Real64
  new_z : Real64
  new_vx : Real64
  new_vy : Real64
  new_vz : Real64
  deriving DecidableEq

namespace Parser

/-- The format `"%d %lf %lf %lf %lf %lf %lf"`. -/
def commandFormat : List Directive := .int :: (threeDoubles ++ threeDoubles)

/-- `com` is what the memory of the result held before. A failure is told on the standard error only. -/
def commandDecoder (com : WrittenCommand) (command : List UInt8) : Except Stop WrittenCommand := do
  assert (command ≠ []) "!command.empty()"
  match sscanf commandFormat (cString command) with
  | [.int satId, .double x, .double y, .double z, .double vx, .double vy, .double vz] =>
    return {
      id := satId.toUInt32
      new_x := x
      new_y := y
      new_z := z
      new_vx := vx
      new_vy := vy
      new_vz := vz }
  | _ => return com

end Parser

namespace Terminal

open RegularExpression

/-- `\d`. -/
def digit : RegularExpression UInt8 := oneOf (ascii "0123456789")

/-- ` -?\d+(\.\d+)?`, with the space in front. -/
def decimal : RegularExpression UInt8 :=
  char 32 * (optional (char 45) * (oneOrMore digit * optional (char 46 * oneOrMore digit)))

/-- The pattern of `checkRegex`. -/
def pattern : RegularExpression UInt8 :=
  oneOrMore digit * (decimal * (decimal * (decimal * (decimal * (decimal * decimal)))))

/-- Whether the format is correct, and the error message after the call. -/
def checkRegex (input : List UInt8) (errorMsg : String) : Bool × String :=
  if pattern.rmatch input then (true, errorMsg)
  else (false, "Invalid format; Format: id x y z vx vy vz; or quit")

/-- What is shown at the bottom of the screen. -/
structure Prompt where
  input : List UInt8
  errorMsg : String

/-- What a pressed enter does. -/
structure Entered where
  prompt : Prompt
  /-- What is pushed on the input queue. -/
  queued : List WrittenCommand
  running : Bool

/-- The loop of `run` when enter is pressed. -/
def enter (t : Terminal) (com : WrittenCommand) (p : Prompt) : Except Stop Entered :=
  if p.input = ascii "quit" then .ok { prompt := p, queued := [], running := false }
  else
    match checkRegex p.input p.errorMsg with
    | (false, errorMsg) => .ok { prompt := { p with errorMsg }, queued := [], running := true }
    | (true, _) => do
      let com ← Parser.commandDecoder com p.input
      if com.id.toInt32 ∉ t.sats then
        return {
          prompt := ⟨[], "Satellite with id: " ++ toString com.id ++ " does not exist\n"⟩
          queued := []
          running := true }
      else return { prompt := ⟨[], ""⟩, queued := [com], running := true }

end Terminal

/-! ### The grammar -/

/-- A line as the error message asks for it. -/
structure TypedLine where
  id : Numeral
  x : Written
  y : Written
  z : Written
  vx : Written
  vy : Written
  vz : Written

/-- A number behind a space. -/
def Written.field (w : Written) : List UInt8 := 32 :: w.bytes

def TypedLine.bytes (l : TypedLine) : List UInt8 :=
  l.id.bytes ++ (l.x.field ++ (l.y.field ++ (l.z.field ++ (l.vx.field ++ (l.vy.field ++ l.vz.field)))))

namespace Terminal

open RegularExpression

section
variable {s : List UInt8}

theorem mem_digits_iff {b : UInt8} : b ∈ ascii "0123456789" ↔ (decDigit b).isSome := by
  constructor
  · intro hb
    have hall : ∀ b ∈ ascii "0123456789", (decDigit b).isSome := by decide +kernel
    exact hall b hb
  · intro hb
    obtain ⟨d, hd⟩ := Option.isSome_iff_exists.mp hb
    obtain ⟨hlow, hhigh⟩ := decDigit_range hd
    have hlist : ∀ n, 48 ≤ n → n ≤ 57 → UInt8.ofNat n ∈ ascii "0123456789" := by decide +kernel
    have hmem := hlist b.toNat hlow hhigh
    rwa [UInt8.ofNat_toNat] at hmem

theorem digits_rmatch_iff : (oneOrMore digit).rmatch s = true ↔ ∃ n : Numeral, n.bytes = s := by
  rw [digit, oneOrMore_oneOf_rmatch_iff]
  constructor
  · rintro ⟨hne, hdigits⟩
    exact ⟨⟨s, hne, fun b hb => mem_digits_iff.mp (hdigits b hb)⟩, rfl⟩
  · rintro ⟨n, rfl⟩
    exact ⟨n.ne_nil, fun b hb => mem_digits_iff.mpr (n.digits b hb)⟩

theorem fraction_rmatch_iff : (optional (char 46 * oneOrMore digit)).rmatch s = true ↔
    ∃ f : Option Numeral, (f.elim [] fun f => 46 :: f.bytes) = s := by
  rw [optional_rmatch_iff, char_mul_rmatch_iff]
  constructor
  · rintro (rfl | ⟨t, rfl, ht⟩)
    · exact ⟨none, rfl⟩
    · obtain ⟨n, rfl⟩ := digits_rmatch_iff.mp ht
      exact ⟨some n, rfl⟩
  · rintro ⟨f, rfl⟩
    cases f with
    | none => exact .inl rfl
    | some n => exact .inr ⟨n.bytes, rfl, digits_rmatch_iff.mpr ⟨n, rfl⟩⟩

theorem minus_rmatch_iff : (optional (char (45 : UInt8))).rmatch s = true ↔ ∃ neg, ascii (Printed.minus neg) = s := by
  rw [optional_rmatch_iff, char_rmatch_iff]
  constructor
  · rintro (rfl | rfl)
    · exact ⟨false, rfl⟩
    · exact ⟨true, rfl⟩
  · rintro ⟨neg, rfl⟩
    cases neg with
    | false => exact .inl rfl
    | true => exact .inr rfl

theorem decimal_rmatch_iff : decimal.rmatch s = true ↔ ∃ w : Written, w.field = s := by
  rw [decimal, char_mul_rmatch_iff]
  simp only [mul_rmatch_iff, minus_rmatch_iff, digits_rmatch_iff, fraction_rmatch_iff]
  constructor
  · rintro ⟨t, rfl, minus, rest, rfl, ⟨neg, rfl⟩, digits, frac, rfl, ⟨whole, rfl⟩, ⟨f, rfl⟩⟩
    exact ⟨⟨neg, whole, f⟩, rfl⟩
  · rintro ⟨w, rfl⟩
    exact ⟨w.bytes, rfl, _, _, rfl, ⟨w.neg, rfl⟩, _, _, rfl, ⟨w.whole, rfl⟩, ⟨w.frac, rfl⟩⟩

/-- **The lines that match are those of the grammar.** -/
theorem pattern_rmatch_iff : pattern.rmatch s = true ↔ ∃ l : TypedLine, l.bytes = s := by
  rw [pattern]
  simp only [mul_rmatch_iff, decimal_rmatch_iff, digits_rmatch_iff]
  constructor
  · rintro ⟨_, _, rfl, ⟨id, rfl⟩, _, _, rfl, ⟨x, rfl⟩, _, _, rfl, ⟨y, rfl⟩, _, _, rfl, ⟨z, rfl⟩, _, _, rfl, ⟨vx, rfl⟩,
      _, _, rfl, ⟨vy, rfl⟩, ⟨vz, rfl⟩⟩
    exact ⟨⟨id, x, y, z, vx, vy, vz⟩, rfl⟩
  · rintro ⟨l, rfl⟩
    exact ⟨_, _, rfl, ⟨l.id, rfl⟩, _, _, rfl, ⟨l.x, rfl⟩, _, _, rfl, ⟨l.y, rfl⟩, _, _, rfl, ⟨l.z, rfl⟩, _, _, rfl,
      ⟨l.vx, rfl⟩, _, _, rfl, ⟨l.vy, rfl⟩, ⟨l.vz, rfl⟩⟩

end

end Terminal

/-! ### Scanning a line -/

/-- What `%d` makes of the id: the number, cut off at the largest `long`, modulo 2^32. So a line whose number does not
fit an `int` is a line for another satellite, or for none. -/
def TypedLine.scannedId (l : TypedLine) : Int32 := Int32.ofInt (min (2 ^ 63 - 1) l.id.value)

/-- The command with the numbers of the line, under the id that is read. -/
def TypedLine.command (l : TypedLine) : WrittenCommand where
  id := l.scannedId.toUInt32
  new_x := .rat l.x.value
  new_y := .rat l.y.value
  new_z := .rat l.z.value
  new_vx := .rat l.vx.value
  new_vy := .rat l.vy.value
  new_vz := .rat l.vz.value

section
variable {l : TypedLine} {ds : List Directive}

theorem Written.visible (w : Written) : ∃ b bs, w.bytes = b :: bs ∧ 32 < b.toNat := by
  obtain ⟨b, bs, d, heq, hd⟩ := w.whole.front
  rw [Written.bytes, Written.unsigned, heq]
  cases w.neg with
  | true => exact ⟨45, _, rfl, by decide⟩
  | false =>
    have hrange := decDigit_range hd
    exact ⟨b, _, rfl, by omega⟩

theorem sscanf_field (w : Written) {rest : List UInt8} (hrest : rest = [] ∨ ∃ t, rest = 32 :: t) :
    sscanf (.space :: .double :: ds) (w.field ++ rest) = .double (.rat w.value) :: sscanf ds rest := by
  obtain ⟨b, bs, heq, hb⟩ := w.visible
  have hskip : skipSpace (w.field ++ rest) = w.bytes ++ rest := by
    rw [Written.field, List.cons_append, heq]
    exact skipSpace_visible hb (bs ++ rest)
  rw [sscanf, hskip, sscanf, scanDouble_written w hrest]

theorem field_space (w : Written) (rest : List UInt8) :
    w.field ++ rest = [] ∨ ∃ t, w.field ++ rest = 32 :: t := .inr ⟨_, rfl⟩

/-- **All seven numbers of a line are read.** -/
theorem sscanf_line (l : TypedLine) : sscanf Parser.commandFormat l.bytes =
    [.int l.scannedId, .double (.rat l.x.value), .double (.rat l.y.value), .double (.rat l.z.value),
      .double (.rat l.vx.value), .double (.rat l.vy.value), .double (.rat l.vz.value)] := by
  have hlast : ∀ ds, sscanf (.space :: .double :: ds) l.vz.field = .double (.rat l.vz.value) :: sscanf ds [] := by
    intro ds
    have hread : sscanf (.space :: .double :: ds) (l.vz.field ++ []) = _ := sscanf_field l.vz (.inl rfl)
    rwa [List.append_nil] at hread
  have hspace : l.vz.field = [] ∨ ∃ t, l.vz.field = 32 :: t := .inr ⟨_, rfl⟩
  have hid : Int32.ofInt (max (-2 ^ 63) (min (2 ^ 63 - 1) l.id.value)) = l.scannedId := by
    rw [TypedLine.scannedId]
    congr 1
    have hpos : (0 : Int) ≤ l.id.value := Int.natCast_nonneg _
    omega
  rw [Parser.commandFormat, Parser.threeDoubles, TypedLine.bytes, sscanf,
    scanInt_numeral l.id (ends_of_space (field_space l.x _)), hid]
  dsimp only [List.cons_append, List.nil_append]
  rw [sscanf_field l.x (field_space l.y _), sscanf_field l.y (field_space l.z _),
    sscanf_field l.z (field_space l.vx _), sscanf_field l.vx (field_space l.vy _), sscanf_field l.vy hspace, hlast]
  rfl

theorem TypedLine.ne_nil (l : TypedLine) : l.bytes ≠ [] := by
  obtain ⟨b, bs, d, heq, -⟩ := l.id.front
  rw [TypedLine.bytes, heq]
  exact List.cons_ne_nil b _

theorem TypedLine.ne_quit (l : TypedLine) : l.bytes ≠ ascii "quit" := by
  obtain ⟨b, bs, d, heq, hd⟩ := l.id.front
  rw [TypedLine.bytes, heq, List.cons_append]
  intro hquit
  have hb : b = 113 := (List.cons.inj hquit).1
  rw [hb] at hd
  cases hd

theorem TypedLine.cString_bytes (l : TypedLine) : Parser.cString l.bytes = l.bytes := by
  have hnumeral : ∀ n : Numeral, ∀ b ∈ n.bytes, b ≠ 0 := by
    rintro n b hb rfl
    exact absurd (n.graphic 0 hb) (by decide)
  have hfield : ∀ w : Written, ∀ b ∈ w.field, b ≠ 0 := by
    intro w b hb
    rcases List.mem_cons.mp hb with rfl | hb
    · decide
    rcases List.mem_append.mp hb with hb | hb
    · cases hneg : w.neg with
      | true =>
        rw [hneg] at hb
        rw [List.mem_singleton.mp hb]
        decide
      | false =>
        rw [hneg] at hb
        cases hb
    rcases List.mem_append.mp hb with hb | hb
    · exact hnumeral w.whole b hb
    · cases hfrac : w.frac with
      | none =>
        rw [hfrac] at hb
        cases hb
      | some f =>
        rw [hfrac] at hb
        rcases List.mem_cons.mp hb with rfl | hb
        · decide
        · exact hnumeral f b hb
  rw [Parser.cString, List.takeWhile_eq_self_iff]
  intro b hb
  have hne : b ≠ 0 := by
    simp only [TypedLine.bytes, List.mem_append] at hb
    rcases hb with hb | hb | hb | hb | hb | hb | hb
    · exact hnumeral l.id b hb
    · exact hfield l.x b hb
    · exact hfield l.y b hb
    · exact hfield l.z b hb
    · exact hfield l.vx b hb
    · exact hfield l.vy b hb
    · exact hfield l.vz b hb
  simpa using hne

theorem Parser.commandDecoder_line (com : WrittenCommand) (l : TypedLine) :
    Parser.commandDecoder com l.bytes = .ok l.command := by
  rw [Parser.commandDecoder, assert_bind l.ne_nil, l.cString_bytes, sscanf_line]
  rfl

theorem Terminal.enter_line (t : Terminal) (com : WrittenCommand) (errorMsg : String) (l : TypedLine) :
    ∃ e, t.enter com ⟨l.bytes, errorMsg⟩ = .ok e ∧ e.queued = if l.scannedId ∈ t.sats then [l.command] else [] := by
  have hmatch : Terminal.pattern.rmatch l.bytes = true := Terminal.pattern_rmatch_iff.mpr ⟨l, rfl⟩
  have hkey : l.command.id.toInt32 = l.scannedId := Int32.toInt32_toUInt32 _
  rw [Terminal.enter, if_neg l.ne_quit, Terminal.checkRegex, if_pos hmatch]
  dsimp only
  rw [Parser.commandDecoder_line, ok_bind, hkey]
  by_cases hknown : l.scannedId ∈ t.sats
  · rw [if_neg fun hnot => hnot hknown, if_pos hknown]
    exact ⟨_, rfl, rfl⟩
  · rw [if_pos hknown, if_neg hknown]
    exact ⟨_, rfl, rfl⟩

end

/-- A line is decoded faithfully: its seven fields are read, it queues a command exactly if a satellite has the number
that is written for an id, and the command says what is written. -/
structure Faithful (t : Terminal) (com : WrittenCommand) (errorMsg : String) (l : TypedLine) : Prop where
  parsed : (sscanf Parser.commandFormat (Parser.cString l.bytes)).length = 7
  queues : ∃ e, t.enter com ⟨l.bytes, errorMsg⟩ = .ok e ∧
    ((∃ c, e.queued = [c]) ↔ ∃ id ∈ t.sats, id.toInt = l.id.value) ∧
    ∀ c ∈ e.queued, c.id.toNat = l.id.value ∧ c.new_x = .rat l.x.value ∧ c.new_y = .rat l.y.value ∧
      c.new_z = .rat l.z.value ∧ c.new_vx = .rat l.vx.value ∧ c.new_vy = .rat l.vy.value ∧ c.new_vz = .rat l.vz.value

section
variable {l : TypedLine}

theorem scannedId_fits (hfits : l.id.value < 2 ^ 31) :
    l.scannedId.toInt = l.id.value ∧ l.scannedId.toUInt32.toNat = l.id.value := by
  have hmin : min (2 ^ 63 - 1) (l.id.value : Int) = l.id.value := by omega
  rw [TypedLine.scannedId, hmin]
  refine ⟨Int32.toInt_ofInt_of_le (by omega) (by omega), ?_⟩
  rw [Int32.ofInt_eq_ofNat, Int32.toUInt32_ofNat', UInt32.toNat_ofNat']
  omega

theorem not_id_of_large (hlarge : ¬ l.id.value < 2 ^ 31) (id : Int32) : id.toInt ≠ l.id.value := by
  have hlt := id.toInt_lt
  omega

end

/-- **When the operator is understood.** The lines that pass the check are those of the grammar, and one of them is
decoded faithfully exactly if its id fits an `int`, or no satellite has the id that is left of it. -/
theorem faithful_iff (t : Terminal) (com : WrittenCommand) (errorMsg : String) :
    (∀ input, (Terminal.checkRegex input errorMsg).1 = true ↔ ∃ l : TypedLine, l.bytes = input) ∧
      ∀ l : TypedLine, Faithful t com errorMsg l ↔
        l.id.value < 2 ^ 31 ∨ Int32.ofInt (min (2 ^ 63 - 1) l.id.value) ∉ t.sats := by
  refine ⟨fun input => ?_, fun l => ?_⟩
  · rw [← Terminal.pattern_rmatch_iff, Terminal.checkRegex]
    split_ifs with hmatch <;> simp [hmatch]
  obtain ⟨e, henter, hqueued⟩ := t.enter_line com errorMsg l
  change _ ↔ _ ∨ l.scannedId ∉ t.sats
  have hparsed : (sscanf Parser.commandFormat (Parser.cString l.bytes)).length = 7 := by
    rw [l.cString_bytes, sscanf_line]
    rfl
  constructor
  · rintro ⟨-, e', henter', hiff, -⟩
    rw [henter] at henter'
    cases henter'
    by_contra hnot
    obtain ⟨hlarge, hknown⟩ := not_or.mp hnot
    rw [if_pos (not_not.mp hknown)] at hqueued
    obtain ⟨id, -, hid⟩ := hiff.mp ⟨l.command, hqueued⟩
    exact not_id_of_large hlarge id hid
  · intro hcond
    by_cases hknown : l.scannedId ∈ t.sats
    · have hfits : l.id.value < 2 ^ 31 := hcond.resolve_right fun hnot => hnot hknown
      obtain ⟨hint, hnat⟩ := scannedId_fits hfits
      rw [if_pos hknown] at hqueued
      refine ⟨hparsed, e, henter, ⟨fun _ => ⟨l.scannedId, hknown, hint⟩, fun _ => ⟨l.command, hqueued⟩⟩, ?_⟩
      intro c hc
      rw [hqueued, List.mem_singleton] at hc
      rw [hc]
      exact ⟨hnat, rfl, rfl, rfl, rfl, rfl, rfl⟩
    · rw [if_neg hknown] at hqueued
      refine ⟨hparsed, e, henter, ⟨?_, ?_⟩, fun c hc => ?_⟩
      · rintro ⟨c, hc⟩
        rw [hqueued] at hc
        cases hc
      · rintro ⟨id, hin, hid⟩
        by_cases hfits : l.id.value < 2 ^ 31
        · have heq : id = l.scannedId := Int32.toInt_inj.mp (hid.trans (scannedId_fits hfits).1.symm)
          rw [heq] at hin
          exact absurd hin hknown
        · exact absurd hid (not_id_of_large hfits id)
      · rw [hqueued] at hc
        cases hc

/-- The id is one more than 2^32. -/
def wrappingLine : TypedLine :=
  let still : Written := ⟨false, .ofNat 0, none⟩
  ⟨.ofNat 4294967297, still, still, still, still, still, still⟩

/-- The line whose id wraps commands satellite 1. -/
theorem wrappingLine_commands : wrappingLine.bytes = ascii "4294967297 0 0 0 0 0 0" ∧
    ∃ st w, Station.connectToSatellites Station.calm (Station.init (filled 0)) Station.oneLine = .ok (st, w) ∧
      ∀ com, (∃ e, st.terminal.enter com ⟨wrappingLine.bytes, ""⟩ = .ok e ∧ e.queued = [wrappingLine.command] ∧
        wrappingLine.command.id = 1) ∧ ¬ Faithful st.terminal com "" wrappingLine := by
  have hvalue : wrappingLine.id.value = 4294967297 := Numeral.value_ofNat _
  have hscanned : wrappingLine.scannedId = 1 := by
    rw [TypedLine.scannedId, hvalue]
    decide
  obtain ⟨st, w, hboot, hone⟩ : ∃ st w, Station.connectToSatellites Station.calm (Station.init (filled 0))
      Station.oneLine = .ok (st, w) ∧ (1 : Int32) ∈ st.terminal.sats := ⟨_, _, rfl, by decide⟩
  refine ⟨by decide, st, w, hboot, fun com => ?_⟩
  obtain ⟨e, henter, hqueued⟩ := st.terminal.enter_line com "" wrappingLine
  rw [hscanned, if_pos hone] at hqueued
  refine ⟨⟨e, henter, hqueued, ?_⟩, ?_⟩
  · rw [TypedLine.command, hscanned]
    rfl
  · rintro ⟨-, e', henter', hiff, -⟩
    rw [henter] at henter'
    cases henter'
    obtain ⟨id, -, hid⟩ := hiff.mp ⟨_, hqueued⟩
    rw [hvalue] at hid
    have hlt := id.toInt_lt
    omega

end Constellation
