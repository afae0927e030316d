import Mathlib.Data.List.Induction
import Mathlib.Tactic.FieldSimp
import Mathlib.Tactic.Ring
import Constellation.Lib.Decimal

/-!
# Numbers as they are written

Strings of digits, and decimal numbers made of them: an optional minus, digits, and a point with more digits.
The conversions `%d` and `%lf` read them whole where a space or nothing follows, `%d` as far as an `int` goes
(`scanInt_numeral`), `%lf` for what they say (`scanDouble_written`).
-/

namespace Constellation

open Scanf

/-- A string of digits, not empty. -/
structure Numeral where
  bytes : List UInt8
  ne_nil : bytes ≠ []
  digits : ∀ b ∈ bytes, (decDigit b).isSome

namespace Numeral

/-- The natural number that is written. -/
def value (n : Numeral) : Nat := Scanf.value 10 (n.bytes.filterMap decDigit)

theorem front (n : Numeral) : ∃ b bs d, n.bytes = b :: bs ∧ decDigit b = some d := by
  obtain ⟨b, bs, heq⟩ := List.exists_cons_of_ne_nil n.ne_nil
  have hb : b ∈ n.bytes := by
    rw [heq]
    exact List.mem_cons_self
  obtain ⟨d, hd⟩ := Option.isSome_iff_exists.mp (n.digits b hb)
  exact ⟨b, bs, d, heq, hd⟩

theorem read_ne_nil (n : Numeral) : n.bytes.filterMap decDigit ≠ [] := by
  obtain ⟨b, bs, d, heq, hd⟩ := n.front
  rw [heq, List.filterMap_cons_some hd]
  exact List.cons_ne_nil d _

theorem length_read (n : Numeral) : (n.bytes.filterMap decDigit).length = n.bytes.length := by
  rw [List.length_filterMap_eq_countP, List.countP_eq_length]
  exact n.digits

theorem graphic (n : Numeral) : Graphic n.bytes := by
  intro b hb
  obtain ⟨d, hd⟩ := Option.isSome_iff_exists.mp (n.digits b hb)
  have hrange := decDigit_range hd
  omega

theorem digits_toString (n : Nat) : ∀ b ∈ ascii (toString n), (decDigit b).isSome := by
  intro b hb
  rw [ascii_toString] at hb
  obtain ⟨c, hc, rfl⟩ := List.mem_map.mp hb
  rw [decDigit_isDigit (Nat.isDigit_of_mem_toDigits (by decide) (by decide) hc)]
  rfl

/-- The digits of a natural number. -/
def ofNat (n : Nat) : Numeral := ⟨ascii (toString n), toString_ne_nil n, digits_toString n⟩

theorem value_ofNat (n : Nat) : (ofNat n).value = n := by
  have hends : Ends [] := nofun
  have hbytes := digits_bytes (digits_toString n) hends
  have hchars := digits_append (fun c hc => Nat.isDigit_of_mem_toDigits (n := n) (b := 10) (by decide) (by decide) hc) hends
  rw [ascii_toString, hchars] at hbytes
  have hread : (ascii (toString n)).filterMap decDigit = (Nat.toDigits 10 n).map (·.toNat - 48) := by
    rw [ascii_toString]
    exact (congrArg Prod.fst hbytes).symm
  rw [value, ofNat, hread, value_digits, Nat.ofDigitChars_ten_toDigits]

end Numeral

/-- A decimal number. -/
structure Written where
  neg : Bool
  whole : Numeral
  frac : Option Numeral

namespace Written

/-- The bytes without the minus. -/
def unsigned (w : Written) : List UInt8 := w.whole.bytes ++ w.frac.elim [] fun f => 46 :: f.bytes

def bytes (w : Written) : List UInt8 := ascii (Printed.minus w.neg) ++ w.unsigned

/-- The rational number that is written. -/
def value (w : Written) : ℚ :=
  applySign w.neg (w.whole.value + w.frac.elim 0 fun f => f.value / (10 : ℚ) ^ f.bytes.length)

end Written

namespace Scanf

theorem value_append (base : Nat) (ds es : List Nat) : value base (ds ++ es) = value base ds * base ^ es.length + value base es := by
  induction es using List.reverseRecOn with
  | nil => simp [value]
  | append_singleton es e ih =>
    have hsnoc : ∀ ds, value base (ds ++ [e]) = value base ds * base + e := by
      intro ds
      rw [value, List.foldl_append]
      rfl
    rw [← List.append_assoc, hsnoc, ih, hsnoc, List.length_append, List.length_singleton, pow_succ]
    ring

/-- **`%d` reads a string of digits**, as far as it fits. -/
theorem scanInt_numeral (n : Numeral) {rest : List UInt8} (hends : Ends rest) :
    scanInt (n.bytes ++ rest) = some (Int32.ofInt (max (-2 ^ 63) (min (2 ^ 63 - 1) n.value)), rest) := by
  obtain ⟨b, bs, d, heq, hd⟩ := n.front
  have hread := digits_bytes n.digits hends
  obtain ⟨hspace, hsign⟩ := skip_digit hd (bs ++ rest)
  have hvalue : value 10 (n.bytes.filterMap decDigit) = n.value := rfl
  rw [heq, List.filterMap_cons_some hd, List.cons_append] at hread
  rw [heq, List.filterMap_cons_some hd] at hvalue
  rw [heq, List.cons_append, scanInt, hspace, hsign]
  dsimp only
  rw [hread]
  dsimp only
  rw [hvalue]
  rfl

theorem stoi_numeral {n : Numeral} {v : Int32} (hv : v.toInt = n.value) : stoi n.bytes = some v := by
  obtain ⟨b, bs, d, heq, hd⟩ := n.front
  have hends : Ends [] := nofun
  have hread := digits_bytes n.digits hends
  obtain ⟨hspace, hsign⟩ := skip_digit hd bs
  have hvalue : value 10 (n.bytes.filterMap decDigit) = n.value := rfl
  have hfits : -2 ^ 31 ≤ (n.value : Int) ∧ (n.value : Int) < 2 ^ 31 := by
    rw [← hv]
    exact ⟨v.le_toInt, v.toInt_lt⟩
  rw [List.append_nil, heq, List.filterMap_cons_some hd] at hread
  rw [heq, List.filterMap_cons_some hd] at hvalue
  rw [heq, stoi, hspace, hsign]
  dsimp only
  rw [hread]
  dsimp only
  rw [hvalue, applySign, if_neg Bool.false_ne_true, if_pos hfits, ← hv, Int32.ofInt_toInt]

theorem mantissa_whole (base : Nat) {digit : UInt8 → Option Nat} {s rest : List UInt8} {whole : List Nat}
    (hwhole : digits digit s = (whole, rest)) (hne : whole ≠ []) (hrest : rest = [] ∨ ∃ t, rest = 32 :: t) :
    mantissa digit base s = some ((value base whole : ℚ), rest) := by
  have hmantissa : mantissa digit base s = if whole = [] ∧ ([] : List Nat) = [] then none
      else some (value base (whole ++ []) / (base : ℚ) ^ ([] : List Nat).length, rest) := by
    rw [mantissa, hwhole]
    obtain rfl | ⟨t, rfl⟩ := hrest
    · rfl
    · rfl
  rw [hmantissa, if_neg fun hboth => hne hboth.1, List.append_nil, List.length_nil, pow_zero, div_one]

theorem exponent_space {rest : List UInt8} (hrest : rest = [] ∨ ∃ t, rest = 32 :: t) :
    exponent 101 69 rest = some (0, rest) := by
  obtain rfl | ⟨t, rfl⟩ := hrest
  · rfl
  · rfl

theorem number_written (w : Written) {rest : List UInt8} (hrest : rest = [] ∨ ∃ t, rest = 32 :: t) :
    number decDigit 10 101 69 10 (w.unsigned ++ rest) =
      some ((w.whole.value + w.frac.elim 0 fun f => f.value / (10 : ℚ) ^ f.bytes.length : ℚ), rest) := by
  have hends := ends_of_space hrest
  have hmantissa : mantissa decDigit 10 (w.unsigned ++ rest) =
      some ((w.whole.value + w.frac.elim 0 fun f => f.value / (10 : ℚ) ^ f.bytes.length : ℚ), rest) := by
    rw [Written.unsigned, List.append_assoc]
    cases w.frac with
    | none =>
      rw [Option.elim_none, List.nil_append, mantissa_whole 10 (digits_bytes w.whole.digits hends) w.whole.read_ne_nil hrest,
        Option.elim_none, add_zero]
      rfl
    | some f =>
      have hpoint : Ends (46 :: (f.bytes ++ rest)) := by
        intro b t heq
        rw [← (List.cons.inj heq).1]
        rfl
      have hvalue : ((value 10 (w.whole.bytes.filterMap decDigit ++ f.bytes.filterMap decDigit) : Nat) : ℚ) =
          w.whole.value * 10 ^ f.bytes.length + f.value := by
        rw [value_append, f.length_read]
        push_cast
        rfl
      rw [Option.elim_some, List.cons_append, mantissa_point 10 (digits_bytes w.whole.digits hpoint)
        (digits_bytes f.digits hends) w.whole.read_ne_nil, hvalue, f.length_read, Option.elim_some]
      congr 2
      have hne : (10 : ℚ) ^ f.bytes.length ≠ 0 := pow_ne_zero _ (by norm_num)
      push_cast
      field_simp
  rw [number, hmantissa]
  dsimp only
  rw [exponent_space hrest]
  dsimp only
  rw [scale, if_pos (Int.le_refl 0), Int.toNat_zero, pow_zero, mul_one]

theorem unsigned_plain (w : Written) : ∀ b ∈ w.unsigned, lowercase b ≠ 120 := by
  have hdigit : ∀ n : Numeral, ∀ b ∈ n.bytes, lowercase b ≠ 120 := by
    intro n b hb heq
    obtain ⟨d, hd⟩ := Option.isSome_iff_exists.mp (n.digits b hb)
    obtain ⟨hlower, hle⟩ := lowercase_digit hd
    rw [hlower] at heq
    rw [heq] at hle
    exact absurd hle (by decide)
  intro b hb
  rcases List.mem_append.mp hb with hb | hb
  · exact hdigit w.whole b hb
  · cases hfrac : w.frac with
    | none =>
      rw [hfrac] at hb
      cases hb
    | some f =>
      rw [hfrac] at hb
      rcases List.mem_cons.mp hb with rfl | hb
      · decide
      · exact hdigit f b hb

/-- **`%lf` reads a decimal number.** -/
theorem scanDouble_written (w : Written) {rest : List UInt8} (hrest : rest = [] ∨ ∃ t, rest = 32 :: t) :
    scanDouble (w.bytes ++ rest) = some (.rat w.value, rest) := by
  obtain ⟨b, bs, d, heq, hd⟩ := w.whole.front
  have hnumber := number_written w hrest
  have hplain := unsigned_plain w
  have hfront : w.unsigned = b :: (bs ++ w.frac.elim [] fun f => 46 :: f.bytes) := by
    rw [Written.unsigned, heq, List.cons_append]
  rw [hfront] at hplain
  rw [hfront, List.cons_append] at hnumber
  rw [Written.bytes, hfront, List.append_assoc, List.cons_append, scanDouble_number hd, hnumber]
  · rfl
  · -- what follows the first digit belongs to the number, or it is the space behind it
    intro c t hnext
    cases hbehind : bs ++ w.frac.elim [] fun f => 46 :: f.bytes with
    | nil =>
      rw [hbehind, List.nil_append] at hnext
      obtain rfl | ⟨t', rfl⟩ := hrest
      · cases hnext
      · cases hnext
        decide
    | cons c' s =>
      rw [hbehind] at hnext hplain
      cases hnext
      exact hplain c (List.mem_cons_of_mem _ List.mem_cons_self)

end Scanf

end Constellation
