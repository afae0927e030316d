import Constellation.Lib.Text

/-!
# Numbers as text, and back

What `std::to_string` writes for an unsigned integer and for a double, and that the conversions `%d` and
`%lf` read it back (`scanInt_toString`, `scanDouble_text`). A double is written in full with six decimals,
rounded to the nearest and on a tie to the even neighbour; infinities and what is not a number as words.
`toDouble` is the double nearest to a number that was read.
-/

namespace Constellation

/-- The text of a double. -/
inductive Printed
  /-- So many millionths, with or without a minus. -/
  | fixed (neg : Bool) (micros : Nat)
  | inf (neg : Bool)
  | nan (neg : Bool)
  deriving DecidableEq

namespace Printed

def minus (neg : Bool) : String := if neg then "-" else ""

/-- `%06d`, for six places. -/
def padded (places n : Nat) : String :=
  String.ofList (List.replicate (places - (Nat.toDigits 10 n).length) '0' ++ Nat.toDigits 10 n)

def text : Printed → String
  | fixed neg micros => minus neg ++ toString (micros / 10 ^ 6) ++ "." ++ padded 6 (micros % 10 ^ 6)
  | inf neg => minus neg ++ "inf"
  | nan neg => minus neg ++ "nan"

/-- The number that is written. -/
def value : Printed → Scanf.Real64
  | fixed neg micros => .rat (Scanf.applySign neg (micros / (10 : ℚ) ^ 6))
  | inf neg => .inf neg
  | nan _ => .nan

end Printed

/-- The natural number nearest to `a / b`, the even one of two. -/
def nearest (a b : Nat) : Nat :=
  if 2 * (a % b) < b ∨ (2 * (a % b) = b ∧ a / b % 2 = 0) then a / b else a / b + 1

/-- The text of the double with these bits. -/
def printed (bits : UInt64) : Printed :=
  let neg := bits >>> 63 = 1
  let e := (bits >>> 52 &&& 2047).toNat
  let f := (bits &&& 4503599627370495).toNat
  if e = 2047 then if f = 0 then .inf neg else .nan neg
  else
    -- A double is its significand times a power of two, the least of which is shared by the smallest ones.
    let m := if e = 0 then f else f + 2 ^ 52
    let e := max e 1
    if 1075 ≤ e then .fixed neg (m * 2 ^ (e - 1075) * 10 ^ 6) else .fixed neg (nearest (m * 10 ^ 6) (2 ^ (1075 - e)))

example : (printed 0xBFF8000000000000).text = "-1.500000" := by decide +kernel

/-- The double nearest to a number, as a quotient of two exact ones is rounded: ties go to the even neighbour, and
what is too large is infinite. -/
def Scanf.Real64.toDouble : Scanf.Real64 → UInt64
  | .rat q =>
    match q.num with
    | .ofNat 0 => 0
    | .ofNat (n + 1) => quotient .positive n q.den q.den_pos
    | .negSucc n => quotient .negative n q.den q.den_pos
  | .inf neg => if neg then 0xFFF0000000000000 else 0x7FF0000000000000
  | .nan => 0x7FF8000000000000
where
  quotient (sign : Float.Model.UnpackedFloat.Sign) (n den : Nat) (hden : 0 < den) : UInt64 :=
    (Float.Model.pack (.div .binary64 (.finite sign (n + 1) 0 n.succ_pos) (.finite .positive den 0 hden))).toBits

example : (Scanf.Real64.rat (1 / 10)).toDouble = 0x3FB999999999999A := by decide +kernel

/-! ### The bytes of a text -/

theorem ascii_append (s t : String) : ascii (s ++ t) = ascii s ++ ascii t := by
  rw [ascii, String.toList_append, List.map_append]
  rfl

theorem ascii_ofList (cs : List Char) : ascii (String.ofList cs) = cs.map fun c => UInt8.ofNat c.toNat := by
  rw [ascii, String.toList_ofList]

theorem ascii_toString (n : Nat) : ascii (toString n) = (Nat.toDigits 10 n).map fun c => UInt8.ofNat c.toNat := by
  rw [Nat.toString_eq_ofList_toDigits, ascii_ofList]

namespace Scanf

/-! ### Digits -/

theorem decDigit_isDigit {c : Char} (h : c.isDigit = true) : decDigit (UInt8.ofNat c.toNat) = some (c.toNat - 48) := by
  have hbounds : 48 ≤ c.toNat ∧ c.toNat ≤ 57 := by
    simpa [Char.isDigit, UInt32.le_iff_toNat_le] using h
  have hbyte : (UInt8.ofNat c.toNat).toNat = c.toNat := by
    rw [UInt8.toNat_ofNat']
    omega
  rw [decDigit, if_pos, hbyte]
  rw [UInt8.le_iff_toNat_le, UInt8.le_iff_toNat_le, hbyte]
  exact hbounds

/-- No digit follows. -/
def Ends (rest : List UInt8) : Prop := ∀ b t, rest = b :: t → decDigit b = none

theorem digits_bytes {bs : List UInt8} (hdigit : ∀ b ∈ bs, (decDigit b).isSome) {rest : List UInt8} (hends : Ends rest) :
    digits decDigit (bs ++ rest) = (bs.filterMap decDigit, rest) := by
  induction bs with
  | nil =>
    cases rest with
    | nil => rfl
    | cons b t =>
      rw [List.nil_append, digits, hends b t rfl]
      rfl
  | cons b bs ih =>
    obtain ⟨d, hd⟩ := Option.isSome_iff_exists.mp (hdigit b List.mem_cons_self)
    rw [List.cons_append, digits, hd, ih fun b' hb' => hdigit b' (List.mem_cons_of_mem b hb'),
      List.filterMap_cons_some hd]

theorem digits_append {cs : List Char} (hdigit : ∀ c ∈ cs, c.isDigit = true) {rest : List UInt8} (hends : Ends rest) :
    digits decDigit ((cs.map fun c => UInt8.ofNat c.toNat) ++ rest) = (cs.map (·.toNat - 48), rest) := by
  have hread : ∀ c ∈ cs, decDigit (UInt8.ofNat c.toNat) = some (c.toNat - 48) :=
    fun c hc => decDigit_isDigit (hdigit c hc)
  have hbytes : ∀ b ∈ cs.map fun c => UInt8.ofNat c.toNat, (decDigit b).isSome := by
    intro b hb
    obtain ⟨c, hc, rfl⟩ := List.mem_map.mp hb
    rw [hread c hc]
    rfl
  have hvalues : (cs.map fun c => UInt8.ofNat c.toNat).filterMap decDigit = cs.map (·.toNat - 48) := by
    clear hbytes hdigit
    induction cs with
    | nil => rfl
    | cons c cs ih =>
      rw [List.map_cons, List.filterMap_cons_some (hread c List.mem_cons_self),
        ih fun c' hc' => hread c' (List.mem_cons_of_mem c hc')]
      rfl
  rw [digits_bytes hbytes hends, hvalues]

theorem value_digits (cs : List Char) : value 10 (cs.map (·.toNat - 48)) = Nat.ofDigitChars 10 cs 0 := by
  rw [value, List.foldl_map, Nat.ofDigitChars_eq_foldl]
  congr 1
  funext acc c
  rw [Nat.mul_comm]
  rfl

/-! ### The front of a number -/

theorem decDigit_range {b : UInt8} {d : Nat} (h : decDigit b = some d) : 48 ≤ b.toNat ∧ b.toNat ≤ 57 := by
  have hrange : 48 ≤ b ∧ b ≤ 57 := by
    by_contra hnot
    rw [decDigit, if_neg hnot] at h
    cases h
  rwa [UInt8.le_iff_toNat_le, UInt8.le_iff_toNat_le] at hrange

theorem skipSpace_visible {b : UInt8} (hb : 32 < b.toNat) (s : List UInt8) : skipSpace (b :: s) = b :: s := by
  rw [skipSpace, List.dropWhile_cons_of_neg]
  simp only [decide_eq_true_eq, not_or, not_and, UInt8.le_iff_toNat_le]
  refine ⟨?_, fun _ => ?_⟩
  · rintro rfl
    exact absurd hb (by decide)
  · show ¬ b.toNat ≤ 13
    omega

theorem skip_digit {b : UInt8} {d : Nat} (h : decDigit b = some d) (s : List UInt8) :
    skipSpace (b :: s) = b :: s ∧ sign (b :: s) = (false, b :: s) := by
  have hbounds := decDigit_range h
  refine ⟨skipSpace_visible (by omega) s, ?_⟩
  unfold sign
  split
  · rename_i heq
    rw [(List.cons.inj heq).1] at hbounds
    exact absurd hbounds.1 (by decide)
  · rename_i heq
    rw [(List.cons.inj heq).1] at hbounds
    exact absurd hbounds.1 (by decide)
  · rfl

theorem lowercase_digit {b : UInt8} {d : Nat} (h : decDigit b = some d) : lowercase b = b ∧ b.toNat ≤ 57 := by
  have hbounds := decDigit_range h
  refine ⟨?_, hbounds.2⟩
  rw [lowercase, if_neg]
  rintro ⟨hletter, -⟩
  rw [UInt8.le_iff_toNat_le] at hletter
  exact absurd (Nat.le_trans hletter hbounds.2) (by decide)

theorem toDigits_front (n : Nat) : ∃ c cs, Nat.toDigits 10 n = c :: cs ∧ ∀ c' ∈ c :: cs, c'.isDigit = true := by
  obtain ⟨c, cs, hdigits⟩ := List.exists_cons_of_ne_nil (Nat.toDigits_ne_nil (n := n) (b := 10))
  refine ⟨c, cs, hdigits, fun c' hc' => ?_⟩
  rw [← hdigits] at hc'
  exact Nat.isDigit_of_mem_toDigits (by decide) (by decide) hc'

/-- **`%d` reads back a natural number**, as far as it fits. -/
theorem scanInt_toString (n : Nat) {rest : List UInt8} (hends : Ends rest) :
    scanInt (ascii (toString n) ++ rest) = some (Int32.ofInt (max (-2 ^ 63) (min (2 ^ 63 - 1) n)), rest) := by
  obtain ⟨c, cs, hdigits, hall⟩ := toDigits_front n
  have hread := digits_append hall hends
  have hvalue : value 10 ((c :: cs).map (·.toNat - 48)) = n := by
    rw [value_digits, ← hdigits, Nat.ofDigitChars_ten_toDigits]
  obtain ⟨hspace, hsign⟩ := skip_digit (decDigit_isDigit (hall c (List.mem_cons_self ..)))
    ((cs.map fun c => UInt8.ofNat c.toNat) ++ rest)
  rw [List.map_cons, List.cons_append, List.map_cons] at hread
  rw [ascii_toString, hdigits, List.map_cons, List.cons_append, scanInt, hspace, hsign]
  dsimp only
  rw [hread]
  dsimp only
  rw [← List.map_cons (f := fun c : Char => c.toNat - 48), hvalue]
  rfl

/-! ### Doubles -/

theorem word_eq_none {w : String} {c b : UInt8} {cs s : List UInt8} (hw : ascii w = c :: cs) (h : lowercase b ≠ c) :
    word w (b :: s) = none := by
  rw [word, if_neg]
  rw [hw]
  cases hlen : w.length with
  | zero =>
    intro heq
    cases heq
  | succ n =>
    intro heq
    exact h (List.cons.inj heq).1

theorem mantissa_point (base : Nat) {digit : UInt8 → Option Nat} {s t rest : List UInt8} {whole frac : List Nat}
    (hwhole : digits digit s = (whole, 46 :: t)) (hfrac : digits digit t = (frac, rest)) (hne : whole ≠ []) :
    mantissa digit base s = some (value base (whole ++ frac) / (base : ℚ) ^ frac.length, rest) := by
  rw [mantissa, hwhole]
  show (if whole = [] ∧ (digits digit t).1 = [] then none
    else some (value base (whole ++ (digits digit t).1) / (base : ℚ) ^ (digits digit t).1.length, (digits digit t).2)) = _
  rw [hfrac, if_neg fun hboth => hne hboth.1]

theorem number_point {whole frac : List Char} (hwhole : ∀ c ∈ whole, c.isDigit = true) (hne : whole ≠ [])
    (hfrac : ∀ c ∈ frac, c.isDigit = true) {rest : List UInt8} (hends : Ends rest)
    (hexp : ∀ b t, rest = b :: t → b ≠ 101 ∧ b ≠ 69) :
    number decDigit 10 101 69 10 ((whole.map fun c => UInt8.ofNat c.toNat) ++
        46 :: ((frac.map fun c => UInt8.ofNat c.toNat) ++ rest)) =
      some (Nat.ofDigitChars 10 (whole ++ frac) 0 / (10 : ℚ) ^ frac.length, rest) := by
  have hpoint : Ends (46 :: ((frac.map fun c => UInt8.ofNat c.toNat) ++ rest)) := by
    intro b t heq
    rw [← (List.cons.inj heq).1]
    rfl
  have hmantissa : mantissa decDigit 10 ((whole.map fun c => UInt8.ofNat c.toNat) ++
      46 :: ((frac.map fun c => UInt8.ofNat c.toNat) ++ rest)) =
      some (Nat.ofDigitChars 10 (whole ++ frac) 0 / (10 : ℚ) ^ frac.length, rest) := by
    have hread := mantissa_point 10 (digits_append hwhole hpoint) (digits_append hfrac hends)
      (by rwa [Ne, List.map_eq_nil_iff])
    rw [hread, ← List.map_append, value_digits, List.length_map]
    rfl
  have hexponent : exponent 101 69 rest = some (0, rest) := by
    cases rest with
    | nil => rfl
    | cons b t =>
      obtain ⟨he, hE⟩ := hexp b t rfl
      rw [exponent, if_neg]
      rintro (rfl | rfl)
      · exact he rfl
      · exact hE rfl
  rw [number, hmantissa]
  dsimp only
  rw [hexponent]
  dsimp only
  rw [scale, if_pos (Int.le_refl 0), Int.toNat_zero, pow_zero, mul_one]

theorem skip_minus (neg : Bool) {s : List UInt8} (hspace : skipSpace s = s) (hsign : sign s = (false, s)) :
    sign (skipSpace (ascii (Printed.minus neg) ++ s)) = (neg, s) := by
  cases neg with
  | false =>
    show sign (skipSpace s) = (false, s)
    rw [hspace, hsign]
  | true => rfl

theorem padded_chars (places : Nat) {n : Nat} (hpos : 0 < places) (hn : n < 10 ^ places) :
    ∃ cs : List Char, Printed.padded places n = String.ofList cs ∧ (∀ c ∈ cs, c.isDigit = true) ∧ cs.length = places ∧
      ∀ acc, Nat.ofDigitChars 10 cs acc = 10 ^ places * acc + n := by
  refine ⟨_, rfl, ?_, ?_, ?_⟩
  · intro c hc
    cases List.mem_append.mp hc with
    | inl hzero =>
      rw [List.eq_of_mem_replicate hzero]
      rfl
    | inr hdigit => exact Nat.isDigit_of_mem_toDigits (by decide) (by decide) hdigit
  · have hlen := (Nat.length_toDigits_le_iff (by decide) hpos).mpr hn
    rw [List.length_append, List.length_replicate]
    omega
  · intro acc
    have hlen := (Nat.length_toDigits_le_iff (by decide) hpos).mpr hn
    rw [Nat.ofDigitChars_append, Nat.ofDigitChars_replicate_zero, Nat.ofDigitChars_eq_ofDigitChars_zero,
      Nat.ofDigitChars_ten_toDigits, ← Nat.mul_assoc, ← Nat.pow_add]
    congr 3
    omega

theorem scanDouble_number {neg : Bool} {b : UInt8} {d : Nat} {s : List UInt8} (hb : decDigit b = some d)
    (hx : ∀ c t, s = c :: t → lowercase c ≠ 120) : scanDouble (ascii (Printed.minus neg) ++ b :: s) =
      (number decDigit 10 101 69 10 (b :: s)).map fun (q, rest) => (.rat (applySign neg q), rest) := by
  obtain ⟨hspace, hsign⟩ := skip_digit hb s
  obtain ⟨hlower, hle⟩ := lowercase_digit hb
  have hi : lowercase b ≠ 105 := by
    rw [hlower]
    rintro rfl
    exact absurd hle (by decide)
  have hn : lowercase b ≠ 110 := by
    rw [hlower]
    rintro rfl
    exact absurd hle (by decide)
  have hhex : word "0x" (b :: s) = none := by
    rw [word, if_neg]
    intro heq
    cases s with
    | nil => cases (List.cons.inj heq).2
    | cons c t => exact hx c t rfl (List.cons.inj (List.cons.inj heq).2).1
  rw [scanDouble, skip_minus neg hspace hsign]
  dsimp only
  rw [word_eq_none (w := "infinity") rfl hi, word_eq_none (w := "infi") rfl hi, word_eq_none (w := "inf") rfl hi,
    word_eq_none (w := "nan") rfl hn, hhex]

theorem ends_of_space {rest : List UInt8} (hrest : rest = [] ∨ ∃ t, rest = 32 :: t) : Ends rest := by
  intro b t heq
  obtain rfl | ⟨t', rfl⟩ := hrest
  · cases heq
  · cases heq
    rfl

/-- **`%lf` reads back a double**, as it is written. -/
theorem scanDouble_text (p : Printed) {rest : List UInt8} (hrest : rest = [] ∨ ∃ t, rest = 32 :: t) :
    scanDouble (ascii p.text ++ rest) = some (p.value, rest) := by
  cases p with
  | fixed neg micros =>
    obtain ⟨c, cs, hdigits, hall⟩ := toDigits_front (micros / 10 ^ 6)
    obtain ⟨frac, hpadded, hfrac, hlen, hvalue⟩ := padded_chars 6 (by decide) (Nat.mod_lt micros (by decide))
    have hnumber := number_point hall (List.cons_ne_nil c cs) hfrac (ends_of_space hrest) (by
      rintro b t rfl
      obtain heq | ⟨t', heq⟩ := hrest
      · cases heq
      · cases heq
        decide)
    have htext : ascii (Printed.fixed neg micros).text ++ rest = ascii (Printed.minus neg) ++
        (((c :: cs).map fun c => UInt8.ofNat c.toNat) ++ 46 :: ((frac.map fun c => UInt8.ofNat c.toNat) ++ rest)) := by
      rw [Printed.text, ascii_append, ascii_append, ascii_append, ascii_toString, hdigits, hpadded, ascii_ofList]
      simp [ascii]
    have hsum : (Nat.ofDigitChars 10 (c :: cs ++ frac) 0 : ℚ) = micros := by
      rw [Nat.ofDigitChars_append, ← hdigits, Nat.ofDigitChars_ten_toDigits, hvalue, Nat.div_add_mod]
    rw [hsum, hlen] at hnumber
    have hc := decDigit_isDigit (hall c (List.mem_cons_self ..))
    rw [htext, List.map_cons, List.cons_append]
    rw [List.map_cons, List.cons_append] at hnumber
    rw [scanDouble_number hc, hnumber]
    · rfl
    · -- a digit or the point follows
      intro b t heq
      cases cs with
      | nil =>
        rw [← (List.cons.inj heq).1]
        decide
      | cons c' cs' =>
        have hc' := lowercase_digit (decDigit_isDigit (hall c' (List.mem_cons_of_mem _ (List.mem_cons_self ..))))
        rw [← (List.cons.inj heq).1, hc'.1]
        intro heq
        rw [heq] at hc'
        exact absurd hc'.2 (by decide)
  | inf neg =>
    have htext : ascii (Printed.inf neg).text ++ rest = ascii (Printed.minus neg) ++ (105 :: 110 :: 102 :: rest) := by
      rw [Printed.text, ascii_append, List.append_assoc]
      rfl
    rw [htext, scanDouble, skip_minus neg rfl rfl]
    obtain rfl | ⟨t, rfl⟩ := hrest
    · rfl
    · rfl
  | nan neg =>
    have htext : ascii (Printed.nan neg).text ++ rest = ascii (Printed.minus neg) ++ (110 :: 97 :: 110 :: rest) := by
      rw [Printed.text, ascii_append, List.append_assoc]
      rfl
    rw [htext, scanDouble, skip_minus neg rfl rfl]
    obtain rfl | ⟨t, rfl⟩ := hrest
    · rfl
    · rfl

/-! ### Neither space nor control bytes -/

/-- Visible bytes. -/
def Graphic (bs : List UInt8) : Prop := ∀ b ∈ bs, 32 < b.toNat

instance : DecidablePred Graphic := fun bs => List.decidableBAll (fun b : UInt8 => 32 < b.toNat) bs

theorem Graphic.append {bs bs' : List UInt8} (h : Graphic bs) (h' : Graphic bs') : Graphic (bs ++ bs') :=
  fun b hb => (List.mem_append.mp hb).elim (h b) (h' b)

theorem graphic_digits {cs : List Char} (hdigit : ∀ c ∈ cs, c.isDigit = true) :
    Graphic (cs.map fun c => UInt8.ofNat c.toNat) := by
  intro b hb
  obtain ⟨c, hc, rfl⟩ := List.mem_map.mp hb
  have hrange := decDigit_range (decDigit_isDigit (hdigit c hc))
  omega

theorem graphic_toString (n : Nat) : Graphic (ascii (toString n)) := by
  rw [ascii_toString]
  exact graphic_digits fun c hc => Nat.isDigit_of_mem_toDigits (by decide) (by decide) hc

theorem graphic_text (p : Printed) : Graphic (ascii p.text) := by
  have hminus : ∀ neg, Graphic (ascii (Printed.minus neg)) := by
    intro neg
    cases neg <;> decide
  cases p with
  | fixed neg micros =>
    obtain ⟨frac, hpadded, hfrac, -⟩ := padded_chars 6 (by decide) (Nat.mod_lt micros (by decide))
    rw [Printed.text, hpadded, ascii_append, ascii_append, ascii_append, ascii_ofList frac]
    exact (((hminus neg).append (graphic_toString _)).append (by decide)).append (graphic_digits hfrac)
  | inf neg =>
    rw [Printed.text, ascii_append]
    exact (hminus neg).append (by decide)
  | nan neg =>
    rw [Printed.text, ascii_append]
    exact (hminus neg).append (by decide)

theorem toString_ne_nil (n : Nat) : ascii (toString n) ≠ [] := by
  rw [ascii_toString]
  exact mt List.map_eq_nil_iff.mp Nat.toDigits_ne_nil

theorem text_ne_nil (p : Printed) : ascii p.text ≠ [] := by
  cases p with
  | fixed neg micros =>
    rw [Printed.text, ascii_append, ascii_append, ascii_append]
    intro hnil
    have hpoint := (List.append_eq_nil_iff.mp (List.append_eq_nil_iff.mp hnil).1).2
    exact absurd hpoint (by decide)
  | inf neg =>
    rw [Printed.text, ascii_append]
    simp [ascii]
  | nan neg =>
    rw [Printed.text, ascii_append]
    simp [ascii]

theorem skipSpace_graphic {bs : List UInt8} (hbs : Graphic bs) (hne : bs ≠ []) (s : List UInt8) :
    skipSpace (bs ++ s) = bs ++ s := by
  obtain ⟨b, bs, rfl⟩ := List.exists_cons_of_ne_nil hne
  exact skipSpace_visible (hbs b (List.mem_cons_self ..)) (bs ++ s)

/-! ### The directives -/

section
variable {ds : List Directive}

theorem sscanf_bytes (bs s : List UInt8) : sscanf (bs.map .byte ++ ds) (bs ++ s) = sscanf ds s := by
  induction bs with
  | nil => rfl
  | cons b bs ih =>
    rw [List.map_cons, List.cons_append, List.cons_append, sscanf, if_pos rfl]
    exact ih

theorem sscanf_space {bs : List UInt8} (hbs : Graphic bs) (hne : bs ≠ []) (s : List UInt8) :
    sscanf (.space :: ds) (32 :: (bs ++ s)) = sscanf ds (bs ++ s) := by
  rw [sscanf]
  show sscanf ds (skipSpace (bs ++ s)) = _
  rw [skipSpace_graphic hbs hne]

theorem sscanf_int (n : Nat) {rest : List UInt8} (hends : Ends rest) :
    sscanf (.space :: .int :: ds) (32 :: (ascii (toString n) ++ rest)) =
      .int (Int32.ofInt (max (-2 ^ 63) (min (2 ^ 63 - 1) n))) :: sscanf ds rest := by
  rw [sscanf_space (graphic_toString n) (toString_ne_nil n), sscanf, scanInt_toString n hends]

theorem sscanf_double (p : Printed) {rest : List UInt8} (hrest : rest = [] ∨ ∃ t, rest = 32 :: t) :
    sscanf (.space :: .double :: ds) (32 :: (ascii p.text ++ rest)) = .double p.value :: sscanf ds rest := by
  rw [sscanf_space (graphic_text p) (text_ne_nil p), sscanf, scanDouble_text p hrest]

end

end Scanf

end Constellation
