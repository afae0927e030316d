import Mathlib.Algebra.Field.Rat

/-!
# Text on bytes

Searching, and the conversions `%d` and `%lf` of `sscanf` on a list of bytes.

A conversion takes the longest input that a number of its form can start with and fails when that
input is no number, as `1e` is none. `%d` saturates at the bounds of a 64-bit `long` and then keeps
the low 32 bits. `%lf` yields the number that is written, unrounded: a rational, an infinity, or not
a number; decimal and hexadecimal notation are read, a parenthesis behind `nan` is not.
-/

namespace Constellation

/-- The bytes of an ASCII text. -/
def ascii (s : String) : List UInt8 := s.toList.map fun c => UInt8.ofNat c.toNat

/-- `std::string::find`: where a pattern first starts. -/
def find (pattern : List UInt8) : List UInt8 → Option Nat
  | [] => if pattern = [] then some 0 else none
  | b :: bs => if pattern <+: b :: bs then some 0 else (find pattern bs).map (· + 1)

theorem find_append {c : UInt8} {pattern pre : List UInt8} (h : c ∉ pre) (s : List UInt8) :
    find (c :: pattern) (pre ++ s) = (find (c :: pattern) s).map (· + pre.length) := by
  induction pre with
  | nil => simp
  | cons b pre ih =>
    obtain ⟨hne, hrest⟩ := not_or.mp (mt List.mem_cons.mpr h)
    have hfront : ¬ c :: pattern <+: b :: (pre ++ s) := fun hprefix => hne (List.cons_prefix_cons.mp hprefix).1
    rw [List.cons_append, find, if_neg hfront, ih hrest, Option.map_map, List.length_cons]
    rfl

/-- The strings that repeated calls of `std::getline` with this delimiter extract. -/
def getlines (delim : UInt8) (s : List UInt8) : List (List UInt8) :=
  if (s.splitOn delim).getLast? = some [] then (s.splitOn delim).dropLast else s.splitOn delim

namespace Scanf

/-- The input after the white space in front of it. -/
def skipSpace (s : List UInt8) : List UInt8 :=
  s.dropWhile fun b => b = 32 ∨ (9 ≤ b ∧ b ≤ 13)

def decDigit (b : UInt8) : Option Nat := if 48 ≤ b ∧ b ≤ 57 then some (b.toNat - 48) else none

def hexDigit (b : UInt8) : Option Nat :=
  if 48 ≤ b ∧ b ≤ 57 then some (b.toNat - 48)
  else if 97 ≤ b ∧ b ≤ 102 then some (b.toNat - 87)
  else if 65 ≤ b ∧ b ≤ 70 then some (b.toNat - 55)
  else none

/-- The digits at the front of the input, and the input behind them. -/
def digits (digit : UInt8 → Option Nat) : List UInt8 → List Nat × List UInt8
  | [] => ([], [])
  | b :: bs =>
    match digit b with
    | none => ([], b :: bs)
    | some d => (d :: (digits digit bs).1, (digits digit bs).2)

/-- The number written by digits, most significant first. -/
def value (base : Nat) (ds : List Nat) : Nat := ds.foldl (fun acc d => acc * base + d) 0

/-- An optional sign: whether it is a minus, and the input behind it. -/
def sign : List UInt8 → Bool × List UInt8
  | 45 :: s => (true, s)
  | 43 :: s => (false, s)
  | s => (false, s)

def applySign {α : Type} [Neg α] (neg : Bool) (a : α) : α := if neg then -a else a

/-- `%d`. -/
def scanInt (s : List UInt8) : Option (Int32 × List UInt8) :=
  let (neg, s) := sign (skipSpace s)
  match digits decDigit s with
  | ([], _) => none
  | (ds, rest) =>
    let v := applySign neg (value 10 ds : Int)
    some (Int32.ofInt (max (-2 ^ 63) (min (2 ^ 63 - 1) v)), rest)

/-- `std::stoi`, which throws where there is no number or it does not fit an `int`. -/
def stoi (s : List UInt8) : Option Int32 :=
  let (neg, s) := sign (skipSpace s)
  match digits decDigit s with
  | ([], _) => none
  | (ds, _) =>
    let v := applySign neg (value 10 ds : Int)
    if -2 ^ 31 ≤ v ∧ v < 2 ^ 31 then some (Int32.ofInt v) else none

/-- The number a `%lf` conversion yields. -/
inductive Real64
  | rat (q : ℚ)
  | inf (neg : Bool)
  | nan
  deriving DecidableEq

/-- The value of a fresh `double` field. -/
def Real64.zero : Real64 := .rat 0

/-- Digits, and a point with more digits: at least one digit in all. -/
def mantissa (digit : UInt8 → Option Nat) (base : Nat) (s : List UInt8) : Option (ℚ × List UInt8) :=
  let (whole, s) := digits digit s
  let (frac, s) := match s with
    | 46 :: t => digits digit t
    | s => ([], s)
  if whole = [] ∧ frac = [] then none
  else some (value base (whole ++ frac) / (base : ℚ) ^ frac.length, s)

/-- An optional exponent behind one of two marker letters. -/
def exponent (lower upper : UInt8) : List UInt8 → Option (Int × List UInt8)
  | [] => some (0, [])
  | b :: s =>
    if b = lower ∨ b = upper then
      let (neg, t) := sign s
      match digits decDigit t with
      | ([], _) => none
      | (ds, rest) => some (applySign neg (value 10 ds : Int), rest)
    else some (0, b :: s)

def scale (base : ℚ) (e : Int) (q : ℚ) : ℚ :=
  if 0 ≤ e then q * base ^ e.toNat else q / base ^ e.natAbs

/-- A number in one notation: mantissa and exponent. -/
def number (digit : UInt8 → Option Nat) (base : Nat) (lower upper : UInt8) (power : ℚ)
    (s : List UInt8) : Option (ℚ × List UInt8) :=
  match mantissa digit base s with
  | none => none
  | some (q, rest) =>
    match exponent lower upper rest with
    | none => none
    | some (e, rest) => some (scale power e q, rest)

def lowercase (b : UInt8) : UInt8 := if 65 ≤ b ∧ b ≤ 90 then b + 32 else b

/-- The input behind a word, in any case of its letters. -/
def word (w : String) (s : List UInt8) : Option (List UInt8) :=
  if (s.take w.length).map lowercase = ascii w then some (s.drop w.length) else none

/-- `%lf`. -/
def scanDouble (s : List UInt8) : Option (Real64 × List UInt8) :=
  let (neg, s) := sign (skipSpace s)
  match word "infinity" s, word "infi" s, word "inf" s, word "nan" s, word "0x" s with
  | some rest, _, _, _, _ => some (.inf neg, rest)
  | none, some _, _, _, _ => none
  | none, none, some rest, _, _ => some (.inf neg, rest)
  | none, none, none, some rest, _ => some (.nan, rest)
  | none, none, none, none, some rest =>
    (number hexDigit 16 112 80 2 rest).map fun (q, rest) => (.rat (applySign neg q), rest)
  | none, none, none, none, none =>
    (number decDigit 10 101 69 10 s).map fun (q, rest) => (.rat (applySign neg q), rest)

example : scanDouble (ascii " -12.5e1 x") = some (.rat (-125), ascii " x") := by decide +kernel

/-- A directive of a format. -/
inductive Directive
  /-- This byte. -/
  | byte (b : UInt8)
  /-- Any white space, also none. -/
  | space
  | int
  | double

inductive Scanned
  | int (i : Int32)
  | double (r : Real64)

/-- `sscanf`: the values of the conversions that succeeded before the first failure. -/
def sscanf : List Directive → List UInt8 → List Scanned
  | [], _ => []
  | .byte b :: ds, c :: s => if b = c then sscanf ds s else []
  | .byte _ :: _, [] => []
  | .space :: ds, s => sscanf ds (skipSpace s)
  | .int :: ds, s =>
    match scanInt s with
    | none => []
    | some (i, rest) => .int i :: sscanf ds rest
  | .double :: ds, s =>
    match scanDouble s with
    | none => []
    | some (r, rest) => .double r :: sscanf ds rest

end Scanf

end Constellation
