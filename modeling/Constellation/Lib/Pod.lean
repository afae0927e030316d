import Mathlib.Algebra.Order.Ring.Nat
import Mathlib.Tactic.Ring

/-!
# Plain data on a byte stream

The memory image of a fixed-width value, and reading one back out of a buffer at an offset.
`Pod α` says that a value of `α` occupies `width` bytes and that the image determines the value;
`fetch buf off` is the `memcpy` of one such value out of a buffer, `none` when the copy would leave
the buffer. Machine words are stored least significant byte first (`leBytes`).

Three facts are used over and over: a value that was appended is fetched back (`fetch_append`),
appending in front only shifts the offset (`fetch_skip`), and a read sees only its own bytes
(`fetch_left`).
-/

namespace Constellation

/-! ### Little-endian words -/

/-- The `n` low bytes of `v`, least significant first. -/
def leBytes : Nat → Nat → List UInt8
  | 0, _ => []
  | n + 1, v => UInt8.ofNat v :: leBytes n (v / 256)

/-- The number whose little-endian bytes are given. -/
def leValue : List UInt8 → Nat
  | [] => 0
  | b :: bs => b.toNat + 256 * leValue bs

@[simp] theorem length_leBytes (n v : Nat) : (leBytes n v).length = n := by
  induction n generalizing v with
  | zero => rfl
  | succ n ih => simp [leBytes, ih]

theorem leValue_lt (bs : List UInt8) : leValue bs < 256 ^ bs.length := by
  induction bs with
  | nil => simp [leValue]
  | cons b bs ih =>
    have hb := b.toNat_lt
    simp only [leValue, List.length_cons, pow_succ]
    omega

theorem leValue_append (bs cs : List UInt8) :
    leValue (bs ++ cs) = leValue bs + 256 ^ bs.length * leValue cs := by
  induction bs with
  | nil => simp [leValue]
  | cons b bs ih =>
    simp only [List.cons_append, leValue, List.length_cons, pow_succ, ih]
    ring

theorem leValue_leBytes (n v : Nat) (hv : v < 256 ^ n) : leValue (leBytes n v) = v := by
  induction n generalizing v with
  | zero => simp at hv; simp [leBytes, leValue, hv]
  | succ n ih =>
    have hdiv : v / 256 < 256 ^ n := by
      rw [Nat.div_lt_iff_lt_mul (by decide)]
      simpa [pow_succ] using hv
    simp only [leBytes, leValue, ih _ hdiv, UInt8.toNat_ofNat']
    omega

theorem leValue_top (buf : List UInt8) (off n : Nat) (h : off + n < buf.length) :
    leValue ((buf.drop off).take (n + 1)) / 256 ^ n = (buf.getD (off + n) 0).toNat := by
  have hsplit : (buf.drop off).take (n + 1) = (buf.drop off).take n ++ [buf.getD (off + n) 0] := by
    rw [List.take_add_one, List.getElem?_drop, List.getElem?_eq_getElem h, List.getD_eq_getElem?_getD,
      List.getElem?_eq_getElem h]
    rfl
  have hlen : ((buf.drop off).take n).length = n := by
    rw [List.length_take, List.length_drop]; omega
  have hlow := leValue_lt ((buf.drop off).take n)
  rw [hlen] at hlow
  rw [hsplit, leValue_append, hlen]
  simp only [leValue, Nat.mul_zero, Nat.add_zero]
  rw [Nat.add_mul_div_left _ _ (Nat.pow_pos (by decide)), Nat.div_eq_of_lt hlow, Nat.zero_add]

/-! ### Plain data -/

/-- A block of exactly `n` bytes. -/
abbrev Block (n : Nat) : Type := { l : List UInt8 // l.length = n }

/-- A type whose values have a memory image of `width` bytes that determines them. -/
class Pod (α : Type) where
  width : Nat
  toBytes : α → Block width
  ofBytes : Block width → α
  ofBytes_toBytes : ∀ a, ofBytes (toBytes a) = a

namespace Pod
variable {α : Type} [Pod α]

/-- The memory image as a list. -/
def bytes (a : α) : List UInt8 := (toBytes a).val

@[simp] theorem length_bytes (a : α) : (bytes a).length = width α := (toBytes a).property

end Pod

instance : Pod UInt8 where
  width := 1
  toBytes b := ⟨[b], rfl⟩
  ofBytes v := v.val.headD 0
  ofBytes_toBytes _ := rfl

/-- A `bool` occupies one byte; any byte other than zero reads as true. -/
instance : Pod Bool where
  width := 1
  toBytes b := ⟨[if b then 1 else 0], rfl⟩
  ofBytes v := v.val.headD 0 ≠ 0
  ofBytes_toBytes b := by cases b <;> rfl

/-- An array of `n` bytes is its own image. -/
instance (n : Nat) : Pod (Block n) where
  width := n
  toBytes v := v
  ofBytes v := v
  ofBytes_toBytes _ := rfl

/-- A type in bijection with the numbers below `256 ^ n`, stored as a little-endian word. -/
@[reducible] def Pod.word {α : Type} (n : Nat) (toNat : α → Nat) (ofNat : Nat → α)
    (toNat_lt : ∀ a, toNat a < 256 ^ n) (ofNat_toNat : ∀ a, ofNat (toNat a) = a) : Pod α where
  width := n
  toBytes a := ⟨leBytes n (toNat a), length_leBytes _ _⟩
  ofBytes v := ofNat (leValue v.val)
  ofBytes_toBytes a := by
    simp only [leValue_leBytes n _ (toNat_lt a), ofNat_toNat]

instance : Pod UInt32 :=
  .word 4 UInt32.toNat UInt32.ofNat (fun a => a.toNat_lt) (fun _ => UInt32.ofNat_toNat)

instance : Pod UInt64 :=
  .word 8 UInt64.toNat UInt64.ofNat (fun a => a.toNat_lt) (fun _ => UInt64.ofNat_toNat)

instance : Pod Int16 :=
  .word 2 (fun a => a.toUInt16.toNat) (fun v => (UInt16.ofNat v).toInt16)
    (fun a => a.toUInt16.toNat_lt) (fun a => by rw [UInt16.ofNat_toNat, Int16.toInt16_toUInt16])

instance : Pod Int32 :=
  .word 4 (fun a => a.toUInt32.toNat) (fun v => (UInt32.ofNat v).toInt32)
    (fun a => a.toUInt32.toNat_lt) (fun a => by rw [UInt32.ofNat_toNat, Int32.toInt32_toUInt32])

/-- A type all of whose memory images are images of values: reading and writing back changes no byte. -/
class Pod.Exact (α : Type) [Pod α] : Prop where
  toBytes_ofBytes : ∀ v : Block (Pod.width α), (Pod.toBytes (Pod.ofBytes v : α)).val = v.val

theorem leBytes_leValue (bs : List UInt8) : leBytes bs.length (leValue bs) = bs := by
  induction bs with
  | nil => rfl
  | cons b bs ih =>
    have hb := b.toNat_lt
    have hdiv : (b.toNat + 256 * leValue bs) / 256 = leValue bs := by omega
    have hlow : UInt8.ofNat (b.toNat + 256 * leValue bs) = b := by
      apply UInt8.toNat_inj.mp
      rw [UInt8.toNat_ofNat']
      omega
    rw [leValue, List.length_cons, leBytes, hdiv, hlow, ih]

theorem leBytes_of_block {n v : Nat} (b : Block n) (hv : v = leValue b.val) : leBytes n v = b.val := by
  have hround := leBytes_leValue b.val
  rw [b.property] at hround
  rw [hv, hround]

instance : Pod.Exact UInt8 where
  toBytes_ofBytes := by
    rintro ⟨bs, hlen⟩
    obtain ⟨b, rfl⟩ := List.length_eq_one_iff.mp hlen
    rfl

instance (n : Nat) : Pod.Exact (Block n) where
  toBytes_ofBytes _ := rfl

theorem leValue_block {n : Nat} (b : Block n) : leValue b.val < 256 ^ n := by
  have hlt := leValue_lt b.val
  rwa [b.property] at hlt

instance : Pod.Exact UInt32 where
  toBytes_ofBytes v := leBytes_of_block v (Nat.mod_eq_of_lt (leValue_block v))

instance : Pod.Exact UInt64 where
  toBytes_ofBytes v := leBytes_of_block v (Nat.mod_eq_of_lt (leValue_block v))

instance : Pod.Exact Int16 where
  toBytes_ofBytes v := leBytes_of_block v (Nat.mod_eq_of_lt (leValue_block v))

instance : Pod.Exact Int32 where
  toBytes_ofBytes v := leBytes_of_block v (Nat.mod_eq_of_lt (leValue_block v))

theorem Pod.bytes_ofBytes_bool {v : Block (Pod.width Bool)} (h : v.val = [0] ∨ v.val = [1]) :
    Pod.bytes (Pod.ofBytes v : Bool) = v.val := by
  obtain ⟨bs, hlen⟩ := v
  rcases h with rfl | rfl
  · rfl
  · rfl

/-! ### Reading out of a buffer -/

/-- The `n` bytes of a buffer from an offset on, if the buffer has them. -/
def slice (n : Nat) (buf : List UInt8) (off : Nat) : Option (Block n) :=
  if h : off + n ≤ buf.length then
    some ⟨(buf.drop off).take n, by rw [List.length_take, List.length_drop]; omega⟩
  else none

/-- `memcpy(&a, buf + off, sizeof(a))`. -/
def fetch (α : Type) [Pod α] (buf : List UInt8) (off : Nat) : Option α :=
  (slice (Pod.width α) buf off).map Pod.ofBytes

section fetch
variable {α : Type} [Pod α]

theorem fetch_isSome (buf : List UInt8) (off : Nat) (h : off + Pod.width α ≤ buf.length) :
    ∃ a, fetch α buf off = some a :=
  ⟨_, by rw [fetch, slice, dif_pos h, Option.map_some]⟩

theorem fetch_eq_none (α : Type) [Pod α] {buf : List UInt8} {off : Nat} (h : buf.length < off + Pod.width α) :
    fetch α buf off = none := by
  simp [fetch, slice, Nat.not_le.mpr h]

theorem fetch_append (a : α) (rest : List UInt8) : fetch α (Pod.bytes a ++ rest) 0 = some a := by
  have htake : ((Pod.bytes a ++ rest).drop 0).take (Pod.width α) = (Pod.toBytes a).val := by
    rw [List.drop_zero, List.take_left' (Pod.length_bytes a), Pod.bytes]
  rw [fetch, slice, dif_pos (by simp), Option.map_some, Option.some_inj]
  simp only [htake, Subtype.coe_eta, Pod.ofBytes_toBytes]

theorem fetch_skip (front rest : List UInt8) (k : Nat) :
    fetch α (front ++ rest) (front.length + k) = fetch α rest k := by
  have hdrop : (front ++ rest).drop (front.length + k) = rest.drop k := by
    rw [List.drop_append]; simp
  have hlen : (front ++ rest).length = front.length + rest.length := List.length_append
  by_cases h : k + Pod.width α ≤ rest.length
  · rw [fetch, fetch, slice, slice, dif_pos (by omega), dif_pos h]
    simp only [hdrop]
  · have hshort : rest.length < k + Pod.width α := by omega
    have hlong : (front ++ rest).length < front.length + k + Pod.width α := by omega
    rw [fetch_eq_none α hshort, fetch_eq_none α hlong]

theorem fetch_bound {buf : List UInt8} {off : Nat} {a : α} (h : fetch α buf off = some a) :
    off + Pod.width α ≤ buf.length := by
  by_contra hlt
  rw [fetch_eq_none α (by omega)] at h
  cases h

theorem fetch_left {front : List UInt8} (rest : List UInt8) {off : Nat}
    (h : off + Pod.width α ≤ front.length) : fetch α (front ++ rest) off = fetch α front off := by
  have hlen : (front ++ rest).length = front.length + rest.length := List.length_append
  have htake : ((front ++ rest).drop off).take (Pod.width α) = (front.drop off).take (Pod.width α) := by
    rw [List.drop_append_of_le_length (by omega), List.take_append_of_le_length]
    rw [List.length_drop]
    omega
  rw [fetch, fetch, slice, slice, dif_pos (by omega), dif_pos h]
  simp only [htake]

theorem fetch_eq_some {buf : List UInt8} {off : Nat} {a : α} (h : fetch α buf off = some a) :
    ∃ v : Block (Pod.width α), v.val = (buf.drop off).take (Pod.width α) ∧ Pod.ofBytes v = a := by
  rw [fetch, slice, dif_pos (fetch_bound h), Option.map_some, Option.some_inj] at h
  exact ⟨_, rfl, h⟩

end fetch

end Constellation
