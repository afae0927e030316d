import Constellation.Effect
import Constellation.Lib.Stop

/-!
# The parser of ground control

`dataDecoder` turns the bytes of a dump into the record the terminal shows. It takes the dump apart
at the newlines, looks behind the timestamp of each line, counts the two kinds of network lines and
reads the last position line.
-/

namespace Constellation

open Scanf

namespace Parser

/-- The literal text of a format. -/
def literal (s : String) : List Directive := (ascii s).map .byte

/-- Three `%lf`, each behind a space. -/
def threeDoubles : List Directive := [.space, .double, .space, .double, .space, .double]

/-- The format `"SAT %d POS %lf %lf %lf VEL %lf %lf %lf"`. -/
def satFormat : List Directive :=
  literal "SAT" ++ [.space, .int, .space] ++ literal "POS" ++ threeDoubles ++ [.space] ++
    literal "VEL" ++ threeDoubles

/-- The locals of the loop over the characters. -/
structure Scan where
  line : List UInt8 := []
  /-- The last position line seen. -/
  data : List UInt8 := []
  packetsReceived : Nat := 0
  packetsSent : Nat := 0

/-- One character of the dump. -/
def scanChar (st : Scan) (c : UInt8) : Scan :=
  if c = 10 then
    match find (ascii "] : ") st.line with
    | none => { st with line := [] }
    | some start =>
      let substring := st.line.drop (start + 4)
      if ascii "SAT " <+: substring then { st with line := [], data := substring }
      else if ascii "[NETWORK] Message received from " <+: substring then
        { st with line := [], packetsReceived := st.packetsReceived + 1 }
      else if ascii "[NETWORK] Sent message to " <+: substring then
        { st with line := [], packetsSent := st.packetsSent + 1 }
      else { st with line := [] }
  else { st with line := st.line ++ [c] }

/-- The part of a buffer a C string shows. -/
def cString (s : List UInt8) : List UInt8 := s.takeWhile (· ≠ 0)

def dataDecoder (id : Int32) (chunk : List UInt8) (alive : Bool) : Except Stop SatOutput := do
  assert (0 < id) "id > 0"
  let out : SatOutput := { id := id.toUInt32 }
  if chunk = [] then return { out with alive }
  let st := chunk.foldl scanChar {}
  let out := { out with
    chunks := chunk
    packetsReceived := st.packetsReceived
    packetsSent := st.packetsSent }
  if st.data = [] then return out
  match sscanf satFormat (cString st.data) with
  | [.int _, .double x, .double y, .double z, .double vx, .double vy, .double vz] =>
    return { out with x, y, z, vx, vy, vz, dump_msg := 1, alive }
  | _ => return out

theorem dataDecoder_ok {id : Int32} (hid : 0 < id) (chunk : List UInt8) (alive : Bool) :
    ∃ out, dataDecoder id chunk alive = .ok out ∧ out.id = id.toUInt32 ∧ out.chunks = chunk := by
  rw [dataDecoder, assert_bind hid]
  by_cases hchunk : chunk = []
  · rw [if_pos hchunk]
    exact ⟨_, rfl, rfl, hchunk.symm⟩
  · rw [if_neg hchunk]
    by_cases hdata : (chunk.foldl scanChar {}).data = []
    · refine ⟨_, if_pos hdata, rfl, rfl⟩
    · dsimp only
      rw [if_neg hdata]
      split
      · exact ⟨_, rfl, rfl, rfl⟩
      · exact ⟨_, rfl, rfl, rfl⟩

theorem dataDecoder_status {id : Int32} (hid : 0 < id) (alive : Bool) :
    dataDecoder id [] alive = .ok { id := id.toUInt32, alive } := by
  rw [dataDecoder, assert_bind hid, if_pos rfl]
  rfl

theorem dataDecoder_alive {id : Int32} {chunk : List UInt8} {out : SatOutput}
    (h : dataDecoder id chunk true = .ok out) : out.alive = true ∧ out.id = id.toUInt32 := by
  obtain ⟨-, h⟩ := assert_bind_eq_ok.mp h
  by_cases hchunk : chunk = []
  · rw [if_pos hchunk] at h
    cases h
    exact ⟨rfl, rfl⟩
  rw [if_neg hchunk] at h
  by_cases hdata : (chunk.foldl scanChar {}).data = []
  · dsimp only at h
    rw [if_pos hdata] at h
    cases h
    exact ⟨rfl, rfl⟩
  dsimp only at h
  rw [if_neg hdata] at h
  split at h
  · cases h
    exact ⟨rfl, rfl⟩
  · cases h
    exact ⟨rfl, rfl⟩

end Parser

end Constellation
