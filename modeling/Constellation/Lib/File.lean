import Mathlib.Data.List.Basic

/-!
# Bytes of a file

A file is a list of bytes. `pwrite` writes at an offset, as the file system does it for a stream that
keeps an offset of its own: what lies between the end of the file and the offset is filled with
zeros. A stream whose file nobody else truncates writes at the end and appends (`pwrite_end`); one
whose file was emptied behind its back leaves a hole (`pwrite_empty`).
-/

namespace Constellation

/-- The file after `data` was written at an offset. -/
def pwrite (bytes : List UInt8) (offset : Nat) (data : List UInt8) : List UInt8 :=
  bytes.take offset ++ (List.replicate (offset - bytes.length) 0 ++
    (data ++ bytes.drop (offset + data.length)))

theorem pwrite_end (bytes data : List UInt8) : pwrite bytes bytes.length data = bytes ++ data := by
  rw [pwrite, List.take_length, Nat.sub_self, List.drop_of_length_le (by omega)]
  simp

theorem pwrite_empty (offset : Nat) (data : List UInt8) :
    pwrite [] offset data = List.replicate offset 0 ++ data := by
  simp [pwrite]

end Constellation
