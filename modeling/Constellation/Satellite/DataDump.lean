import Constellation.Config
import Constellation.Protocol.Message

/-!
# Reading the log file into messages

The loop of `createDataDump`. One turn reads up to a chunk from where the last turn stopped
(`readChunk`); the chunk counts as the last one when the read met the end of the file, which a file
whose size is a multiple of the chunk size only shows with one more, empty chunk. The loop ends with
the last chunk or after `MAX_FILE_CHUNKS` turns.

The array of a message is not initialized, so behind the bytes that were read it holds whatever was
there (`stale`).
-/

namespace Constellation

/-- One `file.read` from a position: the bytes it got, and whether it met the end of the file. -/
def readChunk (content : List UInt8) (pos : Nat) : List UInt8 × Bool :=
  ((content.drop pos).take Config.FILE_CHUNK_SIZE,
    decide ((content.drop pos).length < Config.FILE_CHUNK_SIZE))

/-- The loop, with the number of turns left and the position reached. -/
def readChunks (content : List UInt8) : Nat → Nat → List (List UInt8 × Bool)
  | 0, _ => []
  | turns + 1, pos =>
    let c := readChunk content pos
    c :: if c.2 then [] else readChunks content turns (pos + c.1.length)

/-- The chunks of a whole file. -/
def fileChunks (content : List UInt8) : List (List UInt8 × Bool) :=
  readChunks content Config.MAX_FILE_CHUNKS 0

/-- The bytes the chunks carry. -/
def chunkBytes (cs : List (List UInt8 × Bool)) : List UInt8 := cs.flatMap Prod.fst

/-- The bytes a dump reads out of a file. -/
def dumpBytes (content : List UInt8) : List UInt8 := chunkBytes (fileChunks content)

/-- A message array that starts with the bytes read. -/
def chunkArray (bytes : List UInt8) (stale : Chunk) : Chunk :=
  ⟨bytes.take Config.FILE_CHUNK_SIZE ++ stale.val.drop (bytes.take Config.FILE_CHUNK_SIZE).length, by
    have hstale := stale.property
    have hlen := List.length_take_le Config.FILE_CHUNK_SIZE bytes
    rw [List.length_append, List.length_drop]
    omega⟩

/-- The message of one turn. -/
def chunkMessage (id port : Int32) (c : List UInt8 × Bool) (stale : Chunk) : Message :=
  .build id port (.fileMsg (chunkArray c.1 stale) (Int16.ofNat c.1.length) c.2)

/-! ### What the loop reads -/

section
variable (content : List UInt8)

theorem length_readChunk_le (pos : Nat) : (readChunk content pos).1.length ≤ Config.FILE_CHUNK_SIZE :=
  List.length_take_le ..

theorem readChunk_last {pos : Nat} (h : (readChunk content pos).2 = true) :
    (readChunk content pos).1 = content.drop pos := by
  have hshort : (content.drop pos).length < Config.FILE_CHUNK_SIZE := of_decide_eq_true h
  exact List.take_of_length_le (Nat.le_of_lt hshort)

theorem readChunk_more {pos : Nat} (h : (readChunk content pos).2 = false) :
    (readChunk content pos).1.length = Config.FILE_CHUNK_SIZE := by
  have hlong : ¬ (content.drop pos).length < Config.FILE_CHUNK_SIZE := of_decide_eq_false h
  rw [readChunk, List.length_take]
  omega

theorem chunkBytes_readChunks (turns pos : Nat) :
    chunkBytes (readChunks content turns pos) =
      (content.drop pos).take (turns * Config.FILE_CHUNK_SIZE) := by
  induction turns generalizing pos with
  | zero => simp [readChunks, chunkBytes]
  | succ turns ih =>
    rw [readChunks]
    cases hlast : (readChunk content pos).2 with
    | true =>
      rw [if_pos rfl, chunkBytes, List.flatMap_cons, List.flatMap_nil, List.append_nil, readChunk_last content hlast]
      have hshort : (content.drop pos).length < Config.FILE_CHUNK_SIZE := of_decide_eq_true hlast
      rw [List.take_of_length_le]
      rw [Nat.succ_mul]
      omega
    | false =>
      have hfull := readChunk_more content hlast
      rw [if_neg (by simp), chunkBytes, List.flatMap_cons]
      change (readChunk content pos).1 ++ chunkBytes (readChunks content turns _) = _
      rw [ih, hfull, Nat.succ_mul, Nat.add_comm (turns * _), List.take_add, List.drop_drop]
      rfl

theorem dumpBytes_eq : dumpBytes content = content.take (Config.MAX_FILE_CHUNKS * Config.FILE_CHUNK_SIZE) :=
  chunkBytes_readChunks content Config.MAX_FILE_CHUNKS 0

theorem readChunks_flags (turns pos : Nat) (c : List UInt8 × Bool) (hc : c ∈ (readChunks content turns pos).dropLast) :
    c.2 = false := by
  induction turns generalizing pos with
  | zero => cases hc
  | succ turns ih =>
    rw [readChunks] at hc
    cases hlast : (readChunk content pos).2 with
    | true =>
      rw [hlast, if_pos rfl] at hc
      cases hc
    | false =>
      rw [hlast, if_neg (by simp)] at hc
      cases hrest : readChunks content turns (pos + (readChunk content pos).1.length) with
      | nil =>
        rw [hrest] at hc
        cases hc
      | cons d ds =>
        rw [hrest, List.dropLast_cons_cons] at hc
        rcases List.mem_cons.mp hc with rfl | hc
        · exact hlast
        · refine ih (pos + (readChunk content pos).1.length) ?_
          rw [hrest]
          exact hc

theorem readChunks_ends (turns pos : Nat) (h : (content.drop pos).length < turns * Config.FILE_CHUNK_SIZE) :
    ∃ cs c, readChunks content turns pos = cs ++ [(c, true)] := by
  induction turns generalizing pos with
  | zero => simp at h
  | succ turns ih =>
    rw [readChunks]
    cases hlast : (readChunk content pos).2 with
    | true => exact ⟨[], (readChunk content pos).1, by rw [if_pos rfl, ← hlast]; rfl⟩
    | false =>
      have hfull := readChunk_more content hlast
      have hlong : ¬ (content.drop pos).length < Config.FILE_CHUNK_SIZE := of_decide_eq_false hlast
      obtain ⟨cs, c, hcs⟩ := ih (pos + (readChunk content pos).1.length) (by
        rw [hfull, ← List.drop_drop, List.length_drop]
        rw [Nat.succ_mul] at h
        omega)
      exact ⟨readChunk content pos :: cs, c, by rw [if_neg (by simp), hcs]; rfl⟩

theorem chunkBytes_of_last (turns pos : Nat) {cs : List (List UInt8 × Bool)} {c : List UInt8}
    (h : readChunks content turns pos = cs ++ [(c, true)]) :
    chunkBytes (readChunks content turns pos) = content.drop pos := by
  induction turns generalizing pos cs with
  | zero => simp [readChunks] at h
  | succ turns ih =>
    rw [readChunks] at h ⊢
    cases hlast : (readChunk content pos).2 with
    | true =>
      rw [if_pos rfl, chunkBytes, List.flatMap_singleton]
      exact readChunk_last content hlast
    | false =>
      have hfull := readChunk_more content hlast
      rw [hlast, if_neg (by simp)] at h
      rw [if_neg (by simp), chunkBytes, List.flatMap_cons]
      cases cs with
      | nil =>
        injection h with hhead _
        rw [hhead] at hlast
        cases hlast
      | cons d cs =>
        injection h with _ htail
        have hrest := ih _ htail
        rw [chunkBytes] at hrest
        rw [hrest, hfull, ← List.drop_drop]
        exact List.take_append_drop ..

/-- **The chunks of a file below the limit**: they carry the whole file, the final one is marked as
the last, and no other is. -/
theorem fileChunks_spec (h : content.length < Config.MAX_FILE_CHUNKS * Config.FILE_CHUNK_SIZE) :
    ∃ cs c, fileChunks content = cs ++ [(c, true)] ∧ (∀ d ∈ cs, d.2 = false) ∧
      chunkBytes (cs ++ [(c, true)]) = content := by
  obtain ⟨cs, c, hcs⟩ := readChunks_ends content Config.MAX_FILE_CHUNKS 0 h
  refine ⟨cs, c, hcs, fun d hd => ?_, ?_⟩
  · refine readChunks_flags content Config.MAX_FILE_CHUNKS 0 d ?_
    rw [hcs, List.dropLast_concat]
    exact hd
  · rw [← hcs]
    change dumpBytes content = content
    rw [dumpBytes_eq]
    exact List.take_of_length_le (Nat.le_of_lt h)

theorem readChunks_length_le (turns pos : Nat) (c : List UInt8 × Bool) (hc : c ∈ readChunks content turns pos) :
    c.1.length ≤ Config.FILE_CHUNK_SIZE := by
  induction turns generalizing pos with
  | zero => cases hc
  | succ turns ih =>
    rw [readChunks] at hc
    rcases List.mem_cons.mp hc with rfl | hc
    · exact length_readChunk_le content pos
    · split_ifs at hc
      · cases hc
      · exact ih _ hc

end

end Constellation
