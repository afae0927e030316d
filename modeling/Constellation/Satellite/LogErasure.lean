import Constellation.Satellite.Logger

/-!
# Which lines are erased before they were dumped

The log file under three threads: the logger writes lines, the sender reads the file in steps and
then truncates it, the listener empties it when an ACK arrives while one is awaited. Nothing keeps a
line from being written between the last read of a dump and its truncation, nor between a dump and
its ACK.

What saves a line is the dump in progress: if it began to read on the content the line belongs to
and has read to the end of the file when the file is emptied, it carries every line
(`Running.got_eq`). Bytes once read stay in the dump until it returns (`got_survives`). So in a run
whose every emptying finds no line, or such a dump in progress, every erased line is dumped.
-/

namespace Constellation.LogErasure

/-- The sender thread in `createDataDump` and behind it. `origin` is a ghost: where the reading stood
when the file was last emptied. -/
inductive Sender
  | idle
  /-- In the loop: turns left, bytes read so far. -/
  | reading (turns : Nat) (got : List UInt8) (origin : Nat)
  /-- Behind the loop, in front of the truncation. -/
  | read (got : List UInt8) (origin : Nat)
  /-- Returned; the flag is not raised yet. -/
  | returned
  deriving DecidableEq

structure State where
  file : LogFile
  sender : Sender
  waitingForAck : Bool
  /-- A ghost: the lines written since the file was last emptied. -/
  lines : List (List UInt8)

def start : State := { file := .opened, sender := .idle, waitingForAck := false, lines := [] }

/-- A step of one of the threads. -/
inductive Act
  | log (stamp : Block 19) (msg : List UInt8)
  /-- `createDataDump` opens the file. -/
  | openFile
  /-- One turn of its loop. -/
  | readTurn
  /-- It truncates the file and returns. -/
  | truncateFile
  /-- The sender has sent the chunks and raises the flag. -/
  | raise
  /-- The listener handles an ACK. -/
  | ack
  deriving DecidableEq

namespace Sender

/-- The reading starts afresh on an emptied file. -/
def rebase : Sender → Sender
  | reading turns got _ => reading turns got got.length
  | read got _ => read got got.length
  | s => s

/-- The bytes of a dump that has not returned yet. -/
def inProgress : Sender → List (List UInt8)
  | reading _ got _ => [got]
  | read got _ => [got]
  | _ => []

end Sender

/-- One step; it fails where the sender is not at that point. Its effect is the bytes of a dump that
returns. -/
def step (s : State) : Act → Except Unit (State × List (List UInt8))
  | .log stamp msg =>
    .ok ({ s with
      file := s.file.log stamp msg
      lines := if msg = [] then s.lines else s.lines ++ [logLine stamp msg] }, [])
  | .openFile =>
    match s.sender with
    | .idle => .ok ({ s with sender := .reading Config.MAX_FILE_CHUNKS [] 0 }, [])
    | _ => .error ()
  | .readTurn =>
    match s.sender with
    | .reading (turns + 1) got origin =>
      let c := readChunk s.file.bytes got.length
      let sender : Sender :=
        if c.2 = true ∨ turns = 0 then .read (got ++ c.1) origin else .reading turns (got ++ c.1) origin
      .ok ({ s with sender }, [])
    | _ => .error ()
  | .truncateFile =>
    match s.sender with
    | .read got _ => .ok ({ s with file := s.file.truncate, sender := .returned, lines := [] }, [got])
    | _ => .error ()
  | .raise =>
    match s.sender with
    | .returned => .ok ({ s with sender := .idle, waitingForAck := true }, [])
    | _ => .error ()
  | .ack =>
    if s.waitingForAck = true then
      .ok ({ file := s.file.clearFile, sender := s.sender.rebase, waitingForAck := false, lines := [] }, [])
    else .ok (s, [])

/-- What a step can do, case by case. -/
inductive Move (s : State) : Act → State → List (List UInt8) → Prop
  | skip (stamp : Block 19) : Move s (.log stamp []) s []
  | log (stamp : Block 19) {msg : List UInt8} (hmsg : msg ≠ []) :
      Move s (.log stamp msg)
        { s with file := s.file.write (logLine stamp msg), lines := s.lines ++ [logLine stamp msg] } []
  | openFile (hs : s.sender = .idle) :
      Move s .openFile { s with sender := .reading Config.MAX_FILE_CHUNKS [] 0 } []
  | readTurn {turns : Nat} {got : List UInt8} {origin : Nat} {sender : Sender}
      (hs : s.sender = .reading (turns + 1) got origin)
      (hnext : sender = .read (got ++ (readChunk s.file.bytes got.length).1) origin ∨
        sender = .reading turns (got ++ (readChunk s.file.bytes got.length).1) origin) :
      Move s .readTurn { s with sender } []
  | truncateFile {got : List UInt8} {origin : Nat} (hs : s.sender = .read got origin) :
      Move s .truncateFile { s with file := s.file.truncate, sender := .returned, lines := [] } [got]
  | raise (hs : s.sender = .returned) : Move s .raise { s with sender := .idle, waitingForAck := true } []
  | ack (hwait : s.waitingForAck = true) :
      Move s .ack
        { file := s.file.clearFile, sender := s.sender.rebase, waitingForAck := false, lines := [] } []
  | ignore (hwait : s.waitingForAck ≠ true) : Move s .ack s []

theorem move_of_step {s t : State} {a : Act} {w : List (List UInt8)} (hstep : step s a = .ok (t, w)) :
    Move s a t w := by
  cases a with
  | log stamp msg =>
    rw [step, LogFile.log] at hstep
    by_cases hmsg : msg = []
    · subst hmsg
      rw [if_pos rfl, if_pos rfl] at hstep
      cases hstep
      exact .skip stamp
    · rw [if_neg hmsg, if_neg hmsg] at hstep
      cases hstep
      exact .log stamp hmsg
  | openFile =>
    rw [step] at hstep
    split at hstep
    · rename_i hs
      cases hstep
      exact .openFile hs
    · cases hstep
  | readTurn =>
    rw [step] at hstep
    split at hstep
    · rename_i turns got origin hs
      cases hstep
      refine .readTurn hs ?_
      split_ifs
      · exact .inl rfl
      · exact .inr rfl
    · cases hstep
  | truncateFile =>
    rw [step] at hstep
    split at hstep
    · rename_i got origin hs
      cases hstep
      exact .truncateFile hs
    · cases hstep
  | raise =>
    rw [step] at hstep
    split at hstep
    · rename_i hs
      cases hstep
      exact .raise hs
    · cases hstep
  | ack =>
    rw [step] at hstep
    split_ifs at hstep with hwait
    · cases hstep
      exact .ack hwait
    · cases hstep
      exact .ignore hwait

/-- The step empties the file. -/
def Empties (s : State) (a : Act) : Prop := a = .truncateFile ∨ (a = .ack ∧ s.waitingForAck = true)

/-- There is no line in the file, or a dump in progress has read from the start of its content to
its end. -/
def Covered (s : State) : Prop :=
  s.lines = [] ∨ ∃ got, s.sender.inProgress = [got] ∧ s.file.bytes.length ≤ got.length ∧
    ((∃ turns, s.sender = .reading turns got 0) ∨ s.sender = .read got 0)

/-! ### The file and the dump in progress -/

/-- The content is the lines behind a hole, and the logger writes at its end. -/
structure Content (file : LogFile) (lines : List (List UInt8)) : Prop where
  bytes : ∃ hole, file.bytes = List.replicate hole 0 ++ lines.flatten
  offset : file.offset = file.bytes.length ∨ file.bytes = []

/-- What a dump in progress has read: from its origin on the bytes that are in the file now. -/
structure Running (bytes got : List UInt8) (origin : Nat) : Prop where
  origin_le : origin ≤ got.length
  got_drop : got.drop origin = (bytes.drop origin).take (got.length - origin)
  within : got.length ≤ bytes.length ∨ got.length = origin

def Sender.Sound (bytes : List UInt8) : Sender → Prop
  | .reading _ got origin => Running bytes got origin
  | .read got origin => Running bytes got origin
  | _ => True

structure Sound (s : State) : Prop where
  content : Content s.file s.lines
  sender : s.sender.Sound s.file.bytes

section
variable {file : LogFile} {lines : List (List UInt8)} {bytes got : List UInt8} {origin : Nat}

theorem Content.write (h : Content file lines) (line : List UInt8) :
    Content (file.write line) (lines ++ [line]) ∧ ∃ more, (file.write line).bytes = file.bytes ++ more := by
  obtain ⟨hole, hbytes⟩ := h.bytes
  rcases h.offset with hend | hempty
  · have hwrite : (file.write line).bytes = file.bytes ++ line := by
      show pwrite file.bytes file.offset line = _
      rw [hend, pwrite_end]
    refine ⟨⟨⟨hole, ?_⟩, .inl ?_⟩, line, hwrite⟩
    · rw [hwrite, hbytes, List.flatten_append, List.flatten_singleton, List.append_assoc]
    · show file.offset + line.length = _
      rw [hwrite, hend, List.length_append]
  · have hlines : lines.flatten = [] := by
      rw [hempty] at hbytes
      exact (List.append_eq_nil_iff.mp hbytes.symm).2
    have hwrite : (file.write line).bytes = List.replicate file.offset 0 ++ line := by
      show pwrite file.bytes file.offset line = _
      rw [hempty, pwrite_empty]
    refine ⟨⟨⟨file.offset, ?_⟩, .inl ?_⟩, List.replicate file.offset 0 ++ line, ?_⟩
    · rw [hwrite, List.flatten_append, List.flatten_singleton, hlines, List.nil_append]
    · show file.offset + line.length = _
      rw [hwrite, List.length_append, List.length_replicate]
    · rw [hwrite, hempty]
      rfl

theorem Content.empty (offset : Nat) : Content { bytes := [], offset } [] := ⟨⟨0, rfl⟩, .inr rfl⟩

theorem Running.grow (h : Running bytes got origin) (more : List UInt8) : Running (bytes ++ more) got origin where
  origin_le := h.origin_le
  got_drop := by
    rcases h.within with hin | heq
    · have hle := h.origin_le
      rw [h.got_drop, List.drop_append_of_le_length (by omega), List.take_append_of_le_length]
      rw [List.length_drop]
      omega
    · rw [heq, Nat.sub_self, List.take_zero, ← heq, List.drop_length]
  within := by
    rcases h.within with hin | heq
    · left
      rw [List.length_append]
      omega
    · exact .inr heq

theorem Running.rebase (got bytes : List UInt8) : Running bytes got got.length where
  origin_le := le_refl _
  got_drop := by rw [List.drop_length, Nat.sub_self, List.take_zero]
  within := .inr rfl

theorem Running.turn (h : Running bytes got origin) : Running bytes (got ++ (readChunk bytes got.length).1) origin where
  origin_le := by
    have hle := h.origin_le
    rw [List.length_append]
    omega
  got_drop := by
    have hle := h.origin_le
    have hlen : (got ++ (readChunk bytes got.length).1).length - origin =
        (got.length - origin) + (readChunk bytes got.length).1.length := by
      rw [List.length_append]
      omega
    rw [List.drop_append_of_le_length hle, h.got_drop, hlen, List.take_add, List.drop_drop,
      Nat.add_sub_of_le hle]
    have hchunk : (readChunk bytes got.length).1 =
        (bytes.drop got.length).take (readChunk bytes got.length).1.length := by
      rw [readChunk, List.length_take, ← List.take_eq_take_min]
    rw [← hchunk]
  within := by
    by_cases hempty : (readChunk bytes got.length).1 = []
    · rw [hempty, List.append_nil]
      exact h.within
    · left
      have hpos : 0 < (readChunk bytes got.length).1.length := List.length_pos_iff.mpr hempty
      rw [List.length_append]
      rw [readChunk, List.length_take, List.length_drop] at hpos ⊢
      omega

theorem Running.got_eq (h : Running bytes got 0) (hend : bytes.length ≤ got.length) : got = bytes := by
  have hdrop := h.got_drop
  rw [List.drop_zero, List.drop_zero, Nat.sub_zero] at hdrop
  rw [hdrop]
  exact List.take_of_length_le hend

end

theorem Sender.Sound.grow {bytes : List UInt8} {sender : Sender} (h : sender.Sound bytes) (more : List UInt8) :
    sender.Sound (bytes ++ more) := by
  cases sender with
  | reading turns got origin => exact Running.grow h more
  | read got origin => exact Running.grow h more
  | idle => trivial
  | returned => trivial

theorem Sender.rebase_sound (bytes : List UInt8) (sender : Sender) : sender.rebase.Sound bytes := by
  cases sender with
  | reading turns got origin => exact Running.rebase got bytes
  | read got origin => exact Running.rebase got bytes
  | idle => trivial
  | returned => trivial

theorem start_sound : Sound start := ⟨Content.empty 0, trivial⟩

theorem step_sound {s t : State} {a : Act} {w : List (List UInt8)} (h : Sound s) (hstep : step s a = .ok (t, w)) :
    Sound t := by
  cases move_of_step hstep with
  | skip stamp => exact h
  | log stamp hmsg =>
    obtain ⟨hcontent, more, hmore⟩ := h.content.write (logLine stamp _)
    refine ⟨hcontent, ?_⟩
    dsimp only
    rw [hmore]
    exact h.sender.grow more
  | openFile hs => exact ⟨h.content, Running.rebase [] _⟩
  | readTurn hs hnext =>
    have hsender := h.sender
    rw [hs] at hsender
    have hturn := Running.turn hsender
    refine ⟨h.content, ?_⟩
    rcases hnext with rfl | rfl
    · exact hturn
    · exact hturn
  | truncateFile hs => exact ⟨Content.empty _, trivial⟩
  | raise hs => exact ⟨h.content, trivial⟩
  | ack hwait => exact ⟨Content.empty 0, Sender.rebase_sound _ _⟩
  | ignore hwait => exact h

theorem run_sound {as : List Act} {t : State} {w : List (List UInt8)} (hrun : run step start as = .ok (t, w)) :
    Sound t :=
  run_induction (P := fun _ t _ => Sound t) start_sound (fun _ _ _ _ _ _ _ hs hstep => step_sound hs hstep) hrun

/-- A covered emptying loses no line: the dump in progress holds them all. -/
theorem line_in_progress {s : State} (hs : Sound s) (hcovered : Covered s) {line : List UInt8}
    (hline : line ∈ s.lines) : ∃ got ∈ s.sender.inProgress, line <:+: got := by
  have hsender := hs.sender
  rcases hcovered with hnone | ⟨got, hprogress, hend, hpoint⟩
  · rw [hnone] at hline
    cases hline
  · have hrunning : Running s.file.bytes got 0 := by
      rcases hpoint with ⟨turns, hat⟩ | hat
      · rw [hat] at hsender
        exact hsender
      · rw [hat] at hsender
        exact hsender
    refine ⟨got, by rw [hprogress]; exact List.mem_singleton_self _, ?_⟩
    obtain ⟨hole, hbytes⟩ := hs.content.bytes
    rw [hrunning.got_eq hend, hbytes]
    exact (List.infix_of_mem_flatten hline).trans (List.suffix_append _ _).isInfix

theorem step_keeps {s t : State} {a : Act} {w : List (List UInt8)} (hstep : step s a = .ok (t, w))
    {got : List UInt8} (hgot : got ∈ s.sender.inProgress) :
    ∃ d ∈ w ++ t.sender.inProgress, got <+: d := by
  cases move_of_step hstep with
  | skip stamp => exact ⟨got, hgot, List.prefix_rfl⟩
  | log stamp hmsg => exact ⟨got, hgot, List.prefix_rfl⟩
  | openFile hs =>
    rw [hs] at hgot
    cases hgot
  | readTurn hs hnext =>
    rw [hs] at hgot
    obtain rfl := List.mem_singleton.mp hgot
    refine ⟨got ++ (readChunk s.file.bytes got.length).1, ?_, List.prefix_append _ _⟩
    rcases hnext with rfl | rfl
    · exact List.mem_singleton_self _
    · exact List.mem_singleton_self _
  | truncateFile hs =>
    rw [hs] at hgot
    exact ⟨got, hgot, List.prefix_rfl⟩
  | raise hs =>
    rw [hs] at hgot
    cases hgot
  | ack hwait =>
    refine ⟨got, ?_, List.prefix_rfl⟩
    cases hs : s.sender with
    | idle => rw [hs] at hgot; cases hgot
    | reading turns got' origin => rw [hs] at hgot; exact hgot
    | read got' origin => rw [hs] at hgot; exact hgot
    | returned => rw [hs] at hgot; cases hgot
  | ignore hwait => exact ⟨got, hgot, List.prefix_rfl⟩

theorem got_survives {as : List Act} {s t : State} {w : List (List UInt8)} (hrun : run step s as = .ok (t, w))
    {got : List UInt8} (hgot : got ∈ s.sender.inProgress) :
    ∃ d ∈ w ++ t.sender.inProgress, got <+: d := by
  induction as generalizing s w got with
  | nil =>
    cases hrun
    exact ⟨got, hgot, List.prefix_rfl⟩
  | cons a as ih =>
    obtain ⟨s', w₁, w₂, hstep, hrest, rfl⟩ := run_cons_ok.mp hrun
    obtain ⟨d, hd, hgd⟩ := step_keeps hstep hgot
    rcases List.mem_append.mp hd with hd | hd
    · refine ⟨d, ?_, hgd⟩
      rw [List.append_assoc]
      exact List.mem_append_left _ hd
    · obtain ⟨d', hd', hdd'⟩ := ih hrest hd
      refine ⟨d', ?_, hgd.trans hdd'⟩
      rw [List.append_assoc]
      exact List.mem_append_right _ hd'

/-- **No erased line is lost in a run whose emptyings are covered.** If whenever the file is emptied
it holds no line, or a dump in progress has read it from the start to the end, then every line that
is erased is contained in a dump that returned, or in the one in progress at the end. -/
theorem erased_line_dumped {as : List Act} {t : State} {w : List (List UInt8)}
    (hrun : run step start as = .ok (t, w))
    (hcovered : Along (fun pre a => ∀ s v, run step start pre = .ok (s, v) → Empties s a → Covered s) as) :
    ∀ pre a post s v, as = pre ++ a :: post → run step start pre = .ok (s, v) → Empties s a →
      ∀ line ∈ s.lines, ∃ d ∈ w ++ t.sender.inProgress, line <:+: d := by
  intro pre a post s v heq hpre hempties line hline
  obtain ⟨got, hgot, hinfix⟩ :=
    line_in_progress (run_sound hpre) (hcovered pre a post heq s v hpre hempties) hline
  rw [heq] at hrun
  obtain ⟨s', w₁, w₂, hpre', hrest, rfl⟩ := run_append_ok.mp hrun
  rw [hpre] at hpre'
  cases hpre'
  obtain ⟨d, hd, hgd⟩ := got_survives hrest hgot
  refine ⟨d, ?_, hinfix.trans hgd.isInfix⟩
  rw [List.append_assoc]
  exact List.mem_append_right _ hd

/-! ### A line between the last read and the truncation -/

theorem length_stamp : (List.replicate 19 (48 : UInt8)).length = 19 := rfl

def stamp : Block 19 := ⟨List.replicate 19 48, length_stamp⟩

/-- A dump reads the line "a" to the end of the file and truncates. -/
def promptDump : List Act := [.log stamp [97], .openFile, .readTurn, .truncateFile]

/-- The line "b" is written before it truncates. -/
def lateLine : List Act := [.log stamp [97], .openFile, .readTurn, .log stamp [98], .truncateFile]

/-- The line "b" is erased and in no dump. -/
theorem lateLine_erased_unread :
    ∃ t w s v, run step start lateLine = .ok (t, w) ∧ run step start (lateLine.take 4) = .ok (s, v) ∧
      Empties s .truncateFile ∧ logLine stamp [98] ∈ s.lines ∧
      ∀ d ∈ w ++ t.sender.inProgress, ¬ logLine stamp [98] <:+: d := by
  refine ⟨_, _, _, _, rfl, rfl, .inl rfl, List.mem_append_right _ (List.mem_singleton_self _), ?_⟩
  decide

theorem promptDump_covered :
    Along (fun pre a => ∀ s v, run step start pre = .ok (s, v) → Empties s a → Covered s) promptDump := by
  have hquiet : ∀ a : Act, a ≠ .truncateFile → a ≠ .ack → ∀ s, ¬ Empties s a := by
    rintro a htruncate hack s (h | ⟨h, -⟩)
    · exact htruncate h
    · exact hack h
  refine (@along_snoc Act _ [.log stamp [97], .openFile, .readTurn] _).mpr ⟨?_, fun s v hrun _ => ?_⟩
  · intro pre a post heq s v _ hempties
    have hmem : a ∈ [Act.log stamp [97], .openFile, .readTurn] := by rw [heq]; simp
    simp only [List.mem_cons, List.not_mem_nil, or_false] at hmem
    rcases hmem with rfl | rfl | rfl
    · exact absurd hempties (hquiet (.log stamp [97]) nofun nofun s)
    · exact absurd hempties (hquiet .openFile nofun nofun s)
    · exact absurd hempties (hquiet .readTurn nofun nofun s)
  · obtain ⟨s', v', hrun', hcovered⟩ : ∃ s' v',
        run step start [.log stamp [97], .openFile, .readTurn] = .ok (s', v') ∧ Covered s' :=
      ⟨_, _, rfl, .inr ⟨_, rfl, by decide, .inr rfl⟩⟩
    rw [hrun'] at hrun
    cases hrun
    exact hcovered

theorem erased_line_dumped_prompt :
    ∃ t w, run step start promptDump = .ok (t, w) ∧ ∃ d ∈ w ++ t.sender.inProgress, logLine stamp [97] <:+: d := by
  obtain ⟨t, w, hrun⟩ : ∃ t w, run step start promptDump = .ok (t, w) := ⟨_, _, rfl⟩
  obtain ⟨s, v, hpre, hline⟩ : ∃ s v, run step start (promptDump.take 3) = .ok (s, v) ∧
      logLine stamp [97] ∈ s.lines := ⟨_, _, rfl, List.mem_singleton_self _⟩
  exact ⟨t, w, hrun, erased_line_dumped hrun promptDump_covered _ .truncateFile [] s v rfl hpre (.inl rfl) _ hline⟩

end Constellation.LogErasure
