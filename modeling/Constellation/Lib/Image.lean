import Mathlib.Data.List.Basic

/-!
# Objects built in uninitialised memory

The memory of a local object holds arbitrary bytes when the object's lifetime begins. Stores then
write some of them (`Memory.after`), and spans of the object are copied out (`Memory.copy`). Each
offset either keeps its first byte or holds one that does not depend on it, so two first contents give
the same copy exactly if they agree wherever the copy reads and no store writes (`copy_after_eq_iff`);
the copy is determined just if the stores cover all of it (`determined_iff`).
-/

namespace Constellation

/-- The byte at each offset of an object. -/
abbrev Memory := Nat → UInt8

/-- A range of offsets. -/
structure Span where
  off : Nat
  len : Nat

def Span.Has (p : Span) (i : Nat) : Prop := p.off ≤ i ∧ i < p.off + p.len

instance (p : Span) (i : Nat) : Decidable (p.Has i) := inferInstanceAs (Decidable (p.off ≤ i ∧ i < p.off + p.len))

/-- An assignment to a part of an object. -/
structure Store where
  off : Nat
  bytes : List UInt8

namespace Store

def span (s : Store) : Span := ⟨s.off, s.bytes.length⟩

def apply (mem : Memory) (s : Store) : Memory :=
  fun i => if s.span.Has i then s.bytes.getD (i - s.off) 0 else mem i

/-- The two write no offset in common. -/
def Apart (s t : Store) : Prop := s.off + s.bytes.length ≤ t.off ∨ t.off + t.bytes.length ≤ s.off

end Store

/-- Some store writes this offset. -/
def Initialised (stores : List Store) (i : Nat) : Prop := ∃ s ∈ stores, s.span.Has i

namespace Memory

def after (mem : Memory) (stores : List Store) : Memory := stores.foldl Store.apply mem

/-- The bytes of a span. -/
def load (mem : Memory) (p : Span) : List UInt8 := (List.range' p.off p.len).map mem

/-- The bytes of some spans, one behind the other. -/
def copy (mem : Memory) (spans : List Span) : List UInt8 := spans.flatMap mem.load

@[simp] theorem length_load (mem : Memory) (p : Span) : (mem.load p).length = p.len := by
  simp [load]

theorem load_add (mem : Memory) (off m n : Nat) : mem.load ⟨off, m + n⟩ = mem.load ⟨off, m⟩ ++ mem.load ⟨off + m, n⟩ := by
  simp only [load, ← List.map_append, List.range'_append_1]

theorem load_split (mem : Memory) (off : Nat) {n len : Nat} (h : n ≤ len) :
    mem.load ⟨off, len⟩ = mem.load ⟨off, n⟩ ++ mem.load ⟨off + n, len - n⟩ := by
  rw [← load_add, Nat.add_sub_cancel' h]

theorem copy_append (mem : Memory) (spans spans' : List Span) :
    mem.copy (spans ++ spans') = mem.copy spans ++ mem.copy spans' :=
  List.flatMap_append

theorem mem_range (p : Span) (i : Nat) : i ∈ List.range' p.off p.len ↔ p.Has i := by
  rw [List.mem_range'_1, Span.Has]

theorem load_eq_iff {mem mem' : Memory} {p : Span} : mem.load p = mem'.load p ↔ ∀ i, p.Has i → mem i = mem' i := by
  simp only [load, List.map_inj_left, mem_range]

theorem copy_eq_iff {mem mem' : Memory} {spans : List Span} :
    mem.copy spans = mem'.copy spans ↔ ∀ p ∈ spans, ∀ i, p.Has i → mem i = mem' i := by
  induction spans with
  | nil => simp [copy]
  | cons p spans ih =>
    have hlen : (mem.load p).length = (mem'.load p).length := by
      rw [length_load, length_load]
    have hsplit : mem.copy (p :: spans) = mem'.copy (p :: spans) ↔
        mem.load p = mem'.load p ∧ mem.copy spans = mem'.copy spans := by
      simp only [copy, List.flatMap_cons]
      constructor
      · intro heq
        exact List.append_inj heq hlen
      · rintro ⟨hload, hcopy⟩
        rw [hload, hcopy]
    rw [hsplit, ih, load_eq_iff, List.forall_mem_cons]

/-! ### What the stores leave of the first content -/

theorem after_append (mem : Memory) (front back : List Store) :
    mem.after (front ++ back) = (mem.after front).after back :=
  List.foldl_append

theorem after_uninitialised {stores : List Store} {i : Nat} (h : ¬ Initialised stores i) (mem : Memory) :
    mem.after stores i = mem i := by
  induction stores generalizing mem with
  | nil => rfl
  | cons s stores ih =>
    have hs : ¬ s.span.Has i := fun hhas => h ⟨s, List.mem_cons_self, hhas⟩
    have hrest : ¬ Initialised stores i := fun ⟨t, ht, hhas⟩ => h ⟨t, List.mem_cons_of_mem s ht, hhas⟩
    calc mem.after (s :: stores) i = (s.apply mem).after stores i := rfl
      _ = s.apply mem i := ih hrest (s.apply mem)
      _ = mem i := if_neg hs

theorem after_initialised {stores : List Store} {i : Nat} (h : Initialised stores i) (mem mem' : Memory) :
    mem.after stores i = mem'.after stores i := by
  induction stores generalizing mem mem' with
  | nil => simp [Initialised] at h
  | cons s stores ih =>
    show (s.apply mem).after stores i = (s.apply mem').after stores i
    by_cases hrest : Initialised stores i
    · exact ih hrest (s.apply mem) (s.apply mem')
    · have hs : s.span.Has i := by
        obtain ⟨t, ht, hhas⟩ := h
        rcases List.mem_cons.mp ht with rfl | ht
        · exact hhas
        · exact absurd ⟨t, ht, hhas⟩ hrest
      rw [after_uninitialised hrest, after_uninitialised hrest]
      simp only [Store.apply, if_pos hs]

/-- **Which first contents a copy tells apart**: those that differ where it reads and nothing wrote. -/
theorem copy_after_eq_iff {stores : List Store} {spans : List Span} {mem mem' : Memory} :
    (mem.after stores).copy spans = (mem'.after stores).copy spans ↔
      ∀ p ∈ spans, ∀ i, p.Has i → ¬ Initialised stores i → mem i = mem' i := by
  rw [copy_eq_iff]
  constructor
  · intro heq p hp i hi huninit
    have hbyte := heq p hp i hi
    rwa [after_uninitialised huninit, after_uninitialised huninit] at hbyte
  · intro heq p hp i hi
    by_cases hinit : Initialised stores i
    · exact after_initialised hinit mem mem'
    · rw [after_uninitialised hinit, after_uninitialised hinit]
      exact heq p hp i hi hinit

/-- A copy does not depend on the first content exactly if all of it was written. -/
theorem determined_iff {stores : List Store} {spans : List Span} :
    (∀ mem mem' : Memory, (mem.after stores).copy spans = (mem'.after stores).copy spans) ↔
      ∀ p ∈ spans, ∀ i, p.Has i → Initialised stores i := by
  constructor
  · intro hdet p hp i hi
    by_contra huninit
    have hbyte := copy_after_eq_iff.mp (hdet (fun _ => 0) fun _ => 1) p hp i hi huninit
    exact absurd hbyte (by decide)
  · intro hinit mem mem'
    apply copy_after_eq_iff.mpr
    intro p hp i hi huninit
    exact absurd (hinit p hp i hi) huninit

/-! ### What was stored -/

theorem load_apply (mem : Memory) (s : Store) : (s.apply mem).load s.span = s.bytes := by
  apply List.ext_getElem
  · rw [length_load]
    rfl
  · intro i hi hbytes
    have hhas : s.span.Has (s.off + i) := ⟨Nat.le_add_right s.off i, Nat.add_lt_add_left hbytes s.off⟩
    have hoff : s.span.off + 1 * i = s.off + i := by
      rw [Nat.one_mul]
      rfl
    simp only [load, List.getElem_map, List.getElem_range', hoff, Store.apply, if_pos hhas]
    simp [hbytes]

theorem load_after_apart {stores : List Store} {s : Store} (h : ∀ t ∈ stores, s.Apart t) (mem : Memory) :
    (mem.after stores).load s.span = mem.load s.span := by
  apply load_eq_iff.mpr
  intro i hi
  apply after_uninitialised
  rintro ⟨t, ht, hhas⟩
  have hapart := h t ht
  simp only [Span.Has, Store.span] at hi hhas
  simp only [Store.Apart] at hapart
  omega

theorem load_after {stores : List Store} (hapart : stores.Pairwise Store.Apart) {s : Store} (hs : s ∈ stores)
    (mem : Memory) : (mem.after stores).load s.span = s.bytes := by
  obtain ⟨front, back, rfl⟩ := List.append_of_mem hs
  have hback : ∀ t ∈ back, s.Apart t := by
    rw [List.pairwise_append, List.pairwise_cons] at hapart
    exact hapart.2.1.1
  rw [after_append]
  calc ((mem.after front).after (s :: back)).load s.span
      = ((s.apply (mem.after front)).after back).load s.span := rfl
    _ = (s.apply (mem.after front)).load s.span := load_after_apart hback _
    _ = s.bytes := load_apply _ s

end Memory

end Constellation
