import Mathlib.Data.Finset.Basic
import Mathlib.Data.List.Nodup
import Constellation.Lib.Run
import Constellation.Lib.Table

/-!
# Descriptors and their owners

A system hands out descriptors and takes them back: a list of operations says in which order (`openAfter`). The
system hands out only what is not open (`Fresh`); the program is to close only what is open (`ClosesOpen`).

An owner holds at most one descriptor at a time. It is tidy if it opens one only when it holds none, and closes the
one it holds (`Turnover`). Where every descriptor has one owner (`Holds`), tidy owners keep it so, whatever the order
in which they work (`Turnover.sound`); so does a walk over a table of owners (`sweep_holds`).
-/

namespace Constellation

inductive DescriptorOp (δ : Type)
  | opened (fd : δ)
  | closed (fd : δ)

namespace DescriptorOp
variable {δ : Type} [DecidableEq δ]

/-- The open descriptors after some operations. -/
def openAfter (S : Finset δ) : List (DescriptorOp δ) → Finset δ
  | [] => S
  | .opened fd :: ops => openAfter (insert fd S) ops
  | .closed fd :: ops => openAfter (S.erase fd) ops

/-- What is handed out is not open. -/
def Fresh (S : Finset δ) : List (DescriptorOp δ) → Prop
  | [] => True
  | .opened fd :: ops => fd ∉ S ∧ Fresh (insert fd S) ops
  | .closed fd :: ops => Fresh (S.erase fd) ops

instance decidableFresh : ∀ (S : Finset δ) (ops : List (DescriptorOp δ)), Decidable (Fresh S ops)
  | _, [] => inferInstanceAs (Decidable True)
  | S, .opened fd :: ops =>
    have := decidableFresh (insert fd S) ops
    inferInstanceAs (Decidable (_ ∧ _))
  | S, .closed fd :: ops => decidableFresh (S.erase fd) ops

/-- What is closed is open. -/
def ClosesOpen (S : Finset δ) : List (DescriptorOp δ) → Prop
  | [] => True
  | .opened fd :: ops => ClosesOpen (insert fd S) ops
  | .closed fd :: ops => fd ∈ S ∧ ClosesOpen (S.erase fd) ops

/-- The open descriptors are just these, and none of them is named twice. -/
def Holds (S : Finset δ) (held : List δ) : Prop := held.Nodup ∧ ∀ fd, fd ∈ S ↔ fd ∈ held

section
variable {S : Finset δ} {ops ops' : List (DescriptorOp δ)}

theorem openAfter_append : openAfter S (ops ++ ops') = openAfter (openAfter S ops) ops' := by
  induction ops generalizing S with
  | nil => rfl
  | cons op ops ih => cases op <;> exact ih

theorem fresh_append : Fresh S (ops ++ ops') ↔ Fresh S ops ∧ Fresh (openAfter S ops) ops' := by
  induction ops generalizing S with
  | nil => simp [Fresh, openAfter]
  | cons op ops ih => cases op <;> simp [Fresh, openAfter, ih, and_assoc]

theorem closesOpen_append : ClosesOpen S (ops ++ ops') ↔ ClosesOpen S ops ∧ ClosesOpen (openAfter S ops) ops' := by
  induction ops generalizing S with
  | nil => simp [ClosesOpen, openAfter]
  | cons op ops ih => cases op <;> simp [ClosesOpen, openAfter, ih, and_assoc]

end

/-- What a tidy owner does, between what it holds before and after. -/
inductive Turnover : Option δ → List (DescriptorOp δ) → Option δ → Prop
  | keeps (held : Option δ) : Turnover held [] held
  | opens (fd : δ) : Turnover none [.opened fd] (some fd)
  | closes (fd : δ) : Turnover (some fd) [.closed fd] none
  | trans {a b c : Option δ} {ops ops' : List (DescriptorOp δ)} (h : Turnover a ops b) (h' : Turnover b ops' c) :
      Turnover a (ops ++ ops') c

/-- **A tidy owner among others.** -/
theorem Turnover.sound {before after : Option δ} {S : Finset δ} {ops : List (DescriptorOp δ)} {pre post : List δ}
    (h : Turnover before ops after) (hS : Holds S (pre ++ before.toList ++ post)) (hfresh : Fresh S ops) :
    ClosesOpen S ops ∧ Holds (openAfter S ops) (pre ++ after.toList ++ post) := by
  induction h generalizing S with
  | keeps held => exact ⟨trivial, hS⟩
  | opens fd =>
    obtain ⟨hnodup, hmem⟩ := hS
    obtain ⟨hnew, -⟩ := hfresh
    simp only [Option.toList_none, Option.toList_some, List.append_nil, List.append_assoc, List.singleton_append,
      openAfter] at hnodup hmem ⊢
    refine ⟨trivial, ?_, fun fd' => ?_⟩
    · rw [List.nodup_middle, List.nodup_cons, ← hmem]
      exact ⟨hnew, hnodup⟩
    · simp only [Finset.mem_insert, hmem, List.mem_append, List.mem_cons]
      tauto
  | closes fd =>
    obtain ⟨hnodup, hmem⟩ := hS
    simp only [Option.toList_none, Option.toList_some, List.append_nil, List.append_assoc, List.singleton_append,
      openAfter] at hnodup hmem ⊢
    rw [List.nodup_middle, List.nodup_cons] at hnodup
    refine ⟨⟨?_, trivial⟩, hnodup.2, fun fd' => ?_⟩
    · rw [hmem]
      simp
    · have hother : fd' = fd → fd' ∉ pre ++ post := by
        rintro rfl
        exact hnodup.1
      simp only [Finset.mem_erase, hmem, List.mem_append, List.mem_cons] at hother ⊢
      tauto
  | trans _ _ ih ih' =>
    rw [fresh_append] at hfresh
    obtain ⟨hcloses, hmiddle⟩ := ih hS hfresh.1
    obtain ⟨hcloses', hend⟩ := ih' hmiddle hfresh.2
    rw [closesOpen_append, openAfter_append]
    exact ⟨⟨hcloses, hcloses'⟩, hend⟩

/-- **Tidy steps make a tidy run.** -/
theorem run_holds {σ ε κ ω : Type} {step : σ → ε → Except κ (σ × List ω)} {view : ω → Option (DescriptorOp δ)}
    {held : σ → List δ} {S : Finset δ} {s t : σ} {es : List ε} {w : List ω}
    (hstep : ∀ {S s e s' w}, step s e = .ok (s', w) → Holds S (held s) → Fresh S (w.filterMap view) →
      ClosesOpen S (w.filterMap view) ∧ Holds (openAfter S (w.filterMap view)) (held s'))
    (hrun : run step s es = .ok (t, w)) (hS : Holds S (held s)) (hfresh : Fresh S (w.filterMap view)) :
    ClosesOpen S (w.filterMap view) ∧ Holds (openAfter S (w.filterMap view)) (held t) := by
  induction es generalizing s S w with
  | nil =>
    cases hrun
    exact ⟨trivial, hS⟩
  | cons e es ih =>
    obtain ⟨s', w₁, w₂, hfirst, hrest, rfl⟩ := run_cons_ok.mp hrun
    rw [List.filterMap_append, fresh_append] at hfresh
    obtain ⟨hcloses, hS'⟩ := hstep hfirst hS hfresh.1
    obtain ⟨hcloses', hend⟩ := ih hrest hS' hfresh.2
    rw [List.filterMap_append, closesOpen_append, openAfter_append]
    exact ⟨⟨hcloses, hcloses'⟩, hend⟩

end DescriptorOp

namespace Table

open DescriptorOp

variable {κ α ε ω δ : Type} [DecidableEq κ] [DecidableEq δ] (hold : α → Option δ)

/-- The descriptors the entries hold. -/
def held (t : Table κ α) : List δ := t.entries.filterMap fun e => hold e.2

variable {hold} {S : Finset δ} {t t' : Table κ α} {w : List ω} {view : ω → Option (DescriptorOp δ)}

omit [DecidableEq δ] in
theorem held_modify {k : κ} {f : α → α} (hf : ∀ a, hold (f a) = hold a) : (t.modify k f).held hold = t.held hold := by
  simp only [held, modify, mapValues, List.filterMap_map]
  apply List.filterMap_congr
  intro e _
  show hold (if e.1 = k then f e.2 else e.2) = hold e.2
  split_ifs
  · exact hf e.2
  · rfl

omit [DecidableEq δ] in
theorem held_insert_modify {k : κ} (hk : k ∉ t) (a : α) (f : α → α) :
    (modify (t.insert k a) k f).held hold = (hold (f a)).toList ++ t.held hold := by
  have hrest : t.entries.map (fun e => (⟨e.1, if e.1 = k then f e.2 else e.2⟩ : Σ _ : κ, α)) = t.entries := by
    apply (List.map_congr_left fun e he => ?_).trans (List.map_id _)
    have hkey : e.1 ∈ t.keys := List.mem_map_of_mem he
    have hne : e.1 ≠ k := fun heq => hk (heq ▸ hkey)
    rw [if_neg hne]
    rfl
  have hentries : (modify (t.insert k a) k f).entries = ⟨k, f a⟩ :: t.entries := by
    simp only [modify, mapValues, AList.insert_of_notMem hk, List.map_cons, if_true, hrest]
  rw [held, hentries]
  cases hhold : hold (f a) <;> simp [held, hhold]

omit [DecidableEq κ] in
theorem sweepEntries_holds {f : κ → α → Except ε (α × List ω)} {es es' : List (Σ _ : κ, α)}
    (hf : ∀ k a a' v, f k a = .ok (a', v) → Turnover (hold a) (v.filterMap view) (hold a'))
    (h : sweepEntries f es = .ok (es', w)) (front : List δ) (hS : Holds S (front ++ es.filterMap fun e => hold e.2))
    (hfresh : Fresh S (w.filterMap view)) :
    ClosesOpen S (w.filterMap view) ∧
      Holds (openAfter S (w.filterMap view)) (front ++ es'.filterMap fun e => hold e.2) := by
  induction es generalizing S es' w front with
  | nil =>
    cases h
    exact ⟨trivial, hS⟩
  | cons e es ih =>
    obtain ⟨k, a⟩ := e
    obtain ⟨a', w₁, es₁, w₂, hcall, hwalk, rfl, rfl⟩ := sweepEntries_cons_ok h
    have hcons : ∀ (a : α) (es : List (Σ _ : κ, α)), (((⟨k, a⟩ :: es : List (Σ _ : κ, α))).filterMap fun e => hold e.2) =
        (hold a).toList ++ es.filterMap fun e => hold e.2 := by
      intro a es
      cases hhold : hold a <;> simp [hhold]
    rw [hcons, ← List.append_assoc] at hS ⊢
    rw [List.filterMap_append, fresh_append] at hfresh
    obtain ⟨hcloses, hfirst⟩ := (hf k a a' w₁ hcall).sound hS hfresh.1
    obtain ⟨hcloses', hrest⟩ := ih hwalk (front ++ (hold a').toList) hfirst hfresh.2
    rw [List.filterMap_append, closesOpen_append, openAfter_append]
    exact ⟨⟨hcloses, hcloses'⟩, hrest⟩

omit [DecidableEq κ] in
/-- **A walk of tidy calls.** -/
theorem sweep_holds {f : κ → α → Except ε (α × List ω)}
    (hf : ∀ k a a' v, f k a = .ok (a', v) → Turnover (hold a) (v.filterMap view) (hold a'))
    (h : t.sweep f = .ok (t', w)) (hS : Holds S (t.held hold)) (hfresh : Fresh S (w.filterMap view)) :
    ClosesOpen S (w.filterMap view) ∧ Holds (openAfter S (w.filterMap view)) (t'.held hold) :=
  sweepEntries_holds hf (sweep_eq_ok h) [] hS hfresh

end Table

end Constellation
