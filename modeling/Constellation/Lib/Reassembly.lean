import Mathlib.Data.List.Induction
import Mathlib.Data.List.DropRight

/-!
# Reassembly of messages from frames

A sender splits a message into frames and marks the last one; a receiver collects the payloads and
hands the collection over at a marked frame. Frames carry no number, so what the receiver hands over
depends on the order of arrival alone.

`reassemble_flatten` is the case of a faithful channel: the frames of whole messages, one message after
the other, give these messages. `reassemble_pending` says what the receiver holds in every other case,
and so what it hands over next: the payloads of everything that arrived since the last marked frame
(`sinceLast`).
-/

namespace Constellation

variable {α : Type}

/-- A payload, and whether it is the last of its message. -/
abbrev Frame (α : Type) : Type := List α × Bool

/-- What a receiver has handed over, and what it has collected since. -/
structure Assembly (α : Type) where
  delivered : List (List α)
  pending : List α
  deriving DecidableEq

namespace Assembly

def feed (s : Assembly α) (f : Frame α) : Assembly α :=
  if f.2 = true then ⟨s.delivered ++ [s.pending ++ f.1], []⟩ else ⟨s.delivered, s.pending ++ f.1⟩

theorem feed_last (s : Assembly α) (c : List α) : s.feed (c, true) = ⟨s.delivered ++ [s.pending ++ c], []⟩ := rfl

theorem feed_more (s : Assembly α) (c : List α) : s.feed (c, false) = ⟨s.delivered, s.pending ++ c⟩ := rfl

end Assembly

/-- The receiver over a stream of frames. -/
def reassemble (fs : List (Frame α)) : Assembly α := fs.foldl Assembly.feed ⟨[], []⟩

theorem reassemble_snoc (fs : List (Frame α)) (f : Frame α) : reassemble (fs ++ [f]) = (reassemble fs).feed f := by
  rw [reassemble, List.foldl_append]
  rfl

theorem foldl_feed_delivered (fs : List (Frame α)) (s : Assembly α) :
    fs.foldl Assembly.feed s = ⟨s.delivered ++ (fs.foldl Assembly.feed ⟨[], s.pending⟩).delivered,
      (fs.foldl Assembly.feed ⟨[], s.pending⟩).pending⟩ := by
  induction fs using List.reverseRecOn with
  | nil => simp
  | append_singleton fs f ih =>
    obtain ⟨c, last⟩ := f
    rw [List.foldl_append, List.foldl_append, ih]
    cases last <;> simp [Assembly.feed]

/-- The payloads of some frames. -/
def payload (fs : List (Frame α)) : List α := fs.flatMap Prod.fst

theorem payload_append (fs gs : List (Frame α)) : payload (fs ++ gs) = payload fs ++ payload gs :=
  List.flatMap_append

theorem payload_singleton (f : Frame α) : payload [f] = f.1 := List.flatMap_singleton ..

/-- The frames of one whole message: only the final frame is marked. -/
def Framing (fs : List (Frame α)) (content : List α) : Prop :=
  ∃ init c, fs = init ++ [(c, true)] ∧ (∀ f ∈ init, f.2 = false) ∧ payload fs = content

theorem foldl_feed_more {fs : List (Frame α)} (h : ∀ f ∈ fs, f.2 = false) (s : Assembly α) :
    fs.foldl Assembly.feed s = ⟨s.delivered, s.pending ++ payload fs⟩ := by
  induction fs generalizing s with
  | nil => simp [payload]
  | cons f fs ih =>
    obtain ⟨c, last⟩ := f
    have hlast : last = false := h (c, last) List.mem_cons_self
    subst hlast
    rw [List.foldl_cons, Assembly.feed_more, ih fun g hg => h g (List.mem_cons_of_mem _ hg)]
    rw [List.append_assoc]
    rfl

theorem foldl_feed_framing {fs : List (Frame α)} {content : List α} (h : Framing fs content) (s : Assembly α) :
    fs.foldl Assembly.feed s = ⟨s.delivered ++ [s.pending ++ content], []⟩ := by
  obtain ⟨init, c, rfl, hinit, rfl⟩ := h
  rw [List.foldl_append, foldl_feed_more hinit, List.foldl_cons, List.foldl_nil, Assembly.feed_last,
    payload_append, payload_singleton, List.append_assoc]

/-- **Over a faithful channel the receiver hands over the messages that were sent.** -/
theorem reassemble_flatten {β : Type} (ms : List β) (frames : β → List (Frame α)) (content : β → List α)
    (h : ∀ m ∈ ms, Framing (frames m) (content m)) :
    reassemble (ms.flatMap frames) = ⟨ms.map content, []⟩ := by
  induction ms using List.reverseRecOn with
  | nil => rfl
  | append_singleton ms m ih =>
    have hms := ih fun m' hm' => h m' (List.mem_append_left _ hm')
    rw [List.flatMap_append, List.flatMap_singleton, reassemble, List.foldl_append]
    change (frames m).foldl Assembly.feed (reassemble (ms.flatMap frames)) = _
    rw [hms, foldl_feed_framing (h m (List.mem_append_right _ List.mem_cons_self)), List.nil_append, List.map_append]
    rfl

/-! ### Any channel -/

/-- The frames behind the last marked one. -/
def sinceLast (fs : List (Frame α)) : List (Frame α) := fs.rtakeWhile fun f => !f.2

theorem sinceLast_snoc_last (fs : List (Frame α)) (c : List α) : sinceLast (fs ++ [(c, true)]) = [] :=
  List.rtakeWhile_concat_neg _ _ _ (by simp)

theorem sinceLast_snoc_more (fs : List (Frame α)) (c : List α) :
    sinceLast (fs ++ [(c, false)]) = sinceLast fs ++ [(c, false)] :=
  List.rtakeWhile_concat_pos _ _ _ (by simp)

theorem sinceLast_subset (fs : List (Frame α)) : sinceLast fs ⊆ fs := (List.rtakeWhile_suffix _ fs).subset

theorem reassemble_pending (fs : List (Frame α)) : (reassemble fs).pending = payload (sinceLast fs) := by
  induction fs using List.reverseRecOn with
  | nil => rfl
  | append_singleton fs f ih =>
    obtain ⟨c, last⟩ := f
    cases last with
    | true => rw [reassemble_snoc, Assembly.feed_last, sinceLast_snoc_last]; rfl
    | false =>
      rw [reassemble_snoc, Assembly.feed_more, ih, sinceLast_snoc_more, payload_append, payload_singleton]

end Constellation
