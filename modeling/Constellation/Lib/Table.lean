import Mathlib.Algebra.Order.Ring.Nat
import Mathlib.Data.List.AList

/-!
# Keyed tables

An `unordered_map` is an `AList`: a list of entries with distinct keys. Besides the operations of
Mathlib the handlers need three more: `emplace` inserts only where there is no entry yet, `modify`
changes the entry of one key in place, and `sweep` walks over all entries with a call that may fail
and leaves effects behind. Each is described by what a later lookup finds.

A table refines a map of abstract values when every entry is related to the value of its key
(`Refines`). The operations of a table refine updates of the map.
-/

namespace Constellation

/-- A map from keys to values. -/
abbrev Table (κ α : Type) : Type := AList fun _ : κ => α

namespace Table
variable {κ α ε ω : Type} [DecidableEq κ]

/-- `emplace`: the new table, and whether the entry was inserted. -/
def emplace (t : Table κ α) (k : κ) (a : α) : Table κ α × Bool :=
  if k ∈ t then (t, false) else (t.insert k a, true)

/-- Change every value in place. -/
def mapValues (t : Table κ α) (f : κ → α → α) : Table κ α where
  entries := t.entries.map fun e => ⟨e.1, f e.1 e.2⟩
  nodupKeys := by
    have hkeys : (t.entries.map fun e => (⟨e.1, f e.1 e.2⟩ : Σ _ : κ, α)).keys = t.keys := by
      simp [List.keys, AList.keys, Function.comp_def]
    rw [List.NodupKeys, hkeys]
    exact t.keys_nodup

/-- Change the value of one key, if it has one. -/
def modify (t : Table κ α) (k : κ) (f : α → α) : Table κ α :=
  t.mapValues fun k' a => if k' = k then f a else a

theorem emplace_of_mem {t : Table κ α} {k : κ} (h : k ∈ t) (a : α) : t.emplace k a = (t, false) := if_pos h

theorem emplace_of_not_mem {t : Table κ α} {k : κ} (h : k ∉ t) (a : α) :
    t.emplace k a = (t.insert k a, true) := if_neg h

theorem dlookup_mapValues (es : List (Σ _ : κ, α)) (f : κ → α → α) (k : κ) :
    (es.map fun e => (⟨e.1, f e.1 e.2⟩ : Σ _ : κ, α)).dlookup k = (es.dlookup k).map (f k) := by
  induction es with
  | nil => rfl
  | cons e es ih =>
    obtain ⟨k', a⟩ := e
    by_cases hk : k = k'
    · subst hk
      simp [List.dlookup_cons_eq]
    · rw [List.map_cons, List.dlookup_cons_ne _ _ hk, ih, List.dlookup_cons_ne _ _ hk]

theorem lookup_mapValues (t : Table κ α) (f : κ → α → α) (k : κ) :
    (t.mapValues f).lookup k = (t.lookup k).map (f k) :=
  dlookup_mapValues t.entries f k

theorem lookup_modify_self (t : Table κ α) (k : κ) (f : α → α) :
    (t.modify k f).lookup k = (t.lookup k).map f := by
  rw [modify, lookup_mapValues]
  simp

theorem lookup_modify_of_ne (t : Table κ α) {k k' : κ} (f : α → α) (h : k' ≠ k) :
    (t.modify k f).lookup k' = t.lookup k' := by
  rw [modify, lookup_mapValues]
  simp [h]

theorem lookup_insert_modify_self (t : Table κ α) (k : κ) (a : α) (f : α → α) :
    (modify (t.insert k a) k f).lookup k = some (f a) := by
  rw [lookup_modify_self, AList.lookup_insert]
  rfl

theorem lookup_insert_modify_of_ne (t : Table κ α) {k k' : κ} (a : α) (f : α → α) (h : k' ≠ k) :
    (modify (t.insert k a) k f).lookup k' = t.lookup k' := by
  rw [lookup_modify_of_ne _ _ h, AList.lookup_insert_ne h]

theorem isSome_lookup_modify (t : Table κ α) (k k' : κ) (f : α → α) :
    ((t.modify k f).lookup k').isSome = (t.lookup k').isSome := by
  by_cases hk : k' = k
  · rw [hk, lookup_modify_self, Option.isSome_map]
  · rw [lookup_modify_of_ne t f hk]

theorem keys_modify (t : Table κ α) (k : κ) (f : α → α) : (t.modify k f).keys = t.keys := by
  simp [modify, mapValues, AList.keys, List.keys, Function.comp_def]

theorem sum_replace {es : List (Σ _ : κ, α)} (hnodup : es.NodupKeys) (φ : α → Nat) {k : κ} {a : α}
    (h : es.dlookup k = some a) (a' : α) :
    ((es.map fun e => (⟨e.1, if e.1 = k then a' else e.2⟩ : Σ _ : κ, α)).map fun e => φ e.2).sum + φ a =
      (es.map fun e => φ e.2).sum + φ a' := by
  induction es with
  | nil => cases h
  | cons e es ih =>
    obtain ⟨k', b⟩ := e
    obtain ⟨hfresh, hrest⟩ := List.nodupKeys_cons.mp hnodup
    simp only [List.map_cons, List.sum_cons]
    by_cases hk : k = k'
    · subst hk
      rw [List.dlookup_cons_eq] at h
      cases h
      have hother : (es.map fun e => (⟨e.1, if e.1 = k then a' else e.2⟩ : Σ _ : κ, α)) = es := by
        apply (List.map_congr_left fun e he => ?_).trans (List.map_id es)
        have hkey : e.1 ∈ es.keys := List.mem_map_of_mem he
        have hne : e.1 ≠ k := fun heq => hfresh (heq ▸ hkey)
        rw [if_neg hne]
        rfl
      rw [hother, if_pos rfl]
      omega
    · rw [List.dlookup_cons_ne _ _ hk] at h
      have hsum := ih hrest h
      rw [if_neg (Ne.symm hk)]
      omega

theorem sum_modify {t : Table κ α} (φ : α → Nat) {k : κ} {a : α} (h : t.lookup k = some a) (a' : α) :
    ((t.modify k fun _ => a').entries.map fun e => φ e.2).sum + φ a = (t.entries.map fun e => φ e.2).sum + φ a' :=
  sum_replace t.nodupKeys φ h a'

/-! ### Walking over all entries -/

/-- One call for every entry, in order; the first failure ends the walk. -/
def sweepEntries (f : κ → α → Except ε (α × List ω)) :
    List (Σ _ : κ, α) → Except ε (List (Σ _ : κ, α) × List ω)
  | [] => .ok ([], [])
  | ⟨k, a⟩ :: es => do
      let (a', w) ← f k a
      let (es', ws) ← sweepEntries f es
      return (⟨k, a'⟩ :: es', w ++ ws)

section
omit [DecidableEq κ]
variable {f : κ → α → Except ε (α × List ω)}

theorem sweepEntries_cons_ok {k : κ} {a : α} {es es' : List (Σ _ : κ, α)} {w : List ω}
    (h : sweepEntries f (⟨k, a⟩ :: es) = .ok (es', w)) :
    ∃ a' w₁ es₁ w₂, f k a = .ok (a', w₁) ∧ sweepEntries f es = .ok (es₁, w₂) ∧
      es' = ⟨k, a'⟩ :: es₁ ∧ w = w₁ ++ w₂ := by
  rw [sweepEntries] at h
  cases hf : f k a with
  | error x => rw [hf] at h; cases h
  | ok r =>
    cases hes : sweepEntries f es with
    | error x =>
      rw [hf, hes] at h
      cases h
    | ok r' =>
      rw [hf, hes] at h
      cases h
      exact ⟨r.1, r.2, r'.1, r'.2, rfl, rfl, rfl, rfl⟩

theorem sweepEntries_keys {es es' : List (Σ _ : κ, α)} {w : List ω}
    (h : sweepEntries f es = .ok (es', w)) : es'.keys = es.keys := by
  induction es generalizing es' w with
  | nil => cases h; rfl
  | cons e es ih =>
    obtain ⟨a', w₁, es₁, w₂, -, hes, rfl, -⟩ := sweepEntries_cons_ok h
    rw [List.keys_cons, List.keys_cons, ih hes]

theorem sweepEntries_ok {es : List (Σ _ : κ, α)}
    (h : ∀ e ∈ es, ∃ r, f e.1 e.2 = .ok r) : ∃ r, sweepEntries f es = .ok r := by
  induction es with
  | nil => exact ⟨_, rfl⟩
  | cons e es ih =>
    obtain ⟨k, a⟩ := e
    obtain ⟨r, hr⟩ := h ⟨k, a⟩ List.mem_cons_self
    obtain ⟨r', hr'⟩ := ih fun e he => h e (List.mem_cons_of_mem _ he)
    change f k a = .ok r at hr
    rw [sweepEntries, hr, hr']
    exact ⟨_, rfl⟩

theorem sweepEntries_count {count : List ω → Nat} {n : κ → α → Nat} {es es' : List (Σ _ : κ, α)} {w : List ω}
    (hnil : count [] = 0) (happend : ∀ v w, count (v ++ w) = count v + count w)
    (hstep : ∀ e ∈ es, ∀ a' v, f e.1 e.2 = .ok (a', v) → count v = n e.1 e.2) (h : sweepEntries f es = .ok (es', w)) :
    count w = (es.map fun e => n e.1 e.2).sum := by
  induction es generalizing es' w with
  | nil =>
    cases h
    exact hnil
  | cons e es ih =>
    obtain ⟨b', w₁, es₁, w₂, hf, hes, rfl, rfl⟩ := sweepEntries_cons_ok h
    rw [List.map_cons, List.sum_cons, happend, hstep e List.mem_cons_self b' w₁ hf,
      ih (fun x hx => hstep x (List.mem_cons_of_mem _ hx)) hes]

theorem sweepEntries_error {x : ε} {es : List (Σ _ : κ, α)}
    (h : ∀ e ∈ es, (∃ r, f e.1 e.2 = .ok r) ∨ f e.1 e.2 = .error x) (hfail : ∃ e ∈ es, f e.1 e.2 = .error x) :
    sweepEntries f es = .error x := by
  induction es with
  | nil =>
    obtain ⟨e, he, -⟩ := hfail
    cases he
  | cons e es ih =>
    obtain ⟨k, a⟩ := e
    rw [sweepEntries]
    rcases h ⟨k, a⟩ List.mem_cons_self with ⟨r, hr⟩ | hx
    · change f k a = .ok r at hr
      -- the first call returns, so one of the others fails
      have hrest : ∃ e ∈ es, f e.1 e.2 = .error x := by
        obtain ⟨e, he, hx⟩ := hfail
        rcases List.mem_cons.mp he with rfl | he
        · rw [hr] at hx
          cases hx
        · exact ⟨e, he, hx⟩
      rw [hr, ih (fun e he => h e (List.mem_cons_of_mem _ he)) hrest]
      rfl
    · change f k a = .error x at hx
      rw [hx]
      rfl

end

/-- What `f` does to each entry the walk does to every key, and effects that have `Q` one call after the
other have it in the end. -/
theorem sweepEntries_sound {f : κ → α → Except ε (α × List ω)} {P : κ → α → α → Prop} {Q : List ω → Prop}
    {es es' : List (Σ _ : κ, α)} {w : List ω} (hnil : Q []) (happend : ∀ {v w}, Q v → Q w → Q (v ++ w))
    (hstep : ∀ e ∈ es, ∀ a' v, f e.1 e.2 = .ok (a', v) → P e.1 e.2 a' ∧ Q v)
    (h : sweepEntries f es = .ok (es', w)) :
    (∀ k, Option.Rel (P k) (es.dlookup k) (es'.dlookup k)) ∧ Q w := by
  induction es generalizing es' w with
  | nil =>
    cases h
    exact ⟨fun _ => .none, hnil⟩
  | cons e es ih =>
    obtain ⟨a', w₁, es₁, w₂, hf, hes, rfl, rfl⟩ := sweepEntries_cons_ok h
    obtain ⟨hfirst, hw₁⟩ := hstep e List.mem_cons_self a' w₁ hf
    obtain ⟨hrest, hw₂⟩ := ih (fun e' he' => hstep e' (List.mem_cons_of_mem _ he')) hes
    refine ⟨fun k => ?_, happend hw₁ hw₂⟩
    obtain ⟨k', a⟩ := e
    by_cases hk : k = k'
    · subst hk
      rw [List.dlookup_cons_eq, List.dlookup_cons_eq]
      exact .some hfirst
    · rw [List.dlookup_cons_ne _ _ hk, List.dlookup_cons_ne _ _ hk]
      exact hrest k

theorem sweepEntries_view {ν : Type} {f : κ → α → Except ε (α × List ω)} {view : List ω → List ν} {k : κ}
    {es es' : List (Σ _ : κ, α)} {w : List ω} (hnodup : es.NodupKeys) (hnil : view [] = [])
    (happend : ∀ v w, view (v ++ w) = view v ++ view w)
    (hother : ∀ e ∈ es, ∀ a' v, e.1 ≠ k → f e.1 e.2 = .ok (a', v) → view v = [])
    (h : sweepEntries f es = .ok (es', w)) :
    (es.dlookup k = none → es'.dlookup k = none ∧ view w = []) ∧
    ∀ a, es.dlookup k = some a → ∃ a' v, f k a = .ok (a', v) ∧ es'.dlookup k = some a' ∧ view w = view v := by
  induction es generalizing es' w with
  | nil =>
    cases h
    exact ⟨fun habsent => ⟨habsent, hnil⟩, nofun⟩
  | cons e es ih =>
    obtain ⟨k', b⟩ := e
    obtain ⟨b', w₁, es₁, w₂, hf, hes, rfl, rfl⟩ := sweepEntries_cons_ok h
    obtain ⟨hfresh, hrest⟩ := List.nodupKeys_cons.mp hnodup
    obtain ⟨hnone, hsome⟩ := ih hrest (fun e he => hother e (List.mem_cons_of_mem _ he)) hes
    rw [happend]
    by_cases hk : k = k'
    · subst hk
      have habsent : es.dlookup k = none := List.dlookup_eq_none.mpr hfresh
      rw [(hnone habsent).2, List.append_nil, List.dlookup_cons_eq, List.dlookup_cons_eq]
      refine ⟨nofun, fun a ha => ?_⟩
      cases ha
      exact ⟨b', w₁, hf, rfl, rfl⟩
    · rw [hother ⟨k', b⟩ List.mem_cons_self b' w₁ (Ne.symm hk) hf, List.nil_append, List.dlookup_cons_ne _ _ hk,
        List.dlookup_cons_ne _ _ hk]
      exact ⟨hnone, hsome⟩

/-- The walk over a table. -/
def sweep (t : Table κ α) (f : κ → α → Except ε (α × List ω)) : Except ε (Table κ α × List ω) :=
  match h : sweepEntries f t.entries with
  | .ok (es, w) => .ok (⟨es, by
      rw [List.NodupKeys, sweepEntries_keys h]
      exact t.nodupKeys⟩, w)
  | .error e => .error e

section
variable {f : κ → α → Except ε (α × List ω)} {t t' : Table κ α} {w : List ω}

omit [DecidableEq κ] in
theorem sweep_eq_ok (h : t.sweep f = .ok (t', w)) : sweepEntries f t.entries = .ok (t'.entries, w) := by
  unfold sweep at h
  split at h
  · cases h; assumption
  · cases h

/-- **The rule of a walk that ended well.** -/
theorem sweep_sound {P : κ → α → α → Prop} {Q : List ω → Prop} (hnil : Q [])
    (happend : ∀ {v w}, Q v → Q w → Q (v ++ w))
    (hstep : ∀ k a a' v, t.lookup k = some a → f k a = .ok (a', v) → P k a a' ∧ Q v)
    (h : t.sweep f = .ok (t', w)) : (∀ k, Option.Rel (P k) (t.lookup k) (t'.lookup k)) ∧ Q w :=
  sweepEntries_sound hnil happend
    (fun e he a' v => hstep e.1 e.2 a' v (AList.mem_lookup_iff.mpr he)) (sweep_eq_ok h)

/-- What the walk does to one key, and the effects that only its call can have. -/
theorem sweep_view {ν : Type} (view : List ω → List ν) {k : κ} (hnil : view [] = [])
    (happend : ∀ v w, view (v ++ w) = view v ++ view w)
    (hother : ∀ k' a a' v, t.lookup k' = some a → k' ≠ k → f k' a = .ok (a', v) → view v = [])
    (h : t.sweep f = .ok (t', w)) :
    (t.lookup k = none → t'.lookup k = none ∧ view w = []) ∧
    ∀ a, t.lookup k = some a → ∃ a' v, f k a = .ok (a', v) ∧ t'.lookup k = some a' ∧ view w = view v :=
  sweepEntries_view t.nodupKeys hnil happend
    (fun e he a' v => hother e.1 e.2 a' v (AList.mem_lookup_iff.mpr he)) (sweep_eq_ok h)

/-- What is counted among the effects is counted call by call. -/
theorem sweep_count {count : List ω → Nat} {n : κ → α → Nat} (hnil : count [] = 0)
    (happend : ∀ v w, count (v ++ w) = count v + count w)
    (hstep : ∀ k a a' v, t.lookup k = some a → f k a = .ok (a', v) → count v = n k a) (h : t.sweep f = .ok (t', w)) :
    count w = (t.entries.map fun e => n e.1 e.2).sum :=
  sweepEntries_count hnil happend
    (fun e he a' v => hstep e.1 e.2 a' v (AList.mem_lookup_iff.mpr he)) (sweep_eq_ok h)

theorem sweep_keeps {P : κ → α → Prop} {Q : List ω → Prop} (hnil : Q [])
    (happend : ∀ {v w}, Q v → Q w → Q (v ++ w)) (ht : ∀ k a, t.lookup k = some a → P k a)
    (hstep : ∀ k a a' v, P k a → f k a = .ok (a', v) → P k a' ∧ Q v) (h : t.sweep f = .ok (t', w)) :
    (∀ k a, t'.lookup k = some a → P k a) ∧ Q w := by
  obtain ⟨hentries, hw⟩ := sweep_sound (P := fun k _ a' => P k a') hnil happend
    (fun k a a' v ha hf => hstep k a a' v (ht k a ha) hf) h
  refine ⟨fun k a ha => ?_, hw⟩
  have hrel := hentries k
  rw [ha] at hrel
  generalize t.lookup k = before at hrel
  cases hrel with
  | some hP => exact hP

theorem isSome_lookup_sweep (h : t.sweep f = .ok (t', w)) (k : κ) : (t'.lookup k).isSome = (t.lookup k).isSome := by
  obtain ⟨hentries, -⟩ := sweep_sound (P := fun _ _ _ => True) (Q := fun _ => True) trivial
    (fun _ _ => trivial) (fun _ _ _ _ _ _ => ⟨trivial, trivial⟩) h
  have hrel := hentries k
  generalize t.lookup k = before at hrel
  generalize t'.lookup k = after at hrel
  cases hrel with
  | some _ => rfl
  | none => rfl

theorem sweep_ok (h : ∀ k a, t.lookup k = some a → ∃ r, f k a = .ok r) : ∃ r, t.sweep f = .ok r := by
  have hentries : ∃ r, sweepEntries f t.entries = .ok r :=
    sweepEntries_ok fun e he => h e.1 e.2 (AList.mem_lookup_iff.mpr he)
  obtain ⟨⟨es, w⟩, hes⟩ := hentries
  unfold sweep
  split
  · exact ⟨_, rfl⟩
  · rename_i hx
    rw [hes] at hx
    cases hx

omit [DecidableEq κ] in
theorem sweep_eq_error {x : ε} (h : sweepEntries f t.entries = .error x) : t.sweep f = .error x := by
  unfold sweep
  split
  · rename_i hes
    rw [h] at hes
    cases hes
  · rename_i y hy
    rw [h] at hy
    cases hy
    rfl

/-- If a call can fail in one way only, so can the walk, and it fails if one of its calls does. -/
theorem sweep_ok_or_error {x : ε} (h : ∀ k a, t.lookup k = some a → (∃ r, f k a = .ok r) ∨ f k a = .error x) :
    ((∀ k a, t.lookup k = some a → ∃ r, f k a = .ok r) ∧ ∃ r, t.sweep f = .ok r) ∨
      ((∃ k a, t.lookup k = some a ∧ f k a = .error x) ∧ t.sweep f = .error x) := by
  by_cases hall : ∀ k a, t.lookup k = some a → ∃ r, f k a = .ok r
  · exact .inl ⟨hall, sweep_ok hall⟩
  right
  simp only [not_forall] at hall
  obtain ⟨k, a, ha, hfail⟩ := hall
  have hcall : f k a = .error x := (h k a ha).resolve_left hfail
  refine ⟨⟨k, a, ha, hcall⟩, sweep_eq_error ?_⟩
  exact sweepEntries_error (fun e he => h e.1 e.2 (AList.mem_lookup_iff.mpr he)) ⟨⟨k, a⟩, AList.mem_lookup_iff.mp ha, hcall⟩

end

/-! ### Tables that refine a map -/

/-- The table has an entry where the map has a value, and the two are in the relation. -/
def Refines {β : Type} (R : κ → β → α → Prop) (link : κ → Option β) (t : Table κ α) : Prop :=
  ∀ k, Option.Rel (R k) (link k) (t.lookup k)

namespace Refines
variable {β : Type} {R : κ → β → α → Prop} {link : κ → Option β} {t : Table κ α} {k : κ}

theorem known (hr : Refines R link t) {b : β} (hb : link k = some b) : ∃ a, t.lookup k = some a ∧ R k b a := by
  have hrel := hr k
  rw [hb] at hrel
  generalize t.lookup k = entry at hrel
  cases hrel with
  | some hR => exact ⟨_, rfl, hR⟩

theorem entry (hr : Refines R link t) {a : α} (ha : t.lookup k = some a) : ∃ b, link k = some b ∧ R k b a := by
  have hrel := hr k
  rw [ha] at hrel
  generalize link k = value at hrel
  cases hrel with
  | some hR => exact ⟨_, rfl, hR⟩

theorem unknown (hr : Refines R link t) (hk : link k = none) : t.lookup k = none := by
  have hrel := hr k
  rw [hk] at hrel
  generalize t.lookup k = entry at hrel
  cases hrel with
  | none => rfl

theorem mem (hr : Refines R link t) {b : β} (hb : link k = some b) : k ∈ t := by
  obtain ⟨a, ha, -⟩ := hr.known hb
  exact AList.lookup_isSome.mp (by rw [ha]; rfl)

theorem not_mem (hr : Refines R link t) (hk : link k = none) : k ∉ t :=
  AList.lookup_eq_none.mp (hr.unknown hk)

theorem isSome (hr : Refines R link t) (k : κ) : (t.lookup k).isSome = (link k).isSome := by
  have hrel := hr k
  generalize t.lookup k = entry at hrel ⊢
  generalize link k = value at hrel ⊢
  cases hrel with
  | some hR => rfl
  | none => rfl

theorem update (hr : Refines R link t) {t' : Table κ α} {b : β} {a : α}
    (hother : ∀ k', k' ≠ k → t'.lookup k' = t.lookup k') (hself : t'.lookup k = some a) (hR : R k b a) :
    Refines R (Function.update link k (some b)) t' := by
  intro k'
  by_cases hk : k' = k
  · subst hk
    rw [Function.update_self, hself]
    exact .some hR
  · rw [Function.update_of_ne hk, hother k' hk]
    exact hr k'

theorem update_known (hr : Refines R link t) {b : β} (hb : link k = some b) :
    Refines R (Function.update link k (some b)) t := by
  obtain ⟨a, ha, hR⟩ := hr.known hb
  exact hr.update (fun _ _ => rfl) ha hR

theorem insert_modify (hr : Refines R link t) {b : β} {a : α} {f : α → α} (hR : R k b (f a)) :
    Refines R (Function.update link k (some b)) (Table.modify (t.insert k a) k f) :=
  hr.update (fun _ hne => lookup_insert_modify_of_ne _ _ _ hne) (lookup_insert_modify_self ..) hR

theorem modify (hr : Refines R link t) {f : α → α} {g : β → β} (hR : ∀ b a, R k b a → R k (g b) (f a)) :
    Refines R (Function.update link k ((link k).map g)) (Table.modify t k f) := by
  intro k'
  by_cases hk : k' = k
  · subst hk
    rw [Function.update_self, lookup_modify_self]
    have hrel := hr k'
    generalize t.lookup k' = entry at hrel ⊢
    generalize link k' = value at hrel ⊢
    cases hrel with
    | some hRab => exact .some (hR _ _ hRab)
    | none => exact .none
  · rw [Function.update_of_ne hk, lookup_modify_of_ne _ _ hk]
    exact hr k'

/-- **A walk refines a map over all values**, if each call refines it on its entry. -/
theorem sweep {f : κ → α → Except ε (α × List ω)} {g : β → β} {Q : List ω → Prop} (hr : Refines R link t)
    (hnil : Q []) (happend : ∀ {v w}, Q v → Q w → Q (v ++ w))
    (hstep : ∀ k b a, R k b a → ∃ a' v, f k a = .ok (a', v) ∧ R k (g b) a' ∧ Q v) :
    ∃ t' w, Table.sweep t f = .ok (t', w) ∧ Refines R (fun k => (link k).map g) t' ∧ Q w := by
  obtain ⟨⟨t', w⟩, hsweep⟩ : ∃ r, Table.sweep t f = .ok r := by
    refine sweep_ok fun k a ha => ?_
    obtain ⟨b, -, hR⟩ := hr.entry ha
    obtain ⟨a', v, hf, -⟩ := hstep k b a hR
    exact ⟨_, hf⟩
  have hcalls : ∀ k a a' v, t.lookup k = some a → f k a = .ok (a', v) →
      (∀ b, R k b a → R k (g b) a') ∧ Q v := by
    intro k a a' v ha hf
    obtain ⟨b, -, hR⟩ := hr.entry ha
    have hall : ∀ b, R k b a → R k (g b) a' ∧ Q v := by
      intro b hR
      obtain ⟨a'', v', hf', hR', hv⟩ := hstep k b a hR
      rw [hf] at hf'
      cases hf'
      exact ⟨hR', hv⟩
    exact ⟨fun b hR => (hall b hR).1, (hall b hR).2⟩
  obtain ⟨hentries, hw⟩ := sweep_sound (P := fun k a a' => ∀ b, R k b a → R k (g b) a') hnil happend hcalls hsweep
  refine ⟨t', w, hsweep, fun k => ?_, hw⟩
  have hbefore := hr k
  have hafter := hentries k
  show Option.Rel (R k) ((link k).map g) (t'.lookup k)
  generalize t.lookup k = entry at hbefore hafter
  generalize link k = value at hbefore ⊢
  generalize t'.lookup k = entry' at hafter ⊢
  cases hafter with
  | none =>
    cases hbefore with
    | none => exact .none
  | some hP =>
    cases hbefore with
    | some hR => exact .some (hP _ hR)

end Refines

end Table

end Constellation
