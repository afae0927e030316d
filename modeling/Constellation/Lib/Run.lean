import Mathlib.Data.List.Induction
import Mathlib.Data.List.Pairwise

/-!
# Runs of a machine whose steps may fail

A step takes a state and an event to a new state and the effects it leaves, or fails. A run is a
list of events taken one after the other; it ends well if every step does.

A condition on a run is a relation between each event and the events before it (`Along`).

The rule of use is `run_induction`: it proves a property of the history, the state and the effects of
every run that ends well, one more event at a time. What happened in a run is said by `Once` and `Since`,
of the states its events found; one more event is dealt with by `once_snoc` and `since_snoc`.
-/

namespace Constellation

/-! ### Conditions on a history -/

section Along
variable {ε : Type}

/-- Every event stands in the relation to the events before it. -/
def Along (P : List ε → ε → Prop) (es : List ε) : Prop :=
  ∀ pre e post, es = pre ++ e :: post → P pre e

theorem along_nil (P : List ε → ε → Prop) : Along P [] := by
  intro pre e post h
  simp at h

theorem along_cons {P : List ε → ε → Prop} {e : ε} {es : List ε} :
    Along P (e :: es) ↔ P [] e ∧ Along (fun pre => P (e :: pre)) es := by
  constructor
  · intro h
    exact ⟨h [] e es rfl, fun pre e' post heq => h (e :: pre) e' post (by rw [heq]; rfl)⟩
  · rintro ⟨hfirst, hrest⟩ pre e' post heq
    cases pre with
    | nil =>
      cases heq
      exact hfirst
    | cons e'' pre =>
      cases heq
      exact hrest pre e' post rfl

theorem along_snoc {P : List ε → ε → Prop} {es : List ε} {e : ε} :
    Along P (es ++ [e]) ↔ Along P es ∧ P es e := by
  constructor
  · intro h
    refine ⟨?_, h es e [] rfl⟩
    intro pre e' post heq
    exact h pre e' (post ++ [e]) (by rw [heq]; simp)
  · rintro ⟨hes, he⟩ pre e' post heq
    rcases List.eq_nil_or_concat post with rfl | ⟨post', e'', rfl⟩
    · obtain ⟨rfl, hlast⟩ := List.append_inj' heq rfl
      cases hlast
      exact he
    · have hsplit : es ++ [e] = (pre ++ e' :: post') ++ [e''] := by rw [heq]; simp
      obtain ⟨hinit, -⟩ := List.append_inj' hsplit rfl
      exact hes pre e' post' hinit

theorem Along.of_append {P : List ε → ε → Prop} {es fs : List ε} (h : Along P (es ++ fs)) : Along P es := by
  intro pre e post heq
  exact h pre e (post ++ fs) (by rw [heq]; simp)

theorem Along.mono {P Q : List ε → ε → Prop} {es : List ε} (h : Along P es)
    (hPQ : ∀ pre e, P pre e → Q pre e) : Along Q es :=
  fun pre e post heq => hPQ pre e (h pre e post heq)

end Along

/-! ### Runs -/

section
variable {σ ε κ ω : Type} (step : σ → ε → Except κ (σ × List ω))

/-- The final state and the effects of all steps, in order. -/
def run (s : σ) : List ε → Except κ (σ × List ω)
  | [] => .ok (s, [])
  | e :: es =>
    match step s e with
    | .error x => .error x
    | .ok (s', w) =>
      match run s' es with
      | .error x => .error x
      | .ok (s'', w') => .ok (s'', w ++ w')

variable {step} {s : σ}

theorem run_cons_ok {e : ε} {es : List ε} {t : σ} {w : List ω} :
    run step s (e :: es) = .ok (t, w) ↔
      ∃ s' w₁ w₂, step s e = .ok (s', w₁) ∧ run step s' es = .ok (t, w₂) ∧ w = w₁ ++ w₂ := by
  rw [run]
  constructor
  · intro h
    split at h
    · cases h
    · rename_i s' w₁ hstep
      split at h
      · cases h
      · rename_i t' w₂ hrun
        cases h
        exact ⟨s', w₁, w₂, hstep, hrun, rfl⟩
  · rintro ⟨s', w₁, w₂, hstep, hrun, rfl⟩
    rw [hstep]
    simp only [hrun]

theorem run_append_ok {es fs : List ε} {t : σ} {w : List ω} :
    run step s (es ++ fs) = .ok (t, w) ↔
      ∃ s' w₁ w₂, run step s es = .ok (s', w₁) ∧ run step s' fs = .ok (t, w₂) ∧ w = w₁ ++ w₂ := by
  induction es generalizing s w with
  | nil =>
    constructor
    · intro h
      exact ⟨s, [], w, rfl, h, rfl⟩
    · rintro ⟨s', w₁, w₂, hnil, hrun, rfl⟩
      cases hnil
      exact hrun
  | cons e es ih =>
    rw [List.cons_append, run_cons_ok]
    constructor
    · rintro ⟨s₁, w₁, w₂, hstep, hrest, rfl⟩
      obtain ⟨s₂, w₃, w₄, hes, hfs, rfl⟩ := ih.mp hrest
      exact ⟨s₂, w₁ ++ w₃, w₄, run_cons_ok.mpr ⟨s₁, w₁, w₃, hstep, hes, rfl⟩, hfs,
        (List.append_assoc ..).symm⟩
    · rintro ⟨s₂, w', w₄, hes, hfs, rfl⟩
      obtain ⟨s₁, w₁, w₃, hstep, hes', rfl⟩ := run_cons_ok.mp hes
      exact ⟨s₁, w₁, w₃ ++ w₄, hstep, ih.mpr ⟨s₂, w₃, w₄, hes', hfs, rfl⟩, List.append_assoc ..⟩

theorem run_snoc_ok {es : List ε} {e : ε} {t : σ} {w : List ω} :
    run step s (es ++ [e]) = .ok (t, w) ↔
      ∃ s' w₁ w₂, run step s es = .ok (s', w₁) ∧ step s' e = .ok (t, w₂) ∧ w = w₁ ++ w₂ := by
  rw [run_append_ok]
  constructor
  · rintro ⟨s', w₁, w₂, hes, he, rfl⟩
    obtain ⟨t', w₃, w₄, hstep, hnil, rfl⟩ := run_cons_ok.mp he
    cases hnil
    exact ⟨s', w₁, w₃, hes, hstep, by rw [List.append_nil]⟩
  · rintro ⟨s', w₁, w₂, hes, hstep, rfl⟩
    exact ⟨s', w₁, w₂, hes, run_cons_ok.mpr ⟨t, w₂, [], hstep, rfl, (List.append_nil _).symm⟩, rfl⟩

theorem run_snoc_error {es : List ε} {e : ε} {x : κ}
    (h : run step s es = .error x ∨ ∃ t w, run step s es = .ok (t, w) ∧ step t e = .error x) :
    run step s (es ++ [e]) = .error x := by
  induction es generalizing s with
  | nil =>
    rcases h with hstop | ⟨t, w, hnil, hstep⟩
    · cases hstop
    · cases hnil
      rw [List.nil_append, run, hstep]
  | cons e' es ih =>
    rw [List.cons_append, run]
    cases hstep : step s e' with
    | error y =>
      rcases h with hstop | ⟨t, w, hrun, -⟩
      · rw [run, hstep] at hstop
        exact hstop
      · rw [run, hstep] at hrun
        cases hrun
    | ok r =>
      have hrest : run step r.1 (es ++ [e]) = .error x := by
        apply ih
        rcases h with hstop | ⟨t, w, hrun, hlast⟩
        · left
          rw [run, hstep] at hstop
          dsimp only at hstop
          split at hstop
          · rename_i hes
            rw [hes]
            exact hstop
          · cases hstop
        · right
          obtain ⟨s', w₁, w₂, hstep', hes, -⟩ := run_cons_ok.mp hrun
          rw [hstep] at hstep'
          cases hstep'
          exact ⟨t, w₂, hes, hlast⟩
      dsimp only
      rw [hrest]

/-- What holds at the start and is kept by one more event holds after every run. -/
theorem run_induction {P : List ε → σ → List ω → Prop} (hstart : P [] s [])
    (hstep : ∀ es t w e t' w', run step s es = .ok (t, w) → P es t w → step t e = .ok (t', w') →
      P (es ++ [e]) t' (w ++ w'))
    {es : List ε} {t : σ} {w : List ω} (h : run step s es = .ok (t, w)) : P es t w := by
  induction es using List.reverseRecOn generalizing t w with
  | nil => cases h; exact hstart
  | append_singleton es e ih =>
    obtain ⟨s', w₁, w₂, hes, he, rfl⟩ := run_snoc_ok.mp h
    exact hstep es s' w₁ e t w₂ hes (ih hes) he

end

/-! ### What happened in a run -/

section Since
variable {σ ε κ ω : Type} (step : σ → ε → Except κ (σ × List ω)) (s : σ) (P Q : σ → ε → Prop)

/-- An event found `P`, and none after it found `Q`. -/
def Since (es : List ε) : Prop :=
  ∃ pre e post t w, es = pre ++ e :: post ∧ run step s pre = .ok (t, w) ∧ P t e ∧
    ∀ mid e' rest t' w', post = mid ++ e' :: rest → run step s (pre ++ e :: mid) = .ok (t', w') → ¬ Q t' e'

/-- An event found `P`. -/
def Once (es : List ε) : Prop := Since step s P (fun _ _ => False) es

variable {step s P Q} {es : List ε} {e : ε} {t : σ} {w : List ω}

theorem not_since_nil : ¬ Since step s P Q [] := by
  rintro ⟨pre, e, post, -, -, heq, -⟩
  simp at heq

theorem since_snoc (hrun : run step s es = .ok (t, w)) :
    Since step s P Q (es ++ [e]) ↔ P t e ∨ (Since step s P Q es ∧ ¬ Q t e) := by
  constructor
  · rintro ⟨pre, e', post, t', w', heq, hpre, hfound, hnone⟩
    rcases List.eq_nil_or_concat post with rfl | ⟨post', e'', rfl⟩
    · obtain ⟨rfl, hlast⟩ := List.append_inj' heq rfl
      cases hlast
      rw [hpre] at hrun
      cases hrun
      exact .inl hfound
    · have hsplit : es ++ [e] = (pre ++ e' :: post') ++ [e''] := by rw [heq]; simp
      obtain ⟨rfl, hlast⟩ := List.append_inj' hsplit rfl
      cases hlast
      refine .inr ⟨⟨pre, e', post', t', w', rfl, hpre, hfound, ?_⟩, ?_⟩
      · intro mid e₁ rest t₁ w₁ hpost hmid
        exact hnone mid e₁ (rest ++ [e]) t₁ w₁ (by rw [hpost]; simp) hmid
      · exact hnone post' e [] t w (by simp) hrun
  · rintro (hfound | ⟨⟨pre, e', post, t', w', rfl, hpre, hfound, hnone⟩, hlast⟩)
    · refine ⟨es, e, [], t, w, rfl, hrun, hfound, ?_⟩
      intro mid e' rest t' w' hnil
      simp at hnil
    · refine ⟨pre, e', post ++ [e], t', w', by simp, hpre, hfound, ?_⟩
      intro mid e₁ rest t₁ w₁ hpost hmid
      rcases List.eq_nil_or_concat rest with rfl | ⟨rest', e₂, rfl⟩
      · obtain ⟨rfl, heq⟩ := List.append_inj' hpost rfl
        cases heq
        rw [hmid] at hrun
        cases hrun
        exact hlast
      · have hsplit : post ++ [e] = (mid ++ e₁ :: rest') ++ [e₂] := by rw [hpost]; simp
        exact hnone mid e₁ rest' t₁ w₁ (List.append_inj' hsplit rfl).1 hmid

theorem not_once_nil : ¬ Once step s P [] := not_since_nil

theorem once_snoc (hrun : run step s es = .ok (t, w)) : Once step s P (es ++ [e]) ↔ Once step s P es ∨ P t e := by
  rw [Once, since_snoc hrun, Or.comm, and_iff_left id, Once]

end Since

/-! ### What can be seen of a run -/

section observe
variable {σ ε κ ω μ : Type} (step : σ → ε → Except κ (σ × List ω)) (view : σ → ε → List ω → List μ)

/-- What each step of a run shows, given the state it starts from and the effects it has. A step that fails
shows nothing, and nor does what would come after it. -/
def observe (s : σ) : List ε → List μ
  | [] => []
  | e :: es =>
    match step s e with
    | .error _ => []
    | .ok (s', w) => view s e w ++ observe s' es

variable {step view} {s t t' : σ} {es : List ε} {e : ε} {w w' : List ω}

theorem observe_snoc (hrun : run step s es = .ok (t, w)) (hstep : step t e = .ok (t', w')) :
    observe step view s (es ++ [e]) = observe step view s es ++ view t e w' := by
  induction es generalizing s w with
  | nil =>
    cases hrun
    simp only [List.nil_append, observe, hstep, List.append_nil]
  | cons e' es ih =>
    obtain ⟨s', w₁, w₂, hfirst, hrest, -⟩ := run_cons_ok.mp hrun
    rw [List.cons_append, observe, observe, hfirst]
    simp only [ih hrest, List.append_assoc]

theorem mem_observe {m : μ} (h : m ∈ observe step view s es) : ∃ t e w, e ∈ es ∧ m ∈ view t e w := by
  induction es generalizing s with
  | nil => cases h
  | cons e es ih =>
    rw [observe] at h
    split at h
    · cases h
    · rename_i s' w _
      rcases List.mem_append.mp h with hhere | hlater
      · exact ⟨s, e, w, List.mem_cons_self, hhere⟩
      · obtain ⟨t, e', w', he', hm⟩ := ih hlater
        exact ⟨t, e', w', List.mem_cons_of_mem _ he', hm⟩

/-- The clock readings of the events do not decrease. -/
def Clocked (time : ε → Option Nat) (es : List ε) : Prop := (es.filterMap time).Pairwise (· ≤ ·)

instance (time : ε → Option Nat) (es : List ε) : Decidable (Clocked time es) :=
  inferInstanceAs (Decidable (List.Pairwise _ _))

theorem Clocked.of_snoc {time : ε → Option Nat} (h : Clocked time (es ++ [e])) :
    Clocked time es ∧ ∀ now, time e = some now → ∀ u ∈ es.filterMap time, u ≤ now := by
  rw [Clocked, List.filterMap_append, List.pairwise_append] at h
  obtain ⟨hes, -, hlast⟩ := h
  refine ⟨hes, fun now hnow u hu => hlast u hu now ?_⟩
  rw [List.filterMap_cons_some hnow]
  exact List.mem_cons_self

variable (step s) in
theorem observe_clocked {time : ε → Option Nat} {stamp : μ → Nat}
    (hview : ∀ t e w m, m ∈ view t e w → time e = some (stamp m)) (h : Clocked time es) :
    (observe step view s es).Pairwise fun m m' => stamp m ≤ stamp m' := by
  induction es generalizing s with
  | nil => exact .nil
  | cons e es ih =>
    rw [observe]
    split
    · exact .nil
    · rename_i s' w _
      have hrest : Clocked time es := by
        rw [Clocked, List.filterMap_cons] at h
        split at h
        · exact h
        · exact (List.pairwise_cons.mp h).2
      refine List.pairwise_append.mpr ⟨?_, ih _ hrest, ?_⟩
      · apply List.pairwise_of_forall_mem_list
        intro m hm m' hm'
        have hsame := (hview s e w m hm).symm.trans (hview s e w m' hm')
        exact Nat.le_of_eq (Option.some.inj hsame)
      · intro m hm m' hm'
        obtain ⟨t, e', v, he', hm'⟩ := mem_observe hm'
        rw [Clocked, List.filterMap_cons, hview s e w m hm] at h
        exact (List.pairwise_cons.mp h).1 _ (List.mem_filterMap.mpr ⟨e', he', hview t e' v m' hm'⟩)

end observe

end Constellation
