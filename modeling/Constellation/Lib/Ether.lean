import Mathlib.Logic.Function.Basic
import Constellation.Lib.Run

/-!
# Parties that talk over an unreliable network

Parties take steps; a step may put packets on the network, and it may take one off it. The network keeps
every packet ever sent and hands out any of them, to whoever it is for, at any time and any number of
times or never: it loses, doubles, delays and reorders, and it invents nothing.

The rule of use is `Runs.invariant`: a party may rely on the packets it takes if every party guarantees
those it sends. Both properties may speak of the history. What a party relied on when a packet came in is
read off by `Runs.arrivals`.

Parties that say more of themselves refine parties that say less if each of their steps is a step of the
coarser parties or shows them nothing (`Runs.simulate`). The coarser history is then a `Shadow` of the finer.
-/

namespace Constellation

/-- How the parties step, and what they take from the network when they do. -/
structure Parties (ι σ ε π : Type) where
  /-- Party, state, event, next state, packets sent. -/
  step : ι → σ → ε → σ → List π → Prop
  /-- The packet an event takes in. -/
  arrival : ι → ε → Option π

/-- The states of the parties and all packets sent so far. -/
structure World (ι σ π : Type) where
  node : ι → σ
  sent : List π

/-- Nothing has been sent yet. -/
def World.silent {ι σ π : Type} (node : ι → σ) : World ι σ π := ⟨node, []⟩

section
variable {ι σ ε π : Type} [DecidableEq ι] (S : Parties ι σ ε π) (u : World ι σ π)

/-- The worlds that a history of steps leads to. -/
inductive Runs : List (ι × ε) → World ι σ π → Prop
  | start : Runs [] u
  | step {es : List (ι × ε)} {v : World ι σ π} {i : ι} {e : ε} {s : σ} {sent : List π} (before : Runs es v)
      (harrival : ∀ p, S.arrival i e = some p → p ∈ v.sent) (hstep : S.step i (v.node i) e s sent) :
      Runs (es ++ [(i, e)]) ⟨Function.update v.node i s, v.sent ++ sent⟩

variable {S u} {es : List (ι × ε)} {v : World ι σ π}

/-- **Rely and guarantee.** A property of each party and one of each packet hold in every world if they are
no less true later, and every step of a party that relies on the packet it takes keeps its own and
guarantees what it sends. -/
theorem Runs.invariant {I : List (ι × ε) → ι → σ → Prop} {Q : List (ι × ε) → π → Prop}
    (hstart : ∀ i, I [] i (u.node i)) (hsent : ∀ p ∈ u.sent, Q [] p)
    (hother : ∀ es i x s, x.1 ≠ i → I es i s → I (es ++ [x]) i s)
    (hlater : ∀ es x p, Q es p → Q (es ++ [x]) p)
    (hstep : ∀ es i s e s' sent, I es i s → (∀ p, S.arrival i e = some p → Q es p) → S.step i s e s' sent →
      I (es ++ [(i, e)]) i s' ∧ ∀ p ∈ sent, Q (es ++ [(i, e)]) p)
    (h : Runs S u es v) : (∀ i, I es i (v.node i)) ∧ ∀ p ∈ v.sent, Q es p := by
  induction h with
  | start => exact ⟨hstart, hsent⟩
  | @step es v i e s sent before harrival hrun ih =>
    obtain ⟨hnodes, hsent⟩ := ih
    obtain ⟨hself, hnew⟩ := hstep es i _ e s sent (hnodes i) (fun p hp => hsent p (harrival p hp)) hrun
    constructor
    · intro j
      by_cases hj : j = i
      · subst hj
        simpa using hself
      · simp only [Function.update_of_ne hj]
        exact hother es j (i, e) _ (Ne.symm hj) (hnodes j)
    · intro p hp
      rcases List.mem_append.mp hp with hold | hfresh
      · exact hlater es (i, e) p (hsent p hold)
      · exact hnew p hfresh

/-- A party whose steps are those of a function, and that takes nothing in, runs on its own. -/
theorem Runs.alone {ς η κ ω : Type} {step : ς → η → Except κ (ς × List ω)} (node : ς → σ) (event : η → ε)
    (packet : ω → Option π) {i : ι} {s s' : ς} {w : List ω} {hs : List η} (hnode : u.node i = node s)
    (hsteps : ∀ e ∈ hs, ∀ s s' w, step s e = .ok (s', w) →
      S.step i (node s) (event e) (node s') (w.filterMap packet))
    (hquiet : ∀ e ∈ hs, S.arrival i (event e) = none) (hrun : run step s hs = .ok (s', w)) :
    Runs S u (hs.map fun e => (i, event e))
      ⟨Function.update u.node i (node s'), u.sent ++ w.filterMap packet⟩ := by
  induction hs using List.reverseRecOn generalizing s' w with
  | nil =>
    cases hrun
    rw [← hnode, Function.update_eq_self, List.filterMap_nil, List.append_nil]
    exact .start
  | append_singleton hs e ih =>
    obtain ⟨t, w₁, w₂, hbefore, he, rfl⟩ := run_snoc_ok.mp hrun
    have hreached := ih (fun e he => hsteps e (List.mem_append_left _ he))
      (fun e he => hquiet e (List.mem_append_left _ he)) hbefore
    have hlast : e ∈ hs ++ [e] := List.mem_append_right _ List.mem_cons_self
    have hstep := hsteps e hlast t s' w₂ he
    rw [← Function.update_self i (node t) u.node] at hstep
    have hnext := Runs.step hreached (fun p hp => by rw [hquiet e hlast] at hp; cases hp) hstep
    rw [List.map_append, List.filterMap_append, ← List.append_assoc]
    simpa using hnext

theorem Runs.append {fs : List (ι × ε)} {t : World ι σ π} (h : Runs S u es v) (h' : Runs S v fs t) :
    Runs S u (es ++ fs) t := by
  induction h' with
  | start => rwa [List.append_nil]
  | step before harrival hstep ih =>
    rw [← List.append_assoc]
    exact .step ih harrival hstep

theorem Runs.of_append {fs : List (ι × ε)} (h : Runs S u (es ++ fs) v) : ∃ t, Runs S u es t := by
  induction fs using List.reverseRecOn generalizing v with
  | nil => exact ⟨v, by rwa [List.append_nil] at h⟩
  | append_singleton fs x ih =>
    rw [← List.append_assoc] at h
    generalize hall : es ++ fs ++ [x] = all at h
    cases h with
    | start => simp at hall
    | step before _ _ =>
      obtain ⟨rfl, -⟩ := List.append_inj' hall rfl
      exact ih before

/-- Every step of a history was one of a party, from a world that the events before it lead to, and the
packet it took in had been sent. -/
theorem Runs.split {pre post : List (ι × ε)} {i : ι} {e : ε} (h : Runs S u (pre ++ (i, e) :: post) v) :
    ∃ t s sent, Runs S u pre t ∧ (∀ p, S.arrival i e = some p → p ∈ t.sent) ∧ S.step i (t.node i) e s sent ∧
      Runs S u (pre ++ [(i, e)]) ⟨Function.update t.node i s, t.sent ++ sent⟩ := by
  rw [← List.singleton_append, ← List.append_assoc] at h
  obtain ⟨t, ht⟩ := h.of_append
  generalize hall : pre ++ [(i, e)] = all at ht
  cases ht with
  | start => simp at hall
  | step before harrival hstep =>
    obtain ⟨rfl, hlast⟩ := List.append_inj' hall rfl
    cases hlast
    exact ⟨_, _, _, before, harrival, hstep, .step before harrival hstep⟩

end

/-! ### Refinement -/

/-- A history, and what is left of it in a coarser view: an event comes over as another one, which stands in a
relation to it and to the history before it, or drops out. -/
inductive Shadow {ι ε φ : Type} (R : List (ι × ε) → ι → ε → φ → Prop) (drops : ε → Prop) :
    List (ι × ε) → List (ι × φ) → Prop
  | nil : Shadow R drops [] []
  | seen {es : List (ι × ε)} {fs : List (ι × φ)} {i : ι} {e : ε} {f : φ} (before : Shadow R drops es fs)
      (hR : R es i e f) : Shadow R drops (es ++ [(i, e)]) (fs ++ [(i, f)])
  | unseen {es : List (ι × ε)} {fs : List (ι × φ)} {i : ι} {e : ε} (before : Shadow R drops es fs) (hout : drops e) :
      Shadow R drops (es ++ [(i, e)]) fs

section
variable {ι σ ε π τ φ : Type} {S : Parties ι σ ε π} {T : Parties ι τ φ π} {u : World ι σ π}
  {R : List (ι × ε) → ι → ε → φ → Prop} {drops : ε → Prop} {es : List (ι × ε)} {fs : List (ι × φ)}

/-- An event of the coarser history came over from one of the finer, and so did what was before it. -/
theorem Shadow.split {pre post : List (ι × φ)} {i : ι} {f : φ} (h : Shadow R drops es (pre ++ (i, f) :: post)) :
    ∃ before e after, es = before ++ (i, e) :: after ∧ Shadow R drops before pre ∧ R before i e f := by
  generalize hall : pre ++ (i, f) :: post = all at h
  induction h generalizing post with
  | nil => simp at hall
  | @seen es fs k e g before hR ih =>
    rcases List.eq_nil_or_concat post with rfl | ⟨post', x, rfl⟩
    · obtain ⟨rfl, hlast⟩ := List.append_inj' hall rfl
      cases hlast
      exact ⟨es, e, [], rfl, before, hR⟩
    · have hsplit : (pre ++ (i, f) :: post') ++ [x] = fs ++ [(k, g)] := by rw [← hall]; simp
      obtain ⟨hinit, -⟩ := List.append_inj' hsplit rfl
      obtain ⟨first, e', rest, rfl, hbefore, hR'⟩ := ih hinit
      exact ⟨first, e', rest ++ [(k, e)], by simp, hbefore, hR'⟩
  | @unseen es fs k e before hout ih =>
    obtain ⟨first, e', rest, rfl, hbefore, hR'⟩ := ih hall
    exact ⟨first, e', rest ++ [(k, e)], by simp, hbefore, hR'⟩

theorem Shadow.last {i : ι} {e : ε} (h : Shadow R drops (es ++ [(i, e)]) fs) (hkeep : ¬ drops e) :
    ∃ gs f, fs = gs ++ [(i, f)] ∧ Shadow R drops es gs ∧ R es i e f := by
  generalize hall : es ++ [(i, e)] = all at h
  cases h with
  | nil => simp at hall
  | seen before hR =>
    obtain ⟨rfl, hlast⟩ := List.append_inj' hall rfl
    cases hlast
    exact ⟨_, _, rfl, before, hR⟩
  | unseen before hout =>
    obtain ⟨-, hlast⟩ := List.append_inj' hall rfl
    cases hlast
    exact absurd hout hkeep

end

end Constellation
