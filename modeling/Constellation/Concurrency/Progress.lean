import Constellation.Concurrency.Threads
import Mathlib.Algebra.Order.BigOperators.Group.Finset

/-!
# Who waits, and how long

In the threads of a disciplined program whoever cannot take a step waits, for a notification, for a lock, for a thread
or in a call that never returns (`Sound.waits`), and whoever holds a lock can take one (`Sound.holder_steps`). Once the
flag is cleared, the threads run out of steps (`run_potential`): every step but a wakeup without a reason lowers a
potential. And somebody can take a step until all have ended (`Sound.ends_or_steps`), unless a call never returns: then
the thread stays in it, and the main thread does not end (`Sound.main_waits`).
-/

namespace Constellation

open MessageQueue (Popped)

namespace Threads

variable {ι κ μ T : Type} [DecidableEq ι] [Fintype ι] [DecidableEq κ] [DecidableEq μ] {P : Program ι κ μ T}
  {s s' : Threads ι κ μ T} {a : Act ι κ μ T} {w : List (Popped T ι)}

/-! ### Who waits for whom -/

/-- The thread a step is one of. -/
def Act.thread : Act ι κ μ T → ι
  | .begin t _ => t
  | .leave t => t
  | .next t _ => t
  | .wake _ t => t

/-- The thread can take a step that is not a wakeup without a reason. -/
def CanStep (P : Program ι κ μ T) (s : Threads ι κ μ T) (t : ι) : Prop :=
  ∃ a, a.isWake = false ∧ a.thread = t ∧ P.Legit a ∧ ∃ r, s.step a = .ok r

/-- The thread waits: for a notification, for a lock, for a thread, or in a call that never returns. -/
inductive Waits (s : Threads ι κ μ T) (t : ι) : Prop
  | asleep {q : κ} {rest : List (Op ι κ μ T)} (ht : s.place t = .before (.pop q :: rest))
      (hasleep : (s.queue q).phase t = .asleep)
  | lock {m : μ} {u : ι} {rest : List (Op ι κ μ T)} (ht : s.place t = .before (.lock m :: rest)) (hheld : s.holder m = some u)
  | join {u : ι} {rest : List (Op ι κ μ T)} (ht : s.place t = .before (.join u :: rest)) (hu : s.place u ≠ .ended)
  | call {rest : List (Op ι κ μ T)} (ht : s.place t = .before (.call false :: rest))

omit [DecidableEq μ] in
theorem onQueue_ok {q : κ} {b : MessageQueue.Act T ι} {t : ι} {p : List (Popped T ι) → Place ι κ μ T}
    (h : ∃ r, (s.queue q).step b = .ok r) : ∃ r, s.onQueue q b t p = .ok r := by
  obtain ⟨⟨queue, popped⟩, hstep⟩ := h
  rw [onQueue, hstep]
  exact ⟨_, rfl⟩

theorem Sound.performs (hs : s.Sound P) {t : ι} {op : Op ι κ μ T} {rest : List (Op ι κ μ T)}
    (hplace : s.place t = .before (op :: rest)) : (∃ r, s.perform t rest op = .ok r) ∨ s.Waits t := by
  have hfits : ∀ q, (Place.before (op :: rest)).Fits q ((s.queue q).phase t) := by
    intro q
    rw [← hplace]
    exact hs.fits q t
  cases op with
  | lock m =>
    cases hheld : s.holder m with
    | some u => exact .inr (.lock hplace hheld)
    | none => exact .inl ⟨_, if_pos hheld⟩
  | unlock m => exact .inl ⟨_, rfl⟩
  | pushBack q message => exact .inl (onQueue_ok ((s.queue q).pushBack_ok message (hfits q)))
  | pop q =>
    rcases hfits q with hout | ⟨-, hasleep | hwoken⟩
    · exact .inl (onQueue_ok ((s.queue q).pop_ok (.inl hout)))
    · exact .inr (.asleep hplace hasleep)
    · exact .inl (onQueue_ok ((s.queue q).pop_ok (.inr hwoken)))
  | check => exact .inl ⟨_, rfl⟩
  | clear => exact .inl ⟨_, rfl⟩
  | shutdown q => exact .inl (onQueue_ok ((s.queue q).shutdown_ok (hfits q)))
  | join u =>
    by_cases hu : s.place u = .ended
    · exact .inl ⟨_, if_pos (by rw [hu]; rfl)⟩
    · exact .inr (.join hplace hu)
  | call returns =>
    cases returns with
    | true => exact .inl ⟨_, rfl⟩
    | false => exact .inr (.call hplace)

/-- **Whoever has not ended can take a step, or waits.** -/
theorem Sound.waits (hs : s.Sound P) (hrounds : ∀ t, ∃ ops, P.Round t ops) {t : ι} (ht : s.place t ≠ .ended) :
    CanStep P s t ∨ s.Waits t := by
  have hnext : ∀ {g r}, s.step (.next t g) = .ok r → CanStep P s t := fun {g r} hg => ⟨.next t g, rfl, rfl, trivial, r, hg⟩
  have hfits : ∀ q, (s.place t).Fits q ((s.queue q).phase t) := fun q => hs.fits q t
  cases hplace : s.place t with
  | ended => exact absurd hplace ht
  | notifying q rest =>
    have hphase : (s.queue q).phase t = .notifying := by
      have hq := hfits q
      rw [hplace] at hq
      rcases hq with ⟨-, h⟩ | ⟨hne, -⟩
      · exact h
      · exact absurd rfl hne
    obtain ⟨g, htarget⟩ := (s.queue q).notifyOne_ok hphase
    obtain ⟨r, hr⟩ := onQueue_ok (t := t) (p := fun _ => .before rest) htarget
    refine .inl (hnext (g := g) (r := r) ?_)
    rw [Threads.step, hplace]
    exact hr
  | closing q rest =>
    have hphase : (s.queue q).phase t = .closing := by
      have hq := hfits q
      rw [hplace] at hq
      rcases hq with ⟨-, h⟩ | ⟨hne, -⟩
      · exact h
      · exact absurd rfl hne
    obtain ⟨r, hr⟩ := onQueue_ok (t := t) (p := fun _ => .before rest) ((s.queue q).notifyAll_ok hphase)
    refine .inl (hnext (g := none) (r := r) ?_)
    rw [Threads.step, hplace]
    exact hr
  | before ops =>
    cases ops with
    | nil =>
      left
      cases hrunning : s.running with
      | true =>
        obtain ⟨ops, hops⟩ := hrounds t
        refine ⟨.begin t ops, rfl, rfl, hops, ?_⟩
        rw [Threads.step, hplace]
        exact ⟨_, if_pos hrunning⟩
      | false =>
        refine ⟨.leave t, rfl, rfl, trivial, ?_⟩
        rw [Threads.step, hplace]
        exact ⟨_, if_neg (by simp [hrunning])⟩
    | cons op rest =>
      rcases hs.performs hplace with ⟨r, hr⟩ | hwaits
      · refine .inl (hnext (g := none) (r := r) ?_)
        rw [Threads.step, hplace]
        exact hr
      · exact .inr hwaits

theorem Sound.holder_steps (hs : s.Sound P) (hrounds : ∀ t, ∃ ops, P.Round t ops) {m : μ} {u : ι} (hheld : s.holder m = some u) :
    CanStep P s u := by
  obtain ⟨held, htidy, hown⟩ := hs.locks u
  have hm : held = some m := (hown m).mp hheld
  subst hm
  have hlive : s.place u ≠ .ended := by
    intro hended
    rw [hended] at htidy
    cases htidy
  rcases hs.waits hrounds hlive with hstep | hwaits
  · exact hstep
  · -- Nobody waits while he holds a lock.
    cases hwaits with
    | asleep ht => rw [ht] at htidy; cases htidy.1
    | lock ht => rw [ht] at htidy; cases htidy.1
    | join ht => rw [ht] at htidy; cases htidy.1
    | call ht => rw [ht] at htidy; cases htidy.1

omit [DecidableEq ι] [DecidableEq κ] [DecidableEq μ] in
theorem Sound.mem_script (hs : s.Sound P) {t : ι} {op : Op ι κ μ T} {rest : List (Op ι κ μ T)}
    (ht : s.place t = .before (op :: rest)) : ∃ ops, P.Script t ops ∧ op ∈ ops := by
  obtain ⟨ops, hops, hsuffix⟩ := hs.script t
  rw [ht] at hsuffix
  exact ⟨ops, hops, hsuffix.subset List.mem_cons_self⟩

/-- **Once the flag is cleared, somebody can take a step until all have ended.** -/
theorem Sound.ends_or_steps (hP : P.Disciplined) (hs : s.Sound P) (hrounds : ∀ t, ∃ ops, P.Round t ops)
    (hreturns : ∀ t ops, P.Script t ops → .call false ∉ ops) (hcleared : s.running = false) :
    (∀ t, s.place t = .ended) ∨ ∃ t, CanStep P s t := by
  have hw := hs.winds hcleared
  by_cases hmain : s.place P.main = .ended
  · left
    intro t
    by_cases ht : t = P.main
    · rw [ht]
      exact hmain
    · rcases (hw t ht).1 with hended | hjoin
      · exact hended
      · rw [hmain] at hjoin
        cases hjoin
  right
  rcases hs.waits hrounds hmain with hstep | hwaits
  · exact ⟨_, hstep⟩
  cases hwaits with
  | asleep ht =>
    obtain ⟨ops, hops, hpop⟩ := hs.mem_script ht
    exact absurd rfl (hP.pops hops hpop).1
  | lock ht hheld => exact ⟨_, hs.holder_steps hrounds hheld⟩
  | call ht =>
    obtain ⟨ops, hops, hcall⟩ := hs.mem_script ht
    exact absurd hcall (hreturns _ _ hops)
  | @join u rest ht hu =>
    -- The thread to be joined has been told to stop.
    rcases hs.waits hrounds hu with hstep | hwaits
    · exact ⟨_, hstep⟩
    obtain ⟨ops, hops, hjoin⟩ := hs.mem_script ht
    have hne := (hP.joins hops hjoin).2
    cases hwaits with
    | @asleep q _ htu hasleep =>
      obtain ⟨ops', hops', hpop⟩ := hs.mem_script htu
      have hserves := (hP.pops hops' hpop).2
      rcases (hw u hne).2 [] rest (by rw [ht]; rfl) q hserves with hmem | hshut | ⟨ops, hclosing⟩
      · cases hmem
      · exact absurd hasleep (hshut.2 u)
      · rw [ht] at hclosing
        cases hclosing
    | lock htu hheld => exact ⟨_, hs.holder_steps hrounds hheld⟩
    | join htu =>
      obtain ⟨ops', hops', hjoin'⟩ := hs.mem_script htu
      exact absurd (hP.joins hops' hjoin').1 hne
    | call htu =>
      obtain ⟨ops', hops', hcall⟩ := hs.mem_script htu
      exact absurd hcall (hreturns _ _ hops')

/-! ### How many steps are left -/

/-- The steps an operation takes; a shutdown may wake everybody. -/
def weight (n : Nat) : Op ι κ μ T → Nat
  | .pushBack _ _ => 3
  | .shutdown _ => n + 2
  | _ => 1

/-- The steps to the end of the thread. -/
def remaining (n : Nat) : Place ι κ μ T → Nat
  | .before ops => (ops.map (weight n)).sum + 1
  | .notifying _ ops => (ops.map (weight n)).sum + 3
  | .closing _ ops => (ops.map (weight n)).sum + n + 2
  | .ended => 0

/-- One, unless the thread sleeps. -/
def alert (s : Threads ι κ μ T) (t : ι) : Nat :=
  match s.place t with
  | .before (.pop q :: _) => if (s.queue q).phase t = .asleep then 0 else 1
  | _ => 1

/-- The steps left when the flag is cleared, but for threads that wake up without a reason. -/
def potential (s : Threads ι κ μ T) : Nat := ∑ t, (remaining (Fintype.card ι) (s.place t) + s.alert t)

omit [DecidableEq ι] [Fintype ι] [DecidableEq κ] [DecidableEq μ] in
theorem alert_le (s : Threads ι κ μ T) (t : ι) : s.alert t ≤ 1 := by
  rw [alert]
  split
  · split_ifs <;> decide
  · exact Nat.le_refl 1

omit [DecidableEq κ] [DecidableEq μ] in
theorem sum_pays {f f' g : ι → Nat} {t : ι} {d : Nat} (hself : f' t + d ≤ f t + g t) (hothers : ∀ u, u ≠ t → f' u ≤ f u + g u) :
    ∑ u, f' u + d ≤ ∑ u, f u + ∑ u, g u := by
  have hd : ∑ u, (if u = t then d else 0) = d := by simp
  rw [← Finset.sum_add_distrib, ← hd, ← Finset.sum_add_distrib]
  refine Finset.sum_le_sum fun u _ => ?_
  by_cases hu : u = t
  · subst hu
    simpa using hself
  · simpa [hu] using hothers u hu

omit [DecidableEq κ] [DecidableEq μ] in
theorem potential_goTo {t : ι} {p : Place ι κ μ T} (hqueue : s'.queue = s.queue) (hplace : s'.place = Function.update s.place t p)
    (hawake : s.alert t = 1) (hpays : remaining (Fintype.card ι) p + 1 ≤ remaining (Fintype.card ι) (s.place t)) :
    s'.potential + 1 ≤ s.potential := by
  have hothers : ∀ u, u ≠ t → remaining (Fintype.card ι) (s'.place u) + s'.alert u ≤
      remaining (Fintype.card ι) (s.place u) + s.alert u + 0 := by
    intro u hu
    have hsame : s'.place u = s.place u := by rw [hplace, Function.update_of_ne hu]
    rw [alert, alert, hsame, hqueue]
    exact Nat.le_refl _
  have hself : remaining (Fintype.card ι) (s'.place t) + s'.alert t + 1 ≤
      remaining (Fintype.card ι) (s.place t) + s.alert t + 0 := by
    have halert := s'.alert_le t
    rw [hplace, Function.update_self]
    omega
  have hsum := sum_pays (g := fun _ => 0) hself hothers
  simpa [potential] using hsum

omit [DecidableEq μ] in
theorem potential_turn {t : ι} {q : κ} {b : MessageQueue.Act T ι} {queue : MessageQueue T ι} {popped : List (Popped T ι)}
    {p : Place ι κ μ T} {d e : Nat} (hqueue : (s.queue q).Moves b queue popped) (hthread : b.thread = t)
    (hplace : s' = ({ s with queue := Function.update s.queue q queue }.goTo t p))
    (hpays : remaining (Fintype.card ι) p + s'.alert t + d ≤ remaining (Fintype.card ι) (s.place t) + s.alert t + e) :
    s'.potential + d ≤ s.potential + (e + ∑ u, if b.wakes u then 1 else 0) := by
  have hself : remaining (Fintype.card ι) (s'.place t) + s'.alert t + d ≤ remaining (Fintype.card ι) (s.place t) + s.alert t +
      ((if t = t then e else 0) + if b.wakes t then 1 else 0) := by
    rw [hplace, goTo_self, ← hplace, if_pos rfl]
    omega
  have hothers : ∀ u, u ≠ t → remaining (Fintype.card ι) (s'.place u) + s'.alert u ≤
      remaining (Fintype.card ι) (s.place u) + s.alert u + ((if u = t then e else 0) + if b.wakes u then 1 else 0) := by
    intro u hu
    have hsame : s'.place u = s.place u := by rw [hplace, goTo_of_ne _ _ _ hu]
    rw [hsame]
    by_cases hwakes : b.wakes u = true
    · have halert := s'.alert_le u
      rw [if_pos hwakes]
      omega
    · have hphase : ∀ q', (s'.queue q').phase u = (s.queue q').phase u := by
        intro q'
        rw [hplace, goTo_queue]
        dsimp only
        by_cases hq : q' = q
        · subst hq
          rw [Function.update_self]
          rcases hqueue.phase_other (j := u) (by rwa [hthread]) with h | ⟨h, -⟩
          · exact h
          · exact absurd h hwakes
        · rw [Function.update_of_ne hq]
      have halert : s'.alert u = s.alert u := by
        rw [alert, alert, hsame]
        split
        · rw [hphase]
        · rfl
      rw [halert]
      omega
  have hsum := sum_pays (g := fun u => (if u = t then e else 0) + if b.wakes u then 1 else 0) hself hothers
  have hshares : ∑ u, ((if u = t then e else 0) + if b.wakes u then 1 else 0) = e + ∑ u, if b.wakes u then 1 else 0 := by
    rw [Finset.sum_add_distrib, Finset.sum_ite_eq' Finset.univ t, if_pos (Finset.mem_univ t)]
  rw [hshares] at hsum
  exact hsum

/-- **Once the flag is cleared, every step but a wakeup without a reason uses up some of what is left.** -/
theorem Moves.potential (h : s.Moves a s') (hcleared : s.running = false) :
    s'.potential + 1 ≤ s.potential + if a.isWake then 2 else 0 := by
  have hother : ∀ {t op rest}, s.place t = .before (op :: rest) → (∀ q, op ≠ .pop q) → s.alert t = 1 := by
    intro t op rest ht hop
    rw [alert, ht]
    cases op with
    | pop q => exact absurd rfl (hop q)
    | _ => rfl
  have hone : ∀ {t : ι} {op : Op ι κ μ T} {rest : List (Op ι κ μ T)}, s.place t = .before (op :: rest) →
      remaining (Fintype.card ι) (.before rest : Place ι κ μ T) + 1 ≤ remaining (Fintype.card ι) (s.place t) := by
    intro t op rest ht
    rw [ht, remaining, remaining, List.map_cons, List.sum_cons]
    have hweight : 1 ≤ weight (Fintype.card ι) op := by cases op <;> simp [weight]
    omega
  cases h with
  | begin ht hrunning =>
    rw [hcleared] at hrunning
    cases hrunning
  | leave ht => exact potential_goTo rfl rfl (by rw [alert, ht]) (by rw [ht]; simp [remaining])
  | breaks ht => exact potential_goTo rfl rfl (hother ht (by simp)) (by rw [ht]; simp [remaining, weight])
  | @passes t g op rest ht hop =>
    refine potential_goTo rfl rfl (hother ht ?_) (hone ht)
    rintro q rfl
    exact hop
  | lock ht => exact potential_goTo rfl rfl (hother ht (by simp)) (hone ht)
  | unlock ht => exact potential_goTo rfl rfl (hother ht (by simp)) (hone ht)
  | clear ht => exact potential_goTo rfl rfl (hother ht (by simp)) (hone ht)
  | @turn t q a b queue popped p hqueue hturn =>
    have hthread := hturn.thread
    have hafter := ({ s with queue := Function.update s.queue q queue }.goTo t p).alert_le t
    have hpays : ∀ {d : Nat}, _ → _ := fun {d} => potential_turn (p := p) (d := d) (e := 0) hqueue hthread rfl
    generalize hbefore : s.place t = before at hturn
    rw [hbefore] at hpays
    cases hturn with
    | pushBack =>
      have hawake := hother hbefore (by simp)
      simp only [remaining, List.map_cons, List.sum_cons, weight, hawake] at hpays
      have hless := hpays (d := 1) (by omega)
      simpa [MessageQueue.Act.wakes, Act.isWake] using hless
    | @notifyOne g _ rest =>
      have hawake : s.alert t = 1 := by rw [alert, hbefore]
      simp only [remaining, hawake] at hpays
      have hless := hpays (d := 2) (by omega)
      have hone : ∑ u, (if MessageQueue.Act.wakes (T := T) (.notifyOne t g) u then 1 else 0) ≤ 1 := by
        cases g with
        | none => simp [MessageQueue.Act.wakes]
        | some j => simp [MessageQueue.Act.wakes]
      simp only [Act.isWake]
      omega
    | shutdown =>
      have hawake := hother hbefore (by simp)
      simp only [remaining, List.map_cons, List.sum_cons, weight, hawake] at hpays
      have hless := hpays (d := 1) (by omega)
      simpa [MessageQueue.Act.wakes, Act.isWake] using hless
    | notifyAll =>
      have hawake : s.alert t = 1 := by rw [alert, hbefore]
      simp only [remaining, hawake] at hpays
      have hless := hpays (d := Fintype.card ι + 1) (by omega)
      simp [MessageQueue.Act.wakes, Act.isWake] at hless ⊢
      omega
    | @waits g rest =>
      cases hqueue with
      | waits hi hempty hopen =>
        have hawake : s.alert t = 1 := by
          rw [alert, hbefore]
          exact if_neg (by rcases hi with hi | hi <;> simp [hi])
        have hsleeps : ({ s with queue := Function.update s.queue q ((s.queue q).goTo t .asleep) }.goTo t
            (.before (.pop q :: rest))).alert t = 0 := by
          simp [alert, goTo, MessageQueue.goTo]
        rw [hawake, hsleeps] at hpays
        have hless := hpays (d := 1) (by omega)
        simpa [MessageQueue.Act.wakes, Act.isWake] using hless
    | @pops g r popped rest =>
      have hawake : s.alert t = 1 := by
        rw [alert, hbefore]
        cases hqueue with
        | stops hi => exact if_neg (by rcases hi with hi | hi <;> simp [hi])
        | takes hi => exact if_neg (by rcases hi with hi | hi <;> simp [hi])
      simp only [remaining, List.map_cons, List.sum_cons, weight, hawake] at hpays
      have hless := hpays (d := 1) (by omega)
      simpa [MessageQueue.Act.wakes, Act.isWake] using hless
    | wakes =>
      have hless := potential_turn (p := p) (d := 0) (e := 1) hqueue hthread rfl (by rw [hbefore]; omega)
      simp [MessageQueue.Act.wakes, Act.isWake] at hless ⊢
      omega

theorem run_potential {es : List (Act ι κ μ T)} (hcleared : s.running = false) (hrun : run Threads.step s es = .ok (s', w)) :
    s'.running = false ∧ es.length + s'.potential ≤ s.potential + 2 * es.countP Act.isWake := by
  refine run_induction (P := fun es s' _ => s'.running = false ∧
    es.length + s'.potential ≤ s.potential + 2 * es.countP Act.isWake) ⟨hcleared, by simp⟩ ?_ hrun
  intro es t w e t' w' _ ⟨hstopped, hpaid⟩ hstep
  have hmoves := step_moves hstep
  refine ⟨hmoves.cleared hstopped, ?_⟩
  have hless := hmoves.potential hstopped
  rw [List.length_append, List.countP_append, List.countP_singleton]
  split_ifs at hless ⊢ <;> simp only [List.length_singleton] <;> omega

/-! ### Calls that never return -/

omit [Fintype ι] in
theorem Moves.stuck (h : s.Moves a s') {u : ι} {rest : List (Op ι κ μ T)} (hu : s.place u = .before (.call false :: rest)) :
    s'.place u = .before (.call false :: rest) := by
  have hstays : ∀ {t : ι} {p : Place ι κ μ T}, (t = u → p = s.place t) → Function.update s.place t p u = s.place u := by
    intro t p ht
    by_cases hut : u = t
    · subst hut
      rw [Function.update_self]
      exact ht rfl
    · exact Function.update_of_ne hut ..
  rw [← hu]
  cases h with
  | begin ht => exact hstays (by rintro rfl; rw [hu] at ht; cases ht)
  | leave ht => exact hstays (by rintro rfl; rw [hu] at ht; cases ht)
  | breaks ht => exact hstays (by rintro rfl; rw [hu] at ht; cases ht)
  | passes ht hop =>
    refine hstays ?_
    rintro rfl
    rw [hu] at ht
    cases ht
    cases hop
  | lock ht => exact hstays (by rintro rfl; rw [hu] at ht; cases ht)
  | unlock ht => exact hstays (by rintro rfl; rw [hu] at ht; cases ht)
  | clear ht => exact hstays (by rintro rfl; rw [hu] at ht; cases ht)
  | turn hqueue hturn =>
    refine hstays ?_
    rintro rfl
    rw [hu] at hturn ⊢
    cases hturn
    rfl

theorem run_stuck {es : List (Act ι κ μ T)} (hrun : run Threads.step s es = .ok (s', w)) {u : ι} {rest : List (Op ι κ μ T)}
    (hu : s.place u = .before (.call false :: rest)) : s'.place u = .before (.call false :: rest) := by
  refine run_induction (P := fun _ s' _ => s'.place u = .before (.call false :: rest)) hu ?_ hrun
  exact fun es t w e t' w' _ ht hstep => (step_moves hstep).stuck ht

omit [DecidableEq ι] [DecidableEq κ] [DecidableEq μ] in
theorem Sound.main_waits (hs : s.Sound P) {u : ι} (hne : u ≠ P.main) (hu : s.place u ≠ .ended) : s.place P.main ≠ .ended := by
  intro hmain
  cases hrunning : s.running with
  | true => exact hs.lives hrunning P.main hmain
  | false =>
    rcases (hs.winds hrunning u hne).1 with hended | hjoin
    · exact hu hended
    · rw [hmain] at hjoin
      cases hjoin

/-! ### Programs that never stop -/

/-- Nothing clears the flag or shuts a queue down. -/
def Program.Endless (P : Program ι κ μ T) : Prop := ∀ t ops, P.Script t ops → .clear ∉ ops ∧ ∀ q, .shutdown q ∉ ops

theorem Moves.endless (hP : P.Endless) (h : s.Moves a s') (hs : s.Sound P) (hrunning : s.running = true)
    (hopen : ∀ q, (s.queue q).stopped = false) : s'.running = true ∧ ∀ q, (s'.queue q).stopped = false := by
  cases h with
  | clear ht =>
    obtain ⟨ops, hops, hclear⟩ := hs.mem_script ht
    exact absurd hclear (hP _ _ hops).1
  | @turn t q' a b queue popped p hqueue hturn =>
    refine ⟨hrunning, fun q => ?_⟩
    rw [goTo_queue]
    dsimp only
    by_cases hq : q = q'
    · subst hq
      rw [Function.update_self]
      rcases hqueue.stopped (hopen q) with hstill | ⟨i, rfl⟩
      · exact hstill
      · generalize hbefore : s.place t = before at hturn
        cases hturn with
        | shutdown =>
          obtain ⟨ops, hops, hshutdown⟩ := hs.mem_script hbefore
          exact absurd hshutdown ((hP _ _ hops).2 q)
    · rw [Function.update_of_ne hq]
      exact hopen q
  | begin => exact ⟨hrunning, hopen⟩
  | leave => exact ⟨hrunning, hopen⟩
  | breaks => exact ⟨hrunning, hopen⟩
  | passes => exact ⟨hrunning, hopen⟩
  | lock => exact ⟨hrunning, hopen⟩
  | unlock => exact ⟨hrunning, hopen⟩

theorem run_endless (hP : P.Disciplined) (hendless : P.Endless) {es : List (Act ι κ μ T)} (hlegit : ∀ e ∈ es, P.Legit e)
    (hrun : run Threads.step P.start es = .ok (s, w)) : s.running = true ∧ ∀ q, (s.queue q).stopped = false := by
  refine run_induction (P := fun es s _ => (∀ e ∈ es, P.Legit e) → s.running = true ∧ ∀ q, (s.queue q).stopped = false)
    (fun _ => ⟨rfl, fun _ => rfl⟩) ?_ hrun hlegit
  intro es t w e t' w' hbefore ih hstep hes
  have hes' : ∀ e ∈ es, P.Legit e := fun e he => hes e (List.mem_append_left _ he)
  obtain ⟨hrunning, hopen⟩ := ih hes'
  exact (step_moves hstep).endless hendless (hP.start.run hP hes' hbefore) hrunning hopen

omit [DecidableEq ι] [DecidableEq κ] [DecidableEq μ] in
/-- **Nobody sleeps over what only he pops off**, unless it is about to be notified. -/
theorem Sound.sleeper (hs : s.Sound P) (hP : P.Disciplined) {q : κ} {t : ι} (hopen : (s.queue q).stopped = false)
    (hasleep : (s.queue q).phase t = .asleep) (honly : ∀ u, P.serves u q → u = t) (hne : (s.queue q).messageQueue ≠ []) :
    ∃ u rest, s.place u = .notifying q rest := by
  have hsupply := (hs.queues q).supply hopen ⟨t, hasleep⟩
  have hwoken : census (s.queue q).phase .woken = 0 := by
    rw [census, Finset.card_eq_zero, Finset.filter_eq_empty_iff]
    intro u _ hu
    have hfits := hs.fits q u
    rw [hu] at hfits
    rcases hfits.place (by decide) with ⟨⟨rest, hplace⟩, -⟩ | ⟨-, h⟩ | ⟨-, h⟩
    · obtain ⟨ops, hops, hpop⟩ := hs.mem_script hplace
      rw [honly u (hP.pops hops hpop).2, hasleep] at hu
      cases hu
    · cases h
    · cases h
  have hlength := List.length_pos_of_ne_nil hne
  rw [hwoken] at hsupply
  have hsome : 0 < census (s.queue q).phase .notifying := by omega
  obtain ⟨u, hu⟩ := Finset.card_pos.mp hsome
  have hphase : (s.queue q).phase u = .notifying := (Finset.mem_filter.mp hu).2
  have hfits := hs.fits q u
  rw [hphase] at hfits
  rcases hfits.place (by decide) with ⟨-, h | h⟩ | ⟨⟨rest, hplace⟩, -⟩ | ⟨-, h⟩
  · cases h
  · cases h
  · exact ⟨u, rest, hplace⟩
  · cases h

end Threads

end Constellation
