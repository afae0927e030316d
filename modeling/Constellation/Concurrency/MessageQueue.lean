import Constellation.Lib.Census
import Constellation.Lib.Run

/-!
# The message queue

`MessageQueue` is a queue with a lock and a condition variable. What a thread does while it holds the lock is
one step; the notification comes after the lock was released and is a step of its own. A thread that waits
sleeps until it is notified or wakes up for no reason, and then takes the lock and looks again.

A notification may find nobody asleep, and a thread that never slept may take the element it was for. Still no
element is left behind (`no_lost_wakeup`): while somebody sleeps, the queue has no more elements than there are
notifications to come and threads about to look.
-/

namespace Constellation

/-- Where a thread is. -/
inductive Phase
  /-- In no call, or in one that has not had the lock yet. -/
  | out
  /-- `pushBack` has released the lock and is to notify one. -/
  | notifying
  /-- `shutdown` has released the lock and is to notify all. -/
  | closing
  /-- `pop` waits for a notification. -/
  | asleep
  /-- It was woken and is to look again. -/
  | woken
  deriving DecidableEq

/-- The queue, and where the threads that use it are. -/
structure MessageQueue (T ι : Type) where
  messageQueue : List T
  stopped : Bool
  phase : ι → Phase

namespace MessageQueue

/-- The steps of thread `i`. -/
inductive Act (T ι : Type)
  /-- The locked block of `pushBack`. -/
  | pushBack (i : ι) (message : T)
  /-- `notify_one`, and whom it wakes. -/
  | notifyOne (i : ι) (target : Option ι)
  /-- The locked block of `shutdown`. -/
  | shutdown (i : ι)
  /-- `notify_all`. -/
  | notifyAll (i : ι)
  /-- The locked block of `pop`, from its start or from the wait. -/
  | pop (i : ι)
  /-- A waiting thread wakes up without a notification. -/
  | wake (i : ι)

/-- A call of `pop` that returns; `none` is `T{}`. -/
structure Popped (T ι : Type) where
  thread : ι
  element : Option T

/-- The thread cannot take this step now. -/
inductive Blocked
  | blocked

variable {T ι : Type}

def init : MessageQueue T ι where
  messageQueue := []
  stopped := false
  phase _ := .out

/-- All that wait are woken. -/
def wakeAll (q : MessageQueue T ι) : MessageQueue T ι :=
  { q with phase := fun i => if q.phase i = .asleep then .woken else q.phase i }

variable [DecidableEq ι]

/-- The thread goes on at another place. -/
def goTo (q : MessageQueue T ι) (i : ι) (p : Phase) : MessageQueue T ι :=
  { q with phase := Function.update q.phase i p }

@[simp] theorem goTo_phase (q : MessageQueue T ι) (i : ι) (p : Phase) :
    (q.goTo i p).phase = Function.update q.phase i p := rfl

@[simp] theorem goTo_messageQueue (q : MessageQueue T ι) (i : ι) (p : Phase) :
    (q.goTo i p).messageQueue = q.messageQueue := rfl

theorem asleep_goTo {place : ι → Phase} {i : ι} {p : Phase} (hp : p ≠ .asleep)
    (h : ∃ j, Function.update place i p j = .asleep) : ∃ j, place j = .asleep := by
  obtain ⟨j, hj⟩ := h
  by_cases hji : j = i
  · rw [hji, Function.update_self] at hj
    exact absurd hj hp
  · rw [Function.update_of_ne hji] at hj
    exact ⟨j, hj⟩

theorem awake_goTo {place : ι → Phase} {i : ι} {p : Phase} (hp : p ≠ .asleep) (h : ∀ j, place j ≠ .asleep) (j : ι) :
    Function.update place i p j ≠ .asleep := by
  intro hj
  obtain ⟨k, hk⟩ := asleep_goTo hp ⟨j, hj⟩
  exact h k hk

theorem closing_goTo {place : ι → Phase} {i j : ι} {p : Phase} (hp : p ≠ .closing)
    (h : Function.update place i p j = .closing) : place j = .closing := by
  by_cases hji : j = i
  · rw [hji, Function.update_self] at h
    exact absurd h hp
  · rwa [Function.update_of_ne hji] at h

variable [Fintype ι]

def step (q : MessageQueue T ι) : Act T ι → Except Blocked (MessageQueue T ι × List (Popped T ι))
  | .pushBack i message =>
    if q.phase i = .out then .ok ({ q with messageQueue := q.messageQueue ++ [message] }.goTo i .notifying, [])
    else .error .blocked
  | .notifyOne i (some j) =>
    if q.phase i = .notifying ∧ q.phase j = .asleep then .ok ((q.goTo i .out).goTo j .woken, [])
    else .error .blocked
  | .notifyOne i none =>
    if q.phase i = .notifying ∧ ∀ j, q.phase j ≠ .asleep then .ok (q.goTo i .out, []) else .error .blocked
  | .shutdown i =>
    if q.phase i = .out then .ok ({ q with stopped := true }.goTo i .closing, []) else .error .blocked
  | .notifyAll i => if q.phase i = .closing then .ok (q.wakeAll.goTo i .out, []) else .error .blocked
  | .pop i =>
    if q.phase i = .out ∨ q.phase i = .woken then
      match q.messageQueue, q.stopped with
      | [], false => .ok (q.goTo i .asleep, [])
      | _, true => .ok (q.goTo i .out, [⟨i, none⟩])
      | element :: rest, false => .ok ({ q with messageQueue := rest }.goTo i .out, [⟨i, some element⟩])
    else .error .blocked
  | .wake i => if q.phase i = .asleep then .ok (q.goTo i .woken, []) else .error .blocked

section
variable {q q' : MessageQueue T ι} {a : Act T ι} {w : List (Popped T ι)}

/-- What the steps do. -/
inductive Moves (q : MessageQueue T ι) : Act T ι → MessageQueue T ι → List (Popped T ι) → Prop
  | pushBack {i : ι} {message : T} (hi : q.phase i = .out) :
      Moves q (.pushBack i message) ({ q with messageQueue := q.messageQueue ++ [message] }.goTo i .notifying) []
  | notifyOne {i j : ι} (hi : q.phase i = .notifying) (hj : q.phase j = .asleep) :
      Moves q (.notifyOne i (some j)) ((q.goTo i .out).goTo j .woken) []
  | notifyNobody {i : ι} (hi : q.phase i = .notifying) (hnobody : ∀ j, q.phase j ≠ .asleep) :
      Moves q (.notifyOne i none) (q.goTo i .out) []
  | shutdown {i : ι} (hi : q.phase i = .out) : Moves q (.shutdown i) ({ q with stopped := true }.goTo i .closing) []
  | notifyAll {i : ι} (hi : q.phase i = .closing) : Moves q (.notifyAll i) (q.wakeAll.goTo i .out) []
  | waits {i : ι} (hi : q.phase i = .out ∨ q.phase i = .woken) (hempty : q.messageQueue = [])
      (hopen : q.stopped = false) : Moves q (.pop i) (q.goTo i .asleep) []
  | stops {i : ι} (hi : q.phase i = .out ∨ q.phase i = .woken) (hstopped : q.stopped = true) :
      Moves q (.pop i) (q.goTo i .out) [⟨i, none⟩]
  | takes {i : ι} {element : T} {rest : List T} (hi : q.phase i = .out ∨ q.phase i = .woken)
      (hqueue : q.messageQueue = element :: rest) (hopen : q.stopped = false) :
      Moves q (.pop i) ({ q with messageQueue := rest }.goTo i .out) [⟨i, some element⟩]
  | wake {i : ι} (hi : q.phase i = .asleep) : Moves q (.wake i) (q.goTo i .woken) []

theorem step_moves (h : q.step a = .ok (q', w)) : Moves q a q' w := by
  cases a with
  | pushBack i message =>
    rw [step] at h
    split_ifs at h with hi
    cases h
    exact .pushBack hi
  | notifyOne i target =>
    cases target with
    | none =>
      rw [step] at h
      split_ifs at h with hi
      cases h
      exact .notifyNobody hi.1 hi.2
    | some j =>
      rw [step] at h
      split_ifs at h with hi
      cases h
      exact .notifyOne hi.1 hi.2
  | shutdown i =>
    rw [step] at h
    split_ifs at h with hi
    cases h
    exact .shutdown hi
  | notifyAll i =>
    rw [step] at h
    split_ifs at h with hi
    cases h
    exact .notifyAll hi
  | pop i =>
    rw [step] at h
    split_ifs at h with hi
    split at h
    · cases h
      exact .waits hi (by assumption) (by assumption)
    · cases h
      exact .stops hi (by assumption)
    · cases h
      exact .takes hi (by assumption) (by assumption)
  | wake i =>
    rw [step] at h
    split_ifs at h with hi
    cases h
    exact .wake hi

/-! ### Where the threads are after a step -/

/-- The thread that takes a step. -/
def Act.thread : Act T ι → ι
  | .pushBack i _ => i
  | .notifyOne i _ => i
  | .shutdown i => i
  | .notifyAll i => i
  | .pop i => i
  | .wake i => i

/-- Where the step leaves it. -/
def Act.after : Act T ι → List (Popped T ι) → Phase
  | .pushBack _ _, _ => .notifying
  | .notifyOne _ _, _ => .out
  | .shutdown _, _ => .closing
  | .notifyAll _, _ => .out
  | .pop _, [] => .asleep
  | .pop _, _ :: _ => .out
  | .wake _, _ => .woken

/-- Whom the step wakes, if he sleeps. -/
def Act.wakes : Act T ι → ι → Bool
  | .notifyOne _ target, j => target = some j
  | .notifyAll _, _ => true
  | _, _ => false

omit [Fintype ι] in
theorem Moves.phase_self (h : Moves q a q' w) : q'.phase a.thread = a.after w := by
  cases h with
  | @notifyOne i j hi hj =>
    have hne : i ≠ j := by
      rintro rfl
      rw [hi] at hj
      cases hj
    simp [Act.thread, Act.after, Function.update_of_ne hne]
  | pushBack => simp [Act.thread, Act.after]
  | notifyNobody => simp [Act.thread, Act.after]
  | shutdown => simp [Act.thread, Act.after]
  | notifyAll => simp [Act.thread, Act.after]
  | waits => simp [Act.thread, Act.after]
  | stops => simp [Act.thread, Act.after]
  | takes => simp [Act.thread, Act.after]
  | wake => simp [Act.thread, Act.after]

omit [Fintype ι] in
theorem Moves.phase_other (h : Moves q a q' w) {j : ι} (hj : j ≠ a.thread) :
    q'.phase j = q.phase j ∨ (a.wakes j = true ∧ q.phase j = .asleep ∧ q'.phase j = .woken) := by
  cases h with
  | @notifyOne i k hi hk =>
    by_cases hjk : j = k
    · subst hjk
      exact .inr ⟨decide_eq_true rfl, hk, Function.update_self ..⟩
    · exact .inl ((Function.update_of_ne hjk ..).trans (Function.update_of_ne hj ..))
  | notifyAll hi =>
    have hphase := Function.update_of_ne hj .out q.wakeAll.phase
    rw [goTo_phase]
    dsimp only [Act.thread] at hphase
    rw [hphase, wakeAll]
    dsimp only
    split_ifs with hasleep
    · exact .inr ⟨rfl, hasleep, rfl⟩
    · exact .inl rfl
  | pushBack => exact .inl (Function.update_of_ne hj ..)
  | notifyNobody => exact .inl (Function.update_of_ne hj ..)
  | shutdown => exact .inl (Function.update_of_ne hj ..)
  | waits => exact .inl (Function.update_of_ne hj ..)
  | stops => exact .inl (Function.update_of_ne hj ..)
  | takes => exact .inl (Function.update_of_ne hj ..)
  | wake => exact .inl (Function.update_of_ne hj ..)

omit [Fintype ι] in
theorem Moves.stopped (h : Moves q a q' w) (hopen : q.stopped = false) : q'.stopped = false ∨ ∃ i, a = .shutdown i := by
  cases h with
  | shutdown hi => exact .inr ⟨_, rfl⟩
  | _ => exact .inl hopen

/-! ### When a step is possible -/

section
variable (q) {i : ι}

theorem pushBack_ok (message : T) (hi : q.phase i = .out) : ∃ r, q.step (.pushBack i message) = .ok r :=
  ⟨_, if_pos hi⟩

theorem notifyOne_ok (hi : q.phase i = .notifying) : ∃ target r, q.step (.notifyOne i target) = .ok r := by
  by_cases hasleep : ∃ j, q.phase j = .asleep
  · obtain ⟨j, hj⟩ := hasleep
    exact ⟨some j, _, if_pos ⟨hi, hj⟩⟩
  · exact ⟨none, _, if_pos ⟨hi, fun j hj => hasleep ⟨j, hj⟩⟩⟩

theorem shutdown_ok (hi : q.phase i = .out) : ∃ r, q.step (.shutdown i) = .ok r := ⟨_, if_pos hi⟩

theorem notifyAll_ok (hi : q.phase i = .closing) : ∃ r, q.step (.notifyAll i) = .ok r := ⟨_, if_pos hi⟩

theorem pop_ok (hi : q.phase i = .out ∨ q.phase i = .woken) : ∃ r, q.step (.pop i) = .ok r := by
  rw [step, if_pos hi]
  split <;> exact ⟨_, rfl⟩

end

/-! ### No lost wakeup -/

/-- While somebody sleeps, no element is without a thread that will come for it or send one; and only a stopped
queue is closed. -/
structure Inv (q : MessageQueue T ι) : Prop where
  supply : q.stopped = false → (∃ i, q.phase i = .asleep) →
    q.messageQueue.length ≤ census q.phase .notifying + census q.phase .woken
  closing : ∀ i, q.phase i = .closing → q.stopped = true

omit [DecidableEq ι] in
theorem init_inv : Inv (init : MessageQueue T ι) where
  supply _ h := by
    obtain ⟨i, hi⟩ := h
    cases hi
  closing i hi := by cases hi

/-- **Every step keeps the supply.** -/
theorem Moves.inv (h : Moves q a q' w) (hq : Inv q) : Inv q' := by
  cases h with
  | @pushBack i message hi =>
    refine ⟨fun hopen hasleep => ?_, fun j hj => hq.closing j (closing_goTo (by decide) hj)⟩
    have hsupply := hq.supply hopen (asleep_goTo (by decide) hasleep)
    have hnotifying := census_move q.phase i .notifying .notifying
    have hwoken := census_move q.phase i .notifying .woken
    simp [hi] at hnotifying hwoken ⊢
    omega
  | @notifyOne i j hi hj =>
    refine ⟨fun hopen _ => ?_, fun k hk => hq.closing k (closing_goTo (by decide) (closing_goTo (by decide) hk))⟩
    have hne : j ≠ i := by
      rintro rfl
      rw [hi] at hj
      cases hj
    have hsupply := hq.supply hopen ⟨j, hj⟩
    -- The notification is spent, and there is one more thread to look.
    have hnotifying := census_move q.phase i .out .notifying
    have hwoken := census_move q.phase i .out .woken
    have hnotifying' := census_move (Function.update q.phase i .out) j .woken .notifying
    have hwoken' := census_move (Function.update q.phase i .out) j .woken .woken
    simp [hi, hj, Function.update_of_ne hne] at hnotifying hwoken hnotifying' hwoken' ⊢
    omega
  | @notifyNobody i hi hnobody =>
    refine ⟨fun _ hasleep => ?_, fun j hj => hq.closing j (closing_goTo (by decide) hj)⟩
    obtain ⟨j, hj⟩ := asleep_goTo (by decide) hasleep
    exact absurd hj (hnobody j)
  | shutdown hi =>
    refine ⟨fun hopen => ?_, fun _ _ => rfl⟩
    cases hopen
  | notifyAll hi =>
    have hstopped := hq.closing _ hi
    refine ⟨fun hopen => ?_, fun _ _ => hstopped⟩
    have hopen' : q.stopped = false := hopen
    rw [hstopped] at hopen'
    cases hopen'
  | @waits i hi hempty hopen =>
    refine ⟨fun _ _ => ?_, fun j hj => hq.closing j (closing_goTo (by decide) hj)⟩
    simp [hempty]
  | stops hi hstopped =>
    refine ⟨fun hopen => ?_, fun _ _ => hstopped⟩
    have hopen' : q.stopped = false := hopen
    rw [hstopped] at hopen'
    cases hopen'
  | @takes i element rest hi hqueue hopen =>
    refine ⟨fun _ hasleep => ?_, fun j hj => hq.closing j (closing_goTo (by decide) hj)⟩
    have hsupply := hq.supply hopen (asleep_goTo (by decide) hasleep)
    rw [hqueue, List.length_cons] at hsupply
    have hnotifying := census_move q.phase i .out .notifying
    have hwoken := census_move q.phase i .out .woken
    rcases hi with hi | hi
    · simp [hi] at hnotifying hwoken ⊢
      omega
    · simp [hi] at hnotifying hwoken ⊢
      omega
  | @wake i hi =>
    refine ⟨fun hopen hasleep => ?_, fun j hj => hq.closing j (closing_goTo (by decide) hj)⟩
    have hsupply := hq.supply hopen ⟨i, hi⟩
    have hnotifying := census_move q.phase i .woken .notifying
    have hwoken := census_move q.phase i .woken .woken
    simp [hi] at hnotifying hwoken ⊢
    omega

/-! ### Nobody sleeps after the shutdown -/

/-- The queue is stopped and nobody sleeps. -/
def Shut (q : MessageQueue T ι) : Prop := q.stopped = true ∧ ∀ i, q.phase i ≠ .asleep

omit [Fintype ι] in
theorem Moves.shut (h : Moves q a q' w) (hq : Shut q) : Shut q' := by
  obtain ⟨hstopped, hawake⟩ := hq
  cases h with
  | pushBack hi => exact ⟨hstopped, awake_goTo (by decide) hawake⟩
  | notifyOne hi hj => exact absurd hj (hawake _)
  | notifyNobody hi hnobody => exact ⟨hstopped, awake_goTo (by decide) hawake⟩
  | shutdown hi => exact ⟨rfl, awake_goTo (by decide) hawake⟩
  | notifyAll hi =>
    refine ⟨hstopped, awake_goTo (by decide) fun j => ?_⟩
    simp [wakeAll, hawake j]
  | waits hi hempty hopen =>
    rw [hstopped] at hopen
    cases hopen
  | stops hi hstop => exact ⟨hstopped, awake_goTo (by decide) hawake⟩
  | takes hi hqueue hopen =>
    rw [hstopped] at hopen
    cases hopen
  | wake hi => exact absurd hi (hawake _)

theorem notifyAll_shut {i : ι} (hq : Inv q) (h : Moves q (.notifyAll i) q' w) : Shut q' := by
  cases h with
  | notifyAll hi =>
    refine ⟨hq.closing i hi, awake_goTo (by decide) fun j => ?_⟩
    by_cases hj : q.phase j = .asleep
    · simp [wakeAll, hj]
    · simp [wakeAll, hj]

end

/-- **No wakeup is lost.** In every state that any interleaving of the threads reaches: if somebody sleeps and the queue
is not stopped, it has no more elements than there are notifications to come and woken threads that are to look again;
and when a call of `shutdown` has returned, nobody is asleep any more. -/
theorem no_lost_wakeup {es : List (Act T ι)} {q : MessageQueue T ι} {w : List (Popped T ι)}
    (hrun : run step init es = .ok (q, w)) :
    (q.stopped = false → (∃ i, q.phase i = .asleep) →
      q.messageQueue.length ≤ census q.phase .notifying + census q.phase .woken) ∧
    ((∃ i, .notifyAll i ∈ es) → ∀ j, q.phase j ≠ .asleep) := by
  have hinv : Inv q ∧ ((∃ i, .notifyAll i ∈ es) → Shut q) := by
    refine run_induction (P := fun es q _ => Inv q ∧ ((∃ i, .notifyAll i ∈ es) → Shut q)) ?_ ?_ hrun
    · exact ⟨init_inv, by simp⟩
    · rintro es q w a q' w' - ⟨hq, hshut⟩ hstep
      have hmoves := step_moves hstep
      refine ⟨hmoves.inv hq, ?_⟩
      rintro ⟨i, hi⟩
      rcases List.mem_append.mp hi with hbefore | hlast
      · exact hmoves.shut (hshut ⟨i, hbefore⟩)
      · rw [← List.mem_singleton.mp hlast] at hmoves
        exact notifyAll_shut hq hmoves
  exact ⟨hinv.1.supply, fun hreturned => (hinv.2 hreturned).2⟩

/-- A thread waits, is woken for an element that it finds taken, waits again, and the queue is shut down. -/
def stolen : List (Act Nat (Fin 3)) :=
  [.pop 0, .pushBack 1 7, .pop 2, .notifyOne 1 (some 0), .pop 0, .pushBack 1 8, .shutdown 2, .notifyAll 2]

theorem no_lost_wakeup_stolen : ∃ q w, run step init stolen = .ok (q, w) ∧
    (q.stopped = false → (∃ i, q.phase i = .asleep) →
      q.messageQueue.length ≤ census q.phase .notifying + census q.phase .woken) ∧
    ((∃ i, .notifyAll i ∈ stolen) → ∀ j, q.phase j ≠ .asleep) := by
  obtain ⟨q, w, hrun⟩ : ∃ q w, run step init stolen = .ok (q, w) := ⟨_, _, rfl⟩
  exact ⟨q, w, hrun, no_lost_wakeup hrun⟩

end MessageQueue

end Constellation
