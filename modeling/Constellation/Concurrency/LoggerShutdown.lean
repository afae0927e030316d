import Constellation.Concurrency.MessageQueue

/-!
# What the logger writes before it returns

One thread runs `Logger::log` over a queue that others push on and shut down, while somebody clears the running
flag. The loop looks at the flag before it pops and once more after it popped. So a message may be dropped in its
hand, and since `pop` returns `T{}` as soon as the queue is stopped, what is queued by then stays there.

Every step keeps one equation (`Accounts`): what was pushed is what was written, then what the loop has in hand, then
what is queued.
-/

namespace Constellation

open MessageQueue (Blocked)

/-- Where the loop of `log` is. -/
inductive LogPc
  /-- At the condition of the loop. -/
  | condition
  /-- In `pop`. -/
  | popping
  /-- At the test behind `pop`, with the message. -/
  | popped (msg : List UInt8)
  /-- Past this test. -/
  | logging (msg : List UInt8)
  /-- Out of the loop by its condition. -/
  | ended
  /-- Out of it by the test behind `pop`. -/
  | broke (msg : List UInt8)
  deriving DecidableEq

/-- The thread of the logger, its queue and the flag. -/
structure LoggerThread (ι : Type) where
  queue : MessageQueue (List UInt8) ι
  running : Bool
  pc : LogPc

namespace LoggerThread

variable {ι : Type}

inductive Act (ι : Type)
  /-- A step of another thread on the queue, or the logger wakes up for no reason. -/
  | queue (a : MessageQueue.Act (List UInt8) ι)
  /-- The running flag is cleared. -/
  | clear
  /-- The next step of `log`. -/
  | loop

/-- Only the logger pops, and it does nothing else with the queue. -/
def Foreign (logger : ι) : MessageQueue.Act (List UInt8) ι → Prop
  | .pushBack i _ => i ≠ logger
  | .notifyOne i _ => i ≠ logger
  | .shutdown i => i ≠ logger
  | .notifyAll i => i ≠ logger
  | .pop _ => False
  | .wake _ => True

instance [DecidableEq ι] (logger : ι) : DecidablePred (Foreign logger)
  | .pushBack _ _ => inferInstanceAs (Decidable (_ ≠ _))
  | .notifyOne _ _ => inferInstanceAs (Decidable (_ ≠ _))
  | .shutdown _ => inferInstanceAs (Decidable (_ ≠ _))
  | .notifyAll _ => inferInstanceAs (Decidable (_ ≠ _))
  | .pop _ => inferInstanceAs (Decidable False)
  | .wake _ => inferInstanceAs (Decidable True)

def init : LoggerThread ι where
  queue := .init
  running := true
  pc := .condition

variable [Fintype ι] [DecidableEq ι] (logger : ι)

/-- The effects are the messages written to the file, which is open as long as the logger is. -/
def step (s : LoggerThread ι) : Act ι → Except Blocked (LoggerThread ι × List (List UInt8))
  | .queue a =>
    if Foreign logger a then
      match s.queue.step a with
      | .error e => .error e
      | .ok (queue, _) => .ok ({ s with queue }, [])
    else .error .blocked
  | .clear => .ok ({ s with running := false }, [])
  | .loop =>
    match s.pc with
    | .condition => .ok ({ s with pc := if s.running then .popping else .ended }, [])
    | .popping =>
      match s.queue.step (.pop logger) with
      | .error e => .error e
      | .ok (queue, []) => .ok ({ s with queue }, [])
      | .ok (queue, r :: _) => .ok ({ s with queue, pc := .popped (r.element.getD []) }, [])
    | .popped msg => .ok ({ s with pc := if s.running then .logging msg else .broke msg }, [])
    | .logging msg => .ok ({ s with pc := .condition }, if msg = [] then [] else [msg])
    | .ended => .error .blocked
    | .broke _ => .error .blocked

/-- The messages an event pushes. -/
def pushes : Act ι → List (List UInt8)
  | .queue (.pushBack _ message) => [message]
  | _ => []

/-- The messages pushed in a run, in their order. -/
def pushed (es : List (Act ι)) : List (List UInt8) := es.flatMap pushes

/-- The message the loop has in hand, or had when it broke off; `T{}` is none. -/
def inHand (s : LoggerThread ι) : List (List UInt8) :=
  match s.pc with
  | .popped msg => if msg = [] then [] else [msg]
  | .logging msg => if msg = [] then [] else [msg]
  | .broke msg => if msg = [] then [] else [msg]
  | _ => []

/-- `log` has returned. -/
def Returned (s : LoggerThread ι) : Prop := s.pc = .ended ∨ ∃ msg, s.pc = .broke msg

section
variable {logger : ι} {s s' : LoggerThread ι} {a : Act ι} {es : List (Act ι)} {w w' : List (List UInt8)}

omit [DecidableEq ι] [Fintype ι] in
theorem length_inHand (s : LoggerThread ι) : (inHand s).length ≤ 1 := by
  have hone : ∀ msg : List UInt8, (if msg = [] then [] else [msg]).length ≤ 1 := by
    intro msg
    split_ifs <;> simp
  rw [inHand]
  split
  · exact hone _
  · exact hone _
  · exact hone _
  · simp

omit [Fintype ι] in
theorem foreign_messageQueue {q q' : MessageQueue (List UInt8) ι} {b : MessageQueue.Act (List UInt8) ι}
    {r : List (MessageQueue.Popped (List UInt8) ι)} (hb : Foreign logger b) (h : MessageQueue.Moves q b q' r) :
    q'.messageQueue = q.messageQueue ++ pushes (.queue b) := by
  cases h with
  | pushBack hi => rfl
  | notifyOne hi hj => exact (List.append_nil _).symm
  | notifyNobody hi hnobody => exact (List.append_nil _).symm
  | shutdown hi => exact (List.append_nil _).symm
  | notifyAll hi => exact (List.append_nil _).symm
  | waits hi hempty hopen => exact absurd hb id
  | stops hi hstopped => exact absurd hb id
  | takes hi hqueue hopen => exact absurd hb id
  | wake hi => exact (List.append_nil _).symm

/-- What was pushed is what was written, what the loop has in hand and what is queued; and the loop is left only when
the running flag is cleared. -/
structure Accounts (es : List (Act ι)) (s : LoggerThread ι) (w : List (List UInt8)) : Prop where
  pushed_eq : pushed es = w ++ inHand s ++ s.queue.messageQueue
  cleared : Returned s → s.running = false

omit [DecidableEq ι] [Fintype ι] in
theorem init_accounts : Accounts [] (init : LoggerThread ι) [] where
  pushed_eq := rfl
  cleared h := by
    rcases h with h | ⟨msg, h⟩
    · cases h
    · cases h

omit [DecidableEq ι] [Fintype ι] in
theorem Accounts.quiet (hs : Accounts es s w) (ha : pushes a = []) {t : LoggerThread ι}
    (heq : w ++ inHand s ++ s.queue.messageQueue = w ++ w' ++ inHand t ++ t.queue.messageQueue)
    (hcleared : Returned t → t.running = false) : Accounts (es ++ [a]) t (w ++ w') := by
  refine ⟨?_, hcleared⟩
  rw [pushed, List.flatMap_append, List.flatMap_singleton, ha, List.append_nil, ← heq]
  exact hs.pushed_eq

omit [DecidableEq ι] [Fintype ι] in
theorem Accounts.test (hs : Accounts es s w) (ha : pushes a = []) {yes no : LogPc}
    (hyes : inHand { s with pc := yes } = inHand s) (hno : inHand { s with pc := no } = inHand s)
    (hstays : ¬ Returned { s with pc := yes }) :
    Accounts (es ++ [a]) { s with pc := if s.running then yes else no } (w ++ []) := by
  by_cases hrunning : s.running = true
  · rw [if_pos hrunning]
    exact hs.quiet ha (by rw [hyes, List.append_nil]) fun hreturned => absurd hreturned hstays
  · rw [if_neg hrunning]
    exact hs.quiet ha (by rw [hno, List.append_nil]) fun _ => eq_false_of_ne_true hrunning

/-- **Every step keeps the account.** -/
theorem step_accounts (hs : Accounts es s w) (hne : ∀ msg ∈ pushed es, msg ≠ [])
    (hstep : step logger s a = .ok (s', w')) : Accounts (es ++ [a]) s' (w ++ w') := by
  cases a with
  | queue b =>
    rw [step] at hstep
    split_ifs at hstep with hforeign
    split at hstep
    · cases hstep
    rename_i q r hq
    cases hstep
    refine ⟨?_, hs.cleared⟩
    have hmessages := foreign_messageQueue hforeign (MessageQueue.step_moves hq)
    have hhand : inHand { s with queue := q } = inHand s := rfl
    rw [pushed, List.flatMap_append, List.flatMap_singleton, hmessages, hhand, List.append_nil, ← List.append_assoc]
    exact congrArg (· ++ pushes (.queue b)) hs.pushed_eq
  | clear =>
    cases hstep
    exact hs.quiet rfl (by rw [List.append_nil]; rfl) fun _ => rfl
  | loop =>
    rw [step] at hstep
    cases hpc : s.pc with
    | condition =>
      rw [hpc] at hstep
      cases hstep
      exact hs.test rfl (by simp [inHand, hpc]) (by simp [inHand, hpc]) (by simp [Returned])
    | popping =>
      rw [hpc] at hstep
      dsimp only at hstep
      cases hq : s.queue.step (.pop logger) with
      | error e =>
        rw [hq] at hstep
        cases hstep
      | ok r =>
        obtain ⟨q, popped⟩ := r
        rw [hq] at hstep
        cases MessageQueue.step_moves hq with
        | waits hi hempty hopen =>
          cases hstep
          refine hs.quiet rfl (by simp [inHand, hpc]) fun hreturned => ?_
          simp [Returned] at hreturned
        | stops hi hstopped =>
          cases hstep
          refine hs.quiet rfl (by simp [inHand, hpc]) fun hreturned => ?_
          simp [Returned] at hreturned
        | @takes i element rest hi hqueue hopen =>
          cases hstep
          have hmem : element ∈ pushed es := by
            rw [hs.pushed_eq, hqueue]
            simp
          refine hs.quiet rfl ?_ fun hreturned => ?_
          · simp [inHand, hpc, hqueue, hne element hmem]
          · simp [Returned] at hreturned
    | popped msg =>
      rw [hpc] at hstep
      cases hstep
      exact hs.test rfl (by simp [inHand, hpc]) (by simp [inHand, hpc]) (by simp [Returned])
    | logging msg =>
      rw [hpc] at hstep
      cases hstep
      refine hs.quiet rfl ?_ fun hreturned => ?_
      · simp [inHand, hpc]
      · simp [Returned] at hreturned
    | ended =>
      rw [hpc] at hstep
      cases hstep
    | broke msg =>
      rw [hpc] at hstep
      cases hstep

end

/-- **What the logger writes.** In every interleaving, when `log` has returned, the running flag is cleared, and the
messages pushed are those written to the file, once and in their order, then at most one that the loop had in hand when it
found the flag cleared, then those still queued. -/
theorem log_accounts {logger : ι} {es : List (Act ι)} {s : LoggerThread ι} {w : List (List UInt8)}
    (hne : ∀ msg ∈ pushed es, msg ≠ []) (hrun : run (step logger) init es = .ok (s, w)) (hreturned : Returned s) :
    s.running = false ∧ ∃ dropped, dropped.length ≤ 1 ∧ pushed es = w ++ dropped ++ s.queue.messageQueue ∧
      (s.pc = .ended → dropped = []) := by
  have haccounts : (∀ msg ∈ pushed es, msg ≠ []) → Accounts es s w := by
    refine run_induction (P := fun es s w => (∀ msg ∈ pushed es, msg ≠ []) → Accounts es s w) (fun _ => init_accounts) ?_ hrun
    intro es s w a s' w' _ ih hstep hne
    have hbefore : ∀ msg ∈ pushed es, msg ≠ [] := by
      intro msg hmsg
      apply hne
      rw [pushed, List.flatMap_append]
      exact List.mem_append_left _ hmsg
    exact step_accounts (ih hbefore) hbefore hstep
  refine ⟨(haccounts hne).cleared hreturned, inHand s, ?_, (haccounts hne).pushed_eq, fun hpc => ?_⟩
  · exact length_inHand s
  · rw [inHand, hpc]

/-- The logger waits, a message is pushed, the flag is cleared before the logger looks at it again, and the queue is shut
down. -/
def quitting : List (Act (Fin 2)) :=
  [.loop, .loop, .queue (.pushBack 1 [104, 105]), .queue (.notifyOne 1 (some 0)), .clear, .loop, .loop,
    .queue (.shutdown 1), .queue (.notifyAll 1)]

/-- The message is taken from the queue and dropped. -/
theorem quitting_drops : ∃ s, run (step 0) init quitting = .ok (s, []) ∧ Returned s ∧
    pushed quitting = [[104, 105]] := ⟨_, rfl, .inr ⟨_, rfl⟩, rfl⟩

theorem log_accounts_quitting : ∃ s w, run (step 0) init quitting = .ok (s, w) ∧ s.running = false ∧
    ∃ dropped, dropped.length ≤ 1 ∧ pushed quitting = w ++ dropped ++ s.queue.messageQueue ∧
      (s.pc = .ended → dropped = []) := by
  obtain ⟨s, w, hrun, hreturned⟩ : ∃ s w, run (step 0) init quitting = .ok (s, w) ∧ Returned s :=
    ⟨_, _, rfl, .inr ⟨_, rfl⟩⟩
  exact ⟨s, w, hrun, log_accounts (by decide) hrun hreturned⟩

end LoggerThread

end Constellation
