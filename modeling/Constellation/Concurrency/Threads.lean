import Constellation.Concurrency.MessageQueue

/-!
# Threads that share queues, locks and a running flag

The skeleton of a process: threads that each run a loop while a flag is set, round after round. A round is a list of
operations: locking and unlocking, pushing on queues and popping off them, leaving the loop if the flag is cleared,
clearing it, shutting queues down, joining threads, and calls of the system. What `pushBack` and `shutdown` do after
they released the lock of the queue is a step of its own, as in the message queue.

One thread is the main one: it clears the flag, shuts the queues down and joins the others. A program is disciplined
(`Program.Disciplined`) if locks are held over pushes only and the main thread shuts down what a thread pops before it
joins it. What every step keeps of it is `Sound`.
-/

namespace Constellation

open MessageQueue (Blocked Popped)

/-- What a thread does next. -/
inductive Op (ι κ μ T : Type)
  | lock (m : μ)
  | unlock (m : μ)
  | pushBack (q : κ) (message : T)
  | pop (q : κ)
  /-- The thread leaves its loop if the flag is cleared. -/
  | check
  /-- The flag is cleared. -/
  | clear
  | shutdown (q : κ)
  | join (t : ι)
  /-- A call of the system, which returns sooner or later, or never. -/
  | call (returns : Bool)
  deriving DecidableEq

/-- The operation is locking, unlocking, pushing or a call that returns. -/
def Op.plain {ι κ μ T : Type} : Op ι κ μ T → Bool
  | .lock _ | .unlock _ | .pushBack _ _ => true
  | .call returns => returns
  | _ => false

/-- Where a thread is. -/
inductive Place (ι κ μ T : Type)
  /-- Before the first of these; at the condition of its loop if there is none. -/
  | before (ops : List (Op ι κ μ T))
  /-- `pushBack` has released the lock of the queue and is to notify one. -/
  | notifying (q : κ) (ops : List (Op ι κ μ T))
  /-- `shutdown` has released it and is to notify all. -/
  | closing (q : κ) (ops : List (Op ι κ μ T))
  | ended
  deriving DecidableEq

/-- What is left of its round. -/
def Place.ops {ι κ μ T : Type} : Place ι κ μ T → List (Op ι κ μ T)
  | .before ops => ops
  | .notifying _ ops => ops
  | .closing _ ops => ops
  | .ended => []

/-- Whether it has ended. -/
def Place.hasEnded {ι κ μ T : Type} : Place ι κ μ T → Bool
  | .ended => true
  | _ => false

/-- The place of a thread fits where it is in the calls of this queue. -/
def Place.Fits {ι κ μ T : Type} (q : κ) : Place ι κ μ T → Phase → Prop
  | .before (.pop q' :: _), p => p = .out ∨ q' = q ∧ (p = .asleep ∨ p = .woken)
  | .notifying q' _, p => q' = q ∧ p = .notifying ∨ q' ≠ q ∧ p = .out
  | .closing q' _, p => q' = q ∧ p = .closing ∨ q' ≠ q ∧ p = .out
  | _, p => p = .out

theorem Place.fits_out {ι κ μ T : Type} (q : κ) (ops : List (Op ι κ μ T)) : (Place.before ops).Fits q .out := by
  cases ops with
  | nil => rfl
  | cons op ops =>
    cases op with
    | pop q' => exact .inl rfl
    | _ => rfl

theorem Place.Fits.place {ι κ μ T : Type} {q : κ} {p : Place ι κ μ T} {x : Phase} (h : p.Fits q x) (hx : x ≠ .out) :
    (∃ rest, p = .before (.pop q :: rest)) ∧ (x = .asleep ∨ x = .woken) ∨ (∃ rest, p = .notifying q rest) ∧ x = .notifying ∨
      (∃ rest, p = .closing q rest) ∧ x = .closing := by
  cases p with
  | before ops =>
    cases ops with
    | nil => exact absurd h hx
    | cons op ops =>
      cases op with
      | pop q' =>
        obtain h | ⟨rfl, h⟩ := h
        · exact absurd h hx
        · exact .inl ⟨⟨ops, rfl⟩, h⟩
      | _ => exact absurd h hx
  | notifying q' ops =>
    obtain ⟨rfl, h⟩ | ⟨-, h⟩ := h
    · exact .inr (.inl ⟨⟨ops, rfl⟩, h⟩)
    · exact absurd h hx
  | closing q' ops =>
    obtain ⟨rfl, h⟩ | ⟨-, h⟩ := h
    · exact .inr (.inr ⟨⟨ops, rfl⟩, h⟩)
    · exact absurd h hx
  | ended => exact absurd h hx

theorem Place.Fits.woken {ι κ μ T : Type} {q : κ} {p : Place ι κ μ T} (h : p.Fits q .asleep) : p.Fits q .woken := by
  rcases h.place (by decide) with ⟨⟨rest, rfl⟩, -⟩ | ⟨-, h⟩ | ⟨-, h⟩
  · exact .inr ⟨rfl, .inr rfl⟩
  · cases h
  · cases h

structure Threads (ι κ μ T : Type) where
  running : Bool
  queue : κ → MessageQueue T ι
  holder : μ → Option ι
  place : ι → Place ι κ μ T

namespace Threads

variable {ι κ μ T : Type}

inductive Act (ι κ μ T : Type)
  /-- The condition of its loop holds, and the thread begins this round. -/
  | begin (t : ι) (ops : List (Op ι κ μ T))
  /-- The condition fails, and the thread ends. -/
  | leave (t : ι)
  /-- The next step of its round; if it notifies one, whom it wakes. -/
  | next (t : ι) (target : Option ι)
  /-- A thread that waits at the queue wakes up without a notification. -/
  | wake (q : κ) (t : ι)

/-- Whether a step is such a wakeup. -/
def Act.isWake : Act ι κ μ T → Bool
  | .wake _ _ => true
  | _ => false

section step
variable [DecidableEq ι] [Fintype ι] [DecidableEq κ] [DecidableEq μ]

/-- The thread is at another place. -/
def goTo (s : Threads ι κ μ T) (t : ι) (p : Place ι κ μ T) : Threads ι κ μ T :=
  { s with place := Function.update s.place t p }

section
omit [Fintype ι] [DecidableEq κ] [DecidableEq μ]
variable (s : Threads ι κ μ T) (t : ι) (p : Place ι κ μ T)

@[simp] theorem goTo_running : (s.goTo t p).running = s.running := rfl

@[simp] theorem goTo_queue : (s.goTo t p).queue = s.queue := rfl

@[simp] theorem goTo_holder : (s.goTo t p).holder = s.holder := rfl

theorem goTo_self : (s.goTo t p).place t = p := Function.update_self ..

theorem goTo_of_ne {u : ι} (h : u ≠ t) : (s.goTo t p).place u = s.place u := Function.update_of_ne h ..

end

/-- A step on a queue, after which the thread is at another place. -/
def onQueue (s : Threads ι κ μ T) (q : κ) (a : MessageQueue.Act T ι) (t : ι) (p : List (Popped T ι) → Place ι κ μ T) :
    Except Blocked (Threads ι κ μ T × List (Popped T ι)) :=
  match (s.queue q).step a with
  | .error e => .error e
  | .ok (queue, popped) => .ok ({ s with queue := Function.update s.queue q queue }.goTo t (p popped), popped)

/-- The first operation of a round. -/
def perform (s : Threads ι κ μ T) (t : ι) (rest : List (Op ι κ μ T)) :
    Op ι κ μ T → Except Blocked (Threads ι κ μ T × List (Popped T ι))
  | .lock m =>
    if s.holder m = none then .ok ({ s with holder := Function.update s.holder m (some t) }.goTo t (.before rest), [])
    else .error .blocked
  | .unlock m => .ok ({ s with holder := Function.update s.holder m none }.goTo t (.before rest), [])
  | .pushBack q message => s.onQueue q (.pushBack t message) t fun _ => .notifying q rest
  | .pop q => s.onQueue q (.pop t) t fun popped => .before (if popped.isEmpty then .pop q :: rest else rest)
  | .check => .ok (s.goTo t (if s.running then .before rest else .ended), [])
  | .clear => .ok ({ s with running := false }.goTo t (.before rest), [])
  | .shutdown q => s.onQueue q (.shutdown t) t fun _ => .closing q rest
  | .join u => if (s.place u).hasEnded then .ok (s.goTo t (.before rest), []) else .error .blocked
  | .call returns => if returns then .ok (s.goTo t (.before rest), []) else .error .blocked

/-- The effects are the calls of `pop` that return. -/
def step (s : Threads ι κ μ T) : Act ι κ μ T → Except Blocked (Threads ι κ μ T × List (Popped T ι))
  | .begin t ops =>
    match s.place t with
    | .before [] => if s.running then .ok (s.goTo t (.before ops), []) else .error .blocked
    | _ => .error .blocked
  | .leave t =>
    match s.place t with
    | .before [] => if s.running then .error .blocked else .ok (s.goTo t .ended, [])
    | _ => .error .blocked
  | .next t target =>
    match s.place t with
    | .before [] => .error .blocked
    | .before (op :: rest) => s.perform t rest op
    | .notifying q rest => s.onQueue q (.notifyOne t target) t fun _ => .before rest
    | .closing q rest => s.onQueue q (.notifyAll t) t fun _ => .before rest
    | .ended => .error .blocked
  | .wake q t => s.onQueue q (.wake t) t fun _ => s.place t

/-- What a step does to a queue: the step on the queue, what it pops, and where the thread is before and after. -/
inductive Turn (t : ι) (q : κ) : Act ι κ μ T → MessageQueue.Act T ι → List (Popped T ι) → Place ι κ μ T → Place ι κ μ T → Prop
  | pushBack {g : Option ι} {message : T} {popped : List (Popped T ι)} {rest : List (Op ι κ μ T)} :
      Turn t q (.next t g) (.pushBack t message) popped (.before (.pushBack q message :: rest)) (.notifying q rest)
  | notifyOne {g : Option ι} {popped : List (Popped T ι)} {rest : List (Op ι κ μ T)} :
      Turn t q (.next t g) (.notifyOne t g) popped (.notifying q rest) (.before rest)
  | shutdown {g : Option ι} {popped : List (Popped T ι)} {rest : List (Op ι κ μ T)} :
      Turn t q (.next t g) (.shutdown t) popped (.before (.shutdown q :: rest)) (.closing q rest)
  | notifyAll {g : Option ι} {popped : List (Popped T ι)} {rest : List (Op ι κ μ T)} :
      Turn t q (.next t g) (.notifyAll t) popped (.closing q rest) (.before rest)
  | waits {g : Option ι} {rest : List (Op ι κ μ T)} :
      Turn t q (.next t g) (.pop t) [] (.before (.pop q :: rest)) (.before (.pop q :: rest))
  | pops {g : Option ι} {r : Popped T ι} {popped : List (Popped T ι)} {rest : List (Op ι κ μ T)} :
      Turn t q (.next t g) (.pop t) (r :: popped) (.before (.pop q :: rest)) (.before rest)
  | wakes {popped : List (Popped T ι)} {p : Place ι κ μ T} : Turn t q (.wake q t) (.wake t) popped p p

/-- The operation does nothing but let the thread go on. -/
def Passes (s : Threads ι κ μ T) : Op ι κ μ T → Prop
  | .check => s.running = true
  | .join u => s.place u = .ended
  | .call returns => returns = true
  | _ => False

/-- What the steps do. -/
inductive Moves (s : Threads ι κ μ T) : Act ι κ μ T → Threads ι κ μ T → Prop
  | begin {t : ι} {ops : List (Op ι κ μ T)} (ht : s.place t = .before []) (hrunning : s.running = true) :
      Moves s (.begin t ops) (s.goTo t (.before ops))
  | leave {t : ι} (ht : s.place t = .before []) (hcleared : s.running = false) : Moves s (.leave t) (s.goTo t .ended)
  | breaks {t : ι} {g : Option ι} {rest : List (Op ι κ μ T)} (ht : s.place t = .before (.check :: rest))
      (hcleared : s.running = false) : Moves s (.next t g) (s.goTo t .ended)
  | passes {t : ι} {g : Option ι} {op : Op ι κ μ T} {rest : List (Op ι κ μ T)} (ht : s.place t = .before (op :: rest))
      (hop : s.Passes op) : Moves s (.next t g) (s.goTo t (.before rest))
  | lock {t : ι} {g : Option ι} {m : μ} {rest : List (Op ι κ μ T)} (ht : s.place t = .before (.lock m :: rest))
      (hfree : s.holder m = none) :
      Moves s (.next t g) ({ s with holder := Function.update s.holder m (some t) }.goTo t (.before rest))
  | unlock {t : ι} {g : Option ι} {m : μ} {rest : List (Op ι κ μ T)} (ht : s.place t = .before (.unlock m :: rest)) :
      Moves s (.next t g) ({ s with holder := Function.update s.holder m none }.goTo t (.before rest))
  | clear {t : ι} {g : Option ι} {rest : List (Op ι κ μ T)} (ht : s.place t = .before (.clear :: rest)) :
      Moves s (.next t g) ({ s with running := false }.goTo t (.before rest))
  | turn {t : ι} {q : κ} {a : Act ι κ μ T} {b : MessageQueue.Act T ι} {queue : MessageQueue T ι} {popped : List (Popped T ι)}
      {p : Place ι κ μ T} (hqueue : (s.queue q).Moves b queue popped) (hturn : Turn t q a b popped (s.place t) p) :
      Moves s a ({ s with queue := Function.update s.queue q queue }.goTo t p)

section
variable {s s' : Threads ι κ μ T} {a : Act ι κ μ T} {w : List (Popped T ι)}

omit [DecidableEq μ] in
theorem onQueue_eq {q : κ} {b : MessageQueue.Act T ι} {t : ι} {p : List (Popped T ι) → Place ι κ μ T}
    (h : s.onQueue q b t p = .ok (s', w)) : ∃ queue, (s.queue q).Moves b queue w ∧
      s' = { s with queue := Function.update s.queue q queue }.goTo t (p w) := by
  rw [onQueue] at h
  split at h
  · cases h
  · rename_i hstep
    cases h
    exact ⟨_, MessageQueue.step_moves hstep, rfl⟩

theorem step_moves (h : s.step a = .ok (s', w)) : s.Moves a s' := by
  cases a with
  | begin t ops =>
    rw [step] at h
    split at h
    · rename_i ht
      split_ifs at h with hrunning
      cases h
      exact .begin ht hrunning
    · cases h
  | leave t =>
    rw [step] at h
    split at h
    · rename_i ht
      split_ifs at h with hrunning
      cases h
      exact .leave ht (eq_false_of_ne_true hrunning)
    · cases h
  | next t g =>
    rw [step] at h
    split at h
    · cases h
    · rename_i op rest ht
      cases op with
      | lock m =>
        rw [perform] at h
        split_ifs at h with hfree
        cases h
        exact .lock ht hfree
      | unlock m =>
        cases h
        exact .unlock ht
      | pushBack q message =>
        obtain ⟨queue, hqueue, rfl⟩ := onQueue_eq h
        exact .turn hqueue (by rw [ht]; exact .pushBack)
      | pop q =>
        obtain ⟨queue, hqueue, rfl⟩ := onQueue_eq h
        refine .turn hqueue ?_
        rw [ht]
        cases w with
        | nil => exact .waits
        | cons r popped => exact .pops
      | check =>
        rw [perform] at h
        cases h
        cases hrunning : s.running with
        | true => exact .passes ht hrunning
        | false => exact .breaks ht hrunning
      | clear =>
        cases h
        exact .clear ht
      | shutdown q =>
        obtain ⟨queue, hqueue, rfl⟩ := onQueue_eq h
        exact .turn hqueue (by rw [ht]; exact .shutdown)
      | join u =>
        rw [perform] at h
        split_ifs at h with hended
        cases h
        refine .passes ht ?_
        rw [Passes]
        cases hu : s.place u with
        | ended => rfl
        | before ops => rw [hu] at hended; cases hended
        | notifying q ops => rw [hu] at hended; cases hended
        | closing q ops => rw [hu] at hended; cases hended
      | call returns =>
        rw [perform] at h
        split_ifs at h with hreturns
        cases h
        exact .passes ht hreturns
    · rename_i q rest ht
      obtain ⟨queue, hqueue, rfl⟩ := onQueue_eq h
      exact .turn hqueue (by rw [ht]; exact .notifyOne)
    · rename_i q rest ht
      obtain ⟨queue, hqueue, rfl⟩ := onQueue_eq h
      exact .turn hqueue (by rw [ht]; exact .notifyAll)
    · cases h
  | wake q t =>
    obtain ⟨queue, hqueue, rfl⟩ := onQueue_eq h
    exact .turn hqueue .wakes

omit [Fintype ι] in
theorem Moves.moved (h : s.Moves a s') : ∃ t p, s'.place = Function.update s.place t p ∧
    (p.ops <:+ (s.place t).ops ∨ a = .begin t p.ops) := by
  cases h with
  | begin => exact ⟨_, _, rfl, .inr rfl⟩
  | leave => exact ⟨_, .ended, rfl, .inl List.nil_suffix⟩
  | breaks => exact ⟨_, .ended, rfl, .inl List.nil_suffix⟩
  | passes ht => exact ⟨_, _, rfl, .inl (by rw [ht]; exact List.suffix_cons ..)⟩
  | lock ht => exact ⟨_, _, rfl, .inl (by rw [ht]; exact List.suffix_cons ..)⟩
  | unlock ht => exact ⟨_, _, rfl, .inl (by rw [ht]; exact List.suffix_cons ..)⟩
  | clear ht => exact ⟨_, _, rfl, .inl (by rw [ht]; exact List.suffix_cons ..)⟩
  | turn hqueue hturn =>
    refine ⟨_, _, rfl, .inl ?_⟩
    generalize s.place _ = before at hturn
    cases hturn with
    | pushBack => exact List.suffix_cons ..
    | notifyOne => exact List.suffix_rfl
    | shutdown => exact List.suffix_cons ..
    | notifyAll => exact List.suffix_rfl
    | waits => exact List.suffix_rfl
    | pops => exact List.suffix_cons ..
    | wakes => exact List.suffix_rfl

end

/-! ### Programs -/

/-- Holding this lock or none, these operations only push before they unlock, and hold no lock at their end. -/
def Tidy : Option μ → List (Op ι κ μ T) → Prop
  | held, [] => held = none
  | held, .lock m :: ops => held = none ∧ Tidy (some m) ops
  | held, .unlock m :: ops => held = some m ∧ Tidy none ops
  | held, .pushBack _ _ :: ops => Tidy held ops
  | held, _ :: ops => held = none ∧ Tidy none ops

omit [DecidableEq ι] [Fintype ι] [DecidableEq κ] [DecidableEq μ] in
theorem Tidy.append {held : Option μ} {ops ops' : List (Op ι κ μ T)} (h : Tidy held ops) (h' : Tidy none ops') :
    Tidy held (ops ++ ops') := by
  induction ops generalizing held with
  | nil =>
    cases h
    exact h'
  | cons op ops ih =>
    cases op with
    | pushBack q message => exact ih h
    | lock m => exact ⟨h.1, ih h.2⟩
    | unlock m => exact ⟨h.1, ih h.2⟩
    | pop q => exact ⟨h.1, ih h.2⟩
    | check => exact ⟨h.1, ih h.2⟩
    | clear => exact ⟨h.1, ih h.2⟩
    | shutdown q => exact ⟨h.1, ih h.2⟩
    | join u => exact ⟨h.1, ih h.2⟩
    | call returns => exact ⟨h.1, ih h.2⟩

/-- What a call pushes, by its effects. -/
def pushes {ε : Type} (item : ε → Option (κ × T)) (w : List ε) : List (Op ι κ μ T) :=
  w.filterMap fun e => (item e).map fun x => .pushBack x.1 x.2

/-- A locked block. -/
def critical (m : μ) (ops : List (Op ι κ μ T)) : List (Op ι κ μ T) := .lock m :: (ops ++ [.unlock m])

section
omit [DecidableEq ι] [Fintype ι] [DecidableEq κ] [DecidableEq μ]
variable {ε : Type} (item : ε → Option (κ × T)) (w : List ε)

theorem Tidy.pushes {held : Option μ} {ops : List (Op ι κ μ T)} (h : Tidy held ops) :
    Tidy held (Threads.pushes item w ++ ops) := by
  induction w with
  | nil => exact h
  | cons e w ih =>
    rw [Threads.pushes, List.filterMap_cons]
    split
    · exact ih
    · rename_i he
      obtain ⟨x, -, rfl⟩ := Option.map_eq_some_iff.mp he
      exact ih

end

/-- The operations lock, push, unlock and make calls that return. -/
structure Quiet (ops : List (Op ι κ μ T)) : Prop where
  plain : ∀ op ∈ ops, op.plain = true
  tidy : Tidy none ops

namespace Quiet
omit [DecidableEq ι] [Fintype ι] [DecidableEq κ] [DecidableEq μ]
variable {ε : Type} (item : ε → Option (κ × T)) (w : List ε)

theorem nil : Quiet ([] : List (Op ι κ μ T)) := ⟨List.forall_mem_nil _, rfl⟩

theorem call : Quiet ([.call true] : List (Op ι κ μ T)) := ⟨List.forall_mem_singleton.mpr rfl, rfl, rfl⟩

theorem append {ops ops' : List (Op ι κ μ T)} (h : Quiet ops) (h' : Quiet ops') : Quiet (ops ++ ops') where
  plain op hop := (List.mem_append.mp hop).elim (h.plain op) (h'.plain op)
  tidy := h.tidy.append h'.tidy

theorem flatMap {α : Type} {f : α → List (Op ι κ μ T)} (h : ∀ x, Quiet (f x)) (xs : List α) : Quiet (xs.flatMap f) := by
  induction xs with
  | nil => exact .nil
  | cons x xs ih =>
    rw [List.flatMap_cons]
    exact (h x).append ih

theorem pushes : Quiet (pushes item w : List (Op ι κ μ T)) where
  plain op hop := by
    obtain ⟨e, -, he⟩ := List.mem_filterMap.mp hop
    obtain ⟨x, -, rfl⟩ := Option.map_eq_some_iff.mp he
    rfl
  tidy := by
    have hend : Tidy none (Threads.pushes item w ++ [] : List (Op ι κ μ T)) := Tidy.pushes item w rfl
    rwa [List.append_nil] at hend

theorem critical (m : μ) : Quiet (critical m (Threads.pushes item w) : List (Op ι κ μ T)) where
  plain op hop := by
    simp only [Threads.critical, List.mem_cons, List.mem_append, List.not_mem_nil, or_false] at hop
    rcases hop with rfl | hop | rfl
    · rfl
    · exact (pushes item w).plain op hop
    · rfl
  tidy := ⟨rfl, Tidy.pushes item w ⟨rfl, rfl⟩⟩

theorem empty (m : μ) : Quiet (Threads.critical m [] : List (Op ι κ μ T)) where
  plain := by simp [Threads.critical, Op.plain]
  tidy := ⟨rfl, rfl, rfl⟩

end Quiet

/-- The thread is not joined before the queue has been shut down. -/
def Guards (q : κ) (u : ι) (ops : List (Op ι κ μ T)) : Prop :=
  ∀ pre post, ops = pre ++ .join u :: post → .shutdown q ∈ pre

section
omit [DecidableEq ι] [Fintype ι] [DecidableEq κ] [DecidableEq μ]
variable {q : κ} {u : ι} {op : Op ι κ μ T} {ops : List (Op ι κ μ T)}

theorem guards_nil : Guards q u ([] : List (Op ι κ μ T)) := by
  intro pre post h
  simp at h

theorem guards_cons : Guards q u (op :: ops) ↔ op ≠ .join u ∧ (op = .shutdown q ∨ Guards q u ops) := by
  constructor
  · intro h
    have hop : op ≠ .join u := by
      rintro rfl
      cases h [] ops rfl
    refine ⟨hop, or_iff_not_imp_left.mpr fun hnot pre post heq => ?_⟩
    have hmem := h (op :: pre) post (by rw [heq]; rfl)
    exact (List.mem_cons.mp hmem).resolve_left fun hsame => hnot hsame.symm
  · rintro ⟨hop, h⟩ pre post heq
    cases pre with
    | nil =>
      cases heq
      exact absurd rfl hop
    | cons op' pre =>
      cases heq
      rcases h with rfl | h
      · exact List.mem_cons_self
      · exact List.mem_cons_of_mem _ (h pre post rfl)

end

/-- What the threads run. -/
structure Program (ι κ μ T : Type) where
  main : ι
  /-- The queues a thread pops off. -/
  serves : ι → κ → Prop
  /-- What a thread does before its loop. -/
  opening : ι → List (Op ι κ μ T)
  /-- The rounds of its loop. -/
  Round : ι → List (Op ι κ μ T) → Prop

namespace Program

def Script (P : Program ι κ μ T) (t : ι) (ops : List (Op ι κ μ T)) : Prop := ops = P.opening t ∨ P.Round t ops

/-- All other threads are joined, each after what it pops off has been shut down. -/
def WindsUp (P : Program ι κ μ T) (ops : List (Op ι κ μ T)) : Prop :=
  ∀ u, u ≠ P.main → .join u ∈ ops ∧ ∀ q, P.serves u q → Guards q u ops

structure Disciplined (P : Program ι κ μ T) : Prop where
  tidy {t : ι} {ops : List (Op ι κ μ T)} : P.Script t ops → Tidy none ops
  pops {t : ι} {ops : List (Op ι κ μ T)} {q : κ} : P.Script t ops → .pop q ∈ ops → t ≠ P.main ∧ P.serves t q
  checks {t : ι} {ops : List (Op ι κ μ T)} : P.Script t ops → .check ∈ ops → t ≠ P.main
  joins {t u : ι} {ops : List (Op ι κ μ T)} : P.Script t ops → .join u ∈ ops → t = P.main ∧ u ≠ P.main
  clears {t : ι} {pre post : List (Op ι κ μ T)} : P.Script t (pre ++ .clear :: post) → t = P.main ∧ P.WindsUp post

/-- The threads are at their start. -/
def start (P : Program ι κ μ T) : Threads ι κ μ T where
  running := true
  queue _ := .init
  holder _ := none
  place t := .before (P.opening t)

/-- The rounds begun are rounds of the program. -/
def Legit (P : Program ι κ μ T) : Act ι κ μ T → Prop
  | .begin t ops => P.Round t ops
  | _ => True

end Program

/-! ### What every step keeps -/

/-- The locks a thread holds are those its round is to unlock. -/
def Locks (s : Threads ι κ μ T) (t : ι) : Prop :=
  ∃ held, Tidy held (s.place t).ops ∧ ∀ m, s.holder m = some t ↔ held = some m

/-- The main thread will join whoever has not ended, after it shut down what he pops off. -/
def Winding (P : Program ι κ μ T) (s : Threads ι κ μ T) : Prop :=
  ∀ u, u ≠ P.main → (s.place u = .ended ∨ .join u ∈ (s.place P.main).ops) ∧
    ∀ pre post, (s.place P.main).ops = pre ++ .join u :: post → ∀ q, P.serves u q →
      .shutdown q ∈ pre ∨ (s.queue q).Shut ∨ ∃ ops, s.place P.main = .closing q ops

structure Sound (P : Program ι κ μ T) (s : Threads ι κ μ T) : Prop where
  script : ∀ t, ∃ ops, P.Script t ops ∧ (s.place t).ops <:+ ops
  locks : ∀ t, s.Locks t
  fits : ∀ q t, (s.place t).Fits q ((s.queue q).phase t)
  queues : ∀ q, (s.queue q).Inv
  lives : s.running = true → ∀ t, s.place t ≠ .ended
  winds : s.running = false → s.Winding P

section
variable {P : Program ι κ μ T} {s s' : Threads ι κ μ T} {a : Act ι κ μ T} {w : List (Popped T ι)}

omit [Fintype ι] in
theorem Moves.script (h : s.Moves a s') (hlegit : P.Legit a)
    (hs : ∀ t, ∃ ops, P.Script t ops ∧ (s.place t).ops <:+ ops) (t : ι) :
    ∃ ops, P.Script t ops ∧ (s'.place t).ops <:+ ops := by
  obtain ⟨u, p, hplace, hmoved⟩ := h.moved
  rw [hplace]
  by_cases htu : t = u
  · subst htu
    rw [Function.update_self]
    rcases hmoved with hsuffix | rfl
    · obtain ⟨ops, hops, hrest⟩ := hs t
      exact ⟨ops, hops, hsuffix.trans hrest⟩
    · exact ⟨p.ops, .inr hlegit, List.suffix_rfl⟩
  · rw [Function.update_of_ne htu]
    exact hs t

omit [DecidableEq ι] [Fintype ι] [DecidableEq κ] [DecidableEq μ] in
theorem Locks.congr {t : ι} (h : s.Locks t) (hholder : s'.holder = s.holder)
    (htidy : ∀ held, Tidy held (s.place t).ops → Tidy held (s'.place t).ops) : s'.Locks t := by
  obtain ⟨held, hheld, hown⟩ := h
  rw [← hholder] at hown
  exact ⟨held, htidy held hheld, hown⟩

omit [Fintype ι] [DecidableEq κ] [DecidableEq μ] in
theorem Locks.goTo {t u : ι} {p : Place ι κ μ T} (h : s.Locks u)
    (htidy : ∀ held, Tidy held (s.place t).ops → Tidy held p.ops) : (s.goTo t p).Locks u := by
  refine h.congr rfl fun held hheld => ?_
  by_cases hut : u = t
  · subst hut
    rw [goTo_self]
    exact htidy held hheld
  · rw [goTo_of_ne _ _ _ hut]
    exact hheld

omit [Fintype ι] [DecidableEq κ] in
theorem Locks.hold {t u : ι} {m : μ} {x : Option ι} {held : Option μ} {rest : List (Op ι κ μ T)} (h : s.Locks u)
    (htidy : Tidy held rest) (hself : ∀ m', Function.update s.holder m x m' = some t ↔ held = some m')
    (hother : u ≠ t → s.holder m ≠ some u ∧ x ≠ some u) :
    ({ s with holder := Function.update s.holder m x }.goTo t (.before rest)).Locks u := by
  by_cases hut : u = t
  · subst hut
    refine ⟨held, ?_, hself⟩
    rw [goTo_self]
    exact htidy
  · obtain ⟨held', hheld', hown⟩ := h
    refine ⟨held', ?_, fun m' => ?_⟩
    · rw [goTo_of_ne _ _ _ hut]
      exact hheld'
    · rw [goTo_holder, ← hown]
      dsimp only
      by_cases hm : m' = m
      · subst hm
        rw [Function.update_self]
        exact ⟨fun hx => absurd hx (hother hut).2, fun hx => absurd hx (hother hut).1⟩
      · rw [Function.update_of_ne hm]

omit [Fintype ι] in
theorem Moves.locks (hP : P.Disciplined) (h : s.Moves a s') (hlegit : P.Legit a) (hs : ∀ t, s.Locks t) (u : ι) :
    s'.Locks u := by
  cases h with
  | begin ht =>
    refine (hs u).goTo fun held hheld => ?_
    rw [ht] at hheld
    cases hheld
    exact hP.tidy (.inr hlegit)
  | leave ht =>
    refine (hs u).goTo fun held hheld => ?_
    rw [ht] at hheld
    exact hheld
  | breaks ht =>
    refine (hs u).goTo fun held hheld => ?_
    rw [ht] at hheld
    exact hheld.1
  | @passes t g op rest ht hop =>
    refine (hs u).goTo fun held hheld => ?_
    rw [ht] at hheld
    cases op with
    | check => rw [hheld.1]; exact hheld.2
    | join v => rw [hheld.1]; exact hheld.2
    | call returns => rw [hheld.1]; exact hheld.2
    | lock m => cases hop
    | unlock m => cases hop
    | pushBack q message => cases hop
    | pop q => cases hop
    | clear => cases hop
    | shutdown q => cases hop
  | @lock t g m rest ht hfree =>
    obtain ⟨held, hheld, hown⟩ := hs t
    rw [ht] at hheld
    obtain ⟨rfl, hrest⟩ := hheld
    refine (hs u).hold hrest (fun m' => ?_) fun hut => ⟨by simp [hfree], by simp [Ne.symm hut]⟩
    by_cases hm : m' = m
    · simp [hm]
    · rw [Function.update_of_ne hm, hown]
      simp [Ne.symm hm]
  | @unlock t g m rest ht =>
    obtain ⟨held, hheld, hown⟩ := hs t
    rw [ht] at hheld
    obtain ⟨rfl, hrest⟩ := hheld
    have hmine : s.holder m = some t := (hown m).mpr rfl
    refine (hs u).hold hrest (fun m' => ?_) fun hut => ⟨by simp [hmine, Ne.symm hut], by simp⟩
    by_cases hm : m' = m
    · simp [hm]
    · rw [Function.update_of_ne hm, hown]
      simp [Ne.symm hm]
  | clear ht =>
    have hsame : ({ s with running := false } : Threads ι κ μ T).Locks u := hs u
    refine hsame.goTo fun held hheld => ?_
    dsimp only at hheld
    rw [ht] at hheld
    rw [hheld.1]
    exact hheld.2
  | @turn t q a b queue popped p hqueue hturn =>
    have hsame : ({ s with queue := Function.update s.queue q queue } : Threads ι κ μ T).Locks u := hs u
    refine hsame.goTo fun held hheld => ?_
    dsimp only at hheld
    generalize s.place t = before at hturn hheld
    cases hturn with
    | pushBack => exact hheld
    | notifyOne => exact hheld
    | shutdown => rw [hheld.1]; exact hheld.2
    | notifyAll => exact hheld
    | waits => exact hheld
    | pops => rw [hheld.1]; exact hheld.2
    | wakes => exact hheld

omit [Fintype ι] [DecidableEq κ] [DecidableEq μ] in
theorem fits_goTo {t : ι} {p : Place ι κ μ T} (hs : ∀ q u, (s.place u).Fits q ((s.queue q).phase u))
    (hout : ∀ q x, (s.place t).Fits q x → x = .out) (hp : ∀ q, p.Fits q .out) (q : κ) (u : ι) :
    ((s.goTo t p).place u).Fits q ((s.queue q).phase u) := by
  by_cases hut : u = t
  · subst hut
    rw [goTo_self, hout q _ (hs q u)]
    exact hp q
  · rw [goTo_of_ne _ _ _ hut]
    exact hs q u

section
omit [DecidableEq ι] [Fintype ι] [DecidableEq κ] [DecidableEq μ]
variable {t : ι} {q : κ} {b : MessageQueue.Act T ι} {popped : List (Popped T ι)} {p p' : Place ι κ μ T}

theorem Turn.thread (h : Turn t q a b popped p p') : b.thread = t := by cases h <;> rfl

theorem Turn.fits (h : Turn t q a b popped p p') (hwake : b = .wake t → p.Fits q .asleep) : p'.Fits q (b.after popped) := by
  cases h with
  | pushBack => exact .inl ⟨rfl, rfl⟩
  | notifyOne => exact Place.fits_out ..
  | shutdown => exact .inl ⟨rfl, rfl⟩
  | notifyAll => exact Place.fits_out ..
  | waits => exact .inr ⟨rfl, .inl rfl⟩
  | pops => exact Place.fits_out ..
  | wakes => exact (hwake rfl).woken

theorem Turn.fits_other (h : Turn t q a b popped p p') {q' : κ} (hq : q' ≠ q) {x : Phase} (hp : p.Fits q' x) : p'.Fits q' x := by
  cases h with
  | pushBack => exact .inr ⟨hq.symm, hp⟩
  | notifyOne =>
    obtain ⟨rfl, -⟩ | ⟨-, rfl⟩ := hp
    · exact absurd rfl hq
    · exact Place.fits_out ..
  | shutdown => exact .inr ⟨hq.symm, hp⟩
  | notifyAll =>
    obtain ⟨rfl, -⟩ | ⟨-, rfl⟩ := hp
    · exact absurd rfl hq
    · exact Place.fits_out ..
  | waits => exact hp
  | pops =>
    obtain rfl | ⟨rfl, -⟩ := hp
    · exact Place.fits_out ..
    · exact absurd rfl hq
  | wakes => exact hp

end

omit [Fintype ι] in
theorem Moves.fits (h : s.Moves a s') (hs : ∀ q u, (s.place u).Fits q ((s.queue q).phase u)) (q : κ) (u : ι) :
    (s'.place u).Fits q ((s'.queue q).phase u) := by
  cases h with
  | begin ht => exact fits_goTo hs (fun q x hx => by rw [ht] at hx; exact hx) (fun q => Place.fits_out q _) q u
  | leave ht => exact fits_goTo (p := .ended) hs (fun q x hx => by rw [ht] at hx; exact hx) (fun _ => rfl) q u
  | breaks ht => exact fits_goTo (p := .ended) hs (fun q x hx => by rw [ht] at hx; exact hx) (fun _ => rfl) q u
  | @passes t g op rest ht hop =>
    refine fits_goTo hs (fun q x hx => ?_) (fun q => Place.fits_out q _) q u
    rw [ht] at hx
    cases op with
    | pop q => cases hop
    | _ => exact hx
  | lock ht =>
    exact fits_goTo (s := { s with holder := _ }) hs (fun q x hx => by dsimp only at hx; rw [ht] at hx; exact hx)
      (fun q => Place.fits_out q _) q u
  | unlock ht =>
    exact fits_goTo (s := { s with holder := _ }) hs (fun q x hx => by dsimp only at hx; rw [ht] at hx; exact hx)
      (fun q => Place.fits_out q _) q u
  | clear ht =>
    exact fits_goTo (s := { s with running := false }) hs (fun q x hx => by dsimp only at hx; rw [ht] at hx; exact hx)
      (fun q => Place.fits_out q _) q u
  | @turn t q' a b queue popped p hqueue hturn =>
    have hbefore := hs q u
    have hthread := hturn.thread
    rw [goTo_queue]
    dsimp only
    by_cases hut : u = t
    · subst hut
      rw [goTo_self]
      by_cases hq : q = q'
      · subst hq
        rw [Function.update_self]
        have hself := hqueue.phase_self
        rw [hthread] at hself
        rw [hself]
        refine hturn.fits ?_
        rintro rfl
        cases hqueue with
        | wake hasleep => rwa [hasleep] at hbefore
      · rw [Function.update_of_ne hq]
        exact hturn.fits_other hq hbefore
    · rw [goTo_of_ne _ _ _ hut]
      dsimp only
      by_cases hq : q = q'
      · subst hq
        rw [Function.update_self]
        rcases hqueue.phase_other (j := u) (by rwa [hthread]) with hsame | ⟨-, hasleep, hwoken⟩
        · rw [hsame]
          exact hbefore
        · rw [hasleep] at hbefore
          rw [hwoken]
          exact hbefore.woken
      · rw [Function.update_of_ne hq]
        exact hbefore

omit [Fintype ι] in
theorem Moves.queue (h : s.Moves a s') (q : κ) : s'.queue q = s.queue q ∨ ∃ b popped, (s.queue q).Moves b (s'.queue q) popped := by
  cases h with
  | @turn t q' a b queue popped p hqueue hturn =>
    rw [goTo_queue]
    dsimp only
    by_cases hq : q = q'
    · subst hq
      rw [Function.update_self]
      exact .inr ⟨b, popped, hqueue⟩
    · exact .inl (Function.update_of_ne hq ..)
  | _ => exact .inl rfl

theorem Moves.queues (h : s.Moves a s') {q : κ} (hq : (s.queue q).Inv) : (s'.queue q).Inv := by
  rcases h.queue q with hsame | ⟨b, popped, hqueue⟩
  · rwa [hsame]
  · exact hqueue.inv hq

omit [Fintype ι] in
theorem Moves.shut (h : s.Moves a s') {q : κ} (hq : (s.queue q).Shut) : (s'.queue q).Shut := by
  rcases h.queue q with hsame | ⟨b, popped, hqueue⟩
  · rwa [hsame]
  · exact hqueue.shut hq

omit [Fintype ι] in
theorem Moves.ended (h : s.Moves a s') {u : ι} (hu : s.place u = .ended) : s'.place u = .ended := by
  have hstays : ∀ {t : ι} (p : Place ι κ μ T), s.place t ≠ .ended → Function.update s.place t p u = .ended := by
    intro t p ht
    by_cases hut : u = t
    · subst hut
      exact absurd hu ht
    · rwa [Function.update_of_ne hut]
  cases h with
  | begin ht => exact hstays _ (by simp [ht])
  | leave ht => exact hstays _ (by simp [ht])
  | breaks ht => exact hstays _ (by simp [ht])
  | passes ht => exact hstays _ (by simp [ht])
  | lock ht => exact hstays _ (by simp [ht])
  | unlock ht => exact hstays _ (by simp [ht])
  | clear ht => exact hstays _ (by simp [ht])
  | @turn t q a b queue popped p hqueue hturn =>
    by_cases ht : s.place t = .ended
    · rw [ht] at hturn
      cases hturn
      by_cases hut : u = t
      · subst hut
        exact goTo_self ..
      · exact (goTo_of_ne _ _ _ hut).trans hu
    · exact hstays _ ht

omit [DecidableEq ι] [Fintype ι] [DecidableEq κ] [DecidableEq μ] in
/-- The main thread winds up as long as it drops no `join` and no `shutdown` that it has not done. -/
theorem Winding.drop (hw : s.Winding P) {dropped : List (Op ι κ μ T)}
    (hended : ∀ u, s.place u = .ended → s'.place u = .ended) (hshut : ∀ q, (s.queue q).Shut → (s'.queue q).Shut)
    (hops : (s.place P.main).ops = dropped ++ (s'.place P.main).ops)
    (hjoined : ∀ u, .join u ∈ dropped → s'.place u = .ended)
    (hstopped : ∀ q, .shutdown q ∈ dropped ∨ (∃ ops, s.place P.main = .closing q ops) →
      (s'.queue q).Shut ∨ ∃ ops, s'.place P.main = .closing q ops) : s'.Winding P := by
  intro u hu
  obtain ⟨hjoin, hbefore⟩ := hw u hu
  refine ⟨?_, fun pre post heq q hq => ?_⟩
  · rcases hjoin with hdone | hjoin
    · exact .inl (hended u hdone)
    · rw [hops] at hjoin
      rcases List.mem_append.mp hjoin with hdropped | hlater
      · exact .inl (hjoined u hdropped)
      · exact .inr hlater
  · rcases hbefore (dropped ++ pre) post (by rw [hops, heq, List.append_assoc]) q hq with hmem | hdone | hclosing
    · rcases List.mem_append.mp hmem with hdropped | hlater
      · exact .inr (hstopped q (.inl hdropped))
      · exact .inl hlater
    · exact .inr (.inl (hshut q hdone))
    · exact .inr (hstopped q (.inr hclosing))

omit [Fintype ι] in
theorem Winding.other (hw : s.Winding P) (h : s.Moves a s') (hmain : s'.place P.main = s.place P.main) : s'.Winding P := by
  have hops : (s.place P.main).ops = [] ++ (s'.place P.main).ops := by rw [hmain, List.nil_append]
  refine hw.drop (fun _ => h.ended) (fun _ => h.shut) hops (fun u hu => by cases hu) fun q hq => ?_
  rcases hq with hq | hclosing
  · cases hq
  · rw [hmain]
    exact .inr hclosing

omit [Fintype ι] in
theorem Winding.pass (hw : s.Winding P) (h : s.Moves a s') {op : Op ι κ μ T} {rest : List (Op ι κ μ T)}
    (ht : s.place P.main = .before (op :: rest)) (hrest : (s'.place P.main).ops = rest)
    (hjoin : ∀ u, op = .join u → s.place u = .ended)
    (hshutdown : ∀ q, op = .shutdown q → ∃ ops, s'.place P.main = .closing q ops) : s'.Winding P := by
  have hops : (s.place P.main).ops = [op] ++ (s'.place P.main).ops := by rw [ht, hrest]; rfl
  refine hw.drop (fun _ => h.ended) (fun _ => h.shut) hops (fun u hu => ?_) fun q hq => ?_
  · exact h.ended (hjoin u (List.mem_singleton.mp hu).symm)
  · rcases hq with hq | ⟨ops, hclosing⟩
    · exact .inr (hshutdown q (List.mem_singleton.mp hq).symm)
    · rw [ht] at hclosing
      cases hclosing

theorem Moves.winds (hP : P.Disciplined) (h : s.Moves a s') (hs : s.Sound P) (hcleared : s'.running = false) : s'.Winding P := by
  obtain ⟨ops, hscript, hsuffix⟩ := hs.script P.main
  have hmoves := h
  cases h with
  | begin ht hrunning =>
    rw [goTo_running, hrunning] at hcleared
    cases hcleared
  | @leave t ht hstopped =>
    have hw := hs.winds hstopped
    by_cases hmain : P.main = t
    · have hops : (s.place P.main).ops = [] ++ ((s.goTo t .ended).place P.main).ops := by
        rw [hmain, goTo_self, ht]
        rfl
      refine hw.drop (fun _ => hmoves.ended) (fun _ => hmoves.shut) hops (fun u hu => by cases hu) fun q hq => ?_
      rcases hq with hq | ⟨ops, hclosing⟩
      · cases hq
      · rw [hmain, ht] at hclosing
        cases hclosing
    · exact hw.other hmoves (goTo_of_ne _ _ _ hmain)
  | @breaks t g rest ht hstopped =>
    by_cases hmain : P.main = t
    · rw [hmain, ht] at hsuffix
      exact absurd rfl (hP.checks hscript (hsuffix.subset List.mem_cons_self))
    · exact (hs.winds hstopped).other hmoves (goTo_of_ne _ _ _ hmain)
  | @passes t g op rest ht hop =>
    by_cases hmain : P.main = t
    · refine (hs.winds hcleared).pass hmoves (by rw [hmain]; exact ht) (by rw [hmain, goTo_self]; rfl) (fun u hu => ?_)
        fun q hq => ?_
      · rw [hu] at hop
        exact hop
      · rw [hq] at hop
        cases hop
    · exact (hs.winds hcleared).other hmoves (goTo_of_ne _ _ _ hmain)
  | @lock t g m rest ht hfree =>
    by_cases hmain : P.main = t
    · exact (hs.winds hcleared).pass hmoves (by rw [hmain]; exact ht) (by rw [hmain, goTo_self]; rfl)
        (fun u hu => by cases hu) fun q hq => by cases hq
    · exact (hs.winds hcleared).other hmoves (goTo_of_ne _ _ _ hmain)
  | @unlock t g m rest ht =>
    by_cases hmain : P.main = t
    · exact (hs.winds hcleared).pass hmoves (by rw [hmain]; exact ht) (by rw [hmain, goTo_self]; rfl)
        (fun u hu => by cases hu) fun q hq => by cases hq
    · exact (hs.winds hcleared).other hmoves (goTo_of_ne _ _ _ hmain)
  | @clear t g rest ht =>
    -- From here on the main thread has to wind up.
    obtain ⟨ops', hscript', pre, heq⟩ := hs.script t
    rw [ht] at heq
    obtain ⟨hmain, hwinds⟩ := hP.clears (show P.Script t (pre ++ .clear :: rest) from heq ▸ hscript')
    subst hmain
    intro u hu
    rw [goTo_self]
    obtain ⟨hjoin, hbefore⟩ := hwinds u hu
    exact ⟨.inr hjoin, fun pre post hsplit q hq => .inl (hbefore q hq pre post hsplit)⟩
  | @turn t q a b queue popped p hqueue hturn =>
    have hw := hs.winds hcleared
    by_cases hmain : P.main = t
    · subst hmain
      generalize hbefore : s.place P.main = before at hturn
      cases hturn with
      | pushBack =>
        exact hw.pass hmoves hbefore (by rw [goTo_self]; rfl) (fun u hu => by cases hu) fun q hq => by cases hq
      | notifyOne =>
        refine hw.drop (fun _ => hmoves.ended) (fun _ => hmoves.shut) (by rw [hbefore, goTo_self]; exact (List.nil_append _).symm)
          (fun u hu => by cases hu) fun q hq => ?_
        rcases hq with hq | ⟨ops, hclosing⟩
        · cases hq
        · rw [hbefore] at hclosing
          cases hclosing
      | shutdown =>
        refine hw.pass hmoves hbefore (by rw [goTo_self]; rfl) (fun u hu => by cases hu) fun q' hq => ?_
        cases hq
        exact ⟨_, goTo_self ..⟩
      | notifyAll =>
        refine hw.drop (fun _ => hmoves.ended) (fun _ => hmoves.shut) (by rw [hbefore, goTo_self]; exact (List.nil_append _).symm)
          (fun u hu => by cases hu) fun q' hq => ?_
        rcases hq with hq | ⟨ops, hclosing⟩
        · cases hq
        · rw [hbefore] at hclosing
          cases hclosing
          rw [goTo_queue]
          dsimp only
          rw [Function.update_self]
          exact .inl (MessageQueue.notifyAll_shut (hs.queues q) hqueue)
      | waits =>
        rw [hbefore] at hsuffix
        exact absurd rfl (hP.pops hscript (hsuffix.subset List.mem_cons_self)).1
      | pops =>
        rw [hbefore] at hsuffix
        exact absurd rfl (hP.pops hscript (hsuffix.subset List.mem_cons_self)).1
      | wakes => exact hw.other hmoves ((goTo_self ..).trans hbefore.symm)
    · exact hw.other hmoves (goTo_of_ne _ _ _ hmain)

omit [Fintype ι] in
theorem Moves.cleared (h : s.Moves a s') (hcleared : s.running = false) : s'.running = false := by
  cases h with
  | clear => rfl
  | _ => exact hcleared

omit [Fintype ι] in
theorem Moves.lives (h : s.Moves a s') (hs : s.running = true → ∀ t, s.place t ≠ .ended) (hrunning : s'.running = true) (u : ι) :
    s'.place u ≠ .ended := by
  have hstill : s.running = true := by
    by_contra hnot
    rw [h.cleared (eq_false_of_ne_true hnot)] at hrunning
    cases hrunning
  have hstays : ∀ {t : ι} {p : Place ι κ μ T}, p ≠ .ended → Function.update s.place t p u ≠ .ended := by
    intro t p hp
    by_cases hut : u = t
    · subst hut
      rw [Function.update_self]
      exact hp
    · rw [Function.update_of_ne hut]
      exact hs hstill u
  cases h with
  | begin => exact hstays (by simp)
  | leave ht hcleared =>
    rw [hcleared] at hstill
    cases hstill
  | breaks ht hcleared =>
    rw [hcleared] at hstill
    cases hstill
  | passes => exact hstays (by simp)
  | lock => exact hstays (by simp)
  | unlock => exact hstays (by simp)
  | clear => exact hstays (by simp)
  | @turn t q a b queue popped p hqueue hturn =>
    refine hstays ?_
    have ht := hs hstill t
    generalize s.place t = before at hturn ht
    cases hturn with
    | wakes => exact ht
    | pushBack => simp
    | notifyOne => simp
    | shutdown => simp
    | notifyAll => simp
    | waits => simp
    | pops => simp

omit [DecidableEq ι] [DecidableEq κ] [DecidableEq μ] in
theorem Program.Disciplined.start (hP : P.Disciplined) : P.start.Sound P where
  script t := ⟨_, .inl rfl, List.suffix_rfl⟩
  locks t := ⟨none, hP.tidy (.inl rfl), fun m => by simp [Program.start]⟩
  fits q t := Place.fits_out ..
  queues q := MessageQueue.init_inv
  lives _ t h := by cases h
  winds h := by cases h

/-- **Every step keeps the threads sound.** -/
theorem Sound.step (hP : P.Disciplined) (hs : s.Sound P) (h : s.Moves a s') (hlegit : P.Legit a) : s'.Sound P where
  script := h.script hlegit hs.script
  locks := h.locks hP hlegit hs.locks
  fits := h.fits hs.fits
  queues q := h.queues (hs.queues q)
  lives := h.lives hs.lives
  winds := h.winds hP hs

theorem Sound.run (hP : P.Disciplined) {es : List (Act ι κ μ T)} (hs : s.Sound P) (hlegit : ∀ e ∈ es, P.Legit e)
    (hrun : run Threads.step s es = .ok (s', w)) : s'.Sound P := by
  refine run_induction (P := fun es s' _ => (∀ e ∈ es, P.Legit e) → s'.Sound P) (fun _ => hs) ?_ hrun hlegit
  intro es t w e t' w' _ ih hstep hes
  exact (ih fun e he => hes e (List.mem_append_left _ he)).step hP (step_moves hstep) (hes e (by simp))

end

end step

end Threads

end Constellation
