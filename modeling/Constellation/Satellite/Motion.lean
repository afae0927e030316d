import Constellation.Satellite.CommandAck

/-!
# What moves a satellite

Three threads share the position and the velocity of a satellite: the simulation advances it, the
listener overwrites it when a command arrives, the sender never touches it. Whatever else happens, the
motion after a run is the replay of the ticks and the commands of that run, in order, and from the last
command on nothing before it counts (`motion_of_run`).

No lock guards the six numbers, and a command whose assignments fall between those of a tick leaves what
no replay leaves. So a step here stands for a tick or a command that the other does not disturb: its
assignments come one after the other (`Impulse.assigns`). What the replay needs of the arithmetic is only
that it is the same at every tick; `Double.axpy` is that of doubles.
-/

namespace Constellation

/-- `x + v * TIME_STEP`. What is not a number comes out as the canonical one. -/
def Double.axpy (v x : Double) : Double :=
  (Float.ofBits x + Float.ofBits v * Float.ofBits Config.TIME_STEP).toBits

/-- Where a satellite is and how fast it moves. -/
structure Motion where
  x : Double
  y : Double
  z : Double
  vx : Double
  vy : Double
  vz : Double
  deriving DecidableEq

/-- An assignment of `update`, `x += vx * dt` and its like, or of `handleCommand`. -/
inductive Assign
  | addX
  | addY
  | addZ
  | setX (v : Double)
  | setY (v : Double)
  | setZ (v : Double)
  | setVx (v : Double)
  | setVy (v : Double)
  | setVz (v : Double)

/-- What sets a motion: one tick of the simulation, or a course. -/
inductive Impulse
  | tick
  | course (m : Motion)

def Impulse.assigns : Impulse → List Assign
  | .tick => [.addX, .addY, .addZ]
  | .course m => [.setX m.x, .setY m.y, .setZ m.z, .setVx m.vx, .setVy m.vy, .setVz m.vz]

namespace Motion

variable (axpy : Double → Double → Double)

def assign (m : Motion) : Assign → Motion
  | .addX => { m with x := axpy m.vx m.x }
  | .addY => { m with y := axpy m.vy m.y }
  | .addZ => { m with z := axpy m.vz m.z }
  | .setX v => { m with x := v }
  | .setY v => { m with y := v }
  | .setZ v => { m with z := v }
  | .setVx v => { m with vx := v }
  | .setVy v => { m with vy := v }
  | .setVz v => { m with vz := v }

def after (m : Motion) : Impulse → Motion
  | .tick => { m with x := axpy m.vx m.x, y := axpy m.vy m.y, z := axpy m.vz m.z }
  | .course m' => m'

theorem foldl_assigns (m : Motion) (is : List Impulse) :
    (is.flatMap Impulse.assigns).foldl (assign axpy) m = is.foldl (after axpy) m := by
  induction is generalizing m with
  | nil => rfl
  | cons i is ih =>
    have hone : i.assigns.foldl (assign axpy) m = m.after axpy i := by
      cases i with
      | tick => rfl
      | course c => rfl
    rw [List.flatMap_cons, List.foldl_append, List.foldl_cons, hone, ih]

/-- The motion after so many ticks: the velocity stays, and every coordinate drifts by its own. -/
def drift (m : Motion) (ticks : Nat) : Motion :=
  { m with x := (axpy m.vx)^[ticks] m.x, y := (axpy m.vy)^[ticks] m.y, z := (axpy m.vz)^[ticks] m.z }

theorem foldl_after_ticks (m : Motion) (ticks : Nat) :
    (List.replicate ticks Impulse.tick).foldl (after axpy) m = m.drift axpy ticks := by
  induction ticks generalizing m with
  | zero => rfl
  | succ ticks ih =>
    rw [List.replicate_succ, List.foldl_cons, ih]
    rfl

end Motion

def Satellite.motion (s : Satellite) : Motion where
  x := s.x
  y := s.y
  z := s.z
  vx := s.vx
  vy := s.vy
  vz := s.vz

/-- The course that a message sets. -/
def Message.course (m : Message) : Option Motion :=
  match m.body with
  | .command x y z vx vy vz => if m.header.type = MessageType.command.tag then some ⟨x, y, z, vx, vy, vz⟩ else none
  | _ => none

namespace SatelliteProcess

/-- The courses that a datagram sets: one if it comes out as a command. -/
def coursesOf (p : SatelliteProcess) (datagram : List UInt8) : List Impulse :=
  match receive p.buf datagram with
  | .ok (_, some m) => m.course.toList.map .course
  | _ => []

/-- What a step does to the motion. -/
def impulses (p : SatelliteProcess) : Event → List Effect → List Impulse
  | .datagram _ _ m pad _, _ => p.coursesOf (m.serialize pad)
  | .stray _ _ bytes _, _ => p.coursesOf bytes
  | .update _ _ _, _ => [.tick]
  | _, _ => []

/-- If the event is a tick it computes by `axpy`. -/
def Event.Computes (axpy : Double → Double → Double) : Event → Prop
  | .update _ _ f => f = axpy
  | _ => True

section
variable {axpy : Double → Double → Double} {p p' : SatelliteProcess} {w : List Effect}

variable (axpy) in
theorem onType_motion {os : Int32 → Os} {m : Message} (hrun : p.onType os m = .ok (p', w)) :
    p'.satellite.motion = (m.course.toList.map Impulse.course).foldl (Motion.after axpy) p.satellite.motion := by
  unfold onType at hrun
  split_ifs at hrun with hack hcommand
  · cases hrun
    have hno : m.course = none := by
      rw [Message.course]
      split
      · rw [if_neg]
        rw [hack.1]
        decide
      · rfl
    rw [hno]
    rfl
  · obtain ⟨-, hrun⟩ := assert_bind_eq_ok.mp hrun
    split at hrun
    · rename_i x y z vx vy vz hbody
      obtain ⟨s, hs, hrun⟩ := bind_eq_ok.mp hrun
      obtain ⟨v, -, hret⟩ := bind_eq_ok.mp hrun
      cases hret
      cases handleCommand_eq hs
      have hcourse : m.course = some ⟨x, y, z, vx, vy, vz⟩ := by
        rw [Message.course, hbody]
        exact if_pos hcommand
      rw [hcourse]
      rfl
    · cases hrun
  · cases hrun
    have hno : m.course = none := by
      rw [Message.course]
      split
      · exact if_neg hcommand
      · rfl
    rw [hno]
    rfl

theorem accept_serialize {m : Message} (hm : m.Valid) (now : Nat) (os : Int32 → Os) (pad : Block 3) (ip : String) :
    p.acceptConnections now os (m.serialize pad) ip =
      onMessage { p with buf := recvfrom p.buf (m.serialize pad) } now os m ip := by
  rw [acceptConnections, receive_serialize hm]
  rfl

theorem coursesOf_serialize {m : Message} (hm : m.Valid) (pad : Block 3) :
    p.coursesOf (m.serialize pad) = m.course.toList.map .course := by
  rw [coursesOf, receive_serialize hm]

theorem acceptConnections_motion {now : Nat} {os : Int32 → Os} {bytes : List UInt8} {ip : String}
    (hrun : p.acceptConnections now os bytes ip = .ok (p', w)) :
    p'.satellite.motion = (p.coursesOf bytes).foldl (Motion.after axpy) p.satellite.motion := by
  obtain ⟨⟨buf, message⟩, hreceive, hrun⟩ := bind_eq_ok.mp hrun
  rw [coursesOf, hreceive]
  cases message with
  | none =>
    cases hrun
    rfl
  | some m =>
    obtain ⟨p₁, typed, h, sent, line, htype, -, rfl, -⟩ := onMessage_cases hrun
    have hmoved := onType_motion axpy htype
    exact hmoved

/-- **One step moves the satellite by its impulses.** -/
theorem step_motion {e : Event} (he : e.Computes axpy) (hrun : p.step e = .ok (p', w)) :
    p'.satellite.motion = (impulses p e w).foldl (Motion.after axpy) p.satellite.motion := by
  cases step_moves hrun with
  | connect hadd => rfl
  | datagram haccept => exact acceptConnections_motion haccept
  | stray haccept => exact acceptConnections_motion haccept
  | update hupdate =>
    cases he
    rfl
  | logLine => rfl
  | broadcast hready hmessage hsent => rfl
  | dump hready hknown => rfl
  | sendChunk hsending hsent => rfl
  | raise hsending => rfl
  | idle hsender hraise =>
    have hnone : impulses p e [] = [] := by
      cases e with
      | datagram | stray | update => exact hsender.elim
      | _ => rfl
    rw [hnone]
    rfl

theorem run_motion {es : List Event} (hticks : ∀ e ∈ es, e.Computes axpy) (hrun : run step p es = .ok (p', w)) :
    p'.satellite.motion = (observe step impulses p es).foldl (Motion.after axpy) p.satellite.motion := by
  revert hticks
  refine run_induction (P := fun es t _ => (∀ e ∈ es, e.Computes axpy) → t.satellite.motion =
    (observe step impulses p es).foldl (Motion.after axpy) p.satellite.motion) (fun _ => rfl) ?_ hrun
  intro es t v e t' v' hes ih hstep hticks
  rw [observe_snoc hes hstep, List.foldl_append, ← ih fun e he => hticks e (List.mem_append_left _ he)]
  exact step_motion (hticks e (List.mem_append_right _ List.mem_cons_self)) hstep

/-- **The motion is the replay of ticks and commands**, assignment by assignment, and after the last command only the
ticks count. -/
theorem motion_of_run {es : List Event} (hticks : ∀ e ∈ es, e.Computes axpy) (hrun : run step p es = .ok (p', w)) :
    p'.satellite.motion =
        ((observe step impulses p es).flatMap Impulse.assigns).foldl (Motion.assign axpy) p.satellite.motion ∧
      (∀ n, observe step impulses p es = List.replicate n .tick →
        p'.satellite.motion = p.satellite.motion.drift axpy n) ∧
      ∀ pre course n, observe step impulses p es = pre ++ .course course :: List.replicate n .tick →
        p'.satellite.motion = course.drift axpy n := by
  have hreplay := run_motion hticks hrun
  refine ⟨hreplay.trans (Motion.foldl_assigns axpy _ _).symm, ?_, ?_⟩
  · intro n hn
    rw [hreplay, hn, Motion.foldl_after_ticks]
  · intro pre course n hlast
    rw [hreplay, hlast, List.foldl_append, List.foldl_cons, Motion.foldl_after_ticks]
    rfl

end

/-- To 1, 0, 0, with 2 along the first axis. -/
def outward : Motion := ⟨0x3FF0000000000000, 0, 0, 0x4000000000000000, 0, 0⟩

/-- A command after the first assignment of a tick leaves what neither order of the two leaves. -/
example : let course : Impulse := .course { outward with vy := outward.vx }
    let torn := (Assign.addX :: (course.assigns ++ [.addY, .addZ])).foldl (Motion.assign Double.axpy) ⟨0, 0, 0, 0, 0, 0⟩
    torn ≠ [course, .tick].foldl (Motion.after Double.axpy) ⟨0, 0, 0, 0, 0, 0⟩ ∧
      torn ≠ [.tick, course].foldl (Motion.after Double.axpy) ⟨0, 0, 0, 0, 0, 0⟩ := by decide +kernel

/-- Ground control sends the satellite on this course. -/
def steer (m : Motion) : Event :=
  .datagram 1 (fun _ => Os.granting) (.build 0 Config.GC_PORT (.command m.x m.y m.z m.vx m.vy m.vz))
    ⟨[0, 0, 0], Message.length_zeroPad⟩ "127.0.0.1"

/-- A second goes by. -/
def second : Event := .update 2 (fun _ => Os.granting) Double.axpy

theorem motion_of_run_ordered : ∃ p w, run step atRest [steer outward, second] = .ok (p, w) ∧
    p.satellite.motion = ⟨0x4008000000000000, 0, 0, 0x4000000000000000, 0, 0⟩ := by
  have hvalid : (Message.build 0 Config.GC_PORT (.command outward.x outward.y outward.z outward.vx outward.vy
      outward.vz)).Valid := Message.build_valid (by decide) (by decide) _
  obtain ⟨q, v, horder, t, u, htick⟩ : ∃ q v, step atRest (steer outward) = .ok (q, v) ∧
      ∃ t u, step q second = .ok (t, u) := by
    rw [steer, step, accept_serialize hvalid]
    exact ⟨_, _, rfl, _, _, rfl⟩
  have hfirst : run step atRest [steer outward] = .ok (q, v ++ []) := run_cons_ok.mpr ⟨q, v, [], horder, rfl, rfl⟩
  have hrun : run step atRest ([steer outward] ++ [second]) = .ok (t, v ++ [] ++ u) :=
    run_snoc_ok.mpr ⟨q, v ++ [], u, hfirst, htick, rfl⟩
  have hticks : ∀ e ∈ [steer outward] ++ [second], e.Computes Double.axpy := by
    intro e he
    rcases List.mem_cons.mp he with rfl | he
    · trivial
    · cases List.mem_singleton.mp he
      rfl
  have hseen : observe step impulses atRest [steer outward] = [.course outward] := by
    rw [observe, horder]
    dsimp only [observe, impulses, steer]
    rw [coursesOf_serialize hvalid]
    rfl
  have hdrift : t.satellite.motion = outward.drift Double.axpy 1 := by
    refine (motion_of_run hticks hrun).2.2 [] _ 1 ?_
    rw [observe_snoc hfirst htick, hseen]
    rfl
  refine ⟨t, _, hrun, hdrift.trans ?_⟩
  decide +kernel

end SatelliteProcess

end Constellation
