import Constellation.GroundControl.Process

/-!
# When ground control sends on a closed socket

A timeout closes the socket of a satellite and leaves its connection in the map; the next socket is
opened by the first round of `update` at least ten seconds later. Nothing in between keeps the
listener or the sender from using the connection: a datagram of the satellite marks it connected and
is answered at once, an operator command is delivered to any id in the map. Both end in the assertion
of `sendMessage`.

In terms of the links: a run aborts exactly when some event sends to a satellite in its gap. While
that does not happen no link is ever broken, so outside the gap every channel is open.
-/

namespace Constellation.GroundControl

/-- No satellite's datagram is handled and no command for it delivered while it is in its gap: after
the round of `update` that timed it out, before the first round that reconnects. -/
def Quiet (es : List Event) : Prop :=
  Along (fun pre e => ∀ id, e.SendsTo id → ¬ InGap Config.keepalive (signal id) pre) es

theorem sendsTo_of_isWord {id : Int32} {e : Event} {s : Signal} (h : signal id e = some s)
    (hword : s.isWord = true) : e.SendsTo id := by
  cases e with
  | config now os port ip satId =>
    rw [signal] at h
    split_ifs at h
    cases h
    cases hword
  | datagram now os m pad ip =>
    rw [signal] at h
    split_ifs at h with hid
    exact hid
  | update now os => cases h; cases hword
  | command os com => cases h

theorem Quiet.gapFree {es : List Event} (h : Quiet es) (id : Int32) :
    GapFree Config.keepalive (signal id) es :=
  Along.mono h fun _ _ hquiet _ hsig hword => hquiet id (sendsTo_of_isWord hsig hword)

theorem isOpen_after {es : List Event} {e : Event} {id : Int32} (hes : Quiet es) (hsends : e.SendsTo id)
    (hgap : ¬ InGap Config.keepalive (signal id) es) {l : Link}
    (hl : linkOf Config.keepalive (signal id) (es ++ [e]) = some l) : l.isOpen = true := by
  have hfree : GapFree Config.keepalive (signal id) (es ++ [e]) :=
    along_snoc.mpr ⟨hes.gapFree id, fun _ _ _ => hgap⟩
  rw [isOpen_of_gapFree hfree hl]
  -- Sending to a satellite never gives it up, so the gap would have been there before.
  rw [linkOf_snoc, linkStep] at hl
  cases e with
  | config now os port ip satId => cases hsends
  | update now os => cases hsends
  | command os com =>
    by_contra hin
    exact hgap ⟨l, hl, by simpa using hin⟩
  | datagram now os m pad ip =>
    have hid : m.senderId = id := hsends
    rw [signal, if_pos hid] at hl
    cases hl
    cases (linkOf Config.keepalive (signal id) es).getD .probing <;> rfl

theorem isClosed_after {es : List Event} {e : Event} {id : Int32} (hsends : e.SendsTo id)
    (hgap : InGap Config.keepalive (signal id) es) :
    ∃ l, linkOf Config.keepalive (signal id) (es ++ [e]) = some l ∧ l.isOpen = false := by
  cases e with
  | config now os port ip satId => cases hsends
  | update now os => cases hsends
  | command os com =>
    obtain ⟨l, hl, hin⟩ := hgap
    refine ⟨l, ?_, ?_⟩
    · rw [linkOf_snoc]
      exact hl
    · cases l <;> first | rfl | cases hin
  | datagram now os m pad ip =>
    have hid : m.senderId = id := hsends
    have hsig : signal id (.datagram now os m pad ip) = some (.contact now) := if_pos hid
    obtain ⟨l, hl, hbroken⟩ := broken_of_word_inGap hsig rfl hgap
    exact ⟨l, hl, (Link.isBroken_iff.mp hbroken).2⟩

section
variable (buf : RecvBuffer) {es : List Event}

theorem run_of_quiet (hlegit : ∀ e ∈ es, e.Legit Config.GC_PORT) (hquiet : Quiet es) :
    ∃ g w, run step (init Config.GC_PORT buf) es = .ok (g, w) ∧
      Follows Config.GC_PORT (fun id => linkOf Config.keepalive (signal id) es) g := by
  induction es using List.reverseRecOn with
  | nil => exact ⟨_, _, rfl, init_follows (by decide) buf⟩
  | append_singleton es e ih =>
    obtain ⟨hes, he⟩ := along_snoc.mp hquiet
    obtain ⟨g, w, hrun, hfollows⟩ := ih (fun e' he' => hlegit e' (List.mem_append_left _ he')) hes
    obtain ⟨g', w', hstep, hfollows'⟩ := step_refines hfollows
      (hlegit e (List.mem_append_right _ List.mem_cons_self)) fun id hsends l hl => by
        rw [linksAfter_linkOf] at hl
        exact isOpen_after hes hsends (he id hsends) hl
    rw [linksAfter_linkOf] at hfollows'
    exact ⟨g', _, run_snoc_ok.mpr ⟨g, w, w', hrun, hstep, rfl⟩, hfollows'⟩

theorem run_of_not_quiet (hlegit : ∀ e ∈ es, e.Legit Config.GC_PORT) (hquiet : ¬ Quiet es) :
    run step (init Config.GC_PORT buf) es = .error (.asserts "satSocket >= 0") := by
  induction es using List.reverseRecOn with
  | nil => exact absurd (along_nil _) hquiet
  | append_singleton es e ih =>
    have hlegit' : ∀ e' ∈ es, e'.Legit Config.GC_PORT := fun e' he' =>
      hlegit e' (List.mem_append_left _ he')
    by_cases hes : Quiet es
    · have hsends : ∃ id, e.SendsTo id ∧ InGap Config.keepalive (signal id) es := by
        by_contra hnone
        refine hquiet (along_snoc.mpr ⟨hes, fun id hsends hgap => ?_⟩)
        exact hnone ⟨id, hsends, hgap⟩
      obtain ⟨id, hsends, hgap⟩ := hsends
      obtain ⟨l, hl, hclosed⟩ := isClosed_after hsends hgap
      obtain ⟨g, w, hrun, hfollows⟩ := run_of_quiet buf hlegit' hes
      refine run_snoc_error (.inr ⟨g, w, hrun, ?_⟩)
      refine step_closed hfollows (hlegit e (List.mem_append_right _ List.mem_cons_self)) hsends ?_ hclosed
      rw [linksAfter_linkOf]
      exact hl
    · exact run_snoc_error (.inl (ih hlegit' hes))

end

/-- **Ground control aborts exactly when it sends to a satellite in its gap.** Every run over
datagrams of satellites, rounds of `update` and commands either ends well, or ends in the assertion
`satSocket >= 0`, and it ends well if and only if it is quiet. -/
theorem abortFree_iff_quiet (buf : RecvBuffer) (es : List Event)
    (hlegit : ∀ e ∈ es, e.Legit Config.GC_PORT) :
    ((∃ r, run step (init Config.GC_PORT buf) es = .ok r) ↔ Quiet es) ∧
      (¬ Quiet es → run step (init Config.GC_PORT buf) es = .error (.asserts "satSocket >= 0")) := by
  refine ⟨⟨fun hok => ?_, fun hquiet => ?_⟩, run_of_not_quiet buf hlegit⟩
  · by_contra hquiet
    obtain ⟨r, hr⟩ := hok
    rw [run_of_not_quiet buf hlegit hquiet] at hr
    cases hr
  · obtain ⟨g, w, hrun, -⟩ := run_of_quiet buf hlegit hquiet
    exact ⟨_, hrun⟩

/-! ### A satellite that is late by one second -/

/-- A heartbeat of satellite 1, which listens on port 5001. -/
def heartbeatAt (now : Nat) : Event :=
  .datagram now (fun _ => Os.granting) (.build 1 5001 (.heartbeat true))
    ⟨[0, 0, 0], Message.length_zeroPad⟩ "127.0.0.1"

theorem heartbeatAt_legit (now : Nat) : (heartbeatAt now).Legit Config.GC_PORT := by
  refine ⟨fun _ => Os.granting_ok, ⟨rfl, by decide, by decide, by decide, by decide, ?_⟩, by decide⟩
  intro data len last h
  cases h

def roundAt (now : Nat) : Event := .update now fun _ => Os.granting

/-- Satellite 1 is heard at second 1 and, after the round of second 22 timed it out, at second 23. -/
def lateHeartbeat : List Event := [heartbeatAt 1, roundAt 22, heartbeatAt 23]

theorem lateHeartbeat_legit : ∀ e ∈ lateHeartbeat, e.Legit Config.GC_PORT := by
  intro e he
  simp only [lateHeartbeat, List.mem_cons, List.not_mem_nil, or_false] at he
  rcases he with rfl | rfl | rfl
  · exact heartbeatAt_legit 1
  · exact fun _ => Os.granting_ok
  · exact heartbeatAt_legit 23

/-- The late heartbeat aborts ground control. -/
theorem lateHeartbeat_aborts :
    (∀ e ∈ lateHeartbeat, e.Legit Config.GC_PORT) ∧
      run step (init Config.GC_PORT (filled 0)) lateHeartbeat = .error (.asserts "satSocket >= 0") := by
  refine ⟨lateHeartbeat_legit, run_of_not_quiet (filled 0) lateHeartbeat_legit fun hquiet => ?_⟩
  refine hquiet [heartbeatAt 1, roundAt 22] (heartbeatAt 23) [] rfl 1 rfl ?_
  decide

theorem abortFree_iff_quiet_prompt :
    (∃ r, run step (init Config.GC_PORT (filled 0)) [heartbeatAt 1, roundAt 21, heartbeatAt 21] = .ok r) ∧
      Quiet [heartbeatAt 1, roundAt 21, heartbeatAt 21] := by
  have hlegit : ∀ e ∈ [heartbeatAt 1, roundAt 21, heartbeatAt 21], e.Legit Config.GC_PORT := by
    intro e he
    simp only [List.mem_cons, List.not_mem_nil, or_false] at he
    rcases he with rfl | rfl | rfl
    · exact heartbeatAt_legit 1
    · exact fun _ => Os.granting_ok
    · exact heartbeatAt_legit 21
  have hquiet : Quiet [heartbeatAt 1, roundAt 21, heartbeatAt 21] := by
    refine (@along_snoc _ _ [heartbeatAt 1, roundAt 21] _).mpr ⟨?_, ?_⟩
    · refine (@along_snoc _ _ [heartbeatAt 1] _).mpr ⟨?_, fun id hsends => by cases hsends⟩
      exact (@along_snoc _ _ [] _).mpr ⟨along_nil _, fun id _ hgap => by obtain ⟨l, hl, -⟩ := hgap; cases hl⟩
    · rintro id hsends
      have hid : (1 : Int32) = id := hsends
      subst hid
      decide
  exact ⟨(abortFree_iff_quiet (filled 0) _ hlegit).1.mpr hquiet, hquiet⟩

end Constellation.GroundControl
