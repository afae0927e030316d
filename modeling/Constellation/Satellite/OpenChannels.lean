import Constellation.Satellite.ConnectionHandler

/-!
# When a connected peer has an open socket

Runs of calls on a satellite's connection handler. A timeout closes the socket of a peer and makes it
`disconnected`; only `reconnect`, from the first `update` at least ten seconds later, opens another.
`heartbeatSat` in between makes the peer `connected` on the closed socket, and it stays so until it
times out again.

So in every state of a run each connected peer has an open socket exactly when no peer is heard in
its gap.
-/

namespace Constellation.ConnectionHandler

/-- A call of one of the threads. -/
inductive Call
  | addConnection (now : Nat) (os : Int32 → Os) (port : Int32) (ip : String) (peerId : Int32)
  | heartbeatSat (now : Nat) (peerId : Int32)
  | update (now : Nat) (os : Int32 → Os)
  | sendMessageToPeer (os : Int32 → Os) (peerId : Int32) (message : Message)
  | broadcastMessage (os : Int32 → Os) (message : Message)

/-- One call on the handler of satellite `satId`. -/
def step (satId : Int32) (h : ConnectionHandler) : Call → Except Stop (ConnectionHandler × List Effect)
  | .addConnection now os port ip peerId => h.addConnection now os port ip peerId satId
  | .heartbeatSat now peerId => do
    let h ← h.heartbeatSat now peerId
    return (h, [])
  | .update now os => h.update now os
  | .sendMessageToPeer os peerId message => do
    let effects ← h.sendMessageToPeer os peerId message
    return (h, effects)
  | .broadcastMessage os message => do
    let effects ← h.broadcastMessage os message
    return (h, effects)

/-- `socket()` and `inet_pton()` succeed in the call. -/
def Call.OsOk : Call → Prop
  | .addConnection _ os _ _ _ => ∀ i, (os i).Ok
  | .update _ os => ∀ i, (os i).Ok
  | _ => True

/-- What a call means for the link of one peer. -/
def signal (id : Int32) : Call → Option Signal
  | .addConnection now _ _ _ peerId => if peerId = id then some (.meet now) else none
  | .heartbeatSat now peerId => if peerId = id then some (.heard now) else none
  | .update now _ => some (.pass now)
  | _ => none

/-- Every connected peer has an open socket. -/
def ConnectedOpen (h : ConnectionHandler) : Prop :=
  ∀ id p, h.connections.lookup id = some p → p.state = .connected → 0 ≤ p.peerSocket

/-- No peer is heard in its gap: after the `update` that timed it out, before the first `update` at
least ten seconds later. -/
def NoWordInGap (cs : List Call) : Prop := ∀ id, GapFree Config.keepalive (signal id) cs

section
variable {satId listen : Int32} {link : Int32 → Option Link} {h h' : ConnectionHandler} {w : List Effect}

theorem linksAfter_addConnection (now : Nat) (os : Int32 → Os) (port : Int32) (ip : String)
    (peerId : Int32) :
    linksAfter Config.keepalive signal link (.addConnection now os port ip peerId) =
      Function.update link peerId (Link.next Config.keepalive (link peerId) (.meet now)) :=
  linksAfter_one _ (if_pos rfl) fun _ hne => if_neg (Ne.symm hne)

theorem linksAfter_heartbeatSat (now : Nat) (peerId : Int32) :
    linksAfter Config.keepalive signal link (.heartbeatSat now peerId) =
      Function.update link peerId (Link.next Config.keepalive (link peerId) (.heard now)) :=
  linksAfter_one _ (if_pos rfl) fun _ hne => if_neg (Ne.symm hne)

theorem step_refines {c : Call} (hf : Follows satId listen link h) (hos : c.OsOk) (hstep : step satId h c = .ok (h', w)) :
    Follows satId listen (linksAfter Config.keepalive signal link c) h' ∧
      ((∀ id l, link id = some l → l.isBroken = false) → SendsOpen w) := by
  have hup : ∀ {id l p}, (∀ id l, link id = some l → l.isBroken = false) → link id = some l →
      l.isUp = true → PeerConnection.Tracks l p → 0 ≤ p.peerSocket := by
    intro id l p hsane hl hlup htracks
    apply htracks.isOpen.mp
    by_contra hclosed
    have hbroken : l.isBroken = true := Link.isBroken_iff.mpr ⟨hlup, by simpa using hclosed⟩
    rw [hsane id l hl] at hbroken
    cases hbroken
  cases c with
  | addConnection now os port ip peerId =>
    obtain ⟨hport, hip, hid, hsat⟩ := addConnection_checked hstep
    obtain ⟨g, v, hadd, hlisten, hrefines, hsends⟩ :=
      addConnection_refines now hf.refines hid hport hip hsat hf.listening_eq hf.listening (hos peerId)
    change h.addConnection now os port ip peerId satId = .ok (h', w) at hstep
    rw [hadd] at hstep
    cases hstep
    refine ⟨⟨hf.listening, hlisten, ?_⟩, fun _ => hsends.mono fun _ _ hopen => hopen.1⟩
    rw [linksAfter_addConnection]
    exact hrefines
  | heartbeatSat now peerId =>
    obtain ⟨g, hbeat, hret⟩ := bind_eq_ok.mp hstep
    cases hret
    obtain ⟨g', hbeat', hlisten, hrefines⟩ :=
      heartbeatSat_refines now hf.refines (heartbeatSat_checked hbeat)
    rw [hbeat'] at hbeat
    cases hbeat
    refine ⟨⟨hf.listening, hlisten.trans hf.listening_eq, ?_⟩, fun _ => nofun⟩
    rw [linksAfter_heartbeatSat]
    exact hrefines
  | update now os =>
    obtain ⟨g, v, hupdate, hlisten, hrefines, hsends⟩ := update_refines now hf.refines hos
    change h.update now os = .ok (h', w) at hstep
    rw [hupdate] at hstep
    cases hstep
    exact ⟨⟨hf.listening, hlisten.trans hf.listening_eq, hrefines⟩,
      fun _ => hsends.mono fun _ _ hopen => hopen.1⟩
  | sendMessageToPeer os peerId message =>
    obtain ⟨v, hsend, hret⟩ := bind_eq_ok.mp hstep
    cases hret
    obtain ⟨hid, hm⟩ := sendMessageToPeer_checked hsend
    refine ⟨hf, fun hsane peer fd dest m hmem => ?_⟩
    rcases sendMessageToPeer_ok os hf.refines hid hm with
      ⟨l, hl, hlup, p, line, htracks, hsent⟩ | ⟨-, w', hsent, hnone⟩
    · rw [hsend] at hsent
      cases hsent
      simp only [List.mem_cons, Effect.sendto.injEq, reduceCtorEq, List.not_mem_nil, or_false] at hmem
      rw [hmem.2.1]
      exact hup hsane hl hlup htracks
    · rw [hsend] at hsent
      cases hsent
      exact absurd hmem (hnone peer fd dest m)
  | broadcastMessage os message =>
    obtain ⟨v, hsend, hret⟩ := bind_eq_ok.mp hstep
    cases hret
    refine ⟨hf, fun hsane peer fd dest m hmem => ?_⟩
    obtain ⟨w', hsent, hsends⟩ := broadcastMessage_ok os hf.refines (broadcastMessage_checked hsend)
    rw [hsend] at hsent
    cases hsent
    obtain ⟨l, p, hl, hlup, htracks, rfl⟩ := hsends peer fd dest m hmem
    exact hup hsane hl hlup htracks

end

section
variable {satId listen : Int32} {cs : List Call} {h : ConnectionHandler} {w : List Effect}

theorem run_follows (hlisten : 0 ≤ listen) (hos : ∀ c ∈ cs, c.OsOk)
    (hrun : run (step satId) (init listen) cs = .ok (h, w)) :
    Follows satId listen (fun id => linkOf Config.keepalive (signal id) cs) h := by
  induction cs using List.reverseRecOn generalizing h w with
  | nil =>
    cases hrun
    exact init_follows satId hlisten
  | append_singleton cs c ih =>
    obtain ⟨g, w₁, w₂, hcs, hstep, -⟩ := run_snoc_ok.mp hrun
    have hfollows := ih (fun c' hc' => hos c' (List.mem_append_left _ hc')) hcs
    rw [← linksAfter_linkOf]
    exact (step_refines hfollows (hos c (List.mem_append_right _ List.mem_cons_self)) hstep).1

theorem connectedOpen_of_sane {link : Int32 → Option Link} (hf : Follows satId listen link h)
    (hsane : ∀ id l, link id = some l → l.isBroken = false) : ConnectedOpen h := by
  intro id p hp hstate
  obtain ⟨l, hl, -, htracks⟩ := hf.refines.entry hp
  apply htracks.isOpen.mp
  by_contra hclosed
  have hbroken : l.isBroken = true :=
    Link.isBroken_iff.mpr ⟨htracks.isUp.mpr hstate, by simpa using hclosed⟩
  rw [hsane id l hl] at hbroken
  cases hbroken

theorem not_connectedOpen_of_broken {link : Int32 → Option Link} (hf : Follows satId listen link h) {id : Int32}
    {l : Link}
    (hl : link id = some l) (hbroken : l.isBroken = true) : ¬ ConnectedOpen h := by
  intro hopen
  obtain ⟨hup, hclosed⟩ := Link.isBroken_iff.mp hbroken
  obtain ⟨p, hp, -, htracks⟩ := hf.refines.known hl
  rw [htracks.isOpen.mpr (hopen id p hp (htracks.isUp.mp hup))] at hclosed
  cases hclosed

theorem NoWordInGap.sane (hcs : NoWordInGap cs) (id : Int32) (l : Link)
    (hl : linkOf Config.keepalive (signal id) cs = some l) : l.isBroken = false :=
  not_broken_of_gapFree (hcs id) hl

theorem noWordInGap_snoc {c : Call} : NoWordInGap (cs ++ [c]) ↔
    NoWordInGap cs ∧ ∀ id s, signal id c = some s → s.isWord = true → ¬ InGap Config.keepalive (signal id) cs := by
  unfold NoWordInGap
  constructor
  · intro hcs
    exact ⟨fun id => (along_snoc.mp (hcs id)).1, fun id => (along_snoc.mp (hcs id)).2⟩
  · rintro ⟨hcs, hc⟩ id
    exact along_snoc.mpr ⟨hcs id, hc id⟩

theorem sendsOpen_of_noWordInGap (hlisten : 0 ≤ listen) (hos : ∀ c ∈ cs, c.OsOk)
    (hrun : run (step satId) (init listen) cs = .ok (h, w)) (hcs : NoWordInGap cs) : SendsOpen w := by
  induction cs using List.reverseRecOn generalizing h w with
  | nil =>
    cases hrun
    exact nofun
  | append_singleton cs c ih =>
    obtain ⟨g, w₁, w₂, hfirst, hstep, rfl⟩ := run_snoc_ok.mp hrun
    have hos' : ∀ c' ∈ cs, c'.OsOk := fun c' hc' => hos c' (List.mem_append_left _ hc')
    obtain ⟨hquiet, -⟩ := noWordInGap_snoc.mp hcs
    have hfollows := run_follows hlisten hos' hfirst
    have hlast := (step_refines hfollows (hos c (List.mem_append_right _ List.mem_cons_self)) hstep).2
    exact (ih hos' hfirst hquiet).append (hlast hquiet.sane)

end

/-- **A connected peer has an open socket in every state of a run exactly when no peer is heard in
its gap.** Then every datagram of the run leaves on an open descriptor. -/
theorem connectedOpen_iff_noWordInGap {satId listen : Int32} (hlisten : 0 ≤ listen) {cs : List Call}
    (hos : ∀ c ∈ cs, c.OsOk) {h : ConnectionHandler} {w : List Effect}
    (hrun : run (step satId) (init listen) cs = .ok (h, w)) :
    ((∀ pre post g v, cs = pre ++ post → run (step satId) (init listen) pre = .ok (g, v) → ConnectedOpen g) ↔
        NoWordInGap cs) ∧
      (NoWordInGap cs → SendsOpen w) := by
  refine ⟨⟨fun hall => ?_, fun hcs => ?_⟩, sendsOpen_of_noWordInGap hlisten hos hrun⟩
  · -- A word in a gap breaks the link, and the state right after it is a counterexample.
    intro id pre c post heq s hsig hword hgap
    obtain ⟨l, hl, hbroken⟩ := broken_of_word_inGap hsig hword hgap
    have hsplit : cs = (pre ++ [c]) ++ post := by rw [heq]; simp
    rw [hsplit] at hrun
    obtain ⟨g, w₁, w₂, hpre, -, -⟩ := run_append_ok.mp hrun
    have hfollows := run_follows hlisten (fun c' hc' => hos c' (by
      rw [hsplit]
      exact List.mem_append_left _ hc')) hpre
    exact not_connectedOpen_of_broken hfollows hl hbroken (hall (pre ++ [c]) post g w₁ hsplit hpre)
  · intro pre post g v heq hpre
    have hos' : ∀ c ∈ pre, c.OsOk := fun c hc => hos c (by
      rw [heq]
      exact List.mem_append_left _ hc)
    refine connectedOpen_of_sane (run_follows hlisten hos' hpre) fun id l hl => ?_
    have hquiet := hcs id
    rw [heq] at hquiet
    exact not_broken_of_gapFree (Along.of_append hquiet) hl

/-! ### Ground control falls silent for twenty-one seconds -/

/-- The handler of satellite 1 meets ground control at second 0. -/
def meetGroundControl : Call := .addConnection 0 (fun _ => .granting) 8000 "127.0.0.1" 0

/-- Ground control times out at second 21 and is heard again at second 22, before the handler answers it. -/
def lateGreeting : List Call :=
  [meetGroundControl, .update 21 fun _ => .granting, .heartbeatSat 22 0,
    .sendMessageToPeer (fun _ => .granting) 0 (.build 1 5001 (.ack true))]

theorem lateGreeting_osOk : ∀ c ∈ lateGreeting, c.OsOk := by
  intro c hc
  simp only [lateGreeting, List.mem_cons, List.not_mem_nil, or_false] at hc
  rcases hc with rfl | rfl | rfl | rfl
  · exact fun _ => Os.granting_ok
  · exact fun _ => Os.granting_ok
  · trivial
  · trivial

/-- After the late greeting the peer is connected without a socket, and the answer goes to descriptor -1. -/
theorem lateGreeting_sends_closed : (∀ c ∈ lateGreeting, c.OsOk) ∧
    ∃ h w, run (step 1) (init 5001) lateGreeting = .ok (h, w) ∧ ¬ ConnectedOpen h ∧ ¬ SendsOpen w := by
  refine ⟨lateGreeting_osOk, _, _, rfl, fun hopen => ?_, fun hsends => ?_⟩
  · exact absurd (hopen 0 _ rfl rfl) (by decide)
  · exact absurd (hsends 0 (-1) _ _ (List.mem_append_right _ (List.mem_append_right _
      (List.mem_append_right _ (List.mem_append_left _ List.mem_cons_self))))) (by decide)

theorem connectedOpen_iff_noWordInGap_meet :
    ∃ h w, run (step 1) (init 5001) [meetGroundControl] = .ok (h, w) ∧ SendsOpen w := by
  have hos : ∀ c ∈ [meetGroundControl], c.OsOk := by
    intro c hc
    rw [List.mem_singleton] at hc
    rw [hc]
    exact fun _ => Os.granting_ok
  have hquiet : NoWordInGap [meetGroundControl] := by
    intro id
    refine (@along_snoc _ _ [] _).mpr ⟨along_nil _, fun s _ _ hgap => ?_⟩
    obtain ⟨l, hl, -⟩ := hgap
    cases hl
  obtain ⟨h, w, hrun⟩ : ∃ h w, run (step 1) (init 5001) [meetGroundControl] = .ok (h, w) := ⟨_, _, rfl⟩
  exact ⟨h, w, hrun, (connectedOpen_iff_noWordInGap (by decide) hos hrun).2 hquiet⟩

end Constellation.ConnectionHandler
