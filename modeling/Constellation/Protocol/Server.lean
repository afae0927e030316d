import Constellation.Effect
import Constellation.Lib.Stop

/-!
# The socket a listener receives on

`startServer` of both programs opens a socket and binds it to the port of the process. Where that fails it logs the
error and returns all the same, and the listener receives on what there is: on no descriptor, where `recvfrom` fails at
once, or on a socket that has neither a port nor a time limit, where it never returns.
-/

namespace Constellation

/-- What the operating system answers the calls of `startServer`. -/
structure ServerOs where
  socket : Int
  bind : Int
  setsockopt : Int

/-- What `serverSocket` is. -/
inductive ServerSocket
  /-- No descriptor. -/
  | none
  /-- A socket without a port. -/
  | unbound
  /-- A socket with a port and a time limit on `recvfrom`; zero is none. -/
  | bound (port : Int32) (timeout : Nat)
  deriving DecidableEq

/-- `recvfrom` returns sooner or later, whatever is sent. -/
def ServerSocket.returns : ServerSocket → Bool
  | .none => true
  | .unbound => false
  | .bound _ timeout => timeout ≠ 0

/-- The body of `startServer`, which both programs have. -/
def openServer (port : Int32) (os : ServerOs) : Except Stop (ServerSocket × List Effect) :=
  if os.socket < 0 then .ok (.none, [.log "[ERROR] Error creating socket"])
  else if os.bind < 0 then .ok (.unbound, [.log "[ERROR] Error binding socket"])
  else if os.setsockopt ≠ 0 then .error (.throws "setsockopt failed")
  else .ok (.bound port Config.TIMEOUT_MS, [.log ("[NETWORK] Server started on port: " ++ toString port)])

section
variable {port : Int32} {os : ServerOs} {socket : ServerSocket} {w : List Effect}

theorem openServer_returns_iff (h : openServer port os = .ok (socket, w)) :
    socket.returns = true ↔ os.socket < 0 ∨ 0 ≤ os.bind := by
  rw [openServer] at h
  split_ifs at h with hsocket hbind hopt
  · cases h
    simp [ServerSocket.returns, hsocket]
  · cases h
    simp only [ServerSocket.returns, Bool.false_eq_true, false_iff, not_or, not_lt, not_le]
    exact ⟨by omega, hbind⟩
  · cases h
    simp only [ServerSocket.returns, Config.TIMEOUT_MS]
    have hbound : 0 ≤ os.bind := by omega
    simp [hbound]

end

end Constellation
