import Constellation.Lib.Text
import Constellation.Protocol.Message

/-!
# What a call does outside its object

The calls of both programs push lines on the logger queue and results on the output queue, open and
close sockets and send datagrams. A modelled call returns these as a list of effects in the order in
which they happen. The answers of the operating system are an argument (`Os`).
-/

namespace Constellation

open Scanf (Real64)

/-- What the parser hands to the terminal. -/
structure SatOutput where
  id : UInt32 := 0
  x : Real64 := .zero
  y : Real64 := .zero
  z : Real64 := .zero
  vx : Real64 := .zero
  vy : Real64 := .zero
  vz : Real64 := .zero
  packetsSent : Nat := 0
  packetsReceived : Nat := 0
  /-- One for a file dump with a position, minus one for a mere status update. -/
  dump_msg : Int := -1
  alive : Bool := true
  chunks : List UInt8 := []
  deriving DecidableEq

/-- A command of the operator. -/
structure CommandInput where
  id : UInt32
  new_x : Double
  new_y : Double
  new_z : Double
  new_vx : Double
  new_vy : Double
  new_vz : Double

/-- The destination of a datagram. -/
structure SockAddr where
  sin_addr : String
  sin_port : UInt16
  deriving DecidableEq, Inhabited

inductive Effect
  /-- A line pushed on the logger queue. -/
  | log (line : String)
  /-- A result pushed on the output queue. -/
  | output (out : SatOutput)
  /-- `socket()` returned this descriptor. -/
  | opened (fd : Int)
  /-- `close()` of this descriptor. -/
  | closed (fd : Int)
  /-- `sendto` of a serialized message, on the connection to `peer`. -/
  | sendto (peer : Int32) (fd : Int) (dest : SockAddr) (m : Message)
  deriving DecidableEq

/-- Every datagram among the effects has a property, of its descriptor and its message. -/
def Sends (P : Int → Message → Prop) (w : List Effect) : Prop :=
  ∀ peer fd dest m, Effect.sendto peer fd dest m ∈ w → P fd m

/-- Every datagram left on an open descriptor. -/
abbrev SendsOpen (w : List Effect) : Prop := Sends (fun fd _ => 0 ≤ fd) w

section
variable {P Q : Int → Message → Prop} {w w' : List Effect}

theorem Sends.nil : Sends P [] :=
  fun _ _ _ _ hm => absurd hm List.not_mem_nil

theorem Sends.append (h : Sends P w) (h' : Sends P w') : Sends P (w ++ w') := by
  intro peer fd dest m hm
  rcases List.mem_append.mp hm with hm | hm
  · exact h peer fd dest m hm
  · exact h' peer fd dest m hm

theorem Sends.mono (h : Sends P w) (hPQ : ∀ fd m, P fd m → Q fd m) : Sends Q w :=
  fun peer fd dest m hm => hPQ fd m (h peer fd dest m hm)

theorem Sends.of_none (h : ∀ peer fd dest m, Effect.sendto peer fd dest m ∉ w) : Sends P w :=
  fun peer fd dest m hm => absurd hm (h peer fd dest m)

theorem Sends.log {line : String} : Sends P [.log line] := by
  apply Sends.of_none
  simp

end

/-- What the operating system answers one connection during one step. -/
structure Os where
  /-- The descriptor `socket()` returns, or -1. -/
  socket : Int
  /-- Whether `inet_pton` converts the address. -/
  inet_pton : Bool
  /-- What `sendto` returns for a message: a byte count, or -1. -/
  sendto : Message → Int
  /-- What `close()` returns. -/
  close : Int

/-- `socket()` and `inet_pton()` succeed. -/
structure Os.Ok (os : Os) : Prop where
  socket : 0 ≤ os.socket
  inet_pton : os.inet_pton = true

/-- An operating system that grants every call. -/
def Os.granting : Os where
  socket := 3
  inet_pton := true
  sendto m := m.kind.layout
  close := 0

theorem Os.granting_ok : Os.granting.Ok := ⟨by decide, rfl⟩

end Constellation
