import Mathlib.Data.List.TakeWhile
import Constellation.Lib.Numeral
import Constellation.Satellite.Configured

/-!
# The peers on the command line

The loop of the satellite's `main` over the arguments behind the ninth. Each is taken apart at its colons with
`find` and `substr`, whose positions are unsigned words: where a colon is missing, `find` gives the largest of
them, and one more is zero. So the port of an argument with fewer than two colons is read from its front.

An argument of the form `id:ip:port` (`PeerForm`) is connected to, and one that `stoi` does not read is told on
the logger queue and skipped. Every other argument is taken for a peer as well, so the loop treats an argument
as documented exactly if it has the form or `stoi` refuses its id or its port (`arguments_handled_iff`).
-/

namespace Constellation

open Scanf

/-! ### Positions in a string -/

/-- `std::string::npos`. -/
def npos : Nat := 2 ^ 64 - 1

/-- What a computation on positions leaves in a `size_t`. -/
def sizeT (n : Int) : Nat := (n % 2 ^ 64).toNat

/-- `find(":", pos)`. -/
def findColon (s : List UInt8) (pos : Nat) : Nat :=
  if s.length < pos then npos else (find [58] (s.drop pos)).elim npos (pos + ·)

/-- `substr(pos, n)`. -/
def substr (s : List UInt8) (pos n : Nat) : Except Stop (List UInt8) :=
  if s.length < pos then
    .error (.throws ("basic_string::substr: __pos (which is " ++ toString pos ++ ") > this->size() (which is " ++
      toString s.length ++ ")"))
  else .ok ((s.drop pos).take n)

/-- A string as a call takes it. -/
def textOf (bs : List UInt8) : String := String.ofList (bs.map fun b => Char.ofNat b.toNat)

/-- An argument of the program. -/
structure Argument where
  bytes : List UInt8
  short : bytes.length < npos

/-! ### The loop -/

/-- `stoi` as a call. -/
def readInt (s : List UInt8) : Except Stop Int32 :=
  match stoi s with
  | none => .error (.throws "stoi")
  | some n => .ok n

/-- The id, the address and the port that are read from an argument. -/
def peerFields (arg : List UInt8) : Except Stop (Int32 × List UInt8 × Int32) := do
  let firstColon := findColon arg 0
  let secondColon := findColon arg (sizeT (firstColon + 1))
  let idText ← substr arg 0 firstColon
  let peerId ← readInt idText
  let ip ← substr arg (sizeT (firstColon + 1)) (sizeT (secondColon - firstColon - 1))
  let portText ← substr arg (sizeT (secondColon + 1)) npos
  let port ← readInt portText
  return (peerId, ip, port)

namespace Satellite

def connectToPeer (s : Satellite) (now : Nat) (os : Int32 → Os) (ip : String) (peerPort : Int32) (peerId : UInt32) :
    Except Stop (Satellite × List Effect) := do
  assert (ip ≠ "") "!ip.empty()"
  assert (0 ≤ peerPort) "peerPort >= 0"
  assert (0 ≤ peerId) "peerId >= 0"
  let (handler, effects) ← s.handler.addConnection now os peerPort ip peerId.toInt32 s.id.toInt32
  return ({ s with handler }, effects)

/-- The body of the loop. -/
def connectArgument (s : Satellite) (now : Nat) (os : Int32 → Os) (arg : List UInt8) :
    Except Stop (Satellite × List Effect) :=
  let body : Except Stop (Satellite × List Effect) := do
    let (peerId, ip, port) ← peerFields arg
    s.connectToPeer now os (textOf ip) port peerId.toUInt32
  match body with
  | .error (.throws what) => .ok (s, [.log ("Failed to parse peer argument: " ++ what)])
  | result => result

/-- What the clock and the sockets answer while the loop is at an argument. -/
structure Circumstance where
  now : Nat
  os : Int32 → Os

/-- The loop, from argument `i` on. -/
def connectArguments (s : Satellite) (env : Nat → Circumstance) (i : Nat) :
    List Argument → Except Stop (Satellite × List Effect)
  | [] => .ok (s, [])
  | arg :: args => do
    let (s, w) ← s.connectArgument (env i).now (env i).os arg.bytes
    let (s, w') ← s.connectArguments env (i + 1) args
    return (s, w ++ w')

end Satellite

/-! ### The documented form -/

/-- `id:ip:port`: a number, a text without a colon that is not empty, and a number. -/
structure PeerForm (arg : List UInt8) (id : Int32) (ip : List UInt8) (port : Int32) : Prop where
  split : ∃ i p : Numeral, arg = i.bytes ++ 58 :: (ip ++ 58 :: p.bytes) ∧ id.toInt = i.value ∧ port.toInt = p.value
  ip_ne_nil : ip ≠ []
  no_colon : 58 ∉ ip

/-- The text in front of the first colon, or the whole one. -/
def idPart (arg : List UInt8) : List UInt8 := arg.takeWhile (· ≠ 58)

/-- The text behind the second colon, or the whole one. -/
def portPart (arg : List UInt8) : List UInt8 :=
  match arg.dropWhile (· ≠ 58) with
  | [] => arg
  | _ :: rest =>
    match rest.dropWhile (· ≠ 58) with
    | [] => arg
    | _ :: port => port

/-- The text between the first two colons, or what there is behind the first, or the whole one. -/
def ipPart (arg : List UInt8) : List UInt8 :=
  match arg.dropWhile (· ≠ 58) with
  | [] => arg
  | _ :: rest => rest.takeWhile (· ≠ 58)

/-! ### Taking an argument apart -/

section
variable {a s rest : List UInt8}

theorem all_but_colon (ha : 58 ∉ a) : ∀ b ∈ a, decide (b ≠ 58) = true := by
  intro b hb
  rw [decide_eq_true_iff]
  rintro rfl
  exact ha hb

theorem takeWhile_colon (ha : 58 ∉ a) : (a ++ 58 :: rest).takeWhile (· ≠ 58) = a := by
  rw [List.takeWhile_append_of_pos (all_but_colon ha), List.takeWhile_cons_of_neg (by decide), List.append_nil]

theorem dropWhile_colon (ha : 58 ∉ a) : (a ++ 58 :: rest).dropWhile (· ≠ 58) = 58 :: rest := by
  rw [List.dropWhile_append_of_pos (all_but_colon ha), List.dropWhile_cons_of_neg (by decide)]

theorem takeWhile_no_colon (hs : 58 ∉ s) : s.takeWhile (· ≠ 58) = s :=
  List.takeWhile_eq_self_iff.mpr (all_but_colon hs)

theorem dropWhile_no_colon (hs : 58 ∉ s) : s.dropWhile (· ≠ 58) = [] :=
  List.dropWhile_eq_nil_iff.mpr (all_but_colon hs)

theorem find_colon (ha : 58 ∉ a) : find [58] (a ++ 58 :: rest) = some a.length := by
  rw [find_append ha, find, if_pos (List.cons_prefix_cons.mpr ⟨rfl, List.nil_prefix⟩)]
  simp

theorem find_no_colon (hs : 58 ∉ s) : find [58] s = none := by
  have hfind : find [58] (s ++ []) = _ := find_append hs []
  rwa [List.append_nil] at hfind

theorem findColon_some (pre : List UInt8) (ha : 58 ∉ a) :
    findColon (pre ++ (a ++ 58 :: rest)) pre.length = pre.length + a.length := by
  have hlen : ¬ (pre ++ (a ++ 58 :: rest)).length < pre.length := by
    rw [List.length_append]
    omega
  rw [findColon, if_neg hlen, List.drop_left, find_colon ha]
  rfl

theorem findColon_none (pre : List UInt8) (hs : 58 ∉ s) : findColon (pre ++ s) pre.length = npos := by
  have hlen : ¬ (pre ++ s).length < pre.length := by
    rw [List.length_append]
    omega
  rw [findColon, if_neg hlen, List.drop_left, find_no_colon hs]
  rfl

theorem substr_ok {pos n : Nat} (h : pos ≤ s.length) : substr s pos n = .ok ((s.drop pos).take n) :=
  if_neg (by omega)

theorem sizeT_npos : sizeT ((npos : Nat) + 1) = 0 := by decide

theorem sizeT_eq {n : Int} {k : Nat} (hn : n = k) (hk : k < 2 ^ 64) : sizeT n = k := by
  rw [sizeT, hn]
  omega

end

section
variable {a ip c : List UInt8}

theorem peerFields_none {arg : List UInt8} (hshort : arg.length < npos) (harg : 58 ∉ arg) :
    peerFields arg = do
      let peerId ← readInt arg
      let port ← readInt arg
      return (peerId, arg, port) := by
  have hcolon : findColon arg 0 = npos := findColon_none [] harg
  have hip : sizeT (npos - npos - 1) = npos := by decide
  have hwhole : substr arg 0 npos = .ok arg := by
    rw [substr_ok (Nat.zero_le _), List.drop_zero, List.take_of_length_le (by omega)]
  rw [peerFields, hcolon, sizeT_npos, hcolon, hip, sizeT_npos, hwhole]
  rfl

theorem peerFields_one (hshort : (a ++ 58 :: ip).length < npos) (ha : 58 ∉ a) (hip : 58 ∉ ip) :
    peerFields (a ++ 58 :: ip) = do
      let peerId ← readInt a
      let port ← readInt (a ++ 58 :: ip)
      return (peerId, ip, port) := by
  have hnpos : npos = 18446744073709551615 := rfl
  rw [List.length_append, List.length_cons] at hshort
  have hsplit : a ++ 58 :: ip = (a ++ [58]) ++ ip := by simp
  have hfirst : findColon (a ++ 58 :: ip) 0 = a.length := (findColon_some [] ha).trans (Nat.zero_add _)
  have hbehind : sizeT (a.length + 1) = a.length + 1 := sizeT_eq rfl (by omega)
  have hsecond : findColon (a ++ 58 :: ip) (a.length + 1) = npos := by
    have hnone := findColon_none (a ++ [58]) hip
    rwa [← hsplit, List.length_append] at hnone
  have hlen : sizeT (npos - a.length - 1) = npos - a.length - 1 := sizeT_eq (by omega) (by omega)
  have hid : substr (a ++ 58 :: ip) 0 a.length = .ok a := by
    rw [substr_ok (Nat.zero_le _), List.drop_zero, List.take_left]
  have hrest : substr (a ++ 58 :: ip) (a.length + 1) (npos - a.length - 1) = .ok ip := by
    rw [substr_ok (by simp), hsplit, List.drop_left' (by simp), List.take_of_length_le (by omega)]
  have hwhole : substr (a ++ 58 :: ip) 0 npos = .ok (a ++ 58 :: ip) := by
    rw [substr_ok (Nat.zero_le _), List.drop_zero, List.take_of_length_le (by simp; omega)]
  rw [peerFields, hfirst, hbehind, hsecond, hid, hlen, hrest, sizeT_npos, hwhole]
  rfl

theorem peerFields_two (hshort : (a ++ 58 :: (ip ++ 58 :: c)).length < npos) (ha : 58 ∉ a) (hip : 58 ∉ ip) :
    peerFields (a ++ 58 :: (ip ++ 58 :: c)) = do
      let peerId ← readInt a
      let port ← readInt c
      return (peerId, ip, port) := by
  have hnpos : npos = 18446744073709551615 := rfl
  rw [List.length_append, List.length_cons, List.length_append, List.length_cons] at hshort
  have hsplit : a ++ 58 :: (ip ++ 58 :: c) = (a ++ [58]) ++ (ip ++ 58 :: c) := by simp
  have hsplit' : a ++ 58 :: (ip ++ 58 :: c) = (a ++ [58] ++ ip ++ [58]) ++ c := by simp
  have hfirst : findColon (a ++ 58 :: (ip ++ 58 :: c)) 0 = a.length := (findColon_some [] ha).trans (Nat.zero_add _)
  have hbehind : sizeT (a.length + 1) = a.length + 1 := sizeT_eq rfl (by omega)
  have hsecond : findColon (a ++ 58 :: (ip ++ 58 :: c)) (a.length + 1) = a.length + 1 + ip.length := by
    have hsome : findColon (a ++ [58] ++ (ip ++ 58 :: c)) (a ++ [58]).length = _ := findColon_some (a ++ [58]) hip
    rwa [← hsplit, List.length_append] at hsome
  have hlen : sizeT (↑(a.length + 1 + ip.length) - a.length - 1) = ip.length := sizeT_eq (by omega) (by omega)
  have hlast : sizeT (↑(a.length + 1 + ip.length) + 1) = a.length + 1 + ip.length + 1 := sizeT_eq rfl (by omega)
  have hid : substr (a ++ 58 :: (ip ++ 58 :: c)) 0 a.length = .ok a := by
    rw [substr_ok (Nat.zero_le _), List.drop_zero, List.take_left]
  have hbetween : substr (a ++ 58 :: (ip ++ 58 :: c)) (a.length + 1) ip.length = .ok ip := by
    rw [substr_ok (by simp), hsplit, List.drop_left' (by simp), List.take_left]
  have hport : substr (a ++ 58 :: (ip ++ 58 :: c)) (a.length + 1 + ip.length + 1) npos = .ok c := by
    rw [substr_ok (by simp; omega), hsplit', List.drop_left' (by simp; omega), List.take_of_length_le (by omega)]
  rw [peerFields, hfirst, hbehind, hsecond, hid, hlen, hbetween, hlast, hport]
  rfl

end

/-- **What is read from an argument.** -/
theorem peerFields_eq (arg : Argument) : peerFields arg.bytes = do
    let peerId ← readInt (idPart arg.bytes)
    let port ← readInt (portPart arg.bytes)
    return (peerId, ipPart arg.bytes, port) := by
  obtain ⟨bytes, hshort⟩ := arg
  dsimp only
  by_cases hfirst : 58 ∈ bytes
  swap
  · rw [peerFields_none hshort hfirst, idPart, portPart, ipPart, takeWhile_no_colon hfirst, dropWhile_no_colon hfirst]
  obtain ⟨a, rest, rfl, ha⟩ := List.eq_append_cons_of_mem hfirst
  by_cases hsecond : 58 ∈ rest
  swap
  · rw [peerFields_one hshort ha hsecond, idPart, portPart, ipPart, takeWhile_colon ha, dropWhile_colon ha]
    dsimp only
    rw [takeWhile_no_colon hsecond, dropWhile_no_colon hsecond]
  obtain ⟨ip, c, rfl, hip⟩ := List.eq_append_cons_of_mem hsecond
  rw [peerFields_two hshort ha hip, idPart, portPart, ipPart, takeWhile_colon ha, dropWhile_colon ha]
  dsimp only
  rw [takeWhile_colon hip, dropWhile_colon hip]

/-! ### Which arguments are taken for a peer -/

/-- The argument has the documented form. -/
def Formed (arg : List UInt8) : Prop := ∃ id ip port, PeerForm arg id ip port

section
variable {arg ip : List UInt8} {id port : Int32}

theorem readInt_eq_ok {s : List UInt8} {n : Int32} : readInt s = .ok n ↔ stoi s = some n := by
  rw [readInt]
  cases stoi s with
  | none => simp
  | some m => simp

theorem readInt_of_none {s : List UInt8} (h : stoi s = none) : readInt s = .error (.throws "stoi") := by
  rw [readInt, h]

theorem colon_not_mem (n : Numeral) : 58 ∉ n.bytes := by
  intro hcolon
  have hdigit := n.digits 58 hcolon
  cases hdigit

theorem PeerForm.parts (h : PeerForm arg id ip port) :
    stoi (idPart arg) = some id ∧ ipPart arg = ip ∧ stoi (portPart arg) = some port := by
  obtain ⟨⟨i, p, rfl, hid, hport⟩, -, hip⟩ := h
  rw [idPart, ipPart, portPart, takeWhile_colon (colon_not_mem i), dropWhile_colon (colon_not_mem i)]
  dsimp only
  rw [takeWhile_colon hip, dropWhile_colon hip]
  exact ⟨stoi_numeral hid, rfl, stoi_numeral hport⟩

theorem peerFields_eq_ok (arg : Argument) : peerFields arg.bytes = .ok (id, ip, port) ↔
    stoi (idPart arg.bytes) = some id ∧ ipPart arg.bytes = ip ∧ stoi (portPart arg.bytes) = some port := by
  rw [peerFields_eq, bind_eq_ok]
  simp only [bind_eq_ok, readInt_eq_ok]
  constructor
  · rintro ⟨id', hid, port', hport, hret⟩
    cases hret
    exact ⟨hid, rfl, hport⟩
  · rintro ⟨hid, rfl, hport⟩
    exact ⟨id, hid, port, hport, rfl⟩

theorem peerFields_throws (arg : Argument) (h : stoi (idPart arg.bytes) = none ∨ stoi (portPart arg.bytes) = none) :
    peerFields arg.bytes = .error (.throws "stoi") := by
  rw [peerFields_eq]
  cases hid : stoi (idPart arg.bytes) with
  | none =>
    rw [readInt_of_none hid]
    rfl
  | some id =>
    have hport : stoi (portPart arg.bytes) = none := h.resolve_left (by rw [hid]; nofun)
    rw [readInt_eq_ok.mpr hid, ok_bind, readInt_of_none hport]
    rfl

end

/-! ### What the loop does with an argument -/

namespace Satellite

/-- The constructor. -/
def new (id : UInt32) (x y z vx vy vz : Double) (port : Int32) : Except Stop Satellite := do
  assert (0 < id) "id > 0"
  assert (0 ≤ port) "port >= 0"
  return { handler := .init port, id, x, y, z, vx, vy, vz, port, waitingForAck := false }

/-- A satellite whose connections are sound. -/
structure Ready (s : Satellite) : Prop where
  id_pos : 0 < s.id.toInt32
  port_nonneg : 0 ≤ s.port
  sound : s.handler.Sound s.id.toInt32 s.port

/-- An argument is handled: `connectToPeer` is called exactly if it has the form, with its three fields, and returns;
any other argument is told on the logger queue and leaves the satellite as it is. -/
structure Handled (s : Satellite) (c : Circumstance) (arg : List UInt8) : Prop where
  calls : ∀ id ip port, peerFields arg = .ok (id, ip, port) ↔ PeerForm arg id ip port
  connects : ∀ id ip port, PeerForm arg id ip port → ∃ r,
    s.connectToPeer c.now c.os (textOf ip) port id.toUInt32 = .ok r ∧ s.connectArgument c.now c.os arg = .ok r
  skips : ¬ Formed arg → ∃ what,
    s.connectArgument c.now c.os arg = .ok (s, [.log ("Failed to parse peer argument: " ++ what)])

section
variable {s : Satellite} {c : Circumstance} {arg ip : List UInt8} {id port : Int32} {r : Satellite × List Effect}

theorem new_ready {satId : UInt32} {x y z vx vy vz : Double} (hnew : new satId x y z vx vy vz port = .ok s)
    (hsat : 0 < satId.toInt32) : s.Ready := by
  obtain ⟨-, hnew⟩ := assert_bind_eq_ok.mp hnew
  obtain ⟨hport, hret⟩ := assert_bind_eq_ok.mp hnew
  cases hret
  refine ⟨hsat, hport, rfl, fun id p hp => ?_⟩
  cases hp

theorem connectToPeer_ready (hs : s.Ready) (now : Nat) (os : Int32 → Os) {ip : String} (hip : ip ≠ "") (hport : 0 ≤ port)
    (hid : 0 ≤ id) : ∃ r, s.connectToPeer now os ip port id.toUInt32 = .ok r ∧ r.1.Ready := by
  obtain ⟨h', w, hadd, hsound, -⟩ := ConnectionHandler.addConnection_sound now os hs.sound hs.port_nonneg hport hip hid
    hs.id_pos
  have hnonneg : (0 : UInt32) ≤ id.toUInt32 := UInt32.zero_le
  rw [connectToPeer, assert_bind hip, assert_bind hport, assert_bind hnonneg, Int32.toInt32_toUInt32, hadd, ok_bind]
  exact ⟨_, rfl, hs.id_pos, hs.port_nonneg, hsound⟩

theorem textOf_ne_empty (hip : ip ≠ []) : textOf ip ≠ "" := by
  intro hempty
  have hlist : (textOf ip).toList = "".toList := congrArg String.toList hempty
  rw [textOf, String.toList_ofList] at hlist
  exact hip (List.map_eq_nil_iff.mp hlist)

theorem nonneg_of_value {v : Int32} {n : Numeral} (hv : v.toInt = n.value) : 0 ≤ v := by
  rw [Int32.le_iff_toInt_le, hv]
  exact Int.natCast_nonneg _

theorem connectArgument_fields (hfields : peerFields arg = .ok (id, ip, port))
    (hconnect : s.connectToPeer c.now c.os (textOf ip) port id.toUInt32 = .ok r) :
    s.connectArgument c.now c.os arg = .ok r := by
  rw [connectArgument, hfields]
  dsimp only [ok_bind]
  rw [hconnect]

theorem connectArgument_throws {what : String} (hfields : peerFields arg = .error (.throws what)) :
    s.connectArgument c.now c.os arg = .ok (s, [.log ("Failed to parse peer argument: " ++ what)]) := by
  rw [connectArgument, hfields]
  rfl

theorem connectArgument_form (hs : s.Ready) (c : Circumstance) (arg : Argument) (hform : PeerForm arg.bytes id ip port) :
    ∃ r, s.connectToPeer c.now c.os (textOf ip) port id.toUInt32 = .ok r ∧
      s.connectArgument c.now c.os arg.bytes = .ok r ∧ r.1.Ready := by
  have hfields := (peerFields_eq_ok arg).mpr hform.parts
  obtain ⟨⟨i, p, -, hid, hport⟩, hip, -⟩ := hform
  obtain ⟨r, hconnect, hready⟩ := connectToPeer_ready hs c.now c.os (textOf_ne_empty hip) (nonneg_of_value hport)
    (nonneg_of_value hid)
  exact ⟨r, hconnect, connectArgument_fields hfields hconnect, hready⟩

theorem handled_of_form (hs : s.Ready) (c : Circumstance) (arg : Argument) (hform : PeerForm arg.bytes id ip port) :
    Handled s c arg.bytes where
  calls id' ip' port' := by
    constructor
    · intro hfields'
      rw [(peerFields_eq_ok arg).mpr hform.parts] at hfields'
      cases hfields'
      exact hform
    · intro hform'
      exact (peerFields_eq_ok arg).mpr hform'.parts
  connects id' ip' port' hform' := by
    obtain ⟨r, hconnect, hrun, -⟩ := connectArgument_form hs c arg hform'
    exact ⟨r, hconnect, hrun⟩
  skips hno := absurd ⟨id, ip, port, hform⟩ hno

theorem handled_of_throws (s : Satellite) (c : Circumstance) (arg : Argument)
    (hnone : stoi (idPart arg.bytes) = none ∨ stoi (portPart arg.bytes) = none) : Handled s c arg.bytes := by
  have hfields := peerFields_throws arg hnone
  have hno : ∀ id ip port, ¬ PeerForm arg.bytes id ip port := by
    intro id ip port hform
    rw [(peerFields_eq_ok arg).mpr hform.parts] at hfields
    cases hfields
  refine ⟨fun id ip port => ?_, fun id ip port hform => absurd hform (hno id ip port), fun _ => ?_⟩
  · rw [hfields]
    exact ⟨nofun, fun hform => absurd hform (hno id ip port)⟩
  · exact ⟨_, connectArgument_throws hfields⟩

theorem Handled.formed {arg : Argument} (hh : Handled s c arg.bytes) (hid : stoi (idPart arg.bytes) ≠ none)
    (hport : stoi (portPart arg.bytes) ≠ none) : Formed arg.bytes := by
  obtain ⟨id, hid⟩ := Option.ne_none_iff_exists'.mp hid
  obtain ⟨port, hport⟩ := Option.ne_none_iff_exists'.mp hport
  exact ⟨id, _, port, (hh.calls id _ port).mp ((peerFields_eq_ok arg).mpr ⟨hid, rfl, hport⟩)⟩

theorem Handled.returns (hs : s.Ready) {arg : Argument} (hh : Handled s c arg.bytes) :
    ∃ r, s.connectArgument c.now c.os arg.bytes = .ok r ∧ r.1.Ready := by
  by_cases hform : Formed arg.bytes
  · obtain ⟨id, ip, port, hform⟩ := hform
    obtain ⟨r, -, hrun, hready⟩ := connectArgument_form hs c arg hform
    exact ⟨r, hrun, hready⟩
  · obtain ⟨what, hrun⟩ := hh.skips hform
    exact ⟨_, hrun, hs⟩

end

/-- Every argument is handled by the satellite that the ones before leave behind. -/
def AllHandled (s : Satellite) (env : Nat → Circumstance) (i : Nat) : List Argument → Prop
  | [] => True
  | arg :: args => Handled s (env i) arg.bytes ∧
      ∀ s' w, s.connectArgument (env i).now (env i).os arg.bytes = .ok (s', w) → s'.AllHandled env (i + 1) args

/-- The argument has the form, or `stoi` refuses the text in front of its first colon or that behind its second. -/
def Told (arg : List UInt8) : Prop := Formed arg ∨ stoi (idPart arg) = none ∨ stoi (portPart arg) = none

theorem allHandled_iff {env : Nat → Circumstance} {i : Nat} {s : Satellite} {args : List Argument} (hs : s.Ready) :
    (∃ r, s.connectArguments env i args = .ok r) ∧ s.AllHandled env i args ↔ ∀ arg ∈ args, Told arg.bytes := by
  induction args generalizing i s with
  | nil => exact ⟨fun _ arg harg => absurd harg List.not_mem_nil, fun _ => ⟨⟨_, rfl⟩, trivial⟩⟩
  | cons arg args ih =>
    constructor
    · rintro ⟨⟨r, hrun⟩, hhandled, hrest⟩
      obtain ⟨⟨s', w⟩, hfirst, hs'⟩ := hhandled.returns hs
      obtain ⟨⟨s'', w'⟩, hfirst', hloop⟩ := bind_eq_ok.mp hrun
      rw [hfirst] at hfirst'
      cases hfirst'
      obtain ⟨r', hloop, -⟩ := bind_eq_ok.mp hloop
      intro arg' harg'
      rcases List.mem_cons.mp harg' with rfl | harg'
      · by_cases hid : stoi (idPart arg'.bytes) = none
        · exact .inr (.inl hid)
        by_cases hport : stoi (portPart arg'.bytes) = none
        · exact .inr (.inr hport)
        exact .inl (hhandled.formed hid hport)
      · exact (ih hs').mp ⟨⟨r', hloop⟩, hrest s' w hfirst⟩ arg' harg'
    · intro hall
      have hhandled : Handled s (env i) arg.bytes := by
        rcases hall arg List.mem_cons_self with ⟨id, ip, port, hform⟩ | hnone
        · exact handled_of_form hs (env i) arg hform
        · exact handled_of_throws s (env i) arg hnone
      obtain ⟨⟨s', w⟩, hfirst, hs'⟩ := hhandled.returns hs
      obtain ⟨⟨⟨s'', w'⟩, hloop⟩, hrest⟩ := (ih hs').mpr fun arg' harg' => hall arg' (List.mem_cons_of_mem arg harg')
      refine ⟨⟨(s'', w ++ w'), ?_⟩, hhandled, ?_⟩
      · rw [connectArguments, hfirst, ok_bind]
        dsimp only
        rw [hloop]
        rfl
      · intro t v ht
        rw [hfirst] at ht
        cases ht
        exact hrest

end Satellite

/-- **When the peers are parsed as documented.** The loop returns and handles every argument of the program exactly if
each has the documented form, or `stoi` refuses the text in front of its first colon or that behind its second. -/
theorem arguments_handled_iff {satId : UInt32} {x y z vx vy vz : Double} {port : Int32} {s : Satellite}
    (hnew : Satellite.new satId x y z vx vy vz port = .ok s) (hsat : 0 < satId.toInt32)
    (env : Nat → Satellite.Circumstance) (args : List Argument) :
    (∃ r, s.connectArguments env 10 args = .ok r) ∧ s.AllHandled env 10 args ↔
      ∀ arg ∈ args, Formed arg.bytes ∨ stoi (idPart arg.bytes) = none ∨ stoi (portPart arg.bytes) = none :=
  Satellite.allHandled_iff (Satellite.new_ready hnew hsat)

/-- Every call at the start is granted. -/
def granted : Nat → Satellite.Circumstance := fun _ => { now := 0, os := fun _ => Os.granting }

theorem bareNumber_short : (ascii "5").length < npos := by decide

/-- A number alone. -/
def bareNumber : Argument := ⟨ascii "5", bareNumber_short⟩

theorem noAddress_short : (ascii "1::5").length < npos := by decide

/-- An address that is left out. -/
def noAddress : Argument := ⟨ascii "1::5", noAddress_short⟩

/-- A bare number makes a peer with that id, at that address and on that port, and an empty address ends the program. -/
theorem bareNumber_connects : ¬ Formed bareNumber.bytes ∧ ¬ Formed noAddress.bytes ∧
    ∃ s, Satellite.new 1 0 0 0 0 0 0 5001 = .ok s ∧
      (∃ s' w p, s.connectArguments granted 10 [bareNumber] = .ok (s', w) ∧
        s'.handler.connections.lookup 5 = some p ∧ p.peerIp = "5" ∧ p.peerPort = 5) ∧
      s.connectArguments granted 10 [noAddress] = .error (.asserts "!ip.empty()") ∧
      ¬ s.AllHandled granted 10 [bareNumber] ∧ ¬ s.AllHandled granted 10 [noAddress] := by
  have hbare : ¬ Formed bareNumber.bytes := by
    rintro ⟨id, ip, port, ⟨i, p, heq, -, -⟩, -, -⟩
    have hcolon : 58 ∈ bareNumber.bytes := by
      rw [heq]
      exact List.mem_append_right _ List.mem_cons_self
    exact absurd hcolon (by decide)
  have hempty : ¬ Formed noAddress.bytes := by
    rintro ⟨id, ip, port, hform⟩
    have hip : ipPart noAddress.bytes = ip := hform.parts.2.1
    exact hform.ip_ne_nil (hip.symm.trans (by decide))
  refine ⟨hbare, hempty, _, rfl, ⟨_, _, _, rfl, rfl, by decide, by decide⟩, rfl, fun hall => ?_, fun hall => ?_⟩
  · exact hbare (hall.1.formed (by decide) (by decide))
  · exact hempty (hall.1.formed (by decide) (by decide))

theorem twoPeers_short : (ascii "2:10.0.0.1:5002").length < npos ∧ (ascii "x:10.0.0.1:5002").length < npos := by decide

/-- A peer as documented, and one whose id is no number. -/
theorem arguments_handled_iff_peers : ∃ s, Satellite.new 1 0 0 0 0 0 0 5001 = .ok s ∧ (0 : Int32) < (1 : UInt32).toInt32 ∧
    s.AllHandled granted 10 [⟨ascii "2:10.0.0.1:5002", twoPeers_short.1⟩, ⟨ascii "x:10.0.0.1:5002", twoPeers_short.2⟩] := by
  obtain ⟨s, hnew⟩ : ∃ s, Satellite.new 1 0 0 0 0 0 0 5001 = .ok s := ⟨_, rfl⟩
  have hsat : (0 : Int32) < (1 : UInt32).toInt32 := by decide
  refine ⟨s, hnew, hsat, ((arguments_handled_iff hnew hsat granted _).mpr fun arg harg => ?_).2⟩
  rcases List.mem_cons.mp harg with rfl | harg
  · left
    refine ⟨2, ascii "10.0.0.1", 5002, ⟨.ofNat 2, .ofNat 5002, by decide, ?_, ?_⟩, by decide, by decide⟩
    · rw [Numeral.value_ofNat]
      rfl
    · rw [Numeral.value_ofNat]
      rfl
  · right
    left
    rw [List.mem_singleton.mp harg]
    decide

end Constellation
