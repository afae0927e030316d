import Constellation.Config
import Constellation.Effect

/-!
# The roster of a constellation

Ground control and the satellites of one constellation, each with the address it listens on. No two
parties share an address. What a party mails is judged by the peer it means, the address it writes on the
datagram and the message (`Mails`).
-/

namespace Constellation

/-- Where a party listens: the address as `inet_ntop` shows it to others, and the port. -/
structure Home where
  ip : String
  port : Int32
  deriving DecidableEq

/-- What `inet_pton` and `htons` make of it. -/
def Home.addr (h : Home) : SockAddr where
  sin_addr := h.ip
  sin_port := h.port.toUInt32.toUInt16

structure Roster where
  ids : List Int32
  home : Int32 → Home
  ids_pos : ∀ id ∈ ids, 0 < id
  port_pos : ∀ id ∈ 0 :: ids, 0 < (home id).port
  control : (home 0).port = Config.GC_PORT
  apart : ∀ i ∈ 0 :: ids, ∀ j ∈ 0 :: ids, (home i).addr = (home j).addr → i = j

theorem Roster.ne_zero (r : Roster) {id : Int32} (hid : id ∈ r.ids) : id ≠ 0 := by
  have hpos := r.ids_pos id hid
  rintro rfl
  exact absurd hpos (by decide)

/-- Every datagram that leaves on an open descriptor has a property of the peer it is meant for, its
destination and its message. -/
def Mails (P : Int32 → SockAddr → Message → Prop) (w : List Effect) : Prop :=
  ∀ peer fd dest m, Effect.sendto peer fd dest m ∈ w → 0 ≤ fd → P peer dest m

section
variable {P Q : Int32 → SockAddr → Message → Prop} {w w' : List Effect}

theorem Mails.nil : Mails P [] :=
  fun _ _ _ _ hm => absurd hm List.not_mem_nil

theorem Mails.append (h : Mails P w) (h' : Mails P w') : Mails P (w ++ w') := by
  intro peer fd dest m hm
  rcases List.mem_append.mp hm with hm | hm
  · exact h peer fd dest m hm
  · exact h' peer fd dest m hm

theorem Mails.mono (h : Mails P w) (hPQ : ∀ peer dest m, P peer dest m → Q peer dest m) : Mails Q w :=
  fun peer fd dest m hm hfd => hPQ peer dest m (h peer fd dest m hm hfd)

theorem Mails.and (h : Mails P w) (h' : Mails Q w) : Mails (fun peer dest m => P peer dest m ∧ Q peer dest m) w :=
  fun peer fd dest m hm hfd => ⟨h peer fd dest m hm hfd, h' peer fd dest m hm hfd⟩

theorem Mails.of_none (h : ∀ peer fd dest m, Effect.sendto peer fd dest m ∉ w) : Mails P w :=
  fun peer fd dest m hm => absurd hm (h peer fd dest m)

theorem Mails.log {line : String} : Mails P [.log line] := by
  apply Mails.of_none
  simp

theorem Mails.one {peer : Int32} {fd : Int} {dest : SockAddr} {m : Message} {line : String}
    (h : 0 ≤ fd → P peer dest m) : Mails P [.sendto peer fd dest m, .log line] := by
  intro peer' fd' dest' m' hm hfd
  simp only [List.mem_cons, Effect.sendto.injEq, reduceCtorEq, List.not_mem_nil, or_false] at hm
  obtain ⟨rfl, rfl, rfl, rfl⟩ := hm
  exact h hfd

theorem Mails.opening {peer : Int32} {fd : Int} {dest : SockAddr} {m : Message} {line attempt : String}
    (h : 0 ≤ fd → P peer dest m) : Mails P [.opened fd, .sendto peer fd dest m, .log line, .log attempt] := by
  have hopened : Mails P [.opened fd] := by
    apply Mails.of_none
    simp
  have hattempt : Mails P [.log attempt] := .log
  exact hopened.append ((Mails.one h).append hattempt)

end

end Constellation
