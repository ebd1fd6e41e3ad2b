import SpdmEmu.Wire.Packed

/-!
# Byte streams with partial transfers

The two ends of a stream socket. A call that could move `n` bytes moves some number of them, at
least one when `n` is not zero, or fails; which it is differs from call to call and is not known to
the program. `Pieces` is one way in which a run of calls may go, so that a statement about every
`Pieces` is a statement about every fragmentation.
-/

set_option autoImplicit false

namespace SpdmEmu.Wire

/-- A number of bytes that a call may move when it could move `n`. -/
abbrev Piece (n : Nat) := {k : Nat // k ≤ n ∧ (0 < n → 0 < k)}

/-- What the calls of a run do: for the number of the call and the bytes it could move, how many it
moves, or `none` for an error. -/
abbrev Pieces := Nat → (n : Nat) → Option (Piece n)

/-- No call fails. -/
def Pieces.Reliable (p : Pieces) : Prop := ∀ i n, ∃ k, p i n = some k

/-- Every call moves one byte, if it can. -/
def Pieces.bytewise : Pieces := fun _ n => some ⟨min 1 n, by omega⟩

theorem reliable_bytewise : Pieces.bytewise.Reliable := fun _ _ => ⟨_, rfl⟩

/-! ## The sending end -/

/-- What was accepted so far, and the number of calls. -/
structure Outgoing where
  sent : Bytes
  calls : Nat

/-- `send`: the number of bytes of `bs` that were accepted. -/
def send (p : Pieces) (c : Outgoing) (bs : Bytes) : Option (Piece bs.length) × Outgoing :=
  match p c.calls bs.length with
  | none => (none, ⟨c.sent, c.calls + 1⟩)
  | some k => (some k, ⟨c.sent ++ bs.take k.1, c.calls + 1⟩)

/-! ## The receiving end -/

/-- What is still to be received before the peer closes the connection, and the number of calls. -/
structure Incoming where
  pending : Bytes
  calls : Nat

/-- `recv` for at most `n` bytes; no bytes are the end of the stream. -/
def recv (p : Pieces) (c : Incoming) (n : Nat) : Option Bytes × Incoming :=
  match p c.calls (min n c.pending.length) with
  | none => (none, ⟨c.pending, c.calls + 1⟩)
  | some k => (some (c.pending.take k.1), ⟨c.pending.drop k.1, c.calls + 1⟩)

/-- What a successful `recv` took is what is no longer pending, at most `n` bytes, and not nothing
unless the stream ended. -/
theorem recv_eq_some {p : Pieces} {c c' : Incoming} {n : Nat} {bs : Bytes}
    (h : recv p c n = (some bs, c')) :
    c.pending = bs ++ c'.pending ∧ bs.length ≤ n ∧ (0 < n → c.pending ≠ [] → bs ≠ []) := by
  unfold recv at h
  split at h
  · cases h
  · next k hk =>
      obtain ⟨k, hle, hpos⟩ := k
      simp only [Prod.mk.injEq, Option.some.injEq] at h
      obtain ⟨rfl, rfl⟩ := h
      have hlength : (c.pending.take k).length = k := by
        rw [List.length_take]
        omega
      refine ⟨(List.take_append_drop k c.pending).symm, by omega, ?_⟩
      -- bytes are asked for and there are some, so the call moved at least one
      intro hn hpending hnil
      have hsome := List.length_pos_iff.2 hpending
      have hmoved := hpos (by omega)
      rw [hnil, List.length_nil] at hlength
      omega

theorem recv_eq_none {p : Pieces} {c c' : Incoming} {n : Nat} (h : recv p c n = (none, c')) :
    c'.pending = c.pending := by
  unfold recv at h
  split at h
  · cases h
    rfl
  · cases h

theorem recv_of_reliable {p : Pieces} (hp : p.Reliable) (c : Incoming) (n : Nat) :
    ∃ bs c', recv p c n = (some bs, c') := by
  obtain ⟨k, hk⟩ := hp c.calls (min n c.pending.length)
  exact ⟨_, _, by rw [recv, hk]⟩

end SpdmEmu.Wire
