import SpdmEmu.Wire.Memory

/-!
# The libspdm interface

The emulator is written against libspdm, which is not part of the repository. This module holds what
its code uses of it everywhere: the status type, the memory copy, and the two shapes in which a
message crosses a function boundary, the answer of a responder handler and the result of a
requester's exchange.
-/

set_option autoImplicit false

namespace SpdmEmu.Libspdm

open SpdmEmu.Wire

/-- `libspdm_return_t`: the named statuses the source returns, and any other 32-bit value. -/
inductive LibspdmReturn where
  | success
  | invalidParameter
  | unsupportedCap
  | invalidMsgField
  | invalidMsgSize
  | bufferFull
  | bufferTooSmall
  | invalidStatePeer
  | errorPeer
  | raw (code : UInt32)
deriving DecidableEq, Repr

/-- `LIBSPDM_STATUS_IS_ERROR`: severity 8 in the bits 31:28. The named statuses other than success
have it. -/
def LibspdmReturn.isError : LibspdmReturn → Bool
  | .success => false
  | .raw code => code >>> 28 == 8
  | _ => true

/-- `const uint32_t *session_id`: `none` is the null pointer of an unsecured message. -/
abbrev SessionId := Option UInt32

/-- What a responder handler leaves behind: its status and, when it wrote a message, the bytes of
that message. `some m` stands for `*response_size = |m|` with `m` in the first `|m|` bytes of the
response buffer, `none` for a buffer and a `*response_size` that the handler did not touch. -/
structure Reply where
  status : LibspdmReturn
  written : Option Bytes
deriving DecidableEq, Repr

/-- A responder handler with state `σ`, called with the session and the request bytes. -/
abbrev Handler (σ : Type) := σ → SessionId → Bytes → Reply × σ

/-- The response buffer after a handler that was given the memory at `off`. -/
def Reply.buffer (reply : Reply) (m : Mem) (off : Nat) : Mem :=
  match reply.written with
  | none => m
  | some bytes => m.store off bytes

/-- `*response_size` after a handler that was given `room` bytes. -/
def Reply.size (reply : Reply) (room : Nat) : Nat :=
  match reply.written with
  | none => room
  | some bytes => bytes.length

/-- What a function with a response buffer leaves behind: the status, the memory of the buffer and
`*response_size`. -/
structure Outcome (σ : Type) where
  status : LibspdmReturn
  response : Mem
  responseSize : Nat
  state : σ

/-- The message in the buffer. -/
def Outcome.message {σ : Type} (o : Outcome σ) : Bytes := o.response.load 0 o.responseSize

/-- A responder's entry point: session, request, response buffer and its size. -/
abbrev Respond (σ : Type) := σ → SessionId → Bytes → Mem → Nat → Outcome σ

/-- The result of a requester's exchange: the status and the response bytes, whose number is the new
`*response_size`. After an error status the response is empty. -/
structure Exchange where
  status : LibspdmReturn
  response : Bytes
deriving DecidableEq, Repr

/-- An exchange over some link with state `σ`: the request bytes and the incoming `*response_size`
give a result. -/
abbrev SendReceive (σ : Type) := σ → Bytes → Nat → Exchange × σ

/-- The arguments of one exchange: the state of the link, the request, and the size of the response
object. -/
structure Call (σ : Type) where
  state : σ
  request : Bytes
  capacity : Nat

/-- The exchange with the arguments of a call. -/
def SendReceive.call {σ : Type} (sendReceive : SendReceive σ) (c : Call σ) : Exchange × σ :=
  sendReceive c.state c.request c.capacity

/-- The same link with a record of the exchanges made over it. -/
def SendReceive.recorded {σ : Type} (sendReceive : SendReceive σ) :
    SendReceive (σ × List (Call σ)) := fun s request capacity =>
  let (exchange, link) := sendReceive s.1 request capacity
  (exchange, (link, s.2 ++ [⟨s.1, request, capacity⟩]))

/-- The exchange with a responder over a transport that delivers messages unchanged: a message that
fits the caller's buffer arrives, and an error status reaches the requester. -/
def directLink {σ : Type} (respond : σ → Bytes → Reply × σ) : SendReceive σ :=
  fun s request capacity =>
    let (reply, s) := respond s request
    match reply.written with
    | none => (⟨reply.status, []⟩, s)
    | some m =>
        if reply.status.isError then (⟨reply.status, []⟩, s)
        else if capacity < m.length then (⟨.bufferTooSmall, []⟩, s)
        else (⟨reply.status, m⟩, s)

/-- An object with room for a body of `room` bytes has room for bodies of these sizes. -/
def RoomFor (room : Nat) (sizes : List Nat) : Prop := ∀ size ∈ sizes, size ≤ room

/-- A message with such a body fits as well. -/
theorem RoomFor.add_le {room : Nat} {sizes : List Nat} (h : RoomFor room sizes) {size : Nat}
    (hmem : size ∈ sizes) (header : Nat) : header + size ≤ header + room :=
  Nat.add_le_add_left (h size hmem) header

theorem directLink_of_written {σ : Type} {respond : σ → Bytes → Reply × σ} {s s' : σ}
    {request m : Bytes} {capacity : Nat} (h : respond s request = (⟨.success, some m⟩, s'))
    (hfits : m.length ≤ capacity) :
    directLink respond s request capacity = (⟨.success, m⟩, s') := by
  have hroom : ¬ capacity < m.length := by omega
  simp [directLink, h, LibspdmReturn.isError, hroom]

/-- An error status reaches the requester without a message. -/
theorem directLink_of_error {σ : Type} {respond : σ → Bytes → Reply × σ} {s : σ} {request : Bytes}
    (h : (respond s request).1.status.isError = true) (capacity : Nat) :
    directLink respond s request capacity =
      (⟨(respond s request).1.status, []⟩, (respond s request).2) := by
  simp only [directLink]
  split
  · rfl
  · rw [if_pos h]

/-- The link hands the state of the responder on, whatever it delivers. -/
theorem directLink_snd {σ : Type} (respond : σ → Bytes → Reply × σ) (s : σ) (request : Bytes)
    (capacity : Nat) : (directLink respond s request capacity).2 = (respond s request).2 := by
  simp only [directLink]
  repeat' split
  all_goals rfl

/-- What arrives depends on the reply alone. -/
theorem directLink_fst_congr {σ τ : Type} {respond : σ → Bytes → Reply × σ}
    {respond' : τ → Bytes → Reply × τ} {s : σ} {t : τ} {request : Bytes}
    (h : (respond' t request).1 = (respond s request).1) (capacity : Nat) :
    (directLink respond' t request capacity).1 = (directLink respond s request capacity).1 := by
  simp only [directLink, h]
  repeat' split
  all_goals rfl

/-- A response that arrives is what the responder wrote, with a status that is no error. -/
theorem response_of_directLink {σ : Type} {respond : σ → Bytes → Reply × σ} {s s' : σ}
    {request : Bytes} {capacity : Nat} {x : Exchange}
    (h : directLink respond s request capacity = (x, s')) (hx : x.status.isError = false) :
    (respond s request).1.status.isError = false ∧
      x.response = (respond s request).1.written.getD [] := by
  rcases hrespond : respond s request with ⟨⟨status, written⟩, after⟩
  simp only [directLink, hrespond] at h
  cases written with
  | none =>
      cases h
      exact ⟨hx, rfl⟩
  | some m =>
      dsimp only at h
      split_ifs at h with herror hroom
      · cases h
        exact absurd herror (by simp [hx])
      · cases h
        cases hx
      · cases h
        exact ⟨hx, rfl⟩

/-- A dispatch table with distinct codes finds each of its entries by the code of the entry. -/
theorem find_of_injective {ι κ : Type} [BEq κ] [LawfulBEq κ] {code : ι → κ}
    (hcode : Function.Injective code) {table : List ι} {r : ι} (hr : r ∈ table) :
    table.find? (fun r' => code r == code r') = some r := by
  induction table with
  | nil => cases hr
  | cons head tail ih =>
      rw [List.find?_cons]
      by_cases hhead : code r = code head
      · simp [hcode hhead]
      · rcases List.mem_cons.1 hr with rfl | htail
        · exact absurd rfl hhead
        · rw [beq_eq_false_iff_ne.2 hhead]
          exact ih htail

/-- A `uint8_t` counter below 255 counts on without a wrap. -/
theorem toNat_add_one_of_lt {counter : UInt8} (h : counter.toNat + 1 < 256) :
    (counter + 1).toNat = counter.toNat + 1 := by
  rw [UInt8.toNat_add]
  exact Nat.mod_eq_of_lt h

/-- `libspdm_copy_mem (dst, dst_len, src, src_len)`: a source longer than the destination is not
copied, the destination is zeroed instead. -/
def copyMem (m : Mem) (off dstLen : Nat) (src : Bytes) : Mem :=
  if src.length ≤ dstLen then m.store off src else m.store off (List.replicate dstLen 0)

theorem copyMem_of_le (m : Mem) (off : Nat) {dstLen : Nat} {src : Bytes}
    (h : src.length ≤ dstLen) : copyMem m off dstLen src = m.store off src :=
  if_pos h

end SpdmEmu.Libspdm
