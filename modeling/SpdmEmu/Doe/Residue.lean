import SpdmEmu.Doe.Requester

/-!
# What the vendor-defined requester leaves on its stack

`pci_doe_spdm_vendor_send_receive_data_ex` clears its two buffers because they may hold secrets. The
request buffer is cleared right after the exchange. The response buffer is cleared at the end of the
function only, so each check of the response that fails leaves what was received where it is.

`vendor_residue_iff` says when the received bytes are gone.
-/

set_option autoImplicit false

namespace SpdmEmu.Doe

open SpdmEmu.Wire SpdmEmu.Libspdm

variable {σ : Type} {V : VendorDefined}

/-- The buffer is cleared exactly if the answer is accepted. -/
theorem takeAnswer_snd (vendorId : UInt16) (protocolId : UInt8) (answer : VendorAnswer)
    (buffer response : Mem) (responseSize : Nat) (s : σ) :
    (takeAnswer V vendorId protocolId answer buffer response responseSize s).2 =
      if Accepted V vendorId protocolId answer then
        (buffer.store 0 answer.payload).store 0 (List.replicate answer.payload.length 0)
      else buffer.store 0 answer.payload := by
  by_cases h : Accepted V vendorId protocolId answer
  · rw [takeAnswer_of_accepted h, if_pos h]
  · obtain ⟨status, -, htake⟩ := takeAnswer_of_not_accepted h buffer response responseSize s
    rw [htake, if_neg h]

theorem store_replicate_zero (m : Mem) {n i : Nat} (h : i < n) :
    m.store 0 (List.replicate n 0) i = 0 := by
  have hi : i < (List.replicate n (0 : UInt8)).length := by simpa using h
  have hget : m.store 0 (List.replicate n 0) (0 + i) = (List.replicate n 0)[i] := m.store_at _ hi
  simpa using hget

/-- The received bytes are as they were received, unless the answer was accepted. -/
theorem received_cleared_iff (vendorId : UInt16) (protocolId : UInt8) (answer : VendorAnswer)
    (buffer response : Mem) (responseSize : Nat) (s : σ) :
    (∀ i < answer.payload.length,
      (takeAnswer V vendorId protocolId answer buffer response responseSize s).2 i = 0) ↔
      Accepted V vendorId protocolId answer ∨ ∀ b ∈ answer.payload, b = 0 := by
  rw [takeAnswer_snd]
  by_cases h : Accepted V vendorId protocolId answer
  · rw [if_pos h]
    exact ⟨fun _ => .inl h, fun _ i hi => store_replicate_zero _ hi⟩
  · rw [if_neg h]
    have hat : ∀ i (hi : i < answer.payload.length),
        buffer.store 0 answer.payload i = answer.payload[i] := by
      intro i hi
      have hget : buffer.store 0 answer.payload (0 + i) = answer.payload[i] := buffer.store_at _ hi
      rwa [Nat.zero_add] at hget
    constructor
    · intro hzero
      refine .inr fun b hb => ?_
      obtain ⟨i, hi, rfl⟩ := List.getElem_of_mem hb
      rw [← hat i hi]
      exact hzero i hi
    · rintro (haccepted | hzero) i hi
      · exact absurd haccepted h
      · rw [hat i hi]
        exact hzero _ (List.getElem_mem hi)

/-- **Residue of a vendor exchange.** On every path the request buffer is zero. The received bytes
are gone from the response buffer exactly if the answer passes all checks, or if they were zero. -/
theorem vendor_residue_iff (V : VendorDefined) (exchange : VendorSendReceive σ) (s : σ)
    (session : SessionId) (vendorId : UInt16) (protocolId : UInt8) (request : Bytes) (frame : Frame)
    (response : Mem) (responseSize : Nat) :
    let answer := (exchange s session (V.requestIds vendorId)
      (requestPayload V protocolId request frame.requestBuffer) (localBufferSize V)).1
    let result := pciDoeSpdmVendorSendReceiveDataEx V exchange s session vendorId protocolId
      request frame response responseSize
    (∀ i < localBufferSize V, result.2.requestBuffer i = 0) ∧
    ((∀ i < answer.payload.length, result.2.responseBuffer i = 0) ↔
      Accepted V vendorId protocolId answer ∨ ∀ b ∈ answer.payload, b = 0) := by
  intro answer result
  exact ⟨fun i hi => store_replicate_zero _ hi, received_cleared_iff _ _ _ _ _ _ _⟩

/-- A peer that answers with another vendor id, and a payload. -/
def otherVendorExchange : VendorSendReceive Unit := fun _ _ _ _ _ =>
  (⟨.success, VendorDefined.sample.requestIds 2, [1, 0xAA, 0xBB]⟩, ())

/-- **A rejected response stays in the buffer.** -/
theorem rejected_response_remains :
    let result := pciDoeSpdmVendorSendReceiveDataEx .sample otherVendorExchange () none 1 1 []
      ⟨fun _ => 0, fun _ => 0⟩ (fun _ => 0) 16
    result.1.status = .invalidMsgField ∧ result.2.responseBuffer 1 = 0xAA ∧
      result.2.responseBuffer 2 = 0xBB := by
  decide +kernel

end SpdmEmu.Doe
