import SpdmEmu.Doe.VendorDefined

/-!
# The vendor-defined requester

`library/pci_doe_requester_lib/pci_doe_spdm_vendor_send_receive.c`. The function works in three
buffers: a request buffer and a response buffer of its own, each with room for a protocol header and
`LIBPCIDOE_SPDM_VENDOR_MAX_MESSAGE_SIZE` bytes, and the caller's response buffer. It copies
`request_size` bytes into the first and as many bytes as the peer sent into the third, so the model
keeps the memory of each buffer past its end. The local buffers are results of the model too: the
function clears them because they may hold secrets.

`libspdm_vendor_send_request_receive_response` is a parameter.
-/

set_option autoImplicit false

namespace SpdmEmu.Doe

open SpdmEmu.Wire SpdmEmu.Libspdm

variable {σ : Type}

/-- `LIBPCIDOE_SPDM_VENDOR_MAX_MESSAGE_SIZE` -/
def vendorMaxMessageSize : Nat := 0x400

/-- `sizeof(request_buffer)` and `sizeof(response_buffer)` -/
def localBufferSize (V : VendorDefined) : Nat := V.protocolHeader.size + vendorMaxMessageSize

/-- The output parameters of `libspdm_vendor_send_request_receive_response`: the vendor
identification of the response, and its payload, the first bytes of the local response buffer. -/
structure VendorAnswer where
  status : LibspdmReturn
  ids : VendorIds
  payload : Bytes
deriving DecidableEq, Repr

/-- `libspdm_vendor_send_request_receive_response`: session, vendor identification, request payload
and the incoming response payload length. -/
abbrev VendorSendReceive (σ : Type) :=
  σ → SessionId → VendorIds → Bytes → Nat → VendorAnswer × σ

/-- The stack memory that starts at each of the two local buffers. -/
structure Frame where
  requestBuffer : Mem
  responseBuffer : Mem

/-- The request buffer after the two copies, whose lengths are not compared with its size. -/
def fillRequest (V : VendorDefined) (protocolId : UInt8) (request : Bytes) (buffer : Mem) : Mem :=
  copyMem (copyMem buffer 0 V.protocolHeader.size (V.protocolHeader.encode protocolId))
    V.protocolHeader.size request.length request

/-- The payload handed to libspdm, whose length is a 32-bit value. -/
def requestPayload (V : VendorDefined) (protocolId : UInt8) (request : Bytes) (buffer : Mem) :
    Bytes :=
  (fillRequest V protocolId request buffer).load 0
    ((V.protocolHeader.size + request.length) % 2 ^ 32)

/-- The checks of an answer and the copy to the caller, and the local response buffer that they
leave. The protocol id is read before the length is checked, and `*response_size` is overwritten
before it is used. -/
def takeAnswer (V : VendorDefined) (vendorId : UInt16) (protocolId : UInt8) (answer : VendorAnswer)
    (buffer response : Mem) (responseSize : Nat) (s : σ) : Outcome σ × Mem :=
  let received := buffer.store 0 answer.payload
  if answer.status.isError then (⟨answer.status, response, responseSize, s⟩, received)
  else if answer.ids.standardId ≠ V.registryIdPcisig then
    (⟨.invalidMsgField, response, responseSize, s⟩, received)
  else if answer.ids.len ≠ vendorIdLen then
    (⟨.invalidMsgField, response, responseSize, s⟩, received)
  else if answer.ids.vendorId ≠ vendorId then
    (⟨.invalidMsgField, response, responseSize, s⟩, received)
  else if V.protocolHeader.decode (received.load 0 V.protocolHeader.size) ≠ protocolId then
    (⟨.invalidMsgField, response, responseSize, s⟩, received)
  else if answer.payload.length < V.protocolHeader.size then
    (⟨.invalidMsgField, response, responseSize, s⟩, received)
  else
    let size := answer.payload.length - V.protocolHeader.size
    (⟨.success, copyMem response 0 size (received.load V.protocolHeader.size size), size, s⟩,
      received.store 0 (List.replicate answer.payload.length 0))

/-- `pci_doe_spdm_vendor_send_receive_data_ex`: what the caller sees, and the memory of the two
local buffers. The first `sizeof(request_buffer)` bytes of the request buffer are cleared. -/
def pciDoeSpdmVendorSendReceiveDataEx (V : VendorDefined) (exchange : VendorSendReceive σ) (s : σ)
    (session : SessionId) (vendorId : UInt16) (protocolId : UInt8) (request : Bytes)
    (frame : Frame) (response : Mem) (responseSize : Nat) : Outcome σ × Frame :=
  let (answer, s) := exchange s session (V.requestIds vendorId)
    (requestPayload V protocolId request frame.requestBuffer) (localBufferSize V)
  let cleared := (fillRequest V protocolId request frame.requestBuffer).store 0
    (List.replicate (localBufferSize V) 0)
  let (outcome, responseBuffer) :=
    takeAnswer V vendorId protocolId answer frame.responseBuffer response responseSize s
  (outcome, ⟨cleared, responseBuffer⟩)

/-- `pci_doe_spdm_vendor_send_receive_data` -/
def pciDoeSpdmVendorSendReceiveData (V : VendorDefined) (exchange : VendorSendReceive σ) (s : σ)
    (session : SessionId) (protocolId : UInt8) (request : Bytes) (frame : Frame) (response : Mem)
    (responseSize : Nat) : Outcome σ × Frame :=
  pciDoeSpdmVendorSendReceiveDataEx V exchange s session V.vendorIdPcisig protocolId request frame
    response responseSize

/-! ## The request side -/

variable {V : VendorDefined}

theorem fillRequest_eq (protocolId : UInt8) (request : Bytes) (buffer : Mem) :
    fillRequest V protocolId request buffer =
      buffer.store 0 (V.protocolHeader.encode protocolId ++ request) := by
  have happend := buffer.store_append 0 (V.protocolHeader.encode protocolId) request
  rw [V.protocolHeader.length_encode, Nat.zero_add] at happend
  rw [fillRequest, copyMem_of_le _ _ (le_refl _),
    copyMem_of_le _ _ (V.protocolHeader.length_encode protocolId).le, happend]

/-- What libspdm is handed does not depend on what the stack held. -/
theorem requestPayload_eq (protocolId : UInt8) (request : Bytes) (buffer : Mem) :
    requestPayload V protocolId request buffer =
      (V.protocolHeader.encode protocolId ++ request).take
        ((V.protocolHeader.size + request.length) % 2 ^ 32) := by
  rw [requestPayload, fillRequest_eq, Mem.load_store_take]
  rw [List.length_append, V.protocolHeader.length_encode]
  exact Nat.mod_le _ _

theorem requestPayload_of_le {protocolId : UInt8} {request : Bytes} {buffer : Mem}
    (h : request.length ≤ vendorMaxMessageSize) :
    requestPayload V protocolId request buffer = V.protocolHeader.encode protocolId ++ request := by
  have hsize := V.size_protocolHeader
  have hmax : vendorMaxMessageSize = 1024 := rfl
  rw [requestPayload_eq, Nat.mod_eq_of_lt (by omega)]
  apply List.take_of_length_le
  simp

/-! ## The response side -/

/-- The answer passes every check before the copy. -/
def Accepted (V : VendorDefined) (vendorId : UInt16) (protocolId : UInt8) (answer : VendorAnswer) :
    Prop :=
  answer.status.isError = false ∧ answer.ids = V.requestIds vendorId ∧
    V.protocolHeader.size ≤ answer.payload.length ∧
      V.protocolHeader.decode (answer.payload.take V.protocolHeader.size) = protocolId

instance (V : VendorDefined) (vendorId : UInt16) (protocolId : UInt8) (answer : VendorAnswer) :
    Decidable (Accepted V vendorId protocolId answer) :=
  inferInstanceAs (Decidable (_ ∧ _))

theorem not_accepted_of_error {vendorId : UInt16} {protocolId : UInt8} {answer : VendorAnswer}
    (herror : answer.status.isError = true) : ¬ Accepted V vendorId protocolId answer := by
  rintro ⟨hok, -⟩
  rw [herror] at hok
  cases hok

/-- The number of bytes an accepted answer makes the function write to the caller. -/
def receivedSize (V : VendorDefined) (answer : VendorAnswer) : Nat :=
  answer.payload.length - V.protocolHeader.size

theorem takeAnswer_of_accepted {vendorId : UInt16} {protocolId : UInt8} {answer : VendorAnswer}
    (h : Accepted V vendorId protocolId answer) (buffer response : Mem) (responseSize : Nat)
    (s : σ) :
    takeAnswer V vendorId protocolId answer buffer response responseSize s =
      (⟨.success, response.store 0 (answer.payload.drop V.protocolHeader.size),
          receivedSize V answer, s⟩,
        (buffer.store 0 answer.payload).store 0 (List.replicate answer.payload.length 0)) := by
  obtain ⟨hstatus, hids, hlength, hprotocol⟩ := h
  have hshort : ¬ answer.payload.length < V.protocolHeader.size := by omega
  have hread : (buffer.store 0 answer.payload).load V.protocolHeader.size
      (answer.payload.length - V.protocolHeader.size) =
        answer.payload.drop V.protocolHeader.size :=
    Mem.load_store_drop _ _ hlength
  simp only [takeAnswer, hstatus, hids, VendorDefined.requestIds, Mem.load_store_take _ _ hlength,
    hprotocol, hread]
  simp [hshort, receivedSize, copyMem]

/-- An answer that fails a check leaves the caller's buffer and size alone and is reported; what was
received stays in the local buffer. -/
theorem takeAnswer_of_not_accepted {vendorId : UInt16} {protocolId : UInt8} {answer : VendorAnswer}
    (h : ¬ Accepted V vendorId protocolId answer) (buffer response : Mem) (responseSize : Nat)
    (s : σ) :
    ∃ status : LibspdmReturn, status.isError = true ∧
      takeAnswer V vendorId protocolId answer buffer response responseSize s =
        (⟨status, response, responseSize, s⟩, buffer.store 0 answer.payload) := by
  by_cases hstatus : answer.status.isError = true
  · exact ⟨answer.status, hstatus, by simp [takeAnswer, hstatus]⟩
  · refine ⟨.invalidMsgField, rfl, ?_⟩
    simp only [takeAnswer, if_neg hstatus]
    -- the checks in the order of the source, each of which ends with the same status
    by_cases hstd : answer.ids.standardId = V.registryIdPcisig
    · by_cases hlen : answer.ids.len = vendorIdLen
      · by_cases hvendor : answer.ids.vendorId = vendorId
        · by_cases hshort : answer.payload.length < V.protocolHeader.size
          · simp [hstd, hlen, hvendor, hshort]
          · have hlength : V.protocolHeader.size ≤ answer.payload.length := by omega
            -- what is left to fail is the protocol id, read from a payload that has one
            have hprotocol : V.protocolHeader.decode
                (answer.payload.take V.protocolHeader.size) ≠ protocolId := by
              intro hp
              refine h ⟨by simpa using hstatus, ?_, hlength, hp⟩
              rw [VendorDefined.requestIds, ← hstd, ← hlen, ← hvendor]
            simp [hstd, hlen, hvendor, Mem.load_store_take _ _ hlength, hprotocol]
        · simp [hstd, hlen, hvendor]
      · simp [hstd, hlen]
    · simp [hstd]

end SpdmEmu.Doe
