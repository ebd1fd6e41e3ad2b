import SpdmEmu.Doe.Responder

/-!
# The payload length of a vendor response

A reader of a vendor response takes the form from the SPDM header, the payload length from the field
of that form, and as many bytes behind the protocol header as the length says. The dispatcher writes
the length of either form as a 16-bit value, also into the 32-bit field of the large form: what a
reader finds is what the handler returned exactly when the payload is below 64 KiB.
-/

set_option autoImplicit false

namespace SpdmEmu.Doe

open SpdmEmu.Wire SpdmEmu.Libspdm

variable {σ : Type}

/-- The form of the response that starts with a header. -/
def VendorDefined.responseFormOf (V : VendorDefined) (h : SpdmHeader) : Form :=
  if h.spdmVersion ≥ V.messageVersion14 ∧ h.param1 &&& V.vendorDefinedResponseLargeResp ≠ 0 then
    .large
  else .normal

/-- The payload length of a response, read by its own header. -/
def responsePayloadLength (V : VendorDefined) (m : Bytes) : Nat :=
  V.readLength (V.responseFormOf (V.spdmHeader.decode m)) (m.drop V.lengthOffset)

/-- The bytes of the protocol message in a response, read by its own header. -/
def responsePayload (V : VendorDefined) (m : Bytes) : Bytes :=
  (m.drop (V.headerSize (V.responseFormOf (V.spdmHeader.decode m)))).take
    (responsePayloadLength V m - V.protocolHeader.size)

/-! ## The form -/

theorem version_of_large {V : VendorDefined} {request : Bytes} {r : VendorRequest}
    (hparse : parseRequest V request = .ok r) (hlarge : r.form = .large) :
    r.spdmVersion ≥ V.messageVersion14 := by
  simp only [parseRequest, ne_eq, ite_not] at hparse
  -- one goal for each check; all but the last have an error
  repeat' split at hparse
  all_goals cases hparse
  simp only [VendorDefined.formOf] at hlarge
  split at hlarge
  · next h => exact h.1
  · cases hlarge

/-- The response has the form of the request. -/
theorem responseFormOf_responseSpdmHeader {V : VendorDefined} {request : Bytes} {r : VendorRequest}
    (hflag : V.vendorDefinedResponseLargeResp ≠ 0) (hparse : parseRequest V request = .ok r) :
    V.responseFormOf (responseSpdmHeader V r) = r.form := by
  unfold VendorDefined.responseFormOf responseSpdmHeader
  cases hform : r.form with
  | normal => simp
  | large =>
      apply if_pos
      refine ⟨version_of_large hparse hform, ?_⟩
      simpa using hflag

/-! ## The length and the payload -/

section Reading

variable {V : VendorDefined} {r : VendorRequest}
  (hform : V.responseFormOf (responseSpdmHeader V r) = r.form)

include hform

theorem responsePayloadLength_eq (n : Nat) (payload : Bytes) :
    responsePayloadLength V (responseHeader V r n ++ payload) =
      (V.protocolHeader.size + n) % 2 ^ 16 := by
  rw [responsePayloadLength, responseHeader, List.append_assoc,
    V.decode_spdmHeader_vendorHeader, hform, V.readLength_vendorHeader]
  exact UInt16.toNat_ofNat'

theorem responsePayload_eq (n : Nat) (payload : Bytes) :
    responsePayload V (responseHeader V r n ++ payload) =
      payload.take ((V.protocolHeader.size + n) % 2 ^ 16 - V.protocolHeader.size) := by
  have hheader : V.spdmHeader.decode (responseHeader V r n ++ payload) =
      responseSpdmHeader V r := by
    rw [responseHeader, List.append_assoc]
    exact V.decode_spdmHeader_vendorHeader _ _ _ _ _
  rw [responsePayload, responsePayloadLength_eq hform, hheader, hform,
    ← length_responseHeader V r n, List.drop_left]

end Reading

/-- **A vendor response encodes the length of what the handler returned, and is read back as that,
exactly when the payload is below `2 ^ 16` bytes**, in the normal and in the large form. Whatever
the table, the handler, its reply and the buffer; a handler that writes nothing leaves the bytes of
the buffer as its response. -/
theorem response_length_iff (V : VendorDefined) (hflag : V.vendorDefinedResponseLargeResp ≠ 0)
    (table : DispatchTable σ) (s : σ) (session : SessionId) (request : Bytes) (r : VendorRequest)
    (entry : DispatchEntry σ) (hparse : parseRequest V request = .ok r)
    (hfound : table.lookup r.ids r.protocolId = some entry)
    (hok : (entry.func s session r.body).1.status.isError = false)
    (response : Mem) (responseSize : Nat) :
    let reply := (entry.func s session r.body).1
    let n := reply.size (responseSize - V.headerSize r.form)
    let m := (pciDoeGetResponseSpdmVendorDefinedRequest V table s session request response
      responseSize).message
    (responsePayloadLength V m = V.protocolHeader.size + n ∧
      responsePayload V m =
        (reply.buffer response (V.headerSize r.form)).load (V.headerSize r.form) n) ↔
      V.protocolHeader.size + n < 2 ^ 16 := by
  intro reply n m
  have hform := responseFormOf_responseSpdmHeader hflag hparse
  have hm : m = responseHeader V r n ++
      (reply.buffer response (V.headerSize r.form)).load (V.headerSize r.form) n :=
    message_of_ok hparse hfound rfl hok response responseSize
  rw [hm, responsePayloadLength_eq hform, responsePayload_eq hform]
  constructor
  · rintro ⟨hlength, -⟩
    rw [← hlength]
    exact Nat.mod_lt _ (by decide)
  · intro hlt
    rw [Nat.mod_eq_of_lt hlt]
    refine ⟨rfl, List.take_of_length_le ?_⟩
    rw [Mem.length_load]
    omega

/-- A request in the large form to protocol 1 of the PCI-SIG. -/
private def largeRequest : VendorRequest where
  form := .large
  spdmVersion := 0x14
  ids := VendorDefined.sample.requestIds 1
  protocolId := 1
  body := []

/-- Its message. -/
private def largeMessage : Bytes :=
  requestMessage VendorDefined.sample ⟨0x14, 0xFE, 0x80, 0⟩ 1 1 []

private theorem parse_largeMessage :
    parseRequest VendorDefined.sample largeMessage = .ok largeRequest := by
  decide

/-- A table whose one handler returns `n` zero bytes. -/
private def zerosEntry (n : Nat) : DispatchEntry Unit where
  standardId := 3
  vendorId := 1
  protocolId := 1
  func s _ _ := (⟨.success, some (List.replicate n 0)⟩, s)

private theorem lookup_zerosEntry (n : Nat) :
    DispatchTable.lookup [zerosEntry n] largeRequest.ids largeRequest.protocolId =
      some (zerosEntry n) :=
  rfl

theorem response_length_sample :
    let m := (pciDoeGetResponseSpdmVendorDefinedRequest VendorDefined.sample [zerosEntry 4] ()
      none largeMessage (fun _ => 0) 64).message
    (responsePayloadLength VendorDefined.sample m = 1 + 4 ∧
      responsePayload VendorDefined.sample m =
        (((zerosEntry 4).func () none largeRequest.body).1.buffer (fun _ => 0)
          (VendorDefined.sample.headerSize .large)).load
          (VendorDefined.sample.headerSize .large) 4) ↔ 1 + 4 < 2 ^ 16 :=
  response_length_iff VendorDefined.sample (by decide) [zerosEntry 4] () none largeMessage
    largeRequest (zerosEntry 4) parse_largeMessage (lookup_zerosEntry 4) rfl (fun _ => 0) 64

/-- A handler returns `0xFFFF` bytes to a request in the large form: with the protocol header the
payload has `0x10000` bytes, and the payload length of the response is zero. -/
theorem large_response_truncated :
    let m := (pciDoeGetResponseSpdmVendorDefinedRequest VendorDefined.sample [zerosEntry 0xFFFF] ()
      none largeMessage (fun _ => 0) 0x20000).message
    responsePayloadLength VendorDefined.sample m = 0 ∧
      responsePayload VendorDefined.sample m = [] := by
  intro m
  have hform := responseFormOf_responseSpdmHeader (by decide) parse_largeMessage
  have hm : m = _ := message_of_ok parse_largeMessage (lookup_zerosEntry 0xFFFF) rfl rfl
    (fun _ => 0) 0x20000
  have hsize : ∀ room, (⟨.success, some (List.replicate 0xFFFF 0)⟩ : Reply).size room = 0xFFFF :=
    fun _ => List.length_replicate
  have hlength : (VendorDefined.sample.protocolHeader.size + 0xFFFF) % 2 ^ 16 = 0 := by decide
  rw [hsize] at hm
  rw [hm, responsePayloadLength_eq hform, responsePayload_eq hform, hlength]
  exact ⟨rfl, List.take_zero⟩

end SpdmEmu.Doe
