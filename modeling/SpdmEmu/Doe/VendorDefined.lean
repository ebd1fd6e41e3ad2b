import SpdmEmu.Libspdm.Status

/-!
# Vendor-defined SPDM messages over PCI DOE

What the vendor-defined requester and responder take from the headers `spdm.h` and `pcidoe.h`, which
the repository does not contain. A message is an SPDM header, the vendor identification, a payload
length and the payload, and the payload starts with a protocol header that names the protocol. The
normal form has a 16-bit payload length; the large form, of SPDM 1.4, has a 32-bit one. The two
forms agree up to the payload length, which is why the responder reads the vendor identification of
a large message through the structure of a normal one. Requests and responses have the same layout.
-/

set_option autoImplicit false

namespace SpdmEmu.Doe

open SpdmEmu.Wire SpdmEmu.Libspdm

/-- `spdm_message_header_t` -/
structure SpdmHeader where
  spdmVersion : UInt8
  requestResponseCode : UInt8
  param1 : UInt8
  param2 : UInt8
deriving DecidableEq, Repr

/-- The fields `standard_id`, `len` and `vendor_id` of `pci_doe_vendor_header`. -/
structure VendorIds where
  standardId : UInt16
  len : UInt8
  vendorId : UInt16
deriving DecidableEq, Repr

/-- The form of a vendor-defined message, `use_large_payload`. -/
inductive Form where
  | normal
  | large
deriving DecidableEq, Repr

/-- `sizeof(vendor_id)` -/
def vendorIdLen : UInt8 := 2

/-- `industry_standard/spdm.h` and `industry_standard/pcidoe.h`. `SPDM_REGISTRY_ID_PCISIG` of the
responder and `SPDM_STANDARD_ID_PCISIG` of the requester name one number. -/
structure VendorDefined where
  messageVersion14 : UInt8
  vendorDefinedRequest : UInt8
  vendorDefinedResponse : UInt8
  /-- `SPDM_ERROR` -/
  error : UInt8
  vendorDefinedRequestLargeReq : UInt8
  vendorDefinedResponseLargeResp : UInt8
  registryIdPcisig : UInt16
  vendorIdPcisig : UInt16
  vendorIdCxl : UInt16
  protocolIdIdeKm : UInt8
  protocolIdTdisp : UInt8
  cxlProtocolIdIdeKm : UInt8
  cxlProtocolIdTsp : UInt8
  spdmHeader : Packed SpdmHeader
  vendorIds : Packed VendorIds
  payloadLength : Packed UInt16
  payloadLengthLarge : Packed UInt32
  /-- `pci_protocol_header_t`, the protocol id -/
  protocolHeader : Packed UInt8
  size_protocolHeader : protocolHeader.size = 1
  vendorDefinedResponse_ne_error : vendorDefinedResponse ≠ error
  protocolIdIdeKm_ne_tdisp : protocolIdIdeKm ≠ protocolIdTdisp
  cxlProtocolIdIdeKm_ne_tsp : cxlProtocolIdIdeKm ≠ cxlProtocolIdTsp
  vendorIdPcisig_ne_cxl : vendorIdPcisig ≠ vendorIdCxl

namespace VendorDefined

variable (V : VendorDefined)

/-- The vendor identification of a message of the PCI-SIG registry. -/
def requestIds (vendorId : UInt16) : VendorIds := ⟨V.registryIdPcisig, vendorIdLen, vendorId⟩

/-- The form of the message that starts with a header. -/
def formOf (h : SpdmHeader) : Form :=
  if h.spdmVersion ≥ V.messageVersion14 ∧ h.param1 &&& V.vendorDefinedRequestLargeReq ≠ 0 then
    .large
  else .normal

/-- The size of the payload length field. -/
def lengthSize : Form → Nat
  | .normal => V.payloadLength.size
  | .large => V.payloadLengthLarge.size

/-- The payload length field at the start of `bs`. -/
def readLength (form : Form) (bs : Bytes) : Nat :=
  match form with
  | .normal => (V.payloadLength.decode bs).toNat
  | .large => (V.payloadLengthLarge.decode bs).toNat

/-- The payload length field that holds a 16-bit value. -/
def writeLength (form : Form) (length : UInt16) : Bytes :=
  match form with
  | .normal => V.payloadLength.encode length
  | .large => V.payloadLengthLarge.encode length.toUInt32

@[simp] theorem length_writeLength (form : Form) (length : UInt16) :
    (V.writeLength form length).length = V.lengthSize form := by
  cases form <;> simp [writeLength, lengthSize]

@[simp] theorem readLength_writeLength (form : Form) (length : UInt16) (rest : Bytes) :
    V.readLength form (V.writeLength form length ++ rest) = length.toNat := by
  cases form <;> simp [readLength, writeLength]

/-- The offset of the payload length. -/
def lengthOffset : Nat := V.spdmHeader.size + V.vendorIds.size

/-- The offset of the payload, the part of the header libspdm adds and removes. -/
def payloadOffset (form : Form) : Nat := V.lengthOffset + V.lengthSize form

/-- `sizeof(pci_doe_spdm_vendor_defined_request_t)` and its large and response siblings. -/
def headerSize (form : Form) : Nat := V.payloadOffset form + V.protocolHeader.size

/-- The SPDM vendor header of a message. -/
def vendorHeader (form : Form) (h : SpdmHeader) (ids : VendorIds) (length : UInt16) : Bytes :=
  V.spdmHeader.encode h ++ (V.vendorIds.encode ids ++ V.writeLength form length)

@[simp] theorem length_vendorHeader (form : Form) (h : SpdmHeader) (ids : VendorIds)
    (length : UInt16) : (V.vendorHeader form h ids length).length = V.payloadOffset form := by
  simp [vendorHeader, payloadOffset, lengthOffset, Nat.add_assoc]

section Reading

variable (form : Form) (h : SpdmHeader) (ids : VendorIds) (length : UInt16) (rest : Bytes)

@[simp] theorem decode_spdmHeader_vendorHeader :
    V.spdmHeader.decode (V.vendorHeader form h ids length ++ rest) = h := by
  simp [vendorHeader]

@[simp] theorem decode_vendorIds_vendorHeader :
    V.vendorIds.decode ((V.vendorHeader form h ids length ++ rest).drop V.spdmHeader.size) =
      ids := by
  simp [vendorHeader]

@[simp] theorem readLength_vendorHeader :
    V.readLength form ((V.vendorHeader form h ids length ++ rest).drop V.lengthOffset) =
      length.toNat := by
  simp [vendorHeader, lengthOffset, ← List.drop_drop]

@[simp] theorem drop_vendorHeader :
    (V.vendorHeader form h ids length ++ rest).drop (V.payloadOffset form) = rest := by
  rw [← V.length_vendorHeader form h ids length, List.drop_left]

end Reading

/-- Concrete codes and layouts, on which statements can be evaluated. -/
def sample : VendorDefined where
  messageVersion14 := 0x14
  vendorDefinedRequest := 0xFE
  vendorDefinedResponse := 0x7E
  error := 0x7F
  vendorDefinedRequestLargeReq := 0x80
  vendorDefinedResponseLargeResp := 0x80
  registryIdPcisig := 3
  vendorIdPcisig := 1
  vendorIdCxl := 0x1E98
  protocolIdIdeKm := 0
  protocolIdTdisp := 1
  cxlProtocolIdIdeKm := 0
  cxlProtocolIdTsp := 1
  spdmHeader := (Packed.u8.pair (Packed.u8.pair (Packed.u8.pair Packed.u8))).view
    (fun x => ⟨x.1, x.2.1, x.2.2.1, x.2.2.2⟩)
    (fun h => (h.spdmVersion, h.requestResponseCode, h.param1, h.param2)) (fun _ => rfl)
  vendorIds := (Packed.u16.pair (Packed.u8.pair Packed.u16)).view
    (fun x => ⟨x.1, x.2.1, x.2.2⟩) (fun i => (i.standardId, i.len, i.vendorId)) (fun _ => rfl)
  payloadLength := Packed.u16
  payloadLengthLarge := ((Packed.reserved 2).pair Packed.u32).view (fun x => x.2) (fun n => ((), n))
    (fun _ => rfl)
  protocolHeader := Packed.u8
  size_protocolHeader := rfl
  vendorDefinedResponse_ne_error := by decide
  protocolIdIdeKm_ne_tdisp := by decide
  cxlProtocolIdIdeKm_ne_tsp := by decide
  vendorIdPcisig_ne_cxl := by decide

end VendorDefined

end SpdmEmu.Doe
