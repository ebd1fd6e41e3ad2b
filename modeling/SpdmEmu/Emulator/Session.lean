import SpdmEmu.Doe.Responder
import SpdmEmu.Mctp.Message

/-!
# Vendor-defined requests at the emulated responder

`spdm_emu/spdm_responder_emu/spdm_responder_pci_doe.c` and `spdm_responder_session.c`: the four
vendor handlers the emulator registers, and the callback libspdm runs on a vendor-defined request.
The callback always returns success; an error of the dispatcher becomes an SPDM error response in
the response buffer, written by `libspdm_generate_error_response`, which is a parameter here.
-/

set_option autoImplicit false

namespace SpdmEmu.Emulator

open SpdmEmu.Wire SpdmEmu.Libspdm SpdmEmu.Doe SpdmEmu.Mctp

variable {σ : Type}

/-- The values of `m_use_transport_layer`. -/
inductive TransportLayer where
  | none
  | mctp
  | pciDoe
  | tcp
deriving DecidableEq, Repr

/-- The handlers that `pci_doe_init_responder` registers. -/
structure VendorHandlers (σ : Type) where
  pciIdeKmGetResponse : Handler σ
  pciTdispGetResponse : Handler σ
  cxlIdeKmGetResponse : Handler σ
  cxlTspGetResponse : Handler σ

/-- The registrations of `pci_doe_init_responder`, in order. -/
def VendorHandlers.registrations (V : VendorDefined) (handlers : VendorHandlers σ) :
    List (Doe.DispatchEntry σ) :=
  [⟨V.registryIdPcisig, V.vendorIdPcisig, V.protocolIdIdeKm, handlers.pciIdeKmGetResponse⟩,
    ⟨V.registryIdPcisig, V.vendorIdPcisig, V.protocolIdTdisp, handlers.pciTdispGetResponse⟩,
    ⟨V.registryIdPcisig, V.vendorIdCxl, V.cxlProtocolIdIdeKm, handlers.cxlIdeKmGetResponse⟩,
    ⟨V.registryIdPcisig, V.vendorIdCxl, V.cxlProtocolIdTsp, handlers.cxlTspGetResponse⟩]

/-- Register one entry after the other, up to the first error. -/
def registerAll (V : VendorDefined) (table : DispatchTable σ) :
    List (Doe.DispatchEntry σ) → LibspdmReturn × DispatchTable σ
  | [] => (.success, table)
  | entry :: entries =>
      let (status, table) := pciDoeRegisterVendorResponseFunc V table entry
      if status.isError then (status, table) else registerAll V table entries

/-- `pci_doe_init_responder`, on the empty table of a starting program. -/
def pciDoeInitResponder (V : VendorDefined) (handlers : VendorHandlers σ) :
    LibspdmReturn × DispatchTable σ :=
  registerAll V [] (handlers.registrations V)

/-- All four handlers get a place in the table. -/
theorem pciDoeInitResponder_eq (V : VendorDefined) (handlers : VendorHandlers σ) :
    pciDoeInitResponder V handlers = (.success, handlers.registrations V) := by
  simp [pciDoeInitResponder, VendorHandlers.registrations, registerAll,
    pciDoeRegisterVendorResponseFunc, dispatchArraySize, LibspdmReturn.isError]

/-- A TSP request is dispatched to the TSP handler. -/
theorem lookup_tsp (V : VendorDefined) (handlers : VendorHandlers σ) :
    (pciDoeInitResponder V handlers).2.lookup (V.requestIds V.vendorIdCxl) V.cxlProtocolIdTsp =
      some ⟨V.registryIdPcisig, V.vendorIdCxl, V.cxlProtocolIdTsp, handlers.cxlTspGetResponse⟩ := by
  have hvendor : V.vendorIdCxl ≠ V.vendorIdPcisig := V.vendorIdPcisig_ne_cxl.symm
  have hprotocol : V.cxlProtocolIdTsp ≠ V.cxlProtocolIdIdeKm := V.cxlProtocolIdIdeKm_ne_tsp.symm
  simp [pciDoeInitResponder_eq, DispatchTable.lookup, VendorHandlers.registrations,
    DispatchEntry.accepts, VendorDefined.requestIds, hvendor, hprotocol]

/-- What the callback of libspdm needs: the transport, the tables of the two dispatchers, and the
message `libspdm_generate_error_response` writes for `SPDM_ERROR_CODE_INVALID_REQUEST`. -/
structure SessionContext (σ : Type) where
  mUseTransportLayer : TransportLayer
  mPciDoeSpdmDispatch : DispatchTable σ
  mMctpSecuredAppDispatch : List (Mctp.DispatchEntry σ)
  errorResponse : Bytes

/-- The end of the callback: `libspdm_generate_error_response` after an error status, and success in
any case. -/
def generateErrorResponse (errorResponse : Bytes) (o : Outcome σ) : Outcome σ :=
  if o.status.isError then
    { o with
      status := .success
      response := o.response.store 0 errorResponse
      responseSize := errorResponse.length }
  else { o with status := .success }

/-- `spdm_get_response_vendor_defined_request` -/
def spdmGetResponseVendorDefinedRequest (V : VendorDefined) (M : MctpStandard)
    (c : SessionContext σ) : Respond σ := fun s session request response responseSize =>
  match c.mUseTransportLayer with
  | .pciDoe =>
      generateErrorResponse c.errorResponse
        (pciDoeGetResponseSpdmVendorDefinedRequest V c.mPciDoeSpdmDispatch s session request
          response responseSize)
  | .mctp =>
      generateErrorResponse c.errorResponse
        (mctpGetResponseSecuredAppRequest M c.mMctpSecuredAppDispatch s session request response
          responseSize)
  -- no dispatcher for the other transports
  | _ => ⟨.success, response, responseSize, s⟩

theorem message_generateErrorResponse_of_error {errorResponse : Bytes} {o : Outcome σ}
    (h : o.status.isError = true) :
    (generateErrorResponse errorResponse o).message = errorResponse := by
  simp [generateErrorResponse, h, Outcome.message]

theorem message_generateErrorResponse_of_ok {errorResponse : Bytes} {o : Outcome σ}
    (h : o.status.isError = false) :
    (generateErrorResponse errorResponse o).message = o.message := by
  simp [generateErrorResponse, h, Outcome.message]

end SpdmEmu.Emulator
