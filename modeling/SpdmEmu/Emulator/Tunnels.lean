import SpdmEmu.Doe.Tunnel
import SpdmEmu.Emulator.Session
import SpdmEmu.Mctp.Tunnel

/-!
# The tunnels of the emulator

The vendor tunnel over PCI DOE with the handlers the emulator registers, and the MCTP tunnel with
its PLDM handler. A call through either is a call of the handler.
-/

set_option autoImplicit false

namespace SpdmEmu.Emulator

open SpdmEmu.Wire SpdmEmu.Libspdm SpdmEmu.Doe SpdmEmu.Mctp

variable {σ : Type}

/-- The start-up of the emulator registers each vendor and protocol once. -/
theorem wellRegistered_pciDoeInitResponder (V : VendorDefined) (handlers : VendorHandlers σ) :
    WellRegistered V (pciDoeInitResponder V handlers).2 := by
  rw [pciDoeInitResponder_eq]
  constructor
  · simp [VendorHandlers.registrations]
  · simp [VendorHandlers.registrations, V.protocolIdIdeKm_ne_tdisp, V.cxlProtocolIdIdeKm_ne_tsp,
      V.vendorIdPcisig_ne_cxl]

/-- **The tunnels are transparent**: over a libspdm that keeps its contracts, in the normal and in
the large form, a call with the vendor and protocol of a registered handler, or with the message
type of PLDM, is a call of that handler, and any other call is refused. -/
theorem tunnels_are_transparent {V : VendorDefined} {M : MctpStandard} {table : DispatchTable σ}
    (htable : WellRegistered V table) {h : SpdmHeader} {bufferSize : Nat}
    {exchange : VendorSendReceive σ}
    (hvendor : CarriesVendorPayloads V h (pciDoeGetResponseSpdmVendorDefinedRequest V table)
      bufferSize exchange)
    {pldm : Handler σ} {appBufferSize : Nat} {appExchange : SessionId → SendReceive σ}
    (happ : CarriesAppMessages
      (mctpGetResponseSecuredAppRequest M (mMctpSecuredAppDispatch M pldm)) appBufferSize
      appExchange)
    (session : SessionId) (frame : Frame) :
    (∀ entry ∈ table,
      Transparent (vendorTunnel V exchange session entry.vendorId entry.protocolId frame)
        (fun s m => entry.func s session m) vendorMaxMessageSize
        (VendorFits (bufferSize - V.headerSize (V.formOf h)))) ∧
    (∀ vendorId protocolId,
      (∀ entry ∈ table, ¬ (entry.vendorId = vendorId ∧ entry.protocolId = protocolId)) →
      Refuses (vendorTunnel V exchange session vendorId protocolId frame) vendorMaxMessageSize) ∧
    Transparent (mctpTunnel M appExchange session M.messageTypePldm)
      (fun s m => pldm s session m) mctpMaxMessageSize
      (AppFits (appBufferSize - M.messageHeader.size)) ∧
    (∀ messageType, messageType ≠ M.messageTypePldm →
      Refuses (mctpTunnel M appExchange session messageType) mctpMaxMessageSize) := by
  refine ⟨?_, ?_, transparent_mctpTunnel happ session, ?_⟩
  · intro entry hmem
    exact transparent_vendorTunnel hvendor session frame htable hmem
  · intro vendorId protocolId hnone
    exact refuses_vendorTunnel hvendor session vendorId protocolId frame htable hnone
  · intro messageType hother
    exact refuses_mctpTunnel happ session hother

/-! ## A libspdm that keeps its contracts -/

/-- Vendor-defined messages carried to a responder. -/
def carryVendor (V : VendorDefined) (h : SpdmHeader) (respond : Respond σ) (bufferSize : Nat) :
    VendorSendReceive σ := fun s session ids payload capacity =>
  let o := respond s session (V.vendorHeader (V.formOf h) h ids (UInt16.ofNat payload.length) ++
    payload) (fun _ => 0) bufferSize
  let ids := V.vendorIds.decode (o.message.drop V.spdmHeader.size)
  let received := (o.message.drop (V.payloadOffset (V.formOf h))).take
    (V.readLength (V.formOf h) (o.message.drop V.lengthOffset))
  if o.status.isError then (⟨o.status, ids, []⟩, o.state)
  else if capacity < received.length then (⟨.bufferTooSmall, ids, []⟩, o.state)
  else (⟨.success, ids, received⟩, o.state)

theorem carriesVendorPayloads_carryVendor (V : VendorDefined) {h : SpdmHeader}
    (hcode : h.requestResponseCode = V.vendorDefinedRequest) (respond : Respond σ)
    (bufferSize : Nat) :
    CarriesVendorPayloads V h respond bufferSize (carryVendor V h respond bufferSize) where
  code := hcode
  carries := by
    intro s session vendorId payload capacity _
    refine ⟨fun _ => 0, _, rfl, ?_, ?_, ?_⟩
    · simp only [carryVendor]
      split
      · rfl
      · split <;> rfl
    · intro herror
      simp [carryVendor, herror]
    · intro hsuccess header ids length received _ hmessage hlength hfits
      have hroom : ¬ capacity < received.length := by omega
      have hok : LibspdmReturn.success.isError = false := rfl
      simp [carryVendor, hsuccess, hmessage, hok, ← hlength, hroom]

/-- Application messages carried to a responder. -/
def carryApp (respond : Respond σ) (bufferSize : Nat) : SessionId → SendReceive σ :=
  fun session s request capacity =>
    let o := respond s session request (fun _ => 0) bufferSize
    if o.status.isError then (⟨o.status, []⟩, o.state)
    else if capacity < o.responseSize then (⟨.bufferTooSmall, []⟩, o.state)
    else (⟨.success, o.message⟩, o.state)

theorem carriesAppMessages_carryApp (respond : Respond σ) (bufferSize : Nat) :
    CarriesAppMessages respond bufferSize (carryApp respond bufferSize) := by
  intro s session request capacity
  refine ⟨fun _ => 0, _, rfl, ?_, ?_, ?_⟩
  · simp only [carryApp]
    split
    · rfl
    · split <;> rfl
  · intro herror
    simp [carryApp, herror]
  · intro hsuccess hfits
    have hroom : ¬ capacity < (respond s session request (fun _ => 0) bufferSize).responseSize := by
      omega
    have hok : LibspdmReturn.success.isError = false := rfl
    simp [carryApp, hsuccess, hok, hroom]

/-! ## Concrete calls -/

/-- A handler that counts its calls and answers with the request. -/
private def countEcho : Handler Nat := fun s _ m => (⟨.success, some m⟩, s + 1)

private def failing : Handler Nat := fun s _ _ => (⟨.unsupportedCap, none⟩, s)

private def echoTsp : VendorHandlers Nat := ⟨failing, failing, failing, countEcho⟩

private def echoTable : DispatchTable Nat := (pciDoeInitResponder VendorDefined.sample echoTsp).2

/-- A request header of SPDM 1.4 with the large form. -/
private def largeHeader : SpdmHeader := ⟨0x14, VendorDefined.sample.vendorDefinedRequest, 0x80, 0⟩

private def echoFrame : Frame := ⟨fun _ => 0, fun _ => 0⟩

/-- Three bytes to the TSP handler in the large form, three to PLDM, and a message of another
type. -/
theorem tunnels_are_transparent_sample :
    vendorTunnel VendorDefined.sample
        (carryVendor VendorDefined.sample largeHeader
          (pciDoeGetResponseSpdmVendorDefinedRequest VendorDefined.sample echoTable) 64)
        (some 1) 0x1E98 1 echoFrame 0 [7, 8, 9] (fun _ => 0) 8 =
      ⟨.success, Mem.store (fun _ => 0) 0 [7, 8, 9], 3, 1⟩ ∧
    mctpTunnel MctpStandard.sample
        (carryApp (mctpGetResponseSecuredAppRequest MctpStandard.sample
          (mMctpSecuredAppDispatch MctpStandard.sample countEcho)) 64)
        (some 1) 1 0 [7, 8, 9] (fun _ => 0) 8 =
      ⟨.success, Mem.store (fun _ => 0) 0 [7, 8, 9], 3, 1⟩ ∧
    (mctpTunnel MctpStandard.sample
        (carryApp (mctpGetResponseSecuredAppRequest MctpStandard.sample
          (mMctpSecuredAppDispatch MctpStandard.sample countEcho)) 64)
        (some 1) 5 0 [7, 8, 9] (fun _ => 0) 8).Failed (fun _ => 0) 8 0 := by
  have htransparent := tunnels_are_transparent
    (wellRegistered_pciDoeInitResponder VendorDefined.sample echoTsp)
    (carriesVendorPayloads_carryVendor VendorDefined.sample (show
      largeHeader.requestResponseCode = VendorDefined.sample.vendorDefinedRequest from rfl) _ 64)
    (carriesAppMessages_carryApp (mctpGetResponseSecuredAppRequest MctpStandard.sample
      (mMctpSecuredAppDispatch MctpStandard.sample countEcho)) 64)
    (some 1) echoFrame
  obtain ⟨hvendor, -, hmctp, hrefuses⟩ := htransparent
  refine ⟨?_, ?_, ?_⟩
  · exact (hvendor ⟨3, 0x1E98, 1, countEcho⟩ (by
      rw [pciDoeInitResponder_eq]
      simp [VendorHandlers.registrations, VendorDefined.sample, echoTsp])).delivers 0 1 [7, 8, 9]
        [7, 8, 9] .success _ 8 (by decide) rfl rfl ⟨by decide, by decide, by decide⟩
  · exact hmctp.delivers 0 1 [7, 8, 9] [7, 8, 9] .success _ 8 (by decide) rfl rfl
      ⟨by decide, by decide, by decide⟩
  · exact hrefuses 5 (by decide) 0 [7, 8, 9] _ 8 (by decide)

end SpdmEmu.Emulator
