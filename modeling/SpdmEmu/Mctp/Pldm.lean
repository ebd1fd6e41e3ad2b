import SpdmEmu.Emulator.Tunnels

/-!
# PLDM over MCTP: the terminus id

`library/mctp_requester_lib/pldm_send_receive.c`, `pldm_req_control_get_tid.c`,
`library/mctp_responder_lib/pldm_dispatch.c` and `pldm_rsp_control_get_tid.c`: the one PLDM command
of the emulator. The requester asks for the terminus id (TID) of the responder and checks the header
of the answer.

The codes, masks and structures of `industry_standard/pldm.h` come with libspdm and are parameters.
-/

set_option autoImplicit false

namespace SpdmEmu.Mctp

open SpdmEmu.Wire SpdmEmu.Libspdm

variable {σ : Type}

/-! ## Messages -/

/-- `pldm_message_header_t` -/
structure PldmMessageHeader where
  instanceId : UInt8
  pldmType : UInt8
  pldmCommandCode : UInt8
deriving DecidableEq, Repr

/-- `pldm_get_tid_request_t` -/
structure PldmGetTidRequest where
  pldmHeader : PldmMessageHeader
deriving DecidableEq, Repr

/-- `pldm_get_tid_response_t` -/
structure PldmGetTidResponse where
  pldmHeader : PldmMessageHeader
  pldmCompletionCode : UInt8
  tid : UInt8
deriving DecidableEq, Repr

/-- `industry_standard/pldm.h` -/
structure PldmStandard where
  headerRequestMask : UInt8
  headerDatagramMask : UInt8
  headerInstanceIdMask : UInt8
  headerVersionMask : UInt8
  headerVersion : UInt8
  headerTypeMask : UInt8
  messageTypeControlDiscovery : UInt8
  controlDiscoveryCommandGetTid : UInt8
  baseCodeSuccess : UInt8
  messageHeader : Packed PldmMessageHeader
  getTidRequest : Packed PldmGetTidRequest
  getTidResponse : Packed PldmGetTidResponse

/-- What the two sides rely on. The request bit lies outside the instance id, the type octet of a
control message carries the version, a request starts with its header, and both messages fit
`MCTP_MAX_MESSAGE_SIZE`. -/
structure PldmStandard.Consistent (P : PldmStandard) : Prop where
  requestMask_ne_zero : P.headerRequestMask ≠ 0
  requestMask_and_instanceIdMask : P.headerRequestMask &&& P.headerInstanceIdMask = 0
  control_version : P.messageTypeControlDiscovery &&& P.headerVersionMask = P.headerVersion
  control_type :
    P.messageTypeControlDiscovery &&& P.headerTypeMask = P.messageTypeControlDiscovery
  messageHeader_decode : ∀ request,
    P.messageHeader.decode (P.getTidRequest.encode request) = request.pldmHeader
  messageHeader_size : P.messageHeader.size ≤ P.getTidRequest.size
  getTidRequest_size : P.getTidRequest.size ≤ mctpMaxMessageSize
  getTidResponse_size : P.getTidResponse.size < mctpMaxMessageSize

/-! ## Responder -/

/-- `pldm_get_response_control_get_tid`. The response buffer holds a `pldm_get_tid_response_t`, as
the source asserts. -/
def pldmGetResponseControlGetTid (P : PldmStandard) : Handler σ := fun s _ request =>
  if request.length ≠ P.getTidRequest.size then (⟨.invalidMsgSize, none⟩, s)
  else
    let appRequest := P.getTidRequest.decode request
    let appResponse : PldmGetTidResponse :=
      { pldmHeader :=
          { instanceId := appRequest.pldmHeader.instanceId &&& P.headerInstanceIdMask
            pldmType := appRequest.pldmHeader.pldmType
            pldmCommandCode := appRequest.pldmHeader.pldmCommandCode }
        pldmCompletionCode := P.baseCodeSuccess
        tid := 1 }
    (⟨.success, some (P.getTidResponse.encode appResponse)⟩, s)

/-- `pldm_secured_app_dispatch_struct_t` -/
structure PldmDispatchEntry (σ : Type) where
  pldmType : UInt8
  pldmCommandCode : UInt8
  func : Handler σ

/-- `m_pldm_secured_app_dispatch` -/
def mPldmSecuredAppDispatch (P : PldmStandard) : List (PldmDispatchEntry σ) :=
  [⟨P.messageTypeControlDiscovery, P.controlDiscoveryCommandGetTid,
    pldmGetResponseControlGetTid P⟩]

/-- `pldm_get_response_secured_app_request` -/
def pldmGetResponseSecuredAppRequest (P : PldmStandard) (table : List (PldmDispatchEntry σ)) :
    Handler σ := fun s session request =>
  if request.length < P.messageHeader.size then (⟨.invalidMsgSize, none⟩, s)
  else
    let header := P.messageHeader.decode request
    if header.instanceId &&& P.headerRequestMask = 0 then (⟨.invalidMsgField, none⟩, s)
    else if header.pldmType &&& P.headerVersionMask ≠ P.headerVersion then
      (⟨.invalidMsgField, none⟩, s)
    else
      match table.find? fun entry => header.pldmType &&& P.headerTypeMask == entry.pldmType &&
          header.pldmCommandCode == entry.pldmCommandCode with
      | none => (⟨.unsupportedCap, none⟩, s)
      | some entry => entry.func s session request

/-! ## Requester -/

/-- `pldm_send_receive_data` -/
def pldmSendReceiveData (M : MctpStandard) (libspdmSendReceiveData : SessionId → SendReceive σ)
    (s : σ) (session : SessionId) (request : Bytes) (response : Mem) (responseSize : Nat) :
    Outcome σ :=
  let o := mctpSendReceiveData M libspdmSendReceiveData s session M.messageTypePldm request response
    responseSize
  if o.status.isError then o else { o with status := .success }

/-- The request of `pldm_control_get_tid`, whose `instance_id` is 0. -/
def getTidRequest (P : PldmStandard) : PldmGetTidRequest where
  pldmHeader :=
    { instanceId := 0 ||| P.headerRequestMask
      pldmType := P.messageTypeControlDiscovery
      pldmCommandCode := P.controlDiscoveryCommandGetTid }

/-- What `pldm_control_get_tid` leaves behind: its status and `*tid`. -/
structure TidResult (σ : Type) where
  status : LibspdmReturn
  tid : UInt8
  state : σ

/-- The checks that `pldm_control_get_tid` makes of a response of `size` bytes, in its order. -/
def checkGetTidResponse (P : PldmStandard) (size : Nat) (r : PldmGetTidResponse) : LibspdmReturn :=
  if size ≠ P.getTidResponse.size then .invalidMsgSize
  else if r.pldmHeader.instanceId &&& P.headerRequestMask ≠ 0 then .invalidMsgField
  else if r.pldmHeader.instanceId &&& P.headerDatagramMask ≠ 0 then .invalidMsgField
  else if r.pldmHeader.instanceId &&& P.headerInstanceIdMask ≠ 0 then .invalidMsgField
  else if r.pldmHeader.pldmType &&& P.headerVersionMask ≠ P.headerVersion then .invalidMsgField
  else if r.pldmHeader.pldmType &&& P.headerTypeMask ≠ P.messageTypeControlDiscovery then
    .invalidMsgField
  else if r.pldmHeader.pldmCommandCode ≠ P.controlDiscoveryCommandGetTid then .invalidMsgField
  else if r.pldmCompletionCode ≠ P.baseCodeSuccess then .invalidMsgField
  else .success

/-- `pldm_control_get_tid`, with the content of the local `app_response` and of `*tid` before the
call. No path of the source writes `*tid`. -/
def pldmControlGetTid (P : PldmStandard) (M : MctpStandard)
    (libspdmSendReceiveData : SessionId → SendReceive σ) (s : σ) (session : SessionId)
    (appResponse : Mem) (tid : UInt8) : TidResult σ :=
  let o := pldmSendReceiveData M libspdmSendReceiveData s session
    (P.getTidRequest.encode (getTidRequest P)) appResponse P.getTidResponse.size
  if o.status.isError then ⟨o.status, tid, o.state⟩
  else
    let response := P.getTidResponse.decode (o.response.load 0 P.getTidResponse.size)
    ⟨checkGetTidResponse P o.responseSize response, tid, o.state⟩

/-! ## The reply that the requester accepts -/

/-- The reply in what the peer sent back to the request. -/
def peerReply (P : PldmStandard) (M : MctpStandard)
    (libspdmSendReceiveData : SessionId → SendReceive σ) (s : σ) (session : SessionId) :
    PldmGetTidResponse :=
  let (exchange, _) := libspdmSendReceiveData session s
    (M.messageHeader.encode M.messageTypePldm ++ P.getTidRequest.encode (getTidRequest P))
    (M.messageHeader.size + P.getTidResponse.size)
  P.getTidResponse.decode (exchange.response.drop M.messageHeader.size)

/-- A reply with the fields of a successful answer to the request. -/
structure IsGetTidReply (P : PldmStandard) (r : PldmGetTidResponse) : Prop where
  request : r.pldmHeader.instanceId &&& P.headerRequestMask = 0
  datagram : r.pldmHeader.instanceId &&& P.headerDatagramMask = 0
  instanceId : r.pldmHeader.instanceId &&& P.headerInstanceIdMask = 0
  version : r.pldmHeader.pldmType &&& P.headerVersionMask = P.headerVersion
  pldmType : r.pldmHeader.pldmType &&& P.headerTypeMask = P.messageTypeControlDiscovery
  command : r.pldmHeader.pldmCommandCode = P.controlDiscoveryCommandGetTid
  completion : r.pldmCompletionCode = P.baseCodeSuccess

theorem checkGetTidResponse_success_iff (P : PldmStandard) (size : Nat) (r : PldmGetTidResponse) :
    checkGetTidResponse P size r = .success ↔
      size = P.getTidResponse.size ∧ IsGetTidReply P r := by
  constructor
  · intro hcheck
    unfold checkGetTidResponse at hcheck
    -- every branch but the last one returns an error
    split_ifs at hcheck with hsize hrequest hdatagram hinstance hversion htype hcommand hcode
    exact ⟨not_not.mp hsize, not_not.mp hrequest, not_not.mp hdatagram, not_not.mp hinstance,
      not_not.mp hversion, not_not.mp htype, not_not.mp hcommand, not_not.mp hcode⟩
  · rintro ⟨hsize, hreply⟩
    simp [checkGetTidResponse, hsize, hreply.request, hreply.datagram, hreply.instanceId,
      hreply.version, hreply.pldmType, hreply.command, hreply.completion]

section Requester

variable (P : PldmStandard) (M : MctpStandard)
  (libspdmSendReceiveData : SessionId → SendReceive σ) (s : σ) (session : SessionId)
  (appResponse : Mem) (tid : UInt8)

/-- Whatever the peer answers, `*tid` is what it was. -/
theorem pldmControlGetTid_tid :
    (pldmControlGetTid P M libspdmSendReceiveData s session appResponse tid).tid = tid := by
  simp only [pldmControlGetTid]
  split <;> rfl

/-- `mctp_send_receive_data` returns an error, or SUCCESS with the bytes after the message type of
what the peer sent. -/
theorem mctpSendReceiveData_cases (messageType : UInt8) (request : Bytes) (responseSize : Nat) :
    let o := mctpSendReceiveData M libspdmSendReceiveData s session messageType request appResponse
      responseSize
    o.status.isError = true ∨ (o.status = .success ∧ o.message =
      (libspdmSendReceiveData session s (M.messageHeader.encode messageType ++ request)
        (M.messageHeader.size + responseSize)).1.response.drop M.messageHeader.size) := by
  unfold mctpSendReceiveData
  dsimp only
  split_ifs with herror hshort htype
  · exact .inl herror
  · exact .inl rfl
  · exact .inl rfl
  · refine .inr ⟨rfl, ?_⟩
    simp only [Outcome.message, copyMem_of_le _ _ (Nat.le_refl _)]
    exact Mem.load_store _ _ _

/-- So the wrapper adds the message type of PLDM and nothing else. -/
theorem pldmSendReceiveData_eq (request : Bytes) (responseSize : Nat) :
    pldmSendReceiveData M libspdmSendReceiveData s session request appResponse responseSize =
      mctpSendReceiveData M libspdmSendReceiveData s session M.messageTypePldm request appResponse
        responseSize := by
  have hcases := mctpSendReceiveData_cases M libspdmSendReceiveData s session appResponse
    M.messageTypePldm request responseSize
  unfold pldmSendReceiveData
  obtain herror | ⟨hsuccess, -⟩ := hcases
  · exact if_pos herror
  · dsimp only
    rw [← hsuccess, ite_self]

/-- The reply that passes the checks is the one the peer sent. -/
theorem isGetTidReply_of_success
    (hsuccess : (pldmControlGetTid P M libspdmSendReceiveData s session appResponse tid).status =
      .success) :
    IsGetTidReply P (peerReply P M libspdmSendReceiveData s session) := by
  have hreceived := mctpSendReceiveData_cases M libspdmSendReceiveData s session appResponse
    M.messageTypePldm (P.getTidRequest.encode (getTidRequest P)) P.getTidResponse.size
  simp only [pldmControlGetTid, pldmSendReceiveData_eq] at hsuccess
  split_ifs at hsuccess with herror
  · have hok : true = LibspdmReturn.success.isError :=
      herror.symm.trans (congrArg LibspdmReturn.isError hsuccess)
    cases hok
  · obtain ⟨hsize, hreply⟩ := (checkGetTidResponse_success_iff _ _ _).mp hsuccess
    have hmessage := (hreceived.resolve_left herror).2
    rw [Outcome.message, hsize] at hmessage
    rwa [hmessage] at hreply

end Requester

/-! ## The two sides together -/

/-- The answer of the responder to the request. -/
def getTidReply (P : PldmStandard) : PldmGetTidResponse where
  pldmHeader :=
    { instanceId := (getTidRequest P).pldmHeader.instanceId &&& P.headerInstanceIdMask
      pldmType := P.messageTypeControlDiscovery
      pldmCommandCode := P.controlDiscoveryCommandGetTid }
  pldmCompletionCode := P.baseCodeSuccess
  tid := 1

section Composed

variable {P : PldmStandard} (hP : P.Consistent)

include hP

/-- The responder handles the request of the requester. -/
theorem respond_getTidRequest (s : σ) (session : SessionId) :
    pldmGetResponseSecuredAppRequest P (mPldmSecuredAppDispatch P) s session
        (P.getTidRequest.encode (getTidRequest P)) =
      (⟨.success, some (P.getTidResponse.encode (getTidReply P))⟩, s) := by
  have hlong : ¬ P.getTidRequest.size < P.messageHeader.size := by
    have := hP.messageHeader_size
    omega
  simp [pldmGetResponseSecuredAppRequest, mPldmSecuredAppDispatch, pldmGetResponseControlGetTid,
    getTidRequest, getTidReply, hlong, hP.messageHeader_decode, hP.requestMask_ne_zero,
    hP.control_version, hP.control_type]

/-- The reply has an instance id of 0 and passes the checks of the requester. -/
theorem isGetTidReply_getTidReply : IsGetTidReply P (getTidReply P) := by
  have hinstance : (getTidReply P).pldmHeader.instanceId = 0 := by
    simp [getTidReply, getTidRequest, hP.requestMask_and_instanceIdMask]
  exact ⟨by simp [hinstance], by simp [hinstance], by simp [hinstance], hP.control_version,
    hP.control_type, rfl, rfl⟩

/-- Over a faithful transport the call succeeds, and what it was sent is the responder's reply. -/
theorem pldmControlGetTid_composed {M : MctpStandard} {bufferSize : Nat}
    {exchange : SessionId → SendReceive σ}
    (hcarries : CarriesAppMessages (mctpGetResponseSecuredAppRequest M
      (mMctpSecuredAppDispatch M (pldmGetResponseSecuredAppRequest P (mPldmSecuredAppDispatch P))))
      bufferSize exchange)
    (hroom : P.getTidResponse.size ≤ bufferSize - M.messageHeader.size) (s : σ)
    (session : SessionId) (appResponse : Mem) (tid : UInt8) :
    (pldmControlGetTid P M exchange s session appResponse tid).status = .success ∧
      peerReply P M exchange s session = getTidReply P := by
  have hsend : pldmSendReceiveData M exchange s session (P.getTidRequest.encode (getTidRequest P))
      appResponse P.getTidResponse.size =
        ⟨.success, appResponse.store 0 (P.getTidResponse.encode (getTidReply P)),
          P.getTidResponse.size, s⟩ := by
    rw [pldmSendReceiveData_eq]
    have htunnel := (transparent_mctpTunnel hcarries session).delivers s s
      (P.getTidRequest.encode (getTidRequest P)) (P.getTidResponse.encode (getTidReply P)) .success
      appResponse P.getTidResponse.size (by simpa using hP.getTidRequest_size)
      (respond_getTidRequest hP s session) rfl
      (by simpa [AppFits] using ⟨hroom, hP.getTidResponse_size⟩)
    simpa [mctpTunnel] using htunnel
  have hload : (appResponse.store 0 (P.getTidResponse.encode (getTidReply P))).load 0
      P.getTidResponse.size = P.getTidResponse.encode (getTidReply P) := by
    have hstored := Mem.load_store appResponse 0 (P.getTidResponse.encode (getTidReply P))
    rwa [P.getTidResponse.length_encode] at hstored
  constructor
  · have hok : LibspdmReturn.success.isError = false := rfl
    simp only [pldmControlGetTid, hsend, hok, Bool.false_eq_true, if_false, hload,
      Packed.decode_encode]
    exact (checkGetTidResponse_success_iff _ _ _).mpr ⟨rfl, isGetTidReply_getTidReply hP⟩
  · have hreceived := mctpSendReceiveData_cases M exchange s session appResponse
      M.messageTypePldm (P.getTidRequest.encode (getTidRequest P)) P.getTidResponse.size
    rw [← pldmSendReceiveData_eq, hsend] at hreceived
    have hmessage := (hreceived.resolve_left (by simp [LibspdmReturn.isError])).2
    rw [Outcome.message, hload] at hmessage
    simp only [peerReply, ← hmessage, Packed.decode_encode]

end Composed

/-- **Delivery of the TID.** When the requester accepts a reply, `*tid` is the TID of the reply
exactly if it was so before the call. Over a faithful transport to the responder the call always
succeeds, and the requester then holds the TID of the responder exactly if it held it before. -/
theorem get_tid_delivered_iff (P : PldmStandard) (M : MctpStandard) :
    (∀ (exchange : SessionId → SendReceive σ) (s : σ) (session : SessionId) (appResponse : Mem)
      (tid : UInt8),
      let reply := peerReply P M exchange s session
      let result := pldmControlGetTid P M exchange s session appResponse tid
      result.status = .success →
        IsGetTidReply P reply ∧ (result.tid = reply.tid ↔ tid = reply.tid)) ∧
    (P.Consistent → ∀ (exchange : SessionId → SendReceive σ) (bufferSize : Nat),
      CarriesAppMessages (mctpGetResponseSecuredAppRequest M (mMctpSecuredAppDispatch M
        (pldmGetResponseSecuredAppRequest P (mPldmSecuredAppDispatch P)))) bufferSize exchange →
      P.getTidResponse.size ≤ bufferSize - M.messageHeader.size →
      ∀ (s : σ) (session : SessionId) (appResponse : Mem) (tid : UInt8),
        let reply := peerReply P M exchange s session
        let result := pldmControlGetTid P M exchange s session appResponse tid
        result.status = .success ∧ reply.tid = 1 ∧ (result.tid = 1 ↔ tid = 1)) := by
  constructor
  · intro exchange s session appResponse tid reply result hsuccess
    refine ⟨isGetTidReply_of_success P M exchange s session appResponse tid hsuccess, ?_⟩
    rw [pldmControlGetTid_tid]
  · intro hP exchange bufferSize hcarries hroom s session appResponse tid
    obtain ⟨hsuccess, hreply⟩ :=
      pldmControlGetTid_composed hP hcarries hroom s session appResponse tid
    refine ⟨hsuccess, ?_, ?_⟩
    · rw [hreply]
      rfl
    · rw [pldmControlGetTid_tid]

/-! ## A concrete standard -/

/-- Concrete codes and layouts, on which statements can be evaluated. -/
def PldmStandard.sample : PldmStandard :=
  let header : Packed PldmMessageHeader := (Packed.u8.pair (Packed.u8.pair Packed.u8)).view
    (fun x => ⟨x.1, x.2.1, x.2.2⟩) (fun h => (h.instanceId, h.pldmType, h.pldmCommandCode))
    (fun x => by cases x; rfl)
  { headerRequestMask := 0x80
    headerDatagramMask := 0x40
    headerInstanceIdMask := 0x1F
    headerVersionMask := 0xC0
    headerVersion := 0
    headerTypeMask := 0x3F
    messageTypeControlDiscovery := 0
    controlDiscoveryCommandGetTid := 2
    baseCodeSuccess := 0
    messageHeader := header
    getTidRequest := header.view PldmGetTidRequest.mk PldmGetTidRequest.pldmHeader
      (fun x => by cases x; rfl)
    getTidResponse := (header.pair (Packed.u8.pair Packed.u8)).view
      (fun x => ⟨x.1, x.2.1, x.2.2⟩) (fun r => (r.pldmHeader, r.pldmCompletionCode, r.tid))
      (fun x => by cases x; rfl) }

theorem PldmStandard.consistent_sample : PldmStandard.sample.Consistent where
  requestMask_ne_zero := by decide
  requestMask_and_instanceIdMask := by decide
  control_version := by decide
  control_type := by decide
  messageHeader_decode := fun request => PldmStandard.sample.messageHeader.decode_encode _
  messageHeader_size := by decide
  getTidRequest_size := by decide
  getTidResponse_size := by decide

/-- A transport that carries messages to the responder of the emulator. -/
private def toResponder : SessionId → SendReceive Unit :=
  Emulator.carryApp (mctpGetResponseSecuredAppRequest .sample (mMctpSecuredAppDispatch .sample
    (pldmGetResponseSecuredAppRequest .sample (mPldmSecuredAppDispatch .sample)))) 64

/-- A caller whose variable held the TID before keeps it, and one with another value does not get
it. -/
theorem get_tid_delivered_sample :
    (pldmControlGetTid .sample .sample toResponder () (some 1) (fun _ => 0) 7).status = .success ∧
    (peerReply .sample .sample toResponder () (some 1)).tid = 1 ∧
    ((pldmControlGetTid .sample .sample toResponder () (some 1) (fun _ => 0) 7).tid = 1 ↔
      (7 : UInt8) = 1) ∧
    IsGetTidReply .sample (peerReply .sample .sample toResponder () (some 1)) := by
  have hdelivered := get_tid_delivered_iff (σ := Unit) .sample .sample
  have hcomposed := hdelivered.2 PldmStandard.consistent_sample toResponder 64
    (Emulator.carriesAppMessages_carryApp _ 64) (by decide) () (some 1) (fun _ => 0) 7
  have hreply := hdelivered.1 toResponder () (some 1) (fun _ => 0) 7 hcomposed.1
  exact ⟨hcomposed.1, hcomposed.2.1, hcomposed.2.2, hreply.1⟩

/-- **The TID does not arrive.** The reply with the TID 1 is accepted, and `*tid` is still 0. -/
theorem get_tid_not_delivered :
    let result := pldmControlGetTid .sample .sample toResponder () (some 1) (fun _ => 0) 0
    result.status = .success ∧ (peerReply .sample .sample toResponder () (some 1)).tid = 1 ∧
      result.tid = 0 := by
  decide +kernel

end SpdmEmu.Mctp
