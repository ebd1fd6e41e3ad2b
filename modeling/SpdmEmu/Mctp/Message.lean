import SpdmEmu.Libspdm.Status

/-!
# MCTP application messages

`library/mctp_requester_lib/mctp_send_receive.c` and `library/mctp_responder_lib/mctp_dispatch.c`:
an application message is a message type followed by the application's bytes. The requester puts its
type before a request and takes it off the response; the responder looks the type up in a table with
one entry, PLDM.

`libspdm_send_receive_data`, which carries the message, is a parameter of the requester.
-/

set_option autoImplicit false

namespace SpdmEmu.Mctp

open SpdmEmu.Wire SpdmEmu.Libspdm

variable {σ : Type}

/-- `industry_standard/mctp.h` -/
structure MctpStandard where
  messageTypePldm : UInt8
  /-- `mctp_message_header_t`, the message type -/
  messageHeader : Packed UInt8

/-- Concrete codes and layouts, on which statements can be evaluated. -/
def MctpStandard.sample : MctpStandard where
  messageTypePldm := 1
  messageHeader := Packed.u8

/-- `MCTP_MAX_MESSAGE_SIZE` -/
def mctpMaxMessageSize : Nat := 0x100

/-! ## Responder -/

/-- `mctp_secured_app_dispatch_struct_t` -/
structure DispatchEntry (σ : Type) where
  messageType : UInt8
  func : Handler σ

/-- `m_mctp_secured_app_dispatch` -/
def mMctpSecuredAppDispatch (M : MctpStandard) (pldmGetResponseSecuredAppRequest : Handler σ) :
    List (DispatchEntry σ) :=
  [⟨M.messageTypePldm, pldmGetResponseSecuredAppRequest⟩]

/-- `mctp_get_response_secured_app_request`. The size of the response buffer exceeds the message
header, as the source asserts. -/
def mctpGetResponseSecuredAppRequest (M : MctpStandard) (table : List (DispatchEntry σ)) :
    Respond σ := fun s session request response responseSize =>
  if request.length < M.messageHeader.size then ⟨.invalidMsgSize, response, responseSize, s⟩
  else
    let messageType := M.messageHeader.decode request
    let appResponseRoom := responseSize - M.messageHeader.size
    match table.find? fun entry => messageType == entry.messageType with
    | none => ⟨.unsupportedCap, response, responseSize, s⟩
    | some entry =>
        let (reply, s) := entry.func s session (request.drop M.messageHeader.size)
        let response := reply.buffer response M.messageHeader.size
        -- a handler that wrote nothing leaves the size at the room it was given
        let appResponseSize := reply.size appResponseRoom
        if reply.status.isError then ⟨reply.status, response, responseSize, s⟩
        else
          { status := .success
            response := response.store 0 (M.messageHeader.encode messageType)
            responseSize := appResponseSize + M.messageHeader.size
            state := s }

/-! ## Requester -/

/-- `mctp_send_receive_data`, with `libspdm_send_receive_data` as a parameter. The sizes of the
request and of the caller's buffer are within `MCTP_MAX_MESSAGE_SIZE`, as the source asserts. -/
def mctpSendReceiveData (M : MctpStandard) (libspdmSendReceiveData : SessionId → SendReceive σ)
    (s : σ) (session : SessionId) (messageType : UInt8) (request : Bytes) (response : Mem)
    (responseSize : Nat) : Outcome σ :=
  let mctpRequest := M.messageHeader.encode messageType ++ request
  let (exchange, s) := libspdmSendReceiveData session s mctpRequest
    (M.messageHeader.size + responseSize)
  let mctpResponse := exchange.response
  if exchange.status.isError then ⟨exchange.status, response, responseSize, s⟩
  else if mctpResponse.length < M.messageHeader.size then
    ⟨.invalidMsgSize, response, responseSize, s⟩
  else if M.messageHeader.decode mctpResponse ≠ messageType then
    ⟨.invalidMsgField, response, responseSize, s⟩
  else
    let received := mctpResponse.drop M.messageHeader.size
    ⟨.success, copyMem response 0 received.length received, received.length, s⟩

end SpdmEmu.Mctp
