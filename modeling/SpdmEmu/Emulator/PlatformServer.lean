import SpdmEmu.Libspdm.Host
import SpdmEmu.Run.Loop
import SpdmEmu.Socket.Framing

/-!
# The platform server

`platform_server` and `platform_server_routine` of `spdm_emu/spdm_responder_emu`: a loop that
receives a command and a transport type, hands the payload to libspdm or takes it itself, and
answers. libspdm asks for the payload with `spdm_device_receive_message` and sends with
`spdm_device_send_message`, so the three functions share the socket and the one buffer; the command
that the loop has read tells the receive function whether the message is one for libspdm.

libspdm is no part of the repository. `libspdm_responder_dispatch_message` is any function of the
registered functions that has the three properties of `Dispatches`.

The loop has no bound of its own, but every pass that does not return has read a command, so it ends
on every stream.
-/

set_option autoImplicit false

namespace SpdmEmu.Emulator

open SpdmEmu.Wire SpdmEmu.Libspdm SpdmEmu.Socket SpdmEmu.Run

/-! ## Commands -/

/-- `SOCKET_TRANSPORT_TYPE_PCI_DOE` -/
def socketTransportTypePciDoe : UInt32 := 0x02

/-- `SOCKET_SPDM_COMMAND_DECAP_TDISP` -/
def commandDecapTdisp : UInt32 := 0x0002

/-- `SOCKET_SPDM_COMMAND_OOB_ENCAP_KEY_UPDATE` -/
def commandOobEncapKeyUpdate : UInt32 := 0x8001

/-- `SOCKET_SPDM_COMMAND_OOB_ENCAP_ENDPOINT_INFO` -/
def commandOobEncapEndpointInfo : UInt32 := 0x8002

/-- `SOCKET_SPDM_COMMAND_CONTINUE` -/
def commandContinue : UInt32 := 0xFFFD

/-- `SOCKET_SPDM_COMMAND_UNKOWN` -/
def commandUnkown : UInt32 := 0xFFFF

/-- `SOCKET_SPDM_COMMAND_TEST` -/
def commandTest : UInt32 := 0xDEAD

/-- `"Server Hello!"`, with the zero byte that `sizeof` counts. -/
def serverHello : Bytes := "Server Hello!".toList.map (fun c => UInt8.ofNat c.toNat) ++ [0]

/-! ## What the server runs on -/

/-- The settings of the program, and the constants of libspdm that it uses. -/
structure ServerConfig where
  host : ByteOrder
  mUseTransportLayer : UInt32
  mDecapTdisp : Bool
  /-- `sizeof(m_send_receive_buffer)` -/
  bufferSize : Nat
  /-- `LIBSPDM_ENABLE_CAPABILITY_MUT_AUTH_CAP || LIBSPDM_ENABLE_CAPABILITY_ENCAP_CAP` -/
  keyUpdateEncap : Bool
  /-- `LIBSPDM_ENABLE_CAPABILITY_ENDPOINT_INFO_CAP || LIBSPDM_ENABLE_CAPABILITY_ENCAP_CAP` -/
  endpointInfoEncap : Bool
  /-- `LIBSPDM_STATUS_SEND_FAIL` -/
  statusSendFail : ErrorStatus
  /-- `LIBSPDM_STATUS_RECEIVE_FAIL` -/
  statusReceiveFail : ErrorStatus
  /-- `response` and `tdisp_response`, with what they hold before -/
  response : Bytes
  tdispResponse : Bytes
  sendFail_ne : statusSendFail.val ≠ .unsupportedCap
  receiveFail_ne : statusReceiveFail.val ≠ .unsupportedCap

/-- How the two directions of a connection are cut into pieces. -/
structure Line where
  received : Pieces
  sent : Pieces

/-- The state of the server: libspdm and the device, the globals of the program, the two directions
of the connection, and what was done to the packet capture. -/
structure Serving (δ : Type) where
  device : δ
  mCommand : UInt32
  mSendReceiveBuffer : Mem
  mSendReceiveBufferSize : Nat
  incoming : Incoming
  outgoing : Outgoing
  pcap : List PcapEvent

/-- The functions that the program registers with libspdm for the device. -/
structure DeviceFunctions (σ : Type) where
  acquireReceiverBuffer : σ → σ
  receiveMessage : σ → Except LibspdmReturn Bytes × σ
  sendMessage : Bytes → σ → LibspdmReturn × σ

/-- What the server relies on in `libspdm_responder_dispatch_message`, for any functions of the
device. `processMessage` is what libspdm makes of a message: a response, or the status that it
returns without one. -/
structure Dispatches {δ : Type} (processMessage : δ → Bytes → Except LibspdmReturn Bytes × δ)
    (dispatch : DeviceFunctions (Serving δ) → Serving δ → LibspdmReturn × Serving δ) : Prop where
  /-- Without a message the status of the receive function is returned. -/
  not_received : ∀ {f s status s₁},
    f.receiveMessage (f.acquireReceiverBuffer s) = (.error status, s₁) → dispatch f s = (status, s₁)
  /-- A message without a response is still in the buffer. -/
  refused : ∀ {f s request s₁ status d},
    f.receiveMessage (f.acquireReceiverBuffer s) = (.ok request, s₁) →
    processMessage s₁.device request = (.error status, d) →
    dispatch f s = (status, { s₁ with device := d })
  /-- A response is sent; what the buffer holds by then is left open. -/
  answered : ∀ {f s request s₁ response d},
    f.receiveMessage (f.acquireReceiverBuffer s) = (.ok request, s₁) →
    processMessage s₁.device request = (.ok response, d) →
    ∃ buffer, dispatch f s =
      f.sendMessage response { s₁ with device := d, mSendReceiveBuffer := buffer }

/-- The functions that the server calls, over the state `δ` of libspdm and of the device. -/
structure ServerHandlers (δ : Type) where
  processMessage : δ → Bytes → Except LibspdmReturn Bytes × δ
  /-- `libspdm_responder_dispatch_message` -/
  libspdmResponderDispatchMessage :
    DeviceFunctions (Serving δ) → Serving δ → LibspdmReturn × Serving δ
  dispatches : Dispatches processMessage libspdmResponderDispatchMessage
  /-- `libspdm_init_key_update_encap_state_with_session` -/
  initKeyUpdateEncapStateWithSession : UInt32 → δ → δ
  /-- `libspdm_init_get_endpoint_info_encap_state` -/
  initGetEndpointInfoEncapState : δ → δ
  /-- `pci_doe_get_response_doe_request` -/
  pciDoeGetResponseDoeRequest : δ → Bytes → Reply × δ
  /-- `pci_tdisp_get_response`, without a session -/
  pciTdispGetResponse : δ → Bytes → Reply × δ

section Server

variable {δ : Type} (c : ServerConfig) (w : Line) (H : ServerHandlers δ)

/-! ## The calls on the socket -/

/-- `receive_platform_data` into the buffer of the program. -/
def receiveData (s : Serving δ) : Bool × Serving δ :=
  let r := receivePlatformData c.host w.received c.mUseTransportLayer s.incoming s.mCommand
    s.mSendReceiveBuffer c.bufferSize
  (r.result,
    { s with
      mCommand := r.command
      mSendReceiveBuffer := r.receiveBuffer
      mSendReceiveBufferSize := r.bytesToReceive
      incoming := r.socket
      pcap := s.pcap ++ r.pcap.toList })

/-- `send_platform_data` on the connection. -/
def sendData (command : UInt32) (bytes : Bytes) (s : Serving δ) : Bool × Serving δ :=
  let r := sendPlatformData c.host w.sent c.mUseTransportLayer s.outgoing command bytes
  (r.1, { s with outgoing := r.2.1, pcap := s.pcap ++ r.2.2.toList })

/-- `send_platform_data`, with the `return true` that follows where it fails. -/
def sendOrReturn (command : UInt32) (bytes : Bytes) : Flow (Serving δ) Bool Unit := fun s =>
  match sendData c w command bytes s with
  | (true, s) => (.ok (), s)
  | (false, s) => (.error true, s)

/-- The last answer of a connection, with the `return` that follows. -/
def sendAndReturn (command : UInt32) (result : Bool) : Flow (Serving δ) Bool Unit := fun s =>
  match sendData c w command [] s with
  | (true, s) => (.error result, s)
  | (false, s) => (.error true, s)

/-- `spdm_device_acquire_receiver_buffer` -/
def spdmDeviceAcquireReceiverBuffer (s : Serving δ) : Serving δ :=
  { s with mSendReceiveBuffer := fun _ => 0 }

/-- `spdm_device_receive_message` -/
def spdmDeviceReceiveMessage (s : Serving δ) : Except LibspdmReturn Bytes × Serving δ :=
  match receiveData c w s with
  | (false, s) => (.error c.statusReceiveFail.val, s)
  | (true, s) =>
      if s.mCommand = commandNormal ∨ s.mCommand = commandDecapTdisp then
        (.ok (s.mSendReceiveBuffer.load 0 s.mSendReceiveBufferSize), s)
      else (.error .unsupportedCap, s)

/-- `spdm_device_send_message` -/
def spdmDeviceSendMessage (response : Bytes) (s : Serving δ) : LibspdmReturn × Serving δ :=
  match sendData c w commandNormal response s with
  | (true, s) => (.success, s)
  | (false, s) => (c.statusSendFail.val, s)

/-- What `spdm_server_init` registers. -/
def deviceFunctions : DeviceFunctions (Serving δ) where
  acquireReceiverBuffer := spdmDeviceAcquireReceiverBuffer
  receiveMessage := spdmDeviceReceiveMessage c w
  sendMessage := spdmDeviceSendMessage c w

/-! ## The loop -/

/-- A handler's message, or the response object as it was. -/
def answerWith (command : UInt32) (unwritten : Bytes) (handle : δ → Bytes → Reply × δ) :
    Flow (Serving δ) Bool Unit := fun s =>
  let (reply, device) :=
    handle s.device (s.mSendReceiveBuffer.load 0 s.mSendReceiveBufferSize)
  let s := { s with device := device }
  if reply.status.isError then (.error true, s)
  else sendOrReturn c w command (reply.written.getD unwritten) s

/-- The `switch` on the command. -/
def platformCommand : Flow (Serving δ) Bool Unit := fun s =>
  if s.mCommand = commandTest then sendOrReturn c w commandTest serverHello s
  else if s.mCommand = commandOobEncapKeyUpdate then
    if c.keyUpdateEncap then
      let sessionId :=
        if s.mSendReceiveBufferSize = 4 then value32 c.host (s.mSendReceiveBuffer.load 0 4) else 0
      sendOrReturn c w commandOobEncapKeyUpdate []
        { s with device := H.initKeyUpdateEncapStateWithSession sessionId s.device }
    else (.ok (), s)
  else if s.mCommand = commandOobEncapEndpointInfo then
    if c.endpointInfoEncap then
      sendOrReturn c w commandOobEncapEndpointInfo []
        { s with device := H.initGetEndpointInfoEncapState s.device }
    else (.ok (), s)
  else if s.mCommand = commandShutdown then sendAndReturn c w commandShutdown false s
  else if s.mCommand = commandContinue then sendAndReturn c w commandContinue true s
  else if s.mCommand = commandNormal then
    if c.mUseTransportLayer = socketTransportTypePciDoe then
      answerWith c w commandNormal c.response H.pciDoeGetResponseDoeRequest s
    else (.error true, s)
  else if s.mCommand = commandDecapTdisp then
    if c.mDecapTdisp then answerWith c w commandNormal c.tdispResponse H.pciTdispGetResponse s
    else (.error true, s)
  else sendAndReturn c w commandUnkown true s

/-- `receive_platform_command` into the global. -/
def receiveCommand : Flow (Serving δ) Bool Unit := fun s =>
  match receivePlatformCommand c.host w.received s.incoming with
  | (none, socket) => (.error false, { s with incoming := socket })
  | (some command, socket) => (.ok (), { s with mCommand := command, incoming := socket })

/-- `receive_platform_transport_type`, and the comparison with the transport type of the server. -/
def receiveTransportType : Flow (Serving δ) Bool Unit := fun s =>
  match receivePlatformTransportType c.host w.received s.incoming with
  | (none, socket) => (.error false, { s with incoming := socket })
  | (some transportType, socket) =>
      if !c.mDecapTdisp && transportType != c.mUseTransportLayer then
        (.error false, { s with incoming := socket })
      else (.ok (), { s with incoming := socket })

/-- The payload is received, by the server or by libspdm; the result says whether the `switch`
follows. -/
def receivePayload : Flow (Serving δ) Bool Bool := fun s =>
  if s.mCommand = commandDecapTdisp then
    match receiveData c w s with
    | (true, s) => (.ok true, s)
    | (false, s) => (.error true, s)
  else
    let (status, s) := H.libspdmResponderDispatchMessage (deviceFunctions c w) s
    if status = c.statusSendFail.val ∨ status = c.statusReceiveFail.val then (.error false, s)
    else (.ok (status == .unsupportedCap), s)

/-- One pass of the loop. -/
def platformServerPass : Flow (Serving δ) Bool Unit := do
  receiveCommand c w
  receiveTransportType c w
  let unhandled ← receivePayload c w H
  if unhandled then platformCommand c w H

/-- The body of the loop. -/
def platformServerBody : Body (Serving δ) (Bool × Serving δ) := fun s =>
  match platformServerPass c w H s with
  | (.error result, s) => .inl (result, s)
  | (.ok (), s) => .inr s

/-! ## The loop ends -/

section Ends

variable {c w H} {s s' : Serving δ}

/-- A payload that was received is no longer to be received. -/
theorem pending_of_receiveData (h : (receiveData c w s).1 = true) :
    ∃ bs, s.incoming.pending = bs ++ (receiveData c w s).2.incoming.pending := by
  obtain ⟨bs, -, -, hdone⟩ := receivePlatformData_takes c.host w.received c.mUseTransportLayer
    s.incoming s.mCommand s.mSendReceiveBuffer c.bufferSize
  obtain ⟨-, -, -, hpending⟩ := hdone h
  exact ⟨_, by rw [hpending, List.append_assoc]; rfl⟩

theorem incoming_sendOrReturn (command : UInt32) (bytes : Bytes) :
    (sendOrReturn c w command bytes s).2.incoming = s.incoming := by
  unfold sendOrReturn
  rcases hsend : sendData c w command bytes s with ⟨_ | _, s₁⟩ <;>
    exact congrArg (fun r => r.2.incoming) hsend.symm

theorem incoming_answerWith (command : UInt32) (unwritten : Bytes)
    (handle : δ → Bytes → Reply × δ) :
    (answerWith c w command unwritten handle s).2.incoming = s.incoming := by
  unfold answerWith
  dsimp only
  split
  · rfl
  · rw [incoming_sendOrReturn]

theorem incoming_sendAndReturn (command : UInt32) (result : Bool) :
    (sendAndReturn c w command result s).2.incoming = s.incoming := by
  unfold sendAndReturn
  rcases hsend : sendData c w command [] s with ⟨_ | _, s₁⟩ <;>
    exact congrArg (fun r => r.2.incoming) hsend.symm

/-- The `switch` receives nothing. -/
theorem incoming_platformCommand : (platformCommand c w H s).2.incoming = s.incoming := by
  unfold platformCommand
  dsimp only
  repeat' split
  all_goals
    first
    | rfl
    | rw [incoming_sendOrReturn]
    | rw [incoming_sendAndReturn]
    | rw [incoming_answerWith]

theorem pending_of_receiveCommand {u : Unit} (h : receiveCommand c w s = (.ok u, s')) :
    s.incoming.pending.length = 4 + s'.incoming.pending.length := by
  unfold receiveCommand receivePlatformCommand at h
  rcases hread : readData32 c.host w.received s.incoming with ⟨_ | command, socket⟩
  · rw [hread] at h
    cases h
  · rw [hread] at h
    cases h
    rw [readData32_eq_some hread, List.length_append, length_bytes32]

theorem pending_of_receiveTransportType {u : Unit}
    (h : receiveTransportType c w s = (.ok u, s')) :
    s.incoming.pending.length = 4 + s'.incoming.pending.length := by
  unfold receiveTransportType at h
  rw [receivePlatformTransportType_eq] at h
  rcases hread : readData32 c.host w.received s.incoming with ⟨_ | transportType, socket⟩
  · rw [hread] at h
    cases h
  · rw [hread] at h
    dsimp only at h
    split at h
    · cases h
    · cases h
      rw [readData32_eq_some hread, List.length_append, length_bytes32]

theorem incoming_spdmDeviceSendMessage (response : Bytes) :
    (spdmDeviceSendMessage c w response s).2.incoming = s.incoming := by
  unfold spdmDeviceSendMessage
  rcases hsend : sendData c w commandNormal response s with ⟨_ | _, s₁⟩ <;>
    exact congrArg (fun r => r.2.incoming) hsend.symm

/-- What libspdm receives is one payload. -/
theorem incoming_dispatch {s₁ : Serving δ}
    (h : receiveData c w (spdmDeviceAcquireReceiverBuffer s) = (true, s₁)) :
    (H.libspdmResponderDispatchMessage (deviceFunctions c w) s).2.incoming = s₁.incoming := by
  by_cases hspdm : s₁.mCommand = commandNormal ∨ s₁.mCommand = commandDecapTdisp
  · have hreceive : spdmDeviceReceiveMessage c w (spdmDeviceAcquireReceiverBuffer s) =
        (.ok (s₁.mSendReceiveBuffer.load 0 s₁.mSendReceiveBufferSize), s₁) := by
      simp only [spdmDeviceReceiveMessage, h, if_pos hspdm]
    rcases hprocess : H.processMessage s₁.device
      (s₁.mSendReceiveBuffer.load 0 s₁.mSendReceiveBufferSize) with ⟨_ | response, device⟩
    · rw [H.dispatches.refused (f := deviceFunctions c w) hreceive hprocess]
    · obtain ⟨buffer, hsend⟩ :=
        H.dispatches.answered (f := deviceFunctions c w) hreceive hprocess
      rw [hsend]
      exact incoming_spdmDeviceSendMessage response
  · have hreceive : spdmDeviceReceiveMessage c w (spdmDeviceAcquireReceiverBuffer s) =
        (.error .unsupportedCap, s₁) := by
      simp only [spdmDeviceReceiveMessage, h, if_neg hspdm]
    rw [H.dispatches.not_received (f := deviceFunctions c w) hreceive]

theorem dispatch_of_not_received {s₁ : Serving δ}
    (h : receiveData c w (spdmDeviceAcquireReceiverBuffer s) = (false, s₁)) :
    H.libspdmResponderDispatchMessage (deviceFunctions c w) s = (c.statusReceiveFail.val, s₁) := by
  have hreceive : spdmDeviceReceiveMessage c w (spdmDeviceAcquireReceiverBuffer s) =
      (.error c.statusReceiveFail.val, s₁) := by
    simp only [spdmDeviceReceiveMessage, h]
  exact H.dispatches.not_received (f := deviceFunctions c w) hreceive

theorem pending_of_receivePayload {unhandled : Bool}
    (h : receivePayload c w H s = (.ok unhandled, s')) :
    s'.incoming.pending.length ≤ s.incoming.pending.length := by
  have hshorter : ∀ t : Serving δ, (receiveData c w t).1 = true →
      (receiveData c w t).2.incoming.pending.length ≤ t.incoming.pending.length := by
    intro t ht
    obtain ⟨bs, hpending⟩ := pending_of_receiveData ht
    rw [hpending, List.length_append]
    exact Nat.le_add_left _ _
  unfold receivePayload at h
  by_cases hdecap : s.mCommand = commandDecapTdisp
  · rw [if_pos hdecap] at h
    rcases hreceive : receiveData c w s with ⟨_ | _, s₁⟩
    · rw [hreceive] at h
      cases h
    · have hle := hshorter s (by rw [hreceive])
      rw [hreceive] at h hle
      cases h
      exact hle
  · rw [if_neg hdecap] at h
    rcases hreceive : receiveData c w (spdmDeviceAcquireReceiverBuffer s) with ⟨_ | _, s₁⟩
    · rw [dispatch_of_not_received hreceive] at h
      simp at h
    · have hle := hshorter (spdmDeviceAcquireReceiverBuffer s) (by rw [hreceive])
      rw [hreceive] at hle
      have hincoming := incoming_dispatch (H := H) hreceive
      rcases hdispatch : H.libspdmResponderDispatchMessage (deviceFunctions c w) s with
        ⟨status, s₂⟩
      rw [hdispatch] at h hincoming
      dsimp only at h hincoming
      split at h
      · cases h
      · cases h
        rw [hincoming]
        exact hle

/-- A pass that does not return has received at least the eight bytes of a command and a transport
type. -/
theorem platformServerBody_decreases (s s' : Serving δ)
    (h : platformServerBody c w H s = .inr s') :
    s'.incoming.pending.length < s.incoming.pending.length := by
  unfold platformServerBody at h
  rcases hpass : platformServerPass c w H s with ⟨_ | _, s₀⟩
  · rw [hpass] at h
    cases h
  · rw [hpass] at h
    cases h
    obtain ⟨_, s₁, hcommand, hpass⟩ := Flow.of_bind_ok hpass
    obtain ⟨_, s₂, htype, hpass⟩ := Flow.of_bind_ok hpass
    obtain ⟨unhandled, s₃, hpayload, hpass⟩ := Flow.of_bind_ok hpass
    have hincoming : s'.incoming = s₃.incoming := by
      cases unhandled with
      | false =>
          cases hpass
          rfl
      | true =>
          have hswitch := incoming_platformCommand (c := c) (w := w) (H := H) (s := s₃)
          rw [show platformCommand c w H s₃ = _ from hpass] at hswitch
          exact hswitch
    have h1 := pending_of_receiveCommand hcommand
    have h2 := pending_of_receiveTransportType htype
    have h3 := pending_of_receivePayload hpayload
    rw [hincoming]
    omega

end Ends

/-- `platform_server` -/
def platformServer (s : Serving δ) : Bool × Serving δ :=
  (platformServerBody c w H).run (fun s => s.incoming.pending.length)
    platformServerBody_decreases s

/-! ## Connections -/

/-- A connection that was accepted: what the client sends before it closes its end, and how the two
directions are cut. -/
structure Connection where
  stream : Bytes
  line : Line

/-- The state of the server on a new connection. -/
def Serving.connect (s : Serving δ) (k : Connection) : Serving δ :=
  { s with incoming := ⟨k.stream, 0⟩, outgoing := ⟨[], 0⟩ }

/-- The loop of `platform_server_routine` over the connections that `accept` returns, without the
role inquiry of the TCP transport: the result, and what was sent on each connection. Behind the last
one `accept` fails. -/
def platformServerRoutine : List Connection → Serving δ → Bool × List Bytes × Serving δ
  | [], s => (false, [], s)
  | k :: ks, s =>
      let (continueServing, s) := platformServer c k.line H (s.connect k)
      if continueServing then
        let (result, sent, s') := platformServerRoutine ks s
        (result, s.outgoing.sent :: sent, s')
      else (true, [s.outgoing.sent], s)

end Server

end SpdmEmu.Emulator
