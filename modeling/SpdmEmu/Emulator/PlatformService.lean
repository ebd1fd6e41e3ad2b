import SpdmEmu.Emulator.PlatformServer

/-!
# What the platform server does, message by message

`serve` says what one message does: the answer, whether the connection goes on, and the new state of
the device. A pass of the loop works on bytes, with a buffer and a socket whose transfers are cut in
any way; on the bytes of a message it does what `serve` does on the message
(`platformServerPass_serves`). A message that is not complete has no effect but that it ends the
connection (`platformServerPass_of_incomplete`).
-/

set_option autoImplicit false

namespace SpdmEmu.Emulator

open SpdmEmu.Wire SpdmEmu.Libspdm SpdmEmu.Socket SpdmEmu.Run

/-! ## One message -/

/-- What a message leads to: an answer, and the result if the connection ends. -/
structure Outcome where
  reply : Option Message
  finished : Option Bool
deriving DecidableEq, Repr

/-- The connection goes on. -/
def Outcome.next (reply : Option Message) : Outcome := ⟨reply, none⟩

/-- The connection ends. -/
def Outcome.last (reply : Option Message) (continueServing : Bool) : Outcome :=
  ⟨reply, some continueServing⟩

section Serve

variable {δ : Type} (c : ServerConfig) (H : ServerHandlers δ)

/-- An answer that a handler writes. -/
def handlerOutcome (unwritten : Bytes) (handle : δ → Bytes → Reply × δ) (d : δ) (payload : Bytes) :
    Outcome × δ :=
  let (reply, d) := handle d payload
  if reply.status.isError then (.last none true, d)
  else (.next (some ⟨commandNormal, reply.written.getD unwritten⟩), d)

/-- A message that is not for libspdm. -/
def commandOutcome (d : δ) (m : Message) : Outcome × δ :=
  if m.command = commandTest then (.next (some ⟨commandTest, serverHello⟩), d)
  else if m.command = commandOobEncapKeyUpdate then
    if c.keyUpdateEncap then
      (.next (some ⟨commandOobEncapKeyUpdate, []⟩), H.initKeyUpdateEncapStateWithSession
        (if m.payload.length = 4 then value32 c.host m.payload else 0) d)
    else (.next none, d)
  else if m.command = commandOobEncapEndpointInfo then
    if c.endpointInfoEncap then
      (.next (some ⟨commandOobEncapEndpointInfo, []⟩), H.initGetEndpointInfoEncapState d)
    else (.next none, d)
  else if m.command = commandShutdown then (.last (some ⟨commandShutdown, []⟩) false, d)
  else if m.command = commandContinue then (.last (some ⟨commandContinue, []⟩) true, d)
  else if m.command = commandNormal then
    if c.mUseTransportLayer = socketTransportTypePciDoe then
      handlerOutcome c.response H.pciDoeGetResponseDoeRequest d m.payload
    else (.last none true, d)
  else if m.command = commandDecapTdisp then
    if c.mDecapTdisp then handlerOutcome c.tdispResponse H.pciTdispGetResponse d m.payload
    else (.last none true, d)
  else (.last (some ⟨commandUnkown, []⟩) true, d)

/-- A message for libspdm, which may hand it back. -/
def normalOutcome (d : δ) (m : Message) : Outcome × δ :=
  match H.processMessage d m.payload with
  | (.ok response, d) => (.next (some ⟨commandNormal, response⟩), d)
  | (.error status, d) =>
      if status = c.statusSendFail.val ∨ status = c.statusReceiveFail.val then (.last none false, d)
      else if status = .unsupportedCap then commandOutcome c H d m
      else (.next none, d)

/-- The payload fits the buffer of the server. -/
def Fits (m : Message) : Prop := m.payload.length ≤ c.bufferSize

instance (m : Message) : Decidable (Fits c m) := inferInstanceAs (Decidable (_ ≤ _))

/-- A message of the transport type of the server. -/
def payloadOutcome (d : δ) (m : Message) : Outcome × δ :=
  if ¬ Fits c m then (.last none (m.command == commandDecapTdisp), d)
  else if m.command = commandNormal then normalOutcome c H d m
  else commandOutcome c H d m

/-- The server takes messages of this transport type. -/
def Understands (transportType : UInt32) : Prop :=
  c.mDecapTdisp = true ∨ transportType = c.mUseTransportLayer

instance (transportType : UInt32) : Decidable (Understands c transportType) :=
  inferInstanceAs (Decidable (_ ∨ _))

/-- What a message of a transport type does. -/
def serve (d : δ) (transportType : UInt32) (m : Message) : Outcome × δ :=
  if ¬ Understands c transportType then (.last none false, d) else payloadOutcome c H d m

/-- What receiving the message does to the packet capture. -/
def receivedEvents (transportType : UInt32) (m : Message) : List PcapEvent :=
  if Understands c transportType ∧ Fits c m then
    (pcapEvent c.mUseTransportLayer m.command m.payload).toList
  else []

end Serve

/-! ## Answering -/

section Pass

variable {δ : Type} {c : ServerConfig} {w : Line} {H : ServerHandlers δ} {s : Serving δ}
  {m : Message}

/-- How a pass ends. -/
def Outcome.result (o : Outcome) : Except Bool Unit :=
  match o.finished with
  | none => .ok ()
  | some continueServing => .error continueServing

/-- The bytes of the answer. -/
def Outcome.bytes (c : ServerConfig) (o : Outcome) : Bytes :=
  streamOf c.mUseTransportLayer o.reply.toList

/-- What the answer does to the packet capture. -/
def Outcome.events (c : ServerConfig) (o : Outcome) : List PcapEvent :=
  o.reply.toList.flatMap fun m => (pcapEvent c.mUseTransportLayer m.command m.payload).toList

@[simp] theorem Outcome.bytes_none (finished : Option Bool) :
    (⟨none, finished⟩ : Outcome).bytes c = [] := rfl

@[simp] theorem Outcome.bytes_some (m : Message) (finished : Option Bool) :
    (⟨some m, finished⟩ : Outcome).bytes c = messageBytes c.mUseTransportLayer m :=
  List.append_nil _

@[simp] theorem Outcome.events_none (finished : Option Bool) :
    (⟨none, finished⟩ : Outcome).events c = [] := rfl

@[simp] theorem Outcome.events_some (m : Message) (finished : Option Bool) :
    (⟨some m, finished⟩ : Outcome).events c =
      (pcapEvent c.mUseTransportLayer m.command m.payload).toList :=
  List.append_nil _

/-- The answer has a length that can be sent. -/
def Outcome.Short (o : Outcome) : Prop := ∀ m ∈ o.reply, m.payload.length < 2 ^ 31

/-- From the state `s` the server has done what the outcome says, and left the incoming bytes. -/
structure Served (c : ServerConfig) (o : Outcome) (d : δ) (incoming : Incoming) (s : Serving δ)
    (r : Except Bool Unit × Serving δ) : Prop where
  result : r.1 = o.result
  device : r.2.device = d
  incoming : r.2.incoming = incoming
  sent : r.2.outgoing.sent = s.outgoing.sent ++ o.bytes c
  pcap : r.2.pcap = s.pcap ++ o.events c

theorem sendData_of_reliable (hw : w.sent.Reliable) (command : UInt32) {bytes : Bytes}
    (hlength : bytes.length < 2 ^ 31) (s : Serving δ) :
    ∃ calls, sendData c w command bytes s =
      (true, { s with
        outgoing :=
          ⟨s.outgoing.sent ++ messageBytes c.mUseTransportLayer ⟨command, bytes⟩, calls⟩
        pcap := s.pcap ++ (pcapEvent c.mUseTransportLayer command bytes).toList }) := by
  have hm : (⟨command, bytes⟩ : Message).payload.length < 2 ^ 31 := hlength
  obtain ⟨calls, hsend⟩ :=
    sendPlatformData_of_reliable c.host hw c.mUseTransportLayer s.outgoing hm
  exact ⟨calls, by simp only [sendData, hsend]⟩

theorem served_sendOrReturn (hw : w.sent.Reliable) (command : UInt32) {bytes : Bytes}
    (hlength : bytes.length < 2 ^ 31) (d : δ) :
    Served c (.next (some ⟨command, bytes⟩)) d s.incoming s
      (sendOrReturn c w command bytes { s with device := d }) := by
  obtain ⟨calls, hsend⟩ := sendData_of_reliable (c := c) hw command hlength { s with device := d }
  rw [sendOrReturn, hsend]
  exact
    { result := rfl
      device := rfl
      incoming := rfl
      sent := by rw [Outcome.next, Outcome.bytes_some]
      pcap := by rw [Outcome.next, Outcome.events_some] }

theorem served_sendAndReturn (hw : w.sent.Reliable) (command : UInt32) (result : Bool) :
    Served c (.last (some ⟨command, []⟩) result) s.device s.incoming s
      (sendAndReturn c w command result s) := by
  obtain ⟨calls, hsend⟩ := sendData_of_reliable (c := c) hw command
    (show ([] : Bytes).length < 2 ^ 31 by decide) s
  rw [sendAndReturn, hsend]
  exact
    { result := rfl
      device := rfl
      incoming := rfl
      sent := by rw [Outcome.last, Outcome.bytes_some]
      pcap := by rw [Outcome.last, Outcome.events_some] }

/-- Nothing is sent. -/
theorem served_silent (finished : Option Bool) (d : δ) :
    Served c ⟨none, finished⟩ d s.incoming s
      ((⟨none, finished⟩ : Outcome).result, { s with device := d }) :=
  ⟨rfl, rfl, rfl, (List.append_nil _).symm, (List.append_nil _).symm⟩

theorem served_answerWith (hw : w.sent.Reliable) {unwritten : Bytes}
    {handle : δ → Bytes → Reply × δ}
    (hload : s.mSendReceiveBuffer.load 0 s.mSendReceiveBufferSize = m.payload)
    (hshort : (handlerOutcome unwritten handle s.device m.payload).1.Short) :
    Served c (handlerOutcome unwritten handle s.device m.payload).1
      (handlerOutcome unwritten handle s.device m.payload).2 s.incoming s
      (answerWith c w commandNormal unwritten handle s) := by
  unfold handlerOutcome at hshort ⊢
  unfold answerWith
  rw [hload]
  generalize handle s.device m.payload = handled at hshort ⊢
  obtain ⟨reply, d⟩ := handled
  dsimp only at hshort ⊢
  cases herror : reply.status.isError with
  | true =>
      simp only [if_true]
      exact served_silent (some true) d
  | false =>
      simp only [herror, Bool.false_eq_true, if_false] at hshort ⊢
      exact served_sendOrReturn hw commandNormal (hshort _ rfl) d

/-- A branch of the server and the branch of the outcome on the same condition. -/
theorem served_ite {p : Prop} [Decidable p] {o o' : Outcome × δ}
    {r r' : Except Bool Unit × Serving δ} (hpos : o.1.Short → Served c o.1 o.2 s.incoming s r)
    (hneg : o'.1.Short → Served c o'.1 o'.2 s.incoming s r') :
    (if p then o else o').1.Short →
      Served c (if p then o else o').1 (if p then o else o').2 s.incoming s
        (if p then r else r') := by
  by_cases h : p
  · simpa only [if_pos h] using hpos
  · simpa only [if_neg h] using hneg

/-- The `switch` does what the message asks for. -/
theorem served_platformCommand (hw : w.sent.Reliable) (hcommand : s.mCommand = m.command)
    (hload : s.mSendReceiveBuffer.load 0 s.mSendReceiveBufferSize = m.payload)
    (hsize : s.mSendReceiveBufferSize = m.payload.length) :
    (commandOutcome c H s.device m).1.Short →
      Served c (commandOutcome c H s.device m).1 (commandOutcome c H s.device m).2 s.incoming s
        (platformCommand c w H s) := by
  have hhello : serverHello.length < 2 ^ 31 := by decide
  have hempty : ([] : Bytes).length < 2 ^ 31 := by decide
  have hid : (if s.mSendReceiveBufferSize = 4 then value32 c.host (s.mSendReceiveBuffer.load 0 4)
      else 0) = if m.payload.length = 4 then value32 c.host m.payload else 0 := by
    rw [hsize]
    by_cases hfour : m.payload.length = 4
    · rw [if_pos hfour, if_pos hfour, ← hload, hsize, hfour]
    · rw [if_neg hfour, if_neg hfour]
  unfold platformCommand commandOutcome
  rw [← hcommand, hid]
  -- case by case, in the order of the `switch`
  refine served_ite (fun _ => served_sendOrReturn hw commandTest hhello s.device) ?_
  refine served_ite (served_ite (fun _ => served_sendOrReturn hw commandOobEncapKeyUpdate hempty _)
    fun _ => served_silent none s.device) ?_
  refine served_ite (served_ite
    (fun _ => served_sendOrReturn hw commandOobEncapEndpointInfo hempty _)
    fun _ => served_silent none s.device) ?_
  refine served_ite (fun _ => served_sendAndReturn hw commandShutdown false) ?_
  refine served_ite (fun _ => served_sendAndReturn hw commandContinue true) ?_
  refine served_ite (served_ite (served_answerWith hw hload)
    fun _ => served_silent (some true) s.device) ?_
  refine served_ite (served_ite (served_answerWith hw hload)
    fun _ => served_silent (some true) s.device) ?_
  exact fun _ => served_sendAndReturn hw commandUnkown true

/-! ## Receiving -/

/-- The message is in the buffer of the server, and the bytes behind it are still to be received. -/
structure Loaded (c : ServerConfig) (m : Message) (d : δ) (rest : Bytes) (s s₁ : Serving δ) :
    Prop where
  command : s₁.mCommand = m.command
  load : s₁.mSendReceiveBuffer.load 0 s₁.mSendReceiveBufferSize = m.payload
  size : s₁.mSendReceiveBufferSize = m.payload.length
  device : s₁.device = d
  sent : s₁.outgoing = s.outgoing
  pcap : s₁.pcap = s.pcap ++ (pcapEvent c.mUseTransportLayer m.command m.payload).toList
  pending : s₁.incoming.pending = rest

/-- A payload that fits is received, whatever the buffer held before. -/
theorem loaded_receiveData (hr : w.received.Reliable) (hbuffer : c.bufferSize < 2 ^ 31)
    (hfits : Fits c m) (hcommand : s.mCommand = m.command) {rest : Bytes}
    (hpending : s.incoming.pending =
      bytes32 .big (UInt32.ofNat m.payload.length) ++ (m.payload ++ rest)) (buffer : Mem) :
    ∃ s₁, receiveData c w { s with mSendReceiveBuffer := buffer } = (true, s₁) ∧
      Loaded c m s.device rest s s₁ := by
  have hlength : m.payload.length < 2 ^ 31 := Nat.lt_of_le_of_lt hfits hbuffer
  have hmod : m.payload.length ≤ c.bufferSize % 2 ^ 32 := by
    rw [Nat.mod_eq_of_lt (by omega)]
    exact hfits
  obtain ⟨calls, hreceive⟩ := receivePlatformData_of_reliable c.host hr c.mUseTransportLayer
    hlength hmod rest s.incoming.calls s.mCommand buffer
  rw [← hpending] at hreceive
  refine ⟨{ s with
    mSendReceiveBuffer := buffer.store 0 m.payload
    mSendReceiveBufferSize := m.payload.length
    incoming := ⟨rest, calls⟩
    pcap := s.pcap ++ (pcapEvent c.mUseTransportLayer s.mCommand m.payload).toList }, ?_, ?_⟩
  · simp only [receiveData, hreceive]
  · exact
      { command := hcommand
        load := buffer.load_store 0 m.payload
        size := rfl
        device := rfl
        sent := rfl
        pcap := by rw [hcommand]
        pending := rfl }

/-- A payload that is not received leaves the device, what was sent and the capture alone. -/
theorem receiveData_of_not_received {s₁ : Serving δ} (h : receiveData c w s = (false, s₁)) :
    s₁.device = s.device ∧ s₁.outgoing = s.outgoing ∧ s₁.pcap = s.pcap := by
  have hresult : (receivePlatformData c.host w.received c.mUseTransportLayer s.incoming s.mCommand
      s.mSendReceiveBuffer c.bufferSize).result = false := congrArg Prod.fst h
  have hpcap : (receivePlatformData c.host w.received c.mUseTransportLayer s.incoming s.mCommand
      s.mSendReceiveBuffer c.bufferSize).pcap = none := by
    unfold receivePlatformData at hresult ⊢
    dsimp only at hresult ⊢
    split_ifs at hresult ⊢ <;> rfl
  rw [← show (receiveData c w s).2 = s₁ from congrArg Prod.snd h]
  exact ⟨rfl, rfl, by simp [receiveData, hpcap]⟩

/-- A payload is received only if it fits and is there. -/
theorem receiveData_of_pending
    (hnot : c.bufferSize < (value32 .big s.incoming.pending).toNat ∨
      s.incoming.pending.length < 4 + (value32 .big s.incoming.pending).toNat) :
    (receiveData c w s).1 = false := by
  refine Bool.eq_false_iff.2 fun hok => ?_
  obtain ⟨bs, -, hle, hdone⟩ := receivePlatformData_takes c.host w.received c.mUseTransportLayer
    s.incoming s.mCommand s.mSendReceiveBuffer c.bufferSize
  obtain ⟨hlt, -, -, hstream⟩ := hdone hok
  have hsize : bs.length ≤ c.bufferSize := hle.trans (Nat.mod_le _ _)
  rw [hstream, value32_bytes32_append, UInt32.toNat_ofNat_of_lt' hlt, List.length_append,
    length_bytes32, List.length_append] at hnot
  omega

/-! ## One pass -/

/-- The second half of a pass, from the length of the payload on. -/
def payloadPass (c : ServerConfig) (w : Line) (H : ServerHandlers δ) :
    Flow (Serving δ) Bool Unit := do
  let unhandled ← receivePayload c w H
  if unhandled then platformCommand c w H

/-- What a pass has done: the outcome, and the bytes behind the message if it goes on. -/
structure PassServed (c : ServerConfig) (o : Outcome) (d : δ) (received : List PcapEvent)
    (rest : Bytes) (s : Serving δ) (r : Except Bool Unit × Serving δ) : Prop where
  result : r.1 = o.result
  device : r.2.device = d
  sent : r.2.outgoing.sent = s.outgoing.sent ++ o.bytes c
  pcap : r.2.pcap = s.pcap ++ received ++ o.events c
  pending : o.finished = none → r.2.incoming.pending = rest

theorem Served.pass {o : Outcome} {d : δ} {received : List PcapEvent} {incoming : Incoming}
    {s₁ : Serving δ} {r : Except Bool Unit × Serving δ} (h : Served c o d incoming s₁ r)
    (hsent : s₁.outgoing = s.outgoing) (hpcap : s₁.pcap = s.pcap ++ received) :
    PassServed c o d received incoming.pending s r where
  result := h.result
  device := h.device
  sent := by rw [h.sent, hsent]
  pcap := by rw [h.pcap, hpcap]
  pending _ := by rw [h.incoming]

/-- A pass that returns and has done nothing else. -/
theorem passServed_silent {s₁ : Serving δ}
    (h : s₁.device = s.device ∧ s₁.outgoing = s.outgoing ∧ s₁.pcap = s.pcap) (result : Bool)
    (rest : Bytes) :
    PassServed c (.last none result) s.device [] rest s (.error result, s₁) := by
  obtain ⟨hdevice, hsent, hpcap⟩ := h
  exact
    { result := rfl
      device := hdevice
      sent := by rw [hsent, Outcome.last, Outcome.bytes_none, List.append_nil]
      pcap := by rw [hpcap, Outcome.last, Outcome.events_none, List.append_nil, List.append_nil]
      pending := nofun }

theorem payloadPass_of_decap (hdecap : s.mCommand = commandDecapTdisp) {received : Bool}
    {s₁ : Serving δ} (h : receiveData c w s = (received, s₁)) :
    payloadPass c w H s =
      if received then platformCommand c w H s₁ else (.error true, s₁) := by
  cases received with
  | false =>
      have hpayload : receivePayload c w H s = (.error true, s₁) := by
        rw [receivePayload, if_pos hdecap, h]
      rw [payloadPass, Flow.bind_of_error hpayload]
      rfl
  | true =>
      have hpayload : receivePayload c w H s = (.ok true, s₁) := by
        rw [receivePayload, if_pos hdecap, h]
      rw [payloadPass, Flow.bind_of_ok hpayload]
      rfl

theorem payloadPass_of_dispatch (hdecap : s.mCommand ≠ commandDecapTdisp)
    {status : LibspdmReturn} {s₁ : Serving δ}
    (h : H.libspdmResponderDispatchMessage (deviceFunctions c w) s = (status, s₁)) :
    payloadPass c w H s =
      if status = c.statusSendFail.val ∨ status = c.statusReceiveFail.val then (.error false, s₁)
      else if status = .unsupportedCap then platformCommand c w H s₁
      else (.ok (), s₁) := by
  by_cases hstop : status = c.statusSendFail.val ∨ status = c.statusReceiveFail.val
  · have hpayload : receivePayload c w H s = (.error false, s₁) := by
      simp only [receivePayload, if_neg hdecap, h, if_pos hstop]
    rw [payloadPass, Flow.bind_of_error hpayload, if_pos hstop]
  · have hpayload : receivePayload c w H s = (.ok (status == .unsupportedCap), s₁) := by
      simp only [receivePayload, if_neg hdecap, h, if_neg hstop]
    rw [payloadPass, Flow.bind_of_ok hpayload, if_neg hstop]
    by_cases hback : status = .unsupportedCap
    · rw [if_pos hback, if_pos (beq_iff_eq.2 hback)]
    · rw [if_neg hback, if_neg (mt beq_iff_eq.1 hback)]
      rfl

/-- A payload that is not received ends the connection and does nothing else. -/
theorem payloadPass_of_not_received (hnot : ∀ buffer : Mem,
      (receiveData c w { s with mSendReceiveBuffer := buffer }).1 = false) (rest : Bytes) :
    PassServed c (.last none (s.mCommand == commandDecapTdisp)) s.device [] rest s
      (payloadPass c w H s) := by
  by_cases hdecap : s.mCommand = commandDecapTdisp
  · rcases hreceive : receiveData c w s with ⟨result, s₁⟩
    obtain rfl : result = false := (congrArg Prod.fst hreceive).symm.trans (hnot _)
    rw [payloadPass_of_decap hdecap hreceive, beq_iff_eq.2 hdecap]
    exact passServed_silent (receiveData_of_not_received hreceive) true rest
  · rcases hreceive : receiveData c w (spdmDeviceAcquireReceiverBuffer s) with ⟨result, s₁⟩
    obtain rfl : result = false := (congrArg Prod.fst hreceive).symm.trans (hnot _)
    -- what is kept of the state with the zeroed buffer is kept of `s`
    have hkept := receiveData_of_not_received hreceive
    rw [payloadPass_of_dispatch hdecap (dispatch_of_not_received hreceive),
      if_pos (Or.inr rfl), beq_eq_false_iff_ne.2 hdecap]
    exact passServed_silent (s := s) hkept false rest

section Fits

variable {d : δ} {rest : Bytes} {s₁ : Serving δ}

theorem Loaded.served (hw : w.sent.Reliable) (h : Loaded c m d rest s s₁)
    (hshort : (commandOutcome c H d m).1.Short) :
    PassServed c (commandOutcome c H d m).1 (commandOutcome c H d m).2
      (pcapEvent c.mUseTransportLayer m.command m.payload).toList rest s
      (platformCommand c w H s₁) := by
  obtain ⟨hcommand, hload, hsize, rfl, hsent, hpcap, rfl⟩ := h
  exact (served_platformCommand hw hcommand hload hsize hshort).pass hsent hpcap

/-- The device may have changed since. -/
theorem Loaded.withDevice (h : Loaded c m d rest s s₁) (d' : δ) :
    Loaded c m d' rest s { s₁ with device := d' } :=
  { h with device := rfl }

/-- libspdm sees the message in the buffer. -/
theorem Loaded.request (h : Loaded c m d rest s s₁) (hnormal : m.command = commandNormal)
    (hreceive : receiveData c w (spdmDeviceAcquireReceiverBuffer s) = (true, s₁)) :
    spdmDeviceReceiveMessage c w (spdmDeviceAcquireReceiverBuffer s) =
      (.ok m.payload, s₁) := by
  have hspdm : s₁.mCommand = commandNormal ∨ s₁.mCommand = commandDecapTdisp :=
    .inl (h.command.trans hnormal)
  simp only [spdmDeviceReceiveMessage, hreceive, if_pos hspdm, h.load]

/-- libspdm answers, and the answer is sent. -/
theorem Loaded.answered (hw : w.sent.Reliable) (h : Loaded c m d rest s s₁)
    (hdecap : s.mCommand ≠ commandDecapTdisp)
    (hrequest : spdmDeviceReceiveMessage c w (spdmDeviceAcquireReceiverBuffer s) =
      (.ok m.payload, s₁))
    {response : Bytes} {d' : δ} (hprocess : H.processMessage d m.payload = (.ok response, d'))
    (hlength : response.length < 2 ^ 31) :
    PassServed c (.next (some ⟨commandNormal, response⟩)) d'
      (pcapEvent c.mUseTransportLayer m.command m.payload).toList rest s (payloadPass c w H s) := by
  rw [← h.device] at hprocess
  obtain ⟨buffer, hanswered⟩ :=
    H.dispatches.answered (f := deviceFunctions c w) hrequest hprocess
  obtain ⟨s₂, hsend⟩ : ∃ s₂, sendData c w commandNormal response
      { s₁ with device := d', mSendReceiveBuffer := buffer } = (true, s₂) := by
    obtain ⟨calls, hsend⟩ := sendData_of_reliable (c := c) hw commandNormal hlength _
    exact ⟨_, hsend⟩
  have hdispatch :
      H.libspdmResponderDispatchMessage (deviceFunctions c w) s = (.success, s₂) := by
    rw [hanswered]
    simp only [deviceFunctions, spdmDeviceSendMessage, hsend]
  have hserved := (served_sendOrReturn (c := c) (s := { s₁ with mSendReceiveBuffer := buffer }) hw
    commandNormal hlength d').pass h.sent h.pcap
  rw [sendOrReturn, hsend, h.pending] at hserved
  -- a success is none of the statuses that the loop looks for
  have hgo : ¬ (LibspdmReturn.success = c.statusSendFail.val ∨
      LibspdmReturn.success = c.statusReceiveFail.val) := by
    rintro (hfail | hfail)
    · exact absurd c.statusSendFail.2 (by rw [← hfail]; decide)
    · exact absurd c.statusReceiveFail.2 (by rw [← hfail]; decide)
  rw [payloadPass_of_dispatch hdecap hdispatch, if_neg hgo, if_neg (by decide)]
  exact hserved

/-- A message for libspdm is answered, refused or handed back. -/
theorem Loaded.normal (hw : w.sent.Reliable) (h : Loaded c m d rest s s₁)
    (hnormal : m.command = commandNormal) (hdecap : s.mCommand ≠ commandDecapTdisp)
    (hreceive : receiveData c w (spdmDeviceAcquireReceiverBuffer s) = (true, s₁))
    (hshort : (normalOutcome c H d m).1.Short) :
    PassServed c (normalOutcome c H d m).1 (normalOutcome c H d m).2
      (pcapEvent c.mUseTransportLayer m.command m.payload).toList rest s (payloadPass c w H s) := by
  have hrequest := h.request hnormal hreceive
  unfold normalOutcome at hshort ⊢
  rcases hprocess : H.processMessage d m.payload with ⟨status | response, d'⟩
  · have hdispatch : H.libspdmResponderDispatchMessage (deviceFunctions c w) s =
        (status, { s₁ with device := d' }) :=
      H.dispatches.refused (f := deviceFunctions c w) hrequest (by rw [h.device, hprocess])
    rw [hprocess] at hshort
    dsimp only at hshort ⊢
    rw [payloadPass_of_dispatch hdecap hdispatch]
    by_cases hstop : status = c.statusSendFail.val ∨ status = c.statusReceiveFail.val
    · rw [if_pos hstop, if_pos hstop, ← h.pending]
      exact (served_silent (some false) d').pass h.sent h.pcap
    · rw [if_neg hstop] at hshort
      rw [if_neg hstop, if_neg hstop]
      by_cases hback : status = .unsupportedCap
      · rw [if_pos hback] at hshort
        rw [if_pos hback, if_pos hback]
        exact (h.withDevice d').served hw hshort
      · rw [if_neg hback, if_neg hback, ← h.pending]
        exact (served_silent none d').pass h.sent h.pcap
  · rw [hprocess] at hshort
    exact h.answered hw hdecap hrequest hprocess (hshort _ rfl)

/-- A message that is not for libspdm is handed back. -/
theorem Loaded.other (hw : w.sent.Reliable) (h : Loaded c m d rest s s₁)
    (hnormal : m.command ≠ commandNormal) (hdecap : m.command ≠ commandDecapTdisp)
    (hcommand : s.mCommand = m.command)
    (hreceive : receiveData c w (spdmDeviceAcquireReceiverBuffer s) = (true, s₁))
    (hshort : (commandOutcome c H d m).1.Short) :
    PassServed c (commandOutcome c H d m).1 (commandOutcome c H d m).2
      (pcapEvent c.mUseTransportLayer m.command m.payload).toList rest s (payloadPass c w H s) := by
  have hspdm : ¬ (s₁.mCommand = commandNormal ∨ s₁.mCommand = commandDecapTdisp) := by
    rw [h.command]
    exact not_or.2 ⟨hnormal, hdecap⟩
  have hreturned : spdmDeviceReceiveMessage c w (spdmDeviceAcquireReceiverBuffer s) =
      (.error .unsupportedCap, s₁) := by
    simp only [spdmDeviceReceiveMessage, hreceive, if_neg hspdm]
  have hdispatch :
      H.libspdmResponderDispatchMessage (deviceFunctions c w) s = (.unsupportedCap, s₁) :=
    H.dispatches.not_received (f := deviceFunctions c w) hreturned
  have hgo : ¬ (LibspdmReturn.unsupportedCap = c.statusSendFail.val ∨
      LibspdmReturn.unsupportedCap = c.statusReceiveFail.val) :=
    not_or.2 ⟨c.sendFail_ne.symm, c.receiveFail_ne.symm⟩
  rw [payloadPass_of_dispatch (by rwa [hcommand]) hdispatch, if_neg hgo, if_pos rfl]
  exact h.served hw hshort

/-- A payload that fits does what the message asks for. -/
theorem payloadPass_of_fits (hr : w.received.Reliable) (hw : w.sent.Reliable)
    (hbuffer : c.bufferSize < 2 ^ 31) (hfits : Fits c m) (hcommand : s.mCommand = m.command)
    (hpending : s.incoming.pending =
      bytes32 .big (UInt32.ofNat m.payload.length) ++ (m.payload ++ rest))
    (hshort : (payloadOutcome c H s.device m).1.Short) :
    PassServed c (payloadOutcome c H s.device m).1 (payloadOutcome c H s.device m).2
      (pcapEvent c.mUseTransportLayer m.command m.payload).toList rest s (payloadPass c w H s) := by
  have hloaded := loaded_receiveData hr hbuffer hfits hcommand hpending
  unfold payloadOutcome at hshort ⊢
  rw [if_neg (not_not.2 hfits)] at hshort ⊢
  by_cases hdecap : m.command = commandDecapTdisp
  · obtain ⟨s₁, hreceive, h⟩ := hloaded s.mSendReceiveBuffer
    have hnormal : m.command ≠ commandNormal := by
      rw [hdecap]
      decide
    rw [if_neg hnormal] at hshort ⊢
    rw [payloadPass_of_decap (hcommand.trans hdecap) hreceive]
    exact h.served hw hshort
  · obtain ⟨s₁, hreceive, h⟩ := hloaded fun _ => 0
    by_cases hnormal : m.command = commandNormal
    · rw [if_pos hnormal] at hshort ⊢
      exact h.normal hw hnormal (by rwa [hcommand]) hreceive hshort
    · rw [if_neg hnormal] at hshort ⊢
      exact h.other hw hnormal hdecap hcommand hreceive hshort

end Fits

/-! ## A message, from its first byte -/

theorem receiveCommand_of_reliable (hr : w.received.Reliable) {command : UInt32} {rest : Bytes}
    (hpending : s.incoming.pending = bytes32 .big command ++ rest) :
    ∃ calls, receiveCommand c w s =
      (.ok (), { s with mCommand := command, incoming := ⟨rest, calls⟩ }) := by
  obtain ⟨calls, hread⟩ := readData32_of_reliable c.host hr command rest s.incoming.calls
  rw [← hpending] at hread
  exact ⟨calls, by simp only [receiveCommand, receivePlatformCommand, hread]⟩

theorem receiveTransportType_of_reliable (hr : w.received.Reliable) {transportType : UInt32}
    {rest : Bytes} (hpending : s.incoming.pending = bytes32 .big transportType ++ rest) :
    ∃ calls, receiveTransportType c w s =
      (if Understands c transportType then .ok () else .error false,
        { s with incoming := ⟨rest, calls⟩ }) := by
  obtain ⟨calls, hread⟩ := readData32_of_reliable c.host hr transportType rest s.incoming.calls
  rw [← hpending] at hread
  refine ⟨calls, ?_⟩
  simp only [receiveTransportType, receivePlatformTransportType_eq, hread]
  by_cases hunderstands : Understands c transportType
  · have hcheck : (!c.mDecapTdisp && transportType != c.mUseTransportLayer) = false := by
      rcases hunderstands with h | h <;> simp [h]
    rw [if_pos hunderstands, hcheck]
    rfl
  · have hcheck : (!c.mDecapTdisp && transportType != c.mUseTransportLayer) = true := by
      simpa [Understands] using hunderstands
    rw [if_neg hunderstands, hcheck]
    rfl

/-- A command and a transport type were received. -/
structure Headed (command : UInt32) (rest : Bytes) (s s₁ : Serving δ) : Prop where
  command : s₁.mCommand = command
  pending : s₁.incoming.pending = rest
  device : s₁.device = s.device
  sent : s₁.outgoing = s.outgoing
  pcap : s₁.pcap = s.pcap

theorem PassServed.of_headed {o : Outcome} {d : δ} {received : List PcapEvent} {rest rest' : Bytes}
    {command : UInt32} {s₁ : Serving δ} {r : Except Bool Unit × Serving δ}
    (h : PassServed c o d received rest s₁ r) (hheaded : Headed command rest' s s₁) :
    PassServed c o d received rest s r :=
  { h with
    sent := by rw [h.sent, hheaded.sent]
    pcap := by rw [h.pcap, hheaded.pcap] }

/-- The payload follows a header of a transport type that is understood. -/
theorem platformServerPass_of_header (hr : w.received.Reliable) {command transportType : UInt32}
    {rest : Bytes} (hpending : s.incoming.pending =
      bytes32 .big command ++ (bytes32 .big transportType ++ rest)) :
    ∃ s₁, Headed command rest s s₁ ∧ platformServerPass c w H s =
      if Understands c transportType then payloadPass c w H s₁ else (.error false, s₁) := by
  obtain ⟨calls₁, hcommand⟩ := receiveCommand_of_reliable (c := c) hr hpending
  obtain ⟨calls₂, htype⟩ := receiveTransportType_of_reliable (c := c)
    (s := { s with mCommand := command, incoming := ⟨_, calls₁⟩ }) hr rfl
  refine ⟨{ s with mCommand := command, incoming := ⟨rest, calls₂⟩ },
    ⟨rfl, rfl, rfl, rfl, rfl⟩, ?_⟩
  rw [platformServerPass, Flow.bind_of_ok hcommand]
  by_cases hunderstands : Understands c transportType
  · rw [if_pos hunderstands] at htype ⊢
    rw [Flow.bind_of_ok htype]
    rfl
  · rw [if_neg hunderstands] at htype ⊢
    rw [Flow.bind_of_error htype]

/-- **A pass serves one message.** -/
theorem platformServerPass_serves (hr : w.received.Reliable) (hw : w.sent.Reliable)
    (hbuffer : c.bufferSize < 2 ^ 31) {transportType : UInt32} {rest : Bytes}
    (hlength : m.payload.length < 2 ^ 32)
    (hpending : s.incoming.pending = messageBytes transportType m ++ rest)
    (hshort : (serve c H s.device transportType m).1.Short) :
    PassServed c (serve c H s.device transportType m).1 (serve c H s.device transportType m).2
      (receivedEvents c transportType m) rest s (platformServerPass c w H s) := by
  simp only [messageBytes, List.append_assoc] at hpending
  obtain ⟨s₁, h, hpass⟩ := platformServerPass_of_header (c := c) (H := H) hr hpending
  rw [hpass]
  unfold serve at hshort ⊢
  unfold receivedEvents
  by_cases hunderstands : Understands c transportType
  · rw [if_neg (not_not.2 hunderstands), ← h.device] at hshort ⊢
    rw [if_pos hunderstands]
    by_cases hfits : Fits c m
    · rw [if_pos ⟨hunderstands, hfits⟩]
      exact (payloadPass_of_fits hr hw hbuffer hfits h.command h.pending hshort).of_headed h
    · have hlong : c.bufferSize < (value32 .big s₁.incoming.pending).toNat := by
        rw [h.pending, value32_bytes32_append, UInt32.toNat_ofNat_of_lt' hlength]
        exact Nat.lt_of_not_le hfits
      rw [if_neg fun hboth => hfits hboth.2, payloadOutcome, if_pos hfits, ← h.command]
      exact (payloadPass_of_not_received (fun _ => receiveData_of_pending (.inl hlong))
        rest).of_headed h
  · rw [if_pos hunderstands, if_neg hunderstands, if_neg fun hboth => hunderstands hboth.1]
    exact passServed_silent ⟨h.device, h.sent, h.pcap⟩ false rest

/-! ## A message that is not complete -/

/-- The stream ends before the message that it begins with. -/
def Incomplete (tail : Bytes) : Prop := tail.length < headerLength + declaredLength tail

instance (tail : Bytes) : Decidable (Incomplete tail) := inferInstanceAs (Decidable (_ < _))

/-- The server goes on with the next connection if it was about to drain the payload itself. -/
def incompleteResult (c : ServerConfig) (tail : Bytes) : Bool :=
  decide (8 ≤ tail.length ∧ Understands c (declaredTransport tail) ∧
    value32 .big tail = commandDecapTdisp)

/-- A header that is not complete ends the connection. -/
theorem platformServerPass_of_short (hshort : s.incoming.pending.length < 8) :
    ∃ s₁, platformServerPass c w H s = (.error false, s₁) ∧
      s₁.device = s.device ∧ s₁.outgoing = s.outgoing ∧ s₁.pcap = s.pcap := by
  rcases hcommand : readData32 c.host w.received s.incoming with ⟨_ | command, socket⟩
  · have h : receiveCommand c w s = (.error false, { s with incoming := socket }) := by
      simp only [receiveCommand, receivePlatformCommand, hcommand]
    exact ⟨_, Flow.bind_of_error h _, rfl, rfl, rfl⟩
  · have h : receiveCommand c w s =
        (.ok (), { s with mCommand := command, incoming := socket }) := by
      simp only [receiveCommand, receivePlatformCommand, hcommand]
    rw [platformServerPass, Flow.bind_of_ok h]
    rcases htype : readData32 c.host w.received socket with ⟨_ | transportType, socket'⟩
    · have h' : receiveTransportType c w { s with mCommand := command, incoming := socket } =
          (.error false, { s with mCommand := command, incoming := socket' }) := by
        simp only [receiveTransportType, receivePlatformTransportType_eq, htype]
      exact ⟨_, Flow.bind_of_error h' _, rfl, rfl, rfl⟩
    · -- two fields that were read are eight bytes
      have hlength := congrArg List.length (readData32_eq_some hcommand)
      have hlength' := congrArg List.length (readData32_eq_some htype)
      simp only [List.length_append, length_bytes32] at hlength hlength'
      omega

/-- **A message that is not complete has no effect**, but that it ends the connection. -/
theorem platformServerPass_of_incomplete (hr : w.received.Reliable)
    (hincomplete : Incomplete s.incoming.pending) (rest : Bytes) :
    PassServed c (.last none (incompleteResult c s.incoming.pending)) s.device [] rest s
      (platformServerPass c w H s) := by
  unfold incompleteResult
  by_cases hheader : 8 ≤ s.incoming.pending.length
  · have hfields : bytes32 .big (value32 .big s.incoming.pending) ++
        (bytes32 .big (declaredTransport s.incoming.pending) ++ s.incoming.pending.drop 8) =
          s.incoming.pending := by
      have hlength : 4 ≤ (s.incoming.pending.drop 4).length := by
        rw [List.length_drop]
        omega
      have hrest := bytes32_append_drop .big hlength
      rw [List.drop_drop] at hrest
      rw [declaredTransport, hrest]
      exact bytes32_append_drop .big (by omega)
    obtain ⟨s₁, h, hpass⟩ := platformServerPass_of_header (c := c) (H := H) hr hfields.symm
    rw [hpass]
    by_cases hunderstands : Understands c (declaredTransport s.incoming.pending)
    · have hcut : s₁.incoming.pending.length <
          4 + (value32 .big s₁.incoming.pending).toNat := by
        unfold Incomplete declaredLength headerLength at hincomplete
        rw [h.pending, List.length_drop]
        omega
      have hserved := payloadPass_of_not_received (H := H)
        (fun _ => receiveData_of_pending (c := c) (w := w) (.inr hcut)) rest
      rw [h.command, h.device] at hserved
      rw [if_pos hunderstands]
      simpa [hheader, hunderstands, beq_eq_decide] using hserved.of_headed h
    · rw [if_neg hunderstands]
      simpa [hunderstands] using passServed_silent (c := c) ⟨h.device, h.sent, h.pcap⟩ false rest
  · obtain ⟨s₁, hpass, hkept⟩ :=
      platformServerPass_of_short (c := c) (w := w) (H := H) (Nat.lt_of_not_le hheader)
    rw [hpass]
    simpa [hheader] using passServed_silent (c := c) hkept false rest

end Pass

end SpdmEmu.Emulator
