import SpdmEmu.Emulator.PlatformService

/-!
# Whole connections of the platform server

`Traffic` is what a client sends before it closes its end: messages, and the beginning of one more.
Every stream of bytes is the stream of some traffic (`exists_traffic`). `serveConnection` serves the
messages one after the other with `serve`, each with at most one answer (`length_answers_le`), and
`serveConnections` one connection after the other while the server goes on.

`platformServer` and `platformServerRoutine`, which work on bytes, do what these two say, for every
stream and however the transfers are cut, as long as no call on the socket fails
(`platformServer_serves`, `platformServerRoutine_serves`). So the cuts make no difference to a
client or to the device.
-/

set_option autoImplicit false

namespace SpdmEmu.Emulator

open SpdmEmu.Wire SpdmEmu.Libspdm SpdmEmu.Socket SpdmEmu.Run

/-! ## What a client sends -/

/-- The messages on a connection with their transport types, and the bytes behind the last one. -/
structure Traffic where
  messages : List (UInt32 × Message)
  tail : Bytes
  lengths : ∀ p ∈ messages, p.2.payload.length < 2 ^ 32
  incomplete : Incomplete tail

/-- The bytes of messages of any transport types. -/
def messagesBytes (ms : List (UInt32 × Message)) : Bytes := ms.flatMap fun p => messageBytes p.1 p.2

/-- The bytes on the connection. -/
def Traffic.stream (k : Traffic) : Bytes := messagesBytes k.messages ++ k.tail

/-- A stream that is long enough begins with a message. -/
theorem exists_message {stream : Bytes} (h : ¬ Incomplete stream) :
    ∃ transportType m rest, m.payload.length < 2 ^ 32 ∧
      stream = messageBytes transportType m ++ rest := by
  have hlength : 12 + declaredLength stream ≤ stream.length := Nat.le_of_not_lt h
  have hpayload : ((stream.drop 12).take (declaredLength stream)).length =
      declaredLength stream := by
    rw [List.length_take, List.length_drop]
    omega
  refine ⟨declaredTransport stream,
    ⟨value32 .big stream, (stream.drop 12).take (declaredLength stream)⟩,
    (stream.drop 12).drop (declaredLength stream), ?_, ?_⟩
  · rw [hpayload]
    exact (value32 .big (stream.drop 8)).toNat_lt
  · -- from the payload back to the first field
    have hlengthField : bytes32 .big (UInt32.ofNat (declaredLength stream)) ++ stream.drop 12 =
        stream.drop 8 := by
      rw [declaredLength, UInt32.ofNat_toNat, show 12 = 8 + 4 from rfl, ← List.drop_drop]
      exact bytes32_append_drop .big (by rw [List.length_drop]; omega)
    have htypeField : bytes32 .big (declaredTransport stream) ++ stream.drop 8 =
        stream.drop 4 := by
      rw [declaredTransport, show 8 = 4 + 4 from rfl, ← List.drop_drop]
      exact bytes32_append_drop .big (by rw [List.length_drop]; omega)
    simp only [messageBytes, hpayload, List.append_assoc, List.take_append_drop]
    rw [hlengthField, htypeField]
    exact (bytes32_append_drop .big (by omega)).symm

/-- **Every stream is the stream of some traffic.** -/
theorem exists_traffic (stream : Bytes) : ∃ k : Traffic, k.stream = stream := by
  -- on the length: a message is taken off the front until what is left is not complete
  induction hn : stream.length using Nat.strong_induction_on generalizing stream with
  | _ n ih =>
      by_cases hincomplete : Incomplete stream
      · exact ⟨⟨[], stream, nofun, hincomplete⟩, rfl⟩
      · obtain ⟨transportType, m, rest, hlength, rfl⟩ := exists_message hincomplete
        have hshorter : rest.length < n := by
          rw [← hn, List.length_append, length_messageBytes, headerLength]
          omega
        obtain ⟨k, rfl⟩ := ih rest.length hshorter rest rfl
        refine ⟨⟨(transportType, m) :: k.messages, k.tail, ?_, k.incomplete⟩, ?_⟩
        · exact List.forall_mem_cons.2 ⟨hlength, k.lengths⟩
        · simp [Traffic.stream, messagesBytes]

/-! ## Serving messages -/

/-- What serving a connection comes to. -/
structure Service (δ : Type) where
  continueServing : Bool
  answers : List Message
  events : List PcapEvent
  device : δ

section Service

variable {δ : Type} (c : ServerConfig) (H : ServerHandlers δ)

/-- The messages one after the other, until one ends the connection or the stream ends. -/
def serveMessages (tail : Bytes) : δ → List (UInt32 × Message) → Service δ
  | d, [] => ⟨incompleteResult c tail, [], [], d⟩
  | d, (transportType, m) :: ms =>
      let (o, d) := serve c H d transportType m
      let events := receivedEvents c transportType m ++ o.events c
      match o.finished with
      | some result => ⟨result, o.reply.toList, events, d⟩
      | none =>
          let service := serveMessages tail d ms
          { service with
            answers := o.reply.toList ++ service.answers
            events := events ++ service.events }

/-- A connection. -/
def serveConnection (d : δ) (k : Traffic) : Service δ := serveMessages c H k.tail d k.messages

/-- One connection after the other, until one tells the server to stop. -/
def serveConnections : δ → List Traffic → List (Service δ)
  | _, [] => []
  | d, k :: ks =>
      let service := serveConnection c H d k
      if service.continueServing then service :: serveConnections service.device ks
      else [service]

/-- What libspdm and the handlers answer has a length that can be sent. -/
structure ShortAnswers : Prop where
  processMessage : ∀ d payload response d',
    H.processMessage d payload = (.ok response, d') → response.length < 2 ^ 31
  pciDoe : ∀ d payload,
    ((H.pciDoeGetResponseDoeRequest d payload).1.written.getD c.response).length < 2 ^ 31
  pciTdisp : ∀ d payload,
    ((H.pciTdispGetResponse d payload).1.written.getD c.tdispResponse).length < 2 ^ 31

/-- A message has at most one answer. -/
theorem length_answers_le (tail : Bytes) (d : δ) (ms : List (UInt32 × Message)) :
    (serveMessages c H tail d ms).answers.length ≤ ms.length := by
  induction ms generalizing d with
  | nil => exact Nat.le_refl 0
  | cons p ms ih =>
      obtain ⟨transportType, m⟩ := p
      have hreply := (serve c H d transportType m).1.reply.length_toList_le
      have hrest := ih (serve c H d transportType m).2
      unfold serveMessages
      dsimp only
      split
      · simp only [List.length_cons]
        omega
      · simp only [List.length_cons, List.length_append]
        omega

/-! ## Lengths of answers -/

variable {c H}

theorem Outcome.short_none (finished : Option Bool) : (⟨none, finished⟩ : Outcome).Short := nofun

theorem Outcome.short_some {m : Message} (hlength : m.payload.length < 2 ^ 31)
    (finished : Option Bool) : (⟨some m, finished⟩ : Outcome).Short := by
  intro m' hm'
  obtain rfl : m = m' := Option.some.inj hm'
  exact hlength

theorem short_ite {p : Prop} [Decidable p] {o o' : Outcome × δ} (hpos : o.1.Short)
    (hneg : o'.1.Short) : (if p then o else o').1.Short := by
  by_cases h : p
  · rwa [if_pos h]
  · rwa [if_neg h]

theorem short_handlerOutcome {unwritten : Bytes} {handle : δ → Bytes → Reply × δ} {d : δ}
    {payload : Bytes} (hlength : ((handle d payload).1.written.getD unwritten).length < 2 ^ 31) :
    (handlerOutcome unwritten handle d payload).1.Short :=
  short_ite (Outcome.short_none _) (Outcome.short_some hlength _)

theorem ShortAnswers.short_commandOutcome (h : ShortAnswers c H) (d : δ) (m : Message) :
    (commandOutcome c H d m).1.Short := by
  have hhello : serverHello.length < 2 ^ 31 := by decide
  have hempty : ([] : Bytes).length < 2 ^ 31 := by decide
  unfold commandOutcome
  refine short_ite (Outcome.short_some hhello _) ?_
  refine short_ite (short_ite (Outcome.short_some hempty _) (Outcome.short_none _)) ?_
  refine short_ite (short_ite (Outcome.short_some hempty _) (Outcome.short_none _)) ?_
  refine short_ite (Outcome.short_some hempty _) ?_
  refine short_ite (Outcome.short_some hempty _) ?_
  refine short_ite (short_ite (short_handlerOutcome (h.pciDoe d m.payload))
    (Outcome.short_none _)) ?_
  refine short_ite (short_ite (short_handlerOutcome (h.pciTdisp d m.payload))
    (Outcome.short_none _)) ?_
  exact Outcome.short_some hempty _

theorem ShortAnswers.short_normalOutcome (h : ShortAnswers c H) (d : δ) (m : Message) :
    (normalOutcome c H d m).1.Short := by
  unfold normalOutcome
  rcases hprocess : H.processMessage d m.payload with ⟨status | response, d'⟩
  · exact short_ite (Outcome.short_none _)
      (short_ite (h.short_commandOutcome d' m) (Outcome.short_none _))
  · exact Outcome.short_some (h.processMessage d m.payload response d' hprocess) _

/-- Every answer of the server can be sent. -/
theorem ShortAnswers.short_serve (h : ShortAnswers c H) (d : δ) (transportType : UInt32)
    (m : Message) : (serve c H d transportType m).1.Short := by
  unfold serve payloadOutcome
  refine short_ite (Outcome.short_none _) (short_ite (Outcome.short_none _) ?_)
  exact short_ite (h.short_normalOutcome d m) (h.short_commandOutcome d m)

end Service

/-! ## One connection -/

section Connection

variable {δ : Type} {c : ServerConfig} {w : Line} {H : ServerHandlers δ} {s : Serving δ}

/-- From the state `s` the server has served a connection. -/
structure ConnectionServed (c : ServerConfig) (service : Service δ) (s : Serving δ)
    (r : Bool × Serving δ) : Prop where
  result : r.1 = service.continueServing
  device : r.2.device = service.device
  sent : r.2.outgoing.sent = s.outgoing.sent ++ streamOf c.mUseTransportLayer service.answers
  pcap : r.2.pcap = s.pcap ++ service.events

section Pass

variable {o : Outcome} {d : δ} {received : List PcapEvent} {rest : Bytes}

/-- A pass that returns ends the loop. -/
theorem PassServed.last (h : PassServed c o d received rest s (platformServerPass c w H s))
    {result : Bool} (hfinished : o.finished = some result) :
    ConnectionServed c ⟨result, o.reply.toList, received ++ o.events c, d⟩ s
      (platformServer c w H s) := by
  rcases hpass : platformServerPass c w H s with ⟨ended, s₁⟩
  rw [hpass] at h
  obtain rfl : ended = .error result := h.result.trans (by rw [Outcome.result, hfinished])
  have hrun : platformServer c w H s = (result, s₁) :=
    Body.run_of_inl (by rw [platformServerBody, hpass])
  rw [hrun]
  exact ⟨rfl, h.device, h.sent, by rw [h.pcap, List.append_assoc]⟩

/-- The loop goes on behind a pass that does not return. -/
theorem PassServed.next (h : PassServed c o d received rest s (platformServerPass c w H s))
    (hfinished : o.finished = none) :
    ∃ s₁, platformServer c w H s = platformServer c w H s₁ ∧ s₁.device = d ∧
      s₁.outgoing.sent = s.outgoing.sent ++ o.bytes c ∧
      s₁.pcap = s.pcap ++ received ++ o.events c ∧ s₁.incoming.pending = rest := by
  rcases hpass : platformServerPass c w H s with ⟨ended, s₁⟩
  rw [hpass] at h
  obtain rfl : ended = .ok () := h.result.trans (by rw [Outcome.result, hfinished])
  exact ⟨s₁, Body.run_of_inr (by rw [platformServerBody, hpass]), h.device, h.sent, h.pcap,
    h.pending hfinished⟩

end Pass

theorem platformServer_of_messages (hr : w.received.Reliable) (hw : w.sent.Reliable)
    (hbuffer : c.bufferSize < 2 ^ 31) (hshort : ShortAnswers c H) {tail : Bytes}
    (htail : Incomplete tail) {ms : List (UInt32 × Message)}
    (hlengths : ∀ p ∈ ms, p.2.payload.length < 2 ^ 32)
    (hpending : s.incoming.pending = messagesBytes ms ++ tail) :
    ConnectionServed c (serveMessages c H tail s.device ms) s (platformServer c w H s) := by
  -- the state in which one pass leaves the server is that in which the next one starts
  induction ms generalizing s with
  | nil =>
      have hserved := platformServerPass_of_incomplete (c := c) (H := H) hr
        (by rw [hpending]; exact htail) []
      rw [hpending] at hserved
      exact hserved.last rfl
  | cons p ms ih =>
      obtain ⟨transportType, m⟩ := p
      rw [List.forall_mem_cons] at hlengths
      have hmessage : s.incoming.pending =
          messageBytes transportType m ++ (messagesBytes ms ++ tail) := by
        rw [hpending, messagesBytes, List.flatMap_cons, List.append_assoc, messagesBytes]
      have hserved := platformServerPass_serves hr hw hbuffer hlengths.1 hmessage
        (hshort.short_serve s.device transportType m)
      unfold serveMessages
      dsimp only
      cases hfinished : (serve c H s.device transportType m).1.finished with
      | some result => exact hserved.last hfinished
      | none =>
          obtain ⟨s₁, hrun, hdevice, hsent, hpcap, hrest⟩ := hserved.next hfinished
          have h := ih hlengths.2 hrest
          rw [hdevice, ← hrun] at h
          exact
            { result := h.result
              device := h.device
              sent := by rw [h.sent, hsent, Outcome.bytes, streamOf, streamOf, streamOf,
                List.flatMap_append, List.append_assoc]
              pcap := by rw [h.pcap, hpcap, List.append_assoc, List.append_assoc,
                List.append_assoc] }

/-- **The server serves a connection**, whatever its bytes are and however they arrive. -/
theorem platformServer_serves (hr : w.received.Reliable) (hw : w.sent.Reliable)
    (hbuffer : c.bufferSize < 2 ^ 31) (hshort : ShortAnswers c H) (k : Traffic)
    (hstream : s.incoming.pending = k.stream) :
    ConnectionServed c (serveConnection c H s.device k) s (platformServer c w H s) :=
  platformServer_of_messages hr hw hbuffer hshort k.incomplete k.lengths hstream

end Connection

/-! ## All connections -/

section Routine

variable {δ : Type} {c : ServerConfig} {H : ServerHandlers δ}

/-- The server has served some connections, and has stopped if the last one told it to. -/
structure RoutineServed (c : ServerConfig) (services : List (Service δ)) (s : Serving δ)
    (r : Bool × List Bytes × Serving δ) : Prop where
  result : r.1 = services.any fun service => !service.continueServing
  sent : r.2.1 = services.map fun service => streamOf c.mUseTransportLayer service.answers
  device : r.2.2.device = (services.getLast?.map Service.device).getD s.device
  pcap : r.2.2.pcap = s.pcap ++ services.flatMap Service.events

/-- No call on the connection fails. -/
def Connection.Reliable (k : Connection) : Prop := k.line.received.Reliable ∧ k.line.sent.Reliable

theorem routineServed (hbuffer : c.bufferSize < 2 ^ 31) (hshort : ShortAnswers c H)
    {connections : List Connection} (hreliable : ∀ k ∈ connections, k.Reliable)
    {traffic : List Traffic}
    (hstreams : connections.map Connection.stream = traffic.map Traffic.stream) (s : Serving δ) :
    RoutineServed c (serveConnections c H s.device traffic) s
      (platformServerRoutine c H connections s) := by
  induction connections generalizing traffic s with
  | nil =>
      obtain rfl : traffic = [] := List.map_eq_nil_iff.1 hstreams.symm
      exact ⟨rfl, rfl, rfl, (List.append_nil s.pcap).symm⟩
  | cons k connections ih =>
      obtain _ | ⟨t, traffic⟩ := traffic
      · cases hstreams
      rw [List.map_cons, List.map_cons, List.cons.injEq] at hstreams
      rw [List.forall_mem_cons] at hreliable
      have hserved := platformServer_serves (s := s.connect k) hreliable.1.1 hreliable.1.2 hbuffer
        hshort t hstreams.1
      rcases hrun : platformServer c k.line H (s.connect k) with ⟨continueServing, s₁⟩
      rw [hrun] at hserved
      obtain ⟨hresult, hdevice, hsent, hpcap⟩ := hserved
      dsimp only at hresult hdevice hsent hpcap
      rw [show (s.connect k).outgoing.sent = [] from rfl, List.nil_append] at hsent
      rw [show (s.connect k).pcap = s.pcap from rfl] at hpcap
      rw [show (s.connect k).device = s.device from rfl] at hresult hdevice hsent hpcap
      unfold platformServerRoutine serveConnections
      simp only [hrun, ← hresult]
      cases continueServing with
      | false =>
          exact ⟨by simp [← hresult], by simp [hsent], by simp [hdevice], by simp [hpcap]⟩
      | true =>
          have h := ih hreliable.2 hstreams.2 s₁
          rw [hdevice] at h
          exact
            { result := by simp [h.result, ← hresult]
              sent := by simp [h.sent, hsent]
              device := by
                rw [if_pos rfl, if_pos rfl, List.getLast?_cons, Option.map_some, Option.getD_some]
                rw [h.device, hdevice]
                cases (serveConnections c H (serveConnection c H s.device t).device
                  traffic).getLast? <;> rfl
              pcap := by simp [h.pcap, hpcap] }

/-- **The server serves its connections.** What the clients send is the bytes of some messages, each
connection with the beginning of one more, and however the transfers are cut the server does with
the bytes what `serveConnections` does with the messages, with at most one answer to each message.
Another server that receives the same bytes in other pieces returns the same result, sends the same
bytes and leaves the device and the capture in the same state. -/
theorem platformServerRoutine_serves (hbuffer : c.bufferSize < 2 ^ 31) (hshort : ShortAnswers c H)
    {connections : List Connection} (hreliable : ∀ k ∈ connections, k.Reliable) (s : Serving δ) :
    (∃ traffic : List Traffic,
      connections.map Connection.stream = traffic.map Traffic.stream) ∧
    (∀ traffic : List Traffic,
      connections.map Connection.stream = traffic.map Traffic.stream →
      RoutineServed c (serveConnections c H s.device traffic) s
        (platformServerRoutine c H connections s)) ∧
    (∀ (d : δ) (k : Traffic), (serveConnection c H d k).answers.length ≤ k.messages.length) ∧
    ∀ connections' : List Connection, (∀ k ∈ connections', k.Reliable) →
      connections'.map Connection.stream = connections.map Connection.stream →
      let r := platformServerRoutine c H connections s
      let r' := platformServerRoutine c H connections' s
      r'.1 = r.1 ∧ r'.2.1 = r.2.1 ∧ r'.2.2.device = r.2.2.device ∧ r'.2.2.pcap = r.2.2.pcap := by
  choose trafficOf htrafficOf using exists_traffic
  have htraffic : connections.map Connection.stream =
      (connections.map fun k => trafficOf k.stream).map Traffic.stream := by
    simp [List.map_map, Function.comp_def, htrafficOf]
  refine ⟨⟨_, htraffic⟩, ?_, ?_, ?_⟩
  · intro traffic hstreams
    exact routineServed hbuffer hshort hreliable hstreams s
  · intro d k
    exact length_answers_le c H k.tail d k.messages
  · intro connections' hreliable' hsame r r'
    -- both serve the messages of the one stream
    have h := routineServed hbuffer hshort hreliable htraffic s
    have h' := routineServed hbuffer hshort hreliable' (hsame.trans htraffic) s
    exact ⟨h'.result.trans h.result.symm, h'.sent.trans h.sent.symm,
      h'.device.trans h.device.symm, h'.pcap.trans h.pcap.symm⟩

/-- A server on MCTP. -/
def ServerConfig.sample : ServerConfig where
  host := .little
  mUseTransportLayer := transportTypeMctp
  mDecapTdisp := false
  bufferSize := 0x1200
  keyUpdateEncap := true
  endpointInfoEncap := true
  statusSendFail := ⟨.raw 0x80020001, by decide⟩
  statusReceiveFail := ⟨.raw 0x80020002, by decide⟩
  response := []
  tdispResponse := []
  sendFail_ne := by decide
  receiveFail_ne := by decide

/-- A dispatch that calls the functions of the device and does nothing else. -/
def plainDispatch (processMessage : δ → Bytes → Except LibspdmReturn Bytes × δ)
    (f : DeviceFunctions (Serving δ)) (s : Serving δ) : LibspdmReturn × Serving δ :=
  match f.receiveMessage (f.acquireReceiverBuffer s) with
  | (.error status, s) => (status, s)
  | (.ok request, s) =>
      match processMessage s.device request with
      | (.error status, device) => (status, { s with device := device })
      | (.ok response, device) => f.sendMessage response { s with device := device }

theorem dispatches_plainDispatch (processMessage : δ → Bytes → Except LibspdmReturn Bytes × δ) :
    Dispatches processMessage (plainDispatch processMessage) where
  not_received hreceive := by simp only [plainDispatch, hreceive]
  refused hreceive hprocess := by simp only [plainDispatch, hreceive, hprocess]
  answered hreceive hprocess := ⟨_, by simp only [plainDispatch, hreceive, hprocess]; rfl⟩

/-- A device that counts the messages for libspdm and answers each with one byte. -/
def ServerHandlers.counting : ServerHandlers Nat where
  processMessage d _ := (.ok [UInt8.ofNat d], d + 1)
  libspdmResponderDispatchMessage := plainDispatch fun d _ => (.ok [UInt8.ofNat d], d + 1)
  dispatches := dispatches_plainDispatch _
  initKeyUpdateEncapStateWithSession _ d := d
  initGetEndpointInfoEncapState d := d
  pciDoeGetResponseDoeRequest d _ := (⟨.success, some []⟩, d)
  pciTdispGetResponse d _ := (⟨.success, some []⟩, d)

theorem shortAnswers_counting : ShortAnswers .sample .counting where
  processMessage _ _ _ _ h := by
    cases h
    exact show 1 < 2 ^ 31 by decide
  pciDoe _ _ := show 0 < 2 ^ 31 by decide
  pciTdisp _ _ := show 0 < 2 ^ 31 by decide

/-- A connection that the client ends with `CONTINUE`, one that is closed within a message, and one
more. -/
def Traffic.sample : List Traffic :=
  [⟨[(transportTypeMctp, ⟨commandNormal, [5]⟩), (transportTypeMctp, ⟨commandContinue, []⟩)], [],
      by decide, by decide⟩,
    ⟨[(transportTypeMctp, ⟨commandNormal, [5]⟩)], [0, 0], by decide, by decide⟩,
    ⟨[(transportTypeMctp, ⟨commandShutdown, []⟩)], [], by decide, by decide⟩]

/-- The connections of that traffic, cut into single bytes. -/
def Connection.sample : List Connection :=
  Traffic.sample.map fun k => ⟨k.stream, .bytewise, .bytewise⟩

theorem reliable_sample : ∀ k ∈ Connection.sample, k.Reliable := by
  intro k hk
  obtain ⟨_, _, rfl⟩ := List.mem_map.1 hk
  exact ⟨reliable_bytewise, reliable_bytewise⟩

/-- The server before its first connection. -/
def Serving.initial : Serving Nat := ⟨0, 0, fun _ => 0, 0, ⟨[], 0⟩, ⟨[], 0⟩, []⟩

/-- The message that is not complete stops the server, and the third connection is not served. -/
theorem platformServerRoutine_serves_sample :
    ServerConfig.sample.bufferSize < 2 ^ 31 ∧ ShortAnswers .sample .counting ∧
    (∀ k ∈ Connection.sample, k.Reliable) ∧
    (platformServerRoutine .sample .counting Connection.sample .initial).2.1 =
      [streamOf transportTypeMctp [⟨commandNormal, [0]⟩, ⟨commandContinue, []⟩],
        streamOf transportTypeMctp [⟨commandNormal, [1]⟩]] :=
  ⟨by decide, shortAnswers_counting, reliable_sample,
    ((platformServerRoutine_serves (by decide) shortAnswers_counting reliable_sample
      .initial).2.1 Traffic.sample (by rw [Connection.sample, List.map_map]; rfl)).sent⟩

end Routine

end SpdmEmu.Emulator
