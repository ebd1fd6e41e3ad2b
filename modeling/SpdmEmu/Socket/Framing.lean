import SpdmEmu.Socket.Command

/-!
# Framing of platform messages

Two statements about `SpdmEmu.Socket.Command`, for every fragmentation of the stream on either side
and for hosts of either byte order. A list of messages that was sent is received message by message,
each receive taking exactly the bytes of its message, if no payload is longer than the size of the
receiver's buffer as a 32-bit number: `receive_platform_data` casts the size, so that a buffer of
2^32 bytes receives nothing but empty payloads. On any other stream, receiving stays inside the
buffer and succeeds only with a complete message of the receiver's transport type that fits.
-/

set_option autoImplicit false

namespace SpdmEmu.Socket

open SpdmEmu.Wire

/-! ## Reading -/

/-- What the read loop does to the stream is what it does to the buffer. -/
theorem readBytes_takes (p : Pieces) (socket : Incoming) (buffer : Mem) (received n : Nat) :
    ∃ bs, socket.pending = bs ++ (readBytes p socket buffer received n).2.2.pending ∧
      (readBytes p socket buffer received n).2.1 = buffer.store received bs ∧
      bs.length ≤ n - received ∧
      ((readBytes p socket buffer received n).1 = true → bs.length = n - received) := by
  -- along the loop: an error or the end of the stream leaves what was read so far
  fun_induction readBytes p socket buffer received n with
  | case1 socket buffer received hlt socket' hrecv =>
      exact ⟨[], (recv_eq_none hrecv).symm, (buffer.store_nil _).symm, Nat.zero_le _, nofun⟩
  | case2 socket buffer received hlt bytes socket' hrecv _ _ =>
      obtain ⟨hpending, hle, -⟩ := recv_eq_some hrecv
      exact ⟨bytes, hpending, rfl, hle, nofun⟩
  | case3 socket buffer received hlt bytes socket' hrecv _ _ _ =>
      obtain ⟨hpending, hle, -⟩ := recv_eq_some hrecv
      exact ⟨bytes, hpending, rfl, hle, nofun⟩
  | case4 socket buffer received hlt bytes socket' hrecv buffer' _ _ ih =>
      obtain ⟨hpending, hle, -⟩ := recv_eq_some hrecv
      obtain ⟨rest, hrest, hbuffer, hlength, hdone⟩ := ih
      refine ⟨bytes ++ rest, ?_, ?_, ?_, ?_⟩
      · rw [hpending, hrest, List.append_assoc]
      · rw [hbuffer, Mem.store_append]
      · rw [List.length_append]
        omega
      · intro hok
        rw [List.length_append, hdone hok]
        omega
  | case5 socket buffer received hge =>
      exact ⟨[], rfl, (buffer.store_nil _).symm, Nat.zero_le _, fun _ => by simp; omega⟩

/-- With enough bytes to come and no failing call, the loop ends well. -/
theorem readBytes_of_reliable {p : Pieces} (hp : p.Reliable) (socket : Incoming) (buffer : Mem)
    (received n : Nat) (hn : n < 2 ^ 32 - 1) (henough : n - received ≤ socket.pending.length) :
    (readBytes p socket buffer received n).1 = true := by
  -- along the loop: the three ways out before the end do not occur
  fun_induction readBytes p socket buffer received n with
  | case1 socket buffer received hlt socket' hrecv =>
      obtain ⟨bs, c', hsome⟩ := recv_of_reliable hp socket (n - received)
      rw [hsome] at hrecv
      cases hrecv
  | case2 socket buffer received hlt bytes socket' hrecv _ herror =>
      obtain ⟨-, hle, -⟩ := recv_eq_some hrecv
      simp only [readsAsError, beq_iff_eq] at herror
      omega
  | case3 socket buffer received hlt bytes socket' hrecv _ _ hzero =>
      obtain ⟨-, -, hmoved⟩ := recv_eq_some hrecv
      have hpending : socket.pending ≠ [] := by
        rw [← List.length_pos_iff]
        omega
      exact absurd (List.length_eq_zero_iff.1 hzero) (hmoved (by omega) hpending)
  | case4 socket buffer received hlt bytes socket' hrecv buffer' _ _ ih =>
      obtain ⟨hpending, -, -⟩ := recv_eq_some hrecv
      apply ih
      rw [hpending, List.length_append] at henough
      omega
  | case5 socket buffer received hge => rfl

/-- A field that was read stood in network order at the head of the stream. -/
theorem readData32_eq_some {host : ByteOrder} {p : Pieces} {socket socket' : Incoming} {x : UInt32}
    (h : readData32 host p socket = (some x, socket')) :
    socket.pending = bytes32 .big x ++ socket'.pending := by
  obtain ⟨bs, hpending, hbuffer, -, hdone⟩ := readBytes_takes p socket (fun _ => 0) 0 4
  unfold readData32 at h
  generalize readBytes p socket (fun _ => 0) 0 4 = r at h hpending hbuffer hdone
  obtain ⟨result, data, rest⟩ := r
  cases result with
  | false => cases h
  | true =>
      simp only [Prod.mk.injEq, Option.some.injEq] at h hpending hbuffer
      obtain ⟨rfl, rfl⟩ := h
      have hlength : bs.length = 4 := hdone rfl
      have hload : data.load 0 4 = bs := by
        rw [hbuffer, ← hlength, Mem.load_store]
      rw [hpending, hload, ntohl_value32 host hlength, bytes32_value32 .big hlength]

/-- A field in network order at the head of the stream is read. -/
theorem readData32_of_reliable (host : ByteOrder) {p : Pieces} (hp : p.Reliable) (x : UInt32)
    (rest : Bytes) (calls : Nat) :
    ∃ calls', readData32 host p ⟨bytes32 .big x ++ rest, calls⟩ = (some x, ⟨rest, calls'⟩) := by
  have hok := readBytes_of_reliable hp ⟨bytes32 .big x ++ rest, calls⟩ (fun _ => 0) 0 4 (by decide)
    (by rw [List.length_append, length_bytes32]; omega)
  obtain ⟨x', socket', hread⟩ : ∃ x' socket',
      readData32 host p ⟨bytes32 .big x ++ rest, calls⟩ = (some x', socket') := by
    unfold readData32
    generalize readBytes p ⟨bytes32 .big x ++ rest, calls⟩ (fun _ => 0) 0 4 = r at hok ⊢
    obtain ⟨result, data, rest⟩ := r
    cases result with
    | false => cases hok
    | true => exact ⟨_, _, rfl⟩
  -- the bytes of the stream split in one way into a field and a rest
  obtain ⟨hx, hrest⟩ := List.append_inj (readData32_eq_some hread) (by simp)
  have hvalue : x = x' := by
    have h1 := value32_bytes32_append .big x []
    rw [hx, value32_bytes32_append] at h1
    exact h1.symm
  exact ⟨socket'.calls, by rw [hread, hvalue, hrest]⟩

theorem receivePlatformTransportType_eq (host : ByteOrder) (p : Pieces) (socket : Incoming) :
    receivePlatformTransportType host p socket = readData32 host p socket := by
  unfold receivePlatformTransportType
  rcases readData32 host p socket with ⟨_ | x, socket'⟩
  · rfl
  · simp

/-! ## Messages on the stream -/

/-- A command and its payload. -/
structure Message where
  command : UInt32
  payload : Bytes
deriving DecidableEq, Repr

/-- The bytes of a message. -/
def messageBytes (transport : UInt32) (m : Message) : Bytes :=
  bytes32 .big m.command ++ (bytes32 .big transport ++
    (bytes32 .big (UInt32.ofNat m.payload.length) ++ m.payload))

/-- The transport type a stream declares. -/
def declaredTransport (stream : Bytes) : UInt32 := value32 .big (stream.drop 4)

/-- The payload length a stream declares. -/
def declaredLength (stream : Bytes) : Nat := (value32 .big (stream.drop 8)).toNat

/-- The size of the three fields before the payload. -/
def headerLength : Nat := 12

section Declared

variable (transport : UInt32) (m : Message) (rest : Bytes)

theorem length_messageBytes :
    (messageBytes transport m).length = headerLength + m.payload.length := by
  simp only [messageBytes, List.length_append, length_bytes32, headerLength]
  omega

theorem drop_four (x : UInt32) (bs : Bytes) : (bytes32 .big x ++ bs).drop 4 = bs :=
  List.drop_left' (length_bytes32 .big x)

theorem declaredTransport_messageBytes :
    declaredTransport (messageBytes transport m ++ rest) = transport := by
  simp only [declaredTransport, messageBytes, List.append_assoc, drop_four, value32_bytes32_append]

theorem declaredLength_messageBytes (h : m.payload.length < 2 ^ 32) :
    declaredLength (messageBytes transport m ++ rest) = m.payload.length := by
  have hdrop : (messageBytes transport m ++ rest).drop 8 =
      bytes32 .big (UInt32.ofNat m.payload.length) ++ (m.payload ++ rest) := by
    rw [show 8 = 4 + 4 from rfl, ← List.drop_drop]
    simp only [messageBytes, List.append_assoc, drop_four]
  rw [declaredLength, hdrop, value32_bytes32_append, UInt32.toNat_ofNat_of_lt' h]

end Declared

/-! ## Receiving from any stream -/

/-- What `read_multiple_bytes` does to the buffer, and what it took from the stream when it
succeeds. -/
theorem readMultipleBytes_takes (host : ByteOrder) (p : Pieces) (socket : Incoming) (buffer : Mem)
    (bytesReceived maxBufferLength : UInt32) :
    ∃ bs, (readMultipleBytes host p socket buffer bytesReceived maxBufferLength).buffer =
        buffer.store 0 bs ∧ bs.length ≤ maxBufferLength.toNat ∧
      ((readMultipleBytes host p socket buffer bytesReceived maxBufferLength).result = true →
        (readMultipleBytes host p socket buffer bytesReceived maxBufferLength).bytesReceived.toNat =
          bs.length ∧
        socket.pending =
          bytes32 .big
              (readMultipleBytes host p socket buffer bytesReceived
                maxBufferLength).bytesReceived ++
            (bs ++ (readMultipleBytes host p socket buffer bytesReceived
              maxBufferLength).socket.pending)) := by
  unfold readMultipleBytes
  rcases hread : readData32 host p socket with ⟨_ | length, socket'⟩
  · exact ⟨[], (buffer.store_nil 0).symm, Nat.zero_le _, nofun⟩
  · have hhead := readData32_eq_some hread
    simp only [ntohl_ntohl]
    by_cases hlarge : length > maxBufferLength
    · simp only [if_pos hlarge]
      exact ⟨[], (buffer.store_nil 0).symm, Nat.zero_le _, nofun⟩
    · have hmax : length.toNat ≤ maxBufferLength.toNat :=
        Nat.le_of_not_lt fun hlt => hlarge (UInt32.lt_iff_toNat_lt.2 hlt)
      by_cases hzero : length = 0
      · simp only [if_neg hlarge, if_pos hzero]
        exact ⟨[], (buffer.store_nil 0).symm, Nat.zero_le _, fun _ => ⟨by rw [hzero]; rfl, hhead⟩⟩
      · simp only [if_neg hlarge, if_neg hzero]
        obtain ⟨bs, hpending, hbuffer, hle, hdone⟩ :=
          readBytes_takes p socket' buffer 0 length.toNat
        refine ⟨bs, hbuffer, by omega, fun hok => ⟨(hdone hok).symm, ?_⟩⟩
        rw [hhead, hpending]

/-- What receiving leaves in the buffer, and what it took from the stream when it succeeds. -/
theorem receivePlatformData_takes (host : ByteOrder) (p : Pieces) (transport : UInt32)
    (socket : Incoming) (command : UInt32) (buffer : Mem) (size : Nat) :
    ∃ bs, (receivePlatformData host p transport socket command buffer size).receiveBuffer =
        buffer.store 0 bs ∧ bs.length ≤ size % 2 ^ 32 ∧
      ((receivePlatformData host p transport socket command buffer size).result = true →
        bs.length < 2 ^ 32 ∧
        (receivePlatformData host p transport socket command buffer size).command = command ∧
        (receivePlatformData host p transport socket command buffer size).bytesToReceive =
          bs.length ∧
        socket.pending = bytes32 .big (UInt32.ofNat bs.length) ++
          (bs ++ (receivePlatformData host p transport socket command buffer
            size).socket.pending)) := by
  obtain ⟨bs, hbuffer, hle, hdone⟩ :=
    readMultipleBytes_takes host p socket buffer 0 (UInt32.ofNat size)
  rw [UInt32.toNat_ofNat'] at hle
  unfold receivePlatformData
  generalize readMultipleBytes host p socket buffer 0 (UInt32.ofNat size) = r at hbuffer hdone ⊢
  cases hresult : r.result with
  | false => exact ⟨bs, by simpa [hresult] using hbuffer, hle, by simp [hresult]⟩
  | true =>
      obtain ⟨hreceived, hpending⟩ := hdone hresult
      by_cases hlarge : r.bytesReceived > UInt32.ofNat size
      · simp only [hresult, Bool.not_true, Bool.false_eq_true, if_false, if_pos hlarge]
        exact ⟨bs, hbuffer, hle, nofun⟩
      · simp only [hresult, Bool.not_true, Bool.false_eq_true, if_false, if_neg hlarge]
        refine ⟨bs, hbuffer, hle, fun _ => ⟨?_, trivial, hreceived, ?_⟩⟩
        · rw [← hreceived]
          exact r.bytesReceived.toNat_lt
        · rw [← hreceived, UInt32.ofNat_toNat]
          exact hpending

/-- What receiving a message leaves in the buffer, and the message it took when it succeeds. -/
theorem receivePlatformMessage_takes (host : ByteOrder) (p : Pieces) (transport : UInt32)
    (socket : Incoming) (command : UInt32) (buffer : Mem) (size : Nat) :
    ∃ bs, (receivePlatformMessage host p transport socket command buffer size).receiveBuffer =
        buffer.store 0 bs ∧ bs.length ≤ size % 2 ^ 32 ∧
      ((receivePlatformMessage host p transport socket command buffer size).result = true →
        bs.length < 2 ^ 32 ∧
        (receivePlatformMessage host p transport socket command buffer size).bytesToReceive =
          bs.length ∧
        socket.pending =
          messageBytes transport
              ⟨(receivePlatformMessage host p transport socket command buffer size).command, bs⟩ ++
            (receivePlatformMessage host p transport socket command buffer
              size).socket.pending) := by
  unfold receivePlatformMessage receivePlatformCommand
  simp only [receivePlatformTransportType_eq]
  rcases hcommand : readData32 host p socket with ⟨_ | c, s1⟩
  · exact ⟨[], (buffer.store_nil 0).symm, Nat.zero_le _, nofun⟩
  · simp only
    rcases htype : readData32 host p s1 with ⟨_ | t, s2⟩
    · exact ⟨[], (buffer.store_nil 0).symm, Nat.zero_le _, nofun⟩
    · by_cases hother : t = transport
      · simp only [hother, ne_eq, not_true_eq_false, if_false]
        obtain ⟨bs, hbuffer, hle, hdone⟩ :=
          receivePlatformData_takes host p transport s2 c buffer size
        refine ⟨bs, hbuffer, hle, fun hok => ?_⟩
        obtain ⟨hlt, hc, hsize, hpending⟩ := hdone hok
        refine ⟨hlt, hsize, ?_⟩
        rw [readData32_eq_some hcommand, readData32_eq_some htype, hpending, hother,
          messageBytes, hc]
        simp only [List.append_assoc]
      · simp only [ne_eq, hother, not_false_eq_true, if_true]
        exact ⟨[], (buffer.store_nil 0).symm, Nat.zero_le _, nofun⟩

/-- Receiving from any stream: nothing is written past the buffer, and a success is a complete
message of the receiver's transport type that fits the buffer. -/
structure ReceivesSafely (transport : UInt32) (stream : Bytes) (buffer : Mem) (size : Nat)
    (r : Received) : Prop where
  bounded : ∀ i, size ≤ i → r.receiveBuffer i = buffer i
  exact : r.result = true → ∃ payload, r.bytesToReceive = payload.length ∧
    payload.length = declaredLength stream ∧ r.receiveBuffer = buffer.store 0 payload ∧
    stream = messageBytes transport ⟨r.command, payload⟩ ++ r.socket.pending
  tooLong : size < declaredLength stream → r.result = false
  endsEarly : stream.length < headerLength + declaredLength stream → r.result = false
  otherTransport : declaredTransport stream ≠ transport → r.result = false

theorem receivesSafely (host : ByteOrder) (p : Pieces) (transport : UInt32) (socket : Incoming)
    (command : UInt32) (buffer : Mem) (size : Nat) :
    ReceivesSafely transport socket.pending buffer size
      (receivePlatformMessage host p transport socket command buffer size) := by
  obtain ⟨bs, hbuffer, hle, hdone⟩ :=
    receivePlatformMessage_takes host p transport socket command buffer size
  -- the size is cut to 32 bits, which only makes it smaller
  have hmax : size % 2 ^ 32 ≤ size := Nat.mod_le _ _
  generalize receivePlatformMessage host p transport socket command buffer size = r at *
  -- what a success says about the declared fields; each refusal is the contrapositive
  have hdeclared : r.result = true → declaredLength socket.pending = bs.length ∧
      declaredTransport socket.pending = transport ∧
      headerLength + bs.length ≤ socket.pending.length := by
    intro hok
    obtain ⟨hlt, -, hpending⟩ := hdone hok
    refine ⟨?_, ?_, ?_⟩
    · rw [hpending]
      exact declaredLength_messageBytes transport ⟨r.command, bs⟩ _ hlt
    · rw [hpending]
      exact declaredTransport_messageBytes _ _ _
    · rw [hpending, List.length_append, length_messageBytes]
      exact Nat.le_add_right _ _
  refine ⟨?_, ?_, ?_, ?_, ?_⟩
  · intro i hi
    rw [hbuffer]
    exact buffer.store_of_ge bs (by omega)
  · intro hok
    obtain ⟨-, hsize, hpending⟩ := hdone hok
    exact ⟨bs, hsize, (hdeclared hok).1.symm, hbuffer, hpending⟩
  · intro hlong
    refine Bool.eq_false_iff.2 fun hok => ?_
    have := (hdeclared hok).1
    omega
  · intro hshort
    refine Bool.eq_false_iff.2 fun hok => ?_
    obtain ⟨hlength, -, henough⟩ := hdeclared hok
    omega
  · intro hother
    exact Bool.eq_false_iff.2 fun hok => hother (hdeclared hok).2.1

/-! ## Receiving what was sent -/

theorem readBytes_exact {p : Pieces} (hp : p.Reliable) (payload : Bytes)
    (hlength : payload.length < 2 ^ 32 - 1) (rest : Bytes) (calls : Nat) (buffer : Mem) :
    ∃ calls', readBytes p ⟨payload ++ rest, calls⟩ buffer 0 payload.length =
      (true, buffer.store 0 payload, ⟨rest, calls'⟩) := by
  have hok := readBytes_of_reliable hp ⟨payload ++ rest, calls⟩ buffer 0 payload.length hlength
    (by rw [List.length_append]; omega)
  obtain ⟨bs, hpending, hbuffer, -, hdone⟩ :=
    readBytes_takes p ⟨payload ++ rest, calls⟩ buffer 0 payload.length
  generalize readBytes p ⟨payload ++ rest, calls⟩ buffer 0 payload.length = r at *
  obtain ⟨result, data, ⟨pending, calls'⟩⟩ := r
  obtain ⟨hpayload, hrest⟩ := List.append_inj hpending (hdone hok).symm
  simp only at hok hbuffer hrest
  exact ⟨calls', by rw [hok, hbuffer, hpayload, hrest]⟩

/-- A payload that fits is received behind its length, and no byte after it is taken. -/
theorem receivePlatformData_of_reliable (host : ByteOrder) {p : Pieces} (hp : p.Reliable)
    (transport : UInt32) {payload : Bytes} (hlength : payload.length < 2 ^ 31) {size : Nat}
    (hfits : payload.length ≤ size % 2 ^ 32) (rest : Bytes) (calls : Nat) (command : UInt32)
    (buffer : Mem) :
    ∃ calls', receivePlatformData host p transport
        ⟨bytes32 .big (UInt32.ofNat payload.length) ++ (payload ++ rest), calls⟩ command buffer
        size =
      ⟨true, command, buffer.store 0 payload, payload.length, ⟨rest, calls'⟩,
        pcapEvent transport command payload⟩ := by
  have hvalue : (UInt32.ofNat payload.length).toNat = payload.length :=
    UInt32.toNat_ofNat_of_lt' (show payload.length < 2 ^ 32 by omega)
  have hroom : ¬ UInt32.ofNat payload.length > UInt32.ofNat size := by
    intro hgt
    have hlt := UInt32.lt_iff_toNat_lt.1 hgt
    rw [hvalue, UInt32.toNat_ofNat'] at hlt
    omega
  obtain ⟨c1, hfield⟩ := readData32_of_reliable host hp (UInt32.ofNat payload.length)
    (payload ++ rest) calls
  obtain ⟨c2, hpayload⟩ := readBytes_exact hp payload (by omega) rest c1 buffer
  simp only [receivePlatformData, readMultipleBytes, hfield, ntohl_ntohl, if_neg hroom]
  -- an empty payload is not read at all
  by_cases hzero : UInt32.ofNat payload.length = 0
  · have hnil : payload = [] := by
      rw [hzero] at hvalue
      exact List.length_eq_zero_iff.1 hvalue.symm
    exact ⟨c1, by simp [hnil, Mem.load]⟩
  · exact ⟨c2, by simp [hzero, hvalue, hpayload, hroom, Mem.load_store]⟩

/-- One message that fits is received whole, and no byte after it is taken. -/
theorem receivePlatformMessage_of_reliable (host : ByteOrder) {p : Pieces} (hp : p.Reliable)
    (transport : UInt32) {m : Message} (hlength : m.payload.length < 2 ^ 31) {size : Nat}
    (hfits : m.payload.length ≤ size % 2 ^ 32) (rest : Bytes) (calls : Nat) (command : UInt32)
    (buffer : Mem) :
    ∃ calls',
      receivePlatformMessage host p transport ⟨messageBytes transport m ++ rest, calls⟩ command
        buffer size =
      ⟨true, m.command, buffer.store 0 m.payload, m.payload.length, ⟨rest, calls'⟩,
        pcapEvent transport m.command m.payload⟩ := by
  obtain ⟨c1, hcommand⟩ := readData32_of_reliable host hp m.command
    (bytes32 .big transport ++ (bytes32 .big (UInt32.ofNat m.payload.length) ++
      (m.payload ++ rest))) calls
  obtain ⟨c2, htype⟩ := readData32_of_reliable host hp transport
    (bytes32 .big (UInt32.ofNat m.payload.length) ++ (m.payload ++ rest)) c1
  obtain ⟨c3, hdata⟩ := receivePlatformData_of_reliable host hp transport hlength hfits rest c2
    m.command buffer
  refine ⟨c3, ?_⟩
  simp only [messageBytes, List.append_assoc, receivePlatformMessage, receivePlatformCommand,
    receivePlatformTransportType_eq, hcommand, htype, ne_eq, not_true_eq_false, if_false, hdata]

/-! ## Sending -/

/-- With no failing call, all bytes are accepted, in order. -/
theorem writeBytes_of_reliable {p : Pieces} (hp : p.Reliable) (socket : Outgoing) (buffer : Bytes)
    (hlength : buffer.length < 2 ^ 32 - 1) :
    ∃ calls, writeBytes p socket buffer = (true, ⟨socket.sent ++ buffer, calls⟩) := by
  -- along the loop: what `send` took and what is left make up the buffer
  fun_induction writeBytes p socket buffer with
  | case1 socket => exact ⟨socket.calls, by rw [List.append_nil]⟩
  | case2 socket buffer hrest socket' hsend =>
      obtain ⟨k, hk⟩ := hp socket.calls buffer.length
      simp [send, hk] at hsend
  | case3 socket buffer hrest count socket' hsend herror =>
      have hle := count.2.1
      simp only [readsAsError, beq_iff_eq] at herror
      omega
  | case4 socket buffer hrest count socket' hsend herror ih =>
      obtain ⟨calls, hcalls⟩ := ih (by rw [List.length_drop]; omega)
      obtain ⟨k, hk⟩ := hp socket.calls buffer.length
      simp only [send, hk, Prod.mk.injEq, Option.some.injEq] at hsend
      obtain ⟨rfl, rfl⟩ := hsend
      refine ⟨calls, hcalls.trans ?_⟩
      rw [List.append_assoc, List.take_append_drop]

theorem writeData32_of_reliable (host : ByteOrder) {p : Pieces} (hp : p.Reliable)
    (socket : Outgoing) (x : UInt32) :
    ∃ calls, writeData32 host p socket x = (true, ⟨socket.sent ++ bytes32 .big x, calls⟩) := by
  rw [writeData32, bytes32_ntohl]
  exact writeBytes_of_reliable hp socket _ (by rw [length_bytes32]; decide)

/-- One message is sent whole. -/
theorem sendPlatformData_of_reliable (host : ByteOrder) {p : Pieces} (hp : p.Reliable)
    (transport : UInt32) (socket : Outgoing) {m : Message} (hlength : m.payload.length < 2 ^ 31) :
    ∃ calls, sendPlatformData host p transport socket m.command m.payload =
      (true, ⟨socket.sent ++ messageBytes transport m, calls⟩,
        pcapEvent transport m.command m.payload) := by
  have hvalue : (UInt32.ofNat m.payload.length).toNat = m.payload.length :=
    UInt32.toNat_ofNat_of_lt' (show m.payload.length < 2 ^ 32 by omega)
  obtain ⟨c1, hcommand⟩ := writeData32_of_reliable host hp socket m.command
  obtain ⟨c2, htype⟩ := writeData32_of_reliable host hp
    ⟨socket.sent ++ bytes32 .big m.command, c1⟩ transport
  obtain ⟨c3, hfield⟩ := writeData32_of_reliable host hp
    ⟨socket.sent ++ bytes32 .big m.command ++ bytes32 .big transport, c2⟩
    (UInt32.ofNat m.payload.length)
  obtain ⟨c4, hpayload⟩ := writeBytes_of_reliable hp
    ⟨socket.sent ++ bytes32 .big m.command ++ bytes32 .big transport ++
      bytes32 .big (UInt32.ofNat m.payload.length), c3⟩ m.payload (by omega)
  refine ⟨c4, ?_⟩
  simp only [sendPlatformData, writeMultipleBytes, hcommand, htype, hfield, ntohl_ntohl, hvalue,
    List.take_length, hpayload]
  simp only [messageBytes, List.append_assoc]

/-! ## Runs of messages -/

/-- Send one message after the other. -/
def sendMessages (host : ByteOrder) (p : Pieces) (transport : UInt32) :
    Outgoing → List Message → List Bool × Outgoing
  | socket, [] => ([], socket)
  | socket, m :: ms =>
      let (result, socket, _) := sendPlatformData host p transport socket m.command m.payload
      let (results, socket) := sendMessages host p transport socket ms
      (result :: results, socket)

/-- Receive `n` times into one buffer of `size` bytes; each success is a message. -/
def receiveMessages (host : ByteOrder) (p : Pieces) (transport : UInt32) (size : Nat) :
    Nat → UInt32 → Mem → Incoming → List (Option Message) × Incoming
  | 0, _, _, socket => ([], socket)
  | n + 1, command, buffer, socket =>
      let r := receivePlatformMessage host p transport socket command buffer size
      let m := if r.result then some ⟨r.command, r.receiveBuffer.load 0 r.bytesToReceive⟩ else none
      let (ms, socket) := receiveMessages host p transport size n r.command r.receiveBuffer r.socket
      (m :: ms, socket)

/-- The bytes of a run of messages. -/
def streamOf (transport : UInt32) (ms : List Message) : Bytes := ms.flatMap (messageBytes transport)

theorem sendMessages_of_reliable (host : ByteOrder) {p : Pieces} (hp : p.Reliable)
    (transport : UInt32) (socket : Outgoing) {ms : List Message}
    (hlength : ∀ m ∈ ms, m.payload.length < 2 ^ 31) :
    ∃ calls, sendMessages host p transport socket ms =
      (ms.map fun _ => true, ⟨socket.sent ++ streamOf transport ms, calls⟩) := by
  induction ms generalizing socket with
  | nil => exact ⟨socket.calls, by simp [sendMessages, streamOf]⟩
  | cons m ms ih =>
      obtain ⟨c1, hsend⟩ := sendPlatformData_of_reliable host hp transport socket
        (hlength m List.mem_cons_self)
      obtain ⟨c2, hrest⟩ := ih ⟨socket.sent ++ messageBytes transport m, c1⟩
        fun m' hm' => hlength m' (List.mem_cons_of_mem _ hm')
      exact ⟨c2, by simp [sendMessages, hsend, hrest, streamOf]⟩

theorem streamOf_cons_append (transport : UInt32) (m : Message) (ms : List Message)
    (rest : Bytes) :
    streamOf transport (m :: ms) ++ rest =
      messageBytes transport m ++ (streamOf transport ms ++ rest) := by
  simp [streamOf]

section Receive

variable (host : ByteOrder) {p : Pieces} (transport : UInt32) {size : Nat} {ms : List Message}

theorem receiveMessages_of_reliable (hp : p.Reliable)
    (hfits : ∀ m ∈ ms, m.payload.length < 2 ^ 31 ∧ m.payload.length ≤ size % 2 ^ 32)
    (rest : Bytes) (command : UInt32) (buffer : Mem) (calls : Nat) :
    ∃ calls', receiveMessages host p transport size ms.length command buffer
        ⟨streamOf transport ms ++ rest, calls⟩ = (ms.map some, ⟨rest, calls'⟩) := by
  -- the buffer and the command of one receive are those the next one starts with
  induction ms generalizing command buffer calls with
  | nil => exact ⟨calls, rfl⟩
  | cons m ms ih =>
      obtain ⟨hlength, hle⟩ := hfits m List.mem_cons_self
      obtain ⟨c1, hreceive⟩ := receivePlatformMessage_of_reliable host hp transport hlength hle
        (streamOf transport ms ++ rest) calls command buffer
      obtain ⟨c2, hrest⟩ := ih (fun m' hm' => hfits m' (List.mem_cons_of_mem _ hm')) m.command
        (buffer.store 0 m.payload) c1
      refine ⟨c2, ?_⟩
      rw [streamOf_cons_append, List.length_cons]
      simp only [receiveMessages, hreceive, hrest, if_true, Mem.load_store, List.map_cons]

/-- Messages that were all received are not longer than the size in 32 bits. -/
theorem length_le_of_receiveMessages {command : UInt32} {buffer : Mem} {socket : Incoming}
    {rest : Bytes} (hpending : socket.pending = streamOf transport ms ++ rest)
    (h : (receiveMessages host p transport size ms.length command buffer socket).1 = ms.map some) :
    ∀ m ∈ ms, m.payload.length ≤ size % 2 ^ 32 := by
  induction ms generalizing command buffer socket with
  | nil => exact List.forall_mem_nil _
  | cons m ms ih =>
      obtain ⟨bs, hbuffer, hle, hdone⟩ :=
        receivePlatformMessage_takes host p transport socket command buffer size
      simp only [List.length_cons, receiveMessages, List.map_cons, List.cons.injEq] at h
      obtain ⟨hfirst, hlater⟩ := h
      generalize receivePlatformMessage host p transport socket command buffer size = r at *
      split_ifs at hfirst with hresult
      obtain ⟨-, hsize, htaken⟩ := hdone hresult
      obtain rfl : ⟨r.command, bs⟩ = m := by
        rw [hbuffer, hsize, Mem.load_store] at hfirst
        exact Option.some.inj hfirst
      -- what the first receive left is the stream of the others
      rw [hpending, streamOf_cons_append] at htaken
      exact List.forall_mem_cons.2 ⟨hle, ih (List.append_cancel_left htaken).symm hlater⟩

end Receive

/-- All messages are sent; and for every number of receives, so many of them are received in order,
and their bytes and no others are taken from the stream. -/
def RoundTrip (sender receiver : ByteOrder) (p q : Pieces) (transport : UInt32) (size : Nat)
    (ms : List Message) (rest : Bytes) (command : UInt32) (buffer : Mem) : Prop :=
  ∃ sent, sendMessages sender p transport ⟨[], 0⟩ ms = (ms.map fun _ => true, sent) ∧
    ∀ k ≤ ms.length, ∃ received,
      receiveMessages receiver q transport size k command buffer ⟨sent.sent ++ rest, 0⟩ =
        ((ms.take k).map some, received) ∧
      received.pending = streamOf transport (ms.drop k) ++ rest

theorem roundTrip_iff (sender receiver : ByteOrder) (transport : UInt32) {p q : Pieces}
    (hp : p.Reliable) (hq : q.Reliable) {size : Nat} {ms : List Message}
    (hlength : ∀ m ∈ ms, m.payload.length < 2 ^ 31) (rest : Bytes) (command : UInt32)
    (buffer : Mem) :
    RoundTrip sender receiver p q transport size ms rest command buffer ↔
      ∀ m ∈ ms, m.payload.length ≤ size % 2 ^ 32 := by
  obtain ⟨c1, hsend⟩ := sendMessages_of_reliable sender hp transport ⟨[], 0⟩ hlength
  rw [List.nil_append] at hsend
  constructor
  · rintro ⟨sent, hsent, hreceive⟩
    obtain rfl : ⟨streamOf transport ms, c1⟩ = sent := congrArg Prod.snd (hsend.symm.trans hsent)
    obtain ⟨received, hall, -⟩ := hreceive ms.length (Nat.le_refl _)
    have hresults : (receiveMessages receiver q transport size ms.length command buffer
        ⟨streamOf transport ms ++ rest, 0⟩).1 = ms.map some := by
      rw [hall, List.take_length]
    exact length_le_of_receiveMessages receiver transport rfl hresults
  · intro hfits
    refine ⟨_, hsend, fun k hk => ?_⟩
    have hprefix : ∀ m ∈ ms.take k,
        m.payload.length < 2 ^ 31 ∧ m.payload.length ≤ size % 2 ^ 32 := fun m hm =>
      ⟨hlength m (List.mem_of_mem_take hm), hfits m (List.mem_of_mem_take hm)⟩
    obtain ⟨c2, hreceive⟩ := receiveMessages_of_reliable receiver transport hq hprefix
      (streamOf transport (ms.drop k) ++ rest) command buffer 0
    have hsplit : streamOf transport (ms.take k) ++ (streamOf transport (ms.drop k) ++ rest) =
        streamOf transport ms ++ rest := by
      rw [← List.append_assoc, streamOf, streamOf, ← List.flatMap_append, List.take_append_drop,
        streamOf]
    rw [List.length_take, Nat.min_eq_left hk, hsplit] at hreceive
    exact ⟨_, hreceive, rfl⟩

/-- **Platform messages are framed exactly when they fit the size in 32 bits.** What is sent is
received, message by message and to the byte and however the stream is cut on either side, exactly
if no payload is longer than the size of the buffer modulo 2^32; and on any stream receiving is
safe. -/
theorem platform_messages_framed_iff (sender receiver : ByteOrder) (transport : UInt32) :
    (∀ (p q : Pieces) (ms : List Message) (size : Nat) (rest : Bytes) (command : UInt32)
        (buffer : Mem), p.Reliable → q.Reliable →
      (∀ m ∈ ms, m.payload.length < 2 ^ 31 ∧ m.payload.length ≤ size) →
      (RoundTrip sender receiver p q transport size ms rest command buffer ↔
        ∀ m ∈ ms, m.payload.length ≤ size % 2 ^ 32)) ∧
    (∀ (q : Pieces) (socket : Incoming) (command : UInt32) (buffer : Mem) (size : Nat),
      ReceivesSafely transport socket.pending buffer size
        (receivePlatformMessage receiver q transport socket command buffer size)) := by
  constructor
  · intro p q ms size rest command buffer hp hq hfits
    exact roundTrip_iff sender receiver transport hp hq (fun m hm => (hfits m hm).1) rest command
      buffer
  · intro q socket command buffer size
    exact receivesSafely receiver q transport socket command buffer size

/-- Two messages, one of them empty, through a stream that moves one byte at a time from a
little-endian to a big-endian host, into a buffer of more than 2^32 bytes. -/
theorem platform_messages_framed_sample :
    RoundTrip .little .big Pieces.bytewise Pieces.bytewise transportTypeMctp (2 ^ 32 + 16)
      [⟨commandNormal, [5, 0x10, 0x84]⟩, ⟨commandShutdown, []⟩] [0xFF] 0 (fun _ => 0) :=
  ((platform_messages_framed_iff .little .big transportTypeMctp).1 Pieces.bytewise Pieces.bytewise
    [⟨commandNormal, [5, 0x10, 0x84]⟩, ⟨commandShutdown, []⟩] (2 ^ 32 + 16) [0xFF] 0 (fun _ => 0)
    reliable_bytewise reliable_bytewise (by decide)).2 (by decide)

/-- A message of one byte is not received into a buffer of 2^32 bytes. -/
theorem large_buffer_receives_nothing :
    (∀ m ∈ [(⟨commandNormal, [5]⟩ : Message)],
      m.payload.length < 2 ^ 31 ∧ m.payload.length ≤ 2 ^ 32) ∧
    ¬ RoundTrip .little .little Pieces.bytewise Pieces.bytewise transportTypeMctp (2 ^ 32)
      [⟨commandNormal, [5]⟩] [] 0 (fun _ => 0) := by
  refine ⟨by decide, ?_⟩
  rw [roundTrip_iff .little .little transportTypeMctp reliable_bytewise reliable_bytewise
    (by decide)]
  decide

end SpdmEmu.Socket
