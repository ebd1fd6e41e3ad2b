import Mathlib.Algebra.Order.BigOperators.Group.List
import Mathlib.Data.List.ReduceOption
import SpdmEmu.Run.Machine
import SpdmEmu.Socket.Framing
import SpdmEmu.Wire.Records

/-!
# The packet capture

`spdm_emu/spdm_emu_common/pcap.c`: every message with the command `NORMAL` that is sent or received
is appended to a PCAP file, until a message with the command `SHUTDOWN` closes the file. A record is
a header that declares the number of bytes captured, at most `PCAP_PACKET_MAX_SIZE`, and the bytes.

`append_pcap_packet_data` cuts the declared length to the maximum and then writes the whole packet:
the reduced `total_size` is not used again. The file is a list of records with the right contents
exactly when no captured packet is longer than the maximum (`capture_faithful_iff`); a longer one
leaves its tail between its record and the next, where a reader looks for a header.
-/

set_option autoImplicit false

namespace SpdmEmu.Socket

open SpdmEmu.Wire SpdmEmu.Run

/-- `SOCKET_TRANSPORT_TYPE_PCI_DOE` -/
def transportTypePciDoe : UInt32 := 0x02

/-- `PCAP_PACKET_MAX_SIZE` -/
def pcapPacketMaxSize : Nat := 0x00010000

/-! ## The format -/

/-- `pcap_global_header_t` -/
structure PcapGlobalHeader where
  magicNumber : UInt32
  versionMajor : UInt16
  versionMinor : UInt16
  thisZone : UInt32
  sigFigs : UInt32
  snapLen : UInt32
  network : UInt32
deriving DecidableEq, Repr

/-- `pcap_packet_header_t` -/
structure PcapPacketHeader where
  tsSec : UInt32
  tsUsec : UInt32
  inclLen : UInt32
  origLen : UInt32
deriving DecidableEq, Repr

/-- `mctp_header_t` -/
structure MctpHeader where
  headerVersion : UInt8
  destinationId : UInt8
  sourceId : UInt8
  messageTag : UInt8
deriving DecidableEq, Repr

/-- What `industry_standard/pcap.h`, `link_type_ex.h` and `mctp.h` define. -/
structure PcapStandard where
  globalHeader : Packed PcapGlobalHeader
  packetHeader : Packed PcapPacketHeader
  packetHeader_pos : 0 < packetHeader.size
  mctpHeader : Packed MctpHeader
  globalHeaderMagic : UInt32
  globalHeaderVersionMajor : UInt16
  globalHeaderVersionMinor : UInt16
  linktypeMctp : UInt32
  linktypePciDoe : UInt32

/-- Fields in the order of their declaration, little endian. -/
def PcapStandard.sample : PcapStandard where
  globalHeader :=
    (Packed.u32.pair (Packed.u16.pair (Packed.u16.pair (Packed.u32.pair (Packed.u32.pair
      (Packed.u32.pair Packed.u32)))))).view
        (fun x => ⟨x.1, x.2.1, x.2.2.1, x.2.2.2.1, x.2.2.2.2.1, x.2.2.2.2.2.1, x.2.2.2.2.2.2⟩)
        (fun h => (h.magicNumber, h.versionMajor, h.versionMinor, h.thisZone, h.sigFigs, h.snapLen,
          h.network))
        (fun _ => rfl)
  packetHeader :=
    (Packed.u32.pair (Packed.u32.pair (Packed.u32.pair Packed.u32))).view
      (fun x => ⟨x.1, x.2.1, x.2.2.1, x.2.2.2⟩)
      (fun h => (h.tsSec, h.tsUsec, h.inclLen, h.origLen)) (fun _ => rfl)
  packetHeader_pos := by decide
  mctpHeader :=
    (Packed.u8.pair (Packed.u8.pair (Packed.u8.pair Packed.u8))).view
      (fun x => ⟨x.1, x.2.1, x.2.2.1, x.2.2.2⟩)
      (fun h => (h.headerVersion, h.destinationId, h.sourceId, h.messageTag)) (fun _ => rfl)
  globalHeaderMagic := 0xa1b2c3d4
  globalHeaderVersionMajor := 2
  globalHeaderVersionMinor := 4
  linktypeMctp := 291
  linktypePciDoe := 292

/-- Records whose header declares `incl_len` bytes of data. -/
def PcapStandard.records (K : PcapStandard) : RecordFormat PcapPacketHeader where
  header := K.packetHeader
  header_pos := K.packetHeader_pos
  dataLength h := h.inclLen.toNat

/-- A PCAP file: the global header, then records to the end of the file. -/
def parsePcap (K : PcapStandard) (file : Bytes) :
    Option (PcapGlobalHeader × List (PcapPacketHeader × Bytes)) :=
  if file.length < K.globalHeader.size then none
  else
    (K.records.parse (file.drop K.globalHeader.size)).map fun records =>
      (K.globalHeader.decode file, records)

/-! ## Writing it -/

/-- How many bytes the calls of `fwrite` put into the file: for the number of the call and the bytes
it is given. -/
abbrev Disk := Nat → Nat → Nat

/-- Every write succeeds. -/
def Disk.Reliable (disk : Disk) : Prop := ∀ i n, disk i n = n

/-- The file behind `m_pcap_file`, whether it is open, and the number of writes so far. -/
structure Capture where
  /-- `m_pcap_file != NULL` -/
  mPcapFile : Bool
  file : Bytes
  writes : Nat

section Writing

variable (K : PcapStandard) (disk : Disk)

/-- `fwrite`, with the number of bytes written. -/
def fwrite (c : Capture) (bytes : Bytes) : Nat × Capture :=
  let count := min (disk c.writes bytes.length) bytes.length
  (count, { c with file := c.file ++ bytes.take count, writes := c.writes + 1 })

/-- `close_pcap_packet_file` -/
def closePcapPacketFile (c : Capture) : Capture := { c with mPcapFile := false }

/-- The block around every `fwrite`: a write that is cut short closes the file. -/
def fwriteOrClose (c : Capture) (bytes : Bytes) : Bool × Capture :=
  match fwrite disk c bytes with
  | (count, c) => if count ≠ bytes.length then (false, closePcapPacketFile c) else (true, c)

/-- The link type of a transport, if the capture has one for it. -/
def linktype (mUseTransportLayer : UInt32) : Option UInt32 :=
  if mUseTransportLayer = transportTypeMctp then some K.linktypeMctp
  else if mUseTransportLayer = transportTypePciDoe then some K.linktypePciDoe
  else none

/-- The header `open_pcap_packet_file` writes for a link type. -/
def pcapGlobalHeader (network : UInt32) : PcapGlobalHeader where
  magicNumber := K.globalHeaderMagic
  versionMajor := K.globalHeaderVersionMajor
  versionMinor := K.globalHeaderVersionMinor
  thisZone := 0
  sigFigs := 0
  snapLen := UInt32.ofNat pcapPacketMaxSize
  network := network

/-- `open_pcap_packet_file`, where `fopen` yields a file for the names in `opens`. -/
def openPcapPacketFile (opens : String → Bool) (mUseTransportLayer : UInt32)
    (pcapFileName : Option String) (c : Capture) : Bool × Capture :=
  match pcapFileName with
  | none => (false, c)
  | some pcapFileName =>
      match linktype K mUseTransportLayer with
      | none => (false, c)
      | some network =>
          if !opens pcapFileName then (false, { c with mPcapFile := false })
          else
            -- mode "wb" truncates the file
            fwriteOrClose disk { c with mPcapFile := true, file := [] }
              (K.globalHeader.encode (pcapGlobalHeader K network))

/-- The header of a record, for a packet of `totalSize` bytes. -/
def pcapPacketHeader (rawtime totalSize : Nat) : PcapPacketHeader where
  tsSec := UInt32.ofNat rawtime
  tsUsec := 0
  inclLen :=
    UInt32.ofNat (if totalSize > pcapPacketMaxSize then pcapPacketMaxSize else totalSize)
  origLen := UInt32.ofNat totalSize

/-- `append_pcap_packet_data` at the time `rawtime`. -/
def appendPcapPacketData (rawtime : Nat) (header data : Bytes) (c : Capture) : Capture :=
  if c.mPcapFile then
    match fwriteOrClose disk c
        (K.packetHeader.encode (pcapPacketHeader rawtime (header.length + data.length))) with
    | (false, c) => c
    | (true, c) =>
        -- the source cuts `total_size` here, and writes `header_size` and `size` bytes
        match if header.length ≠ 0 then fwriteOrClose disk c header else (true, c) with
        | (false, c) => c
        | (true, c) => (fwriteOrClose disk c data).2
  else c

end Writing

/-! ## Calls that are captured -/

/-- The bytes in front of the data of a packet. -/
def transportHeader (K : PcapStandard) (mUseTransportLayer : UInt32) : Bytes :=
  if mUseTransportLayer == transportTypeMctp then K.mctpHeader.encode ⟨0, 0, 0, 0xC0⟩ else []

/-- What a function of `command.c` does to the capture. -/
def Capture.record (K : PcapStandard) (disk : Disk) (rawtime : Nat) (c : Capture) :
    Option PcapEvent → Capture
  | none => c
  | some .closed => closePcapPacketFile c
  | some (.appended mctpHeader data) =>
      appendPcapPacketData K disk rawtime
        (if mctpHeader then K.mctpHeader.encode ⟨0, 0, 0, 0xC0⟩ else []) data c

/-- A call of `send_platform_data` or `receive_platform_data`, on any socket in any state. -/
inductive PlatformCall where
  | send (p : Pieces) (socket : Outgoing) (command : UInt32) (sendBuffer : Bytes)
  | receive (p : Pieces) (socket : Incoming) (command : UInt32) (receiveBuffer : Mem)
      (bytesToReceive : Nat)

/-- The message a call has sent or received, unless it failed, and its effect on the capture. -/
def PlatformCall.run (host : ByteOrder) (mUseTransportLayer : UInt32) :
    PlatformCall → Option Message × Option PcapEvent
  | .send p socket command sendBuffer =>
      match sendPlatformData host p mUseTransportLayer socket command sendBuffer with
      | (result, _, pcap) => (if result then some ⟨command, sendBuffer⟩ else none, pcap)
  | .receive p socket command receiveBuffer bytesToReceive =>
      let r := receivePlatformData host p mUseTransportLayer socket command receiveBuffer
        bytesToReceive
      (if r.result then some ⟨r.command, r.receiveBuffer.load 0 r.bytesToReceive⟩ else none,
        r.pcap)

/-- A message and the time at which it was sent or received. -/
structure TimedMessage where
  rawtime : Nat
  message : Message
deriving DecidableEq, Repr

/-- Calls at given times, with the capture as the state. -/
def capturing (K : PcapStandard) (disk : Disk) (host : ByteOrder) (mUseTransportLayer : UInt32) :
    Machine Capture (Nat × PlatformCall) (Option TimedMessage) where
  step c call :=
    let (message, pcap) := call.2.run host mUseTransportLayer
    (message.map (TimedMessage.mk call.1), c.record K disk call.1 pcap)

/-- The messages to be captured: those with the command `NORMAL` before the first `SHUTDOWN`. -/
def toCapture (outputs : List (Option TimedMessage)) : List TimedMessage :=
  (outputs.reduceOption.takeWhile (·.message.command != commandShutdown)).filter
    (·.message.command == commandNormal)

theorem toCapture_none_cons (outputs : List (Option TimedMessage)) :
    toCapture (none :: outputs) = toCapture outputs := rfl

theorem toCapture_some_cons (m : TimedMessage) (outputs : List (Option TimedMessage)) :
    toCapture (some m :: outputs) =
      if m.message.command = commandShutdown then []
      else if m.message.command = commandNormal then m :: toCapture outputs
      else toCapture outputs := by
  unfold toCapture
  rw [List.reduceOption_cons_of_some]
  split
  · next hshutdown => simp [hshutdown]
  · next hshutdown =>
      split
      · next hnormal => simp [hnormal, commandNormal, commandShutdown]
      · next hother => simp [hshutdown, hother]

/-- The bytes of a message in the capture. -/
def packet (K : PcapStandard) (mUseTransportLayer : UInt32) (m : TimedMessage) : Bytes :=
  transportHeader K mUseTransportLayer ++ m.message.payload

/-- What a record is to say about a message: its length, and its first bytes. -/
def expectedRecord (K : PcapStandard) (mUseTransportLayer : UInt32) (m : TimedMessage) :
    Nat × Bytes :=
  ((packet K mUseTransportLayer m).length, (packet K mUseTransportLayer m).take pcapPacketMaxSize)

/-- What a record says about a message. -/
def recordContent (r : PcapPacketHeader × Bytes) : Nat × Bytes := (r.1.origLen.toNat, r.2)

/-! ## What is in the file -/

section Contents

variable {K : PcapStandard} {disk : Disk} {host : ByteOrder} {mUseTransportLayer : UInt32}

theorem fwriteOrClose_of_reliable (hdisk : disk.Reliable) (c : Capture) (bytes : Bytes) :
    fwriteOrClose disk c bytes =
      (true, { c with file := c.file ++ bytes, writes := c.writes + 1 }) := by
  simp only [fwriteOrClose, fwrite, hdisk c.writes bytes.length, Nat.min_self, List.take_length,
    ne_eq, not_true_eq_false, if_false]

/-- The header and the bytes that are put down for a message. -/
def writtenRecord (K : PcapStandard) (mUseTransportLayer : UInt32) (m : TimedMessage) :
    PcapPacketHeader × Bytes :=
  (pcapPacketHeader m.rawtime (packet K mUseTransportLayer m).length, packet K mUseTransportLayer m)

/-- A packet is written whole, behind its header. -/
theorem appendPcapPacketData_of_reliable (hdisk : disk.Reliable) {c : Capture}
    (hopen : c.mPcapFile = true) (rawtime : Nat) (header data : Bytes) :
    ∃ writes, appendPcapPacketData K disk rawtime header data c =
      ⟨true, c.file ++ K.records.printRecord
        (pcapPacketHeader rawtime (header ++ data).length, header ++ data), writes⟩ := by
  rw [appendPcapPacketData, if_pos hopen]
  simp only [fwriteOrClose_of_reliable hdisk, hopen]
  rw [← List.length_append]
  by_cases hheader : header.length = 0
  · rw [List.length_eq_zero_iff] at hheader
    subst hheader
    simp [RecordFormat.printRecord, PcapStandard.records]
  · rw [if_pos hheader]
    simp [RecordFormat.printRecord, PcapStandard.records]

/-- Sending fails without an effect on the capture, or has the effect of its message. -/
theorem sendPlatformData_cases (host : ByteOrder) (mUseTransportLayer : UInt32) (p : Pieces)
    (socket : Outgoing) (command : UInt32) (sendBuffer : Bytes) :
    ∃ socket',
      sendPlatformData host p mUseTransportLayer socket command sendBuffer =
        (false, socket', none) ∨
      sendPlatformData host p mUseTransportLayer socket command sendBuffer =
        (true, socket', pcapEvent mUseTransportLayer command sendBuffer) := by
  unfold sendPlatformData
  rcases writeData32 host p socket command with ⟨_ | _, socket₁⟩
  · exact ⟨_, .inl rfl⟩
  dsimp only
  rcases writeData32 host p socket₁ mUseTransportLayer with ⟨_ | _, socket₂⟩
  · exact ⟨_, .inl rfl⟩
  dsimp only
  rcases writeMultipleBytes host p socket₂ sendBuffer _ with ⟨_ | _, socket₃⟩
  · exact ⟨_, .inl rfl⟩
  · exact ⟨_, .inr rfl⟩

/-- Receiving fails without an effect on the capture, or has the effect of its message. -/
theorem receivePlatformData_cases (host : ByteOrder) (mUseTransportLayer : UInt32) (p : Pieces)
    (socket : Incoming) (command : UInt32) (receiveBuffer : Mem) (bytesToReceive : Nat) :
    ∃ r, receivePlatformData host p mUseTransportLayer socket command receiveBuffer
        bytesToReceive = r ∧
      (r.result = false ∧ r.pcap = none ∨
        r.result = true ∧ r.pcap =
          pcapEvent mUseTransportLayer r.command (r.receiveBuffer.load 0 r.bytesToReceive)) := by
  refine ⟨_, rfl, ?_⟩
  unfold receivePlatformData
  generalize readMultipleBytes host p socket receiveBuffer 0 _ = r
  by_cases hfailed : (!r.result) = true
  · rw [if_pos hfailed]
    exact .inl ⟨rfl, rfl⟩
  rw [if_neg hfailed]
  by_cases hlong : r.bytesReceived > UInt32.ofNat bytesToReceive
  · rw [if_pos hlong]
    exact .inl ⟨rfl, rfl⟩
  · rw [if_neg hlong]
    exact .inr ⟨rfl, rfl⟩

/-- The effect of a call on the capture follows from its message. -/
theorem run_pcap (host : ByteOrder) (mUseTransportLayer : UInt32) (call : PlatformCall) :
    (call.run host mUseTransportLayer).2 =
      (call.run host mUseTransportLayer).1.bind fun m =>
        pcapEvent mUseTransportLayer m.command m.payload := by
  cases call with
  | send p socket command sendBuffer =>
      obtain ⟨socket', hsend | hsend⟩ :=
        sendPlatformData_cases host mUseTransportLayer p socket command sendBuffer
      · rw [PlatformCall.run, hsend]
        rfl
      · rw [PlatformCall.run, hsend]
        rfl
  | receive p socket command receiveBuffer bytesToReceive =>
      obtain ⟨r, hreceive, ⟨hresult, hpcap⟩ | ⟨hresult, hpcap⟩⟩ :=
        receivePlatformData_cases host mUseTransportLayer p socket command receiveBuffer
          bytesToReceive
      · simp only [PlatformCall.run, hreceive, hresult, hpcap]
        rfl
      · simp only [PlatformCall.run, hreceive, hresult, hpcap]
        rfl

/-- A closed file is not written any more. -/
theorem file_after_closed (c : Capture) (hclosed : c.mPcapFile = false)
    (calls : List (Nat × PlatformCall)) :
    ((capturing K disk host mUseTransportLayer).after c calls).file = c.file := by
  have hinv := (capturing K disk host mUseTransportLayer).invariant_after
    (fun c' => c'.mPcapFile = false ∧ c'.file = c.file) ?_ ⟨hclosed, rfl⟩ calls
  · exact hinv.2
  intro c' call h
  simp only [capturing]
  rcases (call.2.run host mUseTransportLayer).2 with _ | _ | ⟨mctpHeader, data⟩
  · exact h
  · exact ⟨rfl, h.2⟩
  · rw [Capture.record, appendPcapPacketData, if_neg (by rw [h.1]; decide)]
    exact h

/-- What one call does to an open capture: nothing, close it, or append the record of its
message. -/
theorem step_of_open (K : PcapStandard) (host : ByteOrder) (mUseTransportLayer : UInt32)
    (hdisk : disk.Reliable) {c : Capture} (hopen : c.mPcapFile = true)
    (call : Nat × PlatformCall) :
    let result := (capturing K disk host mUseTransportLayer).step c call
    match result.1 with
    | none => result.2 = c
    | some m =>
        if m.message.command = commandShutdown then result.2 = closePcapPacketFile c
        else if m.message.command = commandNormal then
          ∃ writes, result.2 =
            ⟨true, c.file ++ K.records.printRecord (writtenRecord K mUseTransportLayer m), writes⟩
        else result.2 = c := by
  have hpcap := run_pcap host mUseTransportLayer call.2
  simp only [capturing]
  generalize call.2.run host mUseTransportLayer = run at hpcap
  obtain ⟨_ | message, pcap⟩ := run
  · cases hpcap
    rfl
  · replace hpcap : pcap = pcapEvent mUseTransportLayer message.command message.payload := hpcap
    subst hpcap
    simp only [Option.map_some, pcapEvent]
    split
    · rfl
    · split
      · exact appendPcapPacketData_of_reliable hdisk hopen call.1 _ message.payload
      · rfl

/-- **Contents of the file.** The records of the messages to be captured follow what an open file
holds, one for each message and in order. -/
theorem file_after_open (hdisk : disk.Reliable) {c : Capture} (hopen : c.mPcapFile = true)
    (calls : List (Nat × PlatformCall)) :
    ((capturing K disk host mUseTransportLayer).after c calls).file =
      c.file ++ K.records.print
        ((toCapture ((capturing K disk host mUseTransportLayer).outputs c calls)).map
          (writtenRecord K mUseTransportLayer)) := by
  -- along the calls, with the file as it is before the next one
  induction calls generalizing c with
  | nil => exact (List.append_nil _).symm
  | cons call calls ih =>
      have hstep := step_of_open K host mUseTransportLayer hdisk hopen call
      rw [Machine.after_cons, Machine.outputs_cons]
      generalize (capturing K disk host mUseTransportLayer).step c call = result at hstep
      obtain ⟨_ | m, c'⟩ := result
      · replace hstep : c' = c := hstep
        subst hstep
        rw [toCapture_none_cons]
        exact ih hopen
      · dsimp only at hstep ⊢
        rw [toCapture_some_cons]
        split at hstep
        · next hshutdown =>
            subst hstep
            rw [file_after_closed _ rfl, if_pos hshutdown]
            exact (List.append_nil _).symm
        · next hshutdown =>
            rw [if_neg hshutdown]
            split at hstep
            · next hnormal =>
                obtain ⟨writes, rfl⟩ := hstep
                rw [if_pos hnormal, ih rfl, List.map_cons, RecordFormat.print_cons,
                  List.append_assoc]
            · next hother =>
                subst hstep
                rw [if_neg hother]
                exact ih hopen

/-- A capture that was opened holds the global header. -/
theorem openPcapPacketFile_of_reliable (hdisk : disk.Reliable) {opens : String → Bool}
    {pcapFileName : Option String} {before c : Capture}
    (h : openPcapPacketFile K disk opens mUseTransportLayer pcapFileName before = (true, c)) :
    c.mPcapFile = true ∧ ∃ header, c.file = K.globalHeader.encode header := by
  unfold openPcapPacketFile at h
  rcases pcapFileName with _ | name
  · cases h
  dsimp only at h
  generalize linktype K mUseTransportLayer = link at h
  rcases link with _ | network
  · cases h
  dsimp only at h
  split at h
  · cases h
  · rw [fwriteOrClose_of_reliable hdisk] at h
    cases h
    exact ⟨rfl, _, List.nil_append _⟩

theorem parsePcap_append (header : PcapGlobalHeader) (rest : Bytes) :
    parsePcap K (K.globalHeader.encode header ++ rest) =
      (K.records.parse rest).map fun records => (header, records) := by
  have hlong : ¬ (K.globalHeader.encode header ++ rest).length < K.globalHeader.size := by
    rw [List.length_append, K.globalHeader.length_encode]
    omega
  rw [parsePcap, if_neg hlong, Packed.drop_encode_append, Packed.decode_encode_append]

/-- The record of a packet that is not too long declares its length and says what it should. -/
theorem writtenRecord_of_le {m : TimedMessage}
    (h : (packet K mUseTransportLayer m).length ≤ pcapPacketMaxSize) :
    (writtenRecord K mUseTransportLayer m).2.length =
        K.records.dataLength (writtenRecord K mUseTransportLayer m).1 ∧
      recordContent (writtenRecord K mUseTransportLayer m) =
        expectedRecord K mUseTransportLayer m := by
  have hvalue : (UInt32.ofNat (packet K mUseTransportLayer m).length).toNat =
      (packet K mUseTransportLayer m).length := by
    rw [pcapPacketMaxSize] at h
    exact UInt32.toNat_ofNat_of_lt' (show _ < 2 ^ 32 by omega)
  constructor
  · simp only [writtenRecord, PcapStandard.records, pcapPacketHeader]
    rw [if_neg (by omega), hvalue]
  · simp only [recordContent, writtenRecord, pcapPacketHeader, expectedRecord]
    rw [hvalue, List.take_of_length_le h]

/-- **Accounting for the file.** Records that say what they should have as many bytes as the file
only if nothing was cut off. -/
theorem length_le_of_parse {ms : List TimedMessage} {records : List (PcapPacketHeader × Bytes)}
    (hparse : K.records.parse (K.records.print (ms.map (writtenRecord K mUseTransportLayer))) =
      some records)
    (hcontent : records.map recordContent = ms.map (expectedRecord K mUseTransportLayer)) :
    ∀ m ∈ ms, (packet K mUseTransportLayer m).length ≤ pcapPacketMaxSize := by
  have hprinted : (K.records.print (ms.map (writtenRecord K mUseTransportLayer))).length =
      (ms.map fun m => K.packetHeader.size + (packet K mUseTransportLayer m).length).sum := by
    rw [RecordFormat.print, List.length_flatMap, List.map_map]
    congr 1
    apply List.map_congr_left
    intro m _
    exact K.records.length_printRecord _
  have hread : (records.map fun r => K.packetHeader.size + r.2.length).sum =
      (ms.map fun m => K.packetHeader.size +
        ((packet K mUseTransportLayer m).take pcapPacketMaxSize).length).sum := by
    have h := congrArg (List.map fun content : Nat × Bytes =>
      K.packetHeader.size + content.2.length) hcontent
    rw [List.map_map, List.map_map] at h
    exact congrArg List.sum h
  have hlength := K.records.length_of_parse hparse
  rw [hprinted, show K.records.header.size = K.packetHeader.size from rfl, hread] at hlength
  intro m hm
  by_contra hlong
  apply absurd hlength
  -- a single packet that is cut makes the sum smaller
  apply Nat.ne_of_gt
  apply List.sum_lt_sum
  · intro m' _
    rw [List.length_take]
    omega
  · refine ⟨m, hm, ?_⟩
    rw [List.length_take]
    omega

end Contents

/-! ## Faithful captures -/

/-- **The capture is faithful exactly when no packet is too long.** After a successful open, and
with no write failing, the file is a PCAP file with one record for every message to be captured, in
order and with the right length and bytes, if and only if every such message, with its transport
header, has at most `PCAP_PACKET_MAX_SIZE` bytes. -/
theorem capture_faithful_iff (K : PcapStandard) (host : ByteOrder) (mUseTransportLayer : UInt32)
    (disk : Disk) (hdisk : disk.Reliable) (opens : String → Bool) (pcapFileName : Option String)
    (before c : Capture)
    (hopen : openPcapPacketFile K disk opens mUseTransportLayer pcapFileName before = (true, c))
    (calls : List (Nat × PlatformCall)) :
    let machine := capturing K disk host mUseTransportLayer
    let messages := toCapture (machine.outputs c calls)
    (∃ header records, parsePcap K (machine.after c calls).file = some (header, records) ∧
      records.map recordContent = messages.map (expectedRecord K mUseTransportLayer)) ↔
    ∀ m ∈ messages, (transportHeader K mUseTransportLayer).length + m.message.payload.length ≤
      pcapPacketMaxSize := by
  intro machine messages
  obtain ⟨hfile, header, hheader⟩ := openPcapPacketFile_of_reliable hdisk hopen
  have hafter : (machine.after c calls).file = K.globalHeader.encode header ++
      K.records.print (messages.map (writtenRecord K mUseTransportLayer)) := by
    rw [← hheader]
    exact file_after_open hdisk hfile calls
  rw [hafter, parsePcap_append]
  constructor
  · rintro ⟨header', records, hparse, hcontent⟩ m hm
    rw [Option.map_eq_some_iff] at hparse
    obtain ⟨records', hparse, heq⟩ := hparse
    cases heq
    have hle := length_le_of_parse hparse hcontent m hm
    rwa [packet, List.length_append] at hle
  · intro hle
    have hrecord : ∀ m ∈ messages, (packet K mUseTransportLayer m).length ≤ pcapPacketMaxSize := by
      intro m hm
      rw [packet, List.length_append]
      exact hle m hm
    refine ⟨header, messages.map (writtenRecord K mUseTransportLayer), ?_, ?_⟩
    · rw [K.records.parse_print]
      · rfl
      intro r hr
      obtain ⟨m, hm, rfl⟩ := List.mem_map.1 hr
      exact (writtenRecord_of_le (hrecord m hm)).1
    · rw [List.map_map]
      apply List.map_congr_left
      intro m hm
      exact (writtenRecord_of_le (hrecord m hm)).2

/-! ## A short and a long packet -/

/-- A payload is sent over a stream that does not fail. -/
theorem run_send_of_reliable (host : ByteOrder) (mUseTransportLayer : UInt32) {p : Pieces}
    (hp : p.Reliable) (socket : Outgoing) (command : UInt32) {payload : Bytes}
    (hlength : payload.length < 2 ^ 31) :
    (PlatformCall.send p socket command payload).run host mUseTransportLayer =
      (some ⟨command, payload⟩, pcapEvent mUseTransportLayer command payload) := by
  obtain ⟨calls, hsend⟩ := sendPlatformData_of_reliable host hp mUseTransportLayer socket
    (m := ⟨command, payload⟩) hlength
  rw [PlatformCall.run, hsend]
  rfl

/-- A capture that was just opened in the sample format. -/
private def opened (mUseTransportLayer : UInt32) : Bool × Capture :=
  openPcapPacketFile .sample (fun _ n => n) (fun _ => true) mUseTransportLayer (some "capture.pcap")
    ⟨false, [], 0⟩

/-- A payload sent with the command `NORMAL`, at the time 0. -/
private def sent (payload : Bytes) : Nat × PlatformCall :=
  (0, .send .bytewise ⟨[], 0⟩ commandNormal payload)

private theorem toCapture_sent (mUseTransportLayer : UInt32) (c : Capture) (payloads : List Bytes)
    (hlength : ∀ payload ∈ payloads, payload.length < 2 ^ 31) :
    toCapture ((capturing .sample (fun _ n => n) .little mUseTransportLayer).outputs c
      (payloads.map sent)) =
        payloads.map fun payload => ⟨0, ⟨commandNormal, payload⟩⟩ := by
  induction payloads generalizing c with
  | nil => rfl
  | cons payload payloads ih =>
      rw [List.forall_mem_cons] at hlength
      rw [List.map_cons, List.map_cons, Machine.outputs_cons]
      have hrun := run_send_of_reliable .little mUseTransportLayer reliable_bytewise ⟨[], 0⟩
        commandNormal hlength.1
      have houtput : ((capturing .sample (fun _ n => n) .little mUseTransportLayer).step c
          (sent payload)).1 = some ⟨0, ⟨commandNormal, payload⟩⟩ := by
        simp only [capturing, sent, hrun, Option.map_some]
      rw [houtput, toCapture_some_cons, if_neg (show ¬ commandNormal = commandShutdown by decide),
        if_pos rfl, ih _ hlength.2]

private theorem toCapture_sent_one (mUseTransportLayer : UInt32) (c : Capture) (payload : Bytes)
    (hlength : payload.length < 2 ^ 31) :
    toCapture ((capturing .sample (fun _ n => n) .little mUseTransportLayer).outputs c
      [sent payload]) = [⟨0, ⟨commandNormal, payload⟩⟩] :=
  toCapture_sent mUseTransportLayer c [payload] (List.forall_mem_singleton.2 hlength)

/-- Two payloads over MCTP: a record of six bytes, and one of five. -/
theorem capture_faithful_sample :
    let machine := capturing .sample (fun _ n => n) .little transportTypeMctp
    ∃ header records,
      parsePcap .sample (machine.after (opened transportTypeMctp).2
        ([[5, 6], [7]].map sent)).file = some (header, records) ∧
      records.map recordContent = [(6, [0, 0, 0, 0xC0, 5, 6]), (5, [0, 0, 0, 0xC0, 7])] := by
  intro machine
  have h := (capture_faithful_iff .sample .little transportTypeMctp (fun _ n => n)
    (fun _ _ => rfl) (fun _ => true) (some "capture.pcap") ⟨false, [], 0⟩
    (opened transportTypeMctp).2 rfl ([[5, 6], [7]].map sent)).2
  rw [toCapture_sent transportTypeMctp _ [[5, 6], [7]] (by decide)] at h
  exact h (by decide)

/-- A packet of the maximal length with sixteen zeros behind it is two records. -/
private theorem parse_sent_long {payload : Bytes} (hlength : payload.length = 0x10000) :
    parsePcap .sample ((capturing .sample (fun _ n => n) .little transportTypePciDoe).after
        (opened transportTypePciDoe).2 [sent (payload ++ List.replicate 16 0)]).file =
      some (pcapGlobalHeader .sample 292,
        [(⟨0, 0, 0x10000, 0x10010⟩, payload), (⟨0, 0, 0, 0⟩, [])]) := by
  have htotal : (payload ++ List.replicate 16 (0 : UInt8)).length = 0x10010 := by
    rw [List.length_append, hlength, List.length_replicate]
  have hempty : PcapStandard.sample.records.printRecord (⟨0, 0, 0, 0⟩, []) =
      List.replicate 16 0 := by
    decide
  have hheader : (opened transportTypePciDoe).2.file =
      PcapStandard.sample.globalHeader.encode (pcapGlobalHeader .sample 292) := rfl
  rw [file_after_open (fun _ _ => rfl) rfl, toCapture_sent_one _ _ _ (by rw [htotal]; decide),
    hheader, parsePcap_append]
  have hwritten : PcapStandard.sample.records.print
      ([(⟨0, ⟨commandNormal, payload ++ List.replicate 16 0⟩⟩ : TimedMessage)].map
        (writtenRecord .sample transportTypePciDoe)) =
      PcapStandard.sample.records.printRecord (⟨0, 0, 0x10000, 0x10010⟩, payload) ++
        PcapStandard.sample.records.printRecord (⟨0, 0, 0, 0⟩, []) := by
    rw [hempty]
    simp only [List.map_cons, List.map_nil, RecordFormat.print_cons, RecordFormat.print_nil,
      List.append_nil, writtenRecord, packet, transportHeader, RecordFormat.printRecord,
      List.append_assoc]
    rw [if_neg (by decide), List.nil_append, htotal]
    rfl
  rw [hwritten, RecordFormat.parse_printRecord_append _ hlength,
    ← List.append_nil (PcapStandard.sample.records.printRecord _),
    RecordFormat.parse_printRecord_append _ rfl, RecordFormat.parse_nil]
  rfl

/-- One message of 65552 zeros over PCI DOE: its record is cut to 65536 bytes, and the other 16 are
read as a second, empty record. -/
theorem long_packet_is_two_records :
    let machine := capturing .sample (fun _ n => n) .little transportTypePciDoe
    let calls := [sent (List.replicate 0x10010 0)]
    let c := (opened transportTypePciDoe).2
    (opened transportTypePciDoe).1 = true ∧
      toCapture (machine.outputs c calls) =
        [⟨0, ⟨commandNormal, List.replicate 0x10010 0⟩⟩] ∧
      parsePcap .sample (machine.after c calls).file =
        some (pcapGlobalHeader .sample 292,
          [(⟨0, 0, 0x10000, 0x10010⟩, List.replicate 0x10000 0), (⟨0, 0, 0, 0⟩, [])]) := by
  have hsplit : List.replicate 0x10010 (0 : UInt8) =
      List.replicate 0x10000 0 ++ List.replicate 16 0 := by
    rw [List.replicate_append_replicate]
  intro machine calls c
  refine ⟨rfl, ?_, ?_⟩
  · exact toCapture_sent_one _ _ _ (by rw [List.length_replicate]; decide)
  · simp only [calls, hsplit]
    exact parse_sent_long List.length_replicate

end SpdmEmu.Socket
