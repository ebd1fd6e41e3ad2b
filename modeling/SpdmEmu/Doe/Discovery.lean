import SpdmEmu.Libspdm.Status
import SpdmEmu.Run.Loop
import SpdmEmu.Wire.ByteOrder
import Mathlib.Data.List.TakeDrop

/-!
# DOE discovery

`library/pci_doe_requester_lib/pci_doe_req_discovery.c` and
`library/pci_doe_responder_lib/pci_doe_dispatch.c`. The responder has a table of the data object
protocols it understands and answers a request for an index with the entry at that index and the
index of the next entry, 0 behind the last. The requester starts at index 0 and follows the next
indices; it accepts 0 and the successor of the index it asked for and nothing else. The comparison
is one of integers, so behind index 255 it accepts 0 only, and the loop ends within 256 exchanges
whatever the responder answers. That is also why the loop is a function here, without fuel.

The layouts and codes of `pcidoe.h` are parameters, and so are the two functions of libspdm that
decode a discovery request and encode the response.
-/

set_option autoImplicit false

namespace SpdmEmu.Doe

open SpdmEmu.Wire SpdmEmu.Libspdm SpdmEmu.Run

/-! ## Data objects -/

/-- `pci_doe_data_object_protocol_t` -/
structure DataObjectProtocol where
  vendorId : UInt16
  dataObjectType : UInt8
deriving DecidableEq, Repr

/-- `pci_doe_data_object_header_t` -/
structure DataObjectHeader where
  vendorId : UInt16
  dataObjectType : UInt8
  /-- in units of four bytes -/
  length : UInt32
deriving DecidableEq, Repr

/-- `pci_doe_discovery_request_t` -/
structure DiscoveryRequest where
  index : UInt8
  version : UInt8
deriving DecidableEq, Repr

/-- `pci_doe_discovery_response_t` -/
structure DiscoveryResponse where
  vendorId : UInt16
  dataObjectType : UInt8
  nextIndex : UInt8
deriving DecidableEq, Repr

/-- `industry_standard/pcidoe.h`, and the size of a `pci_doe_data_object_protocol_t`. -/
structure DataObjects where
  vendorIdPcisig : UInt16
  typeDoeDiscovery : UInt8
  header : Packed DataObjectHeader
  discoveryRequest : Packed DiscoveryRequest
  discoveryResponse : Packed DiscoveryResponse
  protocolSize : Nat
  protocolSize_pos : 0 < protocolSize

namespace DataObjects

variable (O : DataObjects)

/-- `sizeof(doe_response)` -/
def responseSize : Nat := O.header.size + O.discoveryResponse.size

/-- The header of a discovery data object of `size` bytes. -/
def discoveryHeader (size : Nat) : DataObjectHeader :=
  ⟨O.vendorIdPcisig, O.typeDoeDiscovery, UInt32.ofNat (size / 4)⟩

/-- `doe_request` -/
def requestMessage (version index : UInt8) : Bytes :=
  O.header.encode (O.discoveryHeader (O.header.size + O.discoveryRequest.size)) ++
    O.discoveryRequest.encode ⟨index, version⟩

end DataObjects

/-! ## The requester -/

section Requester

variable {σ : Type}

/-- The state of the loop of `pci_doe_discovery`: the link, the index of the request, and the
elements of `data_object_protocol` written so far. -/
structure Discovery (σ : Type) where
  link : σ
  index : UInt8
  writes : List (Nat × DataObjectProtocol)

/-- What `pci_doe_discovery` leaves behind; `size` is `*data_object_protocol_size`. -/
structure DiscoveryResult (σ : Type) where
  status : LibspdmReturn
  size : Nat
  link : σ
  writes : List (Nat × DataObjectProtocol)

variable (O : DataObjects) (version : UInt8) (sendReceive : SendReceive σ) (size : Nat)

/-- The body of the loop: it returns, or goes on with the next index. -/
def discoveryStep : Body (Discovery σ) (DiscoveryResult σ) := fun d =>
  if size / O.protocolSize < d.index.toNat + 1 then .inl ⟨.invalidMsgSize, size, d.link, d.writes⟩
  else
    let (exchange, link) := sendReceive d.link (O.requestMessage version d.index) O.responseSize
    let header := O.header.decode exchange.response
    let response := O.discoveryResponse.decode (exchange.response.drop O.header.size)
    if exchange.status.isError then .inl ⟨exchange.status, size, link, d.writes⟩
    else if exchange.response.length ≠ O.responseSize then
      .inl ⟨.invalidMsgSize, size, link, d.writes⟩
    else if header.vendorId ≠ O.vendorIdPcisig then .inl ⟨.invalidMsgField, size, link, d.writes⟩
    else if header.dataObjectType ≠ O.typeDoeDiscovery then
      .inl ⟨.invalidMsgField, size, link, d.writes⟩
    else if header.length.toNat ≠ O.responseSize / 4 then
      .inl ⟨.invalidMsgField, size, link, d.writes⟩
    -- both sides of the second comparison are promoted to `int`
    else if response.nextIndex ≠ 0 ∧ response.nextIndex.toNat ≠ d.index.toNat + 1 then
      .inl ⟨.invalidMsgField, size, link, d.writes⟩
    else
      let writes := d.writes ++ [(d.index.toNat, ⟨response.vendorId, response.dataObjectType⟩)]
      if response.nextIndex = 0 then
        .inl ⟨.success, (d.index.toNat + 1) * O.protocolSize, link, writes⟩
      else .inr ⟨link, response.nextIndex, writes⟩

/-- All that a pass of the loop can do: refuse to ask for more entries than the caller has room for,
stop at a reply it does not accept, write the last entry, or write an entry and ask for the next. -/
inductive DiscoveryPass (d : Discovery σ) : DiscoveryResult σ ⊕ Discovery σ → Prop
  | full (hfull : size / O.protocolSize < d.index.toNat + 1) :
      DiscoveryPass d (.inl ⟨.invalidMsgSize, size, d.link, d.writes⟩)
  | refused {status : LibspdmReturn} (herror : status.isError = true)
      (hroom : d.index.toNat < size / O.protocolSize) :
      DiscoveryPass d (.inl ⟨status, size,
        (sendReceive d.link (O.requestMessage version d.index) O.responseSize).2, d.writes⟩)
  | last (entry : DataObjectProtocol) (hroom : d.index.toNat < size / O.protocolSize) :
      DiscoveryPass d (.inl ⟨.success, (d.index.toNat + 1) * O.protocolSize,
        (sendReceive d.link (O.requestMessage version d.index) O.responseSize).2,
        d.writes ++ [(d.index.toNat, entry)]⟩)
  | next (entry : DataObjectProtocol) {nextIndex : UInt8}
      (hroom : d.index.toNat < size / O.protocolSize)
      (hnext : nextIndex.toNat = d.index.toNat + 1) :
      DiscoveryPass d (.inr
        ⟨(sendReceive d.link (O.requestMessage version d.index) O.responseSize).2, nextIndex,
          d.writes ++ [(d.index.toNat, entry)]⟩)

theorem discoveryPass (d : Discovery σ) :
    DiscoveryPass O version sendReceive size d (discoveryStep O version sendReceive size d) := by
  simp only [discoveryStep]
  apply iteInduction (motive := DiscoveryPass O version sendReceive size d) .full
  intro hfull
  have hroom : d.index.toNat < size / O.protocolSize := by omega
  apply iteInduction (motive := DiscoveryPass O version sendReceive size d)
  · intro herror
    exact .refused herror hroom
  intro _
  -- the replies that are not accepted, one check after the other
  iterate 4
    apply iteInduction (motive := DiscoveryPass O version sendReceive size d)
      (fun _ => .refused rfl hroom)
    intro _
  apply iteInduction (motive := DiscoveryPass O version sendReceive size d)
    (fun _ => .refused rfl hroom)
  intro hnext
  apply iteInduction (motive := DiscoveryPass O version sendReceive size d)
    (fun _ => .last _ hroom)
  intro hlast
  refine .next _ hroom ?_
  by_contra hne
  exact hnext ⟨hlast, hne⟩

variable {O version sendReceive size}

/-- The index grows with each pass, and it is a byte. -/
theorem discoveryStep_decreases (d d' : Discovery σ)
    (h : discoveryStep O version sendReceive size d = .inr d') :
    256 - d'.index.toNat < 256 - d.index.toNat := by
  have hpass := discoveryPass O version sendReceive size d
  rw [h] at hpass
  cases hpass with
  | next entry hroom hnext =>
      rename_i nextIndex
      have hlt : nextIndex.toNat < 256 := nextIndex.toNat_lt
      show 256 - nextIndex.toNat < 256 - d.index.toNat
      omega

variable (O version sendReceive size)

/-- `pci_doe_discovery` -/
def pciDoeDiscovery (link : σ) : DiscoveryResult σ :=
  (discoveryStep O version sendReceive size).run (fun d => 256 - d.index.toNat)
    discoveryStep_decreases ⟨link, 0, []⟩

/-! ## Any responder -/

/-- At the top of the body with index `i` the entries before `i` are written, and `i` exchanges are
made. -/
structure Discovery.Consistent (d : Discovery (σ × List (Call σ))) : Prop where
  writes : d.writes.map Prod.fst = List.range d.index.toNat
  room : d.index.toNat ≤ size / O.protocolSize
  calls : d.link.2.length = d.index.toNat

/-- What holds when discovery returns, whatever the responder is. -/
structure DiscoveryResult.Safe (r : DiscoveryResult (σ × List (Call σ))) : Prop where
  calls : r.link.2.length ≤ 256
  /-- no element at or behind the capacity of the caller is written -/
  inside : ∀ w ∈ r.writes, w.1 < size / O.protocolSize
  /-- after a success the elements written are those below the count -/
  count : r.status = .success →
    ∃ k ≤ size / O.protocolSize, r.size = k * O.protocolSize ∧
      r.writes.map Prod.fst = List.range k

variable {O size}

theorem length_recorded (sendReceive : SendReceive σ) (s : σ × List (Call σ)) (request : Bytes)
    (capacity : Nat) :
    (sendReceive.recorded s request capacity).2.2.length = s.2.length + 1 := by
  simp [SendReceive.recorded]

theorem inside_of_range {writes : List (Nat × DataObjectProtocol)} {k n : Nat}
    (h : writes.map Prod.fst = List.range k) (hkn : k ≤ n) : ∀ w ∈ writes, w.1 < n := by
  intro w hw
  have hmem : w.1 ∈ writes.map Prod.fst := List.mem_map_of_mem hw
  rw [h, List.mem_range] at hmem
  omega

theorem Discovery.Consistent.next {d d' : Discovery (σ × List (Call σ))}
    (hd : d.Consistent O size)
    (h : discoveryStep O version sendReceive.recorded size d = .inr d') :
    d'.Consistent O size := by
  have hpass := discoveryPass O version sendReceive.recorded size d
  rw [h] at hpass
  cases hpass with
  | next entry hroom hnext =>
      refine ⟨?_, ?_, ?_⟩
      · show (d.writes ++ [(d.index.toNat, entry)]).map Prod.fst = _
        rw [List.map_append, hd.writes, hnext, List.range_succ]
        rfl
      · rw [hnext]
        exact hroom
      · rw [length_recorded, hd.calls, hnext]

theorem Discovery.Consistent.stop {d : Discovery (σ × List (Call σ))}
    (hd : d.Consistent O size) {r : DiscoveryResult (σ × List (Call σ))}
    (h : discoveryStep O version sendReceive.recorded size d = .inl r) : r.Safe O size := by
  have hpass := discoveryPass O version sendReceive.recorded size d
  have hindex : d.index.toNat < 256 := d.index.toNat_lt
  rw [h] at hpass
  cases hpass with
  | full hfull =>
      refine ⟨?_, inside_of_range hd.writes hd.room, ?_⟩
      · rw [hd.calls]
        omega
      · intro hsuccess
        cases hsuccess
  | refused herror hroom =>
      refine ⟨?_, inside_of_range hd.writes hd.room, ?_⟩
      · rw [length_recorded, hd.calls]
        omega
      · rintro rfl
        cases herror
  | last entry hroom =>
      have hwrites : (d.writes ++ [(d.index.toNat, entry)]).map Prod.fst =
          List.range (d.index.toNat + 1) := by
        rw [List.map_append, hd.writes, List.range_succ]
        rfl
      refine ⟨?_, inside_of_range hwrites hroom, fun _ => ⟨_, hroom, rfl, hwrites⟩⟩
      rw [length_recorded, hd.calls]
      omega

/-- Discovery is safe against every responder. -/
theorem pciDoeDiscovery_safe (link : σ) :
    (pciDoeDiscovery O version sendReceive.recorded size (link, [])).Safe O size := by
  apply Body.run_invariant (fun _ _ hd h => Discovery.Consistent.next version sendReceive hd h)
    (fun _ _ hd h => Discovery.Consistent.stop version sendReceive hd h)
  exact ⟨rfl, Nat.zero_le _, rfl⟩

end Requester

/-! ## The responder -/

/-- `libspdm_pci_doe_decode_discovery_request` and `libspdm_pci_doe_encode_discovery`, which is
given a message and the size of the response buffer. -/
structure DiscoveryCodec where
  decodeDiscoveryRequest : Bytes → Except LibspdmReturn UInt8
  encodeDiscovery : Bytes → Nat → Except LibspdmReturn Bytes

/-- `reply[2]` for an entry and the index of the next one. -/
def replyWord (entry : DataObjectProtocol) (nextIndex : UInt8) : UInt32 :=
  nextIndex.toUInt32 <<< 24 ||| entry.dataObjectType.toUInt32 <<< 16 ||| entry.vendorId.toUInt32

/-- libspdm finds the index in the request, puts the header of a data object before the response,
and lays the response out as a little-endian word. -/
structure DiscoveryCodec.Faithful (C : DiscoveryCodec) (O : DataObjects) (version : UInt8) :
    Prop where
  decode : ∀ index, C.decodeDiscoveryRequest (O.requestMessage version index) = .ok index
  encode : ∀ message responseSize, O.header.size + message.length ≤ responseSize →
    C.encodeDiscovery message responseSize =
      .ok (O.header.encode (O.discoveryHeader (O.header.size + message.length)) ++ message)
  size : O.discoveryResponse.size = 4
  headerSize : O.header.size = 8
  layout : ∀ entry nextIndex,
    O.discoveryResponse.decode (bytes32 .little (replyWord entry nextIndex)) =
      ⟨entry.vendorId, entry.dataObjectType, nextIndex⟩

/-- `pci_doe_get_response_doe_request` with a protocol table in place of
`m_data_object_protocol`. -/
def pciDoeGetResponseDoeRequest (C : DiscoveryCodec) (table : List DataObjectProtocol)
    (responseSize : Nat) (request : Bytes) : Reply :=
  match C.decodeDiscoveryRequest request with
  | .error status => ⟨status, none⟩
  | .ok index =>
      match table[index.toNat]? with
      | none => ⟨.invalidMsgField, none⟩
      | some entry =>
          let reply :=
            if index.toNat = table.length - 1 then
              entry.dataObjectType.toUInt32 <<< 16 ||| entry.vendorId.toUInt32
            else
              UInt32.ofNat (index.toNat + 1) <<< 24 |||
                entry.dataObjectType.toUInt32 <<< 16 ||| entry.vendorId.toUInt32
          match C.encodeDiscovery (bytes32 .little reply) responseSize with
          | .error status => ⟨status, none⟩
          | .ok message => ⟨.success, some message⟩

/-- The responder over a link that delivers messages unchanged. -/
def discoveryLink (C : DiscoveryCodec) (table : List DataObjectProtocol) (responseSize : Nat) :
    SendReceive Unit :=
  directLink fun s request => (pciDoeGetResponseDoeRequest C table responseSize request, s)

section Table

variable {C : DiscoveryCodec} {O : DataObjects} {version : UInt8} {table : List DataObjectProtocol}
  {room : Nat}

/-- The index the responder gives with the entry at `index`. -/
def nextIndex (table : List DataObjectProtocol) (index : UInt8) : UInt8 :=
  if index.toNat = table.length - 1 then 0 else index + 1

/-- The data object that answers a request for `index`. -/
def discoveryMessage (O : DataObjects) (entry : DataObjectProtocol) (nextIndex : UInt8) : Bytes :=
  O.header.encode (O.discoveryHeader O.responseSize) ++ bytes32 .little (replyWord entry nextIndex)

theorem respond_discovery (hC : C.Faithful O version) (hlen : table.length ≤ 256)
    (hroom : O.responseSize ≤ room) {index : UInt8} {entry : DataObjectProtocol}
    (hentry : table[index.toNat]? = some entry) :
    pciDoeGetResponseDoeRequest C table room (O.requestMessage version index) =
      ⟨.success, some (discoveryMessage O entry (nextIndex table index))⟩ := by
  obtain ⟨hindex, -⟩ := List.getElem?_eq_some_iff.1 hentry
  -- both branches of the source write the word of the entry and the next index
  have hword : (if index.toNat = table.length - 1 then
        entry.dataObjectType.toUInt32 <<< 16 ||| entry.vendorId.toUInt32
      else UInt32.ofNat (index.toNat + 1) <<< 24 |||
        entry.dataObjectType.toUInt32 <<< 16 ||| entry.vendorId.toUInt32) =
      replyWord entry (nextIndex table index) := by
    by_cases hlast : index.toNat = table.length - 1
    · rw [if_pos hlast, nextIndex, if_pos hlast, replyWord]
      simp
    · have hnext : UInt32.ofNat (index.toNat + 1) = (index + 1).toUInt32 := by
        have hlt : index.toNat + 1 < 2 ^ 32 := by omega
        apply UInt32.toNat_inj.1
        rw [UInt32.toNat_ofNat_of_lt' hlt, UInt8.toNat_toUInt32, toNat_add_one_of_lt (by omega)]
      rw [if_neg hlast, nextIndex, if_neg hlast, replyWord, hnext]
  have hencode := hC.encode (bytes32 .little (replyWord entry (nextIndex table index))) room
    (by rw [length_bytes32, ← hC.size]; exact hroom)
  rw [length_bytes32, ← hC.size] at hencode
  simp only [pciDoeGetResponseDoeRequest, hC.decode, hentry, hword, hencode]
  rfl

theorem length_discoveryMessage (hC : C.Faithful O version) (entry : DataObjectProtocol)
    (nextIndex : UInt8) : (discoveryMessage O entry nextIndex).length = O.responseSize := by
  rw [discoveryMessage, List.length_append, O.header.length_encode, length_bytes32, ← hC.size]
  rfl

/-- The elements that discovery writes for a table. -/
def tableWrites (table : List DataObjectProtocol) : List (Nat × DataObjectProtocol) :=
  table.zipIdx.map Prod.swap

theorem take_tableWrites {index : Nat} {entry : DataObjectProtocol}
    (hentry : table[index]? = some entry) :
    (tableWrites table).take index ++ [(index, entry)] = (tableWrites table).take (index + 1) := by
  rw [List.take_add_one, tableWrites, List.getElem?_map, List.getElem?_zipIdx, hentry]
  simp

/-- A pass against the table: the entry at the index is written, and the loop ends behind the last
entry. -/
theorem discoveryStep_table (hC : C.Faithful O version) (hlen : table.length ≤ 256)
    (hroom : O.responseSize ≤ room) {size : Nat} {d : Discovery Unit} {entry : DataObjectProtocol}
    (hentry : table[d.index.toNat]? = some entry)
    (hsize : d.index.toNat < size / O.protocolSize) :
    discoveryStep O version (discoveryLink C table room) size d =
      if d.index.toNat = table.length - 1 then
        .inl ⟨.success, table.length * O.protocolSize, (),
          d.writes ++ [(d.index.toNat, entry)]⟩
      else .inr ⟨(), d.index + 1, d.writes ++ [(d.index.toNat, entry)]⟩ := by
  obtain ⟨hindex, -⟩ := List.getElem?_eq_some_iff.1 hentry
  have hlink : discoveryLink C table room d.link (O.requestMessage version d.index)
      O.responseSize = (⟨.success, discoveryMessage O entry (nextIndex table d.index)⟩, ()) := by
    apply directLink_of_written
    · rw [respond_discovery hC hlen hroom hentry]
    · exact (length_discoveryMessage hC entry _).le
  have hheader : O.header.decode (discoveryMessage O entry (nextIndex table d.index)) =
      O.discoveryHeader O.responseSize := O.header.decode_append _ _
  have hresponse : O.discoveryResponse.decode
      ((discoveryMessage O entry (nextIndex table d.index)).drop O.header.size) =
        ⟨entry.vendorId, entry.dataObjectType, nextIndex table d.index⟩ := by
    rw [discoveryMessage, Packed.drop_encode_append, hC.layout]
  have hlength : (O.discoveryHeader O.responseSize).length.toNat = O.responseSize / 4 := by
    rw [DataObjects.responseSize, hC.size, hC.headerSize]
    rfl
  have hvendor : (O.discoveryHeader O.responseSize).vendorId = O.vendorIdPcisig := rfl
  have htype : (O.discoveryHeader O.responseSize).dataObjectType = O.typeDoeDiscovery := rfl
  have hfull : ¬ size / O.protocolSize < d.index.toNat + 1 := by omega
  simp only [discoveryStep, if_neg hfull, hlink, hheader, hresponse, hlength, hvendor, htype,
    length_discoveryMessage hC, LibspdmReturn.isError, ne_eq, not_true_eq_false, if_false,
    Bool.false_eq_true]
  by_cases hlast : d.index.toNat = table.length - 1
  · have hnext : nextIndex table d.index = 0 := if_pos hlast
    have hcount : d.index.toNat + 1 = table.length := by omega
    simp only [hnext, if_pos hlast, hcount, not_true_eq_false, false_and, if_false, if_true]
  · have hsucc : (d.index + 1).toNat = d.index.toNat + 1 := toNat_add_one_of_lt (by omega)
    have hnext : nextIndex table d.index = d.index + 1 := if_neg hlast
    have hne : d.index + 1 ≠ 0 := by
      intro hzero
      rw [hzero] at hsucc
      exact absurd hsucc (by simp)
    simp only [hnext, hsucc, if_neg hlast, if_neg hne, not_true_eq_false, and_false, if_false]

/-- Discovery against the table, from a pass on that has written the entries before its index. -/
theorem discovery_table (hC : C.Faithful O version) (hlen : table.length ≤ 256)
    (hroom : O.responseSize ≤ room) (size : Nat) {d : Discovery Unit}
    (hindex : d.index.toNat < table.length)
    (hwrites : d.writes = (tableWrites table).take d.index.toNat) :
    let result := (discoveryStep O version (discoveryLink C table room) size).run
      (fun d => 256 - d.index.toNat) discoveryStep_decreases d
    if table.length ≤ size / O.protocolSize then
      result = ⟨.success, table.length * O.protocolSize, (), tableWrites table⟩
    else result.status = .invalidMsgSize := by
  -- induction over the number of entries that are still to be asked for
  induction hremaining : table.length - d.index.toNat generalizing d with
  | zero => omega
  | succ n ih =>
      intro result
      by_cases hsize : d.index.toNat < size / O.protocolSize
      · have hentry := List.getElem?_eq_getElem hindex
        have hstep := discoveryStep_table hC hlen hroom hentry hsize
        by_cases hlast : d.index.toNat = table.length - 1
        · rw [if_pos hlast] at hstep
          have hall : (tableWrites table).take (d.index.toNat + 1) = tableWrites table := by
            apply List.take_of_length_le
            rw [tableWrites, List.length_map, List.length_zipIdx]
            omega
          rw [if_pos (by omega), show result = _ from Body.run_of_inl hstep, hwrites,
            take_tableWrites hentry, hall]
        · rw [if_neg hlast] at hstep
          have hsucc : (d.index + 1).toNat = d.index.toNat + 1 :=
            toNat_add_one_of_lt (by omega)
          rw [show result = _ from Body.run_of_inr hstep]
          apply ih
          · show (d.index + 1).toNat < table.length
            omega
          · show d.writes ++ _ = (tableWrites table).take (d.index + 1).toNat
            rw [hwrites, take_tableWrites hentry, hsucc]
          · show table.length - (d.index + 1).toNat = n
            omega
      · -- the caller has no room for the entry at the index
        have hstep : discoveryStep O version (discoveryLink C table room) size d =
          .inl ⟨.invalidMsgSize, size, d.link, d.writes⟩ := if_pos (by omega)
        rw [if_neg (by omega), show result = _ from Body.run_of_inl hstep]

end Table

/-- **Discovery finds the table of the responder.** Against the responder with any table of 1 to 256
entries it succeeds with the entries of the table in order if the caller has room for all of them,
and ends with `INVALID_MSG_SIZE` otherwise. Against any responder it makes at most 256 exchanges and
writes no element at or behind the capacity of the caller, and after a success with count `k` the
elements it has written are `0 .. k - 1`. -/
theorem discovery_finds_table (O : DataObjects) (version : UInt8) :
    (∀ (C : DiscoveryCodec) (table : List DataObjectProtocol) (room size : Nat),
      C.Faithful O version → 1 ≤ table.length → table.length ≤ 256 → O.responseSize ≤ room →
      let result := pciDoeDiscovery O version (discoveryLink C table room) size ()
      (table.length ≤ size / O.protocolSize →
        result.status = .success ∧ result.writes = table.zipIdx.map Prod.swap ∧
          result.size = table.length * O.protocolSize) ∧
      (size / O.protocolSize < table.length → result.status = .invalidMsgSize)) ∧
    (∀ (σ : Type) (sendReceive : SendReceive σ) (link : σ) (size : Nat),
      let result := pciDoeDiscovery O version sendReceive.recorded size (link, [])
      result.link.2.length ≤ 256 ∧
      (∀ w ∈ result.writes, w.1 < size / O.protocolSize) ∧
      (result.status = .success →
        ∃ k ≤ size / O.protocolSize, result.size = k * O.protocolSize ∧
          result.writes.map Prod.fst = List.range k)) := by
  constructor
  · intro C table room size hC hpos hlen hroom result
    have htable := discovery_table hC hlen hroom size (d := ⟨(), 0, []⟩) hpos rfl
    constructor
    · intro hsize
      rw [if_pos hsize] at htable
      rw [show result = _ from htable]
      exact ⟨rfl, rfl, rfl⟩
    · intro hsize
      rw [if_neg (by omega)] at htable
      exact htable
  · intro σ sendReceive link size result
    obtain ⟨hcalls, hinside, hcount⟩ := pciDoeDiscovery_safe version sendReceive link
    exact ⟨hcalls, hinside, hcount⟩

/-! ## A concrete layout -/

/-- The layouts of a discovery data object, little endian. -/
def DataObjects.sample : DataObjects where
  vendorIdPcisig := 1
  typeDoeDiscovery := 0
  header := (Packed.u16.pair (Packed.u8.pair ((Packed.reserved 1).pair Packed.u32))).view
    (fun x => ⟨x.1, x.2.1, x.2.2.2⟩) (fun h => (h.vendorId, h.dataObjectType, (), h.length))
    (fun _ => rfl)
  discoveryRequest := ((Packed.u8.pair Packed.u8).reserve 2).view (fun x => ⟨x.1, x.2⟩)
    (fun r => (r.index, r.version)) (fun _ => rfl)
  discoveryResponse := (Packed.u16.pair (Packed.u8.pair Packed.u8)).view
    (fun x => ⟨x.1, x.2.1, x.2.2⟩) (fun r => (r.vendorId, r.dataObjectType, r.nextIndex))
    (fun _ => rfl)
  protocolSize := 4
  protocolSize_pos := by decide

/-- A codec that checks the header of a request and the room for a response. -/
def DiscoveryCodec.sample : DiscoveryCodec where
  decodeDiscoveryRequest request :=
    let header := DataObjects.sample.header.decode request
    if request.length ≠ 12 then .error .invalidMsgSize
    else if header ≠ DataObjects.sample.discoveryHeader 12 then .error .invalidMsgField
    else .ok (DataObjects.sample.discoveryRequest.decode (request.drop 8)).index
  encodeDiscovery message responseSize :=
    if responseSize < 8 + message.length then .error .bufferTooSmall
    else .ok (DataObjects.sample.header.encode
      (DataObjects.sample.discoveryHeader (8 + message.length)) ++ message)

theorem toNat_replyWord (entry : DataObjectProtocol) (nextIndex : UInt8) :
    (replyWord entry nextIndex).toNat =
      2 ^ 16 * (2 ^ 8 * nextIndex.toNat + entry.dataObjectType.toNat) + entry.vendorId.toNat := by
  have hnext : nextIndex.toNat < 2 ^ 8 := nextIndex.toNat_lt
  have htype : entry.dataObjectType.toNat < 2 ^ 8 := entry.dataObjectType.toNat_lt
  have hvendor : entry.vendorId.toNat < 2 ^ 16 := entry.vendorId.toNat_lt
  -- the three fields do not overlap, so the disjunctions are sums
  have hhigh : nextIndex.toNat * 2 ^ 24 % 2 ^ 32 ||| entry.dataObjectType.toNat * 2 ^ 16 % 2 ^ 32 =
      2 ^ 16 * (2 ^ 8 * nextIndex.toNat + entry.dataObjectType.toNat) := by
    rw [Nat.mod_eq_of_lt (by omega), Nat.mod_eq_of_lt (by omega), Nat.mul_comm _ (2 ^ 24),
      ← Nat.two_pow_add_eq_or_of_lt (by omega)]
    ring
  rw [replyWord, UInt32.toNat_or, UInt32.toNat_or, UInt32.toNat_shiftLeft,
    UInt32.toNat_shiftLeft, UInt8.toNat_toUInt32, UInt8.toNat_toUInt32, UInt16.toNat_toUInt32,
    Nat.shiftLeft_eq, Nat.shiftLeft_eq]
  show nextIndex.toNat * 2 ^ 24 % 2 ^ 32 ||| entry.dataObjectType.toNat * 2 ^ 16 % 2 ^ 32 |||
    entry.vendorId.toNat = _
  rw [hhigh, ← Nat.two_pow_add_eq_or_of_lt hvendor]

theorem faithful_sample (version : UInt8) :
    DiscoveryCodec.sample.Faithful DataObjects.sample version where
  decode index := rfl
  encode message responseSize h := if_neg (by show ¬ _ < _; exact Nat.not_lt.2 h)
  size := rfl
  headerSize := rfl
  layout entry nextIndex := by
    have hnext : nextIndex.toNat < 2 ^ 8 := nextIndex.toNat_lt
    have htype : entry.dataObjectType.toNat < 2 ^ 8 := entry.dataObjectType.toNat_lt
    have hvendor : entry.vendorId.toNat < 2 ^ 16 := entry.vendorId.toNat_lt
    have hlow : leValue 2 (bytes32 .little (replyWord entry nextIndex)) =
        (replyWord entry nextIndex).toNat % 256 +
          256 * ((replyWord entry nextIndex).toNat / 256 % 256 + 256 * 0) := rfl
    show (⟨UInt16.ofNat (leValue 2 (bytes32 .little (replyWord entry nextIndex))), UInt8.ofNat _,
      UInt8.ofNat _⟩ : DiscoveryResponse) = _
    rw [hlow, toNat_replyWord]
    congr 1
    · apply UInt16.toNat_inj.1
      rw [UInt16.toNat_ofNat']
      omega
    · apply UInt8.toNat_inj.1
      rw [UInt8.toNat_ofNat']
      omega
    · apply UInt8.toNat_inj.1
      rw [UInt8.toNat_ofNat']
      omega

/-- The table of the source, found by a caller with room for six entries. -/
theorem discovery_finds_table_sample :
    (pciDoeDiscovery .sample 0 (discoveryLink .sample [⟨1, 0⟩, ⟨1, 1⟩, ⟨1, 2⟩] 12) 24 ()).writes =
      [(0, ⟨1, 0⟩), (1, ⟨1, 1⟩), (2, ⟨1, 2⟩)] := by
  have h := (discovery_finds_table .sample 0).1 .sample [⟨1, 0⟩, ⟨1, 1⟩, ⟨1, 2⟩] 12 24
    (faithful_sample 0) (by decide) (by decide) (by decide)
  exact (h.1 (by decide)).2.1

end SpdmEmu.Doe
