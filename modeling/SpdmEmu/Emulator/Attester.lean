import SpdmEmu.Emulator.Measurement

/-!
# The measurement record of the attester

`spdm_send_receive_get_measurement` of
`spdm_emu/spdm_device_attester_sample/spdm_device_attester_measurement.c`. It asks for all
measurements at once and, if that does not succeed, for one index after the other, and puts the
records into the buffer of the caller.

A record is only taken if it is smaller than the room that is left. A buffer that the records fill
exactly is therefore refused (`attester_collects_iff`).

libspdm, which sends the requests, is a parameter.
-/

set_option autoImplicit false

namespace SpdmEmu.Emulator.Attester

open SpdmEmu.Wire SpdmEmu.Libspdm SpdmEmu.Emulator.Measurement

/-! ## Requests -/

/-- The arguments of `libspdm_get_measurement` that vary. The capacity is the incoming
`*measurement_record_length`, `none` the null pointer. -/
structure RecordRequest where
  requestAttribute : UInt8
  measurementOperation : UInt8
  slotId : UInt8
  capacity : Option UInt32
deriving DecidableEq, Repr

/-- What `libspdm_get_measurement` leaves behind: the record is what it wrote at the start of the
buffer it was given. -/
structure RecordReply where
  status : LibspdmReturn
  numberOfBlocks : UInt8
  recordLength : UInt32
  record : Bytes
deriving DecidableEq, Repr

/-- `libspdm_get_measurement` over a link with state `σ`. -/
abbrev GetRecord (σ : Type) := σ → RecordRequest → RecordReply × σ

/-- A request for an index with the status it came back with. -/
structure IssuedRecord where
  request : RecordRequest
  status : LibspdmReturn
deriving DecidableEq, Repr

/-- The arguments and settings of the function: `m_use_measurement_attribute`, the slot, and
`sizeof(one_measurement_record)`. -/
structure Config where
  useMeasurementAttribute : UInt8
  slotId : UInt8
  maxRecordSize : UInt32

/-- The variables of the loop: the link, `request_attribute`, `received_number_of_block`,
`measurement_record_offset`, the buffer of the caller, `one_measurement_record`, and the requests
for an index so far. -/
structure Progress (σ : Type) where
  link : σ
  requestAttribute : UInt8
  received : UInt8
  offset : UInt32
  measurementRecord : Mem
  oneRecord : Mem
  asked : List IssuedRecord

/-- What the function leaves behind. -/
structure Collected (σ : Type) where
  status : LibspdmReturn
  measurementRecord : Mem
  measurementRecordLength : UInt32
  link : σ
  asked : List IssuedRecord

/-! ## The function -/

section Function

variable {σ : Type} (M : Standard) (config : Config) (get : GetRecord σ)

/-- "get signature in last message only" -/
def signedAttribute : UInt8 := config.useMeasurementAttribute ||| M.generateSignature

/-- The attribute of the next request: it changes when one block is missing, and stays. -/
def Progress.nextAttribute (numberOfBlocks : UInt8) (c : Progress σ) : UInt8 :=
  -- `number_of_blocks - 1` is an `int`
  if c.received.toNat + 1 = numberOfBlocks.toNat then signedAttribute M config
  else c.requestAttribute

/-- The request for an index. -/
def Progress.ask (numberOfBlocks index : UInt8) (c : Progress σ) : RecordReply × Progress σ :=
  let request : RecordRequest :=
    ⟨c.nextAttribute M config numberOfBlocks, index, config.slotId, some config.maxRecordSize⟩
  let (reply, link) := get c.link request
  (reply, { c with
    link := link
    requestAttribute := request.requestAttribute
    oneRecord := c.oneRecord.store 0 reply.record
    asked := c.asked ++ [⟨request, reply.status⟩] })

/-- A received record is put behind the records before it. -/
def Progress.take (capacity recordLength : UInt32) (c : Progress σ) : Progress σ :=
  { c with
    received := c.received + 1
    offset := c.offset + recordLength
    measurementRecord := copyMem c.measurementRecord c.offset.toNat (capacity - c.offset).toNat
      (c.oneRecord.load 0 recordLength.toNat) }

/-- The loop over the indices that are left. A status is a return from the loop. -/
def collect (numberOfBlocks : UInt8) (capacity : UInt32) :
    List UInt8 → Progress σ → Option LibspdmReturn × Progress σ
  | [], c => (none, c)
  | index :: rest, c =>
      if c.received = numberOfBlocks then (none, c)
      else
        let (reply, c) := c.ask M config get numberOfBlocks index
        if reply.status.isError then collect numberOfBlocks capacity rest c
        else if reply.recordLength < capacity - c.offset then
          collect numberOfBlocks capacity rest (c.take capacity reply.recordLength)
        else (some .bufferTooSmall, { c with received := c.received + 1 })

/-- The values of `index` in the loop. -/
def recordIndices : List UInt8 := (List.range' 1 0xFE).map UInt8.ofNat

/-- `spdm_send_receive_get_measurement` -/
def spdmSendReceiveGetMeasurement (link : σ) (measurementRecord oneRecord : Mem)
    (measurementRecordLength : UInt32) : Collected σ :=
  let (all, link) := get link ⟨M.generateSignature, M.allMeasurements, config.slotId,
    some measurementRecordLength⟩
  let measurementRecord := measurementRecord.store 0 all.record
  let capacity := all.recordLength
  if all.status = .success then ⟨all.status, measurementRecord, capacity, link, []⟩
  else
    let (total, link) := get link ⟨config.useMeasurementAttribute, M.totalNumberOfMeasurements,
      config.slotId, none⟩
    if total.status.isError then ⟨total.status, measurementRecord, capacity, link, []⟩
    else
      match collect M config get total.numberOfBlocks capacity recordIndices
        ⟨link, config.useMeasurementAttribute, 0, 0, measurementRecord, oneRecord, []⟩ with
      | (some status, c) => ⟨status, c.measurementRecord, capacity, c.link, c.asked⟩
      | (none, c) =>
          if c.received ≠ total.numberOfBlocks then
            ⟨.invalidStatePeer, c.measurementRecord, capacity, c.link, c.asked⟩
          else ⟨.success, c.measurementRecord, c.offset, c.link, c.asked⟩

end Function

/-! ## A device with a set of records -/

/-- The indices of the existing records, ascending. -/
def presentRecords (present : UInt8 → Bool) : List UInt8 := recordIndices.filter present

/-- The device has the record `record i` for each `present` index `i` and fails for the others. The
request for all measurements does not succeed and leaves the length alone. -/
structure ServesRecords {σ : Type} (M : Standard) (config : Config) (get : GetRecord σ)
    (present : UInt8 → Bool) (record : UInt8 → Bytes) : Prop where
  all : ∀ s request capacity, request.measurementOperation = M.allMeasurements →
    request.capacity = some capacity → (get s request).1.status ≠ .success ∧
      (get s request).1.recordLength = capacity ∧
      (get s request).1.record.length ≤ capacity.toNat
  total : ∀ s request, request.measurementOperation = M.totalNumberOfMeasurements →
    (get s request).1.status.isError = false ∧
      (get s request).1.numberOfBlocks.toNat = (presentRecords present).length
  index : ∀ s request, request.measurementOperation ∈ recordIndices →
    (get s request).1.status.isError = !present request.measurementOperation
  answer : ∀ s request, request.measurementOperation ∈ recordIndices →
    present request.measurementOperation = true →
    (get s request).1.record = record request.measurementOperation ∧
      (get s request).1.recordLength.toNat = (record request.measurementOperation).length
  fits : ∀ i ∈ recordIndices, present i = true →
    (record i).length ≤ config.maxRecordSize.toNat

/-- The requests that were answered without an error. -/
def succeeded (asked : List IssuedRecord) : List RecordRequest :=
  (asked.filter fun x => !x.status.isError).map (·.request)

theorem succeeded_append (xs ys : List IssuedRecord) :
    succeeded (xs ++ ys) = succeeded xs ++ succeeded ys := by
  simp [succeeded]

section Device

variable {σ : Type} {M : Standard} {config : Config} {get : GetRecord σ}
  {present : UInt8 → Bool} {record : UInt8 → Bytes}

/-- The request for an index with an attribute. -/
def recordRequest (config : Config) (requestAttribute index : UInt8) : RecordRequest :=
  ⟨requestAttribute, index, config.slotId, some config.maxRecordSize⟩

/-- The requests for the existing records, the last one with a signature. -/
def signedLast (M : Standard) (config : Config) : List UInt8 → List RecordRequest
  | [] => []
  | [index] => [recordRequest config (signedAttribute M config) index]
  | index :: next :: rest =>
      recordRequest config config.useMeasurementAttribute index ::
        signedLast M config (next :: rest)

/-- What asking the device for an index does. -/
structure AskedFor (M : Standard) (config : Config) (present : UInt8 → Bool)
    (record : UInt8 → Bytes) (numberOfBlocks index : UInt8) (c : Progress σ) (reply : RecordReply)
    (c' : Progress σ) : Prop where
  status : reply.status.isError = !present index
  received : c'.received = c.received
  offset : c'.offset = c.offset
  measurementRecord : c'.measurementRecord = c.measurementRecord
  requestAttribute : c'.requestAttribute = c.nextAttribute M config numberOfBlocks
  asked : c'.asked = c.asked ++
    [⟨recordRequest config (c.nextAttribute M config numberOfBlocks) index, reply.status⟩]
  length : present index = true → reply.recordLength.toNat = (record index).length
  oneRecord : present index = true →
    c'.oneRecord.load 0 reply.recordLength.toNat = record index

theorem askedFor (hserves : ServesRecords M config get present record) (numberOfBlocks : UInt8)
    {index : UInt8} (hindex : index ∈ recordIndices) (c : Progress σ) :
    AskedFor M config present record numberOfBlocks index c
      (c.ask M config get numberOfBlocks index).1 (c.ask M config get numberOfBlocks index).2 where
  status := hserves.index c.link
    (recordRequest config (c.nextAttribute M config numberOfBlocks) index) hindex
  received := rfl
  offset := rfl
  measurementRecord := rfl
  requestAttribute := rfl
  asked := rfl
  length hpresent := (hserves.answer c.link
    (recordRequest config (c.nextAttribute M config numberOfBlocks) index) hindex hpresent).2
  oneRecord hpresent := by
    have hrecord := hserves.answer c.link
      (recordRequest config (c.nextAttribute M config numberOfBlocks) index) hindex hpresent
    have hload := Mem.load_store c.oneRecord 0 (record index)
    simp only [recordRequest] at hrecord hload
    simp only [Progress.ask, hrecord.1, hrecord.2, hload]

/-- The comparison of the loop, without the wrap of the subtraction. -/
theorem lt_room_iff {capacity offset recordLength : UInt32} (h : offset.toNat ≤ capacity.toNat) :
    recordLength < capacity - offset ↔
      offset.toNat + recordLength.toNat < capacity.toNat := by
  rw [UInt32.lt_iff_toNat_lt, UInt32.toNat_sub_of_le _ _ (UInt32.le_iff_toNat_le.2 h)]
  omega

/-- A record that is taken lies behind the records before it. -/
theorem take_of_room (capacity : UInt32) {recordLength : UInt32} {c : Progress σ} {bytes : Bytes}
    (hload : c.oneRecord.load 0 recordLength.toNat = bytes)
    (hlen : recordLength.toNat = bytes.length)
    (hroom : c.offset.toNat + bytes.length < capacity.toNat) :
    (c.take capacity recordLength).offset.toNat = c.offset.toNat + bytes.length ∧
      (c.take capacity recordLength).measurementRecord =
        c.measurementRecord.store c.offset.toNat bytes := by
  have hle : c.offset ≤ capacity := UInt32.le_iff_toNat_le.2 (by omega)
  have hcapacity : capacity.toNat < 2 ^ 32 := capacity.toNat_lt
  constructor
  · show (c.offset + recordLength).toNat = _
    rw [UInt32.toNat_add, hlen, Nat.mod_eq_of_lt (by omega)]
  · simp only [Progress.take, hload]
    refine copyMem_of_le _ _ ?_
    rw [UInt32.toNat_sub_of_le _ _ hle]
    omega

/-- The attribute of the next request while more than one block is missing. -/
theorem nextAttribute_of_lt {numberOfBlocks : UInt8} {c : Progress σ}
    (hattribute : c.received.toNat + 1 < numberOfBlocks.toNat →
      c.requestAttribute = config.useMeasurementAttribute)
    (h : c.received.toNat + 1 < numberOfBlocks.toNat) :
    c.nextAttribute M config numberOfBlocks = config.useMeasurementAttribute := by
  rw [Progress.nextAttribute, if_neg (by omega)]
  exact hattribute h

/-- The request for the next existing record, and the requests for those after it. -/
theorem signedLast_cons {numberOfBlocks index : UInt8} {rest : List UInt8} {c : Progress σ}
    (hattribute : c.received.toNat + 1 < numberOfBlocks.toNat →
      c.requestAttribute = config.useMeasurementAttribute)
    (hcount : c.received.toNat + (index :: rest).length = numberOfBlocks.toNat) :
    signedLast M config (index :: rest) =
      recordRequest config (c.nextAttribute M config numberOfBlocks) index ::
        signedLast M config rest := by
  cases rest with
  | nil =>
      have hlast : c.received.toNat + 1 = numberOfBlocks.toNat := hcount
      rw [Progress.nextAttribute, if_pos hlast]
      rfl
  | cons next rest =>
      simp only [List.length_cons] at hcount
      rw [nextAttribute_of_lt hattribute (by omega)]
      rfl

/-- The loop stops when all blocks are received. -/
theorem collect_of_complete {numberOfBlocks : UInt8} {capacity : UInt32} (l : List UInt8)
    {c : Progress σ} (h : c.received = numberOfBlocks) :
    collect M config get numberOfBlocks capacity l c = (none, c) := by
  cases l with
  | nil => rfl
  | cons index rest => rw [collect, if_pos h]

/-- What the loop leaves behind when it does not return: the records of `found` lie behind the
records before it, and were asked for with the signature in the last request. -/
structure CollectedAll (M : Standard) (config : Config) (record : UInt8 → Bytes)
    (numberOfBlocks : UInt8) (found : List UInt8) (c c' : Progress σ) : Prop where
  received : c'.received = numberOfBlocks
  offset : c'.offset.toNat = c.offset.toNat + (found.flatMap record).length
  measurementRecord : c'.measurementRecord =
    c.measurementRecord.store c.offset.toNat (found.flatMap record)
  asked : succeeded c'.asked = succeeded c.asked ++ signedLast M config found

theorem CollectedAll.refl {numberOfBlocks : UInt8} {c : Progress σ}
    (h : c.received = numberOfBlocks) :
    CollectedAll M config record numberOfBlocks [] c c where
  received := h
  offset := rfl
  measurementRecord := (Mem.store_nil _ _).symm
  asked := (List.append_nil _).symm

/-- What a pass of the loop adds to the progress, when the loop goes on: the bytes of a record and
the request for it, or neither. -/
structure Advanced (M : Standard) (config : Config) (numberOfBlocks : UInt8) (bytes : Bytes)
    (issued : List RecordRequest) (c c' : Progress σ) : Prop where
  received : c'.received.toNat = c.received.toNat + issued.length
  offset : c'.offset.toNat = c.offset.toNat + bytes.length
  measurementRecord : c'.measurementRecord = c.measurementRecord.store c.offset.toNat bytes
  requestAttribute : c'.requestAttribute = c.nextAttribute M config numberOfBlocks
  asked : succeeded c'.asked = succeeded c.asked ++ issued

section Pass

variable {numberOfBlocks index : UInt8} {capacity : UInt32} (rest : List UInt8) {c : Progress σ}

/-- A pass for an index without a record. -/
theorem collect_of_absent (hserves : ServesRecords M config get present record)
    (hindex : index ∈ recordIndices) (hdone : c.received ≠ numberOfBlocks)
    (habsent : present index = false) :
    ∃ c', Advanced M config numberOfBlocks [] [] c c' ∧
      collect M config get numberOfBlocks capacity (index :: rest) c =
        collect M config get numberOfBlocks capacity rest c' := by
  have hasked := askedFor hserves numberOfBlocks hindex c
  rw [collect, if_neg hdone]
  generalize c.ask M config get numberOfBlocks index = r at hasked ⊢
  rcases r with ⟨reply, c₁⟩
  dsimp only at hasked
  have herror : reply.status.isError = true := by
    rw [hasked.status, habsent]
    rfl
  refine ⟨c₁, ⟨?_, ?_, ?_, hasked.requestAttribute, ?_⟩, if_pos herror⟩
  · rw [hasked.received]
    rfl
  · rw [hasked.offset]
    rfl
  · rw [hasked.measurementRecord, Mem.store_nil]
  · rw [hasked.asked, succeeded_append]
    simp [succeeded, herror]

/-- A pass for a record that leaves some room. -/
theorem collect_of_taken (hserves : ServesRecords M config get present record)
    (hindex : index ∈ recordIndices) (hlt : c.received.toNat < numberOfBlocks.toNat)
    (hpresent : present index = true)
    (hroom : c.offset.toNat + (record index).length < capacity.toNat) :
    ∃ c', Advanced M config numberOfBlocks (record index)
        [recordRequest config (c.nextAttribute M config numberOfBlocks) index] c c' ∧
      collect M config get numberOfBlocks capacity (index :: rest) c =
        collect M config get numberOfBlocks capacity rest c' := by
  have hdone : c.received ≠ numberOfBlocks := fun h => Nat.lt_irrefl _ (h ▸ hlt)
  have hasked := askedFor hserves numberOfBlocks hindex c
  rw [collect, if_neg hdone]
  generalize c.ask M config get numberOfBlocks index = r at hasked ⊢
  rcases r with ⟨reply, c₁⟩
  dsimp only at hasked
  have hok : reply.status.isError = false := by
    rw [hasked.status, hpresent]
    rfl
  rw [← hasked.offset] at hroom
  have hfits : reply.recordLength < capacity - c₁.offset := by
    rw [lt_room_iff (by omega), hasked.length hpresent]
    exact hroom
  obtain ⟨hoffset, hstore⟩ :=
    take_of_room capacity (hasked.oneRecord hpresent) (hasked.length hpresent) hroom
  refine ⟨c₁.take capacity reply.recordLength, ⟨?_, ?_, ?_, hasked.requestAttribute, ?_⟩, ?_⟩
  · show (c₁.received + 1).toNat = _
    rw [hasked.received, toNat_received_add_one hlt]
    rfl
  · rw [hoffset, hasked.offset]
  · rw [hstore, hasked.measurementRecord, hasked.offset]
  · show succeeded c₁.asked = _
    rw [hasked.asked, succeeded_append]
    simp [succeeded, hok]
  · simp only [hok, Bool.false_eq_true, if_false, if_pos hfits]

/-- A pass for a record that fills the room. -/
theorem collect_of_refused (hserves : ServesRecords M config get present record)
    (hindex : index ∈ recordIndices) (hdone : c.received ≠ numberOfBlocks)
    (hpresent : present index = true) (hle : c.offset.toNat ≤ capacity.toNat)
    (hfull : capacity.toNat ≤ c.offset.toNat + (record index).length) :
    ∃ c', collect M config get numberOfBlocks capacity (index :: rest) c =
        (some .bufferTooSmall, c') ∧ c'.measurementRecord = c.measurementRecord := by
  have hasked := askedFor hserves numberOfBlocks hindex c
  rw [collect, if_neg hdone]
  generalize c.ask M config get numberOfBlocks index = r at hasked ⊢
  rcases r with ⟨reply, c₁⟩
  dsimp only at hasked
  have hok : reply.status.isError = false := by
    rw [hasked.status, hpresent]
    rfl
  rw [← hasked.offset] at hle hfull
  have hfits : ¬ reply.recordLength < capacity - c₁.offset := by
    rw [lt_room_iff hle, hasked.length hpresent]
    omega
  refine ⟨{ c₁ with received := c₁.received + 1 }, ?_, hasked.measurementRecord⟩
  simp only [hok, Bool.false_eq_true, if_false, if_neg hfits]

end Pass

/-- A pass and all that the loop collects after it. -/
theorem Advanced.collectedAll {numberOfBlocks : UInt8} {bytes : Bytes}
    {issued : List RecordRequest} {found found' : List UInt8} {c c₁ c' : Progress σ}
    (h : Advanced M config numberOfBlocks bytes issued c c₁)
    (hall : CollectedAll M config record numberOfBlocks found c₁ c')
    (hbytes : found'.flatMap record = bytes ++ found.flatMap record)
    (hissued : signedLast M config found' = issued ++ signedLast M config found) :
    CollectedAll M config record numberOfBlocks found' c c' where
  received := hall.received
  offset := by
    rw [hall.offset, h.offset, hbytes, List.length_append]
    omega
  measurementRecord := by
    rw [hall.measurementRecord, h.measurementRecord, h.offset, hbytes, Mem.store_append]
  asked := by rw [hall.asked, h.asked, hissued, List.append_assoc]

/-- With more room than the records that are left need, the loop collects them all. -/
theorem collect_of_room (hserves : ServesRecords M config get present record)
    {numberOfBlocks : UInt8} {capacity : UInt32} (l : List UInt8) (hl : ∀ i ∈ l, i ∈ recordIndices)
    {c : Progress σ}
    (hattribute : c.received.toNat + 1 < numberOfBlocks.toNat →
      c.requestAttribute = config.useMeasurementAttribute)
    (hcount : c.received.toNat + (l.filter present).length = numberOfBlocks.toNat)
    (hroom : l.filter present ≠ [] →
      c.offset.toNat + ((l.filter present).flatMap record).length < capacity.toNat) :
    ∃ c', collect M config get numberOfBlocks capacity l c = (none, c') ∧
      CollectedAll M config record numberOfBlocks (l.filter present) c c' := by
  -- induction on the indices that are left, with the records so far in `c`
  induction l generalizing c with
  | nil => exact ⟨c, rfl, CollectedAll.refl (UInt8.toNat_inj.1 hcount)⟩
  | cons index rest ih =>
      have hindex := hl index List.mem_cons_self
      have hrest : ∀ i ∈ rest, i ∈ recordIndices := fun i hi => hl i (List.mem_cons_of_mem _ hi)
      by_cases hdone : c.received = numberOfBlocks
      · rw [collect_of_complete _ hdone, filter_eq_nil_of_complete hcount hdone]
        exact ⟨c, rfl, CollectedAll.refl hdone⟩
      cases hpresent : present index with
      | false =>
          rw [List.filter_cons_of_neg (by simp [hpresent])] at hcount hroom ⊢
          obtain ⟨c₁, hpass, hrun⟩ := collect_of_absent rest hserves hindex hdone hpresent
          have hreceived : c₁.received.toNat = c.received.toNat := hpass.received
          have hoffset : c₁.offset.toNat = c.offset.toNat := hpass.offset
          obtain ⟨c', hrun', hall⟩ := ih hrest
            (fun hlt => hpass.requestAttribute.trans
              (nextAttribute_of_lt hattribute (hreceived ▸ hlt)))
            (hreceived ▸ hcount) (hoffset ▸ hroom)
          exact ⟨c', hrun.trans hrun', hpass.collectedAll hall rfl rfl⟩
      | true =>
          rw [List.filter_cons_of_pos hpresent] at hcount hroom ⊢
          have hroom' := hroom (List.cons_ne_nil _ _)
          rw [List.flatMap_cons, List.length_append] at hroom'
          have hrequests := signedLast_cons (M := M) hattribute hcount
          rw [List.length_cons] at hcount
          obtain ⟨c₁, hpass, hrun⟩ := collect_of_taken rest hserves hindex
            (by omega : c.received.toNat < numberOfBlocks.toNat) hpresent
            (by omega : c.offset.toNat + (record index).length < capacity.toNat)
          have hreceived : c₁.received.toNat = c.received.toNat + 1 := hpass.received
          have hoffset := hpass.offset
          obtain ⟨c', hrun', hall⟩ := ih hrest
            (fun hlt => hpass.requestAttribute.trans (nextAttribute_of_lt hattribute (by omega)))
            (by omega) (fun _ => by omega)
          exact ⟨c', hrun.trans hrun', hpass.collectedAll hall List.flatMap_cons hrequests⟩

/-- If the records that are left fill the room, the loop returns with an error. What it has written
by then is inside the buffer. -/
theorem collect_of_full (hserves : ServesRecords M config get present record)
    {numberOfBlocks : UInt8} {capacity : UInt32} (l : List UInt8) (hl : ∀ i ∈ l, i ∈ recordIndices)
    {c : Progress σ}
    (hcount : c.received.toNat + (l.filter present).length = numberOfBlocks.toNat)
    (hne : l.filter present ≠ []) (hle : c.offset.toNat ≤ capacity.toNat)
    (hfull : capacity.toNat ≤ c.offset.toNat + ((l.filter present).flatMap record).length) :
    ∃ c', collect M config get numberOfBlocks capacity l c = (some .bufferTooSmall, c') ∧
      ∀ i, capacity.toNat ≤ i → c'.measurementRecord i = c.measurementRecord i := by
  induction l generalizing c with
  | nil => exact absurd rfl hne
  | cons index rest ih =>
      have hindex := hl index List.mem_cons_self
      have hrest : ∀ i ∈ rest, i ∈ recordIndices := fun i hi => hl i (List.mem_cons_of_mem _ hi)
      have hdone : c.received ≠ numberOfBlocks :=
        fun h => hne (filter_eq_nil_of_complete hcount h)
      cases hpresent : present index with
      | false =>
          rw [List.filter_cons_of_neg (by simp [hpresent])] at hcount hne hfull
          obtain ⟨c₁, hpass, hrun⟩ := collect_of_absent rest hserves hindex hdone hpresent
          have hreceived : c₁.received.toNat = c.received.toNat := hpass.received
          have hoffset : c₁.offset.toNat = c.offset.toNat := hpass.offset
          obtain ⟨c', hrun', hsame⟩ := ih hrest (hreceived ▸ hcount) hne (hoffset ▸ hle)
            (hoffset ▸ hfull)
          refine ⟨c', hrun.trans hrun', fun i hi => ?_⟩
          rw [hsame i hi, hpass.measurementRecord, Mem.store_nil]
      | true =>
          rw [List.filter_cons_of_pos hpresent, List.length_cons] at hcount
          rw [List.filter_cons_of_pos hpresent, List.flatMap_cons, List.length_append] at hfull
          by_cases hfits : c.offset.toNat + (record index).length < capacity.toNat
          · -- this record is taken, so the room is filled by those after it
            obtain ⟨c₁, hpass, hrun⟩ := collect_of_taken rest hserves hindex
              (by omega : c.received.toNat < numberOfBlocks.toNat) hpresent hfits
            have hreceived : c₁.received.toNat = c.received.toNat + 1 := hpass.received
            have hoffset := hpass.offset
            have hleft : rest.filter present ≠ [] := fun hnil => by
              rw [hnil, List.flatMap_nil, List.length_nil] at hfull
              omega
            obtain ⟨c', hrun', hsame⟩ := ih hrest (c := c₁) (by omega) hleft (by omega) (by omega)
            refine ⟨c', hrun.trans hrun', fun i hi => ?_⟩
            rw [hsame i hi, hpass.measurementRecord, Mem.store_of_ge _ _ (by omega)]
          · obtain ⟨c', hrun, hsame⟩ := collect_of_refused rest hserves hindex hdone hpresent hle
              (Nat.le_of_not_lt hfits)
            exact ⟨c', hrun, fun i _ => by rw [hsame]⟩

/-! ## The record -/

/-- What the attester is to leave behind when the records of the device fit its buffer. -/
structure Complete (M : Standard) (present : UInt8 → Bool) (record : UInt8 → Bytes)
    (result : Collected σ) : Prop where
  status : result.status = .success
  length : result.measurementRecordLength.toNat = ((presentRecords present).flatMap record).length
  output : result.measurementRecord.load 0 ((presentRecords present).flatMap record).length =
    (presentRecords present).flatMap record
  indices : (succeeded result.asked).map (·.measurementOperation) = presentRecords present
  unsigned : ∀ request ∈ (succeeded result.asked).dropLast,
    request.requestAttribute &&& M.generateSignature = 0
  signed : ∀ request ∈ (succeeded result.asked).getLast?,
    request.requestAttribute &&& M.generateSignature ≠ 0

theorem operation_signedLast (l : List UInt8) :
    (signedLast M config l).map (·.measurementOperation) = l := by
  induction l using signedLast.induct with
  | case1 => rfl
  | case2 index => rfl
  | case3 index next rest ih =>
      rw [signedLast, List.map_cons, ih]
      rfl

theorem signedLast_ne_nil (index : UInt8) (rest : List UInt8) :
    signedLast M config (index :: rest) ≠ [] := by
  cases rest <;> simp [signedLast]

/-- Only the last request asks for a signature. -/
theorem attribute_signedLast
    (hunsigned : config.useMeasurementAttribute &&& M.generateSignature = 0) (l : List UInt8) :
    (∀ request ∈ (signedLast M config l).dropLast,
      request.requestAttribute &&& M.generateSignature = 0) ∧
    ∀ request ∈ (signedLast M config l).getLast?,
      request.requestAttribute &&& M.generateSignature ≠ 0 := by
  induction l using signedLast.induct with
  | case1 => simp [signedLast]
  | case2 index =>
      simp [signedLast, recordRequest, signedAttribute, or_and_eq_right,
        M.generateSignature_ne_zero]
  | case3 index next rest ih =>
      have hne : signedLast M config (next :: rest) ≠ [] := signedLast_ne_nil next rest
      rw [signedLast, List.dropLast_cons_of_ne_nil hne, List.getLast?_cons_of_ne_nil hne]
      refine ⟨?_, ih.2⟩
      rintro request (_ | ⟨_, hmem⟩)
      · exact hunsigned
      · exact ih.1 request hmem

/-- The buffer of the caller after the request for all measurements. -/
def afterAll (M : Standard) (config : Config) (get : GetRecord σ) (link : σ) (buffer : Mem)
    (capacity : UInt32) : Mem :=
  buffer.store 0
    (get link ⟨M.generateSignature, M.allMeasurements, config.slotId, some capacity⟩).1.record

/-- The function comes to its loop, with the count of the device and the capacity of the caller. -/
theorem spdmSendReceiveGetMeasurement_eq (hserves : ServesRecords M config get present record)
    (link : σ) (buffer one : Mem) (capacity : UInt32) :
    ∃ link' numberOfBlocks, numberOfBlocks.toNat = (presentRecords present).length ∧
      spdmSendReceiveGetMeasurement M config get link buffer one capacity =
        match collect M config get numberOfBlocks capacity recordIndices
          ⟨link', config.useMeasurementAttribute, 0, 0,
            afterAll M config get link buffer capacity, one, []⟩ with
        | (some status, c) => ⟨status, c.measurementRecord, capacity, c.link, c.asked⟩
        | (none, c) =>
            if c.received ≠ numberOfBlocks then
              ⟨.invalidStatePeer, c.measurementRecord, capacity, c.link, c.asked⟩
            else ⟨.success, c.measurementRecord, c.offset, c.link, c.asked⟩ := by
  have hall := hserves.all link
    ⟨M.generateSignature, M.allMeasurements, config.slotId, some capacity⟩ capacity rfl rfl
  simp only [spdmSendReceiveGetMeasurement, afterAll]
  generalize get link ⟨M.generateSignature, M.allMeasurements, config.slotId, some capacity⟩ = r
    at hall ⊢
  rcases r with ⟨all, link₁⟩
  obtain ⟨hfails, hlength, -⟩ := hall
  have htotal := hserves.total link₁
    ⟨config.useMeasurementAttribute, M.totalNumberOfMeasurements, config.slotId, none⟩ rfl
  generalize get link₁
    ⟨config.useMeasurementAttribute, M.totalNumberOfMeasurements, config.slotId, none⟩ = r
    at htotal ⊢
  rcases r with ⟨total, link₂⟩
  obtain ⟨hok, hcount⟩ := htotal
  dsimp only at hfails hlength hok hcount
  refine ⟨link₂, total.numberOfBlocks, hcount, ?_⟩
  simp only [if_neg hfails, hlength, hok, Bool.false_eq_true, if_false]

theorem afterAll_of_ge (hserves : ServesRecords M config get present record) (link : σ)
    (buffer : Mem) {capacity : UInt32} {i : Nat} (hi : capacity.toNat ≤ i) :
    afterAll M config get link buffer capacity i = buffer i := by
  have hall := hserves.all link
    ⟨M.generateSignature, M.allMeasurements, config.slotId, some capacity⟩ capacity rfl rfl
  exact Mem.store_of_ge _ _ (by rw [Nat.zero_add]; exact Nat.le_trans hall.2.2 hi)

/-- With no record, or with room to spare, the attester does its work. -/
theorem complete_of_room (hserves : ServesRecords M config get present record)
    (hunsigned : config.useMeasurementAttribute &&& M.generateSignature = 0) (link : σ)
    (buffer one : Mem) {capacity : UInt32}
    (hroom : presentRecords present ≠ [] →
      ((presentRecords present).flatMap record).length < capacity.toNat) :
    Complete M present record
        (spdmSendReceiveGetMeasurement M config get link buffer one capacity) ∧
      ∀ i, capacity.toNat ≤ i →
        (spdmSendReceiveGetMeasurement M config get link buffer one capacity).measurementRecord i =
          buffer i := by
  obtain ⟨link', numberOfBlocks, hcount, heq⟩ :=
    spdmSendReceiveGetMeasurement_eq hserves link buffer one capacity
  obtain ⟨c', hrun, hall⟩ := collect_of_room hserves recordIndices (fun _ hi => hi)
    (c := ⟨link', config.useMeasurementAttribute, 0, 0,
      afterAll M config get link buffer capacity, one, []⟩)
    (fun _ => rfl) ((Nat.zero_add _).trans hcount.symm)
    (fun hne => (Nat.zero_add _).trans_lt (hroom hne))
  rw [heq, hrun]
  simp only [hall.received, ne_eq, not_true_eq_false, if_false]
  have hasked : succeeded c'.asked = signedLast M config (presentRecords present) := hall.asked
  have hstore : c'.measurementRecord =
      (afterAll M config get link buffer capacity).store 0
        ((presentRecords present).flatMap record) := hall.measurementRecord
  obtain ⟨hfirst, hlast⟩ := attribute_signedLast hunsigned (presentRecords present)
  refine ⟨⟨rfl, hall.offset.trans (Nat.zero_add _), ?_, ?_, ?_, ?_⟩, ?_⟩
  · rw [hstore, Mem.load_store]
  · rw [hasked, operation_signedLast]
  · rw [hasked]
    exact hfirst
  · rw [hasked]
    exact hlast
  · intro i hi
    show c'.measurementRecord i = buffer i
    rw [hstore]
    by_cases hnil : presentRecords present = []
    · rw [hnil, List.flatMap_nil, Mem.store_nil, afterAll_of_ge hserves link buffer hi]
    · have hlt := hroom hnil
      rw [Mem.store_of_ge _ _ (by omega), afterAll_of_ge hserves link buffer hi]

/-- A buffer that the records fill or overfill is refused, and nothing is written behind it. -/
theorem bufferTooSmall_of_full (hserves : ServesRecords M config get present record) (link : σ)
    (buffer one : Mem) {capacity : UInt32} (hne : presentRecords present ≠ [])
    (hfull : capacity.toNat ≤ ((presentRecords present).flatMap record).length) :
    (spdmSendReceiveGetMeasurement M config get link buffer one capacity).status =
        .bufferTooSmall ∧
      ∀ i, capacity.toNat ≤ i →
        (spdmSendReceiveGetMeasurement M config get link buffer one capacity).measurementRecord i =
          buffer i := by
  obtain ⟨link', numberOfBlocks, hcount, heq⟩ :=
    spdmSendReceiveGetMeasurement_eq hserves link buffer one capacity
  obtain ⟨c', hrun, hsame⟩ := collect_of_full hserves recordIndices (fun _ hi => hi)
    (c := ⟨link', config.useMeasurementAttribute, 0, 0,
      afterAll M config get link buffer capacity, one, []⟩)
    ((Nat.zero_add _).trans hcount.symm) hne (Nat.zero_le _)
    (Nat.le_trans hfull (Nat.le_of_eq (Nat.zero_add _).symm))
  rw [heq, hrun]
  exact ⟨rfl, fun i hi => (hsame i hi).trans (afterAll_of_ge hserves link buffer hi)⟩

/-- **The attester collects every record, unless the records fill its buffer exactly.** For a device
with any set of records and any capacity: if the records fit, the output is their concatenation by
ascending index and only the last successful request asks for a signature; if they do not fit, the
status says so; and nothing is written behind the capacity. This holds exactly when there is no
record or the capacity is not the size of the records. -/
theorem attester_collects_iff (hserves : ServesRecords M config get present record)
    (hunsigned : config.useMeasurementAttribute &&& M.generateSignature = 0) (link : σ)
    (buffer one : Mem) (capacity : UInt32) :
    let result := spdmSendReceiveGetMeasurement M config get link buffer one capacity
    let total := ((presentRecords present).flatMap record).length
    ((total ≤ capacity.toNat → Complete M present record result) ∧
      (capacity.toNat < total → result.status = .bufferTooSmall) ∧
      ∀ i, capacity.toNat ≤ i → result.measurementRecord i = buffer i) ↔
    presentRecords present = [] ∨ total ≠ capacity.toNat := by
  intro result total
  constructor
  · rintro ⟨hcomplete, -, -⟩
    by_contra hnot
    rw [not_or, not_not] at hnot
    obtain ⟨hne, hexact⟩ := hnot
    -- the last record is as large as the room that is left
    have hsmall := (bufferTooSmall_of_full hserves link buffer one hne (Nat.le_of_eq hexact.symm)).1
    have hsuccess := (hcomplete (Nat.le_of_eq hexact)).status
    rw [hsmall] at hsuccess
    cases hsuccess
  · intro hcondition
    by_cases hroom : presentRecords present = [] ∨ total < capacity.toNat
    · obtain ⟨hcomplete, hsame⟩ := complete_of_room hserves hunsigned link buffer one
        (fun hne => hroom.resolve_left hne)
      refine ⟨fun _ => hcomplete, fun hlt => ?_, hsame⟩
      rcases hroom with hnil | hlt'
      · simp [total, hnil] at hlt
      · exact absurd hlt (Nat.lt_asymm hlt')
    · rw [not_or] at hroom
      have hne := hcondition.resolve_left hroom.1
      obtain ⟨hsmall, hsame⟩ := bufferTooSmall_of_full hserves link buffer one hroom.1
        (Nat.not_lt.1 hroom.2)
      exact ⟨fun hle => absurd (Nat.le_antisymm hle (Nat.not_lt.1 hroom.2)) hne,
        fun _ => hsmall, hsame⟩

end Device

/-! ## Devices with a few records -/

/-- No attribute, slot 0, and room for 64 bytes. -/
def sampleConfig : Config := ⟨0, 0, 64⟩

/-- A device with these records at their indices. -/
def tableDevice (records : List (UInt8 × Bytes)) : GetRecord Unit := fun s request =>
  if request.measurementOperation = 0 then (⟨.success, UInt8.ofNat records.length, 0, []⟩, s)
  else
    match records.lookup request.measurementOperation with
    | some record => (⟨.success, 1, UInt32.ofNat record.length, record⟩, s)
    | none => (⟨.errorPeer, 0, request.capacity.getD 0, []⟩, s)

/-- Whether there is a record at an index. -/
def tableHas (records : List (UInt8 × Bytes)) (i : UInt8) : Bool := (records.lookup i).isSome

/-- The record at an index. -/
def tableRecord (records : List (UInt8 × Bytes)) (i : UInt8) : Bytes := (records.lookup i).getD []

theorem ne_zero_of_mem_recordIndices {i : UInt8} (h : i ∈ recordIndices) : i ≠ 0 := by
  rintro rfl
  revert h
  decide +kernel

theorem servesRecords_tableDevice {records : List (UInt8 × Bytes)}
    (hcount : (UInt8.ofNat records.length).toNat = (presentRecords (tableHas records)).length)
    (hall : records.lookup 0xFF = none) (hfits : ∀ i, (tableRecord records i).length ≤ 64) :
    ServesRecords .sample sampleConfig (tableDevice records) (tableHas records)
      (tableRecord records) where
  all s request capacity hop hcapacity := by
    have hop' : request.measurementOperation = 0xFF := hop
    simp [tableDevice, hop', hall, hcapacity]
  total s request hop := by
    have hzero : request.measurementOperation = 0 := hop
    simp only [tableDevice, if_pos hzero]
    exact ⟨rfl, hcount⟩
  index s request hmem := by
    have hzero := ne_zero_of_mem_recordIndices hmem
    cases hlookup : records.lookup request.measurementOperation with
    | none => simp [tableDevice, tableHas, hzero, hlookup, LibspdmReturn.isError]
    | some record => simp [tableDevice, tableHas, hzero, hlookup, LibspdmReturn.isError]
  answer s request hmem hpresent := by
    have hzero := ne_zero_of_mem_recordIndices hmem
    obtain ⟨record, hlookup⟩ := Option.isSome_iff_exists.1 hpresent
    have hlength := hfits request.measurementOperation
    rw [tableRecord, hlookup, Option.getD_some] at hlength
    simp only [tableDevice, if_neg hzero, hlookup, tableRecord, Option.getD_some, true_and]
    exact UInt32.toNat_ofNat_of_lt' (Nat.lt_of_le_of_lt hlength (by decide))
  fits i _ _ := hfits i

/-- Two records, of two bytes and of one. -/
def twoRecords : List (UInt8 × Bytes) := [(3, [0xAA, 0xBB]), (5, [0xCC])]

/-- A record of at most 64 bytes at each of the two indices, and none elsewhere. -/
theorem length_tableRecord_twoRecords (i : UInt8) : (tableRecord twoRecords i).length ≤ 64 := by
  unfold tableRecord twoRecords
  by_cases hthree : i = 3
  · subst hthree
    decide
  · by_cases hfive : i = 5
    · subst hfive
      decide
    · simp [List.lookup_cons, beq_false_of_ne hthree, beq_false_of_ne hfive]

/-- With one byte to spare the records are collected, both of them and in order. -/
theorem attester_collects_with_room :
    (presentRecords (tableHas twoRecords)).flatMap (tableRecord twoRecords) =
      [0xAA, 0xBB, 0xCC] ∧
    Complete .sample (tableHas twoRecords) (tableRecord twoRecords)
      (spdmSendReceiveGetMeasurement .sample sampleConfig (tableDevice twoRecords) () (fun _ => 0)
        (fun _ => 0) 4) :=
  ⟨by decide +kernel,
    ((attester_collects_iff (servesRecords_tableDevice (by decide +kernel) (by decide)
      length_tableRecord_twoRecords) (by decide) () (fun _ => 0) (fun _ => 0) 4).2
      (.inr (by decide +kernel))).1 (by decide +kernel)⟩

/-- A buffer of the size of both records is too small for the attester. -/
theorem exact_buffer_refused :
    ServesRecords .sample sampleConfig (tableDevice twoRecords) (tableHas twoRecords)
      (tableRecord twoRecords) ∧
    sampleConfig.useMeasurementAttribute &&& Standard.sample.generateSignature = 0 ∧
    ((presentRecords (tableHas twoRecords)).flatMap (tableRecord twoRecords)).length =
      (3 : UInt32).toNat ∧
    (spdmSendReceiveGetMeasurement .sample sampleConfig (tableDevice twoRecords) () (fun _ => 0)
      (fun _ => 0) 3).status = .bufferTooSmall :=
  ⟨servesRecords_tableDevice (by decide +kernel) (by decide) length_tableRecord_twoRecords,
    by decide, by decide +kernel, by decide +kernel⟩

end SpdmEmu.Emulator.Attester
