import SpdmEmu.Libspdm.Status
import Mathlib.Data.List.Nodup

/-!
# Collecting measurements one by one

`spdm_send_receive_get_measurement` of `spdm_emu/spdm_requester_emu/spdm_requester_measurement.c`.
In one-by-one mode it asks for the number of measurements, scans the indices for those that exist,
and then asks for each existing one again. The second pass is there because an error in the scan
resets the measurement transcript of libspdm: its requests are to be answered without an error, and
the signature that the last of them asks for is to cover them all.

The attribute of a request is one variable for both passes. The scan leaves it with the signature
bit, and nothing takes the bit away before the second pass, whose requests then all ask for a
signature (`existScan_scanned`). A signature resets the transcript too, so the last one covers the
last measurement only.

libspdm, which sends the requests, is a parameter. The requests are logged with the pass that issued
them.
-/

set_option autoImplicit false

namespace SpdmEmu.Emulator.Measurement

open SpdmEmu.Wire SpdmEmu.Libspdm

/-! ## Requests -/

/-- The constants of `spdm.h`. -/
structure Standard where
  /-- `SPDM_GET_MEASUREMENTS_REQUEST_ATTRIBUTES_GENERATE_SIGNATURE` -/
  generateSignature : UInt8
  generateSignature_ne_zero : generateSignature ≠ 0
  /-- `SPDM_GET_MEASUREMENTS_REQUEST_MEASUREMENT_OPERATION_TOTAL_NUMBER_OF_MEASUREMENTS` -/
  totalNumberOfMeasurements : UInt8
  /-- `SPDM_GET_MEASUREMENTS_REQUEST_MEASUREMENT_OPERATION_ALL_MEASUREMENTS` -/
  allMeasurements : UInt8
  /-- `SPDM_GET_CAPABILITIES_RESPONSE_FLAGS_MEAS_CAP_NO_SIG` -/
  measCapNoSig : UInt32

/-- The settings the function reads, and the capability flags of the peer. -/
structure Settings where
  useMeasurementOperation : UInt8
  useMeasurementAttribute : UInt8
  useSlotId : UInt8
  capabilityFlags : UInt32

/-- The arguments of `libspdm_get_measurement_ex2` that vary. -/
structure MeasurementRequest where
  requestAttribute : UInt8
  measurementOperation : UInt8
  slotId : UInt8
  requesterContext : Bytes
deriving DecidableEq, Repr

/-- What the function uses of an answer. -/
structure MeasurementReply where
  status : LibspdmReturn
  numberOfBlocks : UInt8
deriving DecidableEq, Repr

/-- `libspdm_get_measurement_ex2` over a link with state `σ`. -/
abbrev GetMeasurement (σ : Type) := σ → MeasurementRequest → MeasurementReply × σ

/-- The part of the function that issues a request. -/
inductive Pass where
  | all
  | total
  | exist
  | oneByOne
deriving DecidableEq, Repr

/-- A request with the pass that issued it and the status it came back with. -/
structure Issued where
  pass : Pass
  request : MeasurementRequest
  status : LibspdmReturn
deriving DecidableEq, Repr

/-- `requester_context` with the operation in its last byte. -/
def requesterContext (operation : UInt8) : Bytes :=
  [0xAA, 0xBB, 0xCC, 0xDD, 0xEE, 0xFF, 0x00, operation]

/-- The variables of the function: the link, `request_attribute`, `received_number_of_block`, the
indices set in `measurement_exist_list`, and the requests issued. -/
structure Collection (σ : Type) where
  link : σ
  requestAttribute : UInt8
  received : UInt8
  exist : List UInt8
  log : List Issued

/-! ## The function -/

section Function

variable {σ : Type} (M : Standard) (settings : Settings) (get : GetMeasurement σ)

/-- `need_sig` -/
def needSig : Bool := settings.capabilityFlags &&& M.measCapNoSig == 0

/-- The request for an operation with the current attribute. -/
def requestFor (requestAttribute operation : UInt8) : MeasurementRequest :=
  ⟨requestAttribute, operation, settings.useSlotId &&& 0xF, requesterContext operation⟩

/-- A call of `libspdm_get_measurement_ex2`. -/
def Collection.issue (pass : Pass) (operation : UInt8) (c : Collection σ) :
    MeasurementReply × Collection σ :=
  let request := requestFor settings c.requestAttribute operation
  let (reply, link) := get c.link request
  (reply, { c with link := link, log := c.log ++ [⟨pass, request, reply.status⟩] })

/-- The attribute of the last message of a pass. -/
def lastAttribute : UInt8 :=
  if needSig M settings then settings.useMeasurementAttribute ||| M.generateSignature
  else settings.useMeasurementAttribute

/-- "get signature in last message only": the attribute changes when one block is missing. -/
def Collection.nextAttribute (numberOfBlocks : UInt8) (c : Collection σ) : UInt8 :=
  -- `number_of_blocks - 1` is an `int`
  if c.received.toNat + 1 = numberOfBlocks.toNat then lastAttribute M settings
  else c.requestAttribute

/-- The request for an index in a loop: the attribute is set, and stays set. -/
def Collection.ask (numberOfBlocks : UInt8) (pass : Pass) (index : UInt8) (c : Collection σ) :
    MeasurementReply × Collection σ :=
  let c := { c with requestAttribute := c.nextAttribute M settings numberOfBlocks }
  c.issue settings get pass index

/-- The loop "get the existing measurement list" over the indices that are left. -/
def existScan (numberOfBlocks : UInt8) : List UInt8 → Collection σ → Collection σ
  | [], c => c
  | index :: rest, c =>
      if c.received = numberOfBlocks then c
      else
        let (reply, c) := c.ask M settings get numberOfBlocks .exist index
        if reply.status.isError then existScan numberOfBlocks rest c
        else
          existScan numberOfBlocks rest
            { c with received := c.received + 1, exist := c.exist ++ [index] }

/-- The loop "query measurement one by one" over the indices that are left. -/
def oneByOne (numberOfBlocks : UInt8) : List UInt8 → Collection σ → LibspdmReturn × Collection σ
  | [], c => (.success, c)
  | index :: rest, c =>
      if c.received = numberOfBlocks then (.success, c)
      else if index ∈ c.exist then
        let (reply, c) := c.ask M settings get numberOfBlocks .oneByOne index
        if reply.status.isError then (.errorPeer, c)
        else oneByOne numberOfBlocks rest { c with received := c.received + 1 }
      else oneByOne numberOfBlocks rest c

/-- The values of `index` in the loops. -/
def measurementIndices : List UInt8 :=
  (List.range' 1 (M.allMeasurements.toNat - 1)).map UInt8.ofNat

/-- `spdm_send_receive_get_measurement` -/
def spdmSendReceiveGetMeasurement (link : σ) : LibspdmReturn × Collection σ :=
  if settings.useMeasurementOperation = M.allMeasurements then
    let c : Collection σ :=
      ⟨link, if needSig M settings then M.generateSignature else 0, 0, [], []⟩
    let (reply, c) := c.issue settings get .all M.allMeasurements
    (if reply.status.isError then reply.status else .success, c)
  else
    let c : Collection σ := ⟨link, settings.useMeasurementAttribute, 0, [], []⟩
    let (reply, c) := c.issue settings get .total M.totalNumberOfMeasurements
    if reply.status.isError then (reply.status, c)
    else
      let c := existScan M settings get reply.numberOfBlocks (measurementIndices M) c
      if c.received ≠ reply.numberOfBlocks then (.invalidStatePeer, c)
      else
        oneByOne M settings get reply.numberOfBlocks (measurementIndices M) { c with received := 0 }

end Function

/-! ## The transcript of libspdm -/

/-- The measurement transcript: the operations answered since the last reset, and those that the
last signature covers. -/
structure Transcript where
  pending : List UInt8
  signed : Option (List UInt8)
deriving DecidableEq, Repr

/-- The request asks for a signature. -/
def MeasurementRequest.isSigned (M : Standard) (request : MeasurementRequest) : Bool :=
  request.requestAttribute &&& M.generateSignature != 0

/-- An answer extends the transcript; a signature covers it and resets it, and an error resets
it. -/
def Transcript.extend (M : Standard) (t : Transcript) (issued : Issued) : Transcript :=
  if issued.status.isError then ⟨[], t.signed⟩
  else
    let covered := t.pending ++ [issued.request.measurementOperation]
    if issued.request.isSigned M then ⟨[], some covered⟩ else ⟨covered, t.signed⟩

/-- The transcript after a log. -/
def transcript (M : Standard) (log : List Issued) : Transcript :=
  log.foldl (Transcript.extend M) ⟨[], none⟩

theorem transcript_append (M : Standard) (log issued : List Issued) :
    transcript M (log ++ issued) = issued.foldl (Transcript.extend M) (transcript M log) :=
  List.foldl_append

/-! ## A responder with a set of measurements -/

section Responder

variable {σ : Type} {M : Standard} {settings : Settings} {get : GetMeasurement σ}
  {present : UInt8 → Bool}

/-- The indices of the existing measurements, ascending. -/
def presentIndices (M : Standard) (present : UInt8 → Bool) : List UInt8 :=
  (measurementIndices M).filter present

/-- The responder counts the existing measurements, and answers a request for an index without an
error exactly when the measurement exists. -/
structure Serves (M : Standard) (get : GetMeasurement σ) (present : UInt8 → Bool) : Prop where
  total : ∀ s request, request.measurementOperation = M.totalNumberOfMeasurements →
    (get s request).1.status.isError = false ∧
      (get s request).1.numberOfBlocks = UInt8.ofNat (presentIndices M present).length
  index : ∀ s request, request.measurementOperation ∈ measurementIndices M →
    (get s request).1.status.isError = !present request.measurementOperation

theorem length_presentIndices_lt (M : Standard) (present : UInt8 → Bool) :
    (presentIndices M present).length < 256 := by
  have hfilter : (presentIndices M present).length ≤ (measurementIndices M).length :=
    List.length_filter_le _ _
  have hall : M.allMeasurements.toNat < 256 := M.allMeasurements.toNat_lt
  rw [measurementIndices, List.length_map, List.length_range'] at hfilter
  omega

theorem toNat_received_add_one {received numberOfBlocks : UInt8}
    (h : received.toNat < numberOfBlocks.toNat) :
    (received + 1).toNat = received.toNat + 1 := by
  have hlt : numberOfBlocks.toNat < 256 := numberOfBlocks.toNat_lt
  exact toNat_add_one_of_lt (by omega)

/-- Once all blocks are received, no index that is left has one. -/
theorem filter_eq_nil_of_complete {numberOfBlocks received : UInt8} {l : List UInt8}
    (hcount : received.toNat + (l.filter present).length = numberOfBlocks.toNat)
    (hdone : received = numberOfBlocks) : l.filter present = [] := by
  apply List.eq_nil_of_length_eq_zero
  rw [hdone] at hcount
  omega

/-! ### The scan -/

/-- The scan stops when all blocks are found. -/
theorem existScan_of_complete {numberOfBlocks : UInt8} (l : List UInt8) {c : Collection σ}
    (h : c.received = numberOfBlocks) : existScan M settings get numberOfBlocks l c = c := by
  cases l with
  | nil => rfl
  | cons index rest => rw [existScan, if_pos h]

/-- A signed answer leaves an empty transcript. -/
theorem pending_of_signed {log : List Issued} {issued : Issued}
    (hok : issued.status.isError = false) (hsigned : issued.request.isSigned M = true) :
    (transcript M (log ++ [issued])).pending = [] := by
  simp [transcript_append, Transcript.extend, hok, hsigned]

theorem or_and_eq_right (a b : UInt8) : (a ||| b) &&& b = b := by
  apply UInt8.toBitVec_inj.1
  simp only [UInt8.toBitVec_and, UInt8.toBitVec_or]
  ext i
  simp only [BitVec.getElem_and, BitVec.getElem_or, Bool.and_eq_right_iff_imp, Bool.or_eq_true]
  exact .inr

/-- The attribute of the last message asks for a signature if signatures are supported. -/
theorem isSigned_lastAttribute (hsig : needSig M settings = true) (operation : UInt8) :
    (requestFor settings (lastAttribute M settings) operation).isSigned M = true := by
  simp [MeasurementRequest.isSigned, requestFor, lastAttribute, hsig, or_and_eq_right,
    M.generateSignature_ne_zero]

/-- What asking a responder for an index does. -/
structure Asked (M : Standard) (settings : Settings) (present : UInt8 → Bool)
    (numberOfBlocks : UInt8) (pass : Pass) (index : UInt8) (c : Collection σ)
    (reply : MeasurementReply) (c' : Collection σ) : Prop where
  status : reply.status.isError = !present index
  received : c'.received = c.received
  exist : c'.exist = c.exist
  requestAttribute : c'.requestAttribute = c.nextAttribute M settings numberOfBlocks
  log : c'.log = c.log ++
    [⟨pass, requestFor settings (c.nextAttribute M settings numberOfBlocks) index, reply.status⟩]

theorem asked (settings : Settings) (hserves : Serves M get present) (numberOfBlocks : UInt8)
    (pass : Pass) {index : UInt8} (hindex : index ∈ measurementIndices M) (c : Collection σ) :
    Asked M settings present numberOfBlocks pass index c
      (c.ask M settings get numberOfBlocks pass index).1
      (c.ask M settings get numberOfBlocks pass index).2 where
  status := hserves.index c.link
    (requestFor settings (c.nextAttribute M settings numberOfBlocks) index) hindex
  received := rfl
  exist := rfl
  requestAttribute := rfl
  log := rfl

/-- The requests of a pass, one more at the front. -/
theorem Asked.log_append {numberOfBlocks : UInt8} {pass : Pass} {index : UInt8}
    {c c₁ c' : Collection σ} {reply : MeasurementReply}
    (h : Asked M settings present numberOfBlocks pass index c reply c₁)
    (hlog : ∃ issued, c'.log = c₁.log ++ issued ∧ ∀ x ∈ issued, x.pass = pass) :
    ∃ issued, c'.log = c.log ++ issued ∧ ∀ x ∈ issued, x.pass = pass := by
  obtain ⟨issued, hissued, hpass⟩ := hlog
  refine ⟨⟨pass, requestFor settings (c.nextAttribute M settings numberOfBlocks) index,
    reply.status⟩ :: issued, ?_, List.forall_mem_cons.2 ⟨rfl, hpass⟩⟩
  rw [hissued, h.log, List.append_assoc]
  rfl

/-- What the scan leaves behind: every existing index is marked, and if there was a block to find,
the attribute is the one of the last message and the transcript is empty. -/
structure Scanned (M : Standard) (settings : Settings) (numberOfBlocks : UInt8)
    (found : List UInt8) (c c' : Collection σ) : Prop where
  received : c'.received = numberOfBlocks
  exist : c'.exist = c.exist ++ found
  log : ∃ issued, c'.log = c.log ++ issued ∧ ∀ x ∈ issued, x.pass = .exist
  last : c.received ≠ numberOfBlocks → c'.requestAttribute = lastAttribute M settings ∧
    (transcript M c'.log).pending = []

theorem Scanned.refl {numberOfBlocks : UInt8} {c : Collection σ}
    (h : c.received = numberOfBlocks) : Scanned M settings numberOfBlocks [] c c where
  received := h
  exist := (List.append_nil _).symm
  log := ⟨[], (List.append_nil _).symm, by simp⟩
  last := fun hne => absurd h hne

/-- The request for the last missing block asks for a signature, which empties the transcript. -/
theorem Asked.last {numberOfBlocks : UInt8} {pass : Pass} {index : UInt8} {c c' : Collection σ}
    {reply : MeasurementReply} (h : Asked M settings present numberOfBlocks pass index c reply c')
    (hsig : needSig M settings = true) (hok : reply.status.isError = false)
    (hlast : c.received.toNat + 1 = numberOfBlocks.toNat) :
    c'.requestAttribute = lastAttribute M settings ∧ (transcript M c'.log).pending = [] := by
  have hattribute : c.nextAttribute M settings numberOfBlocks = lastAttribute M settings :=
    if_pos hlast
  refine ⟨h.requestAttribute.trans hattribute, ?_⟩
  rw [h.log, hattribute]
  exact pending_of_signed hok (isSigned_lastAttribute hsig index)

theorem existScan_scanned (hserves : Serves M get present) (hsig : needSig M settings = true)
    {numberOfBlocks : UInt8} (l : List UInt8) (hl : ∀ i ∈ l, i ∈ measurementIndices M)
    {c : Collection σ}
    (hcount : c.received.toNat + (l.filter present).length = numberOfBlocks.toNat) :
    Scanned M settings numberOfBlocks (l.filter present) c
      (existScan M settings get numberOfBlocks l c) := by
  induction l generalizing c with
  | nil => exact Scanned.refl (UInt8.toNat_inj.1 hcount)
  | cons index rest ih =>
      by_cases hdone : c.received = numberOfBlocks
      · rw [existScan_of_complete _ hdone, filter_eq_nil_of_complete hcount hdone]
        exact Scanned.refl hdone
      · have hrest : ∀ i ∈ rest, i ∈ measurementIndices M :=
          fun i hi => hl i (List.mem_cons_of_mem _ hi)
        have hlt : c.received.toNat < numberOfBlocks.toNat := by
          have hne : c.received.toNat ≠ numberOfBlocks.toNat :=
            fun heq => hdone (UInt8.toNat_inj.1 heq)
          omega
        have hasked := asked settings hserves numberOfBlocks .exist (hl index List.mem_cons_self) c
        rw [existScan, if_neg hdone]
        generalize c.ask M settings get numberOfBlocks .exist index = r at hasked ⊢
        rcases r with ⟨reply, c₁⟩
        cases hpresent : present index with
        | false =>
            -- an error: the index is skipped
            have herror : reply.status.isError = true := by
              rw [hasked.status, hpresent]
              rfl
            rw [List.filter_cons_of_neg (by simp [hpresent])] at hcount ⊢
            simp only [if_pos herror]
            have hnext := ih hrest (c := c₁) (by rw [hasked.received]; exact hcount)
            refine ⟨hnext.received, ?_, hasked.log_append hnext.log, fun _ => hnext.last ?_⟩
            · rw [hnext.exist, hasked.exist]
            · rw [hasked.received]
              exact hdone
        | true =>
            have hok : reply.status.isError = false := by
              rw [hasked.status, hpresent]
              rfl
            have hsucc := toNat_received_add_one hlt
            rw [List.filter_cons_of_pos hpresent] at hcount ⊢
            simp only [hok, Bool.false_eq_true, if_false]
            have hnext := ih hrest
              (c := { c₁ with received := c₁.received + 1, exist := c₁.exist ++ [index] })
              (by
                show (c₁.received + 1).toNat + _ = _
                rw [hasked.received, hsucc]
                simp only [List.length_cons] at hcount
                omega)
            refine ⟨hnext.received, ?_, hasked.log_append hnext.log, fun _ => ?_⟩
            · rw [hnext.exist, hasked.exist]
              simp
            · by_cases hlast : c₁.received + 1 = numberOfBlocks
              · -- this was the last block, asked for with a signature
                rw [existScan_of_complete rest hlast]
                apply hasked.last hsig hok
                rw [← hsucc, ← hasked.received, hlast]
              · exact hnext.last hlast

/-! ### The second pass -/

/-- The attribute of the last message stays. -/
theorem nextAttribute_of_last {numberOfBlocks : UInt8} {c : Collection σ}
    (h : c.requestAttribute = lastAttribute M settings) :
    c.nextAttribute M settings numberOfBlocks = lastAttribute M settings := by
  rw [Collection.nextAttribute, h]
  split <;> rfl

/-- The second pass asks for every existing index, each time with the attribute it started with. -/
theorem oneByOne_of_last (hserves : Serves M get present) {numberOfBlocks : UInt8} (l : List UInt8)
    (hl : ∀ i ∈ l, i ∈ measurementIndices M) {c : Collection σ}
    (hlast : c.requestAttribute = lastAttribute M settings)
    (hexist : ∀ i ∈ l, i ∈ c.exist ↔ present i = true)
    (hcount : c.received.toNat + (l.filter present).length = numberOfBlocks.toNat) :
    ∃ issued c', oneByOne M settings get numberOfBlocks l c = (.success, c') ∧
      c'.log = c.log ++ issued ∧
      issued.map (·.request) =
        (l.filter present).map (requestFor settings (lastAttribute M settings)) ∧
      ∀ x ∈ issued, x.pass = .oneByOne ∧ x.status.isError = false := by
  induction l generalizing c with
  | nil => exact ⟨[], c, rfl, (List.append_nil _).symm, rfl, by simp⟩
  | cons index rest ih =>
      have hrest : ∀ i ∈ rest, i ∈ measurementIndices M :=
        fun i hi => hl i (List.mem_cons_of_mem _ hi)
      have hexist' : ∀ i ∈ rest, i ∈ c.exist ↔ present i = true :=
        fun i hi => hexist i (List.mem_cons_of_mem _ hi)
      by_cases hdone : c.received = numberOfBlocks
      · rw [oneByOne, if_pos hdone, filter_eq_nil_of_complete hcount hdone]
        exact ⟨[], c, rfl, (List.append_nil _).symm, rfl, by simp⟩
      · rw [oneByOne, if_neg hdone]
        cases hpresent : present index with
        | false =>
            have hmem : index ∉ c.exist := by
              rw [hexist index List.mem_cons_self, hpresent]
              decide
            rw [List.filter_cons_of_neg (by simp [hpresent])] at hcount ⊢
            rw [if_neg hmem]
            exact ih hrest hlast hexist' hcount
        | true =>
            have hmem : index ∈ c.exist := (hexist index List.mem_cons_self).2 hpresent
            have hlt : c.received.toNat < numberOfBlocks.toNat := by
              rw [List.filter_cons_of_pos hpresent, List.length_cons] at hcount
              omega
            have hasked := asked settings hserves numberOfBlocks .oneByOne
              (hl index List.mem_cons_self) c
            rw [if_pos hmem]
            generalize c.ask M settings get numberOfBlocks .oneByOne index = r at hasked ⊢
            rcases r with ⟨reply, c₁⟩
            have hok : reply.status.isError = false := by
              rw [hasked.status, hpresent]
              rfl
            simp only [hok, Bool.false_eq_true, if_false]
            obtain ⟨issued, c', hrun, hlog, hrequests, hissued⟩ := ih hrest
              (c := { c₁ with received := c₁.received + 1 })
              (by rw [← nextAttribute_of_last hlast]; exact hasked.requestAttribute)
              (by
                intro i hi
                show i ∈ c₁.exist ↔ _
                rw [hasked.exist]
                exact hexist' i hi)
              (by
                show (c₁.received + 1).toNat + _ = _
                rw [hasked.received, toNat_received_add_one hlt]
                rw [List.filter_cons_of_pos hpresent, List.length_cons] at hcount
                omega)
            refine ⟨⟨.oneByOne,
              requestFor settings (c.nextAttribute M settings numberOfBlocks) index,
              reply.status⟩ :: issued, c', hrun, ?_, ?_,
                List.forall_mem_cons.2 ⟨⟨rfl, hok⟩, hissued⟩⟩
            · rw [hlog]
              show c₁.log ++ issued = _
              rw [hasked.log, List.append_assoc]
              rfl
            · rw [List.map_cons, List.filter_cons_of_pos hpresent, List.map_cons, hrequests,
                nextAttribute_of_last hlast]

/-- A run of signed answers covers one operation with each signature. -/
theorem signed_of_foldl_extend {issued : List Issued} (hne : issued ≠ [])
    (hall : ∀ x ∈ issued, x.status.isError = false ∧ x.request.isSigned M = true) {t : Transcript}
    (ht : t.pending = []) :
    (issued.foldl (Transcript.extend M) t).signed =
      some [(issued.getLast hne).request.measurementOperation] := by
  induction issued generalizing t with
  | nil => exact absurd rfl hne
  | cons x rest ih =>
      obtain ⟨⟨hok, hsigned⟩, hrest⟩ := List.forall_mem_cons.1 hall
      have hextend : t.extend M x = ⟨[], some [x.request.measurementOperation]⟩ := by
        simp [Transcript.extend, hok, hsigned, ht]
      rw [List.foldl_cons, hextend]
      by_cases hempty : rest = []
      · subst hempty
        rfl
      · rw [ih hempty hrest rfl, List.getLast_cons hempty]

/-- Requests with the attribute of the last message, all answered: the last signature covers the
last of the indices only. -/
theorem signed_of_lastAttribute (hsig : needSig M settings = true) {issued : List Issued}
    {indices : List UInt8} (hne : indices ≠ [])
    (hrequests : issued.map (·.request) =
      indices.map (requestFor settings (lastAttribute M settings)))
    (hok : ∀ x ∈ issued, x.status.isError = false) {t : Transcript} (ht : t.pending = []) :
    (issued.foldl (Transcript.extend M) t).signed = some [indices.getLast hne] := by
  have hsigned : ∀ x ∈ issued, x.status.isError = false ∧ x.request.isSigned M = true := by
    intro x hx
    refine ⟨hok x hx, ?_⟩
    have hmem : x.request ∈ issued.map (·.request) := List.mem_map_of_mem hx
    rw [hrequests, List.mem_map] at hmem
    obtain ⟨i, -, hi⟩ := hmem
    rw [← hi]
    exact isSigned_lastAttribute hsig i
  have hne' : issued ≠ [] := by
    rintro rfl
    exact hne (List.map_eq_nil_iff.1 hrequests.symm)
  have hoperation : (issued.getLast hne').request.measurementOperation = indices.getLast hne := by
    have hlast := congrArg List.getLast? hrequests
    rw [List.getLast?_map, List.getLast?_map, List.getLast?_eq_some_getLast hne',
      List.getLast?_eq_some_getLast hne] at hlast
    simp only [Option.map_some, Option.some.injEq] at hlast
    rw [hlast]
    rfl
  rw [signed_of_foldl_extend hne' hsigned ht, hoperation]

/-! ### Both passes -/

theorem nodup_presentIndices (M : Standard) (present : UInt8 → Bool) :
    (presentIndices M present).Nodup := by
  apply List.Nodup.filter present
  refine List.Nodup.map_on ?_ List.nodup_range'
  intro x hx y hy hxy
  have hall : M.allMeasurements.toNat < 256 := M.allMeasurements.toNat_lt
  have hx' : x < 2 ^ 8 := by
    have := (List.mem_range'_1.1 hx).2
    omega
  have hy' : y < 2 ^ 8 := by
    have := (List.mem_range'_1.1 hy).2
    omega
  have hnat := congrArg UInt8.toNat hxy
  rwa [UInt8.toNat_ofNat_of_lt' hx', UInt8.toNat_ofNat_of_lt' hy'] at hnat

/-- The last of some different indices is all of them only if there is one. -/
theorem forall_mem_getLast_iff {indices : List UInt8} (hnodup : indices.Nodup)
    (hne : indices ≠ []) :
    (∀ i ∈ indices, i ∈ [indices.getLast hne]) ↔ indices.length = 1 := by
  constructor
  · intro hmem
    have hequal : indices = List.replicate indices.length (indices.getLast hne) :=
      List.eq_replicate_iff.2 ⟨rfl, fun i hi => List.mem_singleton.1 (hmem i hi)⟩
    have hpos : 0 < indices.length := List.length_pos_iff.2 hne
    rw [hequal, List.nodup_replicate] at hnodup
    omega
  · intro hlength
    obtain ⟨i, rfl⟩ := List.length_eq_one_iff.1 hlength
    intro j hj
    exact hj

/-- The two passes, from a state without an index marked: the second asks for the existing indices
in order, always with the attribute of the last message, and the last signature covers the last
index only. -/
theorem scan_then_oneByOne (hserves : Serves M get present) (hsig : needSig M settings = true)
    (hne : presentIndices M present ≠ []) {numberOfBlocks : UInt8}
    (hblocks : numberOfBlocks.toNat = (presentIndices M present).length) {c : Collection σ}
    (hreceived : c.received = 0) (hexist : c.exist = [])
    (hlog : ∀ x ∈ c.log, x.pass ≠ .oneByOne) :
    let scanned := existScan M settings get numberOfBlocks (measurementIndices M) c
    scanned.received = numberOfBlocks ∧
      ∃ c', oneByOne M settings get numberOfBlocks (measurementIndices M)
          { scanned with received := 0 } = (.success, c') ∧
        (c'.log.filter (·.pass == .oneByOne)).map (·.request) =
          (presentIndices M present).map (requestFor settings (lastAttribute M settings)) ∧
        (transcript M c'.log).signed = some [(presentIndices M present).getLast hne] := by
  intro scanned
  have hpos : 0 < (presentIndices M present).length := List.length_pos_iff.2 hne
  have hcount : (0 : UInt8).toNat + ((measurementIndices M).filter present).length =
      numberOfBlocks.toNat := by
    rw [hblocks]
    exact Nat.zero_add _
  have hscan : Scanned M settings numberOfBlocks (presentIndices M present) c scanned :=
    existScan_scanned hserves hsig _ (fun _ hi => hi) (by rw [hreceived]; exact hcount)
  have hstart : c.received ≠ numberOfBlocks := by
    rw [hreceived]
    rintro rfl
    exact absurd hblocks hpos.ne
  obtain ⟨hlast, hpending⟩ := hscan.last hstart
  obtain ⟨scanLog, hscanLog, hscanPass⟩ := hscan.log
  have hmarked : ∀ i ∈ measurementIndices M, i ∈ scanned.exist ↔ present i = true := by
    intro i hi
    rw [hscan.exist, hexist, List.nil_append, presentIndices, List.mem_filter]
    exact ⟨fun h => h.2, fun h => ⟨hi, h⟩⟩
  obtain ⟨issued, c', hrun, hlog', hrequests, hissued⟩ := oneByOne_of_last hserves
    (measurementIndices M) (fun _ hi => hi) (c := { scanned with received := 0 }) hlast hmarked
    hcount
  refine ⟨hscan.received, c', hrun, ?_, ?_⟩
  · -- only the second pass issued requests of its kind
    have hearlier : scanned.log.filter (·.pass == .oneByOne) = [] := by
      rw [hscanLog, List.filter_append, List.filter_eq_nil_iff.2, List.filter_eq_nil_iff.2]
      · rfl
      · intro x hx
        rw [hscanPass x hx]
        decide
      · intro x hx
        simpa using hlog x hx
    have hall : issued.filter (·.pass == .oneByOne) = issued := by
      apply List.filter_eq_self.2
      intro x hx
      rw [(hissued x hx).1]
      rfl
    rw [hlog', List.filter_append, hearlier, hall, List.nil_append, hrequests]
    rfl
  · rw [hlog', transcript_append]
    exact signed_of_lastAttribute hsig hne hrequests (fun x hx => (hissued x hx).2) hpending

/-- In one-by-one mode the function is a request for the number of blocks and the two passes. -/
theorem collect_one_by_one (hserves : Serves M get present)
    (hone : settings.useMeasurementOperation ≠ M.allMeasurements)
    (hsig : needSig M settings = true) (hne : presentIndices M present ≠ []) (link : σ) :
    ∃ c, spdmSendReceiveGetMeasurement M settings get link = (.success, c) ∧
      (c.log.filter (·.pass == .oneByOne)).map (·.request) =
        (presentIndices M present).map (requestFor settings (lastAttribute M settings)) ∧
      (transcript M c.log).signed = some [(presentIndices M present).getLast hne] := by
  obtain ⟨hok, hblocks⟩ := hserves.total link
    (requestFor settings settings.useMeasurementAttribute M.totalNumberOfMeasurements) rfl
  rcases hget : get link (requestFor settings settings.useMeasurementAttribute
    M.totalNumberOfMeasurements) with ⟨reply, link'⟩
  rw [hget] at hok hblocks
  have hlt : (presentIndices M present).length < 2 ^ 8 := length_presentIndices_lt M present
  have hcount : reply.numberOfBlocks.toNat = (presentIndices M present).length := by
    rw [show reply.numberOfBlocks = _ from hblocks, UInt8.toNat_ofNat_of_lt' hlt]
  obtain ⟨hreceived, c, hrun, hc⟩ := scan_then_oneByOne hserves hsig hne hcount
    (c := ⟨link', settings.useMeasurementAttribute, 0, [], [⟨.total, requestFor settings
      settings.useMeasurementAttribute M.totalNumberOfMeasurements, reply.status⟩]⟩)
    rfl rfl (by simp)
  refine ⟨c, ?_, hc⟩
  have hstatus : ¬ reply.status.isError = true := by
    rw [show reply.status.isError = _ from hok]
    simp
  simp only [spdmSendReceiveGetMeasurement, if_neg hone, Collection.issue, hget, if_neg hstatus,
    List.nil_append]
  rw [if_neg (not_not.2 hreceived)]
  exact hrun

end Responder

/-- **The last signature covers the whole set exactly when it has one element.** For every responder
with a nonempty set of measurements, signatures supported, the function succeeds in one-by-one mode
and its second pass asks once for each existing index in ascending order. Of these requests the last
alone asks for a signature if and only if the set has one element, and the last signature covers all
of the set if and only if it has. -/
theorem one_by_one_signs_iff {σ : Type} (M : Standard) (settings : Settings)
    (get : GetMeasurement σ) (present : UInt8 → Bool) (hserves : Serves M get present)
    (hone : settings.useMeasurementOperation ≠ M.allMeasurements)
    (hsig : needSig M settings = true) (hpos : 1 ≤ (presentIndices M present).length) (link : σ) :
    let result := spdmSendReceiveGetMeasurement M settings get link
    let final := result.2.log.filter (·.pass == .oneByOne)
    let n := (presentIndices M present).length
    result.1 = .success ∧
      final.map (·.request.measurementOperation) = presentIndices M present ∧
      (final.map (·.request.isSigned M) = List.replicate (n - 1) false ++ [true] ↔ n = 1) ∧
      ((∃ covered, (transcript M result.2.log).signed = some covered ∧
        ∀ i ∈ presentIndices M present, i ∈ covered) ↔ n = 1) := by
  intro result final n
  have hne : presentIndices M present ≠ [] := List.length_pos_iff.1 hpos
  obtain ⟨c, hrun, hrequests, hsigned⟩ := collect_one_by_one hserves hone hsig hne link
  have hresult : result = (.success, c) := hrun
  have hfinal : final.map (·.request) =
      (presentIndices M present).map (requestFor settings (lastAttribute M settings)) := by
    rw [← hrequests]
    exact congrArg (fun r => (List.filter _ r.2.log).map _) hresult
  refine ⟨by rw [hresult], ?_, ?_, ?_⟩
  · have hoperations := congrArg (List.map MeasurementRequest.measurementOperation) hfinal
    rw [List.map_map, List.map_map] at hoperations
    refine hoperations.trans ?_
    exact List.map_id _
  · -- all of them ask for a signature
    have hall : final.map (·.request.isSigned M) = List.replicate n true := by
      have hflags := congrArg (List.map (MeasurementRequest.isSigned M)) hfinal
      rw [List.map_map, List.map_map] at hflags
      refine hflags.trans ?_
      apply List.eq_replicate_iff.2
      refine ⟨by rw [List.length_map], ?_⟩
      intro b hb
      obtain ⟨i, -, rfl⟩ := List.mem_map.1 hb
      exact isSigned_lastAttribute hsig i
    rw [hall]
    constructor
    · intro heq
      by_contra hn
      obtain ⟨m, hm⟩ : ∃ m, n = m + 2 := ⟨n - 2, by omega⟩
      rw [hm] at heq
      exact absurd (congrArg List.head? heq) (by simp [List.replicate_succ])
    · intro hn
      rw [hn]
      rfl
  · rw [hresult, hsigned]
    constructor
    · rintro ⟨covered, hcovered, hmem⟩
      cases hcovered
      exact (forall_mem_getLast_iff (nodup_presentIndices M present) hne).1 hmem
    · intro hn
      exact ⟨_, rfl, (forall_mem_getLast_iff (nodup_presentIndices M present) hne).2 hn⟩

/-! ## A device with two measurements -/

/-- The constants of SPDM. -/
def Standard.sample : Standard where
  generateSignature := 1
  generateSignature_ne_zero := by decide
  totalNumberOfMeasurements := 0
  allMeasurements := 0xFF
  measCapNoSig := 8

/-- One-by-one mode without an attribute, and a peer that signs. -/
def sampleSettings : Settings := ⟨0, 0, 0, 0x10⟩

/-- The device with the measurements in a list. -/
def device (indices : List UInt8) : GetMeasurement Unit := fun s request =>
  if request.measurementOperation = 0 then (⟨.success, UInt8.ofNat indices.length⟩, s)
  else if request.measurementOperation ∈ indices then (⟨.success, 1⟩, s)
  else (⟨.errorPeer, 0⟩, s)

/-- A device with measurement 3 only: the one request of the second pass asks for a signature. -/
theorem one_by_one_signs_sample :
    let result := spdmSendReceiveGetMeasurement .sample sampleSettings (device [3]) ()
    result.1 = .success ∧
      (result.2.log.filter (·.pass == .oneByOne)).map (·.request.isSigned .sample) = [true] := by
  have hserves : Serves .sample (device [3]) (· == 3) := by
    constructor
    · intro s request hrequest
      have hzero : request.measurementOperation = 0 := hrequest
      simp only [device, if_pos hzero]
      exact ⟨rfl, by decide⟩
    · intro s request hrequest
      have hne : request.measurementOperation ≠ 0 := by
        intro hzero
        rw [hzero] at hrequest
        exact absurd hrequest (by decide)
      by_cases hthree : request.measurementOperation = 3
      · simp [device, hthree, LibspdmReturn.isError]
      · simp [device, hne, hthree, LibspdmReturn.isError]
  have hone : (presentIndices .sample (· == 3)).length = 1 := by decide
  obtain ⟨hsuccess, -, hsigned, -⟩ := one_by_one_signs_iff .sample sampleSettings (device [3])
    (· == 3) hserves (by decide) (by decide) hone.ge ()
  refine ⟨hsuccess, ?_⟩
  rw [hsigned.2 hone, hone]
  rfl

/-- Measurements 1 and 3: both requests of the second pass ask for a signature, and the last
signature covers measurement 3 only. -/
theorem one_by_one_signs_twice :
    let result := spdmSendReceiveGetMeasurement .sample sampleSettings (device [1, 3]) ()
    let final := result.2.log.filter (·.pass == .oneByOne)
    result.1 = .success ∧ final.map (·.request.measurementOperation) = [1, 3] ∧
      final.map (·.request.isSigned .sample) = [true, true] ∧
      (transcript .sample result.2.log).signed = some [3] := by
  decide

end SpdmEmu.Emulator.Measurement
