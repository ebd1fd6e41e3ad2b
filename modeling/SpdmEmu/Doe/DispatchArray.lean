import SpdmEmu.Doe.Responder
import SpdmEmu.Run.Machine
import Mathlib.Data.List.Induction

/-!
# The dispatch array

`SpdmEmu.Doe.Responder` keeps the registered vendor handlers in a list. The source keeps them in
`m_pci_doe_spdm_dispatch`, an array of four slots in static storage, with a count of the slots in
use, and the loop of the dispatcher visits all four. This module models the array, with the null
function pointer of a slot that was never registered, and connects it to the list: after every
sequence of registrations the array holds the first four entries of the PCI-SIG registry and is zero
behind them (`represents_registered`).

A zero slot is never called, although a request may well carry its vendor id 0 and its protocol id
0: its standard id is 0 too, and the loop is reached only by requests of the PCI-SIG registry.
-/

set_option autoImplicit false

namespace SpdmEmu.Doe

open SpdmEmu.Wire SpdmEmu.Libspdm SpdmEmu.Run

variable {σ : Type}

/-! ## The array -/

/-- An element of `m_pci_doe_spdm_dispatch`; `none` is the null pointer. -/
structure DispatchSlot (σ : Type) where
  standardId : UInt16
  vendorId : UInt16
  protocolId : UInt8
  func : Option (Handler σ)

/-- A slot of an array in static storage. -/
def DispatchSlot.zero : DispatchSlot σ := ⟨0, 0, 0, none⟩

/-- The slot a registration writes. -/
def DispatchSlot.ofEntry (entry : DispatchEntry σ) : DispatchSlot σ :=
  ⟨entry.standardId, entry.vendorId, entry.protocolId, some entry.func⟩

/-- The comparison of the loop. -/
def DispatchSlot.accepts (slot : DispatchSlot σ) (ids : VendorIds) (protocolId : UInt8) : Bool :=
  ids.standardId == slot.standardId && ids.vendorId == slot.vendorId &&
    protocolId == slot.protocolId

/-- `m_pci_doe_spdm_dispatch` and `m_pci_doe_spdm_dispatch_count` -/
structure DispatchArray (σ : Type) where
  slots : Vector (DispatchSlot σ) dispatchArraySize
  count : Nat

/-- The array before the first registration. -/
def DispatchArray.zero : DispatchArray σ := ⟨Vector.replicate dispatchArraySize .zero, 0⟩

/-- `pci_doe_register_vendor_response_func` -/
def DispatchArray.register (V : VendorDefined) (a : DispatchArray σ) (entry : DispatchEntry σ) :
    LibspdmReturn × DispatchArray σ :=
  if entry.standardId ≠ V.registryIdPcisig then (.invalidParameter, a)
  else if h : a.count ≥ dispatchArraySize then (.bufferFull, a)
  else (.success, ⟨a.slots.set a.count (.ofEntry entry) (by omega), a.count + 1⟩)

/-- The registrations as a machine. -/
def registry (V : VendorDefined) : Machine (DispatchArray σ) (DispatchEntry σ) LibspdmReturn :=
  ⟨DispatchArray.register V⟩

/-! ## The loop -/

/-- The loop of the dispatcher from slot `index` on: the slot it calls. -/
def scanSlots (ids : VendorIds) (protocolId : UInt8) :
    Nat → List (DispatchSlot σ) → Option (Nat × DispatchSlot σ)
  | _, [] => none
  | index, slot :: slots =>
      if slot.accepts ids protocolId then some (index, slot)
      else scanSlots ids protocolId (index + 1) slots

/-- The loop over all slots. -/
def DispatchArray.lookup (a : DispatchArray σ) (ids : VendorIds) (protocolId : UInt8) :
    Option (Nat × DispatchSlot σ) :=
  scanSlots ids protocolId 0 a.slots.toList

/-- A call of the loop through a function pointer: the slot, and the request bytes passed, from
`offset` on and `size` of them. -/
structure VendorCall where
  index : Nat
  offset : Nat
  size : Nat
deriving DecidableEq, Repr

/-- The bytes of a request that a call passes to the handler. -/
def VendorCall.body (c : VendorCall) (request : Bytes) : Bytes :=
  (request.drop c.offset).take c.size

/-- The call of the handler at `index` for a request that passed the checks. -/
def VendorRequest.callAt (V : VendorDefined) (request : Bytes) (r : VendorRequest) (index : Nat) :
    VendorCall where
  index := index
  offset := V.headerSize r.form
  size := V.readLength r.form (request.drop V.lengthOffset) - V.protocolHeader.size

/-- `pci_doe_get_response_spdm_vendor_defined_request` over the array, with the calls it makes.
There is no outcome when the call goes through a null pointer. -/
def DispatchArray.respond (V : VendorDefined) (a : DispatchArray σ) (s : σ) (session : SessionId)
    (request : Bytes) (response : Mem) (responseSize : Nat) :
    Option (Outcome σ) × List VendorCall :=
  dispatchRequest V a.lookup
    (fun r found =>
      let call := r.callAt V request found.1
      (found.2.func.map fun func =>
        vendorOutcome V r (func s session (call.body request)) response responseSize, [call]))
    (fun status => (some ⟨status, response, responseSize, s⟩, [])) request

/-! ## The array holds the table -/

/-- The array holds the entries of a table from its first slot on, and zero slots behind them. -/
structure DispatchArray.Represents (a : DispatchArray σ) (table : DispatchTable σ) : Prop where
  slots : a.slots.toList = table.map DispatchSlot.ofEntry ++
    List.replicate (dispatchArraySize - table.length) .zero
  count : a.count = table.length
  fits : table.length ≤ dispatchArraySize

theorem represents_zero : (DispatchArray.zero : DispatchArray σ).Represents [] where
  slots := by simp [DispatchArray.zero]
  count := rfl
  fits := Nat.zero_le _

/-- A registration acts on the array as it does on the table, with the same status. -/
theorem DispatchArray.Represents.register {a : DispatchArray σ} {table : DispatchTable σ}
    (h : a.Represents table) (V : VendorDefined) (entry : DispatchEntry σ) :
    (a.register V entry).1 = (pciDoeRegisterVendorResponseFunc V table entry).1 ∧
      (a.register V entry).2.Represents (pciDoeRegisterVendorResponseFunc V table entry).2 := by
  by_cases hstd : entry.standardId ≠ V.registryIdPcisig
  · simp only [DispatchArray.register, pciDoeRegisterVendorResponseFunc, if_pos hstd, true_and]
    exact h
  · by_cases hfull : dispatchArraySize ≤ table.length
    · have hcount : a.count ≥ dispatchArraySize := h.count ▸ hfull
      simp only [DispatchArray.register, pciDoeRegisterVendorResponseFunc, if_neg hstd,
        dif_pos hcount, if_pos hfull, true_and]
      exact h
    · have hcount : ¬ a.count ≥ dispatchArraySize := h.count ▸ hfull
      simp only [DispatchArray.register, pciDoeRegisterVendorResponseFunc, if_neg hstd,
        dif_neg hcount, if_neg hfull, true_and]
      -- the slot written is the first of the zero slots
      have hzero : dispatchArraySize - table.length =
          dispatchArraySize - (table.length + 1) + 1 := by omega
      refine ⟨?_, ?_, ?_⟩
      · rw [Vector.toList_set, h.slots, h.count,
          List.set_append_right _ _ (by rw [List.length_map]), List.length_map, Nat.sub_self,
          hzero, List.replicate_succ, List.set_cons_zero, List.map_append, List.length_append]
        simp
      · show a.count + 1 = (table ++ [entry]).length
        rw [h.count, List.length_append, List.length_singleton]
      · rw [List.length_append, List.length_singleton]
        omega

/-- The entries that are in the table after a sequence of registrations. -/
def registeredEntries (V : VendorDefined) (registrations : List (DispatchEntry σ)) :
    DispatchTable σ :=
  (registrations.filter (·.standardId == V.registryIdPcisig)).take dispatchArraySize

/-- Appending to the first `n` elements of a list while there is room for one more. -/
theorem take_append_singleton {α : Type} (n : Nat) (l : List α) (x : α) :
    (l ++ [x]).take n = if n ≤ (l.take n).length then l.take n else l.take n ++ [x] := by
  by_cases hfull : n ≤ l.length
  · rw [List.take_append_of_le_length hfull, if_pos (by rw [List.length_take]; omega)]
  · rw [List.take_of_length_le (by rw [List.length_append, List.length_singleton]; omega),
      List.take_of_length_le (by omega), if_neg hfull]

theorem register_registeredEntries (V : VendorDefined) (registrations : List (DispatchEntry σ))
    (entry : DispatchEntry σ) :
    (pciDoeRegisterVendorResponseFunc V (registeredEntries V registrations) entry).2 =
      registeredEntries V (registrations ++ [entry]) := by
  rw [registeredEntries, registeredEntries, List.filter_append]
  by_cases hstd : entry.standardId = V.registryIdPcisig
  · have hentry : [entry].filter (·.standardId == V.registryIdPcisig) = [entry] := by simp [hstd]
    rw [hentry, take_append_singleton, pciDoeRegisterVendorResponseFunc, if_neg (by simp [hstd]),
      apply_ite Prod.snd]
  · simp [pciDoeRegisterVendorResponseFunc, hstd]

/-- **After every sequence of registrations** the array holds the first four entries of the PCI-SIG
registry. -/
theorem represents_registered (V : VendorDefined) (registrations : List (DispatchEntry σ)) :
    ((registry V).after .zero registrations).Represents (registeredEntries V registrations) := by
  induction registrations using List.reverseRecOn with
  | nil => exact represents_zero
  | append_singleton registrations entry ih =>
      rw [Machine.after_append, ← register_registeredEntries]
      exact (ih.register V entry).2

/-! ## The loop over a represented table -/

/-- A request of another registry than 0 passes the zero slots by. -/
theorem scanSlots_zero {ids : VendorIds} (hids : ids.standardId ≠ 0) (protocolId : UInt8)
    (index n : Nat) :
    scanSlots ids protocolId index (List.replicate n (DispatchSlot.zero : DispatchSlot σ)) =
      none := by
  induction n generalizing index with
  | zero => rfl
  | succ n ih =>
      have hzero : (DispatchSlot.zero : DispatchSlot σ).accepts ids protocolId = false := by
        simp [DispatchSlot.accepts, DispatchSlot.zero, hids]
      rw [List.replicate_succ, scanSlots, hzero]
      exact ih (index + 1)

/-- The loop finds the first entry of the table that the comparison accepts, or nothing. -/
theorem scanSlots_table {ids : VendorIds} (hids : ids.standardId ≠ 0) (protocolId : UInt8)
    (table : DispatchTable σ) (index n : Nat) :
    scanSlots ids protocolId index (table.map DispatchSlot.ofEntry ++ List.replicate n .zero) =
      (table.lookup ids protocolId).map fun entry =>
        (index + table.findIdx (·.accepts ids protocolId), DispatchSlot.ofEntry entry) := by
  induction table generalizing index with
  | nil => exact scanSlots_zero hids protocolId index n
  | cons entry table ih =>
      have haccepts : (DispatchSlot.ofEntry entry).accepts ids protocolId =
          entry.accepts ids protocolId := rfl
      rw [List.map_cons, List.cons_append, scanSlots, haccepts, DispatchTable.lookup,
        List.find?_cons, List.findIdx_cons]
      cases hentry : entry.accepts ids protocolId with
      | true => rfl
      | false =>
          rw [if_neg (by decide), ih (index + 1)]
          have hshift : index + 1 + table.findIdx (·.accepts ids protocolId) =
              index + (table.findIdx (·.accepts ids protocolId) + 1) := by omega
          rw [hshift]
          rfl

/-! ## Well-formed requests -/

section Request

variable (V : VendorDefined) (request : Bytes)

/-- `use_large_payload` -/
def requestForm : Form := V.formOf (V.spdmHeader.decode request)

/-- The vendor identification of a request. -/
def requestVendorIds : VendorIds := V.vendorIds.decode (request.drop V.spdmHeader.size)

/-- The protocol id of a request. -/
def requestProtocolId : UInt8 :=
  V.protocolHeader.decode (request.drop (V.payloadOffset (requestForm V request)))

/-- `req_payload_length` -/
def declaredLength : Nat := V.readLength (requestForm V request) (request.drop V.lengthOffset)

/-- What the dispatcher demands of a request before it looks for a handler. -/
structure WellFormedRequest : Prop where
  spdmHeader : V.spdmHeader.size ≤ request.length
  header : V.headerSize (requestForm V request) ≤ request.length
  code : (V.spdmHeader.decode request).requestResponseCode = V.vendorDefinedRequest
  standardId : (requestVendorIds V request).standardId = V.registryIdPcisig
  vendorIdLen : (requestVendorIds V request).len = vendorIdLen
  protocol : V.protocolHeader.size ≤ declaredLength V request
  inside : V.headerSize (requestForm V request) +
    (declaredLength V request - V.protocolHeader.size) ≤ request.length

/-- What the dispatcher reads from a well-formed request. -/
def readRequest : VendorRequest where
  form := requestForm V request
  spdmVersion := (V.spdmHeader.decode request).spdmVersion
  ids := requestVendorIds V request
  protocolId := requestProtocolId V request
  body := (request.drop (V.headerSize (requestForm V request))).take
    (declaredLength V request - V.protocolHeader.size)

variable {V request}

theorem parseRequest_of_wellFormed (h : WellFormedRequest V request) :
    parseRequest V request = .ok (readRequest V request) := by
  obtain ⟨hspdm, hheader, hcode, hstd, hlen, hprotocol, hinside⟩ := h
  simp only [requestForm, requestVendorIds, declaredLength] at hheader hstd hlen hprotocol hinside
  rw [parseRequest, if_neg (by omega)]
  dsimp only
  rw [if_neg (by omega), if_neg (by simp [hcode]), if_neg (by simp [hstd]), if_neg (by simp [hlen]),
    if_neg (by omega), if_neg (by omega)]
  rfl

/-- A chain of checks answers with an error if its first check does, or the rest of it. -/
theorem refused_of_check {α : Type} {c : Prop} [Decidable c] {status : LibspdmReturn}
    {x : Except LibspdmReturn α} (hstatus : status.isError = true)
    (hrest : ¬ c → ∃ status, status.isError = true ∧ x = .error status) :
    ∃ status', status'.isError = true ∧
      (if c then .error status else x) = (.error status' : Except LibspdmReturn α) := by
  by_cases h : c
  · exact ⟨status, hstatus, if_pos h⟩
  · rw [if_neg h]
    exact hrest h

/-- Every other request is answered with an error by the first check that it fails. -/
theorem parseRequest_of_not_wellFormed (h : ¬ WellFormedRequest V request) :
    ∃ status, status.isError = true ∧ parseRequest V request = .error status := by
  rw [parseRequest]
  refine refused_of_check rfl fun hspdm => ?_
  refine refused_of_check rfl fun hheader => ?_
  refine refused_of_check rfl fun hcode => ?_
  refine refused_of_check rfl fun hstd => ?_
  refine refused_of_check rfl fun hlen => ?_
  refine refused_of_check rfl fun hprotocol => ?_
  refine refused_of_check rfl fun hinside => ?_
  -- a request that passes every check is well formed
  refine absurd ⟨not_lt.1 hspdm, not_lt.1 hheader, not_not.1 hcode, not_not.1 hstd,
    not_not.1 hlen, not_lt.1 hprotocol, ?_⟩ h
  simp only [requestForm, declaredLength]
  omega

end Request

/-! ## Routing -/

section Respond

variable {V : VendorDefined} {a : DispatchArray σ} {table : DispatchTable σ} {request : Bytes}
  (s : σ) (session : SessionId) (response : Mem) (responseSize : Nat)

theorem respond_of_not_wellFormed (h : ¬ WellFormedRequest V request) :
    ∃ status, status.isError = true ∧
      a.respond V s session request response responseSize =
        (some ⟨status, response, responseSize, s⟩, []) := by
  obtain ⟨status, herror, hparse⟩ := parseRequest_of_not_wellFormed h
  exact ⟨status, herror, dispatchRequest_of_error hparse⟩

variable (hregistry : V.registryIdPcisig ≠ 0) (ha : a.Represents table)
  (h : WellFormedRequest V request)

include hregistry ha h

/-- The loop of a well-formed request searches the table that the array holds. -/
theorem lookup_of_wellFormed :
    a.lookup (requestVendorIds V request) (requestProtocolId V request) =
      (table.lookup (requestVendorIds V request) (requestProtocolId V request)).map fun entry =>
        (table.findIdx (·.accepts (requestVendorIds V request) (requestProtocolId V request)),
          DispatchSlot.ofEntry entry) := by
  have hids : (requestVendorIds V request).standardId ≠ 0 := h.standardId ▸ hregistry
  rw [DispatchArray.lookup, ha.slots, scanSlots_table hids]
  simp only [Nat.zero_add]

theorem respond_of_lookup_none
    (hnone : table.lookup (requestVendorIds V request) (requestProtocolId V request) = none) :
    a.respond V s session request response responseSize =
      (some ⟨.unsupportedCap, response, responseSize, s⟩, []) := by
  have hlookup := lookup_of_wellFormed hregistry ha h
  rw [hnone, Option.map_none] at hlookup
  exact dispatchRequest_of_none (parseRequest_of_wellFormed h) hlookup

theorem respond_of_lookup_some {entry : DispatchEntry σ}
    (hsome : table.lookup (requestVendorIds V request) (requestProtocolId V request) =
      some entry) :
    a.respond V s session request response responseSize =
      (some (vendorOutcome V (readRequest V request)
          (entry.func s session (readRequest V request).body) response responseSize),
        [(readRequest V request).callAt V request (table.findIdx (·.accepts
          (requestVendorIds V request) (requestProtocolId V request)))]) := by
  have hlookup := lookup_of_wellFormed hregistry ha h
  rw [hsome, Option.map_some] at hlookup
  rw [DispatchArray.respond, dispatchRequest_of_some (parseRequest_of_wellFormed h) hlookup]
  rfl

end Respond

/-- **The array refines the table.** The dispatcher over an array that holds a table does what the
dispatcher over the table does, and never runs into a null pointer. -/
theorem respond_refines {V : VendorDefined} (hregistry : V.registryIdPcisig ≠ 0)
    {a : DispatchArray σ} {table : DispatchTable σ} (ha : a.Represents table) (s : σ)
    (session : SessionId) (request : Bytes) (response : Mem) (responseSize : Nat) :
    (a.respond V s session request response responseSize).1 =
      some (pciDoeGetResponseSpdmVendorDefinedRequest V table s session request response
        responseSize) := by
  by_cases h : WellFormedRequest V request
  · have hparse := parseRequest_of_wellFormed h
    cases hlookup : table.lookup (requestVendorIds V request) (requestProtocolId V request) with
    | none =>
        rw [respond_of_lookup_none s session response responseSize hregistry ha h hlookup,
          respond_of_not_found hparse hlookup]
    | some entry =>
        rw [respond_of_lookup_some s session response responseSize hregistry ha h hlookup,
          pciDoeGetResponseSpdmVendorDefinedRequest, dispatchRequest_of_some hparse hlookup]
  · obtain ⟨status, -, hparse⟩ := parseRequest_of_not_wellFormed h
    rw [DispatchArray.respond, pciDoeGetResponseSpdmVendorDefinedRequest,
      dispatchRequest_of_error hparse, dispatchRequest_of_error hparse]

/-- The earlier entries of the table do not accept what the entry at the first accepting index
does. -/
theorem lookup_first {table : DispatchTable σ} {ids : VendorIds} {protocolId : UInt8}
    {entry : DispatchEntry σ} (h : table.lookup ids protocolId = some entry) :
    table[table.findIdx (·.accepts ids protocolId)]? = some entry ∧
      entry.accepts ids protocolId = true ∧
      ∀ j < table.findIdx (·.accepts ids protocolId), ∀ earlier, table[j]? = some earlier →
        earlier.accepts ids protocolId = false := by
  rw [DispatchTable.lookup] at h
  have haccepts := List.find?_some h
  refine ⟨?_, haccepts, ?_⟩
  · rw [← h, List.find?_eq_getElem?_findIdx]
  · intro j hj earlier hearlier
    obtain ⟨hlen, rfl⟩ := List.getElem?_eq_some_iff.1 hearlier
    exact List.not_of_lt_findIdx hj

/-- **The dispatcher is safe and routes to the first matching handler.** After every sequence of
registrations: a registration of another registry is refused, and one that finds four entries in the
table as well, without a change of the array; a request that is not well formed is answered with an
error, no handler is called and nothing is written; a well-formed request for which no entry is
registered gets `UNSUPPORTED_CAP`; and otherwise the one call goes to the first registered entry
that matches, with the bytes between the header and the declared end of the payload. -/
theorem vendor_dispatch_routes (V : VendorDefined) (hregistry : V.registryIdPcisig ≠ 0)
    (registrations : List (DispatchEntry σ)) (s : σ) (session : SessionId) (request : Bytes)
    (response : Mem) (responseSize : Nat) :
    let array := (registry V).after DispatchArray.zero registrations
    let table := registeredEntries V registrations
    let ids := requestVendorIds V request
    let protocolId := requestProtocolId V request
    let run := array.respond V s session request response responseSize
    (∀ entry, entry.standardId ≠ V.registryIdPcisig →
      array.register V entry = (.invalidParameter, array)) ∧
    (∀ entry, entry.standardId = V.registryIdPcisig → table.length = dispatchArraySize →
      array.register V entry = (.bufferFull, array)) ∧
    (¬ WellFormedRequest V request → ∃ status, status.isError = true ∧
      run = (some ⟨status, response, responseSize, s⟩, [])) ∧
    (WellFormedRequest V request → (∀ entry ∈ table, entry.accepts ids protocolId = false) →
      run = (some ⟨.unsupportedCap, response, responseSize, s⟩, [])) ∧
    (WellFormedRequest V request → (∃ entry ∈ table, entry.accepts ids protocolId = true) →
      ∃ index entry call, table[index]? = some entry ∧ entry.accepts ids protocolId = true ∧
        (∀ j < index, ∀ earlier, table[j]? = some earlier →
          earlier.accepts ids protocolId = false) ∧
        call = ⟨index, V.headerSize (requestForm V request),
          declaredLength V request - V.protocolHeader.size⟩ ∧
        V.protocolHeader.size ≤ declaredLength V request ∧
        call.offset + call.size ≤ request.length ∧
        run = (some (vendorOutcome V (readRequest V request)
          (entry.func s session (call.body request)) response responseSize), [call])) := by
  intro array table ids protocolId run
  have hrepresents : array.Represents table := represents_registered V registrations
  refine ⟨?_, ?_, ?_, ?_, ?_⟩
  · intro entry hstd
    exact if_pos hstd
  · intro entry hstd hfull
    have hcount : array.count ≥ dispatchArraySize := by rw [hrepresents.count, hfull]
    rw [DispatchArray.register, if_neg (not_not.2 hstd), dif_pos hcount]
  · intro h
    exact respond_of_not_wellFormed s session response responseSize h
  · intro h hno
    apply respond_of_lookup_none s session response responseSize hregistry hrepresents h
    apply List.find?_eq_none.2
    intro entry hentry
    rw [hno entry hentry]
    decide
  · intro h hexists
    obtain ⟨entry, hfound⟩ := Option.isSome_iff_exists.1 (List.find?_isSome.2 hexists)
    obtain ⟨hindex, haccepts, hfirst⟩ := lookup_first hfound
    exact ⟨_, entry, (readRequest V request).callAt V request _, hindex, haccepts, hfirst, rfl,
      h.protocol, h.inside,
      respond_of_lookup_some s session response responseSize hregistry hrepresents h hfound⟩

/-- Handlers for IDE_KM and TDISP that answer with their request. -/
def sampleRegistrations : List (DispatchEntry Unit) :=
  [⟨3, 1, 0, fun s _ request => (⟨.success, some request⟩, s)⟩,
    ⟨3, 1, 1, fun s _ request => (⟨.success, some request⟩, s)⟩]

/-- A TDISP request of two bytes. -/
def sampleRequest : Bytes :=
  requestMessage .sample ⟨0x12, 0xFE, 0, 0⟩ 1 1 [0xAA, 0xBB]

/-- The request for TDISP is well formed and reaches the second handler with its two bytes. -/
theorem vendor_dispatch_routes_sample :
    WellFormedRequest .sample sampleRequest ∧
      ∃ outcome, ((registry .sample).after DispatchArray.zero sampleRegistrations).respond .sample
        () none sampleRequest (fun _ => 0) 64 = (some outcome, [⟨1, 12, 2⟩]) := by
  have hwell : WellFormedRequest .sample sampleRequest :=
    ⟨by decide, by decide, by decide, by decide, by decide, by decide, by decide⟩
  refine ⟨hwell, ?_⟩
  obtain ⟨-, -, -, -, hroute⟩ := vendor_dispatch_routes .sample (by decide) sampleRegistrations ()
    none sampleRequest (fun _ => 0) 64
  obtain ⟨index, entry, call, hindex, haccepts, -, rfl, -, -, hrun⟩ := hroute hwell
    ⟨_, List.mem_cons_of_mem _ (List.mem_singleton_self _), by decide⟩
  -- of the two entries only the second accepts the request
  have hone : index = 1 := by
    rcases index with _ | _ | index
    · cases hindex
      exact absurd haccepts (by decide)
    · rfl
    · cases hindex
  subst hone
  exact ⟨_, hrun⟩

end SpdmEmu.Doe
