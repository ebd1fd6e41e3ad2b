import SpdmEmu.IdeKm.Responder

/-!
# The IDE_KM query requester

`library/pci_ide_km_requester_lib/pci_ide_km_req_query.c`: the query for a port, whose response is a
fixed part and as many register words as the response has room for. The CXL requester does the same
with another fixed part and fewer registers, so the function takes the layouts as parameters.
-/

set_option autoImplicit false

namespace SpdmEmu.IdeKm

open SpdmEmu.Wire SpdmEmu.Libspdm

variable {σ β : Type}

/-! ## Any query requester -/

/-- What `pci_ide_km_query` and `cxl_ide_km_query` return. The port fields are set on success. -/
structure QueryResult (β σ : Type) where
  status : LibspdmReturn
  port : Option β
  ideRegBuffer : Mem
  ideRegBufferCount : UInt32
  link : σ

/-- The messages of a query: the request for a port, and a response with a fixed part and at most
`regBlockCount` registers. The registers of a response are counted in 32 bits. -/
structure QueryProtocol (β : Type) where
  request : UInt8 → Bytes
  header : Packed UInt8
  responseObjectId : UInt8
  queryResp : Packed β
  portIndex : β → UInt8
  ideReg : Packed UInt32
  regBlockCount : Nat
  regBlockCount_lt : regBlockCount * 4 < UInt32.size

namespace QueryProtocol

variable (P : QueryProtocol β)

/-- The size of the response without registers. -/
def respSize : Nat := P.header.size + P.queryResp.size

/-- The one exchange of a query; the local response object has room for all registers. -/
def call (portIndex : UInt8) (link : σ) : Call σ :=
  ⟨link, P.request portIndex, P.respSize + P.regBlockCount * P.ideReg.size⟩

/-- A response. -/
def response (body : β) (regs : Bytes) : Bytes :=
  P.header.encode P.responseObjectId ++ (P.queryResp.encode body ++ regs)

/-- `pci_ide_km_query` and `cxl_ide_km_query`. -/
def query (sendReceive : SendReceive σ) (link : σ) (portIndex : UInt8) (ideRegBuffer : Mem)
    (ideRegBufferCount : UInt32) : QueryResult β σ :=
  let (exchange, link) := sendReceive.call (P.call portIndex link)
  let response := exchange.response
  let ideRegCount := UInt32.ofNat (response.length - P.respSize) / UInt32.ofNat P.ideReg.size
  let body := P.queryResp.decode (response.drop P.header.size)
  let fail status : QueryResult β σ := ⟨status, none, ideRegBuffer, ideRegBufferCount, link⟩
  if exchange.status.isError then fail exchange.status
  else if response.length < P.respSize then fail .invalidMsgSize
  else if response.length ≠ P.respSize + ideRegCount.toNat * P.ideReg.size then
    fail .invalidMsgSize
  else if P.header.decode response ≠ P.responseObjectId then fail .invalidMsgField
  else if P.portIndex body ≠ portIndex then fail .invalidMsgField
  else if ideRegBufferCount < ideRegCount then
    -- the needed count is returned with the error
    ⟨.bufferTooSmall, none, ideRegBuffer, ideRegCount, link⟩
  else
    { status := .success
      port := some body
      ideRegBuffer := copyMem ideRegBuffer 0 (ideRegBufferCount.toNat * P.ideReg.size)
        (response.drop P.respSize)
      ideRegBufferCount := ideRegCount
      link := link }

/-- Whatever it is answered, the requester makes its one exchange. -/
theorem calls_query (sendReceive : SendReceive σ) (link : σ) (calls : List (Call σ))
    (portIndex : UInt8) (ideRegBuffer : Mem) (ideRegBufferCount : UInt32) :
    (P.query sendReceive.recorded (link, calls) portIndex ideRegBuffer
      ideRegBufferCount).link.2 = calls ++ [P.call portIndex link] := by
  simp only [query]
  -- every branch hands the link on
  repeat' split
  all_goals rfl

/-- What the register buffer holds before the call decides about the buffer only. -/
theorem query_buffer (sendReceive : SendReceive σ) (link : σ) (portIndex : UInt8)
    (ideRegBuffer ideRegBuffer' : Mem) (ideRegBufferCount : UInt32) :
    P.query sendReceive link portIndex ideRegBuffer ideRegBufferCount =
      { P.query sendReceive link portIndex ideRegBuffer' ideRegBufferCount with
        ideRegBuffer :=
          (P.query sendReceive link portIndex ideRegBuffer ideRegBufferCount).ideRegBuffer } := by
  simp only [query]
  repeat' split
  all_goals rfl

section Count

variable {P}

/-- The count of a response that fits the response object is the exact quotient. -/
theorem toNat_ideRegCount (hreg : P.ideReg.size = 4) {n : Nat} (hn : n ≤ P.regBlockCount * 4) :
    (UInt32.ofNat n / UInt32.ofNat P.ideReg.size).toNat = n / 4 := by
  have hlt : n < UInt32.size := Nat.lt_of_le_of_lt hn P.regBlockCount_lt
  rw [UInt32.toNat_div, hreg, UInt32.toNat_ofNat_of_lt' hlt]
  rfl

theorem length_response {regs : Bytes} {n : Nat} (hlen : regs.length = n) (body : β) :
    (P.response body regs).length = P.respSize + n := by
  simp only [response, respSize, List.length_append, Packed.length_encode_eq, hlen]
  omega

/-- A response with no more registers than the block has fits the response object. -/
theorem length_response_le (hreg : P.ideReg.size = 4) {regs : Bytes} {r : Nat}
    (hlen : regs.length = r * 4) (hr : r ≤ P.regBlockCount) (body : β) (portIndex : UInt8)
    (link : σ) : (P.response body regs).length ≤ (P.call portIndex link).capacity := by
  rw [length_response hlen, call, hreg]
  exact Nat.add_le_add_left (Nat.mul_le_mul_right 4 hr) _

/-- What a query makes of a well-formed response with `r` registers. -/
theorem query_of_response (hreg : P.ideReg.size = 4) {sendReceive : SendReceive σ}
    {link link' : σ} {portIndex : UInt8} {body : β} {regs : Bytes} {r : Nat}
    (hcall : sendReceive.call (P.call portIndex link) = (⟨.success, P.response body regs⟩, link'))
    (hport : P.portIndex body = portIndex) (hlen : regs.length = r * 4)
    (hr : r ≤ P.regBlockCount) (buffer : Mem) (count : UInt32) :
    P.query sendReceive link portIndex buffer count =
      if count.toNat < r then ⟨.bufferTooSmall, none, buffer, UInt32.ofNat r, link'⟩
      else ⟨.success, some body, buffer.store 0 regs, UInt32.ofNat r, link'⟩ := by
  have hrest := P.length_response hlen body
  have hnat : (UInt32.ofNat r).toNat = r := by
    have hlt := P.regBlockCount_lt
    exact UInt32.toNat_ofNat_of_lt' (by omega)
  have hcount : UInt32.ofNat (r * 4) / UInt32.ofNat 4 = UInt32.ofNat r := by
    have hdiv := toNat_ideRegCount hreg (Nat.mul_le_mul_right 4 hr)
    rw [hreg] at hdiv
    apply UInt32.toNat_inj.1
    rw [hdiv, hnat, Nat.mul_div_cancel r (by decide)]
  have hdrop : (P.response body regs).drop P.respSize = regs := by
    rw [respSize, ← List.drop_drop, response, Packed.drop_encode_append,
      Packed.drop_encode_append]
  have hbody : P.queryResp.decode ((P.response body regs).drop P.header.size) = body := by
    rw [response, Packed.drop_encode_append, Packed.decode_encode_append]
  have hhead : P.header.decode (P.response body regs) = P.responseObjectId := by
    rw [response, Packed.decode_encode_append]
  simp only [query, hcall, hrest, Nat.add_sub_cancel_left, hcount, hbody, hhead, hport,
    hdrop, hnat, hreg, LibspdmReturn.isError, UInt32.lt_iff_toNat_lt]
  -- the checks of the response pass, only the room for the registers is left
  by_cases hroom : count.toNat < r
  · simp [hroom]
  · have hfits : regs.length ≤ count.toNat * 4 := by omega
    simp [hroom, copyMem_of_le buffer 0 hfits]

/-- What a success says about any response that fits the response object. -/
theorem query_success (hreg : P.ideReg.size = 4) {sendReceive : SendReceive σ} {link : σ}
    {portIndex : UInt8} {buffer : Mem} {count : UInt32}
    (hfits : (sendReceive.call (P.call portIndex link)).1.response.length ≤
      P.respSize + P.regBlockCount * P.ideReg.size)
    (hsuccess : (P.query sendReceive link portIndex buffer count).status = .success) :
    ∃ k ≤ count.toNat,
      (sendReceive.call (P.call portIndex link)).1.response.length = P.respSize + 4 * k ∧
      (P.query sendReceive link portIndex buffer count).ideRegBufferCount.toNat = k ∧
      (P.query sendReceive link portIndex buffer count).ideRegBuffer = buffer.store 0
        ((sendReceive.call (P.call portIndex link)).1.response.drop P.respSize) := by
  generalize hx : sendReceive.call (P.call portIndex link) = x at hfits ⊢
  obtain ⟨⟨status, response⟩, link'⟩ := x
  simp only [query, hx] at hsuccess ⊢
  simp only [hreg] at hfits
  -- every check that fails returns an error status
  split_ifs at hsuccess ⊢ with herror hshort hsize hobject hport hroom
  · simp only at hsuccess
    rw [hsuccess] at herror
    cases herror
  · have hcount := toNat_ideRegCount hreg (n := response.length - P.respSize) (by omega)
    refine ⟨_, Nat.le_of_not_lt fun h => hroom (UInt32.lt_iff_toNat_lt.2 h), ?_, rfl, ?_⟩
    · simp only [hreg] at hsize hcount ⊢
      omega
    · refine copyMem_of_le buffer 0 ?_
      have hle := Nat.le_of_not_lt fun h => hroom (UInt32.lt_iff_toNat_lt.2 h)
      simp only [hreg, List.length_drop] at hsize hcount hle ⊢
      omega

end Count

end QueryProtocol

/-! ## The PCI requester -/

/-- The request of `pci_ide_km_query`. -/
def queryMessage (K : PciIdeKm) (portIndex : UInt8) : Bytes :=
  K.header.encode (K.requestObjectId .query) ++ K.queryRequest.encode portIndex

/-- `sizeof(pci_ide_km_query_resp_t)` -/
def queryRespSize (K : PciIdeKm) : Nat := K.header.size + K.queryResp.size

/-- `sizeof(pci_ide_km_query_resp_mine_t)`, the size of the local response object. -/
def queryRespMineSize (K : PciIdeKm) : Nat :=
  queryRespSize K + ideRegBlockSupportedCount * K.ideReg.size

/-- The one exchange of `pci_ide_km_query`. -/
def queryCall (K : PciIdeKm) (portIndex : UInt8) (link : σ) : Call σ :=
  ⟨link, queryMessage K portIndex, queryRespMineSize K⟩

/-- The messages of `pci_ide_km_query`. -/
def queryProtocol (K : PciIdeKm) : QueryProtocol QueryRespBody where
  request := queryMessage K
  header := K.header
  responseObjectId := K.responseObjectId .queryResp
  queryResp := K.queryResp
  portIndex := QueryRespBody.portIndex
  ideReg := K.ideReg
  regBlockCount := ideRegBlockSupportedCount
  regBlockCount_lt := by decide

/-- `pci_ide_km_query` -/
def pciIdeKmQuery (K : PciIdeKm) (sendReceive : SendReceive σ) (link : σ) (portIndex : UInt8)
    (ideRegBuffer : Mem) (ideRegBufferCount : UInt32) : QueryResult QueryRespBody σ :=
  (queryProtocol K).query sendReceive link portIndex ideRegBuffer ideRegBufferCount

end SpdmEmu.IdeKm
