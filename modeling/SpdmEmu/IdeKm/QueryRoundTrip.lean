import SpdmEmu.IdeKm.Requester

/-!
# The query of the IDE registers, end to end

The responder writes the registers of the device behind the fixed part of its response, and the
requester derives their number from the size of the response. The device library is any one:
whatever it answers, the requester gets these fields and registers if it has room for them,
and is told how much room it needs if it has not. Whatever it is sent, it copies what is there.
-/

set_option autoImplicit false

namespace SpdmEmu.IdeKm

open SpdmEmu.Wire SpdmEmu.Libspdm

variable {σ : Type}

/-! ## The exchange -/

/-- The request of the requester is the one the handler reads the port from. -/
theorem getResponseQueryOf_queryMessage (K : PciIdeKm) (device : σ → UInt8 → QueryAnswer × σ)
    (s : σ) (portIndex : UInt8) (hok : (device s portIndex).1.status.isError = false) :
    getResponseQueryOf K device s (queryMessage K portIndex) =
      (⟨.success, some (message K .queryResp
        (K.queryResp.encode ((device s portIndex).1.body portIndex) ++
          K.ideReg.encodeList (device s portIndex).1.ideRegs))⟩, (device s portIndex).2) := by
  have hlen : (queryMessage K portIndex).length = K.header.size + K.queryRequest.size := by
    simp [queryMessage]
  have hport : K.queryRequest.decode ((queryMessage K portIndex).drop K.header.size) =
      portIndex := by
    rw [queryMessage, Packed.drop_encode_append, Packed.decode_encode]
  simp [getResponseQueryOf, hlen, hport, hok]

/-- The exchange with a device library that answers. -/
theorem pciIdeKmQuery_directLink {K : PciIdeKm} (hreg : K.ideReg.size = 4)
    (device : σ → UInt8 → QueryAnswer × σ) (s : σ) (portIndex : UInt8)
    (hok : (device s portIndex).1.status.isError = false) (buffer : Mem) (count : UInt32) :
    pciIdeKmQuery K (directLink (getResponseQueryOf K device)) s portIndex buffer count =
      if count.toNat < (device s portIndex).1.ideRegs.length then
        ⟨.bufferTooSmall, none, buffer, UInt32.ofNat (device s portIndex).1.ideRegs.length,
          (device s portIndex).2⟩
      else
        ⟨.success, some ((device s portIndex).1.body portIndex),
          buffer.store 0 (K.ideReg.encodeList (device s portIndex).1.ideRegs),
          UInt32.ofNat (device s portIndex).1.ideRegs.length, (device s portIndex).2⟩ := by
  have hregs : (K.ideReg.encodeList (device s portIndex).1.ideRegs).length =
      (device s portIndex).1.ideRegs.length * 4 := by
    rw [Packed.length_encodeList, hreg]
  have hcount := (device s portIndex).1.count_le
  -- the response fits the response object since the registers are within the asserted bound
  have hcall : (directLink (getResponseQueryOf K device)).call
      ((queryProtocol K).call portIndex s) =
      (⟨.success, (queryProtocol K).response ((device s portIndex).1.body portIndex)
        (K.ideReg.encodeList (device s portIndex).1.ideRegs)⟩, (device s portIndex).2) :=
    directLink_of_written (getResponseQueryOf_queryMessage K device s portIndex hok)
      (QueryProtocol.length_response_le hreg hregs hcount _ portIndex s)
  exact QueryProtocol.query_of_response hreg hcall rfl hregs hcount buffer count

/-- **The query round trip.** For every answer of the device library, port and capacity the
requester returns the fields and exactly the registers of the device, or it reports how many there
are and writes nothing. Any response that fits the response object and is accepted has a whole
number of registers behind its fixed part, no more than the capacity, and these are copied. -/
theorem query_round_trip {K : PciIdeKm} (hreg : K.ideReg.size = 4) :
    (∀ (device : σ → UInt8 → QueryAnswer × σ) (s : σ) (portIndex : UInt8) (buffer : Mem)
        (count : UInt32), (device s portIndex).1.status.isError = false →
      let answer := (device s portIndex).1
      let result := pciIdeKmQuery K (directLink (getResponseQueryOf K device)) s portIndex buffer
        count
      result.ideRegBufferCount.toNat = answer.ideRegs.length ∧
      (answer.ideRegs.length ≤ count.toNat →
        result.status = .success ∧ result.port = some (answer.body portIndex) ∧
        result.ideRegBuffer = buffer.store 0 (K.ideReg.encodeList answer.ideRegs) ∧
        K.ideReg.decodeList answer.ideRegs.length
          (result.ideRegBuffer.load 0 (answer.ideRegs.length * 4)) = answer.ideRegs) ∧
      (count.toNat < answer.ideRegs.length →
        result.status = .bufferTooSmall ∧ result.port = none ∧ result.ideRegBuffer = buffer)) ∧
    ∀ (sendReceive : SendReceive σ) (link : σ) (portIndex : UInt8) (buffer : Mem)
        (count : UInt32),
      let response := (sendReceive.call (queryCall K portIndex link)).1.response
      let result := pciIdeKmQuery K sendReceive link portIndex buffer count
      response.length ≤ queryRespMineSize K → result.status = .success →
      ∃ k ≤ count.toNat, response.length = queryRespSize K + 4 * k ∧
        result.ideRegBufferCount.toNat = k ∧
        result.ideRegBuffer = buffer.store 0 (response.drop (queryRespSize K)) := by
  refine ⟨?_, ?_⟩
  · intro device s portIndex buffer count hok answer result
    have hresult := pciIdeKmQuery_directLink hreg device s portIndex hok buffer count
    have hnat : (UInt32.ofNat answer.ideRegs.length).toNat = answer.ideRegs.length :=
      UInt32.toNat_ofNat_of_lt' (Nat.lt_of_le_of_lt answer.count_le (by decide))
    refine ⟨?_, ?_, ?_⟩
    · simp only [result, hresult]
      split <;> exact hnat
    · intro hroom
      rw [if_neg (Nat.not_lt.2 hroom)] at hresult
      refine ⟨congrArg QueryResult.status hresult, congrArg QueryResult.port hresult,
        congrArg QueryResult.ideRegBuffer hresult, ?_⟩
      have hload := Mem.load_store buffer 0 (K.ideReg.encodeList answer.ideRegs)
      rw [Packed.length_encodeList, hreg] at hload
      have hround := K.ideReg.decodeList_encodeList answer.ideRegs []
      rw [List.append_nil] at hround
      simp only [result, hresult]
      exact (congrArg _ hload).trans hround
    · intro hroom
      rw [if_pos hroom] at hresult
      exact ⟨congrArg QueryResult.status hresult, congrArg QueryResult.port hresult,
        congrArg QueryResult.ideRegBuffer hresult⟩
  · intro sendReceive link portIndex buffer count response result hfits hsuccess
    exact QueryProtocol.query_success hreg hfits hsuccess

/-- A device with two registers. -/
def twoRegisterDevice (s : Unit) (_portIndex : UInt8) : QueryAnswer × Unit :=
  (⟨.success, 0x08, 0x01, 0x00, 0x02, [0x11223344, 0xFFFFFFFF], by decide⟩, s)

/-- Room for two registers is enough for that device, room for one is not. -/
theorem query_round_trip_twoRegisterDevice :
    PciIdeKm.sample.ideReg.size = 4 ∧
    (pciIdeKmQuery .sample (directLink (getResponseQueryOf .sample twoRegisterDevice)) () 2
      (fun _ => 0) 2).port = some ⟨2, 0x08, 0x01, 0x00, 0x02⟩ ∧
    (pciIdeKmQuery .sample (directLink (getResponseQueryOf .sample twoRegisterDevice)) () 2
      (fun _ => 0) 1).status = .bufferTooSmall :=
  ⟨rfl,
    (((query_round_trip rfl).1 twoRegisterDevice () 2 (fun _ => 0) 2 rfl).2.1 (by decide)).2.1,
    (((query_round_trip rfl).1 twoRegisterDevice () 2 (fun _ => 0) 1 rfl).2.2 (by decide)).1⟩

end SpdmEmu.IdeKm
