import SpdmEmu.Libspdm.Status

/-!
# Report transfer in portions

TDISP interface reports and TSP configuration reports cross the link in portions, and the two
requesters and the two responders that do this are the same code up to message formats. This module
has that code once. `servePortion` is what a responder cuts out of its report for a requested offset
and length. `ReportProtocol` is what a requester's loop depends on, `transferStep` one round of the
loop and `getReport` the loop; the loop of the source has no bound of its own, so it runs on fuel
and returns `none` when the fuel is spent.

`getReport_of_serves`: against a link that serves a report, enough fuel gives the whole report in a
buffer that holds it, and its size together with `BUFFER_TOO_SMALL` in a smaller one.
-/

set_option autoImplicit false

namespace SpdmEmu.Report

open SpdmEmu.Wire SpdmEmu.Libspdm

/-- The body of a report request. -/
structure ReportRange where
  offset : UInt16
  length : UInt16
deriving DecidableEq, Repr

/-- The fixed body of a report response; the portion follows. -/
structure ReportLengths where
  portionLength : UInt16
  remainderLength : UInt16
deriving DecidableEq, Repr

/-! ## The responder's portion -/

/-- `if (length > limit) length = limit;` -/
def clamp (length limit : UInt16) : UInt16 :=
  if length > limit then limit else length

theorem toNat_clamp (length limit : UInt16) :
    (clamp length limit).toNat = min length.toNat limit.toNat := by
  unfold clamp
  by_cases h : length > limit
  · have := UInt16.lt_iff_toNat_lt.1 h
    rw [if_pos h]
    omega
  · have : ¬ limit.toNat < length.toNat := fun h' => h (UInt16.lt_iff_toNat_lt.2 h')
    rw [if_neg h]
    omega

/-- The portion a report handler serves: `length` is clamped to the portion limit and to the bytes
left, and nothing is served for a zero length or an offset at or past the end. The result is the
portion length, the remainder length and the portion. -/
def servePortion (limit : UInt16) (report : Bytes) (size offset length : UInt16) :
    Option (UInt16 × UInt16 × Bytes) :=
  let length := clamp length limit
  if length = 0 then none
  else if offset ≥ size then none
  else
    -- what is left behind the offset cuts the length a second time
    let length := clamp length (size - offset)
    some (length, size - (length + offset), (report.drop offset.toNat).take length.toNat)

/-- A request inside the report is served with as many bytes as it asks for, as the limit allows and
as are left. -/
theorem servePortion_eq_some {limit size offset length : UInt16} (report : Bytes)
    (hlimit : 0 < limit.toNat) (hlength : 0 < length.toNat) (hoffset : offset.toNat < size.toNat) :
    ∃ portion remainder : UInt16,
      servePortion limit report size offset length =
        some (portion, remainder, (report.drop offset.toNat).take portion.toNat) ∧
      portion.toNat = min (min length.toNat limit.toNat) (size.toNat - offset.toNat) ∧
      remainder.toNat = size.toNat - offset.toNat - portion.toNat := by
  have hl := toNat_clamp length limit
  have hp := toNat_clamp (clamp length limit) (size - offset)
  rw [hl, UInt16.toNat_sub_of_le _ _ (UInt16.le_iff_toNat_le.2 hoffset.le)] at hp
  have hl0 : clamp length limit ≠ 0 := by
    intro h
    rw [h] at hl
    have : (0 : UInt16).toNat = 0 := rfl
    omega
  have hge : ¬ offset ≥ size := by
    intro h
    have := UInt16.le_iff_toNat_le.1 h
    omega
  generalize hpd : clamp (clamp length limit) (size - offset) = p at hp
  -- the sum does not wrap: it stays inside the report, whose size has 16 bits
  have hsum : (p + offset).toNat = p.toNat + offset.toNat := by
    have := size.toNat_lt
    rw [UInt16.toNat_add, Nat.mod_eq_of_lt (by omega)]
  refine ⟨p, size - (p + offset), ?_, hp, ?_⟩
  · simp only [servePortion, if_neg hl0, if_neg hge, hpd]
  · rw [UInt16.toNat_sub_of_le _ _ (UInt16.le_iff_toNat_le.2 (by omega)), hsum]
    omega

/-- What is served is inside the portion limit and inside the report. -/
theorem length_of_servePortion {limit size offset length portion remainder : UInt16}
    {report bytes : Bytes} (hsize : size.toNat ≤ report.length)
    (h : servePortion limit report size offset length = some (portion, remainder, bytes)) :
    portion.toNat ≤ limit.toNat ∧ bytes.length = portion.toNat := by
  unfold servePortion at h
  by_cases hl0 : clamp length limit = 0
  · simp [hl0] at h
  by_cases hge : offset ≥ size
  · simp [hge] at h
  simp only [if_neg hl0, if_neg hge, Option.some.injEq, Prod.mk.injEq] at h
  obtain ⟨rfl, -, rfl⟩ := h
  have hlt : ¬ size.toNat ≤ offset.toNat := fun h => hge (UInt16.le_iff_toNat_le.2 h)
  have hl := toNat_clamp length limit
  have hp := toNat_clamp (clamp length limit) (size - offset)
  rw [UInt16.toNat_sub_of_le _ _ (UInt16.le_iff_toNat_le.2 (by omega))] at hp
  refine ⟨by omega, ?_⟩
  rw [List.length_take, List.length_drop]
  omega

/-- Only the first `size` bytes of the report buffer are served. -/
theorem servePortion_take (limit : UInt16) (report : Bytes) (size offset length : UInt16) :
    servePortion limit (report.take size.toNat) size offset length =
      servePortion limit report size offset length := by
  unfold servePortion
  by_cases hge : offset ≥ size
  · simp only [if_pos hge]
  · have hlt : ¬ size.toNat ≤ offset.toNat := fun h => hge (UInt16.le_iff_toNat_le.2 h)
    have hp := toNat_clamp (clamp length limit) (size - offset)
    rw [UInt16.toNat_sub_of_le _ _ (UInt16.le_iff_toNat_le.2 (by omega))] at hp
    simp only [if_neg hge, List.drop_take, List.take_take]
    rw [Nat.min_eq_left (by omega)]

/-! ## The requester's loop -/

/-- What the loop of a report requester depends on. -/
structure ReportProtocol where
  /-- the portion the requester asks for -/
  portionLen : UInt16
  /-- the request for an offset and a length -/
  request : UInt16 → UInt16 → Bytes
  /-- `sizeof(response)` of the local response object -/
  responseSize : Nat
  /-- the size of the response without the portion -/
  fixedSize : Nat
  /-- `portion_length` and `remainder_length` of a response -/
  lengths : Bytes → UInt16 × UInt16
  /-- the checks of the response header -/
  accepted : Bytes → Bool

/-- The variables of the loop. -/
structure Transfer (σ : Type) where
  link : σ
  buffer : Mem
  offset : UInt16
  remainderLength : UInt16
  totalReportLength : UInt32

/-- What the requester returns: the status, the new `*report_size`, and the caller's buffer. -/
structure Result (σ : Type) where
  status : LibspdmReturn
  reportSize : UInt32
  buffer : Mem
  link : σ

variable {σ : Type}

/-- The length of the next request. -/
def ReportProtocol.requestLength (P : ReportProtocol) (offset remainderLength : UInt16) : UInt16 :=
  if offset ≠ 0 then
    if remainderLength ≤ P.portionLen then remainderLength else P.portionLen
  else P.portionLen

/-- The exchange of a round. -/
def ReportProtocol.call (P : ReportProtocol) (t : Transfer σ) : Call σ :=
  ⟨t.link, P.request t.offset (P.requestLength t.offset t.remainderLength), P.responseSize⟩

/-- The end of a round whose response passed the checks: the portion goes to its place in the
caller's buffer of `reportSize` bytes. -/
def Transfer.accept (t : Transfer σ) (reportSize : UInt32) (link : σ) (total : UInt32)
    (portion remainder : UInt16) (bytes : Bytes) : Transfer σ where
  link := link
  buffer := copyMem t.buffer t.offset.toNat (reportSize - t.offset.toUInt32).toNat bytes
  offset := t.offset + portion
  remainderLength := remainder
  totalReportLength := total

/-- One round of the loop: an early return, or the variables for the next round. -/
def transferStep (P : ReportProtocol) (sendReceive : SendReceive σ) (reportSize : UInt32)
    (t : Transfer σ) : Result σ ⊕ Transfer σ :=
  let length := P.requestLength t.offset t.remainderLength
  let (exchange, link) := sendReceive.call (P.call t)
  let response := exchange.response
  let (portion, remainder) := P.lengths response
  if exchange.status.isError then .inl ⟨exchange.status, reportSize, t.buffer, link⟩
  else if response.length < P.fixedSize then .inl ⟨.invalidMsgSize, reportSize, t.buffer, link⟩
  else if portion > length then .inl ⟨.invalidMsgSize, reportSize, t.buffer, link⟩
  else if response.length ≠ P.fixedSize + portion.toNat then
    .inl ⟨.invalidMsgSize, reportSize, t.buffer, link⟩
  else if !P.accepted response then .inl ⟨.invalidMsgField, reportSize, t.buffer, link⟩
  else
    let bytes := response.drop P.fixedSize
    -- the first response fixes the total, the later ones have to agree with it
    if t.offset = 0 then
      let total := portion.toUInt32 + remainder.toUInt32
      if total > reportSize then .inl ⟨.bufferTooSmall, total, t.buffer, link⟩
      else .inr (t.accept reportSize link total portion remainder bytes)
    else if t.totalReportLength ≠ t.offset.toUInt32 + portion.toUInt32 + remainder.toUInt32 then
      .inl ⟨.invalidMsgField, reportSize, t.buffer, link⟩
    else .inr (t.accept reportSize link t.totalReportLength portion remainder bytes)

/-- The `do ... while (remainder_length != 0)` loop. -/
def transferLoop (P : ReportProtocol) (sendReceive : SendReceive σ) (reportSize : UInt32) :
    Nat → Transfer σ → Option (Result σ)
  | 0, _ => none
  | fuel + 1, t =>
      match transferStep P sendReceive reportSize t with
      | .inl result => some result
      | .inr t =>
          if t.remainderLength ≠ 0 then transferLoop P sendReceive reportSize fuel t
          else some ⟨.success, t.totalReportLength, t.buffer, t.link⟩

/-- The exchanges of the first `fuel` rounds of the loop. -/
def transferCalls (P : ReportProtocol) (sendReceive : SendReceive σ) (reportSize : UInt32) :
    Nat → Transfer σ → List (Call σ)
  | 0, _ => []
  | fuel + 1, t =>
      P.call t ::
        match transferStep P sendReceive reportSize t with
        | .inl _ => []
        | .inr t =>
            if t.remainderLength ≠ 0 then transferCalls P sendReceive reportSize fuel t else []

/-- A report requester with a buffer of `reportSize` bytes. -/
def getReport (P : ReportProtocol) (sendReceive : SendReceive σ) (fuel : Nat) (link : σ)
    (buffer : Mem) (reportSize : UInt32) : Option (Result σ) :=
  transferLoop P sendReceive reportSize fuel ⟨link, buffer, 0, 0, 0⟩

/-! ## The exchanges of the loop -/

/-- The loop's variables over a link that records its exchanges. -/
def Transfer.withCalls (t : Transfer σ) (calls : List (Call σ)) : Transfer (σ × List (Call σ)) :=
  ⟨(t.link, calls), t.buffer, t.offset, t.remainderLength, t.totalReportLength⟩

/-- A result over a link that records its exchanges. -/
def Result.withCalls (r : Result σ) (calls : List (Call σ)) : Result (σ × List (Call σ)) :=
  ⟨r.status, r.reportSize, r.buffer, (r.link, calls)⟩

/-- A round records its exchange and is otherwise the round over the plain link. -/
theorem transferStep_recorded (P : ReportProtocol) (sendReceive : SendReceive σ)
    (reportSize : UInt32) (t : Transfer σ) (calls : List (Call σ)) :
    transferStep P sendReceive.recorded reportSize (t.withCalls calls) =
      (transferStep P sendReceive reportSize t).map (·.withCalls (calls ++ [P.call t]))
        (·.withCalls (calls ++ [P.call t])) := by
  rcases hsend : sendReceive t.link
    (P.request t.offset (P.requestLength t.offset t.remainderLength)) P.responseSize with
    ⟨exchange, link⟩
  -- the two rounds make the same tests in the same order
  simp only [transferStep, Transfer.withCalls, Result.withCalls, Transfer.accept,
    ReportProtocol.call, SendReceive.call, SendReceive.recorded, hsend, apply_ite (Sum.map _ _),
    Sum.map_inl, Sum.map_inr]

/-- The exchanges a finished run has made are those of its rounds. -/
theorem calls_transferLoop {P : ReportProtocol} {sendReceive : SendReceive σ} {reportSize : UInt32}
    {fuel : Nat} {t : Transfer σ} {calls : List (Call σ)} {r : Result (σ × List (Call σ))}
    (h : transferLoop P sendReceive.recorded reportSize fuel (t.withCalls calls) = some r) :
    r.link.2 = calls ++ transferCalls P sendReceive reportSize fuel t := by
  induction fuel generalizing t calls with
  | zero => cases h
  | succ fuel ih =>
      simp only [transferLoop, transferStep_recorded] at h
      rw [transferCalls]
      cases hstep : transferStep P sendReceive reportSize t with
      | inl result =>
          rw [hstep] at h
          cases h
          rfl
      | inr t' =>
          have hremainder : ∀ calls', (t'.withCalls calls').remainderLength = t'.remainderLength :=
            fun _ => rfl
          rw [hstep] at h
          simp only [Sum.map_inr, hremainder] at h ⊢
          by_cases hmore : t'.remainderLength ≠ 0
          · rw [if_pos hmore] at h ⊢
            rw [ih h, List.append_assoc]
            rfl
          · rw [if_neg hmore] at h ⊢
            cases h
            rfl

/-! ## Against a link that serves a report -/

/-- On the states of `Live`, the link answers each request for a portion of `R` with the portion
that `servePortion` cuts out, in a response the requester's checks accept. -/
structure Serves (P : ReportProtocol) (sendReceive : SendReceive σ) (R : Bytes) (Live : σ → Prop) :
    Prop where
  answer : ∀ s, Live s → ∀ offset length portion remainder : UInt16, ∀ bytes : Bytes,
    servePortion P.portionLen R (UInt16.ofNat R.length) offset length =
      some (portion, remainder, bytes) →
    ∃ response s', sendReceive s (P.request offset length) P.responseSize =
        (⟨.success, response⟩, s') ∧ Live s' ∧
      P.lengths response = (portion, remainder) ∧ P.accepted response = true ∧
      response.length = P.fixedSize + portion.toNat ∧ response.drop P.fixedSize = bytes

section Lossless

variable {P : ReportProtocol} {sendReceive : SendReceive σ} {R : Bytes} {Live : σ → Prop}

theorem toNat_ofNat_of_lt_u16 {n : Nat} (h : n < 2 ^ 16) : (UInt32.ofNat n).toNat = n := by
  rw [UInt32.toNat_ofNat']
  omega

/-- The loop invariant: the bytes before the offset are in the buffer, and after the first round the
requester's bookkeeping agrees with the report. -/
structure Progress (R : Bytes) (m : Mem) (t : Transfer σ) : Prop where
  offset_lt : t.offset.toNat < R.length
  buffer_eq : t.buffer = m.store 0 (R.take t.offset.toNat)
  total_eq : t.offset ≠ 0 → t.totalReportLength.toNat = R.length
  remainder_eq : t.offset ≠ 0 → t.remainderLength.toNat = R.length - t.offset.toNat

/-- What one round does: it fetches the next `min portionLen (|R| - offset)` bytes. -/
theorem transferStep_of_serves (hP : 0 < P.portionLen.toNat) (hR : R.length < 2 ^ 16)
    (hserves : Serves P sendReceive R Live) (reportSize : UInt32) {m : Mem} {t : Transfer σ}
    (hlive : Live t.link) (ht : Progress R m t) :
    ∃ (link : σ) (portion remainder : UInt16), Live link ∧
      portion.toNat = min P.portionLen.toNat (R.length - t.offset.toNat) ∧
      remainder.toNat = R.length - t.offset.toNat - portion.toNat ∧
      transferStep P sendReceive reportSize t =
        if t.offset = 0 ∧ reportSize.toNat < R.length then
          .inl ⟨.bufferTooSmall, UInt32.ofNat R.length, t.buffer, link⟩
        else .inr (t.accept reportSize link (UInt32.ofNat R.length) portion remainder
          ((R.drop t.offset.toNat).take portion.toNat)) := by
  have hsize : (UInt16.ofNat R.length).toNat = R.length := UInt16.toNat_ofNat_of_lt' hR
  have hR32 : (UInt32.ofNat R.length).toNat = R.length := toNat_ofNat_of_lt_u16 hR
  have hlt := ht.offset_lt
  -- the length asked for is the portion limit or what is left, whichever is smaller
  obtain ⟨length, hlen, hpos, hmin⟩ : ∃ length,
      P.requestLength t.offset t.remainderLength = length ∧ 0 < length.toNat ∧
        min (min length.toNat P.portionLen.toNat) (R.length - t.offset.toNat) =
          min P.portionLen.toNat (R.length - t.offset.toNat) := by
    by_cases h0 : t.offset = 0
    · exact ⟨P.portionLen, if_neg (not_not_intro h0), hP, by omega⟩
    · have hrem := ht.remainder_eq h0
      by_cases hc : t.remainderLength ≤ P.portionLen
      · have := UInt16.le_iff_toNat_le.1 hc
        exact ⟨t.remainderLength, by simp [ReportProtocol.requestLength, h0, hc], by omega,
          by omega⟩
      · exact ⟨P.portionLen, by simp [ReportProtocol.requestLength, h0, hc], hP, by omega⟩
  have hinside : t.offset.toNat < (UInt16.ofNat R.length).toNat := by omega
  obtain ⟨portion, remainder, hserve, hportion, hremainder⟩ :=
    servePortion_eq_some R hP hpos hinside
  obtain ⟨response, link, hsend, hlive', hlengths, haccepted, hresp, hdrop⟩ :=
    hserves.answer t.link hlive t.offset length portion remainder _ hserve
  rw [hsize, hmin] at hportion
  rw [hsize] at hremainder
  refine ⟨link, portion, remainder, hlive', hportion, hremainder, ?_⟩
  -- the response passes every check of the round
  have hnlen : ¬ response.length < P.fixedSize := by omega
  have hnport : ¬ portion > length := by
    intro h
    have := UInt16.lt_iff_toNat_lt.1 h
    omega
  have hneq : ¬ response.length ≠ P.fixedSize + portion.toNat := not_not_intro hresp
  have htotal : portion.toUInt32 + remainder.toUInt32 =
      UInt32.ofNat (R.length - t.offset.toNat) := by
    apply UInt32.toNat_inj.1
    rw [UInt32.toNat_ofNat', UInt32.toNat_add, UInt16.toNat_toUInt32, UInt16.toNat_toUInt32]
    omega
  simp only [transferStep, SendReceive.call, ReportProtocol.call, hlen, hsend, hlengths,
    LibspdmReturn.isError, Bool.false_eq_true, if_false, if_neg hnlen, if_neg hnport, if_neg hneq,
    haccepted, Bool.not_true, hdrop]
  -- the first round compares the total with the buffer, a later one with the first
  by_cases h0 : t.offset = 0
  · have h0n : t.offset.toNat = 0 := by rw [h0]; rfl
    rw [h0n, Nat.sub_zero] at htotal
    by_cases hcap : reportSize.toNat < R.length
    · have hgt : UInt32.ofNat R.length > reportSize := UInt32.lt_iff_toNat_lt.2 (by omega)
      simp only [htotal, if_pos hgt, h0, hcap, and_self, if_true]
    · have hgt : ¬ UInt32.ofNat R.length > reportSize := by
        intro h
        have := UInt32.lt_iff_toNat_lt.1 h
        omega
      simp only [if_pos h0, htotal, if_neg hgt, hcap, and_false, if_false]
  · have htr : t.totalReportLength = UInt32.ofNat R.length := by
      apply UInt32.toNat_inj.1
      rw [ht.total_eq h0, hR32]
    have hsum : t.offset.toUInt32 + portion.toUInt32 + remainder.toUInt32 =
        UInt32.ofNat R.length := by
      apply UInt32.toNat_inj.1
      rw [hR32, UInt32.toNat_add, UInt32.toNat_add, UInt16.toNat_toUInt32, UInt16.toNat_toUInt32,
        UInt16.toNat_toUInt32]
      omega
    simp only [htr, hsum, ne_eq, not_true_eq_false, if_false, h0, false_and]

/-- The state after a round that fetched a portion: the buffer holds the report up to the new
offset. -/
theorem progress_accept (hR : R.length < 2 ^ 16) {reportSize : UInt32} {m : Mem} {t : Transfer σ}
    (ht : Progress R m t) (hcap : R.length ≤ reportSize.toNat) (link : σ)
    {portion remainder : UInt16} (hle : portion.toNat ≤ R.length - t.offset.toNat)
    (hrem : remainder.toNat = R.length - t.offset.toNat - portion.toNat) :
    (t.accept reportSize link (UInt32.ofNat R.length) portion remainder
        ((R.drop t.offset.toNat).take portion.toNat)).offset.toNat =
          t.offset.toNat + portion.toNat ∧
      (t.accept reportSize link (UInt32.ofNat R.length) portion remainder
        ((R.drop t.offset.toNat).take portion.toNat)).buffer =
          m.store 0 (R.take (t.offset.toNat + portion.toNat)) := by
  have hlt := ht.offset_lt
  constructor
  · show (t.offset + portion).toNat = _
    rw [UInt16.toNat_add, Nat.mod_eq_of_lt (by omega)]
  · show copyMem t.buffer t.offset.toNat (reportSize - t.offset.toUInt32).toNat
      ((R.drop t.offset.toNat).take portion.toNat) = _
    have hoff : t.offset.toUInt32 ≤ reportSize := UInt32.le_iff_toNat_le.2 (by
      rw [UInt16.toNat_toUInt32]; omega)
    -- the portion fits behind the offset, so the copy is a write next to the last one
    rw [copyMem_of_le, ht.buffer_eq]
    · have hl : (R.take t.offset.toNat).length = t.offset.toNat := by
        rw [List.length_take]; omega
      have happ := Mem.store_append m 0 (R.take t.offset.toNat)
        ((R.drop t.offset.toNat).take portion.toNat)
      rw [hl, Nat.zero_add] at happ
      rw [happ, ← List.take_add]
    · rw [UInt32.toNat_sub_of_le _ _ hoff, UInt16.toNat_toUInt32, List.length_take]
      omega

/-- From any round on, enough fuel brings the rest of the report. The induction is on the fuel; the
bytes still missing bound the rounds. -/
theorem transferLoop_of_serves (hP : 0 < P.portionLen.toNat) (hR : R.length < 2 ^ 16)
    (hserves : Serves P sendReceive R Live) {reportSize : UInt32}
    (hcap : R.length ≤ reportSize.toNat) {m : Mem} :
    ∀ (fuel : Nat) (t : Transfer σ), Live t.link → Progress R m t →
      R.length - t.offset.toNat < fuel →
      ∃ link, Live link ∧ transferLoop P sendReceive reportSize fuel t =
        some ⟨.success, UInt32.ofNat R.length, m.store 0 R, link⟩ := by
  intro fuel
  induction fuel with
  | zero => intro t _ _ h; omega
  | succ fuel ih =>
      intro t hlive ht hfuel
      have hlt := ht.offset_lt
      obtain ⟨link, portion, remainder, hlive', hportion, hremainder, hstep⟩ :=
        transferStep_of_serves hP hR hserves reportSize hlive ht
      have hroom : ¬ (t.offset = 0 ∧ reportSize.toNat < R.length) := by omega
      rw [if_neg hroom] at hstep
      have hle : portion.toNat ≤ R.length - t.offset.toNat := by omega
      obtain ⟨hoff, hbuf⟩ := progress_accept hR ht hcap link hle hremainder
      -- of the accepted round only the fields of the new state matter from here on
      generalize hacc : t.accept reportSize link (UInt32.ofNat R.length) portion remainder
        ((R.drop t.offset.toNat).take portion.toNat) = t' at hstep hoff hbuf
      have htot : t'.totalReportLength = UInt32.ofNat R.length := by rw [← hacc]; rfl
      have hrem : t'.remainderLength = remainder := by rw [← hacc]; rfl
      have hlink : t'.link = link := by rw [← hacc]; rfl
      simp only [transferLoop, hstep]
      -- no remainder ends the loop; else the invariant holds one portion further on
      by_cases hzero : remainder = 0
      · have hr0 : remainder.toNat = 0 := by rw [hzero]; rfl
        have hend : t.offset.toNat + portion.toNat = R.length := by omega
        refine ⟨link, hlive', ?_⟩
        rw [hend, List.take_length] at hbuf
        rw [hrem, hzero, htot, hbuf, hlink]
        simp
      · have hr0 : remainder.toNat ≠ 0 := fun h => hzero (UInt16.toNat_inj.1 (by rw [h]; rfl))
        have hnext : Progress R m t' :=
          { offset_lt := by omega
            buffer_eq := by rw [hbuf, hoff]
            total_eq := fun _ => by rw [htot]; exact toNat_ofNat_of_lt_u16 hR
            remainder_eq := fun _ => by rw [hrem, hremainder, hoff]; omega }
        have hrz : t'.remainderLength ≠ 0 := by rw [hrem]; exact hzero
        rw [if_pos hrz]
        exact ih t' (by rw [hlink]; exact hlive') hnext (by omega)

/-- What a caller with a buffer `m` of `capacity` bytes is to get for the report `R`: the report in
the first bytes of the buffer and nothing changed behind it, or, in a buffer that does not hold it,
its size and nothing changed at all. -/
def Delivered (R : Bytes) (m : Mem) (capacity : UInt32) (result : Result σ) : Prop :=
  if R.length ≤ capacity.toNat then
    result.status = .success ∧ result.reportSize.toNat = R.length ∧
      result.buffer.load 0 R.length = R ∧ ∀ i, R.length ≤ i → result.buffer i = m i
  else
    result.status = .bufferTooSmall ∧ result.reportSize.toNat = R.length ∧ result.buffer = m

/-- **Reports are transferred without loss.** Against a link that serves the non-empty report `R`
the requester ends and delivers `R`. -/
theorem getReport_of_serves (hP : 0 < P.portionLen.toNat) (hR0 : 0 < R.length)
    (hR : R.length < 2 ^ 16) (hserves : Serves P sendReceive R Live) {s : σ} (hs : Live s)
    (m : Mem) (capacity : UInt32) {fuel : Nat} (hfuel : R.length < fuel) :
    ∃ result, getReport P sendReceive fuel s m capacity = some result ∧
      Delivered R m capacity result := by
  have hR32 : (UInt32.ofNat R.length).toNat = R.length := toNat_ofNat_of_lt_u16 hR
  have hstart : Progress R m (⟨s, m, 0, 0, 0⟩ : Transfer σ) :=
    { offset_lt := hR0
      buffer_eq := by simp
      total_eq := fun h => absurd rfl h
      remainder_eq := fun h => absurd rfl h }
  by_cases hcap : R.length ≤ capacity.toNat
  · obtain ⟨link, -, hrun⟩ :=
      transferLoop_of_serves hP hR hserves hcap fuel ⟨s, m, 0, 0, 0⟩ hs hstart
        (Nat.lt_of_le_of_lt (Nat.sub_le _ _) hfuel)
    refine ⟨_, hrun, ?_⟩
    rw [Delivered, if_pos hcap]
    refine ⟨rfl, hR32, Mem.load_store m 0 R, fun i hi => ?_⟩
    have hend : 0 + R.length ≤ i := by omega
    exact Mem.store_of_ge m R hend
  -- the first round already sees that the buffer is too small
  · obtain ⟨link, portion, remainder, -, -, -, hstep⟩ :=
      transferStep_of_serves hP hR hserves capacity hs hstart
    have hfull : (⟨s, m, 0, 0, 0⟩ : Transfer σ).offset = 0 ∧ capacity.toNat < R.length :=
      ⟨rfl, by omega⟩
    rw [if_pos hfull] at hstep
    obtain ⟨fuel, rfl⟩ : ∃ n, fuel = n + 1 := ⟨fuel - 1, by omega⟩
    refine ⟨⟨.bufferTooSmall, UInt32.ofNat R.length, m, link⟩, ?_, ?_⟩
    · simp only [getReport, transferLoop, hstep]
    · rw [Delivered, if_neg hcap]
      exact ⟨rfl, hR32, rfl⟩

/-- With room for the report the link is live afterwards, and the buffer has the report in front. -/
theorem getReport_of_serves_live (hP : 0 < P.portionLen.toNat) (hR0 : 0 < R.length)
    (hR : R.length < 2 ^ 16) (hserves : Serves P sendReceive R Live) {s : σ} (hs : Live s)
    (m : Mem) {capacity : UInt32} (hcap : R.length ≤ capacity.toNat) {fuel : Nat}
    (hfuel : R.length < fuel) :
    ∃ link, Live link ∧ getReport P sendReceive fuel s m capacity =
      some ⟨.success, UInt32.ofNat R.length, m.store 0 R, link⟩ := by
  have hstart : Progress R m (⟨s, m, 0, 0, 0⟩ : Transfer σ) :=
    { offset_lt := hR0
      buffer_eq := by simp
      total_eq := fun h => absurd rfl h
      remainder_eq := fun h => absurd rfl h }
  exact transferLoop_of_serves hP hR hserves hcap fuel _ hs hstart
    (Nat.lt_of_le_of_lt (Nat.sub_le _ _) hfuel)

end Lossless

end SpdmEmu.Report
