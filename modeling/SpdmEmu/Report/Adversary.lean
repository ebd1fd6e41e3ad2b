import SpdmEmu.Tdisp.Requester
import SpdmEmu.Tsp.Requester

/-!
# Report requesters against any responder

The loop of a report requester believes a responder in two numbers, the length of a portion and of
what remains, and keeps a 16-bit offset for a total that may need 17 bits. This module follows it
through replies of every kind.

What the requester has received since it last handled a reply at offset 0 is as long as its offset,
up to a multiple of 65536, and together with the remainder it makes up the announced total
(`Accounted`). A reply that is accepted behind a nonzero offset therefore finds the offset not
wrapped, so that every write is inside the caller's buffer and next to the last one, and a success
delivers exactly what was received (`report_requesters_safe`).

Nothing makes the loop advance: a portion may be empty, and an offset of exactly 65536 is offset 0
again. Without such replies the remainder falls with every round
(`report_requesters_terminate`); with them the loop need not end (`empty_portions_go_on`).
-/

set_option autoImplicit false

namespace SpdmEmu.Report

open SpdmEmu.Wire SpdmEmu.Libspdm

variable {σ : Type}

/-! ## Accepted replies -/

/-- A reply that passed the checks of its round, with the offset it was handled at. -/
structure Accepted where
  offset : UInt16
  portion : Bytes
  remainder : UInt16

/-- The bytes the requester gets in a round. -/
def ReportProtocol.reply (P : ReportProtocol) (sendReceive : SendReceive σ) (t : Transfer σ) :
    Bytes :=
  (sendReceive.call (P.call t)).1.response

/-- The reply of a round, if it is accepted. -/
def ReportProtocol.acceptedReply (P : ReportProtocol) (sendReceive : SendReceive σ)
    (t : Transfer σ) : Accepted where
  offset := t.offset
  portion := (P.reply sendReceive t).drop P.fixedSize
  remainder := (P.lengths (P.reply sendReceive t)).2

/-- The replies accepted in the first `fuel` rounds of the loop. -/
def acceptedReplies (P : ReportProtocol) (sendReceive : SendReceive σ) (reportSize : UInt32) :
    Nat → Transfer σ → List Accepted
  | 0, _ => []
  | fuel + 1, t =>
      match transferStep P sendReceive reportSize t with
      | .inl _ => []
      | .inr t' =>
          P.acceptedReply sendReceive t ::
            if t'.remainderLength ≠ 0 then acceptedReplies P sendReceive reportSize fuel t' else []

/-- What an accepted reply does to the variables of the loop. -/
structure Round (P : ReportProtocol) (reportSize : UInt32) (t : Transfer σ) (a : Accepted)
    (t' : Transfer σ) : Prop where
  length_le : a.portion.length ≤ (P.requestLength t.offset t.remainderLength).toNat
  offset_eq : t'.offset.toNat = (t.offset.toNat + a.portion.length) % 65536
  remainder_eq : t'.remainderLength = a.remainder
  first : t.offset = 0 →
    t'.totalReportLength.toNat = a.portion.length + a.remainder.toNat ∧
      t'.totalReportLength.toNat ≤ reportSize.toNat
  later : t.offset ≠ 0 →
    t'.totalReportLength = t.totalReportLength ∧
      t.totalReportLength.toNat = t.offset.toNat + a.portion.length + a.remainder.toNat
  buffer_eq : t'.buffer =
    copyMem t.buffer t.offset.toNat (reportSize - t.offset.toUInt32).toNat a.portion

section Rounds

variable {P : ReportProtocol} {sendReceive : SendReceive σ} {reportSize : UInt32} {t : Transfer σ}

/-- All that a round can do: return without success and leave the buffer, or accept the reply. -/
inductive RoundOutcome (P : ReportProtocol) (reportSize : UInt32) (t : Transfer σ) (a : Accepted) :
    Result σ ⊕ Transfer σ → Prop
  | returned {r : Result σ} (hstatus : r.status ≠ .success) (hbuffer : r.buffer = t.buffer) :
      RoundOutcome P reportSize t a (.inl r)
  | accepted {t' : Transfer σ} (hround : Round P reportSize t a t') :
      RoundOutcome P reportSize t a (.inr t')

theorem roundOutcome_transferStep (P : ReportProtocol) (sendReceive : SendReceive σ)
    (reportSize : UInt32) (t : Transfer σ) :
    RoundOutcome P reportSize t (P.acceptedReply sendReceive t)
      (transferStep P sendReceive reportSize t) := by
  rcases hcall : sendReceive.call (P.call t) with ⟨⟨status, response⟩, link⟩
  rcases hlengths : P.lengths response with ⟨portion, remainder⟩
  have hreply : P.acceptedReply sendReceive t =
      ⟨t.offset, response.drop P.fixedSize, remainder⟩ := by
    simp only [ReportProtocol.acceptedReply, ReportProtocol.reply, hcall, hlengths]
  rw [hreply]
  simp only [transferStep, hcall, hlengths]
  -- the checks of the round; a check that fails returns a status of its own
  apply iteInduction (motive := RoundOutcome P reportSize t _)
  · intro herror
    refine .returned ?_ rfl
    rintro rfl
    cases herror
  intro _
  apply iteInduction (motive := RoundOutcome P reportSize t _) (fun _ => .returned (by simp) rfl)
  intro _
  apply iteInduction (motive := RoundOutcome P reportSize t _) (fun _ => .returned (by simp) rfl)
  intro hportion
  apply iteInduction (motive := RoundOutcome P reportSize t _) (fun _ => .returned (by simp) rfl)
  intro hlength
  apply iteInduction (motive := RoundOutcome P reportSize t _) (fun _ => .returned (by simp) rfl)
  intro _
  have hbytes : (response.drop P.fixedSize).length = portion.toNat := by
    rw [List.length_drop]
    omega
  have hle : portion.toNat ≤ (P.requestLength t.offset t.remainderLength).toNat :=
    UInt16.le_iff_toNat_le.1 (UInt16.not_lt.1 hportion)
  have hoffset : (t.offset + portion).toNat = (t.offset.toNat + portion.toNat) % 65536 :=
    UInt16.toNat_add _ _
  have hportion32 := portion.toNat_lt
  have hremainder32 := remainder.toNat_lt
  have hoffset32 := t.offset.toNat_lt
  apply iteInduction (motive := RoundOutcome P reportSize t _)
  · intro hzero
    have htotal : (portion.toUInt32 + remainder.toUInt32).toNat =
        portion.toNat + remainder.toNat := by
      rw [UInt32.toNat_add, UInt16.toNat_toUInt32, UInt16.toNat_toUInt32]
      omega
    apply iteInduction (motive := RoundOutcome P reportSize t _) (fun _ => .returned (by simp) rfl)
    intro hfits
    refine .accepted
      ⟨by rw [hbytes]; exact hle, by rw [hbytes]; exact hoffset, rfl, ?_, ?_, rfl⟩
    · intro _
      refine ⟨by rw [hbytes]; exact htotal, ?_⟩
      exact UInt32.le_iff_toNat_le.1 (UInt32.not_lt.1 hfits)
    · intro hne
      exact absurd hzero hne
  · intro hnonzero
    have htotal : (t.offset.toUInt32 + portion.toUInt32 + remainder.toUInt32).toNat =
        t.offset.toNat + portion.toNat + remainder.toNat := by
      rw [UInt32.toNat_add, UInt32.toNat_add, UInt16.toNat_toUInt32, UInt16.toNat_toUInt32,
        UInt16.toNat_toUInt32]
      omega
    apply iteInduction (motive := RoundOutcome P reportSize t _) (fun _ => .returned (by simp) rfl)
    intro hagrees
    refine .accepted
      ⟨by rw [hbytes]; exact hle, by rw [hbytes]; exact hoffset, rfl, ?_, ?_, rfl⟩
    · intro hzero
      exact absurd hzero hnonzero
    · intro _
      refine ⟨rfl, ?_⟩
      rw [not_not.1 hagrees, htotal, hbytes]

theorem round_of_inr {t' : Transfer σ} (h : transferStep P sendReceive reportSize t = .inr t') :
    Round P reportSize t (P.acceptedReply sendReceive t) t' := by
  have houtcome := roundOutcome_transferStep P sendReceive reportSize t
  rw [h] at houtcome
  cases houtcome with
  | accepted hround => exact hround

/-- A round that returns reports no success and leaves the buffer as it is. -/
theorem result_of_inl {r : Result σ} (h : transferStep P sendReceive reportSize t = .inl r) :
    r.status ≠ .success ∧ r.buffer = t.buffer := by
  have houtcome := roundOutcome_transferStep P sendReceive reportSize t
  rw [h] at houtcome
  cases houtcome with
  | returned hstatus hbuffer => exact ⟨hstatus, hbuffer⟩

/-- Behind a nonzero offset no more than the remainder is asked for. -/
theorem requestLength_le (P : ReportProtocol) {offset : UInt16} (h : offset ≠ 0)
    (remainderLength : UInt16) :
    (P.requestLength offset remainderLength).toNat ≤ remainderLength.toNat := by
  unfold ReportProtocol.requestLength
  rw [if_pos h]
  split
  · exact Nat.le_refl _
  · next hgt =>
      have hlt := UInt16.lt_iff_toNat_lt.1 (UInt16.not_le.1 hgt)
      omega

end Rounds

/-! ## Accounting -/

/-- The bookkeeping of a requester that has received some bytes since it last handled a reply at
offset 0, with a buffer of `capacity` bytes. The offset may have wrapped. -/
structure Accounted (capacity : UInt32) (received : Bytes) (t : Transfer σ) : Prop where
  offset_eq : t.offset.toNat = received.length % 65536
  total_eq : received.length + t.remainderLength.toNat = t.totalReportLength.toNat
  total_le : t.totalReportLength.toNat ≤ capacity.toNat
  buffer_eq : t.buffer.load 0 received.length = received

/-- What was received, with one more reply: a reply at offset 0 starts anew. -/
def Accepted.extend (received : Bytes) (a : Accepted) : Bytes :=
  if a.offset = 0 then a.portion else received ++ a.portion

/-- The portions since the last reply that was handled at offset 0, one after the other. -/
def sinceOffsetZero (replies : List Accepted) : Bytes := replies.foldl Accepted.extend []

theorem accounted_start (link : σ) (buffer : Mem) (capacity : UInt32) :
    Accounted capacity [] (⟨link, buffer, 0, 0, 0⟩ : Transfer σ) where
  offset_eq := rfl
  total_eq := rfl
  total_le := Nat.zero_le _
  buffer_eq := rfl

section Accounting

variable {P : ReportProtocol} {capacity : UInt32} {t t' : Transfer σ} {received : Bytes}
  {a : Accepted}

/-- **No accepted reply behind a wrapped offset.** The total is checked against the offset, and the
portion is at most the remainder: had the offset wrapped, the new remainder would need 17 bits. -/
theorem Round.length_received (hround : Round P capacity t a t')
    (ht : Accounted capacity received t) (hnonzero : t.offset ≠ 0) :
    received.length = t.offset.toNat := by
  have hle := hround.length_le
  have hrequest := requestLength_le P hnonzero t.remainderLength
  have htotal := (hround.later hnonzero).2
  have hoffset := ht.offset_eq
  have hsum := ht.total_eq
  have hremainder := a.remainder.toNat_lt
  omega

/-- One accepted reply: its portion goes inside the buffer, next to what was received, and the
bookkeeping is right again. -/
theorem Round.accounted (hround : Round P capacity t a t') (hoffset : a.offset = t.offset)
    (ht : Accounted capacity received t) :
    t.offset.toNat + a.portion.length ≤ capacity.toNat ∧
      t'.buffer = t.buffer.store t.offset.toNat a.portion ∧
      Accounted capacity (a.extend received) t' := by
  -- what is new, where it goes, and the total: at offset 0 and behind it
  obtain ⟨hextend, htotal, htotal_le⟩ :
      (a.extend received = t.buffer.load 0 t.offset.toNat ++ a.portion) ∧
        t'.totalReportLength.toNat =
          t.offset.toNat + a.portion.length + a.remainder.toNat ∧
        t'.totalReportLength.toNat ≤ capacity.toNat := by
    by_cases hzero : t.offset = 0
    · obtain ⟨hsum, hle⟩ := hround.first hzero
      have hzero' : t.offset.toNat = 0 := by rw [hzero]; rfl
      refine ⟨?_, by omega, hle⟩
      rw [Accepted.extend, hoffset, if_pos hzero, hzero']
      rfl
    · obtain ⟨hsame, hsum⟩ := hround.later hzero
      have hlength := hround.length_received ht hzero
      refine ⟨?_, by rw [hsame]; exact hsum, by rw [hsame]; exact ht.total_le⟩
      rw [Accepted.extend, hoffset, if_neg hzero, ← hlength, ht.buffer_eq]
  have hinside : t.offset.toNat + a.portion.length ≤ capacity.toNat := by omega
  have hoffset32 : t.offset.toUInt32.toNat = t.offset.toNat := UInt16.toNat_toUInt32 _
  have hroom : (capacity - t.offset.toUInt32).toNat = capacity.toNat - t.offset.toNat := by
    rw [UInt32.toNat_sub_of_le _ _ (UInt32.le_iff_toNat_le.2 (by omega)), hoffset32]
  have hbuffer : t'.buffer = t.buffer.store t.offset.toNat a.portion := by
    rw [hround.buffer_eq, copyMem_of_le _ _ (by omega)]
  have hlength : (a.extend received).length = t.offset.toNat + a.portion.length := by
    rw [hextend, List.length_append, Mem.length_load]
  refine ⟨hinside, hbuffer, ?_, ?_, htotal_le, ?_⟩
  · rw [hround.offset_eq, hlength]
  · rw [hround.remainder_eq, hlength, htotal]
  · rw [hbuffer, hlength, Mem.load_store_end, hextend]

end Accounting

/-! ## Safety -/

/-- The buffer after the writes of some replies. -/
def storeReplies (buffer : Mem) (replies : List Accepted) : Mem :=
  replies.foldl (fun m a => m.store a.offset.toNat a.portion) buffer

/-- Writes inside a buffer leave alone what is behind it. -/
theorem storeReplies_of_ge {replies : List Accepted} {n : Nat}
    (hinside : ∀ a ∈ replies, a.offset.toNat + a.portion.length ≤ n) (buffer : Mem) {i : Nat}
    (hi : n ≤ i) : storeReplies buffer replies i = buffer i := by
  induction replies generalizing buffer with
  | nil => rfl
  | cons a replies ih =>
      rw [List.forall_mem_cons] at hinside
      refine (ih hinside.2 _).trans ?_
      exact Mem.store_of_ge buffer a.portion (by omega)

/-- A transfer into a buffer of `capacity` bytes that keeps to the buffer and, when it succeeds,
returns what it received. -/
structure SafeTransfer (capacity : UInt32) (buffer : Mem) (replies : List Accepted)
    (outcome : Option (Result σ)) : Prop where
  /-- every write of the rounds so far is inside the buffer -/
  inside : ∀ a ∈ replies, a.offset.toNat + a.portion.length ≤ capacity.toNat
  /-- there are no other writes -/
  written : ∀ r, outcome = some r → r.buffer = storeReplies buffer replies
  untouched : ∀ r, outcome = some r → ∀ i, capacity.toNat ≤ i → r.buffer i = buffer i
  delivered : ∀ r, outcome = some r → r.status = .success →
    r.reportSize.toNat ≤ capacity.toNat ∧
      r.buffer.load 0 r.reportSize.toNat = sinceOffsetZero replies

section Safety

variable (P : ReportProtocol) (sendReceive : SendReceive σ) {capacity : UInt32}

/-- From any round on with the bookkeeping right, whatever is replied. -/
theorem transferLoop_safe (fuel : Nat) {t : Transfer σ} {received : Bytes}
    (ht : Accounted capacity received t) :
    (∀ a ∈ acceptedReplies P sendReceive capacity fuel t,
      a.offset.toNat + a.portion.length ≤ capacity.toNat) ∧
    ∀ r, transferLoop P sendReceive capacity fuel t = some r →
      r.buffer = storeReplies t.buffer (acceptedReplies P sendReceive capacity fuel t) ∧
      (r.status = .success → r.reportSize.toNat ≤ capacity.toNat ∧
        r.buffer.load 0 r.reportSize.toNat =
          (acceptedReplies P sendReceive capacity fuel t).foldl Accepted.extend received) := by
  -- on the number of rounds, with the bytes received before them
  induction fuel generalizing t received with
  | zero =>
      constructor
      · intro a ha
        cases ha
      · intro r h
        cases h
  | succ fuel ih =>
      simp only [acceptedReplies, transferLoop]
      cases hstep : transferStep P sendReceive capacity t with
      | inl result =>
          obtain ⟨hstatus, hbuffer⟩ := result_of_inl hstep
          constructor
          · intro a ha
            cases ha
          · intro r h
            cases h
            exact ⟨hbuffer, fun hsuccess => absurd hsuccess hstatus⟩
      | inr t' =>
          obtain ⟨hinside, hstore, hnext⟩ := (round_of_inr hstep).accounted rfl ht
          dsimp only
          by_cases hmore : t'.remainderLength ≠ 0
          · obtain ⟨hrest, hresult⟩ := ih hnext
            rw [if_pos hmore, if_pos hmore]
            refine ⟨List.forall_mem_cons.2 ⟨hinside, hrest⟩, ?_⟩
            intro r h
            obtain ⟨hbuffer, hdelivered⟩ := hresult r h
            refine ⟨?_, hdelivered⟩
            rw [hbuffer, hstore]
            rfl
          · -- no remainder: all of the total was received
            rw [if_neg hmore, if_neg hmore]
            refine ⟨List.forall_mem_singleton.2 hinside, ?_⟩
            intro r h
            cases h
            refine ⟨hstore, fun _ => ⟨hnext.total_le, ?_⟩⟩
            have hzero : t'.remainderLength.toNat = 0 := by rw [not_not.1 hmore]; rfl
            have htotal : t'.totalReportLength.toNat = _ := hnext.total_eq.symm
            rw [hzero, Nat.add_zero] at htotal
            show t'.buffer.load 0 t'.totalReportLength.toNat = _
            rw [htotal, hnext.buffer_eq]
            rfl

/-- A report requester keeps to its buffer and returns what it received, whatever is replied. -/
theorem getReport_safe (fuel : Nat) (link : σ) (buffer : Mem) :
    SafeTransfer capacity buffer
      (acceptedReplies P sendReceive capacity fuel ⟨link, buffer, 0, 0, 0⟩)
      (getReport P sendReceive fuel link buffer capacity) := by
  obtain ⟨hinside, hresult⟩ :=
    transferLoop_safe P sendReceive fuel (accounted_start link buffer capacity)
  refine ⟨hinside, fun r h => (hresult r h).1, ?_, fun r h => (hresult r h).2⟩
  intro r h i hi
  rw [(hresult r h).1]
  exact storeReplies_of_ge hinside buffer hi

end Safety

/-- **Report requesters are safe against any responder.** For every responder, buffer, capacity and
number of rounds, `pci_tdisp_get_interface_report` and `cxl_tsp_get_configuration_report` write
inside the buffer only, and a success returns the portions since the last reply handled at
offset 0. -/
theorem report_requesters_safe (sendReceive : SendReceive σ) (fuel : Nat) (link : σ) (buffer : Mem)
    (capacity : UInt32) :
    (∀ (K : Tdisp.PciTdisp) (interfaceId : Tdisp.InterfaceId),
      SafeTransfer capacity buffer
        (acceptedReplies (Tdisp.interfaceReportProtocol K interfaceId.functionId) sendReceive
          capacity fuel ⟨link, buffer, 0, 0, 0⟩)
        (Tdisp.pciTdispGetInterfaceReport K sendReceive fuel link interfaceId buffer capacity)) ∧
    (∀ K : Tsp.CxlTsp,
      SafeTransfer capacity buffer
        (acceptedReplies (Tsp.configurationReportProtocol K) sendReceive capacity fuel
          ⟨link, buffer, 0, 0, 0⟩)
        (Tsp.cxlTspGetConfigurationReport K sendReceive fuel link buffer capacity)) := by
  constructor
  · intro K interfaceId
    exact getReport_safe _ sendReceive fuel link buffer
  · intro K
    exact getReport_safe _ sendReceive fuel link buffer

/-! ## Termination -/

/-- A reply that leaves a remainder brings some bytes, and does not bring the offset to 65536, which
is 0 in 16 bits. -/
def Accepted.Advances (a : Accepted) : Prop :=
  a.remainder ≠ 0 → a.portion ≠ [] ∧ a.offset.toNat + a.portion.length ≠ 65536

/-- The length of the report that the first accepted reply announces. -/
def announcedLength (replies : List Accepted) : Nat :=
  match replies with
  | [] => 0
  | a :: _ => a.portion.length + a.remainder.toNat

/-- A run that makes at most `bound` exchanges and returns when it is given more rounds. -/
structure EndsWithin (bound fuel : Nat) (exchanges : List (Call σ)) (outcome : Option (Result σ)) :
    Prop where
  length_le : exchanges.length ≤ bound
  returns : bound < fuel → ∃ r, outcome = some r

section Termination

variable {P : ReportProtocol} {sendReceive : SendReceive σ} {capacity : UInt32}

/-- A reply that advances and leaves a remainder is followed by a nonzero offset. -/
theorem Round.offset_ne_zero {t t' : Transfer σ} {a : Accepted} (hround : Round P capacity t a t')
    (hoffset : a.offset = t.offset) (hadvances : a.Advances) (hmore : t'.remainderLength ≠ 0) :
    a.portion.length ≠ 0 ∧ t'.offset ≠ 0 := by
  rw [hround.remainder_eq] at hmore
  obtain ⟨hportion, hwrap⟩ := hadvances hmore
  have hlength : a.portion.length ≠ 0 := fun h => hportion (List.length_eq_zero_iff.1 h)
  refine ⟨hlength, ?_⟩
  intro hzero
  have hnext := hround.offset_eq
  have hle := hround.length_le
  have hrequest := (P.requestLength t.offset t.remainderLength).toNat_lt
  have hbound := t.offset.toNat_lt
  rw [hzero, show (0 : UInt16).toNat = 0 from rfl] at hnext
  rw [hoffset] at hwrap
  omega

/-- **The remainder is the variant.** Behind a nonzero offset there are at most as many rounds as
bytes that remain, if every reply advances. -/
theorem length_transferCalls_le (fuel : Nat) {t : Transfer σ} {received : Bytes}
    (ht : Accounted capacity received t) (hnonzero : t.offset ≠ 0)
    (hmore : t.remainderLength.toNat ≠ 0)
    (hadvances : ∀ a ∈ acceptedReplies P sendReceive capacity fuel t, a.Advances) :
    (transferCalls P sendReceive capacity fuel t).length ≤ t.remainderLength.toNat := by
  induction fuel generalizing t received with
  | zero => exact Nat.zero_le _
  | succ fuel ih =>
      simp only [acceptedReplies] at hadvances
      rw [transferCalls]
      cases hstep : transferStep P sendReceive capacity t with
      | inl result =>
          rw [List.length_singleton]
          omega
      | inr t' =>
          have hround := round_of_inr hstep
          obtain ⟨-, -, hnext⟩ := hround.accounted rfl ht
          -- the portion and the new remainder make up the old one
          have hreceived := hround.length_received ht hnonzero
          have htotal := (hround.later hnonzero).2
          have hsum := ht.total_eq
          rw [← hround.remainder_eq] at htotal
          simp only [hstep] at hadvances
          obtain ⟨hfirst, hrest⟩ := List.forall_mem_cons.1 hadvances
          dsimp only
          by_cases hagain : t'.remainderLength ≠ 0
          · obtain ⟨hportion, hoffset⟩ := hround.offset_ne_zero rfl hfirst hagain
            rw [if_pos hagain] at hrest ⊢
            have hagain' : t'.remainderLength.toNat ≠ 0 :=
              fun h => hagain (UInt16.toNat_inj.1 (by rw [h]; rfl))
            have hih := ih hnext hoffset hagain' hrest
            rw [List.length_cons]
            omega
          · rw [if_neg hagain, List.length_singleton]
            omega

/-- A loop that has not returned has made an exchange in every round. -/
theorem length_transferCalls_of_none {fuel : Nat} {t : Transfer σ}
    (h : transferLoop P sendReceive capacity fuel t = none) :
    (transferCalls P sendReceive capacity fuel t).length = fuel := by
  induction fuel generalizing t with
  | zero => rfl
  | succ fuel ih =>
      rw [transferLoop] at h
      rw [transferCalls]
      cases hstep : transferStep P sendReceive capacity t with
      | inl result =>
          rw [hstep] at h
          cases h
      | inr t' =>
          rw [hstep] at h
          dsimp only at h ⊢
          by_cases hmore : t'.remainderLength ≠ 0
          · rw [if_pos hmore] at h ⊢
            rw [List.length_cons, ih h]
          · rw [if_neg hmore] at h
            cases h

/-- From the start, there are at most as many exchanges as the report has bytes. -/
theorem length_transferCalls_start (fuel : Nat) (link : σ) (buffer : Mem)
    (hadvances : ∀ a ∈ acceptedReplies P sendReceive capacity fuel ⟨link, buffer, 0, 0, 0⟩,
      a.Advances) :
    (transferCalls P sendReceive capacity fuel ⟨link, buffer, 0, 0, 0⟩).length ≤
      max 1 (announcedLength
        (acceptedReplies P sendReceive capacity fuel ⟨link, buffer, 0, 0, 0⟩)) := by
  cases fuel with
  | zero => exact Nat.zero_le _
  | succ fuel =>
      simp only [acceptedReplies] at hadvances ⊢
      rw [transferCalls]
      cases hstep : transferStep P sendReceive capacity (⟨link, buffer, 0, 0, 0⟩ : Transfer σ) with
      | inl result => exact Nat.le_max_left _ _
      | inr t' =>
          have hround := round_of_inr hstep
          obtain ⟨-, -, hnext⟩ := hround.accounted rfl (accounted_start link buffer capacity)
          simp only [hstep] at hadvances
          obtain ⟨hfirst, hrest⟩ := List.forall_mem_cons.1 hadvances
          dsimp only [announcedLength]
          rw [← hround.remainder_eq]
          by_cases hagain : t'.remainderLength ≠ 0
          · obtain ⟨hportion, hoffset⟩ := hround.offset_ne_zero rfl hfirst hagain
            rw [if_pos hagain] at hrest ⊢
            have hagain' : t'.remainderLength.toNat ≠ 0 :=
              fun h => hagain (UInt16.toNat_inj.1 (by rw [h]; rfl))
            have hle := length_transferCalls_le fuel hnext hoffset hagain' hrest
            rw [List.length_cons]
            omega
          · rw [if_neg hagain, List.length_singleton]
            omega

/-- A report requester whose replies advance returns within as many exchanges as the report has
bytes. -/
theorem getReport_terminates (fuel : Nat) (link : σ) (buffer : Mem)
    (hadvances : ∀ a ∈ acceptedReplies P sendReceive capacity fuel ⟨link, buffer, 0, 0, 0⟩,
      a.Advances) :
    EndsWithin (max 1 (announcedLength
        (acceptedReplies P sendReceive capacity fuel ⟨link, buffer, 0, 0, 0⟩))) fuel
      (transferCalls P sendReceive capacity fuel ⟨link, buffer, 0, 0, 0⟩)
      (getReport P sendReceive fuel link buffer capacity) := by
  have hle := length_transferCalls_start fuel link buffer hadvances
  refine ⟨hle, ?_⟩
  intro hfuel
  cases hloop : getReport P sendReceive fuel link buffer capacity with
  | some r => exact ⟨r, rfl⟩
  | none =>
      have hlength := length_transferCalls_of_none hloop
      omega

end Termination

/-- **Report requesters end when every reply advances.** In every run of
`pci_tdisp_get_interface_report` and `cxl_tsp_get_configuration_report` whose accepted replies all
advance, the number of exchanges is at most the length of the report that the first of them
announces, or one. -/
theorem report_requesters_terminate (sendReceive : SendReceive σ) (fuel : Nat) (link : σ)
    (buffer : Mem) (capacity : UInt32) :
    (∀ (K : Tdisp.PciTdisp) (interfaceId : Tdisp.InterfaceId),
      let P := Tdisp.interfaceReportProtocol K interfaceId.functionId
      let replies := acceptedReplies P sendReceive capacity fuel ⟨link, buffer, 0, 0, 0⟩
      (∀ a ∈ replies, a.Advances) →
      EndsWithin (max 1 (announcedLength replies)) fuel
        (transferCalls P sendReceive capacity fuel ⟨link, buffer, 0, 0, 0⟩)
        (Tdisp.pciTdispGetInterfaceReport K sendReceive fuel link interfaceId buffer capacity)) ∧
    (∀ K : Tsp.CxlTsp,
      let P := Tsp.configurationReportProtocol K
      let replies := acceptedReplies P sendReceive capacity fuel ⟨link, buffer, 0, 0, 0⟩
      (∀ a ∈ replies, a.Advances) →
      EndsWithin (max 1 (announcedLength replies)) fuel
        (transferCalls P sendReceive capacity fuel ⟨link, buffer, 0, 0, 0⟩)
        (Tsp.cxlTspGetConfigurationReport K sendReceive fuel link buffer capacity)) := by
  constructor
  · intro K interfaceId P replies hadvances
    exact getReport_terminates fuel link buffer hadvances
  · intro K P replies hadvances
    exact getReport_terminates fuel link buffer hadvances

/-! ## Some responders -/

/-- A responder that gives the same reply to every request. -/
def constantLink (response : Bytes) : SendReceive Unit := fun _ _ _ => (⟨.success, response⟩, ())

/-- A TDISP report response for the function 7 in the sample format. -/
private def tdispReply (portion : Bytes) (remainder : UInt16) : Bytes :=
  Tdisp.PciTdisp.sample.header.encode
      { version := Tdisp.PciTdisp.sample.messageVersion10
        messageType := Tdisp.PciTdisp.sample.responseType .deviceInterfaceReport
        interfaceId := ⟨7, 0⟩ } ++
    (Tdisp.PciTdisp.sample.deviceInterfaceReportResponse.encode
      ⟨UInt16.ofNat portion.length, remainder⟩ ++ portion)

/-- A TSP report response in the sample format. -/
private def tspReply (portion : Bytes) (remainder : UInt16) : Bytes :=
  Tsp.CxlTsp.sample.header.encode
      ⟨Tsp.CxlTsp.sample.messageVersion10,
        Tsp.CxlTsp.sample.responseOpCode .getTargetConfigurationReport⟩ ++
    (Tsp.CxlTsp.sample.getConfigurationReportResponse.encode
      ⟨UInt16.ofNat portion.length, remainder⟩ ++ portion)

/-- A responder that gives its replies one after the other, and then none. -/
def scriptedLink : SendReceive (List Bytes) := fun replies _ _ =>
  match replies with
  | [] => (⟨.invalidStatePeer, []⟩, [])
  | reply :: replies => (⟨.success, reply⟩, replies)

/-- Three portions of one byte: the first two advance with a remainder, and both requesters return
after three exchanges. -/
theorem report_requesters_terminate_sample :
    (EndsWithin 3 4
      (transferCalls (Tdisp.interfaceReportProtocol .sample 7) scriptedLink 16 4
        ⟨[tdispReply [7] 2, tdispReply [8] 1, tdispReply [9] 0], fun _ => 0, 0, 0, 0⟩)
      (Tdisp.pciTdispGetInterfaceReport .sample scriptedLink 4
        [tdispReply [7] 2, tdispReply [8] 1, tdispReply [9] 0] ⟨7, 0⟩ (fun _ => 0) 16)) ∧
    EndsWithin 3 4
      (transferCalls (Tsp.configurationReportProtocol .sample) scriptedLink 16 4
        ⟨[tspReply [7] 2, tspReply [8] 1, tspReply [9] 0], fun _ => 0, 0, 0, 0⟩)
      (Tsp.cxlTspGetConfigurationReport .sample scriptedLink 4
        [tspReply [7] 2, tspReply [8] 1, tspReply [9] 0] (fun _ => 0) 16) := by
  have hadvances : ∀ a ∈ [(⟨0, [7], 2⟩ : Accepted), ⟨1, [8], 1⟩, ⟨2, [9], 0⟩], a.Advances := by
    unfold Accepted.Advances
    decide
  have htdisp : acceptedReplies (Tdisp.interfaceReportProtocol .sample 7) scriptedLink 16 4
      ⟨[tdispReply [7] 2, tdispReply [8] 1, tdispReply [9] 0], fun _ => 0, 0, 0, 0⟩ =
        [⟨0, [7], 2⟩, ⟨1, [8], 1⟩, ⟨2, [9], 0⟩] := rfl
  have htsp : acceptedReplies (Tsp.configurationReportProtocol .sample) scriptedLink 16 4
      ⟨[tspReply [7] 2, tspReply [8] 1, tspReply [9] 0], fun _ => 0, 0, 0, 0⟩ =
        [⟨0, [7], 2⟩, ⟨1, [8], 1⟩, ⟨2, [9], 0⟩] := rfl
  constructor
  · have h := (report_requesters_terminate scriptedLink 4
      [tdispReply [7] 2, tdispReply [8] 1, tdispReply [9] 0] (fun _ => 0) 16).1 .sample ⟨7, 0⟩
    dsimp only at h
    rw [htdisp] at h
    exact h hadvances
  · have h := (report_requesters_terminate scriptedLink 4
      [tspReply [7] 2, tspReply [8] 1, tspReply [9] 0] (fun _ => 0) 16).2 .sample
    dsimp only at h
    rw [htsp] at h
    exact h hadvances

/-- A reply without a portion, at offset 0, leaves the loop where it was. -/
theorem transferStep_of_empty {P : ReportProtocol} {response : Bytes}
    (hlengths : P.lengths response = (0, 1)) (haccepted : P.accepted response = true)
    (hlength : response.length = P.fixedSize) {capacity : UInt32} (hcapacity : 1 ≤ capacity.toNat)
    {t : Transfer Unit} (ht : t.offset = 0) :
    ∃ t', transferStep P (constantLink response) capacity t = .inr t' ∧ t'.offset = 0 ∧
      t'.remainderLength ≠ 0 := by
  have hfits : ¬ (1 : UInt32) > capacity := by
    intro hgt
    have hlt := UInt32.lt_iff_toNat_lt.1 hgt
    rw [show (1 : UInt32).toNat = 1 from rfl] at hlt
    omega
  refine ⟨t.accept capacity () 1 0 1 (response.drop P.fixedSize), ?_, ?_, ?_⟩
  · simp [transferStep, SendReceive.call, constantLink, hlengths, haccepted, hlength, ht, hfits,
      LibspdmReturn.isError]
  · show t.offset + 0 = 0
    rw [ht]
    rfl
  · show (1 : UInt16) ≠ 0
    decide

/-- Against empty portions the loop goes on for every number of rounds. -/
theorem transferLoop_of_empty {P : ReportProtocol} {response : Bytes}
    (hlengths : P.lengths response = (0, 1)) (haccepted : P.accepted response = true)
    (hlength : response.length = P.fixedSize) {capacity : UInt32} (hcapacity : 1 ≤ capacity.toNat)
    (fuel : Nat) {t : Transfer Unit} (ht : t.offset = 0) :
    transferLoop P (constantLink response) capacity fuel t = none := by
  induction fuel generalizing t with
  | zero => rfl
  | succ fuel ih =>
      obtain ⟨t', hstep, hoffset, hmore⟩ :=
        transferStep_of_empty hlengths haccepted hlength hcapacity ht
      rw [transferLoop, hstep]
      dsimp only
      rw [if_pos hmore]
      exact ih hoffset

/-- A responder that announces a report of one byte and sends empty portions: neither requester
returns, and no number bounds their exchanges. -/
theorem empty_portions_go_on :
    (¬ ∃ fuel r, Tdisp.pciTdispGetInterfaceReport .sample (constantLink (tdispReply [] 1)) fuel ()
      ⟨7, 0⟩ (fun _ => 0) 16 = some r) ∧
    (¬ ∃ bound, ∀ fuel, (transferCalls (Tdisp.interfaceReportProtocol .sample 7)
      (constantLink (tdispReply [] 1)) 16 fuel ⟨(), fun _ => 0, 0, 0, 0⟩).length ≤ bound) ∧
    (¬ ∃ fuel r, Tsp.cxlTspGetConfigurationReport .sample (constantLink (tspReply [] 1)) fuel ()
      (fun _ => 0) 16 = some r) ∧
    ¬ ∃ bound, ∀ fuel, (transferCalls (Tsp.configurationReportProtocol .sample)
      (constantLink (tspReply [] 1)) 16 fuel ⟨(), fun _ => 0, 0, 0, 0⟩).length ≤ bound := by
  have htdisp : ∀ fuel, transferLoop (Tdisp.interfaceReportProtocol .sample 7)
      (constantLink (tdispReply [] 1)) 16 fuel ⟨(), fun _ => 0, 0, 0, 0⟩ = none := fun fuel =>
    transferLoop_of_empty (by decide) (by decide) (by decide) (by decide) fuel rfl
  have htsp : ∀ fuel, transferLoop (Tsp.configurationReportProtocol .sample)
      (constantLink (tspReply [] 1)) 16 fuel ⟨(), fun _ => 0, 0, 0, 0⟩ = none := fun fuel =>
    transferLoop_of_empty (by decide) (by decide) (by decide) (by decide) fuel rfl
  refine ⟨?_, ?_, ?_, ?_⟩
  · rintro ⟨fuel, r, h⟩
    cases (htdisp fuel).symm.trans h
  · rintro ⟨bound, h⟩
    have hlength := length_transferCalls_of_none (htdisp (bound + 1))
    have hle := h (bound + 1)
    omega
  · rintro ⟨fuel, r, h⟩
    cases (htsp fuel).symm.trans h
  · rintro ⟨bound, h⟩
    have hlength := length_transferCalls_of_none (htsp (bound + 1))
    have hle := h (bound + 1)
    omega

end SpdmEmu.Report
