import SpdmEmu.Report.Adversary

/-!
# Reports over a link that can go bad

`Serves` asks a link to answer every request with a portion of one report. A link that others can
disturb promises less: as long as nothing bad has happened to it, what it answers is a portion of
the report, if it is anything that the requester accepts at all. `Truthful` is that promise, with an
invariant of the link and a predicate `Good` that cannot become true again once it is false.

`getReport_of_truthful`: a transfer that succeeds and leaves the link good has delivered the report.
Nothing is said of a transfer that fails, and a link may fail all of them.
-/

set_option autoImplicit false

namespace SpdmEmu.Report

open SpdmEmu.Wire SpdmEmu.Libspdm

variable {σ : Type}

/-- What passes the checks of a round is a portion of `R`, on a link that is good afterwards. -/
structure Truthful (P : ReportProtocol) (sendReceive : SendReceive σ) (R : Bytes)
    (Inv Good : σ → Prop) : Prop where
  keeps : ∀ s request capacity, Inv s → Inv (sendReceive s request capacity).2
  before : ∀ s request capacity, Inv s → Good (sendReceive s request capacity).2 → Good s
  portion : ∀ s offset length x s', Inv s →
    sendReceive s (P.request offset length) P.responseSize = (x, s') → Good s' →
    x.status.isError = false → P.fixedSize ≤ x.response.length → P.accepted x.response = true →
    servePortion P.portionLen R (UInt16.ofNat R.length) offset length =
      some ((P.lengths x.response).1, (P.lengths x.response).2, x.response.drop P.fixedSize)

/-- A served portion is what the report has at the offset, and the remainder what is behind it. -/
theorem servePortion_inv {limit size offset length portion remainder : UInt16}
    {report bytes : Bytes} (hsize : size.toNat = report.length)
    (h : servePortion limit report size offset length = some (portion, remainder, bytes)) :
    bytes = (report.drop offset.toNat).take bytes.length ∧
      offset.toNat + bytes.length + remainder.toNat = report.length := by
  have hlength := (length_of_servePortion hsize.le h).2
  unfold servePortion at h
  dsimp only at h
  split_ifs at h with hzero hoffset
  have hlt : offset.toNat < size.toNat := by
    have hnot := UInt16.not_le.1 hoffset
    exact UInt16.lt_iff_toNat_lt.1 hnot
  have hclamp := toNat_clamp (clamp length limit) (size - offset)
  rw [UInt16.toNat_sub_of_le _ _ (UInt16.le_iff_toNat_le.2 hlt.le)] at hclamp
  simp only [Option.some.injEq, Prod.mk.injEq] at h
  obtain ⟨rfl, rfl, hbytes⟩ := h
  -- the portion ends inside the report, whose size has 16 bits
  have hsum : (clamp (clamp length limit) (size - offset) + offset).toNat =
      (clamp (clamp length limit) (size - offset)).toNat + offset.toNat := by
    have := size.toNat_lt
    rw [UInt16.toNat_add, Nat.mod_eq_of_lt (by omega)]
  refine ⟨by rw [hlength]; exact hbytes.symm, ?_⟩
  rw [UInt16.toNat_sub_of_le _ _ (UInt16.le_iff_toNat_le.2 (by omega)), hsum]
  omega

section Loop

variable {P : ReportProtocol} {sendReceive : SendReceive σ} {capacity : UInt32} {t : Transfer σ}

/-- What a round that goes on has checked, and the link it goes on with. -/
theorem checks_of_inr {t' : Transfer σ} (h : transferStep P sendReceive capacity t = .inr t') :
    ∃ x, sendReceive.call (P.call t) = (x, t'.link) ∧ x.status.isError = false ∧
      P.fixedSize ≤ x.response.length ∧ P.accepted x.response = true := by
  rcases hcall : sendReceive.call (P.call t) with ⟨x, link⟩
  simp only [transferStep, hcall] at h
  split_ifs at h with hstatus hlength hportion hsize haccepted hzero hfits hagrees
  -- the round goes on at offset 0 and behind it
  · cases h
    exact ⟨x, rfl, by simpa using hstatus, by omega, by simpa using haccepted⟩
  · cases h
    exact ⟨x, rfl, by simpa using hstatus, by omega, by simpa using haccepted⟩

/-- A round that returns hands the link on. -/
theorem link_of_inl {r : Result σ} (h : transferStep P sendReceive capacity t = .inl r) :
    r.link = (sendReceive.call (P.call t)).2 := by
  rcases hcall : sendReceive.call (P.call t) with ⟨x, link⟩
  simp only [transferStep, hcall] at h
  split_ifs at h <;> cases h <;> rfl

/-- A round that returns reports an error. -/
theorem isError_of_inl {r : Result σ} (h : transferStep P sendReceive capacity t = .inl r) :
    r.status.isError = true := by
  rcases hcall : sendReceive.call (P.call t) with ⟨x, link⟩
  simp only [transferStep, hcall] at h
  split_ifs at h with hstatus <;> cases h
  · exact hstatus
  all_goals rfl

/-- A transfer without an error is a success. -/
theorem success_of_transferLoop (fuel : Nat) {t : Transfer σ} {r : Result σ}
    (hrun : transferLoop P sendReceive capacity fuel t = some r)
    (hstatus : r.status.isError = false) : r.status = .success := by
  induction fuel generalizing t with
  | zero => cases hrun
  | succ fuel ih =>
      simp only [transferLoop] at hrun
      cases hstep : transferStep P sendReceive capacity t with
      | inl result =>
          rw [hstep] at hrun
          cases hrun
          rw [isError_of_inl hstep] at hstatus
          cases hstatus
      | inr t' =>
          simp only [hstep] at hrun
          split at hrun
          · exact ih hrun
          · cases hrun
            rfl

/-- A transfer keeps what every exchange for a portion keeps. -/
theorem keeps_transferLoop {Inv : σ → Prop}
    (hkeeps : ∀ s offset length, Inv s →
      Inv (sendReceive s (P.request offset length) P.responseSize).2) (fuel : Nat)
    {t : Transfer σ} {r : Result σ} (hinv : Inv t.link)
    (hrun : transferLoop P sendReceive capacity fuel t = some r) : Inv r.link := by
  induction fuel generalizing t with
  | zero => cases hrun
  | succ fuel ih =>
      have hcall : Inv (sendReceive t.link (P.call t).request (P.call t).capacity).2 :=
        hkeeps t.link t.offset _ hinv
      simp only [transferLoop] at hrun
      cases hstep : transferStep P sendReceive capacity t with
      | inl result =>
          rw [hstep] at hrun
          cases hrun
          rw [link_of_inl hstep]
          exact hcall
      | inr t' =>
          obtain ⟨x, hx, -⟩ := checks_of_inr hstep
          have hlink : (sendReceive t.link (P.call t).request (P.call t).capacity).2 = t'.link :=
            congrArg Prod.snd hx
          rw [hlink] at hcall
          simp only [hstep] at hrun
          split at hrun
          · exact ih hcall hrun
          · cases hrun
            exact hcall

variable {R : Bytes} {Inv Good : σ → Prop} {received : Bytes}

/-- One accepted portion continues a start of the report. -/
theorem extend_of_truthful (hR : R.length < 2 ^ 16) (htruth : Truthful P sendReceive R Inv Good)
    {t' : Transfer σ} (hstep : transferStep P sendReceive capacity t = .inr t')
    (hinv : Inv t.link) (hgood : Good t'.link) (ht : Accounted capacity received t)
    (hstart : received = R.take received.length) :
    (P.acceptedReply sendReceive t).extend received =
        R.take ((P.acceptedReply sendReceive t).extend received).length ∧
      ((P.acceptedReply sendReceive t).extend received).length + t'.remainderLength.toNat =
        R.length := by
  have hround := round_of_inr hstep
  obtain ⟨x, hcall, hstatus, hfixed, haccepted⟩ := checks_of_inr hstep
  have hserve := htruth.portion t.link t.offset _ x t'.link hinv hcall hgood hstatus hfixed
    haccepted
  have hsize : (UInt16.ofNat R.length).toNat = R.length := UInt16.toNat_ofNat_of_lt' hR
  obtain ⟨hbytes, hsum⟩ := servePortion_inv hsize hserve
  -- the accepted reply is that portion
  have hreply : P.acceptedReply sendReceive t =
      ⟨t.offset, x.response.drop P.fixedSize, (P.lengths x.response).2⟩ := by
    simp only [ReportProtocol.acceptedReply, ReportProtocol.reply, hcall]
  rw [hreply] at hround ⊢
  have hremainder : t'.remainderLength = (P.lengths x.response).2 := hround.remainder_eq
  generalize x.response.drop P.fixedSize = bytes at hround hbytes hsum ⊢
  rw [hremainder]
  by_cases hzero : t.offset = 0
  · have hzero' : t.offset.toNat = 0 := by rw [hzero]; rfl
    rw [hzero', List.drop_zero] at hbytes
    rw [Accepted.extend, if_pos hzero]
    dsimp only
    exact ⟨hbytes, by omega⟩
  · have hlength := hround.length_received ht hzero
    rw [Accepted.extend, if_neg hzero, List.length_append]
    dsimp only
    refine ⟨?_, by omega⟩
    calc received ++ bytes
        = R.take received.length ++ (R.drop received.length).take bytes.length := by
          rw [← hstart, hlength, ← hbytes]
      _ = R.take (received.length + bytes.length) := (List.take_add ..).symm

/-- A round keeps the invariant of the link, and a link that is good after it was good before. -/
theorem link_of_inr (htruth : Truthful P sendReceive R Inv Good) {t' : Transfer σ}
    (hstep : transferStep P sendReceive capacity t = .inr t') (hinv : Inv t.link) :
    Inv t'.link ∧ (Good t'.link → Good t.link) := by
  obtain ⟨x, hcall, -⟩ := checks_of_inr hstep
  have hsend : sendReceive t.link (P.call t).request (P.call t).capacity = (x, t'.link) := hcall
  have hkeeps := htruth.keeps t.link (P.call t).request (P.call t).capacity hinv
  have hbefore := htruth.before t.link (P.call t).request (P.call t).capacity hinv
  rw [hsend] at hkeeps hbefore
  exact ⟨hkeeps, hbefore⟩

/-- A link that is good at the end of a transfer was good at each of its rounds. -/
theorem good_of_transferLoop (htruth : Truthful P sendReceive R Inv Good) (fuel : Nat)
    {t : Transfer σ} {r : Result σ} (hinv : Inv t.link)
    (hrun : transferLoop P sendReceive capacity fuel t = some r) (hgood : Good r.link) :
    Good t.link := by
  induction fuel generalizing t with
  | zero => cases hrun
  | succ fuel ih =>
      simp only [transferLoop] at hrun
      cases hstep : transferStep P sendReceive capacity t with
      | inl result =>
          rw [hstep] at hrun
          cases hrun
          rw [link_of_inl hstep] at hgood
          exact htruth.before _ _ _ hinv hgood
      | inr t' =>
          obtain ⟨hinv', hbefore⟩ := link_of_inr htruth hstep hinv
          simp only [hstep] at hrun
          apply hbefore
          split at hrun
          · exact ih hinv' hrun
          · cases hrun
            exact hgood

/-- From any round on: a success over a link that is still good has brought the whole report. The
induction is on the fuel, with the start of the report that was received before. -/
theorem transferLoop_of_truthful (hR : R.length < 2 ^ 16)
    (htruth : Truthful P sendReceive R Inv Good) (fuel : Nat) {t : Transfer σ} {received : Bytes}
    {r : Result σ} (hinv : Inv t.link) (ht : Accounted capacity received t)
    (hstart : received = R.take received.length)
    (hrun : transferLoop P sendReceive capacity fuel t = some r) (hgood : Good r.link)
    (hstatus : r.status = .success) :
    r.reportSize.toNat = R.length ∧ r.buffer.load 0 R.length = R := by
  induction fuel generalizing t received with
  | zero => cases hrun
  | succ fuel ih =>
      simp only [transferLoop] at hrun
      cases hstep : transferStep P sendReceive capacity t with
      | inl result =>
          rw [hstep] at hrun
          cases hrun
          exact absurd hstatus (result_of_inl hstep).1
      | inr t' =>
          have hnext := ((round_of_inr hstep).accounted rfl ht).2.2
          have hinv' := (link_of_inr htruth hstep hinv).1
          simp only [hstep] at hrun
          by_cases hmore : t'.remainderLength ≠ 0
          · rw [if_pos hmore] at hrun
            have hgood' := good_of_transferLoop htruth fuel hinv' hrun hgood
            exact ih hinv' hnext (extend_of_truthful hR htruth hstep hinv hgood' ht hstart).1 hrun
          · -- no remainder: what was received is all of the report
            rw [if_neg hmore] at hrun
            cases hrun
            obtain ⟨hextend, hsum⟩ := extend_of_truthful hR htruth hstep hinv hgood ht hstart
            have hzero : t'.remainderLength.toNat = 0 := by rw [not_not.1 hmore]; rfl
            rw [hzero, Nat.add_zero] at hsum
            rw [hsum, List.take_length] at hextend
            have htotal := hnext.total_eq
            have hbuffer := hnext.buffer_eq
            rw [hextend, hzero, Nat.add_zero] at htotal
            rw [hextend] at hbuffer
            exact ⟨htotal.symm, hbuffer⟩

/-- **A successful transfer over a link that is still good delivers the report.** -/
theorem getReport_of_truthful (hR : R.length < 2 ^ 16) (htruth : Truthful P sendReceive R Inv Good)
    {fuel : Nat} {link : σ} {buffer : Mem} {r : Result σ} (hinv : Inv link)
    (hrun : getReport P sendReceive fuel link buffer capacity = some r) (hgood : Good r.link)
    (hstatus : r.status = .success) :
    r.reportSize.toNat = R.length ∧ r.buffer.load 0 R.length = R :=
  transferLoop_of_truthful hR htruth fuel hinv (accounted_start link buffer capacity) rfl hrun
    hgood hstatus

end Loop

end SpdmEmu.Report
