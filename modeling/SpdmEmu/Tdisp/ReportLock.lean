import SpdmEmu.Tdisp.Requester
import SpdmEmu.Tdisp.Frame

/-!
# The lock behind a served report

`LOCK_INTERFACE` generates the interface report, and `GET_DEVICE_INTERFACE_REPORT` serves it without
looking at the state of the interface; `STOP_INTERFACE` unlocks the interface and leaves the report
where it is. So what is served to a locked or running interface is a slice of the report of the lock
that the interface is in, which is `ReportOf`, and an unlocked interface is served the report of a
lock that is over. Which of the two it is depends on the requests since the last lock alone:
`engaged_step_iff` says which of them lock and unlock.
-/

set_option autoImplicit false

namespace SpdmEmu.Tdisp

open SpdmEmu.Wire SpdmEmu.Libspdm SpdmEmu.Report SpdmEmu.Run

variable {K : PciTdisp}

/-- The report data of a response: what follows its fixed part. -/
def servedData (e : ResponderEvent K) : Bytes :=
  (e.output.written.getD []).drop (K.header.size + K.deviceInterfaceReportResponse.size)

/-- The offset a report request asks for. -/
def requestedOffset (e : ResponderEvent K) : Nat :=
  (K.getDeviceInterfaceReportRequest.decode (e.input.request.drop K.header.size)).offset.toNat

/-- The served data is what the report of a context has at the requested offset. -/
def ServedFrom (e : ResponderEvent K) (ctx : InterfaceContext K) : Prop :=
  servedData e = (ctx.report.drop (requestedOffset e)).take (servedData e).length

/-- The event is a successful lock that left the report of the context. -/
def GeneratedBy (ctx : InterfaceContext K) (l : ResponderEvent K) : Prop :=
  Succeeded .lockInterface l ∧ l.after.report = ctx.report

/-- A locked or running interface has the report of a lock since which it was never unlocked. -/
def ReportOf (H : List (ResponderEvent K)) (ctx : InterfaceContext K) : Prop :=
  ctx.Engaged → Since H (GeneratedBy ctx) (fun x => x.after.Engaged)

/-! ## One step -/

/-- A step that keeps the report and does not lock keeps the lock behind the report. -/
theorem ReportOf.snoc {H : List (ResponderEvent K)} {ctx : InterfaceContext K}
    (h : ReportOf H ctx) {e : ResponderEvent K} (hbefore : e.after.Engaged → ctx.Engaged)
    (hreport : e.after.report = ctx.report) : ReportOf (H ++ [e]) e.after := by
  intro hengaged
  have hsince := Since.snoc (h (hbefore hengaged)) hengaged
  refine hsince.imp fun l hl => ⟨hl.1, ?_⟩
  rw [hreport]
  exact hl.2

theorem reportOf_of_unlocked {H : List (ResponderEvent K)} {ctx : InterfaceContext K}
    (h : ctx.tdiState = K.tdiState .configUnlocked) : ReportOf H ctx :=
  fun hengaged => absurd h (not_unlocked_of_engaged hengaged)

/-- A step leaves the interface unlocked, or with the report it had, or it is a lock. -/
theorem report_cases {env : Environment K} {ctx ctx' : InterfaceContext K} {request : Bytes}
    {reply : Reply} (h : Effect env ctx request reply ctx') :
    ctx'.tdiState = K.tdiState .configUnlocked ∨
      (ctx'.Engaged → ctx.Engaged) ∧ ctx'.report = ctx.report ∨
      (K.header.decode request).messageType = K.requestType .lockInterface ∧
        Answers K request .lockInterface reply := by
  cases h with
  | dropped _ => exact .inr (.inl ⟨id, rfl⟩)
  | rejected _ => exact .inr (.inl ⟨id, rfl⟩)
  | version _ => exact .inl rfl
  | capabilities _ _ => exact .inr (.inl ⟨id, rfl⟩)
  | noEntropy _ _ _ _ _ => exact .inr (.inl ⟨id, rfl⟩)
  | lock htype _ _ _ => exact .inr (.inr ⟨htype, _, rfl⟩)
  | report _ _ _ => exact .inr (.inl ⟨id, rfl⟩)
  | state _ _ => exact .inr (.inl ⟨id, rfl⟩)
  | start _ _ _ hlocked _ => exact .inr (.inl ⟨fun _ => .inl hlocked, rfl⟩)
  | stop _ _ _ => exact .inl rfl

theorem reportOf_step (H : List (ResponderEvent K)) (ctx : InterfaceContext K) (i : Input K)
    (h : ReportOf H ctx) :
    ReportOf (H ++ [(responder K).event ctx i]) ((responder K).step ctx i).2 := by
  rcases report_cases (effect_responder ctx i) with hunlocked | ⟨hbefore, hreport⟩ | hlock
  · exact reportOf_of_unlocked hunlocked
  · exact h.snoc (e := (responder K).event ctx i) hbefore hreport
  · exact fun _ => Since.last ⟨hlock, rfl⟩

theorem reportOf_history (is : List (Input K)) :
    ReportOf ((responder K).history (InterfaceContext.zeroed K) is)
      ((responder K).after (InterfaceContext.zeroed K) is) :=
  (responder K).invariant_history ReportOf reportOf_step
    (reportOf_of_unlocked K.tdiState_configUnlocked.symm) is

/-! ## The requests that unlock -/

/-- The request unlocks the interface: it is a successful stop or a well-formed version request. -/
def Unlocks (e : ResponderEvent K) : Prop :=
  Succeeded .stopInterface e ∨ WellFormedRequest K .getVersion e.input.request

theorem not_engaged_of_unlocked {ctx : InterfaceContext K}
    (h : ctx.tdiState = K.tdiState .configUnlocked) : ¬ ctx.Engaged :=
  fun hengaged => not_unlocked_of_engaged hengaged h

/-- A step that keeps the state of the interface, and of the wrong kind to lock or stop it. -/
theorem engaged_iff_of_kept {e : ResponderEvent K} (hkept : e.after.Engaged ↔ e.before.Engaged)
    (hlock : ¬ Succeeded .lockInterface e) (hunlocks : ¬ Unlocks e) :
    e.after.Engaged ↔ Succeeded .lockInterface e ∨ e.before.Engaged ∧ ¬ Unlocks e := by
  rw [hkept]
  exact ⟨fun h => .inr ⟨h, hunlocks⟩, fun h => (h.resolve_left hlock).1⟩

/-- After a step the interface is engaged if the step locked it, or if it was engaged and the step
did not unlock it. -/
theorem engaged_step_iff (ctx : InterfaceContext K) (i : Input K) :
    ((responder K).step ctx i).2.Engaged ↔
      Succeeded .lockInterface ((responder K).event ctx i) ∨
        ctx.Engaged ∧ ¬ Unlocks ((responder K).event ctx i) := by
  by_cases hversion : (K.header.decode i.request).messageType = K.requestType .getVersion
  · -- the type is that of no lock and no stop
    have hother : ∀ r : Request, r ≠ .getVersion →
        ¬ Succeeded r ((responder K).event ctx i) := fun r hr h =>
      hr (K.requestType_injective (h.1.symm.trans hversion))
    by_cases hform : WellFormedRequest K .getVersion i.request
    · refine iff_of_false ?_ ?_
      · rw [after_of_wellFormedGetVersion hform]
        exact not_engaged_of_unlocked rfl
      · rintro (hlock | ⟨-, hkept⟩)
        · exact hother .lockInterface nofun hlock
        · exact hkept (.inr hform)
    · refine engaged_iff_of_kept (e := (responder K).event ctx i) ?_ (hother _ nofun) ?_
      · exact iff_of_eq (congrArg InterfaceContext.Engaged
          (context_of_malformed i.env ctx hversion hform))
      · rintro (hstop | hwell)
        · exact hother .stopInterface nofun hstop
        · exact hform hwell
  · have hform : ¬ WellFormedRequest K .getVersion i.request := fun h => hversion h.messageType
    have heff := effect_responder ctx i
    unfold Machine.event
    generalize ((responder K).step ctx i).1 = reply at heff ⊢
    generalize ((responder K).step ctx i).2 = ctx' at heff ⊢
    -- an answer of another kind is no successful lock and no successful stop
    have hkept : ∀ kind, kind ≠ .lockInterface → kind ≠ .stopInterface →
        Answers K i.request kind reply → (ctx'.Engaged ↔ ctx.Engaged) →
        (ctx'.Engaged ↔ Succeeded .lockInterface ⟨ctx, i, reply, ctx'⟩ ∨
          ctx.Engaged ∧ ¬ Unlocks ⟨ctx, i, reply, ctx'⟩) := by
      intro kind hlock hstop hanswer hiff
      refine engaged_iff_of_kept (e := ⟨ctx, i, reply, ctx'⟩) hiff ?_ ?_
      · exact fun h => hlock (kind_unique hanswer h.2)
      · rintro (h | h)
        · exact hstop (kind_unique hanswer h.2)
        · exact hform h
    cases heff with
    | dropped _ =>
        refine engaged_iff_of_kept (e := ⟨ctx, i, _, ctx⟩) Iff.rfl ?_ ?_
        · rintro ⟨-, _, h⟩
          cases h
        · rintro (⟨-, _, h⟩ | h)
          · cases h
          · exact hform h
    | rejected ha => exact hkept .error nofun nofun ha Iff.rfl
    | version htype => exact absurd htype hversion
    | capabilities _ _ => exact hkept .capabilities nofun nofun ⟨_, rfl⟩ Iff.rfl
    | noEntropy _ _ _ _ ha => exact hkept .error nofun nofun ha Iff.rfl
    | lock htype _ _ _ =>
        exact iff_of_true (.inl (generateReport_tdiState _ _)) (.inl ⟨htype, _, rfl⟩)
    | report _ _ _ => exact hkept .deviceInterfaceReport nofun nofun ⟨_, rfl⟩ Iff.rfl
    | state _ _ => exact hkept .deviceInterfaceState nofun nofun ⟨_, rfl⟩ Iff.rfl
    | start _ _ _ hlocked _ =>
        exact hkept .startInterface nofun nofun ⟨_, rfl⟩
          (iff_of_true (.inr rfl) (.inl hlocked))
    | stop htype _ _ =>
        refine iff_of_false (not_engaged_of_unlocked rfl) ?_
        rintro (hlock | ⟨-, hnot⟩)
        · cases kind_unique hlock.2 ⟨_, rfl⟩
        · exact hnot (.inl ⟨htype, _, rfl⟩)

/-- The interface is engaged exactly when it was locked and no request since has unlocked it. -/
theorem engaged_iff_since (is : List (Input K)) :
    ((responder K).after (InterfaceContext.zeroed K) is).Engaged ↔
      Since ((responder K).history (InterfaceContext.zeroed K) is) (Succeeded .lockInterface)
        (fun x => ¬ Unlocks x) := by
  refine (responder K).invariant_history
    (fun H ctx => ctx.Engaged ↔ Since H (Succeeded .lockInterface) (fun x => ¬ Unlocks x)) ?_ ?_ is
  · intro H ctx i h
    rw [engaged_step_iff, Since.snoc_iff, h]
  · refine iff_of_false (not_engaged_of_unlocked K.tdiState_configUnlocked.symm) ?_
    rintro ⟨_, _, hnone, -⟩
    cases hnone

/-! ## What is served -/

/-- A slice is determined by its length. -/
theorem eq_take_length {α : Type} {xs ys : List α} {n : Nat} (h : xs = ys.take n) :
    xs = ys.take xs.length := by
  rw [h, List.length_take, List.take_eq_take_min]

/-- A portion is a slice of the report. -/
theorem bytes_of_servePortion {limit size offset length portion remainder : UInt16}
    {report bytes : Bytes}
    (h : servePortion limit report size offset length = some (portion, remainder, bytes)) :
    bytes = ((report.take size.toNat).drop offset.toNat).take portion.toNat := by
  rw [← servePortion_take] at h
  unfold servePortion at h
  simp only at h
  split_ifs at h
  cases h
  rfl

/-- Whatever the state of the interface, what is served is a portion of the report buffer. -/
theorem servePortion_of_succeeded {ctx : InterfaceContext K} {i : Input K}
    (h : Succeeded .getDeviceInterfaceReport ((responder K).event ctx i)) :
    ∃ portion remainder,
      servePortion interfaceReportPortionLen ctx.interfaceReport.toList ctx.interfaceReportSize
        (K.getDeviceInterfaceReportRequest.decode (i.request.drop K.header.size)).offset
        (K.getDeviceInterfaceReportRequest.decode (i.request.drop K.header.size)).length =
          some (portion, remainder, servedData ((responder K).event ctx i)) := by
  obtain ⟨-, hanswer⟩ := h
  have heff := effect_responder ctx i
  have hout : ((responder K).event ctx i).output = ((responder K).step ctx i).1 := rfl
  have hin : ((responder K).event ctx i).input = i := rfl
  generalize (responder K).event ctx i = e at hanswer hout hin ⊢
  generalize ((responder K).step ctx i).1 = reply at heff hout
  generalize ((responder K).step ctx i).2 = ctx' at heff
  subst hin
  rw [hout] at hanswer
  -- only the report effect answers with a report response
  cases heff with
  | dropped _ => obtain ⟨_, h⟩ := hanswer; cases h
  | rejected ha => cases kind_unique hanswer ha
  | version _ => cases kind_unique hanswer ⟨_, rfl⟩
  | capabilities _ _ => cases kind_unique hanswer ⟨_, rfl⟩
  | noEntropy _ _ _ _ ha => cases kind_unique hanswer ha
  | lock _ _ _ _ => cases kind_unique hanswer ⟨_, rfl⟩
  | @report portion remainder bytes _ _ hserve =>
      have hdata : servedData e = bytes := by
        rw [servedData, hout, ← List.drop_drop]
        simp [message]
      rw [hdata]
      exact ⟨portion, remainder, hserve⟩
  | state _ _ => cases kind_unique hanswer ⟨_, rfl⟩
  | start _ _ _ _ _ => cases kind_unique hanswer ⟨_, rfl⟩
  | stop _ _ _ => cases kind_unique hanswer ⟨_, rfl⟩

theorem servedFrom_before {ctx : InterfaceContext K} {i : Input K}
    (h : Succeeded .getDeviceInterfaceReport ((responder K).event ctx i)) :
    ServedFrom ((responder K).event ctx i) ctx := by
  obtain ⟨portion, remainder, hserve⟩ := servePortion_of_succeeded h
  exact eq_take_length (bytes_of_servePortion hserve)

/-- **A report is served to a locked interface, from the report of the lock it is in, exactly when
no successful `STOP_INTERFACE` and no well-formed `GET_VERSION` came since the last successful
`LOCK_INTERFACE`.** In every run from the zeroed context, for every report request that is answered
with report data. -/
theorem report_of_locked_interface_iff (is : List (Input K)) (j : Nat) (e : ResponderEvent K)
    (hj : ((responder K).history (InterfaceContext.zeroed K) is)[j]? = some e)
    (hserved : Succeeded .getDeviceInterfaceReport e) :
    (e.before.Engaged ∧
      Since (((responder K).history (InterfaceContext.zeroed K) is).take j)
        (fun l => Succeeded .lockInterface l ∧ ServedFrom e l.after) (fun x => x.after.Engaged)) ↔
      Since (((responder K).history (InterfaceContext.zeroed K) is).take j)
        (Succeeded .lockInterface) (fun x => ¬ Unlocks x) := by
  obtain ⟨he, htake⟩ := (responder K).event_of_getElem? hj
  have hbefore : e.before = (responder K).after (InterfaceContext.zeroed K) (is.take j) := by
    rw [he]
    rfl
  rw [htake, ← engaged_iff_since, ← hbefore]
  refine ⟨And.left, fun hengaged => ⟨hengaged, ?_⟩⟩
  have hfrom : ServedFrom e e.before := by
    rw [he] at hserved ⊢
    exact servedFrom_before hserved
  rw [hbefore] at hengaged hfrom
  refine (reportOf_history (is.take j) hengaged).imp fun l hl => ⟨hl.1, ?_⟩
  rw [ServedFrom, hl.2]
  exact hfrom

/-- A request for interface 7 in the sample format, handled with a fixed random nonce. -/
private def reportRun (r : Request) (body : Bytes) : Input PciTdisp.sample where
  request := PciTdisp.sample.header.encode ⟨0x10, PciTdisp.sample.requestType r, ⟨7, 0⟩⟩ ++ body
  env := ⟨some (Vector.replicate 32 5), jsonSupportOff⟩

/-- The report of a locked interface is asked for, and then that of a stopped one. -/
private def stoppedRun : List (Input PciTdisp.sample) :=
  [reportRun .getVersion [], reportRun .lockInterface (List.replicate 20 0),
    reportRun .getDeviceInterfaceReport [0, 0, 16, 0], reportRun .stopInterface [],
    reportRun .getDeviceInterfaceReport [0, 0, 16, 0]]

/-- The context after the first `n` requests of the run. -/
private def stoppedAfter (n : Nat) : InterfaceContext PciTdisp.sample :=
  (responder PciTdisp.sample).after (InterfaceContext.zeroed _) (stoppedRun.take n)

/-- The report request to the context after `n` requests. -/
private def reportAfter (n : Nat) : ResponderEvent PciTdisp.sample :=
  (responder PciTdisp.sample).event (stoppedAfter n)
    (reportRun .getDeviceInterfaceReport [0, 0, 16, 0])

private theorem succeeded_reportAfter_two :
    Succeeded .getDeviceInterfaceReport (reportAfter 2) :=
  ⟨by decide, _, rfl⟩

theorem report_of_locked_interface_sample :
    ((responder PciTdisp.sample).history (InterfaceContext.zeroed _) stoppedRun)[2]? =
      some (reportAfter 2) ∧
    Succeeded .getDeviceInterfaceReport (reportAfter 2) ∧
    ((reportAfter 2).before.Engaged ∧
      Since (((responder PciTdisp.sample).history (InterfaceContext.zeroed _) stoppedRun).take 2)
        (fun l => Succeeded .lockInterface l ∧ ServedFrom (reportAfter 2) l.after)
        (fun x => x.after.Engaged) ↔
      Since (((responder PciTdisp.sample).history (InterfaceContext.zeroed _) stoppedRun).take 2)
        (Succeeded .lockInterface) (fun x => ¬ Unlocks x)) :=
  ⟨rfl, succeeded_reportAfter_two,
    report_of_locked_interface_iff stoppedRun 2 (reportAfter 2) rfl succeeded_reportAfter_two⟩

/-- After the stop the interface is unlocked, and the report request is answered with 16 bytes of
the report of the lock that is over. -/
theorem report_served_after_stop :
    ((responder PciTdisp.sample).history (InterfaceContext.zeroed _) stoppedRun)[4]? =
      some (reportAfter 4) ∧
    Succeeded .getDeviceInterfaceReport (reportAfter 4) ∧
    (servedData (reportAfter 4)).length = 16 ∧ ¬ (reportAfter 4).before.Engaged := by
  have hserved : Succeeded .getDeviceInterfaceReport (reportAfter 4) := ⟨by decide, _, rfl⟩
  refine ⟨rfl, hserved, ?_, fun h => not_unlocked_of_engaged h (by decide)⟩
  obtain ⟨portion, remainder, hserve⟩ := servePortion_of_succeeded hserved
  have hinside : (0 : UInt16).toNat < (stoppedAfter 4).interfaceReportSize.toNat := by decide
  obtain ⟨portion', remainder', hserve', hportion, -⟩ := servePortion_eq_some
    (stoppedAfter 4).interfaceReport.toList
    (by decide : 0 < interfaceReportPortionLen.toNat) (by decide : 0 < (16 : UInt16).toNat) hinside
  have hsize : (stoppedAfter 4).interfaceReportSize.toNat ≤
      (stoppedAfter 4).interfaceReport.toList.length := by
    rw [Vector.length_toList]
    decide
  have heq : portion = portion' := (Prod.mk.inj (Option.some.inj (hserve.symm.trans hserve'))).1
  have hlength : (servedData (reportAfter 4)).length = portion.toNat :=
    (length_of_servePortion hsize hserve).2
  rw [hlength, heq, hportion]
  decide

end SpdmEmu.Tdisp
