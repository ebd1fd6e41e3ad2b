import SpdmEmu.Tsp.Responder

/-!
# What an unprivileged session can see

A session that is neither the primary session of a TSP device nor one of its secondary sessions may
ask for the capabilities, and every other request but `GET_VERSION` is denied before the device is
looked at. So what such a session is told is a function of the capabilities and of its own request
(`unprivilegedReply`), and two devices that have the capabilities and the session roles in common
cannot be told apart over it.
-/

set_option autoImplicit false

namespace SpdmEmu.Tsp

open SpdmEmu.Wire SpdmEmu.Libspdm SpdmEmu.Run

variable {K : CxlTsp}

/-- The responder with a device library that produces its report with `source`. -/
def responderWith (source : ReportSource K) : Machine (State K) Input Reply where
  step s input := cxlTspGetResponse source input.env s input.session input.request

/-- The two devices support the same versions, have the same capabilities and give every session the
same role. Everything else may differ. -/
structure Agree (s₁ s₂ : State K) : Prop where
  versions : s₁.context.supportedTspVersions = s₂.context.supportedTspVersions
  versionsCount : s₁.context.supportedTspVersionsCount = s₂.context.supportedTspVersionsCount
  capabilities : s₁.context.deviceCapabilities = s₂.context.deviceCapabilities
  roles : ∀ sessionId,
    libcxltspGetSessionType s₁.context sessionId = libcxltspGetSessionType s₂.context sessionId

/-- A request of a session of type `OTHER` that is not a `GET_VERSION` request. -/
structure Unprivileged (s : State K) (input : Input) : Prop where
  session : ∃ sessionId, input.session = some sessionId ∧
    libcxltspGetSessionType s.context sessionId = .other
  request : ¬ (K.header.size ≤ input.request.length ∧
    IsRequest K input.request .getTargetTspVersion)

/-- What an unprivileged session is told. -/
def unprivilegedReply (K : CxlTsp) (capabilities : DeviceCapabilities) (request : Bytes) : Reply :=
  let header := K.header.decode request
  if request.length < K.header.size then ⟨.invalidMsgSize, none⟩
  else if header.opCode = K.requestOpCode .getTargetCapabilities then
    if request.length ≠ K.header.size + K.getCapabilitiesRequest.size then
      cxlTspGetResponseError K header (K.errorCode .invalidRequest) 0
    else if header.tspVersion ≠ K.messageVersion10 then
      cxlTspGetResponseError K header (K.errorCode .versionMismatch) 0
    else success K request .getTargetCapabilities (K.getCapabilitiesResponse.encode capabilities)
  else if mCxlTspDispatch.any (header.opCode == K.requestOpCode ·) then denial K
  else ⟨.unsupportedCap, none⟩

section Step

variable {s : State K} {input : Input}

/-- An unprivileged session has the privilege for nothing but the version and the capabilities. -/
theorem not_privileged_of_other {sessionId : UInt32}
    (hother : libcxltspGetSessionType s.context sessionId = .other) {r : Request}
    (hversion : r ≠ .getTargetTspVersion) (hcapabilities : r ≠ .getTargetCapabilities) :
    ¬ Privileged s (some sessionId) r := by
  rintro ⟨sessionId', hsession, hallowed⟩
  cases hsession
  rw [hother] at hallowed
  cases r with
  | getTargetTspVersion => exact hversion rfl
  | getTargetCapabilities => exact hcapabilities rfl
  | setTargetConfiguration => cases hallowed
  | getTargetConfiguration => cases hallowed
  | getTargetConfigurationReport => cases hallowed
  | lockTargetConfiguration => cases hallowed
  | setTargetTeState => cases hallowed

/-- A request for the capabilities is answered from the capabilities alone. -/
theorem getCapabilities_eq {source : ReportSource K} {env : Environment} (s : State K)
    (sessionId : UInt32) {request : Bytes} (hlong : ¬ request.length < K.header.size)
    (hr : IsRequest K request .getTargetCapabilities) :
    cxlTspGetResponse source env s (some sessionId) request =
      (unprivilegedReply K s.context.deviceCapabilities request, s) := by
  have hop : (K.header.decode request).opCode = K.requestOpCode .getTargetCapabilities := hr
  have hhandler : cxlTspGetResponse source env s (some sessionId) request =
      cxlTspGetResponseGetCapabilities s (some sessionId) request := by
    simp only [cxlTspGetResponse, if_neg hlong, hop, find_mCxlTspDispatch]
    rfl
  rw [hhandler]
  simp only [cxlTspGetResponseGetCapabilities, withPrivilege, handleRequest, unprivilegedReply,
    if_neg hlong, if_pos hop, Bool.not_true, Bool.false_eq_true, if_false]
  split
  · rfl
  split
  · rfl
  · rfl

/-- **One request of an unprivileged session.** The reply is a function of the capabilities and the
request, and the device stays as it is. -/
theorem step_of_unprivileged (source : ReportSource K) (h : Unprivileged s input) :
    (responderWith source).step s input =
      (unprivilegedReply K s.context.deviceCapabilities input.request, s) := by
  obtain ⟨⟨sessionId, hsession, hother⟩, hrequest⟩ := h
  show cxlTspGetResponse source input.env s input.session input.request = _
  rw [hsession]
  by_cases hlong : input.request.length < K.header.size
  · simp only [cxlTspGetResponse, unprivilegedReply, if_pos hlong]
  by_cases hcapabilities : IsRequest K input.request .getTargetCapabilities
  · exact getCapabilities_eq s sessionId hlong hcapabilities
  have hop : ¬ (K.header.decode input.request).opCode = K.requestOpCode .getTargetCapabilities :=
    hcapabilities
  by_cases hknown : ∃ r, IsRequest K input.request r
  · -- some other request of the table: it is denied
    obtain ⟨r, hr⟩ := hknown
    have hdenied : Denied s (some sessionId) input.request := by
      refine ⟨by omega, r, hr, not_privileged_of_other hother ?_ ?_⟩
      · rintro rfl
        exact hrequest ⟨by omega, hr⟩
      · rintro rfl
        exact hcapabilities hr
    have hany : mCxlTspDispatch.any ((K.header.decode input.request).opCode ==
        K.requestOpCode ·) = true := by
      refine List.any_eq_true.2 ⟨r, by cases r <;> decide, ?_⟩
      exact beq_iff_eq.2 hr
    rw [cxlTspGetResponse_of_denied hdenied]
    simp only [unprivilegedReply, if_neg hlong, if_neg hop, if_pos hany]
  · have hfind : mCxlTspDispatch.find? (fun r => (K.header.decode input.request).opCode ==
        K.requestOpCode r) = none := by
      refine List.find?_eq_none.2 fun r _ hr => hknown ⟨r, ?_⟩
      exact beq_iff_eq.1 hr
    have hany : ¬ mCxlTspDispatch.any ((K.header.decode input.request).opCode ==
        K.requestOpCode ·) = true := by
      intro h
      obtain ⟨r, -, hr⟩ := List.any_eq_true.1 h
      exact hknown ⟨r, beq_iff_eq.1 hr⟩
    simp only [cxlTspGetResponse, unprivilegedReply, if_neg hlong, hfind, if_neg hop, if_neg hany]

end Step

/-- The same request is unprivileged on two devices with the same session roles. -/
theorem Unprivileged.of_agree {s₁ s₂ : State K} (hagree : Agree s₁ s₂) {input : Input}
    (h : Unprivileged s₁ input) : Unprivileged s₂ input where
  session := by
    obtain ⟨sessionId, hsession, hother⟩ := h.session
    exact ⟨sessionId, hsession, by rw [← hagree.roles, hother]⟩
  request := h.request

/-- **An unprivileged session learns and changes nothing.** Whatever two devices with the same
capabilities and session roles otherwise hold, every sequence of requests of unprivileged sessions
gets the same replies from both, and leaves both as they are. -/
theorem unprivileged_sessions_learn_nothing (source₁ source₂ : ReportSource K) (s₁ s₂ : State K)
    (hagree : Agree s₁ s₂) (inputs : List Input) (h : ∀ i ∈ inputs, Unprivileged s₁ i) :
    (responderWith source₁).outputs s₁ inputs = (responderWith source₂).outputs s₂ inputs ∧
      (responderWith source₁).after s₁ inputs = s₁ ∧
      (responderWith source₂).after s₂ inputs = s₂ := by
  obtain ⟨houtputs₁, hafter₁⟩ := (responderWith source₁).run_of_fixed _
    fun i hi => step_of_unprivileged source₁ (h i hi)
  obtain ⟨houtputs₂, hafter₂⟩ := (responderWith source₂).run_of_fixed _
    fun i hi => step_of_unprivileged source₂ ((h i hi).of_agree hagree)
  refine ⟨?_, hafter₁, hafter₂⟩
  rw [houtputs₁, houtputs₂, hagree.capabilities]

/-- A device without sessions that is locked, has a report and holds keys other than zero. -/
def sampleLocked : State CxlTsp.sample where
  context :=
    { DeviceContext.zeroed _ with
      currentTspState := CxlTsp.sample.tspState .configLocked
      configurationReportSize := 4 }
  secondSessionPsk := Vector.replicate _ (Vector.replicate _ 1)

/-- Session 1 asks an unlocked and a locked device for everything it could learn. -/
theorem unprivileged_sessions_learn_nothing_sample :
    let inputs := [sampleInput .getTargetCapabilities [0, 0],
      sampleInput .getTargetConfiguration [0, 0],
      sampleInput .getTargetConfigurationReport [0, 0], sampleInput .setTargetTeState []]
    let unlocked : State CxlTsp.sample := ⟨DeviceContext.zeroed _, samplePsk⟩
    unlocked.context.currentTspState ≠ sampleLocked.context.currentTspState ∧
      (responderWith cxlTspDeviceGetConfigurationReport).outputs unlocked inputs =
        (responderWith cxlTspDeviceGetConfigurationReport).outputs sampleLocked inputs := by
  intro inputs unlocked
  have hagree : Agree unlocked sampleLocked := ⟨rfl, rfl, rfl, fun _ => rfl⟩
  have hinputs : ∀ i ∈ inputs, Unprivileged unlocked i := by
    intro i hi
    simp only [inputs, List.mem_cons, List.not_mem_nil, or_false] at hi
    rcases hi with rfl | rfl | rfl | rfl
    all_goals exact ⟨⟨1, rfl, by decide⟩, fun h => absurd h.2 (by unfold IsRequest; decide)⟩
  exact ⟨by decide, (unprivileged_sessions_learn_nothing _ _ unlocked sampleLocked hagree inputs
    hinputs).1⟩

end SpdmEmu.Tsp
