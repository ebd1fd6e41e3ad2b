import SpdmEmu.Tsp.Device

/-!
# The two configuration validators

Both TSP libraries have a function `cxl_tsp_validate_configruation`. The responder's checks a
`SET_TARGET_CONFIGURATION` request against the device's capabilities, the requester's checks the
configuration a device reports. Each is translated here block by block; every failed check of one
function returns the same code, so a block is a `Bool`. The result of the module is that the
requester accepts every configuration the responder accepts, and the zeroed one.
-/

set_option autoImplicit false

namespace SpdmEmu.Tsp

/-- `libspdm_onehot0` -/
def libspdmOnehot0 (mask : UInt32) : Bool :=
  mask == 0 || (mask &&& (mask - 1)) == 0

variable (K : CxlTsp)

/-- The masked `memory_encryption_features_enable`. -/
def maskedFeaturesEnable (enable : UInt16) : UInt16 :=
  enable &&& (K.featuresEnable.encryption ||| K.featuresEnable.ckidBasedEncryption |||
    K.featuresEnable.rangeBasedEncryption ||| K.featuresEnable.ckidBasedRequired)

/-- The masked `memory_encryption_algorithm_select`. -/
def maskedAlgorithmSelect (select : UInt32) : UInt32 :=
  select &&& (K.algorithms.aesXts128 ||| K.algorithms.aesXts256 ||| K.algorithms.vendorSpecific)

/-- The masked `te_state_change_and_access_control_features_enable`. -/
def maskedTeFeaturesEnable (enable : UInt16) : UInt16 :=
  enable &&& (K.teFeatures.writeAccessControl ||| K.teFeatures.readAccessControl |||
    K.teFeatures.implicitTeStateChange ||| K.teFeatures.explicitOobTeStateChange |||
    K.teFeatures.explicitIbTeStateChange ||| K.teFeatures.explicitTeStateChangeSanitize)

/-- `x & mask` is not zero. -/
def has (x mask : UInt16) : Bool := x &&& mask != 0

/-! ## The responder's validator -/

namespace Responder

/-- The checks of the memory encryption features. -/
def featuresValid (enable supported : UInt16) : Bool :=
  let E := K.featuresEnable
  let S := K.featuresSupport
  if !has enable E.encryption then
    !(has enable E.ckidBasedEncryption || has enable E.rangeBasedEncryption ||
      has enable E.ckidBasedRequired)
  else
    has supported S.encryption &&
    !(has enable E.ckidBasedEncryption && !has supported S.ckidBasedEncryption) &&
    !(has enable E.rangeBasedEncryption && !has supported S.rangeBasedEncryption) &&
    !(has enable E.ckidBasedRequired && !has supported S.ckidBasedRequired) &&
    !(has enable E.ckidBasedEncryption && has enable E.rangeBasedEncryption) &&
    !(has enable E.ckidBasedEncryption && !has enable E.ckidBasedRequired) &&
    !(has enable E.ckidBasedRequired && !has enable E.ckidBasedEncryption)

/-- The checks of the algorithm selection. -/
def algorithmValid (enable : UInt16) (select supported : UInt32) : Bool :=
  if !has enable K.featuresEnable.encryption then select == 0
  else libspdmOnehot0 select && (select &&& supported) != 0

/-- The checks of the TE state features. -/
def teFeaturesValid (enable supported : UInt16) : Bool :=
  let F := K.teFeatures
  (enable &&& supported) == enable &&
  !(has enable F.writeAccessControl &&
    !has enable (F.explicitOobTeStateChange ||| F.explicitIbTeStateChange)) &&
  !(has enable F.readAccessControl &&
    !has enable (F.implicitTeStateChange ||| F.explicitOobTeStateChange |||
      F.explicitIbTeStateChange)) &&
  !(has enable F.explicitTeStateChangeSanitize &&
    !has enable (F.explicitOobTeStateChange ||| F.explicitIbTeStateChange))

/-- The checks of the out-of-band granularity. -/
def oobGranularityValid (teEnable : UInt16) (granularity supported : UInt32) : Bool :=
  if !has teEnable K.teFeatures.explicitOobTeStateChange then granularity == 0
  else libspdmOnehot0 granularity && (granularity &&& supported) != 0

/-- The checks of the CKID range; the sum is a 32-bit sum. -/
def ckidsValid (enable : UInt16) (ckidBase numberOfCkids supported : UInt32) : Bool :=
  if has enable K.featuresEnable.ckidBasedRequired then
    !(numberOfCkids > supported) && !(ckidBase ≥ 0x2000) && !(ckidBase + numberOfCkids ≥ 0x2000)
  else true

/-- The loop over the in-band granularity entries, with `length_index_bit` as its accumulator. -/
def ibEntriesValid (supported : UInt32) : UInt8 → List IbEntry → Bool
  | _, [] => true
  | lengthIndexBit, entry :: entries =>
      if entry.lengthIndex == 0xff then ibEntriesValid supported lengthIndexBit entries
      else if entry.lengthIndex > 7 then false
      -- index 7 is refused where the device supports the entire memory as a granularity
      else if (supported &&& K.ibGranularityEntireMemory) != 0 && entry.lengthIndex == 7 then false
      else if (lengthIndexBit &&& (1 <<< entry.lengthIndex)) != 0 then false
      else ibEntriesValid supported (lengthIndexBit ||| (1 <<< entry.lengthIndex)) entries

/-- The check of the in-band granularity entries. -/
def ibGranularityValid (teEnable : UInt16) (supported : UInt32) (entries : List IbEntry) : Bool :=
  if has teEnable K.teFeatures.explicitIbTeStateChange then ibEntriesValid K supported 0 entries
  else true

/-- The `switch` on `configuration_validity_flags`. -/
def numberOfSecondarySessions (flags : UInt16) : Option UInt8 :=
  if flags = 0 then some 0
  else if flags = 0x1 then some 1
  else if flags = 0x3 then some 2
  else if flags = 0x7 then some 3
  else if flags = 0xF then some 4
  else none

/-- The check of the number of secondary sessions. -/
def secondarySessionsValid (flags : UInt16) (supported : UInt8) : Bool :=
  match numberOfSecondarySessions flags with
  | none => false
  | some number => !(number > supported)

/-- `cxl_tsp_validate_configruation` of the responder library. -/
def cxlTspValidateConfigruation (request : SetConfiguration K.secondSessionKeySize)
    (capabilities : DeviceCapabilities) : Except ErrorCode Unit :=
  let c := request.configuration
  let enable := maskedFeaturesEnable K c.memoryEncryptionFeaturesEnable
  let select := maskedAlgorithmSelect K c.memoryEncryptionAlgorithmSelect
  let teEnable := maskedTeFeaturesEnable K c.teStateChangeAndAccessControlFeaturesEnable
  if featuresValid K enable capabilities.memoryEncryptionFeaturesSupported &&
      algorithmValid K enable select capabilities.memoryEncryptionAlgorithmsSupported &&
      teFeaturesValid K teEnable capabilities.teStateChangeAndAccessControlFeaturesSupported &&
      oobGranularityValid K teEnable c.explicitOobTeStateGranularity
        capabilities.supportedExplicitOobTeStateGranularity &&
      ckidsValid K enable c.ckidBase c.numberOfCkids capabilities.numberOfCkids &&
      ibGranularityValid K teEnable capabilities.supportedExplicitIbTeStateGranularity
        c.explicitIbTeStateGranularityEntry.toList &&
      secondarySessionsValid request.sessionInfo.configurationValidityFlags
        capabilities.numberOfSecondarySessions
  then .ok ()
  else .error .invalidRequest

end Responder

/-! ## The requester's validator -/

namespace Requester

/-- The checks of the memory encryption features. -/
def featuresValid (enable : UInt16) : Bool :=
  let E := K.featuresEnable
  if !has enable E.encryption then
    !(has enable E.ckidBasedEncryption || has enable E.rangeBasedEncryption ||
      has enable E.ckidBasedRequired)
  else
    !(has enable E.ckidBasedEncryption && has enable E.rangeBasedEncryption) &&
    !(has enable E.ckidBasedEncryption && !has enable E.ckidBasedRequired) &&
    !(has enable E.ckidBasedRequired && !has enable E.ckidBasedEncryption)

/-- The checks of the algorithm selection. -/
def algorithmValid (enable : UInt16) (select : UInt32) : Bool :=
  if !has enable K.featuresEnable.encryption then select == 0
  else libspdmOnehot0 select

/-- The checks of the TE state features. -/
def teFeaturesValid (enable : UInt16) : Bool :=
  let F := K.teFeatures
  !(has enable F.writeAccessControl &&
    !has enable (F.explicitOobTeStateChange ||| F.explicitIbTeStateChange)) &&
  !(has enable F.readAccessControl &&
    !has enable (F.implicitTeStateChange ||| F.explicitOobTeStateChange |||
      F.explicitIbTeStateChange)) &&
  !(has enable F.explicitTeStateChangeSanitize &&
    !has enable (F.explicitOobTeStateChange ||| F.explicitIbTeStateChange))

/-- The checks of the out-of-band granularity. -/
def oobGranularityValid (teEnable : UInt16) (granularity : UInt32) : Bool :=
  if !has teEnable K.teFeatures.explicitOobTeStateChange then granularity == 0
  else libspdmOnehot0 granularity

/-- The checks of the CKID range; the sum is a 32-bit sum. -/
def ckidsValid (enable : UInt16) (ckidBase numberOfCkids : UInt32) : Bool :=
  if has enable K.featuresEnable.ckidBasedRequired then
    !(ckidBase ≥ 0x2000) && !(ckidBase + numberOfCkids ≥ 0x2000)
  else true

/-- The loop over the in-band granularity entries, with `length_index_bit` as its accumulator. -/
def ibEntriesValid : UInt8 → List IbEntry → Bool
  | _, [] => true
  | lengthIndexBit, entry :: entries =>
      if entry.lengthIndex == 0xff then ibEntriesValid lengthIndexBit entries
      else if entry.lengthIndex > 7 then false
      else if (lengthIndexBit &&& (1 <<< entry.lengthIndex)) != 0 then false
      else ibEntriesValid (lengthIndexBit ||| (1 <<< entry.lengthIndex)) entries

/-- The check of the in-band granularity entries. -/
def ibGranularityValid (teEnable : UInt16) (entries : List IbEntry) : Bool :=
  if has teEnable K.teFeatures.explicitIbTeStateChange then ibEntriesValid 0 entries else true

/-- `cxl_tsp_validate_configruation` of the requester library: whether it returns success, and not
`LIBSPDM_STATUS_INVALID_MSG_FIELD`. -/
def cxlTspValidateConfigruation (c : DeviceConfiguration) : Bool :=
  let enable := maskedFeaturesEnable K c.memoryEncryptionFeaturesEnable
  let select := maskedAlgorithmSelect K c.memoryEncryptionAlgorithmSelect
  let teEnable := maskedTeFeaturesEnable K c.teStateChangeAndAccessControlFeaturesEnable
  featuresValid K enable &&
  algorithmValid K enable select &&
  teFeaturesValid K teEnable &&
  oobGranularityValid K teEnable c.explicitOobTeStateGranularity &&
  ckidsValid K enable c.ckidBase c.numberOfCkids &&
  ibGranularityValid K teEnable c.explicitIbTeStateGranularityEntry.toList

end Requester

/-! ## What the responder accepts, the requester accepts -/

variable {K}

theorem featuresValid_of_responder {enable supported : UInt16}
    (h : Responder.featuresValid K enable supported = true) :
    Requester.featuresValid K enable = true := by
  unfold Responder.featuresValid at h
  unfold Requester.featuresValid
  by_cases he : has enable K.featuresEnable.encryption = true
  · simp only [he, Bool.not_true, Bool.false_eq_true, if_false, Bool.and_eq_true] at h ⊢
    exact ⟨⟨h.1.1.2, h.1.2⟩, h.2⟩
  · simp only [he, Bool.not_false, if_true] at h ⊢
    exact h

/-- Where a feature is off both validators ask for `a`; where it is on the responder asks for `b`
and for the support `d`, the requester for `b` alone. -/
theorem unless_of_unless_and {off : Bool} {a b d : Bool}
    (h : (if off then a else b && d) = true) : (if off then a else b) = true := by
  cases off with
  | true => exact h
  | false => exact (Bool.and_eq_true_iff.1 h).1

theorem algorithmValid_of_responder {enable : UInt16} {select supported : UInt32}
    (h : Responder.algorithmValid K enable select supported = true) :
    Requester.algorithmValid K enable select = true := by
  unfold Responder.algorithmValid at h
  unfold Requester.algorithmValid
  exact unless_of_unless_and h

theorem teFeaturesValid_of_responder {enable supported : UInt16}
    (h : Responder.teFeaturesValid K enable supported = true) :
    Requester.teFeaturesValid K enable = true := by
  unfold Responder.teFeaturesValid at h
  unfold Requester.teFeaturesValid
  simp only [Bool.and_eq_true] at h ⊢
  exact ⟨⟨h.1.1.2, h.1.2⟩, h.2⟩

theorem oobGranularityValid_of_responder {teEnable : UInt16} {granularity supported : UInt32}
    (h : Responder.oobGranularityValid K teEnable granularity supported = true) :
    Requester.oobGranularityValid K teEnable granularity = true := by
  unfold Responder.oobGranularityValid at h
  unfold Requester.oobGranularityValid
  exact unless_of_unless_and h

theorem ckidsValid_of_responder {enable : UInt16} {ckidBase numberOfCkids supported : UInt32}
    (h : Responder.ckidsValid K enable ckidBase numberOfCkids supported = true) :
    Requester.ckidsValid K enable ckidBase numberOfCkids = true := by
  unfold Responder.ckidsValid at h
  unfold Requester.ckidsValid
  split at h
  · next he =>
      rw [if_pos he]
      simp only [Bool.and_eq_true] at h ⊢
      exact ⟨h.1.2, h.2⟩
  · next he => rw [if_neg he]

/-- The two loops keep the same accumulator; the responder's rejects more. -/
theorem ibEntriesValid_of_responder {supported : UInt32} (entries : List IbEntry) (bit : UInt8)
    (h : Responder.ibEntriesValid K supported bit entries = true) :
    Requester.ibEntriesValid bit entries = true := by
  -- along the loop: both accumulators collect the same length indices
  induction entries generalizing bit with
  | nil => rfl
  | cons entry entries ih =>
      unfold Responder.ibEntriesValid at h
      unfold Requester.ibEntriesValid
      split at h
      · next hskip =>
          rw [if_pos hskip]
          exact ih bit h
      next hskip =>
      rw [if_neg hskip]
      split at h
      · cases h
      next hrange =>
      rw [if_neg hrange]
      split at h
      · cases h
      split at h
      · cases h
      next hfresh =>
      rw [if_neg hfresh]
      exact ih _ h

theorem ibGranularityValid_of_responder {teEnable : UInt16} {supported : UInt32}
    {entries : List IbEntry}
    (h : Responder.ibGranularityValid K teEnable supported entries = true) :
    Requester.ibGranularityValid K teEnable entries = true := by
  unfold Responder.ibGranularityValid at h
  unfold Requester.ibGranularityValid
  split at h
  · next he =>
      rw [if_pos he]
      exact ibEntriesValid_of_responder entries 0 h
  · next he => rw [if_neg he]

/-- **Every configuration the responder accepts is accepted by the requester.** -/
theorem requester_accepts_of_responder_accepts {request : SetConfiguration K.secondSessionKeySize}
    {capabilities : DeviceCapabilities}
    (h : Responder.cxlTspValidateConfigruation K request capabilities = .ok ()) :
    Requester.cxlTspValidateConfigruation K request.configuration = true := by
  unfold Responder.cxlTspValidateConfigruation at h
  simp only at h
  split at h
  · next hall =>
      simp only [Bool.and_eq_true] at hall
      obtain ⟨⟨⟨⟨⟨⟨hfeatures, halgorithm⟩, hte⟩, hoob⟩, hckids⟩, hib⟩, -⟩ := hall
      simp only [Requester.cxlTspValidateConfigruation, Bool.and_eq_true]
      exact ⟨⟨⟨⟨⟨featuresValid_of_responder hfeatures, algorithmValid_of_responder halgorithm⟩,
        teFeaturesValid_of_responder hte⟩, oobGranularityValid_of_responder hoob⟩,
        ckidsValid_of_responder hckids⟩, ibGranularityValid_of_responder hib⟩
  · cases h

theorem has_zero (mask : UInt16) : has 0 mask = false := by
  simp [has]

/-- The configuration of a device that was never configured is accepted by the requester. -/
theorem requester_accepts_zeroed :
    Requester.cxlTspValidateConfigruation K DeviceConfiguration.zeroed = true := by
  simp [Requester.cxlTspValidateConfigruation, DeviceConfiguration.zeroed, maskedFeaturesEnable,
    maskedAlgorithmSelect, maskedTeFeaturesEnable, Requester.featuresValid,
    Requester.algorithmValid, Requester.teFeaturesValid, Requester.oobGranularityValid,
    Requester.ckidsValid, Requester.ibGranularityValid, has_zero]

end SpdmEmu.Tsp
