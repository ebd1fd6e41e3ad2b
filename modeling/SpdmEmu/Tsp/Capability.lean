import SpdmEmu.Tsp.Requester
import SpdmEmu.Tsp.ValidConfiguration

/-!
# The capabilities of a device and the configurations made for it

`cxl_tsp_get_capabilities` of the requester library reads the capability record of a device and
checks it with `cxl_tsp_validate_capability`. A configuration that the responder accepts under such
a record is sound as a whole: the CKID range does not wrap, because the record bounds the number of
CKIDs, and secondary sessions are only flagged where the record advertises them. A configuration
that the requester reads back from a device is checked without such a bound, and its CKID range can
wrap.
-/

set_option autoImplicit false

namespace SpdmEmu.Tsp

open SpdmEmu.Wire SpdmEmu.Libspdm

/-! ## The requester's check -/

namespace Capability

variable (K : CxlTsp)

/-- The masked `memory_encryption_features_supported`. The mask has one flag that no check reads,
`CXL_TSP_MEMORY_ENCRYPTION_FEATURES_SUPPORT_INITIATOR_SUPPLIED_ENTROPY`. -/
def maskedFeaturesSupported (initiatorSuppliedEntropy supported : UInt16) : UInt16 :=
  supported &&& (K.featuresSupport.encryption ||| K.featuresSupport.ckidBasedEncryption |||
    K.featuresSupport.rangeBasedEncryption ||| initiatorSuppliedEntropy |||
    K.featuresSupport.ckidBasedRequired)

/-- The masked `configuration_features_supported`. -/
def maskedConfigurationFeatures (supported : UInt16) : UInt16 :=
  supported &&& (K.configurationFeaturesLockedTargetFwUpdate |||
    K.configurationFeaturesAdditionalSpdmSessions)

/-- The checks of the memory encryption features. -/
def featuresValid (supported : UInt16) : Bool :=
  let S := K.featuresSupport
  if !has supported S.encryption then
    !(has supported S.ckidBasedEncryption || has supported S.rangeBasedEncryption ||
      has supported S.ckidBasedRequired)
  else !(has supported S.ckidBasedRequired && !has supported S.ckidBasedEncryption)

/-- The check of the algorithms. -/
def algorithmsValid (features : UInt16) (algorithms : UInt32) : Bool :=
  if has features K.featuresSupport.encryption then algorithms != 0 else true

/-- The checks of the number of range based keys. -/
def rangeBasedKeysValid (features number : UInt16) : Bool :=
  if !has features K.featuresSupport.rangeBasedEncryption then number == 0 else number != 0

/-- The checks of the TE state features; the in-band granularity is not masked here. -/
def teFeaturesValid (supported : UInt16) (ibGranularity : UInt32) : Bool :=
  let F := K.teFeatures
  !(has supported F.writeAccessControl &&
    !has supported (F.explicitOobTeStateChange ||| F.explicitIbTeStateChange)) &&
  !(has supported F.readAccessControl &&
    !has supported (F.implicitTeStateChange ||| F.explicitOobTeStateChange |||
      F.explicitIbTeStateChange)) &&
  !(has supported F.implicitTeStateChange &&
    (!has supported F.explicitIbTeStateChange || (ibGranularity &&& K.ibGranularity64B) == 0)) &&
  !(has supported F.explicitTeStateChangeSanitize &&
    !has supported (F.explicitOobTeStateChange ||| F.explicitIbTeStateChange))

/-- The checks of a granularity that a feature turns on. -/
def granularityValid (supported flag : UInt16) (granularity : UInt32) : Bool :=
  if !has supported flag then granularity == 0 else granularity != 0

/-- The check of the number of CKIDs. -/
def ckidsValid (features : UInt16) (numberOfCkids : UInt32) : Bool :=
  if has features K.featuresSupport.ckidBasedEncryption then
    !(numberOfCkids < 2 || numberOfCkids ≥ 0x2000)
  else true

/-- The checks of the number of secondary sessions. -/
def secondarySessionsValid (features : UInt16) (number : UInt8) : Bool :=
  if !has features K.configurationFeaturesAdditionalSpdmSessions then number == 0
  else !(number == 0 || number > 4)

/-- `cxl_tsp_validate_capability`: whether it returns success, and not
`LIBSPDM_STATUS_INVALID_MSG_FIELD`. -/
def cxlTspValidateCapability (initiatorSuppliedEntropy : UInt16) (c : DeviceCapabilities) : Bool :=
  let features :=
    maskedFeaturesSupported K initiatorSuppliedEntropy c.memoryEncryptionFeaturesSupported
  let te := maskedTeFeaturesEnable K c.teStateChangeAndAccessControlFeaturesSupported
  featuresValid K features &&
  algorithmsValid K features (maskedAlgorithmSelect K c.memoryEncryptionAlgorithmsSupported) &&
  rangeBasedKeysValid K features c.memoryEncryptionNumberOfRangeBasedKeys &&
  teFeaturesValid K te c.supportedExplicitIbTeStateGranularity &&
  granularityValid te K.teFeatures.explicitOobTeStateChange
    c.supportedExplicitOobTeStateGranularity &&
  granularityValid te K.teFeatures.explicitIbTeStateChange
    (c.supportedExplicitIbTeStateGranularity &&& (0x7FF ||| K.ibGranularityEntireMemory)) &&
  ckidsValid K features c.numberOfCkids &&
  secondarySessionsValid K (maskedConfigurationFeatures K c.configurationFeaturesSupported)
    c.numberOfSecondarySessions

end Capability

/-- The request of `cxl_tsp_get_capabilities`. -/
def getCapabilitiesMessage (K : CxlTsp) : Bytes :=
  K.header.encode (requestHeader K .getTargetCapabilities) ++
    K.getCapabilitiesRequest.encode ()

/-- `cxl_tsp_get_capabilities`: the status and, on success, the capabilities. -/
def cxlTspGetCapabilities {σ : Type} (K : CxlTsp) (initiatorSuppliedEntropy : UInt16)
    (sendReceive : SendReceive σ) (link : σ) : Except LibspdmReturn DeviceCapabilities × σ :=
  let (exchange, link) := sendReceive link (getCapabilitiesMessage K)
    (K.header.size + K.getCapabilitiesResponse.size)
  let response := exchange.response
  let header := K.header.decode response
  let capabilities := K.getCapabilitiesResponse.decode (response.drop K.header.size)
  if exchange.status.isError then (.error exchange.status, link)
  else if response.length ≠ K.header.size + K.getCapabilitiesResponse.size then
    (.error .invalidMsgSize, link)
  else if header.tspVersion ≠ K.messageVersion10 then (.error .invalidMsgField, link)
  else if header.opCode ≠ K.responseOpCode .getTargetCapabilities then
    (.error .invalidMsgField, link)
  else if !Capability.cxlTspValidateCapability K initiatorSuppliedEntropy capabilities then
    (.error .invalidMsgField, link)
  else (.ok capabilities, link)

variable {K : CxlTsp}

/-! ## Sound configurations -/

/-- A configuration that fits the capabilities of a device. The features and the algorithm selection
of the request are masked as the validator masks them. -/
structure SoundConfiguration (K : CxlTsp) (request : SetConfiguration K.secondSessionKeySize)
    (capabilities : DeviceCapabilities) : Prop where
  encryption :
    Enabled (maskedFeaturesEnable K request.configuration.memoryEncryptionFeaturesEnable)
      K.featuresEnable.encryption →
    Enabled capabilities.memoryEncryptionFeaturesSupported K.featuresSupport.encryption
  ckidBasedEncryption :
    Enabled (maskedFeaturesEnable K request.configuration.memoryEncryptionFeaturesEnable)
      K.featuresEnable.ckidBasedEncryption →
    Enabled capabilities.memoryEncryptionFeaturesSupported K.featuresSupport.ckidBasedEncryption
  rangeBasedEncryption :
    Enabled (maskedFeaturesEnable K request.configuration.memoryEncryptionFeaturesEnable)
      K.featuresEnable.rangeBasedEncryption →
    Enabled capabilities.memoryEncryptionFeaturesSupported K.featuresSupport.rangeBasedEncryption
  ckidBasedRequired :
    Enabled (maskedFeaturesEnable K request.configuration.memoryEncryptionFeaturesEnable)
      K.featuresEnable.ckidBasedRequired →
    Enabled capabilities.memoryEncryptionFeaturesSupported K.featuresSupport.ckidBasedRequired
  teFeatures :
    flags (maskedTeFeaturesEnable K
      request.configuration.teStateChangeAndAccessControlFeaturesEnable).toNat ⊆
      flags capabilities.teStateChangeAndAccessControlFeaturesSupported.toNat
  ckids :
    Enabled (maskedFeaturesEnable K request.configuration.memoryEncryptionFeaturesEnable)
      K.featuresEnable.ckidBasedEncryption →
    request.configuration.ckidBase.toNat + request.configuration.numberOfCkids.toNat < 0x2000 ∧
      request.configuration.numberOfCkids.toNat ≤ capabilities.numberOfCkids.toNat ∧
      capabilities.numberOfCkids.toNat < 0x2000
  algorithm :
    Enabled (maskedFeaturesEnable K request.configuration.memoryEncryptionFeaturesEnable)
      K.featuresEnable.encryption →
    SelectsOne (maskedAlgorithmSelect K request.configuration.memoryEncryptionAlgorithmSelect)
      capabilities.memoryEncryptionAlgorithmsSupported
  oobGranularity : request.configuration.explicitOobTeStateGranularity ≠ 0 →
    Enabled capabilities.teStateChangeAndAccessControlFeaturesSupported
      K.teFeatures.explicitOobTeStateChange
  sessions : flags request.sessionInfo.configurationValidityFlags.toNat ⊆
    Set.Iio secondSessionCount
  advertised : (flags request.sessionInfo.configurationValidityFlags.toNat).Nonempty →
    Enabled capabilities.configurationFeaturesSupported
      K.configurationFeaturesAdditionalSpdmSessions

theorem enabled_mono {word word' flag : UInt16} (hsub : flags word.toNat ⊆ flags word'.toNat)
    (h : Enabled word flag) : Enabled word' flag :=
  h.mono (Set.inter_subset_inter_left _ hsub)

theorem enabled_of_masked {word mask flag : UInt16} (h : Enabled (word &&& mask) flag) :
    Enabled word flag := by
  refine enabled_mono ?_ h
  rw [UInt16.toNat_and, flags_and]
  exact Set.inter_subset_left

/-- A mask that has all the bits of a flag hides nothing of it. -/
theorem enabled_masked {word mask flag : UInt16} (hflag : flags flag.toNat ⊆ flags mask.toNat)
    (h : Enabled word flag) : Enabled (word &&& mask) flag := by
  obtain ⟨i, hword, hi⟩ := h
  refine ⟨i, ?_, hi⟩
  rw [UInt16.toNat_and, flags_and]
  exact ⟨hword, hflag hi⟩

/-- A device with CKID based encryption has fewer than `0x2000` CKIDs. -/
theorem numberOfCkids_lt_of_valid {initiatorSuppliedEntropy : UInt16}
    {capabilities : DeviceCapabilities}
    (h : Capability.cxlTspValidateCapability K initiatorSuppliedEntropy capabilities = true)
    (hckid : Enabled capabilities.memoryEncryptionFeaturesSupported
      K.featuresSupport.ckidBasedEncryption) :
    capabilities.numberOfCkids.toNat < 0x2000 := by
  simp only [Capability.cxlTspValidateCapability, Bool.and_eq_true] at h
  have hckids := h.1.2
  have hmasked : Enabled (Capability.maskedFeaturesSupported K initiatorSuppliedEntropy
      capabilities.memoryEncryptionFeaturesSupported) K.featuresSupport.ckidBasedEncryption := by
    apply enabled_masked _ hckid
    intro i hi
    simp only [UInt16.toNat_or, flags_or]
    exact .inl (.inl (.inl (.inr hi)))
  unfold Capability.ckidsValid at hckids
  rw [if_pos ((has_iff _ _).2 hmasked)] at hckids
  simp only [Bool.not_or, Bool.and_eq_true, Bool.not_eq_true', decide_eq_false_iff_not,
    ge_iff_le, UInt32.le_iff_toNat_le, not_le] at hckids
  exact hckids.2

/-- A device with secondary sessions advertises them. -/
theorem advertised_of_valid {initiatorSuppliedEntropy : UInt16} {capabilities : DeviceCapabilities}
    (h : Capability.cxlTspValidateCapability K initiatorSuppliedEntropy capabilities = true)
    (hsessions : capabilities.numberOfSecondarySessions ≠ 0) :
    Enabled capabilities.configurationFeaturesSupported
      K.configurationFeaturesAdditionalSpdmSessions := by
  simp only [Capability.cxlTspValidateCapability, Bool.and_eq_true] at h
  have hvalid := h.2
  by_contra hnot
  have hmasked : ¬ Enabled
      (Capability.maskedConfigurationFeatures K capabilities.configurationFeaturesSupported)
      K.configurationFeaturesAdditionalSpdmSessions := fun hm => hnot (enabled_of_masked hm)
  unfold Capability.secondarySessionsValid at hvalid
  rw [if_pos ((not_has_iff _ _).2 hmasked)] at hvalid
  exact hsessions (beq_iff_eq.1 hvalid)

/-- **The two checks compose**: a configuration that the responder accepts under capabilities that
the requester accepts is sound. -/
theorem soundConfiguration_of_accepted (initiatorSuppliedEntropy : UInt16)
    (capabilities : DeviceCapabilities) (request : SetConfiguration K.secondSessionKeySize)
    (hcapabilities : Capability.cxlTspValidateCapability K initiatorSuppliedEntropy capabilities =
      true)
    (hrequest : Responder.cxlTspValidateConfigruation K request capabilities = .ok ()) :
    SoundConfiguration K request capabilities := by
  have hvalid := validConfiguration_of_ok hrequest
  obtain ⟨n, hn, hsupported, hflags⟩ := hvalid.sessions
  refine
    { encryption := hvalid.features.encryption
      ckidBasedEncryption := hvalid.features.ckidBasedEncryption
      rangeBasedEncryption := hvalid.features.rangeBasedEncryption
      ckidBasedRequired := hvalid.features.ckidBasedRequired
      teFeatures := hvalid.teFeatures.supported
      ckids := ?_
      algorithm := hvalid.algorithm.selected
      oobGranularity := ?_
      sessions := ?_
      advertised := ?_ }
  · intro hckid
    have hlt := numberOfCkids_lt_of_valid hcapabilities (hvalid.features.ckidBasedEncryption hckid)
    obtain ⟨hcount, hbase, htop⟩ := hvalid.ckids (hvalid.features.required.1 hckid)
    -- base and count are both below 0x2000, so the 32-bit sum is the sum
    rw [Nat.mod_eq_of_lt (by omega)] at htop
    exact ⟨htop, hcount, hlt⟩
  · intro hgranularity
    have henabled := not_imp_comm.1 hvalid.oobGranularity.disabled hgranularity
    exact enabled_mono hvalid.teFeatures.supported henabled
  · rw [hflags]
    exact fun i hi => Nat.lt_of_lt_of_le hi hn
  · rw [hflags]
    rintro ⟨i, hi⟩
    refine advertised_of_valid hcapabilities fun hzero => ?_
    have : capabilities.numberOfSecondarySessions.toNat = 0 := by rw [hzero]; rfl
    have hi : i < n := hi
    omega

/-- A device with CKID based encryption and four secondary sessions. -/
private def ckidCapabilities : DeviceCapabilities where
  memoryEncryptionFeaturesSupported := 0xB
  memoryEncryptionAlgorithmsSupported := 0x3
  memoryEncryptionNumberOfRangeBasedKeys := 0
  teStateChangeAndAccessControlFeaturesSupported := 0x8
  supportedExplicitOobTeStateGranularity := 0x6
  supportedExplicitIbTeStateGranularity := 0
  configurationFeaturesSupported := 0x2
  numberOfCkids := 0x1FFF
  numberOfSecondarySessions := 4

/-- A request for the last CKIDs that are in range, with two secondary sessions. -/
private def ckidRequest : SetConfiguration CxlTsp.sample.secondSessionKeySize where
  configuration := ⟨0xB, 0x2, 0x8, 0x4, 0, 0x1000, 0xFFF, Vector.replicate 8 ⟨0, 0xff⟩⟩
  sessionInfo := ⟨0x3, 0, Vector.replicate _ (Vector.replicate _ 1)⟩

theorem soundConfiguration_ckids :
    Capability.cxlTspValidateCapability CxlTsp.sample 0x10 ckidCapabilities = true ∧
    Responder.cxlTspValidateConfigruation CxlTsp.sample ckidRequest ckidCapabilities = .ok () ∧
    SoundConfiguration CxlTsp.sample ckidRequest ckidCapabilities := by
  refine ⟨by decide, by decide, ?_⟩
  exact soundConfiguration_of_accepted 0x10 ckidCapabilities ckidRequest (by decide) (by decide)

/-! ## The CKID range of a configuration that is read back -/

theorem valid_of_cxlTspGetConfiguration {σ : Type} {sendReceive : SendReceive σ} {link : σ}
    {body : ConfigurationBody} (h : (cxlTspGetConfiguration K sendReceive link).1 = .ok body) :
    Requester.cxlTspValidateConfigruation K body.configuration = true := by
  simp only [cxlTspGetConfiguration] at h
  split_ifs at h with _ _ _ _ hvalid
  cases h
  simpa using hvalid

/-- The requester's check bounds the sum modulo `2 ^ 32`. -/
theorem ckid_sum_mod_lt_of_valid {c : DeviceConfiguration}
    (h : Requester.cxlTspValidateConfigruation K c = true)
    (hrequired : Enabled c.memoryEncryptionFeaturesEnable K.featuresEnable.ckidBasedRequired) :
    (c.ckidBase.toNat + c.numberOfCkids.toNat) % 2 ^ 32 < 0x2000 := by
  simp only [Requester.cxlTspValidateConfigruation, Bool.and_eq_true] at h
  have hckids := h.1.2
  have hmasked : Enabled (maskedFeaturesEnable K c.memoryEncryptionFeaturesEnable)
      K.featuresEnable.ckidBasedRequired := by
    apply enabled_masked _ hrequired
    intro i hi
    simp only [UInt16.toNat_or, flags_or]
    exact .inr hi
  unfold Requester.ckidsValid at hckids
  rw [if_pos ((has_iff _ _).2 hmasked)] at hckids
  simp only [Bool.and_eq_true, Bool.not_eq_true', decide_eq_false_iff_not, ge_iff_le,
    UInt32.le_iff_toNat_le, UInt32.toNat_add, not_le] at hckids
  exact hckids.2

/-- **A configuration that is read back has a real CKID range exactly when its range does not
wrap**, whatever the device replies. -/
theorem readBack_ckid_range_iff {σ : Type} (sendReceive : SendReceive σ) (link : σ)
    (body : ConfigurationBody) (h : (cxlTspGetConfiguration K sendReceive link).1 = .ok body)
    (hrequired : Enabled body.configuration.memoryEncryptionFeaturesEnable
      K.featuresEnable.ckidBasedRequired) :
    body.configuration.ckidBase.toNat + body.configuration.numberOfCkids.toNat < 0x2000 ↔
      body.configuration.ckidBase.toNat + body.configuration.numberOfCkids.toNat < 2 ^ 32 := by
  have hmod := ckid_sum_mod_lt_of_valid (valid_of_cxlTspGetConfiguration h) hrequired
  constructor
  · intro hlt
    omega
  · intro hlt
    rwa [Nat.mod_eq_of_lt hlt] at hmod

/-- A configuration for a CKID range. -/
private def ckidBody (ckidBase numberOfCkids : UInt32) : ConfigurationBody :=
  ⟨⟨0xB, 0x1, 0, 0, 0, ckidBase, numberOfCkids, Vector.replicate 8 ⟨0, 0xff⟩⟩, 0⟩

/-- A device that replies with it. -/
private def ckidDevice (ckidBase numberOfCkids : UInt32) : SendReceive Unit := fun _ _ _ =>
  (⟨.success, CxlTsp.sample.header.encode
      ⟨0x10, CxlTsp.sample.responseOpCode .getTargetConfiguration⟩ ++
    CxlTsp.sample.getConfigurationResponse.encode (ckidBody ckidBase numberOfCkids)⟩, ())

theorem readBack_ckid_range_two :
    (cxlTspGetConfiguration CxlTsp.sample (ckidDevice 1 2) ()).1 = .ok (ckidBody 1 2) ∧
    Enabled (ckidBody 1 2).configuration.memoryEncryptionFeaturesEnable
      CxlTsp.sample.featuresEnable.ckidBasedRequired ∧
    ((ckidBody 1 2).configuration.ckidBase.toNat +
        (ckidBody 1 2).configuration.numberOfCkids.toNat < 0x2000 ↔
      (ckidBody 1 2).configuration.ckidBase.toNat +
        (ckidBody 1 2).configuration.numberOfCkids.toNat < 2 ^ 32) := by
  have hok : (cxlTspGetConfiguration CxlTsp.sample (ckidDevice 1 2) ()).1 = .ok (ckidBody 1 2) := by
    decide +kernel
  have hrequired : Enabled (ckidBody 1 2).configuration.memoryEncryptionFeaturesEnable
      CxlTsp.sample.featuresEnable.ckidBasedRequired := (has_iff _ _).1 (by decide)
  exact ⟨hok, hrequired, readBack_ckid_range_iff (ckidDevice 1 2) () _ hok hrequired⟩

/-- The base 1 with `0xFFFFFFFF` CKIDs: the 32-bit sum is zero, and the requester returns the
configuration. -/
theorem readBack_ckid_range_wraps :
    (cxlTspGetConfiguration CxlTsp.sample (ckidDevice 1 0xFFFFFFFF) ()).1 =
      .ok (ckidBody 1 0xFFFFFFFF) ∧
    Enabled (ckidBody 1 0xFFFFFFFF).configuration.memoryEncryptionFeaturesEnable
      CxlTsp.sample.featuresEnable.ckidBasedRequired ∧
    ¬ (ckidBody 1 0xFFFFFFFF).configuration.ckidBase.toNat +
      (ckidBody 1 0xFFFFFFFF).configuration.numberOfCkids.toNat < 0x2000 := by
  refine ⟨?_, (has_iff _ _).1 (by decide), by decide⟩
  decide +kernel

end SpdmEmu.Tsp
