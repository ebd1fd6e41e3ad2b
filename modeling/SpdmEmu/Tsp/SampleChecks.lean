import SpdmEmu.Tsp.Session

/-!
# The sample device passes the checks of the session, and the session those of the device

The requester checks the capabilities of the device before it configures it, and the device checks
the configuration against its capabilities. Both the capabilities of the sample device and the
configuration of the session are put together from flags of the standard. That they pass depends on
little of these flags: some are not zero, and some have no bit in common.
-/

set_option autoImplicit false

namespace SpdmEmu.Tsp

open SpdmEmu.Wire SpdmEmu.Libspdm

/-- The capabilities that the device library sample announces. -/
def sampleCapabilities (K : CxlTsp) : DeviceCapabilities :=
  (libcxltspInitializeDeviceContext (DeviceContext.zeroed K)).deviceCapabilities

/-- Encryption is a flag of its own. -/
structure EncryptionFlags.Apart (F : EncryptionFlags) : Prop where
  encryption : F.encryption ≠ 0
  ckidBasedEncryption : F.encryption &&& F.ckidBasedEncryption = 0
  rangeBasedEncryption : F.encryption &&& F.rangeBasedEncryption = 0
  ckidBasedRequired : F.encryption &&& F.ckidBasedRequired = 0

/-- What the two sides need of the flags of the standard. -/
structure CxlTsp.FlagsApart (K : CxlTsp) : Prop where
  enable : K.featuresEnable.Apart
  support : K.featuresSupport.Apart
  algorithm : K.algorithms.aesXts256 ≠ 0 ∧ libspdmOnehot0 K.algorithms.aesXts256 = true
  explicitIb : K.teFeatures.explicitIbTeStateChange ≠ 0
  explicitOob : has (K.teFeatures.readAccessControl ||| K.teFeatures.implicitTeStateChange |||
    K.teFeatures.explicitIbTeStateChange) K.teFeatures.explicitOobTeStateChange = false
  granularity : K.ibGranularity64B ≠ 0 ∧
    K.ibGranularity64B &&& (0x7FF ||| K.ibGranularityEntireMemory) ≠ 0
  secondarySessions : K.configurationFeaturesAdditionalSpdmSessions ≠ 0

/-! ## Tests of flags -/

theorem has_self {flag : UInt16} (h : flag ≠ 0) : has flag flag = true := by
  simpa [has] using h

theorem has_of_and_eq_zero {word flag : UInt16} (h : word &&& flag = 0) :
    has word flag = false := by
  simp [has, h]

theorem has_or_left (a b flag : UInt16) : has (a ||| b) flag = (has a flag || has b flag) := by
  rw [Bool.eq_iff_iff, Bool.or_eq_true, has_iff, has_iff, has_iff, Enabled, Enabled, Enabled,
    UInt16.toNat_or, flags_or, Set.union_inter_distrib_right, Set.union_nonempty]

theorem has_or_right (word a b : UInt16) : has word (a ||| b) = (has word a || has word b) := by
  rw [Bool.eq_iff_iff, Bool.or_eq_true, has_iff, has_iff, has_iff, enabled_or_iff]

/-- A mask keeps a word of which it has every bit. -/
theorem and_eq_of_subset {word mask : UInt16} (h : flags word.toNat ⊆ flags mask.toNat) :
    word &&& mask = word :=
  (and_eq_left_iff word mask).2 h

section Checks

variable {K : CxlTsp}

/-! ## The masks -/

theorem maskedFeaturesEnable_encryption :
    maskedFeaturesEnable K K.featuresEnable.encryption = K.featuresEnable.encryption := by
  apply and_eq_of_subset
  intro i hi
  simp only [UInt16.toNat_or, flags_or]
  exact .inl (.inl (.inl hi))

theorem maskedFeaturesSupported_encryption (initiatorSuppliedEntropy : UInt16) :
    Capability.maskedFeaturesSupported K initiatorSuppliedEntropy K.featuresSupport.encryption =
      K.featuresSupport.encryption := by
  apply and_eq_of_subset
  intro i hi
  simp only [UInt16.toNat_or, flags_or]
  exact .inl (.inl (.inl (.inl hi)))

theorem maskedAlgorithmSelect_aesXts256 :
    maskedAlgorithmSelect K K.algorithms.aesXts256 = K.algorithms.aesXts256 := by
  rw [maskedAlgorithmSelect, UInt32.and_comm, and_eq_right_iff]
  intro i hi
  simp only [UInt32.toNat_or, flags_or]
  exact .inl (.inr hi)

/-- The TE state features of the sample device and of the session. -/
def sessionTeFeatures (K : CxlTsp) : UInt16 :=
  K.teFeatures.readAccessControl ||| K.teFeatures.implicitTeStateChange |||
    K.teFeatures.explicitIbTeStateChange

theorem maskedTeFeaturesEnable_session :
    maskedTeFeaturesEnable K (sessionTeFeatures K) = sessionTeFeatures K := by
  apply and_eq_of_subset
  intro i hi
  simp only [sessionTeFeatures, UInt16.toNat_or, flags_or] at hi ⊢
  rcases hi with (hread | himplicit) | hib
  · exact .inl (.inl (.inl (.inl (.inr hread))))
  · exact .inl (.inl (.inl (.inr himplicit)))
  · exact .inl (.inr hib)

theorem maskedConfigurationFeatures_sample :
    Capability.maskedConfigurationFeatures K (K.configurationFeaturesLockedTargetFwUpdate |||
        K.configurationFeaturesAdditionalSpdmSessions) =
      K.configurationFeaturesLockedTargetFwUpdate |||
        K.configurationFeaturesAdditionalSpdmSessions :=
  UInt16.and_self

/-! ## The two checks -/

variable (hflags : K.FlagsApart)

include hflags

theorem has_sessionTeFeatures_explicitIb :
    has (sessionTeFeatures K) K.teFeatures.explicitIbTeStateChange = true := by
  rw [sessionTeFeatures, has_or_left, has_self hflags.explicitIb, Bool.or_true]

theorem has_sessionTeFeatures_explicitOob :
    has (sessionTeFeatures K) K.teFeatures.explicitOobTeStateChange = false :=
  hflags.explicitOob

theorem supportsSecondarySessions_sample :
    supportsSecondarySessions K (sampleCapabilities K) = true := by
  have hadditional : has (K.configurationFeaturesLockedTargetFwUpdate |||
      K.configurationFeaturesAdditionalSpdmSessions)
      K.configurationFeaturesAdditionalSpdmSessions = true := by
    rw [has_or_left, has_self hflags.secondarySessions, Bool.or_true]
  exact hadditional

/-- The requester accepts the capabilities of the sample device. -/
theorem validateCapability_sample (initiatorSuppliedEntropy : UInt16) :
    Capability.cxlTspValidateCapability K initiatorSuppliedEntropy (sampleCapabilities K) =
      true := by
  have henc : has K.featuresSupport.encryption K.featuresSupport.encryption = true :=
    has_self hflags.support.encryption
  have hckid := has_of_and_eq_zero hflags.support.ckidBasedEncryption
  have hrange := has_of_and_eq_zero hflags.support.rangeBasedEncryption
  have hrequired := has_of_and_eq_zero hflags.support.ckidBasedRequired
  have hib := has_sessionTeFeatures_explicitIb hflags
  have hoob := has_sessionTeFeatures_explicitOob hflags
  have hadditional := supportsSecondarySessions_sample hflags
  have halgorithm := hflags.algorithm.1
  obtain ⟨h64, hgranularity⟩ := hflags.granularity
  have hte : (sampleCapabilities K).teStateChangeAndAccessControlFeaturesSupported =
      sessionTeFeatures K := rfl
  have hfeatures : (sampleCapabilities K).memoryEncryptionFeaturesSupported =
      K.featuresSupport.encryption := rfl
  have hselect : (sampleCapabilities K).memoryEncryptionAlgorithmsSupported =
      K.algorithms.aesXts256 := rfl
  have hconfiguration : (sampleCapabilities K).configurationFeaturesSupported =
      K.configurationFeaturesLockedTargetFwUpdate |||
        K.configurationFeaturesAdditionalSpdmSessions := rfl
  simp only [Capability.cxlTspValidateCapability, hte, hfeatures, hselect, hconfiguration,
    maskedFeaturesSupported_encryption, maskedAlgorithmSelect_aesXts256,
    maskedTeFeaturesEnable_session, maskedConfigurationFeatures_sample]
  have hsessions : has (K.configurationFeaturesLockedTargetFwUpdate |||
      K.configurationFeaturesAdditionalSpdmSessions)
      K.configurationFeaturesAdditionalSpdmSessions = true := hadditional
  simp [Capability.featuresValid, Capability.algorithmsValid, Capability.rangeBasedKeysValid,
    Capability.teFeaturesValid, Capability.granularityValid, Capability.ckidsValid,
    Capability.secondarySessionsValid, henc, hckid, hrange, hrequired, has_or_right, hib, hoob,
    hsessions, halgorithm, h64, hgranularity, sampleCapabilities,
    libcxltspInitializeDeviceContext, DeviceContext.zeroed]

/-- The device accepts the configuration of the session with a key for one secondary session. -/
theorem validateConfiguration_session
    {info : Device2ndSessionInfo K.secondSessionKeySize}
    (hinfo : info.configurationValidityFlags = 0x1) :
    Responder.cxlTspValidateConfigruation K ⟨sessionConfiguration K, info⟩ (sampleCapabilities K) =
      .ok () := by
  have henc := has_self hflags.enable.encryption
  have hckid := has_of_and_eq_zero hflags.enable.ckidBasedEncryption
  have hrange := has_of_and_eq_zero hflags.enable.rangeBasedEncryption
  have hrequired := has_of_and_eq_zero hflags.enable.ckidBasedRequired
  have hsupport : has K.featuresSupport.encryption K.featuresSupport.encryption = true :=
    has_self hflags.support.encryption
  have hib := has_sessionTeFeatures_explicitIb hflags
  have hoob := has_sessionTeFeatures_explicitOob hflags
  obtain ⟨halgorithm, honehot⟩ := hflags.algorithm
  have hte : (sessionConfiguration K).teStateChangeAndAccessControlFeaturesEnable =
      sessionTeFeatures K := rfl
  have hteSupported : (sampleCapabilities K).teStateChangeAndAccessControlFeaturesSupported =
      sessionTeFeatures K := rfl
  have hfeatures : (sessionConfiguration K).memoryEncryptionFeaturesEnable =
      K.featuresEnable.encryption := rfl
  have hfeaturesSupported : (sampleCapabilities K).memoryEncryptionFeaturesSupported =
      K.featuresSupport.encryption := rfl
  have hselect : (sessionConfiguration K).memoryEncryptionAlgorithmSelect =
      K.algorithms.aesXts256 := rfl
  have hselectSupported : (sampleCapabilities K).memoryEncryptionAlgorithmsSupported =
      K.algorithms.aesXts256 := rfl
  have hsessions : Responder.secondarySessionsValid 0x1
      (sampleCapabilities K).numberOfSecondarySessions = true := rfl
  simp only [Responder.cxlTspValidateConfigruation, hte, hteSupported, hfeatures,
    hfeaturesSupported, hselect, hselectSupported, maskedFeaturesEnable_encryption,
    maskedAlgorithmSelect_aesXts256, maskedTeFeaturesEnable_session, hinfo, hsessions]
  simp [Responder.featuresValid, Responder.algorithmValid, Responder.teFeaturesValid,
    Responder.oobGranularityValid, Responder.ckidsValid, Responder.ibGranularityValid,
    Responder.ibEntriesValid, sessionConfiguration, henc, hckid, hrange, hrequired, hsupport,
    has_or_right, hib, hoob, halgorithm, honehot]

end Checks

end SpdmEmu.Tsp
