import SpdmEmu.Wire.Flags
import SpdmEmu.Tsp.Validate

/-!
# What the responder's configuration validator accepts

`ValidConfiguration` says which configurations are valid for a device, on sets of bits: which
features may be enabled together, which selections name one supported value, which CKIDs and length
indices are in range and which secondary sessions are flagged. The responder's
`cxl_tsp_validate_configruation` accepts exactly these configurations: each block of the validator
has a lemma of its own, and the loop over the in-band entries, which keeps the indices it has met in
a bitmap, is the statement that they are pairwise distinct.
-/

set_option autoImplicit false

namespace SpdmEmu.Tsp

open SpdmEmu.Wire

/-! ## Valid configurations -/

/-- A word has a bit of a flag. -/
def Enabled (word flag : UInt16) : Prop := (flags word.toNat ∩ flags flag.toNat).Nonempty

/-- A selection has exactly one bit, and the bit is supported. -/
def SelectsOne (selection supported : UInt32) : Prop :=
  ∃ i ∈ flags supported.toNat, flags selection.toNat = {i}

variable (K : CxlTsp)

/-- The enabled encryption features are consistent and supported. -/
structure ValidFeatures (enable supported : UInt16) : Prop where
  disabled : ¬ Enabled enable K.featuresEnable.encryption →
    ¬ Enabled enable K.featuresEnable.ckidBasedEncryption ∧
    ¬ Enabled enable K.featuresEnable.rangeBasedEncryption ∧
    ¬ Enabled enable K.featuresEnable.ckidBasedRequired
  encryption : Enabled enable K.featuresEnable.encryption →
    Enabled supported K.featuresSupport.encryption
  ckidBasedEncryption : Enabled enable K.featuresEnable.ckidBasedEncryption →
    Enabled supported K.featuresSupport.ckidBasedEncryption
  rangeBasedEncryption : Enabled enable K.featuresEnable.rangeBasedEncryption →
    Enabled supported K.featuresSupport.rangeBasedEncryption
  ckidBasedRequired : Enabled enable K.featuresEnable.ckidBasedRequired →
    Enabled supported K.featuresSupport.ckidBasedRequired
  exclusive : ¬ (Enabled enable K.featuresEnable.ckidBasedEncryption ∧
    Enabled enable K.featuresEnable.rangeBasedEncryption)
  required : Enabled enable K.featuresEnable.ckidBasedEncryption ↔
    Enabled enable K.featuresEnable.ckidBasedRequired

/-- A selection that a feature turns on: nothing without the feature, one supported value with
it. -/
structure ValidSelection (enabled : Prop) (selection supported : UInt32) : Prop where
  disabled : ¬ enabled → selection = 0
  selected : enabled → SelectsOne selection supported

/-- The enabled TE features are supported, and access control comes with a way to change the TE
state. -/
structure ValidTeFeatures (enable supported : UInt16) : Prop where
  supported : flags enable.toNat ⊆ flags supported.toNat
  write : Enabled enable K.teFeatures.writeAccessControl ∨
      Enabled enable K.teFeatures.explicitTeStateChangeSanitize →
    Enabled enable K.teFeatures.explicitOobTeStateChange ∨
      Enabled enable K.teFeatures.explicitIbTeStateChange
  read : Enabled enable K.teFeatures.readAccessControl →
    Enabled enable K.teFeatures.implicitTeStateChange ∨
      Enabled enable K.teFeatures.explicitOobTeStateChange ∨
      Enabled enable K.teFeatures.explicitIbTeStateChange

/-- The CKID range is supported; the end of the range is taken modulo `2 ^ 32`. -/
structure ValidCkids (ckidBase numberOfCkids supported : UInt32) : Prop where
  count : numberOfCkids.toNat ≤ supported.toNat
  base : ckidBase.toNat < 0x2000
  top : (ckidBase.toNat + numberOfCkids.toNat) % 2 ^ 32 < 0x2000

/-- The length indices of the entries in use: `0xff` marks an unused entry. -/
def usedLengthIndices (entries : List IbEntry) : List UInt8 :=
  (entries.map IbEntry.lengthIndex).filter (· ≠ 0xff)

/-- The length indices in use are distinct and in range. -/
structure ValidLengthIndices (supported : UInt32) (indices : List UInt8) : Prop where
  distinct : indices.Nodup
  inRange : ∀ index ∈ indices, index ≤ 7
  entireMemory : supported &&& K.ibGranularityEntireMemory ≠ 0 → 7 ∉ indices

/-- The flags mark the first sessions of the table, and no more than the device supports. -/
def ValidSessions (validityFlags : UInt16) (supported : UInt8) : Prop :=
  ∃ n ≤ secondSessionCount, n ≤ supported.toNat ∧ flags validityFlags.toNat = Set.Iio n

/-- A configuration request is valid for a device with the given capabilities. -/
structure ValidConfiguration (request : SetConfiguration K.secondSessionKeySize)
    (capabilities : DeviceCapabilities) : Prop where
  features : ValidFeatures K
    (maskedFeaturesEnable K request.configuration.memoryEncryptionFeaturesEnable)
    capabilities.memoryEncryptionFeaturesSupported
  algorithm : ValidSelection
    (Enabled (maskedFeaturesEnable K request.configuration.memoryEncryptionFeaturesEnable)
      K.featuresEnable.encryption)
    (maskedAlgorithmSelect K request.configuration.memoryEncryptionAlgorithmSelect)
    capabilities.memoryEncryptionAlgorithmsSupported
  teFeatures : ValidTeFeatures K
    (maskedTeFeaturesEnable K request.configuration.teStateChangeAndAccessControlFeaturesEnable)
    capabilities.teStateChangeAndAccessControlFeaturesSupported
  oobGranularity : ValidSelection
    (Enabled
      (maskedTeFeaturesEnable K request.configuration.teStateChangeAndAccessControlFeaturesEnable)
      K.teFeatures.explicitOobTeStateChange)
    request.configuration.explicitOobTeStateGranularity
    capabilities.supportedExplicitOobTeStateGranularity
  ckids : Enabled (maskedFeaturesEnable K request.configuration.memoryEncryptionFeaturesEnable)
      K.featuresEnable.ckidBasedRequired →
    ValidCkids request.configuration.ckidBase request.configuration.numberOfCkids
      capabilities.numberOfCkids
  ibGranularity : Enabled
      (maskedTeFeaturesEnable K request.configuration.teStateChangeAndAccessControlFeaturesEnable)
      K.teFeatures.explicitIbTeStateChange →
    ValidLengthIndices K capabilities.supportedExplicitIbTeStateGranularity
      (usedLengthIndices request.configuration.explicitIbTeStateGranularityEntry.toList)
  sessions : ValidSessions request.sessionInfo.configurationValidityFlags
    capabilities.numberOfSecondarySessions

/-! ## The blocks of the validator -/

variable {K}

theorem has_iff (word flag : UInt16) : has word flag = true ↔ Enabled word flag := by
  rw [has, bne_iff_ne]
  exact and_ne_zero_iff word flag

theorem enabled_or_iff (word a b : UInt16) :
    Enabled word (a ||| b) ↔ Enabled word a ∨ Enabled word b := by
  rw [Enabled, UInt16.toNat_or, flags_or, Set.inter_union_distrib_left, Set.union_nonempty]
  rfl

theorem not_has_iff (word flag : UInt16) : (!has word flag) = true ↔ ¬ Enabled word flag := by
  rw [Bool.not_eq_true', ← Bool.not_eq_true, has_iff]

theorem libspdmOnehot0_iff (mask : UInt32) :
    libspdmOnehot0 mask = true ↔ mask = 0 ∨ mask &&& (mask - 1) = 0 := by
  simp [libspdmOnehot0]

theorem featuresValid_iff (enable supported : UInt16) :
    Responder.featuresValid K enable supported = true ↔ ValidFeatures K enable supported := by
  unfold Responder.featuresValid
  by_cases he : Enabled enable K.featuresEnable.encryption
  · have hon := (has_iff _ _).2 he
    simp only [hon, Bool.not_true, Bool.false_eq_true, if_false, Bool.not_and, Bool.not_not,
      Bool.and_eq_true, Bool.or_eq_true, not_has_iff, has_iff, ← imp_iff_not_or]
    constructor
    · rintro ⟨⟨⟨⟨⟨⟨hs, hckid⟩, hrange⟩, hreq⟩, hexcl⟩, hto⟩, hof⟩
      exact ⟨fun h => absurd he h, fun _ => hs, hckid, hrange, hreq, not_and.2 hexcl, hto, hof⟩
    · intro h
      exact ⟨⟨⟨⟨⟨⟨h.encryption he, h.ckidBasedEncryption⟩, h.rangeBasedEncryption⟩,
        h.ckidBasedRequired⟩, not_and.1 h.exclusive⟩, h.required.1⟩, h.required.2⟩
  · have hoff := (not_has_iff _ _).2 he
    simp only [hoff, if_true, Bool.not_or, Bool.and_eq_true, not_has_iff]
    constructor
    · rintro ⟨⟨hckid, hrange⟩, hreq⟩
      exact ⟨fun _ => ⟨hckid, hrange, hreq⟩, fun h => absurd h he, fun h => absurd h hckid,
        fun h => absurd h hrange, fun h => absurd h hreq, fun h => hckid h.1,
        iff_of_false hckid hreq⟩
    · intro h
      obtain ⟨hckid, hrange, hreq⟩ := h.disabled he
      exact ⟨⟨hckid, hrange⟩, hreq⟩

/-- The two selections of the source, of an algorithm and of a granularity, are checked alike. -/
theorem selection_iff (word flag : UInt16) (selection supported : UInt32) :
    (if !has word flag then selection == 0
      else libspdmOnehot0 selection && (selection &&& supported) != 0) = true ↔
      ValidSelection (Enabled word flag) selection supported := by
  by_cases he : Enabled word flag
  · have hon := (has_iff _ _).2 he
    simp only [hon, Bool.not_true, Bool.false_eq_true, if_false, Bool.and_eq_true,
      libspdmOnehot0_iff, bne_iff_ne]
    rw [single_and_ne_zero_iff]
    exact ⟨fun h => ⟨fun hoff => absurd he hoff, fun _ => h⟩, fun h => h.selected he⟩
  · have hoff := (not_has_iff _ _).2 he
    simp only [hoff, if_true, beq_iff_eq]
    exact ⟨fun h => ⟨fun _ => h, fun hon => absurd hon he⟩, fun h => h.disabled he⟩

theorem teFeaturesValid_iff (enable supported : UInt16) :
    Responder.teFeaturesValid K enable supported = true ↔ ValidTeFeatures K enable supported := by
  unfold Responder.teFeaturesValid
  simp only [Bool.not_and, Bool.not_not, Bool.and_eq_true, Bool.or_eq_true, beq_iff_eq, has_iff,
    not_has_iff, ← imp_iff_not_or, enabled_or_iff, and_eq_left_iff]
  constructor
  · rintro ⟨⟨⟨hsub, hwrite⟩, hread⟩, hsanitize⟩
    refine ⟨hsub, fun h => h.elim hwrite hsanitize, fun h => ?_⟩
    exact or_assoc.1 (hread h)
  · intro h
    exact ⟨⟨⟨h.supported, fun hw => h.write (.inl hw)⟩, fun hr => or_assoc.2 (h.read hr)⟩,
      fun hs => h.write (.inr hs)⟩

theorem ckidsValid_iff (enable : UInt16) (ckidBase numberOfCkids supported : UInt32) :
    Responder.ckidsValid K enable ckidBase numberOfCkids supported = true ↔
      (Enabled enable K.featuresEnable.ckidBasedRequired →
        ValidCkids ckidBase numberOfCkids supported) := by
  rw [← has_iff]
  unfold Responder.ckidsValid
  split
  · next he =>
      simp only [he, Bool.and_eq_true, Bool.not_eq_true', decide_eq_false_iff_not,
        forall_const, gt_iff_lt, ge_iff_le, UInt32.lt_iff_toNat_lt, UInt32.le_iff_toNat_le,
        UInt32.toNat_add, not_lt, not_le]
      exact ⟨fun h => ⟨h.1.1, h.1.2, h.2⟩, fun h => ⟨⟨h.count, h.base⟩, h.top⟩⟩
  · next he => simp [he]

/-! ## The loop over the in-band entries -/

theorem usedLengthIndices_cons_unused {entry : IbEntry} (entries : List IbEntry)
    (h : entry.lengthIndex = 0xff) :
    usedLengthIndices (entry :: entries) = usedLengthIndices entries := by
  simp [usedLengthIndices, h]

theorem usedLengthIndices_cons_used {entry : IbEntry} (entries : List IbEntry)
    (h : entry.lengthIndex ≠ 0xff) :
    usedLengthIndices (entry :: entries) = entry.lengthIndex :: usedLengthIndices entries := by
  simp [usedLengthIndices, h]

theorem validLengthIndices_cons (supported : UInt32) (index : UInt8) (indices : List UInt8) :
    ValidLengthIndices K supported (index :: indices) ↔
      index ≤ 7 ∧ (supported &&& K.ibGranularityEntireMemory ≠ 0 → index ≠ 7) ∧
        index ∉ indices ∧ ValidLengthIndices K supported indices := by
  constructor
  · rintro ⟨hdistinct, hrange, hentire⟩
    obtain ⟨hnew, hrest⟩ := List.nodup_cons.1 hdistinct
    refine ⟨hrange index List.mem_cons_self, fun h heq => ?_, hnew, hrest,
      fun i hi => hrange i (List.mem_cons_of_mem _ hi),
      fun h hmem => hentire h (List.mem_cons_of_mem _ hmem)⟩
    exact hentire h (heq ▸ List.mem_cons_self)
  · rintro ⟨hrange, hentire, hnew, hrest⟩
    refine ⟨List.nodup_cons.2 ⟨hnew, hrest.distinct⟩,
      List.forall_mem_cons.2 ⟨hrange, hrest.inRange⟩, fun h hmem => ?_⟩
    rcases List.mem_cons.1 hmem with heq | hmem
    · exact hentire h heq.symm
    · exact hrest.entireMemory h hmem

/-- The remaining indices avoid a bitmap with one more index: they avoid the bitmap and the
index. -/
theorem forall_notMem_insert_iff (indices : List UInt8) (index : UInt8) (met : Set Nat) :
    (∀ i ∈ indices, i.toNat ∉ insert index.toNat met) ↔
      index ∉ indices ∧ ∀ i ∈ indices, i.toNat ∉ met := by
  constructor
  · intro h
    exact ⟨fun hmem => h index hmem (Set.mem_insert _ _),
      fun i hi hmet => h i hi (Set.mem_insert_of_mem _ hmet)⟩
  · rintro ⟨hnew, hrest⟩ i hi hmem
    rcases Set.mem_insert_iff.1 hmem with heq | hmet
    · exact hnew (UInt8.toNat_inj.1 heq ▸ hi)
    · exact hrest i hi hmet

/-- The loop with the bitmap `bitmap` accepts the entries whose indices are valid and not in the
bitmap. -/
theorem ibEntriesValid_iff (supported : UInt32) (entries : List IbEntry) (bitmap : UInt8) :
    Responder.ibEntriesValid K supported bitmap entries = true ↔
      ValidLengthIndices K supported (usedLengthIndices entries) ∧
        ∀ index ∈ usedLengthIndices entries, index.toNat ∉ flags bitmap.toNat := by
  -- along the loop: the bitmap holds the indices met before the remaining entries
  induction entries generalizing bitmap with
  | nil => simpa [Responder.ibEntriesValid, usedLengthIndices] using ⟨by simp, by simp, by simp⟩
  | cons entry entries ih =>
      unfold Responder.ibEntriesValid
      by_cases hunused : entry.lengthIndex = 0xff
      · rw [if_pos (beq_iff_eq.2 hunused), usedLengthIndices_cons_unused entries hunused]
        exact ih bitmap
      rw [if_neg (by simpa using hunused), usedLengthIndices_cons_used entries hunused,
        validLengthIndices_cons]
      by_cases hrange : entry.lengthIndex ≤ 7
      · rw [if_neg (by simpa using hrange)]
        split
        · next hentire =>
            obtain ⟨hsupported, hseven⟩ := Bool.and_eq_true_iff.1 hentire
            refine iff_of_false Bool.false_ne_true fun h => ?_
            exact h.1.2.1 (bne_iff_ne.1 hsupported) (beq_iff_eq.1 hseven)
        next hentire =>
        split
        · next hmet =>
            have hmem := (bitmap_and_ne_zero_iff bitmap hrange).1 (bne_iff_ne.1 hmet)
            exact iff_of_false Bool.false_ne_true fun h => h.2 _ List.mem_cons_self hmem
        · next hnew =>
            have hmem := mt (bitmap_and_ne_zero_iff bitmap hrange).2 (by simpa using hnew)
            rw [ih, flags_bitmap_or bitmap hrange, forall_notMem_insert_iff, List.forall_mem_cons]
            constructor
            · rintro ⟨hvalid, hfresh, hrest⟩
              refine ⟨⟨hrange, fun hsupported hseven => hentire ?_, hfresh, hvalid⟩, hmem, hrest⟩
              rw [Bool.and_eq_true_iff, bne_iff_ne, beq_iff_eq]
              exact ⟨hsupported, hseven⟩
            · rintro ⟨⟨-, -, hfresh, hvalid⟩, -, hrest⟩
              exact ⟨hvalid, hfresh, hrest⟩
      · rw [if_pos (by simpa using hrange)]
        exact iff_of_false Bool.false_ne_true fun h => hrange h.1.1

theorem ibGranularityValid_iff (teEnable : UInt16) (supported : UInt32) (entries : List IbEntry) :
    Responder.ibGranularityValid K teEnable supported entries = true ↔
      (Enabled teEnable K.teFeatures.explicitIbTeStateChange →
        ValidLengthIndices K supported (usedLengthIndices entries)) := by
  rw [← has_iff]
  unfold Responder.ibGranularityValid
  split
  · next he =>
      rw [ibEntriesValid_iff]
      simp [he]
  · next he => simp [he]

/-! ## The secondary sessions -/

theorem numberOfSecondarySessions_iff (validityFlags : UInt16) (n : UInt8) :
    Responder.numberOfSecondarySessions validityFlags = some n ↔
      n.toNat ≤ secondSessionCount ∧ flags validityFlags.toNat = Set.Iio n.toNat := by
  rw [← flags_two_pow_sub_one, flags_injective.eq_iff]
  constructor
  · intro h
    unfold Responder.numberOfSecondarySessions at h
    -- each case of the `switch` is the word with as many low bits as it counts sessions
    split_ifs at h with h0 h1 h2 h3 h4
    all_goals
      cases h
      subst validityFlags
      decide
  · rintro ⟨hle, hflags⟩
    have hword : validityFlags = UInt16.ofNat (2 ^ n.toNat - 1) := by
      rw [← hflags, UInt16.ofNat_toNat]
    have hcases : ∀ k ≤ secondSessionCount,
        Responder.numberOfSecondarySessions (UInt16.ofNat (2 ^ k - 1)) = some (UInt8.ofNat k) := by
      decide
    rw [hword, hcases n.toNat hle, UInt8.ofNat_toNat]

theorem secondarySessionsValid_iff (validityFlags : UInt16) (supported : UInt8) :
    Responder.secondarySessionsValid validityFlags supported = true ↔
      ValidSessions validityFlags supported := by
  unfold Responder.secondarySessionsValid
  constructor
  · intro h
    split at h
    · cases h
    next n hn =>
    obtain ⟨hle, hflags⟩ := (numberOfSecondarySessions_iff _ _).1 hn
    refine ⟨n.toNat, hle, ?_, hflags⟩
    simpa [UInt8.le_iff_toNat_le] using h
  · rintro ⟨n, hle, hsupported, hflags⟩
    have hn : (UInt8.ofNat n).toNat = n :=
      UInt8.toNat_ofNat_of_lt' (Nat.lt_of_le_of_lt hle (by decide))
    have hsome := (numberOfSecondarySessions_iff validityFlags (UInt8.ofNat n)).2
      (by rw [hn]; exact ⟨hle, hflags⟩)
    rw [hsome]
    simpa [UInt8.le_iff_toNat_le, hn] using hsupported

/-! ## The validator -/

theorem validConfiguration_of_ok {request : SetConfiguration K.secondSessionKeySize}
    {capabilities : DeviceCapabilities}
    (h : Responder.cxlTspValidateConfigruation K request capabilities = .ok ()) :
    ValidConfiguration K request capabilities := by
  unfold Responder.cxlTspValidateConfigruation at h
  simp only at h
  split at h
  · next hall =>
      simp only [Bool.and_eq_true, featuresValid_iff, Responder.algorithmValid,
        Responder.oobGranularityValid, selection_iff, teFeaturesValid_iff, ckidsValid_iff,
        ibGranularityValid_iff, secondarySessionsValid_iff] at hall
      obtain ⟨⟨⟨⟨⟨⟨hfeatures, halgorithm⟩, hte⟩, hoob⟩, hckids⟩, hib⟩, hsessions⟩ := hall
      exact ⟨hfeatures, halgorithm, hte, hoob, hckids, hib, hsessions⟩
  · cases h

/-- **The responder accepts exactly the valid configurations**, whatever the request and whatever
the capabilities of the device. -/
theorem cxlTspValidateConfigruation_eq_ok_iff (request : SetConfiguration K.secondSessionKeySize)
    (capabilities : DeviceCapabilities) :
    Responder.cxlTspValidateConfigruation K request capabilities = .ok () ↔
      ValidConfiguration K request capabilities := by
  refine ⟨validConfiguration_of_ok, fun h => ?_⟩
  unfold Responder.cxlTspValidateConfigruation
  apply if_pos
  simp only [Bool.and_eq_true]
  exact ⟨⟨⟨⟨⟨⟨(featuresValid_iff _ _).2 h.features, (selection_iff _ _ _ _).2 h.algorithm⟩,
    (teFeaturesValid_iff _ _).2 h.teFeatures⟩, (selection_iff _ _ _ _).2 h.oobGranularity⟩,
    (ckidsValid_iff _ _ _ _).2 h.ckids⟩, (ibGranularityValid_iff _ _ _).2 h.ibGranularity⟩,
    (secondarySessionsValid_iff _ _).2 h.sessions⟩

end SpdmEmu.Tsp
