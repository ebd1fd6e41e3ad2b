import SpdmEmu.Wire.Flags
import SpdmEmu.Libc.Text
import SpdmEmu.Emulator.NvStorage

/-!
# Provisioning for a PSK session without negotiation

`spdm_provision_psk_version_only` of `nv_storage.c` sets the capabilities and algorithms of a
connection from the settings, after GET_VERSION and in place of the rest of the negotiation. What a
negotiation would have chosen has to be given, so each setting may have one bit at most; a setting
with more bits ends the function, with the items before it already set.

`libspdm_onehot0`, the test for at most one bit, is a parameter with its documented meaning.
-/

set_option autoImplicit false

namespace SpdmEmu.Emulator.NvStorage

open SpdmEmu.Wire SpdmEmu.Libspdm SpdmEmu.Libc

/-- What the function takes from libspdm beyond the other functions of the file. -/
structure PskPlatform extends Platform where
  connectionStateAfterVersion : UInt32
  /-- `libspdm_onehot0` -/
  onehot0 : UInt32 → Bool
  onehot0_iff : ∀ x, onehot0 x = true ↔ (flags x.toNat).Subsingleton

/-- The settings that the function reads and writes. -/
structure PskSettings extends Settings where
  usePeerCapabilityFlags : UInt32
deriving DecidableEq

/-- The connection items of a context. -/
abbrev PskConnection (P : PskPlatform) := ConnectionInfo P.toPlatform

/-! ## Checked items -/

/-- A setting that is checked and then stored: the name in its message, the digits it is printed
with, its value, and its item. -/
structure CheckedItem (P : PskPlatform) where
  name : String
  digits : Nat
  value : PskSettings → UInt32
  store : PskSettings → PskConnection P → PskConnection P
  /-- the item is not the connection state -/
  store_connectionState : ∀ settings c, (store settings c).connectionState = c.connectionState

/-- The message for a setting with more than one bit. -/
def CheckedItem.message {P : PskPlatform} (item : CheckedItem P) (settings : PskSettings) : Text :=
  item.name.toList ++ " has more bit set - 0x".toList ++
    hexText item.digits (item.value settings).toNat ++ ['\n']

/-- A function that returned early: what was printed, and the items as they are then. -/
structure Stopped (P : PskPlatform) where
  output : Text
  connection : PskConnection P

section Items

variable (P : PskPlatform)

@[simp] def measurementSpecItem : CheckedItem P where
  name := "measurement_spec"
  digits := 2
  value s := s.supportMeasurementSpec.toUInt32
  store s c := { c with measurementSpec := s.supportMeasurementSpec }
  store_connectionState _ _ := rfl

@[simp] def measurementHashAlgoItem : CheckedItem P where
  name := "measurement_hash_algo"
  digits := 8
  value s := s.supportMeasurementHashAlgo
  store s c := { c with measurementHashAlgo := s.supportMeasurementHashAlgo }
  store_connectionState _ _ := rfl

@[simp] def baseAsymAlgoItem : CheckedItem P where
  name := "base_asym_algo"
  digits := 8
  value s := s.supportAsymAlgo
  store s c := { c with baseAsymAlgo := s.supportAsymAlgo }
  store_connectionState _ _ := rfl

@[simp] def baseHashAlgoItem : CheckedItem P where
  name := "base_hash_algo"
  digits := 8
  value s := s.supportHashAlgo
  store s c := { c with baseHashAlgo := s.supportHashAlgo }
  store_connectionState _ _ := rfl

@[simp] def dheAlgoItem : CheckedItem P where
  name := "dhe_algo"
  digits := 4
  value s := s.supportDheAlgo.toUInt32
  store s c := { c with dheNameGroup := s.supportDheAlgo }
  store_connectionState _ _ := rfl

@[simp] def aeadAlgoItem : CheckedItem P where
  name := "aead_algo"
  digits := 4
  value s := s.supportAeadAlgo.toUInt32
  store s c := { c with aeadCipherSuite := s.supportAeadAlgo }
  store_connectionState _ _ := rfl

@[simp] def reqAsymAlgoItem : CheckedItem P where
  name := "req_asym_algo"
  digits := 4
  value s := s.supportReqAsymAlgo.toUInt32
  store s c := { c with reqBaseAsymAlg := s.supportReqAsymAlgo }
  store_connectionState _ _ := rfl

@[simp] def keyScheduleAlgoItem : CheckedItem P where
  name := "key_schedule_algo"
  digits := 4
  value s := s.supportKeyScheduleAlgo.toUInt32
  store s c := { c with keySchedule := s.supportKeyScheduleAlgo }
  store_connectionState _ _ := rfl

@[simp] def otherParamsItem : CheckedItem P where
  name := "other_params"
  digits := 2
  value s := s.supportOtherParamsSupport.toUInt32
  store s c := { c with otherParamsSupport := s.supportOtherParamsSupport }
  store_connectionState _ _ := rfl

@[simp] def melSpecItem : CheckedItem P where
  name := "mel_spec"
  digits := 2
  value s := s.supportMelSpec.toUInt32
  store s c := { c with melSpec := s.supportMelSpec }
  store_connectionState _ _ := rfl

/-- The items that are checked for a version, in their order. -/
def checkedItems (version : UInt8) : List (CheckedItem P) :=
  [measurementSpecItem P, measurementHashAlgoItem P, baseAsymAlgoItem P, baseHashAlgoItem P] ++
  if P.messageVersion11 ≤ version then
    [dheAlgoItem P, aeadAlgoItem P, reqAsymAlgoItem P, keyScheduleAlgoItem P] ++
    if P.messageVersion12 ≤ version then
      otherParamsItem P ::
      if P.messageVersion13 ≤ version then [melSpecItem P] else []
    else []
  else []

/-- The check of one item, and its `libspdm_set_data`. -/
def provisionItem (settings : PskSettings) (c : PskConnection P) (item : CheckedItem P) :
    Except (Stopped P) (PskConnection P) :=
  if P.onehot0 (item.value settings) then .ok (item.store settings c)
  else .error ⟨item.message settings, c⟩

end Items

/-! ## `spdm_provision_psk_version_only` -/

section Provision

variable {P : PskPlatform}

/-- What `libspdm_get_data` leaves in a variable for one version number, which holds `stack` before:
another number of versions does not go into it. -/
def getSpdmVersion (stack : UInt16) : List UInt16 → UInt16
  | [version] => version
  | _ => stack

/-- `m_use_version` after it was taken from the connection, in the requester. -/
def provisionedVersion (isRequester : Bool) (stack : UInt16) (settings : PskSettings)
    (c : PskConnection P) : UInt8 :=
  if isRequester then P.packVersion (getSpdmVersion stack c.spdmVersion) else settings.useVersion

/-- The flags of the peer, and what is written back into the settings. -/
def overridePeerFlags (isRequester : Bool) (settings : PskSettings) : UInt32 × PskSettings :=
  if isRequester then
    if settings.usePeerCapabilityFlags ≠ 0 then
      (settings.usePeerCapabilityFlags,
        { settings with useResponderCapabilityFlags := settings.usePeerCapabilityFlags })
    else (settings.useResponderCapabilityFlags, settings)
  else
    if settings.usePeerCapabilityFlags ≠ 0 then
      (settings.usePeerCapabilityFlags,
        { settings with useRequesterCapabilityFlags := settings.usePeerCapabilityFlags })
    else (settings.useRequesterCapabilityFlags, settings)

/-- What the function returns, leaves behind and prints. -/
structure ProvisionResult (P : PskPlatform) where
  status : LibspdmReturn
  settings : PskSettings
  connection : PskConnection P
  output : Text

/-- `spdm_provision_psk_version_only`. The connection is in the state AFTER_VERSION, as the source
asserts; `stack` is the variable for the version before it is read. -/
def spdmProvisionPskVersionOnly (isRequester : Bool) (stack : UInt16) (settings : PskSettings)
    (c : PskConnection P) : ProvisionResult P :=
  let settings := { settings with useVersion := provisionedVersion isRequester stack settings c }
  let c := if isRequester then c
    else { c with spdmVersion := [P.unpackVersion settings.useVersion] }
  if settings.useVersion = 0 then
    ⟨.unsupportedCap, settings, c,
      "spdm_version is unknown, please provision it as well.\n".toList⟩
  else
    let (peerFlags, settings) := overridePeerFlags isRequester settings
    let c := { c with capabilityCtExponent := 0, capabilityFlags := peerFlags }
    match (checkedItems P settings.useVersion).foldlM (provisionItem P settings) c with
    | .error stopped => ⟨.unsupportedCap, settings, stopped.connection, stopped.output⟩
    | .ok c =>
        let c :=
          if P.messageVersion11 ≤ settings.useVersion then c
          else
            { c with
              dheNameGroup := 0, aeadCipherSuite := 0, reqBaseAsymAlg := 0, keySchedule := 0 }
        ⟨.success, settings, { c with connectionState := P.connectionStateNegotiated }, []⟩

/-! ## Settings without a choice -/

/-- At most one bit of a setting is set. -/
def AtMostOneBit (setting : Nat) : Prop := (flags setting).Subsingleton

/-- Every setting that matters for a version has at most one bit. -/
@[mk_iff]
structure Unambiguous (P : PskPlatform) (settings : PskSettings) (version : UInt8) : Prop where
  measurementSpec : AtMostOneBit settings.supportMeasurementSpec.toNat
  measurementHashAlgo : AtMostOneBit settings.supportMeasurementHashAlgo.toNat
  asymAlgo : AtMostOneBit settings.supportAsymAlgo.toNat
  hashAlgo : AtMostOneBit settings.supportHashAlgo.toNat
  dheAlgo : P.messageVersion11 ≤ version → AtMostOneBit settings.supportDheAlgo.toNat
  aeadAlgo : P.messageVersion11 ≤ version → AtMostOneBit settings.supportAeadAlgo.toNat
  reqAsymAlgo : P.messageVersion11 ≤ version → AtMostOneBit settings.supportReqAsymAlgo.toNat
  keyScheduleAlgo :
    P.messageVersion11 ≤ version → AtMostOneBit settings.supportKeyScheduleAlgo.toNat
  otherParams :
    P.messageVersion12 ≤ version → AtMostOneBit settings.supportOtherParamsSupport.toNat
  melSpec : P.messageVersion13 ≤ version → AtMostOneBit settings.supportMelSpec.toNat

/-- The items that hold the settings: those that matter for a version, with 0 for the items of
version 1.1 below it, and the items of later versions as they were. -/
def withAlgorithms (settings : PskSettings) (version : UInt8) (c : PskConnection P) :
    PskConnection P :=
  { c with
    measurementSpec := settings.supportMeasurementSpec
    measurementHashAlgo := settings.supportMeasurementHashAlgo
    baseAsymAlgo := settings.supportAsymAlgo
    baseHashAlgo := settings.supportHashAlgo
    dheNameGroup := if P.messageVersion11 ≤ version then settings.supportDheAlgo else 0
    aeadCipherSuite := if P.messageVersion11 ≤ version then settings.supportAeadAlgo else 0
    reqBaseAsymAlg := if P.messageVersion11 ≤ version then settings.supportReqAsymAlgo else 0
    keySchedule := if P.messageVersion11 ≤ version then settings.supportKeyScheduleAlgo else 0
    otherParamsSupport :=
      if P.messageVersion12 ≤ version then settings.supportOtherParamsSupport
      else c.otherParamsSupport
    melSpec := if P.messageVersion13 ≤ version then settings.supportMelSpec else c.melSpec }

/-- The override if there is one, and the flags of the other role otherwise. -/
def peerFlags (isRequester : Bool) (settings : PskSettings) : UInt32 :=
  if settings.usePeerCapabilityFlags ≠ 0 then settings.usePeerCapabilityFlags
  else if isRequester then settings.useResponderCapabilityFlags
  else settings.useRequesterCapabilityFlags

/-- The connection that a success leaves. -/
def pskConnection (isRequester : Bool) (settings : PskSettings) (version : UInt8)
    (c : PskConnection P) : PskConnection P :=
  { withAlgorithms settings version c with
    spdmVersion := if isRequester then c.spdmVersion else [P.unpackVersion version]
    capabilityCtExponent := 0
    capabilityFlags := peerFlags isRequester settings
    connectionState := P.connectionStateNegotiated }

/-- The later versions include the earlier ones. -/
theorem version_cases (P : PskPlatform) (version : UInt8) :
    version < P.messageVersion11 ∧ version < P.messageVersion12 ∧ version < P.messageVersion13 ∨
    P.messageVersion11 ≤ version ∧ version < P.messageVersion12 ∧ version < P.messageVersion13 ∨
    P.messageVersion11 ≤ version ∧ P.messageVersion12 ≤ version ∧ version < P.messageVersion13 ∨
    P.messageVersion11 ≤ version ∧ P.messageVersion12 ≤ version ∧ P.messageVersion13 ≤ version := by
  have h12 := P.version11_le_12
  have h13 := P.version12_le_13
  simp only [UInt8.le_iff_toNat_le, UInt8.lt_iff_toNat_lt] at h12 h13 ⊢
  omega

/-- Each item that is checked for a version is a setting that matters for it. -/
theorem unambiguous_iff_onehot0 {settings : PskSettings} {version : UInt8} :
    Unambiguous P settings version ↔
      ∀ item ∈ checkedItems P version, P.onehot0 (item.value settings) = true := by
  rw [unambiguous_iff]
  rcases version_cases P version with ⟨h11, h12, h13⟩ | ⟨h11, h12, h13⟩ | ⟨h11, h12, h13⟩ |
    ⟨h11, h12, h13⟩
  all_goals
    simp [checkedItems, P.onehot0_iff, AtMostOneBit, h11, h12, h13, UInt8.not_le.mpr]

/-- Two ways to go through a list of items: all pass and are stored, or one stops the function, and
the connection state is as it was. -/
theorem foldlM_provisionItem (settings : PskSettings) (items : List (CheckedItem P))
    (c : PskConnection P) :
    ((∀ item ∈ items, P.onehot0 (item.value settings) = true) ∧
      items.foldlM (provisionItem P settings) c =
        .ok (items.foldl (fun c item => item.store settings c) c)) ∨
    ((∃ item ∈ items, ¬ P.onehot0 (item.value settings) = true) ∧
      ∃ stopped, items.foldlM (provisionItem P settings) c = .error stopped ∧
        stopped.connection.connectionState = c.connectionState) := by
  induction items generalizing c with
  | nil => exact .inl ⟨by simp, rfl⟩
  | cons item items ih =>
      rw [List.foldlM_cons, provisionItem]
      by_cases hitem : P.onehot0 (item.value settings) = true
      · rw [if_pos hitem]
        rcases ih (item.store settings c) with
          ⟨hall, hok⟩ | ⟨⟨bad, hmem, hbad⟩, stopped, herr, hstate⟩
        · exact .inl ⟨List.forall_mem_cons.mpr ⟨hitem, hall⟩, hok⟩
        · refine .inr ⟨⟨bad, List.mem_cons_of_mem item hmem, hbad⟩, stopped, herr, ?_⟩
          rw [hstate, item.store_connectionState]
      · rw [if_neg hitem]
        exact .inr ⟨⟨item, List.mem_cons_self, hitem⟩, ⟨item.message settings, c⟩, rfl, rfl⟩

/-- The stored items, with 0 for those of version 1.1 below it, are the settings. -/
theorem foldl_store_eq (settings : PskSettings) (version : UInt8) (c : PskConnection P) :
    (let stored := (checkedItems P version).foldl (fun c item => item.store settings c) c
      if P.messageVersion11 ≤ version then stored
      else { stored with
        dheNameGroup := 0, aeadCipherSuite := 0, reqBaseAsymAlg := 0, keySchedule := 0 }) =
      withAlgorithms settings version c := by
  rcases version_cases P version with ⟨h11, h12, h13⟩ | ⟨h11, h12, h13⟩ | ⟨h11, h12, h13⟩ |
    ⟨h11, h12, h13⟩
  all_goals
    simp [checkedItems, withAlgorithms, h11, h12, h13, UInt8.not_le.mpr]

/-- The flags of the peer are chosen, and of the settings only flags are changed. -/
theorem overridePeerFlags_eq (isRequester : Bool) (settings : PskSettings) :
    ∃ requesterFlags responderFlags, overridePeerFlags isRequester settings =
      (peerFlags isRequester settings,
        { settings with
          useRequesterCapabilityFlags := requesterFlags
          useResponderCapabilityFlags := responderFlags }) := by
  rw [overridePeerFlags, peerFlags]
  split_ifs <;> exact ⟨_, _, rfl⟩

/-- The version and the flags are not among the settings that have to be unambiguous. -/
theorem unambiguous_update_iff {settings : PskSettings} {version : UInt8}
    (useVersion : UInt8) (requesterFlags responderFlags : UInt32) :
    Unambiguous P
        { settings with
          useVersion := useVersion
          useRequesterCapabilityFlags := requesterFlags
          useResponderCapabilityFlags := responderFlags } version ↔
      Unambiguous P settings version := by
  rw [unambiguous_iff, unambiguous_iff]

/-- The ways the function can end, for the version that it uses. -/
inductive ProvisionOutcome (P : PskPlatform) (isRequester : Bool) (settings : PskSettings)
    (version : UInt8) (c : PskConnection P) : ProvisionResult P → Prop
  /-- there is no version, or a setting leaves a choice -/
  | failed {result : ProvisionResult P} (hversion : result.settings.useVersion = version)
      (hstatus : result.status = .unsupportedCap)
      (hfail : ¬ (version ≠ 0 ∧ Unambiguous P settings version))
      (hstate : result.connection.connectionState = c.connectionState) :
      ProvisionOutcome P isRequester settings version c result
  /-- all items are set -/
  | provisioned {result : ProvisionResult P} (hversion : result.settings.useVersion = version)
      (hstatus : result.status = .success)
      (hknown : version ≠ 0) (hsettings : Unambiguous P settings version)
      (hconnection : result.connection = pskConnection isRequester settings version c) :
      ProvisionOutcome P isRequester settings version c result

theorem provisionOutcome (isRequester : Bool) (stack : UInt16) (settings : PskSettings)
    (c : PskConnection P) :
    ProvisionOutcome P isRequester settings (provisionedVersion isRequester stack settings c) c
      (spdmProvisionPskVersionOnly isRequester stack settings c) := by
  rw [spdmProvisionPskVersionOnly]
  generalize provisionedVersion isRequester stack settings c = version
  dsimp only
  by_cases hzero : version = 0
  · rw [if_pos hzero]
    refine .failed rfl rfl (fun h => h.1 hzero) ?_
    cases isRequester <;> rfl
  · rw [if_neg hzero]
    obtain ⟨requesterFlags, responderFlags, hflags⟩ :=
      overridePeerFlags_eq isRequester { settings with useVersion := version }
    rw [hflags]
    dsimp only
    -- the items do not see the flags
    rcases foldlM_provisionItem
        { settings with
          useVersion := version
          useRequesterCapabilityFlags := requesterFlags
          useResponderCapabilityFlags := responderFlags }
        (checkedItems P version)
        { (if isRequester then c else { c with spdmVersion := [P.unpackVersion version] }) with
          capabilityCtExponent := 0
          capabilityFlags := peerFlags isRequester { settings with useVersion := version } }
      with ⟨hall, hok⟩ | ⟨⟨item, hmem, hbad⟩, stopped, herr, hstate⟩
    · rw [hok]
      refine .provisioned rfl rfl hzero ?_ ?_
      · exact (unambiguous_update_iff _ _ _).mp (unambiguous_iff_onehot0.mpr hall)
      · dsimp only
        rw [foldl_store_eq]
        cases isRequester <;> rfl
    · rw [herr]
      refine .failed rfl rfl ?_ ?_
      · rintro ⟨-, h⟩
        exact hbad (unambiguous_iff_onehot0.mp ((unambiguous_update_iff _ _ _).mpr h) item hmem)
      · rw [hstate]
        cases isRequester <;> rfl

end Provision

/-- **Provisioning without negotiation.** From the state AFTER_VERSION, the function succeeds
exactly if the version is known and no setting that matters for it leaves a choice. The connection
then holds these settings and is NEGOTIATED; otherwise it is still AFTER_VERSION. -/
theorem psk_provision_success_iff (P : PskPlatform) (isRequester : Bool) (stack : UInt16)
    (settings : PskSettings) (c : PskConnection P)
    (hstate : c.connectionState = P.connectionStateAfterVersion) :
    let result := spdmProvisionPskVersionOnly isRequester stack settings c
    let version := result.settings.useVersion
    version = provisionedVersion isRequester stack settings c ∧
    (result.status = .success ↔ version ≠ 0 ∧ Unambiguous P settings version) ∧
    (result.status = .success →
      result.connection = pskConnection isRequester settings version c) ∧
    (result.status ≠ .success →
      result.connection.connectionState = P.connectionStateAfterVersion) := by
  intro result version
  cases provisionOutcome isRequester stack settings c with
  | failed hversion hstatus hfail hstate' =>
      have hversion : version = provisionedVersion isRequester stack settings c := hversion
      have hnot : result.status ≠ .success := fun h => absurd (hstatus.symm.trans h) (by decide)
      rw [hversion]
      exact ⟨rfl, ⟨fun h => absurd h hnot, fun h => absurd h hfail⟩, fun h => absurd h hnot,
        fun _ => hstate'.trans hstate⟩
  | provisioned hversion hstatus hknown hsettings hconnection =>
      have hversion : version = provisionedVersion isRequester stack settings c := hversion
      rw [hversion]
      exact ⟨rfl, ⟨fun _ => ⟨hknown, hsettings⟩, fun _ => hstatus⟩, fun _ => hconnection,
        fun h => absurd hstatus h⟩

/-- Concrete codes. -/
def PskPlatform.sample : PskPlatform where
  toPlatform := .sample
  connectionStateAfterVersion := 1
  onehot0 x := x &&& (x - 1) == 0
  onehot0_iff x := by
    rw [beq_iff_eq]
    by_cases hx : x = 0
    · subst hx
      simp
    · rw [and_sub_one_eq_zero_iff hx]
      constructor
      · rintro ⟨i, hi⟩
        rw [hi]
        exact Set.subsingleton_singleton
      · intro h
        refine (h.eq_empty_or_singleton).resolve_left fun hempty => ?_
        have hnonempty := (flags_nonempty_iff x.toNat).mpr fun h0 => hx (UInt32.toNat_inj.mp h0)
        rw [hempty] at hnonempty
        exact Set.not_nonempty_empty hnonempty

/-- The settings of a test run: SHA-256 and one other algorithm of each kind. -/
def samplePskSettings : PskSettings where
  toSettings := ⟨none, none, 0, 0x12, 1, 2, 0, 1, 2, 0x10, 1, 8, 2, 0, 1, 2, 0⟩
  usePeerCapabilityFlags := 0x40

/-- A responder after GET_VERSION. -/
def afterVersionConnection : PskConnection .sample :=
  ⟨false, [], 0, 0, 0, 0, 0, 0, 0, 0, 0, 0, 0, 0, ⟨[], by decide⟩, 1⟩

theorem psk_provision_success_iff_sample :
    (spdmProvisionPskVersionOnly false 0 samplePskSettings afterVersionConnection).status =
        .success ∧
      (spdmProvisionPskVersionOnly false 0 samplePskSettings afterVersionConnection).connection =
        pskConnection false samplePskSettings 0x12 afterVersionConnection := by
  obtain ⟨hversion, hiff, hconnection, -⟩ :=
    psk_provision_success_iff .sample false 0 samplePskSettings afterVersionConnection rfl
  have hsuccess := hiff.mpr ⟨by rw [hversion]; decide, by
    rw [hversion]
    exact unambiguous_iff_onehot0.mpr (by decide)⟩
  refine ⟨hsuccess, ?_⟩
  rw [hconnection hsuccess, hversion]
  rfl

end SpdmEmu.Emulator.NvStorage
