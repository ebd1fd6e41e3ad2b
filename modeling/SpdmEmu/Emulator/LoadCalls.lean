import SpdmEmu.Emulator.NvStorage

/-!
# What the load of a negotiated state passes to libspdm

`spdm_load_negotiated_state` reads a structure from a file and sets the items of the SPDM context
with `libspdm_set_data`, which takes a pointer and a length. This module compares the lengths with
the objects behind the pointers.

The length of every call but one is the size of a variable. The length of the VCA cache is a number
of the file, and it is not compared with the buffer that it is for.
-/

set_option autoImplicit false

namespace SpdmEmu.Emulator.NvStorage

open SpdmEmu.Wire SpdmEmu.Libspdm

/-- The bytes from the pointer on are bytes of the object. -/
def SetDataCall.Inside (call : SetDataCall) : Prop := call.dataSize ≤ call.object.length

section Calls

variable {P : Platform}

/-- The calls of `spdm_load_negotiated_state`. -/
def loadCalls (P : Platform) (isRequester : Bool) (host : Host) (settings : Settings) :
    List SetDataCall :=
  (loadNegotiatedState P isRequester host settings).2.2

/-- The two ways a load can end. -/
inductive LoadOutcome (P : Platform) (isRequester : Bool) (host : Host) (settings : Settings) :
    LibspdmReturn × Settings × List SetDataCall → Prop
  /-- nothing has happened -/
  | failed : LoadOutcome P isRequester host settings (.unsupportedCap, settings, [])
  /-- the file holds a structure -/
  | loaded {name : String} {fileData : Bytes}
      (hname : settings.loadStateFileName = some name)
      (hfile : host.files name = some fileData) :
      LoadOutcome P isRequester host settings
        (.success, overrideSettings isRequester (P.negotiatedState.decode fileData) settings,
          loadedCalls isRequester
            (overrideSettings isRequester (P.negotiatedState.decode fileData) settings)
            (P.negotiatedState.decode fileData))

theorem files_of_read {host : Host} {name : String} {fileData : Bytes}
    (h : libspdmReadInputFile P host name = some fileData) : host.files name = some fileData := by
  rw [libspdmReadInputFile] at h
  cases hfile : host.files name with
  | none => simp [hfile] at h
  | some data =>
      rw [hfile] at h
      dsimp only at h
      split_ifs at h
      exact h

theorem loadOutcome (isRequester : Bool) (host : Host) (settings : Settings) :
    LoadOutcome P isRequester host settings
      (loadNegotiatedState P isRequester host settings) := by
  cases hname : settings.loadStateFileName with
  | none =>
      simp only [loadNegotiatedState, hname]
      exact .failed
  | some name =>
      cases hread : libspdmReadInputFile P host name with
      | none =>
          simp only [loadNegotiatedState, hname, hread]
          exact .failed
      | some fileData =>
          simp only [loadNegotiatedState, hname, hread]
          split_ifs with hsize hversion
          · exact .failed
          · exact .failed
          · exact .loaded hname (files_of_read hread)

/-! ## Lengths -/

theorem setVariable_inside {α : Type} (p : Packed α) (item : DataItem) (data : α) :
    (setVariable p item data).Inside := by
  rw [SetDataCall.Inside, setVariable, p.length_encode]

theorem vcaCache_inside_iff {n : NegotiatedState P.maxMessageVcaBufferSize} :
    (⟨.vcaCache, n.vcaBuffer.toList, n.vcaBufferSize.toNat⟩ : SetDataCall).Inside ↔
      n.vcaBufferSize.toNat ≤ P.maxMessageVcaBufferSize := by
  rw [SetDataCall.Inside, Vector.length_toList]

/-- Of the calls that depend on the version, the VCA cache alone can be too long. -/
theorem versionedCalls_inside_iff {settings : Settings}
    {n : NegotiatedState P.maxMessageVcaBufferSize} :
    (∀ call ∈ versionedCalls settings n, call.Inside) ↔
      settings.useVersion < P.messageVersion11 ∨
        n.vcaBufferSize.toNat ≤ P.maxMessageVcaBufferSize := by
  rw [versionedCalls, ← UInt8.not_le]
  split_ifs with h11 h12 h13 <;>
    simp [setVariable_inside, vcaCache_inside_iff, h11]

theorem loadedCalls_inside_iff {isRequester : Bool} {settings : Settings}
    {n : NegotiatedState P.maxMessageVcaBufferSize} :
    (∀ call ∈ loadedCalls isRequester settings n, call.Inside) ↔
      settings.useVersion < P.messageVersion11 ∨
        n.vcaBufferSize.toNat ≤ P.maxMessageVcaBufferSize := by
  rw [← versionedCalls_inside_iff, loadedCalls]
  simp [setVariable_inside, or_imp, forall_and]

end Calls

/-- **Loading an untrusted file.** A load that fails has changed no setting and no item and has
called nothing. After a load that succeeds, all lengths are inside their objects exactly if the
version in the file is below 1.1 or the length in the file fits the VCA buffer. -/
theorem load_calls_inside_iff (P : Platform) (isRequester : Bool) (host : Host)
    (settings : Settings) (ctx : SpdmContext P) :
    ((spdmLoadNegotiatedState isRequester host settings ctx).1 ≠ .success →
      (spdmLoadNegotiatedState isRequester host settings ctx).2 = (settings, ctx) ∧
        loadCalls P isRequester host settings = []) ∧
    ((spdmLoadNegotiatedState isRequester host settings ctx).1 = .success →
      ∃ name fileData, settings.loadStateFileName = some name ∧
        host.files name = some fileData ∧
        ((∀ call ∈ loadCalls P isRequester host settings, call.Inside) ↔
          (P.negotiatedState.decode fileData).spdmVersion < P.messageVersion11 ∨
            (P.negotiatedState.decode fileData).vcaBufferSize.toNat ≤
              P.maxMessageVcaBufferSize)) := by
  have houtcome := loadOutcome (P := P) isRequester host settings
  rw [spdmLoadNegotiatedState, loadCalls]
  generalize loadNegotiatedState P isRequester host settings = result at houtcome ⊢
  cases houtcome with
  | failed => exact ⟨fun _ => ⟨rfl, rfl⟩, fun h => absurd h (by simp)⟩
  | loaded hname hfile =>
      exact ⟨fun h => absurd rfl h, fun _ => ⟨_, _, hname, hfile, loadedCalls_inside_iff⟩⟩

/-- A host with a file for version 1.1 and a length of the VCA cache, for a buffer of 4 bytes. -/
def vcaLengthHost (vcaBufferSize : UInt64) : Host where
  files _ := some (Platform.sample.negotiatedState.encode
    ⟨negotiatedStateStructVersion, 0x11, 0, 0, 0, 0, 0, 0, 0, 0, 0, 0, 0, 0, 0, 0, vcaBufferSize,
      Vector.replicate 4 0⟩)
  writable _ := false

theorem load_calls_inside_iff_sample :
    (spdmLoadNegotiatedState true (vcaLengthHost 4) sampleSettings freshContext).1 = .success ∧
      ∀ call ∈ loadCalls .sample true (vcaLengthHost 4) sampleSettings, call.Inside := by
  have hsuccess : (spdmLoadNegotiatedState true (vcaLengthHost 4) sampleSettings
      freshContext).1 = .success := by decide +kernel
  obtain ⟨name, fileData, -, hfile, hiff⟩ :=
    (load_calls_inside_iff .sample true (vcaLengthHost 4) sampleSettings freshContext).2 hsuccess
  obtain rfl := Option.some.inj hfile
  exact ⟨hsuccess, hiff.mpr (by decide +kernel)⟩

/-- **A length past the VCA buffer**: the file says 5 bytes, and the buffer has 4. -/
theorem load_passes_long_vcaCache :
    (spdmLoadNegotiatedState true (vcaLengthHost 5) sampleSettings freshContext).1 = .success ∧
      ∃ call ∈ loadCalls .sample true (vcaLengthHost 5) sampleSettings,
        call.item = .vcaCache ∧ call.object.length = 4 ∧ call.dataSize = 5 := by
  refine ⟨by decide +kernel, ⟨.vcaCache, [0, 0, 0, 0], 5⟩, by decide +kernel, rfl, rfl, rfl⟩

end SpdmEmu.Emulator.NvStorage
