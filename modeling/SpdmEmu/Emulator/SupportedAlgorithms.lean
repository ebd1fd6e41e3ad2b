import SpdmEmu.Wire.Reading
import SpdmEmu.Emulator.FlagNames

/-!
# Printing the supported algorithms

`dump_supported_algorithms` of `spdm_emu.c` prints the block of algorithms that a responder sends:
its fixed part, and as many algorithm structures as its first parameter says. The count is the
responder's, so each structure is compared with the end of the buffer before it is read.

The layouts of the two structures and the values of the constants are those of libspdm, and
parameters here; the types of algorithms have different values, as labels of one `switch`. A
structure is read as a whole.

`Listing` says what the lines of the text are, apart from how they are printed: the rows of the
block, one row for each structure that is counted and in the buffer, and a note if there are more.
-/

set_option autoImplicit false

namespace SpdmEmu.Emulator

open SpdmEmu.Libc SpdmEmu.Wire

/-! ## Constants and tables -/

/-- The constants of libspdm that stand in the tables. -/
inductive AlgorithmFlag where
  | measurementSpecificationDmtf
  | melSpecificationDmtf
  | opaqueDataFormat1 | multiKeyConn
  | sha256 | sha384 | sha512 | sha3_256 | sha3_384 | sha3_512 | sm3_256
  | rsassa2048 | rsassa3072 | rsassa4096 | rsapss2048 | rsapss3072 | rsapss4096
  | ecdsaP256 | ecdsaP384 | ecdsaP521 | sm2EccP256 | eddsa25519 | eddsa448
  | ffdhe2048 | ffdhe3072 | ffdhe4096 | secp256R1 | secp384R1 | secp521R1 | dheSm2P256
  | aes128Gcm | aes256Gcm | chacha20Poly1305 | sm4Gcm
  | mlDsa44 | mlDsa65 | mlDsa87
  | slhDsaSha2_128s | slhDsaShake128s | slhDsaSha2_128f | slhDsaShake128f
  | slhDsaSha2_192s | slhDsaShake192s | slhDsaSha2_192f | slhDsaShake192f
  | slhDsaSha2_256s | slhDsaShake256s | slhDsaSha2_256f | slhDsaShake256f
  | mlKem512 | mlKem768 | mlKem1024
  | keyScheduleSpdm

/-- `SPDM_NEGOTIATE_ALGORITHMS_STRUCT_TABLE_ALG_TYPE_…` -/
inductive AlgType where
  | dhe | aead | reqBaseAsymAlg | keySchedule | reqPqcAsymAlg | kemAlg
deriving DecidableEq

/-- `spdm_supported_algorithms_block_t`, the fields that are printed. -/
structure SupportedAlgorithmsBlock where
  param1 : UInt8
  length : UInt16
  measurementSpecification : UInt8
  otherParamsSupport : UInt8
  baseAsymAlgo : UInt32
  baseHashAlgo : UInt32
  pqcAsymAlgo : UInt32
  melSpecification : UInt8

/-- `spdm_negotiate_algorithms_common_struct_table_t` -/
structure AlgStruct where
  algType : UInt8
  algCount : UInt8
  algSupported : UInt16

/-- What libspdm defines for the block. -/
structure AlgorithmStandard where
  flag : AlgorithmFlag → UInt32
  algType : AlgType → UInt8
  block : Packed SupportedAlgorithmsBlock
  algStruct : Packed AlgStruct
  algType_injective : Function.Injective algType
  algStruct_size : algStruct.size = 4

/-- An entry of a table. -/
def valueString (value : UInt32) (name : String) : ValueStringEntry := ⟨value, name.toList⟩

section Tables

variable (K : AlgorithmStandard)

/-- `m_measurement_spec_value_string_table` -/
def measurementSpecTable : List ValueStringEntry :=
  [valueString (K.flag .measurementSpecificationDmtf) "DMTF"]

/-- `m_mel_spec_value_string_table` -/
def melSpecTable : List ValueStringEntry := [valueString (K.flag .melSpecificationDmtf) "DMTF"]

/-- `m_other_param_value_string_table` -/
def otherParamTable : List ValueStringEntry :=
  [valueString (K.flag .opaqueDataFormat1) "OPAQUE_FMT_1",
    valueString (K.flag .multiKeyConn) "MULTI_KEY_CONN"]

/-- `m_hash_value_string_table` -/
def hashTable : List ValueStringEntry :=
  [valueString (K.flag .sha256) "SHA_256", valueString (K.flag .sha384) "SHA_384",
    valueString (K.flag .sha512) "SHA_512", valueString (K.flag .sha3_256) "SHA3_256",
    valueString (K.flag .sha3_384) "SHA3_384", valueString (K.flag .sha3_512) "SHA3_512",
    valueString (K.flag .sm3_256) "SM3_256"]

/-- `m_asym_value_string_table` -/
def asymTable : List ValueStringEntry :=
  [valueString 0 "NONE", valueString (K.flag .rsassa2048) "RSASSA_2048",
    valueString (K.flag .rsassa3072) "RSASSA_3072", valueString (K.flag .rsassa4096) "RSASSA_4096",
    valueString (K.flag .rsapss2048) "RSAPSS_2048", valueString (K.flag .rsapss3072) "RSAPSS_3072",
    valueString (K.flag .rsapss4096) "RSAPSS_4096", valueString (K.flag .ecdsaP256) "ECDSA_P256",
    valueString (K.flag .ecdsaP384) "ECDSA_P384", valueString (K.flag .ecdsaP521) "ECDSA_P521",
    valueString (K.flag .sm2EccP256) "SM2_P256", valueString (K.flag .eddsa25519) "EDDSA_25519",
    valueString (K.flag .eddsa448) "EDDSA_448"]

/-- `m_dhe_value_string_table` -/
def dheTable : List ValueStringEntry :=
  [valueString 0 "NONE", valueString (K.flag .ffdhe2048) "FFDHE_2048",
    valueString (K.flag .ffdhe3072) "FFDHE_3072", valueString (K.flag .ffdhe4096) "FFDHE_4096",
    valueString (K.flag .secp256R1) "SECP_256_R1", valueString (K.flag .secp384R1) "SECP_384_R1",
    valueString (K.flag .secp521R1) "SECP_521_R1", valueString (K.flag .dheSm2P256) "SM2_P256"]

/-- `m_aead_value_string_table` -/
def aeadTable : List ValueStringEntry :=
  [valueString (K.flag .aes128Gcm) "AES_128_GCM", valueString (K.flag .aes256Gcm) "AES_256_GCM",
    valueString (K.flag .chacha20Poly1305) "CHACHA20_POLY1305",
    valueString (K.flag .sm4Gcm) "SM4_128_GCM"]

/-- `m_pqc_asym_value_string_table` -/
def pqcAsymTable : List ValueStringEntry :=
  [valueString 0 "NONE", valueString (K.flag .mlDsa44) "ML_DSA_44",
    valueString (K.flag .mlDsa65) "ML_DSA_65", valueString (K.flag .mlDsa87) "ML_DSA_87",
    valueString (K.flag .slhDsaSha2_128s) "SLH_DSA_SHA2_128S",
    valueString (K.flag .slhDsaShake128s) "SLH_DSA_SHAKE_128S",
    valueString (K.flag .slhDsaSha2_128f) "SLH_DSA_SHA2_128F",
    valueString (K.flag .slhDsaShake128f) "SLH_DSA_SHAKE_128F",
    valueString (K.flag .slhDsaSha2_192s) "SLH_DSA_SHA2_192S",
    valueString (K.flag .slhDsaShake192s) "SLH_DSA_SHAKE_192S",
    valueString (K.flag .slhDsaSha2_192f) "SLH_DSA_SHA2_192F",
    valueString (K.flag .slhDsaShake192f) "SLH_DSA_SHAKE_192F",
    valueString (K.flag .slhDsaSha2_256s) "SLH_DSA_SHA2_256S",
    valueString (K.flag .slhDsaShake256s) "SLH_DSA_SHAKE_256S",
    valueString (K.flag .slhDsaSha2_256f) "SLH_DSA_SHA2_256F",
    valueString (K.flag .slhDsaShake256f) "SLH_DSA_SHAKE_256F"]

/-- `m_kem_value_string_table` -/
def kemTable : List ValueStringEntry :=
  [valueString 0 "NONE", valueString (K.flag .mlKem512) "ML_KEM_512",
    valueString (K.flag .mlKem768) "ML_KEM_768", valueString (K.flag .mlKem1024) "ML_KEM_1024"]

/-- `m_key_schedule_value_string_table` -/
def keyScheduleTable : List ValueStringEntry :=
  [valueString (K.flag .keyScheduleSpdm) "HMAC_HASH"]

end Tables

/-! ## `dump_supported_algorithms` -/

section Dump

variable (K : AlgorithmStandard)

/-- A line with a label and the names of flags. -/
def flagsLine (label : String) (table : List ValueStringEntry) (flags : UInt32) : Text :=
  label.toList ++ dumpFlagNames table flags ++ ['\n']

/-- A line with a label and a number. -/
def numberLine (label : String) (n : Nat) : Text := label.toList ++ decimalText n ++ ['\n']

/-- The lines for the fixed part. -/
def blockText (block : SupportedAlgorithmsBlock) : Text :=
  "SupportedAlgorithms:\n".toList ++
    numberLine "  AlgStructCount        - " block.param1.toNat ++
    numberLine "  Length                - " block.length.toNat ++
    flagsLine "  MeasurementSpec       - " (measurementSpecTable K)
      block.measurementSpecification.toUInt32 ++
    flagsLine "  OtherParams           - " (otherParamTable K) block.otherParamsSupport.toUInt32 ++
    flagsLine "  BaseAsymAlgo          - " (asymTable K) block.baseAsymAlgo ++
    flagsLine "  BaseHashAlgo          - " (hashTable K) block.baseHashAlgo ++
    flagsLine "  PqcAsymAlgo           - " (pqcAsymTable K) block.pqcAsymAlgo ++
    flagsLine "  MelSpec               - " (melSpecTable K) block.melSpecification.toUInt32

/-- The line for an algorithm structure. -/
def algStructLine (s : AlgStruct) : Text :=
  let supported := s.algSupported.toUInt32
  if s.algType = K.algType .dhe then
    flagsLine "  DHE                   - " (dheTable K) supported
  else if s.algType = K.algType .aead then
    flagsLine "  AEAD                  - " (aeadTable K) supported
  else if s.algType = K.algType .reqBaseAsymAlg then
    flagsLine "  ReqBaseAsymAlg        - " (asymTable K) supported
  else if s.algType = K.algType .keySchedule then
    flagsLine "  KeySchedule           - " (keyScheduleTable K) supported
  else if s.algType = K.algType .reqPqcAsymAlg then
    flagsLine "  ReqPqcAsymAlg         - " (pqcAsymTable K) supported
  else if s.algType = K.algType .kemAlg then
    flagsLine "  KEM                   - " (kemTable K) supported
  else
    "  AlgType(0x".toList ++ hexText 2 s.algType.toNat ++ ")          - 0x".toList ++
      hexText 4 s.algSupported.toNat ++ ['\n']

/-- The line for the first structure that is not in the buffer. -/
def truncatedLine (index : Nat) : Text :=
  "  AlgStruct[".toList ++ decimalText (index % 2 ^ 32) ++ "]           - truncated\n".toList

/-- The address of `alg_struct[index]`. -/
def algStructAddress (index : Nat) : Nat := K.block.size + index * K.algStruct.size

/-- A pass of the loop, with the index and what was printed. -/
def algStructPass (bufferSize : Nat) : Nat × Text → Reading (Text ⊕ (Nat × Text))
  | (index, output) => do
      let block ← Reading.readAs K.block 0
      if index < block.param1.toNat then
        if algStructAddress K (index + 1) > bufferSize then
          return .inl (output ++ truncatedLine index)
        else
          let s ← Reading.readAs K.algStruct (algStructAddress K index)
          return .inr (index + 1, output ++ algStructLine K s)
      else return .inl output

/-- `dump_supported_algorithms` for a buffer at the address 0: the printed text. -/
def dumpSupportedAlgorithms (fuel bufferSize : Nat) : Reading Text :=
  if bufferSize < K.block.size then
    return "SupportedAlgorithms: truncated (".toList ++ decimalText (bufferSize % 2 ^ 32) ++
      " bytes)\n".toList
  else do
    let block ← Reading.readAs K.block 0
    Reading.loop (algStructPass K bufferSize) fuel (0, blockText K block)

end Dump

/-! ## What is to be printed -/

section Lines

variable (K : AlgorithmStandard)

/-- The block at the start of a buffer. -/
def blockAt (m : Mem) : SupportedAlgorithmsBlock := K.block.decode (m.load 0 K.block.size)

/-- The algorithm structure with an index: they stand behind the block, four bytes each. -/
def algStructAt (m : Mem) (index : Nat) : AlgStruct :=
  K.algStruct.decode (m.load (K.block.size + 4 * index) 4)

/-- A label in the first column, which has 22 characters. -/
def column (label : String) : Text := "  ".toList ++ label.toList.rightpad 22 ' ' ++ "- ".toList

/-- A row: a label and its value. -/
def row (label : String) (value : Text) : Text := column label ++ value

/-- The title and the rows of the block. -/
def blockRows (block : SupportedAlgorithmsBlock) : List Text :=
  ["SupportedAlgorithms:".toList,
    row "AlgStructCount" (decimalText block.param1.toNat),
    row "Length" (decimalText block.length.toNat),
    row "MeasurementSpec"
      (dumpFlagNames (measurementSpecTable K) block.measurementSpecification.toUInt32),
    row "OtherParams" (dumpFlagNames (otherParamTable K) block.otherParamsSupport.toUInt32),
    row "BaseAsymAlgo" (dumpFlagNames (asymTable K) block.baseAsymAlgo),
    row "BaseHashAlgo" (dumpFlagNames (hashTable K) block.baseHashAlgo),
    row "PqcAsymAlgo" (dumpFlagNames (pqcAsymTable K) block.pqcAsymAlgo),
    row "MelSpec" (dumpFlagNames (melSpecTable K) block.melSpecification.toUInt32)]

/-- The label of a type. -/
def AlgType.label : AlgType → String
  | .dhe => "DHE"
  | .aead => "AEAD"
  | .reqBaseAsymAlg => "ReqBaseAsymAlg"
  | .keySchedule => "KeySchedule"
  | .reqPqcAsymAlg => "ReqPqcAsymAlg"
  | .kemAlg => "KEM"

/-- The names of the algorithms of a type. -/
def AlgType.table : AlgType → List ValueStringEntry
  | .dhe => dheTable K
  | .aead => aeadTable K
  | .reqBaseAsymAlg => asymTable K
  | .keySchedule => keyScheduleTable K
  | .reqPqcAsymAlg => pqcAsymTable K
  | .kemAlg => kemTable K

/-- The line of a structure: the names of its algorithms, or two numbers for an unknown type. -/
inductive StructLine (s : AlgStruct) : Text → Prop
  | known (t : AlgType) (h : s.algType = K.algType t) :
      StructLine s (row t.label (dumpFlagNames (t.table K) s.algSupported.toUInt32))
  | unknown (h : ∀ t, s.algType ≠ K.algType t) :
      StructLine s ("  AlgType(0x".toList ++ hexText 2 s.algType.toNat ++
        ")          - 0x".toList ++ hexText 4 s.algSupported.toNat)

/-- The number of structures that are counted and wholly in the buffer. -/
def listed (m : Mem) (bufferSize : Nat) : Nat :=
  min (blockAt K m).param1.toNat ((bufferSize - K.block.size) / 4)

/-- The lines for a buffer that holds the block. -/
structure Listing (m : Mem) (bufferSize : Nat) (lines : List Text) : Prop where
  length : lines.length = 9 + listed K m bufferSize +
    if listed K m bufferSize < (blockAt K m).param1.toNat then 1 else 0
  block : lines.take 9 = blockRows K (blockAt K m)
  struct : ∀ index < listed K m bufferSize, ∃ line,
    lines[9 + index]? = some line ∧ StructLine K (algStructAt K m index) line
  truncated : listed K m bufferSize < (blockAt K m).param1.toNat →
    lines[9 + listed K m bufferSize]? =
      some ("  AlgStruct[".toList ++ decimalText (listed K m bufferSize) ++
        "]           - truncated".toList)

/-- The text with these lines. -/
def textOf (lines : List Text) : Text := lines.flatMap (· ++ ['\n'])

@[simp] theorem textOf_append (a b : List Text) : textOf (a ++ b) = textOf a ++ textOf b :=
  List.flatMap_append

@[simp] theorem textOf_singleton (line : Text) : textOf [line] = line ++ ['\n'] :=
  List.flatMap_singleton _ _

end Lines

/-! ## What is printed and what is read -/

section Printed

variable {K : AlgorithmStandard} {m : Mem} {bufferSize : Nat}

theorem length_blockRows (block : SupportedAlgorithmsBlock) : (blockRows K block).length = 9 := rfl

theorem blockText_eq (block : SupportedAlgorithmsBlock) :
    blockText K block = textOf (blockRows K block) := by
  unfold blockText numberLine flagsLine
  rw [show "SupportedAlgorithms:\n".toList = "SupportedAlgorithms:".toList ++ ['\n'] by decide,
    show "  AlgStructCount        - ".toList = column "AlgStructCount" by decide,
    show "  Length                - ".toList = column "Length" by decide,
    show "  MeasurementSpec       - ".toList = column "MeasurementSpec" by decide,
    show "  OtherParams           - ".toList = column "OtherParams" by decide,
    show "  BaseAsymAlgo          - ".toList = column "BaseAsymAlgo" by decide,
    show "  BaseHashAlgo          - ".toList = column "BaseHashAlgo" by decide,
    show "  PqcAsymAlgo           - ".toList = column "PqcAsymAlgo" by decide,
    show "  MelSpec               - ".toList = column "MelSpec" by decide]
  simp only [textOf, blockRows, row, List.flatMap_cons, List.flatMap_nil, List.append_assoc,
    List.append_nil]

/-- The note at an index. -/
theorem truncatedLine_eq {index : Nat} (h : index < 2 ^ 32) :
    truncatedLine index = textOf ["  AlgStruct[".toList ++ decimalText index ++
      "]           - truncated".toList] := by
  have hend : "]           - truncated\n".toList = "]           - truncated".toList ++ ['\n'] := by
    decide
  have htext : truncatedLine index = "  AlgStruct[".toList ++ decimalText (index % 2 ^ 32) ++
      "]           - truncated\n".toList := rfl
  rw [htext, Nat.mod_eq_of_lt h, hend, textOf_singleton, ← List.append_assoc]

/-- The labels of the `switch` are the types. -/
theorem algStructLine_eq (s : AlgStruct) :
    ∃ line, algStructLine K s = line ++ ['\n'] ∧ StructLine K s line := by
  by_cases hknown : ∃ t, s.algType = K.algType t
  · obtain ⟨t, ht⟩ := hknown
    refine ⟨_, ?_, .known t ht⟩
    rw [algStructLine, ht]
    simp only [K.algType_injective.eq_iff]
    cases t <;> rfl
  · have hnot : ∀ t, s.algType ≠ K.algType t := fun t ht => hknown ⟨t, ht⟩
    refine ⟨_, ?_, .unknown hnot⟩
    rw [algStructLine]
    simp only [if_neg (hnot _)]

/-- A structure is inside the buffer exactly if there is room for it. -/
theorem algStructAddress_succ_le_iff (hblock : K.block.size ≤ bufferSize) (index : Nat) :
    algStructAddress K (index + 1) ≤ bufferSize ↔ index < (bufferSize - K.block.size) / 4 := by
  rw [algStructAddress, K.algStruct_size]
  omega

theorem decode_algStructAddress (index : Nat) :
    K.algStruct.decode (m.load (algStructAddress K index) K.algStruct.size) =
      algStructAt K m index := by
  rw [algStructAddress, K.algStruct_size, Nat.mul_comm index 4]
  rfl

/-- The lines after those of the block. -/
def structLines (K : AlgorithmStandard) (m : Mem) (bufferSize : Nat) (line : AlgStruct → Text) :
    List Text :=
  (List.range (listed K m bufferSize)).map (fun index => line (algStructAt K m index)) ++
    if listed K m bufferSize < (blockAt K m).param1.toNat then
      ["  AlgStruct[".toList ++ decimalText (listed K m bufferSize) ++
        "]           - truncated".toList]
    else []

/-- **The loop** prints the structures before its index, and no more than are listed. -/
theorem algStructLoop_meets (hblock : K.block.size ≤ bufferSize) {fuel : Nat}
    (hfuel : 256 ≤ fuel) {line : AlgStruct → Text}
    (hline : ∀ s, algStructLine K s = line s ++ ['\n']) (title : Text) :
    Reading.Meets (· < bufferSize) m
      (Reading.loop (algStructPass K bufferSize) fuel (0, title))
      (· = title ++ textOf (structLines K m bufferSize line)) := by
  have hparam : (blockAt K m).param1.toNat < 256 := UInt8.toNat_lt _
  have hlisted : listed K m bufferSize =
      min (blockAt K m).param1.toNat ((bufferSize - K.block.size) / 4) := rfl
  refine Reading.Meets.loop
    (fun s => s.1 ≤ listed K m bufferSize ∧
      s.2 = title ++ textOf ((List.range s.1).map fun index => line (algStructAt K m index)))
    (fun s => (blockAt K m).param1.toNat - s.1) ?_
    ⟨Nat.zero_le _, (List.append_nil title).symm⟩ (by dsimp only; omega)
  rintro ⟨index, output⟩ ⟨hindex, houtput⟩
  dsimp only at hindex houtput
  subst houtput
  refine .readAs_bind (fun i _ hi => by omega) ?_
  change Reading.Meets _ m (if index < (blockAt K m).param1.toNat then _ else _) _
  by_cases hmore : index < (blockAt K m).param1.toNat
  · rw [if_pos hmore]
    by_cases hinside : index < (bufferSize - K.block.size) / 4
    · -- the structure is in the buffer
      have hend := (algStructAddress_succ_le_iff hblock index).mpr hinside
      have hnext : algStructAddress K (index + 1) =
          algStructAddress K index + K.algStruct.size := by
        rw [algStructAddress, algStructAddress, Nat.succ_mul, Nat.add_assoc]
      rw [if_neg (by omega)]
      refine .readAs_bind (fun i _ hi => by omega) (.pure ⟨⟨?_, ?_⟩, ?_⟩)
      · dsimp only
        omega
      · dsimp only
        rw [decode_algStructAddress, hline, List.range_succ, List.map_append, textOf_append,
          List.append_assoc]
        simp
      · dsimp only
        omega
    · -- the first structure that is not is the number of those that are
      have hend := mt (algStructAddress_succ_le_iff hblock index).mp hinside
      rw [if_pos (by omega)]
      have hstop : index = listed K m bufferSize := by omega
      refine .pure ?_
      show _ = _
      have htext := truncatedLine_eq (show index < 2 ^ 32 by omega)
      rw [structLines, if_pos (hstop ▸ hmore), ← hstop, htext, textOf_append, List.append_assoc]
  · rw [if_neg hmore]
    have hstop : index = listed K m bufferSize := by omega
    refine .pure ?_
    show _ = _
    rw [structLines, if_neg (by omega), List.append_nil, ← hstop]

/-- The lines of the block and of the loop are a listing. -/
theorem listing_structLines {line : AlgStruct → Text} (hline : ∀ s, StructLine K s (line s)) :
    Listing K m bufferSize (blockRows K (blockAt K m) ++ structLines K m bufferSize line) where
  length := by
    rw [List.length_append, structLines, List.length_append, List.length_map, List.length_range,
      length_blockRows, ← Nat.add_assoc]
    split <;> rfl
  block := List.take_left' (length_blockRows _)
  struct := by
    intro index hindex
    refine ⟨line (algStructAt K m index), ?_, hline _⟩
    rw [List.getElem?_append_right (by rw [length_blockRows]; omega), length_blockRows,
      Nat.add_sub_cancel_left, structLines, List.getElem?_append_left (by simpa using hindex)]
    simp [hindex]
  truncated := by
    intro hmore
    rw [List.getElem?_append_right (by rw [length_blockRows]; omega), length_blockRows,
      Nat.add_sub_cancel_left, structLines, if_pos hmore, List.getElem?_append_right (by simp)]
    simp

end Printed

/-- **Printing the supported algorithms.** For every buffer, only its bytes are read. If it holds
the block, the text lists as many structures as the block counts or as the buffer has room for,
whichever is less, in order and each with its own line, and ends with a note at the next index
exactly if the block counts more. -/
theorem dumpSupportedAlgorithms_complete (K : AlgorithmStandard) (m : Mem) (bufferSize fuel : Nat)
    (hfuel : 256 ≤ fuel) :
    (∀ a ∈ (dumpSupportedAlgorithms K fuel bufferSize m).reads, a < bufferSize) ∧
    (K.block.size ≤ bufferSize → ∃ lines,
      (dumpSupportedAlgorithms K fuel bufferSize m).value = some (textOf lines) ∧
        Listing K m bufferSize lines) ∧
    (bufferSize < K.block.size →
      (dumpSupportedAlgorithms K fuel bufferSize m).value =
        some ("SupportedAlgorithms: truncated (".toList ++ decimalText (bufferSize % 2 ^ 32) ++
          " bytes)\n".toList)) := by
  by_cases hblock : bufferSize < K.block.size
  · rw [dumpSupportedAlgorithms, if_pos hblock]
    exact ⟨by simp, fun h => absurd h (by omega), fun _ => rfl⟩
  · choose line hline hlists using algStructLine_eq (K := K)
    rw [dumpSupportedAlgorithms, if_neg hblock]
    have hmeets : Reading.Meets (· < bufferSize) m (do
        let block ← Reading.readAs K.block 0
        Reading.loop (algStructPass K bufferSize) fuel (0, blockText K block))
        (· = blockText K (blockAt K m) ++ textOf (structLines K m bufferSize line)) :=
      .readAs_bind (fun i _ hi => by omega) (algStructLoop_meets (by omega) hfuel hline _)
    obtain ⟨⟨text, hvalue, rfl⟩, hreads⟩ := hmeets
    rw [blockText_eq, ← textOf_append] at hvalue
    exact ⟨hreads, fun _ => ⟨_, hvalue, listing_structLines hlists⟩, fun h => absurd h hblock⟩

/-- Concrete layouts, with the same value for all constants. -/
def AlgorithmStandard.sample : AlgorithmStandard where
  flag _ := 1
  algType
    | .dhe => 2
    | .aead => 3
    | .reqBaseAsymAlg => 4
    | .keySchedule => 5
    | .reqPqcAsymAlg => 6
    | .kemAlg => 7
  algType_injective a b h := by
    cases a <;> cases b <;> first | rfl | exact absurd h (by decide)
  block :=
    ((Packed.u8.reserve 1).pair (Packed.u16.pair (Packed.u8.pair (Packed.u8.pair
      (Packed.u32.pair (Packed.u32.pair ((Packed.u32.reserve 11).pair Packed.u8))))))).view
      (fun x => ⟨x.1, x.2.1, x.2.2.1, x.2.2.2.1, x.2.2.2.2.1, x.2.2.2.2.2.1, x.2.2.2.2.2.2.1,
        x.2.2.2.2.2.2.2⟩)
      (fun b => (b.param1, b.length, b.measurementSpecification, b.otherParamsSupport,
        b.baseAsymAlgo, b.baseHashAlgo, b.pqcAsymAlgo, b.melSpecification))
      (fun block => by cases block; rfl)
  algStruct :=
    (Packed.u8.pair (Packed.u8.pair Packed.u16)).view (fun x => ⟨x.1, x.2.1, x.2.2⟩)
      (fun s => (s.algType, s.algCount, s.algSupported)) (fun s => by cases s; rfl)
  algStruct_size := rfl

/-- A block of ones that counts three structures, with two of them behind it, a key exchange and an
unknown type, and a byte of the third. -/
def dumpSample : Mem := fun address =>
  if address = 0 then 3
  else if address = AlgorithmStandard.sample.block.size then 2
  else if address = AlgorithmStandard.sample.block.size + 4 then 0x10
  else 1

theorem dumpSupportedAlgorithms_complete_sample :
    let size := AlgorithmStandard.sample.block.size + 9
    listed .sample dumpSample size = 2 ∧ (blockAt .sample dumpSample).param1 = 3 ∧
      (∀ a ∈ (dumpSupportedAlgorithms .sample 256 size dumpSample).reads, a < size) ∧
      ∃ lines, (dumpSupportedAlgorithms .sample 256 size dumpSample).value = some (textOf lines) ∧
        Listing .sample dumpSample size lines := by
  obtain ⟨hreads, hvalue, -⟩ := dumpSupportedAlgorithms_complete .sample dumpSample
    (AlgorithmStandard.sample.block.size + 9) 256 (Nat.le_refl _)
  exact ⟨by decide, by decide, hreads, hvalue (by decide)⟩

end SpdmEmu.Emulator
