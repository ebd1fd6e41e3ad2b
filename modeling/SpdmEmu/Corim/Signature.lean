import SpdmEmu.Corim.Data

/-!
# Signed manifests

`SignCbor` and `VerifySignedCbor` of `spdm_emu/spdm_device_verifier_tool/CoRimTool.py`. The signer
wraps a COSE_Sign1 message around the bytes of a file and puts two tags around the message; the
verifier takes the tags off, lets the COSE library verify the message and writes the bytes into
another file.

The libraries for CBOR, COSE and elliptic-curve keys are parameters. A call that raises an exception
is `none`; everything the two functions need of the libraries' documented behaviour is in `Lawful`
and `KeyPair`.

`verify_signature` can refuse a signature in two ways, by raising an exception and by returning
`False`. `VerifySignedCbor` catches exceptions and drops the result, so it notices only the first.
-/

set_option autoImplicit false

namespace SpdmEmu.Corim

open SpdmEmu.Wire

/-! ## The libraries -/

/-- The packages `cbor`, `cbor2`, `cose` and `ecdsa`, as far as the tool uses them. -/
structure Libraries where
  /-- `cose.keys.EC2Key` -/
  Key : Type
  /-- `cose.messages` -/
  Message : Type
  /-- `SigningKey.from_pem(pem).to_string()` -/
  signingKeyFromPem : Bytes → Option Bytes
  /-- `VerifyingKey.from_pem(pem).to_string()` -/
  verifyingKeyFromPem : Bytes → Option Bytes
  /-- `EC2Key(crv, d)` -/
  ec2Key : String → Bytes → Option Key
  /-- `Sign1Message(phdr, uhdr, payload, external_aad)` -/
  sign1Message : List (Int × Cbor) → List (Int × Cbor) → Bytes → Bytes → Option Message
  /-- `encode()` of a message with its key -/
  encode : Message → Key → Option Bytes
  /-- `CoseMessage.decode` -/
  decode : Bytes → Option Message
  /-- `verify_signature(alg)` of a message with its key -/
  verifySignature : Message → Key → String → Option Bool
  /-- `cbor2.loads` -/
  cbor2Loads : Bytes → Option Cbor
  /-- `cbor2.dumps` -/
  cbor2Dumps : Cbor → Option Bytes
  /-- `cbor.load` from a file with these bytes -/
  cborLoad : Bytes → Option Cbor
  /-- `cbor.dumps` -/
  cborDumps : Cbor → Option Bytes

/-! ## Files and output -/

/-- The files a run can see. -/
structure Files where
  contents : String → Option Bytes
  writable : String → Bool

/-- A file with new contents. -/
def Files.write (files : Files) (path : String) (bytes : Bytes) : Files :=
  { files with contents := fun p => if p = path then some bytes else files.contents p }

@[simp] theorem Files.contents_write (files : Files) (path : String) (bytes : Bytes) :
    (files.write path bytes).contents path = some bytes := if_pos rfl

/-- `with open(path, 'wb') as f: f.write(bytes)`, where computing the bytes may raise an exception.
The file is emptied before they are computed. -/
def Files.writeNew (files : Files) (path : String) (bytes : Option Bytes) : Bool × Files :=
  if files.writable path then
    match bytes with
    | none => (false, files.write path [])
    | some bytes => (true, files.write path bytes)
  else (false, files)

/-- Writing a file leaves the others alone. -/
theorem Files.contents_writeNew_of_ne (files : Files) {path path' : String} (h : path' ≠ path)
    (bytes : Option Bytes) :
    (files.writeNew path bytes).2.contents path' = files.contents path' := by
  unfold Files.writeNew
  split
  · rcases bytes with _ | bytes
    · exact if_neg h
    · exact if_neg h
  · rfl

/-- What is printed. -/
inductive Printed where
  | text (s : String)
  | value (v : Cbor)

/-- How a function of the tool ends. -/
inductive Ending where
  | returned
  | exited
  | raised
deriving DecidableEq, Repr

/-- What a function of the tool leaves behind. -/
structure Outcome where
  files : Files
  printed : List Printed
  ending : Ending

/-! ## `SignCbor` -/

/-- `protected_hdr_default` -/
def protectedHdrDefault (algorithm kid : String) : List (String × Json) :=
  [("corim_alg_id", .leaf (.text algorithm)),
    ("corim_content_type", .leaf (.text "application/rim+cbor")),
    ("corim_issuer_key_id", .leaf (.bytes kid.toUTF8.toList)),
    ("corim_meta", .object
      [("corim_signer", .array
        [.object
          [("corim_entity_name", .leaf (.text "Intel")),
            ("corim_role", .leaf (.text "corim_manifest_creator"))]])])]

/-- The value of an expression that raises an exception if there is none. -/
def orRaise {α : Type} : Option α → Except Stop α
  | none => .error .raised
  | some a => .ok a

/-- `SignCbor` up to the value it writes. -/
def taggedMessage (L : Libraries) (files : Files) (filePath key algorithm kid : String) :
    Except Stop Cbor := do
  let cborData ← orRaise (files.contents filePath)
  let pem ← orRaise (files.contents key)
  let privateKey ← orRaise (L.signingKeyFromPem pem)
  let protectedHdr ← translateMembers [] (protectedHdrDefault algorithm kid)
  let signMsg ← orRaise (L.sign1Message protectedHdr [] cborData [])
  let coseKey ← orRaise (L.ec2Key "P_256" privateKey)
  let encoded ← orRaise (L.encode signMsg coseKey)
  let message ← orRaise (L.cbor2Loads encoded)
  pure (.tag corimTag (.tag signedCorimTag message))

/-- `SignCbor` -/
def signCbor (L : Libraries) (files : Files) (filePath key algorithm kid signedCborPath : String) :
    Outcome :=
  match taggedMessage L files filePath key algorithm kid with
  | .error (.exited message) => ⟨files, [.text message], .exited⟩
  | .error .raised => ⟨files, [], .raised⟩
  | .ok taggedMsg =>
      match files.writeNew signedCborPath (L.cbor2Dumps taggedMsg) with
      | (false, files) => ⟨files, [], .raised⟩
      | (true, files) => ⟨files, [.value taggedMsg], .returned⟩

/-- `SignCbor` writes no file but its output. -/
theorem contents_signCbor_of_ne (L : Libraries) (files : Files)
    (filePath key algorithm kid signedCborPath : String) {path : String}
    (h : path ≠ signedCborPath) :
    (signCbor L files filePath key algorithm kid signedCborPath).files.contents path =
      files.contents path := by
  unfold signCbor
  rcases taggedMessage L files filePath key algorithm kid with (_ | message) | taggedMsg
  · rfl
  · rfl
  · have hwrite := files.contents_writeNew_of_ne h (L.cbor2Dumps taggedMsg)
    dsimp only
    generalize files.writeNew signedCborPath (L.cbor2Dumps taggedMsg) = result at hwrite
    obtain ⟨_ | _, files'⟩ := result
    · exact hwrite
    · exact hwrite

/-! ## `VerifySignedCbor` -/

/-- What can be written to a file opened with mode 'wb'. -/
def Cbor.bytes? : Cbor → Option Bytes
  | .leaf (.bytes bs) => some bs
  | _ => none

/-- `data[2]`, where it is bytes. The elements of bytes and of texts are not. -/
def thirdBytes : Cbor → Option Bytes
  | .array items => items[2]?.bind Cbor.bytes?
  | .map entries => (entries.find? (isTwo ·.1)).bind (·.2.bytes?)
  | _ => none
where
  /-- A key that is equal to 2, as the float 2.0 is. -/
  isTwo : Cbor → Bool
    | .leaf (.int n) => n == 2
    | .leaf (.float bits) => bits == 0x4000000000000000
    | _ => false

/-- What `VerifySignedCbor` computes before it calls `verify_signature`: the contents of the file,
the message and the key. -/
def verifyArguments (L : Libraries) (files : Files) (filePath key : String) :
    Option (Cbor × L.Message × L.Key) := do
  let file ← files.contents filePath
  let cborData ← L.cborLoad file
  let corim ← cborData.value
  let signedCorim ← corim.value
  let message ← L.cborDumps signedCorim
  let coseMsg ← L.decode message
  let pem ← files.contents key
  let publicKey ← L.verifyingKeyFromPem pem
  let coseKey ← L.ec2Key "P_256" publicKey
  pure (cborData, coseMsg, coseKey)

/-- The `try` block of `VerifySignedCbor`, with the variable it leaves for the rest. -/
def verifyBlock (L : Libraries) (files : Files) (filePath key algorithm : String) :
    Option Cbor := do
  let (cborData, coseMsg, coseKey) ← verifyArguments L files filePath key
  -- the result is dropped
  let _ ← L.verifySignature coseMsg coseKey algorithm
  pure cborData

/-- The message of the `except` clause. -/
def verificationFailed : Printed := .text "Signature verification failed"

/-- The message at the end. -/
def verificationPassed : Printed := .text "Signature verification passed"

/-- The bytes in the file that are the payload, unless taking them out raises an exception. -/
def extractPayload (cborData : Cbor) : Option Bytes := do
  let corim ← cborData.value
  let signedCorim ← corim.value
  let message ← signedCorim.value
  thirdBytes message

/-- `VerifySignedCbor` -/
def verifySignedCbor (L : Libraries) (files : Files) (filePath key algorithm payload : String) :
    Outcome :=
  match verifyBlock L files filePath key algorithm with
  | none => ⟨files, [verificationFailed], .exited⟩
  | some cborData =>
      match files.writeNew payload (extractPayload cborData) with
      | (false, files) => ⟨files, [], .raised⟩
      | (true, files) => ⟨files, [verificationPassed], .returned⟩

/-! ## What the libraries are for -/

/-- A COSE_Sign1 message: tag 18 around the protected header, the unprotected header, the payload
and the signature. -/
def sign1Value (header payload signature : Bytes) : Cbor :=
  .tag 18 (.array
    [.leaf (.bytes header), .map [], .leaf (.bytes payload), .leaf (.bytes signature)])

/-- The documented behaviour of the libraries for CBOR and COSE. -/
structure Libraries.Lawful (L : Libraries) : Prop where
  /-- What was loaded can be written again. -/
  dumps_of_loads : ∀ bytes v, L.cbor2Loads bytes = some v → ∃ bytes', L.cborDumps v = some bytes'
  /-- What was loaded can be written inside tags, and `cbor` reads what `cbor2` wrote. -/
  load_of_loads : ∀ bytes v, L.cbor2Loads bytes = some v → ∀ outer < 2 ^ 64, ∀ inner < 2 ^ 64,
    ∃ bytes', L.cbor2Dumps (.tag outer (.tag inner v)) = some bytes' ∧
      L.cborLoad bytes' = some (.tag outer (.tag inner v))
  /-- A signed message is a COSE_Sign1 message with its payload. -/
  loads_of_encode : ∀ phdr payload message key bytes,
    L.sign1Message phdr [] payload [] = some message → L.encode message key = some bytes →
      ∃ header signature, L.cbor2Loads bytes = some (sign1Value header payload signature)

/-- The contents of two files with the private and the public key of a pair. A message that is
signed under an algorithm with the one is accepted with the other, however its CBOR value is
written. -/
structure Libraries.KeyPair (L : Libraries) (algorithm : String)
    (privatePem publicPem : Bytes) where
  signingKey : L.Key
  verifyingKey : L.Key
  signing : ∃ d, L.signingKeyFromPem privatePem = some d ∧ L.ec2Key "P_256" d = some signingKey
  verifying : ∃ d, L.verifyingKeyFromPem publicPem = some d ∧
    L.ec2Key "P_256" d = some verifyingKey
  verifies : ∀ phdr payload code, signSupportAlgorithmMap.lookup algorithm = some code →
    phdr.lookup 1 = some (.leaf (.int code)) →
    ∃ message bytes, L.sign1Message phdr [] payload [] = some message ∧
      L.encode message signingKey = some bytes ∧
      ∀ v bytes', L.cbor2Loads bytes = some v → L.cborDumps v = some bytes' →
        ∃ message', L.decode bytes' = some message' ∧
          L.verifySignature message' verifyingKey algorithm = some true

/-! ## Signing -/

/-- The protected header names the algorithm. -/
theorem translate_protectedHdrDefault {algorithm : String} {code : Int}
    (halgorithm : signSupportAlgorithmMap.lookup algorithm = some code) (kid : String) :
    ∃ protectedHdr, translateMembers [] (protectedHdrDefault algorithm kid) = .ok protectedHdr ∧
      protectedHdr.lookup 1 = some (.leaf (.int code)) := by
  have halg : translateLeaf "corim_alg_id" (.text algorithm) = .ok (1, .leaf (.int code)) := by
    rw [translateLeaf, if_neg (by decide), if_pos rfl, getItem_of_lookup halgorithm,
      getItem_allMapDict (c := 1) (by decide +kernel)]
    rfl
  have htype : translateLeaf "corim_content_type" (.text "application/rim+cbor") =
      .ok (3, .leaf (.text "application/rim+cbor")) := by
    rw [translateLeaf, if_neg (by decide), if_neg (by decide)]
    exact translatePlain_of_untagged (by decide +kernel) (by decide +kernel) _
  have hkid : translateLeaf "corim_issuer_key_id" (.bytes kid.toUTF8.toList) =
      .ok (4, .leaf (.bytes kid.toUTF8.toList)) := by
    rw [translateLeaf]
    · exact translatePlain_of_untagged (by decide +kernel) (by decide +kernel) _
    · intro name heq
      cases heq
  have hname : translateLeaf "corim_entity_name" (.text "Intel") =
      .ok (0, .leaf (.text "Intel")) := by
    rw [translateLeaf, if_neg (by decide), if_neg (by decide)]
    exact translatePlain_of_untagged (by decide +kernel) (by decide +kernel) _
  have hrole : translateLeaf "corim_role" (.text "corim_manifest_creator") =
      .ok (2, .leaf (.int 1)) := by
    rw [translateLeaf, if_pos rfl, getItem_allMapDict (c := 1) (by decide +kernel),
      getItem_allMapDict (c := 2) (by decide +kernel)]
    rfl
  have hsigner : getItem allMapDict "corim_signer" = .ok 0 := getItem_allMapDict (by decide +kernel)
  have hmeta : getItem allMapDict "corim_meta" = .ok 8 := getItem_allMapDict (by decide +kernel)
  simp only [protectedHdrDefault, translateMembers, translateMember, translateItems, translateItem,
    halg, htype, hkid, hname, hrole, hsigner, hmeta]
  exact ⟨_, rfl, rfl⟩

/-- A file as `SignCbor` writes it: its bytes are read back as a message in the two tags, around the
payload, and the message can be written again. -/
def Signed (L : Libraries) (payload file message : Bytes) : Prop :=
  ∃ header signature,
    L.cborLoad file =
      some (.tag corimTag (.tag signedCorimTag (sign1Value header payload signature))) ∧
    L.cborDumps (sign1Value header payload signature) = some message

/-- **Signing.** A payload is signed with the private key of a pair, and the message in the file is
one that the libraries accept with the public key. -/
theorem signCbor_of_keyPair {L : Libraries} (hL : L.Lawful) {files : Files}
    {filePath key algorithm signedCborPath : String} (kid : String)
    {payload privatePem publicPem : Bytes} {code : Int}
    (halgorithm : signSupportAlgorithmMap.lookup algorithm = some code)
    (hpayload : files.contents filePath = some payload)
    (hkey : files.contents key = some privatePem) (pair : L.KeyPair algorithm privatePem publicPem)
    (hwritable : files.writable signedCborPath = true) :
    ∃ file message printed coseMsg,
      signCbor L files filePath key algorithm kid signedCborPath =
        ⟨files.write signedCborPath file, printed, .returned⟩ ∧
      Signed L payload file message ∧ L.decode message = some coseMsg ∧
      L.verifySignature coseMsg pair.verifyingKey algorithm = some true := by
  obtain ⟨d, hpem, hec2Key⟩ := pair.signing
  obtain ⟨phdr, htranslate, hphdr⟩ := translate_protectedHdrDefault halgorithm kid
  obtain ⟨signMsg, encoded, hmessage, hencode, hverify⟩ :=
    pair.verifies phdr payload code halgorithm hphdr
  obtain ⟨header, signature, hloads⟩ := hL.loads_of_encode _ _ _ _ _ hmessage hencode
  obtain ⟨message, hdumps⟩ := hL.dumps_of_loads _ _ hloads
  obtain ⟨file, hwrite, hload⟩ := hL.load_of_loads _ _ hloads corimTag (by decide) signedCorimTag
    (by decide)
  obtain ⟨coseMsg, hdecode, haccept⟩ := hverify _ _ hloads hdumps
  have htagged : taggedMessage L files filePath key algorithm kid =
      .ok (.tag corimTag (.tag signedCorimTag (sign1Value header payload signature))) := by
    simp only [taggedMessage, hpayload, hkey, hpem, htranslate, hmessage, hec2Key, hencode, hloads,
      orRaise, ok_bind]
    rfl
  have hsign : signCbor L files filePath key algorithm kid signedCborPath =
      ⟨files.write signedCborPath file,
        [.value (.tag corimTag (.tag signedCorimTag (sign1Value header payload signature)))],
        .returned⟩ := by
    simp only [signCbor, htagged, Files.writeNew, hwrite, if_pos hwritable]
  exact ⟨file, message, _, coseMsg, hsign, ⟨header, signature, hload, hdumps⟩, hdecode, haccept⟩

/-! ## Verifying -/

/-- **A signed file is accepted.** If the libraries accept the message in it, its payload is
written. -/
theorem verifySignedCbor_of_signed {L : Libraries} {files : Files}
    {filePath key algorithm payloadPath : String} {payload file message publicPem d : Bytes}
    {coseMsg : L.Message} {coseKey : L.Key} (hfile : files.contents filePath = some file)
    (hsigned : Signed L payload file message) (hdecode : L.decode message = some coseMsg)
    (hkey : files.contents key = some publicPem) (hpem : L.verifyingKeyFromPem publicPem = some d)
    (hec2Key : L.ec2Key "P_256" d = some coseKey)
    (hverify : L.verifySignature coseMsg coseKey algorithm = some true)
    (hwritable : files.writable payloadPath = true) :
    verifySignedCbor L files filePath key algorithm payloadPath =
      ⟨files.write payloadPath payload, [verificationPassed], .returned⟩ := by
  obtain ⟨header, signature, hload, hdumps⟩ := hsigned
  have hblock : verifyBlock L files filePath key algorithm =
      some (.tag corimTag (.tag signedCorimTag (sign1Value header payload signature))) := by
    simp only [verifyBlock, verifyArguments, hfile, hload, Cbor.value, hdumps, hdecode, hkey, hpem,
      hec2Key, Option.bind_eq_bind, Option.bind_some, Option.pure_def, hverify]
  simp only [verifySignedCbor, hblock, Files.writeNew, if_pos hwritable]
  rfl

/-- A verification that raises an exception is reported, and nothing is written. -/
theorem verifySignedCbor_of_raised {L : Libraries} {files : Files}
    {filePath key algorithm : String} (payloadPath : String) {cborData : Cbor}
    {coseMsg : L.Message} {coseKey : L.Key}
    (hreached : verifyArguments L files filePath key = some (cborData, coseMsg, coseKey))
    (hraised : L.verifySignature coseMsg coseKey algorithm = none) :
    verifySignedCbor L files filePath key algorithm payloadPath =
      ⟨files, [verificationFailed], .exited⟩ := by
  have hblock : verifyBlock L files filePath key algorithm = none := by
    simp [verifyBlock, hreached, hraised]
  simp only [verifySignedCbor, hblock]

/-- Any result of the verification, also `False`, is taken for a success. -/
theorem verifySignedCbor_of_result {L : Libraries} {files : Files}
    {filePath key algorithm : String} (payloadPath : String) {cborData : Cbor}
    {coseMsg : L.Message} {coseKey : L.Key} {result : Bool}
    (hreached : verifyArguments L files filePath key = some (cborData, coseMsg, coseKey))
    (hresult : L.verifySignature coseMsg coseKey algorithm = some result) :
    (verifySignedCbor L files filePath key algorithm payloadPath).printed ≠
      [verificationFailed] := by
  have hblock : verifyBlock L files filePath key algorithm = some cborData := by
    simp [verifyBlock, hreached, hresult]
  simp only [verifySignedCbor, hblock]
  rcases files.writeNew payloadPath (extractPayload cborData) with ⟨_ | _, files'⟩
  · intro h
    cases h
  · intro h
    simp [verificationPassed, verificationFailed] at h

/-! ## Soundness -/

/-- **Signed manifests are verified, and forged ones refused when the library raises.** What
`SignCbor` writes with the private key of a pair is accepted with its public key, and the payload
is written as it was signed. When the library refuses a signature, `VerifySignedCbor` reports it and
writes nothing exactly if the library refuses by raising an exception. -/
theorem verification_sound_iff (L : Libraries) (files : Files) :
    (L.Lawful →
      ∀ (filePath key algorithm kid signedCborPath publicKey payloadPath : String)
        (payload privatePem publicPem : Bytes) (_ : L.KeyPair algorithm privatePem publicPem),
      algorithm ∈ signSupportAlgorithmMap.map Prod.fst →
      files.contents filePath = some payload → files.contents key = some privatePem →
      files.writable signedCborPath = true → files.writable payloadPath = true →
      let signed := signCbor L files filePath key algorithm kid signedCborPath
      signed.files.contents publicKey = some publicPem →
      signed.ending = .returned ∧
        verifySignedCbor L signed.files signedCborPath publicKey algorithm payloadPath =
          ⟨signed.files.write payloadPath payload, [verificationPassed], .returned⟩) ∧
    (∀ (filePath key algorithm payloadPath : String) (cborData : Cbor) (coseMsg : L.Message)
        (coseKey : L.Key),
      verifyArguments L files filePath key = some (cborData, coseMsg, coseKey) →
      L.verifySignature coseMsg coseKey algorithm ≠ some true →
      let verified := verifySignedCbor L files filePath key algorithm payloadPath
      (verified.files = files ∧ verified.printed = [verificationFailed] ↔
        L.verifySignature coseMsg coseKey algorithm = none)) := by
  constructor
  · intro hL filePath key algorithm kid signedCborPath publicKey payloadPath payload privatePem
      publicPem pair halgorithm hpayload hkey hsigned hpath signed hpublic
    obtain ⟨code, hcode⟩ : ∃ code, signSupportAlgorithmMap.lookup algorithm = some code := by
      obtain ⟨entry, hentry, rfl⟩ := List.mem_map.1 halgorithm
      exact Option.isSome_iff_exists.1
        (List.lookup_isSome_iff.2 ⟨entry, hentry, beq_self_eq_true _⟩)
    obtain ⟨file, message, printed, coseMsg, hsign, hmessage, hdecode, hverify⟩ :=
      signCbor_of_keyPair hL kid hcode hpayload hkey pair hsigned
    obtain ⟨d, hpem, hec2Key⟩ := pair.verifying
    rw [show signed = _ from hsign] at hpublic ⊢
    exact ⟨rfl, verifySignedCbor_of_signed (Files.contents_write _ _ _) hmessage hdecode hpublic
      hpem hec2Key hverify hpath⟩
  · intro filePath key algorithm payloadPath cborData coseMsg coseKey hreached _ verified
    constructor
    · rintro ⟨-, hprinted⟩
      cases hresult : L.verifySignature coseMsg coseKey algorithm with
      | none => rfl
      | some result =>
          exact absurd hprinted (verifySignedCbor_of_result payloadPath hreached hresult)
    · intro hraised
      rw [show verified = _ from verifySignedCbor_of_raised payloadPath hreached hraised]
      exact ⟨rfl, rfl⟩

/-! ## A pair of keys and a forged file -/

/-- Libraries with one-byte keys: a signature is the key, a message is written as its signature and
its payload, and a tag as eight bytes. -/
def Libraries.sample : Libraries where
  Key := UInt8
  Message := Bytes × Bytes
  signingKeyFromPem pem := some pem
  verifyingKeyFromPem pem := some pem
  ec2Key _ d :=
    match d with
    | [key] => some key
    | _ => none
  sign1Message _ _ payload _ := some (payload, [])
  encode message key := some (key :: message.1)
  decode bytes :=
    match bytes with
    | [] => none
    | key :: payload => some (payload, [key])
  verifySignature message key _ := some (message.2 == [key])
  cbor2Loads := loads
  cbor2Dumps v :=
    match v with
    | .tag outer (.tag inner v) =>
        (dumps v).map fun bytes => Packed.u64.encode (UInt64.ofNat outer) ++
          (Packed.u64.encode (UInt64.ofNat inner) ++ bytes)
    | _ => none
  cborLoad bytes :=
    (loads (bytes.drop 16)).map fun v =>
      .tag (Packed.u64.decode bytes).toNat (.tag (Packed.u64.decode (bytes.drop 8)).toNat v)
  cborDumps := dumps
where
  /-- Reading a message. -/
  loads (bytes : Bytes) : Option Cbor :=
    match bytes with
    | [] => none
    | key :: payload => some (sign1Value [] payload [key])
  /-- Writing a message. -/
  dumps (v : Cbor) : Option Bytes :=
    match v with
    | .tag 18 (.array
        [.leaf (.bytes []), .map [], .leaf (.bytes payload), .leaf (.bytes [key])]) =>
          some (key :: payload)
    | _ => none

theorem lawful_sample : Libraries.sample.Lawful where
  dumps_of_loads := by
    intro bytes v h
    rcases bytes with _ | ⟨key, payload⟩
    · cases h
    · cases h
      exact ⟨_, rfl⟩
  load_of_loads := by
    intro bytes v h outer houter inner hinner
    rcases bytes with _ | ⟨key, payload⟩
    · cases h
    · cases h
      refine ⟨_, rfl, ?_⟩
      -- the two tags are read back from the front, and leave the message
      have hinnerTag : (Packed.u64.encode (UInt64.ofNat outer) ++
          (Packed.u64.encode (UInt64.ofNat inner) ++ key :: payload)).drop 8 =
          Packed.u64.encode (UInt64.ofNat inner) ++ key :: payload :=
        Packed.u64.drop_encode_append _ _
      have hmessage : (Packed.u64.encode (UInt64.ofNat outer) ++
          (Packed.u64.encode (UInt64.ofNat inner) ++ key :: payload)).drop 16 = key :: payload := by
        rw [show 16 = 8 + 8 from rfl, ← List.drop_drop, hinnerTag]
        exact Packed.u64.drop_encode_append _ _
      simp only [Libraries.sample, Libraries.sample.loads, hmessage, hinnerTag,
        Packed.decode_encode_append, UInt64.toNat_ofNat_of_lt' houter,
        UInt64.toNat_ofNat_of_lt' hinner, Option.map_some]
  loads_of_encode := by
    intro phdr payload message key bytes hmessage hencode
    cases hmessage
    cases hencode
    exact ⟨_, _, rfl⟩

/-- A key is its own partner. -/
def samplePair (key : UInt8) : Libraries.sample.KeyPair "ES256" [key] [key] where
  signingKey := key
  verifyingKey := key
  signing := ⟨_, rfl, rfl⟩
  verifying := ⟨_, rfl, rfl⟩
  verifies := by
    intro phdr payload code _ _
    refine ⟨_, _, rfl, rfl, ?_⟩
    intro v bytes' hloads hdumps
    cases hloads
    cases hdumps
    exact ⟨_, rfl, by simp [Libraries.sample]⟩

/-- A manifest, and the key 5 under two names. -/
private def manifestFiles : Files where
  contents path :=
    if path = "corim.cbor" then some [1, 2]
    else if path = "private.pem" then some [5]
    else if path = "public.pem" then some [5]
    else none
  writable _ := true

/-- The manifest is signed and verified. -/
theorem verification_sound_sample :
    let signed := signCbor .sample manifestFiles "corim.cbor" "private.pem" "ES256" "11"
      "signed.cbor"
    (verifySignedCbor .sample signed.files "signed.cbor" "public.pem" "ES256"
      "payload.cbor").files.contents "payload.cbor" = some [1, 2] := by
  have hkey : (signCbor .sample manifestFiles "corim.cbor" "private.pem" "ES256" "11"
      "signed.cbor").files.contents "public.pem" = some [5] := by
    rw [contents_signCbor_of_ne .sample manifestFiles "corim.cbor" "private.pem" "ES256" "11"
      "signed.cbor" (show "public.pem" ≠ "signed.cbor" by decide)]
    rfl
  have h := (verification_sound_iff .sample manifestFiles).1 lawful_sample "corim.cbor"
    "private.pem" "ES256" "11" "signed.cbor" "public.pem" "payload.cbor" [1, 2] [5] [5]
    (samplePair 5) (by decide) rfl rfl rfl rfl hkey
  -- rewriting under the bound name would make the kernel run the signing
  show (verifySignedCbor .sample (signCbor .sample manifestFiles "corim.cbor" "private.pem" "ES256"
    "11" "signed.cbor").files "signed.cbor" "public.pem" "ES256" "payload.cbor").files.contents
      "payload.cbor" = some [1, 2]
  rw [h.2]
  exact Files.contents_write _ _ _

/-- A message that was signed with the key 5, and the key 6. -/
private def forgedFiles : Files where
  contents path :=
    if path = "signed.cbor" then
      some (Packed.u64.encode 500 ++ (Packed.u64.encode 502 ++ [5, 1, 2]))
    else if path = "public.pem" then some [6]
    else none
  writable _ := true

/-- The library returns `False`, and the tool writes the payload and says that the verification
passed. -/
theorem refused_signature_passes :
    let verified := verifySignedCbor .sample forgedFiles "signed.cbor" "public.pem" "ES256"
      "payload.cbor"
    (∃ cborData coseMsg coseKey,
      verifyArguments .sample forgedFiles "signed.cbor" "public.pem" =
        some (cborData, coseMsg, coseKey) ∧
      Libraries.sample.verifySignature coseMsg coseKey "ES256" = some false) ∧
    verified.files.contents "payload.cbor" = some [1, 2] ∧
    verified.printed = [verificationPassed] ∧ verified.ending = .returned :=
  ⟨⟨_, _, _, rfl, rfl⟩, rfl, rfl, rfl⟩

end SpdmEmu.Corim
