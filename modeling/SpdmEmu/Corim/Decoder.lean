import SpdmEmu.Corim.Data

/-!
# From a manifest to CBOR and back

`GenCbor` and `DecodeCbor.Decoder` of `spdm_emu/spdm_device_verifier_tool/CoRimTool.py`. `GenCbor`
translates a manifest and puts the tags of the schema around it. The decoder turns the codes back
into names. A code has a meaning in its context only, so the decoder carries the last name it met
and looks up the table for it.

The decoder fills containers it is given, and these are new dictionaries and lists. What it makes is
a value of the same kind as its input, with texts, or `None`, as the keys of its dictionaries. The
depth of its recursion is bounded by `fuel`, as that of Python is; at the bound it raises an
exception.
-/

set_option autoImplicit false

namespace SpdmEmu.Corim

open SpdmEmu.Wire

/-! ## Tables of the decoder -/

/-- `CorimCborTags` -/
def corimCborTags : List (String × Nat) :=
  [("corim", corimTag), ("unsigned_corim_map", 501), ("signed_corim", signedCorimTag),
    ("consise_swid_tag", 505), ("consise_mid_tag", 506)]

/-- `CorimCborTags['consise_mid_tag']` -/
def consiseMidTag : Nat := 506

/-- `CorimCborTags['unsigned_corim_map']` -/
def unsignedCorimMapTag : Nat := 501

/-- `CoseTypeMap` -/
def coseTypeMap : List (String × Nat) :=
  [("cose_sign", 98), ("cose_sign1", 18), ("cose_encrypt", 96), ("cose_encrypt0", 16),
    ("cose_mac", 97), ("cose_mac0", 17)]

/-- `LogicMapList` -/
def logicMapList : List (String × List (String × Int)) :=
  [("unsigned_corim_map", unsignedCorimMap), ("corim_dependent_rims", corimLocatorMap),
    ("corim_tags", conciseMidTag), ("comid_tag_identity", tagIdentityMap),
    ("comid_entity", entityMap), ("comid_triples", triplesMap),
    ("comid_role", comidRoleTypeChoice), ("linked_tag_map", linkedTagMap),
    ("comid_reference_triples", environmentMap), ("comid_endorsed_triples", environmentMap),
    ("comid_attest_key_triples", environmentMap), ("comid_identity_triples", environmentMap),
    ("comid_class", classMap), ("comid_linked_tags", linkedTagMap),
    ("comid_mval", measurementValueMap), ("comid_digests", supportHashAlgMap),
    ("cose_sign1", protectedSignedCorimHeaderMap), ("corim_meta", corimMetaMap),
    ("corim_signer", corimEntityMap), ("corim_role", corimRoleTypeChoice),
    ("corim_alg_id", signSupportAlgorithmMap), ("comid_ver", versionMap)]

/-- The table for a name, if it has one. -/
def logicMap (lastKey : Option String) : Option (List (String × Int)) :=
  lastKey.bind fun key => logicMapList.lookup key

/-- What the decoder uses of Python and of the package `cbor`. -/
structure DecoderLibrary where
  /-- `cbor.loads` -/
  loads : Bytes → Option Cbor
  /-- `str` -/
  str : Cbor → String
  /-- `bytes.decode` -/
  decodeText : Bytes → Option String

/-- `code == value`, where a truth value is the number 0 or 1 and a float may be a number. -/
def equalsCode (code : Int) : Cbor → Bool
  | .leaf (.int n) => code == n
  | .leaf (.bool b) => code == if b then 1 else 0
  | .leaf (.float bits) => Float.ofInt code == Float.ofBits bits
  | _ => false

/-- `GetKeyByValue` with one table of codes, or with none. -/
def getKeyByValue (table : List (String × Int)) (value : Cbor) : Option String :=
  (table.find? fun entry => equalsCode entry.2 value).map (·.1)

/-- `GetKeyByValue` with tables of tags. -/
def getTagName (table : List (String × Nat)) (number : Nat) : Option String :=
  (table.find? fun entry => entry.2 == number).map (·.1)

/-- A text, or `None`. -/
def nameLeaf : Option String → Cbor
  | none => .leaf .null
  | some name => .leaf (.text name)

/-- A dictionary that the decoder has filled. -/
abbrev Names := List (Option String × Cbor)

/-- The dictionary as a value. -/
def namedMap (names : Names) : Cbor := .map (names.map fun entry => (nameLeaf entry.1, entry.2))

/-! ## `GenCbor` -/

/-- `GenCbor`, up to the bytes that are written. -/
def genCbor (jsonData : Json) : Except Stop Cbor :=
  match jsonData with
  | .object members => do
      let cborData ← translateMembers [] members
      match cborData.lookup 1 with
      | none => .error .raised
      | some tags =>
          pure (.tag corimTag (.tag unsignedCorimMapTag
            (.intMap (setItem cborData 1 (.tag consiseMidTag tags)))))
  -- nothing is translated into the dictionary, which then has no tags
  | _ => .error .raised

/-! ## `DecodeCbor.Decoder` -/

section Decoder

variable (lib : DecoderLibrary)

/-- A value that is neither a dictionary, a list nor a tag: bytes become a text. -/
def decodeLeaf (value : Leaf) : Except Stop Cbor :=
  match value with
  | .bytes bs =>
      match lib.decodeText bs with
      | none => .error .raised
      | some text => .ok (.leaf (.text text))
  | value => .ok (.leaf value)

/-- The table for the keys of a dictionary. -/
def keyTable (lastKey : Option String) (entries : List (Cbor × Cbor)) : List (String × Int) :=
  match logicMap lastKey with
  | none => []
  | some table =>
      -- "hard code need to fix (no comid_mkey in data)"
      if lastKey = some "comid_reference_triples" ∧
          ¬ (entries.any fun entry => equalsCode 0 entry.1) then measurementMap
      else table

section Bodies

/-! The functions of this section take the recursive calls into a new dictionary and into a new list
as parameters. -/

variable (intoObject : Option String → Cbor → Except Stop Names)
  (intoList : Option String → Cbor → Except Stop (List Cbor))

/-- What an entry of a dictionary adds to the output, for the name of its key. -/
def decodeEntry (name : Option String) : Cbor → Except Stop (Option (Option String × Cbor))
  | .map entries => do
      let members ← intoObject name (.map entries)
      pure (some (name, namedMap members))
  | .array items => do
      let output ← intoList name (.array items)
      pure (some (name, .array output))
  | .tag number value =>
      if number = consiseMidTag then do
        let output ← intoList name value
        pure (some (name, .array output))
      else
        match getTagName comidCborTags number with
        | none => .ok none
        | some tagName =>
            match name with
            | none => .error .raised
            | some name => .ok (some (some (name ++ "_" ++ tagName), value))
  | .leaf value =>
      if name = some "corim_role" then
        .ok (some (name, nameLeaf (getKeyByValue corimRoleTypeChoice (.leaf value))))
      else if name = some "corim_alg_id" then
        .ok (some (name, nameLeaf (getKeyByValue signSupportAlgorithmMap (.leaf value))))
      else do
        let decoded ← decodeLeaf lib value
        pure (some (name, decoded))

/-- The loop over the entries of a dictionary. -/
def decodeEntries (table : List (String × Int)) (output : Names) :
    List (Cbor × Cbor) → Except Stop Names
  | [] => .ok output
  | (key, value) :: entries => do
      let entry ← decodeEntry lib intoObject intoList (getKeyByValue table key) value
      match entry with
      | none => decodeEntries table output entries
      | some (name, value) => decodeEntries table (setItem output name value) entries

/-- `Decoder` into a new dictionary. -/
def objectBody (lastKey : Option String) : Cbor → Except Stop Names
  | .tag number value =>
      let name := getTagName (corimCborTags ++ coseTypeMap) number
      match value with
      | .array items => do
          let output ← intoList name (.array items)
          pure [(name, .array output)]
      | .leaf _ => .ok []
      | value => do
          let members ← intoObject name value
          pure [(name, namedMap members)]
  | .map entries => decodeEntries lib intoObject intoList (keyTable lastKey entries) [] entries
  -- a dictionary has no `append`
  | .array (_ :: _) => .error .raised
  | _ => .ok []

/-- What an element of a list adds to the output. -/
def decodeItem (lastKey : Option String) (index : Nat) : Cbor → Except Stop Cbor
  | .map entries => do
      let members ← intoObject lastKey (.map entries)
      pure (namedMap members)
  | .array items => do
      let output ← intoList lastKey (.array items)
      pure (.array output)
  | value =>
      if lastKey = some "comid_role" ∨ lastKey = some "comid_digests" ∨
          lastKey = some "corim_role" then
        match getKeyByValue ((logicMap lastKey).getD []) value with
        | none => .ok value
        | some name => .ok (.leaf (.text name))
      else if lastKey = some "cose_sign1" then
        if index ≠ 3 then
          match value with
          | .leaf (.bytes bs) =>
              match lib.loads bs with
              | none => .error .raised
              | some loaded => do
                  let members ← intoObject lastKey loaded
                  pure (namedMap members)
          | _ => .error .raised
        else .ok (.leaf (.text (lib.str value)))
      else
        match value with
        | .leaf leaf => decodeLeaf lib leaf
        | value => .ok value

/-- The loop over the elements of a list, from an index on. -/
def decodeItems (lastKey : Option String) : Nat → List Cbor → Except Stop (List Cbor)
  | _, [] => .ok []
  | index, item :: items => do
      let first ← decodeItem lib intoObject intoList lastKey index item
      let rest ← decodeItems lastKey (index + 1) items
      pure (first :: rest)

/-- The entry adds nothing to the output: a tag that the decoder does not know. -/
def isUnknownTag : Cbor → Bool
  | .tag number _ => number != consiseMidTag && (getTagName comidCborTags number).isNone
  | _ => false

/-- `Decoder` into a new list. -/
def listBody (lastKey : Option String) : Cbor → Except Stop (List Cbor)
  | .array items => decodeItems lib intoObject intoList lastKey 0 items
  -- a list has no names to be assigned
  | .map entries => if entries.all fun entry => isUnknownTag entry.2 then .ok [] else .error .raised
  | .tag _ (.leaf _) => .ok []
  | .tag _ _ => .error .raised
  | .leaf _ => .ok []

end Bodies

mutual

/-- `DecodeCbor.Decoder` with a new dictionary as its output. -/
def decodeObject : Nat → Option String → Cbor → Except Stop Names
  | 0, _, _ => .error .raised
  | fuel + 1, lastKey, input => objectBody lib (decodeObject fuel) (decodeList fuel) lastKey input

/-- `DecodeCbor.Decoder` with a new list as its output. -/
def decodeList : Nat → Option String → Cbor → Except Stop (List Cbor)
  | 0, _, _ => .error .raised
  | fuel + 1, lastKey, input => listBody lib (decodeObject fuel) (decodeList fuel) lastKey input

end

/-- `DecodeCbor.Decode`, up to the text that is written. -/
def decode (fuel : Nat) (cborData : Cbor) : Except Stop Cbor := do
  let jsonDict ← decodeObject lib fuel (some "") cborData
  pure (namedMap jsonDict)

end Decoder

end SpdmEmu.Corim
