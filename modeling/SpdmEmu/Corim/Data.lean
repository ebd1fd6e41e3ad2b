import SpdmEmu.Wire.Packed

/-!
# Manifests and their codes

`spdm_emu/spdm_device_verifier_tool/CoRimTool.py` turns a manifest in JSON into the numbers of the
CoRIM schema. `translate_data` walks the manifest, replaces each name by its code with one table for
all names, and a few values by the codes of theirs.

A dictionary is a list of entries in the order of insertion. `translate_data` fills the container
it is given; it is always given a new one of the kind of its input, so the model returns it.
-/

set_option autoImplicit false

namespace SpdmEmu.Corim

open SpdmEmu.Wire

/-! ## Values -/

/-- A value without parts. -/
inductive Leaf where
  | int (n : Int)
  | text (s : String)
  | bytes (bs : Bytes)
  | bool (b : Bool)
  /-- the bits of a double -/
  | float (bits : UInt64)
  | null
deriving DecidableEq, Repr

/-- A manifest. -/
inductive Json where
  | leaf (value : Leaf)
  | array (items : List Json)
  | object (members : List (String × Json))

/-- A value of the CBOR libraries. -/
inductive Cbor where
  | leaf (value : Leaf)
  | array (items : List Cbor)
  | map (entries : List (Cbor × Cbor))
  | tag (number : Nat) (value : Cbor)

/-- The attribute `value`, which only a tag has. -/
def Cbor.value : Cbor → Option Cbor
  | .tag _ value => some value
  | _ => none

/-- `d[key] = value` -/
def setItem {K V : Type} [DecidableEq K] (d : List (K × V)) (key : K) (value : V) : List (K × V) :=
  if d.any (·.1 == key) then d.map fun entry => if entry.1 = key then (entry.1, value) else entry
  else d ++ [(key, value)]

section Items

variable {K V : Type} [DecidableEq K]

theorem lookup_map_setItem (d : List (K × V)) (key key' : K) (value : V) :
    (d.map fun entry => if entry.1 = key then (entry.1, value) else entry).lookup key' =
      if key' = key then (d.lookup key).map fun _ => value else d.lookup key' := by
  induction d with
  | nil => simp
  | cons entry d ih =>
      obtain ⟨k, v⟩ := entry
      by_cases hk : k = key
      · subst hk
        by_cases hkey : key' = k
        · subst hkey
          simp
        · have hne : (key' == k) = false := beq_eq_false_iff_ne.2 hkey
          simp only [List.map_cons, if_true, List.lookup_cons, hne, ih, if_neg hkey]
      · by_cases hkey : key' = k
        · subst hkey
          simp [hk]
        · have hne : (key' == k) = false := beq_eq_false_iff_ne.2 hkey
          have hne' : (key == k) = false := beq_eq_false_iff_ne.2 (Ne.symm hk)
          simp only [List.map_cons, if_neg hk, List.lookup_cons, hne, hne', ih]

/-- An assignment changes the value of its key only. -/
theorem lookup_setItem (d : List (K × V)) (key key' : K) (value : V) :
    (setItem d key value).lookup key' = if key' = key then some value else d.lookup key' := by
  unfold setItem
  by_cases hany : d.any (·.1 == key) = true
  · rw [if_pos hany, lookup_map_setItem]
    -- the key is there, so there is a value to be replaced
    have hsome : (d.lookup key).isSome = true := by
      obtain ⟨entry, hentry, heq⟩ := List.any_eq_true.1 hany
      exact List.lookup_isSome_iff.2 ⟨entry, hentry, beq_iff_eq.2 (beq_iff_eq.1 heq).symm⟩
    obtain ⟨old, hold⟩ := Option.isSome_iff_exists.1 hsome
    rw [hold, Option.map_some]
  · rw [if_neg hany, List.lookup_append]
    by_cases hkey : key' = key
    · subst hkey
      have hnone : d.lookup key' = none := by
        refine List.lookup_eq_none_iff.2 fun entry hentry => ?_
        rw [bne_comm, bne, Bool.not_eq_true']
        exact Bool.eq_false_of_not_eq_true fun heq =>
          hany (List.any_eq_true.2 ⟨entry, hentry, heq⟩)
      rw [hnone, if_pos rfl]
      simp
    · have hne : (key' == key) = false := beq_eq_false_iff_ne.2 hkey
      rw [if_neg hkey, List.lookup_cons, hne]
      simp

/-- A dictionary made of entries in order has the last value of each key. -/
theorem lookup_foldl_setItem (entries d : List (K × V)) (key : K) :
    (entries.foldl (fun d entry => setItem d entry.1 entry.2) d).lookup key =
      (entries.reverse.lookup key).or (d.lookup key) := by
  -- along the entries, with the dictionary made of those before
  induction entries generalizing d with
  | nil => rfl
  | cons entry entries ih =>
      rw [List.foldl_cons, ih, lookup_setItem, List.reverse_cons, List.lookup_append,
        Option.or_assoc]
      congr 1
      obtain ⟨key', value⟩ := entry
      by_cases hkey : key = key'
      · simp [hkey]
      · have hne : (key == key') = false := beq_eq_false_iff_ne.2 hkey
        rw [if_neg hkey, List.lookup_cons, hne]
        rfl

end Items

/-- A map with integers as keys. -/
def Cbor.intMap (entries : List (Int × Cbor)) : Cbor :=
  .map (entries.map fun entry => (.leaf (.int entry.1), entry.2))

/-- How a function ends that does not return: with an exception, or with `exit()`. -/
inductive Stop where
  | raised
  | exited (message : String)
deriving DecidableEq, Repr

@[simp] theorem ok_bind {α β : Type} (a : α) (f : α → Except Stop β) :
    (Except.ok a >>= f) = f a := rfl

/-- `d[key]`, which raises a `KeyError` -/
def getItem {V : Type} (d : List (String × V)) (key : String) : Except Stop V :=
  match d.lookup key with
  | none => .error .raised
  | some value => .ok value

/-! ## Tables -/

/-- `SupportHashAlgMap` -/
def supportHashAlgMap : List (String × Int) := [("sha256", 1), ("sha384", 7), ("sha512", 8)]

/-- `SignSupportAlgorithmMap` -/
def signSupportAlgorithmMap : List (String × Int) := [("ES256", -7), ("ES384", -35), ("ES512", -36)]

/-- `CorimCborTags['corim']` -/
def corimTag : Nat := 500

/-- `CorimCborTags['signed_corim']` -/
def signedCorimTag : Nat := 502

/-- `ComidCborTags` -/
def comidCborTags : List (String × Nat) :=
  [("tagged_oid_type", 111), ("tagged_uuid_type", 37), ("tagged_ueid_type", 550),
    ("tagged_svn", 552), ("tagged_min_svn", 553)]

/-- `ConciseMidTag` -/
def conciseMidTag : List (String × Int) :=
  [("comid_language", 0), ("comid_tag_identity", 1), ("comid_entity", 2), ("comid_linked_tags", 3),
    ("comid_triples", 4)]

/-- `TagIdentityMap` -/
def tagIdentityMap : List (String × Int) := [("comid_tag_id", 0), ("comid_tag_version", 1)]

/-- `EntityMap` -/
def entityMap : List (String × Int) :=
  [("comid_entity_name", 0), ("comid_reg_id", 1), ("comid_role", 2)]

/-- `LinkedTagMap` -/
def linkedTagMap : List (String × Int) := [("comid_linked_tag_id", 0), ("comid_tag_rel", 1)]

/-- `TriplesMap` -/
def triplesMap : List (String × Int) :=
  [("comid_reference_triples", 0), ("comid_endorsed_triples", 1), ("comid_identity_triples", 2),
    ("comid_attest_key_triples", 3)]

/-- `EnvironmentMap` -/
def environmentMap : List (String × Int) :=
  [("comid_class", 0), ("comid_instance", 1), ("comid_group", 2)]

/-- `ClassMap` -/
def classMap : List (String × Int) :=
  [("comid_class_id", 0), ("comid_vendor", 1), ("comid_model", 2), ("comid_layer", 3),
    ("comid_index", 4)]

/-- `MeasurementMap` -/
def measurementMap : List (String × Int) := [("comid_mkey", 0), ("comid_mval", 1)]

/-- `MeasurementValueMap` -/
def measurementValueMap : List (String × Int) :=
  [("comid_ver", 0), ("comid_svn", 1), ("comid_digests", 2), ("comid_flags", 3),
    ("comid_raw_value", 4), ("comid_raw_value_mask", 5), ("comid_mac_addr", 6),
    ("comid_ip_addr", 7), ("comid_serial_number", 8), ("comid_ueid", 9), ("comid_uuid", 10),
    ("comid_name", 11)]

/-- `VersionMap` -/
def versionMap : List (String × Int) := [("comid_version", 0), ("comid_version_scheme", 1)]

/-- `VerificationKeyMap` -/
def verificationKeyMap : List (String × Int) := [("comid_key", 0), ("comid_keychain", 1)]

/-- `TagRelTypeChoice` -/
def tagRelTypeChoice : List (String × Int) := [("comid_supplements", 0), ("comid_replaces", 1)]

/-- `ComidRoleTypeChoice` -/
def comidRoleTypeChoice : List (String × Int) :=
  [("comid_tag_creator", 0), ("comid_creator", 1), ("comid_maintainer", 2)]

/-- `UnsignedCorimMap` -/
def unsignedCorimMap : List (String × Int) :=
  [("corim_id", 0), ("corim_tags", 1), ("corim_dependent_rims", 2), ("corim_profile", 3)]

/-- `CorimLocatorMap` -/
def corimLocatorMap : List (String × Int) := [("corim_href", 0), ("corim_thumbprint", 1)]

/-- `ProtectedSignedCorimHeaderMap` -/
def protectedSignedCorimHeaderMap : List (String × Int) :=
  [("corim_alg_id", 1), ("corim_content_type", 3), ("corim_issuer_key_id", 4), ("corim_meta", 8)]

/-- `CorimMetaMap` -/
def corimMetaMap : List (String × Int) := [("corim_signer", 0), ("corim_validity", 1)]

/-- `CorimEntityMap` -/
def corimEntityMap : List (String × Int) :=
  [("corim_entity_name", 0), ("corim_reg_id", 1), ("corim_role", 2)]

/-- `CorimRoleTypeChoice` -/
def corimRoleTypeChoice : List (String × Int) :=
  [("corim_manifest_creator", 1), ("corim_manifest_signer", 2)]

/-- `ValidityMap` -/
def validityMap : List (String × Int) := [("corim_not_before", 0), ("corim_not_after", 1)]

/-- The entries of the tables, in the order in which `AllMapDict` unpacks them. -/
def allMapEntries : List (String × Int) :=
  conciseMidTag ++ tagIdentityMap ++ entityMap ++ linkedTagMap ++ triplesMap ++ environmentMap ++
    classMap ++ measurementMap ++ measurementValueMap ++ versionMap ++ verificationKeyMap ++
    tagRelTypeChoice ++ comidRoleTypeChoice ++ unsignedCorimMap ++ corimLocatorMap ++
    protectedSignedCorimHeaderMap ++ corimMetaMap ++ corimEntityMap ++ corimRoleTypeChoice ++
    validityMap

/-- `AllMapDict`, where a later entry for a name replaces an earlier one. -/
def allMapDict : List (String × Int) :=
  allMapEntries.foldl (fun d entry => setItem d entry.1 entry.2) []

theorem lookup_allMapDict (name : String) :
    allMapDict.lookup name = allMapEntries.reverse.lookup name := by
  rw [allMapDict, lookup_foldl_setItem]
  exact Option.or_none

/-! ## Texts -/

/-- `text.split(separator)` for a separator that is not empty, with the characters since the last
cut in reverse and the number of characters of a separator still to be skipped. -/
def splitChars (separator : List Char) (piece : List Char) (skip : Nat) :
    List Char → List (List Char)
  | [] => [piece.reverse]
  | c :: cs =>
      if skip ≠ 0 then splitChars separator piece (skip - 1) cs
      else if separator.isPrefixOf (c :: cs) then
        piece.reverse :: splitChars separator [] (separator.length - 1) cs
      else splitChars separator (c :: piece) 0 cs

/-- The characters `strip()` removes. -/
def isSpace (c : Char) : Bool :=
  (9 ≤ c.toNat && c.toNat ≤ 13) || (28 ≤ c.toNat && c.toNat ≤ 32) || c.toNat == 0x85 ||
    c.toNat == 0xA0 || c.toNat == 0x1680 || (0x2000 ≤ c.toNat && c.toNat ≤ 0x200A) ||
    c.toNat == 0x2028 || c.toNat == 0x2029 || c.toNat == 0x202F || c.toNat == 0x205F ||
    c.toNat == 0x3000

/-- `strip()` -/
def strip (cs : List Char) : List Char :=
  ((cs.dropWhile isSpace).reverse.dropWhile isSpace).reverse

/-- The pieces of a key around `tagged`; a key without it is its only piece. -/
def taggedPieces (key : String) : List (List Char) := splitChars "tagged".toList [] 0 key.toList

/-- The name of the tag in a key: `tagged` and what follows its last occurrence. -/
def tagType (key : String) : String :=
  String.ofList ("tagged".toList ++ strip ((taggedPieces key).getLastD []))

/-- The name before the tag in a key: what precedes the first `tagged`, up to its last `_`. -/
def actualKey (key : String) : String :=
  String.ofList (['_'].intercalate
    (splitChars ['_'] [] 0 (strip ((taggedPieces key).headD []))).dropLast)

/-! ## `translate_data` -/

/-- The value of a name that is neither a dictionary nor a list. -/
def translateLeaf (key : String) (value : Leaf) : Except Stop (Int × Cbor) :=
  match value with
  | .text name =>
      if key = "corim_role" then do
        let code ← getItem allMapDict name
        pure (← getItem allMapDict key, .leaf (.int code))
      else if key = "corim_alg_id" then do
        let code ← getItem signSupportAlgorithmMap name
        pure (← getItem allMapDict key, .leaf (.int code))
      else translatePlain key value
  | value => translatePlain key value
where
  /-- The branch for every other name and value. -/
  translatePlain (key : String) (value : Leaf) : Except Stop (Int × Cbor) :=
    if 1 < (taggedPieces key).length then
      match allMapDict.lookup (actualKey key), comidCborTags.lookup (tagType key) with
      | some code, some number => pure (code, .tag number (.leaf value))
      | _, _ => .error (.exited "No '_' found in key as separator with tag")
    else do
      pure (← getItem allMapDict key, .leaf value)

theorem getItem_of_lookup {V : Type} {d : List (String × V)} {key : String} {value : V}
    (h : d.lookup key = some value) : getItem d key = .ok value := by
  rw [getItem, h]

theorem getItem_allMapDict {name : String} {c : Int}
    (h : allMapEntries.reverse.lookup name = some c) : getItem allMapDict name = .ok c :=
  getItem_of_lookup ((lookup_allMapDict name).trans h)

/-- A name without a tag keeps its value. -/
theorem translatePlain_of_untagged {key : String} {code : Int}
    (hcode : allMapEntries.reverse.lookup key = some code) (htag : (taggedPieces key).length = 1)
    (value : Leaf) : translateLeaf.translatePlain key value = .ok (code, .leaf value) := by
  rw [translateLeaf.translatePlain, if_neg (by omega), getItem_allMapDict hcode]
  rfl

/-- An element of a list that is neither a dictionary nor a list. -/
def translateElement (value : Leaf) : Except Stop Leaf :=
  if value = .text "comid_tag_creator" then do
    pure (.int (← getItem allMapDict "comid_tag_creator"))
  else if value = .text "sha256" then do pure (.int (← getItem supportHashAlgMap "sha256"))
  else .ok value

mutual

/-- `translate_data` for a dictionary, from its loop's test with the entries made so far. -/
def translateMembers (output : List (Int × Cbor)) :
    List (String × Json) → Except Stop (List (Int × Cbor))
  | [] => .ok output
  | (key, value) :: members => do
      let entry ← translateMember key value
      translateMembers (setItem output entry.1 entry.2) members

/-- The entry for a name and its value. -/
def translateMember (key : String) : Json → Except Stop (Int × Cbor)
  | .object members => do
      let code ← getItem allMapDict key
      let output ← translateMembers [] members
      pure (code, .intMap output)
  | .array items => do
      let code ← getItem allMapDict key
      let output ← translateItems items
      pure (code, .array output)
  | .leaf value => translateLeaf key value

/-- `translate_data` for a list. -/
def translateItems : List Json → Except Stop (List Cbor)
  | [] => .ok []
  | item :: items => do
      let first ← translateItem item
      let rest ← translateItems items
      pure (first :: rest)

/-- One element of a list. -/
def translateItem : Json → Except Stop Cbor
  | .object members => do
      let output ← translateMembers [] members
      pure (.intMap output)
  | .array items => do
      let output ← translateItems items
      pure (.array output)
  | .leaf value => do
      let element ← translateElement value
      pure (.leaf element)

end

end SpdmEmu.Corim
