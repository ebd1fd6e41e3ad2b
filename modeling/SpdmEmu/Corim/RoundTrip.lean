import Mathlib.Data.List.Nodup
import SpdmEmu.Corim.Decoder

/-!
# Manifests of reference values, there and back

A manifest in the shape of the CoMID references is translated, tagged and decoded again. The result
is the manifest, with the codes of roles and of digest algorithms replaced by their names.

The manifest has a type of its own (`Manifest`), with the names of each object distinct and in any
order. The proof goes along it: a member of an object decodes to itself if its value does
(`MemberOk`), and an object or a list decodes to itself if its members or elements do.
-/

set_option autoImplicit false

namespace SpdmEmu.Corim

open SpdmEmu.Wire

/-! ## Manifests -/

/-- An integer or a text. -/
inductive Scalar where
  | int (n : Int)
  | text (s : String)
deriving DecidableEq, Repr

def Scalar.leaf : Scalar → Leaf
  | .int n => .int n
  | .text s => .text s

/-- A code of the table by its name. -/
def Scalar.named (table : List (String × Int)) : Scalar → Scalar
  | .int n => ((table.find? fun entry => entry.2 == n).map fun entry => Scalar.text entry.1).getD
      (.int n)
  | .text s => .text s

/-- An object whose entries have distinct names. -/
structure Obj (α : Type) (name : α → String) where
  entries : List α
  nodup : (entries.map name).Nodup

/-- A name of a table with an integer or a text. -/
structure ScalarEntry (table : List (String × Int)) where
  name : String
  value : Scalar
  mem : name ∈ table.map (·.1)

/-- An object over a table whose values are integers and texts. -/
abbrev Scalars (table : List (String × Int)) := Obj (ScalarEntry table) ScalarEntry.name

/-- A member of `comid_entity`. -/
inductive EntityEntry where
  | comidEntityName (value : Scalar)
  | comidRegId (value : Scalar)
  | comidRole (roles : List Scalar)

def EntityEntry.name : EntityEntry → String
  | .comidEntityName _ => "comid_entity_name"
  | .comidRegId _ => "comid_reg_id"
  | .comidRole _ => "comid_role"

/-- A member of an environment map. -/
inductive EnvironmentEntry where
  | comidClass (fields : Scalars classMap)
  | comidInstance (value : Scalar)
  | comidGroup (value : Scalar)

def EnvironmentEntry.name : EnvironmentEntry → String
  | .comidClass _ => "comid_class"
  | .comidInstance _ => "comid_instance"
  | .comidGroup _ => "comid_group"

/-- An algorithm and the text of a digest. -/
structure Digest where
  algorithm : Scalar
  text : String

/-- A member of `comid_mval`. -/
inductive MvalEntry where
  | scalar (entry : ScalarEntry measurementValueMap)
  | comidDigests (digests : List Digest)

def MvalEntry.name : MvalEntry → String
  | .scalar entry => entry.name
  | .comidDigests _ => "comid_digests"

/-- An environment map with its `comid_class`, and a measurement map with only `comid_mval`. -/
structure Reference where
  environment : Obj EnvironmentEntry EnvironmentEntry.name
  mval : Obj MvalEntry MvalEntry.name
  hasClass : "comid_class" ∈ environment.entries.map EnvironmentEntry.name

/-- A member of a tag. -/
inductive TagEntry where
  | comidLanguage (value : Scalar)
  | comidTagIdentity (fields : Scalars tagIdentityMap)
  | comidEntity (entity : Obj EntityEntry EntityEntry.name)
  | comidTriples (references : List Reference)

def TagEntry.name : TagEntry → String
  | .comidLanguage _ => "comid_language"
  | .comidTagIdentity _ => "comid_tag_identity"
  | .comidEntity _ => "comid_entity"
  | .comidTriples _ => "comid_triples"

/-- A member of the manifest. -/
inductive ManifestEntry where
  | corimId (value : Scalar)
  | corimTags (tags : List (Obj TagEntry TagEntry.name))

def ManifestEntry.name : ManifestEntry → String
  | .corimId _ => "corim_id"
  | .corimTags _ => "corim_tags"

/-- A manifest of reference values. -/
structure Manifest where
  members : Obj ManifestEntry ManifestEntry.name
  hasTags : "corim_tags" ∈ members.entries.map ManifestEntry.name

/-! ## The manifest as JSON

Each function takes what roles and algorithms are to be turned into: nothing for the manifest
itself, names for the manifest that is expected back. -/

/-- What is done with the codes of roles and of algorithms. -/
structure Naming where
  role : Scalar → Scalar
  algorithm : Scalar → Scalar

/-- The codes as they are. -/
def Naming.asWritten : Naming := ⟨id, id⟩

/-- The codes by their names. -/
def Naming.byName : Naming := ⟨Scalar.named comidRoleTypeChoice, Scalar.named supportHashAlgMap⟩

def Scalar.json (s : Scalar) : Json := .leaf s.leaf

def Scalars.json {table : List (String × Int)} (fields : Scalars table) : Json :=
  .object (fields.entries.map fun entry => (entry.name, entry.value.json))

def EntityEntry.json (N : Naming) : EntityEntry → Json
  | .comidEntityName value => value.json
  | .comidRegId value => value.json
  | .comidRole roles => .array (roles.map fun role => (N.role role).json)

def EnvironmentEntry.json : EnvironmentEntry → Json
  | .comidClass fields => fields.json
  | .comidInstance value => value.json
  | .comidGroup value => value.json

def Digest.json (N : Naming) (d : Digest) : Json :=
  .array [(N.algorithm d.algorithm).json, .leaf (.text d.text)]

def MvalEntry.json (N : Naming) : MvalEntry → Json
  | .scalar entry => entry.value.json
  | .comidDigests digests => .array (digests.map (Digest.json N))

def Reference.json (N : Naming) (r : Reference) : Json :=
  .array
    [.object (r.environment.entries.map fun entry => (entry.name, entry.json)),
      .object [("comid_mval",
        .object (r.mval.entries.map fun entry => (entry.name, entry.json N)))]]

def TagEntry.json (N : Naming) : TagEntry → Json
  | .comidLanguage value => value.json
  | .comidTagIdentity fields => fields.json
  | .comidEntity entity => .object (entity.entries.map fun entry => (entry.name, entry.json N))
  | .comidTriples references =>
      .object [("comid_reference_triples", .array (references.map (Reference.json N)))]

def ManifestEntry.json (N : Naming) : ManifestEntry → Json
  | .corimId value => value.json
  | .corimTags tags => .array (tags.map fun tag =>
      .object (tag.entries.map fun entry => (entry.name, entry.json N)))

def Manifest.json (N : Naming) (m : Manifest) : Json :=
  .object (m.members.entries.map fun entry => (entry.name, entry.json N))

mutual

/-- A manifest as a value of Python. -/
def Json.python : Json → Cbor
  | .leaf value => .leaf value
  | .array items => .array (pythonItems items)
  | .object members => .map (pythonMembers members)

def Json.pythonItems : List Json → List Cbor
  | [] => []
  | item :: items => item.python :: pythonItems items

def Json.pythonMembers : List (String × Json) → List (Cbor × Cbor)
  | [] => []
  | (name, value) :: members => (.leaf (.text name), value.python) :: pythonMembers members

end

/-! ## Texts that are not codes -/

/-- The text is not a name that `translate_data` replaces in a list. -/
def IsPlain (s : String) : Prop := s ≠ "comid_tag_creator" ∧ s ≠ "sha256"

/-- Roles are not named like an algorithm that is replaced. -/
def EntityEntry.Plain : EntityEntry → Prop
  | .comidRole roles => ∀ role ∈ roles, role ≠ .text "sha256"
  | _ => True

/-- Algorithms are not named like a role that is replaced, and digest texts like neither. -/
def MvalEntry.Plain : MvalEntry → Prop
  | .comidDigests digests =>
      ∀ d ∈ digests, d.algorithm ≠ .text "comid_tag_creator" ∧ IsPlain d.text
  | _ => True

def TagEntry.Plain : TagEntry → Prop
  | .comidEntity entity => ∀ entry ∈ entity.entries, entry.Plain
  | .comidTriples references => ∀ r ∈ references, ∀ entry ∈ r.mval.entries, entry.Plain
  | _ => True

/-- The texts of the manifest are not themselves code names. -/
def Manifest.Plain (m : Manifest) : Prop :=
  ∀ tags, .corimTags tags ∈ m.members.entries → ∀ tag ∈ tags, ∀ entry ∈ tag.entries, entry.Plain

/-! ## Names and their codes -/

/-- The code of a name. -/
def codeOf (name : String) : Int := (allMapEntries.reverse.lookup name).getD 0

/-- The name has a code, which stands for it in the table, and its value is left as it is. -/
def IsNamed (table : List (String × Int)) (name : String) : Prop :=
  allMapEntries.reverse.lookup name = some (codeOf name) ∧
    getKeyByValue table (.leaf (.int (codeOf name))) = some name ∧
    (taggedPieces name).length = 1 ∧ name ≠ "corim_role" ∧ name ≠ "corim_alg_id"

/-- The tables of the objects of a manifest. -/
def manifestTables : List (List (String × Int)) :=
  [conciseMidTag, tagIdentityMap, entityMap, triplesMap, environmentMap, classMap, measurementMap,
    measurementValueMap, unsignedCorimMap]

/-- No name of these tables has another code in the table of all names. -/
theorem lookup_of_mem : ∀ table ∈ manifestTables, ∀ entry ∈ table,
    allMapEntries.reverse.lookup entry.1 = some entry.2 := by
  decide +kernel

/-- No two names of one table have the same code, and none of them is treated specially. -/
theorem getKeyByValue_of_mem : ∀ table ∈ manifestTables, ∀ entry ∈ table,
    getKeyByValue table (.leaf (.int entry.2)) = some entry.1 ∧
      (taggedPieces entry.1).length = 1 ∧ entry.1 ≠ "corim_role" ∧ entry.1 ≠ "corim_alg_id" := by
  decide +kernel

theorem codeOf_of_mem (table : List (String × Int)) (htable : table ∈ manifestTables)
    (entry : String × Int) (hentry : entry ∈ table) : codeOf entry.1 = entry.2 := by
  rw [codeOf, lookup_of_mem table htable entry hentry, Option.getD_some]

theorem isNamed_of_mem (table : List (String × Int)) (htable : table ∈ manifestTables)
    (name : String) (hname : name ∈ table.map (·.1)) : IsNamed table name := by
  obtain ⟨entry, hentry, rfl⟩ := List.mem_map.1 hname
  have hcode := codeOf_of_mem table htable entry hentry
  rw [IsNamed, hcode]
  exact ⟨lookup_of_mem table htable entry hentry, getKeyByValue_of_mem table htable entry hentry⟩

/-- The names of a manifest, with the tables for the codes below them. -/
def manifestContexts : List (String × List (String × Int)) :=
  [("unsigned_corim_map", unsignedCorimMap), ("corim_tags", conciseMidTag),
    ("comid_tag_identity", tagIdentityMap), ("comid_entity", entityMap),
    ("comid_role", comidRoleTypeChoice), ("comid_triples", triplesMap),
    ("comid_reference_triples", environmentMap), ("comid_class", classMap),
    ("comid_mval", measurementValueMap), ("comid_digests", supportHashAlgMap)]

/-- The decoder knows these tables. -/
theorem logicMap_of_mem :
    ∀ context ∈ manifestContexts, logicMap (some context.1) = some context.2 := by
  decide +kernel

/-- An assignment to a new key comes last. -/
theorem setItem_of_not_mem {K V : Type} [DecidableEq K] {d : List (K × V)} {key : K} (value : V)
    (h : key ∉ d.map (·.1)) : setItem d key value = d ++ [(key, value)] := by
  refine if_neg fun hany => h ?_
  obtain ⟨entry, hentry, heq⟩ := List.any_eq_true.1 hany
  exact List.mem_map.2 ⟨entry, hentry, beq_iff_eq.1 heq⟩

/-- An assignment to a key that is there once changes its value in place. -/
theorem setItem_of_lookup {K V : Type} [DecidableEq K] {d : List (K × V)} {key : K} {value : V}
    (f : V → V) (hnodup : (d.map (·.1)).Nodup) (h : d.lookup key = some value) :
    setItem d key (f value) =
      d.map fun entry => (entry.1, if entry.1 = key then f entry.2 else entry.2) := by
  have hmem : (key, value) ∈ d := by
    obtain ⟨l₁, l₂, rfl, -⟩ := List.lookup_eq_some_iff.1 h
    simp
  rw [setItem, if_pos (List.any_eq_true.2 ⟨(key, value), hmem, beq_self_eq_true key⟩)]
  refine List.map_congr_left fun entry hentry => ?_
  by_cases hkey : entry.1 = key
  · -- the key is there once, so its entry is the one that was looked up
    have heq : entry = (key, value) := List.inj_on_of_nodup_map hnodup hentry hmem hkey
    simp [heq]
  · simp [hkey]

/-! ## Members and elements that come back -/

theorem pythonMembers_eq (members : List (String × Json)) :
    Json.pythonMembers members =
      members.map fun member => (nameLeaf (some member.1), member.2.python) := by
  induction members with
  | nil => rfl
  | cons member members ih =>
      obtain ⟨name, value⟩ := member
      rw [Json.pythonMembers, ih, List.map_cons]
      rfl

section Back

variable (lib : DecoderLibrary) (fuel : Nat)

/-- A member of an object is translated, and decoded under its own name; `wrap` is what is done with
the entry in between. -/
def MemberOk (wrap : Int × Cbor → Cbor) (table : List (String × Int)) (name : String)
    (json back : Json) : Prop :=
  getKeyByValue table (.leaf (.int (codeOf name))) = some name ∧
    ∃ value, translateMember name json = .ok (codeOf name, value) ∧
      decodeEntry lib (decodeObject lib fuel) (decodeList lib fuel) (some name)
        (wrap (codeOf name, value)) = .ok (some (some name, back.python))

/-- An element of a list is translated, and decoded wherever it stands. -/
def ItemOk (lastKey : String) (json back : Json) : Prop :=
  ∃ value, translateItem json = .ok value ∧
    ∀ index, decodeItem lib (decodeObject lib fuel) (decodeList lib fuel) (some lastKey) index
      value = .ok back.python

/-- An object or a list is translated, and decoded below a name. -/
inductive ContainerOk (lastKey : String) : Json → Json → Prop
  | object {members members' : List (String × Json)} {entries : List (Int × Cbor)} {names : Names}
      (translated : translateMembers [] members = .ok entries)
      (decoded : decodeObject lib fuel (some lastKey) (.intMap entries) = .ok names)
      (same : namedMap names = (Json.object members').python) :
      ContainerOk lastKey (.object members) (.object members')
  | array {items items' : List Json} {values : List Cbor}
      (translated : translateItems items = .ok values)
      (decoded : decodeList lib fuel (some lastKey) (.array values) =
        .ok (Json.pythonItems items')) :
      ContainerOk lastKey (.array items) (.array items')

end Back

section Lemmas

variable {lib : DecoderLibrary} {fuel : Nat} {lastKey name : String} {json back : Json}
  {table : List (String × Int)}

/-- An object or a list in a list. -/
theorem ContainerOk.item (h : ContainerOk lib fuel lastKey json back) :
    ItemOk lib fuel lastKey json back := by
  cases h with
  | object translated decoded same =>
      refine ⟨_, by rw [translateItem, translated]; rfl, fun index => ?_⟩
      unfold Cbor.intMap at decoded ⊢
      rw [decodeItem, decoded, ← same]
      rfl
  | array translated decoded =>
      refine ⟨_, by rw [translateItem, translated]; rfl, fun index => ?_⟩
      rw [decodeItem, decoded]
      rfl

/-- An object or a list as the value of a name. -/
theorem ContainerOk.member (h : ContainerOk lib fuel name json back) (hname : IsNamed table name) :
    MemberOk lib fuel Prod.snd table name json back := by
  have hcode := getItem_allMapDict hname.1
  refine ⟨hname.2.1, ?_⟩
  cases h with
  | object translated decoded same =>
      refine ⟨_, by rw [translateMember, hcode, translated]; rfl, ?_⟩
      unfold Cbor.intMap at decoded ⊢
      rw [decodeEntry, decoded, ← same]
      rfl
  | array translated decoded =>
      refine ⟨_, by rw [translateMember, hcode, translated]; rfl, ?_⟩
      rw [decodeEntry, decoded]
      rfl

/-- An integer or a text as the value of a name. -/
theorem memberOk_scalar (value : Scalar) (hname : IsNamed table name) :
    MemberOk lib fuel Prod.snd table name value.json value.json := by
  obtain ⟨hcode, hback, htag, hrole, halgorithm⟩ := hname
  have hplain := translatePlain_of_untagged hcode htag value.leaf
  have hrole' : some name ≠ some "corim_role" := fun h => hrole (Option.some.inj h)
  have halgorithm' : some name ≠ some "corim_alg_id" := fun h => halgorithm (Option.some.inj h)
  refine ⟨hback, .leaf value.leaf, ?_, ?_⟩
  · cases value with
    | int n => exact hplain
    | text s =>
        refine Eq.trans ?_ hplain
        rw [Scalar.json, Scalar.leaf, translateMember, translateLeaf, if_neg hrole,
          if_neg halgorithm]
  · rw [decodeEntry, if_neg hrole', if_neg halgorithm']
    cases value <;> rfl

end Lemmas

/-! ## Objects and lists that come back -/

section Containers

variable {lib : DecoderLibrary} {fuel : Nat} {lastKey : String} {table : List (String × Int)}
  {wrap : Int × Cbor → Cbor} {α : Type} {name : α → String} {json back : α → Json}

/-- Names with the same code in the table are the same. -/
theorem name_eq_of_codeOf_eq {a b : String}
    (ha : getKeyByValue table (.leaf (.int (codeOf a))) = some a)
    (hb : getKeyByValue table (.leaf (.int (codeOf b))) = some b) (h : codeOf a = codeOf b) :
    a = b := by
  rw [h, hb] at ha
  exact (Option.some.inj ha).symm

/-- **The loops over an object.** Members with distinct names are translated one after the other,
and the entries are decoded into the members, in the same order. -/
theorem members_ok (members : List α) (hnodup : (members.map name).Nodup)
    (hok : ∀ a ∈ members, MemberOk lib fuel wrap table (name a) (json a) (back a))
    (output : List (Int × Cbor)) (houtput : ∀ a ∈ members, codeOf (name a) ∉ output.map (·.1)) :
    ∃ entries, translateMembers output (members.map fun a => (name a, json a)) =
        .ok (output ++ entries) ∧
      entries.map (·.1) = members.map (fun a => codeOf (name a)) ∧
      ∀ names : Names, (∀ a ∈ members, some (name a) ∉ names.map (·.1)) →
        decodeEntries lib (decodeObject lib fuel) (decodeList lib fuel) table names
            (entries.map fun entry => (.leaf (.int entry.1), wrap entry)) =
          .ok (names ++ members.map fun a => (some (name a), (back a).python)) := by
  -- along the members, with the entries and the names made of those before
  induction members generalizing output with
  | nil => exact ⟨[], by simp [translateMembers], rfl, by simp [decodeEntries]⟩
  | cons a members ih =>
      rw [List.map_cons, List.nodup_cons] at hnodup
      obtain ⟨hback, value, htranslate, hdecode⟩ := hok a List.mem_cons_self
      have hne : ∀ b ∈ members, name b ≠ name a := fun b hb heq =>
        hnodup.1 (heq ▸ List.mem_map_of_mem hb)
      have hset := setItem_of_not_mem value (houtput a List.mem_cons_self)
      obtain ⟨entries, hentries, hcodes, hnames⟩ := ih hnodup.2
        (fun b hb => hok b (List.mem_cons_of_mem a hb)) (output ++ [(codeOf (name a), value)])
        (fun b hb => by
          simp only [List.map_append, List.map_cons, List.map_nil, List.mem_append,
            List.mem_singleton, not_or]
          exact ⟨houtput b (List.mem_cons_of_mem a hb), fun heq => hne b hb
            (name_eq_of_codeOf_eq (hok b (List.mem_cons_of_mem a hb)).1 hback heq)⟩)
      refine ⟨(codeOf (name a), value) :: entries, ?_, by simp [hcodes], fun names hfresh => ?_⟩
      · rw [List.map_cons, translateMembers, htranslate, ok_bind, hset, hentries,
          List.append_assoc, List.singleton_append]
      · have hsetName := setItem_of_not_mem (back a).python (hfresh a List.mem_cons_self)
        rw [List.map_cons, decodeEntries, hback, hdecode, ok_bind]
        dsimp only
        rw [hsetName, hnames _ fun b hb => ?_, List.append_assoc, List.singleton_append,
          List.map_cons]
        simp only [List.map_append, List.map_cons, List.map_nil, List.mem_append,
          List.mem_singleton, not_or]
        exact ⟨hfresh b (List.mem_cons_of_mem a hb), fun heq => hne b hb (Option.some.inj heq)⟩

/-- What the members are decoded into, as a value. -/
theorem namedMap_members (members : List α) :
    namedMap (members.map fun a => (some (name a), (back a).python)) =
      (Json.object (members.map fun a => (name a, back a))).python := by
  rw [namedMap, Json.python, pythonMembers_eq, List.map_map, List.map_map]
  rfl

/-- **An object comes back** if its members do and the decoder takes the table of its names. -/
theorem object_ok (members : List α) (hnodup : (members.map name).Nodup)
    (hok : ∀ a ∈ members, MemberOk lib fuel Prod.snd table (name a) (json a) (back a))
    (htable : ∀ entries : List (Int × Cbor),
      entries.map (·.1) = members.map (fun a => codeOf (name a)) →
      keyTable (some lastKey) (entries.map fun entry => (.leaf (.int entry.1), entry.2)) = table) :
    ContainerOk lib (fuel + 1) lastKey (.object (members.map fun a => (name a, json a)))
      (.object (members.map fun a => (name a, back a))) := by
  obtain ⟨entries, htranslate, hcodes, hdecode⟩ := members_ok members hnodup hok [] (by simp)
  rw [List.nil_append] at htranslate
  refine .object htranslate ?_ (namedMap_members members)
  rw [decodeObject, Cbor.intMap, objectBody, htable entries hcodes, hdecode [] (by simp),
    List.nil_append]

/-- **A list comes back** if its elements do. -/
theorem list_ok (items : List α) (hok : ∀ a ∈ items, ItemOk lib fuel lastKey (json a) (back a)) :
    ContainerOk lib (fuel + 1) lastKey (.array (items.map json)) (.array (items.map back)) := by
  have hloop : ∃ values, translateItems (items.map json) = .ok values ∧
      ∀ index, decodeItems lib (decodeObject lib fuel) (decodeList lib fuel) (some lastKey) index
        values = .ok (Json.pythonItems (items.map back)) := by
    induction items with
    | nil => exact ⟨[], rfl, fun _ => rfl⟩
    | cons a items ih =>
        obtain ⟨value, htranslate, hdecode⟩ := hok a List.mem_cons_self
        obtain ⟨values, htranslates, hdecodes⟩ := ih fun b hb => hok b (List.mem_cons_of_mem a hb)
        refine ⟨value :: values, ?_, fun index => ?_⟩
        · rw [List.map_cons, translateItems, htranslate, ok_bind, htranslates]
          rfl
        · rw [decodeItems, hdecode index, ok_bind, hdecodes (index + 1)]
          rfl
  obtain ⟨values, htranslate, hdecode⟩ := hloop
  refine .array htranslate ?_
  rw [decodeList, listBody, hdecode 0]

/-- A list of two elements. -/
theorem pair_ok {first first' second second' : Json} (hfirst : ItemOk lib fuel lastKey first first')
    (hsecond : ItemOk lib fuel lastKey second second') :
    ContainerOk lib (fuel + 1) lastKey (.array [first, second]) (.array [first', second']) := by
  have hitems : ∀ item ∈ [(first, first'), (second, second')],
      ItemOk lib fuel lastKey item.1 item.2 := by
    simp only [List.mem_cons, List.not_mem_nil, or_false, forall_eq_or_imp, forall_eq]
    exact ⟨hfirst, hsecond⟩
  exact list_ok [(first, first'), (second, second')] hitems

/-- An object with one member. -/
theorem singleton_ok {key : String} {value value' : Json}
    (hvalue : MemberOk lib fuel Prod.snd table key value value')
    (htable : ∀ entries : List (Int × Cbor), entries.map (·.1) = [codeOf key] →
      keyTable (some lastKey) (entries.map fun entry => (.leaf (.int entry.1), entry.2)) = table) :
    ContainerOk lib (fuel + 1) lastKey (.object [(key, value)]) (.object [(key, value')]) := by
  have hmembers : ∀ member ∈ [(key, value, value')],
      MemberOk lib fuel Prod.snd table member.1 member.2.1 member.2.2 := by
    simp only [List.mem_singleton, forall_eq]
    exact hvalue
  have hnodup : ([(key, value, value')].map (·.1)).Nodup := List.nodup_singleton key
  exact object_ok [(key, value, value')] hnodup hmembers htable

end Containers

/-! ## Codes of roles and of algorithms -/

section Codes

variable {lib : DecoderLibrary} {fuel : Nat} {lastKey : String} {table : List (String × Int)}

/-- A code of the list's table is replaced by its name, everything else stays. -/
theorem decodeItem_code (hkey : lastKey = "comid_role" ∨ lastKey = "comid_digests")
    (htable : logicMap (some lastKey) = some table) (s : Scalar) (index : Nat)
    (intoObject : Option String → Cbor → Except Stop Names)
    (intoList : Option String → Cbor → Except Stop (List Cbor)) :
    decodeItem lib intoObject intoList (some lastKey) index (.leaf s.leaf) =
      .ok (.leaf (s.named table).leaf) := by
  have hcodes : some lastKey = some "comid_role" ∨ some lastKey = some "comid_digests" ∨
      some lastKey = some "corim_role" := by
    rcases hkey with rfl | rfl <;> simp
  rw [decodeItem, if_pos hcodes, htable, Option.getD_some, getKeyByValue]
  · cases s with
    | int n =>
        have hfind : (table.find? fun entry => equalsCode entry.2 (.leaf (.int n))) =
            table.find? fun entry => entry.2 == n := rfl
        rw [Scalar.leaf, hfind, Scalar.named]
        cases table.find? fun entry => entry.2 == n <;> rfl
    | text t =>
        have hfind : (table.find? fun entry => equalsCode entry.2 (.leaf (.text t))) = none :=
          List.find?_eq_none.2 fun _ _ => Bool.false_ne_true
        rw [Scalar.leaf, hfind]
        rfl
  · -- an integer or a text is not bytes
    intro bytes heq
    cases s <;> cases heq

/-- An element is translated to one with the same name. -/
theorem itemOk_code (hkey : lastKey = "comid_role" ∨ lastKey = "comid_digests")
    (htable : (lastKey, table) ∈ manifestContexts) {s t : Scalar}
    (htranslate : translateElement s.leaf = .ok t.leaf) (hnamed : t.named table = s.named table) :
    ItemOk lib fuel lastKey s.json (s.named table).json := by
  refine ⟨.leaf t.leaf, ?_, fun index => ?_⟩
  · rw [Scalar.json, translateItem, htranslate]
    rfl
  · rw [decodeItem_code hkey (logicMap_of_mem _ htable), hnamed]
    rfl

theorem Scalar.leaf_injective {s t : Scalar} (h : s.leaf = t.leaf) : s = t := by
  cases s <;> cases t <;> cases h <;> rfl

/-- Anything but the two names that are replaced is left as it is. -/
theorem translateElement_plain {s : Scalar} (hrole : s ≠ .text "comid_tag_creator")
    (halgorithm : s ≠ .text "sha256") : translateElement s.leaf = .ok s.leaf := by
  have hrole' : s.leaf ≠ .text "comid_tag_creator" := fun h => hrole (Scalar.leaf_injective h)
  have halgorithm' : s.leaf ≠ .text "sha256" := fun h => halgorithm (Scalar.leaf_injective h)
  rw [translateElement, if_neg hrole', if_neg halgorithm']

/-- A role. -/
theorem itemOk_role {role : Scalar} (h : role ≠ .text "sha256") :
    ItemOk lib fuel "comid_role" role.json (role.named comidRoleTypeChoice).json := by
  by_cases hcreator : role = .text "comid_tag_creator"
  · -- its code is written, which stands for the name
    subst hcreator
    have hcode : translateElement (.text "comid_tag_creator") = .ok (Scalar.int 0).leaf := by
      rw [translateElement, if_pos rfl, getItem_allMapDict (c := 0) (by decide +kernel)]
      rfl
    exact itemOk_code (.inl rfl) (by simp [manifestContexts]) hcode rfl
  · have hplain := translateElement_plain hcreator h
    exact itemOk_code (.inl rfl) (by simp [manifestContexts]) hplain rfl

/-- The algorithm of a digest. -/
theorem itemOk_algorithm {algorithm : Scalar} (h : algorithm ≠ .text "comid_tag_creator") :
    ItemOk lib fuel "comid_digests" algorithm.json (algorithm.named supportHashAlgMap).json := by
  by_cases hsha : algorithm = .text "sha256"
  · subst hsha
    have hcode : translateElement (.text "sha256") = .ok (Scalar.int 1).leaf := rfl
    exact itemOk_code (.inr rfl) (by simp [manifestContexts]) hcode rfl
  · exact itemOk_code (.inr rfl) (by simp [manifestContexts]) (translateElement_plain h hsha) rfl

/-- The text of a digest. -/
theorem itemOk_digestText {text : String} (h : IsPlain text) :
    ItemOk lib fuel "comid_digests" (.leaf (.text text)) (.leaf (.text text)) := by
  have htable : ("comid_digests", supportHashAlgMap) ∈ manifestContexts := by
    simp [manifestContexts]
  have htranslate : translateElement (Scalar.text text).leaf = .ok (Scalar.text text).leaf :=
    translateElement_plain (fun heq => h.1 (Scalar.text.inj heq))
      fun heq => h.2 (Scalar.text.inj heq)
  exact itemOk_code (.inr rfl) htable htranslate rfl

end Codes

/-! ## The parts of a manifest -/

section Parts

variable {lib : DecoderLibrary}

/-- Outside of the reference triples the table is that of the name. -/
theorem keyTable_of_mem {lastKey : String} {table : List (String × Int)}
    (htable : (lastKey, table) ∈ manifestContexts) (hkey : lastKey ≠ "comid_reference_triples")
    (entries : List (Cbor × Cbor)) : keyTable (some lastKey) entries = table := by
  have hkey' : ¬ (some lastKey = some "comid_reference_triples" ∧
      ¬ (entries.any fun entry => equalsCode 0 entry.1)) := fun h => hkey (Option.some.inj h.1)
  rw [keyTable, logicMap_of_mem _ htable]
  exact if_neg hkey'

/-- In the reference triples it depends on the code 0 being there. -/
theorem keyTable_referenceTriples (entries : List (Int × Cbor)) :
    keyTable (some "comid_reference_triples")
        (entries.map fun entry => (.leaf (.int entry.1), entry.2)) =
      if 0 ∈ entries.map (·.1) then environmentMap else measurementMap := by
  have hany : ((entries.map fun entry => (Cbor.leaf (.int entry.1), entry.2)).any
      fun entry => equalsCode 0 entry.1) = true ↔ 0 ∈ entries.map (·.1) := by
    simp only [List.any_map, List.any_eq_true, List.mem_map, Function.comp_apply, equalsCode,
      beq_iff_eq]
    exact exists_congr fun entry => and_congr_right fun _ => eq_comm
  have htable : ("comid_reference_triples", environmentMap) ∈ manifestContexts := by
    simp [manifestContexts]
  rw [keyTable, logicMap_of_mem _ htable]
  dsimp only
  by_cases hzero : 0 ∈ entries.map (·.1)
  · rw [if_pos hzero, if_neg fun h => h.2 (hany.2 hzero)]
  · rw [if_neg hzero, if_pos ⟨rfl, fun h => hzero (hany.1 h)⟩]

/-- An object over a table, with integers and texts only. -/
theorem scalars_ok {lastKey : String} {table : List (String × Int)} (fuel : Nat)
    (hmem : table ∈ manifestTables) (htable : (lastKey, table) ∈ manifestContexts)
    (hkey : lastKey ≠ "comid_reference_triples") (fields : Scalars table) :
    ContainerOk lib (fuel + 1) lastKey fields.json fields.json :=
  object_ok fields.entries fields.nodup
    (fun entry _ => memberOk_scalar entry.value (isNamed_of_mem table hmem entry.name entry.mem))
    fun _ _ => keyTable_of_mem htable hkey _

theorem EntityEntry.isNamed (entry : EntityEntry) : IsNamed entityMap entry.name :=
  isNamed_of_mem entityMap (by decide) _ (by cases entry <;> simp [name, entityMap])

theorem EnvironmentEntry.isNamed (entry : EnvironmentEntry) : IsNamed environmentMap entry.name :=
  isNamed_of_mem environmentMap (by decide) _ (by cases entry <;> simp [name, environmentMap])

/-- A member of an entity. -/
theorem EntityEntry.memberOk (fuel : Nat) {entry : EntityEntry} (hplain : entry.Plain) :
    MemberOk lib (fuel + 1) Prod.snd entityMap entry.name (entry.json .asWritten)
      (entry.json .byName) := by
  cases entry with
  | comidEntityName value => exact memberOk_scalar value (isNamed (.comidEntityName value))
  | comidRegId value => exact memberOk_scalar value (isNamed (.comidRegId value))
  | comidRole roles =>
      have hroles : ContainerOk lib (fuel + 1) "comid_role" (.array (roles.map Scalar.json))
          (.array (roles.map fun role => (role.named comidRoleTypeChoice).json)) :=
        list_ok roles fun role hrole => itemOk_role (hplain role hrole)
      exact hroles.member (isNamed (.comidRole roles))

/-- A member of an environment. -/
theorem EnvironmentEntry.memberOk (fuel : Nat) (entry : EnvironmentEntry) :
    MemberOk lib (fuel + 1) Prod.snd environmentMap entry.name entry.json entry.json := by
  cases entry with
  | comidClass fields =>
      have hfields : ContainerOk lib (fuel + 1) "comid_class" fields.json fields.json :=
        scalars_ok fuel (by decide) (by simp [manifestContexts]) (by decide) fields
      exact hfields.member (isNamed (.comidClass fields))
  | comidInstance value => exact memberOk_scalar value (isNamed (.comidInstance value))
  | comidGroup value => exact memberOk_scalar value (isNamed (.comidGroup value))

/-- A digest and its algorithm. -/
theorem Digest.containerOk (fuel : Nat) {d : Digest}
    (halgorithm : d.algorithm ≠ .text "comid_tag_creator") (htext : IsPlain d.text) :
    ContainerOk lib (fuel + 1) "comid_digests" (d.json .asWritten) (d.json .byName) := by
  exact pair_ok (itemOk_algorithm halgorithm) (itemOk_digestText htext)

/-- A member of the measurement values. -/
theorem MvalEntry.memberOk (fuel : Nat) {entry : MvalEntry} (hplain : entry.Plain) :
    MemberOk lib (fuel + 2) Prod.snd measurementValueMap entry.name (entry.json .asWritten)
      (entry.json .byName) := by
  cases entry with
  | scalar entry =>
      exact memberOk_scalar entry.value
        (isNamed_of_mem measurementValueMap (by decide) entry.name entry.mem)
  | comidDigests digests =>
      have hdigests : ContainerOk lib (fuel + 2) "comid_digests"
          (.array (digests.map (Digest.json .asWritten)))
          (.array (digests.map (Digest.json .byName))) :=
        list_ok digests fun d hd =>
          (Digest.containerOk fuel (hplain d hd).1 (hplain d hd).2).item
      exact hdigests.member
        (isNamed_of_mem measurementValueMap (by decide) "comid_digests" (by decide))

/-- A pair of an environment and its measurement. -/
theorem Reference.containerOk (fuel : Nat) {r : Reference}
    (hplain : ∀ entry ∈ r.mval.entries, entry.Plain) :
    ContainerOk lib (fuel + 5) "comid_reference_triples" (r.json .asWritten) (r.json .byName) := by
  have henvironment : ContainerOk lib (fuel + 4) "comid_reference_triples"
      (.object (r.environment.entries.map fun entry => (entry.name, entry.json)))
      (.object (r.environment.entries.map fun entry => (entry.name, entry.json))) := by
    refine object_ok r.environment.entries r.environment.nodup
      (fun entry _ => entry.memberOk (fuel + 2)) fun entries hcodes => ?_
    -- the class has the code 0, by which the decoder knows the environment
    have hzero : 0 ∈ entries.map (·.1) := by
      obtain ⟨entry, hentry, hname⟩ := List.mem_map.1 r.hasClass
      have hcode : codeOf entry.name = 0 := by
        rw [hname]
        exact codeOf_of_mem environmentMap (by decide) ("comid_class", 0) (by decide)
      rw [hcodes, ← hcode]
      exact List.mem_map_of_mem hentry
    rw [keyTable_referenceTriples, if_pos hzero]
  have hmval : ContainerOk lib (fuel + 3) "comid_mval"
      (.object (r.mval.entries.map fun entry => (entry.name, entry.json .asWritten)))
      (.object (r.mval.entries.map fun entry => (entry.name, entry.json .byName))) :=
    object_ok r.mval.entries r.mval.nodup
      (fun entry hentry => MvalEntry.memberOk fuel (hplain entry hentry))
      fun _ _ => keyTable_of_mem (by simp [manifestContexts]) (by decide) _
  have hmeasurement : ContainerOk lib (fuel + 4) "comid_reference_triples"
      (.object [("comid_mval",
        .object (r.mval.entries.map fun entry => (entry.name, entry.json .asWritten)))])
      (.object [("comid_mval",
        .object (r.mval.entries.map fun entry => (entry.name, entry.json .byName)))]) := by
    have hname : IsNamed measurementMap "comid_mval" :=
      isNamed_of_mem measurementMap (by decide) _ (by decide)
    refine singleton_ok (hmval.member hname) fun entries hcodes => ?_
    have hzero : 0 ∉ entries.map (·.1) := by
      have hcode : codeOf "comid_mval" = 1 :=
        codeOf_of_mem measurementMap (by decide) ("comid_mval", 1) (by decide)
      rw [hcodes, hcode]
      decide
    rw [keyTable_referenceTriples, if_neg hzero]
  exact pair_ok henvironment.item hmeasurement.item

theorem TagEntry.isNamed (entry : TagEntry) : IsNamed conciseMidTag entry.name :=
  isNamed_of_mem conciseMidTag (by decide) _ (by cases entry <;> simp [name, conciseMidTag])

/-- A member of a tag. -/
theorem TagEntry.memberOk (fuel : Nat) {entry : TagEntry} (hplain : entry.Plain) :
    MemberOk lib (fuel + 7) Prod.snd conciseMidTag entry.name (entry.json .asWritten)
      (entry.json .byName) := by
  cases entry with
  | comidLanguage value => exact memberOk_scalar value (isNamed (.comidLanguage value))
  | comidTagIdentity fields =>
      have hfields : ContainerOk lib (fuel + 7) "comid_tag_identity" fields.json fields.json :=
        scalars_ok (fuel + 6) (by decide) (by simp [manifestContexts]) (by decide) fields
      exact hfields.member (isNamed (.comidTagIdentity fields))
  | comidEntity entity =>
      have hentity : ContainerOk lib (fuel + 7) "comid_entity"
          (.object (entity.entries.map fun entry => (entry.name, entry.json .asWritten)))
          (.object (entity.entries.map fun entry => (entry.name, entry.json .byName))) :=
        object_ok entity.entries entity.nodup
          (fun entry hentry => EntityEntry.memberOk (fuel + 5) (hplain entry hentry))
          fun _ _ => keyTable_of_mem (by simp [manifestContexts]) (by decide) _
      exact hentity.member (isNamed (.comidEntity entity))
  | comidTriples references =>
      have hreferences : ContainerOk lib (fuel + 6) "comid_reference_triples"
          (.array (references.map (Reference.json .asWritten)))
          (.array (references.map (Reference.json .byName))) :=
        list_ok references fun r hr => (Reference.containerOk fuel (hplain r hr)).item
      have hname : IsNamed triplesMap "comid_reference_triples" :=
        isNamed_of_mem triplesMap (by decide) _ (by decide)
      have htriples : ContainerOk lib (fuel + 7) "comid_triples"
          (.object [("comid_reference_triples",
            .array (references.map (Reference.json .asWritten)))])
          (.object [("comid_reference_triples",
            .array (references.map (Reference.json .byName)))]) :=
        singleton_ok (hreferences.member hname)
          fun _ _ => keyTable_of_mem (by simp [manifestContexts]) (by decide) _
      exact htriples.member (isNamed (.comidTriples references))

/-! ## The manifest -/

/-- What `GenCbor` does with an entry: the value of `corim_tags` gets the tag of the schema. -/
def tagged (entry : Int × Cbor) : Cbor :=
  if entry.1 = 1 then .tag consiseMidTag entry.2 else entry.2

theorem ManifestEntry.isNamed (entry : ManifestEntry) : IsNamed unsignedCorimMap entry.name :=
  isNamed_of_mem unsignedCorimMap (by decide) _ (by cases entry <;> simp [name, unsignedCorimMap])

/-- A member of the manifest, with the tag. -/
theorem ManifestEntry.memberOk (fuel : Nat) {entry : ManifestEntry}
    (hplain : ∀ tags, entry = .corimTags tags → ∀ tag ∈ tags, ∀ e ∈ tag.entries, e.Plain) :
    MemberOk lib (fuel + 9) tagged unsignedCorimMap entry.name (entry.json .asWritten)
      (entry.json .byName) := by
  cases entry with
  | corimId value =>
      have hcode : codeOf "corim_id" = 0 :=
        codeOf_of_mem unsignedCorimMap (by decide) ("corim_id", 0) (by decide)
      have hscalar : MemberOk lib (fuel + 9) Prod.snd unsignedCorimMap "corim_id" value.json
          value.json := memberOk_scalar value (isNamed (.corimId value))
      obtain ⟨hback, c, htranslate, hdecode⟩ := hscalar
      have htagged : tagged (codeOf "corim_id", c) = c := by
        rw [hcode]
        rfl
      exact ⟨hback, c, htranslate, htagged.symm ▸ hdecode⟩
  | corimTags tags =>
      have hcode : codeOf "corim_tags" = 1 :=
        codeOf_of_mem unsignedCorimMap (by decide) ("corim_tags", 1) (by decide)
      have htags : ContainerOk lib (fuel + 9) "corim_tags"
          (.array (tags.map fun tag =>
            .object (tag.entries.map fun entry => (entry.name, entry.json .asWritten))))
          (.array (tags.map fun tag =>
            .object (tag.entries.map fun entry => (entry.name, entry.json .byName)))) :=
        list_ok tags fun tag htag => ContainerOk.item (object_ok tag.entries tag.nodup
          (fun entry hentry => TagEntry.memberOk fuel (hplain tags rfl tag htag entry hentry))
          fun _ _ => keyTable_of_mem (by simp [manifestContexts]) (by decide) _)
      -- the decoder goes through the tag into the list
      have hname := isNamed (.corimTags tags)
      cases htags with
      | @array _ _ values translated decoded =>
          have htagged : tagged (codeOf "corim_tags", .array values) =
              .tag consiseMidTag (.array values) := if_pos hcode
          refine ⟨hname.2.1, .array values, ?_, ?_⟩
          · rw [ManifestEntry.json, translateMember, getItem_allMapDict hname.1, translated]
            rfl
          · rw [ManifestEntry.name, htagged, decodeEntry, if_pos rfl, decoded]
            rfl

/-- The members of the manifest have distinct codes. -/
theorem Manifest.nodup_codes (m : Manifest) :
    (m.members.entries.map fun entry => codeOf entry.name).Nodup := by
  have hcodes : ((m.members.entries.map ManifestEntry.name).map codeOf).Nodup := by
    refine m.members.nodup.map_on fun a ha b hb heq => ?_
    obtain ⟨entry, -, rfl⟩ := List.mem_map.1 ha
    obtain ⟨entry', -, rfl⟩ := List.mem_map.1 hb
    exact name_eq_of_codeOf_eq entry.isNamed.2.1 entry'.isNamed.2.1 heq
  rwa [List.map_map] at hcodes

/-- The entries that `GenCbor` puts into the tags. -/
theorem Manifest.genCbor_eq (m : Manifest) {entries : List (Int × Cbor)}
    (htranslate : translateMembers []
      (m.members.entries.map fun entry => (entry.name, entry.json .asWritten)) = .ok entries)
    (hcodes : entries.map (·.1) = m.members.entries.map fun entry => codeOf entry.name) :
    genCbor (m.json .asWritten) = .ok (.tag corimTag (.tag unsignedCorimMapTag
      (.map (entries.map fun entry => (.leaf (.int entry.1), tagged entry))))) := by
  have hmem : (1 : Int) ∈ entries.map (·.1) := by
    obtain ⟨entry, hentry, hname⟩ := List.mem_map.1 m.hasTags
    have hcode : codeOf entry.name = 1 := by
      rw [hname]
      exact codeOf_of_mem unsignedCorimMap (by decide) ("corim_tags", 1) (by decide)
    rw [hcodes, ← hcode]
    exact List.mem_map_of_mem hentry
  have hsome : (entries.lookup 1).isSome = true := by
    obtain ⟨entry, hentry, hkey⟩ := List.mem_map.1 hmem
    exact List.lookup_isSome_iff.2 ⟨entry, hentry, beq_iff_eq.2 hkey.symm⟩
  obtain ⟨tags, htags⟩ := Option.isSome_iff_exists.1 hsome
  have hnodup : (entries.map (·.1)).Nodup := hcodes ▸ m.nodup_codes
  rw [Manifest.json, genCbor, htranslate, ok_bind, htags]
  dsimp only
  rw [setItem_of_lookup (Cbor.tag consiseMidTag) hnodup htags, Cbor.intMap, List.map_map]
  rfl

/-- A tag of the schema becomes a dictionary with its name. -/
theorem decodeObject_tag {fuel number : Nat} {name : String} {value : Cbor} {names : Names}
    (lastKey : Option String)
    (hname : getTagName (corimCborTags ++ coseTypeMap) number = some name)
    (hvalue : (∃ entries, value = .map entries) ∨ ∃ number' value', value = .tag number' value')
    (h : decodeObject lib fuel (some name) value = .ok names) :
    decodeObject lib (fuel + 1) lastKey (.tag number value) =
      .ok [(some name, namedMap names)] := by
  -- the value is a dictionary or a tag, and the decoder makes a new dictionary for it
  have hbody : decodeObject lib (fuel + 1) lastKey (.tag number value) =
      (decodeObject lib fuel (getTagName (corimCborTags ++ coseTypeMap) number) value >>=
        fun members => pure
          [(getTagName (corimCborTags ++ coseTypeMap) number, namedMap members)]) := by
    obtain ⟨entries, rfl⟩ | ⟨number', value', rfl⟩ := hvalue <;> rfl
  rw [hbody, hname, h]
  rfl

/-- **A manifest comes back.** What `GenCbor` makes of a manifest of reference values is decoded
into the manifest under `corim` and `unsigned_corim_map`, with the codes of roles and of digest
algorithms replaced by their names, and everything else unchanged. -/
theorem manifest_round_trip (lib : DecoderLibrary) (m : Manifest) (hplain : m.Plain) (fuel : Nat) :
    (genCbor (m.json .asWritten) >>= decode lib (fuel + 12)) =
      .ok (Json.object [("corim", .object [("unsigned_corim_map", m.json .byName)])]).python := by
  have hmembers : ∀ entry ∈ m.members.entries, MemberOk lib (fuel + 9) tagged unsignedCorimMap
      entry.name (entry.json .asWritten) (entry.json .byName) := fun entry hentry =>
    ManifestEntry.memberOk fuel fun tags htags => hplain tags (htags ▸ hentry)
  obtain ⟨entries, htranslate, hcodes, hdecode⟩ :=
    members_ok m.members.entries m.members.nodup hmembers [] (by simp)
  rw [List.nil_append] at htranslate
  -- into the dictionary, below the two tags
  have hmap : decodeObject lib (fuel + 10) (some "unsigned_corim_map")
      (.map (entries.map fun entry => (.leaf (.int entry.1), tagged entry))) =
        .ok (m.members.entries.map fun entry =>
          (some entry.name, (entry.json .byName).python)) := by
    have htable : ("unsigned_corim_map", unsignedCorimMap) ∈ manifestContexts := by
      simp [manifestContexts]
    rw [decodeObject, objectBody, keyTable_of_mem htable (by decide), hdecode [] (by simp),
      List.nil_append]
  have hunsignedName : getTagName (corimCborTags ++ coseTypeMap) unsignedCorimMapTag =
      some "unsigned_corim_map" := rfl
  have hcorimName : getTagName (corimCborTags ++ coseTypeMap) corimTag = some "corim" := rfl
  have hunsigned := decodeObject_tag (some "corim") hunsignedName (.inl ⟨_, rfl⟩) hmap
  have hcorim := decodeObject_tag (some "") hcorimName (.inr ⟨_, _, rfl⟩) hunsigned
  rw [m.genCbor_eq htranslate hcodes, ok_bind, decode, hcorim, namedMap_members]
  rfl

end Parts

/-- A manifest with one tag, of the kind of the sample manifest. -/
def sampleManifest : Manifest where
  members :=
    ⟨[.corimId (.text "9781A5CB642748F8A8FD8AD8069E3D89"),
      .corimTags
        [⟨[.comidTagIdentity
            ⟨[⟨"comid_tag_id", .text "B49A7BD041884642A0645EF55673A305", by decide⟩], by decide⟩,
          .comidEntity
            ⟨[.comidEntityName (.text "dmtf"), .comidRole [.int 0, .int 1]], by decide⟩,
          .comidTriples [
            { environment := ⟨[.comidClass ⟨[⟨"comid_vendor", .text "dmtf", by decide⟩,
                ⟨"comid_layer", .int 1, by decide⟩], by decide⟩], by decide⟩
              mval := ⟨[.scalar ⟨"comid_flags", .int 8, by decide⟩,
                .comidDigests [⟨.int 8, "8d531d77"⟩]], by decide⟩
              hasClass := by decide }]], by decide⟩]], by decide⟩
  hasTags := by decide

theorem sampleManifest_plain : sampleManifest.Plain := by
  intro tags htags tag htag entry hentry
  simp only [sampleManifest, List.mem_cons, ManifestEntry.corimTags.injEq, reduceCtorEq,
    List.not_mem_nil, or_false, false_or] at htags
  subst htags
  obtain rfl := List.mem_singleton.1 htag
  simp only [List.mem_cons, List.not_mem_nil, or_false] at hentry
  obtain rfl | rfl | rfl := hentry <;>
    simp [TagEntry.Plain, EntityEntry.Plain, MvalEntry.Plain, IsPlain]

/-- The decoder's functions of Python, for manifests without bytes. -/
def noBytes : DecoderLibrary where
  loads _ := none
  str _ := ""
  decodeText _ := none

/-- Its roles and its algorithm come back by their names. -/
theorem manifest_round_trip_sample :
    sampleManifest.Plain ∧
      (genCbor (sampleManifest.json .asWritten) >>= decode noBytes 12) =
        .ok (Json.object [("corim",
          .object [("unsigned_corim_map", sampleManifest.json .byName)])]).python :=
  ⟨sampleManifest_plain, manifest_round_trip noBytes sampleManifest sampleManifest_plain 0⟩

end SpdmEmu.Corim
