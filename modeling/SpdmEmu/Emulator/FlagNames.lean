import Mathlib.Data.List.Nodup
import Mathlib.Data.List.ReduceOption
import SpdmEmu.Libc.Text
import SpdmEmu.Wire.Flags

/-!
# Flags and their names

The command line of the emulators takes flags by name, and their printed form uses the same tables:
`get_value_from_name`, `get_flags_from_name` and `dump_flag_names` of `spdm_emu.c`. Printing writes
the names of all entries that are contained in the flags, and what no entry covers as a number.
Reading splits at commas, looks each name up and joins the values.

`flagNames_roundTrip` relates the two for every table, with entries that may share bits.
-/

set_option autoImplicit false

namespace SpdmEmu.Emulator

open SpdmEmu.Libc SpdmEmu.Wire

/-- `value_string_entry_t` -/
structure ValueStringEntry where
  value : UInt32
  name : Text
deriving DecidableEq

/-- `get_value_from_name`: the value that is stored, if the name is found. -/
def getValueFromName (table : List ValueStringEntry) (name : Text) : Option UInt32 :=
  (table.find? fun entry => name == entry.name).map (·.value)

/-- What `get_flags_from_name` returns, leaves in `*flags` and prints. -/
structure FlagsResult where
  ret : Bool
  flags : UInt32
  output : Text
deriving DecidableEq

/-- The delimiters of `strtok (…, ",")`. -/
def isComma (c : Char) : Bool := c == ','

/-- The loop over the flag names. -/
def flagLoop (table : List ValueStringEntry) (text : Text) (flags : UInt32) : FlagsResult :=
  match _h : strtok isComma text with
  | none => ⟨true, flags, []⟩
  | some (flagName, rest) =>
      match getValueFromName table flagName with
      | none => ⟨false, flags, "unsupported flag - ".toList ++ flagName ++ ['\n']⟩
      | some value => flagLoop table rest (flags ||| value)
termination_by text.length
decreasing_by exact length_lt_of_strtok _h

/-- `get_flags_from_name`; `malloc` says for each size whether there is memory, and `before` is what
`*flags` holds. The names are cut out of a copy, the argument stays as it is. -/
def getFlagsFromName (malloc : Nat → Bool) (table : List ValueStringEntry) (name : Text)
    (before : UInt32) : FlagsResult :=
  if malloc (name.length + 1) then flagLoop table name 0 else ⟨false, before, []⟩

/-- The variables of `dump_flag_names`, and what it has printed. -/
structure DumpState where
  output : Text
  first : Bool
  remaining : UInt32

/-- `first ? "" : ","` -/
def DumpState.separator (s : DumpState) : Text := if s.first then [] else [',']

/-- The body of the loop over the table. -/
def dumpEntry (flags : UInt32) (s : DumpState) (entry : ValueStringEntry) : DumpState :=
  if entry.value ≠ 0 ∧ flags &&& entry.value = entry.value then
    { output := s.output ++ s.separator ++ entry.name
      first := false
      remaining := s.remaining &&& ~~~entry.value }
  else s

/-- `0x%08x` -/
def hexWord (x : UInt32) : Text := '0' :: 'x' :: hexText 8 x.toNat

/-- `dump_flag_names` -/
def dumpFlagNames (table : List ValueStringEntry) (flags : UInt32) : Text :=
  if flags = 0 then "NONE".toList
  else
    let s := table.foldl (dumpEntry flags) ⟨[], true, flags⟩
    if s.remaining ≠ 0 then s.output ++ s.separator ++ hexWord s.remaining else s.output

/-! ## Tables and the flags they cover -/

/-- A table whose names can be told apart in a list, and from a number. -/
structure NameTable where
  entries : List ValueStringEntry
  nodup : (entries.map (·.name)).Nodup
  nonempty : ∀ entry ∈ entries, entry.name ≠ []
  noComma : ∀ entry ∈ entries, ',' ∉ entry.name
  noHexLiteral : ∀ entry ∈ entries, isHexLiteral entry.name = false

/-- Every bit of the flags belongs to an entry that is wholly contained in them. -/
def Covered (table : List ValueStringEntry) (f : UInt32) : Prop :=
  ∀ i ∈ flags f.toNat, ∃ entry ∈ table,
    flags entry.value.toNat ⊆ flags f.toNat ∧ i ∈ flags entry.value.toNat

/-- The bitwise OR of the values. -/
def orValues (entries : List ValueStringEntry) : UInt32 :=
  entries.foldl (fun f entry => f ||| entry.value) 0

/-- A list of names and of empty items, separated by commas. -/
def joinItems (items : List (Option ValueStringEntry)) : Text :=
  [','].intercalate (items.map fun item => (item.map (·.name)).getD [])

/-! ## Reading -/

section Reading

variable {table : List ValueStringEntry}

/-- The loop over names that were already taken apart. -/
def foldNames (table : List ValueStringEntry) : List Text → UInt32 → FlagsResult
  | [], flags => ⟨true, flags, []⟩
  | flagName :: names, flags =>
      match getValueFromName table flagName with
      | none => ⟨false, flags, "unsupported flag - ".toList ++ flagName ++ ['\n']⟩
      | some value => foldNames table names (flags ||| value)

theorem flagLoop_eq_foldNames (text : Text) (flags : UInt32) :
    flagLoop table text flags = foldNames table (tokens isComma text) flags := by
  fun_induction flagLoop table text flags with
  | case1 text flags h => rw [tokens_of_none h, foldNames]
  | case2 text flags flagName rest h hname => rw [tokens_of_some h, foldNames, hname]
  | case3 text flags flagName rest h value hname ih =>
      rw [tokens_of_some h, foldNames, hname]
      exact ih

/-- Items without commas come apart as they were joined, except for empty ones. -/
theorem flagLoop_intercalate {items : List Text}
    (h : ∀ item ∈ items, ∀ x ∈ item, isComma x = false) (flags : UInt32) :
    flagLoop table ([','].intercalate items) flags =
      foldNames table (items.filter (· ≠ [])) flags := by
  rw [flagLoop_eq_foldNames, tokens_intercalate rfl h]

/-- Names of entries give their values, one after the other. -/
theorem foldNames_map_name {entries : List ValueStringEntry}
    (h : ∀ entry ∈ entries, getValueFromName table entry.name = some entry.value)
    (names : List Text) (flags : UInt32) :
    foldNames table (entries.map (·.name) ++ names) flags =
      foldNames table names (entries.foldl (fun f entry => f ||| entry.value) flags) := by
  induction entries generalizing flags with
  | nil => rfl
  | cons entry entries ih =>
      rw [List.map_cons, List.cons_append, foldNames, h entry List.mem_cons_self]
      exact ih (fun other hother => h other (List.mem_cons_of_mem entry hother)) _

theorem mem_flags_foldl_or {entries : List ValueStringEntry} {f : UInt32} {i : Nat} :
    i ∈ flags (entries.foldl (fun f entry => f ||| entry.value) f).toNat ↔
      i ∈ flags f.toNat ∨ ∃ entry ∈ entries, i ∈ flags entry.value.toNat := by
  induction entries generalizing f with
  | nil => simp
  | cons entry entries ih =>
      rw [List.foldl_cons, ih, UInt32.toNat_or, flags_or]
      simp [or_assoc]

theorem mem_flags_orValues {entries : List ValueStringEntry} {i : Nat} :
    i ∈ flags (orValues entries).toNat ↔ ∃ entry ∈ entries, i ∈ flags entry.value.toNat := by
  rw [orValues, mem_flags_foldl_or]
  simp

end Reading

/-! ## Printing -/

section Printing

variable (f : UInt32)

/-- The entries that are printed. -/
def printedEntries (table : List ValueStringEntry) : List ValueStringEntry :=
  table.filter fun entry => entry.value ≠ 0 ∧ f &&& entry.value = entry.value

/-- The state after some names were printed. -/
structure Printed (names : List Text) (s : DumpState) : Prop where
  output : s.output = [','].intercalate names
  first : s.first = names.isEmpty

variable {f}

/-- A name is printed behind those before it. -/
theorem Printed.concat {names : List Text} {s : DumpState} (h : Printed names s) (name : Text) :
    s.output ++ s.separator ++ name = [','].intercalate (names ++ [name]) := by
  rw [intercalate_concat, DumpState.separator, h.output, h.first]

theorem printed_dumpEntry {names : List Text} {s : DumpState} (h : Printed names s)
    {entry : ValueStringEntry} (hentry : entry.value ≠ 0 ∧ f &&& entry.value = entry.value) :
    Printed (names ++ [entry.name]) (dumpEntry f s entry) := by
  rw [dumpEntry, if_pos hentry]
  exact ⟨h.concat entry.name, by simp⟩

/-- The loop prints the contained entries and takes their bits away. -/
theorem printed_foldl {names : List Text} {s : DumpState} (h : Printed names s)
    (table : List ValueStringEntry) :
    Printed (names ++ (printedEntries f table).map (·.name)) (table.foldl (dumpEntry f) s) ∧
      ∀ i, i ∈ flags (table.foldl (dumpEntry f) s).remaining.toNat ↔
        i ∈ flags s.remaining.toNat ∧
          ∀ entry ∈ printedEntries f table, i ∉ flags entry.value.toNat := by
  induction table generalizing names s with
  | nil => simpa [printedEntries] using h
  | cons entry table ih =>
      rw [List.foldl_cons]
      by_cases hentry : entry.value ≠ 0 ∧ f &&& entry.value = entry.value
      · have hprinted : printedEntries f (entry :: table) = entry :: printedEntries f table :=
          List.filter_cons_of_pos (by simpa using hentry)
        obtain ⟨hnames, hremaining⟩ := ih (printed_dumpEntry h hentry)
        have hstep : (dumpEntry f s entry).remaining = s.remaining &&& ~~~entry.value := by
          rw [dumpEntry, if_pos hentry]
        rw [hprinted]
        refine ⟨by simpa using hnames, fun i => ?_⟩
        rw [hremaining, hstep, mem_flags_and_not, List.forall_mem_cons, and_assoc]
      · have hprinted : printedEntries f (entry :: table) = printedEntries f table :=
          List.filter_cons_of_neg (by simpa using hentry)
        have hstep : dumpEntry f s entry = s := if_neg hentry
        rw [hprinted, hstep]
        exact ih h

/-- The bits that no entry covers. -/
def uncovered (table : List ValueStringEntry) (f : UInt32) : UInt32 :=
  (table.foldl (dumpEntry f) ⟨[], true, f⟩).remaining

/-- **The printed text** is a list of names, with a number for what they leave. -/
theorem dumpFlagNames_eq (table : List ValueStringEntry) (hf : f ≠ 0) :
    dumpFlagNames table f = [','].intercalate ((printedEntries f table).map (·.name) ++
      if uncovered table f ≠ 0 then [hexWord (uncovered table f)] else []) := by
  have hstart : Printed [] (⟨[], true, f⟩ : DumpState) := ⟨rfl, rfl⟩
  obtain ⟨hprinted, -⟩ := printed_foldl hstart table
  rw [List.nil_append] at hprinted
  rw [dumpFlagNames, if_neg hf, uncovered]
  dsimp only
  split_ifs with hzero
  · exact hprinted.concat _
  · rw [List.append_nil]
    exact hprinted.output

/-- A contained entry is printed, unless it has no bits. -/
theorem mem_printedEntries {table : List ValueStringEntry} {entry : ValueStringEntry} :
    entry ∈ printedEntries f table ↔
      entry ∈ table ∧ entry.value ≠ 0 ∧ flags entry.value.toNat ⊆ flags f.toNat := by
  simp [printedEntries, and_eq_right_iff]

theorem covered_iff {table : List ValueStringEntry} :
    Covered table f ↔ ∀ i ∈ flags f.toNat, ∃ entry ∈ printedEntries f table,
      i ∈ flags entry.value.toNat := by
  refine forall₂_congr fun i _ => ⟨?_, ?_⟩
  · rintro ⟨entry, hentry, hsub, hi⟩
    have hvalue : entry.value ≠ 0 := by
      intro hzero
      simp [hzero] at hi
    exact ⟨entry, mem_printedEntries.mpr ⟨hentry, hvalue, hsub⟩, hi⟩
  · rintro ⟨entry, hentry, hi⟩
    obtain ⟨hmem, -, hsub⟩ := mem_printedEntries.mp hentry
    exact ⟨entry, hmem, hsub, hi⟩

theorem mem_flags_uncovered {table : List ValueStringEntry} {i : Nat} :
    i ∈ flags (uncovered table f).toNat ↔
      i ∈ flags f.toNat ∧ ∀ entry ∈ printedEntries f table, i ∉ flags entry.value.toNat := by
  have hstart : Printed [] (⟨[], true, f⟩ : DumpState) := ⟨rfl, rfl⟩
  exact (printed_foldl hstart table).2 i

/-- Nothing is left exactly if the flags are covered. -/
theorem uncovered_eq_zero_iff {table : List ValueStringEntry} :
    uncovered table f = 0 ↔ Covered table f := by
  rw [covered_iff]
  constructor
  · intro hzero i hi
    by_contra hnone
    have hleft : i ∈ flags (uncovered table f).toNat :=
      mem_flags_uncovered.mpr ⟨hi, fun entry hentry hbit => hnone ⟨entry, hentry, hbit⟩⟩
    simp [hzero] at hleft
  · intro hcovered
    apply UInt32.toNat_inj.mp
    apply flags_injective
    ext i
    constructor
    · intro hi
      obtain ⟨hbit, hnone⟩ := mem_flags_uncovered.mp hi
      obtain ⟨entry, hentry, hcover⟩ := hcovered i hbit
      exact absurd hcover (hnone entry hentry)
    · intro hi
      simp at hi

/-- Covered flags are the OR of the entries that are printed. -/
theorem orValues_printedEntries {table : List ValueStringEntry} (h : Covered table f) :
    orValues (printedEntries f table) = f := by
  apply UInt32.toNat_inj.mp
  apply flags_injective
  ext i
  rw [mem_flags_orValues]
  constructor
  · rintro ⟨entry, hentry, hi⟩
    exact (mem_printedEntries.mp hentry).2.2 hi
  · exact covered_iff.mp h i

end Printing

theorem isComma_of_mem_hexWord {x : UInt32} {c : Char} (hc : c ∈ hexWord x) :
    isComma c = false := by
  have hcomma : isHexDigit ',' = false := by decide
  rw [isComma, beq_eq_false_iff_ne]
  rintro rfl
  simp only [hexWord, List.mem_cons] at hc
  rcases hc with hc | hc | hc
  · exact absurd hc (by decide)
  · exact absurd hc (by decide)
  · rw [isHexDigit_of_mem_hexText hc] at hcomma
    cases hcomma

namespace NameTable

variable (table : NameTable)

theorem getValueFromName_name {entry : ValueStringEntry} (h : entry ∈ table.entries) :
    getValueFromName table.entries entry.name = some entry.value := by
  have hfind : (table.entries.find? fun other => entry.name == other.name) = some entry := by
    cases hfound : table.entries.find? fun other => entry.name == other.name with
    | none => exact absurd (List.find?_eq_none.mp hfound entry h) (by simp)
    | some other =>
        have hname : entry.name = other.name := by simpa using List.find?_some hfound
        rw [List.inj_on_of_nodup_map table.nodup h (List.mem_of_find?_eq_some hfound) hname]
  rw [getValueFromName, hfind]
  rfl

theorem isComma_of_mem {entry : ValueStringEntry} (h : entry ∈ table.entries) {x : Char}
    (hx : x ∈ entry.name) : isComma x = false := by
  rw [isComma, beq_eq_false_iff_ne]
  rintro rfl
  exact table.noComma entry h hx

/-- A number is no name. -/
theorem getValueFromName_hexWord (x : UInt32) :
    getValueFromName table.entries (hexWord x) = none := by
  have hfind : (table.entries.find? fun other => hexWord x == other.name) = none := by
    rw [List.find?_eq_none]
    intro entry hentry hname
    have hliteral : isHexLiteral (hexWord x) = true := isHexLiteral_hexText (by decide) x.toNat
    rw [beq_iff_eq.mp hname, table.noHexLiteral entry hentry] at hliteral
    cases hliteral
  rw [getValueFromName, hfind]
  rfl

/-- Names of entries, and empty items between them, give the OR of the values. -/
theorem flagLoop_joinItems {items : List (Option ValueStringEntry)}
    (h : ∀ entry ∈ items.reduceOption, entry ∈ table.entries) :
    flagLoop table.entries (joinItems items) 0 = ⟨true, orValues items.reduceOption, []⟩ := by
  have hitems : ∀ item ∈ items.map fun item => (item.map (·.name)).getD [],
      ∀ x ∈ item, isComma x = false := by
    intro item hitem x hx
    obtain ⟨source, hsource, rfl⟩ := List.mem_map.mp hitem
    cases source with
    | none => cases hx
    | some entry =>
        exact table.isComma_of_mem (h entry (List.reduceOption_mem_iff.mpr hsource)) hx
  have hnames : ((items.map fun item => (item.map (·.name)).getD []).filter (· ≠ [])) =
      items.reduceOption.map (·.name) := by
    clear hitems
    induction items with
    | nil => rfl
    | cons item items ih =>
        cases item with
        | none => simpa using ih h
        | some entry =>
            have hne := table.nonempty entry (h entry (by simp))
            have hrest := ih fun other hother => h other (by simp [hother])
            simpa [hne] using hrest
  have hvalues := foldNames_map_name
    (fun entry hentry => table.getValueFromName_name (h entry hentry)) [] 0
  rw [List.append_nil] at hvalues
  rw [joinItems, flagLoop_intercalate hitems, hnames, hvalues]
  rfl

/-- The printed names are read back up to the number behind them. -/
theorem flagLoop_dumpFlagNames {f : UInt32} (hf : f ≠ 0) :
    flagLoop table.entries (dumpFlagNames table.entries f) 0 =
      foldNames table.entries
        (if uncovered table.entries f ≠ 0 then [hexWord (uncovered table.entries f)] else [])
        (orValues (printedEntries f table.entries)) := by
  have hprinted : ∀ entry ∈ printedEntries f table.entries, entry ∈ table.entries :=
    fun entry hentry => (mem_printedEntries.mp hentry).1
  -- every item is a name of the table or the number, without commas and not empty
  have hitems : ∀ item ∈ (printedEntries f table.entries).map (·.name) ++
      (if uncovered table.entries f ≠ 0 then [hexWord (uncovered table.entries f)] else []),
      (∀ x ∈ item, isComma x = false) ∧ item ≠ [] := by
    intro item hitem
    rcases List.mem_append.mp hitem with hname | hnumber
    · obtain ⟨entry, hentry, rfl⟩ := List.mem_map.mp hname
      have hmem := hprinted entry hentry
      exact ⟨fun x hx => table.isComma_of_mem hmem hx, table.nonempty entry hmem⟩
    · split_ifs at hnumber
      · rw [List.mem_singleton.mp hnumber]
        exact ⟨fun x hx => isComma_of_mem_hexWord hx, List.cons_ne_nil _ _⟩
      · cases hnumber
  have hkept := List.filter_eq_self.mpr fun item hitem =>
    decide_eq_true (hitems item hitem).2
  rw [dumpFlagNames_eq table.entries hf,
    flagLoop_intercalate fun item hitem => (hitems item hitem).1, hkept,
    foldNames_map_name fun entry hentry => table.getValueFromName_name (hprinted entry hentry)]
  rfl

end NameTable

/-- **Flags and their names.** For every table whose names are distinct, not empty, without commas
and no numbers: covered flags are printed and read back, flags that are not covered are printed as
something that is not read, and a list of names is read as the OR of their values, whatever the
order, the repetitions and the empty items. -/
theorem flagNames_roundTrip (table : NameTable) (malloc : Nat → Bool)
    (hmalloc : ∀ size, malloc size = true) (before : UInt32) :
    (∀ f, f ≠ 0 → Covered table.entries f →
      getFlagsFromName malloc table.entries (dumpFlagNames table.entries f) before =
        ⟨true, f, []⟩) ∧
    ((∃ entry ∈ table.entries, entry.name = "NONE".toList ∧ entry.value = 0) →
      getFlagsFromName malloc table.entries (dumpFlagNames table.entries 0) before =
        ⟨true, 0, []⟩) ∧
    (∀ f, f ≠ 0 → ¬ Covered table.entries f →
      (getFlagsFromName malloc table.entries (dumpFlagNames table.entries f) before).ret =
        false) ∧
    (∀ items : List (Option ValueStringEntry),
      (∀ entry ∈ items.reduceOption, entry ∈ table.entries) →
      getFlagsFromName malloc table.entries (joinItems items) before =
        ⟨true, orValues items.reduceOption, []⟩) ∧
    ∀ items items' : List (Option ValueStringEntry),
      (∀ entry ∈ items.reduceOption, entry ∈ table.entries) →
      (∀ entry, entry ∈ items.reduceOption ↔ entry ∈ items'.reduceOption) →
      getFlagsFromName malloc table.entries (joinItems items') before =
        getFlagsFromName malloc table.entries (joinItems items) before := by
  have hread : ∀ text, getFlagsFromName malloc table.entries text before =
      flagLoop table.entries text 0 := fun text => if_pos (hmalloc _)
  simp only [hread]
  refine ⟨?_, ?_, ?_, fun items h => table.flagLoop_joinItems h, ?_⟩
  · intro f hf hcovered
    rw [table.flagLoop_dumpFlagNames hf,
      if_neg (not_ne_iff.mpr (uncovered_eq_zero_iff.mpr hcovered)),
      orValues_printedEntries hcovered, foldNames]
  · rintro ⟨entry, hentry, hname, hvalue⟩
    have hnone : dumpFlagNames table.entries 0 = joinItems [some entry] := by
      simp [dumpFlagNames, joinItems, hname, List.intercalate]
    have hmem : ∀ other ∈ [some entry].reduceOption, other ∈ table.entries := by
      simpa using hentry
    rw [hnone, table.flagLoop_joinItems hmem]
    simp [orValues, hvalue]
  · intro f hf hcovered
    rw [table.flagLoop_dumpFlagNames hf,
      if_pos fun hzero => hcovered (uncovered_eq_zero_iff.mp hzero),
      foldNames, table.getValueFromName_hexWord]
  · intro items items' h hsame
    have h' : ∀ entry ∈ items'.reduceOption, entry ∈ table.entries :=
      fun entry hentry => h entry ((hsame entry).mpr hentry)
    rw [table.flagLoop_joinItems h, table.flagLoop_joinItems h']
    congr 1
    apply UInt32.toNat_inj.mp
    apply flags_injective
    ext i
    simp only [mem_flags_orValues, hsame]

/-- A table with entries that share bits. -/
def sampleTable : NameTable where
  entries := [⟨0, "NONE".toList⟩, ⟨1, "NO_SIG".toList⟩, ⟨3, "ALL".toList⟩, ⟨4, "FRESH".toList⟩]
  nodup := by decide
  nonempty := by decide
  noComma := by decide
  noHexLiteral := by decide

theorem flagNames_roundTrip_sampleTable :
    dumpFlagNames sampleTable.entries 7 = "NO_SIG,ALL,FRESH".toList ∧
      getFlagsFromName (fun _ => true) sampleTable.entries (dumpFlagNames sampleTable.entries 7) 0 =
        ⟨true, 7, []⟩ ∧
      (getFlagsFromName (fun _ => true) sampleTable.entries (dumpFlagNames sampleTable.entries 8)
        0).ret = false := by
  obtain ⟨hcovered, -, huncovered, -⟩ :=
    flagNames_roundTrip sampleTable (fun _ => true) (fun _ => rfl) 0
  refine ⟨by decide, hcovered 7 (by decide) (uncovered_eq_zero_iff.mp (by decide)), ?_⟩
  refine huncovered 8 (by decide) fun h => ?_
  exact absurd (uncovered_eq_zero_iff.mpr h) (by decide)

end SpdmEmu.Emulator
