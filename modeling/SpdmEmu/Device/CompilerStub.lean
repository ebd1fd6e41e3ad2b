import SpdmEmu.Libc.CString

/-!
# String functions of the device sample

`compiler_stub.c` of the device sample has its own `strstr`, `memchr` and `strchr`, for a build
without a C library. The functions take pointers into one memory, in which two strings may overlap.
`ascii_strstr` finds the first occurrence and stops early with the right answer.

`memchr` and `strchr` are wrappers of `memscan`, a `do`/`while` that reads a byte before it looks at
the length, and that compares a `char` with an `int`. `strchr` passes the length of the string as
the value and the character as the length. What follows for the contract of C is
`findsByte_memscan_iff`.
-/

set_option autoImplicit false

namespace SpdmEmu.Device

open SpdmEmu.Wire SpdmEmu.Libc

/-! ## `ascii_strstr` -/

/-- The inner `while`: the two cursors while the characters agree. -/
def matchPass : Nat × Nat → Reading ((Nat × Nat) ⊕ (Nat × Nat))
  | (string, searchStringTmp) => do
      let a ← Reading.read string
      let b ← Reading.read searchStringTmp
      if a = b then
        let a ← Reading.read string
        if a ≠ 0 then return .inr (string + 1, searchStringTmp + 1)
        else return .inl (string, searchStringTmp)
      else return .inl (string, searchStringTmp)

/-- The outer `while`, with the cursor `string`; `NULL` is `none`. -/
def searchPass (fuel searchString string : Nat) : Reading (Option Nat ⊕ Nat) := do
  let a ← Reading.read string
  if a ≠ 0 then
    let firstMatch := string
    let (string, searchStringTmp) ← Reading.loop matchPass fuel (string, searchString)
    let b ← Reading.read searchStringTmp
    if b = 0 then return .inl (some firstMatch)
    else
      let a ← Reading.read string
      if a = 0 then return .inl none
      else return .inr (firstMatch + 1)
  else return .inl none

/-- `ascii_strstr` -/
def asciiStrstr (fuel string searchString : Nat) : Reading (Option Nat) := do
  let b ← Reading.read searchString
  if b = 0 then return some string
  else Reading.loop (searchPass fuel searchString) fuel string

section Strstr

variable {m : Mem} {string searchString : Nat} {s p : Bytes}

/-- The addresses of the two strings. -/
def InStrings (string : Nat) (s : Bytes) (searchString : Nat) (p : Bytes) (address : Nat) : Prop :=
  InString string s address ∨ InString searchString p address

/-- Where the inner loop stands: the first `i` characters agree. -/
structure Agree (string searchString : Nat) (s p : Bytes) (k i : Nat) (at_ : Nat × Nat) :
    Prop where
  cursor : at_ = (string + k + i, searchString + i)
  inText : k + i ≤ s.length
  inPattern : i ≤ p.length
  agree : ∀ j < i, s[k + j]? = p[j]?

/-- One more character agrees, and it is no terminator. -/
theorem Agree.next {k i : Nat} {at_ : Nat × Nat} (hs : StringAt m string s)
    (hp : StringAt m searchString p) (h : Agree string searchString s p k i at_)
    (heq : m (string + k + i) = m (searchString + i)) (hne : m (string + k + i) ≠ 0) :
    Agree string searchString s p k (i + 1) (string + k + i + 1, searchString + i + 1) := by
  have htext : k + i ≠ s.length := by
    intro hend
    apply hne
    rw [Nat.add_assoc, hs.eq_zero_iff h.inText, hend]
  have hpattern : i ≠ p.length := by
    intro hend
    apply hne
    rw [heq, hp.eq_zero_iff h.inPattern, hend]
  have hk : k + i < s.length := by have := h.inText; omega
  have hi : i < p.length := by have := h.inPattern; omega
  refine ⟨rfl, by omega, by omega, ?_⟩
  intro j hj
  rcases Nat.lt_succ_iff_lt_or_eq.mp hj with hj | rfl
  · exact h.agree j hj
  · rw [Nat.add_assoc, hs.getElem hk, hp.getElem hi] at heq
    rw [List.getElem?_eq_getElem hk, List.getElem?_eq_getElem hi, heq]

/-- The inner loop ends where the characters differ or both strings end. -/
theorem matchLoop_meets (hs : StringAt m string s) (hp : StringAt m searchString p) {k fuel : Nat}
    (hk : k ≤ s.length) (hfuel : s.length < fuel) :
    Reading.Meets (InStrings string s searchString p) m
      (Reading.loop matchPass fuel (string + k, searchString))
      fun end_ => ∃ i, Agree string searchString s p k i end_ ∧
        (m (string + k + i) ≠ m (searchString + i) ∨ m (string + k + i) = 0) := by
  refine Reading.Meets.loop (fun at_ => ∃ i, Agree string searchString s p k i at_)
    (fun at_ => string + s.length - at_.1) ?_ ⟨0, rfl, hk, Nat.zero_le _, by simp⟩ (by omega)
  rintro at_ ⟨i, h⟩
  obtain rfl := h.cursor
  have hText : InStrings string s searchString p (string + k + i) :=
    .inl ⟨by omega, by have := h.inText; omega⟩
  have hPattern : InStrings string s searchString p (searchString + i) :=
    .inr ⟨by omega, by have := h.inPattern; omega⟩
  refine .read_bind hText (.read_bind hPattern ?_)
  by_cases heq : m (string + k + i) = m (searchString + i)
  · rw [if_pos heq]
    refine .read_bind hText ?_
    by_cases hne : m (string + k + i) = 0
    · rw [if_neg (by simpa using hne)]
      exact .pure ⟨i, h, .inr hne⟩
    · rw [if_pos hne]
      have hnext := h.next hs hp heq hne
      refine .pure ⟨⟨i + 1, hnext⟩, ?_⟩
      have := hnext.inText
      dsimp only
      omega
  · rw [if_neg heq]
    exact .pure ⟨i, h, .inl heq⟩

/-- **One pass of the outer loop.** It finds the pattern at its position, or rules out this position
alone, or rules out every position from it on. -/
theorem searchPass_meets (hs : StringAt m string s) (hp : StringAt m searchString p)
    (hne : p ≠ []) {k fuel : Nat} (hk : k ≤ s.length) (hfuel : s.length < fuel) :
    Reading.Meets (InStrings string s searchString p) m (searchPass fuel searchString (string + k))
      (Sum.elim
        (fun result => (result = some (string + k) ∧ OccursAt p s k) ∨
          (result = none ∧ ∀ j, k ≤ j → ¬ OccursAt p s j))
        (fun next => next = string + k + 1 ∧ k < s.length ∧ ¬ OccursAt p s k)) := by
  have hlength := List.length_pos_of_ne_nil hne
  refine .read_bind (.inl ⟨by omega, by omega⟩) ?_
  by_cases hend : m (string + k) = 0
  · -- at the end of the text nothing is left for a pattern that is not empty
    rw [if_neg (by simpa using hend)]
    have hks : k = s.length := (hs.eq_zero_iff hk).mp hend
    exact .pure (.inr ⟨rfl, fun j hj => not_occursAt_of_lt (by omega)⟩)
  · rw [if_pos hend]
    refine .bind (matchLoop_meets hs hp hk hfuel) ?_
    rintro end_ ⟨i, h, hstop⟩
    obtain rfl := h.cursor
    have hText := h.inText
    have hPattern := h.inPattern
    refine .read_bind (.inr ⟨by omega, by omega⟩) ?_
    by_cases hpend : m (searchString + i) = 0
    · -- the pattern is used up
      rw [if_pos hpend]
      have hi : i = p.length := (hp.eq_zero_iff hPattern).mp hpend
      exact .pure (.inl ⟨rfl, occursAt_of_getElem? hk (hi ▸ h.agree)⟩)
    · rw [if_neg hpend]
      have hi : i < p.length := by
        rcases Nat.lt_or_eq_of_le hPattern with hi | hi
        · exact hi
        · exact absurd ((hp.eq_zero_iff hPattern).mpr hi) hpend
      refine .read_bind (.inl ⟨by omega, by omega⟩) ?_
      by_cases htend : m (string + k + i) = 0
      · -- the text is used up: from `k` on it is shorter than the pattern
        rw [if_pos htend]
        rw [Nat.add_assoc, hs.eq_zero_iff hText] at htend
        exact .pure (.inr ⟨rfl, fun j hj => not_occursAt_of_lt (by omega)⟩)
      · rw [if_neg htend]
        have hks : k + i < s.length := by
          rcases Nat.lt_or_eq_of_le hText with hks | hks
          · exact hks
          · rw [Nat.add_assoc] at htend
            exact absurd ((hs.eq_zero_iff hText).mpr hks) htend
        refine .pure ⟨rfl, by omega, fun hoccurs => ?_⟩
        have hsame := hoccurs.getElem? hi
        rw [List.getElem?_eq_getElem hks, List.getElem?_eq_getElem hi, Option.some.injEq,
          ← hs.getElem hks, ← hp.getElem hi, ← Nat.add_assoc] at hsame
        rcases hstop with hstop | hstop
        · exact hstop hsame
        · exact htend hstop

/-- What the search has found: the first occurrence, or that there is none. -/
def SearchResult (string : Nat) (s p : Bytes) (result : Option Nat) : Prop :=
  (∃ k, result = some (string + k) ∧ FirstAt p s k) ∨ (result = none ∧ ∀ k, ¬ OccursAt p s k)

theorem asciiStrstr_meets (hs : StringAt m string s) (hp : StringAt m searchString p) {fuel : Nat}
    (hfuel : s.length < fuel) :
    Reading.Meets (InStrings string s searchString p) m (asciiStrstr fuel string searchString)
      (SearchResult string s p) := by
  refine .read_bind (.inr ⟨by omega, by omega⟩) ?_
  by_cases hempty : m searchString = 0
  · rw [if_pos hempty]
    have hp0 : 0 = p.length := (hp.eq_zero_iff (Nat.zero_le _)).mp hempty
    have hnil : p = [] := List.eq_nil_of_length_eq_zero hp0.symm
    refine .pure (.inl ⟨0, rfl, ⟨Nat.zero_le _, ?_⟩, by simp⟩)
    simp [hnil]
  · rw [if_neg hempty]
    have hne : p ≠ [] := by
      rintro rfl
      exact hempty hp.terminator
    -- the pattern stands at no position before the cursor
    refine Reading.Meets.loop
      (fun at_ => ∃ k, at_ = string + k ∧ k ≤ s.length ∧ ∀ j < k, ¬ OccursAt p s j)
      (fun at_ => string + s.length - at_) ?_ ⟨0, rfl, Nat.zero_le _, by simp⟩ (by omega)
    rintro at_ ⟨k, rfl, hk, hbefore⟩
    obtain ⟨⟨outcome, hvalue, hpost⟩, hreads⟩ := searchPass_meets hs hp hne hk hfuel
    refine ⟨⟨outcome, hvalue, ?_⟩, hreads⟩
    rcases outcome with result | next
    · rcases hpost with ⟨rfl, hoccurs⟩ | ⟨rfl, hnone⟩
      · exact .inl ⟨k, rfl, hoccurs, hbefore⟩
      · refine .inr ⟨rfl, fun j => ?_⟩
        rcases Nat.lt_or_ge j k with hj | hj
        · exact hbefore j hj
        · exact hnone j hj
    · obtain ⟨rfl, hlt, hnot⟩ := hpost
      refine ⟨⟨k + 1, rfl, hlt, ?_⟩, by omega⟩
      intro j hj
      rcases Nat.lt_succ_iff_lt_or_eq.mp hj with hj | rfl
      · exact hbefore j hj
      · exact hnot

/-- **Substring search.** For strings in memory, `ascii_strstr` returns, reads the two strings and
their terminators only, and finds the first occurrence, or `NULL` exactly if there is none. A pass
that gives up gives up no occurrence. -/
theorem asciiStrstr_first_occurrence (m : Mem) (string searchString : Nat) (s p : Bytes)
    (hs : StringAt m string s) (hp : StringAt m searchString p) (fuel : Nat)
    (hfuel : s.length < fuel) :
    (∃ result : Option Nat,
      (asciiStrstr fuel string searchString m).value = some result ∧
      (∀ address, result = some address ↔ ∃ k, address = string + k ∧ FirstAt p s k) ∧
      (result = none ↔ ¬ p <:+: s)) ∧
    (∀ address ∈ (asciiStrstr fuel string searchString m).reads,
      InString string s address ∨ InString searchString p address) ∧
    ∀ k ≤ s.length, p ≠ [] →
      (searchPass fuel searchString (string + k) m).value = some (.inl none) →
      ∀ j, k ≤ j → ¬ OccursAt p s j := by
  obtain ⟨⟨result, hvalue, hresult⟩, hreads⟩ := asciiStrstr_meets hs hp hfuel
  refine ⟨⟨result, hvalue, ?_, ?_⟩, hreads, ?_⟩
  · intro address
    rcases hresult with ⟨k, rfl, hfirst⟩ | ⟨rfl, hnone⟩
    · constructor
      · intro h
        exact ⟨k, (Option.some.inj h).symm, hfirst⟩
      · rintro ⟨j, rfl, hj⟩
        rw [hfirst.eq hj]
    · constructor
      · intro h
        cases h
      · rintro ⟨j, -, hj⟩
        exact absurd hj.1 (hnone j)
  · rw [isInfix_iff_occursAt]
    rcases hresult with ⟨k, rfl, hfirst⟩ | ⟨rfl, hnone⟩
    · simpa using ⟨k, hfirst.1⟩
    · simpa using hnone
  · intro k hk hne hnull
    obtain ⟨⟨outcome, houtcome, hpost⟩, -⟩ := searchPass_meets hs hp hne hk hfuel
    rw [hnull, Option.some.injEq] at houtcome
    subst houtcome
    rcases hpost with ⟨h, -⟩ | ⟨-, hnone⟩
    · cases h
    · exact hnone

end Strstr

/-- The strings `"aab"` and `"ab"`. -/
def sampleStrings : Mem := Mem.store (fun _ => 0) 0 [97, 97, 98, 0, 97, 98, 0]

theorem stringAt_aab : StringAt sampleStrings 0 [97, 97, 98] :=
  ⟨by decide, by decide, by simp⟩

theorem stringAt_ab : StringAt sampleStrings 4 [97, 98] :=
  ⟨by decide, by decide, by simp⟩

theorem asciiStrstr_sampleStrings :
    ∃ result : Option Nat, (asciiStrstr 4 0 4 sampleStrings).value = some result ∧
      ∀ address, result = some address ↔
        ∃ k, address = 0 + k ∧ FirstAt [97, 98] [97, 97, 98] k := by
  obtain ⟨⟨result, hvalue, hfirst, -⟩, -, -⟩ :=
    asciiStrstr_first_occurrence sampleStrings 0 4 _ _ stringAt_aab stringAt_ab 4 (by decide)
  exact ⟨result, hvalue, hfirst⟩

example : (asciiStrstr 4 0 4 sampleStrings).value = some (some 1) := by decide

/-! ## `memscan` and its callers -/

/-- A `char` as an `int`; whether `char` is signed depends on the compiler. -/
def charValue (signed : Bool) (b : UInt8) : Int32 :=
  if signed then b.toInt8.toInt32 else b.toUInt32.toInt32

/-- `(unsigned char)value` -/
def charByte (value : Int32) : UInt8 := value.toUInt32.toUInt8

/-- `memscan`'s loop, with the cursor `p` and the count `num`. -/
def scanPass (signed : Bool) (value : Int32) : Nat × UInt64 → Reading (Option Nat ⊕ (Nat × UInt64))
  | (p, num) => do
      let b ← Reading.read p
      if charValue signed b = value then return .inl (some p)
      else
        let num := num - 1
        if num ≠ 0 then return .inr (p + 1, num) else return .inl none

/-- `memscan` -/
def memscan (signed : Bool) (fuel ptr : Nat) (value : Int32) (num : UInt64) :
    Reading (Option Nat) :=
  Reading.loop (scanPass signed value) fuel (ptr, num)

/-- `memchr` -/
def memchr (signed : Bool) (fuel ptr : Nat) (value : Int32) (num : UInt64) :
    Reading (Option Nat) :=
  memscan signed fuel ptr value num

/-- The loop of `ascii_strlen`. -/
def lengthPass : Nat × UInt64 → Reading (UInt64 ⊕ (Nat × UInt64))
  | (string, length) => do
      let b ← Reading.read string
      if b ≠ 0 then return .inr (string + 1, length + 1) else return .inl length

/-- `ascii_strlen`; `NULL` is `none`. -/
def asciiStrlen (fuel : Nat) : Option Nat → Reading UInt64
  | none => return 0
  | some string => Reading.loop lengthPass fuel (string, 0)

/-- `strchr` -/
def strchr (signed : Bool) (fuel str : Nat) (ch : Int32) : Reading (Option Nat) := do
  let length ← asciiStrlen fuel (some str)
  -- the arguments stand in this order in the source
  memscan signed fuel str (length.toUInt32.toInt32 + 1) ch.toInt64.toUInt64

@[simp] theorem charByte_charValue (signed : Bool) (b : UInt8) :
    charByte (charValue signed b) = b := by
  cases signed with
  | false => simp [charByte, charValue]
  | true =>
      -- the low byte of a sign extension
      apply UInt8.eq_of_toBitVec_eq
      show (b.toBitVec.signExtend 32).setWidth 8 = b.toBitVec
      apply BitVec.eq_of_getLsbD_eq
      intro i hi
      simp only [BitVec.getLsbD_setWidth, BitVec.getLsbD_signExtend, hi]
      simp
      omega

theorem charValue_injective (signed : Bool) : Function.Injective (charValue signed) :=
  Function.LeftInverse.injective (charByte_charValue signed)

/-- How often the loop of `memscan` runs when nothing is found: a length of 0 wraps around. -/
def scanCount (num : UInt64) : Nat := if num = 0 then 2 ^ 64 else num.toNat

theorem scanCount_pos (num : UInt64) : 0 < scanCount num := by
  rw [scanCount]
  split_ifs with h
  · decide
  · exact Nat.pos_of_ne_zero fun h' => h (UInt64.toNat_inj.mp h')

theorem scanCount_le (num : UInt64) : scanCount num ≤ 2 ^ 64 := by
  rw [scanCount]
  split_ifs with h
  · exact Nat.le_refl _
  · exact (UInt64.toNat_lt num).le

theorem scanCount_sub_one {num : UInt64} (h : num - 1 ≠ 0) :
    scanCount num = scanCount (num - 1) + 1 := by
  have hval : num - 1 = 0 ∨ (num - 1).toNat = (num.toNat + (2 ^ 64 - 1)) % 2 ^ 64 := by
    right
    rw [UInt64.toNat_sub]
    simp [Nat.add_comm]
  have hlt := UInt64.toNat_lt num
  have hval := hval.resolve_left h
  rw [scanCount, scanCount, if_neg h]
  split_ifs with h0
  · subst h0
    rfl
  · have : num.toNat ≠ 0 := fun h' => h0 (UInt64.toNat_inj.mp h')
    omega

theorem scanCount_eq_one {num : UInt64} (h : num - 1 = 0) : scanCount num = 1 := by
  have hnum : num = 1 := by
    have := congrArg (· + 1) h
    simpa using this
  subst hnum
  rfl

section Memscan

variable {signed : Bool} {m : Mem} {value : Int32}

/-- The first of the bytes that `memscan` takes for the value. -/
def scanIndex (signed : Bool) (value : Int32) (bytes : Bytes) : Option Nat :=
  bytes.findIdx? fun b => charValue signed b == value

theorem scanPass_run (p : Nat) (num : UInt64) :
    scanPass signed value (p, num) m =
      ⟨some (if charValue signed (m p) = value then .inl (some p)
        else if num - 1 ≠ 0 then .inr (p + 1, num - 1) else .inl none), [p]⟩ := by
  rw [scanPass, Reading.run_read_bind]
  dsimp only
  split_ifs <;> rfl

theorem scanIndex_cons (b : UInt8) (bytes : Bytes) :
    scanIndex signed value (b :: bytes) =
      if charValue signed b = value then some 0
      else (scanIndex signed value bytes).map (· + 1) := by
  simp [scanIndex, List.findIdx?_cons]

/-- **A run of `memscan`**: it reads up to the byte that it returns, or all that it counts. -/
theorem memscan_run {fuel ptr : Nat} {num : UInt64} (hfuel : scanCount num ≤ fuel) :
    memscan signed fuel ptr value num m =
      ⟨some ((scanIndex signed value (m.load ptr (scanCount num))).map (ptr + ·)),
        List.range' ptr ((scanIndex signed value (m.load ptr (scanCount num))).elim
          (scanCount num) (· + 1))⟩ := by
  induction hcount : scanCount num generalizing ptr num fuel with
  | zero => exact absurd hcount (scanCount_pos num).ne'
  | succ n ih =>
      obtain ⟨fuel, rfl⟩ : ∃ k, fuel = k + 1 := ⟨fuel - 1, by omega⟩
      have hpass : scanPass signed value (ptr, num) m = _ := scanPass_run ptr num
      rw [Mem.load_succ, scanIndex_cons]
      by_cases hfound : charValue signed (m ptr) = value
      · rw [if_pos hfound] at hpass ⊢
        exact Reading.run_loop_inl hpass fuel
      · rw [if_neg hfound] at hpass ⊢
        by_cases hlast : num - 1 = 0
        · rw [if_neg (by simpa using hlast)] at hpass
          have hn : n = 0 := by have := scanCount_eq_one hlast; omega
          subst hn
          exact Reading.run_loop_inl hpass fuel
        · rw [if_pos hlast] at hpass
          have hrest := scanCount_sub_one hlast
          have hn : scanCount (num - 1) = n := by omega
          have hnext : memscan signed fuel (ptr + 1) value (num - 1) m = _ := ih (by omega) hn
          rw [memscan] at hnext ⊢
          rw [Reading.run_loop_inr hpass fuel, hnext]
          cases hidx : scanIndex signed value (m.load (ptr + 1) n) with
          | none => simp [List.range'_succ]
          | some i => simp [List.range'_succ, Nat.add_assoc, Nat.add_comm 1 i]

/-- **When a scan is a search for a byte.** The run of `memscan` over `num` is right for the first
`n` bytes and the byte `c` exactly if it looks for `c` and finds it there, or if `c` is not there
and it finds nothing without leaving them. -/
theorem findsByte_memscan_iff {fuel ptr n : Nat} {num : UInt64} (c : UInt8)
    (hfuel : scanCount num ≤ fuel) :
    FindsByte m ptr n c (memscan signed fuel ptr value num m) ↔
      (charValue signed c = value ∧ c ∈ m.load ptr (min n (scanCount num))) ∨
      (c ∉ m.load ptr n ∧ scanCount num ≤ n ∧
        ∀ b ∈ m.load ptr (scanCount num), charValue signed b ≠ value) := by
  rw [memscan_run hfuel]
  cases hidx : scanIndex signed value (m.load ptr (scanCount num)) with
  | some i =>
      obtain ⟨hi, hvalue, hbefore⟩ := findIdx?_load_eq_some.mp hidx
      simp only [beq_iff_eq, beq_eq_false_iff_ne] at hvalue hbefore
      refine findsByte_some_iff.trans ⟨?_, ?_⟩
      · intro hfirst
        obtain ⟨hin, hc, -⟩ := findIdx?_load_eq_some.mp hfirst
        rw [beq_iff_eq] at hc
        exact .inl ⟨hc ▸ hvalue, mem_load.mpr ⟨i, by omega, hc⟩⟩
      · rintro (⟨hc, hmem⟩ | ⟨-, -, hnone⟩)
        · obtain ⟨k, hk, hkc⟩ := mem_load.mp hmem
          -- the byte stands at `k`, so the scan has stopped by then
          have hik : i ≤ k := by
            by_contra hlt
            exact hbefore k (by omega) (hkc ▸ hc)
          have hic : m (ptr + i) = c := charValue_injective signed (hvalue.trans hc.symm)
          refine findIdx?_load_eq_some.mpr ⟨by omega, by simpa using hic, ?_⟩
          intro j hj
          rw [beq_eq_false_iff_ne]
          intro hjc
          exact hbefore j hj (hjc ▸ hc)
        · exact absurd hvalue (hnone _ (mem_load.mpr ⟨i, hi, rfl⟩))
  | none =>
      have hnone : ∀ b ∈ m.load ptr (scanCount num), charValue signed b ≠ value := by
        simpa [scanIndex, List.findIdx?_eq_none_iff] using hidx
      refine findsByte_none_iff.trans ⟨?_, ?_⟩
      · rintro ⟨habsent, hle⟩
        exact .inr ⟨habsent, hle, hnone⟩
      · rintro (⟨hc, hmem⟩ | ⟨habsent, hle, -⟩)
        · obtain ⟨k, hk, hkc⟩ := mem_load.mp hmem
          exact absurd hc (hnone c (mem_load.mpr ⟨k, by omega, hkc⟩))
        · exact ⟨habsent, hle⟩

/-- `ascii_strlen` counts the characters, in 64 bits, and reads the terminator last. -/
theorem lengthLoop_run {fuel string : Nat} {s : Bytes} (hs : StringAt m string s) (length : UInt64)
    (hfuel : s.length < fuel) :
    Reading.loop lengthPass fuel (string, length) m =
      ⟨some (length + UInt64.ofNat s.length), List.range' string (s.length + 1)⟩ := by
  induction s generalizing string length fuel with
  | nil =>
      obtain ⟨fuel, rfl⟩ : ∃ k, fuel = k + 1 := ⟨fuel - 1, by omega⟩
      have hzero : m string = 0 := hs.terminator
      have hpass : lengthPass (string, length) m = ⟨some (.inl length), [string]⟩ := by
        rw [lengthPass, Reading.run_read_bind]
        simp [hzero]
      rw [Reading.run_loop_inl hpass]
      simp
  | cons b s ih =>
      obtain ⟨fuel, rfl⟩ : ∃ k, fuel = k + 1 := ⟨fuel - 1, by omega⟩
      have hne : m string ≠ 0 := hs.ne_zero (i := 0) (by simp)
      have hpass : lengthPass (string, length) m =
          ⟨some (.inr (string + 1, length + 1)), [string]⟩ := by
        rw [lengthPass, Reading.run_read_bind]
        simp [hne]
      rw [Reading.run_loop_inr hpass, ih hs.tail (length + 1) (by simpa using hfuel)]
      simp only [List.length_cons, UInt64.ofNat_add, List.range'_succ, List.singleton_append]
      congr 2
      rw [UInt64.add_assoc, UInt64.add_comm 1]
      rfl

theorem findsByte_memchr_iff {fuel : Nat} (hfuel : 2 ^ 64 ≤ fuel) (ptr : Nat) (num : UInt64) :
    FindsByte m ptr num.toNat (charByte value) (memchr signed fuel ptr value num m) ↔
      num ≠ 0 ∧ (charValue signed (charByte value) = value ∨
        charByte value ∉ m.load ptr num.toNat) := by
  rw [memchr, findsByte_memscan_iff _ ((scanCount_le num).trans hfuel)]
  by_cases hnum : num = 0
  · -- the first byte is read though there is none
    subst hnum
    simp [scanCount, Mem.load]
  · have hcount : scanCount num = num.toNat := if_neg hnum
    rw [hcount, Nat.min_self]
    refine ⟨?_, ?_⟩
    · rintro (⟨hvalue, -⟩ | ⟨habsent, -, -⟩)
      · exact ⟨hnum, .inl hvalue⟩
      · exact ⟨hnum, .inr habsent⟩
    · rintro ⟨-, h⟩
      by_cases hmem : charByte value ∈ m.load ptr num.toNat
      · exact .inl ⟨h.resolve_right (not_not_intro hmem), hmem⟩
      · refine .inr ⟨hmem, Nat.le_refl _, fun b hb hvalue => hmem ?_⟩
        rw [← hvalue, charByte_charValue]
        exact hb

end Memscan

/-- How often the scan that `strchr` starts runs when nothing is found. -/
def strchrCount (ch : Int32) : Nat := scanCount ch.toInt64.toUInt64

/-- The value that `strchr` looks for: the length of the string and one more. -/
def strchrValue (s : Bytes) : Int32 := (UInt64.ofNat s.length).toUInt32.toInt32 + 1

theorem findsByte_strchr_iff {signed : Bool} {m : Mem} {fuel str : Nat} {s : Bytes}
    (hs : StringAt m str s) (hfuel : 2 ^ 64 ≤ fuel) (hlength : s.length < fuel) (ch : Int32) :
    FindsByte m str (s.length + 1) (charByte ch) (strchr signed fuel str ch m) ↔
      (charValue signed (charByte ch) = strchrValue s ∧
        charByte ch ∈ (s ++ [0]).take (strchrCount ch)) ∨
      (charByte ch ∉ s ++ [0] ∧ strchrCount ch ≤ s.length + 1 ∧
        ∀ b ∈ (s ++ [0]).take (strchrCount ch), charValue signed b ≠ strchrValue s) := by
  have hlen : asciiStrlen fuel (some str) m =
      ⟨some (UInt64.ofNat s.length), List.range' str (s.length + 1)⟩ := by
    rw [asciiStrlen, lengthLoop_run hs 0 hlength, UInt64.zero_add]
  -- the reads of `ascii_strlen` are inside the string
  rw [strchr, Reading.run_bind hlen, FindsByte.append_reads_iff (by simp)]
  refine (findsByte_memscan_iff (charByte ch) ((scanCount_le _).trans hfuel)).trans ?_
  rw [← hs.load_terminated, take_load]
  refine or_congr Iff.rfl (and_congr_right fun _ => and_congr_right fun hle => ?_)
  have hmin : min (s.length + 1) (strchrCount ch) = strchrCount ch := Nat.min_eq_right hle
  rw [hmin]
  rfl

/-- **Byte search.** `memchr` meets its contract exactly if the length is not 0 and the value, if
its byte is there, is the `char` of that byte. `strchr` meets it exactly if the character is, by
chance, the one after the length and stands in the first bytes, as many as its own code; or if it is
not in the string, its code is no larger than the string with its terminator, and no character among
those bytes is the one after the length. -/
theorem byteSearch_iff (signed : Bool) (m : Mem) (fuel : Nat) (hfuel : 2 ^ 64 ≤ fuel)
    (ptr : Nat) (value : Int32) (num : UInt64) (str : Nat) (s : Bytes) (hs : StringAt m str s)
    (hlength : s.length < fuel) (ch : Int32) :
    (FindsByte m ptr num.toNat (charByte value) (memchr signed fuel ptr value num m) ↔
      num ≠ 0 ∧ (charValue signed (charByte value) = value ∨
        charByte value ∉ m.load ptr num.toNat)) ∧
    (FindsByte m str (s.length + 1) (charByte ch) (strchr signed fuel str ch m) ↔
      (charValue signed (charByte ch) = strchrValue s ∧
        charByte ch ∈ (s ++ [0]).take (strchrCount ch)) ∨
      (charByte ch ∉ s ++ [0] ∧ strchrCount ch ≤ s.length + 1 ∧
        ∀ b ∈ (s ++ [0]).take (strchrCount ch), charValue signed b ≠ strchrValue s)) :=
  ⟨findsByte_memchr_iff hfuel ptr num, findsByte_strchr_iff hs hfuel hlength ch⟩

/-- `memchr` with the length 0 reads a byte and finds it, and `strchr ("ab", 'b')` is `NULL`. -/
theorem byteSearch_fails :
    ¬ FindsByte sampleStrings 0 0 97 (memchr true 1 0 97 0 sampleStrings) ∧
      StringAt sampleStrings 4 [97, 98] ∧
      (strchr true 98 4 98 sampleStrings).value = some none ∧
      ¬ FindsByte sampleStrings 4 3 98 (strchr true 98 4 98 sampleStrings) := by
  refine ⟨fun h => ?_, stringAt_ab, by decide, fun h => ?_⟩
  · have hread := h.reads 0 (by decide)
    omega
  · have hresult := h.result
    revert hresult
    decide

/-- `memchr` finds `'b'` in `"aab"`, and `strchr` does not find the character 1 in `"ab"`. -/
theorem byteSearch_sampleStrings :
    FindsByte sampleStrings 0 3 98 (memchr true (2 ^ 64) 0 98 3 sampleStrings) ∧
      FindsByte sampleStrings 4 3 1 (strchr true (2 ^ 64) 4 1 sampleStrings) := by
  obtain ⟨hmemchr, hstrchr⟩ := byteSearch_iff true sampleStrings (2 ^ 64) (Nat.le_refl _) 0 98 3
    4 [97, 98] stringAt_ab (by decide) 1
  exact ⟨hmemchr.mpr (by decide), hstrchr.mpr (by decide +kernel)⟩

end SpdmEmu.Device
