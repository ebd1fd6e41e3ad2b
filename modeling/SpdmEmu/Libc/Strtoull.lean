import Mathlib.Data.List.TakeWhile
import SpdmEmu.Wire.Packed

/-!
# `strtoull` with the base 0

The conversion of C11 (7.22.1.4) in the locale "C": white space is skipped, a sign is taken, and the
longest sequence of digits is read in the base that its first characters name. The result of a
number with a minus sign is its negation as an unsigned number.

`UnsignedNumeral` says what a text without a sign denotes. `converts_iff` relates the two: a text
without a sign is converted completely and in range exactly if it is such a numeral.
-/

set_option autoImplicit false

namespace SpdmEmu.Libc

open SpdmEmu.Wire

/-! ## The conversion -/

/-- `isspace` -/
def isSpace (b : UInt8) : Bool := b == 0x20 || (0x09 ≤ b && b ≤ 0x0D)

/-- The value of a digit or a letter, and 36 for anything else. -/
def digitValue (b : UInt8) : Nat :=
  if 0x30 ≤ b ∧ b ≤ 0x39 then b.toNat - 0x30
  else if 0x61 ≤ b ∧ b ≤ 0x7A then b.toNat - 0x61 + 10
  else if 0x41 ≤ b ∧ b ≤ 0x5A then b.toNat - 0x41 + 10
  else 36

def isDigit (base : Nat) (b : UInt8) : Bool := digitValue b < base

/-- The number that a sequence of digits stands for. -/
def digitsValue (base : Nat) (digits : Bytes) : Nat :=
  digits.foldl (fun n d => n * base + digitValue d) 0

/-- `+` or `-` -/
def isSign (b : UInt8) : Bool := b == 0x2B || b == 0x2D

/-- `x` or `X` -/
def isHexMark (b : UInt8) : Bool := b == 0x78 || b == 0x58

/-- The base of a number without its sign, and the text from its first digit on. -/
def numeralBase : Bytes → Nat × Bytes
  | zero :: mark :: digit :: text =>
      if zero = 0x30 then
        -- the mark belongs to the number only if a digit follows
        if isHexMark mark && isDigit 16 digit then (16, digit :: text)
        else (8, zero :: mark :: digit :: text)
      else (10, zero :: mark :: digit :: text)
  | text => if text.head? = some 0x30 then (8, text) else (10, text)

/-- What `strtoull` returns, the text at `*endptr`, and whether `errno` is `ERANGE`. -/
structure Conversion where
  value : UInt64
  rest : Bytes
  outOfRange : Bool

/-- `strtoull (str, &end, 0)` -/
def strtoull (str : Bytes) : Conversion :=
  let text := str.dropWhile isSpace
  let unsigned := if text.head?.any isSign then text.tail else text
  let numeral := numeralBase unsigned
  let digits := numeral.2.takeWhile (isDigit numeral.1)
  let magnitude := digitsValue numeral.1 digits
  if digits = [] then ⟨0, str, false⟩
  else
    let rest := numeral.2.dropWhile (isDigit numeral.1)
    if 2 ^ 64 ≤ magnitude then ⟨UInt64.ofNat (2 ^ 64 - 1), rest, true⟩
    else if text.head? = some 0x2D then ⟨-UInt64.ofNat magnitude, rest, false⟩
    else ⟨UInt64.ofNat magnitude, rest, false⟩

/-- The caller's test, `end == str || *end != '\0' || errno != 0`, passes, and the value. -/
def Converts (str : Bytes) (value : UInt64) : Prop :=
  (strtoull str).rest ≠ str ∧ (strtoull str).rest = [] ∧ (strtoull str).outOfRange = false ∧
    (strtoull str).value = value

/-! ## Numerals without a sign -/

/-- An integer constant of C, without a suffix. -/
inductive Numeral : Bytes → Nat → Prop
  | hexadecimal {mark : UInt8} {digits : Bytes} (hmark : isHexMark mark = true)
      (hne : digits ≠ []) (hdigits : ∀ d ∈ digits, isDigit 16 d = true) :
      Numeral (0x30 :: mark :: digits) (digitsValue 16 digits)
  | octal {digits : Bytes} (hdigits : ∀ d ∈ digits, isDigit 8 d = true) :
      Numeral (0x30 :: digits) (digitsValue 8 digits)
  | decimal {first : UInt8} {digits : Bytes} (hfirst : first ≠ 0x30)
      (hdigits : ∀ d ∈ first :: digits, isDigit 10 d = true) :
      Numeral (first :: digits) (digitsValue 10 (first :: digits))

/-- An integer constant behind white space. -/
def UnsignedNumeral (str : Bytes) (n : Nat) : Prop := Numeral (str.dropWhile isSpace) n

/-- The text starts with a sign behind its white space. -/
def IsSigned (str : Bytes) : Prop := (str.dropWhile isSpace).head?.any isSign = true

instance (str : Bytes) : Decidable (IsSigned str) := inferInstanceAs (Decidable (_ = true))

/-! ## The base of a numeral -/

/-- The leading zero of an octal number does not count. -/
theorem digitsValue_zero_cons (base : Nat) (digits : Bytes) :
    digitsValue base (0x30 :: digits) = digitsValue base digits := by
  have hzero : 0 * base + digitValue 0x30 = 0 := by
    rw [Nat.zero_mul]
    rfl
  rw [digitsValue, List.foldl_cons, hzero, digitsValue]

/-- The mark of a hexadecimal number is not an octal digit. -/
theorem isHexMark_of_isDigit {b : UInt8} (h : isDigit 8 b = true) : isHexMark b = false := by
  refine Bool.eq_false_of_not_eq_true fun hmark => ?_
  rw [isHexMark, Bool.or_eq_true, beq_iff_eq, beq_iff_eq] at hmark
  rcases hmark with rfl | rfl
  · exact absurd h (by decide)
  · exact absurd h (by decide)

/-- Nothing but digits from the first one on: the text is a numeral. -/
theorem numeral_of_digits {text : Bytes} (hne : (numeralBase text).2 ≠ [])
    (hdigits : ∀ d ∈ (numeralBase text).2, isDigit (numeralBase text).1 d = true) :
    Numeral text (digitsValue (numeralBase text).1 (numeralBase text).2) := by
  fun_cases numeralBase text with
  | case1 mark digit text hhex =>
      rw [numeralBase, if_pos rfl, if_pos hhex] at hdigits
      exact .hexadecimal (Bool.and_eq_true_iff.1 hhex).1 (List.cons_ne_nil _ _) hdigits
  | case2 mark digit text hhex =>
      rw [numeralBase, if_pos rfl, if_neg hhex] at hdigits
      rw [digitsValue_zero_cons]
      exact .octal fun d hd => hdigits d (List.mem_cons_of_mem _ hd)
  | case3 first mark digit text hfirst =>
      rw [numeralBase, if_neg hfirst] at hdigits
      exact .decimal hfirst hdigits
  | case4 text hshort hzero =>
      rw [numeralBase, if_pos hzero] at hdigits
      · obtain ⟨digits, rfl⟩ : ∃ digits, text = 0x30 :: digits := List.head?_eq_some_iff.1 hzero
        rw [digitsValue_zero_cons]
        exact .octal fun d hd => hdigits d (List.mem_cons_of_mem _ hd)
      · exact hshort
  | case5 text hshort hzero =>
      rw [numeralBase, if_neg hzero] at hdigits hne
      · cases text with
        | nil => exact absurd rfl hne
        | cons first digits =>
            exact .decimal (fun heq => hzero (congrArg some heq)) hdigits
      · exact hshort
      · exact hshort

/-- A numeral has nothing but digits from the first one on. -/
theorem Numeral.digits {text : Bytes} {n : Nat} (h : Numeral text n) :
    (numeralBase text).2 ≠ [] ∧
      (∀ d ∈ (numeralBase text).2, isDigit (numeralBase text).1 d = true) ∧
      digitsValue (numeralBase text).1 (numeralBase text).2 = n := by
  cases h with
  | @hexadecimal mark digits hmark hne hdigits =>
      cases digits with
      | nil => exact absurd rfl hne
      | cons d ds =>
          have hhex : (isHexMark mark && isDigit 16 d) = true :=
            Bool.and_eq_true_iff.2 ⟨hmark, hdigits d List.mem_cons_self⟩
          rw [numeralBase, if_pos rfl, if_pos hhex]
          exact ⟨hne, hdigits, rfl⟩
  | @octal digits hdigits =>
      have hbase : numeralBase (0x30 :: digits) = (8, 0x30 :: digits) := by
        match digits, hdigits with
        | [], _ => rfl
        | [_], _ => rfl
        | mark :: digit :: ds, hdigits =>
            have hmark := isHexMark_of_isDigit (hdigits mark List.mem_cons_self)
            rw [numeralBase, if_pos rfl, hmark]
            rfl
      rw [hbase]
      refine ⟨List.cons_ne_nil _ _, fun d hd => ?_, digitsValue_zero_cons 8 digits⟩
      rcases List.mem_cons.1 hd with rfl | hd
      · rfl
      · exact hdigits d hd
  | @decimal first digits hfirst hdigits =>
      have hbase : numeralBase (first :: digits) = (10, first :: digits) := by
        have hhead : (first :: digits).head? ≠ some 0x30 := fun h => hfirst (Option.some.inj h)
        match digits, hhead with
        | [], hhead => exact if_neg hhead
        | [_], hhead => exact if_neg hhead
        | _ :: _ :: _, _ => exact if_neg hfirst
      rw [hbase]
      exact ⟨List.cons_ne_nil _ _, hdigits, rfl⟩

/-- A text is a numeral for one number at most. -/
theorem Numeral.unique {text : Bytes} {m n : Nat} (hm : Numeral text m) (hn : Numeral text n) :
    m = n := hm.digits.2.2.symm.trans hn.digits.2.2

/-- A sign is not a digit. -/
theorem isSign_of_isDigit {base : Nat} {b : UInt8} (hbase : base ≤ 36)
    (h : isDigit base b = true) : isSign b = false := by
  refine Bool.eq_false_of_not_eq_true fun hsign => ?_
  have hlt : digitValue b < 36 := Nat.lt_of_lt_of_le (of_decide_eq_true h) hbase
  rw [isSign, Bool.or_eq_true, beq_iff_eq, beq_iff_eq] at hsign
  rcases hsign with rfl | rfl
  · exact absurd hlt (by decide)
  · exact absurd hlt (by decide)

/-- A numeral does not start with a sign. -/
theorem Numeral.head_not_sign {text : Bytes} {n : Nat} (h : Numeral text n) :
    text.head?.any isSign = false := by
  cases h with
  | hexadecimal => rfl
  | octal => rfl
  | decimal hfirst hdigits => exact isSign_of_isDigit (by omega) (hdigits _ List.mem_cons_self)

theorem UnsignedNumeral.not_isSigned {str : Bytes} {n : Nat} (h : UnsignedNumeral str n) :
    ¬ IsSigned str := fun hsigned => Bool.false_ne_true (h.head_not_sign.symm.trans hsigned)

/-! ## The conversion of a text without a sign -/

/-- Without a sign, the text behind the white space is the number. -/
theorem strtoull_of_not_isSigned {str : Bytes} (h : ¬ IsSigned str) :
    strtoull str =
      let numeral := numeralBase (str.dropWhile isSpace)
      let digits := numeral.2.takeWhile (isDigit numeral.1)
      let rest := numeral.2.dropWhile (isDigit numeral.1)
      if digits = [] then ⟨0, str, false⟩
      else if 2 ^ 64 ≤ digitsValue numeral.1 digits then
        ⟨UInt64.ofNat (2 ^ 64 - 1), rest, true⟩
      else ⟨UInt64.ofNat (digitsValue numeral.1 digits), rest, false⟩ := by
  have hminus : (str.dropWhile isSpace).head? ≠ some 0x2D := fun heq =>
    h (by rw [IsSigned, heq]; rfl)
  have hsign : ¬ (str.dropWhile isSpace).head?.any isSign = true := h
  simp only [strtoull, if_neg hsign, if_neg hminus]

/-- **A text without a sign** is converted completely and in range exactly if it is an integer
constant behind white space, with the value of that constant. -/
theorem converts_iff {str : Bytes} (h : ¬ IsSigned str) (value : UInt64) :
    Converts str value ↔ UnsignedNumeral str value.toNat := by
  rw [Converts, strtoull_of_not_isSigned h, UnsignedNumeral]
  dsimp only
  constructor
  · intro hconverts
    split_ifs at hconverts with hnone hrange
    · exact absurd rfl hconverts.1
    · exact hconverts.2.2.1.elim
    · obtain ⟨-, hrest, -, hvalue⟩ := hconverts
      dsimp only at hrest hvalue
      -- the digits are all that there is
      have hall := List.dropWhile_eq_nil_iff.1 hrest
      have htake := List.takeWhile_eq_self_iff.2 hall
      rw [htake] at hnone hrange hvalue
      have htoNat : value.toNat = digitsValue (numeralBase (str.dropWhile isSpace)).1
          (numeralBase (str.dropWhile isSpace)).2 := by
        rw [← hvalue]
        exact UInt64.toNat_ofNat_of_lt' (Nat.lt_of_not_le hrange)
      rw [htoNat]
      exact numeral_of_digits hnone hall
  · intro hnumeral
    obtain ⟨hne, hall, hvalue⟩ := hnumeral.digits
    have htake := List.takeWhile_eq_self_iff.2 hall
    have hdrop := List.dropWhile_eq_nil_iff.2 hall
    have hrange : ¬ 2 ^ 64 ≤ value.toNat := Nat.not_le_of_lt value.toNat_lt
    have hstr : str ≠ [] := by
      rintro rfl
      exact hne rfl
    rw [htake, hdrop, hvalue, if_neg hne, if_neg hrange]
    exact ⟨hstr.symm, rfl, rfl, UInt64.ofNat_toNat⟩

end SpdmEmu.Libc
