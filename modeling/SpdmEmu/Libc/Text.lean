import Mathlib.Data.List.TakeWhile
import Mathlib.Data.List.Basic

/-!
# Texts: tokens and numbers

A C string as the list of its characters. `strtok` (C11, 7.24.5.8) skips delimiters, cuts the text
at the next one and keeps what is behind it for the next call; `tokens` is what its calls return one
after the other. `tokens_intercalate` says that joined items come apart again, without the empty
ones.

The conversions of `printf` that are used with numbers are here too.
-/

set_option autoImplicit false

namespace SpdmEmu.Libc

/-- The characters of a C string. -/
abbrev Text := List Char

section Strtok

variable (isDelimiter : Char → Bool)

/-- A call of `strtok` with a text, or with `NULL` and the text that the call before has kept: the
token and the text that is kept. -/
def strtok (text : Text) : Option (Text × Text) :=
  match text.dropWhile isDelimiter with
  | [] => none
  | c :: cs =>
      some ((c :: cs).takeWhile (!isDelimiter ·), ((c :: cs).dropWhile (!isDelimiter ·)).tail)

variable {isDelimiter}

theorem length_lt_of_strtok {text token rest : Text}
    (h : strtok isDelimiter text = some (token, rest)) : rest.length < text.length := by
  have hskip := (List.dropWhile_suffix isDelimiter (l := text)).length_le
  rw [strtok] at h
  cases hdrop : text.dropWhile isDelimiter with
  | nil => simp [hdrop] at h
  | cons c cs =>
      rw [hdrop] at h hskip
      simp only [Option.some.injEq, Prod.mk.injEq] at h
      have hcut := (List.dropWhile_suffix (!isDelimiter ·) (l := c :: cs)).length_le
      rw [← h.2, List.length_tail]
      simp only [List.length_cons] at hcut hskip ⊢
      omega

variable (isDelimiter)

/-- The tokens of a text. -/
def tokens (text : Text) : List Text :=
  match _h : strtok isDelimiter text with
  | none => []
  | some (token, rest) => token :: tokens rest
termination_by text.length
decreasing_by exact length_lt_of_strtok _h

variable {isDelimiter}

theorem tokens_of_none {text : Text} (h : strtok isDelimiter text = none) :
    tokens isDelimiter text = [] := by
  rw [tokens, h]

theorem tokens_of_some {text token rest : Text}
    (h : strtok isDelimiter text = some (token, rest)) :
    tokens isDelimiter text = token :: tokens isDelimiter rest := by
  rw [tokens, h]

/-- A delimiter in front is skipped. -/
theorem tokens_delimiter_cons {c : Char} (hc : isDelimiter c = true) (text : Text) :
    tokens isDelimiter (c :: text) = tokens isDelimiter text := by
  have hsame : strtok isDelimiter (c :: text) = strtok isDelimiter text := by
    rw [strtok, strtok, List.dropWhile_cons_of_pos hc]
  cases h : strtok isDelimiter text with
  | none => rw [tokens_of_none h, tokens_of_none (hsame.trans h)]
  | some found => rw [tokens_of_some h, tokens_of_some (hsame.trans h)]

/-- An item and what may follow it: nothing, or a delimiter. -/
theorem strtok_item {item : Text} (hne : item ≠ []) (hitem : ∀ x ∈ item, isDelimiter x = false)
    {rest : Text} (hrest : ∀ c ∈ rest.head?, isDelimiter c = true) :
    strtok isDelimiter (item ++ rest) = some (item, rest.tail) := by
  have hall : ∀ x ∈ item, (!isDelimiter x) = true := by simpa using hitem
  have htake : rest.takeWhile (!isDelimiter ·) = [] := by
    cases rest with
    | nil => rfl
    | cons c cs => simp [hrest c rfl]
  have hdrop : rest.dropWhile (!isDelimiter ·) = rest := by
    cases rest with
    | nil => rfl
    | cons c cs => simp [hrest c rfl]
  obtain ⟨x, xs, rfl⟩ := List.exists_cons_of_ne_nil hne
  have hx := hitem x List.mem_cons_self
  rw [strtok, List.cons_append, List.dropWhile_cons_of_neg (by simp [hx])]
  dsimp only
  rw [← List.cons_append, List.takeWhile_append_of_pos hall, List.dropWhile_append_of_pos hall,
    htake, hdrop, List.append_nil]

/-- The tokens of an item, which is one token unless it is empty, and of what follows. -/
theorem tokens_item_append {item : Text} (hitem : ∀ x ∈ item, isDelimiter x = false) {c : Char}
    (hc : isDelimiter c = true) (rest : Text) :
    tokens isDelimiter (item ++ c :: rest) =
      [item].filter (· ≠ []) ++ tokens isDelimiter rest := by
  by_cases hne : item = []
  · subst hne
    simpa using tokens_delimiter_cons hc rest
  · rw [tokens_of_some (strtok_item hne hitem (by simpa using hc))]
    simp [hne]

theorem tokens_item {item : Text} (hitem : ∀ x ∈ item, isDelimiter x = false) :
    tokens isDelimiter item = [item].filter (· ≠ []) := by
  by_cases hne : item = []
  · subst hne
    rw [tokens_of_none rfl]
    rfl
  · have h : strtok isDelimiter (item ++ []) = some (item, [].tail) :=
      strtok_item hne hitem (by simp)
    rw [List.append_nil] at h
    rw [tokens_of_some h, List.tail_nil, tokens_of_none rfl]
    simp [hne]

theorem intercalate_cons_cons (c : Char) (item next : Text) (items : List Text) :
    [c].intercalate (item :: next :: items) = item ++ c :: [c].intercalate (next :: items) := by
  simp [List.intercalate]

/-- One more item at the end, with a separator unless it is the first. -/
theorem intercalate_concat (c : Char) (items : List Text) (item : Text) :
    [c].intercalate (items ++ [item]) =
      [c].intercalate items ++ (if items.isEmpty then [] else [c]) ++ item := by
  induction items with
  | nil => simp [List.intercalate]
  | cons first items ih =>
      cases items with
      | nil => simp [List.intercalate]
      | cons next items =>
          rw [List.cons_append, List.cons_append, intercalate_cons_cons, ← List.cons_append, ih,
            intercalate_cons_cons]
          simp

/-- **Items that were joined come apart**, and empty ones are lost. -/
theorem tokens_intercalate {c : Char} (hc : isDelimiter c = true) {items : List Text}
    (hitems : ∀ item ∈ items, ∀ x ∈ item, isDelimiter x = false) :
    tokens isDelimiter ([c].intercalate items) = items.filter (· ≠ []) := by
  induction items with
  | nil =>
      rw [tokens_of_none rfl]
      rfl
  | cons item items ih =>
      have hitem := hitems item List.mem_cons_self
      have hrest := ih fun other hother => hitems other (List.mem_cons_of_mem item hother)
      cases items with
      | nil =>
          have hjoin : [c].intercalate [item] = item := by simp [List.intercalate]
          rw [hjoin, tokens_item hitem]
      | cons next items =>
          rw [intercalate_cons_cons, tokens_item_append hitem hc, hrest, ← List.filter_append,
            List.singleton_append]

end Strtok

/-! ## Numbers -/

/-- `%0wx` for a number of at most `w` digits. -/
def hexText (w n : Nat) : Text :=
  (List.range w).reverse.map fun i => Nat.digitChar ((n >>> (4 * i)) % 16)

/-- `%u` and, for a number that is not negative, `%d`. -/
def decimalText (n : Nat) : Text := Nat.toDigits 10 n

def isHexDigit (c : Char) : Bool :=
  c.isDigit || ('a' ≤ c && c ≤ 'f') || ('A' ≤ c && c ≤ 'F')

/-- `0x` and some hexadecimal digits. -/
def isHexLiteral : Text → Bool
  | '0' :: 'x' :: digits => !digits.isEmpty && digits.all isHexDigit
  | _ => false

theorem isHexDigit_digitChar {n : Nat} (h : n < 16) : isHexDigit (Nat.digitChar n) = true := by
  have hall : ∀ i : Fin 16, isHexDigit (Nat.digitChar i) = true := by decide
  exact hall ⟨n, h⟩

theorem isHexDigit_of_mem_hexText {w n : Nat} {c : Char} (hc : c ∈ hexText w n) :
    isHexDigit c = true := by
  obtain ⟨i, -, rfl⟩ := List.mem_map.mp hc
  exact isHexDigit_digitChar (Nat.mod_lt _ (by decide))

theorem isHexLiteral_hexText {w : Nat} (hw : 0 < w) (n : Nat) :
    isHexLiteral ('0' :: 'x' :: hexText w n) = true := by
  have hne : hexText w n ≠ [] := by
    intro h
    have := congrArg List.length h
    simp [hexText] at this
    omega
  simp only [isHexLiteral, Bool.and_eq_true, Bool.not_eq_true', List.isEmpty_eq_false_iff,
    List.all_eq_true]
  exact ⟨hne, fun c hc => isHexDigit_of_mem_hexText hc⟩

end SpdmEmu.Libc
