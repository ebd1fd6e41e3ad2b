import Mathlib.Data.List.Basic

/-!
# The last event of a history

A variable that is written by some events of a history has the value of the last of them, and a
reset forgets all that was written before it. `latest` is the last value that a reading of the
events gives, and `sinceReset` is the part of a history after its last reset. Both are used with
their rules for one more event.
-/

set_option autoImplicit false

namespace SpdmEmu.Run

universe u v

variable {α : Type u} {β : Type v}

/-- The value of the last event that has one. -/
def latest (read : α → Option β) (H : List α) : Option β := H.reverse.findSome? read

/-- The events after the last reset, and all of them if there is none. -/
def sinceReset (reset : α → Bool) (H : List α) : List α :=
  (H.reverse.takeWhile fun e => !reset e).reverse

section OneMore

variable {H : List α} {e : α} {read : α → Option β} {reset : α → Bool}

theorem latest_snoc_of_none (h : read e = none) : latest read (H ++ [e]) = latest read H := by
  simp [latest, h]

theorem latest_snoc_of_some {value : β} (h : read e = some value) :
    latest read (H ++ [e]) = some value := by
  simp [latest, h]

theorem sinceReset_snoc_of_reset (h : reset e = true) : sinceReset reset (H ++ [e]) = [] := by
  simp [sinceReset, h]

theorem sinceReset_snoc (h : reset e = false) :
    sinceReset reset (H ++ [e]) = sinceReset reset H ++ [e] := by
  simp [sinceReset, h]

end OneMore

end SpdmEmu.Run
