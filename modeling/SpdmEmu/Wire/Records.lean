import SpdmEmu.Wire.Packed

/-!
# Streams of records

A log on disk is often a sequence of records, each a header of fixed size that declares how many
bytes of data follow it. A reader finds the next record only by the declared length, so a writer
that puts down more or fewer bytes than it declares shifts every later record.

`RecordFormat` is such a layout, `parse` a reader that accepts a byte string only if it is cut into
records without a rest. `parse_print` is the round trip for records that declare their length, and
`length_of_parse` the accounting in the other direction: whatever is accepted has exactly the bytes
of the records that are returned.
-/

set_option autoImplicit false

namespace SpdmEmu.Wire

universe u

/-- A header and the length it declares for the data after it. -/
structure RecordFormat (H : Type u) where
  header : Packed H
  header_pos : 0 < header.size
  dataLength : H → Nat

namespace RecordFormat

variable {H : Type u} (F : RecordFormat H)

/-- The records of a byte string, or `none` if it ends within one. -/
def parse (bs : Bytes) : Option (List (H × Bytes)) :=
  if bs = [] then some []
  else if bs.length < F.header.size then none
  else if (bs.drop F.header.size).length < F.dataLength (F.header.decode bs) then none
  else
    (parse ((bs.drop F.header.size).drop (F.dataLength (F.header.decode bs)))).map
      ((F.header.decode bs, (bs.drop F.header.size).take (F.dataLength (F.header.decode bs))) :: ·)
termination_by bs.length
decreasing_by
  -- there is a whole header, and it is not empty
  have hsize := F.header_pos
  simp only [List.length_drop]
  omega

/-- The bytes of a record. -/
def printRecord (r : H × Bytes) : Bytes := F.header.encode r.1 ++ r.2

/-- The bytes of records one after the other. -/
def print (rs : List (H × Bytes)) : Bytes := rs.flatMap F.printRecord

@[simp] theorem parse_nil : F.parse [] = some [] := by
  rw [parse, if_pos rfl]

@[simp] theorem print_nil : F.print [] = [] := rfl

@[simp] theorem print_cons (r : H × Bytes) (rs : List (H × Bytes)) :
    F.print (r :: rs) = F.printRecord r ++ F.print rs := rfl

@[simp] theorem length_printRecord (r : H × Bytes) :
    (F.printRecord r).length = F.header.size + r.2.length := by
  rw [printRecord, List.length_append, F.header.length_encode]

/-- A record that declares its length is read off the front of whatever follows it. -/
theorem parse_printRecord_append {r : H × Bytes} (h : r.2.length = F.dataLength r.1)
    (rest : Bytes) : F.parse (F.printRecord r ++ rest) = (F.parse rest).map (r :: ·) := by
  have hsize := F.header_pos
  have hlength : (F.printRecord r ++ rest).length = F.header.size + r.2.length + rest.length := by
    rw [List.length_append, length_printRecord]
  have hne : F.printRecord r ++ rest ≠ [] := List.length_pos_iff.1 (by omega)
  rw [parse, if_neg hne, if_neg (by omega)]
  simp only [printRecord, List.append_assoc, Packed.decode_encode_append,
    Packed.drop_encode_append, ← h]
  rw [if_neg (by rw [List.length_append]; omega), List.take_left, List.drop_left]

/-- **Records that declare their length are read back.** -/
theorem parse_print {rs : List (H × Bytes)} (h : ∀ r ∈ rs, r.2.length = F.dataLength r.1) :
    F.parse (F.print rs) = some rs := by
  induction rs with
  | nil => exact F.parse_nil
  | cons r rs ih =>
      rw [List.forall_mem_cons] at h
      rw [print_cons, F.parse_printRecord_append h.1, ih h.2]
      rfl

/-- **Accounting.** The records that are read make up all of the bytes. -/
theorem length_of_parse {bs : Bytes} {rs : List (H × Bytes)} (h : F.parse bs = some rs) :
    bs.length = (rs.map fun r => F.header.size + r.2.length).sum := by
  -- along the reader: a step takes a header and its data from the front
  induction bs using parse.induct F generalizing rs with
  | case1 =>
      rw [parse_nil, Option.some.injEq] at h
      subst h
      rfl
  | case2 bs hnil hshort =>
      rw [parse, if_neg hnil, if_pos hshort] at h
      cases h
  | case3 bs hnil hlong hshort =>
      rw [parse, if_neg hnil, if_neg hlong, if_pos hshort] at h
      cases h
  | case4 bs hnil hlong henough ih =>
      rw [parse, if_neg hnil, if_neg hlong, if_neg henough, Option.map_eq_some_iff] at h
      obtain ⟨tail, htail, rfl⟩ := h
      have hdropped := ih htail
      simp only [List.length_drop] at hdropped henough
      rw [List.map_cons, List.sum_cons, ← hdropped, List.length_take, List.length_drop]
      omega

end RecordFormat

end SpdmEmu.Wire
