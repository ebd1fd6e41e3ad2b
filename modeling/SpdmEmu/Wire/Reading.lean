import SpdmEmu.Wire.Memory

/-!
# Computations that read a memory

A C function that walks a buffer can read past its end. `Reading α` is a computation over a memory
that records every address it reads, so that "no byte outside is read" is a statement about the
record. A loop takes fuel; a computation that runs out of it has no value.

`Meets` is total correctness: the computation has a value with a postcondition, and it reads only
addresses of a given set. Its rules follow the ways to build a computation, the one for a loop takes
an invariant and a measure.
-/

set_option autoImplicit false

namespace SpdmEmu.Wire

variable {α β S R : Type}

/-- How a computation ends: its value, unless it ran out of fuel, and the addresses it read. -/
structure Traced (α : Type) where
  value : Option α
  reads : List Nat

/-- A computation over a memory. -/
def Reading (α : Type) := Mem → Traced α

namespace Reading

/-- No address is read. -/
def pure (a : α) : Reading α := fun _ => ⟨some a, []⟩

/-- The second computation runs if the first one has a value. -/
def bind (x : Reading α) (f : α → Reading β) : Reading β := fun m =>
  match (x m).value with
  | none => ⟨none, (x m).reads⟩
  | some a => ⟨(f a m).value, (x m).reads ++ (f a m).reads⟩

instance : Monad Reading where
  pure := pure
  bind := bind

/-- `*address` -/
def read (address : Nat) : Reading UInt8 := fun m => ⟨some (m address), [address]⟩

/-- The structure at an address, read as a whole. -/
def readAs (p : Packed α) (address : Nat) : Reading α := fun m =>
  ⟨some (p.decode (m.load address p.size)), List.range' address p.size⟩

/-- A loop whose body ends with a result or with the state of the next pass. -/
def loop (body : S → Reading (R ⊕ S)) : Nat → S → Reading R
  | 0, _ => fun _ => ⟨none, []⟩
  | fuel + 1, s => do
      match ← body s with
      | .inl r => return r
      | .inr s' => loop body fuel s'

/-- A pass of `for (index = 0; index < bound; index++)` over items that are read. -/
def forPass (bound : Reading Nat) (item : Nat → Reading α) :
    Nat × List α → Reading (List α ⊕ (Nat × List α))
  | (index, items) => do
      let n ← bound
      if index < n then
        let a ← item index
        return .inr (index + 1, items ++ [a])
      else return .inl items

/-- The items below the bound, in order; the bound is read again before each of them. -/
def forBelow (bound : Reading Nat) (item : Nat → Reading α) (fuel : Nat) : Reading (List α) :=
  loop (forPass bound item) fuel (0, [])

/-! ## Runs -/

@[simp] theorem run_pure (a : α) (m : Mem) : (Pure.pure a : Reading α) m = ⟨some a, []⟩ := rfl

@[simp] theorem run_read (address : Nat) (m : Mem) :
    read address m = ⟨some (m address), [address]⟩ := rfl

/-- A computation with a value hands it on, and the reads are those of both parts. -/
theorem run_bind {x : Reading α} {m : Mem} {a : α} {reads : List Nat}
    (h : x m = ⟨some a, reads⟩) (f : α → Reading β) :
    (x >>= f) m = ⟨(f a m).value, reads ++ (f a m).reads⟩ := by
  show bind x f m = _
  simp only [bind, h]

@[simp] theorem run_read_bind (address : Nat) (f : UInt8 → Reading β) (m : Mem) :
    (read address >>= f) m = ⟨(f (m address) m).value, address :: (f (m address) m).reads⟩ := rfl

theorem run_readAs_bind (p : Packed α) (address : Nat) (f : α → Reading β) (m : Mem) :
    (readAs p address >>= f) m =
      ⟨(f (p.decode (m.load address p.size)) m).value,
        List.range' address p.size ++ (f (p.decode (m.load address p.size)) m).reads⟩ := rfl

/-- A pass that ends the loop. -/
theorem run_loop_inl {body : S → Reading (R ⊕ S)} {m : Mem} {s : S} {r : R} {reads : List Nat}
    (h : body s m = ⟨some (.inl r), reads⟩) (fuel : Nat) :
    loop body (fuel + 1) s m = ⟨some r, reads⟩ := by
  rw [loop, run_bind h]
  simp only [run_pure, List.append_nil]

/-- A pass that goes on. -/
theorem run_loop_inr {body : S → Reading (R ⊕ S)} {m : Mem} {s s' : S} {reads : List Nat}
    (h : body s m = ⟨some (.inr s'), reads⟩) (fuel : Nat) :
    loop body (fuel + 1) s m =
      ⟨(loop body fuel s' m).value, reads ++ (loop body fuel s' m).reads⟩ := by
  rw [loop, run_bind h]

section ForBelow

variable {bound : Reading Nat} {item : Nat → Reading α} {m : Mem} {n : Nat} {boundReads : List Nat}
  {value : Nat → α} {itemReads : Nat → List Nat}

/-- The loop from an index on. -/
theorem run_forPass_loop (hbound : bound m = ⟨some n, boundReads⟩)
    (hitem : ∀ i < n, item i m = ⟨some (value i), itemReads i⟩) {fuel index k : Nat}
    (hk : index + k = n) (hfuel : k < fuel) (items : List α) :
    loop (forPass bound item) fuel (index, items) m =
      ⟨some (items ++ (List.range' index k).map value),
        (List.range' index k).flatMap (fun i => boundReads ++ itemReads i) ++ boundReads⟩ := by
  induction k generalizing index items fuel with
  | zero =>
      obtain ⟨fuel, rfl⟩ : ∃ j, fuel = j + 1 := ⟨fuel - 1, by omega⟩
      have hpass : forPass bound item (index, items) m = ⟨some (.inl items), boundReads⟩ := by
        rw [forPass, run_bind hbound, if_neg (by omega)]
        simp
      rw [run_loop_inl hpass]
      simp
  | succ k ih =>
      obtain ⟨fuel, rfl⟩ : ∃ j, fuel = j + 1 := ⟨fuel - 1, by omega⟩
      have hpass : forPass bound item (index, items) m =
          ⟨some (.inr (index + 1, items ++ [value index])), boundReads ++ itemReads index⟩ := by
        rw [forPass, run_bind hbound, if_pos (by omega), run_bind (hitem index (by omega))]
        simp
      rw [run_loop_inr hpass, ih (by omega) (by omega)]
      simp [List.range'_succ]

/-- **A counting loop**: its items, and what it has read. -/
theorem run_forBelow (hbound : bound m = ⟨some n, boundReads⟩)
    (hitem : ∀ i < n, item i m = ⟨some (value i), itemReads i⟩) {fuel : Nat} (hfuel : n < fuel) :
    forBelow bound item fuel m =
      ⟨some ((List.range n).map value),
        (List.range n).flatMap (fun i => boundReads ++ itemReads i) ++ boundReads⟩ := by
  rw [forBelow, run_forPass_loop hbound hitem (Nat.zero_add n) hfuel, List.range_eq_range']
  rfl

end ForBelow

/-! ## Total correctness -/

/-- From the memory `m`, the computation reads addresses of `inside` only and has a value with the
postcondition. -/
structure Meets (inside : Nat → Prop) (m : Mem) (x : Reading α) (post : α → Prop) : Prop where
  returns : ∃ a, (x m).value = some a ∧ post a
  reads : ∀ i ∈ (x m).reads, inside i

namespace Meets

variable {inside : Nat → Prop} {m : Mem} {post : α → Prop}

theorem pure {a : α} (h : post a) : Meets inside m (Pure.pure a) post :=
  ⟨⟨a, rfl, h⟩, by simp⟩

theorem read_bind {address : Nat} {f : UInt8 → Reading α} (hread : inside address)
    (h : Meets inside m (f (m address)) post) : Meets inside m (read address >>= f) post := by
  refine ⟨h.returns, ?_⟩
  intro i hi
  rcases List.mem_cons.mp hi with rfl | hi
  · exact hread
  · exact h.reads i hi

theorem readAs_bind {p : Packed β} {address : Nat} {f : β → Reading α}
    (hread : ∀ i, address ≤ i → i < address + p.size → inside i)
    (h : Meets inside m (f (p.decode (m.load address p.size))) post) :
    Meets inside m (readAs p address >>= f) post := by
  refine ⟨h.returns, ?_⟩
  intro i hi
  rw [run_readAs_bind] at hi
  rcases List.mem_append.mp hi with hi | hi
  · obtain ⟨hlow, hhigh⟩ := List.mem_range'_1.mp hi
    exact hread i hlow hhigh
  · exact h.reads i hi

theorem bind {x : Reading β} {mid : β → Prop} {f : β → Reading α} (hx : Meets inside m x mid)
    (hf : ∀ b, mid b → Meets inside m (f b) post) : Meets inside m (x >>= f) post := by
  obtain ⟨⟨b, hb, hmid⟩, hreads⟩ := hx
  have hrun := run_bind (show x m = ⟨some b, (x m).reads⟩ from hb ▸ rfl) f
  constructor
  · rw [hrun]
    exact (hf b hmid).returns
  · intro i hi
    rw [hrun] at hi
    rcases List.mem_append.mp hi with hi | hi
    · exact hreads i hi
    · exact (hf b hmid).reads i hi

/-- Each pass ends with the postcondition, or keeps the invariant and lowers the measure. -/
theorem loop {body : S → Reading (R ⊕ S)} {post : R → Prop} (inv : S → Prop) (μ : S → Nat)
    (hbody : ∀ s, inv s →
      Meets inside m (body s) (Sum.elim post fun s' => inv s' ∧ μ s' < μ s)) {s : S} (hs : inv s)
    {fuel : Nat} (hfuel : μ s < fuel) : Meets inside m (loop body fuel s) post := by
  induction fuel generalizing s with
  | zero => omega
  | succ fuel ih =>
      refine bind (hbody s hs) ?_
      rintro (r | s') h
      · exact pure h
      · exact ih h.1 (by have := h.2; omega)

end Meets

end Reading

end SpdmEmu.Wire
