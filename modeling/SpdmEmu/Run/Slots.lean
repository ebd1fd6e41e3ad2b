import Mathlib.Data.Set.Insert
import SpdmEmu.Run.Machine

/-!
# Slots that are filled and started

A device with slots keeps two sets of them: the filled ones and the active ones. An active slot
should be filled. Of the five operations only the start of an empty slot breaks this, so a machine
whose steps are such operations keeps it along a run exactly when no step of the run starts an empty
slot.
-/

set_option autoImplicit false

namespace SpdmEmu.Run

universe u v w x

/-- Which slots are filled, and which are active. -/
@[ext] structure Slots (ι : Type u) where
  filled : Set ι
  active : Set ι

namespace Slots

variable {ι : Type u}

/-- What a step does to the slots. -/
inductive Op (ι : Type u) where
  | idle
  | clear
  | fill (i : ι)
  | start (i : ι)
  | stop (i : ι)

def apply (s : Slots ι) : Op ι → Slots ι
  | .idle => s
  | .clear => ⟨∅, ∅⟩
  | .fill i => { s with filled := insert i s.filled }
  | .start i => { s with active := insert i s.active }
  | .stop i => { s with active := s.active \ {i} }

/-- Every active slot is filled. -/
def Backed (s : Slots ι) : Prop := s.active ⊆ s.filled

/-- The operation starts a slot that is empty. -/
def Op.StartsEmpty (op : Op ι) (s : Slots ι) : Prop := ∃ i, op = .start i ∧ i ∉ s.filled

/-- Only the start of an empty slot leaves an active slot that is not filled. -/
theorem backed_apply_iff {s : Slots ι} (hs : s.Backed) (op : Op ι) :
    (s.apply op).Backed ↔ ¬ op.StartsEmpty s := by
  cases op with
  | idle => simpa [apply, Op.StartsEmpty] using hs
  | clear => simp [apply, Backed, Op.StartsEmpty]
  | fill i => simpa [apply, Backed, Op.StartsEmpty] using hs.trans (Set.subset_insert i s.filled)
  | start i =>
      have hactive : s.active ⊆ s.filled := hs
      simp [apply, Backed, Op.StartsEmpty, Set.insert_subset_iff, hactive]
  | stop i =>
      have hstopped : s.active \ {i} ⊆ s.filled := fun _ hj => hs hj.1
      simpa [apply, Backed, Op.StartsEmpty] using hstopped

/-! ## Slots as vectors of flags -/

/-- A vector after one of its entries was written. -/
theorem get_set {α : Type v} {n : Nat} (v : Vector α n) (k i : Fin n) (a : α) :
    (v.set k a).get i = if i = k then a else v.get i := by
  have h : (v.set k a)[i] = if i = k then a else v[i] := by
    simp only [Fin.getElem_fin, Vector.getElem_set, Fin.ext_iff, eq_comm]
  exact h

/-- The vector with another entry at one index. -/
def setAt {α : Type v} {n : Nat} (v : Vector α n) (k : Fin n) (a : α) : Vector α n := v.set k a

theorem get_setAt {α : Type v} {n : Nat} (v : Vector α n) (k i : Fin n) (a : α) :
    (setAt v k a).get i = if i = k then a else v.get i :=
  get_set v k i a

theorem get_replicate {α : Type v} {n : Nat} (a : α) (i : Fin n) :
    (Vector.replicate n a).get i = a := by
  have h : (Vector.replicate n a)[i] = a := by simp
  exact h

/-- The slots of two vectors of flags. -/
def ofFlags {n : Nat} (filled active : Vector Bool n) : Slots (Fin n) :=
  ⟨{i | filled[i] = true}, {i | active[i] = true}⟩

/-- Without an active slot nothing needs to be filled. -/
theorem backed_ofFlags_replicate {n : Nat} (filled : Vector Bool n) :
    (ofFlags filled (Vector.replicate n false)).Backed := by
  intro i hi
  simp [ofFlags] at hi

section Flags

variable {n : Nat} (filled active : Vector Bool n) (k : Fin n)

theorem ofFlags_fill :
    ofFlags (filled.set k true) active = (ofFlags filled active).apply (.fill k) := by
  ext i
  · show (filled.set k true).get i = true ↔ i = k ∨ filled.get i = true
    rw [get_set]
    by_cases h : i = k <;> simp [h]
  · rfl

theorem ofFlags_start :
    ofFlags filled (active.set k true) = (ofFlags filled active).apply (.start k) := by
  ext i
  · rfl
  · show (active.set k true).get i = true ↔ i = k ∨ active.get i = true
    rw [get_set]
    by_cases h : i = k <;> simp [h]

theorem ofFlags_stop :
    ofFlags filled (active.set k false) = (ofFlags filled active).apply (.stop k) := by
  ext i
  · rfl
  · show (active.set k false).get i = true ↔ active.get i = true ∧ i ≠ k
    rw [get_set]
    by_cases h : i = k <;> simp [h]

theorem ofFlags_clear :
    ofFlags (Vector.replicate n false) (Vector.replicate n false) =
      (ofFlags filled active).apply .clear := by
  ext i <;> simp [ofFlags, apply]

end Flags

end Slots

/-! ## Runs -/

namespace Machine

variable {S : Type u} {I : Type v} {O : Type w} {ι : Type x} (M : Machine S I O)

/-- If a step keeps an invariant exactly when it is not bad, the invariant holds at every state of a
run exactly when no step of the run is bad. -/
theorem forall_prefix_iff_avoids {Inv : S → Prop} {Bad : S → I → Prop}
    (hstep : ∀ s i, Inv s → (Inv (M.step s i).2 ↔ ¬ Bad s i)) {s : S} (hs : Inv s) (is : List I) :
    (∀ js, js <+: is → Inv (M.after s js)) ↔ ∀ e ∈ M.history s is, ¬ Bad e.before e.input := by
  constructor
  · intro h
    induction is generalizing s with
    | nil => simp
    | cons i is ih =>
        have hnext : Inv (M.step s i).2 := h [i] ⟨is, rfl⟩
        rw [history_cons, List.forall_mem_cons]
        refine ⟨(hstep s i hs).1 hnext, ih hnext ?_⟩
        intro js hjs
        exact h (i :: js) (List.prefix_cons_inj i |>.2 hjs)
  · intro h js hjs
    obtain ⟨rest, rfl⟩ := hjs
    induction js generalizing s with
    | nil => exact hs
    | cons i js ih =>
        rw [List.cons_append, history_cons, List.forall_mem_cons] at h
        exact ih ((hstep s i hs).2 h.1) h.2

/-- A machine whose steps are slot operations keeps its active slots filled exactly along the runs
that start no empty slot. -/
theorem backed_run_iff (view : S → Slots ι) (op : S → I → Slots.Op ι)
    (hsim : ∀ s i, view (M.step s i).2 = (view s).apply (op s i)) {s : S}
    (hs : (view s).Backed) (is : List I) :
    (∀ js, js <+: is → (view (M.after s js)).Backed) ↔
      ∀ e ∈ M.history s is, ¬ (op e.before e.input).StartsEmpty (view e.before) := by
  have hstep : ∀ s i, (view s).Backed →
      ((view (M.step s i).2).Backed ↔ ¬ (op s i).StartsEmpty (view s)) := by
    intro s i h
    rw [hsim]
    exact Slots.backed_apply_iff h (op s i)
  exact M.forall_prefix_iff_avoids hstep hs is

end Machine

end SpdmEmu.Run
