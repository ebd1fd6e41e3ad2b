import Mathlib.Data.List.Forall2

/-!
# Machines, runs and histories

A request handler with a global state is a function from a state and an input to an output and the
next state. This module collects what a verification of such handlers uses again and again: the
state after a list of inputs, the history of a run with one event for each input, the rule that
lifts an invariant of one step to every event of every run, the statement that something holds
since some event, and the rule for two runs that stay related.
-/

set_option autoImplicit false

namespace SpdmEmu.Run

universe u v w x y

/-- A deterministic machine with inputs. -/
structure Machine (S : Type u) (I : Type v) (O : Type w) where
  step : S → I → O × S

/-- One step of a run: the state before, the input, the output and the state after. -/
structure Event (S : Type u) (I : Type v) (O : Type w) where
  before : S
  input : I
  output : O
  after : S

namespace Machine

variable {S : Type u} {I : Type v} {O : Type w} (M : Machine S I O)

/-- The event of one step. -/
def event (s : S) (i : I) : Event S I O := ⟨s, i, (M.step s i).1, (M.step s i).2⟩

/-- The state after a list of inputs. -/
def after : S → List I → S
  | s, [] => s
  | s, i :: is => after (M.step s i).2 is

/-- The events of a run, in order. -/
def history : S → List I → List (Event S I O)
  | _, [] => []
  | s, i :: is => M.event s i :: history (M.step s i).2 is

/-- The outputs of a run, in order. -/
def outputs (s : S) (is : List I) : List O := (M.history s is).map (·.output)

@[simp] theorem after_cons (s : S) (i : I) (is : List I) :
    M.after s (i :: is) = M.after (M.step s i).2 is := rfl

@[simp] theorem history_nil (s : S) : M.history s [] = [] := rfl

@[simp] theorem history_cons (s : S) (i : I) (is : List I) :
    M.history s (i :: is) = M.event s i :: M.history (M.step s i).2 is := rfl

@[simp] theorem outputs_nil (s : S) : M.outputs s [] = [] := rfl

@[simp] theorem outputs_cons (s : S) (i : I) (is : List I) :
    M.outputs s (i :: is) = (M.step s i).1 :: M.outputs (M.step s i).2 is := rfl

theorem after_append (s : S) (is js : List I) :
    M.after s (is ++ js) = M.after (M.after s is) js := by
  induction is generalizing s with
  | nil => rfl
  | cons i is ih => exact ih (M.step s i).2

theorem history_append (s : S) (is js : List I) :
    M.history s (is ++ js) = M.history s is ++ M.history (M.after s is) js := by
  induction is generalizing s with
  | nil => rfl
  | cons i is ih =>
      rw [List.cons_append, history_cons, ih, history_cons, List.cons_append, after_cons]

/-- Every event of a run is the step of the machine at the state reached before it. -/
theorem event_of_getElem? {s : S} {is : List I} {j : Nat} {e : Event S I O}
    (h : (M.history s is)[j]? = some e) :
    e = M.event (M.after s (is.take j)) e.input ∧
      (M.history s is).take j = M.history s (is.take j) := by
  -- the position moves down the run together with the state it is reached from
  induction is generalizing s j with
  | nil => simp at h
  | cons i is ih =>
      cases j with
      | zero =>
          simp only [history_cons, List.getElem?_cons_zero, Option.some.injEq] at h
          subst h
          exact ⟨rfl, rfl⟩
      | succ j =>
          simp only [history_cons, List.getElem?_cons_succ] at h
          obtain ⟨he, htake⟩ := ih h
          refine ⟨he, ?_⟩
          simp only [history_cons, List.take_succ_cons, htake]

/-- Every event of a run has one of its inputs. -/
theorem input_mem_of_mem_history {s : S} {is : List I} {e : Event S I O}
    (h : e ∈ M.history s is) : e.input ∈ is := by
  induction is generalizing s with
  | nil => cases h
  | cons i is ih =>
      rcases List.mem_cons.1 h with rfl | h
      · exact List.mem_cons_self
      · exact List.mem_cons_of_mem i (ih h)

/-! ## Invariants -/

/-- An invariant of every step holds after every run. -/
theorem invariant_after (Inv : S → Prop) (hstep : ∀ s i, Inv s → Inv (M.step s i).2) {s : S}
    (hs : Inv s) (is : List I) : Inv (M.after s is) := by
  induction is generalizing s with
  | nil => exact hs
  | cons i is ih => exact ih (hstep s i hs)

/-- An invariant kept by the steps whose events satisfy `P` holds after every run whose events all
satisfy `P`. -/
theorem invariant_after_of_events (Inv : S → Prop) {P : Event S I O → Prop}
    (hstep : ∀ s i, Inv s → P (M.event s i) → Inv (M.step s i).2) {s : S} (hs : Inv s)
    {is : List I} (hP : ∀ e ∈ M.history s is, P e) : Inv (M.after s is) := by
  induction is generalizing s with
  | nil => exact hs
  | cons i is ih =>
      rw [history_cons, List.forall_mem_cons] at hP
      exact ih (hstep s i hs hP.1) hP.2

/-- What one step guarantees at every state that satisfies an invariant holds of every event of
every run that starts in the invariant. -/
theorem forall_history (Inv : S → Prop) {P : Event S I O → Prop}
    (hstep : ∀ s i, Inv s → Inv (M.step s i).2) (hP : ∀ s i, Inv s → P (M.event s i)) {s : S}
    (hs : Inv s) (is : List I) : ∀ e ∈ M.history s is, P e := by
  induction is generalizing s with
  | nil => simp
  | cons i is ih =>
      intro e he
      rw [history_cons, List.mem_cons] at he
      rcases he with rfl | he
      · exact hP s i hs
      · exact ih (hstep s i hs) e he

/-- An invariant between the history so far and the state, kept when a step on an input in `Ok`
appends its event, holds after every run on such inputs. -/
theorem invariant_history_of_inputs {Ok : I → Prop} (P : List (Event S I O) → S → Prop)
    (hstep : ∀ H s i, Ok i → P H s → P (H ++ [M.event s i]) (M.step s i).2) {s : S} (hs : P [] s)
    {is : List I} (hok : ∀ i ∈ is, Ok i) : P (M.history s is) (M.after s is) := by
  -- events are appended at the end, so the induction carries the history before the run
  have hgen : ∀ (is : List I) (H : List (Event S I O)) (s : S), (∀ i ∈ is, Ok i) → P H s →
      P (H ++ M.history s is) (M.after s is) := by
    intro is
    induction is with
    | nil =>
        intro H s _ h
        rwa [history_nil, List.append_nil]
    | cons i is ih =>
        intro H s hok h
        rw [List.forall_mem_cons] at hok
        have hnext := ih (H ++ [M.event s i]) (M.step s i).2 hok.2 (hstep H s i hok.1 h)
        rwa [List.append_assoc, List.singleton_append] at hnext
  exact hgen is [] s hok hs

/-- An invariant between the history so far and the state, kept when a step appends its event, holds
after every run. -/
theorem invariant_history (P : List (Event S I O) → S → Prop)
    (hstep : ∀ H s i, P H s → P (H ++ [M.event s i]) (M.step s i).2) {s : S} (hs : P [] s)
    (is : List I) : P (M.history s is) (M.after s is) := by
  have hok : ∀ i ∈ is, (fun _ => True) i := fun _ _ => trivial
  exact M.invariant_history_of_inputs P (fun H s i _ h => hstep H s i h) hs hok

end Machine

/-! ## Since an event -/

/-- Some event of the history has `Q`, and every later one has `R`. -/
def Since {α : Type u} (H : List α) (Q R : α → Prop) : Prop :=
  ∃ (i : Nat) (l : α), H[i]? = some l ∧ Q l ∧
    ∀ (k : Nat) (x : α), i < k → H[k]? = some x → R x

namespace Since

variable {α : Type u} {H : List α} {Q R : α → Prop} {e : α}

/-- The last event has no later one. -/
theorem last (hQ : Q e) : Since (H ++ [e]) Q R := by
  refine ⟨H.length, e, by simp, hQ, ?_⟩
  intro k x hk hx
  have hlen := (List.getElem?_eq_some_iff.1 hx).1
  simp only [List.length_append, List.length_singleton] at hlen
  omega

/-- One more event with `R`. -/
theorem snoc (h : Since H Q R) (hR : R e) : Since (H ++ [e]) Q R := by
  obtain ⟨i, l, hi, hQ, hlater⟩ := h
  have hilt : i < H.length := (List.getElem?_eq_some_iff.1 hi).1
  refine ⟨i, l, by rw [List.getElem?_append_left hilt, hi], hQ, ?_⟩
  intro k x hik hk
  -- a later event is one of the old history or the appended one
  rcases Nat.lt_or_ge k H.length with hlt | hge
  · rw [List.getElem?_append_left hlt] at hk
    exact hlater k x hik hk
  · rw [List.getElem?_append_right hge] at hk
    have hx : x = e := List.mem_singleton.1 (List.mem_of_getElem? hk)
    rw [hx]
    exact hR

/-- With one more event, it is the event looked for, or it keeps what held since an earlier one. -/
theorem snoc_iff : Since (H ++ [e]) Q R ↔ Q e ∨ Since H Q R ∧ R e := by
  constructor
  · rintro ⟨i, l, hi, hQ, hlater⟩
    rcases Nat.lt_or_ge i H.length with hlt | hge
    · right
      rw [List.getElem?_append_left hlt] at hi
      refine ⟨⟨i, l, hi, hQ, fun k x hik hk => ?_⟩, hlater H.length e hlt (by simp)⟩
      have hklt := (List.getElem?_eq_some_iff.1 hk).1
      exact hlater k x hik (by rw [List.getElem?_append_left hklt, hk])
    · left
      rw [List.getElem?_append_right hge] at hi
      rw [List.mem_singleton.1 (List.mem_of_getElem? hi)] at hQ
      exact hQ
  · rintro (hQ | ⟨h, hR⟩)
    · exact last hQ
    · exact h.snoc hR

theorem imp {Q' : α → Prop} (h : Since H Q R) (hQ : ∀ l, Q l → Q' l) : Since H Q' R := by
  obtain ⟨i, l, hi, hl, hlater⟩ := h
  exact ⟨i, l, hi, hQ l hl, hlater⟩

/-- Two statements about the last event of one kind are about the same event. -/
theorem same {Q' R' : α → Prop} (h : Since H Q R) (h' : Since H Q' R') (hQ : ∀ l, Q l → ¬ R' l)
    (hQ' : ∀ l, Q' l → ¬ R l) : ∃ l ∈ H, Q l ∧ Q' l := by
  obtain ⟨i, l, hi, hl, hlater⟩ := h
  obtain ⟨j, m, hj, hm, hlater'⟩ := h'
  rcases Nat.lt_trichotomy i j with hij | rfl | hij
  · exact absurd (hlater j m hij hj) (hQ' m hm)
  · have hlm : l = m := Option.some.inj (hi.symm.trans hj)
    exact ⟨l, List.mem_of_getElem? hi, hl, hlm ▸ hm⟩
  · exact absurd (hlater' i l hij hi) (hQ l hl)

end Since

/-! ## Two runs side by side -/

namespace Machine

variable {S : Type u} {I : Type v} {O : Type w} (M : Machine S I O)

/-- A run whose inputs all leave the state alone answers each input by itself. -/
theorem run_of_fixed {s : S} {is : List I} (f : I → O) (h : ∀ i ∈ is, M.step s i = (f i, s)) :
    M.outputs s is = is.map f ∧ M.after s is = s := by
  induction is with
  | nil => exact ⟨rfl, rfl⟩
  | cons i is ih =>
      rw [List.forall_mem_cons] at h
      obtain ⟨houtputs, hafter⟩ := ih h.2
      rw [outputs_cons, after_cons, h.1, List.map_cons]
      exact ⟨by rw [houtputs], hafter⟩

/-- If related inputs at related states give equal outputs and related states, then runs on
pointwise related inputs from related states give equal outputs. -/
theorem outputs_eq_of_related {T : Type x} {J : Type y} (N : Machine T J O)
    {R : S → T → Prop} {Q : I → J → Prop}
    (hstep : ∀ s t i j, R s t → Q i j →
      (M.step s i).1 = (N.step t j).1 ∧ R (M.step s i).2 (N.step t j).2)
    {s : S} {t : T} (hst : R s t) {is : List I} {js : List J} (hij : List.Forall₂ Q is js) :
    M.outputs s is = N.outputs t js := by
  induction hij generalizing s t with
  | nil => rfl
  | cons hq _ ih =>
      obtain ⟨hout, hnext⟩ := hstep _ _ _ _ hst hq
      rw [outputs_cons, outputs_cons, hout, ih hnext]

/-- Two machines over one state type that take the same steps outside `Bad` and answer differently
on every step in `Bad` give equal outputs on exactly the runs that avoid `Bad`. -/
theorem outputs_eq_iff_avoids (N : Machine S I O) (Bad : S → I → Prop)
    (hgood : ∀ s i, ¬ Bad s i → M.step s i = N.step s i)
    (hbad : ∀ s i, Bad s i → (M.step s i).1 ≠ (N.step s i).1) (s : S) (is : List I) :
    M.outputs s is = N.outputs s is ↔ ∀ e ∈ M.history s is, ¬ Bad e.before e.input := by
  induction is generalizing s with
  | nil => simp
  | cons i is ih =>
      simp only [outputs_cons, history_cons, List.cons.injEq, List.forall_mem_cons]
      -- a bad step shows in its own output; a good one leaves both machines in the same state
      by_cases h : Bad s i
      · simp only [event, h, not_true_eq_false, false_and, iff_false]
        exact fun heq => hbad s i h heq.1
      · rw [← hgood s i h, ih]
        simp [event, h]

end Machine

end SpdmEmu.Run
