import Mathlib.Logic.Basic

/-!
# Programs that return early

A C function that calls others one after the other and returns at the first error is a computation
over a state that goes on with a value or ends with a result. The state is kept either way: what was
done before the return stays done. `Flow` is the monad of such functions, and `Flow.Triple` has the
rules of pre- and postconditions for them, with one postcondition for going on and one for an early
return.
-/

set_option autoImplicit false

namespace SpdmEmu.Run

/-- A computation with state `σ` that goes on with a value of `α` or returns early with an `ε`. -/
def Flow (σ ε α : Type) : Type := σ → Except ε α × σ

namespace Flow

variable {σ ε δ α β : Type}

/-- One computation after the other; an early return skips the second. -/
def andThen (x : Flow σ ε α) (f : α → Flow σ ε β) : Flow σ ε β := fun s =>
  match x s with
  | (.ok a, s) => f a s
  | (.error e, s) => (.error e, s)

instance : Monad (Flow σ ε) where
  pure a := fun s => (.ok a, s)
  bind := andThen

instance : LawfulMonad (Flow σ ε) :=
  LawfulMonad.mk' (m := Flow σ ε)
    (fun x => by
      funext s
      show andThen x (fun a => pure (id a)) s = x s
      unfold andThen
      rcases x s with ⟨_ | a, s'⟩ <;> rfl)
    (fun _ _ => rfl)
    (fun x f g => by
      funext s
      show andThen (andThen x f) g s = andThen x (fun a => andThen (f a) g) s
      unfold andThen
      rcases x s with ⟨_ | a, s'⟩ <;> rfl)

/-- Return early. -/
def fail (e : ε) : Flow σ ε α := fun s => (.error e, s)

/-- Return early unless a condition holds. -/
def check (b : Bool) (e : ε) : Flow σ ε Unit := if b then pure () else fail e

/-- A computation on a condition. -/
def when (b : Bool) (x : Flow σ ε Unit) : Flow σ ε Unit := if b then x else pure ()

/-- A computation whose early returns are the caller's in another form. -/
def mapError (f : ε → δ) (x : Flow σ ε α) : Flow σ δ α := fun s =>
  match x s with
  | (.ok a, s) => (.ok a, s)
  | (.error e, s) => (.error (f e), s)

/-- A computation beside another part of the state. -/
def beside {τ : Type} (x : Flow σ ε α) : Flow (σ × τ) ε α := fun s =>
  ((x s.1).1, ((x s.1).2, s.2))

/-- An assignment. -/
def modify (f : σ → σ) : Flow σ ε Unit := fun s => (.ok (), f s)

/-- The same call for one element after the other. -/
def forEach (f : α → Flow σ ε Unit) : List α → Flow σ ε Unit
  | [] => pure ()
  | a :: as => do
      f a
      forEach f as

theorem bind_of_ok {x : Flow σ ε α} {s s' : σ} {a : α} (h : x s = (.ok a, s'))
    (f : α → Flow σ ε β) : (x >>= f) s = f a s' := by
  show andThen x f s = _
  rw [andThen, h]

theorem bind_of_error {x : Flow σ ε α} {s s' : σ} {e : ε} (h : x s = (.error e, s'))
    (f : α → Flow σ ε β) : (x >>= f) s = (.error e, s') := by
  show andThen x f s = _
  rw [andThen, h]

theorem beside_of_ok {τ : Type} {x : Flow σ ε α} {s s' : σ} {a : α} (h : x s = (.ok a, s'))
    (t : τ) : x.beside (s, t) = (.ok a, (s', t)) := by
  rw [beside, h]

theorem beside_of_error {τ : Type} {x : Flow σ ε α} {s s' : σ} {e : ε} (h : x s = (.error e, s'))
    (t : τ) : x.beside (s, t) = (.error e, (s', t)) := by
  rw [beside, h]

/-- A value that is changed at the end. -/
theorem bind_pure_run (x : Flow σ ε α) (g : α → β) (s : σ) :
    (x >>= fun a => pure (g a)) s = ((x s).1.map g, (x s).2) := by
  show andThen x _ s = _
  unfold andThen
  rcases x s with ⟨_ | a, s'⟩ <;> rfl

/-- A first part whose value is not used can be replaced by one that differs in the value only. -/
theorem bind_const_congr {γ : Type} {x : Flow σ ε α} {y : Flow σ ε β}
    (hstate : ∀ s, (x s).2 = (y s).2)
    (hresult : ∀ s, (x s).1.map (fun _ => ()) = (y s).1.map (fun _ => ()))
    (next : Flow σ ε γ) : (x >>= fun _ => next) = (y >>= fun _ => next) := by
  funext s
  have hs := hstate s
  have hr := hresult s
  show andThen x (fun _ => next) s = andThen y (fun _ => next) s
  unfold andThen
  rcases hx : x s with ⟨_ | a, s₁⟩ <;> rcases hy : y s with ⟨_ | b, s₂⟩ <;>
    simp_all [Except.map]

/-- A sequence that goes on to its end has gone on in both parts. -/
theorem of_bind_ok {x : Flow σ ε α} {f : α → Flow σ ε β} {s s' : σ} {b : β}
    (h : (x >>= f) s = (.ok b, s')) :
    ∃ a s₁, x s = (.ok a, s₁) ∧ f a s₁ = (.ok b, s') := by
  rcases hx : x s with ⟨result, s₁⟩
  cases result with
  | ok a =>
      rw [bind_of_ok hx] at h
      exact ⟨a, s₁, rfl, h⟩
  | error e =>
      rw [bind_of_error hx] at h
      cases h

theorem of_mapError_ok {x : Flow σ ε α} {g : ε → δ} {s s' : σ} {a : α}
    (h : x.mapError g s = (.ok a, s')) : x s = (.ok a, s') := by
  rcases hx : x s with ⟨result, s₁⟩
  rw [mapError, hx] at h
  cases result with
  | ok b => cases h; rfl
  | error e => cases h

/-! ## Pre- and postconditions -/

/-- From a state in `P` the computation goes on as `Q` says or returns as `E` says. -/
def Triple (P : σ → Prop) (x : Flow σ ε α) (Q : α → σ → Prop) (E : ε → σ → Prop) : Prop :=
  ∀ s, P s →
    match x s with
    | (.ok a, s') => Q a s'
    | (.error e, s') => E e s'

namespace Triple

variable {P P' : σ → Prop} {x : Flow σ ε α} {f : α → Flow σ ε β} {Q Q' : α → σ → Prop}
  {R : β → σ → Prop} {E E' : ε → σ → Prop}

theorem ok (h : Triple P x Q E) {s s' : σ} {a : α} (hs : P s) (hx : x s = (.ok a, s')) :
    Q a s' := by
  have hpost := h s hs
  rwa [hx] at hpost

theorem error (h : Triple P x Q E) {s s' : σ} {e : ε} (hs : P s) (hx : x s = (.error e, s')) :
    E e s' := by
  have hpost := h s hs
  rwa [hx] at hpost

/-- What never returns early returns early as anything says. -/
theorem certain (h : Triple P x Q (fun _ _ => False)) : Triple P x Q E := by
  intro s hs
  rcases hx : x s with ⟨result, s'⟩
  cases result with
  | ok a => exact h.ok hs hx
  | error e => exact (h.error hs hx).elim

/-- A computation that never returns early goes on. -/
theorem total (h : Triple P x Q (fun _ _ => False)) {s : σ} (hs : P s) :
    ∃ a s', x s = (.ok a, s') ∧ Q a s' := by
  rcases hx : x s with ⟨result, s'⟩
  cases result with
  | ok a => exact ⟨a, s', rfl, h.ok hs hx⟩
  | error e => exact (h.error hs hx).elim

/-- The rule for a call that never returns early. -/
theorem of_total (h : ∀ s, P s → ∃ a s', x s = (.ok a, s') ∧ Q a s') : Triple P x Q E := by
  intro s hs
  obtain ⟨a, s', hx, hpost⟩ := h s hs
  rw [hx]
  exact hpost

/-- The rule for a call: what holds of each of the two ways it can come back. -/
theorem intro (hok : ∀ s a s', P s → x s = (.ok a, s') → Q a s')
    (herror : ∀ s e s', P s → x s = (.error e, s') → E e s') : Triple P x Q E := by
  intro s hs
  rcases hx : x s with ⟨result, s'⟩
  cases result with
  | ok a => exact hok s a s' hs hx
  | error e => exact herror s e s' hs hx

theorem pure {a : α} (h : ∀ s, P s → Q a s) : Triple P (Pure.pure a : Flow σ ε α) Q E :=
  fun s hs => h s hs

/-- The rule for a sequence: what the first leaves is what the second starts from. -/
theorem bind (hx : Triple P x Q E) (hf : ∀ a, Triple (Q a) (f a) R E) : Triple P (x >>= f) R E := by
  intro s hs
  rcases hrun : x s with ⟨result, s'⟩
  cases result with
  | ok a =>
      rw [bind_of_ok hrun]
      exact hf a s' (hx.ok hs hrun)
  | error e =>
      rw [bind_of_error hrun]
      exact hx.error hs hrun

/-- A part of the precondition that does not depend on the state. -/
theorem pull {φ : Prop} (h : φ → Triple P x Q E) : Triple (fun s => φ ∧ P s) x Q E :=
  fun s hs => h hs.1 s hs.2

/-- A precondition with a bound variable. -/
theorem exists_pre {ι : Type} {P : ι → σ → Prop} (h : ∀ i, Triple (P i) x Q E) :
    Triple (fun s => ∃ i, P i s) x Q E :=
  fun s ⟨i, hs⟩ => h i s hs

/-- The rule of consequence. -/
theorem imp (h : Triple P x Q E) (hP : ∀ s, P' s → P s) (hQ : ∀ a s, Q a s → Q' a s)
    (hE : ∀ e s, E e s → E' e s) : Triple P' x Q' E' :=
  intro (fun _ a s' hs hx => hQ a s' (h.ok (hP _ hs) hx))
    (fun _ e s' hs hx => hE e s' (h.error (hP _ hs) hx))

theorem mapError {g : ε → δ} {E : δ → σ → Prop} (h : Triple P x Q (fun e s => E (g e) s)) :
    Triple P (x.mapError g) Q E := by
  intro s hs
  rcases hx : x s with ⟨result, s'⟩
  cases result with
  | ok a =>
      rw [Flow.mapError, hx]
      exact h.ok hs hx
  | error e =>
      rw [Flow.mapError, hx]
      exact h.error hs hx

/-- The frame rule: what holds of the other part of the state still holds. -/
theorem beside {τ : Type} {R : τ → Prop} {E' : ε → σ × τ → Prop} (h : Triple P x Q E)
    (hE : ∀ e s, E e s.1 → R s.2 → E' e s) :
    Triple (fun s => P s.1 ∧ R s.2) x.beside (fun a s => Q a s.1 ∧ R s.2) E' := by
  rintro ⟨s, t⟩ ⟨hs, ht⟩
  rcases hx : x s with ⟨result, s'⟩
  cases result with
  | ok a =>
      rw [beside_of_ok hx]
      exact ⟨h.ok hs hx, ht⟩
  | error e =>
      rw [beside_of_error hx]
      exact hE e _ (h.error hs hx) ht

/-- The frame rule with a fact about the value that does not depend on the state. -/
theorem beside_fact {τ : Type} {R : τ → Prop} {E' : ε → σ × τ → Prop} {φ : α → Prop}
    (h : Triple P x (fun a s => φ a ∧ Q a s) E) (hE : ∀ e s, E e s.1 → R s.2 → E' e s) :
    Triple (fun s => P s.1 ∧ R s.2) x.beside (fun a s => φ a ∧ Q a s.1 ∧ R s.2) E' :=
  (h.beside hE).imp (fun _ hs => hs) (fun _ _ hs => and_assoc.1 hs) fun _ _ hs => hs

/-- A call that never returns early, beside what holds of the other part of the state. -/
theorem framed {τ : Type} {φ : α → Prop}
    (h : Triple P x (fun a s => φ a ∧ Q a s) (fun _ _ => False)) (R : τ → Prop) :
    Triple (fun s => P s.1 ∧ R s.2) x.beside (fun a s => φ a ∧ Q a s.1 ∧ R s.2)
      (fun _ _ => False) :=
  h.beside_fact fun _ _ h _ => h

/-- The rule for a sequence whose first part leaves such a fact. -/
theorem bind_fact {φ : α → Prop} (hx : Triple P x (fun a s => φ a ∧ Q a s) E)
    (hf : ∀ a, φ a → Triple (Q a) (f a) R E) : Triple P (x >>= f) R E :=
  hx.bind fun a => pull (hf a)

/-- Where an early return is anything, it is so in another form. -/
theorem returned (h : Triple P x Q (fun _ _ => True)) (g : ε → δ) :
    Triple P (x.mapError g) Q (fun _ _ => True) :=
  mapError h

theorem modify {f : σ → σ} {Q : Unit → σ → Prop} (h : ∀ s, P s → Q () (f s)) :
    Triple P (Flow.modify f : Flow σ ε Unit) Q E :=
  fun s hs => h s hs

theorem when {b : Bool} {x : Flow σ ε Unit} (hx : Triple P x (fun _ => P) E) :
    Triple P (Flow.when b x) (fun _ => P) E := by
  cases b with
  | true => exact hx
  | false => exact Triple.pure fun _ h => h

theorem skip {b : Bool} {x : Flow σ ε Unit} (hb : b = false) :
    Triple P (Flow.when b x) (fun _ => P) E := by
  rw [Flow.when, if_neg (by simp [hb])]
  exact Triple.pure fun _ h => h

/-- A condition that was checked holds from there on. -/
theorem check {b : Bool} {e : ε} {Q : Unit → σ → Prop} (hok : ∀ s, P s → b = true → Q () s)
    (herror : ∀ s, P s → b = false → E e s) : Triple P (Flow.check b e) Q E := by
  intro s hs
  cases hb : b with
  | true => exact hok s hs hb
  | false => exact herror s hs hb

/-- The rule for a loop: `P` of the elements done so far holds before each call. -/
theorem forEach {f : α → Flow σ ε Unit} {P : List α → σ → Prop} {as : List α}
    (hf : ∀ done a rest, as = done ++ a :: rest →
      Triple (P done) (f a) (fun _ => P (done ++ [a])) E) :
    Triple (P []) (Flow.forEach f as) (fun _ => P as) E := by
  -- the induction is on what is left, for every list of elements done
  have hgen : ∀ rest done, as = done ++ rest →
      Triple (P done) (Flow.forEach f rest) (fun _ => P as) E := by
    intro rest
    induction rest with
    | nil =>
        intro done has
        rw [has, List.append_nil]
        exact Triple.pure fun _ hs => hs
    | cons a rest ih =>
        intro done has
        refine (hf done a rest has).bind fun _ => ih (done ++ [a]) ?_
        rw [has, List.append_assoc, List.singleton_append]
  exact hgen as [] rfl

end Triple

/-- The computation keeps an invariant of the state, whichever way it comes back. -/
def Keeps (Inv : σ → Prop) (x : Flow σ ε α) : Prop := Triple Inv x (fun _ => Inv) (fun _ => Inv)

namespace Keeps

variable {Inv : σ → Prop} {x : Flow σ ε α} {f : α → Flow σ ε β}

theorem of_run (h : ∀ s, Inv s → Inv (x s).2) : Keeps Inv x :=
  Triple.intro (fun s a s' hs hx => by simpa [hx] using h s hs)
    (fun s e s' hs hx => by simpa [hx] using h s hs)

theorem ok (h : Keeps Inv x) {s s' : σ} {a : α} (hs : Inv s) (hx : x s = (.ok a, s')) : Inv s' :=
  Triple.ok h hs hx

theorem pure (a : α) : Keeps Inv (Pure.pure a : Flow σ ε α) := Triple.pure fun _ h => h

theorem check (b : Bool) (e : ε) : Keeps Inv (Flow.check b e) :=
  Triple.check (fun _ h _ => h) (fun _ h _ => h)

theorem bind (hx : Keeps Inv x) (hf : ∀ a, Keeps Inv (f a)) : Keeps Inv (x >>= f) :=
  Triple.bind hx hf

theorem mapError (h : Keeps Inv x) (g : ε → δ) : Keeps Inv (x.mapError g) := Triple.mapError h

/-- An invariant beside what holds of the other part of the state. -/
theorem framed {τ : Type} (h : Keeps Inv x) (R : τ → Prop) :
    Triple (fun s => Inv s.1 ∧ R s.2) x.beside (fun _ s => Inv s.1 ∧ R s.2) (fun _ _ => True) :=
  Triple.beside h fun _ _ _ _ => trivial

end Keeps

end Flow

end SpdmEmu.Run
