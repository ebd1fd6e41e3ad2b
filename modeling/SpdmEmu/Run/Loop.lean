import Mathlib.Data.Sum.Basic

/-!
# Loops that return from their body

A C loop whose body may return is a function from the state at the top of the body to either a
result or the state at the next top. `Body.run` runs such a loop to its end when a measure falls
with each pass, and `Body.run_invariant` is its invariant rule.
-/

set_option autoImplicit false

namespace SpdmEmu.Run

universe u v

/-- The body of a loop with states in `S` and results in `R`. -/
abbrev Body (S : Type u) (R : Type v) := S → R ⊕ S

namespace Body

variable {S : Type u} {R : Type v} (body : Body S R)

/-- The loop to its end, when `μ` falls with each pass. -/
def run (μ : S → Nat) (hμ : ∀ s s', body s = .inr s' → μ s' < μ s) (s : S) : R :=
  match _h : body s with
  | .inl r => r
  | .inr s' => run μ hμ s'
termination_by μ s
decreasing_by exact hμ s s' _h

variable {body} {μ : S → Nat} {hμ : ∀ s s', body s = .inr s' → μ s' < μ s}

theorem run_of_inl {s : S} {r : R} (h : body s = .inl r) : body.run μ hμ s = r := by
  rw [run, h]

theorem run_of_inr {s s' : S} (h : body s = .inr s') : body.run μ hμ s = body.run μ hμ s' := by
  rw [run, h]

/-- What every pass preserves holds when the loop returns. -/
theorem run_invariant {Inv : S → Prop} {Post : R → Prop}
    (hnext : ∀ s s', Inv s → body s = .inr s' → Inv s')
    (hstop : ∀ s r, Inv s → body s = .inl r → Post r) {s : S} (hs : Inv s) :
    Post (body.run μ hμ s) := by
  induction s using run.induct body μ hμ with
  | case1 s r h =>
      rw [run_of_inl h]
      exact hstop s r hs h
  | case2 s s' h ih =>
      rw [run_of_inr h]
      exact ih (hnext s s' hs h)

end Body

end SpdmEmu.Run
