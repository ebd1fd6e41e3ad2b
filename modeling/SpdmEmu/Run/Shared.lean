import SpdmEmu.Run.Machine

/-!
# A machine that others use too

A client gives its inputs to a machine one after the other, and between two of them the machine
takes any number of inputs from elsewhere. `Schedule` says, for each turn of the client, which
inputs come before and what the outside adds to the client's own input; a statement for all
schedules is a statement for all interleavings. `Shared` is the machine as the client finds it, with
the history of everybody's steps and the positions of the client's own.

The history is that of a run of the machine (`Reached.ask`), so every invariant of its runs holds
here; and it only grows (`Extends.ask`). What no input of the others takes away is there at the
client's next turn (`Standing.wait`).
-/

set_option autoImplicit false

namespace SpdmEmu.Run

/-- What happens at one turn of the client. -/
structure Turn (I E : Type) where
  others : List I
  env : E

/-- The turns of the client. -/
abbrev Schedule (I E : Type) := Nat → Turn I E

/-- A machine, all its steps so far, and which of them were the client's. -/
structure Shared (S I O : Type) where
  state : S
  history : List (Event S I O)
  own : List Nat

namespace Shared

variable {S I O E : Type} (M : Machine S I O) (schedule : Schedule I E)

/-- Before the first step. -/
def start (s : S) : Shared S I O := ⟨s, [], []⟩

/-- The others' inputs of the next turn. -/
def wait (s : Shared S I O) : Shared S I O where
  state := M.after s.state (schedule s.own.length).others
  history := s.history ++ M.history s.state (schedule s.own.length).others
  own := s.own

/-- The client's input of the next turn, after those of the others. -/
def ownEvent (s : Shared S I O) (input : E → I) : Event S I O :=
  M.event (s.wait M schedule).state (input (schedule s.own.length).env)

/-- One turn of the client. -/
def ask (s : Shared S I O) (input : E → I) : O × Shared S I O :=
  ((s.ownEvent M schedule input).output,
    { state := (s.ownEvent M schedule input).after
      history := (s.wait M schedule).history ++ [s.ownEvent M schedule input]
      own := s.own ++ [(s.wait M schedule).history.length] })

variable {M schedule} in
/-- A turn, from what the machine does at it. -/
theorem ask_of_step {s : Shared S I O} {input : E → I} {o : O} {s₁ : S}
    (h : M.step (s.wait M schedule).state (input (schedule s.own.length).env) = (o, s₁)) :
    s.ask M schedule input =
      (o, { state := s₁
            history := (s.wait M schedule).history ++ [s.ownEvent M schedule input]
            own := s.own ++ [(s.wait M schedule).history.length] }) := by
  have hout : (s.ownEvent M schedule input).output = o := congrArg Prod.fst h
  have hafter : (s.ownEvent M schedule input).after = s₁ := congrArg Prod.snd h
  rw [ask, hout, hafter]

/-! ## Every history is a run -/

/-- The history is that of a run from `s₀` whose inputs all satisfy `Ok`. -/
def Reached (Ok : I → Prop) (s₀ : S) (s : Shared S I O) : Prop :=
  ∃ is, (∀ i ∈ is, Ok i) ∧ s.history = M.history s₀ is ∧ s.state = M.after s₀ is

variable {M schedule} {Ok : I → Prop} {s₀ : S} {s : Shared S I O}

theorem Reached.start : Reached M Ok s₀ (Shared.start s₀) :=
  ⟨[], by simp, rfl, rfl⟩

/-- A run goes on from where it is. -/
theorem Reached.append (h : Reached M Ok s₀ s) {is : List I} (his : ∀ i ∈ is, Ok i)
    (own : List Nat) :
    Reached M Ok s₀ ⟨M.after s.state is, s.history ++ M.history s.state is, own⟩ := by
  obtain ⟨js, hjs, hhistory, hstate⟩ := h
  refine ⟨js ++ is, ?_, ?_, ?_⟩
  · intro i hi
    rcases List.mem_append.1 hi with hi | hi
    · exact hjs i hi
    · exact his i hi
  · rw [hhistory, hstate, M.history_append]
  · rw [hstate, M.after_append]

theorem Reached.wait (hok : ∀ n, ∀ i ∈ (schedule n).others, Ok i) (h : Reached M Ok s₀ s) :
    Reached M Ok s₀ (s.wait M schedule) :=
  h.append (hok _) s.own

theorem Reached.ask (hok : ∀ n, ∀ i ∈ (schedule n).others, Ok i) (h : Reached M Ok s₀ s)
    {input : E → I} (hinput : Ok (input (schedule s.own.length).env)) :
    Reached M Ok s₀ (s.ask M schedule input).2 := by
  have hone : ∀ i ∈ [input (schedule s.own.length).env], Ok i := by
    intro i hi
    rw [List.mem_singleton.1 hi]
    exact hinput
  exact (h.wait hok).append hone _

/-- An invariant of every run with inputs in `Ok` holds. -/
theorem Reached.invariant (h : Reached M Ok s₀ s) (P : List (Event S I O) → S → Prop)
    (hstep : ∀ H s i, Ok i → P H s → P (H ++ [M.event s i]) (M.step s i).2) (hs : P [] s₀) :
    P s.history s.state := by
  obtain ⟨is, hok, hhistory, hstate⟩ := h
  rw [hhistory, hstate]
  exact M.invariant_history_of_inputs P hstep hs hok

/-! ## Histories grow -/

/-- Nothing of the history is lost. -/
def Extends (s s' : Shared S I O) : Prop := s.history <+: s'.history ∧ s.own <+: s'.own

theorem Extends.refl (s : Shared S I O) : Extends s s := ⟨List.prefix_rfl, List.prefix_rfl⟩

theorem Extends.trans {s s' s'' : Shared S I O} (h : Extends s s') (h' : Extends s' s'') :
    Extends s s'' :=
  ⟨h.1.trans h'.1, h.2.trans h'.2⟩

theorem Extends.wait (s : Shared S I O) : Extends s (s.wait M schedule) :=
  ⟨List.prefix_append _ _, List.prefix_rfl⟩

theorem Extends.wait_ask (s : Shared S I O) (input : E → I) :
    Extends (s.wait M schedule) (s.ask M schedule input).2 :=
  ⟨List.prefix_append _ _, List.prefix_append _ _⟩

theorem Extends.ask (s : Shared S I O) (input : E → I) :
    Extends s (s.ask M schedule input).2 :=
  (Extends.wait s).trans (Extends.wait_ask s input)

/-- The places of a history are those of a longer one. -/
theorem Extends.getElem?_of_lt {s s' : Shared S I O} (h : Extends s s') {i : Nat}
    (hi : i < s.history.length) : s'.history[i]? = s.history[i]? := by
  obtain ⟨later, hlater⟩ := h.1
  rw [← hlater, List.getElem?_append_left hi]

theorem Extends.getElem? {s s' : Shared S I O} (h : Extends s s') {i : Nat} {e : Event S I O}
    (hi : s.history[i]? = some e) : s'.history[i]? = some e := by
  rw [h.getElem?_of_lt (List.getElem?_eq_some_iff.1 hi).1, hi]

/-- The client's own events stay its own. -/
theorem Extends.mem_own {s s' : Shared S I O} (h : Extends s s') {i : Nat} (hi : i ∈ s.own) :
    i ∈ s'.own :=
  h.2.subset hi

/-- The event of a turn is in the history from then on, as the client's own. -/
theorem getElem?_ask (s : Shared S I O) (input : E → I) :
    (s.ask M schedule input).2.history[(s.wait M schedule).history.length]? =
      some (s.ownEvent M schedule input) := by
  simp [ask]

theorem mem_own_ask (s : Shared S I O) (input : E → I) :
    (s.wait M schedule).history.length ∈ (s.ask M schedule input).2.own := by
  simp [ask]

/-! ## What the others leave alone -/

/-- No input of the others takes `P` away. -/
def Undisturbed (M : Machine S I O) (schedule : Schedule I E) (P : S → Prop) : Prop :=
  ∀ n, ∀ i ∈ (schedule n).others, ∀ s, P s → P (M.step s i).2

/-- Before a turn in `T` the machine has `P`. -/
structure Standing (T : Nat → Prop) (P : S → Prop) (s : Shared S I O) : Prop where
  turn : T s.own.length
  state : P s.state

/-- At its turn the client finds what it has left. -/
theorem Standing.wait {T : Nat → Prop} {P : S → Prop} (h : Standing T P s)
    (hothers : Undisturbed M schedule P) : P (s.wait M schedule).state :=
  M.invariant_history_of_inputs (fun _ s => P s) (fun _ s _ hi hs => hi s hs) h.state
    (hothers s.own.length)

/-- **The rule for a turn**, from what the machine makes of the client's input. -/
theorem Standing.ask {T T' : Nat → Prop} {P Q : S → Prop} (h : Standing T P s)
    (hT : ∀ n, T n → T' (n + 1)) {input : E → I}
    (hstep : Q (M.step (s.wait M schedule).state (input (schedule s.own.length).env)).2) :
    Standing T' Q (s.ask M schedule input).2 where
  turn := by
    rw [Shared.ask, List.length_append]
    exact hT _ h.turn
  state := hstep

/-! ## An input at one turn only -/

/-- Inputs in `D` are the client's own, at its turn `k`. -/
def OnlyAt (D : I → Prop) (k : Nat) (s : Shared S I O) : Prop :=
  ∀ p e, s.history[p]? = some e → D e.input → s.own[k]? = some p

theorem OnlyAt.ask {D : I → Prop} {k : Nat} (h : OnlyAt D k s)
    (hothers : ∀ n, ∀ i ∈ (schedule n).others, ¬ D i) {input : E → I}
    (hown : D (input (schedule s.own.length).env) → s.own.length = k) :
    OnlyAt D k (s.ask M schedule input).2 := by
  intro p e hp hD
  rcases Nat.lt_or_ge p (s.wait M schedule).history.length with hlt | hge
  · have hwait : (s.wait M schedule).history[p]? = some e := by
      rw [← (Extends.wait_ask s input).getElem?_of_lt hlt, hp]
    rcases Nat.lt_or_ge p s.history.length with hlt' | hge'
    · -- an earlier event
      rw [(Extends.wait s).getElem?_of_lt hlt'] at hwait
      have hk := h p e hwait hD
      have hlen : k < s.own.length := (List.getElem?_eq_some_iff.1 hk).1
      show (s.own ++ [(s.wait M schedule).history.length])[k]? = some p
      rw [List.getElem?_append_left hlen, hk]
    · -- one of the others
      rw [wait, List.getElem?_append_right hge'] at hwait
      exact absurd hD (hothers _ _ (M.input_mem_of_mem_history (List.mem_of_getElem? hwait)))
  · -- the client's own
    have hlast : p = (s.wait M schedule).history.length := by
      have hlen := (List.getElem?_eq_some_iff.1 hp).1
      simp only [Shared.ask, List.length_append, List.length_singleton] at hlen
      omega
    subst hlast
    rw [getElem?_ask] at hp
    cases hp
    show (s.own ++ [(s.wait M schedule).history.length])[k]? = _
    rw [← hown hD, List.getElem?_concat_length]

end Shared

end SpdmEmu.Run
