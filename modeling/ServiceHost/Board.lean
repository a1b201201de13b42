/-!
# Boards of shared values

Routers and lifecycles are reached through handles, and a clone of a handle names the same value
as the handle itself: what is done through one clone is seen through every other. A `Board` keeps
the values apart from the handles that name them.

* `Board.run` makes calls and clones in any order, and notes every call with its answer.
* `Board.run_invariant` carries a property of one value along every run that begins with one
  handle on it.
* `Board.run_concat_call` says what one call more does after such a run.
-/

namespace ServiceHost

/-- Values, and the handles that name them by their index. -/
structure Board (S : Type) where
  values : List S
  handles : List Nat

namespace Board

variable {S C A : Type}

/-- The board of one value with one handle on it. -/
def ofValue (s : S) : Board S := { values := [s], handles := [0] }

/-- The value that a handle names. -/
def value? (b : Board S) (handle : Nat) : Option S := do
  b.values[← b.handles[handle]?]?

/-- Something done on a board: a handle is cloned, or a call is made through one. -/
inductive Op (C : Type) where
  | clone (handle : Nat)
  | call (handle : Nat) (c : C)

/-- Adds a handle that names what another one names. -/
def clone (b : Board S) (handle : Nat) : Board S :=
  match b.handles[handle]? with
  | some index => { b with handles := b.handles ++ [index] }
  | none => b

/-- Makes a call on the value that a handle names. There is no answer if it names none. -/
def call (step : S → C → S × A) (b : Board S) (handle : Nat) (c : C) : Board S × Option A :=
  match b.handles[handle]? with
  | none => (b, none)
  | some index =>
    match b.values[index]? with
    | none => (b, none)
    | some s =>
      let (s, answer) := step s c
      ({ b with values := b.values.set index s }, some answer)

/-- What a run leaves: the board, and the calls in their order with their answers. -/
structure Run (S C A : Type) where
  board : Board S
  log : List (C × A) := []

/-- Does one thing more after a run. -/
def Run.next (step : S → C → S × A) (r : Run S C A) : Op C → Run S C A
  | .clone handle => { r with board := r.board.clone handle }
  | .call handle c =>
    match r.board.call step handle c with
    | (board, some answer) => { board, log := r.log ++ [(c, answer)] }
    | (board, none) => { r with board }

/-- Does things in order. -/
def run (step : S → C → S × A) (b : Board S) (ops : List (Op C)) : Run S C A :=
  ops.foldl (Run.next step) { board := b }

/-- Every call that a run notes was made in it. -/
theorem exists_op_of_mem_log {step : S → C → S × A} {b : Board S} {ops : List (Op C)}
    {x : C × A} (hx : x ∈ (run step b ops).log) : ∃ handle, .call handle x.1 ∈ ops := by
  -- the things done so far are generalised, so that the run may begin anywhere
  have hrun : ∀ (ops : List (Op C)) (r : Run S C A), x ∈ (ops.foldl (Run.next step) r).log →
      x ∈ r.log ∨ ∃ handle, .call handle x.1 ∈ ops := by
    intro ops
    induction ops with
    | nil => intro r h; exact Or.inl h
    | cons op rest ih =>
      intro r h
      rcases ih (r.next step op) h with h | ⟨handle, h⟩
      · cases op with
        | clone handle => exact Or.inl h
        | call handle c =>
          simp only [Run.next] at h
          split at h
          · rcases List.mem_append.mp h with h | h
            · exact Or.inl h
            · rw [List.mem_singleton.mp h]
              exact Or.inr ⟨handle, List.mem_cons_self⟩
          · exact Or.inl h
      · exact Or.inr ⟨handle, List.mem_cons_of_mem _ h⟩
  exact (hrun ops { board := b } hx).resolve_left List.not_mem_nil

/-! ### One value -/

/-- Every handle of a board names one value, and there is no other. -/
structure Shares (b : Board S) (s : S) : Prop where
  values_eq : b.values = [s]
  handles_eq : ∀ index ∈ b.handles, index = 0

theorem ofValue_shares (s : S) : (ofValue s).Shares s where
  values_eq := rfl
  handles_eq := by simp [ofValue]

/-- What a handle of a shared value names is that value. -/
theorem Shares.value?_eq {b : Board S} {s s' : S} {handle : Nat} (h : b.Shares s)
    (hv : b.value? handle = some s') : s' = s := by
  obtain ⟨index, hi, hs⟩ := Option.bind_eq_some_iff.mp hv
  have h0 : index = 0 := h.handles_eq index (List.mem_of_getElem? hi)
  subst h0
  rw [h.values_eq] at hs
  exact (Option.some.inj hs).symm

theorem Shares.clone {b : Board S} {s : S} (h : b.Shares s) (handle : Nat) :
    (b.clone handle).Shares s := by
  unfold Board.clone
  split
  · next index hi =>
    refine ⟨h.values_eq, fun i hi' => ?_⟩
    rcases List.mem_append.mp hi' with hi' | hi'
    · exact h.handles_eq i hi'
    · rw [List.mem_singleton.mp hi']
      exact h.handles_eq index (List.mem_of_getElem? hi)
  · exact h

/-- A call on a shared value is a step of it, or is not made for want of the handle. -/
theorem Shares.call {b : Board S} {s : S} (h : b.Shares s) (step : S → C → S × A)
    (handle : Nat) (c : C) :
    b.call step handle c = (b, none) ∨
      ∃ b' : Board S, b.call step handle c = (b', some (step s c).2) ∧ b'.Shares (step s c).1 := by
  unfold Board.call
  cases hi : b.handles[handle]? with
  | none => exact Or.inl rfl
  | some index =>
    have h0 : index = 0 := h.handles_eq index (List.mem_of_getElem? hi)
    subst h0
    refine Or.inr ⟨{ b with values := [(step s c).1] }, ?_, rfl, h.handles_eq⟩
    simp only [h.values_eq, List.getElem?_cons_zero, List.set_cons_zero]

/-- A property of the calls so far and of the shared value, kept by one step, is kept by one
thing more on the board. -/
theorem Run.next_invariant {step : S → C → S × A} {P : List (C × A) → S → Prop}
    (keeps : ∀ log s c, P log s → P (log ++ [(c, (step s c).2)]) (step s c).1)
    {r : Run S C A} {s : S} (hs : r.board.Shares s) (hP : P r.log s) (op : Op C) :
    ∃ s', (r.next step op).board.Shares s' ∧ P (r.next step op).log s' := by
  cases op with
  | clone handle => exact ⟨s, hs.clone handle, hP⟩
  | call handle c =>
    rcases hs.call step handle c with hc | ⟨b', hc, hs'⟩
    · refine ⟨s, ?_⟩
      simp only [Run.next, hc]
      exact ⟨hs, hP⟩
    · refine ⟨(step s c).1, ?_⟩
      simp only [Run.next, hc]
      exact ⟨hs', keeps r.log s c hP⟩

/-- A run of calls and clones that begins with one value ends with one value, of which everything
holds that holds before any call and is kept by every call. -/
theorem run_shares {step : S → C → S × A} {P : List (C × A) → S → Prop} {s : S}
    (start : P [] s) (keeps : ∀ log s c, P log s → P (log ++ [(c, (step s c).2)]) (step s c).1)
    (ops : List (Op C)) :
    ∃ s', ((ofValue s).run step ops).board.Shares s' ∧ P ((ofValue s).run step ops).log s' := by
  -- the things done so far are generalised, so that the run may begin anywhere
  have hrun : ∀ (ops : List (Op C)) (r : Run S C A) (s : S), r.board.Shares s → P r.log s →
      ∃ s', (ops.foldl (Run.next step) r).board.Shares s' ∧
        P (ops.foldl (Run.next step) r).log s' := by
    intro ops
    induction ops with
    | nil => intro r s hs hP; exact ⟨s, hs, hP⟩
    | cons op rest ih =>
      intro r s hs hP
      obtain ⟨s₁, hs₁, hP₁⟩ := Run.next_invariant keeps hs hP op
      exact ih (r.next step op) s₁ hs₁ hP₁
  exact hrun ops { board := ofValue s } s (ofValue_shares s) start

/-- **Invariants of a shared value.** What holds of the value before any call, and is kept by
every call, holds of what any handle names after any run of calls and clones. -/
theorem run_invariant {step : S → C → S × A} {P : List (C × A) → S → Prop} {s : S}
    (start : P [] s) (keeps : ∀ log s c, P log s → P (log ++ [(c, (step s c).2)]) (step s c).1)
    (ops : List (Op C)) {handle : Nat} {s' : S}
    (hv : ((ofValue s).run step ops).board.value? handle = some s') :
    P ((ofValue s).run step ops).log s' := by
  obtain ⟨s₁, hs₁, hP₁⟩ := run_shares start keeps ops
  rw [hs₁.value?_eq hv]
  exact hP₁

/-- **One call more.** A call through a handle that names the value of a run is a step of the value.
It is noted with its answer, and every handle names the value after it. -/
theorem run_concat_call {step : S → C → S × A} {s₀ s : S} {ops : List (Op C)} {handle : Nat}
    (hv : ((ofValue s₀).run step ops).board.value? handle = some s) (c : C) :
    ((ofValue s₀).run step (ops ++ [.call handle c])).log =
        ((ofValue s₀).run step ops).log ++ [(c, (step s c).2)] ∧
      ((ofValue s₀).run step (ops ++ [.call handle c])).board.value? handle =
        some (step s c).1 ∧
      ∀ clone s', ((ofValue s₀).run step (ops ++ [.call handle c])).board.value? clone = some s' →
        s' = (step s c).1 := by
  have hnext : (ofValue s₀).run step (ops ++ [.call handle c]) =
      ((ofValue s₀).run step ops).next step (.call handle c) := List.foldl_append
  obtain ⟨s₁, hs, -⟩ : ∃ s₁, ((ofValue s₀).run step ops).board.Shares s₁ ∧ True :=
    run_shares (P := fun _ _ => True) trivial (fun _ _ _ _ => trivial) ops
  obtain rfl := hs.value?_eq hv
  rw [hnext]
  generalize (ofValue s₀).run step ops = r at hv hs
  -- the handle, like every handle of the board, names the one value that is shared
  obtain ⟨index, hi, -⟩ := Option.bind_eq_some_iff.mp hv
  have h0 : index = 0 := hs.handles_eq index (List.mem_of_getElem? hi)
  subst h0
  have hcall : r.board.call step handle c =
      ({ r.board with values := [(step s c).1] }, some (step s c).2) := by
    unfold Board.call
    simp only [hi, hs.values_eq, List.getElem?_cons_zero, List.set_cons_zero]
  have hshares : Shares { r.board with values := [(step s c).1] } (step s c).1 :=
    ⟨rfl, hs.handles_eq⟩
  simp only [Run.next, hcall]
  refine ⟨trivial, ?_, fun clone s' h => hshares.value?_eq h⟩
  simp only [value?, hi, Option.bind_eq_bind, Option.bind_some, List.getElem?_cons_zero]

end Board

end ServiceHost
