import Mathlib.Order.Defs.Unbundled

namespace Attempts

/-!
# Code that raises, is interrupted and cleans up

Stateful code that returns, raises a failure that a handler may catch, or is
interrupted by what no handler catches.  A state change made before a failure
stays made.  There are two ways to reason about such code: by inversion of a
run that returned, and by a preorder on the states that every step respects
however it ends.
-/

universe u

/-- How code ends. -/
inductive Outcome (ε α : Type u) where
  | returned (value : α)
  | raised (failure : ε)
  | interrupted
  deriving Repr, DecidableEq

/-- Code over a state, with failures that handlers catch. -/
def Code (σ ε α : Type u) : Type u :=
  σ → Outcome ε α × σ

/-- Run the rest when the first part returned. -/
def Code.bind {σ ε α β : Type u} (first : Code σ ε α)
    (rest : α → Code σ ε β) : Code σ ε β :=
  fun state =>
    match first state with
    | (.returned value, next) => rest value next
    | (.raised failure, next) => (.raised failure, next)
    | (.interrupted, next) => (.interrupted, next)

instance {σ ε : Type u} : Monad (Code σ ε) where
  pure value := fun state => (.returned value, state)
  bind := Code.bind

/-- Raise unless the condition holds. -/
def ensure {σ ε : Type u} (condition : Prop) [Decidable condition]
    (failure : ε) : Code σ ε PUnit :=
  fun state =>
    if condition then (.returned .unit, state) else (.raised failure, state)

/-- Raise when there is no value. -/
def required {σ ε α : Type u} (failure : ε) : Option α → Code σ ε α
  | some value => fun state => (.returned value, state)
  | none => fun state => (.raised failure, state)

/-- The state as it is. -/
def inspect {σ ε : Type u} : Code σ ε σ :=
  fun state => (.returned state, state)

/-- Change the state. -/
def change {σ ε : Type u} (update : σ → σ) : Code σ ε PUnit :=
  fun state => (.returned .unit, update state)

/-- Run the code; when it did not return, go on from a state made of the one
at the beginning and the one that it left. -/
def restoring
    {σ ε α : Type u} (restore : σ → σ → σ) (code : Code σ ε α) : Code σ ε α :=
  fun state =>
    match code state with
    | (.returned value, next) => (.returned value, next)
    | (.raised failure, next) => (.raised failure, restore state next)
    | (.interrupted, next) => (.interrupted, restore state next)

/-! ## Runs that returned -/

variable {σ ε α β : Type u} {first code body : Code σ ε α}
  {rest : α → Code σ ε β} {state next : σ} {value result : α} {failure : ε}
  {update : σ → σ} {last : Code σ ε β} {restore : σ → σ → σ}
  {relation : σ → σ → Prop} {outcome : Outcome ε α}

/-- A sequence returns when both of its parts do. -/
theorem bind_returned {result : β} :
    (first >>= rest) state = (.returned result, next) ↔
      ∃ value middle, first state = (.returned value, middle) ∧
        rest value middle = (.returned result, next) := by
  change Code.bind first rest state = _ ↔ _
  unfold Code.bind
  split
  next value middle ran =>
    rw [ran]
    constructor
    · intro isRest
      exact ⟨value, middle, rfl, isRest⟩
    · rintro ⟨_, _, same, isRest⟩
      cases same
      exact isRest
  next failure middle ran => simp [ran]
  next middle ran => simp [ran]

theorem bind_state (first : Code σ ε α) (rest : α → Code σ ε β) (state : σ) :
    (∃ value middle, first state = (.returned value, middle) ∧
        (first >>= rest) state = rest value middle) ∨
      ((first >>= rest) state).2 = (first state).2 := by
  change (∃ value middle, _ ∧ Code.bind first rest state = _) ∨
    (Code.bind first rest state).2 = _
  unfold Code.bind
  split
  next value middle ran => exact .inl ⟨value, middle, ran, rfl⟩
  next failure middle ran => exact .inr (by rw [ran])
  next middle ran => exact .inr (by rw [ran])

theorem pure_returned :
    (pure value : Code σ ε α) state = (.returned result, next) ↔
      value = result ∧ state = next := by
  change (Outcome.returned value, state) = _ ↔ _
  simp

theorem ensure_returned
    {condition : Prop} [Decidable condition] {result : PUnit} :
    ensure condition failure state = (.returned result, next) ↔
      condition ∧ state = next := by
  unfold ensure
  split <;> simp_all

theorem required_returned {found : Option α} :
    required failure found state = (.returned result, next) ↔
      found = some result ∧ state = next := by
  cases found <;> simp [required]

theorem inspect_returned {result state next : σ} :
    (inspect : Code σ ε σ) state = (.returned result, next) ↔
      state = result ∧ state = next := by
  simp [inspect]

theorem change_returned {result : PUnit} :
    (change update : Code σ ε PUnit) state = (.returned result, next) ↔
      update state = next := by
  simp [change]

theorem restoring_returned :
    restoring restore code state = (.returned result, next) ↔
      code state = (.returned result, next) := by
  unfold restoring
  split <;> simp_all

theorem restoring_restoring (first second : σ → σ → σ) (code : Code σ ε α) :
    restoring second (restoring first code) =
      restoring (fun state next => second state (first state next)) code := by
  funext state
  unfold restoring
  rcases code state with ⟨outcome, next⟩
  cases outcome <;> rfl

/-! ## What holds however code ends -/

/-- The code relates every state to the one that it leaves. -/
def Keeps
    {σ ε α : Type u} (relation : σ → σ → Prop) (code : Code σ ε α) : Prop :=
  ∀ state, relation state (code state).2

namespace Keeps

theorem ran
    (keeps : Keeps relation code) (isRun : code state = (outcome, next)) :
    relation state next := by
  have related := keeps state
  rw [isRun] at related
  exact related

variable {early late whole : σ → σ → Prop}

theorem bindThrough
    (keeps : Keeps early first) (keepsRest : ∀ value, Keeps late (rest value))
    (short : ∀ state next, early state next → whole state next) (through :
      ∀ state middle next,
        early state middle → late middle next → whole state next) :
    Keeps whole (first >>= rest) := by
  intro state
  have related := keeps state
  change whole state (Code.bind first rest state).2
  unfold Code.bind
  split
  next value middle ran =>
    rw [ran] at related
    exact through _ _ _ related (keepsRest value middle)
  next failure middle ran =>
    rw [ran] at related
    exact short _ _ related
  next middle ran =>
    rw [ran] at related
    exact short _ _ related

theorem bind [IsTrans σ relation] (keeps : Keeps relation first)
    (keepsRest : ∀ value, Keeps relation (rest value)) :
    Keeps relation (first >>= rest) :=
  bindThrough keeps keepsRest (fun _ _ related => related)
    (fun _ _ _ before after => IsTrans.trans _ _ _ before after)

theorem pure [Std.Refl relation] (value : α) :
    Keeps relation (Pure.pure value : Code σ ε α) :=
  fun state => refl state

theorem ensure [Std.Refl relation] (condition : Prop)
    [Decidable condition] (failure : ε) :
    Keeps relation (Attempts.ensure condition failure : Code σ ε PUnit) := by
  intro state
  unfold Attempts.ensure
  split <;> exact refl state

/-- Looking something up keeps every relation. -/
theorem required [Std.Refl relation] (failure : ε) (found : Option α) :
    Keeps relation (Attempts.required failure found : Code σ ε α) := by
  intro state
  cases found <;> exact refl state

theorem inspect [Std.Refl relation] :
    Keeps relation (Attempts.inspect : Code σ ε σ) :=
  fun state => refl state

theorem weaken {strong weak : σ → σ → Prop} (keeps : Keeps strong code)
    (implies : ∀ state next, strong state next → weak state next) :
    Keeps weak code :=
  fun state => implies _ _ (keeps state)

end Keeps

/-! ## Code that fails without a trace -/

/-- Where the code does not return, the state is the one that it began in. -/
def Undone {σ ε α : Type u} (code : Code σ ε α) : Prop :=
  ∀ state, (∃ value next, code state = (.returned value, next)) ∨
      (code state).2 = state

namespace Undone

theorem ofSame (same : Keeps Eq code) : Undone code :=
  fun state => .inr (same state).symm

theorem bind (same : Keeps Eq first) (undone : ∀ value, Undone (rest value)) :
    Undone (first >>= rest) := by
  intro state
  have sameState := same state
  rcases bind_state first rest state with
    ⟨value, middle, isFirst, ran⟩ | ended
  · rw [isFirst] at sameState
    obtain rfl : state = middle := sameState
    rw [ran]
    exact undone value state
  · exact .inr (ended.trans sameState.symm)

theorem bindPure {value : α → β} (undone : Undone first) :
    Undone (first >>= fun result => Pure.pure (value result)) := by
  intro state
  rcases bind_state first (fun result => Pure.pure (value result)) state with
    ⟨result, middle, isFirst, ran⟩ | ended
  · exact .inl ⟨value result, middle, ran⟩
  · rcases undone state with ⟨result, next, ran⟩ | same
    · exact
        .inl ⟨value result, next, bind_returned.mpr ⟨result, next, ran, rfl⟩⟩
    · exact .inr (ended.trans same)

theorem keeps [Std.Refl relation] (undone : Undone code)
    (returns : ∀ state value next, code state = (.returned value, next) →
        relation state next) :
    Keeps relation code := by
  intro state
  rcases undone state with ⟨value, next, ran⟩ | same
  · rw [ran]
    exact returns state value next ran
  · rw [same]
    exact refl state

/-- Code that restores its state on failures undoes them. -/
theorem restoring (keeps : Keeps relation code)
    (restores : ∀ state next, relation state next →
      restore state next = state) :
    Undone (Attempts.restoring restore code) := by
  intro state
  have related := keeps state
  unfold Attempts.restoring
  split
  next value next ran => exact .inl ⟨value, next, rfl⟩
  next failure next ran =>
    rw [ran] at related
    exact .inr (restores state next related)
  next next ran =>
    rw [ran] at related
    exact .inr (restores state next related)

end Undone

end Attempts
