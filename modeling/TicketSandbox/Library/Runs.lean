import Mathlib.Data.List.Basic

namespace Runs

/-!
# Finite runs of a partial step function

A component is given by a step function that answers `none` when an action
cannot happen.  A run lists the actions taken, each under a side condition on
the state it was taken in.  The rules below turn one-step facts into facts
about whole runs.
-/

universe u v

/-- Finite runs whose every action is permitted where it is taken. -/
inductive Run {σ : Type u} {α : Type v} (step? : σ → α → Option σ)
    (permitted : σ → α → Prop) :
    σ → List α → σ → Prop where
  | nil {state : σ} : Run step? permitted state [] state
  | cons {state next last : σ} {action : α} {rest : List α} :
      permitted state action →
      step? state action = some next →
      Run step? permitted next rest last →
      Run step? permitted state (action :: rest) last

/-- Execute a list of actions, stopping at the first one that cannot happen. -/
def run? {σ : Type u} {α : Type v} (step? : σ → α → Option σ)
    (state : σ) : List α → Option σ
  | [] => some state
  | action :: rest =>
      match step? state action with
      | none => none
      | some next => run? step? next rest

/-- The side condition that permits every action. -/
def anything {σ : Type u} {α : Type v} : σ → α → Prop :=
  fun _ _ => True

variable {σ : Type u} {α : Type v} {permitted : σ → α → Prop}
  {state first last : σ} {actions : List α} {check : σ → α → Bool}

namespace Run

theorem single {step? : σ → α → Option σ} {next : σ} {action : α}
    (isPermitted : permitted state action)
    (stepped : step? state action = some next) :
    Run step? permitted state [action] next :=
  .cons isPermitted stepped .nil

theorem append {step? : σ → α → Option σ} {middle : σ} {early late : List α}
    (earlyRun : Run step? permitted first early middle)
    (lateRun : Run step? permitted middle late last) :
    Run step? permitted first (early ++ late) last := by
  induction earlyRun with
  | nil => exact lateRun
  | cons isPermitted stepped _ inductionHypothesis =>
      exact .cons isPermitted stepped (inductionHypothesis lateRun)

/-- What every step preserves holds at the end of a run. -/
theorem invariant {step? : σ → α → Option σ}
    (holds : σ → Prop) (preserved :
      ∀ state action next, permitted state action →
        step? state action = some next →
        holds state →
        holds next)
    (run : Run step? permitted first actions last) (initially : holds first) :
    holds last := by
  induction run with
  | nil => exact initially
  | cons isPermitted stepped _ inductionHypothesis =>
      exact inductionHypothesis (preserved _ _ _ isPermitted stepped initially)

/-- What every run keeps may be used to permit its actions. -/
theorem permits
    {step? : σ → α → Option σ} {allowed : σ → α → Prop} (holds : σ → Prop)
    (preserved : ∀ state action next, permitted state action →
        step? state action = some next → holds state →
        allowed state action ∧ holds next)
    (run : Run step? permitted first actions last) (initially : holds first) :
    Run step? allowed first actions last ∧ holds last := by
  induction run with
  | nil => exact ⟨.nil, initially⟩
  | cons isPermitted stepped _ inductionHypothesis =>
      obtain ⟨isAllowed, next⟩ := preserved _ _ _ isPermitted stepped initially
      obtain ⟨rest, isKept⟩ := inductionHypothesis next
      exact ⟨.cons isAllowed stepped rest, isKept⟩

theorem exists_permitted {step? : σ → α → Option σ} (holds : σ → Prop)
    (run : Run step? permitted first actions last) (before : ¬ holds first)
    (after : holds last) :
    ∃ early action late middle next, actions = early ++ action :: late ∧
        Run step? permitted first early middle ∧ permitted middle action ∧
        step? middle action = some next ∧
        Run step? permitted next late last ∧
        ¬ holds middle ∧ holds next := by
  induction run with
  | nil => exact (before after).elim
  | @cons state next last action rest isPermitted stepped tail
      inductionHypothesis =>
      by_cases already : holds next
      · exact ⟨[], action, rest, state, next, rfl, .nil, isPermitted, stepped,
            tail, before, already⟩
      · obtain ⟨early, changing, late, middle, changed, split, earlyRun,
          isAllowed, changes, lateRun, still, becomes⟩ :=
          inductionHypothesis already after
        exact ⟨action :: early, changing, late, middle, changed,
            by rw [split]; rfl, .cons isPermitted stepped earlyRun, isAllowed,
            changes, lateRun, still, becomes⟩

theorem exists_change {step? : σ → α → Option σ} (holds : σ → Prop)
    (run : Run step? permitted first actions last) (before : ¬ holds first)
    (after : holds last) :
    ∃ early action late middle next, actions = early ++ action :: late ∧
        Run step? permitted first early middle ∧
        step? middle action = some next ∧
        Run step? permitted next late last ∧
        ¬ holds middle ∧ holds next := by
  obtain ⟨early, action, late, middle, next, split, earlyRun, _, changes⟩ :=
    run.exists_permitted holds before after
  exact ⟨early, action, late, middle, next, split, earlyRun, changes⟩

end Run

variable {step? : σ → α → Option σ}

theorem run?_sound
    (always : ∀ state, ∀ action ∈ actions, permitted state action)
    (accepted : run? step? first actions = some last) :
    Run step? permitted first actions last := by
  induction actions generalizing first with
  | nil =>
      simp only [run?, Option.some.injEq] at accepted
      subst accepted
      exact .nil
  | cons action rest inductionHypothesis =>
      simp only [run?] at accepted
      cases stepped : step? first action with
      | none => simp [stepped] at accepted
      | some next =>
          simp only [stepped] at accepted
          refine .cons (always first action (by simp)) stepped ?_
          refine inductionHypothesis ?_ accepted
          intro state later member
          exact always state later (List.mem_cons_of_mem _ member)

theorem run?_get (always : ∀ state, ∀ action ∈ actions, permitted state action)
    (accepted : (run? step? first actions).isSome = true) :
    Run step? permitted first actions
      ((run? step? first actions).get accepted) :=
  run?_sound always (Option.some_get accepted).symm

/-- Where an execution ends, or where it began if some action cannot happen. -/
def after {σ : Type u} {α : Type v} (step? : σ → α → Option σ) (first : σ)
    (actions : List α) : σ :=
  (run? step? first actions).getD first

theorem run_after (always : ∀ state, ∀ action ∈ actions, permitted state action)
    (accepted : (run? step? first actions).isSome = true) :
    Run step? permitted first actions (after step? first actions) := by
  refine run?_sound always ?_
  obtain ⟨last, ends⟩ := Option.isSome_iff_exists.mp accepted
  rw [after, ends, Option.getD_some]

theorem step?_after
    {action : α} (accepted : (step? state action).isSome = true) :
    step? state action = some (after step? state [action]) := by
  obtain ⟨next, stepped⟩ := Option.isSome_iff_exists.mp accepted
  simp [after, run?, stepped]

/-- The step function that also stops where a check fails. -/
def guarded {σ : Type u} {α : Type v} (check : σ → α → Bool)
    (step? : σ → α → Option σ) : σ → α → Option σ :=
  fun state action => if check state action then step? state action else none

theorem run?_guarded (implies :
      ∀ state action, check state action = true → permitted state action)
    (accepted : run? (guarded check step?) first actions = some last) :
    Run step? permitted first actions last := by
  have checkedRun :
      Run (guarded check step?) (fun _ _ => True) first actions last :=
    run?_sound (fun _ _ _ => trivial) accepted
  induction checkedRun with
  | nil => exact .nil
  | @cons state next final action rest _ stepped _ inductionHypothesis =>
      simp only [guarded] at stepped
      split at stepped
      · rename_i isChecked
        simp only [run?, guarded, isChecked, ↓reduceIte, stepped] at accepted
        exact .cons (implies state action isChecked) stepped
          (inductionHypothesis accepted)
      · simp at stepped

theorem run_after_guarded (implies :
      ∀ state action, check state action = true → permitted state action)
    (accepted : (run? (guarded check step?) first actions).isSome = true) :
    Run step? permitted first actions
      (after (guarded check step?) first actions) := by
  refine run?_guarded implies ?_
  obtain ⟨last, ends⟩ := Option.isSome_iff_exists.mp accepted
  rw [after, ends, Option.getD_some]

end Runs
