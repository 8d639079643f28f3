import Mathlib.Data.List.Induction

namespace Projections

/-!
# Projections of an append-only log

A component keeps a log of events and a summary of it.  The summary is the
fold of the log, and every event was acceptable to the summary of the events
before it.
-/

universe u v

/-- How a summary begins, what an event does to it, and which events fit. -/
structure Projector (ε : Type u) (σ : Type v) where
  initial : σ
  apply : σ → ε → σ
  Accepts : σ → ε → Prop

namespace Projector

/-- The summary of a log. -/
def fold
    {ε : Type u} {σ : Type v} (projector : Projector ε σ) (log : List ε) : σ :=
  log.foldl projector.apply projector.initial

/-- Every event was acceptable to the summary of the events before it. -/
def Lawful {ε : Type u} {σ : Type v} (projector : Projector ε σ)
    (log : List ε) : Prop :=
  ∀ early event late, log = early ++ event :: late →
    projector.Accepts (projector.fold early) event

variable {ε : Type u} {σ : Type v}

/-- One more event is applied to the summary of the others. -/
@[simp] theorem fold_append
    (projector : Projector ε σ) (log : List ε) (event : ε) :
    projector.fold (log ++ [event]) =
      projector.apply (projector.fold log) event := by
  simp [fold]

namespace Lawful

theorem nil {projector : Projector ε σ} : projector.Lawful [] := by
  intro early event late split
  simp at split

variable {projector : Projector ε σ} {log : List ε}

theorem append_iff {event : ε} :
    projector.Lawful (log ++ [event]) ↔
      projector.Lawful log ∧ projector.Accepts (projector.fold log) event := by
  constructor
  · intro lawful
    refine ⟨?_, lawful log event [] rfl⟩
    rintro early earlier late rfl
    exact lawful early earlier (late ++ [event]) (by simp)
  · rintro ⟨lawful, accepts⟩ early earlier late split
    rcases List.eq_nil_or_concat late with rfl | ⟨rest, last, rfl⟩
    · obtain ⟨rfl, same⟩ := List.append_inj' split rfl
      rw [← List.singleton_inj.mp same]
      exact accepts
    · have moved : log ++ [event] = (early ++ earlier :: rest) ++ [last] := by
        simpa using split
      obtain ⟨rfl, _⟩ := List.append_inj' moved rfl
      exact lawful early earlier rest rfl

theorem induct
    (holds : List ε → σ → Prop) (initially : holds [] projector.initial) (kept :
      ∀ log event, holds log (projector.fold log) →
        projector.Accepts (projector.fold log) event →
        holds (log ++ [event]) (projector.apply (projector.fold log) event))
    (lawful : projector.Lawful log) :
    holds log (projector.fold log) := by
  induction log using List.reverseRecOn with
  | nil => exact initially
  | append_singleton log event inductionHypothesis =>
      obtain ⟨earlier, accepts⟩ := append_iff.mp lawful
      rw [fold_append]
      exact kept log event (inductionHypothesis earlier) accepts

end Lawful

end Projector

end Projections
