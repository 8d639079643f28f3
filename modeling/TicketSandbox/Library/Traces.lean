import Mathlib.Data.List.Basic

namespace Traces

/-!
# Traces

What holds of every event of a trace under what was seen before it.
-/

universe u

/-- Every event of the trace has the property under the events before it. -/
def Each {ε : Type u} (holds : List ε → ε → Prop) (trace : List ε) : Prop :=
  ∀ front event behind, trace = front ++ event :: behind → holds front event

variable {ε : Type u} {trace : List ε}

theorem each_nil (holds : List ε → ε → Prop) : Each holds [] := by
  intro front event behind isTrace
  cases front with
  | nil => cases isTrace
  | cons first others => cases isTrace

/-- A trace is judged event by event. -/
theorem each_concat {holds : List ε → ε → Prop} {last : ε} :
    Each holds (trace ++ [last]) ↔ Each holds trace ∧ holds trace last := by
  constructor
  · intro isEach
    refine ⟨fun front event behind isTrace => ?_, ?_⟩
    · refine isEach front event (behind ++ [last]) ?_
      rw [isTrace, List.append_assoc, List.cons_append]
    · exact isEach trace last [] rfl
  · rintro ⟨isEach, isLast⟩ front event behind isTrace
    rcases List.eq_nil_or_concat behind with rfl | ⟨early, final, rfl⟩
    · obtain ⟨rfl, same⟩ := List.append_inj' isTrace rfl
      cases same
      exact isLast
    · have split : trace ++ [last] = (front ++ event :: early) ++ [final] := by
        rw [isTrace, List.concat_eq_append, List.append_assoc, List.cons_append]
      obtain ⟨rfl, _⟩ := List.append_inj' split rfl
      exact isEach front event early rfl

/-- The event is the last one of its kind, and it is there. -/
def Newest
    {ε : Type u} (related : ε → Prop) (event : ε) (trace : List ε) : Prop :=
  ∃ front behind, trace = front ++ event :: behind ∧
    ∀ other ∈ behind, ¬ related other

theorem newest_concat (related : ε → Prop) (event : ε) (trace : List ε) :
    Newest related event (trace ++ [event]) :=
  ⟨trace, [], rfl, fun _ isBehind => absurd isBehind List.not_mem_nil⟩

/-- An unrelated event leaves the newest one. -/
theorem Newest.concat {related : ε → Prop} {event last : ε}
    (isNewest : Newest related event trace) (isOther : ¬ related last) :
    Newest related event (trace ++ [last]) := by
  obtain ⟨front, behind, rfl, areOthers⟩ := isNewest
  refine ⟨front, behind ++ [last], ?_, ?_⟩
  · rw [List.append_assoc, List.cons_append]
  · intro other isBehind
    rcases List.mem_append.mp isBehind with inside | isLast
    · exact areOthers other inside
    · rw [List.mem_singleton.mp isLast]
      exact isOther

end Traces
