import TicketSandbox.Library.Phases
import TicketSandbox.Library.Runs

namespace Histories

/-!
# Tables that only grow along a run

Every step of a component extends its table of phased rows.  Then whatever is
registered or begun at the end of a run was so at its start, or was touched by
one of its steps.
-/

open Runs

universe u v t w x y

/-- Some row of the table has the identity. -/
def Has {ρ : Type u} {κ : Type v} {τ : Type t} {φ : Type w}
    (view : Phases.View ρ κ τ φ) (rows : List ρ) (key : κ) : Prop :=
  ∃ row ∈ rows, view.identity row = key

/-- Some row of the table has the identity and was started. -/
def Begun {ρ : Type u} {κ : Type v} {τ : Type t} {φ : Type w}
    (view : Phases.View ρ κ τ φ) (rows : List ρ) (key : κ) : Prop :=
  ∃ row ∈ rows, view.identity row = key ∧ (view.started row).isSome = true

/-- One table registers or begins the identity, the other one did not. -/
def Touches {ρ : Type u} {κ : Type v} {τ : Type t} {φ : Type w}
    (view : Phases.View ρ κ τ φ) (before after : List ρ) (key : κ) : Prop :=
  (¬ Has view before key ∧ Has view after key) ∨
    (¬ Begun view before key ∧ Begun view after key)

/-- Some step of the run registers or begins the identity. -/
def Touched {ρ : Type u} {κ : Type v} {τ : Type t} {φ : Type w} {σ : Type x}
    {α : Type y} (view : Phases.View ρ κ τ φ) (rows : σ → List ρ)
    (step? : σ → α → Option σ) (permitted : σ → α → Prop) (first : σ)
    (actions : List α) (last : σ) (key : κ) : Prop :=
  ∃ early action late middle next, actions = early ++ action :: late ∧
      Run step? permitted first early middle ∧
      step? middle action = some next ∧
      Run step? permitted next late last ∧
      Touches view (rows middle) (rows next) key

variable {ρ : Type u} {κ : Type v} {τ : Type t} {φ : Type w} {σ : Type x}
  {α : Type y} {view : Phases.View ρ κ τ φ} {old new : List ρ} {key : κ}
  {permitted : σ → α → Prop} {holds : σ → Prop} {first last : σ}
  {actions : List α} {rows : σ → List ρ}

theorem Has.extended (has : Has view old key)
    (extended : Rows.Extends (Phases.Later view fun _ _ => True) old new) :
    Has view new key := by
  obtain ⟨row, member, same⟩ := has
  obtain ⟨version, versionMember, later⟩ := extended.mem member
  exact ⟨version, versionMember, later.identity.trans same⟩

theorem Begun.extended (begun : Begun view old key)
    (extended : Rows.Extends (Phases.Later view fun _ _ => True) old new) :
    Begun view new key := by
  obtain ⟨row, member, same, started⟩ := begun
  obtain ⟨version, versionMember, later⟩ := extended.mem member
  exact
    ⟨version, versionMember, later.identity.trans same, later.isStarted started⟩

variable {step? : σ → α → Option σ}

/-- The rows only grow in a run. -/
theorem extends_of_run (rows : σ → List ρ) (grows :
      ∀ state action next, step? state action = some next → holds state →
        holds next ∧
          Rows.Extends (Phases.Later view fun _ _ => True) (rows state)
            (rows next))
    (run : Run step? permitted first actions last) (initially : holds first) :
    holds last ∧ Rows.Extends (Phases.Later view fun _ _ => True) (rows first)
        (rows last) := by
  refine run.invariant (fun state =>
      holds state ∧
        Rows.Extends (Phases.Later view fun _ _ => True) (rows first)
          (rows state))
    ?_ ⟨initially, .refl (fun row => .refl row) _⟩
  rintro state action next _ stepped ⟨held, extended⟩
  obtain ⟨stillHeld, extendedAgain⟩ := grows state action next stepped held
  exact
    ⟨stillHeld, extended.trans (fun _ _ _ => Phases.Later.trans) extendedAgain⟩

theorem touched_iff
    (grows : ∀ state action next, step? state action = some next → holds state →
        holds next ∧
          Rows.Extends (Phases.Later view fun _ _ => True) (rows state)
            (rows next))
    (run : Run step? permitted first actions last) (initially : holds first)
    (key : κ) :
    Touched view rows step? permitted first actions last key ↔
      Touches view (rows first) (rows last) key := by
  constructor
  · rintro ⟨early, action, late, middle, next, rfl, earlyRun, stepped,
      lateRun, touches⟩
    obtain ⟨middleHolds, untilMiddle⟩ :=
      extends_of_run rows grows earlyRun initially
    obtain ⟨nextHolds, _⟩ := grows middle action next stepped middleHolds
    obtain ⟨_, untilLast⟩ := extends_of_run rows grows lateRun nextHolds
    rcases touches with ⟨absent, has⟩ | ⟨unbegun, begun⟩
    · exact .inl ⟨fun already => absent (already.extended untilMiddle),
            has.extended untilLast⟩
    · exact .inr ⟨fun already => unbegun (already.extended untilMiddle),
            begun.extended untilLast⟩
  · rintro (⟨absent, has⟩ | ⟨unbegun, begun⟩)
    · obtain ⟨early, action, late, middle, next, split, earlyRun, stepped,
        lateRun, before, after⟩ :=
        run.exists_change (fun state => Has view (rows state) key) absent has
      exact ⟨early, action, late, middle, next, split, earlyRun, stepped,
          lateRun, .inl ⟨before, after⟩⟩
    · obtain ⟨early, action, late, middle, next, split, earlyRun, stepped,
        lateRun, before, after⟩ :=
        run.exists_change
          (fun state => Begun view (rows state) key) unbegun begun
      exact ⟨early, action, late, middle, next, split, earlyRun, stepped,
          lateRun, .inr ⟨before, after⟩⟩

/-- What a run has not touched was there before and is the same. -/
theorem untouched_iff
    (grows : ∀ state action next, step? state action = some next → holds state →
        holds next ∧
          Rows.Extends (Phases.Later view fun _ _ => True) (rows state)
            (rows next))
    (run : Run step? permitted first actions last) (initially : holds first)
    (uniqueFirst : ((rows first).map view.identity).Nodup)
    (uniqueLast : ((rows last).map view.identity).Nodup)
    {row : ρ} (member : row ∈ rows last) :
    ¬ Touched view rows step? permitted first actions last (view.identity row) ↔
      ∃ old ∈ rows first, view.identity old = view.identity row ∧
          ((view.started row).isSome = true →
            (view.started old).isSome = true) := by
  rw [touched_iff grows run initially]
  constructor
  · intro untouched
    have has : Has view (rows first) (view.identity row) := by
      by_contra absent
      exact untouched (.inl ⟨absent, row, member, rfl⟩)
    obtain ⟨old, oldMember, same⟩ := has
    refine ⟨old, oldMember, same, ?_⟩
    intro started
    by_contra unstarted
    apply untouched
    refine .inr ⟨?_, row, member, rfl, started⟩
    rintro ⟨other, otherMember, otherSame, otherStarted⟩
    rw [Rows.eq_of_key uniqueFirst otherMember oldMember
      (otherSame.trans same.symm)] at otherStarted
    exact unstarted otherStarted
  · rintro ⟨old, oldMember, same, keeps⟩ (⟨absent, _⟩ | ⟨unbegun, begun⟩)
    · exact absent ⟨old, oldMember, same⟩
    · obtain ⟨other, otherMember, otherSame, otherStarted⟩ := begun
      rw [Rows.eq_of_key uniqueLast otherMember member otherSame]
        at otherStarted
      exact unbegun ⟨old, oldMember, same, keeps otherStarted⟩

end Histories
