import Mathlib.Data.List.Basic
import Mathlib.Data.List.Pairwise

namespace Leases

/-!
# Leases in turn

Leases of one resource, in the order in which they were given.  A holder may
renew its own lease; another holder gets one when the last lease has expired.
At every moment one holder at most has a lease that has not expired.
-/

universe u

/-- A lease of a holder, from its start until before its expiry. -/
structure Lease (κ : Type u) where
  holder : κ
  start : Int
  expires : Int

/-- The lease has been given and has not expired. -/
structure Lease.IsHeld
    {κ : Type u} (lease : Lease κ) (moment : Int) : Prop where
  begun : lease.start ≤ moment
  lasts : moment < lease.expires

/-- The first lease does not stand in the way of the second one. -/
structure Yields {κ : Type u} (first second : Lease κ) : Prop where
  free : first.holder = second.holder ∨ first.expires ≤ second.start
  later : first.expires ≤ second.expires

/-- Every lease yields to all later ones. -/
def InTurn {κ : Type u} (leases : List (Lease κ)) : Prop :=
  leases.Pairwise Yields

variable {κ : Type u} {leases : List (Lease κ)} {lease : Lease κ}

theorem InTurn.append (inTurn : InTurn leases) (begun :
      ∀ last ∈ leases.getLast?, Yields last lease ∧ last.start ≤ lease.start) :
    InTurn (leases ++ [lease]) := by
  refine List.pairwise_append.mpr
    ⟨inTurn, List.pairwise_singleton _ _, fun earlier member other isOther =>
        ?_⟩
  obtain rfl := List.mem_singleton.mp isOther
  rcases List.eq_nil_or_concat' leases with rfl | ⟨before, last, rfl⟩
  · cases member
  · obtain ⟨yields, starts⟩ := begun last (by simp)
    rcases List.mem_append.mp member with isBefore | isLast
    · have precedes :=
        (List.pairwise_append.mp inTurn).2.2 earlier isBefore last (by simp)
      refine ⟨?_, Int.le_trans precedes.later yields.later⟩
      rcases yields.free with same | expired
      · rcases precedes.free with equal | ended
        · exact .inl (equal.trans same)
        · exact .inr (Int.le_trans ended starts)
      · exact .inr (Int.le_trans precedes.later expired)
    · rw [List.mem_singleton.mp isLast]
      exact yields

/-- No lease ends after the last one. -/
theorem InTurn.expires_le
    (inTurn : InTurn leases) {last : Lease κ} (member : lease ∈ leases)
    (isLast : leases.getLast? = some last) :
    lease.expires ≤ last.expires := by
  obtain ⟨before, rfl⟩ := List.getLast?_eq_some_iff.mp isLast
  rcases List.mem_append.mp member with isBefore | same
  · exact
      ((List.pairwise_append.mp inTurn).2.2 lease isBefore last (by simp)).later
  · obtain rfl := List.mem_singleton.mp same
    exact Int.le_refl _

/-- Leases in turn have one holder at a time. -/
theorem InTurn.holder_eq (inTurn : InTurn leases) {first second : Lease κ}
    (isFirst : first ∈ leases) (isSecond : second ∈ leases) {moment : Int}
    (firstHeld : first.IsHeld moment) (secondHeld : second.IsHeld moment) :
    first.holder = second.holder := by
  let agree (one other : Lease κ) : Prop :=
    one.IsHeld moment → other.IsHeld moment → one.holder = other.holder
  have symmetric : Std.Symm agree :=
    ⟨fun _ _ same otherHeld oneHeld => (same oneHeld otherHeld).symm⟩
  have pairwise : leases.Pairwise agree := by
    refine inTurn.imp fun precedes oneHeld otherHeld => ?_
    rcases precedes.free with same | expired
    · exact same
    · have ended := Int.le_trans expired otherHeld.begun
      exact (Int.not_lt.mpr ended oneHeld.lasts).elim
  exact pairwise.forall_of_forall (fun _ _ _ _ => rfl) isFirst isSecond
    firstHeld secondHeld

end Leases
