import Mathlib.Data.List.Basic

namespace Chains

/-!
# Lists in which every item refers to the one before it

An append-only log is often required to be linked: each item stands in a
relation to its predecessor, and the first item to the absence of one.  The
rules below follow the growth of such a log at its end.
-/

universe u v

/-- Every item is linked to the one before it, the first one to `previous`. -/
def Linked {ρ : Type u} (link : Option ρ → ρ → Prop) :
    Option ρ → List ρ → Prop
  | _, [] => True
  | previous, item :: rest => link previous item ∧ Linked link (some item) rest

/-- Whether a list is linked can be computed where the relation can. -/
instance instDecidableLinked
    {ρ : Type u} (link : Option ρ → ρ → Prop)
    [∀ previous item, Decidable (link previous item)] :
    ∀ previous items, Decidable (Linked link previous items)
  | _, [] => inferInstanceAs (Decidable True)
  | previous, item :: rest =>
      have := instDecidableLinked link (some item) rest
      inferInstanceAs
        (Decidable (link previous item ∧ Linked link (some item) rest))

/-- The positions at which a view differs from the one before. -/
def changes {ρ : Type u} {ν : Type v} [DecidableEq ν] (view : ρ → ν) :
    Option ρ → List ρ → Nat
  | _, [] => 0
  | previous, item :: rest =>
      (if previous.map view = some (view item) then 0 else 1) +
        changes view (some item) rest

variable {ρ : Type u}

theorem getLast?_cons_or (previous : Option ρ) (item : ρ) (rest : List ρ) :
    ((item :: rest).getLast?).or previous = rest.getLast?.or (some item) := by
  rw [List.getLast?_cons]
  cases rest.getLast? <;> rfl

namespace Linked

variable {link : Option ρ → ρ → Prop} {items : List ρ}

theorem append_iff {previous : Option ρ} {item : ρ} :
    Linked link previous (items ++ [item]) ↔
      Linked link previous items ∧ link (items.getLast?.or previous) item := by
  induction items generalizing previous with
  | nil => simp [Linked]
  | cons first rest inductionHypothesis =>
      rw [getLast?_cons_or, List.cons_append, Linked, Linked, and_assoc,
        inductionHypothesis]

/-- A chain goes on with an item that follows the last one. -/
theorem append {item : ρ} (linked : Linked link none items)
    (follows : link items.getLast? item) :
    Linked link none (items ++ [item]) := by
  refine append_iff.mpr ⟨linked, ?_⟩
  rw [Option.or_none]
  exact follows

end Linked

theorem changes_append {ν : Type v} [DecidableEq ν] (view : ρ → ν)
    (previous : Option ρ) (items : List ρ) (item : ρ) :
    changes view previous (items ++ [item]) = changes view previous items +
        if (items.getLast?.or previous).map view = some (view item) then
          0
        else
          1 := by
  induction items generalizing previous with
  | nil => simp [changes]
  | cons first rest inductionHypothesis =>
      rw [getLast?_cons_or, List.cons_append, changes, changes,
        inductionHypothesis, Nat.add_assoc]

end Chains
