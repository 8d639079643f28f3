import Mathlib.Data.List.Perm.Basic
import TicketSandbox.Library.Rows

namespace Findings

/-!
# Lists of findings

A check reports a list of findings, and passes when the list is empty.  The
combinators below build such lists row by row; each has one lemma that says
what it means that nothing was found.
-/

universe u v w

/-- The finding, where the condition holds. -/
def when {ι : Type u} (condition : Prop) [Decidable condition]
    (finding : ι) : List ι :=
  if condition then [finding] else []

/-- Nothing is found where the condition fails. -/
@[simp] theorem when_eq_nil
    {ι : Type u} {condition : Prop} [Decidable condition] {finding : ι} :
    when condition finding = [] ↔ ¬ condition := by
  unfold when
  split <;> simp_all

variable {ρ α : Type u} {κ : Type v} {key : ρ → κ} {rows : List ρ} {row : ρ}
  {first second : List α}

/-- There are no findings when no row has one. -/
theorem flatMap_eq_nil {ι : Type v} {check : ρ → List ι} {rows : List ρ} :
    rows.flatMap check = [] ↔ ∀ row ∈ rows, check row = [] :=
  List.flatMap_eq_nil_iff

/-- The row that a dictionary built from the rows keeps under the key. -/
def lastWith
    {ρ : Type u} {κ : Type v} [DecidableEq κ] (key : ρ → κ) (wanted : κ)
    (rows : List ρ) : Option ρ :=
  rows.reverse.find? fun row => decide (key row = wanted)

theorem find?_eq_some_of_key
    {ρ : Type u} {κ : Type v} [DecidableEq κ] {key : ρ → κ} {wanted : κ}
    {rows : List ρ} {row : ρ} (distinct : (rows.map key).Nodup)
    (member : row ∈ rows) (isKey : key row = wanted) :
    (rows.find? fun other => decide (key other = wanted)) = some row := by
  exact Rows.find?_of_key distinct member (decide_eq_true isKey)
    fun other same => (of_decide_eq_true same).trans isKey.symm

theorem lastWith_some
    {ρ : Type u} {κ : Type v} [DecidableEq κ] {key : ρ → κ} {wanted : κ}
    {rows : List ρ} {row : ρ} (found : lastWith key wanted rows = some row) :
    row ∈ rows ∧ key row = wanted := by
  have same := List.find?_some found
  have member := List.mem_of_find?_eq_some found
  exact ⟨List.mem_reverse.mp member, of_decide_eq_true same⟩

theorem lastWith_eq_some {ρ : Type u} {κ : Type v} [DecidableEq κ] {key : ρ → κ}
    {wanted : κ} {rows : List ρ} {row : ρ} (distinct : (rows.map key).Nodup) :
    lastWith key wanted rows = some row ↔ row ∈ rows ∧ key row = wanted := by
  constructor
  · exact lastWith_some
  · rintro ⟨member, isKey⟩
    refine find?_eq_some_of_key ?_ (List.mem_reverse.mpr member) isKey
    rw [List.map_reverse]
    exact List.nodup_reverse.mpr distinct

theorem map_lastWith {ρ : Type u} {σ : Type v} {κ : Type w} [DecidableEq κ]
    (carried : ρ → σ) (key : σ → κ) (wanted : κ) (rows : List ρ) :
    (lastWith (fun row => key (carried row)) wanted rows).map carried =
      lastWith key wanted (rows.map carried) := by
  unfold lastWith
  rw [← List.map_reverse, List.find?_map]
  rfl

/-- Two lists have the same members. -/
def SameMembers {α : Type u} (first second : List α) : Prop :=
  (∀ item ∈ first, item ∈ second) ∧ ∀ item ∈ second, item ∈ first

instance {α : Type u} [DecidableEq α] (first second : List α) :
    Decidable (SameMembers first second) :=
  inferInstanceAs (Decidable (_ ∧ _))

theorem pinned_perm {ρ : Type u} {κ : Type v} [DecidableEq κ] {key : ρ → κ}
    {rows pinned : List ρ} (distinct : (rows.map key).Nodup)
    (distinctPins : (pinned.map key).Nodup) :
    (SameMembers (rows.map key) (pinned.map key) ∧
        ∀ pin ∈ pinned, lastWith key (key pin) rows = some pin) ↔
      rows.Perm pinned := by
  constructor
  · rintro ⟨same, kept⟩
    refine (List.perm_ext_iff_of_nodup distinct.of_map
      distinctPins.of_map).mpr fun row => ⟨?_, ?_⟩
    · intro member
      obtain ⟨pin, isPin, sameKey⟩ :=
        List.mem_map.mp (same.1 _ (List.mem_map_of_mem member))
      have isKept := (lastWith_eq_some distinct).mpr ⟨member, rfl⟩
      rw [← sameKey, kept pin isPin] at isKept
      rw [← Option.some.inj isKept]
      exact isPin
    · intro isPin
      exact (lastWith_some (kept row isPin)).1
  · intro perm
    have keys := perm.map key
    refine ⟨⟨fun _ => keys.mem_iff.mp, fun _ => keys.mem_iff.mpr⟩, ?_⟩
    intro pin isPin
    exact (lastWith_eq_some distinct).mpr ⟨perm.mem_iff.mpr isPin, rfl⟩

theorem carried_perm {ρ : Type u} {σ : Type v} {κ : Type w} [DecidableEq κ]
    {carried : ρ → σ} {key : σ → κ} {rows : List ρ} {pinned : List σ}
    (distinct : (rows.map fun row => key (carried row)).Nodup)
    (distinctPins : (pinned.map key).Nodup) :
    (SameMembers (rows.map fun row => key (carried row)) (pinned.map key) ∧
        ∀ pin ∈ pinned,
          (lastWith (fun row => key (carried row)) (key pin) rows).map carried =
            some pin) ↔
      (rows.map carried).Perm pinned := by
  have keys :
      (rows.map carried).map key = rows.map fun row => key (carried row) :=
    List.map_map
  simp only [map_lastWith]
  rw [← keys] at distinct ⊢
  exact pinned_perm distinct distinctPins

theorem kept_perm {ρ : Type u} {σ : Type v} {κ : Type w} [DecidableEq κ]
    {carried : ρ → σ} {key : σ → κ} {rows : List ρ} {pinned : List σ}
    (distinct : (rows.map fun row => key (carried row)).Nodup)
    (same : (rows.map carried).Perm pinned) :
    (pinned.filterMap fun pin =>
      lastWith (fun row => key (carried row)) (key pin) rows).Perm rows := by
  refine (same.filterMap _).symm.trans ?_
  have kept : ∀ row ∈ rows,
        lastWith (fun row => key (carried row)) (key (carried row)) rows =
          some row :=
    fun row member => (lastWith_eq_some distinct).mpr ⟨member, rfl⟩
  have all : (rows.map carried).filterMap (fun pin =>
          lastWith (fun row => key (carried row)) (key pin) rows) =
        rows.filterMap some := by
    rw [List.filterMap_map]
    exact List.filterMap_congr kept
  rw [all, List.filterMap_some]

end Findings
