import TicketSandbox.Library.Rows

namespace Phases

/-!
# Rows that pass through phases

A row has an identity that never changes, may be started, and may be finished
once by an event.  A later version of a row keeps its identity, its start and
its finish; what is known of a newly added finish is a parameter.
-/

universe u v t w

/-- How to read identity, start and finish off a row. -/
structure View (ρ : Type u) (κ : Type v) (τ : Type t) (φ : Type w) where
  identity : ρ → κ
  started : ρ → Option τ
  finish : ρ → Option φ

/-- The row was started and not finished yet. -/
def View.isRunning
    {ρ : Type u} {κ : Type v} {τ : Type t} {φ : Type w} (view : View ρ κ τ φ)
    (row : ρ) : Prop :=
  (view.started row).isSome = true ∧ view.finish row = none

/-- A later version of a row. -/
structure Later
    {ρ : Type u} {κ : Type v} {τ : Type t} {φ : Type w} (view : View ρ κ τ φ)
    (added : ρ → φ → Prop) (old new : ρ) : Prop where
  identity : view.identity new = view.identity old
  started : ∀ start,
    view.started old = some start → view.started new = some start
  finish : view.finish new = view.finish old ∨ (view.finish old = none ∧
        ∃ event, view.finish new = some event ∧ added old event)

variable {ρ : Type u} {κ : Type v} {τ : Type t} {φ : Type w}
  {view : View ρ κ τ φ}
  {added : ρ → φ → Prop} {change : ρ → ρ} {rows : List ρ}

namespace Later

/-- A row is its own later version. -/
theorem refl (row : ρ) : Later view added row row :=
  ⟨rfl, fun _ => id, .inl rfl⟩

theorem weaken {strong weak : ρ → φ → Prop} {old new : ρ}
    (implies : ∀ event, strong old event → weak old event)
    (later : Later view strong old new) :
    Later view weak old new := by
  refine ⟨later.identity, later.started, ?_⟩
  rcases later.finish with same | ⟨unfinished, event, isNew, known⟩
  · exact .inl same
  · exact .inr ⟨unfinished, event, isNew, implies event known⟩

/-- A later version of a later version is one of the first. -/
theorem trans
    {first second third : ρ} (early : Later view (fun _ _ => True) first second)
    (late : Later view (fun _ _ => True) second third) :
    Later view (fun _ _ => True) first third := by
  refine ⟨late.identity.trans early.identity,
      fun start began => late.started start (early.started start began), ?_⟩
  rcases late.finish with same | ⟨unfinished, event, isNew, _⟩
  · rcases early.finish with alsoSame | ⟨unfinished, event, isNew, _⟩
    · exact .inl (same.trans alsoSame)
    · exact .inr ⟨unfinished, event, same.trans isNew, trivial⟩
  · rcases early.finish with same | ⟨_, earlier, earlierNew, _⟩
    · exact .inr ⟨same.symm.trans unfinished, event, isNew, trivial⟩
    · rw [unfinished] at earlierNew
      simp at earlierNew

theorem isStarted {old new : ρ} (later : Later view added old new)
    (began : (view.started old).isSome = true) :
    (view.started new).isSome = true := by
  obtain ⟨start, isStart⟩ := Option.isSome_iff_exists.mp began
  exact Option.isSome_iff_exists.mpr ⟨start, later.started start isStart⟩

variable {event : φ}

/-- A finish is kept. -/
theorem keepsFinish {old new : ρ} (later : Later view added old new)
    (finished : view.finish old = some event) :
    view.finish new = some event := by
  rcases later.finish with same | ⟨unfinished, _⟩
  · exact same.trans finished
  · rw [unfinished] at finished
    simp at finished

theorem finishCases {old new : ρ} (later : Later view added old new)
    (finished : view.finish new = some event) :
    view.finish old = some event ∨
      (view.finish old = none ∧ added old event) := by
  rcases later.finish with same | ⟨unfinished, other, isNew, known⟩
  · exact .inl (same.symm.trans finished)
  · have sameEvent : other = event :=
      Option.some.inj (isNew.symm.trans finished)
    exact .inr ⟨unfinished, sameEvent ▸ known⟩

theorem unfinished {old new : ρ} (later : Later view added old new)
    (unfinished : view.finish new = none) :
    view.finish old = none := by
  rcases later.finish with same | ⟨wasUnfinished, _⟩
  · exact same.symm.trans unfinished
  · exact wasUnfinished

theorem ofModify
    {ι : Type v} [DecidableEq ι] {key : ρ → ι} {wanted : ι} {row : ρ}
    (changed : key row = wanted → Later view added row (change row)) :
    Later view added row (if key row = wanted then change row else row) := by
  by_cases same : key row = wanted
  · simpa [same] using changed same
  · simpa [same] using refl row

end Later

/-- A table whose rows are later versions of the old rows. -/
def Rewritten
    {ρ : Type u} {κ : Type v} {τ : Type t} {φ : Type w} (view : View ρ κ τ φ)
    (added : ρ → φ → Prop) (old new : List ρ) : Prop :=
  ∃ change,
    new = old.map change ∧ ∀ row ∈ old, Later view added row (change row)

namespace Rewritten

theorem refl (rows : List ρ) : Rewritten view added rows rows :=
  ⟨id, by simp, fun row _ => .refl row⟩

variable {old new : List ρ} {row : ρ}

theorem map_eq
    {ν : Type*} {aspect : ρ → ν} (rewritten : Rewritten view added old new)
    (identified : ∀ first second, view.identity first = view.identity second →
        aspect first = aspect second) :
    new.map aspect = old.map aspect := by
  obtain ⟨change, rfl, later⟩ := rewritten
  rw [List.map_map]
  apply List.map_congr_left
  intro row member
  exact identified _ _ (later row member).identity

theorem length_eq
    (rewritten : Rewritten view added old new) : new.length = old.length := by
  obtain ⟨change, rfl, _⟩ := rewritten
  exact List.length_map ..

theorem ofMem (rewritten : Rewritten view added old new) (member : row ∈ new) :
    ∃ earlier ∈ old, Later view added earlier row := by
  obtain ⟨change, rfl, later⟩ := rewritten
  obtain ⟨earlier, earlierMember, rfl⟩ := List.mem_map.mp member
  exact ⟨earlier, earlierMember, later earlier earlierMember⟩

theorem mem (rewritten : Rewritten view added old new) (member : row ∈ old) :
    ∃ version ∈ new, Later view added row version := by
  obtain ⟨change, rfl, later⟩ := rewritten
  exact ⟨change row, List.mem_map_of_mem member, later row member⟩

theorem modify
    {ι : Type v} [DecidableEq ι] {key : ρ → ι} {wanted : ι} (changed :
      ∀ row ∈ rows, key row = wanted → Later view added row (change row)) :
    Rewritten view added rows (Rows.modify key wanted change rows) :=
  ⟨_, rfl, fun row member => .ofModify (changed row member)⟩

theorem map (changed : ∀ row ∈ rows, Later view added row (change row)) :
    Rewritten view added rows (rows.map change) :=
  ⟨change, rfl, changed⟩

/-- A table that is rewritten keeps its rows in their order. -/
theorem isExtended (rewritten : Rewritten view added old new) :
    Rows.Extends (Later view (fun _ _ => True)) old new := by
  obtain ⟨change, rfl, later⟩ := rewritten
  induction old with
  | nil => exact .added []
  | cons row rest inductionHypothesis =>
      refine .kept ((later row (by simp)).weaken fun _ _ => trivial) ?_
      exact inductionHypothesis fun other member =>
        later other (List.mem_cons_of_mem _ member)

end Rewritten

/-- No two different rows of the table are running. -/
def OneRunning
    {ρ : Type u} {κ : Type v} {τ : Type t} {φ : Type w} (view : View ρ κ τ φ)
    (rows : List ρ) : Prop :=
  ∀ first ∈ rows, ∀ second ∈ rows,
    view.isRunning first → view.isRunning second → first = second

namespace OneRunning

theorem append {added : ρ} (exclusive : OneRunning view rows)
    (unstarted : view.started added = none) :
    OneRunning view (rows ++ [added]) := by
  have old {row : ρ} (member : row ∈ rows ++ [added])
      (running : view.isRunning row) :
      row ∈ rows := by
    rcases List.mem_append.mp member with inRows | isAdded
    · exact inRows
    · rw [List.mem_singleton.mp isAdded] at running
      simp [View.isRunning, unstarted] at running
  intro first firstMember second secondMember firstRuns secondRuns
  exact exclusive first (old firstMember firstRuns) second
    (old secondMember secondRuns) firstRuns secondRuns

theorem map (exclusive : OneRunning view rows)
    (later : ∀ row ∈ rows, Later view added row (change row)) (noStart :
      ∀ row ∈ rows, (view.started (change row)).isSome = true →
          (view.started row).isSome = true) :
    OneRunning view (rows.map change) := by
  intro first firstMember second secondMember firstRuns secondRuns
  obtain ⟨old, oldMember, rfl⟩ := List.mem_map.mp firstMember
  obtain ⟨other, otherMember, rfl⟩ := List.mem_map.mp secondMember
  have oldRuns : view.isRunning old := ⟨noStart old oldMember firstRuns.1,
      (later old oldMember).unfinished firstRuns.2⟩
  have otherRuns : view.isRunning other :=
    ⟨noStart other otherMember secondRuns.1,
      (later other otherMember).unfinished secondRuns.2⟩
  rw [exclusive old oldMember other otherMember oldRuns otherRuns]

theorem start
    {ι : Type v} {key : ρ → ι} {wanted : ι} (unique : (rows.map key).Nodup)
    (others : ∀ row ∈ rows, key row ≠ wanted → view.finish row ≠ none)
    (untouched : ∀ row, key row ≠ wanted → change row = row) :
    OneRunning view (rows.map change) := by
  have wantedOnly {row : ρ} (member : row ∈ rows)
      (running : view.isRunning (change row)) :
      key row = wanted := by
    by_contra different
    rw [untouched row different] at running
    exact others row member different running.2
  intro first firstMember second secondMember firstRuns secondRuns
  obtain ⟨old, oldMember, rfl⟩ := List.mem_map.mp firstMember
  obtain ⟨other, otherMember, rfl⟩ := List.mem_map.mp secondMember
  have sameKey : key old = key other := (wantedOnly oldMember firstRuns).trans
      (wantedOnly otherMember secondRuns).symm
  rw [Rows.eq_of_key unique oldMember otherMember sameKey]

end OneRunning

end Phases
