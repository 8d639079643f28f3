import Mathlib.Logic.Basic

namespace Raises

/-!
# Code that may raise

`Except` as the result of code that raises: a check that raises unless its
condition holds, a lookup that raises when it finds nothing, and what it means
that a sequence of such steps returned.
-/

universe u v w

/-- Raise unless the condition holds. -/
def ensure {ε : Type u} (condition : Prop) [Decidable condition]
    (failure : ε) : Except ε Unit :=
  if condition then .ok () else .error failure

/-- Raise when the lookup found nothing. -/
def required {ε : Type u} {α : Type v} (failure : ε) :
    Option α → Except ε α
  | some value => .ok value
  | none => .error failure

variable {ε : Type u} {α β : Type v} {first : Except ε α}
  {rest : α → Except ε β} {failure : ε} {items : List α} {allowed : ε → Prop}

/-- A sequence succeeds when both of its parts do. -/
theorem bind_ok {result : β} :
    (first >>= rest) = .ok result ↔
      ∃ value, first = .ok value ∧ rest value = .ok result := by
  cases first with
  | error failure => simp [bind, Except.bind]
  | ok value => simp [bind, Except.bind]

theorem bind_error :
    (first >>= rest) = .error failure ↔ first = .error failure ∨
        ∃ value, first = .ok value ∧ rest value = .error failure := by
  cases first with
  | error other => simp [bind, Except.bind]
  | ok value => simp [bind, Except.bind]

theorem pure_ok {value result : α} :
    (pure value : Except ε α) = .ok result ↔ value = result :=
  Except.ok.injEq value result ▸ Iff.rfl

variable {condition : Prop}

/-- A check succeeds when its condition holds. -/
theorem ensure_ok [Decidable condition] {result : Unit} :
    ensure condition failure = .ok result ↔ condition := by
  unfold ensure
  split
  · rename_i holds
    exact ⟨fun _ => holds, fun _ => rfl⟩
  · rename_i fails
    exact ⟨nofun, fun holds => (fails holds).elim⟩

theorem ensure_error [Decidable condition] {failure raised : ε} :
    ensure condition failure = .error raised ↔
      ¬ condition ∧ raised = failure := by
  unfold ensure
  split
  · rename_i holds
    simp [holds]
  · rename_i fails
    simp [fails, eq_comm]

theorem required_ok {found : Option α} {value : α} :
    required failure found = .ok value ↔ found = some value := by
  cases found with
  | none => simp [required]
  | some other => simp [required]

theorem foldlM_invariant
    {β : Type w} {round : β → α → Except ε β} (holds : β → Prop) (kept :
      ∀ before, ∀ item ∈ items, ∀ after,
        holds before → round before item = .ok after → holds after)
    {first last : β} (initially : holds first)
    (returned : items.foldlM round first = .ok last) :
    holds last := by
  induction items generalizing first with
  | nil =>
      cases returned
      exact initially
  | cons item rest inductionHypothesis =>
      rw [List.foldlM_cons] at returned
      obtain ⟨middle, one, returned⟩ := bind_ok.mp returned
      refine inductionHypothesis ?_ ?_ returned
      · exact fun before other member =>
          kept before other (List.mem_cons_of_mem _ member)
      · exact kept first item List.mem_cons_self middle initially one

theorem foldlM_returns {β : Type w} {round : β → α → Except ε β}
    (rounds : ∀ before, ∀ item ∈ items, ∃ after, round before item = .ok after)
    (first : β) :
    ∃ last, items.foldlM round first = .ok last := by
  induction items generalizing first with
  | nil => exact ⟨first, rfl⟩
  | cons item rest inductionHypothesis =>
      obtain ⟨middle, one⟩ := rounds first item List.mem_cons_self
      obtain ⟨last, returned⟩ := inductionHypothesis (fun before other member =>
            rounds before other (List.mem_cons_of_mem _ member))
          middle
      refine ⟨last, ?_⟩
      rw [List.foldlM_cons]
      exact bind_ok.mpr ⟨middle, one, returned⟩

/-- Nothing is raised that is not allowed. -/
def Only {ε : Type u} {α : Type v} (allowed : ε → Prop)
    (result : Except ε α) : Prop :=
  ∀ failure, result = .error failure → allowed failure

theorem only_iff {result : Except ε α} :
    Only allowed result ↔ (∃ value, result = .ok value) ∨
        ∃ failure, result = .error failure ∧ allowed failure := by
  unfold Only
  cases result with
  | error failure => simp
  | ok value => simp

theorem only_pure (value : α) : Only allowed (pure value : Except ε α) :=
  nofun

theorem only_error :
    Only allowed (.error failure : Except ε α) ↔ allowed failure := by
  unfold Only
  simp

theorem only_ensure [Decidable condition] :
    Only allowed (ensure condition failure) ↔ condition ∨ allowed failure := by
  unfold Only ensure
  split
  · rename_i holds
    simp [holds]
  · rename_i fails
    simp [fails]

theorem only_required {found : Option α} :
    Only allowed (required failure found) ↔
      found.isSome = true ∨ allowed failure := by
  unfold Only
  cases found with
  | none => simp [required]
  | some value => simp [required]

theorem only_bind :
    Only allowed (first >>= rest) ↔ Only allowed first ∧
        ∀ value, first = .ok value → Only allowed (rest value) := by
  unfold Only
  cases first with
  | error failure => simp [bind, Except.bind]
  | ok value => simp [bind, Except.bind]

theorem only_guard {α : Type} [Decidable condition]
    (isAllowed : allowed failure) {rest : Unit → Except ε α} :
    Only allowed (ensure condition failure >>= rest) ↔
      (condition → Only allowed (rest ())) := by
  rw [only_bind, only_ensure]
  constructor
  · rintro ⟨_, isRest⟩ holds
    exact isRest () (ensure_ok.mpr holds)
  · intro isRest
    exact ⟨Or.inr isAllowed, fun _ isOk => isRest (ensure_ok.mp isOk)⟩

theorem isOk_iff {result : Except ε α} :
    result.isOk = true ↔ ∃ value, result = .ok value := by
  cases result with
  | error failure => simp [Except.isOk, Except.toBool]
  | ok value => simp [Except.isOk, Except.toBool]

end Raises
