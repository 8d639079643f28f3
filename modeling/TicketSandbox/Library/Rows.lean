import Mathlib.Data.List.Range
import Mathlib.Data.List.Sort

namespace Rows

/-!
# Tables as lists of keyed rows

A table is the list of its rows in the order they were inserted.  Rows are
addressed by a key, rewritten in place, and numbered by an ordinal that the
writer computes as one more than the largest ordinal present.
-/

universe u v w

/-- Rewrite every row that carries the wanted key. -/
def modify {ρ : Type u} {κ : Type v} [DecidableEq κ] (key : ρ → κ) (wanted : κ)
    (change : ρ → ρ) (rows : List ρ) : List ρ :=
  rows.map fun row => if key row = wanted then change row else row

/-- The largest ordinal present, zero in an empty table. -/
def largest {ρ : Type u} (ordinal : ρ → Nat) (rows : List ρ) : Nat :=
  rows.foldr (fun row rest => max (ordinal row) rest) 0

/-- A row with the largest ordinal, the earliest one when there are several. -/
def newest? {ρ : Type u} (ordinal : ρ → Nat) (rows : List ρ) : Option ρ :=
  rows.find? fun row => ordinal row = largest ordinal rows

/-- The rows carry the ordinals `1`, `2`, … in insertion order. -/
def Numbered {ρ : Type u} (ordinal : ρ → Nat) (rows : List ρ) : Prop :=
  rows.map ordinal = List.range' 1 rows.length

/-- The rows in the order of their ordinals. -/
def ordered {ρ : Type u} (ordinal : ρ → Nat) (rows : List ρ) : List ρ :=
  rows.insertionSort fun first second => ordinal first ≤ ordinal second

variable {ρ : Type u} {κ : Type v} {ordinal : ρ → Nat} {rows : List ρ}
  {row : ρ} {key : ρ → κ}

theorem ordered_eq (increasing : (rows.map ordinal).Pairwise (· < ·)) :
    ordered ordinal rows = rows := by
  refine List.Pairwise.insertionSort_eq ?_
  exact (List.pairwise_map.mp increasing).imp fun smaller =>
    Nat.le_of_lt smaller

theorem map_modify {ν : Type w} [DecidableEq κ]
    {wanted : κ} {change : ρ → ρ} {view : ρ → ν}
    (kept : ∀ row ∈ rows, key row = wanted → view (change row) = view row) :
    (modify key wanted change rows).map view = rows.map view := by
  simp only [modify, List.map_map]
  apply List.map_congr_left
  intro row member
  by_cases same : key row = wanted
  · simp [same, kept row member same]
  · simp [same]

/-- A rewrite adds and removes no row. -/
@[simp] theorem length_modify
    [DecidableEq κ] (key : ρ → κ) (wanted : κ)
    (change : ρ → ρ) (rows : List ρ) :
    (modify key wanted change rows).length = rows.length := by
  simp [modify]

theorem mem_modify [DecidableEq κ] {wanted : κ} {change : ρ → ρ} :
    row ∈ modify key wanted change rows ↔ ∃ old ∈ rows,
        (key old = wanted ∧ row = change old) ∨
          (key old ≠ wanted ∧ row = old) := by
  simp only [modify, List.mem_map]
  constructor
  · rintro ⟨old, member, rfl⟩
    by_cases same : key old = wanted
    · exact ⟨old, member, .inl ⟨same, by simp [same]⟩⟩
    · exact ⟨old, member, .inr ⟨same, by simp [same]⟩⟩
  · rintro ⟨old, member, ⟨same, rfl⟩ | ⟨different, rfl⟩⟩
    · exact ⟨old, member, by simp [same]⟩
    · exact ⟨row, member, by simp [different]⟩

theorem find?_modify [DecidableEq κ]
    {wanted : κ} {change : ρ → ρ} {test : ρ → Bool}
    (kept : ∀ row ∈ rows, key row = wanted → test (change row) = test row) :
    (modify key wanted change rows).find? test =
      (rows.find? test).map fun row =>
        if key row = wanted then change row else row := by
  induction rows with
  | nil => rfl
  | cons first rest inductionHypothesis =>
      have inRest := inductionHypothesis fun row member =>
          kept row (List.mem_cons_of_mem _ member)
      have sameTest :
          test (if key first = wanted then change first else first) =
            test first := by
        split
        · rename_i same
          exact kept first List.mem_cons_self same
        · rfl
      simp only [modify, List.map_cons, List.find?_cons, sameTest]
      cases test first with
      | true => rfl
      | false => exact inRest

theorem modify_of_absent [DecidableEq κ] {wanted : κ} {change : ρ → ρ}
    (absent : ∀ row ∈ rows, key row ≠ wanted) :
    modify key wanted change rows = rows := by
  induction rows with
  | nil => rfl
  | cons row rest inductionHypothesis =>
      have headDiffers : key row ≠ wanted := absent row (by simp)
      have restUnchanged : modify key wanted change rest = rest :=
        inductionHypothesis fun later member =>
          absent later (List.mem_cons_of_mem _ member)
      simp only [modify, List.map_cons, headDiffers, ↓reduceIte]
      exact congrArg (row :: ·) restUnchanged

theorem modify_append_new [DecidableEq κ] {change : ρ → ρ} {added : ρ}
    (absent : ∀ row ∈ rows, key row ≠ key added) :
    modify key (key added) change (rows ++ [added]) =
      rows ++ [change added] := by
  have earlier : modify key (key added) change rows = rows :=
    modify_of_absent absent
  have shape : modify key (key added) change (rows ++ [added]) =
        modify key (key added) change rows ++ [change added] := by
    simp [modify]
  rw [shape, earlier]

theorem countP_modify_same [DecidableEq κ] {wanted : κ}
    {change : ρ → ρ} {counted : ρ → Bool} (rows : List ρ) (kept :
      ∀ row ∈ rows, key row = wanted → counted (change row) = counted row) :
    (modify key wanted change rows).countP counted =
      rows.countP counted := by
  induction rows with
  | nil => rfl
  | cons row rest inductionHypothesis =>
      have restKept : (modify key wanted change rest).countP counted =
            rest.countP counted :=
        inductionHypothesis fun later member =>
          kept later (List.mem_cons_of_mem _ member)
      have headKept : counted (if key row = wanted then change row else row) =
            counted row := by
        by_cases same : key row = wanted
        · simp [same, kept row (by simp) same]
        · simp [same]
      have shape : modify key wanted change (row :: rest) =
            (if key row = wanted then change row else row) ::
              modify key wanted change rest := rfl
      rw [shape, List.countP_cons, List.countP_cons, restKept, headKept]

theorem countP_modify_flip [DecidableEq κ] {wanted : κ} {change : ρ → ρ}
    {counted : ρ → Bool} (unique : (rows.map key).Nodup) {target : ρ}
    (member : target ∈ rows)
    (keyed : key target = wanted) (before : counted target = false)
    (after : counted (change target) = true) :
    (modify key wanted change rows).countP counted =
      rows.countP counted + 1 := by
  induction rows with
  | nil => cases member
  | cons row rest inductionHypothesis =>
      have split := List.nodup_cons.mp unique
      have shape : modify key wanted change (row :: rest) =
            (if key row = wanted then change row else row) ::
              modify key wanted change rest := rfl
      rw [shape, List.countP_cons, List.countP_cons]
      rcases List.mem_cons.mp member with sameRow | later
      · subst sameRow
        have restAbsent : ∀ other ∈ rest, key other ≠ wanted := by
          intro other otherMember sameKey
          apply split.1
          rw [keyed, ← sameKey]
          exact List.mem_map_of_mem otherMember
        rw [modify_of_absent restAbsent]
        simp [keyed, before, after]
      · have headDiffers : key row ≠ wanted := by
          intro sameKey
          apply split.1
          rw [sameKey, ← keyed]
          exact List.mem_map_of_mem later
        rw [inductionHypothesis split.2 later]
        simp only [headDiffers, ↓reduceIte]
        exact Nat.add_right_comm _ _ _

/-- Rows with the same key are one row. -/
theorem eq_of_key (unique : (rows.map key).Nodup) {first second : ρ}
    (firstMember : first ∈ rows) (secondMember : second ∈ rows)
    (same : key first = key second) :
    first = second :=
  List.inj_on_of_nodup_map unique firstMember secondMember same

/-- What is true of the row only, among those of its key, finds the row. -/
theorem find?_of_key (unique : (rows.map key).Nodup) (member : row ∈ rows)
    {predicate : ρ → Bool} (holds : predicate row = true)
    (only : ∀ other, predicate other = true → key other = key row) :
    rows.find? predicate = some row := by
  obtain ⟨found, isFound⟩ := Option.isSome_iff_exists.mp
    (List.find?_isSome.mpr ⟨row, member, holds⟩)
  rw [isFound, eq_of_key unique (List.mem_of_find?_eq_some isFound) member
    (only found (List.find?_some isFound))]

theorem largest_append (ordinal : ρ → Nat) (rows : List ρ) (row : ρ) :
    largest ordinal (rows ++ [row]) =
      max (largest ordinal rows) (ordinal row) := by
  induction rows with
  | nil => exact Nat.max_comm _ _
  | cons head rest inductionHypothesis =>
      calc
        largest ordinal (head :: rest ++ [row])
            = max (ordinal head) (largest ordinal (rest ++ [row])) := rfl
        _ = max (ordinal head) (max (largest ordinal rest) (ordinal row)) := by
          rw [inductionHypothesis]
        _ = max (max (ordinal head) (largest ordinal rest)) (ordinal row) :=
          (Nat.max_assoc _ _ _).symm

theorem nodup_append_new {added : ρ} (unique : (rows.map key).Nodup)
    (absent : ∀ row ∈ rows, key row ≠ key added) :
    ((rows ++ [added]).map key).Nodup := by
  rw [List.map_append, List.nodup_append]
  refine ⟨unique, by simp, ?_⟩
  intro present presentMember new newMember
  obtain ⟨row, member, rfl⟩ := List.mem_map.mp presentMember
  have sameKey : new = key added := by simpa using newMember
  rw [sameKey]
  exact absent row member

theorem le_largest (ordinal : ρ → Nat) (member : row ∈ rows) :
    ordinal row ≤ largest ordinal rows := by
  induction rows with
  | nil => cases member
  | cons head rest inductionHypothesis =>
      rcases List.mem_cons.mp member with rfl | later
      · exact Nat.le_max_left _ _
      · exact Nat.le_trans (inductionHypothesis later) (Nat.le_max_right _ _)

theorem newest?_append (next : ordinal row = largest ordinal rows + 1) :
    newest? ordinal (rows ++ [row]) = some row := by
  have isLargest : largest ordinal (rows ++ [row]) = ordinal row := by
    rw [largest_append, next]
    exact Nat.max_eq_right (Nat.le_succ _)
  have earlierSmaller :
      rows.find? (fun earlier => ordinal earlier = ordinal row) = none := by
    rw [List.find?_eq_none]
    intro earlier member
    have bounded := le_largest ordinal member
    simp only [decide_eq_true_eq]
    omega
  simp [newest?, isLargest, List.find?_append, earlierSmaller]

namespace Numbered

theorem nil (ordinal : ρ → Nat) : Numbered ordinal ([] : List ρ) :=
  rfl

theorem split (numbered : Numbered ordinal (rows ++ [row])) :
    Numbered ordinal rows ∧ ordinal row = rows.length + 1 := by
  have shape : rows.map ordinal ++ [ordinal row] =
        List.range' 1 rows.length ++ [rows.length + 1] := by
    have listed := numbered
    simp only [Numbered, List.map_append, List.map_cons, List.map_nil,
      List.length_append, List.length_cons, List.length_nil,
      Nat.zero_add, List.range'_1_concat] at listed
    rw [listed, Nat.add_comm 1 rows.length]
  obtain ⟨earlier, last⟩ := List.append_inj' shape rfl
  exact ⟨earlier, by simpa using last⟩

theorem largest (numbered : Numbered ordinal rows) :
    Rows.largest ordinal rows = rows.length := by
  induction rows using List.reverseRecOn with
  | nil => rfl
  | append_singleton early row inductionHypothesis =>
      obtain ⟨earlyNumbered, rowOrdinal⟩ := numbered.split
      rw [largest_append, inductionHypothesis earlyNumbered, rowOrdinal,
        List.length_append, List.length_singleton]
      exact Nat.max_eq_right (Nat.le_succ _)

theorem append (numbered : Numbered ordinal rows)
    (next : ordinal row = Rows.largest ordinal rows + 1) :
    Numbered ordinal (rows ++ [row]) := by
  have rowOrdinal : ordinal row = 1 + rows.length := by
    rw [next, numbered.largest, Nat.add_comm]
  have earlier : rows.map ordinal = List.range' 1 rows.length := numbered
  simp only [Numbered, List.map_append, List.map_cons, List.map_nil,
    List.length_append, List.length_cons, List.length_nil, Nat.zero_add,
    List.range'_1_concat, earlier, rowOrdinal]

theorem ordered_eq
    (numbered : Numbered ordinal rows) : ordered ordinal rows = rows := by
  refine Rows.ordered_eq ?_
  rw [show rows.map ordinal = _ from numbered]
  exact List.pairwise_lt_range'

theorem newest?_eq_getLast? (numbered : Numbered ordinal rows) :
    newest? ordinal rows = rows.getLast? := by
  induction rows using List.reverseRecOn with
  | nil => rfl
  | append_singleton early row _ =>
      obtain ⟨earlyNumbered, rowOrdinal⟩ := numbered.split
      rw [newest?_append (by rw [rowOrdinal, earlyNumbered.largest])]
      simp

end Numbered

/--
A later version of a table: every old row is still in its place, possibly
changed along a relation, and any rows may follow.
-/
inductive Extends {ρ : Type u} (later : ρ → ρ → Prop) :
    List ρ → List ρ → Prop where
  | added (rows : List ρ) : Extends later [] rows
  | kept {row version : ρ} {old new : List ρ} : later row version →
      Extends later old new →
      Extends later (row :: old) (version :: new)

namespace Extends

variable {later : ρ → ρ → Prop}

theorem append (reflexive : ∀ row, later row row) (rows added : List ρ) :
    Extends later rows (rows ++ added) := by
  induction rows with
  | nil => exact .added added
  | cons row rest inductionHypothesis =>
      exact .kept (reflexive row) inductionHypothesis

theorem refl (reflexive : ∀ row, later row row) (rows : List ρ) :
    Extends later rows rows := by
  simpa using append reflexive rows []

theorem trans (transitive : ∀ first second third,
        later first second → later second third → later first third)
    {first second third : List ρ} (early : Extends later first second)
    (late : Extends later second third) :
    Extends later first third := by
  induction early generalizing third with
  | added rows => exact .added third
  | kept rowLater _ inductionHypothesis =>
      cases late with
      | kept versionLater rest =>
          exact .kept (transitive _ _ _ rowLater versionLater)
            (inductionHypothesis rest)

theorem mem
    {old new : List ρ} (extended : Extends later old new) (member : row ∈ old) :
    ∃ version ∈ new, later row version := by
  induction extended with
  | added rows => cases member
  | kept rowLater _ inductionHypothesis =>
      rcases List.mem_cons.mp member with rfl | inRest
      · exact ⟨_, List.mem_cons_self, rowLater⟩
      · obtain ⟨version, versionMember, versionLater⟩ :=
          inductionHypothesis inRest
        exact ⟨version, List.mem_cons_of_mem _ versionMember, versionLater⟩

end Extends

end Rows
