import Mathlib.Data.List.Perm.Basic
import TicketSandbox.Library.Rows

namespace Rows

/-!
# Replacing one row of a table

Where the key is unique, rewriting the rows under a key replaces one row.
Replacements under one key compose, and the last one stands.  What is taken
out of a list by its place lowers every count by what it counts.
-/

universe u v

/-- Let the row stand for every row under its key. -/
def put {ρ : Type u} {κ : Type v} [DecidableEq κ] (key : ρ → κ) (row : ρ)
    (rows : List ρ) : List ρ :=
  modify key (key row) (fun _ => row) rows

/-- A replacement keeps the keys. -/
@[simp] theorem map_put
    {ρ : Type u} {κ : Type v} [DecidableEq κ] (key : ρ → κ) (row : ρ)
    (rows : List ρ) :
    (put key row rows).map key = rows.map key :=
  map_modify fun _ _ same => same.symm

theorem mem_put
    {ρ : Type u} {κ : Type v} [DecidableEq κ] {key : ρ → κ} {rows : List ρ}
    {old row version : ρ} (member : old ∈ rows) (same : key row = key old) :
    version ∈ put key row rows ↔
      version = row ∨ (version ∈ rows ∧ key version ≠ key row) := by
  rw [put, mem_modify]
  constructor
  · rintro ⟨other, otherMember, ⟨_, shape⟩ | ⟨different, shape⟩⟩
    · exact .inl shape
    · exact .inr ⟨shape ▸ otherMember, shape ▸ different⟩
  · rintro (shape | ⟨otherMember, different⟩)
    · exact ⟨old, member, .inl ⟨same.symm, shape⟩⟩
    · exact ⟨version, otherMember, .inr ⟨different, rfl⟩⟩

theorem put_put
    {ρ : Type u} {κ : Type v} [DecidableEq κ] {key : ρ → κ} {first second : ρ}
    (rows : List ρ) (same : key second = key first) :
    put key second (put key first rows) = put key second rows := by
  simp only [put, modify, List.map_map]
  apply List.map_congr_left
  intro row _
  by_cases isFirst : key row = key first
  · simp [isFirst, same]
  · simp [isFirst, same]

theorem put_self
    {ρ : Type u} {κ : Type v} [DecidableEq κ] {key : ρ → κ} {row : ρ}
    {rows : List ρ} (unique : (rows.map key).Nodup) (member : row ∈ rows) :
    put key row rows = rows := by
  have identity : ∀ other ∈ rows, key other = key row → row = other :=
    fun other otherMember same => eq_of_key unique member otherMember same.symm
  simp only [put, modify]
  refine (List.map_congr_left ?_).trans (List.map_id rows)
  intro other otherMember
  split
  · rename_i same
    exact identity other otherMember same
  · rfl

theorem modify_eq_put {ρ : Type u} {κ : Type v} [DecidableEq κ] {key : ρ → κ}
    {change : ρ → ρ} {row : ρ} {rows : List ρ} (unique : (rows.map key).Nodup)
    (member : row ∈ rows) (same : key (change row) = key row) :
    modify key (key row) change rows = put key (change row) rows := by
  simp only [put, modify, same]
  apply List.map_congr_left
  intro other otherMember
  split
  · rename_i sameKey
    rw [eq_of_key unique otherMember member sameKey]
  · rfl

theorem countP_eraseIdx
    {α : Type u} (counts : α → Bool) {elements : List α} {index : Nat}
    {element : α} (found : elements[index]? = some element) :
    elements.countP counts = (elements.eraseIdx index).countP counts +
        if counts element then 1 else 0 := by
  obtain ⟨bound, rfl⟩ := List.getElem?_eq_some_iff.mp found
  rw [← (List.getElem_cons_eraseIdx_perm bound).countP_eq, List.countP_cons]

end Rows

namespace Upserts

/-!
# Writing rows one after another

A table whose rows have a key and claim a place that only one row may have.
Writing a row replaces the one under its key or adds it, and is refused while
a row under another key has the place.  Rows that are written one after another
all get their places exactly when every place is free, or is given up by a row
that was written before.
-/

universe u v w

/-- Replace the row under the key, or add the row. -/
def upsert {ρ : Type u} {κ : Type v} [DecidableEq κ] (key : ρ → κ) (row : ρ)
    (rows : List ρ) : List ρ :=
  if key row ∈ rows.map key then Rows.put key row rows else rows ++ [row]

/-- No row under another key has the place of the row. -/
def IsFree {ρ : Type u} {κ : Type v} {γ : Type w} (key : ρ → κ) (claim : ρ → γ)
    (row : ρ) (rows : List ρ) : Prop :=
  ∀ other ∈ rows, claim other = claim row → key other = key row

instance
    {ρ : Type u} {κ : Type v} {γ : Type w} [DecidableEq κ] [DecidableEq γ]
    (key : ρ → κ) (claim : ρ → γ) (row : ρ) (rows : List ρ) :
    Decidable (IsFree key claim row rows) :=
  inferInstanceAs (Decidable (∀ other ∈ rows, _ → _))

/-- Write the rows in their order, unless one is refused. -/
def writeAll?
    {ρ : Type u} {κ : Type v} {γ : Type w} [DecidableEq κ] [DecidableEq γ]
    (key : ρ → κ) (claim : ρ → γ) : List ρ → List ρ → Option (List ρ)
  | [], rows => some rows
  | row :: rest, rows =>
      if IsFree key claim row rows then
        writeAll? key claim rest (upsert key row rows)
      else
        none

theorem mem_upsert {ρ : Type u} {κ : Type v} [DecidableEq κ] {key : ρ → κ}
    {row other : ρ} {rows : List ρ} :
    other ∈ upsert key row rows ↔
      other = row ∨ (other ∈ rows ∧ key other ≠ key row) := by
  unfold upsert
  split
  · rename_i present
    obtain ⟨old, isOld, same⟩ := List.mem_map.mp present
    exact Rows.mem_put isOld same.symm
  · rename_i absent
    rw [List.mem_append, List.mem_singleton]
    constructor
    · rintro (member | isRow)
      · refine .inr ⟨member, fun same => absent ?_⟩
        exact same ▸ List.mem_map_of_mem member
      · exact .inl isRow
    · rintro (isRow | ⟨member, _⟩)
      · exact .inr isRow
      · exact .inl member

theorem upsert_keys {ρ : Type u} {κ : Type v} [DecidableEq κ] {key : ρ → κ}
    {row : ρ} {rows : List ρ} (unique : (rows.map key).Nodup) :
    ((upsert key row rows).map key).Nodup := by
  unfold upsert
  split
  · rw [Rows.map_put]
    exact unique
  · rename_i absent
    refine Rows.nodup_append_new unique ?_
    intro other member same
    exact absent (same ▸ List.mem_map_of_mem member)

theorem upsert_self
    {ρ : Type u} {κ : Type v} [DecidableEq κ] {key : ρ → κ} {row : ρ}
    {rows : List ρ} (unique : (rows.map key).Nodup) (member : row ∈ rows) :
    upsert key row rows = rows := by
  rw [upsert, if_pos (List.mem_map_of_mem member)]
  exact Rows.put_self unique member

/-- Two rows with one place are one row. -/
def Apart {ρ : Type u} {κ : Type v} {γ : Type w} (key : ρ → κ) (claim : ρ → γ)
    (rows : List ρ) : Prop :=
  ∀ row ∈ rows, IsFree key claim row rows

theorem Apart.upsert {ρ : Type u} {κ : Type v} {γ : Type w} [DecidableEq κ]
    {key : ρ → κ} {claim : ρ → γ} {row : ρ} {rows : List ρ}
    (apart : Apart key claim rows) (isFree : IsFree key claim row rows) :
    Apart key claim (Upserts.upsert key row rows) := by
  intro first isFirst second isSecond same
  rcases mem_upsert.mp isFirst with rfl | ⟨firstOld, _⟩
  · rcases mem_upsert.mp isSecond with rfl | ⟨secondOld, _⟩
    · rfl
    · exact isFree second secondOld same
  · rcases mem_upsert.mp isSecond with rfl | ⟨secondOld, _⟩
    · exact (isFree first firstOld same.symm).symm
    · exact apart first firstOld second secondOld same

theorem writeAll?_spec {ρ : Type u} {κ : Type v} {γ : Type w} [DecidableEq κ]
    [DecidableEq γ] {key : ρ → κ} {claim : ρ → γ} {incoming rows after : List ρ}
    (written : writeAll? key claim incoming rows = some after)
    (unique : (rows.map key).Nodup) (apart : Apart key claim rows)
    (distinct : (incoming.map key).Nodup) :
    (after.map key).Nodup ∧ Apart key claim after ∧
      (∀ row ∈ incoming, row ∈ after) ∧
      ∀ row ∈ rows, key row ∉ incoming.map key → row ∈ after := by
  induction incoming generalizing rows with
  | nil =>
      cases written
      refine ⟨unique, apart, ?_, fun row member _ => member⟩
      intro row member
      cases member
  | cons row rest inductionHypothesis =>
      simp only [writeAll?, Option.ite_none_right_eq_some] at written
      obtain ⟨isFree, writtenRest⟩ := written
      obtain ⟨notLater, distinctRest⟩ := List.nodup_cons.mp distinct
      obtain ⟨keys, places, arrived, kept⟩ :=
        inductionHypothesis writtenRest (upsert_keys unique)
          (apart.upsert isFree) distinctRest
      refine ⟨keys, places, ?_, ?_⟩
      · intro other member
        rcases List.mem_cons.mp member with rfl | later
        · exact kept other (mem_upsert.mpr (.inl rfl)) notLater
        · exact arrived other later
      · intro other member notIncoming
        rw [List.map_cons, List.mem_cons, not_or] at notIncoming
        exact kept other (mem_upsert.mpr (.inr ⟨member, notIncoming.1⟩))
          notIncoming.2

theorem writeAll?_again {ρ : Type u} {κ : Type v} {γ : Type w} [DecidableEq κ]
    [DecidableEq γ] {key : ρ → κ} {claim : ρ → γ} {incoming rows : List ρ}
    (unique : (rows.map key).Nodup) (apart : Apart key claim rows)
    (present : ∀ row ∈ incoming, row ∈ rows) :
    writeAll? key claim incoming rows = some rows := by
  induction incoming with
  | nil => rfl
  | cons row rest inductionHypothesis =>
      have member : row ∈ rows := present row List.mem_cons_self
      rw [writeAll?, if_pos (apart row member), upsert_self unique member]
      exact inductionHypothesis fun other later =>
        present other (List.mem_cons_of_mem _ later)

/-- When rows can be written one after another. -/
theorem writeAll?_iff {ρ : Type u} {κ : Type v} {γ : Type w} [DecidableEq κ]
    [DecidableEq γ] {key : ρ → κ} {claim : ρ → γ} {incoming rows : List ρ}
    (claims : (incoming.map claim).Nodup) :
    (∃ after, writeAll? key claim incoming rows = some after) ↔
      ∀ early row late, incoming = early ++ row :: late →
        ∀ other ∈ rows, claim other = claim row →
          key other = key row ∨ key other ∈ early.map key := by
  induction incoming generalizing rows with
  | nil =>
      refine ⟨?_, fun _ => ⟨rows, rfl⟩⟩
      intro _ early row late split
      simp at split
  | cons row rest inductionHypothesis =>
      obtain ⟨notLater, claimsRest⟩ := List.nodup_cons.mp claims
      simp only [writeAll?, Option.ite_none_right_eq_some]
      constructor
      · rintro ⟨after, isFree, written⟩ early wanted late split other member
          same
        have inRest := (inductionHypothesis claimsRest).mp ⟨after, written⟩
        cases early with
        | nil =>
            obtain ⟨rfl, rfl⟩ := List.cons.inj split
            exact .inl (isFree other member same)
        | cons first early =>
            obtain ⟨rfl, splitRest⟩ := List.cons.inj split
            by_cases isRow : key other = key row
            · exact .inr
                  (List.mem_map.mpr ⟨row, List.mem_cons_self, isRow.symm⟩)
            · have inNext := mem_upsert.mpr (.inr ⟨member, isRow⟩)
              rcases inRest early wanted late splitRest other inNext same
                with isWanted | before
              · exact .inl isWanted
              · exact .inr (List.mem_cons_of_mem _ before)
      · intro condition
        have isFree : IsFree key claim row rows := by
          intro other member same
          rcases condition [] row rest rfl other member same
            with isRow | before
          · exact isRow
          · cases before
        have restWritten : ∃ after,
              writeAll? key claim rest (upsert key row rows) = some after := by
          refine (inductionHypothesis claimsRest).mpr ?_
          intro early wanted late split other member same
          rcases mem_upsert.mp member with rfl | ⟨old, differs⟩
          · refine (notLater ?_).elim
            rw [same, split]
            exact List.mem_map_of_mem
              (List.mem_append_right _ List.mem_cons_self)
          · rcases condition (row :: early) wanted late
              (by rw [split, List.cons_append]) other old same
              with isWanted | before
            · exact .inl isWanted
            · rcases List.mem_cons.mp before with isRow | earlier
              · exact (differs isRow).elim
              · exact .inr earlier
        obtain ⟨after, written⟩ := restWritten
        exact ⟨after, isFree, written⟩

end Upserts
