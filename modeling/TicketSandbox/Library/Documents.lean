import Mathlib.Data.List.Nodup

namespace Documents

/-!
# Tables of documents that are written once

A table keeps one document under a key.  Writing a document again is accepted
when its digest is that of the document that is kept, and it changes nothing.
-/

universe u v w

/-- Documents under their keys, in the order in which they were written. -/
abbrev Table (κ : Type u) (α : Type v) := List (κ × α)

/-- The document under a key. -/
def get? {κ : Type u} {α : Type v} [DecidableEq κ] (table : Table κ α)
    (key : κ) : Option α :=
  (table.find? fun entry => decide (entry.1 = key)).map Prod.snd

/-- Write a document, unless there is another one with another digest. -/
def put? {κ : Type u} {α : Type v} {δ : Type w} [DecidableEq κ] [DecidableEq δ]
    (digest : α → δ) (table : Table κ α) (key : κ)
    (document : α) : Option (Table κ α) :=
  match get? table key with
  | some old => if digest old = digest document then some table else none
  | none => some (table ++ [(key, document)])

/-- Every key has one document. -/
def Unique {κ : Type u} {α : Type v} (table : Table κ α) : Prop :=
  (table.map Prod.fst).Nodup

theorem get?_cons {κ : Type u} {α : Type v} [DecidableEq κ] (entry : κ × α)
    (table : Table κ α) (key : κ) :
    get? (entry :: table) key =
      if entry.1 = key then some entry.2 else get? table key := by
  unfold get?
  rw [List.find?_cons]
  by_cases same : entry.1 = key
  · simp [same]
  · simp [same]

theorem mem_of_get?
    {κ : Type u} {α : Type v} [DecidableEq κ] {table : Table κ α} {key : κ}
    {document : α} (found : get? table key = some document) :
    (key, document) ∈ table := by
  obtain ⟨entry, isEntry, same⟩ := Option.map_eq_some_iff.mp found
  have member := List.mem_of_find?_eq_some isEntry
  have sameKey : entry.1 = key := by
    simpa using List.find?_some isEntry
  rw [← sameKey, ← same]
  exact member

theorem get?_eq_none_iff
    {κ : Type u} {α : Type v} [DecidableEq κ] {table : Table κ α} {key : κ} :
    get? table key = none ↔ key ∉ table.map Prod.fst := by
  rw [get?, Option.map_eq_none_iff, List.find?_eq_none, List.mem_map]
  constructor
  · rintro absent ⟨entry, member, same⟩
    exact absent entry member (by simp [same])
  · intro absent entry member same
    exact absent ⟨entry, member, by simpa using same⟩

theorem get?_append {κ : Type u} {α : Type v} [DecidableEq κ]
    (table : Table κ α) (entry : κ × α) (key : κ) :
    get? (table ++ [entry]) key =
      (get? table key).or (if entry.1 = key then some entry.2 else none) := by
  induction table with
  | nil => exact get?_cons entry [] key
  | cons first rest inductionHypothesis =>
      rw [List.cons_append, get?_cons, get?_cons, inductionHypothesis]
      split
      · rfl
      · rfl

/-- A document that was put is found, the others stay. -/
theorem get?_put?
    {κ : Type u} {α : Type v} {δ : Type w} [DecidableEq κ] [DecidableEq δ]
    {digest : α → δ} {table next : Table κ α} {key : κ} {document : α}
    (written : put? digest table key document = some next) (other : κ) :
    get? next other =
      if other = key then
        some ((get? table key).getD document)
      else
        get? table other := by
  unfold put? at written
  cases found : get? table key with
  | some old =>
      simp only [found, Option.ite_none_right_eq_some,
        Option.some.injEq] at written
      rw [← written.2]
      split
      · rename_i same
        rw [same, found, Option.getD_some]
      · rfl
  | none =>
      simp only [found, Option.some.injEq] at written
      rw [← written, get?_append]
      by_cases same : other = key
      · rw [same, found]
        simp
      · simp [same, Ne.symm same]

theorem get?_put?_of_some {κ : Type u} {α : Type v} {δ : Type w} [DecidableEq κ]
    [DecidableEq δ] {digest : α → δ} {table next : Table κ α} {key other : κ}
    {document kept : α} (written : put? digest table key document = some next)
    (found : get? table other = some kept) :
    get? next other = some kept := by
  rw [get?_put? written other]
  split
  · rename_i same
    rw [← same, found, Option.getD_some]
  · exact found

theorem Unique.put? {κ : Type u} {α : Type v} {δ : Type w} [DecidableEq κ]
    [DecidableEq δ] {digest : α → δ} {table next : Table κ α} {key : κ}
    {document : α} (unique : Unique table)
    (written : Documents.put? digest table key document = some next) :
    Unique next := by
  unfold Documents.put? at written
  cases found : get? table key with
  | some old =>
      simp only [found, Option.ite_none_right_eq_some,
        Option.some.injEq] at written
      exact written.2 ▸ unique
  | none =>
      simp only [found, Option.some.injEq] at written
      rw [← written, Unique, List.map_append]
      refine List.nodup_append.mpr ⟨unique, by simp, ?_⟩
      rintro other member _ isKey rfl
      rw [List.mem_singleton.mp isKey] at member
      exact get?_eq_none_iff.mp found member

theorem Unique.countP {κ : Type u} {α : Type v} [DecidableEq κ]
    {table : Table κ α} {key : κ} {document : α} (unique : Unique table)
    (found : get? table key = some document) :
    (table.countP fun entry => decide (entry.1 = key)) = 1 := by
  have member : key ∈ table.map Prod.fst :=
    List.mem_map.mpr ⟨_, mem_of_get? found, rfl⟩
  have counted : (table.map Prod.fst).count key = 1 :=
    List.count_eq_one_of_mem unique member
  rw [List.count, List.countP_map] at counted
  rw [← counted]
  refine List.countP_congr fun entry _ => ?_
  simp

/-- A table that kept its documents, and has unique keys if it had them. -/
structure Extends
    {κ : Type u} {α : Type v} [DecidableEq κ] (old new : Table κ α) : Prop where
  kept :
    ∀ key document, get? old key = some document → get? new key = some document
  unique : Unique old → Unique new

namespace Extends

/-- A table extends itself. -/
theorem refl {κ : Type u} {α : Type v} [DecidableEq κ] (table : Table κ α) :
    Extends table table where
  kept := fun _ _ found => found
  unique := id

theorem trans
    {κ : Type u} {α : Type v} [DecidableEq κ] {first second third : Table κ α}
    (early : Extends first second) (late : Extends second third) :
    Extends first third where
  kept := fun key document found =>
    late.kept key document (early.kept key document found)
  unique := late.unique ∘ early.unique

theorem put
    {κ : Type u} {α : Type v} {δ : Type w} [DecidableEq κ] [DecidableEq δ]
    {digest : α → δ} {table next : Table κ α} {key : κ} {document : α}
    (written : put? digest table key document = some next) :
    Extends table next where
  kept := fun _ _ found => get?_put?_of_some written found
  unique := fun unique => unique.put? written

end Extends

theorem get?_put?_self
    {κ : Type u} {α : Type v} {δ : Type w} [DecidableEq κ] [DecidableEq δ]
    {digest : α → δ} {table next : Table κ α} {key : κ} {document : α}
    (written : put? digest table key document = some next) :
    get? next key = some ((get? table key).getD document) := by
  rw [get?_put? written, if_pos rfl]

theorem get?_put?_cases {κ : Type u} {α : Type v} {δ : Type w} [DecidableEq κ]
    [DecidableEq δ] {digest : α → δ} {table next : Table κ α} {key other : κ}
    {document kept : α} (written : put? digest table key document = some next)
    (found : get? next other = some kept) :
    get? table other = some kept ∨ other = key ∧ kept = document := by
  rw [get?_put? written other] at found
  split at found
  · rename_i same
    cases present : get? table key with
    | some old =>
        rw [present, Option.getD_some] at found
        rw [same, present]
        exact .inl found
    | none =>
        rw [present, Option.getD_none] at found
        exact .inr ⟨same, (Option.some.inj found).symm⟩
  · exact .inl found

theorem get?_put?_ne_none
    {κ : Type u} {α : Type v} {δ : Type w} [DecidableEq κ] [DecidableEq δ]
    {digest : α → δ} {table next : Table κ α} {key other : κ} {document : α}
    (written : put? digest table key document = some next)
    (found : get? next other ≠ none) :
    get? table other ≠ none ∨ other = key := by
  obtain ⟨kept, isKept⟩ := Option.ne_none_iff_exists'.mp found
  rcases get?_put?_cases written isKept with before | ⟨same, _⟩
  · exact .inl (by simp [before])
  · exact .inr same

end Documents
