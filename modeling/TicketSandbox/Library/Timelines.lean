import Mathlib.Data.List.Chain
import Mathlib.Data.List.Sort

namespace Timelines

/-!
# Lists of periods in which each begins where the one before ended

A row is a period with a beginning, and an end unless it is still open.  The
open periods are closed by an update of their own, and a new one is inserted
after it.
-/

universe u

/-! ## Continuous lists -/

/-- Every period ends where the next one begins, and the last one is open. -/
structure Continuous {ρ : Type u} (begins : ρ → Nat) (ends? : ρ → Option Nat)
    (rows : List ρ) : Prop where
  linked : rows.IsChain fun row next => ends? row = some (begins next)
  lastOpen : ∀ last ∈ rows.getLast?, ends? last = none

/-- The rows with the open ones closed. -/
def closeOpen {ρ : Type u} (ends? : ρ → Option Nat) (close : ρ → ρ)
    (rows : List ρ) : List ρ :=
  rows.map fun row => if ends? row = none then close row else row

variable {ρ : Type u} {close : ρ → ρ} {rows earlier : List ρ}
  {begins : ρ → Nat} {last row : ρ}

/-- Closing goes through the rows in order. -/
@[simp] theorem closeOpen_append
    (ends? : ρ → Option Nat) (close : ρ → ρ) (first second : List ρ) :
    closeOpen ends? close (first ++ second) =
      closeOpen ends? close first ++ closeOpen ends? close second :=
  List.map_append

theorem closeOpen_of_closed
    {ends? : ρ → Option Nat} (closed : ∀ row ∈ rows, ends? row ≠ none) :
    closeOpen ends? close rows = rows := by
  refine (List.map_congr_left ?_).trans rows.map_id
  intro row member
  simp [closed row member]

theorem closed_of_linked
    {ends? : ρ → Option Nat} (linked : (earlier ++ [last]).IsChain
        fun row next => ends? row = some (begins next)) :
    ∀ row ∈ earlier, ends? row ≠ none := by
  induction earlier with
  | nil => simp
  | cons first rest inductionHypothesis =>
      rw [List.cons_append, List.isChain_cons] at linked
      obtain ⟨firstEnds, linked⟩ := linked
      intro row member
      rcases List.mem_cons.mp member with rfl | inRest
      · cases rest with
        | nil =>
            rw [firstEnds last (by simp)]
            simp
        | cons second others =>
            rw [firstEnds second (by simp)]
            simp
      · exact inductionHypothesis linked row inRest

theorem exists_begins_of_linked {ends? : ρ → Option Nat}
    (linked : rows.IsChain fun row next => ends? row = some (begins next))
    (lastOpen : ∀ last ∈ rows.getLast?, ends? last = none) {ended : Nat}
    (member : row ∈ rows) (isEnded : ends? row = some ended) :
    ∃ next ∈ rows, begins next = ended := by
  induction rows with
  | nil => cases member
  | cons first rest inductionHypothesis =>
      cases rest with
      | nil =>
          obtain rfl := List.mem_singleton.mp member
          rw [lastOpen row (by simp)] at isEnded
          cases isEnded
      | cons second others =>
          rw [List.isChain_cons_cons] at linked
          rcases List.mem_cons.mp member with rfl | inRest
          · rw [linked.1] at isEnded
            exact ⟨second, by simp, Option.some.inj isEnded⟩
          · obtain ⟨next, nextMember, same⟩ := inductionHypothesis linked.2
                (fun last isLast => lastOpen last (by simpa using isLast))
                inRest
            exact ⟨next, List.mem_cons_of_mem _ nextMember, same⟩

namespace Continuous

variable {ends? : ρ → Option Nat}

theorem closed (continuous : Continuous begins ends? (earlier ++ [last])) :
    ∀ row ∈ earlier, ends? row ≠ none :=
  closed_of_linked continuous.linked

theorem ofOpen
    (linked : rows.IsChain fun row next => ends? row = some (begins next))
    (only : rows.filter (fun row => (ends? row).isNone) = [row]) :
    ∃ earlier, rows = earlier ++ [row] ∧ Continuous begins ends? rows := by
  have member : row ∈ rows.filter fun row => (ends? row).isNone := by
    simp [only]
  obtain ⟨inRows, isOpen⟩ := List.mem_filter.mp member
  have rowOpen : ends? row = none := by simpa using isOpen
  rcases List.eq_nil_or_concat rows with rfl | ⟨earlier, last, rfl⟩
  · cases inRows
  · rw [List.concat_eq_append] at *
    have closedBefore := closed_of_linked linked
    obtain rfl : row = last := by
      rcases List.mem_append.mp inRows with isEarlier | isLast
      · exact absurd rowOpen (closedBefore row isEarlier)
      · simpa using isLast
    exact ⟨earlier, rfl, linked, by simp [rowOpen]⟩

theorem filter_open (continuous : Continuous begins ends? (earlier ++ [last])) :
    (earlier ++ [last]).filter (fun row => (ends? row).isNone) = [last] := by
  have isOpen : ends? last = none := continuous.lastOpen last (by simp)
  have noneOpen : earlier.filter (fun row => (ends? row).isNone) = [] := by
    refine List.filter_eq_nil_iff.mpr ?_
    intro row member
    simpa using continuous.closed row member
  rw [List.filter_append, noneOpen]
  simp [isOpen]

theorem extend (continuous : Continuous begins ends? rows)
    (sameBegins : ∀ other, begins (close other) = begins other)
    (closesAt : ∀ other, ends? (close other) = some (begins row))
    (isOpen : ends? row = none) :
    Continuous begins ends? (closeOpen ends? close rows ++ [row]) := by
  refine ⟨?_, by simp [isOpen]⟩
  rcases List.eq_nil_or_concat rows with rfl | ⟨earlier, last, rfl⟩
  · simp [closeOpen]
  · rw [List.concat_eq_append] at continuous ⊢
    have lastOpen : ends? last = none := continuous.lastOpen last (by simp)
    have linked := continuous.linked
    rw [closeOpen_append, closeOpen_of_closed continuous.closed]
    simp only [closeOpen, List.map_cons, List.map_nil, lastOpen, ↓reduceIte]
    rw [List.isChain_append] at linked ⊢
    refine ⟨?_, by simp, ?_⟩
    · rw [List.isChain_append]
      refine ⟨linked.1, by simp, ?_⟩
      intro before isBefore next isNext
      obtain rfl : next = close last := by simpa using isNext.symm
      rw [sameBegins]
      exact linked.2.2 before isBefore last (by simp)
    · intro before isBefore next isNext
      obtain rfl : before = close last := by simpa using isBefore.symm
      obtain rfl : next = row := by simpa using isNext.symm
      exact closesAt last

end Continuous

/-! ## The order of the rows -/

theorem orderedInsert_append {precedes : ρ → ρ → Prop} [DecidableRel precedes]
    (before : precedes row last) (rows : List ρ) :
    List.orderedInsert precedes row (rows ++ [last]) =
      List.orderedInsert precedes row rows ++ [last] := by
  induction rows with
  | nil => simp [before]
  | cons first rest inductionHypothesis =>
      simp only [List.cons_append, List.orderedInsert_cons]
      split
      · rfl
      · rw [inductionHypothesis, List.cons_append]

/-- A last row stays last. -/
theorem insertionSort_append {precedes : ρ → ρ → Prop} [DecidableRel precedes]
    (before : ∀ row ∈ rows, precedes row last) :
    (rows ++ [last]).insertionSort precedes =
      rows.insertionSort precedes ++ [last] := by
  induction rows with
  | nil => rfl
  | cons first rest inductionHypothesis =>
      rw [List.cons_append, List.insertionSort_cons, List.insertionSort_cons,
        inductionHypothesis fun row member =>
          before row (List.mem_cons_of_mem _ member)]
      exact orderedInsert_append (before first List.mem_cons_self) _

end Timelines
