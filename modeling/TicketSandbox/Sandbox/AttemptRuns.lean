import TicketSandbox.Sandbox.AttemptNumbers

namespace TicketSandbox.Sandbox.AttemptNumbers

/-!
# Runs of requests on the attempts at a task

In every run the attempts are numbered without gaps and the last one is the
current one.  A new attempt stands behind a passed one while every
`rerun_task` still finds its own attempt to be the latest when it asks for the
next number.
-/

open Runs

/-! ## Rows -/

/-- What `rerun_task` asks of an attempt, apart from `is_current`. -/
def Row.IsPassed (row : Row) : Prop :=
  row.technicalLocked = true ∧ row.attempt.status = .passed

theorem Row.canRerun_iff {row : Row} :
    row.canRerun = true ↔ row.isCurrent = true ∧ row.IsPassed := by
  simp [Row.canRerun, Row.IsPassed, and_assoc]

theorem Row.isPassed_passed (now : Timestamp) (row : Row) :
    (row.passed now).IsPassed := by
  refine ⟨?_, rfl⟩
  simp only [Row.technicalLocked, Row.passed, technicalPassed]
  cases row.attempt.technicalPassedAt with
  | none => rfl
  | some before => rfl

/-- The attempts are numbered, and the last one is the current one. -/
structure IsNumbered (rows : List Row) : Prop where
  numbered : Rows.Numbered Row.number rows
  last : ∀ row ∈ rows, row.isCurrent = true → row.number = rows.length
  exists_current : rows ≠ [] → ∃ row ∈ rows, row.isCurrent = true

variable {number : Nat} {versions : List Row} {good : Row → Prop}

namespace IsNumbered

variable {rows : List Row}

theorem number_iff (isNumbered : IsNumbered rows) :
    number ∈ rows.map Row.number ↔ 1 ≤ number ∧ number ≤ rows.length := by
  rw [show rows.map Row.number = _ from isNumbered.numbered,
    List.mem_range'_1, Nat.add_comm 1, Nat.lt_succ_iff]

variable {second : Row}

theorem eq_of_number (isNumbered : IsNumbered rows) {first : Row}
    (isFirst : first ∈ rows) (isSecond : second ∈ rows)
    (same : first.number = second.number) :
    first = second := by
  refine Rows.eq_of_key ?_ isFirst isSecond same
  rw [show rows.map Row.number = _ from isNumbered.numbered]
  exact List.nodup_range'

theorem existsUnique (isNumbered : IsNumbered rows) (present : rows ≠ []) :
    ∃! row, row ∈ rows ∧ row.isCurrent = true := by
  obtain ⟨row, member, isCurrent⟩ := isNumbered.exists_current present
  refine ⟨row, ⟨member, isCurrent⟩, ?_⟩
  rintro other ⟨otherMember, otherCurrent⟩
  refine isNumbered.eq_of_number otherMember member ?_
  rw [isNumbered.last other otherMember otherCurrent,
    isNumbered.last row member isCurrent]

theorem next_number (isNumbered : IsNumbered rows)
    (follows : number = 1 ∨ ∃ base ∈ rows, base.number + 1 = number)
    (free : number ∉ rows.map Row.number) :
    number = rows.length + 1 := by
  rw [isNumbered.number_iff, not_and_or, not_le, not_le] at free
  rcases follows with rfl | ⟨base, isBase, rfl⟩
  · have empty : rows.length < 1 := free.resolve_left (Nat.lt_irrefl 1)
    rw [Nat.lt_one_iff.mp empty]
  · have bounds := isNumbered.number_iff.mp (List.mem_map_of_mem isBase)
    have tooLarge : rows.length < base.number + 1 :=
      free.resolve_left (Nat.not_lt.mpr (Nat.le_add_left 1 _))
    rw [Nat.le_antisymm bounds.2 (Nat.le_of_lt_succ tooLarge)]

theorem of_same (isNumbered : IsNumbered rows) (same :
      versions.map (fun row => (row.number, row.isCurrent)) =
        rows.map fun row => (row.number, row.isCurrent)) :
    IsNumbered versions := by
  have lengths : versions.length = rows.length := by
    simpa using congrArg List.length same
  have numbers : versions.map Row.number = rows.map Row.number := by
    have firsts := congrArg (List.map Prod.fst) same
    rw [List.map_map, List.map_map] at firsts
    exact firsts
  refine ⟨?_, ?_, ?_⟩
  · rw [Rows.Numbered, numbers, lengths]
    exact isNumbered.numbered
  · intro version member isCurrent
    have entry : (version.number, version.isCurrent) ∈
          rows.map fun row => (row.number, row.isCurrent) :=
      same ▸ List.mem_map_of_mem member
    obtain ⟨row, isRow, shape⟩ := List.mem_map.mp entry
    obtain ⟨sameNumber, sameCurrent⟩ := Prod.mk.inj shape
    rw [← sameNumber, lengths]
    exact isNumbered.last row isRow (sameCurrent.trans isCurrent)
  · intro present
    have rowsPresent : rows ≠ [] := by
      rintro rfl
      exact present (List.length_eq_zero_iff.mp lengths)
    obtain ⟨row, isRow, isCurrent⟩ := isNumbered.exists_current rowsPresent
    have entry : (row.number, row.isCurrent) ∈
          versions.map fun row => (row.number, row.isCurrent) :=
      same ▸ List.mem_map_of_mem isRow
    obtain ⟨version, member, shape⟩ := List.mem_map.mp entry
    exact ⟨version, member, (Prod.mk.inj shape).2.trans isCurrent⟩

theorem current_eq (isUnique : IsUnique rows) {first : Row}
    (isFirst : first ∈ rows) (isSecond : second ∈ rows)
    (firstCurrent : first.isCurrent = true)
    (secondCurrent : second.isCurrent = true) :
    first = second := by
  have inFirst : first ∈ current rows :=
    List.mem_filter.mpr ⟨isFirst, firstCurrent⟩
  have inSecond : second ∈ current rows :=
    List.mem_filter.mpr ⟨isSecond, secondCurrent⟩
  obtain ⟨only, isOnly⟩ := List.length_eq_one_iff.mp
      (Nat.le_antisymm isUnique.2 (List.length_pos_of_mem inFirst))
  rw [isOnly, List.mem_singleton] at inFirst inSecond
  rw [inFirst, inSecond]

theorem append (isNumbered : IsNumbered rows) {added : Row}
    (numbers : versions.map Row.number = rows.map Row.number)
    (follows : added.number = 1 ∨ ∃ base ∈ rows, base.number + 1 = added.number)
    (isCurrent : added.isCurrent = true)
    (isUnique : IsUnique (versions ++ [added])) :
    IsNumbered (versions ++ [added]) ∧ added.number = rows.length + 1 := by
  have lengths : versions.length = rows.length := by
    simpa using congrArg List.length numbers
  have free : added.number ∉ rows.map Row.number := by
    have distinct := isUnique.1
    rw [List.map_append, numbers] at distinct
    intro taken
    exact (List.nodup_append.mp distinct).2.2 _ taken _
        (List.mem_singleton_self _) rfl
  have next := isNumbered.next_number follows free
  refine ⟨⟨?_, ?_, ?_⟩, next⟩
  · have versionsNumbered : Rows.Numbered Row.number versions := by
      rw [Rows.Numbered, numbers, lengths]
      exact isNumbered.numbered
    refine versionsNumbered.append ?_
    rw [versionsNumbered.largest, next, lengths]
  · intro row member rowCurrent
    have same : row = added := current_eq isUnique member
        (List.mem_append_right _ (List.mem_singleton_self _)) rowCurrent
        isCurrent
    rw [same, next, List.length_append, lengths]
    rfl
  · intro _
    exact
      ⟨added, List.mem_append_right _ (List.mem_singleton_self _), isCurrent⟩

theorem setCurrent (isNumbered : IsNumbered rows) {pk : Pk}
    (isUnique : IsUnique (Rows.modify Row.pk pk (Row.setCurrent true) rows)) :
    IsNumbered (Rows.modify Row.pk pk (Row.setCurrent true) rows) := by
  have numbers :
      (Rows.modify Row.pk pk (Row.setCurrent true) rows).map Row.number =
        rows.map Row.number :=
    Rows.map_modify fun _ _ _ => rfl
  have versionOf : rows ≠ [] →
      ∃ version ∈ Rows.modify Row.pk pk (Row.setCurrent true) rows,
        version.isCurrent = true ∧ version.number = rows.length := by
    intro present
    obtain ⟨row, isRow, isCurrent⟩ := isNumbered.exists_current present
    have isLast := isNumbered.last row isRow isCurrent
    by_cases same : row.pk = pk
    · exact ⟨row.setCurrent true,
          Rows.mem_modify.mpr ⟨row, isRow, .inl ⟨same, rfl⟩⟩, rfl, isLast⟩
    · exact ⟨row, Rows.mem_modify.mpr ⟨row, isRow, .inr ⟨same, rfl⟩⟩, isCurrent,
          isLast⟩
  refine ⟨?_, ?_, ?_⟩
  · rw [Rows.Numbered, numbers, Rows.length_modify]
    exact isNumbered.numbered
  · intro version member isCurrent
    obtain ⟨old, isOld, _⟩ := Rows.mem_modify.mp member
    obtain ⟨current, isVersion, versionCurrent, isLast⟩ :=
      versionOf (List.ne_nil_of_mem isOld)
    rw [current_eq isUnique member isVersion isCurrent versionCurrent, isLast,
      Rows.length_modify]
  · intro present
    have rowsPresent : rows ≠ [] := by
      rintro rfl
      exact present rfl
    obtain ⟨version, isVersion, versionCurrent, _⟩ := versionOf rowsPresent
    exact ⟨version, isVersion, versionCurrent⟩

end IsNumbered

/-! ## Requests -/

/-- What passing an attempt gives, and `is_current` does not matter for. -/
structure IsKept (good : Row → Prop) : Prop where
  passed : ∀ row : Row, row.IsPassed → good row
  setCurrent : ∀ row isCurrent, good row → good (row.setCurrent isCurrent)

/-- What a request has read stands behind an attempt of the rows. -/
def Founded (good : Row → Prop) (rows : List Row) : Phase → Prop
  | .read row =>
      ∃ version ∈ rows, version.identity = row.identity ∧ good version
  | .selecting _ (some latest) =>
      ∃ version ∈ rows, version.number = latest.number ∧ good version
  | .numbered _ _ number =>
      number = 1 ∨ ∃ base ∈ rows, base.number + 1 = number ∧ good base
  | .updating _ _ number _ =>
      number = 1 ∨ ∃ base ∈ rows, base.number + 1 = number ∧ good base
  | .cleared _ _ number _ =>
      number = 1 ∨ ∃ base ∈ rows, base.number + 1 = number ∧ good base
  | _ => True

/-- Every row has a version that is good if the row was. -/
def Rewritten (good : Row → Prop) (rows versions : List Row) : Prop :=
  ∀ row ∈ rows, ∃ version ∈ versions,
      version.identity = row.identity ∧ (good row → good version)

theorem Rewritten.base
    {rows : List Row} (rewritten : Rewritten good rows versions)
    (based : number = 1 ∨ ∃ base ∈ rows, base.number + 1 = number ∧ good base) :
    number = 1 ∨ ∃ base ∈ versions, base.number + 1 = number ∧ good base := by
  rcases based with isFirst | ⟨base, isBase, follows, isGood⟩
  · exact .inl isFirst
  · obtain ⟨version, isVersion, same, keeps⟩ := rewritten base isBase
    refine .inr ⟨version, isVersion, ?_, keeps isGood⟩
    rw [← follows, Row.number, same, Row.number]

theorem Founded.rewritten
    {rows : List Row} {phase : Phase} (founded : Founded good rows phase)
    (rewritten : Rewritten good rows versions) :
    Founded good versions phase := by
  cases phase with
  | read row =>
      obtain ⟨base, isBase, same, isGood⟩ := founded
      obtain ⟨version, isVersion, sameVersion, keeps⟩ := rewritten base isBase
      exact ⟨version, isVersion, sameVersion.trans same, keeps isGood⟩
  | selecting row latest =>
      cases latest with
      | none => trivial
      | some latest =>
          obtain ⟨base, isBase, same, isGood⟩ := founded
          obtain ⟨version, isVersion, sameVersion, keeps⟩ :=
            rewritten base isBase
          refine ⟨version, isVersion, ?_, keeps isGood⟩
          rw [← same, Row.number, sameVersion, Row.number]
  | numbered row lock number => exact rewritten.base founded
  | updating row lock number seen => exact rewritten.base founded
  | cleared row lock number held => exact rewritten.base founded
  | missed => trivial
  | saving row => trivial
  | creating => trivial
  | refused => trivial

theorem Rewritten.map {rows : List Row} {change : Row → Row}
    (same : ∀ row, (change row).identity = row.identity)
    (keeps : ∀ row, good row → good (change row)) (added : List Row) :
    Rewritten good rows (rows.map change ++ added) := by
  intro row member
  exact
    ⟨change row, List.mem_append_left _ (List.mem_map_of_mem member), same row,
      keeps row⟩

namespace System

/-- What holds between any two statements. -/
structure Kept (good : Row → Prop) (sys : System) : Prop where
  rows : IsNumbered sys.rows
  founded : ∀ request ∈ sys.requests, Founded good sys.rows request.phase

variable {sys next : System} {id : Pk} {action : Action}

theorem Kept.phase (kept : sys.Kept good) {phase : Phase}
    (inPhase : sys.phase? id = some phase) :
    Founded good sys.rows phase := by
  obtain ⟨request, found, rfl⟩ := Option.map_eq_some_iff.mp inPhase
  exact kept.founded request (List.mem_of_find?_eq_some found)

theorem Kept.enter (kept : sys.Kept good) {phase : Phase}
    (founded : Founded good sys.rows phase) :
    (sys.enter id phase).Kept good where
  rows := kept.rows
  founded := by
    intro request member
    obtain ⟨old, isOld, ⟨_, rfl⟩ | ⟨_, rfl⟩⟩ := Rows.mem_modify.mp member
    · exact founded
    · exact kept.founded request isOld

theorem Kept.begin (kept : sys.Kept good) {phase : Phase}
    (founded : Founded good sys.rows phase) :
    (sys.begin id phase).Kept good where
  rows := kept.rows
  founded := by
    intro request member
    rcases List.mem_append.mp member with before | isNew
    · exact kept.founded request before
    · rw [List.mem_singleton.mp isNew]
      exact founded

theorem Kept.leave
    (kept : sys.Kept good) (id : Pk) : (sys.leave id).Kept good where
  rows := kept.rows
  founded := fun request member =>
    kept.founded request (List.mem_filter.mp member).1

theorem Kept.rewrite (kept : sys.Kept good) (isNumbered : IsNumbered versions)
    (rewritten : Rewritten good sys.rows versions) :
    Kept good { sys with rows := versions } where
  rows := isNumbered
  founded := fun request member =>
    (kept.founded request member).rewritten rewritten

theorem Kept.skip (kept : sys.Kept good) (nextPk : Pk) :
    Kept good { sys with nextPk := nextPk } :=
  ⟨kept.rows, kept.founded⟩

/-- The latest attempt at the time of the number is a good one. -/
def Selects (good : Row → Prop) (sys : System) : Action → Prop
  | .select id =>
      ∀ row latest, sys.phase? id = some (.read row) →
        latest? sys.rows = some latest →
        good latest
  | _ => True

theorem commit_getD {refused : System} {rows : List Row} :
    (sys.commit rows).getD refused = { sys with rows := rows } ∧ IsUnique rows ∨
      (sys.commit rows).getD refused = refused := by
  unfold commit
  split
  · rename_i isUnique
    exact .inl ⟨rfl, isUnique⟩
  · exact .inr rfl

theorem clear_identity (held : List Pk) (row : Row) :
    (if row.pk ∈ held then row.setCurrent false else row).identity =
      row.identity := by
  split
  · rfl
  · rfl

theorem create_rows
    (isKept : IsKept good) (kept : sys.Kept good) {held : List Pk} (based :
      number = 1 ∨ ∃ base ∈ sys.rows, base.number + 1 = number ∧ good base) :
    (sys.create id number held).Kept good ∧
      ((sys.create id number held).rows = sys.rows ∨
        number = sys.rows.length + 1 ∧
          (sys.create id number held).rows.map Row.number =
            sys.rows.map Row.number ++ [number]) := by
  unfold create
  dsimp only
  have numbers : (sys.rows.map fun row =>
            if row.pk ∈ held then row.setCurrent false else row).map
          Row.number =
        sys.rows.map Row.number := by
    rw [List.map_map]
    refine List.map_congr_left fun row _ => ?_
    simp only [Function.comp_apply, Row.number, clear_identity]
  rcases commit_getD with ⟨committed, isUnique⟩ | refused
  · rw [committed]
    have follows : (sys.created number
              { TaskAttempt.created with
                lastCheckOutput := rerunOutput }).number = 1 ∨
          ∃ base ∈ sys.rows, base.number + 1 = number := by
      rcases based with isFirst | ⟨base, isBase, same, _⟩
      · exact .inl isFirst
      · exact .inr ⟨base, isBase, same⟩
    obtain ⟨isNumbered, next⟩ := kept.rows.append numbers follows rfl isUnique
    refine ⟨((kept.leave id).skip _).rewrite isNumbered
        (Rewritten.map (clear_identity held) ?_ _), .inr ⟨next, ?_⟩⟩
    · intro row isGood
      split
      · exact isKept.setCurrent row false isGood
      · exact isGood
    · rw [List.map_append, numbers]
      rfl
  · rw [refused]
    exact ⟨(kept.leave id).skip _, .inl rfl⟩

theorem first_rows (kept : sys.Kept good) :
    (sys.first id).Kept good ∧ ((sys.first id).rows = sys.rows ∨
        (sys.first id).rows.map Row.number =
          sys.rows.map Row.number ++ [1]) := by
  unfold first
  dsimp only
  rcases commit_getD with ⟨committed, isUnique⟩ | refused
  · rw [committed]
    obtain ⟨isNumbered, _⟩ := kept.rows.append rfl (.inl rfl) rfl isUnique
    refine ⟨((kept.leave id).skip _).rewrite isNumbered ?_, .inr ?_⟩
    · intro row member
      exact ⟨row, List.mem_append_left _ member, rfl, fun isGood => isGood⟩
    · rw [List.map_append]
      rfl
  · rw [refused]
    have founded : Founded good sys.rows .refused := trivial
    exact ⟨(kept.enter founded).skip _, .inl rfl⟩

theorem save_rows (isKept : IsKept good) (kept : sys.Kept good) {row : Row}
    (saved : sys.save? id row = some next) :
    next.Kept good ∧ next.rows.map Row.number = sys.rows.map Row.number := by
  unfold save? at saved
  split at saved
  · cases saved
    rcases commit_getD with ⟨committed, isUnique⟩ | refused
    · rw [committed]
      refine ⟨(kept.leave id).rewrite (kept.rows.setCurrent isUnique) ?_, ?_⟩
      · intro old member
        by_cases same : old.pk = row.pk
        · exact ⟨old.setCurrent true,
              Rows.mem_modify.mpr ⟨old, member, .inl ⟨same, rfl⟩⟩, rfl,
              isKept.setCurrent old true⟩
        · exact ⟨old, Rows.mem_modify.mpr ⟨old, member, .inr ⟨same, rfl⟩⟩, rfl,
              fun isGood => isGood⟩
      · exact Rows.map_modify fun _ _ _ => rfl
    · rw [refused]
      exact ⟨kept.leave id, rfl⟩
  · cases saved

theorem Kept.pass (isKept : IsKept good) (kept : sys.Kept good) (attemptId : Pk)
    (now : Timestamp) :
    Kept good
      { sys with
        rows := Rows.modify Row.pk attemptId (Row.passed now) sys.rows } := by
  refine kept.rewrite (kept.rows.of_same ?_) ?_
  · exact Rows.map_modify fun _ _ _ => rfl
  · intro old member
    by_cases same : old.pk = attemptId
    · exact ⟨old.passed now,
          Rows.mem_modify.mpr ⟨old, member, .inl ⟨same, rfl⟩⟩, rfl,
          fun _ => isKept.passed _ (old.isPassed_passed now)⟩
    · exact ⟨old, Rows.mem_modify.mpr ⟨old, member, .inr ⟨same, rfl⟩⟩, rfl,
          fun isGood => isGood⟩

/-- A step keeps the invariant, and adds at most one attempt. -/
structure Advances (good : Row → Prop) (sys next : System) : Prop where
  kept : next.Kept good
  added : next.rows.map Row.number = sys.rows.map Row.number ∨ ∃ number,
        next.rows.map Row.number = sys.rows.map Row.number ++ [number] ∧
          (number = 1 ∨ number = sys.rows.length + 1 ∧
              ∃ base ∈ sys.rows, base.number + 1 = number ∧ good base)

theorem Advances.of_kept (kept : next.Kept good) (same : next.rows = sys.rows) :
    Advances good sys next :=
  ⟨kept, .inl (by rw [same])⟩

/-- Every step whose number follows a good attempt advances. -/
theorem Kept.step (isKept : IsKept good) (kept : sys.Kept good)
    (selects : sys.Selects good action)
    (stepped : step? sys action = some next) :
    Advances good sys next := by
  cases action with
  | rerun id attemptId available =>
      simp only [step?] at stepped
      split at stepped
      · cases stepped
        unfold System.rerun
        split
        · exact .of_kept kept rfl
        · rename_i row found
          split
          · rename_i admitted
            refine .of_kept (kept.begin ?_) rfl
            simp only [admitsRerun, Bool.and_eq_true] at admitted
            obtain ⟨⟨_, canRerun⟩, _⟩ := admitted
            exact ⟨row, List.mem_of_find?_eq_some found, rfl,
                isKept.passed row (Row.canRerun_iff.mp canRerun).2⟩
          · exact .of_kept kept rfl
      · cases stepped
  | select id =>
      simp only [step?] at stepped
      split at stepped
      · rename_i row inPhase
        cases stepped
        refine .of_kept (kept.enter ?_) rfl
        cases found : latest? sys.rows with
        | none => trivial
        | some latest =>
            exact ⟨latest, List.mem_of_find?_eq_some found, rfl,
                selects row latest inPhase found⟩
      · cases stepped
  | lock id =>
      simp only [step?] at stepped
      split at stepped
      · rename_i row latest inPhase
        have founded := kept.phase inPhase
        cases latest with
        | none =>
            cases stepped
            exact .of_kept (kept.enter (.inl rfl)) rfl
        | some latest =>
            simp only [lock?] at stepped
            split at stepped
            · cases stepped
              obtain ⟨base, isBase, same, isGood⟩ := founded
              refine .of_kept (kept.enter (.inr ?_)) rfl
              exact ⟨base, isBase, by rw [same], isGood⟩
            · cases stepped
      · cases stepped
  | update id =>
      simp only [step?] at stepped
      split at stepped
      · rename_i row lock number inPhase
        cases stepped
        have founded := kept.phase inPhase
        exact .of_kept (kept.enter founded) rfl
      · cases stepped
  | clear id =>
      simp only [step?] at stepped
      split at stepped
      · rename_i row lock number seen inPhase
        unfold clear? at stepped
        split at stepped
        · cases stepped
          have founded := kept.phase inPhase
          exact .of_kept (kept.enter founded) rfl
        · cases stepped
      · cases stepped
  | create id =>
      simp only [step?] at stepped
      split at stepped
      · rename_i row lock number held inPhase
        cases stepped
        have based := kept.phase inPhase
        obtain ⟨nextKept, unchanged | ⟨isNext, numbers⟩⟩ :=
          create_rows isKept kept based
        · exact .of_kept nextKept unchanged
        · refine ⟨nextKept, .inr ⟨number, numbers, ?_⟩⟩
          rcases based with isFirst | founded
          · exact .inl isFirst
          · exact .inr ⟨isNext, founded⟩
      · cases stepped
  | lookUp id =>
      simp only [step?] at stepped
      split at stepped
      · cases stepped
        unfold System.lookUp
        split
        · exact .of_kept kept rfl
        · exact .of_kept (kept.begin trivial) rfl
      · cases stepped
  | latest id =>
      simp only [step?] at stepped
      split at stepped
      · cases stepped
        unfold System.latest
        split
        · exact .of_kept (kept.enter trivial) rfl
        · exact .of_kept (kept.enter trivial) rfl
      · cases stepped
  | save id =>
      simp only [step?] at stepped
      split at stepped
      · obtain ⟨nextKept, numbers⟩ := save_rows isKept kept stepped
        exact ⟨nextKept, .inl numbers⟩
      · cases stepped
  | first id =>
      simp only [step?] at stepped
      split at stepped
      · cases stepped
        obtain ⟨nextKept, unchanged | numbers⟩ := first_rows kept
        · exact .of_kept nextKept unchanged
        · exact ⟨nextKept, .inr ⟨1, numbers, .inl rfl⟩⟩
      · cases stepped
  | get id =>
      simp only [step?] at stepped
      split at stepped
      · cases stepped
        exact .of_kept (kept.leave id) rfl
      · cases stepped
  | abort id =>
      cases stepped
      exact .of_kept (kept.leave id) rfl
  | pass attemptId now =>
      cases stepped
      refine ⟨kept.pass isKept attemptId now, .inl ?_⟩
      exact Rows.map_modify fun _ _ _ => rfl

/-! ## Runs -/

/-- The user has no attempt at the task yet. -/
def fresh (userId taskId : Pk) : System where
  userId := userId
  taskId := taskId

theorem Kept.fresh (good : Row → Prop) (userId taskId : Pk) :
    (System.fresh userId taskId).Kept good where
  rows := by
    refine ⟨Rows.Numbered.nil _, ?_, fun present => absurd rfl present⟩
    intro row member
    cases member
  founded := by
    intro request member
    cases member

/-- The attempt that a request has read when it asks for its number. -/
def selecting? (sys : System) : Action → Option Row
  | .select id =>
      match sys.phase? id with
      | some (.read row) => some row
      | _ => none
  | _ => none

/-- The latest attempt at the time of the number is the one that was read. -/
def Permitted (sys : System) (action : Action) : Prop :=
  ∀ row ∈ sys.selecting? action,
    ∀ latest ∈ latest? sys.rows, latest.identity = row.identity
  deriving Decidable

theorem Kept.selects
    (kept : sys.Kept Row.IsPassed) (permitted : sys.Permitted action) :
    sys.Selects Row.IsPassed action := by
  cases action with
  | select id =>
      intro row latest inPhase found
      obtain ⟨version, isVersion, same, isPassed⟩ := kept.phase inPhase
      have isRead : row ∈ sys.selecting? (.select id) := by
        simp only [selecting?, inPhase, Option.mem_def]
      have sameIdentity := permitted row isRead latest found
      have isLatest : latest = version := by
        refine
          kept.rows.eq_of_number (List.mem_of_find?_eq_some found) isVersion ?_
        rw [Row.number, sameIdentity, ← same, Row.number]
      rw [isLatest]
      exact isPassed
  | _ => trivial

theorem isKept_isPassed : IsKept Row.IsPassed where
  passed := fun _ isPassed => isPassed
  setCurrent := fun _ _ isPassed => isPassed

/-- The attempts are numbered without gaps, and exactly one is current. -/
structure IsSound (rows : List Row) : Prop where
  numbered : rows.map Row.number = List.range' 1 rows.length
  current : rows ≠ [] → ∃! row, row ∈ rows ∧ row.isCurrent = true

/-- Whatever overlaps, the attempts are numbered without gaps, and exactly one
is current. -/
theorem numbered_always
    {userId taskId : Pk} {actions : List Action} {last : System} (run :
      Run step? anything (System.fresh userId taskId) actions last) :
    IsSound last.rows := by
  have kept : last.Kept fun _ => True := by
    refine run.invariant (fun sys => sys.Kept fun _ => True) ?_
      (Kept.fresh _ userId taskId)
    intro sys action next _ stepped sysKept
    refine (sysKept.step ⟨fun _ _ => trivial, fun _ _ _ => trivial⟩ ?_
      stepped).kept
    cases action with
    | select id => exact fun _ _ _ _ => trivial
    | _ => trivial
  exact ⟨kept.rows.numbered, kept.rows.existsUnique⟩

/-- A further attempt is added while the current one can be rerun. -/
def Earned (sys next : System) : Prop :=
  ∀ row ∈ next.rows, row.number ∉ sys.rows.map Row.number → 1 < row.number →
    ∃ current ∈ sys.rows,
      current.isCurrent = true ∧ current.technicalLocked = true ∧
        current.canRerun = true
  deriving Decidable

theorem Advances.earned
    (kept : sys.Kept Row.IsPassed) (advances : Advances Row.IsPassed sys next) :
    Earned sys next := by
  intro row member isNew isFurther
  have number : row.number ∈ next.rows.map Row.number :=
    List.mem_map_of_mem member
  rcases advances.added with same | ⟨added, numbers, follows⟩
  · rw [same] at number
    exact absurd number isNew
  · rw [numbers, List.mem_append, List.mem_singleton] at number
    have isAdded := number.resolve_left isNew
    rcases follows with isFirst | ⟨isNext, base, isBase, same, isPassed⟩
    · rw [isAdded, isFirst] at isFurther
      exact absurd isFurther (Nat.lt_irrefl 1)
    · obtain ⟨current, isThere, isCurrent⟩ :=
        kept.rows.exists_current (List.ne_nil_of_mem isBase)
      have baseLast : base.number = sys.rows.length :=
        Nat.succ.inj (same.trans isNext)
      have isBaseRow : current = base := by
        refine kept.rows.eq_of_number isThere isBase ?_
        rw [kept.rows.last current isThere isCurrent, baseLast]
      rw [← isBaseRow] at isPassed
      exact ⟨current, isThere, isCurrent, isPassed.1,
          Row.canRerun_iff.mpr ⟨isCurrent, isPassed⟩⟩

/--
While every `rerun_task` asks for its number before another one has committed,
the attempts are numbered without gaps, exactly one is current, and a further
attempt is added only while the current one can be rerun.
-/
theorem attempts_numbered
    {userId taskId : Pk} {actions : List Action} {last : System}
    (run : Run step? Permitted (System.fresh userId taskId) actions last) :
    IsSound last.rows ∧
      ∀ action next, last.Permitted action → step? last action = some next →
        Earned last next := by
  have kept : last.Kept Row.IsPassed := by
    refine run.invariant (fun sys => sys.Kept Row.IsPassed) ?_
      (Kept.fresh _ userId taskId)
    intro sys action next permitted stepped sysKept
    exact
      (sysKept.step isKept_isPassed (sysKept.selects permitted) stepped).kept
  refine ⟨⟨kept.rows.numbered, kept.rows.existsUnique⟩, ?_⟩
  intro action next permitted stepped
  exact (kept.step isKept_isPassed (kept.selects permitted) stepped).earned kept

/-! ## Two overlapping requests -/

/-- The first attempt is created, and passed. -/
def creditActions : List Action :=
  [.lookUp 1, .latest 1, .first 1, .pass 1 10]

/-- The statements of `rerun_task` behind its guards, up to its insert. -/
def numberActions (id : Pk) : List Action :=
  [.select id, .lock id, .update id, .clear id]

/-- A second request reads the attempt, and then the first one commits. -/
def overlapping : List Action :=
  creditActions ++ [.rerun 2 1 true, .rerun 3 1 true] ++ numberActions 2 ++
    [.create 2] ++ numberActions 3

/-- The attempts before the second request inserts its own. -/
def overlapped : System :=
  after step? (fresh 1 1) overlapping

/--
Two requests that overlap create two attempts, the second one while the
current attempt is new.
-/
theorem overlapped_unearned :
    Run step? anything (fresh 1 1) overlapping overlapped ∧
      step? overlapped (.create 3) = some (after step? overlapped [.create 3]) ∧
      ¬ Earned overlapped (after step? overlapped [.create 3]) :=
  ⟨run_after (fun _ _ _ => trivial) (by decide),
    step?_after (by decide), by decide⟩

/-- The permitted statements. -/
def permittedStep? : System → Action → Option System :=
  guarded (fun sys action => decide (sys.Permitted action)) step?

/-- One request numbers its attempt. -/
def rerunning : List Action :=
  creditActions ++ [.rerun 2 1 true] ++ numberActions 2

theorem attempts_numbered_rerunning :
    IsSound (after permittedStep? (fresh 1 1) rerunning).rows ∧
      Earned (after permittedStep? (fresh 1 1) rerunning) (after step?
          (after permittedStep? (fresh 1 1) rerunning) [.create 2]) :=
  have run : Run step? Permitted (fresh 1 1) rerunning
        (after permittedStep? (fresh 1 1) rerunning) :=
    run_after_guarded (fun _ _ => of_decide_eq_true) (by decide)
  ⟨(attempts_numbered run).1,
    (attempts_numbered run).2 (.create 2) _ (by decide)
      (step?_after (by decide))⟩

end System

end TicketSandbox.Sandbox.AttemptNumbers
