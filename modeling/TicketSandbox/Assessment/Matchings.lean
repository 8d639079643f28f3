import TicketSandbox.Assessment.CorrectAnswers

namespace TicketSandbox.Assessment.AnswerGrading

/-!
# Wrong matchings

Every right item is used once, so a matching with one wrong pair has a second
one, and exchanging two right items makes exactly two.
-/

/-! ## Looking up pairs -/

variable {pairs : List (String × String)} {left right : String}
  {rights : List String}

theorem lookup?_some
    (found : lookup? pairs left = some right) : (left, right) ∈ pairs := by
  unfold lookup? at found
  obtain ⟨pair, member, rfl⟩ := Option.map_eq_some_iff.mp found
  have same : pair.1 = left := by
    simpa using List.find?_some member
  rw [← same]
  exact List.mem_of_find?_eq_some member

theorem exists_lookup? (member : left ∈ pairs.map Prod.fst) :
    ∃ right, lookup? pairs left = some right := by
  obtain ⟨pair, inPairs, rfl⟩ := List.mem_map.mp member
  unfold lookup?
  cases found : pairs.find? fun other => decide (other.1 = pair.1) with
  | none =>
      have absent := List.find?_eq_none.mp found pair inPairs
      exact (absent (decide_eq_true rfl)).elim
  | some other => exact ⟨other.2, rfl⟩

/-- A left side is matched with its own right side. -/
theorem lookup?_of_mem
    (unique : (pairs.map Prod.fst).Nodup) (member : (left, right) ∈ pairs) :
    lookup? pairs left = some right := by
  obtain ⟨other, found⟩ :=
    exists_lookup? (List.mem_map_of_mem (f := Prod.fst) member)
  have same := List.inj_on_of_nodup_map unique (lookup?_some found) member rfl
  rw [found]
  exact congrArg (some ·.2) same

theorem lookup?_cons_of_ne {other : String} (different : other ≠ left) :
    lookup? ((other, right) :: pairs) left = lookup? pairs left := by
  unfold lookup?
  rw [List.find?_cons_of_neg (by simpa using different)]

theorem lookup?_cons_self
    (pairs : List (String × String)) (left right : String) :
    lookup? ((left, right) :: pairs) left = some right := by
  unfold lookup?
  rw [List.find?_cons_of_pos (by simp)]
  rfl

/-! ## Wrong pairs -/

theorem exists_other_wrong {submitted stored : List (String × String)}
    (placed : left ∈ submitted.map Prod.fst) (owned :
      ∀ right ∈ submitted.map Prod.snd,
        ∃ owner, owner ∈ submitted.map Prod.fst ∧
          lookup? stored owner = some right)
    (once : (submitted.map Prod.snd).Nodup)
    (wrong : lookup? submitted left ≠ lookup? stored left) :
    ∃ other, other ∈ submitted.map Prod.fst ∧ other ≠ left ∧
      lookup? submitted other ≠ lookup? stored other := by
  obtain ⟨right, found⟩ := exists_lookup? placed
  have pair := lookup?_some found
  obtain ⟨owner, member, owns⟩ :=
    owned right (List.mem_map_of_mem (f := Prod.snd) pair)
  refine ⟨owner, member, ?_, ?_⟩
  · rintro rfl
    exact wrong (found.trans owns.symm)
  · intro right'
    rw [owns] at right'
    have same := List.inj_on_of_nodup_map once pair (lookup?_some right') rfl
    have sameLeft : left = owner := congrArg Prod.fst same
    subst sameLeft
    exact wrong (found.trans owns.symm)

theorem length_filter_add_two_le
    {α : Type} [DecidableEq α] {items : List α} {test : α → Bool}
    {first second : α} (inItems : first ∈ items) (inItems' : second ∈ items)
    (different : second ≠ first) (fails : test first = false)
    (fails' : test second = false) :
    (items.filter test).length + 2 ≤ items.length := by
  have two : 2 ≤ (items.filter fun item => !test item).length := by
    have nodup : [first, second].Nodup := by
      simpa using different.symm
    refine nodup.length_le_of_subset ?_
    intro item member
    rw [List.mem_filter]
    rcases List.mem_pair.mp member with rfl | rfl
    · exact ⟨inItems, by rw [fails]; rfl⟩
    · exact ⟨inItems', by rw [fails']; rfl⟩
  have all := (List.filter_append_perm test items).length_eq
  rw [List.length_append] at all
  omega

/-- The right item of every left key has been exchanged with that of the
second in the first two pairs. -/
def exchanged (lefts rights : List String) : List (String × String) :=
  match lefts, rights with
  | first :: second :: lefts, one :: two :: rights =>
      (first, two) :: (second, one) :: lefts.zip rights
  | lefts, rights => lefts.zip rights

variable {lefts : List String}

theorem exchanged_fst (sameLength : lefts.length = rights.length) :
    (exchanged lefts rights).map Prod.fst = lefts := by
  unfold exchanged
  split
  · rename_i lefts' one two rights'
    rw [List.map_cons, List.map_cons, List.map_fst_zip]
    simpa using Nat.le_of_eq sameLength
  · exact List.map_fst_zip (Nat.le_of_eq sameLength)

theorem exchanged_snd (sameLength : lefts.length = rights.length) :
    ((exchanged lefts rights).map Prod.snd).Perm rights := by
  unfold exchanged
  split
  · rename_i lefts' one two rights'
    rw [List.map_cons, List.map_cons, List.map_snd_zip]
    · exact .swap _ _ _
    · simpa using Nat.le_of_eq sameLength.symm
  · rw [List.map_snd_zip (Nat.le_of_eq sameLength.symm)]

/-- Two of the exchanged pairs are wrong. -/
theorem length_rightly_exchanged (sameLength : lefts.length = rights.length)
    (enough : 2 ≤ lefts.length) (distinctLefts : lefts.Nodup)
    (distinctRights : rights.Nodup) :
    (lefts.filter fun left =>
        decide (lookup? (exchanged lefts rights) left =
            lookup? (lefts.zip rights) left)).length + 2 =
        lefts.length ∧
      ∃ left ∈ lefts, lookup? (exchanged lefts rights) left ≠
          lookup? (lefts.zip rights) left := by
  obtain _ | ⟨first, _ | ⟨second, lefts⟩⟩ := lefts
  · cases enough
  · cases enough with
    | step never => cases never
  obtain _ | ⟨one, _ | ⟨two, rights⟩⟩ := rights
  · cases sameLength
  · cases sameLength
  obtain ⟨firstFresh, tailNodup⟩ := List.nodup_cons.mp distinctLefts
  have secondFresh := (List.nodup_cons.mp tailNodup).1
  have differ : first ≠ second := by
    rintro rfl
    exact firstFresh List.mem_cons_self
  have differ' : one ≠ two := by
    rintro rfl
    exact (List.nodup_cons.mp distinctRights).1 List.mem_cons_self
  have firstWrong :
      lookup? (exchanged (first :: second :: lefts) (one :: two :: rights))
          first ≠
        lookup? ((first :: second :: lefts).zip (one :: two :: rights))
          first := by
    unfold exchanged
    rw [lookup?_cons_self, List.zip_cons_cons, lookup?_cons_self]
    exact fun same => differ' (Option.some.inj same).symm
  have secondWrong :
      lookup? (exchanged (first :: second :: lefts) (one :: two :: rights))
          second ≠
        lookup? ((first :: second :: lefts).zip (one :: two :: rights))
          second := by
    unfold exchanged
    rw [lookup?_cons_of_ne differ, lookup?_cons_self, List.zip_cons_cons,
      lookup?_cons_of_ne differ, List.zip_cons_cons, lookup?_cons_self]
    exact fun same => differ' (Option.some.inj same)
  have othersRight : ∀ left ∈ lefts,
        lookup? (exchanged (first :: second :: lefts) (one :: two :: rights))
            left =
          lookup? ((first :: second :: lefts).zip (one :: two :: rights))
            left := by
    intro left member
    have notFirst : first ≠ left := by
      rintro rfl
      exact firstFresh (List.mem_cons_of_mem _ member)
    have notSecond : second ≠ left := by
      rintro rfl
      exact secondFresh member
    unfold exchanged
    rw [lookup?_cons_of_ne notFirst, lookup?_cons_of_ne notSecond,
      List.zip_cons_cons, lookup?_cons_of_ne notFirst, List.zip_cons_cons,
      lookup?_cons_of_ne notSecond]
  refine ⟨?_, first, List.mem_cons_self, firstWrong⟩
  rw [List.filter_cons,
    if_neg fun right => firstWrong (of_decide_eq_true right),
    List.filter_cons,
    if_neg fun right => secondWrong (of_decide_eq_true right),
    List.filter_eq_self.mpr fun left member =>
      decide_eq_true (othersRight left member)]
  rfl

end TicketSandbox.Assessment.AnswerGrading
