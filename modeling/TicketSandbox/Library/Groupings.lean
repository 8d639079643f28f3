import Mathlib.Data.List.Perm.Basic
import Mathlib.Data.List.Sort

namespace Groupings

/-!
# Groupings

Lists whose elements have keys: sorted by the key, and grouped by the key.
-/

universe u v

/-! ## Sorting -/

/-- The elements in the order of their keys. -/
def sortedBy {α : Type u} {κ : Type v} [LinearOrder κ] (key : α → κ)
    (items : List α) : List α :=
  items.insertionSort fun first second => key first ≤ key second

/-- Sorting loses and doubles nothing. -/
theorem sortedBy_perm
    {α : Type u} {κ : Type v} [LinearOrder κ] (key : α → κ) (items : List α) :
    (sortedBy key items).Perm items :=
  List.perm_insertionSort _ items

theorem mem_sortedBy {α : Type u} {κ : Type v} [LinearOrder κ] {key : α → κ}
    {items : List α} {item : α} :
    item ∈ sortedBy key items ↔ item ∈ items :=
  (sortedBy_perm key items).mem_iff

theorem sortedBy_pairwise
    {α : Type u} {κ : Type v} [LinearOrder κ] (key : α → κ) (items : List α) :
    (sortedBy key items).Pairwise
      fun first second => key first ≤ key second := by
  have isTotal : Std.Total fun first second : α => key first ≤ key second :=
    ⟨fun first second => le_total (key first) (key second)⟩
  have isTrans : IsTrans α fun first second => key first ≤ key second :=
    ⟨fun _ _ _ before after => le_trans before after⟩
  exact List.pairwise_insertionSort _ items

theorem sortedBy_eq_of_perm {α : Type u} {κ : Type v} [LinearOrder κ]
    {key : α → κ} {first second : List α} (same : first.Perm second)
    (distinct : (first.map key).Nodup) :
    sortedBy key first = sortedBy key second := by
  have perm : (sortedBy key first).Perm (sortedBy key second) :=
    ((sortedBy_perm key first).trans same).trans (sortedBy_perm key second).symm
  refine List.Perm.eq_of_pairwise ?_ (sortedBy_pairwise key first)
    (sortedBy_pairwise key second) perm
  intro item other isItem isOther before after
  have isFirst := mem_sortedBy.mp isItem
  have alsoFirst := same.mem_iff.mpr (mem_sortedBy.mp isOther)
  exact List.inj_on_of_nodup_map distinct isFirst alsoFirst
    (le_antisymm before after)

theorem sortedBy_map
    {α β : Type u} {κ : Type v} [LinearOrder κ] {key : β → κ} {f : α → β}
    {other : α → κ} (same : ∀ item, key (f item) = other item)
    (items : List α) :
    sortedBy key (items.map f) = (sortedBy other items).map f := by
  rw [sortedBy, sortedBy]
  refine (List.map_insertionSort _ _ f items ?_).symm
  intro first _ second _
  rw [same, same]

/-! ## Groups -/

/-- The elements with a key. -/
def group
    {α : Type u} {κ : Type v} [DecidableEq κ] (key : α → κ) (items : List α)
    (wanted : κ) : List α :=
  items.filter fun item => decide (key item = wanted)

/-- A group has the items of its key. -/
theorem mem_group {α : Type u} {κ : Type v} [DecidableEq κ] {key : α → κ}
    {items : List α} {wanted : κ} {item : α} :
    item ∈ group key items wanted ↔ item ∈ items ∧ key item = wanted := by
  rw [group, List.mem_filter, decide_eq_true_eq]

theorem group_map
    {α β : Type u} {κ : Type v} [DecidableEq κ] {key : β → κ} {f : α → β}
    {other : α → κ} (same : ∀ item, key (f item) = other item) (items : List α)
    (wanted : κ) :
    group key (items.map f) wanted = (group other items wanted).map f := by
  rw [group, group, List.filter_map]
  refine congrArg (List.map f) (List.filter_congr fun item _ => ?_)
  rw [Function.comp_apply, same]

theorem group_concat {α : Type u} {κ : Type v} [DecidableEq κ] (key : α → κ)
    (items : List α) (item : α) (wanted : κ) :
    group key (items ++ [item]) wanted =
      if key item = wanted then
        group key items wanted ++ [item]
      else
        group key items wanted := by
  rw [group, List.filter_append, List.filter_singleton]
  by_cases isWanted : key item = wanted
  · rw [if_pos isWanted, decide_eq_true isWanted]
    rfl
  · rw [if_neg isWanted, decide_eq_false isWanted]
    exact List.append_nil _

/-- The groups of all keys are the items. -/
theorem groups_perm {α : Type u} {κ : Type v} [DecidableEq κ] {key : α → κ}
    {keys : List κ} {items : List α} (distinct : keys.Nodup)
    (covered : ∀ item ∈ items, key item ∈ keys) :
    (keys.flatMap (group key items)).Perm items := by
  induction keys generalizing items with
  | nil =>
      cases items with
      | nil => exact List.Perm.nil
      | cons item others => cases covered item List.mem_cons_self
  | cons first others inductionHypothesis =>
      obtain ⟨isNew, distinct⟩ := List.nodup_cons.mp distinct
      have rest : (others.flatMap (group key
              (items.filter fun item => !decide (key item = first)))).Perm
            (items.filter fun item => !decide (key item = first)) := by
        refine inductionHypothesis distinct ?_
        intro item member
        obtain ⟨isItem, notFirst⟩ := List.mem_filter.mp member
        rcases List.mem_cons.mp (covered item isItem) with isFirst | later
        · rw [decide_eq_true isFirst] at notFirst
          cases notFirst
        · exact later
      have same : others.flatMap (group key
                (items.filter fun item => !decide (key item = first))) =
            others.flatMap (group key items) := by
        refine List.flatMap_congr fun wanted isWanted => ?_
        rw [group, group, List.filter_filter]
        refine List.filter_congr fun item _ => ?_
        by_cases isKey : key item = wanted
        · have notFirst : key item ≠ first := by
            intro isFirst
            rw [isKey] at isFirst
            rw [isFirst] at isWanted
            exact isNew isWanted
          rw [decide_eq_true isKey, decide_eq_false notFirst]
          rfl
        · rw [decide_eq_false isKey]
          rfl
      rw [List.flatMap_cons, ← same]
      refine (List.Perm.append_left _ rest).trans ?_
      exact List.filter_append_perm _ items

theorem group_flatMap {α : Type u} {κ : Type v} [DecidableEq κ] {key : α → κ}
    {keys : List κ} {part : κ → List α} (distinct : keys.Nodup)
    (keyed : ∀ wanted ∈ keys, ∀ item ∈ part wanted, key item = wanted)
    (wanted : κ) :
    group key (keys.flatMap part) wanted =
      if wanted ∈ keys then part wanted else [] := by
  induction keys with
  | nil => rfl
  | cons first others inductionHypothesis =>
      obtain ⟨isNew, distinct⟩ := List.nodup_cons.mp distinct
      have later := inductionHypothesis distinct fun other member =>
        keyed other (List.mem_cons_of_mem _ member)
      have isKeyed := keyed first List.mem_cons_self
      rw [List.flatMap_cons, group, List.filter_append]
      rw [group] at later
      rw [later]
      by_cases isFirst : wanted = first
      · subst wanted
        rw [if_neg isNew, if_pos List.mem_cons_self, List.append_nil]
        refine List.filter_eq_self.mpr fun item member => ?_
        exact decide_eq_true (isKeyed item member)
      · have none : (part first).filter
                (fun item => decide (key item = wanted)) = [] := by
          refine List.filter_eq_nil_iff.mpr fun item member isWanted => ?_
          have isKey := of_decide_eq_true isWanted
          exact isFirst (isKey.symm.trans (isKeyed item member))
        rw [none, List.nil_append]
        by_cases isOther : wanted ∈ others
        · rw [if_pos isOther, if_pos (List.mem_cons_of_mem _ isOther)]
        · rw [if_neg isOther, if_neg]
          intro member
          rcases List.mem_cons.mp member with same | later
          · exact isFirst same
          · exact isOther later

theorem group_groups {α : Type u} {κ : Type v} [DecidableEq κ] {key : α → κ}
    {keys : List κ} (items : List α) (distinct : keys.Nodup) (wanted : κ) :
    group key (keys.flatMap (group key items)) wanted =
      if wanted ∈ keys then group key items wanted else [] :=
  @group_flatMap _ _ _ key keys (group key items) distinct
    (fun _ _ _ member => (mem_group.mp member).2) wanted

variable {α : Type u} {β : Type v} {γ : Type w} {items firsts : List α}
  {f : Nat → α → β} {seconds : List β}

theorem heads_perm
    {β : Type u} (head : α → β) (parts : α → List β) (items : List α) :
    (items.flatMap fun item => head item :: parts item).Perm
      (items.map head ++ items.flatMap parts) := by
  induction items with
  | nil => exact List.Perm.nil
  | cons item others inductionHypothesis =>
      rw [List.flatMap_cons, List.flatMap_cons, List.map_cons,
        List.cons_append, List.cons_append]
      refine List.Perm.cons _ ?_
      refine (List.Perm.append_left _ inductionHypothesis).trans ?_
      rw [← List.append_assoc, ← List.append_assoc]
      exact List.Perm.append_right _ List.perm_append_comm

theorem map_mapIdx {β : Type u} {f : Nat → α → β} {g : β → α}
    (undone : ∀ index, ∀ item ∈ items, g (f index item) = item) :
    (items.mapIdx f).map g = items := by
  induction items generalizing f with
  | nil => rfl
  | cons item others inductionHypothesis =>
      rw [List.mapIdx_cons, List.map_cons, undone 0 item List.mem_cons_self,
        inductionHypothesis fun index other member =>
          undone (index + 1) other (List.mem_cons_of_mem _ member)]

theorem map_eq_mapIdx {position : α → Nat}
    (positions : items.map position = List.range items.length)
    (f : Nat → α → β) :
    items.map (fun item => f (position item) item) = items.mapIdx f := by
  refine List.ext_getElem (by rw [List.length_map, List.length_mapIdx]) ?_
  intro index inMap inMapIdx
  rw [List.getElem_map, List.getElem_mapIdx]
  rw [List.length_map] at inMap
  have inPositions : index < (items.map position).length := by
    rwa [List.length_map]
  have isPosition : (items.map position)[index] = index := by
    simp only [positions, List.getElem_range]
  rw [List.getElem_map] at isPosition
  rw [isPosition]

theorem mapIdx_injective
    (injective : ∀ index, Function.Injective (f index)) {first second : List α}
    (same : first.mapIdx f = second.mapIdx f) :
    first = second := by
  have lengths := congrArg List.length same
  rw [List.length_mapIdx, List.length_mapIdx] at lengths
  refine List.ext_getElem lengths fun index inFirst inSecond => ?_
  refine injective index ?_
  have ofFirst : (first.mapIdx f)[index]? = some (f index first[index]) := by
    rw [List.getElem?_mapIdx, List.getElem?_eq_getElem inFirst]
    rfl
  have ofSecond : (second.mapIdx f)[index]? = some (f index second[index]) := by
    rw [List.getElem?_mapIdx, List.getElem?_eq_getElem inSecond]
    rfl
  rw [same, ofSecond] at ofFirst
  exact (Option.some.inj ofFirst).symm

theorem mapIdx_pairwise {position : β → Nat}
    (numbered : ∀ index item, position (f index item) = index)
    (items : List α) :
    (items.mapIdx f).Pairwise
      fun first second => position first < position second := by
  refine List.pairwise_iff_getElem.mpr ?_
  intro earlier later inEarlier inLater before
  rw [List.getElem_mapIdx, List.getElem_mapIdx, numbered, numbered]
  exact before

theorem mapIdx_perm
    {α : Type u} {β : Type v} {f : Nat → α → β} {position : β → Nat}
    (numbered : ∀ index item, position (f index item) = index)
    (injective : ∀ index, Function.Injective (f index)) {first second : List α}
    (same : (first.mapIdx f).Perm (second.mapIdx f)) :
    first = second := by
  refine mapIdx_injective injective ?_
  refine List.Perm.eq_of_pairwise ?_ (mapIdx_pairwise numbered first)
    (mapIdx_pairwise numbered second) same
  intro _ _ _ _ before after
  exact (Nat.lt_asymm before after).elim

/-! ## Lookups -/

/-- The first element with a key. -/
def lookup?
    {α : Type u} {κ : Type v} [DecidableEq κ] (key : α → κ) (items : List α)
    (wanted : κ) : Option α :=
  items.find? fun item => decide (key item = wanted)

theorem mem_of_lookup?
    {α : Type u} {κ : Type v} [DecidableEq κ] {key : α → κ} {items : List α}
    {wanted : κ} {item : α} (found : lookup? key items wanted = some item) :
    item ∈ items ∧ key item = wanted := by
  rw [lookup?] at found
  have isKey := List.find?_some found
  exact ⟨List.mem_of_find?_eq_some found, of_decide_eq_true isKey⟩

theorem lookup?_isSome {α : Type u} {κ : Type v} [DecidableEq κ] {key : α → κ}
    {items : List α} {wanted : κ} :
    (lookup? key items wanted).isSome = true ↔
      ∃ item ∈ items, key item = wanted := by
  rw [lookup?, List.find?_isSome]
  simp only [decide_eq_true_eq]

theorem lookup?_eq_some
    {α : Type u} {κ : Type v} [DecidableEq κ] {key : α → κ} {items : List α}
    (distinct : (items.map key).Nodup) {item : α} (member : item ∈ items) :
    lookup? key items (key item) = some item := by
  have isSome : (lookup? key items (key item)).isSome = true :=
    lookup?_isSome.mpr ⟨item, member, rfl⟩
  obtain ⟨other, found⟩ := Option.isSome_iff_exists.mp isSome
  obtain ⟨isOther, sameKey⟩ := mem_of_lookup? found
  rw [found, List.inj_on_of_nodup_map distinct isOther member sameKey]

theorem lookup?_perm {α : Type u} {κ : Type v} [DecidableEq κ] {key : α → κ}
    {first second : List α} (same : first.Perm second)
    (distinct : (first.map key).Nodup) (wanted : κ) :
    lookup? key first wanted = lookup? key second wanted := by
  have alsoDistinct : (second.map key).Nodup :=
    (same.map key).nodup_iff.mp distinct
  cases found : lookup? key first wanted with
  | some item =>
      obtain ⟨member, rfl⟩ := mem_of_lookup? found
      exact (lookup?_eq_some alsoDistinct (same.mem_iff.mp member)).symm
  | none =>
      cases other : lookup? key second wanted with
      | none => rfl
      | some item =>
          obtain ⟨member, rfl⟩ := mem_of_lookup? other
          rw [lookup?_eq_some distinct (same.mem_iff.mpr member)] at found
          cases found

theorem lookup?_append
    {α : Type u} {κ : Type v} [DecidableEq κ] {key : α → κ} {items : List α}
    {wanted : κ} {item : α} (found : lookup? key items wanted = some item)
    (others : List α) :
    lookup? key (items ++ others) wanted = some item := by
  rw [lookup?, List.find?_append]
  rw [lookup?] at found
  rw [found]
  rfl

theorem lookup?_concat_ne
    {α : Type u} {κ : Type v} [DecidableEq κ] {key : α → κ} (items : List α)
    {item : α} {wanted : κ} (differs : key item ≠ wanted) :
    lookup? key (items ++ [item]) wanted = lookup? key items wanted := by
  rw [lookup?, List.find?_append, List.find?_singleton, decide_eq_false differs]
  exact Option.or_none

/-! ## Rows that follow others -/

theorem filter_map_of_forall₂
    {follows : α → β → Prop} {kept : α → Bool} {wanted : β → Bool} {f : α → γ}
    {g : β → γ} (rows : List.Forall₂ follows firsts seconds)
    (same : ∀ first ∈ firsts, ∀ second ∈ seconds, follows first second →
      kept first = wanted second ∧ f first = g second) :
    (firsts.filter kept).map f = (seconds.filter wanted).map g := by
  induction rows with
  | nil => rfl
  | @cons first second others rest isRow _ inductionHypothesis =>
      obtain ⟨sameKept, sameImage⟩ :=
        same first List.mem_cons_self second List.mem_cons_self isRow
      have later := inductionHypothesis fun other isOther partner isPartner =>
        same other (List.mem_cons_of_mem _ isOther) partner
          (List.mem_cons_of_mem _ isPartner)
      rw [List.filter_cons, List.filter_cons, sameKept]
      cases wanted second with
      | true =>
          rw [if_pos rfl, if_pos rfl, List.map_cons, List.map_cons,
            sameImage, later]
      | false => exact later

end Groupings
