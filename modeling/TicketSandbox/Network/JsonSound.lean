import TicketSandbox.Network.JsonLexemes

namespace TicketSandbox.Network

/-!
# What the bounded JSON parser accepts

The parser reads only texts of the grammar, within its limits, and it raises
only the violation.  Both are shown by induction on the fuel, for the value
and for its two loops together.
-/

open JsonText
open Raises

/-- The limits on what may stand at a path. -/
def WithinLimits (path : Path) : Json → Prop
  | .null => True
  | .int value => InRange value
  | .str text => utf8Length text ≤ maxStringBytes
  | .arr elements =>
      (path = [.key "nftables".toList] → elements.length ≤ maxObjects) ∧
        (path.getLast? = some (.key "expr".toList) →
          elements.length ≤ maxExpressions)
  | .obj members =>
      (members.map Prod.fst).Nodup ∧
        ∀ key ∈ members.map Prod.fst, utf8Length key ≤ maxStringBytes

/-- A value may stand at a path. -/
def Allowed (path : Path) (value : Json) : Prop :=
  path.length < maxDepth ∧ WithinLimits path value

/-- What a call of `value` reads. -/
def ReadsValue
    (path : Path) (cursor : Cursor) (value : Json) (next : Cursor) : Prop :=
  (∃ before body, Blank before ∧ Denotes (.value value) body ∧
      cursor.rest = before ++ (body ++ next.rest)) ∧
    Everywhere Allowed path value ∧
    next.nodes = cursor.nodes + value.nodes ∧ next.nodes ≤ maxNodes

/-- What the loop over elements reads. -/
def ReadsElements
    (path : Path) (result : List Json) (cursor : Cursor) (elements : List Json)
    (next : Cursor) : Prop :=
  (∃ body, Denotes (.elements elements) body ∧
      cursor.rest = body ++ ']' :: next.rest) ∧
    result.length + elements.length ≤ arrayLimit path ∧
    (∀ index value, elements[index]? = some value →
      Everywhere Allowed (path ++ [.index (result.length + index)]) value) ∧
    next.nodes = cursor.nodes + nodesOfElements elements ∧
    next.nodes ≤ maxNodes

/-- What the loop over members reads. -/
def ReadsMembers (path : Path) (result : List (Text × Json)) (cursor : Cursor)
    (members : List (Text × Json)) (next : Cursor) : Prop :=
  (∃ body,
    Denotes (.members members) body ∧ cursor.rest = body ++ '}' :: next.rest) ∧
    (((result ++ members).map Prod.fst).Nodup) ∧
    (∀ key value, (key, value) ∈ members → utf8Length key ≤ maxStringBytes ∧
        Everywhere Allowed (path ++ [.key key]) value) ∧
    next.nodes = cursor.nodes + nodesOfMembers members ∧
    next.nodes ≤ maxNodes

variable {cursor next : Cursor} {path : Path} {text rest : Text} {fuel : Nat}
  {result : List (Text × Json)}

theorem count_ok {counted : Cursor} (isCounted : cursor.count = .ok counted) :
    cursor.nodes < maxNodes ∧
      counted = { cursor with nodes := cursor.nodes + 1 } := by
  simp only [Cursor.count, bind_ok, pure_ok, require_ok] at isCounted
  obtain ⟨_, below, isCursor⟩ := isCounted
  exact ⟨below, isCursor.symm⟩

theorem everywhere_scalar {value : Json} (isScalar : IsScalar value)
    (shallow : path.length < maxDepth) :
    Everywhere Allowed path value := by
  refine (everywhere_leaf ?_).mpr ⟨shallow, ?_⟩
  · intro inside inner isAt
    cases isScalar with
    | null => cases isAt; rfl
    | int => cases isAt; rfl
  · cases isScalar with
    | null => trivial
    | int inRange => exact inRange

theorem everywhere_str (fits : utf8Length text ≤ maxStringBytes)
    (shallow : path.length < maxDepth) :
    Everywhere Allowed path (.str text) := by
  refine (everywhere_leaf ?_).mpr ⟨shallow, fits⟩
  intro inside inner isAt
  cases isAt
  rfl

theorem nodes_scalar
    {value : Json} (isScalar : IsScalar value) : value.nodes = 1 := by
  cases isScalar with
  | null => rfl
  | int => rfl

theorem withinLimits_arr
    {elements : List Json} (short : elements.length ≤ arrayLimit path) :
    WithinLimits path (.arr elements) := by
  unfold arrayLimit at short
  constructor
  · intro isTop
    rw [if_pos isTop] at short
    exact short
  · intro isExpr
    have notTop : path ≠ [.key "nftables".toList] := by
      rintro rfl
      exact absurd isExpr (by decide)
    rw [if_neg notTop, if_pos isExpr] at short
    exact short

/-- What the calls with some fuel read. -/
structure Reads (fuel : Nat) : Prop where
  value : ∀ path cursor value next,
      Network.value fuel (path.length + 1) path cursor = .ok (value, next) →
      ReadsValue path cursor value next
  members : ∀ path result cursor found next, (result.map Prod.fst).Nodup →
      membersLoop fuel (path.length + 1) path result cursor =
        .ok (found, next) →
      ∃ members,
        found = result ++ members ∧ ReadsMembers path result cursor members next
  elements : ∀ path result cursor found next,
      elementsLoop fuel (path.length + 1) path result cursor =
        .ok (found, next) →
      ∃ elements, found = result ++ elements ∧
          ReadsElements path result cursor elements next

theorem blank_nil : Blank [] := by
  simp [Blank]

namespace Reads

theorem object
    (reads : Reads fuel) {value : Json} (shallow : path.length + 1 ≤ maxDepth)
    (below : cursor.nodes < maxNodes) (found :
      ∀ {value : Json} {blank body behind : Text}, Blank blank →
        Denotes (.value value) body →
        '{' :: rest = blank ++ (body ++ behind) →
        ∃ before body, Blank before ∧ Denotes (.value value) body ∧
            cursor.rest = before ++ (body ++ behind))
    (read : (match whitespace rest with
        | '}' :: rest =>
            (return (.obj [], { rest := rest, nodes := cursor.nodes + 1 }) :
              Except Raised (Json × Cursor))
        | rest => do
            let (members, cursor) ← membersLoop fuel (path.length + 1) path []
                { rest := rest, nodes := cursor.nodes + 1 }
            return (.obj members, cursor)) =
        .ok (value, next)) :
    ReadsValue path cursor value next := by
  obtain ⟨blank, isBlank, split⟩ := whitespace_split rest
  split at read
  · rename_i behind isEnd
    simp only [pure_ok, Prod.mk.injEq] at read
    obtain ⟨rfl, rfl⟩ := read
    rw [isEnd] at split
    refine ⟨found blank_nil (.emptyObj isBlank) ?_, ?_, rfl, below⟩
    · rw [split]
      simp
    · refine everywhere_obj.mpr ⟨⟨shallow, ?_⟩, by simp⟩
      simp [WithinLimits]
  · simp only [bind_ok, pure_ok, Prod.mk.injEq] at read
    obtain ⟨⟨members, after⟩, isRead, isValue, isNext⟩ := read
    simp only at isValue isNext
    subst isValue isNext
    obtain ⟨others, isMembers, ⟨body, denotes, shape⟩, unique, inside, nodes,
        bounded⟩ :=
      reads.members _ [] _ _ _ List.nodup_nil isRead
    simp only [List.nil_append] at isMembers unique
    subst isMembers
    simp only at shape nodes
    refine ⟨found blank_nil (.obj (denotes.members_blank isBlank)) ?_, ?_, ?_,
        bounded⟩
    · rw [split, shape]
      simp
    · refine everywhere_obj.mpr ⟨⟨shallow, unique, ?_⟩, ?_⟩
      · intro key member
        obtain ⟨⟨_, inner⟩, isMember, rfl⟩ := List.mem_map.mp member
        exact (inside _ inner isMember).1
      · exact fun key inner member => (inside key inner member).2
    · rw [nodes, Json.nodes, Nat.add_assoc]

theorem array
    (reads : Reads fuel) {value : Json} (shallow : path.length + 1 ≤ maxDepth)
    (below : cursor.nodes < maxNodes) (found :
      ∀ {value : Json} {blank body behind : Text}, Blank blank →
        Denotes (.value value) body →
        '[' :: rest = blank ++ (body ++ behind) →
        ∃ before body, Blank before ∧ Denotes (.value value) body ∧
            cursor.rest = before ++ (body ++ behind))
    (read : (match whitespace rest with
        | ']' :: rest =>
            (return (.arr [], { rest := rest, nodes := cursor.nodes + 1 }) :
              Except Raised (Json × Cursor))
        | rest => do
            let (elements, cursor) ← elementsLoop fuel (path.length + 1) path []
                { rest := rest, nodes := cursor.nodes + 1 }
            return (.arr elements, cursor)) =
        .ok (value, next)) :
    ReadsValue path cursor value next := by
  obtain ⟨blank, isBlank, split⟩ := whitespace_split rest
  split at read
  · rename_i behind isEnd
    simp only [pure_ok, Prod.mk.injEq] at read
    obtain ⟨rfl, rfl⟩ := read
    rw [isEnd] at split
    refine ⟨found blank_nil (.emptyArr isBlank) ?_, ?_, rfl, below⟩
    · rw [split]
      simp
    · refine everywhere_arr.mpr ⟨⟨shallow, ?_⟩, by simp⟩
      exact withinLimits_arr (Nat.zero_le _)
  · simp only [bind_ok, pure_ok, Prod.mk.injEq] at read
    obtain ⟨⟨elements, after⟩, isRead, isValue, isNext⟩ := read
    simp only at isValue isNext
    subst isValue isNext
    obtain ⟨others, isElements, ⟨body, denotes, shape⟩, short, inside, nodes,
        bounded⟩ :=
      reads.elements _ _ _ _ _ isRead
    simp only [List.nil_append, List.length_nil,
      Nat.zero_add] at isElements short inside
    subst isElements
    simp only at shape nodes
    refine ⟨found blank_nil (.arr (denotes.elements_blank isBlank)) ?_, ?_, ?_,
        bounded⟩
    · rw [split, shape]
      simp
    · exact everywhere_arr.mpr ⟨⟨shallow, withinLimits_arr short⟩, inside⟩
    · rw [nodes, Json.nodes, Nat.add_assoc]

theorem value_succ (reads : Reads fuel) {value : Json} (read :
      Network.value (fuel + 1) (path.length + 1) path cursor =
        .ok (value, next)) :
    ReadsValue path cursor value next := by
  simp only [Network.value, bind_ok, require_ok] at read
  obtain ⟨_, shallow, counted, isCounted, read⟩ := read
  obtain ⟨below, rfl⟩ := count_ok isCounted
  obtain ⟨before, isBlank, split⟩ := whitespace_split cursor.rest
  split at read
  · cases read
  · rename_i first rest isText
    simp only at isText
    rw [isText] at split
    have found {value : Json} {blank body behind : Text}
        (moreBlank : Blank blank) (denotes : Denotes (.value value) body)
        (shape : first :: rest = blank ++ (body ++ behind)) :
        ∃ before body, Blank before ∧ Denotes (.value value) body ∧
            cursor.rest = before ++ (body ++ behind) :=
      ⟨before ++ blank, body, isBlank.append moreBlank, denotes, by
        rw [split, shape, List.append_assoc]⟩
    split at read
    · simp only [bind_ok, pure_ok, Prod.mk.injEq] at read
      obtain ⟨⟨text, behind⟩, isRead, rfl, rfl⟩ := read
      obtain ⟨blank, name, moreBlank, isName, shape, fits⟩ := string_ok isRead
      refine
        ⟨found moreBlank (.str isName) (by rw [shape, List.append_assoc]), ?_,
            rfl, below⟩
      exact everywhere_str fits shallow
    · split at read
      · rename_i isObject
        subst isObject
        exact reads.object shallow below found read
      · split at read
        · rename_i isArray
          subst isArray
          exact reads.array shallow below found read
        · simp only [bind_ok, pure_ok, Prod.mk.injEq] at read
          obtain ⟨⟨scalar, behind⟩, isRead, rfl, rfl⟩ := read
          obtain ⟨body, denotes, shape, isScalar⟩ := scalar_ok isRead
          refine ⟨found blank_nil denotes shape,
              everywhere_scalar isScalar shallow, ?_, below⟩
          rw [nodes_scalar isScalar]

/-- One more member is read. -/
theorem members_succ (reads : Reads fuel) {found : List (Text × Json)}
    (unique : (result.map Prod.fst).Nodup) (read :
      membersLoop (fuel + 1) (path.length + 1) path result cursor =
        .ok (found, next)) :
    ∃ members, found = result ++ members ∧
        ReadsMembers path result cursor members next := by
  simp only [membersLoop, bind_ok, require_ok] at read
  obtain ⟨counted, isCounted, ⟨key, keyRest⟩, isKey, _, isNew, valueRest,
    isColon, ⟨inner, after⟩, isValue, read⟩ := read
  obtain ⟨below, rfl⟩ := count_ok isCounted
  simp only at isKey isNew isColon isValue read
  obtain ⟨first, name, firstBlank, isName, keySplit, fits⟩ := string_ok isKey
  obtain ⟨second, secondBlank, colonSplit⟩ := take_ok isColon
  have deeper : (path ++ [Step.key key]).length = path.length + 1 := by simp
  rw [← deeper] at isValue
  obtain ⟨⟨before, body, beforeBlank, denotes, valueSplit⟩, inside, nodes,
    bounded⟩ := reads.value _ _ _ _ isValue
  obtain ⟨behind, behindBlank, afterSplit⟩ := whitespace_split after.rest
  have extended : ((result ++ [(key, inner)]).map Prod.fst).Nodup := by
    simp only [List.map_append, List.map_cons, List.map_nil]
    exact List.nodup_append.mpr ⟨unique, by simp, by
        rintro other isOther _ isKey rfl
        rw [List.mem_singleton.mp isKey] at isOther
        exact isNew isOther⟩
  simp only at valueSplit nodes
  have start : cursor.rest =
        first ++ name ++ second ++ ':' :: (before ++ body ++ after.rest) := by
    calc
      cursor.rest = first ++ name ++ keyRest := keySplit
      _ = first ++ name ++ (second ++ ':' :: valueRest) := by
        rw [colonSplit]
      _ = first ++ name ++
            (second ++ ':' :: (before ++ (body ++ after.rest))) := by
        rw [valueSplit]
      _ = _ := by
        simp
  split at read
  · rename_i rest isEnd
    simp only [pure_ok, Prod.mk.injEq] at read
    obtain ⟨isFound, isNext⟩ := read
    subst isNext
    rw [isEnd] at afterSplit
    have denoted :=
      Denotes.member firstBlank isName secondBlank beforeBlank denotes
        behindBlank
    refine ⟨[(key, inner)], isFound.symm, ⟨_, denoted, ?_⟩, extended, ?_, ?_,
        bounded⟩
    · rw [start, afterSplit]
      simp
    · intro otherKey other member
      cases List.mem_singleton.mp member
      exact ⟨fits, inside⟩
    · rw [nodes]
      simp [nodesOfMembers, Nat.add_assoc]
  · simp only [bind_ok] at read
    obtain ⟨laterRest, isComma, isLater⟩ := read
    obtain ⟨blank, isBlank, commaSplit⟩ := take_ok isComma
    rw [commaSplit] at afterSplit
    obtain ⟨others, isFound, ⟨othersBody, othersDenote, othersSplit⟩,
      othersUnique, othersInside, othersNodes, othersBounded⟩ :=
      reads.members _ _ _ _ _ extended isLater
    simp only at othersSplit othersNodes
    have denoted :=
      Denotes.members firstBlank isName secondBlank beforeBlank denotes
        (behindBlank.append isBlank) othersDenote
    refine
      ⟨(key, inner) :: others, ?_, ⟨_, denoted, ?_⟩, ?_, ?_, ?_, othersBounded⟩
    · rw [isFound]
      simp
    · rw [start, afterSplit, othersSplit]
      simp
    · simpa using othersUnique
    · intro otherKey other member
      rcases List.mem_cons.mp member with isFirst | isOther
      · cases isFirst
        exact ⟨fits, inside⟩
      · exact othersInside otherKey other isOther
    · rw [othersNodes, nodes]
      simp [nodesOfMembers, Nat.add_assoc]

/-- One more element is read. -/
theorem elements_succ (reads : Reads fuel) {result found : List Json} (read :
      elementsLoop (fuel + 1) (path.length + 1) path result cursor =
        .ok (found, next)) :
    ∃ elements, found = result ++ elements ∧
        ReadsElements path result cursor elements next := by
  simp only [elementsLoop, bind_ok, require_ok] at read
  obtain ⟨_, short, ⟨inner, after⟩, isValue, read⟩ := read
  simp only at isValue read
  have deeper :
      (path ++ [Step.index result.length]).length = path.length + 1 := by
    simp
  rw [← deeper] at isValue
  obtain ⟨⟨before, body, beforeBlank, denotes, valueSplit⟩, inside, nodes,
    bounded⟩ := reads.value _ _ _ _ isValue
  obtain ⟨behind, behindBlank, afterSplit⟩ := whitespace_split after.rest
  split at read
  · rename_i rest isEnd
    simp only [pure_ok, Prod.mk.injEq] at read
    obtain ⟨isFound, isNext⟩ := read
    subst isNext
    rw [isEnd] at afterSplit
    have denoted := Denotes.element beforeBlank denotes behindBlank
    refine ⟨[inner], isFound.symm, ⟨_, denoted, ?_⟩, short, ?_, ?_, bounded⟩
    · rw [valueSplit, afterSplit]
      simp
    · intro index value isAt
      cases index with
      | zero =>
          cases isAt
          exact inside
      | succ index => cases isAt
    · rw [nodes]
      simp [nodesOfElements]
  · simp only [bind_ok] at read
    obtain ⟨laterRest, isComma, isLater⟩ := read
    obtain ⟨blank, isBlank, commaSplit⟩ := take_ok isComma
    rw [commaSplit] at afterSplit
    obtain ⟨others, isFound, ⟨othersBody, othersDenote, othersSplit⟩,
      othersShort, othersInside, othersNodes, othersBounded⟩ :=
      reads.elements _ _ _ _ _ isLater
    simp only [List.length_append, List.length_cons, List.length_nil,
      Nat.zero_add] at othersSplit othersShort othersInside othersNodes
    have denoted :=
      Denotes.elements beforeBlank denotes (behindBlank.append isBlank)
        othersDenote
    refine ⟨inner :: others, ?_, ⟨_, denoted, ?_⟩, ?_, ?_, ?_, othersBounded⟩
    · rw [isFound]
      simp
    · rw [valueSplit, afterSplit, othersSplit]
      simp
    · rw [List.length_cons]
      omega
    · intro index value isAt
      cases index with
      | zero =>
          cases isAt
          exact inside
      | succ index =>
          have isLaterElement := othersInside index value isAt
          rwa [Nat.add_assoc, Nat.add_comm 1 index] at isLaterElement
    · rw [othersNodes, nodes]
      simp [nodesOfElements, Nat.add_assoc]

end Reads

/-- Whatever is read is of the grammar. -/
theorem reads (fuel : Nat) : Reads fuel := by
  induction fuel with
  | zero =>
      constructor
      · intro path cursor value next read
        simp [Network.value] at read
      · intro path result cursor found next _ read
        simp [membersLoop] at read
      · intro path result cursor found next read
        simp [elementsLoop] at read
  | succ fuel inductionHypothesis =>
      constructor
      · intro path cursor value next read
        exact inductionHypothesis.value_succ read
      · intro path result cursor found next unique read
        exact inductionHypothesis.members_succ unique read
      · intro path result cursor found next read
        exact inductionHypothesis.elements_succ read

theorem ReadsValue.shorter
    {value : Json} (readsValue : ReadsValue path cursor value next) :
    next.rest.length < cursor.rest.length := by
  obtain ⟨⟨before, body, _, denotes, split⟩, _⟩ := readsValue
  obtain ⟨first, others, shape, _⟩ := denotes.opens
  rw [split, shape]
  simp only [List.length_append, List.length_cons]
  omega

theorem take_length {char : Char} (taken : take char text = .ok rest) :
    rest.length < text.length := by
  obtain ⟨blank, _, split⟩ := take_ok taken
  rw [split, List.length_append, List.length_cons]
  omega

theorem string_length
    {value : Text} (read : string fuel text = .ok (value, rest)) :
    rest.length ≤ text.length := by
  obtain ⟨blank, name, _, _, split, _⟩ := string_ok read
  rw [split, List.length_append]
  exact Nat.le_add_left _ _

/-- With enough fuel the calls raise only the violation. -/
structure Closed (fuel : Nat) : Prop where
  value : ∀ path cursor, 2 * cursor.rest.length + 1 ≤ fuel →
      IsClosed (Network.value fuel (path.length + 1) path cursor)
  members : ∀ path result cursor, 2 * cursor.rest.length + 2 ≤ fuel →
      IsClosed (membersLoop fuel (path.length + 1) path result cursor)
  elements : ∀ path result cursor, 2 * cursor.rest.length + 2 ≤ fuel →
      IsClosed (elementsLoop fuel (path.length + 1) path result cursor)

namespace Closed

theorem value_succ
    (closed : Closed fuel) (fuelled : 2 * cursor.rest.length + 1 ≤ fuel + 1) :
    IsClosed (Network.value (fuel + 1) (path.length + 1) path cursor) := by
  simp only [Network.value]
  refine .bind (.require _ _) fun _ _ => ?_
  refine .bind (.bind (.require _ _) fun _ _ => .ok _) fun counted isCounted =>
      ?_
  obtain ⟨_, rfl⟩ := count_ok isCounted
  have stripped := whitespace_length cursor.rest
  simp only
  split
  · exact .invalid
  · rename_i first rest isText
    rw [isText, List.length_cons] at stripped
    have inner := whitespace_length rest
    split
    · refine .bind (string_closed ?_) fun _ _ => .ok _
      rw [List.length_cons]
      omega
    · split
      · split
        · exact .ok _
        · refine .bind (closed.members _ _ _ ?_) fun _ _ => .ok _
          simp only
          omega
      · split
        · split
          · exact .ok _
          · refine .bind (closed.elements _ _ _ ?_) fun _ _ => .ok _
            simp only
            omega
        · exact .bind (scalar_closed _) fun _ _ => .ok _

theorem members_succ
    (closed : Closed fuel) (fuelled : 2 * cursor.rest.length + 2 ≤ fuel + 1) :
    IsClosed (membersLoop (fuel + 1) (path.length + 1) path result cursor) := by
  simp only [membersLoop]
  refine .bind (.bind (.require _ _) fun _ _ => .ok _) fun counted isCounted =>
      ?_
  obtain ⟨_, rfl⟩ := count_ok isCounted
  refine .bind (string_closed (by simp only; omega)) fun name isName => ?_
  have keyLength := string_length isName
  refine .bind (.require _ _) fun _ _ => ?_
  refine .bind (take_closed _ _) fun valueRest isColon => ?_
  have valueLength := take_length isColon
  simp only at keyLength
  have deeper : (path ++ [Step.key name.1]).length = path.length + 1 := by
    simp
  rw [← deeper]
  refine .bind (closed.value _ _ (by simp only; omega)) fun inner isValue => ?_
  have afterLength := ((reads fuel).value _ _ _ _ isValue).shorter
  have stripped := whitespace_length inner.2.rest
  simp only at afterLength ⊢
  split
  · exact .ok _
  · refine .bind (take_closed _ _) fun laterRest isComma => ?_
    have laterLength := take_length isComma
    rw [deeper]
    refine closed.members _ _ _ ?_
    simp only
    omega

theorem elements_succ (closed : Closed fuel) {result : List Json}
    (fuelled : 2 * cursor.rest.length + 2 ≤ fuel + 1) :
    IsClosed
      (elementsLoop (fuel + 1) (path.length + 1) path result cursor) := by
  simp only [elementsLoop]
  refine .bind (.require _ _) fun _ _ => ?_
  have deeper :
      (path ++ [Step.index result.length]).length = path.length + 1 := by
    simp
  rw [← deeper]
  refine .bind (closed.value _ _ (by omega)) fun inner isValue => ?_
  have afterLength := ((reads fuel).value _ _ _ _ isValue).shorter
  have stripped := whitespace_length inner.2.rest
  split
  · exact .ok _
  · refine .bind (take_closed _ _) fun laterRest isComma => ?_
    have laterLength := take_length isComma
    rw [deeper]
    refine closed.elements _ _ _ ?_
    simp only
    omega

end Closed

/-- With enough fuel only the violation is raised. -/
theorem closed (fuel : Nat) : Closed fuel := by
  induction fuel with
  | zero =>
      constructor
      · intro path cursor fuelled
        omega
      · intro path result cursor fuelled
        omega
      · intro path result cursor fuelled
        omega
  | succ fuel inductionHypothesis =>
      constructor
      · intro path cursor fuelled
        exact inductionHypothesis.value_succ fuelled
      · intro path result cursor fuelled
        exact inductionHypothesis.members_succ fuelled
      · intro path result cursor fuelled
        exact inductionHypothesis.elements_succ fuelled

end TicketSandbox.Network
