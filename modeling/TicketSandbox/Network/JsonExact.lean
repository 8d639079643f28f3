import Mathlib.Data.List.DropRight
import TicketSandbox.Network.JsonSound

namespace TicketSandbox.Network

/-!
# The bounded JSON parser is exact

The parser reads every text of the grammar that is within its limits, by
induction on the derivation; together with its soundness this says exactly
what `bounded_json2` accepts, and what it returns.
-/

open JsonText
open Raises

/-! ## What stands behind a value -/

/-- A number ends before the text. -/
def Follows (rest : Text) : Prop :=
  ∀ char ∈ rest.head?, isDigit char = false ∧ char ∉ ['.', 'e', 'E']

theorem follows_nil : Follows [] := by
  simp [Follows]

variable {rest before text behind others later key name second : Text}
  {first : Char} {fuel nodes : Nat} {path : Path} {next : Cursor}
  {expected : Json} {raw : ByteArray}

theorem Follows.blank
    {blank : Text} (follows : Follows rest) (isBlank : Blank blank) :
    Follows (blank ++ rest) := by
  cases blank with
  | nil => exact follows
  | cons first others =>
      intro char isHead
      cases isHead
      have firstBlank := isBlank first List.mem_cons_self
      simp only [JsonText.isBlank, Bool.or_eq_true, beq_iff_eq] at firstBlank
      rcases firstBlank with ((rfl | rfl) | rfl) | rfl
      all_goals decide

theorem follows_cons
    (rest : Text) (isEnd : isDigit first = false ∧ first ∉ ['.', 'e', 'E']) :
    Follows (first :: rest) := by
  intro char isHead
  cases isHead
  exact isEnd

/-! ## Unfoldings of `value` -/

theorem whitespace_whitespace (text : Text) :
    whitespace (whitespace text) = whitespace text :=
  List.dropWhile_idempotent _ _

theorem value_whitespace
    (fuel depth : Nat) (path : Path) (text : Text) (nodes : Nat) :
    value fuel depth path ⟨whitespace text, nodes⟩ =
      value fuel depth path ⟨text, nodes⟩ := by
  cases fuel with
  | zero => simp [value]
  | succ fuel =>
      simp only [value, Cursor.count]
      by_cases below : nodes < maxNodes
      · simp [require, ensure, below, bind, Except.bind, pure,
          Except.pure, whitespace_whitespace]
      · simp [require, ensure, below, bind, Except.bind]

theorem elementsLoop_whitespace (fuel depth : Nat) (path : Path)
    (result : List Json) (text : Text) (nodes : Nat) :
    elementsLoop fuel depth path result ⟨whitespace text, nodes⟩ =
      elementsLoop fuel depth path result ⟨text, nodes⟩ := by
  cases fuel with
  | zero => simp [elementsLoop]
  | succ fuel => simp only [elementsLoop, value_whitespace]

theorem membersLoop_whitespace (fuel depth : Nat) (path : Path)
    (result : List (Text × Json)) (text : Text) (nodes : Nat) :
    membersLoop fuel depth path result ⟨whitespace text, nodes⟩ =
      membersLoop fuel depth path result ⟨text, nodes⟩ := by
  cases fuel with
  | zero => simp [membersLoop]
  | succ fuel =>
      simp only [membersLoop, Cursor.count, string, take]
      by_cases below : nodes < maxNodes
      · simp [require, ensure, below, bind, Except.bind, pure,
          Except.pure, whitespace_whitespace]
      · simp [require, ensure, below, bind, Except.bind]

theorem value_string (shallow : path.length < maxDepth)
    (below : nodes < maxNodes) (isBlank : Blank before)
    (isRead : string fuel ('"' :: rest) = .ok (text, behind)) :
    value (fuel + 1) (path.length + 1) path ⟨before ++ '"' :: rest, nodes⟩ =
      .ok (.str text, ⟨behind, nodes + 1⟩) := by
  have stripped : whitespace (before ++ '"' :: rest) = '"' :: rest :=
    whitespace_append isBlank (by simp [JsonText.isBlank])
  simp only [value]
  refine bind_ok.mpr ⟨(), require_ok.mpr shallow, ?_⟩
  refine bind_ok.mpr ⟨_, bind_ok.mpr ⟨(), require_ok.mpr below, rfl⟩, ?_⟩
  simp only [stripped, ↓reduceIte]
  exact bind_ok.mpr ⟨_, isRead, rfl⟩

theorem value_scalar {scalarValue : Json} (shallow : path.length < maxDepth)
    (below : nodes < maxNodes) (isBlank : Blank before)
    (stops : JsonText.isBlank first = false)
    (isOther : first ≠ '"' ∧ first ≠ '{' ∧ first ≠ '[')
    (isRead : scalar (first :: rest) = .ok (scalarValue, behind)) :
    value (fuel + 1) (path.length + 1) path ⟨before ++ first :: rest, nodes⟩ =
      .ok (scalarValue, ⟨behind, nodes + 1⟩) := by
  have stripped : whitespace (before ++ first :: rest) = first :: rest :=
    whitespace_append isBlank (by simp [stops])
  simp only [value]
  refine bind_ok.mpr ⟨(), require_ok.mpr shallow, ?_⟩
  refine bind_ok.mpr
      ⟨_, bind_ok.mpr ⟨(), require_ok.mpr below, rfl⟩, ?_⟩
  simp only [stripped, isOther.1, isOther.2.1, isOther.2.2, ↓reduceIte]
  exact bind_ok.mpr ⟨_, isRead, rfl⟩

theorem value_emptyArr (fuel : Nat) {blank : Text} (behind : Text)
    (shallow : path.length < maxDepth) (below : nodes < maxNodes)
    (isBlank : Blank before) (inside : Blank blank) :
    value (fuel + 1) (path.length + 1) path
        ⟨before ++ '[' :: (blank ++ ']' :: behind), nodes⟩ =
      .ok (.arr [], ⟨behind, nodes + 1⟩) := by
  have stripped : whitespace (before ++ '[' :: (blank ++ ']' :: behind)) =
        '[' :: (blank ++ ']' :: behind) :=
    whitespace_append isBlank (by simp [JsonText.isBlank])
  have isEnd : whitespace (blank ++ ']' :: behind) = ']' :: behind :=
    whitespace_append inside (by simp [JsonText.isBlank])
  simp only [value]
  refine bind_ok.mpr ⟨(), require_ok.mpr shallow, ?_⟩
  refine bind_ok.mpr ⟨_, bind_ok.mpr ⟨(), require_ok.mpr below, rfl⟩, ?_⟩
  simp only [stripped, isEnd]
  rfl

theorem value_emptyObj (fuel : Nat) {blank : Text} (behind : Text)
    (shallow : path.length < maxDepth) (below : nodes < maxNodes)
    (isBlank : Blank before) (inside : Blank blank) :
    value (fuel + 1) (path.length + 1) path
        ⟨before ++ '{' :: (blank ++ '}' :: behind), nodes⟩ =
      .ok (.obj [], ⟨behind, nodes + 1⟩) := by
  have stripped : whitespace (before ++ '{' :: (blank ++ '}' :: behind)) =
        '{' :: (blank ++ '}' :: behind) :=
    whitespace_append isBlank (by simp [JsonText.isBlank])
  have isEnd : whitespace (blank ++ '}' :: behind) = '}' :: behind :=
    whitespace_append inside (by simp [JsonText.isBlank])
  simp only [value]
  refine bind_ok.mpr ⟨(), require_ok.mpr shallow, ?_⟩
  refine bind_ok.mpr ⟨_, bind_ok.mpr ⟨(), require_ok.mpr below, rfl⟩, ?_⟩
  simp only [stripped, isEnd]
  rfl

variable {elements : List Json}

theorem value_arr (shallow : path.length < maxDepth) (below : nodes < maxNodes)
    (isBlank : Blank before)
    (inside : whitespace rest = first :: others) (isOpen : first ≠ ']')
    (isRead : elementsLoop fuel (path.length + 1) path [] ⟨rest, nodes + 1⟩ =
        .ok (elements, next)) :
    value (fuel + 1) (path.length + 1) path ⟨before ++ '[' :: rest, nodes⟩ =
      .ok (.arr elements, next) := by
  have stripped : whitespace (before ++ '[' :: rest) = '[' :: rest :=
    whitespace_append isBlank (by simp [JsonText.isBlank])
  rw [← elementsLoop_whitespace, inside] at isRead
  simp only [value]
  refine bind_ok.mpr ⟨(), require_ok.mpr shallow, ?_⟩
  refine bind_ok.mpr ⟨_, bind_ok.mpr ⟨(), require_ok.mpr below, rfl⟩, ?_⟩
  simp only [stripped, inside, ↓reduceIte, Char.reduceEq]
  split
  · rename_i isEnd
    cases isEnd
    exact absurd rfl isOpen
  · exact bind_ok.mpr ⟨_, isRead, rfl⟩

variable {members : List (Text × Json)}

theorem value_obj (shallow : path.length < maxDepth) (below : nodes < maxNodes)
    (isBlank : Blank before)
    (inside : whitespace rest = first :: others) (isOpen : first ≠ '}')
    (isRead : membersLoop fuel (path.length + 1) path [] ⟨rest, nodes + 1⟩ =
        .ok (members, next)) :
    value (fuel + 1) (path.length + 1) path ⟨before ++ '{' :: rest, nodes⟩ =
      .ok (.obj members, next) := by
  have stripped : whitespace (before ++ '{' :: rest) = '{' :: rest :=
    whitespace_append isBlank (by simp [JsonText.isBlank])
  rw [← membersLoop_whitespace, inside] at isRead
  simp only [value]
  refine bind_ok.mpr ⟨(), require_ok.mpr shallow, ?_⟩
  refine bind_ok.mpr
      ⟨_, bind_ok.mpr ⟨(), require_ok.mpr below, rfl⟩, ?_⟩
  simp only [stripped, inside, ↓reduceIte, Char.reduceEq]
  split
  · rename_i isEnd
    cases isEnd
    exact absurd rfl isOpen
  · exact bind_ok.mpr ⟨_, isRead, rfl⟩

/-! ## Completeness -/

theorem one_le_nodes (value : Json) : 1 ≤ value.nodes := by
  cases value with
  | null | int | str => exact Nat.le_refl 1
  | arr elements | obj members =>
      rw [Json.nodes]
      exact Nat.le_add_right _ _

theorem length_le_nodes (elements : List Json) :
    elements.length ≤ nodesOfElements elements := by
  induction elements with
  | nil => exact Nat.zero_le _
  | cons first others inductionHypothesis =>
      have positive := one_le_nodes first
      rw [nodesOfElements, List.length_cons]
      omega

theorem length_le_limit (within : WithinLimits path (.arr elements))
    (few : elements.length ≤ maxNodes) :
    elements.length ≤ arrayLimit path := by
  unfold arrayLimit
  split
  · rename_i isTop
    exact within.1 isTop
  · split
    · rename_i isExpr
      exact within.2 isExpr
    · exact few

/-- What `value` makes of the texts of a value. -/
def CompleteValue (expected : Json) (text : Text) : Prop :=
  ∀ fuel path before rest nodes, Blank before → 2 * text.length + 1 ≤ fuel →
    Everywhere Allowed path expected →
    nodes + expected.nodes ≤ maxNodes →
    Follows rest →
    value fuel (path.length + 1) path ⟨before ++ (text ++ rest), nodes⟩ =
      .ok (expected, ⟨rest, nodes + expected.nodes⟩)

/-- What the loop over elements makes of their texts. -/
def CompleteElements (elements : List Json) (text : Text) : Prop :=
  ∀ fuel path result rest nodes, 2 * text.length + 2 ≤ fuel →
    result.length + elements.length ≤ arrayLimit path →
    (∀ index value, elements[index]? = some value →
      Everywhere Allowed (path ++ [.index (result.length + index)]) value) →
    nodes + nodesOfElements elements ≤ maxNodes →
    elementsLoop fuel (path.length + 1) path result
        ⟨text ++ ']' :: rest, nodes⟩ =
      .ok (result ++ elements, ⟨rest, nodes + nodesOfElements elements⟩)

/-- What the loop over members makes of their texts. -/
def CompleteMembers (members : List (Text × Json)) (text : Text) : Prop :=
  ∀ fuel path result rest nodes, 2 * text.length + 2 ≤ fuel →
    ((result ++ members).map Prod.fst).Nodup →
    (∀ key value, (key, value) ∈ members → utf8Length key ≤ maxStringBytes ∧
        Everywhere Allowed (path ++ [.key key]) value) →
    nodes + nodesOfMembers members ≤ maxNodes →
    membersLoop fuel (path.length + 1) path result
        ⟨text ++ '}' :: rest, nodes⟩ =
      .ok (result ++ members, ⟨rest, nodes + nodesOfMembers members⟩)

/-- What the parser makes of the texts of the grammar. -/
def Complete : Part → Text → Prop
  | .value value, text => CompleteValue value text
  | .elements elements, text => CompleteElements elements text
  | .members members, text => CompleteMembers members text

theorem allowed_here
    {value : Json} (everywhere : Everywhere Allowed path value) :
    Allowed path value := by
  simpa using everywhere [] value .here

/-- Fuel for a step leaves fuel for the rest. -/
theorem fuel_succ {least : Nat} (fuelled : least + 1 ≤ fuel) :
    ∃ left, fuel = left + 1 ∧ least ≤ left :=
  ⟨fuel - 1, by omega, by omega⟩

theorem complete_null : CompleteValue .null ['n', 'u', 'l', 'l'] := by
  intro fuel path before rest nodes isBlank fuelled everywhere few follows
  obtain ⟨left, rfl, _⟩ := fuel_succ fuelled
  refine value_scalar (allowed_here everywhere).1 few isBlank (by decide)
      (by decide) ?_
  simp [scalar, isDigit, pure, Except.pure]

theorem complete_int {expected : Int} (isInteger : Integer expected text) :
    CompleteValue (.int expected) text := by
  intro fuel path before rest nodes isBlank fuelled everywhere few follows
  obtain ⟨left, rfl, _⟩ := fuel_succ fuelled
  obtain ⟨shallow, inRange⟩ := allowed_here everywhere
  have isRead :=
    number_append isInteger inRange (fun char isHead => (follows char isHead).1)
      fun char isHead => (follows char isHead).2
  have begins : ∃ first others,
        text = first :: others ∧ JsonText.isBlank first = false ∧
          (first ≠ '"' ∧ first ≠ '{' ∧ first ≠ '[') ∧
          (first = '-' ∨ isDigit first = true) := by
    cases isInteger with
    | natural isNumeral =>
        obtain ⟨first, others, rfl, digit⟩ := isNumeral.head
        have differs {other : Char} (noDigit : isDigit other = false) :
            first ≠ other := by
          rintro rfl
          exact absurd (digit.symm.trans noDigit) (by decide)
        obtain ⟨_, _, shape, notBlank, _⟩ := opens_of_isDigit others digit
        cases shape
        exact ⟨first, others, rfl, notBlank,
            ⟨differs (by decide), differs (by decide), differs (by decide)⟩,
            .inr digit⟩
    | negative => exact ⟨'-', _, rfl, by decide, by decide, .inl rfl⟩
  obtain ⟨first, others, rfl, notBlank, isOther, isNumber⟩ := begins
  refine value_scalar shallow few isBlank notBlank isOther ?_
  simp only [scalar, List.append_eq, isNumber, ↓reduceIte]
  exact bind_ok.mpr ⟨_, isRead, rfl⟩

theorem complete_str {expected : Text} (isQuoted : Quoted expected text) :
    CompleteValue (.str expected) text := by
  intro fuel path before rest nodes isBlank fuelled everywhere few follows
  obtain ⟨left, rfl, enough⟩ := fuel_succ fuelled
  obtain ⟨shallow, fits⟩ := allowed_here everywhere
  have isRead := string_append left blank_nil isQuoted rest (by omega) fits
  obtain ⟨isBody⟩ := isQuoted
  exact value_string shallow few isBlank isRead

theorem elements_open
    (denotes : Denotes (.elements elements) text) (rest : Text) :
    ∃ first others,
      whitespace (text ++ rest) = first :: others ∧ first ≠ ']' := by
  cases denotes with
  | element before isValue behind =>
      obtain ⟨first, others, rfl, notBlank, isOpen, _⟩ := isValue.opens
      rw [List.append_assoc, List.append_assoc]
      exact ⟨first, _, whitespace_append before (by simp [notBlank]), isOpen⟩
  | elements before isValue behind later =>
      obtain ⟨first, others, rfl, notBlank, isOpen, _⟩ := isValue.opens
      rw [List.append_assoc, List.append_assoc, List.append_assoc]
      exact ⟨first, _, whitespace_append before (by simp [notBlank]), isOpen⟩

theorem members_open (denotes : Denotes (.members members) text) (rest : Text) :
    ∃ first others,
      whitespace (text ++ rest) = first :: others ∧ first ≠ '}' := by
  cases denotes with
  | member blank isName second before isValue behind =>
      obtain ⟨isBody⟩ := isName
      simp only [List.append_assoc, List.cons_append]
      exact ⟨'"', _, whitespace_append blank (by simp [JsonText.isBlank]),
          by decide⟩
  | members blank isName second before isValue behind later =>
      obtain ⟨isBody⟩ := isName
      simp only [List.append_assoc, List.cons_append]
      exact ⟨'"', _, whitespace_append blank (by simp [JsonText.isBlank]),
          by decide⟩

theorem complete_arr (denotes : Denotes (.elements elements) text)
    (complete : CompleteElements elements text) :
    CompleteValue (.arr elements) ('[' :: (text ++ [']'])) := by
  intro fuel path before rest nodes isBlank fuelled everywhere few follows
  obtain ⟨left, rfl, enough⟩ := fuel_succ fuelled
  obtain ⟨⟨shallow, within⟩, inside⟩ := everywhere_arr.mp everywhere
  simp only [List.length_cons, List.length_append, List.length_nil] at enough
  rw [Json.nodes] at few ⊢
  have some := length_le_nodes elements
  have short : elements.length ≤ maxNodes := by omega
  have isRead := complete left path [] rest (nodes + 1) (by omega)
      (by simpa using length_le_limit within short)
      (by simpa using inside) (by omega)
  obtain ⟨first, others, opens, isOpen⟩ := elements_open denotes (']' :: rest)
  have below : nodes < maxNodes := by omega
  have isArray := value_arr shallow below isBlank opens isOpen isRead
  simpa [Nat.add_assoc] using isArray

theorem complete_obj (denotes : Denotes (.members members) text)
    (complete : CompleteMembers members text) :
    CompleteValue (.obj members) ('{' :: (text ++ ['}'])) := by
  intro fuel path before rest nodes isBlank fuelled everywhere few follows
  obtain ⟨left, rfl, enough⟩ := fuel_succ fuelled
  obtain ⟨⟨shallow, unique, fits⟩, inside⟩ := everywhere_obj.mp everywhere
  simp only [List.length_cons, List.length_append, List.length_nil] at enough
  rw [Json.nodes] at few ⊢
  have isRead := complete left path [] rest (nodes + 1) (by omega) unique
      (fun key value member =>
        ⟨fits key (List.mem_map_of_mem member), inside key value member⟩)
      (by omega)
  obtain ⟨first, others, opens, isOpen⟩ := members_open denotes ('}' :: rest)
  have below : nodes < maxNodes := by omega
  have isObject := value_obj shallow below isBlank opens isOpen isRead
  simpa [Nat.add_assoc] using isObject

theorem complete_element (isBlank : Blank before)
    (complete : CompleteValue expected text) (isTail : Blank behind) :
    CompleteElements [expected] (before ++ text ++ behind) := by
  intro fuel path result rest nodes fuelled short inside few
  obtain ⟨left, rfl, enough⟩ := fuel_succ fuelled
  simp only [List.length_append] at enough
  have follows : Follows (behind ++ ']' :: rest) :=
    (follows_cons rest (by decide)).blank isTail
  have isRead :=
    complete left (path ++ [.index result.length]) before _ nodes isBlank
      (by omega) (by simpa using inside 0 expected rfl)
      (by simpa [nodesOfElements] using few) follows
  have isEnd : whitespace (behind ++ ']' :: rest) = ']' :: rest :=
    whitespace_append isTail (by simp [JsonText.isBlank])
  simp only [List.length_append, List.length_cons, List.length_nil] at isRead
  simp only [elementsLoop, List.append_assoc]
  refine bind_ok.mpr ⟨(), require_ok.mpr short, ?_⟩
  refine bind_ok.mpr ⟨_, isRead, ?_⟩
  simp only [isEnd]
  rfl

theorem complete_elements {others : List Json} (isBlank : Blank before)
    (complete : CompleteValue expected text) (isTail : Blank behind)
    (completeOthers : CompleteElements others later) :
    CompleteElements (expected :: others)
      (before ++ text ++ behind ++ ',' :: later) := by
  intro fuel path result rest nodes fuelled short inside few
  obtain ⟨left, rfl, enough⟩ := fuel_succ fuelled
  simp only [List.length_append, List.length_cons] at enough short
  rw [nodesOfElements] at few ⊢
  have follows : Follows (behind ++ ',' :: (later ++ ']' :: rest)) :=
    (follows_cons _ (by decide)).blank isTail
  have isRead :=
    complete left (path ++ [.index result.length]) before _ nodes isBlank
      (by omega) (by simpa using inside 0 expected rfl) (by omega) follows
  have isComma : whitespace (behind ++ ',' :: (later ++ ']' :: rest)) =
        ',' :: (later ++ ']' :: rest) :=
    whitespace_append isTail (by simp [JsonText.isBlank])
  have isLater := completeOthers left path (result ++ [expected]) rest
      (nodes + expected.nodes) (by omega)
      (by
        rw [List.length_append, List.length_cons, List.length_nil]
        omega)
      (by
        intro index value isAt
        have isInside := inside (index + 1) value isAt
        rw [List.length_append, List.length_cons, List.length_nil,
          Nat.zero_add, Nat.add_assoc, Nat.add_comm 1 index]
        exact isInside)
      (by omega)
  simp only [List.length_append, List.length_cons, List.length_nil] at isRead
  simp only [elementsLoop, List.append_assoc, List.cons_append]
  refine bind_ok.mpr ⟨(), require_ok.mpr (by omega), ?_⟩
  refine bind_ok.mpr ⟨_, isRead, ?_⟩
  simp only [isComma]
  refine bind_ok.mpr ⟨_, take_head _ (by decide), ?_⟩
  simpa [Nat.add_assoc] using isLater

theorem key_append (fuel : Nat) {blank : Text} (isBlank : Blank blank)
    (isName : Quoted key name) (secondBlank : Blank second) (rest : Text)
    (fuelled : name.length ≤ fuel) (fits : utf8Length key ≤ maxStringBytes) :
    string fuel (blank ++ (name ++ (second ++ ':' :: rest))) =
        .ok (key, second ++ ':' :: rest) ∧
      take ':' (second ++ ':' :: rest) = .ok rest :=
  ⟨string_append fuel isBlank isName _ fuelled fits,
    take_append secondBlank rest (by decide)⟩

theorem complete_member
    {blank : Text} (firstBlank : Blank blank) (isName : Quoted key name)
    (secondBlank : Blank second) (isBlank : Blank before)
    (complete : CompleteValue expected text) (isTail : Blank behind) :
    CompleteMembers [(key, expected)]
      (blank ++ name ++ second ++ ':' :: (before ++ text ++ behind)) := by
  intro fuel path result rest nodes fuelled unique inside few
  obtain ⟨left, rfl, enough⟩ := fuel_succ fuelled
  simp only [List.length_append, List.length_cons] at enough
  simp only [nodesOfMembers, Nat.add_zero] at few ⊢
  obtain ⟨fits, everywhere⟩ := inside key expected (by simp)
  have isNew : key ∉ result.map Prod.fst := by
    intro member
    rw [List.map_append, List.nodup_append] at unique
    exact unique.2.2 key member key (by simp) rfl
  have follows : Follows (behind ++ '}' :: rest) :=
    (follows_cons rest (by decide)).blank isTail
  have isRead := complete left (path ++ [.key key]) before _ (nodes + 1) isBlank
      (by omega) everywhere (by omega) follows
  have isEnd : whitespace (behind ++ '}' :: rest) = '}' :: rest :=
    whitespace_append isTail (by simp [JsonText.isBlank])
  have below : nodes < maxNodes := by omega
  obtain ⟨isKey, isColon⟩ := key_append left firstBlank isName secondBlank
      (before ++ (text ++ (behind ++ '}' :: rest))) (by omega) fits
  simp only [List.length_append, List.length_cons, List.length_nil] at isRead
  simp only [membersLoop, List.append_assoc, List.cons_append]
  refine bind_ok.mpr ⟨_, bind_ok.mpr ⟨(), require_ok.mpr below, rfl⟩, ?_⟩
  refine bind_ok.mpr ⟨_, isKey, ?_⟩
  refine bind_ok.mpr ⟨(), require_ok.mpr isNew, ?_⟩
  refine bind_ok.mpr ⟨_, isColon, ?_⟩
  refine bind_ok.mpr ⟨_, isRead, ?_⟩
  simp only [isEnd]
  simp [pure, Except.pure, Nat.add_assoc]

theorem complete_members
    {others : List (Text × Json)} {blank : Text} (firstBlank : Blank blank)
    (isName : Quoted key name) (secondBlank : Blank second)
    (isBlank : Blank before) (complete : CompleteValue expected text)
    (isTail : Blank behind) (completeOthers : CompleteMembers others later) :
    CompleteMembers ((key, expected) :: others) (blank ++ name ++ second ++
        ':' :: (before ++ text ++ behind ++ ',' :: later)) := by
  intro fuel path result rest nodes fuelled unique inside few
  obtain ⟨left, rfl, enough⟩ := fuel_succ fuelled
  simp only [List.length_append, List.length_cons] at enough
  rw [nodesOfMembers] at few ⊢
  obtain ⟨fits, everywhere⟩ := inside key expected (by simp)
  have isNew : key ∉ result.map Prod.fst := by
    intro member
    rw [List.map_append, List.nodup_append] at unique
    exact unique.2.2 key member key (by simp) rfl
  have follows : Follows (behind ++ ',' :: (later ++ '}' :: rest)) :=
    (follows_cons _ (by decide)).blank isTail
  have isRead := complete left (path ++ [.key key]) before _ (nodes + 1) isBlank
      (by omega) everywhere (by omega) follows
  have isComma : whitespace (behind ++ ',' :: (later ++ '}' :: rest)) =
        ',' :: (later ++ '}' :: rest) :=
    whitespace_append isTail (by simp [JsonText.isBlank])
  have isLater := completeOthers left path (result ++ [(key, expected)]) rest
      (nodes + 1 + expected.nodes) (by omega) (by simpa using unique)
      (fun otherKey value member =>
        inside otherKey value (List.mem_cons_of_mem _ member))
      (by omega)
  have below : nodes < maxNodes := by omega
  obtain ⟨isKey, isColon⟩ := key_append left firstBlank isName secondBlank
      (before ++ (text ++ (behind ++ ',' :: (later ++ '}' :: rest))))
      (by omega) fits
  simp only [List.length_append, List.length_cons, List.length_nil] at isRead
  simp only [membersLoop, List.append_assoc, List.cons_append]
  refine bind_ok.mpr ⟨_, bind_ok.mpr ⟨(), require_ok.mpr below, rfl⟩, ?_⟩
  refine bind_ok.mpr ⟨_, isKey, ?_⟩
  refine bind_ok.mpr ⟨(), require_ok.mpr isNew, ?_⟩
  refine bind_ok.mpr ⟨_, isColon, ?_⟩
  refine bind_ok.mpr ⟨_, isRead, ?_⟩
  simp only [isComma]
  refine bind_ok.mpr ⟨_, take_head _ (by decide), ?_⟩
  simpa [Nat.add_assoc] using isLater

theorem complete
    {part : Part} (denotes : Denotes part text) : Complete part text := by
  induction denotes with
  | null => exact complete_null
  | int isInteger => exact complete_int isInteger
  | str isQuoted => exact complete_str isQuoted
  | emptyArr inside =>
      intro fuel path before rest nodes isBlank fuelled everywhere few _
      obtain ⟨left, rfl, _⟩ := fuel_succ fuelled
      have isArray :=
        value_emptyArr left rest (allowed_here everywhere).1 few isBlank inside
      simpa [Json.nodes, nodesOfElements] using isArray
  | arr inner inductionHypothesis =>
      exact complete_arr inner inductionHypothesis
  | emptyObj inside =>
      intro fuel path before rest nodes isBlank fuelled everywhere few _
      obtain ⟨left, rfl, _⟩ := fuel_succ fuelled
      have isObject :=
        value_emptyObj left rest (allowed_here everywhere).1 few isBlank inside
      simpa [Json.nodes, nodesOfMembers] using isObject
  | obj inner inductionHypothesis =>
      exact complete_obj inner inductionHypothesis
  | element before inner behind inductionHypothesis =>
      exact complete_element before inductionHypothesis behind
  | elements before inner behind later innerHypothesis laterHypothesis =>
      exact complete_elements before innerHypothesis behind laterHypothesis
  | member first isName second before inner behind inductionHypothesis =>
      exact
        complete_member first isName second before inductionHypothesis behind
  | members first isName second before inner behind later innerHypothesis
      laterHypothesis =>
      exact complete_members first isName second before innerHypothesis behind
          laterHypothesis

/-! ## The whole text -/

/--
The bytes are the UTF-8 of a document that denotes the value, and are within
the limits: on the bytes, and on what stands at every path of the value.
-/
structure Accepts (raw : ByteArray) (value : Json) : Prop where
  size : 0 < raw.size ∧ raw.size ≤ maxBytes
  unmarked : ¬ byteOrderMark <+: raw.data.toList
  document : ∃ text : Text, raw = text.utf8Encode ∧ IsDocument value text
  allowed : Everywhere Allowed [] value
  few : value.nodes ≤ maxNodes

/-- Whatever is returned was to be accepted. -/
theorem accepts_of_ok
    {result : Json} (returned : boundedJson2 raw = .ok result) :
    Accepts raw result := by
  simp only [boundedJson2, bind_ok, require_ok] at returned
  obtain ⟨_, size, _, unmarked, returned⟩ := returned
  split at returned
  · cases returned
  · rename_i text decoded
    simp only [bind_ok, pure_ok, require_ok] at returned
    obtain ⟨⟨found, cursor⟩, isRead, _, isEnd, rfl⟩ := returned
    obtain ⟨⟨before, body, isBlank, denotes, split⟩, allowed, nodes, few⟩ :=
      (reads _).value [] _ _ _ isRead
    obtain ⟨behind, isTail, tailSplit⟩ := whitespace_split cursor.rest
    simp only at isEnd split nodes
    rw [isEnd, List.append_nil] at tailSplit
    have encoded : raw = text.toList.utf8Encode := by
      have isSome : raw.utf8Decode?.isSome = true := by
        rw [decoded]
        rfl
      have recoded : (raw.utf8Decode?.get isSome).toList.utf8Encode = raw :=
        ByteArray.utf8Encode_get_utf8Decode?
      simp only [decoded, Option.get_some] at recoded
      exact recoded.symm
    refine ⟨size, unmarked, ⟨text.toList, encoded, ?_⟩, allowed, ?_⟩
    · exact ⟨before, body, behind, isBlank, denotes, isTail, by
          rw [split, tailSplit, List.append_assoc]⟩
    · rw [nodes, Nat.zero_add] at few
      exact few

/-- Whatever is to be accepted is returned. -/
theorem ok_of_accepts
    (accepts : Accepts raw expected) : boundedJson2 raw = .ok expected := by
  obtain ⟨size, unmarked, ⟨text, encoded, before, body, behind, isBlank,
    denotes, isTail, split⟩, allowed, few⟩ := accepts
  have decoded : raw.utf8Decode? = some text.toArray := by
    rw [encoded]
    exact List.utf8Decode?_utf8Encode
  have follows : Follows behind := by
    have ends := follows_nil.blank isTail
    rwa [List.append_nil] at ends
  have fuelled : 2 * body.length + 1 ≤ enough text := by
    rw [enough, split, List.length_append, List.length_append]
    omega
  have isRead :=
    complete denotes (enough text) [] before behind 0 isBlank fuelled allowed
      (by omega) follows
  have isEnd : whitespace behind = [] := by
    have stripped : whitespace (behind ++ []) = [] :=
      whitespace_append isTail (by simp)
    rwa [List.append_nil] at stripped
  simp only [boundedJson2, decoded]
  refine bind_ok.mpr ⟨(), require_ok.mpr size, ?_⟩
  refine bind_ok.mpr ⟨(), require_ok.mpr unmarked, ?_⟩
  rw [← List.append_assoc, ← split] at isRead
  refine bind_ok.mpr ⟨_, isRead, ?_⟩
  exact bind_ok.mpr ⟨(), require_ok.mpr isEnd, rfl⟩

theorem boundedJson2_closed (raw : ByteArray) :
    IsClosed (boundedJson2 raw) := by
  refine .bind (.require _ _) fun _ _ => ?_
  refine .bind (.require _ _) fun _ _ => ?_
  split
  · exact .fail _
  · rename_i text _
    have enoughFuel := (closed (enough text.toList)).value [] ⟨text.toList, 0⟩
    refine .bind (enoughFuel (Nat.le_refl _)) fun _ _ => ?_
    exact .bind (.require _ _) fun _ _ => .ok _

/--
`bounded_json2` returns a value exactly when the bytes are accepted with it,
and otherwise raises the violation.
-/
theorem boundedJson2_exact (raw : ByteArray) :
    (∀ value, boundedJson2 raw = .ok value ↔ Accepts raw value) ∧
      ((∀ value, ¬ Accepts raw value) →
        ∃ reason, boundedJson2 raw = .error (.contractViolation2 reason)) := by
  refine ⟨fun value => ⟨accepts_of_ok, ok_of_accepts⟩, ?_⟩
  intro refused
  cases result : boundedJson2 raw with
  | ok value => exact absurd (accepts_of_ok result) (refused value)
  | error raised =>
      obtain ⟨reason, rfl⟩ := boundedJson2_closed raw raised result
      exact ⟨reason, rfl⟩

end TicketSandbox.Network
