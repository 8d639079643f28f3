import Mathlib.Data.List.Basic
import Mathlib.Tactic.Ring

namespace JsonText

/-!
# JSON texts

The grammar of JSON documents without booleans and without fractions: which
texts denote which value.  A value may be addressed by paths into it, and a
property of a whole document is a property of what stands at every path.
-/

/-- A text is a list of characters. -/
abbrev Text := List Char

/-- A value; the members of an object stand in the order of the text. -/
inductive Json where
  | null
  | int (value : Int)
  | str (text : Text)
  | arr (elements : List Json)
  | obj (members : List (Text × Json))

/-! ## Leaves -/

/-- Whitespace. -/
def isBlank (char : Char) : Bool :=
  char == ' ' || char == '\t' || char == '\r' || char == '\n'

/-- Nothing but whitespace. -/
def Blank (text : Text) : Prop :=
  ∀ char ∈ text, isBlank char = true

/-- A decimal digit. -/
def isDigit (char : Char) : Bool :=
  decide (48 ≤ char.toNat) && decide (char.toNat ≤ 57)

/-- The value of decimal digits. -/
def decimal (digits : Text) : Nat :=
  digits.foldl (fun value char => 10 * value + (char.toNat - 48)) 0

/-- Decimal digits without a leading zero. -/
structure Numeral (digits : Text) : Prop where
  nonempty : digits ≠ []
  onlyDigits : ∀ char ∈ digits, isDigit char = true
  unpadded : digits.head? = some '0' → digits.length = 1

/-- The texts of an integer. -/
inductive Integer : Int → Text → Prop where
  | natural {digits : Text} : Numeral digits → Integer (decimal digits) digits
  | negative {digits : Text} : Numeral digits →
      Integer (-(decimal digits : Int)) ('-' :: digits)

/-- The value of a hexadecimal digit. -/
def hexDigit? (char : Char) : Option Nat :=
  if isDigit char then some (char.toNat - 48)
  else if 97 ≤ char.toNat ∧ char.toNat ≤ 102 then some (char.toNat - 87)
  else if 65 ≤ char.toNat ∧ char.toNat ≤ 70 then some (char.toNat - 55)
  else none

/-- The value of four hexadecimal digits. -/
def hexValue? (first second third fourth : Char) : Option Nat := do
  let a ← hexDigit? first
  let b ← hexDigit? second
  let c ← hexDigit? third
  let d ← hexDigit? fourth
  return ((a * 16 + b) * 16 + c) * 16 + d

/-- The first half of a surrogate pair. -/
def isHigh (unit : Nat) : Bool :=
  decide (0xD800 ≤ unit) && decide (unit ≤ 0xDBFF)

/-- The second half of a surrogate pair. -/
def isLow (unit : Nat) : Bool :=
  decide (0xDC00 ≤ unit) && decide (unit ≤ 0xDFFF)

/-- The character of a surrogate pair. -/
def pairChar (high low : Nat) : Char :=
  Char.ofNat (0x10000 + (high - 0xD800) * 1024 + (low - 0xDC00))

/-- The escapes of one letter, with what they stand for. -/
def escapes : List (Char × Char) :=
  [('"', '"'), ('\\', '\\'), ('/', '/'), ('b', '\x08'), ('f', '\x0c'),
    ('n', '\n'), ('r', '\r'), ('t', '\t')]

/--
The texts of one character of a string.  A surrogate stands for a character
only as one half of a pair.
-/
inductive Piece : Char → Text → Prop where
  | plain {char : Char} : 32 ≤ char.toNat → char ≠ '"' →
      char ≠ '\\' →
      Piece char [char]
  | escaped {code char : Char} : (code, char) ∈ escapes →
      Piece char ['\\', code]
  | unit {first second third fourth : Char} {value : Nat} :
      hexValue? first second third fourth = some value →
      isHigh value = false →
      isLow value = false →
      Piece (Char.ofNat value) ['\\', 'u', first, second, third, fourth]
  | pair {first second third fourth fifth sixth seventh eighth : Char}
      {high low : Nat} :
      hexValue? first second third fourth = some high →
      hexValue? fifth sixth seventh eighth = some low →
      isHigh high = true →
      isLow low = true →
      Piece (pairChar high low)
        ['\\', 'u', first, second, third, fourth, '\\', 'u', fifth, sixth,
          seventh, eighth]

/-- The texts between the quotes of a string. -/
inductive Pieces : Text → Text → Prop where
  | nil : Pieces [] []
  | cons {char : Char} {value piece rest : Text} : Piece char piece →
      Pieces value rest →
      Pieces (char :: value) (piece ++ rest)

/-- The texts of a string. -/
inductive Quoted : Text → Text → Prop where
  | quoted {value body : Text} : Pieces value body →
      Quoted value ('"' :: (body ++ ['"']))

/-! ## Values -/

/-- What a text may denote: a value, or what stands between two brackets. -/
inductive Part where
  | value (value : Json)
  | elements (elements : List Json)
  | members (members : List (Text × Json))

/-- The texts of a value, of elements, and of members; the last two with the
whitespace around what is in them. -/
inductive Denotes : Part → Text → Prop where
  | null : Denotes (.value .null) ['n', 'u', 'l', 'l']
  | int {value : Int} {text : Text} : Integer value text →
      Denotes (.value (.int value)) text
  | str {value text : Text} : Quoted value text →
      Denotes (.value (.str value)) text
  | emptyArr {blank : Text} : Blank blank →
      Denotes (.value (.arr [])) ('[' :: (blank ++ [']']))
  | arr {elements : List Json} {text : Text} :
      Denotes (.elements elements) text →
      Denotes (.value (.arr elements)) ('[' :: (text ++ [']']))
  | emptyObj {blank : Text} : Blank blank →
      Denotes (.value (.obj [])) ('{' :: (blank ++ ['}']))
  | obj {members : List (Text × Json)} {text : Text} :
      Denotes (.members members) text →
      Denotes (.value (.obj members)) ('{' :: (text ++ ['}']))
  | element {value : Json} {before text behind : Text} : Blank before →
      Denotes (.value value) text →
      Blank behind →
      Denotes (.elements [value]) (before ++ text ++ behind)
  | elements {value : Json} {others : List Json}
      {before text behind rest : Text} :
      Blank before →
      Denotes (.value value) text →
      Blank behind →
      Denotes (.elements others) rest →
      Denotes (.elements (value :: others))
        (before ++ text ++ behind ++ ',' :: rest)
  | member {key : Text} {value : Json}
      {first name second before text behind : Text} :
      Blank first →
      Quoted key name →
      Blank second →
      Blank before →
      Denotes (.value value) text →
      Blank behind →
      Denotes (.members [(key, value)])
        (first ++ name ++ second ++ ':' :: (before ++ text ++ behind))
  | members {key : Text} {value : Json} {others : List (Text × Json)}
      {first name second before text behind rest : Text} :
      Blank first →
      Quoted key name →
      Blank second →
      Blank before →
      Denotes (.value value) text →
      Blank behind →
      Denotes (.members others) rest →
      Denotes (.members ((key, value) :: others)) (first ++ name ++ second ++
          ':' :: (before ++ text ++ behind ++ ',' :: rest))

/-- The text is one document that denotes the value. -/
def IsDocument (value : Json) (text : Text) : Prop :=
  ∃ before body behind,
    Blank before ∧ Denotes (.value value) body ∧ Blank behind ∧
      text = before ++ body ++ behind

/-! ## Sizes and paths -/

mutual

/-- The number of values and keys in a value. -/
def Json.nodes : Json → Nat
  | .arr elements => 1 + nodesOfElements elements
  | .obj members => 1 + nodesOfMembers members
  | _ => 1

/-- The number of values and keys in elements. -/
def nodesOfElements : List Json → Nat
  | [] => 0
  | value :: others => value.nodes + nodesOfElements others

/-- The number of values and keys in members. -/
def nodesOfMembers : List (Text × Json) → Nat
  | [] => 0
  | (_, value) :: others => 1 + value.nodes + nodesOfMembers others

end

/-- One step into a value. -/
inductive Step where
  | key (key : Text)
  | index (index : Nat)
  deriving DecidableEq

/-- Where a value stands in a document. -/
abbrev Path := List Step

/-- What stands at a path in a value. -/
inductive At : Json → Path → Json → Prop where
  | here {value : Json} : At value [] value
  | element {elements : List Json} {index : Nat} {value inner : Json}
      {path : Path} :
      elements[index]? = some value →
      At value path inner →
      At (.arr elements) (.index index :: path) inner
  | member {members : List (Text × Json)} {key : Text} {value inner : Json}
      {path : Path} :
      (key, value) ∈ members →
      At value path inner →
      At (.obj members) (.key key :: path) inner

/-- What stands in the value has the property, the value being at the path. -/
def Everywhere
    (allowed : Path → Json → Prop) (path : Path) (value : Json) : Prop :=
  ∀ inside inner, At value inside inner → allowed (path ++ inside) inner

/-- The length of a text in UTF-8. -/
def utf8Length (text : Text) : Nat :=
  (text.map Char.utf8Size).sum

/-! ## Rules -/

theorem Blank.append {first second : Text} (firstBlank : Blank first)
    (secondBlank : Blank second) :
    Blank (first ++ second) := by
  intro char member
  rcases List.mem_append.mp member with isFirst | isSecond
  · exact firstBlank char isFirst
  · exact secondBlank char isSecond

variable {digits text blank : Text} {allowed : Path → Json → Prop}
  {path : Path}

/-- A numeral starts with a digit. -/
theorem Numeral.head (isNumeral : Numeral digits) :
    ∃ first rest, digits = first :: rest ∧ isDigit first = true := by
  cases digits with
  | nil => exact absurd rfl isNumeral.nonempty
  | cons first rest =>
      exact ⟨first, rest, rfl, isNumeral.onlyDigits first List.mem_cons_self⟩

/-- What the text of a value begins with. -/
def Opens (text : Text) : Prop :=
  ∃ first rest,
    text = first :: rest ∧ isBlank first = false ∧ first ≠ ']' ∧ first ≠ '}'

theorem opens_of_isDigit
    {first : Char} (rest : Text) (digit : isDigit first = true) :
    Opens (first :: rest) := by
  have differs (other : Char) (noDigit : isDigit other = false) :
      first ≠ other := by
    rintro rfl
    exact absurd (digit.symm.trans noDigit) (by decide)
  refine
    ⟨first, rest, rfl, ?_, differs ']' (by decide), differs '}' (by decide)⟩
  simp [isBlank, differs ' ' (by decide), differs '\t' (by decide),
    differs '\r' (by decide), differs '\n' (by decide)]

theorem Denotes.opens
    {value : Json} (denotes : Denotes (.value value) text) : Opens text := by
  cases denotes with
  | null => exact ⟨'n', _, rfl, by decide, by decide, by decide⟩
  | int isInteger =>
      cases isInteger with
      | natural isNumeral =>
          obtain ⟨first, rest, rfl, digit⟩ := isNumeral.head
          exact opens_of_isDigit rest digit
      | negative isNumeral =>
          exact ⟨'-', _, rfl, by decide, by decide, by decide⟩
  | str isQuoted =>
      cases isQuoted with
      | quoted body => exact ⟨'"', _, rfl, by decide, by decide, by decide⟩
  | emptyArr | arr => exact ⟨'[', _, rfl, by decide, by decide, by decide⟩
  | emptyObj | obj => exact ⟨'{', _, rfl, by decide, by decide, by decide⟩

theorem Denotes.elements_blank {elements : List Json}
    (denotes : Denotes (.elements elements) text) (isBlank : Blank blank) :
    Denotes (.elements elements) (blank ++ text) := by
  cases denotes with
  | element before value behind =>
      have longer := Denotes.element (isBlank.append before) value behind
      simpa using longer
  | elements before value behind others =>
      have longer :=
        Denotes.elements (isBlank.append before) value behind others
      simpa using longer

theorem Denotes.members_blank {members : List (Text × Json)}
    (denotes : Denotes (.members members) text) (isBlank : Blank blank) :
    Denotes (.members members) (blank ++ text) := by
  cases denotes with
  | member first name second before value behind =>
      have longer :=
        Denotes.member (isBlank.append first) name second before value behind
      simpa using longer
  | members first name second before value behind others =>
      have longer :=
        Denotes.members (isBlank.append first) name second before value
          behind others
      simpa using longer

theorem decimal_foldl (value : Nat) (digits : Text) :
    digits.foldl (fun value char => 10 * value + (char.toNat - 48)) value =
      value * 10 ^ digits.length + decimal digits := by
  induction digits generalizing value with
  | nil => simp [decimal]
  | cons first rest inductionHypothesis =>
      have unfolded : decimal (first :: rest) =
            rest.foldl (fun value char => 10 * value + (char.toNat - 48))
              (10 * 0 + (first.toNat - 48)) :=
        rfl
      rw [unfolded, List.foldl_cons, inductionHypothesis,
        inductionHypothesis (10 * 0 + (first.toNat - 48)), List.length_cons,
        Nat.pow_succ]
      ring

theorem Numeral.decimal_ge
    (isNumeral : Numeral digits) (several : 1 < digits.length) :
    10 ^ (digits.length - 1) ≤ decimal digits := by
  obtain ⟨nonempty, onlyDigits, unpadded⟩ := isNumeral
  cases digits with
  | nil => exact absurd rfl nonempty
  | cons first rest =>
      have isFirst := onlyDigits first List.mem_cons_self
      simp only [isDigit, Bool.and_eq_true, decide_eq_true_eq] at isFirst
      have notZero : first.toNat ≠ 48 := by
        intro isZero
        have same : first = '0' := Char.toNat_inj.mp isZero
        have single := unpadded (by rw [same]; rfl)
        omega
      have positive : 1 ≤ first.toNat - 48 := by omega
      have value : decimal (first :: rest) =
            (first.toNat - 48) * 10 ^ rest.length + decimal rest := by
        rw [← decimal_foldl]
        simp [decimal]
      rw [value, List.length_cons, Nat.add_sub_cancel]
      calc
        10 ^ rest.length = 1 * 10 ^ rest.length := (Nat.one_mul _).symm
        _ ≤ (first.toNat - 48) * 10 ^ rest.length :=
          Nat.mul_le_mul_right _ positive
        _ ≤ (first.toNat - 48) * 10 ^ rest.length + decimal rest :=
          Nat.le_add_right _ _

theorem everywhere_leaf {value : Json}
    (isLeaf : ∀ inside inner, At value inside inner → inside = []) :
    Everywhere allowed path value ↔ allowed path value := by
  constructor
  · intro everywhere
    simpa using everywhere [] value .here
  · intro isAllowed inside inner isAt
    have isHere := isLeaf inside inner isAt
    subst isHere
    cases isAt
    simpa using isAllowed

theorem everywhere_arr {elements : List Json} :
    Everywhere allowed path (.arr elements) ↔ allowed path (.arr elements) ∧
        ∀ index value, elements[index]? = some value →
          Everywhere allowed (path ++ [.index index]) value := by
  constructor
  · intro everywhere
    refine ⟨by simpa using everywhere [] _ .here, ?_⟩
    intro index value found inside inner isAt
    simpa using everywhere _ _ (.element found isAt)
  · rintro ⟨isAllowed, inElements⟩ inside inner isAt
    cases isAt with
    | here => simpa using isAllowed
    | element found isAt => simpa using inElements _ _ found _ _ isAt

/-- A property of an object and of everything in it. -/
theorem everywhere_obj {members : List (Text × Json)} :
    Everywhere allowed path (.obj members) ↔ allowed path (.obj members) ∧
        ∀ key value, (key, value) ∈ members →
          Everywhere allowed (path ++ [.key key]) value := by
  constructor
  · intro everywhere
    refine ⟨by simpa using everywhere [] _ .here, ?_⟩
    intro key value member inside inner isAt
    simpa using everywhere _ _ (.member member isAt)
  · rintro ⟨isAllowed, inMembers⟩ inside inner isAt
    cases isAt with
    | here => simpa using isAllowed
    | member member isAt => simpa using inMembers _ _ member _ _ isAt

end JsonText
