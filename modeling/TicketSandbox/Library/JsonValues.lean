import Mathlib.Data.Char
import Mathlib.Data.List.Lex
import Mathlib.Data.List.Sort
import TicketSandbox.Library.JsonText

namespace JsonValues

/-!
# JSON values

`json.loads` and `json.dumps`: a text is read as a value by recursive descent,
and a value is written as a compact ASCII text with sorted keys.
-/

open JsonText
  (Text decimal escapes hexValue? isBlank isDigit isHigh isLow pairChar)

/-- A value; the members of an object stand in their order.  A number that is
no integer keeps its text. -/
inductive Value where
  | null
  | bool (value : Bool)
  | int (value : Int)
  | float (text : Text)
  | str (text : Text)
  | arr (elements : List Value)
  | obj (members : List (Text × Value))

/-! ## Writing -/

/-- Four hexadecimal digits. -/
def hexText (value : Nat) : Text :=
  [Nat.digitChar (value / 4096 % 16), Nat.digitChar (value / 256 % 16),
    Nat.digitChar (value / 16 % 16), Nat.digitChar (value % 16)]

/-- The escapes of one letter that are written. -/
def letters : List (Char × Char) :=
  [('\x08', 'b'), ('\x0c', 'f'), ('\n', 'n'), ('\r', 'r'), ('\t', 't')]

/-- The text of one character of a string. -/
def pieceText (char : Char) : Text :=
  if char = '"' ∨ char = '\\' then
    ['\\', char]
  else if 32 ≤ char.toNat ∧ char.toNat ≤ 126 then
    [char]
  else
    match letters.lookup char with
    | some code => ['\\', code]
    | none =>
        if char.toNat < 0x10000 then
          '\\' :: 'u' :: hexText char.toNat
        else
          '\\' :: 'u' :: hexText (0xD800 + (char.toNat - 0x10000) / 1024) ++
            '\\' :: 'u' :: hexText (0xDC00 + (char.toNat - 0x10000) % 1024)

/-- The text of a string. -/
def quoted (text : Text) : Text :=
  '"' :: (text.flatMap pieceText ++ ['"'])

/-- The text of an integer. -/
def integerText (value : Int) : Text :=
  if value < 0 then '-' :: Nat.toDigits 10 value.natAbs
  else Nat.toDigits 10 value.natAbs

/-- Texts with commas between them. -/
def commas (texts : List Text) : Text :=
  [','].intercalate texts

/-- The text of a member. -/
def memberText (member : Text × Text) : Text :=
  quoted member.1 ++ ':' :: member.2

/-- Members by their keys. -/
def sortMembers {α : Type} (members : List (Text × α)) : List (Text × α) :=
  members.insertionSort fun first second => first.1 ≤ second.1

mutual

/-- `json.dumps`. -/
def dumps : Value → Text
  | .null => "null".toList
  | .bool true => "true".toList
  | .bool false => "false".toList
  | .int value => integerText value
  | .float text => text
  | .str text => quoted text
  | .arr elements => '[' :: (commas (elementTexts elements) ++ [']'])
  | .obj members =>
      '{' :: (commas ((sortMembers (memberTexts members)).map memberText) ++
        ['}'])

/-- The texts of elements. -/
def elementTexts : List Value → List Text
  | [] => []
  | value :: others => dumps value :: elementTexts others

/-- The texts of the values of members, with their keys. -/
def memberTexts : List (Text × Value) → List (Text × Text)
  | [] => []
  | (key, value) :: others => (key, dumps value) :: memberTexts others

end

/-! ## Reading -/

/-- Whitespace is skipped. -/
def skip (text : Text) : Text :=
  text.dropWhile isBlank

/-- The value of four hexadecimal digits. -/
def hex4? : Text → Option (Nat × Text)
  | first :: second :: third :: fourth :: rest =>
      (hexValue? first second third fourth).map fun value => (value, rest)
  | _ => none

/-- The second half of a surrogate pair. -/
def lowSurrogate? (high : Nat) : Text → Option (Char × Text)
  | '\\' :: 'u' :: rest => do
      let (low, rest) ← hex4? rest
      if isLow low = true then some (pairChar high low, rest) else none
  | _ => none

/-- An escape, after the backslash.  Halves of surrogate pairs are no
characters. -/
def escape? : Text → Option (Char × Text)
  | [] => none
  | 'u' :: rest => do
      let (value, rest) ← hex4? rest
      if isHigh value = true then lowSurrogate? value rest
      else if isLow value = true then none
      else some (Char.ofNat value, rest)
  | code :: rest => (escapes.lookup code).map fun char => (char, rest)

/-- A character of a string, other than the closing quote. -/
def character? (char : Char) (rest : Text) : Option (Char × Text) :=
  if char.toNat < 32 then none
  else if char = '\\' then escape? rest
  else some (char, rest)

/-- A string, after the opening quote. -/
def string? : Nat → Text → Option (Text × Text)
  | 0, _ => none
  | _ + 1, [] => none
  | fuel + 1, first :: rest =>
      if first = '"' then
        some ([], rest)
      else do
        let (char, rest) ← character? first rest
        let (chars, rest) ← string? fuel rest
        pure (char :: chars, rest)

/-- The digits of an integer: no leading zero. -/
def integerDigits (text : Text) : Text :=
  if text.head? = some '0' then ['0'] else text.takeWhile isDigit

/-- A fraction, which may be missing. -/
def fraction (text : Text) : Text :=
  match text with
  | '.' :: rest =>
      if rest.takeWhile isDigit = [] then [] else '.' :: rest.takeWhile isDigit
  | _ => []

/-- The sign of an exponent, which may be missing. -/
def exponentSign : Text → Text
  | '+' :: _ => ['+']
  | '-' :: _ => ['-']
  | _ => []

/-- An exponent, which may be missing. -/
def exponent (text : Text) : Text :=
  match text with
  | [] => []
  | mark :: rest =>
      if mark ∈ ['e', 'E'] then
        let sign := exponentSign rest
        let digits := (rest.drop sign.length).takeWhile isDigit
        if digits = [] then [] else mark :: (sign ++ digits)
      else
        []

/-- A number without its sign. -/
def unsigned? (isNegative : Bool) (text : Text) : Option (Value × Text) :=
  let digits := integerDigits text
  let fractional := fraction (text.drop digits.length)
  let power := exponent (text.drop (digits.length + fractional.length))
  let rest := text.drop (digits.length + fractional.length + power.length)
  if digits = [] then
    none
  else if fractional = [] ∧ power = [] then
    some (.int (if isNegative then -(decimal digits : Int) else decimal digits),
        rest)
  else
    some (.float
        ((if isNegative then ['-'] else []) ++ digits ++ fractional ++ power),
        rest)

/-- The words that stand for values. -/
def words : List (Text × Value) :=
  [("null".toList, .null), ("true".toList, .bool true),
    ("false".toList, .bool false), ("NaN".toList, .float "NaN".toList),
    ("Infinity".toList, .float "Infinity".toList),
    ("-Infinity".toList, .float "-Infinity".toList)]

/-- A value that is neither a string nor a container. -/
def scalar? (text : Text) : Option (Value × Text) :=
  match words.find? fun word => word.1.isPrefixOf text with
  | some word => some (word.2, text.drop word.1.length)
  | none =>
      match text with
      | '-' :: rest => unsigned? true rest
      | text => unsigned? false text

/-- An object whose members the hook accepts. -/
def object?
    (accepts : List (Text × Value) → Bool) (members : List (Text × Value))
    (rest : Text) : Option (Value × Text) :=
  if accepts members = true then some (.obj members, rest) else none

mutual

/-- A value. -/
def value? (accepts : List (Text × Value) → Bool) :
    Nat → Text → Option (Value × Text)
  | 0, _ => none
  | _ + 1, '"' :: rest => do
      let (text, rest) ← string? (rest.length + 1) rest
      pure (.str text, rest)
  | fuel + 1, '{' :: rest =>
      match skip rest with
      | '}' :: rest => object? accepts [] rest
      | rest => do
          let (members, rest) ← members? accepts fuel rest
          object? accepts members rest
  | fuel + 1, '[' :: rest =>
      match skip rest with
      | ']' :: rest => pure (.arr [], rest)
      | rest => do
          let (elements, rest) ← elements? accepts fuel rest
          pure (.arr elements, rest)
  | _ + 1, text => scalar? text

/-- The members of an object, up to the closing brace. -/
def members? (accepts : List (Text × Value) → Bool) :
    Nat → Text → Option (List (Text × Value) × Text)
  | fuel + 1, '"' :: rest => do
      let (key, rest) ← string? (rest.length + 1) rest
      match skip rest with
      | ':' :: rest => do
          let (value, rest) ← value? accepts fuel (skip rest)
          match skip rest with
          | '}' :: rest => pure ([(key, value)], rest)
          | ',' :: rest => do
              let (others, rest) ← members? accepts fuel (skip rest)
              pure ((key, value) :: others, rest)
          | _ => none
      | _ => none
  | _, _ => none

/-- The elements of an array, up to the closing bracket. -/
def elements? (accepts : List (Text × Value) → Bool) :
    Nat → Text → Option (List Value × Text)
  | 0, _ => none
  | fuel + 1, text => do
      let (value, rest) ← value? accepts fuel text
      match skip rest with
      | ']' :: rest => pure ([value], rest)
      | ',' :: rest => do
          let (others, rest) ← elements? accepts fuel (skip rest)
          pure (value :: others, rest)
      | _ => none

end

/-- `json.loads`, with a hook on the members of each object.  Every call takes
a character, so that the fuel is enough. -/
def loads?
    (accepts : List (Text × Value) → Bool) (text : Text) : Option Value := do
  let (value, rest) ← value? accepts (text.length + 1) (skip text)
  if skip rest = [] then some value else none

/-! ## Strings -/

/-- A character that is written as it is. -/
structure Plain (char : Char) : Prop where
  printable : 32 ≤ char.toNat ∧ char.toNat ≤ 126
  notQuote : char ≠ '"'
  notBackslash : char ≠ '\\'

variable {text rest : Text} {char : Char}
  {accepts : List (Text × Value) → Bool} {members : List (Text × Value)}
  {member : Text × Value}

/-- Plain characters are quoted as they are. -/
theorem quoted_plain (isPlain : ∀ char ∈ text, Plain char) :
    quoted text = '"' :: (text ++ ['"']) := by
  have same : text.flatMap pieceText = text := by
    induction text with
    | nil => rfl
    | cons char rest inductionHypothesis =>
        have plain := isPlain char List.mem_cons_self
        have piece : pieceText char = [char] := by
          rw [pieceText,
            if_neg (not_or.mpr ⟨plain.notQuote, plain.notBackslash⟩),
            if_pos plain.printable]
        rw [List.flatMap_cons, piece, inductionHypothesis fun other member =>
            isPlain other (List.mem_cons_of_mem _ member)]
        rfl
  rw [quoted, same]

theorem string?_plain {text : Text} (isPlain : ∀ char ∈ text, Plain char)
    {fuel : Nat} (enough : text.length < fuel) (rest : Text) :
    string? fuel (text ++ '"' :: rest) = some (text, rest) := by
  induction text generalizing fuel with
  | nil =>
      obtain ⟨fuel, rfl⟩ := Nat.exists_eq_add_one_of_ne_zero
        (Nat.ne_of_gt enough)
      rfl
  | cons char others inductionHypothesis =>
      obtain ⟨fuel, rfl⟩ := Nat.exists_eq_add_one_of_ne_zero
        (Nat.ne_of_gt (Nat.zero_lt_of_lt enough))
      have plain := isPlain char List.mem_cons_self
      have piece (behind : Text) :
          character? char behind = some (char, behind) := by
        rw [character?, if_neg (Nat.not_lt.mpr plain.printable.1),
          if_neg plain.notBackslash]
      rw [List.cons_append, string?, if_neg plain.notQuote, piece]
      simp only [Option.bind_eq_bind, Option.bind_some, Option.pure_def]
      rw [inductionHypothesis
        (fun other member => isPlain other (List.mem_cons_of_mem _ member))
        (Nat.lt_of_succ_lt_succ enough)]
      rfl

/-! ## Integers -/

theorem isDigit_of_mem
    {value : Nat} {char : Char} (member : char ∈ Nat.toDigits 10 value) :
    isDigit char = true := by
  have digit := Nat.isDigit_of_mem_toDigits (by decide) (by decide) member
  simp only [Char.isDigit, Bool.and_eq_true, decide_eq_true_eq] at digit
  simp only [isDigit, Bool.and_eq_true, decide_eq_true_eq]
  exact digit

theorem decimal_toDigits (value : Nat) :
    decimal (Nat.toDigits 10 value) = value :=
  @Nat.ofDigitChars_ten_toDigits value

theorem head?_toDigits
    {value : Nat} (isZero : (Nat.toDigits 10 value).head? = some '0') :
    value = 0 := by
  induction value using Nat.strong_induction_on with
  | _ value inductionHypothesis =>
      by_cases small : value < 10
      · rw [Nat.toDigits_of_lt_base small] at isZero
        have all : ∀ digit : Fin 10,
              [Nat.digitChar digit.val].head? = some '0' → digit.val = 0 := by
          decide
        exact all ⟨value, small⟩ isZero
      · rw [Nat.toDigits_of_base_le (by decide) (Nat.le_of_not_lt small),
          List.head?_append] at isZero
        have front : (Nat.toDigits 10 (value / 10)).head? = some '0' := by
          cases isHead : (Nat.toDigits 10 (value / 10)).head? with
          | none =>
              exact (Nat.toDigits_ne_nil
                (List.head?_eq_none_iff.mp isHead)).elim
          | some char =>
              rw [isHead] at isZero
              exact isZero
        have smaller := inductionHypothesis (value / 10) (by omega) front
        omega

theorem toDigits_eq_cons (value : Nat) :
    ∃ first others,
      Nat.toDigits 10 value = first :: others ∧ isDigit first = true := by
  cases digits : Nat.toDigits 10 value with
  | nil => exact (Nat.toDigits_ne_nil digits).elim
  | cons first others =>
      refine ⟨first, others, rfl, @isDigit_of_mem value first ?_⟩
      rw [digits]
      exact List.mem_cons_self

/-- Numbers are written in decimal. -/
theorem dumps_int (value : Nat) :
    dumps (.int value) = Nat.toDigits 10 value := by
  rw [dumps, integerText, if_neg (Int.not_lt.mpr (Int.natCast_nonneg _)),
    Int.natAbs_natCast]

/-- What stands behind a member. -/
def Ends (rest : Text) : Prop :=
  ∃ tail, rest = ',' :: tail ∨ rest = '}' :: tail

theorem integerDigits_toDigits {value : Nat} (ends : Ends rest) :
    integerDigits (Nat.toDigits 10 value ++ rest) =
      Nat.toDigits 10 value := by
  have notDigit : rest.takeWhile isDigit = [] := by
    obtain ⟨tail, rfl | rfl⟩ := ends
    · rfl
    · rfl
  have whole : (Nat.toDigits 10 value ++ rest).takeWhile isDigit =
        Nat.toDigits 10 value := by
    rw [List.takeWhile_append_of_pos fun char => isDigit_of_mem, notDigit,
      List.append_nil]
  have sameHead :
      (Nat.toDigits 10 value ++ rest).head? = (Nat.toDigits 10 value).head? :=
    List.head?_append_of_ne_nil _ Nat.toDigits_ne_nil
  unfold integerDigits
  split
  · rename_i isZero
    rw [sameHead] at isZero
    rw [head?_toDigits isZero]
    rfl
  · exact whole

theorem unsigned?_toDigits {value : Nat} {rest : Text} (ends : Ends rest) :
    unsigned? false (Nat.toDigits 10 value ++ rest) =
      some (.int value, rest) := by
  have noFraction : fraction rest = [] := by
    obtain ⟨tail, rfl | rfl⟩ := ends
    · rfl
    · rfl
  have noExponent : exponent rest = [] := by
    obtain ⟨tail, rfl | rfl⟩ := ends
    · rfl
    · rfl
  simp only [unsigned?, integerDigits_toDigits ends, List.drop_left,
    noFraction, List.length_nil, Nat.add_zero, noExponent,
    Nat.toDigits_ne_nil, and_self, ↓reduceIte, Bool.false_eq_true,
    decimal_toDigits]

theorem words_find?_digit (digit : isDigit char = true) (rest : Text) :
    (words.find? fun word => word.1.isPrefixOf (char :: rest)) = none := by
  rw [List.find?_eq_none]
  intro word member isPrefix
  have heads :
      (words.all fun word => word.1.head?.all fun first => !isDigit first) =
        true := by
    decide
  have isHead := List.all_eq_true.mp heads word member
  cases text : word.1 with
  | nil =>
      have nonempty : ∀ word ∈ words, word.1 ≠ [] := by
        decide
      exact nonempty word member text
  | cons first others =>
      rw [text] at isPrefix
      have same : first = char := by
        simp only [List.isPrefixOf, Bool.and_eq_true, beq_iff_eq] at isPrefix
        exact isPrefix.1
      rw [text, List.head?_cons, Option.all_some, same, digit] at isHead
      cases isHead

theorem scalar?_toDigits {value : Nat} {rest : Text} (ends : Ends rest) :
    scalar? (Nat.toDigits 10 value ++ rest) = some (.int value, rest) := by
  have read := @unsigned?_toDigits value rest ends
  obtain ⟨first, others, digits, digit⟩ := toDigits_eq_cons value
  have notMinus : first ≠ '-' := by
    rintro rfl
    cases digit
  rw [digits] at read ⊢
  unfold scalar?
  rw [List.cons_append, words_find?_digit digit]
  dsimp only
  split
  · rename_i isMinus
    exact (notMinus (List.cons.inj isMinus).1).elim
  · exact read

/-! ## Flat objects -/

/-- A value whose text needs no escape: no container and no fraction. -/
inductive IsFlat : Value → Prop where
  | null : IsFlat .null
  | bool (value : Bool) : IsFlat (.bool value)
  | int (value : Nat) : IsFlat (.int value)
  | str {text : Text} : (∀ char ∈ text, Plain char) → IsFlat (.str text)

theorem value?_flat
    {value : Value} (isFlat : IsFlat value) (ends : Ends rest) (fuel : Nat) :
    value? accepts (fuel + 1) (dumps value ++ rest) = some (value, rest) := by
  cases isFlat with
  | null => rfl
  | bool value =>
      cases value with
      | true => rfl
      | false => rfl
  | int value =>
      have read := @scalar?_toDigits value rest ends
      obtain ⟨first, others, digits, digit⟩ := toDigits_eq_cons value
      have notMark (mark : Char) (isMark : isDigit mark = false) :
          ∀ tail, first :: (others ++ rest) ≠ mark :: tail := by
        intro tail same
        rw [← (List.cons.inj same).1, digit] at isMark
        cases isMark
      rw [dumps_int, digits, List.cons_append, value?]
      · rw [digits] at read
        exact read
      · exact notMark '"' rfl
      · exact notMark '{' rfl
      · exact notMark '[' rfl
  | @str text isPlain =>
      rw [dumps, quoted_plain isPlain, List.cons_append, List.append_assoc,
        value?]
      have read :=
        @string?_plain text isPlain ((text ++ (['"'] ++ rest)).length + 1)
          (by simp only [List.length_append]; omega) rest
      exact Option.bind_eq_some_iff.mpr ⟨_, read, rfl⟩

theorem skip_dumps {value : Value} (isFlat : IsFlat value) (rest : Text) :
    skip (dumps value ++ rest) = dumps value ++ rest := by
  cases isFlat with
  | null => rfl
  | bool value =>
      cases value with
      | true => rfl
      | false => rfl
  | int value =>
      obtain ⟨first, others, digits, digit⟩ := toDigits_eq_cons value
      rw [dumps_int, digits]
      refine List.dropWhile_cons_of_neg fun blank => ?_
      simp only [isBlank, Bool.or_eq_true, beq_iff_eq] at blank
      rcases blank with ((rfl | rfl) | rfl) | rfl
      · cases digit
      · cases digit
      · cases digit
      · cases digit
  | str isPlain =>
      rw [dumps, quoted_plain isPlain]
      rfl

/-- Members with plain keys and flat values. -/
def FlatMembers (members : List (Text × Value)) : Prop :=
  ∀ member ∈ members, (∀ char ∈ member.1, Plain char) ∧ IsFlat member.2

/-- The text of a member with its value. -/
def writtenMember (member : Text × Value) : Text :=
  memberText (member.1, dumps member.2)

theorem commas_cons (first second : Text) (others : List Text) :
    commas (first :: second :: others) =
      first ++ ',' :: commas (second :: others) := by
  simp [commas, List.intercalate]

theorem member_read {accepts : List (Text × Value) → Bool}
    {member : Text × Value} (isPlain : ∀ char ∈ member.1, Plain char)
    (isFlat : IsFlat member.2) {rest : Text} (ends : Ends rest) (fuel : Nat) :
    ∃ behind, writtenMember member ++ rest = '"' :: behind ∧
        string? (behind.length + 1) behind =
          some (member.1, ':' :: (dumps member.2 ++ rest)) ∧
        value? accepts (fuel + 1) (skip (dumps member.2 ++ rest)) =
          some (member.2, rest) := by
  refine ⟨member.1 ++ '"' :: ':' :: (dumps member.2 ++ rest), ?_, ?_, ?_⟩
  · rw [writtenMember, memberText, quoted_plain isPlain]
    simp only [List.append_assoc, List.cons_append, List.nil_append]
  · exact string?_plain isPlain (by simp only [List.length_append]; omega) _
  · rw [skip_dumps isFlat]
    exact value?_flat isFlat ends fuel

/-- Flat members are read back. -/
theorem members?_flat
    {accepts : List (Text × Value) → Bool} {members : List (Text × Value)}
    (nonempty : members ≠ []) (isFlat : FlatMembers members) {fuel : Nat}
    (enough : members.length < fuel) (rest : Text) :
    members? accepts fuel (commas (members.map writtenMember) ++ '}' :: rest) =
      some (members, rest) := by
  induction members generalizing fuel with
  | nil => exact (nonempty rfl).elim
  | cons member others inductionHypothesis =>
      obtain ⟨fuel, rfl⟩ : ∃ more, fuel = more + 2 := by
        refine ⟨fuel - 2, ?_⟩
        simp only [List.length_cons] at enough
        omega
      obtain ⟨isPlain, isValue⟩ := isFlat member List.mem_cons_self
      cases others with
      | nil =>
          obtain ⟨behind, text, key, value⟩ :=
            @member_read accepts member isPlain isValue ('}' :: rest)
              ⟨rest, .inr rfl⟩ fuel
          have alone : commas ([member].map writtenMember) =
              writtenMember member := by
            simp [commas, List.intercalate]
          rw [alone, text, members?]
          refine Option.bind_eq_some_iff.mpr ⟨_, key, ?_⟩
          exact Option.bind_eq_some_iff.mpr ⟨_, value, rfl⟩
      | cons second others =>
          obtain ⟨behind, text, key, value⟩ :=
            @member_read accepts member isPlain isValue (',' ::
                (commas ((second :: others).map writtenMember) ++ '}' :: rest))
              ⟨_, .inl rfl⟩ fuel
          have later := @inductionHypothesis (List.cons_ne_nil _ _)
              (fun other isOther =>
                isFlat other (List.mem_cons_of_mem _ isOther))
              (fuel + 1) (Nat.lt_of_succ_lt_succ enough)
          have unskipped : skip
                  (commas ((second :: others).map writtenMember) ++
                    '}' :: rest) =
                commas ((second :: others).map writtenMember) ++
                  '}' :: rest := by
            cases others with
            | nil =>
                simp [commas, List.intercalate, writtenMember, memberText,
                  quoted, skip, isBlank]
            | cons third others =>
                simp [commas, List.intercalate, writtenMember, memberText,
                  quoted, skip, isBlank]
          rw [List.map_cons, List.map_cons, commas_cons,
            ← List.map_cons (f := writtenMember), List.append_assoc,
            List.cons_append, text, members?]
          refine Option.bind_eq_some_iff.mpr ⟨_, key, ?_⟩
          refine Option.bind_eq_some_iff.mpr ⟨_, value, ?_⟩
          refine Option.bind_eq_some_iff.mpr ⟨(second :: others, rest), ?_, rfl⟩
          rw [unskipped]
          exact later

theorem sortMembers_memberTexts (members : List (Text × Value)) :
    (sortMembers (memberTexts members)).map memberText =
      (sortMembers members).map writtenMember := by
  have texts : memberTexts members =
        members.map fun member => (member.1, dumps member.2) := by
    induction members with
    | nil => rfl
    | cons member others inductionHypothesis =>
        rw [memberTexts, inductionHypothesis]
        rfl
  have sorted : sortMembers (memberTexts members) =
        (sortMembers members).map fun member =>
          (member.1, dumps member.2) := by
    rw [texts, sortMembers, sortMembers]
    exact (List.map_insertionSort
        (fun first second : Text × Value => first.1 ≤ second.1)
        (fun first second : Text × Text => first.1 ≤ second.1)
        (fun member => (member.1, dumps member.2)) members
        fun _ _ _ _ => Iff.rfl).symm
  rw [sorted, List.map_map]
  rfl

theorem commas_quote {members : List (Text × Value)} (nonempty : members ≠ []) :
    ∃ tail, commas (members.map writtenMember) = '"' :: tail := by
  cases members with
  | nil => exact (nonempty rfl).elim
  | cons member others =>
      cases others with
      | nil =>
          exact ⟨_, by simp [commas, List.intercalate, writtenMember,
            memberText, quoted]; rfl⟩
      | cons second others =>
          rw [List.map_cons, List.map_cons, commas_cons]
          exact ⟨_, rfl⟩

theorem length_commas (members : List (Text × Value)) :
    members.length ≤ (commas (members.map writtenMember)).length := by
  induction members with
  | nil => exact Nat.zero_le _
  | cons member others inductionHypothesis =>
      cases others with
      | nil =>
          obtain ⟨tail, text⟩ := @commas_quote [member] (List.cons_ne_nil _ _)
          rw [text]
          simp
      | cons second others =>
          rw [List.map_cons, List.map_cons, commas_cons,
            ← List.map_cons (f := writtenMember)]
          simp only [List.length_cons, List.length_append]
            at inductionHypothesis ⊢
          omega

theorem dumps_obj (members : List (Text × Value)) :
    dumps (.obj members) =
      '{' :: (commas ((sortMembers members).map writtenMember) ++ ['}']) := by
  rw [dumps, sortMembers_memberTexts]

/-- A flat object is read back with its members sorted. -/
theorem loads?_flat (nonempty : members ≠ []) (isFlat : FlatMembers members)
    (isAccepted : accepts (sortMembers members) = true) :
    loads? accepts (dumps (.obj members) ++ ['\n']) =
      some (.obj (sortMembers members)) := by
  have perm : (sortMembers members).Perm members := List.perm_insertionSort _ _
  have sortedFlat : FlatMembers (sortMembers members) :=
    fun member isMember => isFlat member (perm.mem_iff.mp isMember)
  have sortedNonempty : sortMembers members ≠ [] := by
    intro empty
    rw [empty] at perm
    exact nonempty perm.symm.eq_nil
  have written : dumps (.obj members) ++ ['\n'] = '{' ::
          (commas ((sortMembers members).map writtenMember) ++
            '}' :: ['\n']) := by
    rw [dumps_obj, List.cons_append, List.append_assoc]
    rfl
  have long := length_commas (sortMembers members)
  obtain ⟨tail, text⟩ := commas_quote sortedNonempty
  have enough : (sortMembers members).length <
        (dumps (.obj members) ++ ['\n']).length := by
    rw [written]
    simp only [List.length_cons, List.length_append]
    omega
  have read :=
    @members?_flat accepts _ sortedNonempty sortedFlat _ enough ['\n']
  rw [loads?]
  generalize (dumps (.obj members) ++ ['\n']).length = fuel at read
  rw [written]
  rw [text] at read ⊢
  refine Option.bind_eq_some_iff.mpr
    ⟨(.obj (sortMembers members), ['\n']), ?_, rfl⟩
  have isObject :
      value? accepts (fuel + 1) ('{' :: ('"' :: tail ++ '}' :: ['\n'])) =
        (members? accepts fuel ('"' :: tail ++ '}' :: ['\n'])).bind
          fun found => object? accepts found.1 found.2 :=
    rfl
  rw [read] at isObject
  refine isObject.trans ?_
  rw [Option.bind_some, object?, if_pos isAccepted]

/-! ## Sizes -/

/-- The character is a printable one. -/
def Printable (char : Char) : Prop :=
  32 ≤ char.toNat ∧ char.toNat ≤ 126

theorem quoted_printable (isPlain : ∀ char ∈ text, Plain char) :
    ∀ char ∈ quoted text, Printable char := by
  intro char member
  rw [quoted_plain isPlain] at member
  rcases List.mem_cons.mp member with rfl | inside
  · exact ⟨by decide, by decide⟩
  · rcases List.mem_append.mp inside with inText | atEnd
    · exact (isPlain char inText).printable
    · rw [List.mem_singleton.mp atEnd]
      exact ⟨by decide, by decide⟩

theorem IsFlat.printable {value : Value} (isFlat : IsFlat value) :
    ∀ char ∈ dumps value, Printable char := by
  have ofAll (text : Text) (all : (text.all fun char =>
        decide (32 ≤ char.toNat ∧ char.toNat ≤ 126)) = true) :
      ∀ char ∈ text, Printable char := by
    intro char member
    have isPrintable := of_decide_eq_true (List.all_eq_true.mp all char member)
    exact isPrintable
  cases isFlat with
  | null => exact ofAll _ (by decide)
  | bool value =>
      cases value with
      | true => exact ofAll _ (by decide)
      | false => exact ofAll _ (by decide)
  | int value =>
      intro char member
      rw [dumps_int] at member
      have digit := isDigit_of_mem member
      simp only [isDigit, Bool.and_eq_true, decide_eq_true_eq] at digit
      exact ⟨Nat.le_trans (by decide) digit.1,
        Nat.le_trans digit.2 (by decide)⟩
  | str isPlain => exact quoted_printable isPlain

theorem writtenMember_printable
    (isPlain : ∀ char ∈ member.1, Plain char) (isFlat : IsFlat member.2) :
    ∀ char ∈ writtenMember member, Printable char := by
  intro char isMember
  rcases List.mem_append.mp isMember with inKey | behind
  · exact quoted_printable isPlain char inKey
  · rcases List.mem_cons.mp behind with rfl | inValue
    · exact ⟨by decide, by decide⟩
    · exact isFlat.printable char inValue

theorem mem_commas {texts : List Text} (member : char ∈ commas texts) :
    char = ',' ∨ ∃ text ∈ texts, char ∈ text := by
  induction texts with
  | nil => cases member
  | cons first others inductionHypothesis =>
      cases others with
      | nil =>
          have inFirst : char ∈ first := by
            simpa [commas, List.intercalate] using member
          exact Or.inr ⟨first, List.mem_cons_self, inFirst⟩
      | cons second others =>
          rw [commas_cons] at member
          rcases List.mem_append.mp member with inFirst | behind
          · exact Or.inr ⟨first, List.mem_cons_self, inFirst⟩
          · rcases List.mem_cons.mp behind with isComma | later
            · exact Or.inl isComma
            · rcases inductionHypothesis later with
                isComma | ⟨text, isText, inText⟩
              · exact Or.inl isComma
              · exact Or.inr ⟨text, List.mem_cons_of_mem _ isText, inText⟩

theorem length_commas_le (texts : List Text) :
    (commas texts).length ≤ (texts.map fun text => text.length + 1).sum := by
  induction texts with
  | nil => exact Nat.le_refl _
  | cons first others inductionHypothesis =>
      cases others with
      | nil => simp [commas, List.intercalate]
      | cons second others =>
          rw [commas_cons, List.map_cons, List.sum_cons, List.length_append,
            List.length_cons]
          omega

theorem FlatMembers.printable (isFlat : FlatMembers members) :
    ∀ char ∈ dumps (.obj members), Printable char := by
  intro char member
  rw [dumps_obj] at member
  rcases List.mem_cons.mp member with rfl | inside
  · exact ⟨by decide, by decide⟩
  · rcases List.mem_append.mp inside with inMembers | atEnd
    · rcases mem_commas inMembers with rfl | ⟨text, isText, inText⟩
      · exact ⟨by decide, by decide⟩
      · obtain ⟨found, isFound, rfl⟩ := List.mem_map.mp isText
        have isMember := (List.perm_insertionSort _ _).mem_iff.mp isFound
        exact writtenMember_printable (isFlat found isMember).1
          (isFlat found isMember).2 char inText
    · rw [List.mem_singleton.mp atEnd]
      exact ⟨by decide, by decide⟩

theorem length_writtenMember (isPlain : ∀ char ∈ member.1, Plain char) :
    (writtenMember member).length + 1 =
      member.1.length + (dumps member.2).length + 4 := by
  rw [writtenMember, memberText, quoted_plain isPlain]
  simp only [List.length_cons, List.length_append, List.length_nil]
  omega

theorem FlatMembers.length_le (isFlat : FlatMembers members) :
    (dumps (.obj members)).length ≤ (members.map fun member =>
        member.1.length + (dumps member.2).length + 4).sum + 2 := by
  have perm : (sortMembers members).Perm members := List.perm_insertionSort _ _
  have bound := length_commas_le ((sortMembers members).map writtenMember)
  have lengths : (sortMembers members).map
          ((fun text => text.length + 1) ∘ writtenMember) =
        (sortMembers members).map fun member =>
          member.1.length + (dumps member.2).length + 4 := by
    refine List.map_congr_left fun member isMember => ?_
    exact length_writtenMember (isFlat member (perm.mem_iff.mp isMember)).1
  rw [List.map_map, lengths, (perm.map _).sum_nat] at bound
  rw [dumps_obj]
  simp only [List.length_cons, List.length_append, List.length_nil]
  omega

theorem size_utf8Encode (isAscii : ∀ char ∈ text, char.toNat ≤ 127) :
    text.utf8Encode.size = text.length := by
  induction text with
  | nil => rfl
  | cons char others inductionHypothesis =>
      have one : char.utf8Size = 1 := by
        have small : char.val ≤ 0x7f := isAscii char List.mem_cons_self
        exact if_pos small
      rw [List.utf8Encode_cons, ByteArray.size_append,
        inductionHypothesis fun other member =>
          isAscii other (List.mem_cons_of_mem _ member),
        List.utf8Encode_singleton, List.size_toByteArray,
        String.length_utf8EncodeChar, one, List.length_cons, Nat.add_comm]

end JsonValues
