import Mathlib.Data.List.TakeWhile
import TicketSandbox.Network.NativeV2Json

namespace TicketSandbox.Network

/-!
# Lexemes of the bounded JSON parser

What the parts of the parser below `value` read: each of them returns exactly
the texts of the grammar, and raises only the violation.
-/

open JsonText
open Raises

/-! ## Violations -/

/-- A call that does not return raises the violation. -/
def IsClosed {α : Type} (result : Except Raised α) : Prop :=
  ∀ raised, result = .error raised →
    ∃ reason, raised = .contractViolation2 reason

namespace IsClosed

theorem ok {α : Type} (value : α) : IsClosed (.ok value : Except Raised α) := by
  intro raised result
  cases result

theorem fail {α : Type} (reason : String) :
    IsClosed (Network.fail reason : Except Raised α) := by
  intro raised result
  cases result
  exact ⟨reason, rfl⟩

theorem invalid {α : Type} : IsClosed (Network.invalid : Except Raised α) :=
  .fail _

theorem require (condition : Prop) [Decidable condition] (reason : String) :
    IsClosed (Network.require condition reason) := by
  unfold Network.require ensure
  split
  · exact .ok _
  · exact .fail reason

/-- A sequence of closed calls is closed. -/
theorem bind {α β : Type} {first : Except Raised α} {rest : α → Except Raised β}
    (isClosed : IsClosed first)
    (restClosed : ∀ value, first = .ok value → IsClosed (rest value)) :
    IsClosed (first >>= rest) := by
  cases first with
  | error raised =>
      intro other result
      cases result
      exact isClosed raised rfl
  | ok value => exact restClosed value rfl

end IsClosed

/-- A requirement succeeds when its condition holds. -/
theorem require_ok
    {condition : Prop} [Decidable condition] {reason : String} {result : Unit} :
    require condition reason = .ok result ↔ condition :=
  ensure_ok

/-! ## Whitespace -/

theorem whitespace_split (text : Text) :
    ∃ blank, Blank blank ∧ text = blank ++ whitespace text := by
  refine ⟨text.takeWhile isBlank, ?_, ?_⟩
  · intro char member
    exact List.mem_takeWhile_imp member
  · exact List.takeWhile_append_dropWhile.symm

variable {rest blank text behind chars digits : Text} {char first : Char}
  {value fuel size : Nat}

theorem whitespace_append (isBlank : Blank blank)
    (stops : ∀ char ∈ rest.head?, JsonText.isBlank char = false) :
    whitespace (blank ++ rest) = rest := by
  have skipped : whitespace (blank ++ rest) = whitespace rest :=
    List.dropWhile_append_of_pos isBlank
  rw [skipped]
  cases rest with
  | nil => rfl
  | cons first others => simp [whitespace, stops first rfl]

theorem whitespace_length (text : Text) :
    (whitespace text).length ≤ text.length :=
  (List.dropWhile_sublist _).length_le

theorem take_ok (taken : take char text = .ok rest) :
    ∃ blank, Blank blank ∧ text = blank ++ char :: rest := by
  obtain ⟨blank, isBlank, split⟩ := whitespace_split text
  refine ⟨blank, isBlank, ?_⟩
  simp only [take] at taken
  generalize whitespace text = stripped at taken split
  split at taken
  · cases taken
  · split at taken
    · rename_i same
      cases taken
      rw [split, same]
    · cases taken

theorem take_append (isBlank : Blank blank) (rest : Text)
    (stops : JsonText.isBlank char = false) :
    take char (blank ++ char :: rest) = .ok rest := by
  have stripped : whitespace (blank ++ char :: rest) = char :: rest :=
    whitespace_append isBlank (by simp [stops])
  simp [take, stripped]

theorem take_head (rest : Text) (stops : JsonText.isBlank char = false) :
    take char (char :: rest) = .ok rest := by
  have noBlank : Blank [] := by simp [Blank]
  exact take_append noBlank rest stops

theorem take_closed (char : Char) (text : Text) :
    IsClosed (take char text) := by
  simp only [take]
  split
  · exact .invalid
  · split
    · exact .ok _
    · exact .invalid

/-! ## Strings -/

theorem hex4_ok (read : hex4 text = .ok (value, rest)) :
    ∃ first second third fourth,
      text = first :: second :: third :: fourth :: rest ∧
        hexValue? first second third fourth = some value := by
  unfold hex4 at read
  split at read
  · rename_i first second third fourth behind
    split at read
    · rename_i found
      cases read
      exact ⟨first, second, third, fourth, rfl, found⟩
    · cases read
  · cases read

theorem hex4_append {second third fourth : Char}
    (found : hexValue? first second third fourth = some value) (rest : Text) :
    hex4 (first :: second :: third :: fourth :: rest) = .ok (value, rest) := by
  simp [hex4, found]

theorem hex4_closed (text : Text) : IsClosed (hex4 text) := by
  unfold hex4
  split
  · split
    · exact .ok _
    · exact .invalid
  · exact .invalid

theorem lowSurrogate_ok
    {high : Nat} (read : lowSurrogate high text = .ok (char, rest)) :
    ∃ first second third fourth low,
      text = '\\' :: 'u' :: first :: second :: third :: fourth :: rest ∧
        hexValue? first second third fourth = some low ∧
        isLow low = true ∧ char = pairChar high low := by
  unfold lowSurrogate at read
  split at read
  · simp only [bind_ok, pure_ok, Prod.mk.injEq, require_ok] at read
    obtain ⟨⟨low, behind⟩, isRead, _, isLow, isChar, isRest⟩ := read
    obtain ⟨first, second, third, fourth, split, found⟩ := hex4_ok isRead
    simp only at isRest
    subst isRest
    exact ⟨first, second, third, fourth, low, by rw [split], found, isLow,
        isChar.symm⟩
  · cases read

theorem mem_of_lookup
    {α β : Type} [BEq α] [LawfulBEq α] {table : List (α × β)} {key : α}
    {value : β} (found : table.lookup key = some value) :
    (key, value) ∈ table := by
  obtain ⟨before, behind, split, _⟩ := List.lookup_eq_some_iff.mp found
  rw [split]
  exact List.mem_append_right _ List.mem_cons_self

theorem escape_ok (read : escape text = .ok (char, rest)) :
    ∃ piece, Piece char ('\\' :: piece) ∧ text = piece ++ rest := by
  unfold escape at read
  split at read
  · cases read
  · rename_i code behind
    split at read
    · rename_i isUnit
      subst isUnit
      simp only [bind_ok] at read
      obtain ⟨⟨value, after⟩, isRead, read⟩ := read
      obtain ⟨first, second, third, fourth, rfl, found⟩ := hex4_ok isRead
      split at read
      · rename_i isHigh
        obtain ⟨fifth, sixth, seventh, eighth, low, split, lowFound, isLow,
          isChar⟩ := lowSurrogate_ok read
        have isPiece := Piece.pair found lowFound isHigh isLow
        rw [← isChar] at isPiece
        simp only at split
        subst split
        exact ⟨_, isPiece, rfl⟩
      · rename_i notHigh
        split at read
        · cases read
        · rename_i notLow
          simp only [pure_ok, Prod.mk.injEq] at read
          obtain ⟨isChar, isRest⟩ := read
          have isPiece :=
            Piece.unit found (by simpa using notHigh) (by simpa using notLow)
          rw [isChar] at isPiece
          subst isRest
          exact ⟨_, isPiece, rfl⟩
    · split at read
      · rename_i found
        cases read
        exact ⟨[code], .escaped (mem_of_lookup found), rfl⟩
      · cases read

theorem lowSurrogate_closed (high : Nat) (text : Text) :
    IsClosed (lowSurrogate high text) := by
  unfold lowSurrogate
  split
  · refine .bind (hex4_closed _) fun read _ => ?_
    exact .bind (.require _ _) fun _ _ => .ok _
  · exact .invalid

theorem escape_closed (text : Text) : IsClosed (escape text) := by
  unfold escape
  split
  · exact .invalid
  · split
    · refine .bind (hex4_closed _) fun read _ => ?_
      obtain ⟨value, rest⟩ := read
      simp only
      split
      · exact lowSurrogate_closed _ _
      · split
        · exact .invalid
        · exact .ok _
    · split
      · exact .ok _
      · exact .invalid

theorem character_ok
    (isOther : first ≠ '"') (read : character first rest = .ok (char, behind)) :
    ∃ piece, Piece char (first :: piece) ∧ rest = piece ++ behind := by
  unfold character at read
  split at read
  · cases read
  · rename_i isPrintable
    split at read
    · rename_i isBackslash
      subst isBackslash
      exact escape_ok read
    · rename_i notBackslash
      cases read
      exact
        ⟨[], .plain (Nat.le_of_not_lt isPrintable) isOther notBackslash, rfl⟩

theorem character_piece {piece : Text} (isPiece : Piece char piece) :
    ∃ first others, piece = first :: others ∧ first ≠ '"' ∧
        ∀ rest, character first (others ++ rest) = .ok (char, rest) := by
  cases isPiece with
  | plain isPrintable notQuote notBackslash =>
      refine ⟨char, [], rfl, notQuote, fun rest => ?_⟩
      simp [character, Nat.not_lt.mpr isPrintable, notBackslash]
  | @escaped code _ member =>
      refine ⟨'\\', [code], rfl, by decide, fun rest => ?_⟩
      have known : ∀ pair ∈ escapes,
            pair.1 ≠ 'u' ∧ escapes.lookup pair.1 = some pair.2 := by
        decide
      obtain ⟨notUnit, found⟩ := known _ member
      simp [character, escape, notUnit, found]
  | unit found notHigh notLow =>
      refine ⟨'\\', _, rfl, by decide, fun rest => ?_⟩
      refine bind_ok.mpr ⟨_, hex4_append found rest, ?_⟩
      simp [notHigh, notLow, pure, Except.pure]
  | pair found lowFound isHigh isLow =>
      refine ⟨'\\', _, rfl, by decide, fun rest => ?_⟩
      refine bind_ok.mpr ⟨_, hex4_append found _, ?_⟩
      simp only [isHigh, ↓reduceIte]
      refine bind_ok.mpr ⟨_, hex4_append lowFound rest, ?_⟩
      exact bind_ok.mpr ⟨(), require_ok.mpr isLow, rfl⟩

theorem character_closed (char : Char) (rest : Text) :
    IsClosed (character char rest) := by
  unfold character
  split
  · exact .invalid
  · split
    · exact escape_closed _
    · exact .ok _

theorem character_length
    (isOther : first ≠ '"') (read : character first rest = .ok (char, behind)) :
    behind.length ≤ rest.length := by
  obtain ⟨piece, _, split⟩ := character_ok isOther read
  rw [split, List.length_append]
  exact Nat.le_add_left _ _

theorem stringLoop_ok (fits : size ≤ maxStringBytes)
    (read : stringLoop fuel size text = .ok (chars, rest)) :
    ∃ body, Pieces chars body ∧ text = body ++ '"' :: rest ∧
        size + utf8Length chars ≤ maxStringBytes := by
  induction fuel generalizing size text chars with
  | zero => cases read
  | succ fuel inductionHypothesis =>
      cases text with
      | nil => cases read
      | cons first others =>
          simp only [stringLoop] at read
          split at read
          · rename_i isQuote
            cases read
            exact ⟨[], .nil, by rw [isQuote]; rfl, fits⟩
          · rename_i isOther
            simp only [bind_ok, pure_ok, require_ok, Prod.mk.injEq] at read
            obtain ⟨⟨char, behind⟩, isRead, _, stillFits, ⟨later, final⟩,
              isLoop, isChars, isRest⟩ := read
            simp only at stillFits isLoop isChars isRest
            subst isChars isRest
            obtain ⟨piece, isPiece, split⟩ := character_ok isOther isRead
            obtain ⟨body, isBody, bodySplit, bodyFits⟩ :=
              inductionHypothesis stillFits isLoop
            refine ⟨_, .cons isPiece isBody, ?_, ?_⟩
            · rw [split, bodySplit]
              simp
            · simpa [utf8Length, Nat.add_assoc] using bodyFits

theorem stringLoop_append {body : Text} (isBody : Pieces chars body)
    (rest : Text) (fuelled : body.length < fuel)
    (fits : size + utf8Length chars ≤ maxStringBytes) :
    stringLoop fuel size (body ++ '"' :: rest) = .ok (chars, rest) := by
  induction isBody generalizing fuel size with
  | nil =>
      obtain ⟨fuel, rfl⟩ := Nat.exists_eq_succ_of_ne_zero
          (Nat.ne_zero_of_lt fuelled)
      rfl
  | @cons char value piece others isPiece _ inductionHypothesis =>
      obtain ⟨fuel, rfl⟩ :=
        Nat.exists_eq_succ_of_ne_zero (Nat.ne_zero_of_lt fuelled)
      obtain ⟨first, behind, rfl, isOther, isRead⟩ := character_piece isPiece
      have length : utf8Length (char :: value) =
          char.utf8Size + utf8Length value := by
        simp [utf8Length]
      rw [length, ← Nat.add_assoc] at fits
      simp only [List.cons_append, List.append_assoc, stringLoop, isOther,
        ↓reduceIte]
      refine bind_ok.mpr ⟨_, isRead _, ?_⟩
      refine bind_ok.mpr
          ⟨(), require_ok.mpr ((Nat.le_add_right _ _).trans fits), ?_⟩
      refine bind_ok.mpr ⟨_, inductionHypothesis ?_ fits, rfl⟩
      simp only [List.cons_append, List.length_cons,
        List.length_append] at fuelled
      omega

theorem stringLoop_closed (size : Nat) (fuelled : text.length < fuel) :
    IsClosed (stringLoop fuel size text) := by
  induction fuel generalizing size text with
  | zero => cases fuelled
  | succ fuel inductionHypothesis =>
      cases text with
      | nil => exact .invalid
      | cons first others =>
          simp only [stringLoop]
          split
          · exact .ok _
          · rename_i isOther
            refine .bind (character_closed _ _) fun read isRead => ?_
            refine .bind (.require _ _) fun _ _ => ?_
            refine .bind (inductionHypothesis _ ?_) fun _ _ => .ok _
            have shorter := character_length isOther isRead
            exact Nat.lt_of_le_of_lt shorter (Nat.lt_of_succ_lt_succ fuelled)

/-- What `string` has read. -/
theorem string_ok {value : Text} (read : string fuel text = .ok (value, rest)) :
    ∃ blank name,
      Blank blank ∧ Quoted value name ∧ text = blank ++ name ++ rest ∧
        utf8Length value ≤ maxStringBytes := by
  simp only [string, bind_ok] at read
  obtain ⟨behind, taken, isLoop⟩ := read
  obtain ⟨blank, isBlank, split⟩ := take_ok taken
  obtain ⟨body, isBody, bodySplit, fits⟩ := stringLoop_ok (Nat.zero_le _) isLoop
  refine ⟨blank, _, isBlank, .quoted isBody, ?_, ?_⟩
  · rw [split, bodySplit]
    simp
  · simpa using fits

theorem string_append (fuel : Nat) {name value : Text} (isBlank : Blank blank)
    (isName : Quoted value name) (rest : Text) (fuelled : name.length ≤ fuel)
    (fits : utf8Length value ≤ maxStringBytes) :
    string fuel (blank ++ (name ++ rest)) = .ok (value, rest) := by
  obtain ⟨isBody⟩ := isName
  rename_i body
  simp only [List.cons_append, List.append_assoc, List.nil_append]
  refine bind_ok.mpr ⟨_, take_append isBlank _ (by decide), ?_⟩
  refine stringLoop_append isBody rest ?_ (by simpa using fits)
  simp only [List.length_cons, List.length_append, List.length_nil] at fuelled
  omega

theorem string_closed
    (fuelled : text.length ≤ fuel) : IsClosed (string fuel text) := by
  refine .bind (take_closed _ _) fun rest taken => ?_
  refine stringLoop_closed 0 ?_
  obtain ⟨blank, _, split⟩ := take_ok taken
  rw [split, List.length_append, List.length_cons] at fuelled
  omega

/-! ## Numbers -/

/-- The integers that the parser accepts. -/
def InRange (value : Int) : Prop :=
  -(2 ^ 63) ≤ value ∧ value ≤ 2 ^ 63 - 1

theorem numeral_of
    {unsigned : Text} (isProper : unsigned.takeWhile isDigit ≠ [] ∧
        ¬ (1 < (unsigned.takeWhile isDigit).length ∧
          (unsigned.takeWhile isDigit).head? = some '0')) :
    Numeral (unsigned.takeWhile isDigit) where
  nonempty := isProper.1
  onlyDigits := fun _ member => List.mem_takeWhile_imp member
  unpadded := by
    intro isZero
    by_contra several
    refine isProper.2 ⟨?_, isZero⟩
    have nonempty := List.length_pos_iff.mpr isProper.1
    omega

theorem number_ok {value : Int} (read : number text = .ok (value, rest)) :
    ∃ digits, Integer value digits ∧ text = digits ++ rest ∧ InRange value := by
  cases text with
  | nil => cases read
  | cons first others =>
      simp only [number, bind_ok, pure_ok, require_ok, Prod.mk.injEq] at read
      obtain ⟨_, _, _, isProper, _, _, _, inRange, isValue, isRest⟩ := read
      subst isRest isValue
      by_cases isMinus : first = '-'
      · subst isMinus
        simp only [↓reduceIte] at isProper inRange ⊢
        refine ⟨_, .negative (numeral_of isProper), ?_, inRange⟩
        rw [List.cons_append, List.takeWhile_append_dropWhile]
      · simp only [isMinus, ↓reduceIte] at isProper inRange ⊢
        refine ⟨_, .natural (numeral_of isProper), ?_, inRange⟩
        rw [List.takeWhile_append_dropWhile]

theorem length_of_inRange
    (isNumeral : Numeral digits) (inRange : (decimal digits : Int) ≤ 2 ^ 63) :
    digits.length ≤ 19 := by
  by_contra many
  have several : 1 < digits.length := by omega
  have large := isNumeral.decimal_ge several
  have larger : 10 ^ 19 ≤ 10 ^ (digits.length - 1) :=
    Nat.pow_le_pow_right (by decide) (by omega)
  have bound : decimal digits ≤ 2 ^ 63 := by exact_mod_cast inRange
  have small : 2 ^ 63 < 10 ^ 19 := by decide
  omega

theorem digits_append (isNumeral : Numeral digits)
    (stops : ∀ char ∈ rest.head?, isDigit char = false) :
    (digits ++ rest).takeWhile isDigit = digits ∧
      (digits ++ rest).dropWhile isDigit = rest := by
  rw [List.takeWhile_append_of_pos isNumeral.onlyDigits,
    List.dropWhile_append_of_pos isNumeral.onlyDigits]
  cases rest with
  | nil => simp
  | cons first others => simp [stops first rfl]

theorem isProper_of_numeral (isNumeral : Numeral digits) :
    digits ≠ [] ∧ ¬ (1 < digits.length ∧ digits.head? = some '0') := by
  refine ⟨isNumeral.nonempty, ?_⟩
  rintro ⟨several, isZero⟩
  rw [isNumeral.unpadded isZero] at several
  exact absurd several (by decide)

theorem number_append
    {value : Int} (isInteger : Integer value text) (inRange : InRange value)
    (stops : ∀ char ∈ rest.head?, isDigit char = false)
    (whole : ∀ char ∈ rest.head?, char ∉ ['.', 'e', 'E']) :
    number (text ++ rest) = .ok (value, rest) := by
  cases isInteger with
  | natural isNumeral =>
      obtain ⟨first, others, shape, isFirst⟩ := isNumeral.head
      have notMinus : first ≠ '-' := by
        rintro rfl
        exact absurd isFirst (by decide)
      obtain ⟨taken, dropped⟩ := digits_append isNumeral stops
      have short : text.length ≤ 19 :=
        length_of_inRange isNumeral (by have := inRange.2; omega)
      rw [shape] at taken dropped short inRange isNumeral ⊢
      simp only [List.cons_append] at taken dropped
      simp only [List.cons_append, number, notMinus, ↓reduceIte, taken, dropped]
      refine bind_ok.mpr ⟨(), require_ok.mpr short, ?_⟩
      refine bind_ok.mpr
          ⟨(), require_ok.mpr (isProper_of_numeral isNumeral), ?_⟩
      refine bind_ok.mpr ⟨(), require_ok.mpr whole, ?_⟩
      exact bind_ok.mpr ⟨(), require_ok.mpr inRange, rfl⟩
  | @negative digits isNumeral =>
      obtain ⟨taken, dropped⟩ := digits_append isNumeral stops
      have short : digits.length ≤ 19 :=
        length_of_inRange isNumeral (by have := inRange.1; omega)
      simp only [List.cons_append, number, ↓reduceIte, taken, dropped]
      refine bind_ok.mpr ⟨(), require_ok.mpr short, ?_⟩
      refine bind_ok.mpr
          ⟨(), require_ok.mpr (isProper_of_numeral isNumeral), ?_⟩
      refine bind_ok.mpr ⟨(), require_ok.mpr whole, ?_⟩
      exact bind_ok.mpr ⟨(), require_ok.mpr inRange, rfl⟩

theorem number_closed (first : Char) (rest : Text) :
    IsClosed (number (first :: rest)) := by
  refine .bind (.require _ _) fun _ _ => ?_
  refine .bind (.require _ _) fun _ _ => ?_
  refine .bind (.require _ _) fun _ _ => ?_
  exact .bind (.require _ _) fun _ _ => .ok _

/-! ## Scalars -/

/-- The values without parts, other than strings. -/
inductive IsScalar : Json → Prop where
  | null : IsScalar .null
  | int {value : Int} : InRange value → IsScalar (.int value)

theorem scalar_ok {value : Json} (read : scalar text = .ok (value, rest)) :
    ∃ body,
      Denotes (.value value) body ∧ text = body ++ rest ∧ IsScalar value := by
  unfold scalar at read
  split at read
  · cases read
  · rename_i first others
    split at read
    · simp only [bind_ok, pure_ok, Prod.mk.injEq] at read
      obtain ⟨⟨integer, behind⟩, isRead, isValue, isRest⟩ := read
      simp only at isValue isRest
      subst isValue isRest
      obtain ⟨digits, isInteger, split, inRange⟩ := number_ok isRead
      exact ⟨digits, .int isInteger, split, .int inRange⟩
    · split at read
      · rename_i isNull
        obtain ⟨behind, split⟩ := isNull
        simp only [pure_ok, Prod.mk.injEq] at read
        obtain ⟨isValue, isRest⟩ := read
        subst isValue isRest
        rw [← split]
        exact ⟨_, .null, rfl, .null⟩
      · split at read
        · cases read
        · cases read

theorem scalar_closed (text : Text) : IsClosed (scalar text) := by
  unfold scalar
  split
  · exact .invalid
  · split
    · exact .bind (number_closed _ _) fun _ _ => .ok _
    · split
      · exact .ok _
      · split
        · exact .fail _
        · exact .invalid

end TicketSandbox.Network
