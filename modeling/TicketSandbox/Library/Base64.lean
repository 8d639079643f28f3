import Mathlib.Data.List.Basic

namespace Base64

/-!
# Base64

Byte strings as texts of an alphabet of sixty-four characters: three bytes are
four characters, and the last group is filled up.
-/

/-- The characters of the values below sixty-four. -/
def alphabet : List Char :=
  ("ABCDEFGHIJKLMNOPQRSTUVWXYZabcdefghijklmnopqrstuvwxyz" ++
    "0123456789+/").toList

/-- The character of a value. -/
def symbol (value : Nat) : Char :=
  alphabet.getD value '='

/-- The value of a character of the alphabet. -/
def value? (char : Char) : Option Nat :=
  alphabet.idxOf? char

/-- `b64encode`. -/
def b64encode : List UInt8 → List Char
  | [] => []
  | [a] => [symbol (a.toNat / 4), symbol (a.toNat % 4 * 16), '=', '=']
  | [a, b] =>
      [symbol (a.toNat / 4), symbol (a.toNat % 4 * 16 + b.toNat / 16),
        symbol (b.toNat % 16 * 4), '=']
  | a :: b :: c :: rest =>
      symbol (a.toNat / 4) :: symbol (a.toNat % 4 * 16 + b.toNat / 16) ::
        symbol (b.toNat % 16 * 4 + c.toNat / 64) ::
        symbol (c.toNat % 64) ::
        b64encode rest

/-- `b64decode` with validation: groups of four, of which only the last may be
filled up. -/
def b64decode? : List Char → Option (List UInt8)
  | [] => some []
  | [first, second, '=', '='] => do
      let a ← value? first
      let b ← value? second
      pure [UInt8.ofNat (a * 4 + b / 16)]
  | [first, second, third, '='] => do
      let a ← value? first
      let b ← value? second
      let c ← value? third
      pure [UInt8.ofNat (a * 4 + b / 16), UInt8.ofNat (b * 16 + c / 4)]
  | first :: second :: third :: fourth :: rest => do
      let a ← value? first
      let b ← value? second
      let c ← value? third
      let d ← value? fourth
      let bytes ← b64decode? rest
      pure (UInt8.ofNat (a * 4 + b / 16) :: UInt8.ofNat (b * 16 + c / 4) ::
          UInt8.ofNat (c * 64 + d) :: bytes)
  | _ => none

/-! ## Symbols -/

theorem value?_symbol {value : Nat} (isValue : value < 64) :
    value? (symbol value) = some value := by
  have all : ∀ value : Fin 64, value? (symbol value.val) = some value.val := by
    decide +kernel
  exact all ⟨value, isValue⟩

theorem value?_filler : value? '=' = none := by
  decide

variable {value : Nat} {bytes : List UInt8}

theorem symbol_ne_filler (isValue : value < 64) : symbol value ≠ '=' := by
  intro same
  have isSymbol := value?_symbol isValue
  rw [same, value?_filler] at isSymbol
  cases isSymbol

theorem ofNat_eq
    {byte : UInt8} {value : Nat} (same : value % 256 = byte.toNat) :
    UInt8.ofNat value = byte := by
  apply UInt8.toNat_inj.mp
  rw [UInt8.toNat_ofNat']
  exact same

/-! ## Round trip -/

theorem b64decode?_group
    {a b c d : Nat} (isA : a < 64) (isB : b < 64) (isC : c < 64) (isD : d < 64)
    {rest : List Char} (decoded : b64decode? rest = some bytes) :
    b64decode? (symbol a :: symbol b :: symbol c :: symbol d :: rest) = some
        (UInt8.ofNat (a * 4 + b / 16) :: UInt8.ofNat (b * 16 + c / 4) ::
          UInt8.ofNat (c * 64 + d) :: bytes) := by
  have notFiller := symbol_ne_filler isD
  rw [b64decode?]
  · simp only [value?_symbol isA, value?_symbol isB, value?_symbol isC,
      value?_symbol isD, decoded, Option.bind_eq_bind, Option.bind_some,
      Option.pure_def]
  · intro _ isFiller _
    exact notFiller isFiller
  · intro isFiller _
    exact notFiller isFiller

/-- Decoding reads back what was encoded. -/
theorem b64decode?_b64encode (bytes : List UInt8) :
    b64decode? (b64encode bytes) = some bytes := by
  induction bytes using b64encode.induct with
  | case1 => rfl
  | case2 a =>
      have aLt := a.toNat_lt
      rw [b64encode, b64decode?]
      simp only [@value?_symbol (a.toNat / 4) (by omega),
        @value?_symbol (a.toNat % 4 * 16) (by omega), Option.bind_eq_bind,
        Option.bind_some, Option.pure_def]
      rw [@ofNat_eq a _ (by omega)]
  | case3 a b =>
      have aLt := a.toNat_lt
      have bLt := b.toNat_lt
      rw [b64encode, b64decode?]
      · simp only [@value?_symbol (a.toNat / 4) (by omega),
          @value?_symbol (a.toNat % 4 * 16 + b.toNat / 16) (by omega),
          @value?_symbol (b.toNat % 16 * 4) (by omega),
          Option.bind_eq_bind, Option.bind_some, Option.pure_def]
        rw [@ofNat_eq a _ (by omega), @ofNat_eq b _ (by omega)]
      · exact symbol_ne_filler (by omega)
  | case4 a b c rest inductionHypothesis =>
      have aLt := a.toNat_lt
      have bLt := b.toNat_lt
      have cLt := c.toNat_lt
      rw [b64encode,
        b64decode?_group (by omega) (by omega) (by omega) (by omega)
          inductionHypothesis,
        @ofNat_eq a _ (by omega), @ofNat_eq b _ (by omega),
        @ofNat_eq c _ (by omega)]

theorem length_b64encode (bytes : List UInt8) :
    (b64encode bytes).length = (bytes.length + 2) / 3 * 4 := by
  induction bytes using b64encode.induct with
  | case1 => rfl
  | case2 a => simp only [b64encode, List.length_cons, List.length_nil]
  | case3 a b => simp only [b64encode, List.length_cons, List.length_nil]
  | case4 a b c rest inductionHypothesis =>
      simp only [b64encode, List.length_cons, inductionHypothesis]
      omega

theorem symbol_mem (isValue : value < 64) : symbol value ∈ '=' :: alphabet := by
  have all : ∀ value : Fin 64, symbol value.val ∈ '=' :: alphabet := by
    decide +kernel
  exact all ⟨value, isValue⟩

/-- Encoded bytes are letters of the alphabet. -/
theorem b64encode_mem {char : Char} (member : char ∈ b64encode bytes) :
    char ∈ '=' :: alphabet := by
  induction bytes using b64encode.induct with
  | case1 => cases member
  | case2 a =>
      have aLt := a.toNat_lt
      simp only [b64encode, List.mem_cons, List.not_mem_nil, or_false] at member
      rcases member with rfl | rfl | rfl | rfl
      · exact symbol_mem (by omega)
      · exact symbol_mem (by omega)
      · exact List.mem_cons_self
      · exact List.mem_cons_self
  | case3 a b =>
      have aLt := a.toNat_lt
      have bLt := b.toNat_lt
      simp only [b64encode, List.mem_cons, List.not_mem_nil, or_false] at member
      rcases member with rfl | rfl | rfl | rfl
      · exact symbol_mem (by omega)
      · exact symbol_mem (by omega)
      · exact symbol_mem (by omega)
      · exact List.mem_cons_self
  | case4 a b c rest inductionHypothesis =>
      have aLt := a.toNat_lt
      have bLt := b.toNat_lt
      have cLt := c.toNat_lt
      rw [b64encode] at member
      rcases List.mem_cons.mp member with rfl | member
      · exact symbol_mem (by omega)
      rcases List.mem_cons.mp member with rfl | member
      · exact symbol_mem (by omega)
      rcases List.mem_cons.mp member with rfl | member
      · exact symbol_mem (by omega)
      rcases List.mem_cons.mp member with rfl | member
      · exact symbol_mem (by omega)
      · exact inductionHypothesis member

end Base64
