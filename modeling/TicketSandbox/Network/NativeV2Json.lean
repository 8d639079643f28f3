import TicketSandbox.Library.JsonText
import TicketSandbox.Library.Raises

namespace TicketSandbox.Network

/-!
# The bounded JSON parser

`trusted_checker_network/native_v2_json.py`: `_Parser` and `bounded_json2`.
The parser moves a cursor over the decoded text; here the cursor is what is
left of the text.  The loops and the recursion take fuel.
-/

open JsonText
open Raises (ensure)

/-- How a call ends that does not return. -/
inductive Raised where
  | contractViolation2 (reason : String)
  | indexError
  | outOfFuel

/-- `MAX_BYTES`. -/
def maxBytes : Nat := 262144

/-- `MAX_DEPTH`. -/
def maxDepth : Nat := 32

/-- `MAX_NODES`. -/
def maxNodes : Nat := 32768

/-- `MAX_OBJECTS`. -/
def maxObjects : Nat := 128

/-- `MAX_EXPRESSIONS`. -/
def maxExpressions : Nat := 64

/-- `MAX_STRING_BYTES`. -/
def maxStringBytes : Nat := 256

/-- `_fail`. -/
def fail {α : Type} (reason : String) : Except Raised α :=
  .error (.contractViolation2 reason)

/-- `_fail` unless the condition holds. -/
def require (condition : Prop) [Decidable condition]
    (reason : String) : Except Raised Unit :=
  ensure condition (.contractViolation2 reason)

/-- `_fail` without a reason. -/
def invalid {α : Type} : Except Raised α :=
  fail "v2_json_invalid"

/-- What is left of the text, and the nodes counted so far. -/
structure Cursor where
  rest : Text
  nodes : Nat

/-- `count`. -/
def Cursor.count (cursor : Cursor) : Except Raised Cursor := do
  require (cursor.nodes < maxNodes) "v2_json_nodes_limit"
  return { cursor with nodes := cursor.nodes + 1 }

/-- `whitespace`. -/
def whitespace (text : Text) : Text :=
  text.dropWhile isBlank

/-- `take`. -/
def take (char : Char) (text : Text) : Except Raised Text :=
  match whitespace text with
  | [] => invalid
  | first :: rest => if first = char then .ok rest else invalid

/-- `hex4`. -/
def hex4 : Text → Except Raised (Nat × Text)
  | first :: second :: third :: fourth :: rest =>
      match hexValue? first second third fourth with
      | some value => .ok (value, rest)
      | none => invalid
  | _ => invalid

/-- The second half of a surrogate pair in `string`. -/
def lowSurrogate (high : Nat) : Text → Except Raised (Char × Text)
  | '\\' :: 'u' :: rest => do
      let (low, rest) ← hex4 rest
      require (isLow low = true) "v2_json_invalid"
      return (pairChar high low, rest)
  | _ => invalid

/-- An escape in `string`, after the backslash. -/
def escape : Text → Except Raised (Char × Text)
  | [] => invalid
  | code :: rest =>
      if code = 'u' then do
        let (value, rest) ← hex4 rest
        if isHigh value = true then
          lowSurrogate value rest
        else if isLow value = true then
          invalid
        else
          return (Char.ofNat value, rest)
      else
        match escapes.lookup code with
        | some char => .ok (char, rest)
        | none => invalid

/-- A character in `string`, other than the closing quote. -/
def character (char : Char) (rest : Text) : Except Raised (Char × Text) :=
  if char.toNat < 32 then invalid
  else if char = '\\' then escape rest
  else .ok (char, rest)

/-- The loop of `string`, with the size of what was read before. -/
def stringLoop : Nat → Nat → Text → Except Raised (Text × Text)
  | 0, _, _ => .error .outOfFuel
  | _ + 1, _, [] => invalid
  | fuel + 1, size, first :: rest =>
      if first = '"' then
        return ([], rest)
      else do
        let (char, rest) ← character first rest
        let size := size + char.utf8Size
        require (size ≤ maxStringBytes) "v2_json_string_limit"
        let (chars, rest) ← stringLoop fuel size rest
        return (char :: chars, rest)

/-- `string`. -/
def string (fuel : Nat) (text : Text) : Except Raised (Text × Text) := do
  let rest ← take '"' text
  stringLoop fuel 0 rest

/-- No fraction and no exponent are behind the digits. -/
def IsWhole (behind : Text) : Prop :=
  ∀ char ∈ behind.head?, char ∉ ['.', 'e', 'E']

instance (behind : Text) : Decidable (IsWhole behind) :=
  Option.decidableForallMem behind.head?

/-- `number`, where the text has a digit or a minus sign. -/
def number : Text → Except Raised (Int × Text)
  | [] => .error .indexError
  | first :: rest => do
      let unsigned := if first = '-' then rest else first :: rest
      let digits := unsigned.takeWhile isDigit
      let behind := unsigned.dropWhile isDigit
      require (digits.length ≤ 19) "v2_json_integer_invalid"
      require (digits ≠ [] ∧ ¬ (1 < digits.length ∧ digits.head? = some '0'))
        "v2_json_invalid"
      require (IsWhole behind) "v2_json_integer_invalid"
      let value : Int :=
        if first = '-' then -(decimal digits : Int) else decimal digits
      require (-(2 ^ 63) ≤ value ∧ value ≤ 2 ^ 63 - 1) "v2_json_integer_invalid"
      return (value, behind)

/-- The number of elements that an array at the path may have. -/
def arrayLimit (path : Path) : Nat :=
  if path = [.key "nftables".toList] then maxObjects
  else if path.getLast? = some (.key "expr".toList) then maxExpressions
  else maxNodes

/-- A value that is neither a string nor a container in `value`. -/
def scalar (text : Text) : Except Raised (Json × Text) :=
  match text with
  | [] => invalid
  | first :: _ =>
      if first = '-' ∨ isDigit first = true then do
        let (value, rest) ← number text
        return (.int value, rest)
      else if "null".toList <+: text then
        return (.null, text.drop 4)
      else if ∃ word ∈ ["true", "false", "NaN", "Infinity", "-Infinity"],
          word.toList <+: text then
        fail "v2_json_integer_invalid"
      else
        invalid

mutual

/-- `value`. -/
def value : Nat → Nat → Path → Cursor → Except Raised (Json × Cursor)
  | 0, _, _, _ => .error .outOfFuel
  | fuel + 1, depth, path, cursor => do
      require (depth ≤ maxDepth) "v2_json_depth_limit"
      let counted ← cursor.count
      match whitespace counted.rest with
      | [] => invalid
      | first :: rest =>
          if first = '"' then do
            let (text, rest) ← string fuel (first :: rest)
            return (.str text, { counted with rest := rest })
          else if first = '{' then
            match whitespace rest with
            | '}' :: rest => return (.obj [], { counted with rest := rest })
            | rest => do
                let (members, cursor) ←
                  membersLoop fuel depth path [] { counted with rest := rest }
                return (.obj members, cursor)
          else if first = '[' then
            match whitespace rest with
            | ']' :: rest => return (.arr [], { counted with rest := rest })
            | rest => do
                let (elements, cursor) ←
                  elementsLoop fuel depth path [] { counted with rest := rest }
                return (.arr elements, cursor)
          else do
            let (value, rest) ← scalar (first :: rest)
            return (value, { counted with rest := rest })

/-- The loop of `value` over the members of an object. -/
def membersLoop :
    Nat → Nat → Path → List (Text × Json) → Cursor →
      Except Raised (List (Text × Json) × Cursor)
  | 0, _, _, _, _ => .error .outOfFuel
  | fuel + 1, depth, path, result, cursor => do
      let counted ← cursor.count
      let (key, rest) ← string fuel counted.rest
      require (key ∉ result.map Prod.fst) "v2_json_duplicate_key"
      let rest ← take ':' rest
      let (inner, cursor) ← value fuel (depth + 1) (path ++ [.key key])
          { counted with rest := rest }
      let result := result ++ [(key, inner)]
      match whitespace cursor.rest with
      | '}' :: rest => return (result, { cursor with rest := rest })
      | rest => do
          let rest ← take ',' rest
          membersLoop fuel depth path result { cursor with rest := rest }

/-- The loop of `value` over the elements of an array. -/
def elementsLoop :
    Nat → Nat → Path → List Json → Cursor → Except Raised (List Json × Cursor)
  | 0, _, _, _, _ => .error .outOfFuel
  | fuel + 1, depth, path, result, cursor => do
      require (result.length < arrayLimit path) "v2_json_array_limit"
      let (inner, cursor) ←
        value fuel (depth + 1) (path ++ [.index result.length]) cursor
      let result := result ++ [inner]
      match whitespace cursor.rest with
      | ']' :: rest => return (result, { cursor with rest := rest })
      | rest => do
          let rest ← take ',' rest
          elementsLoop fuel depth path result { cursor with rest := rest }

end

/-- Fuel that is enough for the text. -/
def enough (text : Text) : Nat :=
  2 * text.length + 1

/-- The byte order mark. -/
def byteOrderMark : List UInt8 := [0xEF, 0xBB, 0xBF]

/-- `bounded_json2`. -/
def boundedJson2 (raw : ByteArray) : Except Raised Json := do
  require (0 < raw.size ∧ raw.size ≤ maxBytes) "v2_json_size_invalid"
  require (¬ byteOrderMark <+: raw.data.toList) "v2_json_encoding_invalid"
  match raw.utf8Decode? with
  | none => fail "v2_json_encoding_invalid"
  | some text => do
      let (result, cursor) ←
        value (enough text.toList) 1 [] { rest := text.toList, nodes := 0 }
      require (whitespace cursor.rest = []) "v2_json_invalid"
      return result

end TicketSandbox.Network
