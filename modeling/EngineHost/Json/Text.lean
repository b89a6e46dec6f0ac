/-
**JSON values as text.**

* `Json.ofText?`: the value that a text stands for, if the text is nothing but that value;
* `Json.toText`: a text of a value, on one line.

A number is whole if it is written without a point and without an exponent, is not `-0`, and fits into 64 bits
with or without a sign; any other number is a decimal. The readers of values count down the fuel they are given:
every step of theirs that goes deeper or further has read a character or a word, so that twice the length of the
text is enough.
-/

import EngineHost.Json
import EngineHost.Text.Decimal
import EngineHost.Text.Hex

namespace EngineHost.Json

/-! ### Texts in quotes -/

/-- The character of an escape of two characters. -/
def escaped : Char → Char
  | 'n' => '\n'
  | 't' => '\t'
  | 'r' => '\r'
  | 'b' => '\x08'
  | 'f' => '\x0c'
  | c => c

/-- Whether a code is the first half of a code point beyond sixteen bits. -/
def isFirstHalf (code : Nat) : Bool := 0xD800 ≤ code && code < 0xDC00

/-- The character of a code, behind the first half of a code point if there is one. -/
def ofHalves (first : Option Nat) (code : Nat) : Char :=
  match first with
  | none => Char.ofNat code
  | some first => Char.ofNat (0x10000 + (first - 0xD800) * 0x400 + (code - 0xDC00))

/-- Reads what stands up to the closing quote, behind the characters so far and the first half of a code point
if there is one, and the rest after the quote. -/
def readQuoted (first : Option Nat) (sofar : List Char) : List Char → Option (String × List Char)
  | [] => none
  | '"' :: rest => some (String.ofList sofar.reverse, rest)
  | '\\' :: 'u' :: a :: b :: c :: d :: rest => do
    let code ← Text.ofHex? [a, b, c, d]
    if isFirstHalf code then readQuoted (some code) sofar rest
    else readQuoted none (ofHalves first code :: sofar) rest
  | '\\' :: c :: rest => readQuoted none (escaped c :: sofar) rest
  | c :: rest => readQuoted none (c :: sofar) rest

/-! ### Numbers -/

/-- Whether a character may stand in a number. -/
def inNumber (c : Char) : Bool := c.isDigit || c == '-' || c == '+' || c == '.' || c == 'e' || c == 'E'

/-- The exponent that stands behind the letter for it. -/
def exponent : List Char → Int
  | '-' :: digits => -(Text.ofDigits digits : Int)
  | digits => Text.ofDigits (Text.dropPlus digits)

/-- Whether a whole number with a sign is kept as one. -/
def isWhole (negative : Bool) (size : Nat) : Bool :=
  if negative then 0 < size && size ≤ Int64.minValue.toInt.natAbs else size < UInt64.size

/-- The number of a literal behind its sign. -/
def ofUnsigned (negative : Bool) (literal : List Char) : Json :=
  let digits := literal.takeWhile Char.isDigit
  match literal.dropWhile Char.isDigit with
  | [] =>
    let size := Text.ofDigits digits
    if isWhole negative size then .whole (if negative then -(size : Int) else size)
    else .decimal negative size 0
  | '.' :: rest =>
    let fraction := rest.takeWhile Char.isDigit
    .decimal negative (Text.ofDigits (digits ++ fraction))
      (exponent (rest.dropWhile Char.isDigit).tail - fraction.length)
  | _ :: rest => .decimal negative (Text.ofDigits digits) (exponent rest)

/-- The number of a literal. -/
def ofLiteral : List Char → Json
  | '-' :: literal => ofUnsigned true literal
  | literal => ofUnsigned false literal

/-! ### Values -/

/-- The text from its first character that is not blank. -/
def skipBlanks (chars : List Char) : List Char :=
  chars.dropWhile fun c => c == ' ' || c == '\t' || c == '\n' || c == '\r'

mutual

/-- Reads a value, and the rest of the text after it. -/
def readValue : Nat → List Char → Option (Json × List Char)
  | 0, _ => none
  | fuel + 1, chars =>
    match skipBlanks chars with
    | 'n' :: 'u' :: 'l' :: 'l' :: rest => some (.null, rest)
    | 't' :: 'r' :: 'u' :: 'e' :: rest => some (.bool true, rest)
    | 'f' :: 'a' :: 'l' :: 's' :: 'e' :: rest => some (.bool false, rest)
    | '"' :: rest => (readQuoted none [] rest).map fun (quoted, rest) => (.text quoted, rest)
    | '[' :: rest =>
      match skipBlanks rest with
      | ']' :: rest => some (.list [], rest)
      | rest => (readItems fuel rest).map fun (items, rest) => (.list items, rest)
    | '\x7b' :: rest =>
      match skipBlanks rest with
      | '\x7d' :: rest => some (.record [], rest)
      | rest => (readFields fuel rest).map fun (fields, rest) => (.record fields, rest)
    | rest =>
      match rest.takeWhile inNumber with
      | [] => none
      | literal => some (ofLiteral literal, rest.dropWhile inNumber)

/-- Reads at least one item, up to the end of the list. -/
def readItems : Nat → List Char → Option (List Json × List Char)
  | 0, _ => none
  | fuel + 1, chars => do
    let (item, rest) ← readValue fuel chars
    match skipBlanks rest with
    | ',' :: rest =>
      let (items, rest) ← readItems fuel rest
      some (item :: items, rest)
    | ']' :: rest => some ([item], rest)
    | _ => none

/-- Reads at least one field, up to the end of the record. -/
def readFields : Nat → List Char → Option (List (String × Json) × List Char)
  | 0, _ => none
  | fuel + 1, chars => do
    match skipBlanks chars with
    | '"' :: rest =>
      let (key, rest) ← readQuoted none [] rest
      match skipBlanks rest with
      | ':' :: rest =>
        let (value, rest) ← readValue fuel rest
        match skipBlanks rest with
        | ',' :: rest =>
          let (fields, rest) ← readFields fuel rest
          some ((key, value) :: fields, rest)
        | '\x7d' :: rest => some ([(key, value)], rest)
        | _ => none
      | _ => none
    | _ => none

end

/-- The value that a text stands for. -/
def ofText? (text : String) : Option Json :=
  match readValue (2 * text.length + 1) text.toList with
  | some (value, rest) => if (skipBlanks rest).isEmpty then some value else none
  | none => none

/-! ### Writing -/

/-- A character inside quotes. -/
def quotedChar (c : Char) : List Char :=
  if c == '"' then ['\\', '"']
  else if c == '\\' then ['\\', '\\']
  else if c.toNat < 32 then ['\\', 'u'] ++ (Text.toHex 4 c.toNat).toList
  else [c]

/-- A text in quotes. -/
def quoted (text : String) : String :=
  String.ofList (['"'] ++ text.toList.flatMap quotedChar ++ ['"'])

mutual

/-- The text of a value. -/
def toText : Json → String
  | .null => "null"
  | .bool value => toString value
  | .whole value => toString value
  | .decimal negative digits exponent =>
    (if negative then "-" else "") ++ toString digits ++ "e" ++ toString exponent
  | .text value => quoted value
  | .list items => "[" ++ String.intercalate "," (itemTexts items) ++ "]"
  | .record fields => "\x7b" ++ String.intercalate "," (fieldTexts fields) ++ "\x7d"

/-- The texts of items. -/
def itemTexts : List Json → List String
  | [] => []
  | item :: items => toText item :: itemTexts items

/-- The texts of fields. -/
def fieldTexts : List (String × Json) → List String
  | [] => []
  | (key, value) :: fields => (quoted key ++ ":" ++ toText value) :: fieldTexts fields

end

end EngineHost.Json
