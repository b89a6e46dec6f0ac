/-
**Decimal digits.**

* `ofDigits`: the number that digits stand for;
* `number?`: the number that a text stands for: digits, at least one, behind a plus or not;
* `isDecimal`: whether a text is a decimal number without a sign.
-/

namespace EngineHost.Text

/-- The number that decimal digits stand for. -/
def ofDigits (digits : List Char) : Nat :=
  digits.foldl (fun number digit => number * 10 + (digit.toNat - '0'.toNat)) 0

/-- A text without the plus it begins with. -/
def dropPlus : List Char → List Char
  | '+' :: rest => rest
  | text => text

/-- Whether a text consists of digits, at least one. -/
def isDigits (text : List Char) : Bool := !text.isEmpty && text.all Char.isDigit

/-- The number that a text stands for. -/
def number? (text : List Char) : Option Nat :=
  if isDigits (dropPlus text) then some (ofDigits (dropPlus text)) else none

/-- Whether a text is nothing, or an exponent with its letter and perhaps a sign. -/
def isExponent : List Char → Bool
  | [] => true
  | letter :: '-' :: digits => (letter == 'e' || letter == 'E') && isDigits digits
  | letter :: digits => (letter == 'e' || letter == 'E') && isDigits (dropPlus digits)

/-- Whether a text is a decimal number without a sign: digits with or without a point among them, at least one,
and perhaps an exponent. -/
def isDecimal (text : List Char) : Bool :=
  match text.dropWhile Char.isDigit with
  | '.' :: rest =>
    !((text.takeWhile Char.isDigit).isEmpty && (rest.takeWhile Char.isDigit).isEmpty) &&
    isExponent (rest.dropWhile Char.isDigit)
  | rest => !(text.takeWhile Char.isDigit).isEmpty && isExponent rest

end EngineHost.Text
