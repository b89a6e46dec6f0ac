/-
**The key codes of a keyboard.**

* `Desktop.Key`: a named key, a key that types a text, or any other;
* `Desktop.Key.code`: the code the engine gets for a key, zero where there is none.
-/

namespace EngineHost.Desktop

/-- The named keys that have a code. -/
inductive SpecialKey
  | escape
  | enter
  | backspace
  | space
  | arrowUp
  | arrowDown
  | arrowLeft
  | arrowRight
deriving DecidableEq, Repr

/-- A key. -/
inductive Key
  | named (key : SpecialKey)
  | types (text : String)
  | other
deriving DecidableEq, Repr

/-- The code of a named key. -/
def SpecialKey.code : SpecialKey → Int32
  | .escape => 111
  | .enter => 66
  | .backspace => 67
  | .space => 62
  | .arrowUp => 19
  | .arrowDown => 20
  | .arrowLeft => 21
  | .arrowRight => 22

/-- The code of a character: letters of either case and digits have codes in their order. -/
def characterCode (c : Char) : Int32 :=
  let code := c.toLower.toNat
  if 'a'.toNat ≤ code ∧ code ≤ 'z'.toNat then Int32.ofNat (29 + (code - 'a'.toNat))
  else if '0'.toNat ≤ code ∧ code ≤ '9'.toNat then Int32.ofNat (7 + (code - '0'.toNat))
  else 0

/-- The code of a key; a text counts by its first character. -/
def Key.code : Key → Int32
  | .named key => key.code
  | .types text =>
    match text.toList with
    | [] => 0
    | c :: _ => characterCode c
  | .other => 0

end EngineHost.Desktop
