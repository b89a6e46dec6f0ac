/-
**Readers of JSON values, and of the fields of a record.**

A reader gives none for a value that does not stand for anything of its type.

* `Json.int32?`, `Json.nat?`, `Json.list?`, `Json.named?`, `Json.bits32?`, `Json.bits64?`: readers of values;
* `Json.at?`: a field that must be there; `Json.optional?`, `Json.atD?`: a field that may be missing or null;
* `Json.update?`: a field that changes something if it is there.
-/

import EngineHost.Json.Stored
import EngineHost.Text.Hex

namespace EngineHost.Json

variable {α β : Type}

/-! ### Values -/

/-- A whole number of 32 bits with a sign. -/
def int32? : Json → Option Int32
  | .whole value =>
    if Int32.minValue.toInt ≤ value ∧ value ≤ Int32.maxValue.toInt then some (Int32.ofInt value) else none
  | _ => none

/-- A natural number. -/
def nat? : Json → Option Nat
  | .whole value => if 0 ≤ value then some value.toNat else none
  | _ => none

/-- A list. -/
def list? : Json → Option (List Json)
  | .list items => some items
  | _ => none

/-- A value that may be null. -/
def nullable? (read : Json → Option α) : Json → Option (Option α)
  | .null => some none
  | value => (read value).map some

/-- A value that goes by a name. -/
def named? (values : List (String × α)) : Json → Option α
  | .text name => (values.find? fun entry => entry.1 == name).map Prod.snd
  | _ => none

/-- The number whose bits a text spells. -/
def bits? (nan : α) (ofBits : Nat → α) : Json → Option α
  | .text "nan" => some nan
  | .text digits => (Text.ofHex? digits.toList).map ofBits
  | _ => none

/-- A number in single precision by its bits. -/
def bits32? : Json → Option Float32 :=
  bits? (Float32.ofBits 0x7fc00000) fun bits => Float32.ofBits (UInt32.ofNat bits)

/-- A number in double precision by its bits. -/
def bits64? : Json → Option Float :=
  bits? (Float.ofBits 0x7ff8000000000000) fun bits => Float.ofBits (UInt64.ofNat bits)

/-! ### Fields -/

/-- A field that must be there. -/
def at? (read : Json → Option α) (key : String) (record : Json) : Option α :=
  (record.field? key).bind read

/-- A field that may be missing or null. -/
def optional? (read : Json → Option α) (key : String) (record : Json) : Option (Option α) :=
  nullable? read ((record.field? key).getD .null)

/-- A field with a default for when it is missing or null. -/
def atD? (read : Json → Option α) (key : String) (standard : α) (record : Json) : Option α :=
  (optional? read key record).map (·.getD standard)

/-- Changes a value by a field, if the field is there. -/
def update? (read : Json → Option α) (key : String) (record : Json) (change : α → β → β) (old : β) :
    Option β :=
  match record.field? key with
  | none => some old
  | some value => (read value).map (change · old)

/-- A field that holds a list of values. -/
def listAt? (read : Json → Option α) (key : String) (record : Json) : Option (List α) := do
  (← at? list? key record).mapM read

/-! ### Writing -/

/-- A number in single precision by its bits. -/
def ofBits32 (value : Float32) : Json :=
  .text (if value.isNaN then "nan" else Text.toHex 8 value.toBits.toNat)

/-- An integer. -/
def ofInt32 (value : Int32) : Json := .whole value.toInt

/-- A natural number. -/
def ofNat (value : Nat) : Json := .whole value

/-- A value, or null. -/
def ofOption (write : α → Json) (value : Option α) : Json := (value.map write).getD .null

/-- A list of values. -/
def ofList (write : α → Json) (values : List α) : Json := .list (values.map write)

end EngineHost.Json
