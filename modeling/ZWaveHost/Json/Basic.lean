/-
  ZWaveHost.Json.Basic — JSON documents.

  A document is kept as it was read: object fields in their order, with
  repetitions, and numbers as integers where the text is an integer.  A text
  whose escapes name half of a surrogate pair has no characters; it is kept
  as `none`, may be skipped over, and cannot be read as a text.
-/

namespace ZWaveHost

/-- A number: an integer, or the literal of anything else (a fraction, an
    exponent, or the negative zero). -/
inductive Json.Number where
  | integer (value : Int)
  | literal (text : List Char)
  deriving DecidableEq, Inhabited

/-- A JSON document. -/
inductive Json where
  | null
  | bool (value : Bool)
  | number (value : Json.Number)
  | string (text : Option String)
  | array (items : List Json)
  | object (fields : List (Option String × Json))
  deriving Inhabited

namespace Json

/-- A document that is a text. -/
def text (s : String) : Json := .string (some s)

/-- A document that is an integer. -/
def int (i : Int) : Json := .number (.integer i)

/-- A document that is a natural number. -/
def nat (n : Nat) : Json := .int n

/-- An object with the given fields, in their order. -/
def record (fields : List (String × Json)) : Json :=
  .object (fields.map fun f => (some f.1, f.2))

/-- An enumeration's value that carries data: an object with one field. -/
def tagged (name : String) (value : Json) : Json :=
  .record [(name, value)]

end Json

end ZWaveHost
