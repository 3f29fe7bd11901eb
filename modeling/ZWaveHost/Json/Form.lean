/-
  ZWaveHost.Json.Form — the JSON form of a value.

  `JsonForm` pairs a writer with a strict reader: an integer must be written
  as one and lie in range, a record must hold each of its fields once, and
  what is not known is skipped.
-/
import ZWaveHost.Json.Reader

namespace ZWaveHost

/-- A type whose values are written to and read from JSON. -/
class JsonForm (α : Type) where
  toJson : α → Json
  ofJson? : Json → Option α

export JsonForm (toJson ofJson?)

/-! ## §1. Numbers, texts and lists -/

namespace Json

/-- The integer that a document is. -/
def int? : Json → Option Int
  | .number (.integer i) => some i
  | _ => none

/-- The natural number below `bound` that a document is. -/
def natBelow? (bound : Nat) (j : Json) : Option Nat := do
  let i ← j.int?
  if 0 ≤ i ∧ i < bound then some i.toNat else none

/-- The items that a document is a list of. -/
def items? : Json → Option (List Json)
  | .array items => some items
  | _ => none

/-- The text that a document is. -/
def text? : Json → Option String
  | .string s => s
  | _ => none

end Json

instance : JsonForm Bool where
  toJson := .bool
  ofJson?
    | .bool b => some b
    | _ => none

instance : JsonForm String where
  toJson := .text
  ofJson? := Json.text?

instance : JsonForm UInt8 where
  toJson n := .nat n.toNat
  ofJson? j := (j.natBelow? UInt8.size).map UInt8.ofNat

instance : JsonForm UInt16 where
  toJson n := .nat n.toNat
  ofJson? j := (j.natBelow? UInt16.size).map UInt16.ofNat

instance : JsonForm UInt32 where
  toJson n := .nat n.toNat
  ofJson? j := (j.natBelow? UInt32.size).map UInt32.ofNat

instance : JsonForm UInt64 where
  toJson n := .nat n.toNat
  ofJson? j := (j.natBelow? UInt64.size).map UInt64.ofNat

instance : JsonForm Int8 where
  toJson n := .int n.toInt
  ofJson? j := do
    let i ← j.int?
    if -128 ≤ i ∧ i ≤ 127 then some (Int8.ofInt i) else none

instance {α : Type} [JsonForm α] : JsonForm (List α) where
  toJson xs := .array (xs.map toJson)
  ofJson? j := j.items?.bind (·.mapM ofJson?)

/-- An absent value is written as null. -/
instance {α : Type} [JsonForm α] : JsonForm (Option α) where
  toJson
    | none => .null
    | some x => toJson x
  ofJson?
    | .null => some none
    | j => (ofJson? j).map some

/-! ## §2. Enumerations -/

namespace Json

/-- A value without data is written as its name, and may also be read from
    an object that gives the name the value null. -/
def ofName? {α : Type} (all : List α) (name : α → String) : Json → Option α
  | .string (some s) => all.find? (name · == s)
  | .object [(some s, .null)] => all.find? (name · == s)
  | _ => none

/-! ## §3. Records -/

/-- The fields of a record that are given, each with its value. -/
abbrev Fields := List (String × Json)

/-- The fields among `names` that an object gives.  Other fields are
    skipped; a field given twice, or a key that has no characters, is refused. -/
def namedFields? (names : List String) : List (Option String × Json) → Option Fields
  | [] => some []
  | (none, _) :: _ => none
  | (some key, value) :: rest => do
    let known ← namedFields? names rest
    if key ∉ names then return known
    else if (known.lookup key).isSome then none
    else return (key, value) :: known

/-- The fields that a record gives: an object, or an array of the values of
    all fields in their order. -/
def fields? (names : List String) : Json → Option Fields
  | .object fields => namedFields? names fields
  | .array items => if items.length = names.length then some (names.zip items) else none
  | _ => none

/-- As `fields?`, but an array may stop early. -/
def leadingFields? (names : List String) : Json → Option Fields
  | .object fields => namedFields? names fields
  | .array items => if items.length ≤ names.length then some (names.zip items) else none
  | _ => none

/-- A field that must be given. -/
def Fields.required? {α : Type} [JsonForm α] (fields : Fields) (name : String) : Option α :=
  (fields.lookup name).bind ofJson?

/-- A field that stands for an absent value when it is not given. -/
def Fields.optional? {α : Type} [JsonForm α] (fields : Fields) (name : String) :
    Option (Option α) :=
  match fields.lookup name with
  | none => some none
  | some j => ofJson? j

/-- A field that has a default when it is not given. -/
def Fields.withDefault? {α : Type} [JsonForm α] (fields : Fields) (name : String)
    (default : α) : Option α :=
  match fields.lookup name with
  | none => some default
  | some j => ofJson? j

end Json

end ZWaveHost
