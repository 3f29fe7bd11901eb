/-
  ZWaveHost.Json.Reader — from words to a document and back.

  `Json.ofTokens?` reads the words from left to right with the list of
  containers that are still open, so a document may be nested to any depth;
  after the document nothing may follow.  `Json.tokens` writes a document's
  words.
-/
import ZWaveHost.Json.Token

namespace ZWaveHost.Json

/-! ## §1. Reading -/

/-- A container that is still open, with what it holds so far, the latest
    first; `field` is an object whose field `key` is waiting for its value. -/
inductive Opened where
  | array (items : List Json)
  | object (fields : List (Option String × Json))
  | field (fields : List (Option String × Json)) (key : Option String)

/-- What the next word may be. -/
inductive Awaiting where
  /-- The first word of a value. -/
  | value
  /-- The first word of a value, or the end of an array that was just opened. -/
  | item
  /-- A key. -/
  | key
  /-- A key, or the end of an object that was just opened. -/
  | field
  /-- The colon after a key. -/
  | colon (key : Option String)
  /-- A comma, or the end of the innermost container. -/
  | separator
  /-- Nothing: the document is complete. -/
  | nothing (document : Json)

/-- Where a reader stands between two words. -/
structure Reading where
  opened : List Opened
  awaiting : Awaiting

/-- A complete value takes its place in the innermost container. -/
def Reading.place (value : Json) : List Opened → Option Reading
  | [] => some ⟨[], .nothing value⟩
  | .array items :: outer => some ⟨.array (value :: items) :: outer, .separator⟩
  | .field fields key :: outer => some ⟨.object ((key, value) :: fields) :: outer, .separator⟩
  | .object _ :: _ => none

/-- The first word of a value. -/
def Reading.beginValue (opened : List Opened) : Token → Option Reading
  | .beginArray => some ⟨.array [] :: opened, .item⟩
  | .beginObject => some ⟨.object [] :: opened, .field⟩
  | .null => place .null opened
  | .bool b => place (.bool b) opened
  | .number n => place (.number n) opened
  | .string s => place (.string s) opened
  | _ => none

/-- The end of the innermost container. -/
def Reading.close : Token → List Opened → Option Reading
  | .endArray, .array items :: outer => place (.array items.reverse) outer
  | .endObject, .object fields :: outer => place (.object fields.reverse) outer
  | _, _ => none

/-- One word. -/
def Reading.step (r : Reading) (token : Token) : Option Reading :=
  match r.awaiting, token with
  | .value, t => beginValue r.opened t
  | .item, .endArray => close .endArray r.opened
  | .item, t => beginValue r.opened t
  | .key, .string key => some ⟨r.opened, .colon key⟩
  | .field, .string key => some ⟨r.opened, .colon key⟩
  | .field, .endObject => close .endObject r.opened
  | .colon key, .colon =>
    match r.opened with
    | .object fields :: outer => some ⟨.field fields key :: outer, .value⟩
    | _ => none
  | .separator, .comma =>
    match r.opened with
    | .array _ :: _ => some ⟨r.opened, .value⟩
    | .object _ :: _ => some ⟨r.opened, .key⟩
    | _ => none
  | .separator, t => close t r.opened
  | _, _ => none

/-- The document that a list of words spells. -/
def ofTokens? (tokens : List Token) : Option Json := do
  match ← tokens.foldlM Reading.step ⟨[], .value⟩ with
  | ⟨[], .nothing document⟩ => return document
  | _ => none

/-- The document that a text spells. -/
def parse? (s : String) : Option Json :=
  (Token.scan s.toList).bind ofTokens?

/-! ## §2. Writing -/

mutual

/-- The words of a document. -/
def tokens : Json → List Token
  | .null => [.null]
  | .bool b => [.bool b]
  | .number n => [.number n]
  | .string s => [.string s]
  | .array items => .beginArray :: tokensOfItems items ++ [.endArray]
  | .object fields => .beginObject :: tokensOfFields fields ++ [.endObject]

/-- The words between the brackets of an array. -/
def tokensOfItems : List Json → List Token
  | [] => []
  | [item] => tokens item
  | item :: items => tokens item ++ .comma :: tokensOfItems items

/-- The words between the braces of an object. -/
def tokensOfFields : List (Option String × Json) → List Token
  | [] => []
  | [(key, value)] => .string key :: .colon :: tokens value
  | (key, value) :: fields => .string key :: .colon :: tokens value ++ .comma :: tokensOfFields fields

end

/-- The shortest text of a document: its words with nothing between them. -/
def render (document : Json) : String :=
  String.ofList (document.tokens.flatMap Token.chars)

end ZWaveHost.Json
