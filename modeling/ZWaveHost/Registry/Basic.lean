/-
  ZWaveHost.Registry.Basic — which commands exist and how they are read.

  An entry gives a command id its flow and the codecs of its frames.  A
  registry is a list of entries that has passed `Registry.ofEntries`: codecs
  are there exactly where the flow needs them, what comes in can be decoded,
  and no id occurs twice.
-/
import ZWaveHost.Command
import ZWaveHost.Flow
import ZWaveHost.Frame

namespace ZWaveHost

/-! ## §1. Codecs and entries -/

/-- The codec of one frame of a command; without a kind it only encodes. -/
structure Codec where
  name : String
  decodes : Option CommandKind
  deriving DecidableEq

namespace Codec

/-- A codec for requests of the host. -/
def encodeOnly (name : String) : Codec := ⟨name, none⟩

/-- A codec that reads commands of a kind, named after it. -/
def decodable (kind : CommandKind) : Codec := ⟨kind.name, some kind⟩

/-- Whether the codec can read. -/
def isDecodable (c : Codec) : Bool := c.decodes.isSome

/-- The command in a payload and the unread rest; none if the codec cannot read. -/
def decode? (c : Codec) (payload : Buffer) : Option (Except CodecError Command × Buffer) :=
  c.decodes.map fun kind => (Command.decode kind).run payload

/-- A codec as a diagnostic text. -/
def describe (c : Codec) : String :=
  "Codec \x7b name: " ++ Text.quoted c.name ++ ", decodable: " ++ toString c.isDecodable
    ++ " \x7d"

end Codec

/-- One command id. -/
structure Entry where
  id : UInt8
  flow : Flow
  request : Codec
  response : Option Codec
  callback : Option Codec
  deriving DecidableEq

/-- The codec for a frame of a kind that comes in: a response has the
    response codec; a request is unsolicited or a callback. -/
def Entry.codecFor? (e : Entry) : FrameKind → Option Codec
  | .response => e.response
  | .request => if e.flow = .unsolicited then some e.request else e.callback

/-! ## §2. What may be wrong with an entry -/

/-- Why a list of entries is no registry. -/
inductive RegistryError where
  | missingResponseCodec (id : UInt8) (flow : Flow)
  | unexpectedResponseCodec (id : UInt8) (flow : Flow)
  | missingCallbackCodec (id : UInt8) (flow : Flow)
  | unexpectedCallbackCodec (id : UInt8) (flow : Flow)
  | notDecodable (id : UInt8) (codec : String)
  | duplicateCommandId (id : UInt8)
  deriving DecidableEq

/-- The wording of a registry error. -/
def RegistryError.message : RegistryError → String
  | .missingResponseCodec id flow =>
    "Command " ++ Text.hexByte id ++ ": a response codec is required for flow " ++ flow.name
  | .unexpectedResponseCodec id flow =>
    "Command " ++ Text.hexByte id ++ ": no response is expected for flow " ++ flow.name
  | .missingCallbackCodec id flow =>
    "Command " ++ Text.hexByte id ++ ": a callback codec is required for flow " ++ flow.name
  | .unexpectedCallbackCodec id flow =>
    "Command " ++ Text.hexByte id ++ ": no callback is expected for flow " ++ flow.name
  | .notDecodable id codec =>
    "Command " ++ Text.hexByte id ++ ": codec " ++ codec ++ " must be decodable from a buffer"
  | .duplicateCommandId id => "Command " ++ Text.hexByte id ++ " is registered more than once"

namespace Entry

/-- The codecs that read what comes in: response, callback, and the request
    of an unsolicited command. -/
def inboundCodecs (e : Entry) : List Codec :=
  e.response.toList ++ e.callback.toList ++ (if e.flow = .unsolicited then [e.request] else [])

/-- Whether the response codec is where the flow needs one. -/
def checkResponse (e : Entry) : Except RegistryError Unit :=
  match e.flow.hasResponse, e.response with
  | true, none => .error (.missingResponseCodec e.id e.flow)
  | false, some _ => .error (.unexpectedResponseCodec e.id e.flow)
  | _, _ => .ok ()

/-- Whether the callback codec is where the flow needs one. -/
def checkCallback (e : Entry) : Except RegistryError Unit :=
  match e.flow.hasCallback, e.callback with
  | true, none => .error (.missingCallbackCodec e.id e.flow)
  | false, some _ => .error (.unexpectedCallbackCodec e.id e.flow)
  | _, _ => .ok ()

/-- Whether everything that comes in can be read. -/
def checkDecodable (e : Entry) : Except RegistryError Unit :=
  match e.inboundCodecs.find? (!·.isDecodable) with
  | some codec => .error (.notDecodable e.id codec.name)
  | none => .ok ()

/-- Refuses an entry that cannot be routed. -/
def validate (e : Entry) : Except RegistryError Unit := do
  e.checkResponse
  e.checkCallback
  e.checkDecodable

end Entry

/-! ## §3. Registries -/

/-- The commands that can be sent and read. -/
structure Registry where
  entries : List Entry

namespace Registry

/-- The entry of a command id. -/
def find? (r : Registry) (id : UInt8) : Option Entry := r.entries.find? (·.id == id)

/-- A registry with one more entry: the entry's own faults come first. -/
def insert (r : Registry) (e : Entry) : Except RegistryError Registry := do
  e.validate
  if (r.find? e.id).isSome then throw (.duplicateCommandId e.id)
  return ⟨r.entries ++ [e]⟩

/-- The registry of a list of entries. -/
def ofEntries (entries : List Entry) : Except RegistryError Registry :=
  entries.foldlM insert ⟨[]⟩

/-- How many commands are registered. -/
def size (r : Registry) : Nat := r.entries.length

/-- The registered ids in ascending order. -/
def ids (r : Registry) : List UInt8 :=
  (r.entries.map Entry.id).mergeSort (· ≤ ·)

end Registry

end ZWaveHost
