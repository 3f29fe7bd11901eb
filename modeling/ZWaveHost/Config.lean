/-
  ZWaveHost.Config — the settings of a host.

  Every setting has a default.  Settings must allow one attempt, one queued
  command and some waiting time; of several faults the first in that order
  is reported.
-/
import ZWaveHost.Error
import ZWaveHost.Json.Form
import ZWaveHost.Link
import ZWaveHost.Port.Serial
import ZWaveHost.Text.Utf8

namespace ZWaveHost

/-- The settings of a host; times are in milliseconds. -/
structure Config where
  portName : String
  baudRate : UInt32
  /-- The time for opening the port. -/
  openTimeoutMs : UInt64
  /-- The time that each attempt has for its ACK, response and callback. -/
  timeoutMs : UInt64
  /-- How often a request is sent at most. -/
  maxRetries : UInt32
  /-- Send again when the ACK does not come in time. -/
  retryOnAckTimeout : Bool
  /-- Send again when the response or the callback does not come in time. -/
  retryOnResponseTimeout : Bool
  /-- Send again as soon as a NAK or CAN answers the request. -/
  retransmitOnNak : Bool
  /-- Send a Soft Reset after a request has failed. -/
  softResetOnFailure : Bool
  /-- How many commands may wait for the subscribers. -/
  dispatchCapacity : UInt64
  deriving DecidableEq

namespace Config

/-! ## §1. Defaults and validity -/

/-- How many commands may wait for the subscribers by default. -/
def defaultDispatchCapacity : UInt64 := 1000

/-- The time for opening the port by default. -/
def defaultOpenTimeoutMs : UInt64 := 2000

/-- The settings that hold unless something else is said. -/
def default : Config where
  portName := ""
  baudRate := defaultBaudRate
  openTimeoutMs := defaultOpenTimeoutMs
  timeoutMs := defaultTimeoutMs
  maxRetries := defaultMaxRetries
  retryOnAckTimeout := true
  retryOnResponseTimeout := false
  retransmitOnNak := false
  softResetOnFailure := true
  dispatchCapacity := defaultDispatchCapacity

instance : Inhabited Config := ⟨default⟩

/-- The default settings for a port. -/
def forPort (portName : String) : Config := { default with portName := portName }

/-- Settings that a host can work with. -/
structure Valid (c : Config) : Prop where
  maxRetries_ne : c.maxRetries ≠ 0
  dispatchCapacity_ne : c.dispatchCapacity ≠ 0
  timeoutMs_ne : c.timeoutMs ≠ 0

/-- Refuses settings that a host cannot work with. -/
def validate (c : Config) : Except ConfigFault Unit :=
  if c.maxRetries = 0 then .error .noAttempts
  else if c.dispatchCapacity = 0 then .error .noDispatchCapacity
  else if c.timeoutMs = 0 then .error .noTimeout
  else .ok ()

theorem validate_eq_ok_iff (c : Config) : c.validate = .ok () ↔ c.Valid := by
  unfold validate
  constructor
  · intro h
    split at h
    · cases h
    split at h
    · cases h
    split at h
    · cases h
    exact ⟨‹_›, ‹_›, ‹_›⟩
  · rintro ⟨h1, h2, h3⟩
    simp [h1, h2, h3]

theorem valid_of_validate {c : Config} (h : c.validate = .ok ()) : c.Valid :=
  (validate_eq_ok_iff c).mp h

instance (c : Config) : Decidable c.Valid :=
  match h : c.validate with
  | .ok () => .isTrue (valid_of_validate h)
  | .error _ => .isFalse fun hv => by simp [(validate_eq_ok_iff c).mpr hv] at h

/-- The time that each attempt has. -/
def timeout (c : Config) : Nat := c.timeoutMs.toNat

/-- The time for opening the port. -/
def openTimeout (c : Config) : Nat := c.openTimeoutMs.toNat

/-! ## §2. JSON form -/

/-- The names of the settings, in their order. -/
def fieldNames : List String :=
  ["port_name", "baud_rate", "open_timeout_ms", "timeout_ms", "max_retries",
   "retry_on_ack_timeout", "retry_on_response_timeout", "retransmit_on_nak",
   "soft_reset_on_failure", "dispatch_capacity"]

/-- The settings by name. -/
def fields (c : Config) : Json.Fields :=
  [("port_name", toJson c.portName), ("baud_rate", toJson c.baudRate),
   ("open_timeout_ms", toJson c.openTimeoutMs), ("timeout_ms", toJson c.timeoutMs),
   ("max_retries", toJson c.maxRetries),
   ("retry_on_ack_timeout", toJson c.retryOnAckTimeout),
   ("retry_on_response_timeout", toJson c.retryOnResponseTimeout),
   ("retransmit_on_nak", toJson c.retransmitOnNak),
   ("soft_reset_on_failure", toJson c.softResetOnFailure),
   ("dispatch_capacity", toJson c.dispatchCapacity)]

/-- Settings that are not given take their defaults. -/
instance : JsonForm Config where
  toJson c := .record c.fields
  ofJson? j := do
    let f ← Json.leadingFields? fieldNames j
    return {
      portName := ← f.withDefault? "port_name" default.portName
      baudRate := ← f.withDefault? "baud_rate" default.baudRate
      openTimeoutMs := ← f.withDefault? "open_timeout_ms" default.openTimeoutMs
      timeoutMs := ← f.withDefault? "timeout_ms" default.timeoutMs
      maxRetries := ← f.withDefault? "max_retries" default.maxRetries
      retryOnAckTimeout := ← f.withDefault? "retry_on_ack_timeout" default.retryOnAckTimeout
      retryOnResponseTimeout :=
        ← f.withDefault? "retry_on_response_timeout" default.retryOnResponseTimeout
      retransmitOnNak := ← f.withDefault? "retransmit_on_nak" default.retransmitOnNak
      softResetOnFailure := ← f.withDefault? "soft_reset_on_failure" default.softResetOnFailure
      dispatchCapacity := ← f.withDefault? "dispatch_capacity" default.dispatchCapacity }

/-- Refuses settings that a host cannot work with, in the host's words. -/
def check (c : Config) : Except HostError Unit :=
  match c.validate with
  | .ok () => .ok ()
  | .error fault => .error (.config fault.message)

/-- The settings in a JSON text. -/
def parse (text : String) : Except HostError Config :=
  match (Json.parse? text).bind ofJson? with
  | none => .error .json
  | some (c : Config) => do
    c.check
    return c

/-- The settings in a file, given what the file holds, if it exists. -/
def parseFile : Option (List UInt8) → Except HostError Config
  | none => .error (.file .notFound)
  | some bytes =>
    match Text.decode? bytes with
    | none => .error (.file .notText)
    | some text => parse text

end Config

end ZWaveHost
