/-
  ZWaveHost.Command.Module — what the module says about itself and its network.
-/
import ZWaveHost.Command.Value
import ZWaveHost.Version
import ZWaveHost.Text.Utf8

namespace ZWaveHost

/-! ## §1. Start and initial data -/

/-- The module has started and takes commands. -/
structure ApiStarted where
  wakeupReason : WakeupReason
  watchdogStarted : Bool
  deviceOptionMask : UInt8
  genericDeviceType : UInt8
  specificDeviceType : UInt8
  commandClasses : List UInt8
  supportsLongRange : Bool
  deriving DecidableEq

/-- The last byte may be missing; the module then has no long range. -/
def ApiStarted.decode : Decode ApiStarted := do
  let wakeupReason := WakeupReason.ofByte (← Buffer.next)
  let watchdog ← Buffer.next
  let deviceOptionMask ← Buffer.next
  let genericDeviceType ← Buffer.next
  let specificDeviceType ← Buffer.next
  let length ← Buffer.next
  let commandClasses ← Buffer.nextBytes length.toNat
  let longRange ← Buffer.next?
  return {
    wakeupReason, deviceOptionMask, genericDeviceType, specificDeviceType, commandClasses
    watchdogStarted := watchdog = 0x01
    supportsLongRange := (longRange.getD 0) &&& 0x01 ≠ 0 }

/-- How many bytes the node list of the initial data takes. -/
def nodeBitmaskLength : UInt8 := 29

/-- The module's version, its capabilities and the nodes of its network. -/
structure InitData where
  apiVersion : UInt8
  capabilities : List InitCapability
  nodes : List UInt16
  chipType : UInt8
  chipVersion : UInt8
  deriving DecidableEq

namespace InitData

def decode : Decode InitData := do
  let apiVersion ← Buffer.next
  let capabilities := InitCapability.ofByte (← Buffer.next)
  let nodeLength ← Buffer.next
  if nodeLength ≠ nodeBitmaskLength then
    Decode.fail (.invalidValue "node list length" nodeLength)
  let nodes := idsFromBitmask 1 (← Buffer.nextBytes nodeLength.toNat)
  let chipType ← Buffer.next
  let chipVersion ← Buffer.next
  return { apiVersion, capabilities, nodes, chipType, chipVersion }

/-- Whether the module runs a controller library. -/
def isController (d : InitData) : Bool := d.capabilities.contains .controller

end InitData

/-! ## §2. Capabilities and versions -/

/-- The flags of a controller. -/
structure ControllerCapabilities where
  capabilities : List ControllerCapability
  deriving DecidableEq

/-- The flags are the payload's first byte, wherever the cursor stands. -/
def ControllerCapabilities.decode : Decode ControllerCapabilities := do
  return { capabilities := ControllerCapability.ofByte (← Buffer.peek 0) }

/-- The maker of the module and the command ids it supports. -/
structure Capabilities where
  apiVersion : Version
  manufacturerId : UInt16
  productType : UInt16
  productId : UInt16
  supportedCommands : List UInt16
  deriving DecidableEq

namespace Capabilities

def decode : Decode Capabilities := do
  let major ← Buffer.next
  let minor ← Buffer.next
  let manufacturerId ← Buffer.nextUInt16
  let productType ← Buffer.nextUInt16
  let productId ← Buffer.nextUInt16
  let supportedCommands := idsFromBitmask 1 (← Buffer.nextRest)
  return {
    apiVersion := ⟨major.toUInt32, some minor.toUInt32, none⟩
    manufacturerId, productType, productId, supportedCommands }

/-- Whether the module supports a command id. -/
def supports (c : Capabilities) (commandId : UInt8) : Bool :=
  c.supportedCommands.contains commandId.toUInt16

end Capabilities

/-- How many bytes the text of a library version takes. -/
def libraryVersionLength : Nat := 12

/-- The library that runs on the module. -/
structure LibraryVersion where
  description : String
  version : Version
  libraryType : LibraryType
  deriving DecidableEq

namespace LibraryVersion

/-- Whether a character is a control (general category Cc). -/
def isControl (c : Char) : Bool :=
  c.toNat < 0x20 || (0x7F ≤ c.toNat && c.toNat < 0xA0)

/-- A text without the control characters at its end. -/
def trimControls (text : String) : String :=
  String.ofList (text.toList.reverse.dropWhile isControl).reverse

/-- The text is padded with control characters. -/
def decode : Decode LibraryVersion := do
  let raw ← Buffer.nextBytes libraryVersionLength
  let description := trimControls (Text.decodeLossy raw)
  match Version.parse? description with
  | none => Decode.fail (.invalidVersion description)
  | some version =>
    let libraryType := LibraryType.ofByte (← Buffer.next)
    return { description, version, libraryType }

end LibraryVersion

/-! ## §3. Settings and network -/

/-- The serial timeouts that were in force before a change. -/
structure PreviousTimeouts where
  rxAckTimeout : UInt8
  rxByteTimeout : UInt8
  deriving DecidableEq

def PreviousTimeouts.decode : Decode PreviousTimeouts := do
  let rxAckTimeout ← Buffer.next
  let rxByteTimeout ← Buffer.next
  return { rxAckTimeout, rxByteTimeout }

/-- The network that the module belongs to. -/
structure NetworkIds where
  homeId : UInt32
  nodeId : UInt8
  deriving DecidableEq

def NetworkIds.decode : Decode NetworkIds := do
  let homeId ← Buffer.nextUInt32
  let nodeId ← Buffer.next
  return { homeId, nodeId }

/-- The module is back at its factory settings. -/
structure SetDefaultComplete where
  sessionId : UInt8
  deriving DecidableEq

def SetDefaultComplete.decode : Decode SetDefaultComplete := do
  return { sessionId := ← Buffer.next }

/-- The node that keeps the network's information; 0 if there is none. -/
structure SucNodeId where
  nodeId : UInt8
  deriving DecidableEq

def SucNodeId.decode : Decode SucNodeId := do
  return { nodeId := ← Buffer.next }

end ZWaveHost
